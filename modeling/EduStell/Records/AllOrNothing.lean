/-
  Services that write in several calls, when calls fail.

  `Call.Unbroken` says that nothing fails once a call has written its row.  Where it does not hold,
  the call is answered with an error, and the row stays, without its audit row or its session; where
  it holds throughout a run, every call is all or nothing, and every row that is written is in the
  audit log (`all_or_nothing_iff`).

  The plan: what is written is new, so an error with a write can be told from one without; a call
  breaks off exactly if it fails after its row is written (`Call.unbroken_iff`); one that does not
  break off writes nothing or everything (`Call.written`); and what is written with its event
  keeps the tables accounted for (`Written.accounted`).
-/
import EduStell.Records.Registration
import EduStell.Scenario
import EduStell.Txn.Steps

namespace EduStell.Records

open Txn Program Steps

/-! ## One row for each call

  `…Ready row` determines the row; so a call has at most one row that it can leave behind. -/

section

variable {newId : Uuid} {w : World}

/-- A call has one row that it is ready to write. -/
theorem PlanReady.unique {actor : AuthenticatedUser} {input : CreatePlanInput}
    {faults : Nat → Option SavingsError} {x y : SavingsPlanRow}
    (hx : PlanReady newId actor input faults w x) (hy : PlanReady newId actor input faults w y) :
    x = y := by
  obtain ⟨m, hm, rfl⟩ := hx.money
  obtain ⟨m', hm', rfl⟩ := hy.money
  rw [Except.ok.inj (hm.symm.trans hm')]

/-- The row that is written is new. -/
theorem PlanReady.fresh {actor : AuthenticatedUser} {input : CreatePlanInput}
    {faults : Nat → Option SavingsError} {x : SavingsPlanRow}
    (hx : PlanReady newId actor input faults w x) : w.2.plans.find x.id = none := by
  obtain ⟨m, -, rfl⟩ := hx.money
  exact hx.free

/-- So it is with milestones. -/
theorem MilestoneReady.unique {actor : AuthenticatedUser} {input : CreateMilestoneInput}
    {faults : Nat → Option SavingsError} {x y : MilestoneRecord}
    (hx : MilestoneReady newId actor input faults w x)
    (hy : MilestoneReady newId actor input faults w y) : x = y := by
  obtain ⟨m, hm, rfl⟩ := hx.money
  obtain ⟨m', hm', rfl⟩ := hy.money
  rw [Except.ok.inj (hm.symm.trans hm')]

/-- The milestone that is written is new. -/
theorem MilestoneReady.fresh {actor : AuthenticatedUser} {input : CreateMilestoneInput}
    {faults : Nat → Option SavingsError} {x : MilestoneRecord}
    (hx : MilestoneReady newId actor input faults w x) : w.2.milestones.find x.id = none := by
  obtain ⟨m, -, rfl⟩ := hx.money
  exact hx.free

/-- The contributor that is written is new. -/
theorem ContributorReady.fresh {actor : AuthenticatedUser} {input : AddContributorInput}
    {faults : Nat → Option SavingsError} {x : VaultContributorRow}
    (hx : ContributorReady newId actor input faults w x) :
    w.2.vaultContributors.find x.id = none := by
  rw [hx.row]
  exact hx.free

/-- A registration has one user whom it is ready to write. -/
theorem RegisterReady.unique {env : Auth.Env} {userDraw : Auth.UserDraw} {input : Auth.RegisterInput}
    {faults : Nat → Option Auth.AuthError} {x y : NewUser}
    (hx : RegisterReady env userDraw input faults w x)
    (hy : RegisterReady env userDraw input faults w y) : x = y := by
  obtain ⟨hash, hhash, rfl⟩ := hx.hashed
  obtain ⟨hash', hhash', rfl⟩ := hy.hashed
  rw [Except.ok.inj (hhash.symm.trans hhash')]

end

/-! ## What is written is new

  A call that changes nothing has to be told from one that has written, so what is written has to
  be new. -/

/-- The profile that a review makes of the one that exists. -/
def KycProfileRow.over (row : KycProfileRow) : Option KycProfileRow → KycProfileRow
  | some x => x.review row
  | none => row

/-- Whether it is inserted or reviewed, the profile has the new status. -/
theorem KycProfileRow.status_over (row : KycProfileRow) (existing : Option KycProfileRow) :
    (row.over existing).status = row.status := by
  cases existing <;> rfl

namespace World

variable {w : World}

/-- A write to a profile changes that of its own user only. -/
theorem find_putProfile (w : World) (row : KycProfileRow) (userId : Uuid) :
    (w.putProfile row).2.kycProfiles.find userId =
      if userId = row.userId then some (row.over (w.2.kycProfiles.find row.userId))
      else w.2.kycProfiles.find userId := by
  rw [putProfile]
  cases hfind : w.2.kycProfiles.find row.userId with
  | none =>
    show (w.2.kycProfiles.insert row).find userId = _
    by_cases hu : userId = row.userId
    · subst hu
      rw [if_pos rfl, Table.find_insert, hfind]
      exact if_pos rfl
    · rw [if_neg hu, Table.find_insert_ne _ _ hu]
  | some x =>
    have hmodify := Table.find_modify w.2.kycProfiles row.userId userId (fun x => x.review row)
      fun _ hk => by exact hk
    refine hmodify.trans ?_
    by_cases hu : userId = row.userId
    · rw [if_pos hu, if_pos hu, hu, hfind]
      rfl
    · rw [if_neg hu, if_neg hu]

/-- The user of the profile has the new status. -/
theorem previousStatus_putProfile (w : World) (row : KycProfileRow) :
    previousStatus (w.putProfile row) row.userId = some row.status := by
  rw [previousStatus, find_putProfile, if_pos rfl]
  exact congrArg some (row.status_over _)

/-- A new status changes the database. -/
theorem putProfile_ne {row : KycProfileRow} (h : previousStatus w row.userId ≠ some row.status) :
    w.putProfile row ≠ w :=
  fun hsame => h (hsame ▸ previousStatus_putProfile w row)

end World

/-! ## A call is all or nothing where nothing fails after its row is written

  A call breaks off if it gets as far as writing its row and fails from there.  Where it does not,
  an error is answered from the state that was found. -/

/-- Where the call gets as far as writing its row, it does not fail from there. -/
def Call.Unbroken : Call → World → Prop
  | .createPlan newId actor input faults, w =>
    ∀ row, PlanReady newId actor input faults w row → PlanGoesOn faults row
  | .createMilestone newId actor input faults, w =>
    ∀ row, MilestoneReady newId actor input faults w row → MilestoneGoesOn faults row
  | .addContributor newId actor input faults, w =>
    ∀ row, ContributorReady newId actor input faults w row → faults 2 = none
  | .updateKycStatus newId now actor input faults, w =>
    ∀ row, KycReady newId now actor input faults w row → KycGoesOn faults w row
  | .register env now userDraw draw input faults, w =>
    ∀ newUser, RegisterReady env userDraw input faults w newUser →
      RegisterGoesOn env now userDraw draw faults w newUser
  | .elsewhere .., _ => True

/-- A call breaks off exactly if it fails and yet has written something. -/
theorem Call.unbroken_iff (q : Call) (w : World) :
    q.Unbroken w ↔ ((q.serve w).1 = false → (q.serve w).2 = w) := by
  cases q with
  | createPlan newId actor input faults =>
    refine (createPlan_ended newId actor input faults w).serve.unbroken_iff
      (fun _ _ => PlanReady.unique) ?_
    rintro row w' hready - rfl hsame
    exact Table.insert_ne hready.fresh (congrArg (fun w => w.2.plans) hsame)
  | createMilestone newId actor input faults =>
    refine (createMilestone_ended newId actor input faults w).serve.unbroken_iff
      (fun _ _ => MilestoneReady.unique) ?_
    rintro row w' hready - rfl hsame
    exact Table.insert_ne hready.fresh (congrArg (fun w => w.2.milestones) hsame)
  | addContributor newId actor input faults =>
    refine (addContributor_ended newId actor input faults w).serve.unbroken_iff
      (fun _ _ hx hy => hx.row.trans hy.row.symm) ?_
    rintro row w' hready - rfl hsame
    exact Table.insert_ne hready.fresh (congrArg (fun w => w.2.vaultContributors) hsame)
  | updateKycStatus newId now actor input faults =>
    refine (updateKycStatus_ended newId now actor input faults w).serve.unbroken_iff
      (fun _ _ hx hy => hx.row.trans hy.row.symm) ?_
    -- it breaks off only where it changes the status, so the profile is another one
    rintro row w' - hbroken rfl
    exact World.putProfile_ne fun hsame => hbroken fun hchanged => absurd hsame hchanged
  | register env now userDraw draw input faults =>
    refine (register_ended env now userDraw draw input faults w).serve.unbroken_iff
      (fun _ _ => RegisterReady.unique) ?_
    rintro newUser w' hready - (rfl | rfl) hsame
    · exact Table.insert_ne hready.free (congrArg (fun w => w.1.users) hsame)
    · exact Table.insert_ne hready.free (congrArg (fun w => w.1.users) hsame)
  | elsewhere childProfiles vaults refreshTokens events =>
    exact ⟨fun _ herr => (by cases herr), fun _ => trivial⟩

/-! ## What is audited

  The tables only grow, but for the profiles, whose rows are rewritten; so for them it is the
  CHANGE of a status that has an audit row. -/

/-- The audit log holds the event, of some actor. -/
def World.Logs (w : World) (event : Uuid → AuditLog) : Prop :=
  ∃ actorUserId, sanitizeAuditLog (event actorUserId) ∈ w.1.audit

/-- Every row has its audit row. -/
structure Accounted (w : World) : Prop where
  plans : ∀ x ∈ w.2.plans.rows, w.Logs fun actor => AuditEvent.planCreated actor x.toSavingsPlan
  milestones : ∀ x ∈ w.2.milestones.rows,
    w.Logs fun actor => AuditEvent.milestoneCreated actor x.toMilestoneRow
  vaultContributors : ∀ x ∈ w.2.vaultContributors.rows,
    w.Logs fun actor => AuditEvent.contributorAdded actor x
  kycProfiles : ∀ userId x, w.2.kycProfiles.find userId = some x → ∃ previous,
    w.Logs fun actor => AuditEvent.kycStatusChanged (some actor) x.toKycProfile previous
  users : ∀ x ∈ w.1.users.rows, w.Logs fun _ => userRegistered x.id x.role x.email

/-- A change of the status of a profile adds its event, and nothing else, to the log. -/
def KycChangesAudited (w w' : World) : Prop :=
  ∀ userId x, w'.2.kycProfiles.find userId = some x → previousStatus w userId ≠ some x.status →
    ∃ actorUserId, w'.1.audit = w.1.audit ++ [sanitizeAuditLog
      (AuditEvent.kycStatusChanged (some actorUserId) x.toKycProfile (previousStatus w userId))]

/-- What a call makes of the world when it does not break off. -/
inductive Written (w : World) : World → Prop
  | nothing : Written w w
  | plan {row : SavingsPlanRow} (actor : Uuid) (fresh : w.2.plans.find row.id = none) :
    Written w ((w.addPlan row).addAudit (AuditEvent.planCreated actor row.toSavingsPlan))
  | milestone {row : MilestoneRecord} (actor : Uuid) (fresh : w.2.milestones.find row.id = none) :
    Written w ((w.addMilestone row).addAudit (AuditEvent.milestoneCreated actor row.toMilestoneRow))
  | contributor {row : VaultContributorRow} (actor : Uuid)
    (fresh : w.2.vaultContributors.find row.id = none) :
    Written w ((w.addContributor row).addAudit (AuditEvent.contributorAdded actor row))
  /-- A status that has changed is audited, -/
  | profile {row : KycProfileRow} (actor : Uuid)
    (id : ∀ x, w.2.kycProfiles.find row.userId = some x → row.id = x.id)
    (changed : previousStatus w row.userId ≠ some row.status) :
    Written w ((w.putProfile row).addAudit (AuditEvent.kycStatusChanged (some actor)
      row.toKycProfile (previousStatus w row.userId)))
  /-- and one that has not is not. -/
  | review {row : KycProfileRow} (same : previousStatus w row.userId = some row.status) :
    Written w (w.putProfile row)
  /-- A user comes with his event and with a session. -/
  | user {newId : Uuid} {newUser : NewUser} (session : RefreshSession)
    (fresh : w.1.users.find newId = none) :
    Written w (((w.addUser (newUserRow newId newUser)).addAudit (userEvent newId newUser)).addSession
      session)
  /-- What other services do does not touch the tables in question. -/
  | elsewhere (childProfiles : Table ChildProfile) (vaults : Table SavingsVault)
    (refreshTokens : Table RefreshSession) (events : List AuditLog) :
    Written w (({ w.1 with refreshTokens := refreshTokens, audit := w.1.audit ++ events },
      { w.2 with childProfiles := childProfiles, vaults := vaults }) : World)

/-- A call that does not break off writes nothing, or everything. -/
theorem Call.written {q : Call} {w : World} (h : q.Unbroken w) : Written w (q.next w) := by
  -- unbroken, each service ends with nothing written or with its row and the audit row
  cases q with
  | createPlan newId actor input faults =>
    refine (createPlan_ended newId actor input faults w).serve.unbroken h .nothing ?_
    rintro row w' hready rfl
    exact .plan actor.userId hready.fresh
  | createMilestone newId actor input faults =>
    refine (createMilestone_ended newId actor input faults w).serve.unbroken h .nothing ?_
    rintro row w' hready rfl
    exact .milestone actor.userId hready.fresh
  | addContributor newId actor input faults =>
    refine (addContributor_ended newId actor input faults w).serve.unbroken h .nothing ?_
    rintro row w' hready rfl
    exact .contributor actor.userId hready.fresh
  | updateKycStatus newId now actor input faults =>
    refine (updateKycStatus_ended newId now actor input faults w).serve.unbroken h .nothing ?_
    rintro row w' hready rfl
    split
    · rename_i hchanged
      refine .profile actor.userId (fun x hx => ?_) hchanged
      rw [hready.row] at hx ⊢
      exact kycRow_id newId now input hx
    · rename_i hsame
      exact .review (not_not.mp hsame)
  -- here the session is stored as well
  | register env now userDraw draw input faults =>
    refine (register_ended env now userDraw draw input faults w).serve.unbroken h .nothing ?_
    rintro newUser w' hready ⟨session, rfl⟩
    exact .user session hready.free
  | elsewhere childProfiles vaults refreshTokens events =>
    exact .elsewhere childProfiles vaults refreshTokens events

/-- The log keeps its events. -/
theorem World.Logs.mono {w w' : World} {event : Uuid → AuditLog} (h : w.Logs event)
    (haudit : w.1.audit ⊆ w'.1.audit) : w'.Logs event := by
  obtain ⟨actorUserId, hlogged⟩ := h
  exact ⟨actorUserId, haudit hlogged⟩

/-- An event that is appended is in the log. -/
theorem World.logs_addAudit (w : World) (event : Uuid → AuditLog) (actorUserId : Uuid) :
    (w.addAudit (event actorUserId)).Logs event :=
  ⟨actorUserId, List.mem_append_right _ (List.mem_singleton.mpr rfl)⟩

/-- The log has grown, and so have the tables, by rows that it accounts for. -/
theorem Accounted.grow {w w' : World} (h : Accounted w) (haudit : w.1.audit ⊆ w'.1.audit)
    (plans : ∀ x ∈ w'.2.plans.rows, x ∈ w.2.plans.rows ∨
      w'.Logs fun actor => AuditEvent.planCreated actor x.toSavingsPlan)
    (milestones : ∀ x ∈ w'.2.milestones.rows, x ∈ w.2.milestones.rows ∨
      w'.Logs fun actor => AuditEvent.milestoneCreated actor x.toMilestoneRow)
    (vaultContributors : ∀ x ∈ w'.2.vaultContributors.rows, x ∈ w.2.vaultContributors.rows ∨
      w'.Logs fun actor => AuditEvent.contributorAdded actor x)
    (kycProfiles : ∀ userId x, w'.2.kycProfiles.find userId = some x →
      w.2.kycProfiles.find userId = some x ∨ ∃ previous,
        w'.Logs fun actor => AuditEvent.kycStatusChanged (some actor) x.toKycProfile previous)
    (users : ∀ x ∈ w'.1.users.rows, x ∈ w.1.users.rows ∨
      w'.Logs fun _ => userRegistered x.id x.role x.email) : Accounted w' where
  -- an old row is logged in the longer trail too
  plans x hx := (plans x hx).elim (fun hold => (h.plans x hold).mono haudit) id
  milestones x hx := (milestones x hx).elim (fun hold => (h.milestones x hold).mono haudit) id
  vaultContributors x hx :=
    (vaultContributors x hx).elim (fun hold => (h.vaultContributors x hold).mono haudit) id
  kycProfiles userId x hx := by
    rcases kycProfiles userId x hx with hold | hnew
    · obtain ⟨previous, hlogged⟩ := h.kycProfiles userId x hold
      exact ⟨previous, hlogged.mono haudit⟩
    · exact hnew
  users x hx := (users x hx).elim (fun hold => (h.users x hold).mono haudit) id

/-- Only the profile of the user is another one. -/
theorem World.find_putProfile_cases {w : World} {row x : KycProfileRow} {userId : Uuid}
    (h : (w.putProfile row).2.kycProfiles.find userId = some x) :
    w.2.kycProfiles.find userId = some x ∨
      userId = row.userId ∧ x = row.over (w.2.kycProfiles.find row.userId) := by
  rw [find_putProfile] at h
  by_cases hu : userId = row.userId
  · rw [if_pos hu] at h
    exact .inr ⟨hu, (Option.some.inj h).symm⟩
  · rw [if_neg hu] at h
    exact .inl h

/-- The event of a profile is that of the row that was bound. -/
theorem kycStatusChanged_over {w : World} {row : KycProfileRow}
    (hid : ∀ x, w.2.kycProfiles.find row.userId = some x → row.id = x.id)
    (actorUserId : Option Uuid) :
    AuditEvent.kycStatusChanged actorUserId
        (row.over (w.2.kycProfiles.find row.userId)).toKycProfile =
      AuditEvent.kycStatusChanged actorUserId row.toKycProfile := by
  cases hfind : w.2.kycProfiles.find row.userId with
  | none => rfl
  | some x =>
    have huser : x.userId = row.userId := (Table.find_some hfind).2
    exact kycStatusChanged_congr (x := (x.review row).toKycProfile) (hid x hfind).symm huser rfl _

/-- Rows that come with their events are accounted for. -/
theorem Written.accounted {w w' : World} (h : Written w w') (hw : Accounted w) : Accounted w' := by
  -- the trail grows by one row, in its sanitized form
  have hgrown (log : AuditLog) : w.1.audit ⊆ w.1.audit ++ [sanitizeAuditLog log] :=
    List.subset_append_left _ _
  cases h with
  | nothing => exact hw
  | plan actor fresh =>
    refine hw.grow (hgrown _) (fun x hx => ?_) (fun _ => .inl) (fun _ => .inl) (fun _ _ => .inl)
      fun _ => .inl
    rcases (Table.mem_insert fresh).mp hx with hold | rfl
    · exact .inl hold
    · exact .inr (World.logs_addAudit _ _ actor)
  | milestone actor fresh =>
    refine hw.grow (hgrown _) (fun _ => .inl) (fun x hx => ?_) (fun _ => .inl) (fun _ _ => .inl)
      fun _ => .inl
    rcases (Table.mem_insert fresh).mp hx with hold | rfl
    · exact .inl hold
    · exact .inr (World.logs_addAudit _ _ actor)
  | contributor actor fresh =>
    refine hw.grow (hgrown _) (fun _ => .inl) (fun _ => .inl) (fun x hx => ?_) (fun _ _ => .inl)
      fun _ => .inl
    rcases (Table.mem_insert fresh).mp hx with hold | rfl
    · exact .inl hold
    · exact .inr (World.logs_addAudit _ _ actor)
  | @profile row actor id changed =>
    refine hw.grow (hgrown _) (fun _ => .inl) (fun _ => .inl) (fun _ => .inl) (fun userId x hx => ?_)
      fun _ => .inl
    rcases World.find_putProfile_cases hx with hold | ⟨-, rfl⟩
    · exact .inl hold
    · simp only [kycStatusChanged_over id]
      exact .inr ⟨previousStatus w row.userId, World.logs_addAudit _ _ actor⟩
  | @review row same =>
    refine hw.grow (fun _ => id) (fun _ => .inl) (fun _ => .inl) (fun _ => .inl)
      (fun userId x hx => ?_) fun _ => .inl
    rcases World.find_putProfile_cases hx with hold | ⟨-, rfl⟩
    · exact .inl hold
    · -- the event of the status that the profile has had already
      obtain ⟨y, hy, hstatus⟩ := Option.map_eq_some_iff.mp same
      obtain ⟨previous, hlogged⟩ := hw.kycProfiles row.userId y hy
      have hevent (actorUserId : Option Uuid) :
          AuditEvent.kycStatusChanged actorUserId (row.over (some y)).toKycProfile =
            AuditEvent.kycStatusChanged actorUserId y.toKycProfile :=
        kycStatusChanged_congr (x := (y.review row).toKycProfile) (y := y.toKycProfile) rfl rfl
          hstatus.symm _
      rw [hy]
      simp only [hevent]
      exact .inr ⟨previous, hlogged⟩
  | user session fresh =>
    refine hw.grow (hgrown _) (fun _ => .inl) (fun _ => .inl) (fun _ => .inl) (fun _ _ => .inl)
      fun x hx => ?_
    rcases (Table.mem_insert fresh).mp hx with hold | rfl
    · exact .inl hold
    · exact .inr (World.logs_addAudit _ (fun _ => userEvent _ _) default)
  | elsewhere childProfiles vaults refreshTokens events =>
    exact hw.grow (List.subset_append_left _ _) (fun _ => .inl) (fun _ => .inl) (fun _ => .inl)
      (fun _ _ => .inl) fun _ => .inl

/-- The status that is found is the one before. -/
theorem previousStatus_of_find {w : World} {userId : Uuid} {x : KycProfileRow}
    (h : w.2.kycProfiles.find userId = some x) : previousStatus w userId = some x.status := by
  rw [previousStatus, h]
  rfl

/-- Where no profile has changed, there is no change to audit. -/
theorem KycChangesAudited.of_same {w w' : World} (h : w'.2.kycProfiles = w.2.kycProfiles) :
    KycChangesAudited w w' := by
  intro userId x hx hchanged
  rw [h] at hx
  exact absurd (previousStatus_of_find hx) hchanged

/-- Every change of a status comes with its event. -/
theorem Written.kycChangesAudited {w w' : World} (h : Written w w') : KycChangesAudited w w' := by
  cases h with
  | @profile row actor id changed =>
    intro userId x hx hchanged
    rcases World.find_putProfile_cases hx with hold | ⟨rfl, rfl⟩
    · exact absurd (previousStatus_of_find hold) hchanged
    · refine ⟨actor, ?_⟩
      rw [kycStatusChanged_over id]
      rfl
  | @review row same =>
    intro userId x hx hchanged
    rcases World.find_putProfile_cases hx with hold | ⟨rfl, rfl⟩
    · exact absurd (previousStatus_of_find hold) hchanged
    · rw [KycProfileRow.status_over] at hchanged
      exact absurd same hchanged
  -- the other calls do not write the profiles
  | _ => exact .of_same rfl

/-! ## Runs

  Both directions: an unbroken run is all or nothing and fully audited, and a call that breaks off
  leaves a row behind an error. -/

/-- An error changes nothing, a change of the status of a profile is audited, and in every state that
    is reached every row has its audit row. -/
structure AllOrNothing (w : World) (qs : List Call) : Prop where
  /-- A call that is answered with an error has changed nothing. -/
  unchanged : Throughout Call.next (fun q w => (q.serve w).1 = false → (q.serve w).2 = w) w qs
  /-- A change of the status of a profile comes with its event. -/
  changes : Throughout Call.next (fun q w => KycChangesAudited w (q.next w)) w qs
  /-- From a start that is accounted for, every row is. -/
  audited : Accounted w → Throughout Call.next (fun q w => Accounted (q.next w)) w qs

/-- A run is all or nothing exactly if no call of it fails after writing its row.

    `Unbroken` looks at the request, its faults and the state before it.  The left side has three
    parts, and an unbroken run has all of them: after the row is written, the audit row follows. -/
theorem all_or_nothing_iff (w : World) (qs : List Call) :
    AllOrNothing w qs ↔ Throughout Call.next Call.Unbroken w qs := by
  have hunchanged : Throughout Call.next Call.Unbroken w qs ↔
      Throughout Call.next (fun q w => (q.serve w).1 = false → (q.serve w).2 = w) w qs :=
    throughout_congr Call.unbroken_iff
  refine ⟨fun h => hunchanged.mpr h.unchanged, fun h => ⟨hunchanged.mp h, ?_, fun hw => ?_⟩⟩
  · exact throughout_mono (fun q w hq => (Call.written hq).kycChangesAudited) h
  · exact throughout_keeps hw (fun q w hw hq => (Call.written hq).accounted hw) h

open EduStell.Scenario

namespace Scenario

/-- A parent, as registered, with a child. -/
def household : World :=
  ({  users := row (newUserRow 1 ⟨"parent@example.org", "hash", .parent⟩)
      refreshTokens := .empty
      audit := [sanitizeAuditLog (userRegistered 1 "parent" "parent@example.org")] },
    { childProfiles := row ⟨50, 1, none⟩
      vaults := .empty
      plans := .empty
      milestones := .empty
      vaultContributors := .empty
      kycProfiles := .empty })

/-- A plan for the child; the third call, which is to record the event, fails. -/
def interrupted : Call :=
  .createPlan 201 parent ⟨50, "School", none, 5000, usd⟩ fun i =>
    if i = 2 then some (.repository "connection reset by peer") else none

end Scenario

/-- The error is returned, and the plan is there without its audit row.

    The fault is between the two transactions: the INSERT of the plan is committed, and the INSERT
    of its audit row is the statement that fails. -/
theorem plan_without_audit :
    (Scenario.interrupted.serve Scenario.household).1 = false ∧
    ((Scenario.interrupted.next Scenario.household).2.plans.find 201).isSome = true ∧
    (Scenario.interrupted.next Scenario.household).1.audit = Scenario.household.1.audit ∧
    ¬ AllOrNothing Scenario.household [Scenario.interrupted] := by
  have herr : (Scenario.interrupted.serve Scenario.household).1 = false := rfl
  have hplan : ((Scenario.interrupted.next Scenario.household).2.plans.find 201).isSome = true := rfl
  refine ⟨herr, hplan, rfl, fun h => ?_⟩
  obtain ⟨hsame, -⟩ := h.unchanged
  rw [Call.next, hsame herr] at hplan
  cases hplan

end EduStell.Records
