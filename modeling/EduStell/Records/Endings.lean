/-
  How a call of a service that writes in several calls of repositories can end.

  `Ended` lists the ends: the call is refused before it writes anything; or it has written its row
  and breaks off before the audit row (or, for a registration, before the session); or it is
  complete.  Nothing takes the row back.

  Each service comes with `…Ready row`, what it takes to get as far as writing `row`, and with
  `…GoesOn row`, what it takes from there.

  For each service the proof walks through its program, call by call, with the faults as
  hypotheses: a fault at a call is one of the ends.
-/
import EduStell.Records.Service

namespace EduStell.Records

open Txn Program Persistence

/-! ## The ends of a call

  `Ended` is the common form of all calls here: refused, broken off, or complete.  What differs is
  the row and what comes after it. -/

/-- A call that is `ready` to write the row `x`, and `goesOn` after it. -/
inductive Ended {ρ ε α : Type} (ready goesOn : ρ → Prop) (half full : ρ → World → Prop) (w : World) :
    Except ε α → World → Prop
  /-- No row is ready to be written, and nothing has changed. -/
  | refused {e : ε} (h : ∀ x, ¬ ready x) : Ended ready goesOn half full w (.error e) w
  /-- The row is written, and what should have come after it is not. -/
  | broken {e : ε} {x : ρ} {w' : World} (hready : ready x) (h : ¬ goesOn x) (hhalf : half x w') :
    Ended ready goesOn half full w (.error e) w'
  /-- The row is written, with what comes after it. -/
  | complete {a : α} {x : ρ} {w' : World} (hready : ready x) (h : goesOn x) (hfull : full x w') :
    Ended ready goesOn half full w (.ok a) w'

namespace Ended

variable {ρ ε α : Type} {ready goesOn : ρ → Prop} {half full : ρ → World → Prop} {w w' : World}
  {r : Except ε α}

/-- A call does not break off exactly if an error leaves everything as it was. -/
theorem unbroken_iff (h : Ended ready goesOn half full w r w')
    (hunique : ∀ x y, ready x → ready y → x = y)
    (hwrites : ∀ x w', ready x → ¬ goesOn x → half x w' → w' ≠ w) :
    (∀ x, ready x → goesOn x) ↔ (r.isOk = false → w' = w) := by
  cases h with
  | refused hnot => exact ⟨fun _ _ => rfl, fun _ x hx => absurd hx (hnot x)⟩
  | broken hready hnot hhalf =>
    refine ⟨fun hall => absurd (hall _ hready) hnot, fun hsame => ?_⟩
    exact absurd (hsame rfl) (hwrites _ w' hready hnot hhalf)
  | complete hready hgoes hfull =>
    refine ⟨fun _ herr => (by cases herr), fun _ x hx => ?_⟩
    rw [hunique x _ hx hready]
    exact hgoes

/-- A call that does not break off writes nothing, or everything. -/
theorem unbroken {P : World → Prop} (h : Ended ready goesOn half full w r w')
    (hall : ∀ x, ready x → goesOn x) (hnothing : P w)
    (hfull : ∀ x w', ready x → full x w' → P w') : P w' := by
  cases h with
  | refused => exact hnothing
  | broken hready hnot => exact absurd (hall _ hready) hnot
  | complete hready _ hw => exact hfull _ _ hready hw

end Ended

/-! ## Worlds

  What a call leaves, as a change of the world. -/

namespace World

/-- The row of a new plan. -/
def addPlan (w : World) (row : SavingsPlanRow) : World :=
  (w.1, { w.2 with plans := w.2.plans.insert row })

/-- The row of a new milestone. -/
def addMilestone (w : World) (row : MilestoneRecord) : World :=
  (w.1, { w.2 with milestones := w.2.milestones.insert row })

/-- The row of a new contributor. -/
def addContributor (w : World) (row : VaultContributorRow) : World :=
  (w.1, { w.2 with vaultContributors := w.2.vaultContributors.insert row })

/-- The profile of the user is inserted, or reviewed. -/
def putProfile (w : World) (row : KycProfileRow) : World :=
  (w.1, { w.2 with kycProfiles :=
    match w.2.kycProfiles.find row.userId with
    | some _ => (Write.reviewKycProfile row).apply w.2 |>.kycProfiles
    | none => w.2.kycProfiles.insert row })

/-- One audit row more; the repository redacts it before it is stored. -/
def addAudit (w : World) (log : AuditLog) : World :=
  ({ w.1 with audit := w.1.audit ++ [sanitizeAuditLog log] }, w.2)

end World

/-! ## The calls of the repositories

  The rule of each repository call under faults: the call fails, a constraint refuses its row, or
  the row is in the table. -/

section

variable {ε β : Type} {faults : Nat → Option ε} {n : Nat} {Q : Except ε β → World → Prop} {w : World}
  {l : Session World (Auth.Resource ⊕ Resource) (Auth.Write ⊕ Write)}

/-- The INSERT of an audit row is a call of its own: it fails, or the log has a row more. -/
theorem under_recordAudit {log : AuditLog} {k : Unit → Tx ε β}
    (hfault : ∀ e, faults n = some e → Q (.error e) w)
    (h : faults n = none → (k ()).Under faults (n + 1) Q Session.init (w.addAudit log)) :
    (recordAudit log >>= k).Under faults n Q Session.init w := by
  simp only [recordAudit, bind_assoc]
  refine Under.beginTx hfault fun hn => ?_
  exact Under.execute (Under.commitTx (h hn))

/-- A lock of the record tables returns the content of its row. -/
theorem under_lockRecord {r : Resource} {k : Content r → Tx ε β}
    (h : (k ((l.view w).2.content r)).Under faults n Q (l.lock (.inr r)) w) :
    (lockRecord r >>= k).Under faults n Q l w :=
  Under.forUpdate h

/-- A lock of a user returns his row. -/
theorem under_lockUser {userId : Uuid} {k : Option Auth.UserRow → Tx ε β}
    (h : (k ((l.view w).1.users.find userId)).Under faults n Q (l.lock (.inl (.user userId))) w) :
    (lockUser userId >>= k).Under faults n Q l w :=
  Under.forUpdate h

/-- A lock raises no error of its own. -/
theorem mapError_lockRecord {ε' : Type} (g : ε → ε') (r : Resource) :
    (lockRecord r : Tx ε (Content r)).mapError g = lockRecord r := rfl

/-- Neither does the lock of a user. -/
theorem mapError_lockUser {ε' : Type} (g : ε → ε') (userId : Uuid) :
    (lockUser userId : Tx ε (Option Auth.UserRow)).mapError g = lockUser userId := rfl

/-- A unique index entry: an error if it is taken, or the rest under its lock. -/
theorem under_insertUnique {g : PersistenceError → ε} {r : Resource} {taken : Content r → Bool}
    {constraint : String} {k : Unit → Tx ε β}
    (htaken : taken ((l.view w).2.content r) = true → ∀ e, Q (.error e) w)
    (h : taken ((l.view w).2.content r) = false → (k ()).Under faults n Q (l.lock (.inr r)) w) :
    ((insertUnique r taken constraint).mapError g >>= k).Under faults n Q l w := by
  rw [insertUnique, mapError_bind, mapError_lockRecord, bind_assoc]
  refine under_lockRecord ?_
  rw [mapError_failIf]
  exact Under.failIf (fun hc => htaken hc _) fun hc => h (Bool.eq_false_of_not_eq_true hc)

/-- A foreign key to a user: an error if there is none, or the rest under the lock of his row. -/
theorem under_referenceUser {g : PersistenceError → ε} {userId : Uuid} {table constraint : String}
    {k : Unit → Tx ε β} (hmissing : (l.view w).1.users.find userId = none → ∀ e, Q (.error e) w)
    (h : (l.view w).1.users.find userId ≠ none →
      (k ()).Under faults n Q (l.lock (.inl (.user userId))) w) :
    ((referenceUser userId table constraint).mapError g >>= k).Under faults n Q l w := by
  rw [referenceUser, mapError_bind, mapError_lockUser, bind_assoc]
  refine under_lockUser ?_
  rw [mapError_failIf]
  refine Under.failIf (fun hc => hmissing (Option.isNone_iff_eq_none.mp hc) _) fun hc => h ?_
  exact fun hnone => hc (Option.isNone_iff_eq_none.mpr hnone)

/-- The INSERT of a plan is a call: it fails, or the id is taken, or the row is in the table. -/
theorem under_insertPlan {g : PersistenceError → ε} {plan : SavingsPlanRow}
    {k : SavingsPlanRow → Tx ε β} (hfault : ∀ e, faults n = some e → Q (.error e) w)
    (htaken : w.2.plans.find plan.id ≠ none → ∀ e, Q (.error e) w)
    (h : faults n = none → w.2.plans.find plan.id = none →
      (Program.ofExcept ((storedMoney plan.targetAmount).mapError g) >>= fun targetAmount =>
        k { plan with targetAmount := targetAmount }).Under faults (n + 1) Q Session.init
          (w.addPlan plan)) :
    ((insertPlan plan).mapError g >>= k).Under faults n Q Session.init w := by
  rw [insertPlan]
  simp only [mapError_bind, mapError_beginTx, mapError_execute, mapError_commitTx, mapError_ofExcept,
    mapError_pure, bind_assoc, pure_bind]
  refine Under.beginTx hfault fun hn => ?_
  refine under_insertUnique (fun hsome => htaken (Option.ne_none_iff_isSome.mpr hsome)) fun hnone => ?_
  refine Under.execute (Under.commitTx ?_)
  exact h hn (eq_none_of_free hnone)

/-- Amounts under one currency are read back together. -/
theorem parseMoney_of_storedMoney {money m : Money} (h : storedMoney money = .ok m) (other : Money) :
    parseMoney other.amountMinor money.currency.asStr =
      .ok ⟨other.amountMinor, m.currency, other.nonneg⟩ := by
  obtain ⟨-, htext⟩ := storedMoney_ok h
  rw [parseMoney, ← htext, storedMoney_parsed h]
  exact congrArg (Except.mapError PersistenceError.repository)
    (Money.new_of_nonneg other.nonneg m.currency)

/-- The INSERT of a milestone is a call: it fails, or a CHECK or the id refuses the row, or the row
    is in the table. -/
theorem under_insertMilestone {g : PersistenceError → ε} {milestone : MilestoneRecord}
    {k : MilestoneRecord → Tx ε β} (hfault : ∀ e, faults n = some e → Q (.error e) w)
    (hcheck : milestone.targetAmount.amountMinor ≤ 0 → ∀ e, Q (.error e) w)
    (htaken : w.2.milestones.find milestone.id ≠ none → ∀ e, Q (.error e) w)
    (h : faults n = none → 0 < milestone.targetAmount.amountMinor →
      w.2.milestones.find milestone.id = none →
      (Program.ofExcept ((storedMoney milestone.targetAmount).mapError g) >>= fun targetAmount =>
        k { milestone with
            targetAmount := targetAmount
            fundedAmount := ⟨milestone.fundedAmount.amountMinor, targetAmount.currency,
              milestone.fundedAmount.nonneg⟩ }).Under faults (n + 1) Q Session.init
          (w.addMilestone milestone)) :
    ((insertMilestone milestone).mapError g >>= k).Under faults n Q Session.init w := by
  -- the error map is pushed to the leaves, so that the rules see the statements
  rw [insertMilestone]
  simp only [mapError_bind, mapError_beginTx, mapError_failIf, mapError_execute, mapError_commitTx,
    mapError_ofExcept, mapError_pure, bind_assoc, pure_bind]
  refine Under.beginTx hfault fun hn => ?_
  refine Under.failIf (fun hle => hcheck hle _) fun hpos => ?_
  refine under_insertUnique (fun hsome => htaken (Option.ne_none_iff_isSome.mpr hsome)) fun hnone => ?_
  refine Under.execute (Under.commitTx ?_)
  have h := h hn (Int64.not_le.mp hpos) (eq_none_of_free hnone)
  -- the currency of the stored row is parsed back before the row is returned
  cases hstored : storedMoney milestone.targetAmount with
  | error e =>
    rw [hstored] at h
    exact h
  | ok m =>
    rw [hstored] at h
    rw [parseMoney_of_storedMoney hstored]
    exact h

/-- The INSERT of a contributor is a call: it fails, or its id or its entry is taken or its user is
    missing, or the row is in the table. -/
theorem under_insertVaultContributor {g : PersistenceError → ε} {contributor : VaultContributorRow}
    {k : VaultContributorRow → Tx ε β} (hfault : ∀ e, faults n = some e → Q (.error e) w)
    (htaken : w.2.vaultContributors.find contributor.id ≠ none → ∀ e, Q (.error e) w)
    (hentry : w.2.content (.vaultContributorEntry contributor.vaultId contributor.contributorUserId)
      = true → ∀ e, Q (.error e) w)
    (huser : w.1.users.find contributor.contributorUserId = none → ∀ e, Q (.error e) w)
    (h : faults n = none → w.2.vaultContributors.find contributor.id = none →
      w.2.content (.vaultContributorEntry contributor.vaultId contributor.contributorUserId) = false →
      w.1.users.find contributor.contributorUserId ≠ none →
      (k contributor).Under faults (n + 1) Q Session.init (w.addContributor contributor)) :
    ((insertVaultContributor contributor).mapError g >>= k).Under faults n Q Session.init w := by
  rw [insertVaultContributor]
  simp only [mapError_bind, mapError_beginTx, mapError_execute, mapError_commitTx, mapError_pure,
    bind_assoc, pure_bind]
  refine Under.beginTx hfault fun hn => ?_
  refine under_insertUnique (fun hsome => htaken (Option.ne_none_iff_isSome.mpr hsome)) fun hnone => ?_
  refine under_insertUnique hentry fun hfree => ?_
  refine under_referenceUser huser fun hsome => ?_
  exact Under.execute (Under.commitTx (h hn (eq_none_of_free hnone) hfree hsome))

/-- The upsert of a profile is a call: it fails, or it reviews the profile of the user, or it
    inserts the row if the user is there. -/
theorem under_upsertKycProfile {g : PersistenceError → ε} {profile : KycProfileRow}
    {k : KycProfileRow → Tx ε β} (hfault : ∀ e, faults n = some e → Q (.error e) w)
    (hreview : ∀ row, faults n = none → w.2.kycProfiles.find profile.userId = some row →
      (k (row.review profile)).Under faults (n + 1) Q Session.init (w.putProfile profile))
    (htaken : w.2.kycProfiles.find profile.userId = none →
      w.2.content (.kycProfileId profile.id) = true → ∀ e, Q (.error e) w)
    (huser : w.2.kycProfiles.find profile.userId = none → w.1.users.find profile.userId = none →
      ∀ e, Q (.error e) w)
    (hinsert : faults n = none → w.2.kycProfiles.find profile.userId = none →
      w.2.content (.kycProfileId profile.id) = false → w.1.users.find profile.userId ≠ none →
      (k profile).Under faults (n + 1) Q Session.init (w.putProfile profile)) :
    ((upsertKycProfile profile).mapError g >>= k).Under faults n Q Session.init w := by
  rw [upsertKycProfile]
  simp only [mapError_bind, mapError_beginTx, bind_assoc]
  refine Under.beginTx hfault fun hn => under_lockRecord ?_
  cases hprofile : w.2.kycProfiles.find profile.userId with
  -- ON CONFLICT: no key is written, so none can be violated
  | some row =>
    have hcontent : (Session.init.begun.view w).2.content (.kycProfile profile.userId) = some row :=
      hprofile
    simp only [hcontent, mapError_bind, mapError_execute, mapError_commitTx, mapError_pure,
      bind_assoc, pure_bind]
    refine Under.execute (Under.commitTx ?_)
    have h := hreview row hn hprofile
    rw [World.putProfile, hprofile] at h
    exact h
  | none =>
    have hcontent : (Session.init.begun.view w).2.content (.kycProfile profile.userId) = none :=
      hprofile
    simp only [hcontent, mapError_bind, mapError_execute, mapError_commitTx, mapError_pure,
      bind_assoc, pure_bind]
    refine under_insertUnique (htaken hprofile) fun hfree => ?_
    refine under_referenceUser (huser hprofile) fun hsome => ?_
    refine Under.execute (Under.commitTx ?_)
    have h := hinsert hn hprofile hfree hsome
    rw [World.putProfile, hprofile] at h
    exact h

end

/-! ## `create_plan`

  Two calls write: the plan, and its event.  In between the plan is read back, which may fail as
  well. -/

/-- The event is the same whether it is made of the row or of what is read back. -/
theorem planCreated_readBack {row : SavingsPlanRow} {m : Money}
    (h : storedMoney row.targetAmount = .ok m) (actorUserId : Uuid) :
    AuditEvent.planCreated actorUserId { row.toSavingsPlan with targetAmount := m } =
      AuditEvent.planCreated actorUserId row.toSavingsPlan := by
  obtain ⟨hamount, htext⟩ := storedMoney_ok h
  rw [AuditEvent.planCreated, AuditEvent.planCreated, hamount, htext]

section

variable (newId : Uuid) (actor : AuthenticatedUser) (input : CreatePlanInput)
  (faults : Nat → Option SavingsError)

/-- What it takes to write the row of a plan. -/
structure PlanReady (w : World) (row : SavingsPlanRow) : Prop where
  role : actor.role = .parent
  name : (trim input.name).isEmpty = false
  looked : faults 0 = none
  child : ∃ child, w.2.childProfiles.find input.childProfileId = some child ∧
    child.ownerUserId = actor.userId
  money : ∃ targetAmount, Money.new input.targetAmountMinor input.currency = .ok targetAmount ∧
    row = planRow newId actor input targetAmount
  stored : faults 1 = none
  free : w.2.plans.find newId = none

/-- The row can be read back, and its event can be recorded. -/
structure PlanGoesOn (row : SavingsPlanRow) : Prop where
  readBack : ∃ targetAmount, storedMoney row.targetAmount = .ok targetAmount
  logged : faults 2 = none

/-- The plan and its event, or the plan alone, or nothing. -/
def PlanEnded (w : World) : Except SavingsError SavingsPlanRow → World → Prop :=
  Ended (PlanReady newId actor input faults w) (PlanGoesOn faults) (fun row w' => w' = w.addPlan row)
    (fun row w' =>
      w' = (w.addPlan row).addAudit (AuditEvent.planCreated actor.userId row.toSavingsPlan)) w

/-- Every end of `create_plan` is one of these. -/
theorem createPlan_ended (w : World) :
    (createPlan newId actor input).Under faults 0 (PlanEnded newId actor input faults w)
      Session.init w := by
  unfold createPlan
  refine Under.failIf (fun hrole => .refused fun _ h => hrole h.role) fun hrole => ?_
  refine Under.failIf (fun hname => .refused fun _ h => ?_) fun hname => ?_
  · exact absurd hname (ne_true_of_eq_false h.name)
  refine Under.select (fun e he => .refused fun _ h => ?_) fun hlooked => ?_
  · exact Option.some_ne_none e (he.symm.trans h.looked)
  refine Under.okOr (fun hnone => .refused fun _ h => ?_) fun child hchild => ?_
  · obtain ⟨child, hchild, -⟩ := h.child
    exact Option.some_ne_none child (hchild.symm.trans hnone)
  refine Under.failIf (fun hforeign => .refused fun _ h => ?_) fun howner => ?_
  · obtain ⟨child', hchild', howner⟩ := h.child
    rw [Option.some.inj (hchild.symm.trans hchild')] at hforeign
    exact hforeign howner
  refine Under.ofMapped (fun hnot _ => .refused fun _ h => ?_) fun targetAmount hmoney => ?_
  · obtain ⟨targetAmount, hmoney, -⟩ := h.money
    exact hnot targetAmount hmoney
  have hready (hstored : faults 1 = none) (hfree : w.2.plans.find newId = none) :
      PlanReady newId actor input faults w (planRow newId actor input targetAmount) :=
    ⟨not_not.mp hrole, Bool.eq_false_of_not_eq_true hname, hlooked, ⟨child, hchild, not_not.mp howner⟩,
      ⟨targetAmount, hmoney, rfl⟩, hstored, hfree⟩
  refine Under.restart rfl ?_
  refine under_insertPlan (fun e he => .refused fun _ h => ?_) (fun htaken _ => .refused fun _ h => ?_)
    fun hstored hfree => ?_
  · exact Option.some_ne_none e (he.symm.trans h.stored)
  · exact htaken h.free
  -- the plan is there from here on: what fails now leaves it
  have hready := hready hstored hfree
  refine Under.ofMapped (fun hnot _ => .broken hready (fun hgo => ?_) rfl) fun m hm => ?_
  · obtain ⟨m, hm⟩ := hgo.readBack
    exact hnot m hm
  refine under_recordAudit (fun e he => .broken hready (fun hgo => ?_) rfl) fun hlogged => Under.ok ?_
  · exact Option.some_ne_none e (he.symm.trans hgo.logged)
  refine .complete hready ⟨⟨m, hm⟩, hlogged⟩ ?_
  exact congrArg _ (planCreated_readBack hm actor.userId)

end

/-! ## `create_milestone`

  The vault is looked up first and its owner compared, as for contributors. -/

/-- The vault is found, and is the actor's. -/
structure OwnsVault (faults : Nat → Option SavingsError) (actor : AuthenticatedUser) (vaultId : Uuid)
    (w : World) (vault : SavingsVault) : Prop where
  looked : faults 0 = none
  found : w.2.vaults.find vaultId = some vault
  owned : vault.ownerUserId = actor.userId

/-- A vault has one row. -/
theorem OwnsVault.unique {faults : Nat → Option SavingsError} {actor : AuthenticatedUser}
    {vaultId : Uuid} {w : World} {vault vault' : SavingsVault}
    (h : OwnsVault faults actor vaultId w vault) (h' : OwnsVault faults actor vaultId w vault') :
    vault = vault' :=
  Option.some.inj (h.found.symm.trans h'.found)

/-- The lookup of the vault and the comparison of its owner. -/
theorem under_ownsVault {β : Type} {faults : Nat → Option SavingsError} {actor : AuthenticatedUser}
    {vaultId : Uuid} {w : World} {Q : Except SavingsError β → World → Prop}
    {k : SavingsVault → Tx SavingsError β}
    (hrefused : (∀ vault, ¬ OwnsVault faults actor vaultId w vault) → ∀ e, Q (.error e) w)
    (h : ∀ vault, OwnsVault faults actor vaultId w vault →
      (k vault).Under faults 1 Q Session.init w) :
    (do
      let vault ← okOr (← select fun w => w.2.vaults.find vaultId) .notFound
      failIf (vault.ownerUserId ≠ actor.userId) .forbidden
      k vault : Tx SavingsError β).Under faults 0 Q Session.init w := by
  refine Under.select (fun e he => hrefused (fun _ hv => ?_) e) fun hlooked => Under.restart rfl ?_
  · exact Option.some_ne_none e (he.symm.trans hv.looked)
  refine Under.okOr (fun hnone => hrefused (fun vault hv => ?_) _) fun vault hvault => ?_
  · exact Option.some_ne_none vault (hv.found.symm.trans hnone)
  refine Under.failIf (fun hforeign => hrefused (fun vault' hv => ?_) _) fun howned => ?_
  · have hsame : vault = vault' := Option.some.inj (hvault.symm.trans hv.found)
    exact hforeign (hsame ▸ hv.owned)
  exact h vault ⟨hlooked, hvault, not_not.mp howned⟩

/-- Reading the amount back does not change the event. -/
theorem milestoneCreated_readBack (row : MilestoneRow) {m : Money}
    (h : storedMoney row.targetAmount = .ok m) (actorUserId : Uuid) :
    AuditEvent.milestoneCreated actorUserId { row with targetAmount := m } =
      AuditEvent.milestoneCreated actorUserId row := by
  obtain ⟨hamount, htext⟩ := storedMoney_ok h
  rw [AuditEvent.milestoneCreated, AuditEvent.milestoneCreated, hamount, htext]

section

variable (newId : Uuid) (actor : AuthenticatedUser) (input : CreateMilestoneInput)
  (faults : Nat → Option SavingsError)

/-- What it takes to write the row of a milestone. -/
structure MilestoneReady (w : World) (row : MilestoneRecord) : Prop where
  vault : ∃ vault, OwnsVault faults actor input.vaultId w vault ∧
    vault.currency = input.currency.asStr
  title : (trim input.title).isEmpty = false
  money : ∃ targetAmount, Money.new input.targetAmountMinor input.currency = .ok targetAmount ∧
    row = milestoneRow newId input targetAmount ⟨0, .fiat input.currency.asStr, Int64.le_refl 0⟩
  stored : faults 1 = none
  positive : 0 < row.targetAmount.amountMinor
  free : w.2.milestones.find newId = none

/-- The row can be read back, and its event can be recorded. -/
structure MilestoneGoesOn (row : MilestoneRecord) : Prop where
  readBack : ∃ targetAmount, storedMoney row.targetAmount = .ok targetAmount
  logged : faults 2 = none

/-- The milestone and its event, or the milestone alone, or nothing. -/
def MilestoneEnded (w : World) : Except SavingsError MilestoneRecord → World → Prop :=
  Ended (MilestoneReady newId actor input faults w) (MilestoneGoesOn faults)
    (fun row w' => w' = w.addMilestone row)
    (fun row w' => w' =
      (w.addMilestone row).addAudit (AuditEvent.milestoneCreated actor.userId row.toMilestoneRow)) w

/-- Every end of `create_milestone` is one of these. -/
theorem createMilestone_ended (w : World) :
    (createMilestone newId actor input).Under faults 0 (MilestoneEnded newId actor input faults w)
      Session.init w := by
  refine under_ownsVault (fun hnot _ => .refused fun _ h => ?_) fun vault hvault => ?_
  · obtain ⟨vault, hvault, -⟩ := h.vault
    exact hnot vault hvault
  refine Under.failIf (fun htitle => .refused fun _ h => ?_) fun htitle => ?_
  · exact absurd htitle (ne_true_of_eq_false h.title)
  refine Under.failIf (fun hother => .refused fun _ h => ?_) fun hcurrency => ?_
  · obtain ⟨vault', hvault', hsame⟩ := h.vault
    exact hother (hvault.unique hvault' ▸ hsame)
  have hcurrency : vault.currency = input.currency.asStr := not_not.mp hcurrency
  refine Under.ofMapped (fun hnot _ => .refused fun _ h => ?_) fun targetAmount hmoney => ?_
  · obtain ⟨targetAmount, hmoney, -⟩ := h.money
    exact hnot targetAmount hmoney
  rw [hcurrency, Money.new_of_nonneg (Int64.le_refl 0)]
  refine under_insertMilestone (fun e he => .refused fun _ h => ?_)
    (fun hle _ => .refused fun row h => ?_) (fun htaken _ => .refused fun _ h => htaken h.free)
    fun hstored hpos hfree => ?_
  · exact Option.some_ne_none e (he.symm.trans h.stored)
  · have hpos := h.positive
    obtain ⟨targetAmount', hmoney', rfl⟩ := h.money
    rw [hmoney] at hmoney'
    cases hmoney'
    exact Int64.not_lt.mpr hle hpos
  -- the milestone is there from here on
  have hready : MilestoneReady newId actor input faults w _ :=
    ⟨⟨vault, hvault, hcurrency⟩, Bool.eq_false_of_not_eq_true htitle, ⟨targetAmount, hmoney, rfl⟩,
      hstored, hpos, hfree⟩
  refine Under.ofMapped (fun hnot _ => .broken hready (fun hgo => ?_) rfl) fun m hm => ?_
  · obtain ⟨m, hm⟩ := hgo.readBack
    exact hnot m hm
  refine under_recordAudit (fun e he => .broken hready (fun hgo => ?_) rfl) fun hlogged => Under.ok ?_
  · exact Option.some_ne_none e (he.symm.trans hgo.logged)
  refine .complete hready ⟨⟨m, hm⟩, hlogged⟩ ?_
  exact congrArg _ (milestoneCreated_readBack _ hm actor.userId)

end

/-! ## `add_contributor`

  What is read back of a contributor is what was bound, so nothing fails between the two calls but
  the second. -/

section

variable (newId : Uuid) (actor : AuthenticatedUser) (input : AddContributorInput)
  (faults : Nat → Option SavingsError)

/-- What it takes to write the row of a contributor. -/
structure ContributorReady (w : World) (row : VaultContributorRow) : Prop where
  vault : ∃ vault, OwnsVault faults actor input.vaultId w vault
  roleLabel : (trim input.roleLabel).isEmpty = false
  row : row = contributorRow newId input
  stored : faults 1 = none
  free : w.2.vaultContributors.find newId = none
  unentered : w.2.content (.vaultContributorEntry input.vaultId input.contributorUserId) = false
  user : w.1.users.find input.contributorUserId ≠ none

/-- The contributor and the event, or the contributor alone, or nothing. -/
def ContributorEnded (w : World) : Except SavingsError VaultContributorRow → World → Prop :=
  Ended (ContributorReady newId actor input faults w) (fun _ => faults 2 = none)
    (fun row w' => w' = w.addContributor row)
    (fun row w' =>
      w' = (w.addContributor row).addAudit (AuditEvent.contributorAdded actor.userId row)) w

/-- Every end of `add_contributor` is one of these. -/
theorem addContributor_ended (w : World) :
    (addContributor newId actor input).Under faults 0 (ContributorEnded newId actor input faults w)
      Session.init w := by
  refine under_ownsVault (fun hnot _ => .refused fun _ h => ?_) fun vault hvault => ?_
  · obtain ⟨vault, hvault⟩ := h.vault
    exact hnot vault hvault
  refine Under.failIf (fun hlabel => .refused fun _ h => ?_) fun hlabel => ?_
  · exact absurd hlabel (ne_true_of_eq_false h.roleLabel)
  refine under_insertVaultContributor (fun e he => .refused fun _ h => ?_)
    (fun htaken _ => .refused fun _ h => htaken h.free)
    (fun hentered _ => .refused fun _ h => ?_)
    (fun hmissing _ => .refused fun _ h => h.user hmissing) fun hstored hfree hentry huser => ?_
  · exact Option.some_ne_none e (he.symm.trans h.stored)
  · exact absurd hentered (ne_true_of_eq_false h.unentered)
  -- the contributor is there from here on
  have hready : ContributorReady newId actor input faults w (contributorRow newId input) :=
    ⟨⟨vault, hvault⟩, Bool.eq_false_of_not_eq_true hlabel, rfl, hstored, hfree, hentry, huser⟩
  refine under_recordAudit (fun e he => .broken hready (fun hlogged => ?_) rfl) fun hlogged => ?_
  · exact Option.some_ne_none e (he.symm.trans hlogged)
  exact Under.ok (.complete hready hlogged rfl)

end

/-! ## `update_kyc_status`

  The profile that exists is looked up, and the write is an upsert over it.  The event is recorded
  only where the status is another one. -/

section

variable (newId : Uuid) (now : DateTime) (actor : AuthenticatedUser) (input : UpdateKycStatusInput)
  (faults : Nat → Option KycError)

/-- The profile that exists keeps its id. -/
theorem kycRow_id {existing : Option KycProfileRow} {x : KycProfileRow} (h : existing = some x) :
    (kycRow newId now input existing).id = x.id := by
  rw [h]
  rfl

/-- A new profile gets the id that was drawn. -/
theorem kycRow_newId {existing : Option KycProfileRow} (h : existing = none) :
    (kycRow newId now input existing).id = newId := by
  rw [h]
  rfl

/-- The status of the user's profile, if he has one. -/
def previousStatus (w : World) (userId : Uuid) : Option KycStatus :=
  (w.2.kycProfiles.find userId).map fun x => x.status

/-- What it takes to write the profile. -/
structure KycReady (w : World) (row : KycProfileRow) : Prop where
  role : actor.role = .platformAdmin
  looked : faults 0 = none
  row : row = kycRow newId now input (w.2.kycProfiles.find input.userId)
  stored : faults 1 = none
  inserted : w.2.kycProfiles.find input.userId = none →
    w.2.content (.kycProfileId newId) = false ∧ w.1.users.find input.userId ≠ none

/-- Only a change of the status is audited. -/
def KycGoesOn (w : World) (row : KycProfileRow) : Prop :=
  previousStatus w row.userId ≠ some row.status → faults 2 = none

/-- The profile is what it was but for the review, so its event is that of the row bound. -/
def KycEnded (w : World) : Except KycError KycProfileRow → World → Prop :=
  Ended (KycReady newId now actor input faults w) (KycGoesOn faults w)
    (fun row w' => w' = w.putProfile row)
    (fun row w' => w' =
      if previousStatus w row.userId ≠ some row.status then
        (w.putProfile row).addAudit (AuditEvent.kycStatusChanged (some actor.userId)
          row.toKycProfile (previousStatus w row.userId))
      else w.putProfile row) w

/-- The event names the profile, its user and its status. -/
theorem kycStatusChanged_congr {x y : KycProfile} (hid : x.id = y.id) (huser : x.userId = y.userId)
    (hstatus : x.status = y.status) (actorUserId : Option Uuid) :
    AuditEvent.kycStatusChanged actorUserId x = AuditEvent.kycStatusChanged actorUserId y := by
  funext previous
  rw [AuditEvent.kycStatusChanged, AuditEvent.kycStatusChanged, hid, huser, hstatus]

variable {newId now actor input faults} in
/-- What follows the write, of the profile that is read back. -/
theorem auditStatus_ended {w : World} {row saved : KycProfileRow}
    (hready : KycReady newId now actor input faults w row) (hid : saved.id = row.id)
    (huser : saved.userId = row.userId) (hstatus : saved.status = row.status) :
    (if previousStatus w input.userId ≠ some saved.status then do
        recordAudit (AuditEvent.kycStatusChanged (some actor.userId) saved.toKycProfile
          (previousStatus w input.userId))
        return saved
      else return saved : Tx KycError KycProfileRow).Under faults 2
        (KycEnded newId now actor input faults w) Session.init (w.putProfile row) := by
  have hrow : row.userId = input.userId := hready.row ▸ rfl
  have hevent : AuditEvent.kycStatusChanged (some actor.userId) saved.toKycProfile =
      AuditEvent.kycStatusChanged (some actor.userId) row.toKycProfile :=
    kycStatusChanged_congr hid huser hstatus _
  rw [hstatus, ← hrow, hevent]
  by_cases hchanged : previousStatus w row.userId ≠ some row.status
  · rw [if_pos hchanged]
    refine under_recordAudit (fun e he => .broken hready (fun hgo => ?_) rfl) fun hlogged => ?_
    · exact Option.some_ne_none e (he.symm.trans (hgo hchanged))
    exact Under.ok (.complete hready (fun _ => hlogged) (if_pos hchanged).symm)
  · rw [if_neg hchanged]
    exact Under.ok (.complete hready (fun h => absurd h hchanged) (if_neg hchanged).symm)

/-- Every end of `update_kyc_status` is one of these. -/
theorem updateKycStatus_ended (w : World) :
    (updateKycStatus newId now actor input).Under faults 0 (KycEnded newId now actor input faults w)
      Session.init w := by
  refine Under.failIf (fun hrole => .refused fun _ h => hrole h.role) fun hrole => ?_
  refine Under.select (fun e he => .refused fun _ h => ?_) fun hlooked => Under.restart rfl ?_
  · exact Option.some_ne_none e (he.symm.trans h.looked)
  simp only [Session.view_init]
  -- what the update and the insert have in common
  have hready (hstored : faults 1 = none) (hinserted : w.2.kycProfiles.find input.userId = none →
      w.2.content (.kycProfileId newId) = false ∧ w.1.users.find input.userId ≠ none) :
      KycReady newId now actor input faults w
        (kycRow newId now input (w.2.kycProfiles.find input.userId)) :=
    ⟨not_not.mp hrole, hlooked, rfl, hstored, hinserted⟩
  -- a fault, an update, a taken id, a missing user, or an insert
  refine under_upsertKycProfile (fun e he => .refused fun _ h => ?_) (fun existing hstored hfind => ?_)
    (fun (hnone : w.2.kycProfiles.find input.userId = none) htaken _ => .refused fun _ h => ?_)
    (fun hnone hmissing _ => .refused fun _ h => ?_)
    fun hstored (hnone : w.2.kycProfiles.find input.userId = none) hfree huser => ?_
  · exact Option.some_ne_none e (he.symm.trans h.stored)
  · obtain ⟨-, huser⟩ := Table.find_some hfind
    refine auditStatus_ended (hready hstored fun hnone => ?_) ?_ huser rfl
    · exact absurd (hfind.symm.trans hnone) (Option.some_ne_none existing)
    · exact (kycRow_id newId now input hfind).symm
  · obtain ⟨hfree, -⟩ := h.inserted hnone
    have hid := kycRow_newId newId now input hnone
    rw [hid, hfree] at htaken
    cases htaken
  · exact (h.inserted hnone).2 hmissing
  · have hid := kycRow_newId newId now input hnone
    rw [hid] at hfree
    exact auditStatus_ended (hready hstored fun _ => ⟨hfree, huser⟩) rfl rfl rfl

end

end EduStell.Records
