/-
  Who has done what: the authority behind every row of the audit trail.

  A request is open to some roles, and on some rows to their owner only: a parent records a
  contribution to a vault of his own or one that lists him, and asks for payouts of his own vault.
  The services check this on rows that they read without a lock, before the transaction that writes.
  It holds of the rows that are there when the transaction commits, and ever after, since no
  statement changes the owner of a vault, its contributors or a child profile (`OwnersKept`).

  The role is read off the program: `Request.writes_allowed` says that a program whose actor lacks it
  writes nothing at all, so a commit, which always writes its audit row, shows that he has it.

  The plan:

  1. owners and lists of contributors stay (`OwnersKept`), so a right that was checked is a right
     for good;
  2. without the role nothing is written (`Request.writes_allowed`);
  3. a commit therefore comes with role, right and audit row (`Request.authorised`);
  4. in a run, each row of the trail leads back to its request (`trail_accountable`), and a run
     without administrators leaves everything undecided (`undecided_without_admin`).
-/
import EduStell.Integrity.Rows
import EduStell.Trail.Rows

namespace EduStell

open Txn Program Persistence

/-! ## What a request asks of its actor

  `roles` is the role check at the head of each service, and `Entitled` the check of an owner that
  some of them make after it. -/

/-- Who makes a request. -/
def Request.actor : Request → AuthenticatedUser
  | .record _ actor _ => actor
  | .settle _ actor _ => actor
  | .createPayout _ actor _ => actor
  | .review _ actor _ => actor
  | .verifySchool actor _ => actor
  | .createPool _ actor _ => actor
  | .fundPool _ actor _ => actor
  | .createApplication _ actor _ => actor
  | .approve _ actor _ => actor
  | .reject _ actor _ => actor
  | .disburse actor _ => actor
  | .revoke actor _ => actor

/-- The roles that a request is open to. -/
def Request.roles : Request → List UserRole
  | .record _ _ _ => [.parent, .contributor]
  | .createPayout _ _ _ => [.parent]
  | .createPool _ _ _ => [.donor, .platformAdmin]
  | .fundPool _ _ _ => [.donor, .platformAdmin]
  | .createApplication _ _ _ => [.parent, .student]
  | .settle _ _ _ => [.platformAdmin]
  | .review _ _ _ => [.platformAdmin]
  | .verifySchool _ _ => [.platformAdmin]
  | .approve _ _ _ => [.platformAdmin]
  | .reject _ _ _ => [.platformAdmin]
  | .disburse _ _ => [.platformAdmin]
  | .revoke _ _ => [.platformAdmin]

/-- Does the vault list the user as a contributor? -/
def lists (s : Db) (vaultId userId : Uuid) : Bool :=
  s.vaultContributors.any fun item => item.vaultId = vaultId && item.contributorUserId = userId

/-- The actor's right to the rows that his request is about. -/
def Request.Entitled : Request → Db → Prop
  | .record _ actor input, s => ∃ v, s.vaults.find input.vaultId = some v ∧
    (actor.role = .parent ∧ v.ownerUserId = actor.userId ∨
      lists s input.vaultId actor.userId = true)
  | .createPayout _ actor input, s => ∃ v, s.vaults.find input.vaultId = some v ∧
    v.ownerUserId = actor.userId
  | .createApplication _ actor input, s => ∃ child,
    s.childProfiles.find input.childProfileId = some child ∧
    (actor.role = .student ∨ child.ownerUserId = actor.userId)
  | _, _ => True

/-! ## Owners stay

  What the second check has read is still so when the request commits, and stays so afterwards. -/

/-- A later state has the same owners, contributors and children. -/
structure OwnersKept (s s' : Db) : Prop where
  /-- A vault stays with its owner. -/
  vaults : Table.Keeps (fun v : SavingsVault => v.ownerUserId) s.vaults s'.vaults
  /-- Contributors stay. -/
  contributors : s'.vaultContributors = s.vaultContributors
  /-- Children stay with their parents. -/
  children : s'.childProfiles = s.childProfiles

namespace OwnersKept

variable {s t u : Db}

/-- Nothing has changed. -/
theorem refl (s : Db) : OwnersKept s s := ⟨.refl _, rfl, rfl⟩

/-- What is kept over two stretches is kept over both. -/
theorem trans (hst : OwnersKept s t) (htu : OwnersKept t u) : OwnersKept s u :=
  ⟨hst.vaults.trans htu.vaults, htu.contributors.trans hst.contributors,
    htu.children.trans hst.children⟩

/-- No statement changes an owner, and none touches contributors or children. -/
theorem apply (w : Write) (s : Db) : OwnersKept s (Store.apply w s) := by
  have hvaults : Table.Keeps (fun v : SavingsVault => v.ownerUserId) s.vaults
      (Store.apply w s : Db).vaults := by
    intro id v hv
    obtain ⟨v', hv', hsame⟩ := (RefsKept.apply w s).vaults id v hv
    exact ⟨v', hv', (Prod.mk.inj hsame).2⟩
  refine ⟨hvaults, ?_, ?_⟩ <;> cases w <;> rfl

/-- The statements of a session keep the owners. -/
theorem view (l : Sess) (s : Db) : OwnersKept s (l.view s) :=
  l.view_keeps (fun w _ h => h.trans (apply w _)) (refl s)

/-- A vault stays with its owner. -/
theorem vault {id userId : Uuid} (h : OwnersKept s t)
    (hv : ∃ v, s.vaults.find id = some v ∧ v.ownerUserId = userId) :
    ∃ v, t.vaults.find id = some v ∧ v.ownerUserId = userId := by
  obtain ⟨v, hv, howner⟩ := hv
  obtain ⟨v', hv', hsame⟩ := h.vaults id v hv
  exact ⟨v', hv', Eq.trans hsame howner⟩

/-- Who has a right to the rows keeps it. -/
theorem entitled {q : Request} (h : OwnersKept s t) (hq : q.Entitled s) : q.Entitled t := by
  cases q with
  | record newId actor input =>
    obtain ⟨v, hv, hright⟩ := hq
    obtain ⟨v', hv', hsame⟩ := h.vault ⟨v, hv, rfl⟩
    refine ⟨v', hv', ?_⟩
    rw [hsame, lists, h.contributors]
    exact hright
  | createPayout newId actor input => exact h.vault hq
  | createApplication newId actor input =>
    obtain ⟨child, hchild, hright⟩ := hq
    exact ⟨child, h.children ▸ hchild, hright⟩
  | _ => trivial

end OwnersKept

/-! ## Without the role nothing is written

  A property of the program and not of a run: an actor without the role reaches no statement at
  all. -/

section

variable {ε α β : Type} {G : Write → Prop} {actor : AuthenticatedUser} {newId : Uuid}

/-- A check writes nothing. -/
theorem writes_check_bind [IntoServiceError ε] {r : Except ε α} {k : α → Tx ServiceError β}
    (h : ∀ a, r = .ok a → (k a).WritesOnly G) : (check r >>= k).WritesOnly G :=
  WritesOnly.ofExcept_bind fun a ha => h a (ok_of_mapError ha)

/-- A service that reviews begins with the role. -/
theorem writes_of_canReview {k : Unit → Tx ServiceError β} (h : actor.role = .platformAdmin → ∀ w, G w) :
    (check (Scholarships.canReview actor.role) >>= k).WritesOnly G :=
  writes_check_bind fun _ hrole => .all (h (Scholarships.canReview_ok hrole)) _

end

/-- **A program writes nothing if its actor has none of the roles.** -/
theorem Request.writes_allowed (q : Request) :
    q.program.WritesOnly fun _ => q.actor.role ∈ q.roles := by
  -- every operation asks for the role before its first write
  cases q with
  | record newId actor input =>
    refine WritesOnly.map (WritesOnly.failIf_bind_not fun hrole => .all (fun _ => ?_) _)
    rcases Decidable.not_not.mp hrole with hrole | hrole
    · show actor.role ∈ _
      rw [hrole]; simp [Request.roles]
    · show actor.role ∈ _
      rw [hrole]; simp [Request.roles]
  | settle tr actor input =>
    rw [Request.program, settlement_eq]
    refine WritesOnly.map (writes_check_bind fun _ hrole => .all (fun _ => ?_) _)
    rw [Contributions.canSettleContribution] at hrole
    split at hrole
    · exact List.mem_singleton.mpr ‹_›
    · cases hrole
  | createPayout newId actor input =>
    refine WritesOnly.map (writes_check_bind fun _ hrole => .all (fun _ => ?_) _)
    rw [Payouts.validateRequesterRole] at hrole
    split at hrole
    · exact List.mem_singleton.mpr ‹_›
    · cases hrole
  | review tr actor input =>
    rw [Request.program, reviewStep_eq]
    refine WritesOnly.map (writes_check_bind fun _ hrole => .all (fun _ => ?_) _)
    rw [Payouts.validateReviewerRole] at hrole
    split at hrole
    · exact List.mem_singleton.mpr ‹_›
    · cases hrole
  | verifySchool actor input =>
    refine WritesOnly.map (WritesOnly.ofExcept_bind fun _ hrole => .all (fun _ => ?_) _)
    rw [requirePlatformAdmin] at hrole
    split at hrole
    · exact List.mem_singleton.mpr ‹_›
    · cases hrole
  | createPool newId actor input =>
    refine WritesOnly.map (WritesOnly.failIf_bind_not fun hrole => .all (fun _ => ?_) _)
    rcases Decidable.not_not.mp hrole with hrole | hrole
    · show actor.role ∈ _
      rw [hrole]; simp [Request.roles]
    · show actor.role ∈ _
      rw [hrole]; simp [Request.roles]
  | fundPool newId actor input =>
    refine WritesOnly.map (writes_check_bind fun _ hrole => .all (fun _ => ?_) _)
    rw [Scholarships.canFundPool] at hrole
    split at hrole
    · rename_i hopen
      show actor.role ∈ [_, _]
      simpa using hopen
    · cases hrole
  | createApplication newId actor input =>
    refine WritesOnly.map (writes_check_bind fun _ hrole => .all (fun _ => ?_) _)
    rw [Scholarships.canApply] at hrole
    split at hrole
    · rename_i hopen
      show actor.role ∈ [_, _]
      simpa using hopen
    · cases hrole
  | approve newId actor input =>
    exact WritesOnly.map (writes_of_canReview fun hrole _ => List.mem_singleton.mpr hrole)
  | reject newId actor input =>
    exact WritesOnly.map (writes_of_canReview fun hrole _ => List.mem_singleton.mpr hrole)
  | disburse actor input =>
    exact WritesOnly.map (writes_of_canReview fun hrole _ => List.mem_singleton.mpr hrole)
  | revoke actor input =>
    exact WritesOnly.map (writes_of_canReview fun hrole _ => List.mem_singleton.mpr hrole)

/-! ## The right to the rows

  The three requests that ask for more than a role, each with the rows on which it was asked. -/

section

variable {actor : AuthenticatedUser} {newId : Uuid} {l : Sess} {s : Db}

/-- The child of an application, as it was read. -/
def ChildAllowed (actor : AuthenticatedUser) (input : CreateScholarshipApplicationInput) (t : Db) :
    Prop :=
  ∃ child, t.childProfiles.find input.childProfileId = some child ∧
    (actor.role = .student ∨ child.ownerUserId = actor.userId)

/-- An application that commits is for a child that its actor may apply for. -/
theorem createScholarshipApplication_allowed {input : CreateScholarshipApplicationInput} :
    Outcomes (createScholarshipApplication newId actor input)
      (fun l s a => Applied newId input l s a ∧ ∃ t ∈ l.seen, ChildAllowed actor input t)
      Refused := by
  intro s
  refine Ends.check (fun _ _ => ⟨_, rfl⟩) fun _ _ => ?_
  refine Ends.select fun t₁ => Ends.okOr (fun _ => ⟨_, rfl⟩) fun pool hpool => ?_
  refine Ends.check (fun _ _ => ⟨_, rfl⟩) fun _ _ => ?_
  refine Ends.select fun t₂ => Ends.okOr (fun _ => ⟨_, rfl⟩) fun child hchild => ?_
  refine Ends.check (fun _ _ => ⟨_, rfl⟩) fun _ haccess => Ends.check (fun _ _ => ⟨_, rfl⟩) fun _ _ => ?_
  refine Ends.mapError_tail (Ends.beginTx (ends_insertUnique (fun _ => ⟨_, rfl⟩) fun hfresh => ?_))
  refine Ends.execute (fun r hr => by rw [show r = _ from hr]; simp [Session.lock]) ?_
  refine Ends.execute (fun _ hr => False.elim hr) (Ends.commit ?_)
  -- the last check before the transaction: a student, or the child's own parent
  have hright : actor.role = .student ∨ child.ownerUserId = actor.userId := by
    rw [Scholarships.validateChildProfileAccess] at haccess
    split at haccess
    · rename_i hright
      exact hright.imp id Eq.symm
    · cases haccess
  have hpoolSeen : t₁ ∈ [t₂, t₁] := by simp
  have hchildSeen : t₂ ∈ [t₂, t₁] := by simp
  exact ⟨⟨rfl, (Table.find_some hpool).2, rfl, ⟨t₁, hpoolSeen, pool, hpool⟩, eq_none_of_free hfresh,
    _, .inl rfl, rfl⟩, t₂, hchildSeen, child, hchild, hright⟩

/-- A contribution was recorded for a vault of the actor, or one that lists him: it was so when the
    vault was read, and owners stay. -/
theorem IntentRecorded.entitled {input : RecordContributionIntentInput} {a : Contribution}
    (h : IntentRecorded newId actor input l s a) (hseen : ∀ t ∈ l.seen, OwnersKept t s) :
    (Request.record newId actor input).Entitled s := by
  obtain ⟨t₁, ht₁, t₂, ht₂, vault, hvault, haccess, -⟩ := h.opened.allowed
  obtain ⟨v, hv, howner⟩ := (hseen t₁ ht₁).vault ⟨vault, hvault, rfl⟩
  refine ⟨v, hv, ?_⟩
  rw [howner, lists, (hseen t₂ ht₂).contributors]
  rw [Contributions.canViewOrFundVault] at haccess
  split at haccess
  · rename_i hown
    exact .inl ⟨hown.2, hown.1.symm⟩
  · split at haccess
    · rename_i hlisted
      exact .inr hlisted.1
    · cases haccess

/-- A payout was requested for a vault of the actor. -/
theorem PayoutCreated.entitled {input : CreatePayoutRequestInput} {a : PayoutRequest}
    (h : PayoutCreated newId actor input l s a) (hseen : ∀ t ∈ l.seen, OwnersKept t s) :
    (Request.createPayout newId actor input).Entitled s := by
  obtain ⟨t₁, ht₁, _, _, _, _, vault, _, _, hvault, _, _, howner, -⟩ := h.opened.allowed
  exact (hseen t₁ ht₁).vault ⟨vault, hvault, howner⟩

end

/-- What a request leaves when it commits, and that its actor may. -/
def Request.EffectAllowed (q : Request) (l : Sess) (s : Db) (b : Response) : Prop :=
  q.Effect l s b ∧ ((∀ t ∈ l.seen, OwnersKept t s) → q.Entitled s)

/-- **Every way a request can end**, its actor being entitled to the rows. -/
theorem Request.allowed (q : Request) : Outcomes q.program q.EffectAllowed q.Stops := by
  -- three operations compare the actor with a row; for the others there is nothing to show
  cases q with
  | record newId actor input =>
    refine (Request.detailed (.record newId actor input)).mono ?_ fun _ _ _ h => h
    intro l s b h
    refine ⟨h.effect, fun hseen => ?_⟩
    obtain ⟨a, -, h⟩ := h
    exact h.entitled hseen
  | createPayout newId actor input =>
    refine (Request.detailed (.createPayout newId actor input)).mono ?_ fun _ _ _ h => h
    intro l s b h
    refine ⟨h.effect, fun hseen => ?_⟩
    obtain ⟨a, -, h⟩ := h
    exact h.entitled hseen
  | createApplication newId actor input =>
    refine ((createScholarshipApplication_allowed.map Response.application).weaken
      fun _ _ _ => Refused.of_map).mono ?_ fun _ _ _ h => h
    rintro l s b ⟨a, hb, happlied, t, ht, child, hchild, hright⟩
    exact ⟨⟨a, hb, happlied⟩, fun hseen => ⟨child, (hseen t ht).children ▸ hchild, hright⟩⟩
  | _ => exact (Request.outcomes _).mono (fun _ _ _ h => ⟨h, fun _ => trivial⟩) fun _ _ _ h => h

/-- The effect of a request, the right of its actor, and the audit row that names him. -/
def Request.EffectFor (q : Request) (l : Sess) (s : Db) (b : Response) : Prop :=
  q.EffectAllowed l s b ∧ q.actor.role ∈ q.roles ∧
    ∃ log, q.Persists log ∧ (l.view s).audit = s.audit ++ [log]

/-- **Every way a request can end**, on whose authority. -/
theorem Request.authorised (q : Request) : Outcomes q.program q.EffectFor q.Stops := by
  have hboth : q.program.WritesOnly fun w =>
      EduStell.Audits q.Persists w ∧ q.actor.role ∈ q.roles :=
    q.writes_built.and q.writes_allowed
  refine (q.allowed.writes hboth).mono ?_ fun _ _ _ h => h
  rintro l s b ⟨hallowed, hwrites⟩
  obtain ⟨log, -, hview⟩ := hallowed.1.audit
  have hrows : [log] = auditRows l.writes :=
    List.append_cancel_left (hview.symm.trans (audit_view l s))
  have hlog : log ∈ auditRows l.writes := by
    rw [← hrows]
    exact List.mem_singleton_self log
  -- the commit has written a row, so its actor has the role
  obtain ⟨w, hw, -⟩ := List.mem_filterMap.mp hlog
  exact ⟨hallowed, (hwrites w hw).2, log, Audits.of_mem (fun w hw => (hwrites w hw).1) log hlog,
    hview⟩

/-- A persisted row names the actor of its request. -/
theorem Request.Persists.actor {q : Request} {log : AuditLog} (h : q.Persists log) :
    log.actorUserId = some q.actor.userId := by
  obtain ⟨op, built, hbuilds, hbuilt, rfl⟩ := h
  -- each builder takes the actor's id from the request
  cases q with
  | record newId actor input =>
    obtain ⟨amount, rfl⟩ := hbuilds
    cases hbuilt; rfl
  | settle tr actor input =>
    obtain ⟨current, rfl⟩ := hbuilds
    cases hbuilt; rfl
  | createPayout newId actor input =>
    obtain ⟨amount, vault, milestone, school, rfl⟩ := hbuilds
    cases hbuilt; rfl
  | review tr actor input =>
    obtain ⟨payout, vault, milestone, school, rfl⟩ := hbuilds
    cases hbuilt; rfl
  | verifySchool actor input =>
    obtain rfl := hbuilds
    cases hbuilt; rfl
  | createPool newId actor input =>
    obtain ⟨pool, rfl⟩ := hbuilds
    cases hbuilt; rfl
  | fundPool newId actor input =>
    obtain ⟨pool, contribution, rfl⟩ := hbuilds
    cases hbuilt; rfl
  | createApplication newId actor input =>
    obtain ⟨application, rfl⟩ := hbuilds
    cases hbuilt; rfl
  | approve newId actor input =>
    obtain ⟨application, award, pool, rfl⟩ := hbuilds
    cases hbuilt; rfl
  | reject newId actor input =>
    obtain ⟨application, award, pool, rfl⟩ := hbuilds
    cases hbuilt; rfl
  | disburse actor input =>
    obtain ⟨award, pool, rfl⟩ := hbuilds
    cases hbuilt; rfl
  | revoke actor input =>
    obtain ⟨award, pool, rfl⟩ := hbuilds
    cases hbuilt; rfl

/-! ## Runs

  Every row that a run adds to the trail belongs to a request of the run, names its actor, and its
  actor had the role and the right. -/

/-- The request was made in the run. -/
def Called (es : List Happening) (q : Request) : Prop := ∃ i, .call i q ∈ es

/-- A row that a request of the run has persisted, for an actor with the role for it and the right to
    the rows that are stored. -/
structure Accounted (es : List Happening) (s : Db) (q : Request) (log : AuditLog) : Prop where
  /-- The request was made in the run. -/
  called : Called es q
  /-- The row is one that the request can write. -/
  persisted : q.Persists log
  /-- The row names its actor. -/
  actor : log.actorUserId = some q.actor.userId
  /-- The actor has a role that the request is open to. -/
  role : q.actor.role ∈ q.roles
  /-- And the right to the rows that it is about. -/
  entitled : q.Entitled s

/-- The trail of `s` is that of `s₀` and rows that are accounted for. -/
def TrailAccounted (s₀ : Db) (es : List Happening) (s : Db) : Prop :=
  ∃ rows, s.audit = s₀.audit ++ rows ∧ ∀ log ∈ rows, ∃ q, Accounted es s q log

/-- Requests that keep the owners and account for what they add to the trail. -/
def authorityContract (s₀ : Db) (es : List Happening) :
    Contract Request.program Request.EffectFor Request.Stops where
  outcomes := Request.authorised
  inv := TrailAccounted s₀ es
  rely := OwnersKept
  arrivals := Called es
  cond _ _ _ := True
  refl := OwnersKept.refl
  trans := OwnersKept.trans
  keep {q l s b} hcalled hs hseen h _ := by
    have hkept := OwnersKept.view l s
    refine ⟨?_, hkept⟩
    obtain ⟨rows, haudit, hrows⟩ := hs
    obtain ⟨⟨-, hentitled⟩, hrole, log, hlog, hview⟩ := h
    refine ⟨rows ++ [log], by rw [hview, haudit, List.append_assoc], ?_⟩
    intro log' hmem
    rcases List.mem_append.mp hmem with hmem | hmem
    · -- an old row: what its actor was entitled to, he still is
      obtain ⟨q', h'⟩ := hrows log' hmem
      exact ⟨q', h'.called, h'.persisted, h'.actor, h'.role, hkept.entitled h'.entitled⟩
    · rw [List.mem_singleton.mp hmem]
      have hright := hentitled fun t ht => (hseen t ht).2
      exact ⟨q, hcalled, hlog, hlog.actor, hrole, hkept.entitled hright⟩

/-- The calls of a run are made in it. -/
theorem authority_within {s₀ : Db} {es : List Happening} (s : Db) :
    (authorityContract s₀ es).Within s es := by
  intro pre e post hes
  cases e with
  | call i q => exact ⟨i, by rw [hes]; simp⟩
  | step i => exact fun _ _ _ _ => trivial
  | drop i => trivial

/-- **Nothing is done without authority, and nothing unrecorded**: in every interleaved run the trail
    only grows, and each new row is that of a request of the run, names its actor, and he has the
    role for it and the right to the vault, or the child, as they are stored in the end.

    The rows are compared with the requests of the run by `Persists`, so a row cannot be another
    one's; and an entitlement that was there at the commit is still there in the end, since owners
    never change. -/
theorem trail_accountable (s : Db) (es : List Happening) :
    TrailAccounted s es (Sys.after s es).db :=
  ((authorityContract s es).sound ⟨[], (List.append_nil _).symm, fun _ h => by cases h⟩
    (authority_within s)).inv

/-! ## Without an administrator

  And what no administrator was there to decide has not been decided: without one, money moves
  into the pools and nowhere else. -/

/-- The pool, with at least the funds that it had. -/
def ToppedUp (x x' : ScholarshipPool) : Prop :=
  ∃ funds h, x' = x.setFunds funds h ∧ x.availableFunds.amountMinor ≤ funds

/-- What a run without administrators leaves: no money moves but into pools, and nothing is decided. -/
structure Undecided (s s' : Db) : Prop where
  /-- No total of a vault has moved. -/
  vaults : s'.vaults = s.vaults
  /-- No ledger entry was added. -/
  ledger : s'.ledger = s.ledger
  /-- No school has changed its status. -/
  schools : s'.schools = s.schools
  /-- No award was granted, disbursed or revoked. -/
  awards : s'.awards = s.awards
  /-- New contributions are pending, and the others are as they were. -/
  contributions : Table.Grows (fun c : Contribution => c.status = .pending) s.contributions
    s'.contributions
  /-- New payouts are pending, and the others are as they were. -/
  payouts : Table.Grows (fun p : PayoutRequest => p.status = .pending) s.payouts s'.payouts
  /-- New applications are to be decided, and the others are as they were. -/
  applications : Table.Grows (fun a : ScholarshipApplication => a.status = .submitted) s.applications
    s'.applications
  /-- Donations are only added. -/
  donorContributions : Table.Grows (fun d : DonorContribution => d.status = .confirmed)
    s.donorContributions s'.donorContributions
  /-- No pool has lost money. -/
  pools : ∀ id x, s.pools.find id = some x → ∃ x', s'.pools.find id = some x' ∧ ToppedUp x x'

namespace ToppedUp

variable {x y z : ScholarshipPool}

/-- Nothing has come in. -/
theorem refl (x : ScholarshipPool) : ToppedUp x x :=
  ⟨x.availableFunds.amountMinor, x.availableFunds.nonneg, rfl, Int64.le_refl _⟩

/-- What has come in adds up. -/
theorem trans (hxy : ToppedUp x y) (hyz : ToppedUp y z) : ToppedUp x z := by
  obtain ⟨funds, h, rfl, hle⟩ := hxy
  obtain ⟨funds', h', rfl, hle'⟩ := hyz
  exact ⟨funds', h', rfl, Int64.le_trans hle hle'⟩

end ToppedUp

namespace Undecided

variable {s t u : Db}

/-- Nothing has been decided yet. -/
theorem refl (s : Db) : Undecided s s where
  vaults := rfl
  ledger := rfl
  schools := rfl
  awards := rfl
  contributions := .refl _
  payouts := .refl _
  applications := .refl _
  donorContributions := .refl _
  pools _ x hx := ⟨x, hx, .refl x⟩

/-- What no stretch has decided is undecided. -/
theorem trans (hst : Undecided s t) (htu : Undecided t u) : Undecided s u where
  vaults := htu.vaults.trans hst.vaults
  ledger := htu.ledger.trans hst.ledger
  schools := htu.schools.trans hst.schools
  awards := htu.awards.trans hst.awards
  contributions := hst.contributions.trans htu.contributions
  payouts := hst.payouts.trans htu.payouts
  applications := hst.applications.trans htu.applications
  donorContributions := hst.donorContributions.trans htu.donorContributions
  pools id x hx := by
    obtain ⟨x', hx', hup⟩ := hst.pools id x hx
    obtain ⟨x'', hx'', hup'⟩ := htu.pools id x' hx'
    exact ⟨x'', hx'', hup.trans hup'⟩

/-- Funds that are added do not wrap around: the check on the column would refuse them. -/
theorem fund_le {newId : Uuid} {input : FundScholarshipPoolInput} {l : Sess} {pool : ScholarshipPool}
    {donation : DonorContribution} (h : PoolFunded newId input l s pool donation) :
    pool.availableFunds.amountMinor ≤ pool.availableFunds.amountMinor + input.amountMinor := by
  have hsum := toInt_add_of_nonneg pool.availableFunds.nonneg (Int64.le_of_lt h.positive) h.nonneg
  have hpos : 0 < input.amountMinor.toInt := by simpa [Int64.lt_iff_toInt_lt] using h.positive
  rw [Int64.le_iff_toInt_le, hsum]
  omega

/-- The commit of a request that is open to others than administrators only. -/
theorem commit {q : Request} {l : Sess} {b : Response} (h : q.EffectFor l s b)
    (hrole : q.actor.role ≠ .platformAdmin) : Undecided s (l.view s) := by
  obtain ⟨⟨heffect, -⟩, hopen, -⟩ := h
  -- the actor has the role that an operation of one role asks for
  have hclosed : ∀ {role : UserRole}, q.actor.role ∈ [role] → role ≠ .platformAdmin := by
    intro role hmem
    rw [← List.mem_singleton.mp hmem]
    exact hrole
  have hsame := refl s
  cases q with
  | record newId actor input =>
    obtain ⟨a, -, h⟩ := heffect
    obtain ⟨log, -, -, hview⟩ := h.view
    have hfresh : s.contributions.find (Keyed.key a) = none := by
      rw [show Keyed.key a = _ from h.id]
      exact h.fresh
    rw [hview]
    exact { hsame with contributions := Table.grows_insert hfresh h.status }
  | createPayout newId actor input =>
    obtain ⟨a, -, h⟩ := heffect
    obtain ⟨log, -, -, hview⟩ := h.view
    have hfresh : s.payouts.find (Keyed.key a) = none := by
      rw [show Keyed.key a = _ from h.id]
      exact h.fresh
    rw [hview]
    exact { hsame with payouts := Table.grows_insert hfresh h.status }
  | createPool newId actor input =>
    obtain ⟨a, -, h⟩ := heffect
    obtain ⟨log, -, hview⟩ := h.view
    rw [hview]
    refine { hsame with pools := fun id x hx => ?_ }
    exact ⟨x, Table.find_insert_of_some hx a, .refl x⟩
  | fundPool newId actor input =>
    obtain ⟨a, -, pool, h⟩ := heffect
    obtain ⟨log, -, hview⟩ := h.view
    have hfresh : s.donorContributions.find (Keyed.key a.2) = none := by
      rw [show Keyed.key a.2 = _ from h.id]
      exact h.fresh
    rw [hview]
    refine { hsame with
      donorContributions := Table.grows_insert hfresh h.status
      pools := fun id x hx => ?_ }
    -- the funded pool has grown; any other one is unchanged
    obtain ⟨x', hx', rfl | ⟨-, rfl, rfl⟩⟩ := Table.find_replace_row
      (y := pool.setFunds (pool.availableFunds.amountMinor + input.amountMinor) h.nonneg) h.locked
      (Table.find_some h.locked).2 hx
    · exact ⟨x', hx', .refl x'⟩
    · exact ⟨_, hx', _, h.nonneg, rfl, fund_le h⟩
  | createApplication newId actor input =>
    obtain ⟨a, -, h⟩ := heffect
    obtain ⟨log, -, hview⟩ := h.view
    have hfresh : s.applications.find (Keyed.key a) = none := by
      rw [show Keyed.key a = _ from h.id]
      exact h.fresh
    rw [hview]
    exact { hsame with applications := Table.grows_insert hfresh h.status }
  -- what is left is open to administrators alone
  | _ => exact absurd rfl (hclosed hopen)

end Undecided

/-- Requests that leave everything undecided: those whose actor is no administrator. -/
def undecidedContract (s₀ : Db) : Contract Request.program Request.EffectFor Request.Stops where
  outcomes := Request.authorised
  inv := Undecided s₀
  rely _ _ := True
  arrivals q := q.actor.role ≠ .platformAdmin
  cond _ _ _ := True
  refl _ := trivial
  trans _ _ := trivial
  keep hrole hs _ h _ := ⟨hs.trans (.commit h hrole), trivial⟩

/-- **Only administrators decide**: in an interleaved run without a request of theirs no vault, ledger
    entry, school or award changes, every contribution, payout and application stays as it was, new
    ones are pending, and pools only receive funds.

    The proof looks at single commits, each of a request whose actor has one of the roles for it;
    `Undecided` is transitive, so it holds from the start to the end of the run. -/
theorem undecided_without_admin (s : Db) (es : List Happening)
    (h : ∀ i q, .call i q ∈ es → q.actor.role ≠ .platformAdmin) :
    Undecided s (Sys.after s es).db := by
  have hwithin : (undecidedContract s).Within s es := by
    intro pre e post hes
    cases e with
    | call i q => exact h i q (by rw [hes]; simp)
    | step i => exact fun _ _ _ _ => trivial
    | drop i => trivial
  exact ((undecidedContract s).sound (.refl s) hwithin).inv

open Scenario in
/-- A parent records, another request of his is under way, and a donor founds a pool. -/
theorem undecided_without_admin_family :
    Undecided family (Sys.after family
      (.call 1 (payout 2 20) :: alone 0 (record 1 50) 12 ++ alone 2 (createPool 3) 8)).db := by
  refine undecided_without_admin family _ ?_
  intro i q hcall
  simp only [alone, List.cons_append, List.mem_cons, List.mem_append, List.mem_replicate,
    Event.call.injEq] at hcall
  rcases hcall with ⟨-, rfl⟩ | ⟨-, rfl⟩ | ⟨-, hstep⟩ | ⟨-, rfl⟩ | ⟨-, hstep⟩
  · decide
  · decide
  · cases hstep
  · decide
  · cases hstep

end EduStell
