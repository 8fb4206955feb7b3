/-
  Every request is answered, whichever requests go on.

  `workflows_never_deadlock` counts the row locks of the transactions.  Here EVERY wait counts, that
  for an entry of a unique index included, and the requests are whole service calls: what they read
  before the transaction takes no lock, and the transaction takes its locks by increasing rank.

  One pair of locks has no order of its own: a decision makes the index entry of its award while it
  holds the pool, and a step of an award locks the award before the pool.  The id of an award is
  drawn inside the decision and known to nobody before its answer, so the two never name the same
  award while both are under way; with the entries of the awards that are being created ranked last
  (`fresh`), all locks go up.

  Nothing is assumed of the scheduler but that it lets a request go on that can.  The one
  condition is on the state (`Sys.FreshAwards`), and a run in which nobody guesses the id of an
  award has it.
-/
import EduStell.Integrity.Deadlock
import EduStell.Txn.Progress

namespace EduStell

open Txn Program Persistence

/-! ## The order of the locks

  The rank of a resource, and what a request has to promise about awards for the ranks to be good.
  -/

namespace LockRank

/-- Rows that a request is about come first, then what holds the money, then the entries of unique
    indexes in the order in which an INSERT checks them: `fresh` are the awards being created. -/
def rank (fresh : Uuid → Bool) : Resource → Nat
  | .vault _ => 1
  | .pool _ => 1
  | .contributionKey _ => 1
  | .payoutKey _ => 1
  | .donorContribution _ => 2
  | .donorContributionKey _ => 3
  | .award id => if fresh id then 2 else 0
  | _ => 0

/-- No rank is above that of a donor key. -/
theorem rank_le (fresh : Uuid → Bool) (r : Resource) : rank fresh r ≤ 3 := by
  cases r with
  | award id =>
    simp only [rank]
    split <;> omega
  | _ => simp [rank]

/-- A lock is taken after those of smaller rank, if the request is a `good` one. -/
def Rising (good : Prop) (fresh : Uuid → Bool) (held : List Resource) (r : Resource) : Prop :=
  good → System.ByRank (fun (_ : Unit) _ => True) (rank fresh) () held r

variable {good : Prop} {fresh : Uuid → Bool}

/-- A lock above all that are held. -/
theorem rising_of_lt {held : List Resource} {r : Resource}
    (h : good → ∀ r' ∈ held, rank fresh r' < rank fresh r) : Rising good fresh held r :=
  fun hgood _ r' hr' _ => .inr (h hgood r' hr')

/-- The first lock of a transaction. -/
theorem rising_first {r : Resource} : Rising good fresh [] r :=
  rising_of_lt fun _ _ hr => by cases hr

/-- A lock above the one that is held. -/
theorem rising_second {r r' : Resource} (h : rank fresh r' < rank fresh r) :
    Rising good fresh [r'] r :=
  rising_of_lt fun _ x hx => by rw [List.mem_singleton.mp hx]; exact h

variable {α β : Type} {Q : β → List Resource → Prop} {held : List Resource}

/-! ## The statements of a service

  Only the transaction of a service takes locks, and it is the last thing that the service sends. -/

/-- A check takes no lock. -/
theorem orderly_check {ε : Type} [IntoServiceError ε] {r : Except ε α} {k : α → Tx ServiceError β}
    (h : ∀ a, (k a).Orderly (Rising good fresh) Q held) : (check r >>= k).Orderly (Rising good fresh) Q held :=
  .ofExcept fun a _ => h a

/-- A check that is made only in some cases takes no lock. -/
theorem orderly_checkIf {ε : Type} [IntoServiceError ε] {c : Prop} [Decidable c]
    {r : Except ε Unit} {k : Unit → Tx ServiceError β} (h : (k ()).Orderly (Rising good fresh) Q held) :
    (checkIf c r >>= k).Orderly (Rising good fresh) Q held := by
  unfold checkIf
  split
  · exact orderly_check fun _ => h
  · exact h

/-- The transaction is the last thing that a service sends. -/
theorem orderly_workflow {p : Tx PersistenceError α} {k : α → Tx ServiceError β}
    (hp : p.Orderly (Rising good fresh) (fun _ _ => True) []) (h : ∀ a held, (k a).Orderly (Rising good fresh) Q held) :
    (workflow p >>= k).Orderly (Rising good fresh) Q [] := by
  refine .bind (Orderly.mapError ?_)
  have hmono : ∀ (p : Tx PersistenceError α) held, p.Orderly (Rising good fresh) (fun _ _ => True) held →
      p.Orderly (Rising good fresh) (fun a held => (k a).Orderly (Rising good fresh) Q held) held := by
    intro p
    induction p with
    | ret a => exact fun held _ => h a held
    | fail e => exact fun _ _ => trivial
    | read g ih => exact fun held hg s => ih s held (hg s)
    | start g ih => exact fun held hg => ih held hg
    | lock r g ih => exact fun held hg => ⟨hg.1, fun s => ih _ _ (hg.2 s)⟩
    | write w g ih => exact fun held hg => ⟨hg.1, ih held hg.2⟩
    | commit g ih => exact fun _ hg => ih [] hg
    | rollback g ih => exact fun _ hg => ih [] hg
  exact hmono p [] hp

/-- The transaction that a service ends with. -/
theorem orderly_workflow_tail {p : Tx PersistenceError β}
    (hp : p.Orderly (Rising good fresh) (fun _ _ => True) []) :
    (workflow p).Orderly (Rising good fresh) (fun _ _ => True) [] :=
  Orderly.mapError hp

/-! ## The transactions

  The index entries count here, and come after the rows. -/

/-- The entry of the new contribution, then that of its key. -/
theorem orderly_createIntent {contribution : Contribution} {log : AuditLog} :
    (createIntentWithAudit contribution log).Orderly (Rising good fresh) (fun _ _ => True) [] := by
  refine .beginTx (.failIf fun _ => Workflow.orderly_insertUnique rising_first ?_)
  refine Workflow.orderly_insertUniqueKey (fun key _ => rising_second Nat.zero_lt_one) ?_
  intro held hmore hkeys
  refine .ofExcept fun amount _ => .execute ?_ (Workflow.orderly_tail trivial)
  rintro r (rfl | ⟨key, hkey, rfl⟩)
  · exact hmore _ List.mem_cons_self
  · exact hkeys key hkey

/-- The contribution, then its vault. -/
theorem orderly_settle {id : Uuid} {status : String} {actor : Uuid} {ref : Option String}
    {log : AuditLog} :
    (settleWithAudit id status actor ref log).Orderly (Rising good fresh) (fun _ _ => True) [] := by
  have hvault : ∀ vaultId, Rising good fresh [.contribution id] (.vault vaultId) :=
    fun _ => rising_second Nat.zero_lt_one
  refine .beginTx (.forUpdate rising_first fun s => .okOr fun contribution hrow => ?_)
  have hid : contribution.id = id := (Table.find_some hrow).2
  refine .ofExcept fun target _ => .ite ?_ ?_
  · exact .forUpdate (hvault _) fun s => .okOr fun vault _ => .rollbackTx (.pure trivial)
  refine .forUpdate (hvault _) fun s => .okOr fun vault hfound => ?_
  have hvaultId : vault.id = contribution.vaultId := (Table.find_some hfound).2
  refine .execute ?_ (.bind (Workflow.orderly_settleVault ?_ fun v => Workflow.orderly_tail trivial))
  · rintro r rfl
    rw [hid]; simp
  · rw [hvaultId]; exact List.mem_cons_self

/-- The school. -/
theorem orderly_verify {id : Uuid} {status : String} {actor : Uuid} {log : AuditLog} :
    (verifyWithAudit id status actor log).Orderly (Rising good fresh) (fun _ _ => True) [] := by
  refine .beginTx (.forUpdate rising_first fun s => .okOr fun school hrow => .ofExcept ?_)
  intro target _
  have hid : school.id = id := (Table.find_some hrow).2
  refine .execute ?_ (Workflow.orderly_tail trivial)
  rintro r rfl
  rw [hid]; exact List.mem_cons_self

/-- The entry of the new payout, then that of its key. -/
theorem orderly_createRequest {payout : PayoutRequest} {log : AuditLog} :
    (createRequestWithAudit payout log).Orderly (Rising good fresh) (fun _ _ => True) [] := by
  refine .beginTx (.failIf fun _ => Workflow.orderly_insertUnique rising_first ?_)
  refine Workflow.orderly_insertUniqueKey (fun key _ => rising_second Nat.zero_lt_one) ?_
  intro held hmore hkeys
  refine .ofExcept fun amount _ => .execute ?_ (Workflow.orderly_tail trivial)
  rintro r (rfl | ⟨key, hkey, rfl⟩)
  · exact hmore _ List.mem_cons_self
  · exact hkeys key hkey

/-- The payout, then its vault. -/
theorem orderly_transition {id : Uuid} {status : String} {actor : Uuid} {notes ref : Option String}
    {log : AuditLog} :
    (transitionWithAudit id status actor notes ref log).Orderly (Rising good fresh) (fun _ _ => True) [] := by
  have hvault : ∀ vaultId, Rising good fresh [.payout id] (.vault vaultId) :=
    fun _ => rising_second Nat.zero_lt_one
  refine .beginTx (.forUpdate rising_first fun s => .okOr fun payout hrow => ?_)
  have hid : payout.id = id := (Table.find_some hrow).2
  refine .ofExcept fun target _ => .ite ?_ ?_
  · exact .forUpdate (hvault _) fun s => .okOr fun vault _ => .rollbackTx (.pure trivial)
  refine .forUpdate (hvault _) fun s => .okOr fun vault hfound => ?_
  have hvaultId : vault.id = payout.vaultId := (Table.find_some hfound).2
  refine .execute ?_
    (.bind (Workflow.orderly_transitionVault ?_ fun v => Workflow.orderly_tail trivial))
  · rintro r rfl
    rw [hid]; simp
  · rw [hvaultId]; exact List.mem_cons_self

/-- The entry of the new pool. -/
theorem orderly_createPool {pool : ScholarshipPool} {log : AuditLog} :
    (createPoolWithAudit pool log).Orderly (Rising good fresh) (fun _ _ => True) [] := by
  refine .beginTx (Workflow.orderly_insertUnique rising_first (.ofExcept fun funds _ => ?_))
  refine .execute ?_ (Workflow.orderly_tail trivial)
  rintro r rfl
  exact List.mem_cons_self

/-- The pool, then the entries of the new contribution. -/
theorem orderly_fundPool {contribution : DonorContribution} {log : AuditLog} :
    (fundPoolWithAudit contribution log).Orderly (Rising good fresh) (fun _ _ => True) [] := by
  refine .beginTx (.forUpdate rising_first fun s => .okOr fun pool hpool => ?_)
  have hid : pool.id = contribution.poolId := (Table.find_some hpool).2
  refine .bind (Workflow.orderly_updatePoolFunds (hid ▸ List.mem_cons_self) fun updated => ?_)
  refine .failIf fun _ => Workflow.orderly_insertUnique (rising_second (Nat.lt_add_one 1)) ?_
  refine Workflow.orderly_insertUniqueKey (fun key _ => rising_of_lt ?_) ?_
  · intro _ r hr
    rcases List.mem_cons.mp hr with rfl | hr
    · show 2 < 3
      omega
    · rw [List.mem_singleton.mp hr]
      show 1 < 3
      omega
  · intro held hmore hkeys
    refine .ofExcept fun amount _ => .execute ?_ (Workflow.orderly_tail trivial)
    rintro r (rfl | ⟨key, hkey, rfl⟩)
    · exact hmore _ List.mem_cons_self
    · exact hkeys key hkey

/-- The entry of the new application. -/
theorem orderly_createApplication {application : ScholarshipApplication} {log : AuditLog} :
    (createApplicationWithAudit application log).Orderly (Rising good fresh) (fun _ _ => True) [] := by
  refine .beginTx (Workflow.orderly_insertUnique rising_first (.execute ?_ ?_))
  · rintro r rfl
    exact List.mem_cons_self
  · exact Workflow.orderly_tail trivial

/-- The award of a good decision is one of those being created. -/
theorem orderly_decideApplication {id : Uuid} {status : String} {award : ScholarshipAward}
    {funds : Int64} {log : AuditLog} (hfresh : good → fresh award.id) :
    (decideApplicationWithAudit id status award funds log).Orderly (Rising good fresh)
      (fun _ _ => True) [] := by
  -- application, pool, award: each lock ranks above those that are held
  refine .beginTx (.forUpdate rising_first fun s => .okOr fun application hrow => ?_)
  have hid : application.id = id := (Table.find_some hrow).2
  refine .ofExcept fun target _ => .execute ?_ ?_
  · rintro r rfl
    rw [hid]; exact List.mem_cons_self
  refine .forUpdate (rising_second Nat.zero_lt_one) fun s => .okOr fun pool hpool => ?_
  have hpoolId : pool.id = application.poolId := (Table.find_some hpool).2
  refine .bind (Workflow.orderly_updatePoolFunds ?_ fun updated => ?_)
  · rw [hpoolId]; exact List.mem_cons_self
  refine Workflow.orderly_insertUnique (rising_of_lt ?_) ?_
  · -- a fresh award ranks above the application and the pool
    intro hgood r hr
    have haward : rank fresh (.award award.id) = 2 := if_pos (hfresh hgood)
    rw [haward]
    rcases List.mem_cons.mp hr with rfl | hr
    · show 1 < 2
      omega
    · rw [List.mem_singleton.mp hr]
      show 0 < 2
      omega
  · refine .ofExcept fun amount _ => .execute ?_ (Workflow.orderly_tail trivial)
    rintro r rfl
    exact List.mem_cons_self

/-- The award that a good request moves is not one of those being created. -/
theorem orderly_transitionAward {id : Uuid} {status : String} {payout vault : Option Uuid}
    {funds : Int64} {log : AuditLog} (hfresh : good → ¬ fresh id) :
    (transitionAwardWithAudit id status payout vault funds log).Orderly (Rising good fresh)
      (fun _ _ => True) [] := by
  refine .beginTx (.forUpdate rising_first fun s => .okOr fun award hrow => ?_)
  have hid : award.id = id := (Table.find_some hrow).2
  refine .ofExcept fun target _ => .execute ?_ ?_
  · rintro r rfl
    rw [hid]; exact List.mem_cons_self
  refine .select fun s => .okOr fun application _ => .forUpdate (rising_of_lt ?_) fun s => ?_
  · intro hgood r hr
    have haward : rank fresh (.award id) = 0 := if_neg (hfresh hgood)
    rw [List.mem_singleton.mp hr, haward]
    exact Nat.zero_lt_one
  refine .okOr fun pool hpool => ?_
  have hpoolId : pool.id = application.poolId := (Table.find_some hpool).2
  refine .bind (Workflow.orderly_updatePoolFunds ?_ fun updated => Workflow.orderly_tail trivial)
  rw [hpoolId]; exact List.mem_cons_self

/-! ## The services

  Reads and checks in front of a transaction change nothing about its locks. -/

/-- The reads take no lock, and the transaction takes its own. -/
theorem orderly_recordContributionIntent {newId : Uuid} {actor : AuthenticatedUser}
    {input : RecordContributionIntentInput} :
    (recordContributionIntent newId actor input).Orderly (Rising good fresh) (fun _ _ => True) [] := by
  refine .failIf fun _ => orderly_check fun _ => .select fun s => .okOr fun vault _ => ?_
  refine .select fun s => orderly_check fun _ => orderly_check fun _ => .select fun s => ?_
  cases contributionByIdempotencyKey s input.idempotencyKey with
  | some existing => exact .ofExcept fun _ _ => .pure trivial
  | none => exact .ofExcept fun amount _ => orderly_workflow_tail orderly_createIntent

/-- The lookup takes no lock, and the transaction takes its own. -/
theorem orderly_settleContribution {actor : AuthenticatedUser} {input : SettlementInput}
    {transition : ContributionTransition} {action : String} :
    (settleContribution actor input transition action).Orderly (Rising good fresh) (fun _ _ => True) [] := by
  refine orderly_check fun _ => .select fun s => .okOr fun current _ => orderly_check fun target => ?_
  exact .ite (.pure trivial) (orderly_workflow orderly_settle fun _ _ => .pure trivial)

/-- The reads take no lock, and the transaction takes its own. -/
theorem orderly_createPayoutRequest {newId : Uuid} {actor : AuthenticatedUser}
    {input : CreatePayoutRequestInput} :
    (createPayoutRequest newId actor input).Orderly (Rising good fresh) (fun _ _ => True) [] := by
  refine orderly_check fun _ => orderly_check fun _ => .select fun s => ?_
  cases payoutByIdempotencyKey s input.idempotencyKey with
  | some existing => exact .ite (.pure trivial) trivial
  | none =>
    refine .select fun s => .okOr fun vault _ => .failIf fun _ => .select fun s => ?_
    refine .okOr fun milestone _ => .select fun s => .okOr fun school _ => ?_
    refine orderly_check fun _ => orderly_check fun _ => orderly_check fun _ => ?_
    refine orderly_check fun _ => orderly_check fun _ => .ofExcept fun amount _ => ?_
    exact orderly_workflow_tail orderly_createRequest

/-- The lookup takes no lock, and the transaction takes its own. -/
theorem orderly_reviewTransition {actor : AuthenticatedUser} {input : ReviewPayoutInput}
    {transition : PayoutTransition} {action : String} :
    (reviewTransition actor input transition action).Orderly (Rising good fresh) (fun _ _ => True) [] := by
  refine orderly_check fun _ => .select fun s => .okOr fun payout _ => orderly_check fun target => ?_
  refine .ite (.pure trivial) (.select fun s => .okOr fun school _ => .select fun s => ?_)
  refine .okOr fun milestone _ => .select fun s => .okOr fun vault _ => ?_
  refine orderly_check fun _ => orderly_check fun _ => orderly_checkIf (orderly_checkIf ?_)
  exact orderly_workflow orderly_transition fun _ _ => .pure trivial

/-- The transaction is all there is. -/
theorem orderly_verifySchool {actor : AuthenticatedUser} {input : VerifySchoolInput} :
    (verifySchool actor input).Orderly (Rising good fresh) (fun _ _ => True) [] :=
  .ofExcept fun _ _ => orderly_workflow_tail orderly_verify

/-- The transaction is all there is, after the checks. -/
theorem orderly_createScholarshipPool {newId : Uuid} {actor : AuthenticatedUser}
    {input : CreateScholarshipPoolInput} :
    (createScholarshipPool newId actor input).Orderly (Rising good fresh) (fun _ _ => True) [] :=
  .failIf fun _ => .failIf fun _ => .ofExcept fun _ _ => orderly_workflow_tail orderly_createPool

/-- The lookup takes no lock, and the transaction takes its own. -/
theorem orderly_fundScholarshipPool {newId : Uuid} {actor : AuthenticatedUser}
    {input : FundScholarshipPoolInput} :
    (fundScholarshipPool newId actor input).Orderly (Rising good fresh) (fun _ _ => True) [] := by
  refine orderly_check fun _ => orderly_check fun _ => .select fun s => .okOr fun pool _ => ?_
  refine orderly_check fun _ => orderly_check fun _ => .ofExcept fun amount _ => ?_
  exact orderly_workflow_tail orderly_fundPool

/-- The reads take no lock, and the transaction takes its own. -/
theorem orderly_createScholarshipApplication {newId : Uuid} {actor : AuthenticatedUser}
    {input : CreateScholarshipApplicationInput} :
    (createScholarshipApplication newId actor input).Orderly (Rising good fresh) (fun _ _ => True) [] := by
  refine orderly_check fun _ => .select fun s => .okOr fun pool _ => orderly_check fun _ => ?_
  refine .select fun s => .okOr fun child _ => orderly_check fun _ => orderly_check fun _ => ?_
  exact orderly_workflow_tail orderly_createApplication

/-- The award is one that is being created, so its entry is ranked last. -/
theorem orderly_approveApplication {newId : Uuid} {actor : AuthenticatedUser}
    {input : DecideScholarshipApplicationInput} (hfresh : good → fresh newId) :
    (approveApplication newId actor input).Orderly (Rising good fresh) (fun _ _ => True) [] := by
  refine orderly_check fun _ => orderly_check fun _ => .select fun s => .okOr fun application _ => ?_
  refine orderly_check fun _ => .select fun s => .okOr fun pool _ => orderly_check fun _ => ?_
  refine orderly_check fun _ => .ofExcept fun amount _ => ?_
  exact orderly_workflow (orderly_decideApplication hfresh) fun _ _ => .pure trivial

/-- A rejection creates an award too. -/
theorem orderly_rejectApplication {newId : Uuid} {actor : AuthenticatedUser}
    {input : DecideScholarshipApplicationInput} (hfresh : good → fresh newId) :
    (rejectApplication newId actor input).Orderly (Rising good fresh) (fun _ _ => True) [] := by
  refine orderly_check fun _ => .select fun s => .okOr fun application _ => ?_
  refine orderly_check fun _ => .select fun s => .okOr fun pool _ => .ofExcept fun amount _ => ?_
  exact orderly_workflow (orderly_decideApplication hfresh) fun _ _ => .pure trivial

/-- The award is not one that is being created, so its row is ranked first. -/
theorem orderly_disburseAward {actor : AuthenticatedUser} {input : UpdateScholarshipAwardInput}
    (hfresh : good → ¬ fresh input.awardId) :
    (disburseAward actor input).Orderly (Rising good fresh) (fun _ _ => True) [] := by
  refine orderly_check fun _ => .select fun s => .okOr fun award hrow => orderly_check fun target => ?_
  have hid : award.id = input.awardId := (Table.find_some hrow).2
  refine .select fun s => .okOr fun application _ => .select fun s => .okOr fun pool _ => ?_
  refine orderly_workflow (orderly_transitionAward ?_) fun _ _ => .pure trivial
  rw [hid]; exact hfresh

/-- So it is with a revocation. -/
theorem orderly_revokeAward {actor : AuthenticatedUser} {input : UpdateScholarshipAwardInput}
    (hfresh : good → ¬ fresh input.awardId) :
    (revokeAward actor input).Orderly (Rising good fresh) (fun _ _ => True) [] := by
  refine orderly_check fun _ => .select fun s => .okOr fun award hrow => orderly_check fun target => ?_
  have hid : award.id = input.awardId := (Table.find_some hrow).2
  refine .select fun s => .okOr fun application _ => .select fun s => .okOr fun pool _ => ?_
  refine orderly_workflow (orderly_transitionAward ?_) fun _ _ => .pure trivial
  rw [hid]; exact hfresh

end LockRank

/-! ## The requests

  A request is good if the award that it creates is one of `fresh`, and the award that it moves is
  none of them.  In a state where no request moves an award that another one is creating, such a
  list can be chosen. -/

/-- The award that a request creates. -/
def Request.createdAward : Request → Option Uuid
  | .approve newId _ _ => some newId
  | .reject newId _ _ => some newId
  | _ => none

/-- The award that a request moves. -/
def Request.movedAward : Request → Option Uuid
  | .disburse _ input => some input.awardId
  | .revoke _ input => some input.awardId
  | _ => none

/-- The request creates an award of `fresh`, or moves one that is not of `fresh`, or neither. -/
def Request.Good (fresh : Uuid → Bool) (q : Request) : Prop :=
  (∀ id, q.createdAward = some id → fresh id) ∧ ∀ id, q.movedAward = some id → ¬ fresh id

/-- A request whose award is fresh, or not, as it should be, takes its locks by increasing rank. -/
theorem Request.orderly (fresh : Uuid → Bool) (q : Request) :
    q.program.Orderly (LockRank.Rising (q.Good fresh) fresh) (fun _ _ => True) [] := by
  -- the order of the locks of each operation; a decision and an award's transition need their
  -- condition
  cases q with
  | record => exact .map LockRank.orderly_recordContributionIntent
  | settle tr =>
    refine .map ?_
    rw [settlement_eq]
    exact LockRank.orderly_settleContribution
  | createPayout => exact .map LockRank.orderly_createPayoutRequest
  | review tr =>
    refine .map ?_
    rw [reviewStep_eq]
    exact LockRank.orderly_reviewTransition
  | verifySchool => exact .map LockRank.orderly_verifySchool
  | createPool => exact .map LockRank.orderly_createScholarshipPool
  | fundPool => exact .map LockRank.orderly_fundScholarshipPool
  | createApplication => exact .map LockRank.orderly_createScholarshipApplication
  | approve newId => exact .map (LockRank.orderly_approveApplication fun hgood => hgood.1 newId rfl)
  | reject newId => exact .map (LockRank.orderly_rejectApplication fun hgood => hgood.1 newId rfl)
  | disburse actor input =>
    exact .map (LockRank.orderly_disburseAward fun hgood => hgood.2 input.awardId rfl)
  | revoke actor input =>
    exact .map (LockRank.orderly_revokeAward fun hgood => hgood.2 input.awardId rfl)

/-- No request under way moves an award that another one under way is creating. -/
def Sys.FreshAwards (S : Sys) : Prop :=
  ∀ i j q q' p p' l l' id, S.slots i = .running q p l → S.slots j = .running q' p' l' →
    q.createdAward = some id → q'.movedAward ≠ some id

/-- **Every run comes to an end with every request answered**: from the state after any events,
    whichever requests that need not wait for a lock go next, after finitely many statements none is
    under way any more.

    `FreshAwards` is asked of the state alone: the id of an award under creation is drawn at random,
    so no request can know it yet.  From there the locks rise in rank for every request under way,
    and somebody can always go on. -/
theorem requests_inevitably_answered (s : Db) (es : List Happening)
    (hfresh : (Sys.after s es).FreshAwards) :
    System.Inevitably Request.program System.Answered (Sys.after s es) := by
  classical
  let fresh : Uuid → Bool := fun id => decide (∃ i q p l,
    (Sys.after s es).slots i = .running q p l ∧ q.createdAward = some id)
  have hgood : ∀ i q p l, (Sys.after s es).slots i = .running q p l → Request.Good fresh q := by
    intro i q p l hslot
    constructor
    · intro id hcreated
      exact decide_eq_true ⟨i, q, p, l, hslot, hcreated⟩
    · intro id hmoved hid
      obtain ⟨j, q', p', l', hslot', hcreated⟩ := of_decide_eq_true hid
      exact hfresh j i q' q p' p l' l id hslot' hslot hcreated hmoved
  exact System.inevitably_answered (LockRank.rank_le fresh) (Request.orderly fresh) s es hgood

open Scenario in
/-- A decision that creates award 50 and a step of award 60, both under way. -/
theorem requests_inevitably_answered_together :
    System.Inevitably Request.program System.Answered
      (Sys.after pupil [.call 0 (approve 50 40 100), .call 1 (disburse 60)]) := by
  refine requests_inevitably_answered pupil _ ?_
  intro i j q q' p p' l l' id hi hj hcreated hmoved
  -- only the first request creates an award, and only the second one moves one
  have hwho : ∀ {i q p l}, (Sys.after pupil [.call 0 (approve 50 40 100),
      .call 1 (disburse 60)]).slots i = .running q p l →
      q = approve 50 40 100 ∨ q = disburse 60 := by
    intro i q p l hslot
    change (if i = 1 then _ else if i = 0 then _ else Slot.idle) = _ at hslot
    split at hslot
    · cases hslot; exact .inr rfl
    · split at hslot
      · cases hslot; exact .inl rfl
      · cases hslot
  rcases hwho hi with rfl | rfl
  · cases hcreated
    rcases hwho hj with rfl | rfl <;> cases hmoved
  · cases hcreated

end EduStell
