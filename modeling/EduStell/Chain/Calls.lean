/-
  What the facade does to the world, call by call.

  The first part has one rule for each thing a facade program is made of, in the form "call, then
  rest".  The second part puts them together: `submit_along` and `reconcile_along` say which worlds a
  submission and a reconciliation commit on their way, and in which they end.  Whoever reasons about
  runs starts from these two.

  The two descriptions are exact about what is left behind: a submission that ends with an error
  may have called the submitter, or may have written its record without the reference.
-/
import EduStell.Chain.Service
import EduStell.Savings.StatusEdges

namespace EduStell.Chain

open Txn Program

/-! ## Worlds

  A world is changed in a few ways only; naming them lets the ends of a request be read as
  equations between worlds. -/

/-- One call more has been made to the submitter. -/
def World.submit (w : World) (x : Submission) : World :=
  (w.1, { w.2 with submissions := w.2.submissions ++ [x] })

/-- One record more has been written. -/
def World.record (w : World) (row : BlockchainTransactionRecord) : World :=
  (w.1, { w.2 with transactionRecords := w.2.transactionRecords.insert row })

/-- Two worlds that differ in external references and audit rows only. -/
structure SameRecords (w w' : World) : Prop where
  contributions : w'.1.contributions = w.1.contributions
  transactionRecords : w'.2.transactionRecords = w.2.transactionRecords
  submissions : w'.2.submissions = w.2.submissions

/-- Nothing has changed. -/
theorem SameRecords.refl (w : World) : SameRecords w w := ⟨rfl, rfl, rfl⟩

/-! ## Calls

  Each call of the facade is a transaction of its own, so each rule ends with a commit: a request
  that dies after it leaves what it has written. -/

section Rules

variable {α β : Type} {P : World → Prop} {Q : Except Failure β → World → Prop}
  {l : Session World (EduStell.Resource ⊕ Resource) (EduStell.Write ⊕ Write)} {s : Db} {t : ChainDb}

/-- A repository call in the facade: its errors become errors of the facade. -/
theorem along_repository {p : ChainTx PersistenceError α} {k : α → Facade β} (hl : l.writes = [])
    (h : p.Along (fun t => P (s, t)) (fun r t => match r with
      | .ok a => (k a).Along P Q Session.init (s, t)
      | .error e => Q (.error (.facade (.ofPersistence e))) (s, t)) Session.init t) :
    (repository p >>= k).Along P Q l (s, t) := by
  refine Along.call (Along.congr (l := Session.init) hl.symm ?_)
  refine Along.mapError (Along.inr (h.mono (fun _ ht => ht) fun r t ht => ?_))
  cases r with
  | ok a => exact ht
  | error e => exact ht

/-- A call of the contribution service in the facade: its errors become errors of the facade. -/
theorem along_contributionService {p : Tx ContributionError α} {k : α → Facade β}
    (hl : l.writes = [])
    (h : p.Along (fun s => P (s, t)) (fun r s => match r with
      | .ok a => (k a).Along P Q Session.init (s, t)
      | .error e => Q (.error (.facade (.ofContribution e))) (s, t)) Session.init s) :
    (contributionService p >>= k).Along P Q l (s, t) := by
  refine Along.call (Along.congr (l := Session.init) hl.symm ?_)
  refine Along.mapError (Along.inl (h.mono (fun _ hs => hs) fun r s hs => ?_))
  cases r with
  | ok a => exact hs
  | error e => exact hs

/-- An answer of a client: its error ends the request, or the rest goes on. -/
theorem along_ofClient {w : World} {r : Except BlockchainError α} {k : α → Facade β}
    (herr : ∀ e, r = .error e → Q (.error (.facade (.ofBlockchain e))) w)
    (h : ∀ a, r = .ok a → (k a).Along P Q l w) : (ofClient r >>= k).Along P Q l w := by
  cases r with
  | ok a => exact h a rfl
  | error e => exact herr e rfl

/-- The call of the submitter counts before its answer is looked at. -/
theorem along_submitTransaction {w : World} {provider : Provider} {contributionId : Uuid}
    {request : TransactionSubmissionRequest} {k : SubmittedTransaction → Facade β}
    (hl : l.writes = []) (hP : P (w.submit ⟨contributionId, request⟩))
    (herr : ∀ e, provider.submitTransaction request = .error e →
      Q (.error (.facade (.ofBlockchain e))) (w.submit ⟨contributionId, request⟩))
    (h : ∀ a, provider.submitTransaction request = .ok a →
      (k a).Along P Q Session.init (w.submit ⟨contributionId, request⟩)) :
    (submitTransaction provider contributionId request >>= k).Along P Q l w := by
  refine Along.congr (l := Session.init) hl.symm ?_
  simp only [submitTransaction, bind_assoc]
  refine Along.execute (Along.commitTx hP ?_)
  exact along_ofClient herr fun a ha => Along.congr (l := Session.init) rfl (h a ha)

/-- The audit row is a transaction of its own. -/
theorem along_recordAudit {auditLog : AuditLog} {k : Unit → Facade β} (hl : l.writes = [])
    (hP : ∀ log, P ({ s with audit := s.audit ++ [log] }, t))
    (h : ∀ log, (k ()).Along P Q Session.init ({ s with audit := s.audit ++ [log] }, t)) :
    (recordAudit auditLog >>= k).Along P Q l (s, t) := by
  simp only [recordAudit, bind_assoc]
  refine Along.congr (l := Session.init) hl.symm (Along.beginTx ?_)
  refine Along.execute (Along.commitTx (hP _) ?_)
  exact Along.congr (l := Session.init) rfl (h _)

end Rules

/-! ## Statements of the repositories

  The ends of the three write statements, for their own tables: the entry is taken, or the row is
  there. -/

/-- A unique index entry: an error if it is taken, or the rest under its lock. -/
theorem ends_insertUnique {α : Type} {r : Resource} {taken : Content r → Bool} {constraint : String}
    {k : Unit → ChainTx PersistenceError α} {E : Session ChainDb Resource Write → ChainDb → α → Prop}
    {N : Session ChainDb Resource Write → ChainDb → Except PersistenceError α → Prop}
    {l : Session ChainDb Resource Write} {t : ChainDb}
    (htaken : taken (Store.get (l.view t) r) = true →
      N (l.lock r) t (.error (.uniqueViolation constraint)))
    (h : taken (Store.get (l.view t) r) = false → Ends (k ()) E N (l.lock r) t) :
    Ends (insertUnique r taken constraint >>= k) E N l t := by
  rw [insertUnique, bind_assoc]
  refine Ends.forUpdate (Ends.failIf htaken fun hfree => h ?_)
  exact Bool.not_eq_true _ ▸ hfree

/-- A unique index has an entry of the new record, or its id is taken. -/
def RecordTaken (row : BlockchainTransactionRecord) (t : ChainDb) : Prop :=
  (t.transactionRecords.find row.id).isSome ∨
  t.transactionRecords.any (fun x => x.idempotencyKey = row.idempotencyKey) ∨
  t.transactionRecords.any (fun x => x.IsFor row.entityType row.entityId row.operationKind)

/-- A record is written if its id, its key and its entry are free. -/
theorem createTransactionRecord_outcomes {row : BlockchainTransactionRecord}
    (hrow : row.nextRetryAt = none) :
    Outcomes (createTransactionRecord row)
      (fun l t a => a = row ∧ t.transactionRecords.find row.id = none ∧
        l.view t = (Write.insertTransactionRecord row).apply t)
      (fun l t r => Refused l t r ∧ RecordTaken row t) := by
  have hstored : { row with nextRetryAt := row.nextRetryAt.map DateTime.toTimestamptz } = row := by
    rw [hrow, Option.map_none, ← hrow]
  intro t
  rw [createTransactionRecord, hstored]
  refine Ends.beginTx (ends_insertUnique (fun hid => ⟨⟨_, rfl⟩, .inl hid⟩) fun hfree => ?_)
  refine ends_insertUnique (fun hkey => ⟨⟨_, rfl⟩, .inr (.inl hkey)⟩) fun _ => ?_
  refine ends_insertUnique (fun hentry => ⟨⟨_, rfl⟩, .inr (.inr hentry)⟩) fun _ => ?_
  refine Ends.execute (fun r hr => ?_) (Ends.commit ⟨rfl, ?_, rfl⟩)
  · rcases hr with rfl | rfl | rfl <;> simp [Session.lock]
  · exact Persistence.eq_none_of_free hfree

/-- A record is updated if it is there. -/
theorem updateTransactionRecord_outcomes {record : BlockchainTransactionRecord} :
    Outcomes (updateTransactionRecord record)
      (fun l t a => ∃ row, t.transactionRecords.find record.id = some row ∧ a = row.set record ∧
        l.view t = { t with transactionRecords := t.transactionRecords.replace (row.set record) })
      (fun l t r => Refused l t r ∧ t.transactionRecords.find record.id = none) := by
  intro t
  refine Ends.beginTx (Ends.forUpdate (Ends.okOr (fun hnone => ⟨⟨_, rfl⟩, hnone⟩) fun row hrow => ?_))
  refine Ends.execute (fun r hr => ?_) (Ends.commit ⟨row, hrow, rfl, ?_⟩)
  · rw [show r = _ from hr]; simp [Session.lock]
  · rw [Session.view_write]
    exact congrArg (fun rows => { t with transactionRecords := rows })
      (Table.modify_eq_replace hrow (fun r => r.set record) fun _ hk => hk)

/-- A reference is written if its id and its entry are free. -/
theorem createExternalReference_outcomes {reference : ExternalReference} :
    Outcomes (createExternalReference reference)
      (fun l t a => a = reference ∧ l.view t = (Write.insertExternalReference reference).apply t)
      Refused := by
  intro t
  refine Ends.beginTx (ends_insertUnique (fun _ => ⟨_, rfl⟩) fun _ => ?_)
  refine ends_insertUnique (fun _ => ⟨_, rfl⟩) fun _ => ?_
  refine Ends.execute (fun r hr => ?_) (Ends.commit ⟨rfl, rfl⟩)
  rcases hr with rfl | rfl <;> simp [Session.lock]

/-- The hash is stored as a reference and audited, or one of the two fails; the records stay as they
    are in any case. -/
theorem along_storeTxHashReference {β : Type} {P : World → Prop}
    {Q : Except Failure β → World → Prop}
    {l : Session World (EduStell.Resource ⊕ Resource) (EduStell.Write ⊕ Write)} {w : World}
    {newId contributionId : Uuid} {actorUserId : Option Uuid} {txHash : String} {k : Unit → Facade β}
    (hl : l.writes = []) (hP : ∀ w', SameRecords w w' → P w')
    (herr : ∀ e w', SameRecords w w' → Q (.error e) w')
    (h : ∀ w', SameRecords w w' → (k ()).Along P Q Session.init w') :
    (storeTxHashReference newId actorUserId contributionId txHash >>= k).Along P Q l w := by
  obtain ⟨s, t⟩ := w
  simp only [storeTxHashReference, bind_assoc]
  refine along_repository hl ?_
  refine Along.of_outcomes createExternalReference_outcomes ?_ ?_
  · rintro l r - ⟨e, rfl⟩
    exact herr _ _ (.refl _)
  · rintro l a - ⟨rfl, hview⟩
    rw [hview]
    refine ⟨hP _ ⟨rfl, rfl, rfl⟩, Along.okOr ?_ ?_⟩
    · exact fun _ => herr _ _ ⟨rfl, rfl, rfl⟩
    · intro log _
      exact along_recordAudit rfl (fun _ => hP _ ⟨rfl, rfl, rfl⟩) fun _ => h _ ⟨rfl, rfl, rfl⟩

/-! ## A submission

  `SubmitReady` is everything up to the call of the submitter, in one condition.  From there the
  request has four ways to go: the submitter fails, the record cannot be written, the reference or
  its event cannot, or all of it is done. -/

/-- What a submission has read when it calls the submitter. -/
structure SubmitReads where
  contribution : Contribution
  vault : SavingsVault
  contractReference : ExternalReference
  prepared : PreparedTransaction

namespace SubmitReads

/-- The request to the submitter. -/
def request (x : SubmitReads) (input : SubmitContributionOnchainInput) :
    TransactionSubmissionRequest :=
  ⟨input.idempotencyKey, x.prepared, input.signingBoundary⟩

/-- The call of the submitter that is counted. -/
def submission (x : SubmitReads) (input : SubmitContributionOnchainInput) : Submission :=
  ⟨x.contribution.id, x.request input⟩

/-- The record of the submission. -/
def record (x : SubmitReads) (draw : SubmitDraw) (input : SubmitContributionOnchainInput)
    (submitted : SubmittedTransaction) : BlockchainTransactionRecord :=
  submittedRecord draw.recordId x.contribution x.vault x.contractReference input.idempotencyKey
    submitted

end SubmitReads

section

variable (provider : Provider) (draw : SubmitDraw) (input : SubmitContributionOnchainInput) (w : World)

/-- Nothing stops the request before it calls the submitter. -/
structure SubmitReady (x : SubmitReads) : Prop where
  found : w.1.contributions.find input.contributionId = some x.contribution
  vaultFound : w.1.vaults.find x.contribution.vaultId = some x.vault
  referenceFound : findContractReference draw.contractReferenceId x.vault w.2 =
    some x.contractReference
  /-- No record has the key of the call. -/
  unused : transactionRecordByIdempotencyKey input.idempotencyKey w.2 = none
  /-- The transaction can be prepared. -/
  prepared : buildPreparedTransaction provider x.contribution x.contractReference
    input.signingBoundary input.idempotencyKey = .ok x.prepared

/-- The submitter has answered and the record is written; the reference and its audit row may be. -/
structure SubmitRecorded (x : SubmitReads) (submitted : SubmittedTransaction) (w' : World) : Prop where
  ready : SubmitReady provider draw input w x
  /-- The submitter has answered with a transaction. -/
  answered : provider.submitTransaction (x.request input) = .ok submitted
  /-- The id of the record was free. -/
  fresh : w.2.transactionRecords.find draw.recordId = none
  /-- But for the reference and its audit row, the world is the one with the call and the record. -/
  same : SameRecords ((w.submit (x.submission input)).record (x.record draw input submitted)) w'

/-- What a submission commits. -/
inductive SubmitCommit : World → Prop
  | submitted {x : SubmitReads} (ready : SubmitReady provider draw input w x) :
    SubmitCommit (w.submit (x.submission input))
  | recorded {x : SubmitReads} {submitted : SubmittedTransaction} {w' : World}
    (h : SubmitRecorded provider draw input w x submitted w') : SubmitCommit w'

/-- How a submission ends. -/
inductive SubmitEnd : Except Failure ContributionOnchainSubmission → World → Prop
  /-- Before the submitter is called. -/
  | refused (e : Failure) : SubmitEnd (.error e) w
  /-- The key has a record, which is the answer. -/
  | known {contribution : Contribution} {existing : BlockchainTransactionRecord}
    (prepared : PreparedTransaction)
    (found : w.1.contributions.find input.contributionId = some contribution)
    (used : transactionRecordByIdempotencyKey input.idempotencyKey w.2 = some existing) :
    SubmitEnd (.ok ⟨contribution, existing, prepared, none⟩) w
  /-- The submitter has failed: the call has gone out. -/
  | unanswered {x : SubmitReads} {e : BlockchainError} (ready : SubmitReady provider draw input w x)
    (answered : provider.submitTransaction (x.request input) = .error e) :
    SubmitEnd (.error (.facade (.ofBlockchain e))) (w.submit (x.submission input))
  /-- The submitter has answered, but the record cannot be stored. -/
  | unrecorded {x : SubmitReads} {submitted : SubmittedTransaction} (e : Failure)
    (ready : SubmitReady provider draw input w x)
    (answered : provider.submitTransaction (x.request input) = .ok submitted)
    (taken : RecordTaken (x.record draw input submitted) w.2) :
    SubmitEnd (.error e) (w.submit (x.submission input))
  /-- The record is stored, but the reference or its audit row is not. -/
  | unreferenced {x : SubmitReads} {submitted : SubmittedTransaction} {w' : World} (e : Failure)
    (h : SubmitRecorded provider draw input w x submitted w') : SubmitEnd (.error e) w'
  /-- All of it is done. -/
  | recorded {x : SubmitReads} {submitted : SubmittedTransaction} {w' : World}
    (h : SubmitRecorded provider draw input w x submitted w') :
    SubmitEnd (.ok ⟨x.contribution, x.record draw input submitted, x.prepared, some submitted⟩) w'

end

/-- **Every way a submission can go.** -/
theorem submit_along {provider : Provider} {draw : SubmitDraw}
    {input : SubmitContributionOnchainInput} {w : World} :
    (submitContributionOnchain provider draw input).Along (SubmitCommit provider draw input w)
      (SubmitEnd provider draw input w) Session.init w := by
  refine Along.select (Along.okOr (fun _ => .refused _) fun contribution hfound => ?_)
  refine Along.select (Along.okOr (fun _ => .refused _) fun vault hvault => ?_)
  refine Along.select (Along.okOr (fun _ => .refused _) fun contractReference hreference => ?_)
  refine Along.select ?_
  cases hkey : transactionRecordByIdempotencyKey input.idempotencyKey w.2 with
  | some existing =>
    rw [Session.view_saw, Session.view_saw, Session.view_saw, Session.view_init, hkey]
    exact along_ofClient (fun _ _ => .refused _) fun prepared _ => .known prepared hfound hkey
  | none =>
    rw [Session.view_saw, Session.view_saw, Session.view_saw, Session.view_init, hkey]
    refine along_ofClient (fun _ _ => .refused _) fun prepared hprepared => ?_
    have hready : SubmitReady provider draw input w
        ⟨contribution, vault, contractReference, prepared⟩ :=
      ⟨hfound, hvault, hreference, hkey, hprepared⟩
    refine along_submitTransaction rfl (.submitted hready) (fun e he => .unanswered hready he) ?_
    intro submitted hsubmitted
    refine along_repository rfl (Along.of_outcomes (createTransactionRecord_outcomes rfl) ?_ ?_)
    · rintro l r - ⟨⟨e, rfl⟩, htaken⟩
      exact .unrecorded _ hready hsubmitted htaken
    · rintro l record - ⟨rfl, hfresh, hview⟩
      rw [hview]
      have hrecorded : ∀ w', SameRecords _ w' → SubmitRecorded provider draw input w _ submitted w' :=
        fun w' => SubmitRecorded.mk hready hsubmitted hfresh
      refine ⟨.recorded (hrecorded _ (.refl _)), along_storeTxHashReference rfl ?_ ?_ ?_⟩
      · exact fun w' h => .recorded (hrecorded w' h)
      · exact fun e w' h => .unreferenced e (hrecorded w' h)
      · exact fun w' h => .recorded (hrecorded w' h)

/-! ## The services next to the facade

  What a service does to the contributions, whoever calls it, are steps along edges.  So between
  two calls of the facade a contribution moves along edges as well. -/

/-- Contributions stay, and their statuses move along edges. -/
def EdgesOnly (s s' : Db) : Prop :=
  ∀ id c, s.contributions.find id = some c → ∃ c', s'.contributions.find id = some c' ∧
    (c'.status = c.status ∨ Contributions.Edge c.status c'.status)

/-- Nothing has moved. -/
theorem EdgesOnly.refl (s : Db) : EdgesOnly s s := fun _ c hc => ⟨c, hc, .inl rfl⟩

/-- What one request after another does to a contribution is a step along an edge. -/
theorem EdgesOnly.of_effect {q : EduStell.Request} {l : Sess} {s : Db} {b : Response}
    (h : q.Effect l s b) (hseen : ∀ t ∈ l.seen, t = s) : EdgesOnly s (l.view s) := by
  intro id c hc
  obtain ⟨c', hc', hcases⟩ := contribution_row h hc
  refine ⟨c', hc', ?_⟩
  rcases hcases with rfl | ⟨tr, actor, input, t, current, vault, vault', entries, -, hx, rfl⟩
  · exact .inl rfl
  · exact .inr (hx.serial hseen)

/-- A request of the services, wherever it is cut off. -/
theorem service_along (q : EduStell.Request) (s : Db) :
    q.program.Along (EdgesOnly s) (fun _ => EdgesOnly s) Session.init s := by
  refine Along.of_outcomes (Request.outcomes q) ?_ ?_
  · exact fun _ _ _ _ => .refl s
  · intro l b hseen h
    exact ⟨.of_effect h hseen, .of_effect h hseen⟩

/-- The contribution is there and has the status that the transition leads to. -/
def Reached (tr : ContributionTransition) (contributionId : Uuid) (s : Db) : Prop :=
  ∃ c, s.contributions.find contributionId = some c ∧ c.status = tr.targetStatus

/-- A settlement that answers has brought the contribution to its target, or found it there. -/
theorem settleContribution_along {tr : ContributionTransition} {actor : AuthenticatedUser}
    {input : SettlementInput} {s : Db} :
    (settleContribution actor input tr tr.auditAction).Along (EdgesOnly s)
      (fun r s' => EdgesOnly s s' ∧ ∀ a, r = .ok a → Reached tr input.contributionId s')
      Session.init s := by
  refine Along.of_outcomes settleContribution_outcomes ?_ ?_
  · intro l r hseen h
    refine ⟨.refl s, ?_⟩
    rintro a rfl
    cases h with
    | unchanged _ ht hfound hstatus =>
      have hread := hseen _ (ht ▸ List.mem_cons_self)
      exact ⟨a, hread ▸ hfound, hstatus⟩
    | repeated _ hlocked hstatus => exact ⟨a, hlocked, hstatus⟩
  · intro l a hseen h
    have heffect : (EduStell.Request.settle tr actor input).Effect l s (.contribution a) :=
      ⟨a, rfl, h⟩
    have hedges : EdgesOnly s (l.view s) := .of_effect heffect hseen
    obtain ⟨t, current, row, vault, vault', entries, h, rfl⟩ := h
    refine ⟨hedges, hedges, fun _ _ => ⟨settledRow tr input row, ?_, rfl⟩⟩
    obtain ⟨-, hid⟩ := Table.find_some h.locked
    rw [h.view]
    exact Table.find_replace_self h.locked hid

/-! ## A reconciliation

  A status that settles nothing leaves the contribution alone.  Otherwise its service is called,
  and the record is updated only when it has answered without an error. -/

/-- The settlement that a status calls for. -/
def TransactionStatus.transition (status : TransactionStatus) : Option ContributionTransition :=
  match status.state with
  | .succeeded => some .confirm
  | .failed => if status.retryable then none else some .fail
  | .pending | .unknown => none

/-- The contribution has been brought in line with the status. -/
def Settles (status : TransactionStatus) (contributionId : Uuid) (s s' : Db) : Prop :=
  match status.transition with
  | some tr => EdgesOnly s s' ∧ Reached tr contributionId s'
  | none => s' = s

/-- A settlement moves along edges. -/
theorem Settles.edgesOnly {status : TransactionStatus} {contributionId : Uuid} {s s' : Db}
    (h : Settles status contributionId s s') : EdgesOnly s s' := by
  rw [Settles] at h
  split at h
  · exact h.1
  · exact h ▸ .refl s

/-- An observation is of the same record. -/
@[simp] theorem observe_id (record : BlockchainTransactionRecord) (now : DateTime)
    (status : TransactionStatus) : (record.observe now status).id = record.id := by
  rw [BlockchainTransactionRecord.observe]
  split <;> rfl

/-- The record and the status that a reconciliation has read, and the world after its last write. -/
structure ReconcileUpdated (provider : Provider) (now : DateTime) (contributionId : Uuid) (w : World)
    (record : BlockchainTransactionRecord) (status : TransactionStatus) (w' : World) : Prop where
  /-- The record of the contribution. -/
  found : transactionRecordByEntity .contribution contributionId vaultContribution w.2 = some record
  /-- The record has a hash, and this is what the chain says of it. -/
  looked : ∃ txHash, record.txHash = some txHash ∧
    provider.lookupTransactionStatus ⟨txHash⟩ = .ok status
  /-- The contribution has been brought in line before. -/
  settles : Settles status contributionId w.1 w'.1
  /-- The record is updated, and nothing else of the facade. -/
  view : w'.2 = { w.2 with
    transactionRecords := w.2.transactionRecords.replace (record.set (record.observe now status)) }

/-- The record that a reconciliation reads is the one of its contribution. -/
theorem ReconcileUpdated.isFor {provider : Provider} {now : DateTime} {contributionId : Uuid}
    {w w' : World} {record : BlockchainTransactionRecord} {status : TransactionStatus}
    (h : ReconcileUpdated provider now contributionId w record status w') :
    record.IsFor .contribution contributionId vaultContribution := by
  have hfound := h.found
  rw [transactionRecordByEntity] at hfound
  have hdecide := List.find?_some hfound
  exact of_decide_eq_true hdecide

/-- What an update does not set, the table is asked as before. -/
theorem ReconcileUpdated.any {provider : Provider} {now : DateTime} {contributionId : Uuid}
    {w w' : World} {record : BlockchainTransactionRecord} {status : TransactionStatus}
    (h : ReconcileUpdated provider now contributionId w record status w')
    {p : BlockchainTransactionRecord → Bool} (hp : ∀ r record, p (r.set record) = p r) :
    w'.2.transactionRecords.any p = w.2.transactionRecords.any p := by
  have hrow : w.2.transactionRecords.find record.id = some record :=
    Table.find_key (List.mem_of_find?_eq_some h.found)
  have hkey : ∀ r : BlockchainTransactionRecord, Keyed.key r = record.id →
      Keyed.key (r.set (record.observe now status)) = record.id := fun _ hk => hk
  rw [h.view, ← Table.modify_eq_replace hrow (fun r => r.set (record.observe now status)) hkey]
  exact Table.any_modify _ _ _ hkey fun r => hp r _

/-- What a reconciliation commits on its way, and how it ends. -/
inductive ReconcileLeaves (provider : Provider) (now : DateTime) (contributionId : Uuid) (w : World) :
    World → Prop
  | settled {s' : Db} (h : EdgesOnly w.1 s') :
    ReconcileLeaves provider now contributionId w (s', w.2)
  | updated {record : BlockchainTransactionRecord} {status : TransactionStatus} {w' : World}
    (h : ReconcileUpdated provider now contributionId w record status w') :
    ReconcileLeaves provider now contributionId w w'

/-- The contribution is settled before the record is updated; its service commits on its own. -/
theorem along_settleObserved {β : Type} {P : World → Prop} {Q : Except Failure β → World → Prop}
    {l : Session World (EduStell.Resource ⊕ Resource) (EduStell.Write ⊕ Write)} {s : Db} {t : ChainDb}
    {actor : AuthenticatedUser} {input : SettlementInput} {status : TransactionStatus}
    {k : Option Contribution → Facade β} (hl : l.writes = []) (hP : ∀ s', EdgesOnly s s' → P (s', t))
    (herr : ∀ e s', EdgesOnly s s' → Q (.error e) (s', t))
    (h : ∀ a s', Settles status input.contributionId s s' →
      (k a).Along P Q Session.init (s', t)) :
    (settleObserved actor input status >>= k).Along P Q l (s, t) := by
  -- both settlements are one service with a transition
  have hsettle : ∀ tr, status.transition = some tr →
      ((some <$> contributionService (settleContribution actor input tr tr.auditAction)) >>=
        k).Along P Q l (s, t) := by
    intro tr htr
    rw [bind_map_left]
    refine along_contributionService hl ?_
    refine settleContribution_along.mono hP fun r s' hr => ?_
    cases r with
    | error e => exact herr _ s' hr.1
    | ok a => exact h (some a) s' (by rw [Settles, htr]; exact ⟨hr.1, hr.2 a rfl⟩)
  have hskip : status.transition = none → (k none).Along P Q l (s, t) := by
    intro hnone
    refine Along.congr (l := Session.init) hl.symm (h none s ?_)
    rw [Settles, hnone]
  rw [settleObserved]
  cases hstate : status.state with
  | succeeded => exact hsettle .confirm (by rw [TransactionStatus.transition, hstate])
  | failed =>
    by_cases hretry : status.retryable = true
    · rw [if_pos hretry]
      exact hskip (by simp only [TransactionStatus.transition, hstate, if_pos hretry])
    · rw [if_neg hretry]
      exact hsettle .fail (by simp only [TransactionStatus.transition, hstate, if_neg hretry])
  | pending => exact hskip (by rw [TransactionStatus.transition, hstate])
  | unknown => exact hskip (by rw [TransactionStatus.transition, hstate])

/-- **Every way a reconciliation can go.** -/
theorem reconcile_along {provider : Provider} {now : DateTime}
    {systemActorUserId contributionId : Uuid} {w : World} :
    (reconcileContributionTransaction provider now systemActorUserId contributionId).Along
      (ReconcileLeaves provider now contributionId w)
      (fun _ => ReconcileLeaves provider now contributionId w) Session.init w := by
  have hstop : ReconcileLeaves provider now contributionId w w := .settled (.refl w.1)
  refine Along.select ?_
  rw [Session.view_init]
  cases hfound : transactionRecordByEntity .contribution contributionId vaultContribution w.2 with
  | none => exact hstop
  | some record =>
    refine Along.okOr (fun _ => hstop) fun txHash hhash => ?_
    refine along_ofClient (fun _ _ => hstop) fun status hstatus => ?_
    refine along_settleObserved rfl (fun s' h => .settled h) (fun e s' h => .settled h) ?_
    intro a s' hsettles
    have hrow : w.2.transactionRecords.find (record.observe now status).id = some record := by
      rw [observe_id]
      exact Table.find_key (List.mem_of_find?_eq_some hfound)
    refine along_repository rfl (Along.of_outcomes updateTransactionRecord_outcomes ?_ ?_)
    · rintro l r - ⟨-, hgone⟩
      cases hrow.symm.trans hgone
    · rintro l b - ⟨row, hlocked, rfl, hview⟩
      obtain rfl : record = row := Option.some.inj (hrow.symm.trans hlocked)
      have hupdated : ReconcileLeaves provider now contributionId w (s', l.view w.2) :=
        .updated ⟨hfound, ⟨txHash, hhash, hstatus⟩, hsettles, hview⟩
      exact ⟨hupdated, hupdated⟩

end EduStell.Chain
