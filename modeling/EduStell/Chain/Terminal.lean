/-
  What a later look at the chain makes of a finished record.

  A reconciliation does not ask whether the record that it has found is finished.  It settles the
  contribution, and the contribution refuses an answer that contradicts the one before: then nothing
  is written.  An answer that settles nothing (the transaction is open, or has failed and may be
  tried again) gets past it, and the record is given the status that goes with the answer.  So a
  finished record stays finished as long as the chain does not go back on its word.

  The plan: `updated_status` is the case that matters, a reconciliation that gets to its last
  write; from it one request keeps the finished records if and only if its answer is final
  (`finishedStay_iff`); and the agreement of records and contributions, which every run keeps,
  makes this a theorem about runs.
-/
import EduStell.Chain.Reconciliation

namespace EduStell.Chain

open Txn Program

/-- The statuses from which a record does not move on by design. -/
def BlockchainTransactionStatus.isTerminal : BlockchainTransactionStatus → Bool
  | .confirmed | .failed => true
  | .pending | .submitted | .retryScheduled => false

/-- Records stay, and those that are finished keep their status. -/
def FinishedStay (w w' : World) : Prop :=
  ∀ id r, w.2.transactionRecords.find id = some r → r.status.isTerminal = true →
    ∃ r', w'.2.transactionRecords.find id = some r' ∧ r'.status = r.status

/-- Nothing has changed. -/
theorem FinishedStay.refl (w : World) : FinishedStay w w := fun _ r hr _ => ⟨r, hr, rfl⟩

/-- What stays over two stretches stays over both. -/
theorem FinishedStay.trans {w w' w'' : World} (h : FinishedStay w w') (h' : FinishedStay w' w'') :
    FinishedStay w w'' := by
  intro id r hr hterminal
  obtain ⟨r', hr', hstatus⟩ := h id r hr hterminal
  obtain ⟨r'', hr'', hstatus'⟩ := h' id r' hr' (hstatus ▸ hterminal)
  exact ⟨r'', hr'', hstatus'.trans hstatus⟩

/-- Where the records are the same, the finished ones are too. -/
theorem FinishedStay.of_records {w w' : World}
    (h : w'.2.transactionRecords = w.2.transactionRecords) : FinishedStay w w' := by
  intro id r hr _
  exact ⟨r, by rw [h]; exact hr, rfl⟩

/-- A reconciliation of a finished record is told that the transaction has succeeded, or that it has
    failed and is not to be tried again. -/
def FinalAnswer : Request → World → Prop
  | .reconcile provider _ _ contributionId, w => ∀ record txHash status,
    transactionRecordByEntity .contribution contributionId vaultContribution w.2 = some record →
    record.status.isTerminal = true → record.txHash = some txHash →
    provider.lookupTransactionStatus ⟨txHash⟩ = .ok status →
    status.state = .succeeded ∨ (status.state = .failed ∧ status.retryable = false)
  | .submit .., _ | .service _, _ => True

/-! ## One reconciliation

  A finished record and its contribution agree, as every run leaves them (`RecordsAgree`).
  Therefore a final answer can only be the one that the record already holds, or an error. -/

section

variable {provider : Provider} {now : DateTime} {contributionId : Uuid} {w w' : World}
  {record : BlockchainTransactionRecord} {status : TransactionStatus}

/-- A final answer settles the contribution, and the record follows it. -/
theorem final_settles
    (h : status.state = .succeeded ∨ (status.state = .failed ∧ status.retryable = false)) :
    (status.transition = some .confirm ∧ (record.observe now status).status = .confirmed) ∨
    (status.transition = some .fail ∧ (record.observe now status).status = .failed) := by
  rcases h with hstate | ⟨hstate, hretry⟩
  · left
    simp only [TransactionStatus.transition, BlockchainTransactionRecord.observe, hstate, and_self]
  · right
    simp only [TransactionStatus.transition, BlockchainTransactionRecord.observe, hstate, hretry,
      Bool.false_eq_true, if_false, and_self]

/-- The contribution has been settled the way the record says, so it lets only the same answer
    pass. -/
theorem updated_status (hw : RecordsAgree w) (hterminal : record.status.isTerminal = true)
    (hfinal : status.state = .succeeded ∨ (status.state = .failed ∧ status.retryable = false))
    (h : ReconcileUpdated provider now contributionId w record status w') :
    (record.observe now status).status = record.status := by
  obtain ⟨hcontribution, hentity, -⟩ := h.isFor
  have hmem : record ∈ w.2.transactionRecords.rows := List.mem_of_find?_eq_some h.found
  have hreached : ∀ tr, status.transition = some tr → Reached tr record.entityId w'.1 := by
    intro tr htr
    have hsettles := h.settles
    rw [Settles, htr] at hsettles
    exact hentity ▸ hsettles.2
  -- what the record has said before still agrees with the contribution
  have hsettled : RecordsAgree (w'.1, w.2) := hw.edges h.settles.edgesOnly rfl
  cases hstatus : record.status with
  | confirmed =>
    rcases final_settles hfinal with ⟨-, hto⟩ | ⟨htr, -⟩
    · exact hto
    · obtain ⟨c', hc', hfailed⟩ := hreached _ htr
      obtain ⟨c, hc, hcases⟩ := hsettled.confirmed record hmem hcontribution hstatus
      obtain rfl : c = c' := Option.some.inj (hc.symm.trans hc')
      rcases hcases with hconfirmed | hreversed
      · cases hconfirmed.symm.trans hfailed
      · cases hreversed.symm.trans hfailed
  | failed =>
    rcases final_settles hfinal with ⟨htr, -⟩ | ⟨-, hto⟩
    · obtain ⟨c', hc', hconfirmed⟩ := hreached _ htr
      obtain ⟨c, hc, hfailed⟩ := hsettled.failed record hmem hcontribution hstatus
      obtain rfl : c = c' := Option.some.inj (hc.symm.trans hc')
      cases hconfirmed.symm.trans hfailed
    · exact hto
  | pending => rw [hstatus] at hterminal; cases hterminal
  | submitted => rw [hstatus] at hterminal; cases hterminal
  | retryScheduled => rw [hstatus] at hterminal; cases hterminal

/-- The row that a reconciliation writes is the only one that it changes. -/
theorem FinishedStay.updated (h : ReconcileUpdated provider now contributionId w record status w')
    (hkept : record.status.isTerminal = true →
      (record.observe now status).status = record.status) : FinishedStay w w' := by
  have hrow : w.2.transactionRecords.find record.id = some record :=
    Table.find_key (List.mem_of_find?_eq_some h.found)
  intro id r hr hterminal
  rw [h.view]
  obtain ⟨r', hr', rfl | ⟨-, rfl, rfl⟩⟩ :=
    Table.find_replace_row (y := record.set (record.observe now status)) hrow rfl hr
  · exact ⟨_, hr', rfl⟩
  · exact ⟨_, hr', hkept hterminal⟩

end

/-! ## One request

  Both directions for one request: a final answer, or any request but a reconciliation, keeps the
  finished records; any other answer takes the record out of its status. -/

/-- What is not a reconciliation adds records at most. -/
theorem FinishedStay.serve {w : World} (hw : RecordsAgree w) {q : Request} (hq : FinalAnswer q w) :
    FinishedStay w (q.program.serve w).2 := by
  have halong : q.program.Along (fun _ => True) (fun _ => FinishedStay w) Session.init w := by
    cases q with
    | submit provider draw input =>
      refine Along.map (submit_along.mono (fun _ _ => trivial) fun r w' h => ?_)
      have hinserted : ∀ {x : SubmitReads} {submitted : SubmittedTransaction},
          SubmitRecorded provider draw input w x submitted w' → FinishedStay w w' := by
        intro x submitted h id r hr _
        rw [h.same.transactionRecords]
        exact ⟨r, Table.find_insert_of_some hr _, rfl⟩
      cases h with
      | refused e => exact .refl w
      | known prepared hfound hused => exact .refl w
      | unanswered ready answered => exact .of_records rfl
      | unrecorded e ready answered taken => exact .of_records rfl
      | unreferenced e h => exact hinserted h
      | recorded h => exact hinserted h
    | reconcile provider now systemActorUserId contributionId =>
      refine Along.map (reconcile_along.mono (fun _ _ => trivial) fun r w' h => ?_)
      cases h with
      | settled h => exact .of_records rfl
      | updated h =>
        refine .updated h fun hterminal => ?_
        obtain ⟨txHash, hhash, hstatus⟩ := h.looked
        exact updated_status hw hterminal (hq _ _ _ h.found hterminal hhash hstatus) h
    | service q =>
      obtain ⟨s, t⟩ := w
      refine Along.map (Along.mapError (Along.inl ((service_along q s).mono (fun _ _ => trivial) ?_)))
      exact fun _ _ _ => .of_records rfl
  exact halong.exec

/-- An answer that settles nothing leaves the transaction open, or to be tried again. -/
theorem open_of_transition {status : TransactionStatus} (h : status.transition = none) :
    (status.state = .failed ∧ status.retryable = true) ∨ status.state = .pending ∨
      status.state = .unknown := by
  cases hstate : status.state with
  | succeeded =>
    rw [TransactionStatus.transition, hstate] at h
    cases h
  | failed =>
    by_cases hretry : status.retryable = true
    · exact .inl ⟨rfl, hretry⟩
    · simp only [TransactionStatus.transition, hstate, if_neg hretry] at h
      cases h
  | pending => exact .inr (.inl rfl)
  | unknown => exact .inr (.inr rfl)

/-- A status that calls for no settlement settles nothing. -/
theorem settleObserved_none {actor : AuthenticatedUser} {input : SettlementInput}
    {status : TransactionStatus} (h : status.transition = none) :
    settleObserved actor input status = pure none := by
  rw [settleObserved]
  rcases open_of_transition h with ⟨hstate, hretry⟩ | hstate | hstate
  · simp only [hstate, if_pos hretry]
  · simp only [hstate]
  · simp only [hstate]

/-- A status that calls for no settlement leaves the record unfinished, whatever it was before. -/
theorem observe_open {record : BlockchainTransactionRecord} {now : DateTime}
    {status : TransactionStatus} (h : status.transition = none) :
    (record.observe now status).status.isTerminal = false := by
  rw [BlockchainTransactionRecord.observe]
  rcases open_of_transition h with ⟨hstate, hretry⟩ | hstate | hstate
  · simp only [hstate, if_pos hretry, BlockchainTransactionStatus.isTerminal]
  · simp only [hstate, BlockchainTransactionStatus.isTerminal]
  · simp only [hstate, BlockchainTransactionStatus.isTerminal]

/-- Any other answer takes the record out of its finished status. -/
theorem finished_leaves {provider : Provider} (now : DateTime) (systemActorUserId : Uuid)
    {contributionId : Uuid} {w : World} {record : BlockchainTransactionRecord}
    {txHash : String} {status : TransactionStatus}
    (hfound : transactionRecordByEntity .contribution contributionId vaultContribution w.2 =
      some record)
    (hhash : record.txHash = some txHash)
    (hlooked : provider.lookupTransactionStatus ⟨txHash⟩ = .ok status)
    (hopen : status.transition = none) :
    ∃ r, ((Request.reconcile provider now systemActorUserId contributionId).program.serve
      w).2.2.transactionRecords.find record.id = some r ∧ r.status.isTerminal = false := by
  have hrow : w.2.transactionRecords.find (record.observe now status).id = some record := by
    rw [observe_id]
    exact Table.find_key (List.mem_of_find?_eq_some hfound)
  have halong : (Request.reconcile provider now systemActorUserId contributionId).program.Along
      (fun _ => True) (fun _ w' => ∃ r,
        w'.2.transactionRecords.find record.id = some r ∧ r.status.isTerminal = false)
      Session.init w := by
    refine Along.map (Along.select ?_)
    rw [Session.view_init, hfound]
    refine Along.okOr (fun hnone => ?_) fun txHash' hhash' => ?_
    · cases hnone.symm.trans hhash
    obtain rfl : txHash' = txHash := Option.some.inj (hhash'.symm.trans hhash)
    refine along_ofClient (fun e he => ?_) fun status' hlooked' => ?_
    · cases he.symm.trans hlooked
    obtain rfl : status' = status := Except.ok.inj (hlooked'.symm.trans hlooked)
    rw [settleObserved_none hopen]
    refine along_repository rfl (Along.of_outcomes updateTransactionRecord_outcomes ?_ ?_)
    · rintro l r - ⟨-, hgone⟩
      cases hrow.symm.trans hgone
    · rintro l b - ⟨row, hlocked, rfl, hview⟩
      obtain rfl : record = row := Option.some.inj (hrow.symm.trans hlocked)
      refine ⟨trivial, record.set (record.observe now status'), ?_, observe_open hopen⟩
      rw [hview]
      rw [observe_id] at hrow
      exact Table.find_replace_self hrow rfl
  exact halong.exec

/-- The condition is exact: a request keeps the finished records as they are if and only if the chain
    does not reopen one. -/
theorem finishedStay_iff {w : World} (hw : RecordsAgree w) {q : Request} :
    FinishedStay w (q.program.serve w).2 ↔ FinalAnswer q w := by
  refine ⟨fun h => ?_, .serve hw⟩
  cases q with
  | submit provider draw input => trivial
  | service q => trivial
  | reconcile provider now systemActorUserId contributionId =>
    intro record txHash status hfound hterminal hhash hlooked
    by_contra hnot
    have hopen : status.transition = none := by
      rw [TransactionStatus.transition]
      cases hstate : status.state with
      | succeeded => exact absurd (.inl hstate) hnot
      | failed =>
        by_cases hretry : status.retryable = true
        · exact if_pos hretry
        · exact absurd (.inr ⟨hstate, Bool.not_eq_true _ ▸ hretry⟩) hnot
      | pending => rfl
      | unknown => rfl
    obtain ⟨r, hr, hleft⟩ := finished_leaves now systemActorUserId hfound hhash hlooked hopen
    obtain ⟨r', hr', hstatus⟩ :=
      h record.id record (Table.find_key (List.mem_of_find?_eq_some hfound)) hterminal
    obtain rfl : r = r' := Option.some.inj (hr.symm.trans hr')
    rw [hstatus, hterminal] at hleft
    cases hleft

/-! ## Runs

  The condition is asked at each reconciliation, of the answer of the chain. -/

/-- **Finished records stay finished**: from every state that a run can reach, whichever requests
    have died on the way, as long as no reconciliation is told that a finished transaction is open
    again.

    The state need not be the start: `earlier` is any run, with requests that die anywhere.
    `FinalAnswer` is a condition on what the provider tells about a transaction that is finished
    already; it is asked of reconciliations alone. -/
theorem finished_stay {w : World} (hw : w.2.transactionRecords.rows = [])
    (earlier : List (Request × Option Nat)) {later : List Request}
    (h : Serial.Meets Request.program FinalAnswer (Serial.runCut Request.program w earlier) later) :
    FinishedStay (Serial.runCut Request.program w earlier)
      ((Serial.runCut Request.program w earlier).after later) := by
  have hreached : RecordsAgree (Serial.runCut Request.program w earlier) :=
    records_agree (.start hw) earlier
  generalize Serial.runCut Request.program w earlier = w' at h hreached ⊢
  have hend : RecordsAgree (w'.after later) ∧ FinishedStay w' (w'.after later) := by
    refine Serial.run_keeps (P := fun x => RecordsAgree x ∧ FinishedStay w' x) ?_
      ⟨hreached, .refl w'⟩ h
    intro q x ⟨hx, hstay⟩ hq
    exact ⟨(hx.along q).exec, hstay.trans (.serve hx hq)⟩
  exact hend.2

namespace Scenario

/-- A reconciliation of contribution 1, with what the chain says of it. -/
def observed (status : TransactionStatus) : Request :=
  .reconcile { StellarSorobanAdapter.provider {} 0 with
    lookupTransactionStatus := fun _ => .ok status } 0 9 1

end Scenario

open Chain.Scenario

/-- Looked at twice after it has succeeded. -/
theorem finished_stay_confirmed :
    let w := Serial.runCut Request.program start [(submit "a" 200, none), (reconcile, none)]
    ((w.2.transactionRecords.find 200).map (·.status)) = some .confirmed ∧
    FinishedStay w (w.after [reconcile, reconcile]) := by
  refine ⟨rfl, finished_stay rfl _ ⟨?_, ?_, trivial⟩⟩
  · intro record txHash status _ _ _ hlooked
    obtain rfl := Except.ok.inj hlooked
    exact .inl rfl
  · intro record txHash status _ _ _ hlooked
    obtain rfl := Except.ok.inj hlooked
    exact .inl rfl

/-- A confirmed record is submitted again, and a failed one is scheduled for a retry.

    The reconciliation writes what the answer makes of the record, whatever status the record has.
    So a provider that reports a finished transaction as pending, or its failure as one to be tried
    again, reopens it. -/
theorem finished_reopened :
    let confirmed := start.after [submit "a" 200, reconcile]
    let failed := start.after [submit "a" 200, observed ⟨.failed, false, none, none⟩]
    let status := fun w : World => (w.2.transactionRecords.find 200).map (·.status)
    (status confirmed, status (confirmed.after [observed ⟨.pending, false, none, none⟩])) =
      (some .confirmed, some .submitted) ∧
    (status failed, status (failed.after [observed ⟨.failed, true, none, none⟩])) =
      (some .failed, some .retryScheduled) ∧
    ¬ FinishedStay confirmed (confirmed.after [observed ⟨.pending, false, none, none⟩]) := by
  refine ⟨rfl, rfl, fun h => ?_⟩
  obtain ⟨r, hr, hstatus⟩ := h 200 _ rfl rfl
  obtain rfl := Option.some.inj hr
  cases hstatus

end EduStell.Chain
