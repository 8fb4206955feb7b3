/-
  A record says nothing of its contribution that the contribution does not bear out.

  A reconciliation settles the contribution first, in a transaction of its own, and writes the status
  into the record afterwards.  So a record is confirmed or failed only when the contribution has been
  brought there before, and from there a contribution moves along edges alone: a confirmed one can be
  reversed, a failed one stays.  Nothing of this depends on who settled it, on what the chain answers
  from one call to the next, or on where a request dies; what a crash leaves is a record that lags
  behind.

  The argument has one lemma for each way in which a world may change: contributions that move
  along edges (`edges`), a record that is new (`submitted`), and the last write of a
  reconciliation (`updated`).  `along` puts them together for one request, wherever it dies.
-/
import EduStell.Chain.Submissions

namespace EduStell.Chain

open Txn Program

/-! ## What is to be kept

  A record that lags behind is no disagreement: `RecordsAgree` speaks of the confirmed and the
  failed ones only. -/

/-- Confirmed and failed records agree with the status of their contribution. -/
structure RecordsAgree (w : World) : Prop where
  /-- A confirmed record is of a contribution that is confirmed, or has been reversed since. -/
  confirmed : ∀ r ∈ w.2.transactionRecords.rows, r.entityType = .contribution →
    r.status = .confirmed → ∃ c, w.1.contributions.find r.entityId = some c ∧
      (c.status = .confirmed ∨ c.status = .reversed)
  /-- A failed record is of a failed contribution. -/
  failed : ∀ r ∈ w.2.transactionRecords.rows, r.entityType = .contribution →
    r.status = .failed → ∃ c, w.1.contributions.find r.entityId = some c ∧ c.status = .failed

/-- No records, no disagreement. -/
theorem RecordsAgree.start {w : World} (h : w.2.transactionRecords.rows = []) : RecordsAgree w := by
  constructor
  · intro r hr
    rw [h] at hr; cases hr
  · intro r hr
    rw [h] at hr; cases hr

section

variable {w w' : World}

/-- Whoever moves contributions along edges. -/
theorem RecordsAgree.edges (hw : RecordsAgree w) (hedges : EdgesOnly w.1 w'.1)
    (hrecords : w'.2.transactionRecords = w.2.transactionRecords) : RecordsAgree w' := by
  constructor
  · intro r hr hcontribution hstatus
    rw [hrecords] at hr
    obtain ⟨c, hc, hcases⟩ := hw.confirmed r hr hcontribution hstatus
    obtain ⟨c', hc', hsame | hedge⟩ := hedges r.entityId c hc
    · exact ⟨c', hc', by rw [hsame]; exact hcases⟩
    · refine ⟨c', hc', ?_⟩
      revert hcases hedge
      generalize c.status = a, c'.status = b
      cases a <;> cases b <;> decide
  · intro r hr hcontribution hstatus
    rw [hrecords] at hr
    obtain ⟨c, hc, hfailed⟩ := hw.failed r hr hcontribution hstatus
    obtain ⟨c', hc', hsame | hedge⟩ := hedges r.entityId c hc
    · exact ⟨c', hc', hsame.trans hfailed⟩
    · rw [hfailed] at hedge
      refine ⟨c', hc', ?_⟩
      revert hedge
      generalize c'.status = b
      cases b <;> decide

/-! ## What the requests do to it

  A submission adds a record that is not finished, and everybody else moves contributions along
  edges.  The case that needs an argument is the last write of a reconciliation: the contribution
  was settled before, and has moved along edges since. -/

/-- A submission writes a record that says nothing yet. -/
theorem RecordsAgree.submitted {provider : Provider} {draw : SubmitDraw}
    {input : SubmitContributionOnchainInput} {x : SubmitReads} {submitted : SubmittedTransaction}
    (hw : RecordsAgree w) (h : SubmitRecorded provider draw input w x submitted w') :
    RecordsAgree w' := by
  have hcontributions : w'.1.contributions = w.1.contributions := h.same.contributions
  have hrecords : w'.2.transactionRecords =
      w.2.transactionRecords.insert (x.record draw input submitted) := h.same.transactionRecords
  constructor
  · intro r hr hcontribution hstatus
    rw [hrecords, Table.mem_insert h.fresh] at hr
    rcases hr with hr | rfl
    · rw [hcontributions]; exact hw.confirmed r hr hcontribution hstatus
    · cases hstatus
  · intro r hr hcontribution hstatus
    rw [hrecords, Table.mem_insert h.fresh] at hr
    rcases hr with hr | rfl
    · rw [hcontributions]; exact hw.failed r hr hcontribution hstatus
    · cases hstatus

/-- The status that a record is given is the one for which the contribution has been settled. -/
theorem observe_status {record : BlockchainTransactionRecord} {now : DateTime}
    {status : TransactionStatus} :
    ((record.observe now status).status = .confirmed → status.transition = some .confirm) ∧
    ((record.observe now status).status = .failed → status.transition = some .fail) := by
  obtain ⟨state, retryable, errorCode, errorMessage⟩ := status
  cases state <;> cases retryable <;>
    simp [BlockchainTransactionRecord.observe, TransactionStatus.transition]

/-- A reconciliation that has come to its last write. -/
theorem RecordsAgree.updated {provider : Provider} {now : DateTime} {contributionId : Uuid}
    {record : BlockchainTransactionRecord} {status : TransactionStatus} (hw : RecordsAgree w)
    (h : ReconcileUpdated provider now contributionId w record status w') : RecordsAgree w' := by
  obtain ⟨-, hentity, -⟩ := h.isFor
  have hreached : ∀ tr, status.transition = some tr → Reached tr record.entityId w'.1 := by
    intro tr htr
    have hsettles := h.settles
    rw [Settles, htr] at hsettles
    exact hentity ▸ hsettles.2
  -- the rows that stay agree with contributions that have moved along edges
  have hothers : RecordsAgree (w'.1, w.2) := hw.edges h.settles.edgesOnly rfl
  have hrecords : w'.2.transactionRecords =
      w.2.transactionRecords.replace (record.set (record.observe now status)) := by rw [h.view]
  constructor
  · intro r hr hcontribution hstatus
    rw [hrecords] at hr
    rcases Table.mem_replace hr with rfl | ⟨hr, -⟩
    · obtain ⟨c, hc, hconfirmed⟩ := hreached .confirm (observe_status.1 hstatus)
      exact ⟨c, hc, .inl hconfirmed⟩
    · exact hothers.confirmed r hr hcontribution hstatus
  · intro r hr hcontribution hstatus
    rw [hrecords] at hr
    rcases Table.mem_replace hr with rfl | ⟨hr, -⟩
    · exact hreached .fail (observe_status.2 hstatus)
    · exact hothers.failed r hr hcontribution hstatus

/-- One request, at every statement where it may die. -/
theorem RecordsAgree.along (hw : RecordsAgree w) (q : Request) :
    q.program.Along RecordsAgree (fun _ => RecordsAgree) Session.init w := by
  cases q with
  | submit provider draw input =>
    refine Along.map (submit_along.mono (fun w' h => ?_) fun r w' h => ?_)
    · cases h with
      | submitted ready => exact ⟨hw.confirmed, hw.failed⟩
      | recorded h => exact hw.submitted h
    · cases h with
      | refused e => exact hw
      | known prepared hfound hused => exact hw
      | unanswered ready answered => exact ⟨hw.confirmed, hw.failed⟩
      | unrecorded e ready answered taken => exact ⟨hw.confirmed, hw.failed⟩
      | unreferenced e h => exact hw.submitted h
      | recorded h => exact hw.submitted h
  | reconcile provider now systemActorUserId contributionId =>
    have hleaves : ∀ w', ReconcileLeaves provider now contributionId w w' → RecordsAgree w' := by
      intro w' h
      cases h with
      | settled h => exact hw.edges h rfl
      | updated h => exact hw.updated h
    exact Along.map (reconcile_along.mono hleaves fun _ => hleaves)
  | service q =>
    obtain ⟨s, t⟩ := w
    have hedges : ∀ s', EdgesOnly s s' → RecordsAgree (s', t) := fun s' h => hw.edges h rfl
    exact Along.map (Along.mapError (Along.inl ((service_along q s).mono hedges fun _ => hedges)))

end

/-! ## Every run

  A request of the run may die after any of its statements. -/

/-- **Records agree with contributions** after every run, whichever requests die and wherever.

    With each request comes the number of statements after which it dies, if it does.  The
    provider's answers are part of a request, so the theorem holds for every sequence of answers. -/
theorem records_agree {w : World} (hw : RecordsAgree w) (qs : List (Request × Option Nat)) :
    RecordsAgree (Serial.runCut Request.program w qs) :=
  Serial.runCut_keeps (fun q _ hw => hw.along q) qs hw

namespace Scenario

/-- The chain says that the transaction of contribution 1 has succeeded. -/
def reconcile : Request :=
  .reconcile { StellarSorobanAdapter.provider {} 0 with
    lookupTransactionStatus := fun _ => .ok ⟨.succeeded, false, none, none⟩ } 0 9 1

/-- The first reconciliation dies after the settlement; then there is a second, and the contribution is
    reversed by hand. -/
def crash : List (Request × Option Nat) :=
  [(submit "a" 200, none), (reconcile, some 12), (reconcile, none),
    (.service (EduStell.Scenario.settle .reverse 1), none)]

end Scenario

open Chain.Scenario

/-- The record lags behind, catches up and stays. -/
theorem records_agree_crash :
    let dead := Serial.runCut Request.program start (crash.take 2)
    let done := Serial.runCut Request.program start crash
    ((dead.1.contributions.find 1).map (·.status), (dead.2.transactionRecords.find 200).map (·.status)) =
      (some .confirmed, some .submitted) ∧
    ((done.1.contributions.find 1).map (·.status), (done.2.transactionRecords.find 200).map (·.status)) =
      (some .reversed, some .confirmed) ∧ RecordsAgree done :=
  ⟨rfl, rfl, records_agree (.start rfl) crash⟩

end EduStell.Chain
