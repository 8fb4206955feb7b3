/-
  How often a contribution is handed to the chain.

  The facade looks for a record under the idempotency key of the call, and submits when there is none.
  But a contribution has one record whatever its key: under a second key the call goes out, and only
  then does the insert run into the index of (entity_type, entity_id, operation_kind).  The first
  theorem says what keeps the calls apart; the second is the run with two keys.

  And the other way round: a record found under the key is given back whatever contribution it is
  of.  The last part says when the answer of a call is about the contribution that was asked for.

  `Accounted` is the invariant of the first part.  The condition on the run, `SubmitsNew`, is
  about the calls that get to the submitter; it is decidable, and evaluated in the two runs.
-/
import EduStell.Chain.Calls
import EduStell.Scenario

namespace EduStell.Chain

open Txn Program

/-- No contribution has been handed to the submitter twice. -/
def SubmittedOnce (w : World) : Prop := (w.2.submissions.map Submission.contributionId).Nodup

/-- Whether every contribution was submitted once can be decided. -/
instance (w : World) : Decidable (SubmittedOnce w) := inferInstanceAs (Decidable (List.Nodup _))

/-- A call that gets to the submitter finds no record of its contribution, and leaves one: the id that
    it draws is free and the submitter answers with a receipt. -/
def SubmitsNew : Request → World → Prop
  | .submit provider draw input, w => ∀ x, SubmitReady provider draw input w x →
    transactionRecordByEntity .contribution x.contribution.id vaultContribution w.2 = none ∧
    w.2.transactionRecords.find draw.recordId = none ∧
    ∃ submitted, provider.submitTransaction (x.request input) = .ok submitted
  | .reconcile .., _ | .service _, _ => True

/-! ## The invariant

  `Accounted` ties the calls to the records: every call has left a record of its contribution, so
  a call that finds no record of it is the first. -/

/-- The record that a submission of the contribution leaves. -/
def HasRecord (contributionId : Uuid) (t : ChainDb) : Prop :=
  t.transactionRecords.any (fun r => r.IsFor .contribution contributionId vaultContribution) = true

/-- Submissions are of different contributions, and each has left its record. -/
structure Accounted (w : World) : Prop where
  once : SubmittedOnce w
  recorded : ∀ x ∈ w.2.submissions, HasRecord x.contributionId w.2

/-- Submitting a contribution that has no record, and recording it. -/
theorem Accounted.submitted {provider : Provider} {draw : SubmitDraw}
    {input : SubmitContributionOnchainInput} {w w' : World} {x : SubmitReads}
    {submitted : SubmittedTransaction} (hw : Accounted w)
    (hnone : transactionRecordByEntity .contribution x.contribution.id vaultContribution w.2 = none)
    (h : SubmitRecorded provider draw input w x submitted w') : Accounted w' := by
  have hsubmissions : w'.2.submissions = w.2.submissions ++ [x.submission input] := h.same.submissions
  have hrecords : w'.2.transactionRecords =
      w.2.transactionRecords.insert (x.record draw input submitted) := h.same.transactionRecords
  constructor
  · rw [SubmittedOnce, hsubmissions, List.map_append, List.nodup_append]
    refine ⟨hw.once, List.nodup_singleton _, ?_⟩
    intro id hid id' hid' heq
    obtain ⟨y, hy, rfl⟩ := List.mem_map.mp hid
    obtain rfl : id' = x.contribution.id := List.mem_singleton.mp hid'
    have hrecord := hw.recorded y hy
    rw [HasRecord, heq, Table.first_none.mp hnone] at hrecord
    cases hrecord
  · intro y hy
    rw [HasRecord, hrecords, Table.any_insert, Bool.or_eq_true]
    rw [hsubmissions] at hy
    rcases List.mem_append.mp hy with hy | hy
    · exact .inl (hw.recorded y hy)
    · obtain rfl := List.mem_singleton.mp hy
      right
      rw [show w.2.transactionRecords.find (Keyed.key (x.record draw input submitted)) = none from
        h.fresh]
      exact decide_eq_true ⟨rfl, rfl, rfl⟩

/-- One request. -/
theorem Accounted.serve {w : World} (hw : Accounted w) {q : Request} (hq : SubmitsNew q w) :
    Accounted (q.program.serve w).2 := by
  have halong : q.program.Along (fun _ => True) (fun _ => Accounted) Session.init w := by
    cases q with
    | submit provider draw input =>
      refine Along.map (submit_along.mono (fun _ _ => trivial) fun r w' h => ?_)
      cases h with
      | refused e => exact hw
      | known prepared hfound hused => exact hw
      | unanswered hready hanswered =>
        obtain ⟨-, -, submitted, hsubmitted⟩ := hq _ hready
        cases hsubmitted.symm.trans hanswered
      | unrecorded e hready hanswered htaken =>
        -- neither the id, nor the key, nor the entry is taken
        obtain ⟨hnone, hfresh, -⟩ := hq _ hready
        rcases htaken with hid | hkey | hentry
        · cases hfresh ▸ hid
        · cases (Table.first_none.mp hready.unused).symm.trans hkey
        · cases (Table.first_none.mp hnone).symm.trans hentry
      | unreferenced e h => exact hw.submitted (hq _ h.ready).1 h
      | recorded h => exact hw.submitted (hq _ h.ready).1 h
    | reconcile provider now systemActorUserId contributionId =>
      refine Along.map (reconcile_along.mono (fun _ _ => trivial) fun r w' h => ?_)
      cases h with
      | settled h => exact ⟨hw.once, hw.recorded⟩
      | updated h =>
        have hsubmissions : w'.2.submissions = w.2.submissions := by rw [h.view]
        constructor
        · rw [SubmittedOnce, hsubmissions]; exact hw.once
        · intro x hx
          rw [hsubmissions] at hx
          rw [HasRecord, h.any fun _ _ => rfl]
          exact hw.recorded x hx
    | service q =>
      obtain ⟨s, t⟩ := w
      refine Along.map (Along.mapError (Along.inl ((service_along q s).mono (fun _ _ => trivial) ?_)))
      exact fun _ _ _ => ⟨hw.once, hw.recorded⟩
  exact halong.exec

/-! ## Runs

  By induction on the run, under the condition that a call which reaches the submitter finds no
  record of its contribution.  A repeated key meets the condition: it never reaches the submitter.
  -/

/-- **No contribution is submitted twice**, in every run whose calls reach the submitter only for a
    contribution without a record, and then leave one.

    A call reaches the submitter when its checks are passed and no record has its key.  It leaves a
    record unless the submitter fails, the drawn id is taken or the contribution has one already;
    and without a record under its key the same call submits again. -/
theorem submissions_once {w : World} (hw : w.2.submissions = []) {qs : List Request}
    (h : Serial.Meets Request.program SubmitsNew w qs) : SubmittedOnce (w.after qs) := by
  have hstart : Accounted w := by
    constructor
    · rw [SubmittedOnce, hw]; exact List.nodup_nil
    · intro x hx
      rw [hw] at hx; cases hx
  have hend : Accounted (w.after qs) := Serial.run_keeps (fun q w hw hq => hw.serve hq) hstart h
  exact hend.once

namespace Scenario

/-- A pending contribution to the vault of the family, and the contract of the vault. -/
def start : World :=
  (serveAll EduStell.Scenario.family [EduStell.Scenario.record 1 100], {
    externalReferences := EduStell.Scenario.row
      ⟨300, .savingsVault, 100, .sorobanContractId, "C", .object []⟩
    transactionRecords := .empty
    submissions := [] })

/-- Contribution 1 goes to the adapter of the crate. -/
def submit (key : String) (recordId : Uuid) : Request :=
  .submit (StellarSorobanAdapter.provider {} 0) ⟨301, recordId, recordId + 1⟩
    ⟨1, key, .userControlled "G"⟩

end Scenario

open Chain.Scenario

/-- The same call twice goes out once. -/
theorem submissions_once_retried :
    let w := start.after [submit "a" 200, submit "a" 202]
    w.2.submissions.length = 1 ∧ SubmittedOnce w := by
  refine ⟨by decide, submissions_once rfl ⟨?_, ?_, trivial⟩⟩
  · intro x hx
    obtain ⟨-, hid⟩ := Table.find_some hx.found
    rw [show x.contribution.id = 1 from hid]
    exact ⟨rfl, rfl, _, rfl⟩
  · intro x hx
    exact absurd hx.unused (by decide)

/-- Under a second key it goes out a second time, and is answered with a conflict. -/
theorem submissions_twice :
    let w := start.after [submit "a" 200]
    ((submit "b" 202).program.serve w).1 = .error (.facade (.conflict
      ("duplicate key value violates unique constraint " ++
        "\"blockchain_transaction_record_entity_type_entity_id_operati_key\""))) ∧
    ¬ SubmittedOnce ((submit "b" 202).program.serve w).2 :=
  ⟨rfl, by decide⟩

/-! ## Whose record a call answers with

  The lookup under the key does not compare the contribution.  So what is answered is of another
  one exactly if the key is. -/

/-- The key of the call is that of a record about something else. -/
def KeyOfAnother (input : SubmitContributionOnchainInput) (w : World) : Prop :=
  ∃ existing, transactionRecordByIdempotencyKey input.idempotencyKey w.2 = some existing ∧
    existing.entityId ≠ input.contributionId

/-- **A call answers with a record of its contribution** if and only if its key has not been used for
    another one.

    The one way to another record is the key: a record that is found under it is returned as it is,
    and which contribution it is about is not compared. -/
theorem answered_record_iff {provider : Provider} {draw : SubmitDraw}
    {input : SubmitContributionOnchainInput} {w : World} {a : ContributionOnchainSubmission}
    (h : ((Request.submit provider draw input).program.serve w).1 = .ok (.submission a)) :
    a.processingRecord.entityId = a.contribution.id ↔ ¬ KeyOfAnother input w := by
  have halong : (Request.submit provider draw input).program.Along (fun _ => True)
      (fun r _ => ∀ a, r = .ok (.submission a) →
        (a.processingRecord.entityId = a.contribution.id ↔ ¬ KeyOfAnother input w))
      Session.init w := by
    refine Along.map (submit_along.mono (fun _ _ => trivial) fun r w' hend => ?_)
    intro a ha
    cases hend with
    | refused e => cases ha
    | unanswered ready answered => cases ha
    | unrecorded e ready answered taken => cases ha
    | unreferenced e h => cases ha
    | known prepared hfound hused =>
      rename_i contribution existing
      cases ha
      obtain ⟨-, hid⟩ := Table.find_some hfound
      have hid : contribution.id = input.contributionId := hid
      show existing.entityId = contribution.id ↔ _
      rw [hid]
      constructor
      · rintro hsame ⟨existing', hused', hother⟩
        obtain rfl : existing = existing' := Option.some.inj (hused.symm.trans hused')
        exact hother hsame
      · intro hfree
        by_contra hother
        exact hfree ⟨existing, hused, hother⟩
    | recorded h =>
      cases ha
      refine ⟨fun _ => ?_, fun _ => rfl⟩
      rintro ⟨existing, hused, -⟩
      cases h.ready.unused.symm.trans hused
  exact halong.exec a h

namespace Scenario

/-- A second contribution to the vault, and the call for it. -/
def second : Request := .service (EduStell.Scenario.record 2 50)

/-- The call for the second contribution. -/
def submitSecond (key : String) (recordId : Uuid) : Request :=
  .submit (StellarSorobanAdapter.provider {} 0) ⟨301, recordId, recordId + 1⟩
    ⟨2, key, .userControlled "G"⟩

end Scenario

/-- The call of the first contribution, repeated. -/
theorem answered_record_repeated :
    ∃ a, ((submit "a" 202).program.serve (start.after [second, submit "a" 200])).1 =
      .ok (.submission a) ∧ a.processingRecord.entityId = a.contribution.id := by
  obtain ⟨a, ha⟩ : ∃ a, ((submit "a" 202).program.serve (start.after [second, submit "a" 200])).1 =
    .ok (.submission a) := ⟨_, rfl⟩
  refine ⟨a, ha, (answered_record_iff ha).mpr ?_⟩
  rintro ⟨existing, hused, hother⟩
  obtain rfl := Option.some.inj hused
  exact hother rfl

/-- The second contribution under the key of the first.

    The record that is found under the key "a" is about contribution 1.  It is returned with
    contribution 2, which the call was about, and no check compares the two. -/
theorem answered_record_of_another :
    ∃ a, ((submitSecond "a" 202).program.serve (start.after [second, submit "a" 200])).1 =
      .ok (.submission a) ∧
    (a.contribution.id, a.processingRecord.entityId) = (2, 1) ∧
    a.processingRecord.entityId ≠ a.contribution.id :=
  ⟨_, rfl, rfl, by decide⟩

end EduStell.Chain
