/-
  The effects of the requests, with all that the creating services have checked.

  `Request.Effect` keeps of a creation what the accounts need; `Request.Detail` keeps the whole new
  row and the rows that it was checked against, each with the snapshot in which it was read.
-/
import EduStell.Spec.Effects

namespace EduStell

open Txn

/-! ## Effects with their rows

  Where a result is about the new row as a whole (its restrictions, the text of its currency, who
  has sent it), the effect alone says too little. -/

/-- The effect of a request; of a creation, with its row and what was read for it. -/
def Request.Detail : Request → Sess → Db → Response → Prop
  | .record newId actor input, l, s, b =>
    ∃ a, b = .contribution a ∧ IntentRecorded newId actor input l s a
  | .createPayout newId actor input, l, s, b =>
    ∃ a, b = .payout a ∧ PayoutCreated newId actor input l s a
  | .createPool newId actor input, l, s, b => ∃ a, b = .pool a ∧ PoolRecorded newId actor input l s a
  | .fundPool newId _ input, l, s, b =>
    ∃ a, b = .funded a ∧ ∃ pool, DonationRecorded newId input l s pool a.2
  | .createApplication newId actor input, l, s, b =>
    ∃ a, b = .application a ∧ ApplicationRecorded newId actor input l s a
  | q, l, s, b => q.Effect l s b

/-- The details are those of an effect. -/
theorem Request.Detail.effect {q : Request} {l : Sess} {s : Db} {b : Response}
    (h : q.Detail l s b) : q.Effect l s b := by
  cases q with
  | record newId actor input =>
    obtain ⟨a, hb, h⟩ := h
    exact ⟨a, hb, h.recorded⟩
  | createPayout newId actor input =>
    obtain ⟨a, hb, h⟩ := h
    exact ⟨a, hb, h.requested⟩
  | createPool newId actor input =>
    obtain ⟨a, hb, h⟩ := h
    exact ⟨a, hb, h.toPoolCreated⟩
  | fundPool newId actor input =>
    obtain ⟨a, hb, pool, h⟩ := h
    exact ⟨a, hb, pool, h.toPoolFunded⟩
  | createApplication newId actor input =>
    obtain ⟨a, hb, h⟩ := h
    exact ⟨a, hb, h.toApplied⟩
  | _ => exact h

/-- **Every way a request can end**, in detail. -/
theorem Request.detailed (q : Request) : Outcomes q.program q.Detail q.Stops := by
  cases q with
  | record newId actor input =>
    exact (recordContributionIntent_ends.map _).weaken fun _ _ _ _ => trivial
  | createPayout newId actor input =>
    exact (createPayoutRequest_ends.map _).weaken fun _ _ _ _ => trivial
  | createPool newId actor input =>
    exact (createScholarshipPool_ends.map _).weaken fun _ _ _ => Refused.of_map
  | fundPool newId actor input =>
    exact (fundScholarshipPool_ends.map _).weaken fun _ _ _ => Refused.of_map
  | createApplication newId actor input =>
    exact (createScholarshipApplication_ends.map _).weaken fun _ _ _ => Refused.of_map
  | settle tr actor input => exact Request.outcomes (.settle tr actor input)
  | review tr actor input => exact Request.outcomes (.review tr actor input)
  | verifySchool actor input => exact Request.outcomes (.verifySchool actor input)
  | approve newId actor input => exact Request.outcomes (.approve newId actor input)
  | reject newId actor input => exact Request.outcomes (.reject newId actor input)
  | disburse actor input => exact Request.outcomes (.disburse actor input)
  | revoke actor input => exact Request.outcomes (.revoke actor input)

end EduStell
