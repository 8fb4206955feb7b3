/-
  The link of a disbursed award, under interleaved requests.

  The validator asks for a link only when it READS the award as Approved, in a statement before the
  transaction; a disbursal that reads it as Disbursed may come without one.  What makes a Disbursed
  award linked all the same is the UPDATE: `COALESCE($n, column)` never takes a link away, so an award
  that was linked when it was read is linked when it is written.

  The link of a disbursed award is therefore an invariant of every run, while the STATUS of an
  award is not: a disbursal that has read its award before may write over a revocation.
-/
import EduStell.Scholarships.StaleBalance

namespace EduStell

open Txn Scholarships

/-- The award has a payout request or a vault to its name. -/
def ScholarshipAward.Linked (a : ScholarshipAward) : Prop :=
  a.linkedPayoutRequestId.isSome ∨ a.linkedVaultId.isSome

/-- Every Disbursed award is linked. -/
def DisbursedLinked (s : Db) : Prop := ∀ a ∈ s.awards.rows, a.status = .disbursed → a.Linked

/-- Whether an award is linked can be decided. -/
instance : DecidablePred ScholarshipAward.Linked := fun _ => inferInstanceAs (Decidable (_ ∨ _))

/-- Whether every disbursed award is linked can be decided. -/
instance (s : Db) : Decidable (DisbursedLinked s) := inferInstanceAs (Decidable (∀ _ ∈ _, _))

/-- The links of `a` are links of `a'`, perhaps to something else. -/
structure ScholarshipAward.LinksKept (a a' : ScholarshipAward) : Prop where
  payout : a.linkedPayoutRequestId.isSome → a'.linkedPayoutRequestId.isSome
  vault : a.linkedVaultId.isSome → a'.linkedVaultId.isSome

/-- A later state still has every award, with the links that it had. -/
def LinksKept (s s' : Db) : Prop := ∀ id a, s.awards.find id = some a →
  ∃ a', s'.awards.find id = some a' ∧ a.LinksKept a'

/-! ## One row

  What the UPDATE does to the links of a row, and what the validator asks of a request. -/

namespace ScholarshipAward

/-- A row keeps its own links. -/
theorem LinksKept.refl (a : ScholarshipAward) : a.LinksKept a := ⟨fun h => h, fun h => h⟩

/-- Links that are kept twice are kept. -/
theorem LinksKept.trans {a b c : ScholarshipAward} (hab : a.LinksKept b) (hbc : b.LinksKept c) :
    a.LinksKept c :=
  ⟨fun h => hbc.payout (hab.payout h), fun h => hbc.vault (hab.vault h)⟩

/-- An award stays linked. -/
theorem LinksKept.linked {a a' : ScholarshipAward} (h : a.LinksKept a') (ha : a.Linked) :
    a'.Linked :=
  ha.imp h.payout h.vault

variable {a : ScholarshipAward} {status : ScholarshipAwardStatus} {payout vault : Option Uuid}

/-- The UPDATE keeps the links of the row. -/
theorem linksKept_transition : a.LinksKept (a.transition status payout vault) := by
  constructor
  · intro h
    simp [transition, h]
  · intro h
    simp [transition, h]

/-- The UPDATE writes the links that it is given. -/
theorem linked_transition (h : ¬ (payout.isNone ∧ vault.isNone)) :
    (a.transition status payout vault).Linked := by
  cases payout with
  | some id => left; rfl
  | none =>
    cases vault with
    | some id => right; rfl
    | none => exact absurd ⟨rfl, rfl⟩ h

end ScholarshipAward

/-- The validator lets an Approved award be disbursed with a link only. -/
theorem linked_of_accepted {payout vault : Option Uuid} {status : ScholarshipAwardStatus}
    (h : validateAwardTransition .approved .disburse payout vault = .ok status) :
    ¬ (payout.isNone ∧ vault.isNone) := by
  intro hnone
  simp only [validateAwardTransition, AwardTransition.targetStatus, if_pos hnone] at h
  cases h

/-! ## One commit

  A disbursal has read its award as approved, and then it comes with a link, or as disbursed, and
  then the award had one. -/

section

variable {q : Request} {l : Sess} {s : Db}

namespace LinksKept

/-- Nothing has changed. -/
theorem refl (s : Db) : LinksKept s s := fun _ a ha => ⟨a, ha, .refl a⟩

/-- What is kept over two stretches is kept over both. -/
theorem trans {s t u : Db} (hst : LinksKept s t) (htu : LinksKept t u) : LinksKept s u := by
  intro id a ha
  obtain ⟨a', ha', hkept⟩ := hst id a ha
  obtain ⟨a'', ha'', hkept'⟩ := htu id a' ha'
  exact ⟨a'', ha'', hkept.trans hkept'⟩

/-- A commit keeps every link: the UPDATE writes over a link only with another one. -/
theorem commit (h : ScholarshipEffect q l s) : LinksKept s (l.view s) := by
  intro id a ha
  obtain ⟨a', ha', hcases⟩ := award_row h ha
  refine ⟨a', ha', ?_⟩
  rcases hcases with rfl | ⟨tr, actor, input, t₁, t₂, t₃, t₄, read, application, reread, pool,
    lockedPool, payout, vault, -, -, -, rfl⟩
  · exact .refl _
  · exact ScholarshipAward.linksKept_transition

end LinksKept

/-- A disbursal leaves its award linked: by the request, if the award was read as Approved, and
    otherwise by the row. -/
theorem AwardMovedAs.linked {actor : AuthenticatedUser} {input : UpdateScholarshipAwardInput}
    {t₁ t₂ t₃ t₄ : Db} {award row : ScholarshipAward} {application reread : ScholarshipApplication}
    {pool lockedPool : ScholarshipPool}
    (h : AwardMovedAs .disburse actor input l s t₁ t₂ t₃ t₄ award row application reread pool
      lockedPool) (hseen : ∀ t ∈ l.seen, DisbursedLinked t ∧ LinksKept t s) :
    (row.transition .disbursed input.linkedPayoutRequestId input.linkedVaultId).Linked := by
  have h₁ : t₁ ∈ l.seen := by rw [h.seen]; simp
  obtain ⟨hlinked, hkept⟩ := hseen t₁ h₁
  rcases h.checked.legal with happroved | hdisbursed
  · have haccepted := h.checked.accepted
    rw [happroved] at haccepted
    exact ScholarshipAward.linked_transition (linked_of_accepted haccepted)
  · have hread : award.Linked := hlinked award (Table.find_some h.checked.found).1 hdisbursed
    obtain ⟨row', hrow', hrowkept⟩ := hkept _ award h.checked.found
    obtain rfl : row = row' := Option.some.inj (h.locked.symm.trans hrow')
    exact ScholarshipAward.linksKept_transition.linked (hrowkept.linked hread)

/-- A commit leaves every disbursed award linked: the disbursement brings a link, or finds one. -/
theorem DisbursedLinked.commit (hs : DisbursedLinked s) (h : ScholarshipEffect q l s)
    (hseen : ∀ t ∈ l.seen, DisbursedLinked t ∧ LinksKept t s) : DisbursedLinked (l.view s) := by
  intro a ha hstatus
  cases h.awards with
  | kept view => rw [view] at ha; exact hs a ha hstatus
  | @decided d _ _ _ _ _ _ _ _ _ _ hc fresh view =>
    rw [view, Table.mem_insert fresh] at ha
    rcases ha with ha | rfl
    · exact hs a ha hstatus
    · -- a new award is Approved or Rejected
      rw [hc.awardOf.status] at hstatus
      cases d <;> cases hstatus
  | moved request hc =>
    rw [hc.awards] at ha
    rcases Table.mem_replace ha with rfl | ⟨ha, -⟩
    · rcases request with ⟨rfl, -⟩ | ⟨rfl, -⟩
      · exact hc.linked hseen
      · cases hstatus
    · exact hs a ha hstatus

end

/-! ## Every run

  The contract asks nothing of a run, so links are safe without any condition. -/

/-- Links that are kept, and disbursed awards that have one. -/
def linksContract : Contract Request.program Request.Effect Request.Stops where
  outcomes := Request.outcomes
  inv := DisbursedLinked
  rely := LinksKept
  arrivals _ := True
  cond _ _ _ := True
  refl := LinksKept.refl
  trans := LinksKept.trans
  keep _ hs hseen h _ := ⟨hs.commit h.scholarship hseen, .commit h.scholarship⟩

/-- **Every Disbursed award is linked**, in every state of every interleaving, and no link is ever
    taken away.

    The first part is an invariant of the committed state.  The second compares any two states of
    the run; a later disbursement may put another link in the place of the one that was there, but
    none is emptied. -/
theorem disbursed_linked {s : Db} (hs : DisbursedLinked s) (es : List Happening) :
    DisbursedLinked (Sys.after s es).db ∧ ∀ pre post, es = pre ++ post →
      LinksKept (Sys.after s pre).db (Sys.after s es).db := by
  have hrun : ∀ fs : List Happening, linksContract.Within s fs := fun fs =>
    System.meets_allows (fun _ => trivial) (fun _ _ _ => trivial) _ fs
  constructor
  · exact (linksContract.sound hs (hrun es)).inv
  · rintro pre post rfl
    exact linksContract.rely_run hs pre (hrun _)

section

open Scenario

/-- The pool with an Approved award. -/
def Scenario.approved : Db := serveAll funded [approve 203 202 60]

/-- A revocation reads the Approved award, which is then disbursed; a second disbursal, without a
    link, reads it as Disbursed.  The revocation writes, and then the second disbursal. -/
def Scenario.disbursalRace : List Happening :=
  [.call 0 (revoke 203), .step 0] ++ alone 1 (disburse 203) 12 ++
  [.call 2 (.disburse admin ⟨203, none, none, none⟩), .step 2] ++ List.replicate 11 (.step 0) ++
  List.replicate 11 (.step 2)

/-- The link of the first disbursal is there at the end. -/
theorem disbursed_linked_race :
    ((Sys.after approved disbursalRace).db.awards.rows.map fun a => (a.status, a.linkedVaultId)) =
      [(.disbursed, some 100)] ∧
    DisbursedLinked (Sys.after approved disbursalRace).db :=
  ⟨by decide, (disbursed_linked (by decide) disbursalRace).1⟩

end

end EduStell
