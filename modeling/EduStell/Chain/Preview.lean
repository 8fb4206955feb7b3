/-
  The preview of a reference value in the audit trail, and the strings that it does not get through.

  `preview_value` slices by bytes, six at the start and four at the end, and a slice that begins or
  ends inside a character panics.  A value of ASCII characters has a boundary everywhere; of any other
  value it depends on the two cuts.  The panic comes late: the transaction has been submitted and its
  record and its reference are written.

  The condition is about the value alone, two positions of it, and decides whether the event of a
  reference can be built (`reference_attached_iff`).
-/
import EduStell.Chain.Submissions
import EduStell.Serde
import Mathlib.Data.String.Basic

namespace EduStell.Chain

open Txn Program String

/-! ## Slices by bytes

  `&value[..n]` is there if a character begins at the byte `n`, or the value ends there.  Both
  slices are reduced to that one condition on the list of characters. -/

/-- `is_char_boundary`: a character of the list begins after `n` bytes, or the list ends there. -/
def CharBoundary (n : Nat) (cs : List Char) : Prop :=
  ∃ pre post, cs = pre ++ post ∧ utf8Len pre = n

/-- Characters of no length are none. -/
theorem eq_nil_of_utf8Len {cs : List Char} (h : utf8Len cs = 0) : cs = [] := by
  cases cs with
  | nil => rfl
  | cons c cs =>
    have := c.utf8Size_pos
    rw [utf8Len_cons] at h
    omega

/-- The first bytes are whole characters, or the slice panics. -/
theorem takeBytes_eq_some {n : Nat} {cs pre : List Char} :
    takeBytes n cs = some pre ↔ ∃ post, cs = pre ++ post ∧ utf8Len pre = n := by
  induction n, cs using takeBytes.induct generalizing pre with
  | case1 cs =>
    rw [takeBytes, Option.some.injEq]
    constructor
    · rintro rfl
      exact ⟨cs, rfl, rfl⟩
    · rintro ⟨post, -, hlen⟩
      exact (eq_nil_of_utf8Len hlen).symm
  | case2 n =>
    simp only [takeBytes, reduceCtorEq, false_iff]
    rintro ⟨post, hnil, hlen⟩
    obtain ⟨rfl, -⟩ := List.append_eq_nil_iff.mp hnil.symm
    cases hlen
  | case3 n c cs hfits ih =>
    simp only [takeBytes, if_pos hfits, Option.map_eq_map, Option.map_eq_some_iff]
    constructor
    · rintro ⟨pre, hpre, rfl⟩
      obtain ⟨post, rfl, hlen⟩ := ih.mp hpre
      refine ⟨post, rfl, ?_⟩
      rw [utf8Len_cons, hlen]
      omega
    · rintro ⟨post, hsplit, hlen⟩
      cases pre with
      | nil => cases hlen
      | cons d pre =>
        obtain ⟨rfl, hrest⟩ := List.cons_eq_cons.mp hsplit
        rw [utf8Len_cons] at hlen
        exact ⟨pre, ih.mpr ⟨post, hrest, by omega⟩, rfl⟩
  | case4 n c cs hlong =>
    simp only [takeBytes, if_neg hlong, reduceCtorEq, false_iff]
    rintro ⟨post, hsplit, hlen⟩
    cases pre with
    | nil => cases hlen
    | cons d pre =>
      obtain ⟨rfl, -⟩ := List.cons_eq_cons.mp hsplit
      rw [utf8Len_cons] at hlen
      omega

/-- The last bytes are whole characters, or the slice panics. -/
theorem dropBytes_eq_some {n : Nat} {cs post : List Char} :
    dropBytes n cs = some post ↔ ∃ pre, cs = pre ++ post ∧ utf8Len pre = n := by
  induction n, cs using dropBytes.induct generalizing post with
  | case1 cs =>
    rw [dropBytes, Option.some.injEq]
    constructor
    · rintro rfl
      exact ⟨[], rfl, rfl⟩
    · rintro ⟨pre, hsplit, hlen⟩
      rw [eq_nil_of_utf8Len hlen] at hsplit
      exact hsplit
  | case2 n =>
    simp only [dropBytes, reduceCtorEq, false_iff]
    rintro ⟨pre, hnil, hlen⟩
    obtain ⟨rfl, -⟩ := List.append_eq_nil_iff.mp hnil.symm
    cases hlen
  | case3 n c cs hfits ih =>
    rw [dropBytes, if_pos hfits, ih]
    constructor
    · rintro ⟨pre, rfl, hlen⟩
      refine ⟨c :: pre, rfl, ?_⟩
      rw [utf8Len_cons, hlen]
      omega
    · rintro ⟨pre, hsplit, hlen⟩
      cases pre with
      | nil => cases hlen
      | cons d pre =>
        obtain ⟨rfl, hrest⟩ := List.cons_eq_cons.mp hsplit
        rw [utf8Len_cons] at hlen
        exact ⟨pre, hrest, by omega⟩
  | case4 n c cs hlong =>
    simp only [dropBytes, if_neg hlong, reduceCtorEq, false_iff]
    rintro ⟨pre, hsplit, hlen⟩
    cases pre with
    | nil => cases hlen
    | cons d pre =>
      obtain ⟨rfl, -⟩ := List.cons_eq_cons.mp hsplit
      rw [utf8Len_cons] at hlen
      omega

/-! ## The preview

  A value of at most twelve bytes is shown whole, so the cuts matter for longer ones only. -/

/-- Short enough to be shown whole, or both cuts are between characters. -/
def CutsBetweenCharacters (value : String) : Prop :=
  value.utf8ByteSize ≤ 12 ∨
  (CharBoundary 6 value.toList ∧ CharBoundary (value.utf8ByteSize - 4) value.toList)

/-- The preview shows the first six and the last four bytes of a long value, and no more. -/
def ShowsEnds (value preview : String) : Prop :=
  ∃ head middle tail, value.toList = head ++ middle ++ tail ∧ utf8Len head = 6 ∧ utf8Len tail = 4 ∧
    preview = String.ofList head ++ "..." ++ String.ofList tail

/-- Two cuts of a long value, in order. -/
theorem ends_of_cuts {value : String} (hlong : 12 < value.utf8ByteSize) {head rest start tail : List Char}
    (hhead : value.toList = head ++ rest) (hsix : utf8Len head = 6)
    (htail : value.toList = start ++ tail) (hfour : utf8Len start = value.utf8ByteSize - 4) :
    ∃ middle, value.toList = head ++ middle ++ tail ∧ utf8Len tail = 4 := by
  have hsize : utf8Len start + utf8Len tail = value.utf8ByteSize := by
    rw [← utf8Len_append, ← htail, utf8Len_toList]
  rcases List.append_eq_append_iff.mp (hhead.symm.trans htail) with ⟨middle, rfl, -⟩ | ⟨middle, rfl, -⟩
  · exact ⟨middle, htail, by omega⟩
  · rw [utf8Len_append] at hsix
    omega

/-- The preview of a long value shows both of its ends. -/
theorem previewValue_eq_some {value preview : String} (hlong : 12 < value.utf8ByteSize) :
    previewValue value = some preview ↔ ShowsEnds value preview := by
  rw [previewValue, if_neg (by omega)]
  constructor
  · intro h
    cases hhead : takeBytes 6 value.toList with
    | none => rw [hhead] at h; cases h
    | some head =>
      cases htail : dropBytes (value.utf8ByteSize - 4) value.toList with
      | none => rw [hhead, htail] at h; cases h
      | some tail =>
        rw [hhead, htail] at h
        obtain ⟨rest, hsplit, hsix⟩ := takeBytes_eq_some.mp hhead
        obtain ⟨start, hsplit', hfour⟩ := dropBytes_eq_some.mp htail
        obtain ⟨middle, hwhole, hlast⟩ := ends_of_cuts hlong hsplit hsix hsplit' hfour
        exact ⟨head, middle, tail, hwhole, hsix, hlast, (Option.some.inj h).symm⟩
  · rintro ⟨head, middle, tail, hwhole, hsix, hlast, rfl⟩
    have hsize : utf8Len (head ++ middle) + 4 = value.utf8ByteSize := by
      rw [← hlast, ← utf8Len_append, ← hwhole, utf8Len_toList]
    have hhead : takeBytes 6 value.toList = some head :=
      takeBytes_eq_some.mpr ⟨middle ++ tail, by rw [hwhole, List.append_assoc], hsix⟩
    have htail : dropBytes (value.utf8ByteSize - 4) value.toList = some tail :=
      dropBytes_eq_some.mpr ⟨head ++ middle, hwhole, by omega⟩
    rw [hhead, htail]; rfl

/-- The preview exists exactly if both cuts lie between characters. -/
theorem previewValue_isSome {value : String} :
    (previewValue value).isSome = true ↔ CutsBetweenCharacters value := by
  by_cases hshort : value.utf8ByteSize ≤ 12
  · rw [previewValue, if_pos hshort]
    exact iff_of_true rfl (.inl hshort)
  · have hlong : 12 < value.utf8ByteSize := Nat.lt_of_not_le hshort
    rw [Option.isSome_iff_exists]
    constructor
    · rintro ⟨preview, h⟩
      obtain ⟨head, middle, tail, hwhole, hsix, hlast, -⟩ := (previewValue_eq_some hlong).mp h
      have hsize : utf8Len (head ++ middle) + 4 = value.utf8ByteSize := by
        rw [← hlast, ← utf8Len_append, ← hwhole, utf8Len_toList]
      exact .inr ⟨⟨head, middle ++ tail, by rw [hwhole, List.append_assoc], hsix⟩,
        ⟨head ++ middle, tail, hwhole, by omega⟩⟩
    · rintro (hle | ⟨⟨head, rest, hsplit, hsix⟩, ⟨start, tail, hsplit', hfour⟩⟩)
      · exact absurd hle hshort
      · obtain ⟨middle, hwhole, hlast⟩ := ends_of_cuts hlong hsplit hsix hsplit' hfour
        exact ⟨_, (previewValue_eq_some hlong).mpr ⟨head, middle, tail, hwhole, hsix, hlast, rfl⟩⟩

/-- **The event can be built** for exactly the values whose cuts are between characters; of a long
    value it then shows the ends alone.

    The ends are cut off by BYTE offsets, 6 from the left and 4 from the right, and slicing a
    `String` inside of a character panics; values of at most 12 bytes are shown whole and never cut.
    -/
theorem reference_attached_iff (actorUserId : Option Uuid) (reference : ExternalReference) :
    (∃ log preview, blockchainReferenceAttached actorUserId reference = some log ∧
      log.metadata.field "reference_preview" = some (.string preview) ∧
      (12 < reference.value.utf8ByteSize → ShowsEnds reference.value preview)) ↔
    CutsBetweenCharacters reference.value := by
  rw [← previewValue_isSome, Option.isSome_iff_exists]
  constructor
  · rintro ⟨log, preview, hlog, -⟩
    cases hpreview : previewValue reference.value with
    | none =>
      rw [blockchainReferenceAttached, hpreview] at hlog
      cases hlog
    | some shown => exact ⟨shown, rfl⟩
  · rintro ⟨preview, hpreview⟩
    obtain ⟨log, hlog, hfield⟩ : ∃ log, blockchainReferenceAttached actorUserId reference = some log ∧
        log.metadata.field "reference_preview" = some (.string preview) := by
      rw [blockchainReferenceAttached, hpreview]
      exact ⟨_, rfl, rfl⟩
    exact ⟨log, preview, hlog, hfield, fun hlong => (previewValue_eq_some hlong).mp hpreview⟩

namespace Scenario

/-- The submitter answers with this hash. -/
def submitHashed (txHash : String) : Request :=
  .submit { StellarSorobanAdapter.provider {} 0 with
    submitTransaction := fun request => .ok ⟨request.operationId, txHash, .pending, 0⟩ }
    ⟨301, 200, 201⟩ ⟨1, "a", .userControlled "G"⟩

/-- Fourteen bytes; the sixth and the seventh are one character. -/
def accented : String := "aaaaaébbbbbbb"

end Scenario

open Chain.Scenario

/-- The panic comes after the call and the record.

    The hash has a character of two bytes across the cut after the sixth byte.  By then the
    transaction has been submitted, and its record is stored with this hash. -/
theorem reference_attached_panics :
    previewValue accented = none ∧ ¬ CutsBetweenCharacters accented ∧
    let served := (submitHashed accented).program.serve start
    served.1 = .error .panicked ∧ served.2.2.submissions.length = 1 ∧
    (served.2.2.transactionRecords.find 200).map (·.txHash) = some (some accented) := by
  refine ⟨by decide, fun h => ?_, rfl, rfl, rfl⟩
  rw [← previewValue_isSome] at h
  revert h
  decide

end EduStell.Chain
