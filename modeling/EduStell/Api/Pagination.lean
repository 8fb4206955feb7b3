/-
  Pages of a list: `PaginationQuery::normalize` and `paginated`.

  `usize` has 64 bits.  A step that would overflow, or divide by zero, ends in `none`, so an answer
  says that no step has; the two saturating operations are as in the source.  Saturation shows in
  pages far beyond the end only: the start of such a page is past every list that fits in memory.

  In the end (`pages_partition`) no page shows an item twice, no item is left out, and the page
  that is said to be the last is the last one with items.
-/
import EduStell.Api.Error
import EduStell.Audit
import EduStell.Txn.Listing

namespace EduStell.Api

open Txn

/-! ## Arithmetic on `usize`

  Each operation of the source on `usize`, with its own behaviour at the ends of the range. -/

/-- `usize::saturating_sub`. -/
def saturatingSub (a b : UInt64) : UInt64 := if b ≤ a then a - b else 0

/-- `usize::saturating_mul`. -/
def saturatingMul (a b : UInt64) : UInt64 := UInt64.ofNat (min (a.toNat * b.toNat) (2 ^ 64 - 1))

/-- `usize::checked_add`. -/
def checkedAdd (a b : UInt64) : Option UInt64 :=
  if a.toNat + b.toNat < 2 ^ 64 then some (a + b) else none

/-- `usize::div_ceil` -/
def divCeil (a b : UInt64) : Option UInt64 :=
  if b = 0 then none else if a % b > 0 then checkedAdd (a / b) 1 else some (a / b)

/-! ## Pages

  A request without page or size gets the defaults; one outside the bounds is refused, and the
  error names the field. -/

/-- `page` and `per_page` of the query string. -/
structure PaginationQuery where
  page : Option UInt64
  perPage : Option UInt64

/-- A page that has been checked. -/
structure Page where
  page : UInt64
  perPage : UInt64

/-- `meta.pagination` of a response. -/
structure PaginationMeta where
  page : UInt64
  perPage : UInt64
  totalItems : UInt64
  totalPages : UInt64
  deriving DecidableEq, Repr

/-- The part of `Meta` that depends on the request. -/
structure Meta where
  pagination : PaginationMeta
  filters : Option Value

/-- Pages count from one, and have between one and a hundred items. -/
def PaginationQuery.normalize (query : PaginationQuery) : Except ApiError Page :=
  let page := query.page.getD 1
  let perPage := query.perPage.getD 20
  if page = 0 then .error (.validationWithField "page must be >= 1" "page")
  else if perPage = 0 ∨ perPage > 100 then
    .error (.validationWithField "per_page must be between 1 and 100" "per_page")
  else .ok ⟨page, perPage⟩

/-- The items of one page. The division that counts the pages may overflow, and then it panics
    (`none`). -/
def paginated {α : Type} (items : List α) (page : Page) (filters : Option Value) :
    Option (List α × Meta) := do
  let totalItems := UInt64.ofNat items.length
  let totalPages ← if totalItems = 0 then some 0 else divCeil totalItems page.perPage
  let start := saturatingMul page.perPage (saturatingSub page.page 1)
  let paged := (items.drop start.toNat).take page.perPage.toNat
  return (paged, ⟨⟨page.page, page.perPage, totalItems, totalPages⟩, filters⟩)

/-- The items of a page. -/
def pageItems {α : Type} (items : List α) (page : Page) : List α :=
  match paginated items page none with
  | some (paged, _) => paged
  | none => []

/-! ## What the steps give

  What the words are as natural numbers.  After these lemmas nothing is about overflow any more. -/

/-- What stays of a subtraction that stops at zero. -/
theorem toNat_saturatingSub (a b : UInt64) : (saturatingSub a b).toNat = a.toNat - b.toNat := by
  unfold saturatingSub
  split
  · rename_i hle
    exact UInt64.toNat_sub_of_le _ _ hle
  · rename_i hlt
    have : ¬ b.toNat ≤ a.toNat := fun hle => hlt (UInt64.le_iff_toNat_le.mpr hle)
    rw [UInt64.toNat_zero]
    omega

/-- What stays of a product that stops at the largest word. -/
theorem toNat_saturatingMul (a b : UInt64) :
    (saturatingMul a b).toNat = min (a.toNat * b.toNat) (2 ^ 64 - 1) := by
  unfold saturatingMul
  refine UInt64.toNat_ofNat_of_lt' ?_
  have : min (a.toNat * b.toNat) (2 ^ 64 - 1) ≤ 2 ^ 64 - 1 := Nat.min_le_right _ _
  show _ < 2 ^ 64
  omega

/-- The quotient is rounded up, and its last step does not overflow. -/
theorem divCeil_spec (a : UInt64) {b : UInt64} (hb : 0 < b.toNat) :
    ∃ c, divCeil a b = some c ∧ ∀ n, n < c.toNat ↔ b.toNat * n < a.toNat := by
  have hne : b ≠ 0 := by
    rintro rfl
    exact absurd hb (by decide)
  have hrest : a % b > 0 ↔ 0 < a.toNat % b.toNat := by
    rw [gt_iff_lt, UInt64.lt_iff_toNat_lt, UInt64.toNat_mod, UInt64.toNat_zero]
  have hsplit : b.toNat * (a.toNat / b.toNat) + a.toNat % b.toNat = a.toNat := Nat.div_add_mod _ _
  have hlt : a.toNat < 2 ^ 64 := a.toNat_lt
  have hrem : a.toNat % b.toNat < b.toNat := Nat.mod_lt _ hb
  rw [divCeil, if_neg hne]
  by_cases hpos : a % b > 0
  · have hrem' : 0 < a.toNat % b.toNat := hrest.mp hpos
    -- there is a rest, so the quotient is smaller than the dividend
    have hdiv : (a / b).toNat + (1 : UInt64).toNat < 2 ^ 64 := by
      rw [UInt64.toNat_div, UInt64.toNat_one]
      have : a.toNat / b.toNat ≤ b.toNat * (a.toNat / b.toNat) := Nat.le_mul_of_pos_left _ hb
      omega
    refine ⟨a / b + 1, ?_, fun n => ?_⟩
    · rw [if_pos hpos, checkedAdd, if_pos hdiv]
    · rw [UInt64.toNat_add, Nat.mod_eq_of_lt hdiv, UInt64.toNat_div, UInt64.toNat_one,
        Nat.lt_succ_iff]
      constructor
      · intro hle
        have := Nat.mul_le_mul_left b.toNat hle
        omega
      · intro hmul
        exact Nat.le_div_iff_mul_le hb |>.mpr (by rw [Nat.mul_comm]; omega)
  · have hrem' : a.toNat % b.toNat = 0 := by
      have := mt hrest.mpr hpos
      omega
    refine ⟨a / b, by rw [if_neg hpos], fun n => ?_⟩
    rw [UInt64.toNat_div]
    constructor
    · intro hn
      have := Nat.mul_lt_mul_of_pos_left hn hb
      omega
    · intro hmul
      exact Nat.lt_of_mul_lt_mul_left (a := b.toNat) (by omega)

/-- A page that passes the checks. -/
theorem normalize_ok {query : PaginationQuery} {page : Page} (h : query.normalize = .ok page) :
    page = ⟨query.page.getD 1, query.perPage.getD 20⟩ ∧ 0 < page.page.toNat ∧
    0 < page.perPage.toNat ∧ page.perPage.toNat ≤ 100 := by
  unfold PaginationQuery.normalize at h
  simp only at h
  split at h
  · cases h
  · rename_i hpage
    split at h
    · cases h
    · rename_i hper
      cases h
      have hpos : ∀ {n : UInt64}, n ≠ 0 → 0 < n.toNat := by
        intro n hn
        exact Nat.pos_of_ne_zero fun hzero => hn (UInt64.toNat_inj.mp hzero)
      refine ⟨rfl, hpos hpage, hpos fun hzero => hper (.inl hzero), ?_⟩
      have hle : ¬ (100 : UInt64) < query.perPage.getD 20 := fun hgt => hper (.inr hgt)
      exact Nat.le_of_not_lt fun hgt => hle (UInt64.lt_iff_toNat_lt.mpr hgt)

/-! ## The pages of a list

  Every item of the list is on exactly one page.  The induction runs over the pages: the first `k`
  windows are the first `k` times `per_page` items. -/

section

variable {α : Type} {items : List α}

/-- The items of a page are taken from the list. -/
theorem mem_paginated {paged : List α} {page : Page} {filters : Option Value} {pages : Meta}
    (h : paginated items page filters = some (paged, pages)) {a : α} (ha : a ∈ paged) :
    a ∈ items := by
  have hpaged : paged = (items.drop (saturatingMul page.perPage
      (saturatingSub page.page 1)).toNat).take page.perPage.toNat := by
    unfold paginated at h
    dsimp only at h
    split at h
    · exact (Prod.mk.inj (Option.some.inj h)).1.symm
    · obtain ⟨totalPages, -, h⟩ := Option.bind_eq_some_iff.mp h
      exact (Prod.mk.inj (Option.some.inj h)).1.symm
  rw [hpaged] at ha
  exact List.mem_of_mem_drop (List.mem_of_mem_take ha)

/-- A page is a window, and the total is the number of windows that are not empty. -/
theorem paginated_window (hlen : items.length < 2 ^ 64) (page : Page)
    (hper : 0 < page.perPage.toNat) (filters : Option Value) :
    ∃ totalPages : UInt64, paginated items page filters =
        some (window page.perPage.toNat (page.page.toNat - 1) items,
          ⟨⟨page.page, page.perPage, UInt64.ofNat items.length, totalPages⟩, filters⟩) ∧
      ∀ n, n < totalPages.toNat ↔ page.perPage.toNat * n < items.length := by
  have hitems : (UInt64.ofNat items.length).toNat = items.length := UInt64.toNat_ofNat_of_lt' hlen
  have hstart : (saturatingMul page.perPage (saturatingSub page.page 1)).toNat =
      min (page.perPage.toNat * (page.page.toNat - 1)) (2 ^ 64 - 1) := by
    rw [toNat_saturatingMul, toNat_saturatingSub, UInt64.toNat_one]
  have hwindow : (items.drop (saturatingMul page.perPage (saturatingSub page.page 1)).toNat).take
      page.perPage.toNat = window page.perPage.toNat (page.page.toNat - 1) items := by
    rw [hstart, window]
    by_cases hfar : page.perPage.toNat * (page.page.toNat - 1) ≤ 2 ^ 64 - 1
    · rw [Nat.min_eq_left hfar]
    · -- a start that saturates is past the end, like the one that it stands for
      rw [List.drop_eq_nil_of_le (by omega), List.drop_eq_nil_of_le (by omega)]
  obtain ⟨totalPages, htotal, hpages⟩ := divCeil_spec (UInt64.ofNat items.length) hper
  rw [hitems] at hpages
  by_cases hzero : UInt64.ofNat items.length = 0
  · refine ⟨0, ?_, fun n => ?_⟩
    · simp only [paginated, if_pos hzero, hwindow]; rfl
    · have hnone : items.length = 0 := by rw [← hitems, hzero]; rfl
      rw [UInt64.toNat_zero, hnone]
      simp
  · refine ⟨totalPages, ?_, hpages⟩
    simp only [paginated, if_neg hzero, htotal, hwindow]; rfl

/-- **Pages are a partition of the list**: every page that is accepted is answered, it has at most
    `per_page` items and some exactly up to the last page, and the pages up to there are the list.

    The length is that of a list in memory.  `totalPages` is computed with an addition that
    saturates and a division that rounds up, and the last part says that the pages 1 to
    `totalPages`, one after another, are the list. -/
theorem pages_partition (hlen : items.length < 2 ^ 64) {query : PaginationQuery} {page : Page}
    (hpage : query.normalize = .ok page) (filters : Option Value) :
    ∃ paged totalPages, paginated items page filters =
        some (paged, ⟨⟨page.page, page.perPage, UInt64.ofNat items.length, totalPages⟩, filters⟩) ∧
      paged.length ≤ page.perPage.toNat ∧ (paged ≠ [] ↔ page.page ≤ totalPages) ∧
      ((List.range totalPages.toNat).flatMap fun i =>
        pageItems items ⟨UInt64.ofNat (i + 1), page.perPage⟩) = items := by
  obtain ⟨-, hfirst, hper, -⟩ := normalize_ok hpage
  obtain ⟨totalPages, hpaged, hpages⟩ := paginated_window hlen page hper filters
  refine ⟨_, totalPages, hpaged, length_window_le _ _ _, ?_, ?_⟩
  · rw [window_ne_nil hper, ← hpages, UInt64.le_iff_toNat_le]
    omega
  · have hone : ∀ i ∈ List.range totalPages.toNat,
        pageItems items ⟨UInt64.ofNat (i + 1), page.perPage⟩ = window page.perPage.toNat i items := by
      intro i hi
      have hnumber : (UInt64.ofNat (i + 1)).toNat = i + 1 := by
        have := List.mem_range.mp hi
        have := totalPages.toNat_lt
        exact UInt64.toNat_ofNat_of_lt' (by show _ < 2 ^ 64; omega)
      obtain ⟨_, hwindow, -⟩ := paginated_window hlen ⟨UInt64.ofNat (i + 1), page.perPage⟩ hper none
      rw [pageItems, hwindow, hnumber, Nat.add_sub_cancel]
    rw [List.flatMap_congr hone, flatMap_window]
    -- the first page that is not there would begin at the end
    refine List.take_of_length_le (Nat.le_of_not_lt fun hlt => ?_)
    exact absurd ((hpages _).mpr hlt) (Nat.lt_irrefl _)

end

/-- Five items by two, from the default page on. -/
theorem pages_partition_five :
    ∃ paged totalPages, paginated [1, 2, 3, 4, 5] ⟨1, 2⟩ none =
        some (paged, ⟨⟨1, 2, 5, totalPages⟩, none⟩) ∧ paged = [1, 2] ∧ totalPages = 3 ∧
      ((List.range totalPages.toNat).flatMap fun i =>
        pageItems [1, 2, 3, 4, 5] ⟨UInt64.ofNat (i + 1), 2⟩) = [1, 2, 3, 4, 5] := by
  have hquery : (PaginationQuery.mk none (some 2)).normalize = .ok ⟨1, 2⟩ := rfl
  have hlen : [1, 2, 3, 4, 5].length < 2 ^ 64 := by decide
  obtain ⟨paged, totalPages, hpaged, -, -, hall⟩ := pages_partition hlen hquery none
  have heval : paginated [1, 2, 3, 4, 5] ⟨1, 2⟩ none =
    some ([1, 2], ⟨⟨1, 2, 5, 3⟩, none⟩) := rfl
  rw [heval] at hpaged
  cases hpaged
  exact ⟨_, _, heval, rfl, rfl, hall⟩

end EduStell.Api
