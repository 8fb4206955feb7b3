/-
  What a query lists: rows in an order, and lists without repetitions.

  * `orderByDesc` — `ORDER BY … DESC`, and a stable sort with the arguments swapped.  SQL leaves the
    order of rows with equal keys open; here they stay in the order of the table, so a result about
    every table is one about every such order.
  * `dedupByKey`  — `Vec::dedup_by_key`: of neighbours with one key, the first stays.
  * `window`      — the `i`-th stretch of `k` items; the stretches one after another are the list.

  A page is a window of a listing.  That the windows one after another make up the list is a fact
  about lists, and has nothing to do with the rows in it.
-/
import EduStell.Txn.Table
import Mathlib.Data.List.Destutter
import Mathlib.Data.List.Sort

namespace Txn

variable {α ν κ : Type}

/-- `ORDER BY f(..) DESC`: a stable sort, the greatest first. -/
def orderByDesc [LinearOrder ν] (f : α → ν) (l : List α) : List α :=
  l.insertionSort fun a b => f b ≤ f a

/-- `Vec::dedup_by_key`: of neighbours with one key the first is kept. -/
def dedupByKey [DecidableEq ν] (f : α → ν) (l : List α) : List α :=
  l.destutter fun a b => f a ≠ f b

section

variable [LinearOrder ν] {f : α → ν} {l : List α}

/-- Sorting rearranges the rows. -/
theorem perm_orderByDesc (f : α → ν) (l : List α) : (orderByDesc f l).Perm l :=
  List.perm_insertionSort _ l

/-- Sorting keeps which rows there are. -/
@[simp] theorem mem_orderByDesc {a : α} : a ∈ orderByDesc f l ↔ a ∈ l := List.mem_insertionSort _

/-- After sorting, no row is below a later one. -/
theorem pairwise_orderByDesc (f : α → ν) (l : List α) :
    (orderByDesc f l).Pairwise fun a b => f b ≤ f a := by
  have : Std.Total fun a b : α => f b ≤ f a := ⟨fun a b => le_total (f b) (f a)⟩
  have : IsTrans α fun a b => f b ≤ f a := ⟨fun _ _ _ hab hbc => hbc.trans hab⟩
  exact List.pairwise_insertionSort _ l

end

/-- Where no key is there twice, nothing is removed. -/
theorem dedupByKey_of_nodup [DecidableEq ν] {f : α → ν} {l : List α} (h : (l.map f).Nodup) :
    dedupByKey f l = l :=
  List.destutter_of_isChain _ l (List.pairwise_map.mp h).isChain

/-! ## Rows of a table

  Rows of a table differ in their keys, so a listing shows no row twice, also when it is put
  together from the listings of several owners. -/

section

variable [Keyed α κ]

/-- Selected rows have distinct keys. -/
theorem Table.nodup_filter (t : Table α) (p : α → Bool) :
    ((t.rows.filter p).map Keyed.key).Nodup :=
  t.nodup.sublist (List.filter_sublist.map _)

/-- Selections for keys that differ do not overlap. -/
theorem Table.nodup_flatMap (t : Table α) {ι : Type} [DecidableEq ι] (owner : α → ι) {ks : List ι}
    (hks : ks.Nodup) (sel : ι → List α)
    (hsel : ∀ k, (sel k).Perm (t.rows.filter fun x => owner x = k)) :
    ((ks.flatMap sel).map (Keyed.key (α := α))).Nodup := by
  rw [List.map_flatMap, List.nodup_flatMap]
  constructor
  · intro k _
    exact ((hsel k).map Keyed.key).nodup_iff.mpr (t.nodup_filter _)
  · refine hks.imp fun {k k'} hne => ?_
    intro key hk hk'
    obtain ⟨x, hx, rfl⟩ := List.mem_map.mp hk
    obtain ⟨y, hy, heq⟩ := List.mem_map.mp hk'
    obtain ⟨hxrow, hxowner⟩ := List.mem_filter.mp ((hsel k).mem_iff.mp hx)
    obtain ⟨hyrow, hyowner⟩ := List.mem_filter.mp ((hsel k').mem_iff.mp hy)
    -- one key, one row, one owner
    obtain rfl : y = x := List.inj_on_of_nodup_map t.nodup hyrow hxrow heq
    exact hne ((of_decide_eq_true hxowner).symm.trans (of_decide_eq_true hyowner))

end

/-! ## Windows

  A page is a window.  The windows of one size, one after another, give the list back: nothing is
  shown twice and nothing is skipped, which is what paging promises. -/

/-- The `k` items after the first `k * i`. -/
def window (k i : Nat) (l : List α) : List α := (l.drop (k * i)).take k

/-- A window has at most its size. -/
theorem length_window_le (k i : Nat) (l : List α) : (window k i l).length ≤ k :=
  List.length_take_le k _

/-- A window is empty from the end of the list on. -/
theorem window_ne_nil {k : Nat} (hk : 0 < k) (i : Nat) (l : List α) :
    window k i l ≠ [] ↔ k * i < l.length := by
  rw [← List.length_pos_iff, window, List.length_take, List.length_drop]
  omega

/-- The first windows are the beginning of the list. -/
theorem flatMap_window (k n : Nat) (l : List α) :
    ((List.range n).flatMap fun i => window k i l) = l.take (k * n) := by
  induction n with
  | zero => simp
  | succ n ih =>
    rw [List.range_succ, List.flatMap_append, ih, Nat.mul_succ, List.take_add]
    simp [window]

end Txn
