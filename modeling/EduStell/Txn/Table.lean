/-
  Keyed tables: a relation with a primary key, as a duplicate-free list of rows.

  A `Table α` keeps its rows in the order in which they were inserted (for rows that become
  visible at commit: in commit order) and carries, as a field, the fact that no two rows share
  the key `Keyed.key`.  The two write operations are the SQL ones:

  * `insert x`      — append `x`; a row whose key is taken leaves the table as it is (the caller
                      looks the key up first and reports the violation);
  * `modify k f`    — rewrite the row with key `k`, wherever it stands; `f` keeps the key.

  Where the row that `modify` meets is known, the result is `replace` of it by the new row
  (`modify_eq_replace`), and that is the form in which proofs use it: on one side the lookup after a
  write (`find_insert`, `find_replace`), on the other the SUM of a column after a write
  (`sum_insert`, `sum_replace`), which moves by exactly the change of the one row.

  The lemmas come in this order: lookups after a write, what one write leaves of the other rows,
  what stays over many writes (`Keeps`, `Grows`), selections, and sums.  A sum is taken over the
  table (`sum`) or over the rows of one owner (`sumBy`), and `column_replace` is for a table that
  keeps such a sum in a column of its own.
-/
import Mathlib.Algebra.BigOperators.Group.List.Basic
import Mathlib.Algebra.Order.BigOperators.Group.List
import Mathlib.Algebra.Order.Ring.Int
import Mathlib.Data.List.Nodup

namespace Txn

/-- The primary key of a row type. -/
class Keyed (α : Type) (κ : outParam Type) where
  key : α → κ

/-- A table: rows in insertion order, no two of them under one primary key. -/
structure Table (α : Type) {κ : Type} [Keyed α κ] where
  rows : List α
  nodup : (rows.map Keyed.key).Nodup

namespace Table

variable {α κ : Type} [Keyed α κ]

open Keyed (key)

/-- The table without rows. -/
def empty : Table α := ⟨[], List.nodup_nil⟩

/-- The empty table. -/
instance : Inhabited (Table α) := ⟨empty⟩

/-! ## Column sums

  Totals of money and of counts are integers here, also where the column is a machine word: the
  balance laws are about the sums, and that a word holds its sum is a theorem of its own. -/

/-- The sum of the column `g` over all rows. -/
def sum (t : Table α) (g : α → Int) : Int := (t.rows.map g).sum

/-- Columns that agree on the rows have one sum. -/
theorem sum_congr {t : Table α} {g g' : α → Int} (h : ∀ x ∈ t.rows, g x = g' x) :
    t.sum g = t.sum g' := by
  rw [sum, sum, List.map_congr_left h]

/-- In a column without negative entries every entry is at most the sum. -/
theorem le_sum {t : Table α} {g : α → Int} (h : ∀ x ∈ t.rows, 0 ≤ g x) {x : α}
    (hx : x ∈ t.rows) : g x ≤ t.sum g := by
  refine List.single_le_sum (fun y hy => ?_) _ (List.mem_map_of_mem hx)
  obtain ⟨z, hz, rfl⟩ := List.mem_map.mp hy
  exact h z hz

/-! ## The operations

  Each keeps the field of `Table`: no reachable table has two rows under one key, and no later
  proof has to say so. -/

variable [DecidableEq κ]

/-- The row with key `k`, if there is one. -/
def find (t : Table α) (k : κ) : Option α := t.rows.find? fun x => key x = k

/-- A row that a lookup finds is in the table, under its key. -/
theorem find_some {t : Table α} {k : κ} {x : α} (h : t.find k = some x) :
    x ∈ t.rows ∧ key x = k :=
  ⟨List.mem_of_find?_eq_some h, by simpa using List.find?_some h⟩

/-- A lookup finds nothing when no row has the key. -/
theorem find_none {t : Table α} {k : κ} : t.find k = none ↔ ∀ x ∈ t.rows, key x ≠ k := by
  simp [find, List.find?_eq_none]

/-- A row of the table is what a lookup of its key returns: the key is unique. -/
theorem find_key {t : Table α} {x : α} (hx : x ∈ t.rows) : t.find (key x) = some x := by
  cases hf : t.find (key x) with
  | none => exact absurd rfl (find_none.mp hf x hx)
  | some y =>
    obtain ⟨hy, hk⟩ := find_some hf
    rw [List.inj_on_of_nodup_map t.nodup hy hx hk]

/-- Does a row satisfy `p`?  For the entries of a secondary unique index. -/
def any (t : Table α) (p : α → Bool) : Bool := t.rows.any p

/-- Append a row under a fresh key. -/
def insert (t : Table α) (x : α) : Table α :=
  if h : t.find (key x) = none then
    ⟨t.rows ++ [x], by
      rw [List.map_append, List.nodup_append]
      refine ⟨t.nodup, List.nodup_singleton _, fun a ha b hb => ?_⟩
      obtain ⟨y, hy, rfl⟩ := List.mem_map.mp ha
      simp only [List.map_cons, List.map_nil, List.mem_singleton] at hb
      exact hb ▸ find_none.mp h y hy⟩
  else t

/-- An update that keeps the key of the one row it touches keeps every key. -/
theorem key_ite {k : κ} {f : α → α} (hf : ∀ x, key x = k → key (f x) = k) (x : α) :
    key (if key x = k then f x else x) = key x := by
  split
  · rename_i hk
    rw [hf x hk, hk]
  · rfl

/-- Rewrite the row with key `k`. -/
def modify (t : Table α) (k : κ) (f : α → α) (hf : ∀ x, key x = k → key (f x) = k) : Table α :=
  ⟨t.rows.map fun x => if key x = k then f x else x, by
    rw [List.map_map]
    refine (List.map_congr_left fun x _ => ?_) ▸ t.nodup
    rw [Function.comp_apply, key_ite hf]⟩

/-- Put `x` in the place of the row that has its key. -/
def replace (t : Table α) (x : α) : Table α := t.modify (key x) (fun _ => x) fun _ _ => rfl

/-! ## Lookups after a write

  Every rewrite of a row has one equation for its own key and one for the others.  The conditions
  are decidable equations of keys, so a proof about a concrete write is a case split on `y =
  Keyed.key x` and no more. -/

/-- A row with a fresh key is appended. -/
theorem rows_insert {t : Table α} {x : α} (h : t.find (key x) = none) :
    (t.insert x).rows = t.rows ++ [x] := by
  rw [insert, dif_pos h]

/-- A lookup after an insert: a key that was taken keeps its row. -/
theorem find_insert (t : Table α) (x : α) (k : κ) :
    (t.insert x).find k = if key x = k then some ((t.find k).getD x) else t.find k := by
  rw [insert]
  split
  · rename_i h
    simp only [find, List.find?_append]
    by_cases hk : key x = k
    · subst hk
      rw [if_pos rfl, show t.rows.find? (fun y => key y = key x) = none from h]
      simp
    · rw [if_neg hk]
      simp [hk]
  · rename_i h
    by_cases hk : key x = k
    · subst hk
      rw [if_pos rfl]
      obtain ⟨y, hy⟩ := Option.ne_none_iff_exists'.mp h
      rw [hy]; rfl
    · rw [if_neg hk]

/-- A new row makes another table. -/
theorem insert_ne {t : Table α} {x : α} (h : t.find (key x) = none) : t.insert x ≠ t := by
  intro hsame
  have hfind := find_insert t x (key x)
  rw [hsame, h, if_pos rfl] at hfind
  cases hfind

/-- An insert does not touch the rows that are there. -/
theorem find_insert_of_some {t : Table α} {k : κ} {y : α} (h : t.find k = some y) (x : α) :
    (t.insert x).find k = some y := by
  rw [find_insert, h]
  split <;> rfl

/-- A row just inserted is found under its key. -/
theorem find_insert_new {t : Table α} {x : α} {k : κ} (hk : key x = k) (h : t.find k = none) :
    (t.insert x).find k = some x := by
  rw [find_insert, if_pos hk, h]; rfl

/-- What is found after an insert is the new row or was there before. -/
theorem of_find_insert {t : Table α} {x y : α} {k : κ} (h : (t.insert x).find k = some y) :
    y = x ∨ t.find k = some y := by
  rw [find_insert] at h
  split at h
  · cases hold : t.find k with
    | none =>
      rw [hold] at h
      exact .inl (Option.some.inj h).symm
    | some z =>
      rw [hold] at h
      exact .inr h
  · exact .inr h

/-- A lookup after a rewrite: only the row with key `k` has changed. -/
theorem find_modify (t : Table α) (k k' : κ) (f : α → α)
    (hf : ∀ x, key x = k → key (f x) = k) :
    (t.modify k f hf).find k' = if k' = k then (t.find k').map f else t.find k' := by
  simp only [find, modify, List.find?_map, Function.comp_def, key_ite hf]
  cases hx : t.rows.find? (fun x => key x = k') with
  | none => simp
  | some x =>
    have hk : key x = k' := by simpa using List.find?_some hx
    by_cases hkk : k' = k
    · simp [hkk, hk]
    · simp [hkk, hk]

/-- A replacement changes the lookup of its own key, if there was a row. -/
theorem find_replace (t : Table α) (x : α) (k : κ) :
    (t.replace x).find k = if k = key x then (t.find k).map fun _ => x else t.find k :=
  find_modify t (key x) k _ _

/-- The row that replaces another one is found in its place. -/
theorem find_replace_self {t : Table α} {k : κ} {x y : α} (h : t.find k = some x)
    (hk : key y = k) : (t.replace y).find k = some y := by
  rw [find_replace, if_pos hk.symm, h]; rfl

/-- A replacement loses no row. -/
theorem find_replace_of_some {t : Table α} {k : κ} {y : α} (h : t.find k = some y) (x : α) :
    (t.replace x).find k = some (if k = key x then x else y) := by
  rw [find_replace, h]
  split <;> rfl

/-- What a row is after a replacement: itself, or it was the row that is replaced. -/
theorem find_replace_row {t : Table α} {x y z : α} {k k' : κ} (h : t.find k = some x)
    (hk : key y = k) (hz : t.find k' = some z) :
    ∃ z', (t.replace y).find k' = some z' ∧ (z' = z ∨ (k' = k ∧ z = x ∧ z' = y)) := by
  subst hk
  rw [find_replace_of_some hz]
  split
  · rename_i hk'
    have hzx : z = x := by
      rw [hk', h] at hz
      exact (Option.some.inj hz).symm
    exact ⟨y, rfl, .inr ⟨hk', hzx, rfl⟩⟩
  · exact ⟨z, rfl, .inl rfl⟩

/-- What the new row has in common with the one it replaces, a lookup does not see change. -/
theorem find_replace_map {β : Type} {t : Table α} {x y : α} {k : κ} (h : t.find k = some x)
    (hk : key y = k) {f : α → β} (hf : f y = f x) (k' : κ) :
    ((t.replace y).find k').map f = (t.find k').map f := by
  subst hk
  rw [find_replace]
  split
  · rename_i hk'
    rw [hk', h, Option.map_some, Option.map_some, Option.map_some, hf]
  · rfl

/-- Rewriting a row is replacing it by the rewritten one. -/
theorem modify_eq_replace {t : Table α} {k : κ} {x : α} (h : t.find k = some x) (f : α → α)
    (hf : ∀ x, key x = k → key (f x) = k) : t.modify k f hf = t.replace (f x) := by
  obtain ⟨hx, hk⟩ := find_some h
  have hfx : key (f x) = k := hf x hk
  simp only [modify, replace, mk.injEq, hfx]
  refine List.map_congr_left fun y hy => ?_
  by_cases hyk : key y = k
  · rw [if_pos hyk, if_pos hyk, List.inj_on_of_nodup_map t.nodup hy hx (hyk.trans hk.symm)]
  · rw [if_neg hyk, if_neg hyk]

/-- Replacing a row by itself does nothing. -/
theorem replace_self {t : Table α} {x : α} (h : t.find (key x) = some x) : t.replace x = t := by
  rw [show t.replace x = t.modify (key x) id (fun _ hk => hk) from
    (modify_eq_replace h id fun _ hk => hk).symm]
  cases t with
  | mk rows nodup => simp [modify]

/-- A row of the table after a replacement is the new one or an old one with another key. -/
theorem mem_replace {t : Table α} {x y : α} :
    y ∈ (t.replace x).rows → y = x ∨ (y ∈ t.rows ∧ key y ≠ key x) := by
  intro hy
  obtain ⟨z, hz, rfl⟩ := List.mem_map.mp hy
  by_cases hk : key z = key x
  · left; exact if_pos hk
  · right
    rw [if_neg hk]
    exact ⟨hz, hk⟩

/-- The rows after an insertion with a fresh key: the old ones and the new one. -/
theorem mem_insert {t : Table α} {x y : α} (h : t.find (key x) = none) :
    y ∈ (t.insert x).rows ↔ y ∈ t.rows ∨ y = x := by
  rw [rows_insert h]; simp

/-- An update that keeps a property of rows keeps whether some row has it. -/
theorem any_modify (t : Table α) (k : κ) (f : α → α) (hf : ∀ x, key x = k → key (f x) = k)
    {p : α → Bool} (hp : ∀ x, p (f x) = p x) : (t.modify k f hf).any p = t.any p := by
  simp only [any, modify, List.any_map]
  congr 1
  funext x
  simp only [Function.comp_apply]
  split
  · exact hp x
  · rfl

/-- After an insertion some row has a property if one had it, or the new row is stored and has it.
    -/
theorem any_insert (t : Table α) (x : α) (p : α → Bool) :
    (t.insert x).any p = (t.any p || ((t.find (key x)).isNone && p x)) := by
  rw [insert]
  split
  · rename_i h
    simp [any, h]
  · rename_i h
    have hsome : (t.find (key x)).isNone = false := by
      cases hx : t.find (key x) with
      | none => exact absurd hx h
      | some y => rfl
    simp [hsome]

/-! ### A write changes one row and its index entries, and what it makes of them depends on them -/

/-- A write to one row leaves the other lookups. -/
theorem find_modify_ne (t : Table α) {k k' : κ} (h : k' ≠ k) (f : α → α)
    (hf : ∀ x, key x = k → key (f x) = k) : (t.modify k f hf).find k' = t.find k' := by
  rw [find_modify, if_neg h]

/-- What a write makes of a row depends on that row only. -/
theorem find_modify_congr {t t' : Table α} {k : κ} (h : t.find k = t'.find k) (f : α → α)
    (hf : ∀ x, key x = k → key (f x) = k) : (t.modify k f hf).find k = (t'.modify k f hf).find k := by
  rw [find_modify, find_modify, h]

/-- An insertion leaves the other lookups. -/
theorem find_insert_ne (t : Table α) (x : α) {k : κ} (h : k ≠ key x) :
    (t.insert x).find k = t.find k := by
  rw [find_insert, if_neg (Ne.symm h)]

/-- Whether an insertion takes place depends on the row under its key only. -/
theorem find_insert_congr {t t' : Table α} (x : α) (h : t.find (key x) = t'.find (key x)) :
    (t.insert x).find (key x) = (t'.insert x).find (key x) := by
  rw [find_insert, find_insert, h]

/-- A row outside an index entry leaves it. -/
theorem any_insert_of_not (t : Table α) (x : α) {p : α → Bool} (h : p x = false) :
    (t.insert x).any p = t.any p := by
  rw [any_insert, h, Bool.and_false, Bool.or_false]

/-- Whether an index entry is taken after an insertion depends on the row and on the entry. -/
theorem any_insert_congr {t t' : Table α} (x : α) {p : α → Bool}
    (hx : t.find (key x) = t'.find (key x)) (hp : t.any p = t'.any p) :
    (t.insert x).any p = (t'.insert x).any p := by
  rw [any_insert, any_insert, hx, hp]

/-! ## What stays of the rows

  `Keeps f` speaks of the part `f` of every row (a status, an amount, an owner), which no later
  write loses.  It is reflexive and transitive, so what each statement keeps, every run keeps. -/

/-- A later table still has every row, as far as `f` can see. -/
def Keeps {β : Type} (f : α → β) (t t' : Table α) : Prop :=
  ∀ k x, t.find k = some x → ∃ x', t'.find k = some x' ∧ f x' = f x

section

variable {β : Type} {f : α → β}

/-- A table keeps its own rows. -/
theorem Keeps.refl (t : Table α) : Keeps f t t := fun _ x hx => ⟨x, hx, rfl⟩

/-- What stays over two stretches stays over both. -/
theorem Keeps.trans {t t' t'' : Table α} (h : Keeps f t t') (h' : Keeps f t' t'') :
    Keeps f t t'' := by
  intro k x hx
  obtain ⟨x', hx', hf⟩ := h k x hx
  obtain ⟨x'', hx'', hf'⟩ := h' k x' hx'
  exact ⟨x'', hx'', hf'.trans hf⟩

/-- An insertion keeps every row. -/
theorem keeps_insert (t : Table α) (x : α) : Keeps f t (t.insert x) :=
  fun _ y hy => ⟨y, find_insert_of_some hy x, rfl⟩

/-- An update keeps the part of every row that its function keeps. -/
theorem keeps_modify (t : Table α) (k : κ) (g : α → α) (hg : ∀ x, key x = k → key (g x) = k)
    (hf : ∀ x, f (g x) = f x) : Keeps f t (t.modify k g hg) := by
  intro k' x hx
  rw [find_modify, hx]
  split
  · exact ⟨g x, rfl, hf x⟩
  · exact ⟨x, rfl, rfl⟩

/-- A replacement by a row with the same kept part keeps it of every row. -/
theorem keeps_replace {t : Table α} {k : κ} {x y : α} (h : t.find k = some x) (hk : key y = k)
    (hf : f y = f x) : Keeps f t (t.replace y) := by
  intro k' z hz
  obtain ⟨z', hz', rfl | ⟨-, rfl, rfl⟩⟩ := find_replace_row h hk hz
  · exact ⟨z', hz', rfl⟩
  · exact ⟨z', hz', hf⟩

end

/-- A later table has every row as it was, and of new rows only such with `P`. -/
def Grows (P : α → Prop) (t t' : Table α) : Prop :=
  ∀ k, t'.find k = t.find k ∨ t.find k = none ∧ ∃ x, t'.find k = some x ∧ P x

section

variable {P : α → Prop}

/-- A table grows into itself. -/
theorem Grows.refl (t : Table α) : Grows P t t := fun _ => .inl rfl

/-- Growth over two stretches is growth over both. -/
theorem Grows.trans {t t' t'' : Table α} (h : Grows P t t') (h' : Grows P t' t'') :
    Grows P t t'' := by
  intro k
  rcases h' k with hsame' | ⟨hnone', x, hx, hP⟩
  · rw [hsame']
    exact h k
  · rcases h k with hsame | ⟨-, y, hy, -⟩
    · exact .inr ⟨hsame ▸ hnone', x, hx, hP⟩
    · cases hnone'.symm.trans hy

/-- A row with a fresh key and the property lets the table grow. -/
theorem grows_insert {t : Table α} {x : α} (h : t.find (key x) = none) (hP : P x) :
    Grows P t (t.insert x) := by
  intro k
  by_cases hk : k = key x
  · refine .inr ⟨hk ▸ h, x, ?_, hP⟩
    rw [find_insert, hk, h]
    simp
  · exact .inl (find_insert_ne t x hk)

end

/-! ## Selections after a write

  A list endpoint is a selection by owner or status.  Which rows it shows after a write, and in
  which place, is needed where a listing is compared with the rows. -/

/-- A selection after an insertion has the new row at its end, if it is selected. -/
theorem filter_insert {t : Table α} {x : α} (h : t.find (key x) = none) (p : α → Bool) :
    (t.insert x).rows.filter p = t.rows.filter p ++ if p x then [x] else [] := by
  rw [rows_insert h, List.filter_append]
  cases hp : p x <;> simp [hp]

/-- A replacement rewrites a selection in place, if it keeps its row in or out of it. -/
theorem filter_replace {t : Table α} {x y : α} {k : κ} (h : t.find k = some x) (hk : key y = k)
    {p : α → Bool} (hp : p y = p x) : (t.replace y).rows.filter p =
      (t.rows.filter p).map fun z => if key z = k then y else z := by
  subst hk
  obtain ⟨hx, hkx⟩ := find_some h
  rw [replace, modify, List.filter_map]
  congr 1
  refine List.filter_congr fun z hz => ?_
  rw [Function.comp_apply]
  split
  · rename_i hkz
    rw [List.inj_on_of_nodup_map t.nodup hz hx (hkz.trans hkx.symm), hp]
  · rfl

/-- The first row that satisfies `p` stays the first when rows change in other respects, -/
theorem first_modify (t : Table α) (k : κ) (f : α → α) (hf : ∀ x, key x = k → key (f x) = k)
    {p : α → Bool} (hp : ∀ x, p (f x) = p x) : (t.modify k f hf).rows.find? p =
      (t.rows.find? p).map fun x => if key x = k then f x else x := by
  rw [modify, List.find?_map]
  congr 2
  funext x
  rw [Function.comp_apply]
  split
  · exact hp x
  · rfl

/-- and when there are more rows. -/
theorem first_insert {t : Table α} {p : α → Bool} {y : α} (h : t.rows.find? p = some y) (x : α) :
    (t.insert x).rows.find? p = some y := by
  rw [insert]
  split
  · rw [List.find?_append, h]; rfl
  · exact h

omit [DecidableEq κ] in
/-- No row is first when none has the property. -/
theorem first_none {t : Table α} {p : α → Bool} : t.rows.find? p = none ↔ t.any p = false := by
  rw [List.find?_eq_none, any, List.any_eq_false]

/-- A new row that satisfies `p` is the first, if there was none. -/
theorem first_insert_new {t : Table α} {p : α → Bool} {x : α} (hx : t.find (key x) = none)
    (hnone : t.any p = false) (hp : p x = true) : (t.insert x).rows.find? p = some x := by
  rw [rows_insert hx, List.find?_append, first_none.mpr hnone]
  simp [hp]

/-! ## Column sums after a write

  The two equations that balance laws are proved with: an insertion adds its entry, a replacement
  moves the sum by the difference of ONE entry, whatever else is in the table. -/

/-- An insertion adds its own value to a column sum. -/
theorem sum_insert {t : Table α} {x : α} (h : t.find (key x) = none) (g : α → Int) :
    (t.insert x).sum g = t.sum g + g x := by
  simp [sum, rows_insert h]

/-- A replacement moves a column sum by the change of the one row it replaces. -/
theorem sum_replace {t : Table α} {x y : α} {k : κ} (h : t.find k = some x) (hy : key y = k)
    (g : α → Int) : (t.replace y).sum g = t.sum g - g x + g y := by
  subst hy
  obtain ⟨hx, hk⟩ := find_some h
  obtain ⟨pre, post, hrows⟩ := List.append_of_mem hx
  have hnd := t.nodup
  rw [hrows, List.map_append, List.map_cons, List.nodup_append, List.nodup_cons] at hnd
  obtain ⟨-, ⟨hpost, -⟩, hpre⟩ := hnd
  -- no other row carries the key, so the replacement is the identity on both sides of `x`
  have hpre' : pre.map (fun z => g (if key z = key y then y else z)) = pre.map g := by
    refine List.map_congr_left fun z hz => ?_
    have hne : key z ≠ key y := fun he =>
      hpre (key z) (List.mem_map_of_mem hz) (key x) List.mem_cons_self (he.trans hk.symm)
    rw [if_neg hne]
  have hpost' : post.map (fun z => g (if key z = key y then y else z)) = post.map g := by
    refine List.map_congr_left fun z hz => ?_
    have hne : key z ≠ key y := fun he =>
      hpost (by rw [hk, ← he]; exact List.mem_map_of_mem hz)
    rw [if_neg hne]
  simp only [sum, replace, modify, hrows, List.map_map, List.map_append, List.map_cons,
    List.sum_append, List.sum_cons, Function.comp_def, hpre', hpost', if_pos hk]
  omega

/-! ## A column that follows sums

  `S k` is meant to be a sum over rows that belong to the row with key `k`, in this table or another
  one: a total that is kept in a column of its own. -/

/-- A column still holds its sums when one row is replaced, and column and sum of it move by the
    same amount. -/
theorem column_replace {t : Table α} {x y : α} {k : κ} (h : t.find k = some x) (hk : key y = k)
    {g : α → Int} {S S' : κ → Int} {d : Int} (hg : ∀ z ∈ t.rows, g z = S (key z))
    (hS : ∀ k', S' k' = S k' + if k = k' then d else 0) (hy : g y = g x + d) :
    ∀ z ∈ (t.replace y).rows, g z = S' (key z) := by
  subst hk
  obtain ⟨hx, hkx⟩ := find_some h
  intro z hz
  rw [hS]
  rcases mem_replace hz with rfl | ⟨hz, hne⟩
  · rw [if_pos rfl, hy, hg x hx, hkx]
  · rw [if_neg (Ne.symm hne), Int.add_zero]
    exact hg z hz

/-- A row that keeps its entry keeps the column. -/
theorem column_keep {t : Table α} {x y : α} {k : κ} (h : t.find k = some x) (hk : key y = k)
    {g : α → Int} {S : κ → Int} (hg : ∀ z ∈ t.rows, g z = S (key z)) (hy : g y = g x) :
    ∀ z ∈ (t.replace y).rows, g z = S (key z) := by
  have hS : ∀ k', S k' = S k' + if k = k' then 0 else 0 := by
    intro k'
    rw [ite_self, Int.add_zero]
  exact column_replace h hk hg hS (hy.trans (Int.add_zero _).symm)

/-! ## Grouped sums

  A sum for each owner instead of one for the table: the balance of a vault is the sum over the
  rows of the vault.  A replacement that keeps the owner leaves the sums of all other owners. -/

section

variable {ι : Type} [DecidableEq ι]

/-- The sum of the column `g` over the rows of one owner: `SUM ... GROUP BY`. -/
def sumBy (t : Table α) (owner : α → ι) (g : α → Int) (k : ι) : Int :=
  t.sum fun x => if owner x = k then g x else 0

/-- A replacement that keeps the owner moves the owner's sum by the change of the row. -/
theorem sumBy_replace {t : Table α} {x y : α} {k : κ} (h : t.find k = some x) (hk : key y = k)
    {owner : α → ι} (howner : owner y = owner x) (g : α → Int) (i : ι) :
    (t.replace y).sumBy owner g i = t.sumBy owner g i + if owner x = i then g y - g x else 0 := by
  rw [sumBy, sum_replace h hk, howner, sumBy]
  split <;> omega

/-- An insertion adds to the sum of its own group. -/
theorem sumBy_insert {t : Table α} {x : α} (h : t.find (key x) = none) (owner : α → ι)
    (g : α → Int) (i : ι) :
    (t.insert x).sumBy owner g i = t.sumBy owner g i + if owner x = i then g x else 0 :=
  sum_insert h _

omit [DecidableEq κ] in
/-- Rows grouped alike have the same grouped sums. -/
theorem sumBy_congr {t : Table α} {owner owner' : α → ι} (h : ∀ x ∈ t.rows, owner x = owner' x)
    (g : α → Int) (k : ι) : t.sumBy owner g k = t.sumBy owner' g k :=
  sum_congr fun x hx => by rw [h x hx]

omit [DecidableEq κ] in
/-- An owner without rows has the sum zero. -/
theorem sumBy_eq_zero {t : Table α} {owner : α → ι} {k : ι} (h : ∀ x ∈ t.rows, owner x ≠ k)
    (g : α → Int) : t.sumBy owner g k = 0 := by
  have hzero : t.sumBy owner g k = t.sum fun _ => 0 := sum_congr fun x hx => if_neg (h x hx)
  rw [hzero, sum]
  simp

omit [DecidableEq κ] in
/-- Without negative entries, a row is at most its owner's sum. -/
theorem le_sumBy {t : Table α} (owner : α → ι) {g : α → Int} (h : ∀ x ∈ t.rows, 0 ≤ g x) {x : α}
    (hx : x ∈ t.rows) : g x ≤ t.sumBy owner g (owner x) := by
  have hnonneg : ∀ y ∈ t.rows, 0 ≤ if owner y = owner x then g y else 0 := by
    intro y hy
    split
    · exact h y hy
    · exact Int.le_refl 0
  have hle := le_sum hnonneg hx
  rwa [if_pos rfl] at hle

end

end Table
end Txn
