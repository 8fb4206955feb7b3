/-
  Journals: append-only lists of entries, read as columns and as running balances.

  `sumOf p g l` is the SUM of the column `g` over the entries with `p`.  `Running balance total l`
  says that every entry carries, in the column `balance`, what `total` makes of the journal up to
  and including it; for that, appending has to carry the right balance and nothing else
  (`Running.snoc`).
-/
import EduStell.Txn.Program
import Mathlib.Algebra.BigOperators.Group.List.Basic
import Mathlib.Algebra.Order.Ring.Int

namespace Txn
namespace Journal

variable {α : Type}

/-- The sum of a column over the entries of a kind. -/
def sumOf (p : α → Bool) (g : α → Int) (l : List α) : Int := ((l.filter p).map g).sum

/-- A longer journal adds its own entries. -/
@[simp] theorem sumOf_append (p : α → Bool) (g : α → Int) (l l' : List α) :
    sumOf p g (l ++ l') = sumOf p g l + sumOf p g l' := by
  simp [sumOf]

/-- The sum over one entry. -/
@[simp] theorem sumOf_singleton (p : α → Bool) (g : α → Int) (a : α) :
    sumOf p g [a] = if p a then g a else 0 := by
  cases h : p a <;> simp [sumOf, h]

/-- Every entry carries the balance of the journal just after it. -/
def Running (balance : α → Int) (total : α → List α → Int) (l : List α) : Prop :=
  ∀ pre e post, l = pre ++ e :: post → balance e = total e (pre ++ [e])

variable {balance : α → Int} {total : α → List α → Int} {l : List α}

/-- The empty journal. -/
theorem Running.nil : Running balance total ([] : List α) := by
  intro pre e post h
  simp at h

/-- An entry whose balance is the total up to it. -/
theorem Running.snoc (h : Running balance total l) {a : α} (ha : balance a = total a (l ++ [a])) :
    Running balance total (l ++ [a]) := by
  intro pre e post hsplit
  rcases split_snoc hsplit with ⟨rfl, rfl⟩ | ⟨post', hl⟩
  · -- the new entry itself
    exact ha
  · exact h pre e post' hl

end Journal
end Txn
