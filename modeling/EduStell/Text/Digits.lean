/-
  Numbers as digits of a base up to sixteen: a fixed number of them, or as many as there are.

  `readDigits` reads from the left with the value so far as accumulator; both spellings are read back.
-/
import Mathlib.Algebra.Group.Nat.Defs

namespace Text

/-- The value of a digit, in either case of the letters. -/
def digitValue (c : Char) : Option Nat :=
  if '0' ≤ c ∧ c ≤ '9' then some (c.toNat - '0'.toNat)
  else if 'a' ≤ c ∧ c ≤ 'f' then some (c.toNat - 'a'.toNat + 10)
  else if 'A' ≤ c ∧ c ≤ 'F' then some (c.toNat - 'A'.toNat + 10)
  else none

/-- A digit that was written is read back, in every base up to sixteen. -/
theorem digitValue_digitChar : ∀ d < 16, digitValue d.digitChar = some d := by decide

/-- A number of base `b`, after the digits that make `acc`. -/
def readDigits (b : Nat) : Nat → List Char → Option Nat
  | acc, [] => some acc
  | acc, c :: cs =>
    match digitValue c with
    | some d => if d < b then readDigits b (acc * b + d) cs else none
    | none => none

/-- The last `w` digits of a number. -/
def digits (b : Nat) : Nat → Nat → List Char
  | 0, _ => []
  | w + 1, n => digits b w (n / b) ++ [(n % b).digitChar]

/-- The text has the width that was asked for, whatever the number. -/
@[simp] theorem length_digits (b w n : Nat) : (digits b w n).length = w := by
  induction w generalizing n with
  | zero => rfl
  | succ w ih => rw [digits, List.length_append, ih]; rfl

variable {b : Nat}

/-- A number is read from the left: what follows is read on top of what came before. -/
theorem readDigits_append (acc : Nat) (cs ds : List Char) :
    readDigits b acc (cs ++ ds) = (readDigits b acc cs).bind fun acc => readDigits b acc ds := by
  induction cs generalizing acc with
  | nil => rfl
  | cons c cs ih =>
    simp only [List.cons_append, readDigits]
    split
    · split
      · exact ih _
      · rfl
    · rfl

/-- One more digit shifts the number by the base and adds the digit. -/
theorem readDigits_digitChar (hb : b ≤ 16) (acc : Nat) {d : Nat} (hd : d < b) :
    readDigits b acc [d.digitChar] = some (acc * b + d) := by
  simp only [readDigits, digitValue_digitChar d (Nat.lt_of_lt_of_le hd hb), if_pos hd]

/-- A number that fits is read back from its digits. -/
theorem readDigits_digits (hpos : 0 < b) (hb : b ≤ 16) (acc : Nat) {w n : Nat} (hn : n < b ^ w) :
    readDigits b acc (digits b w n) = some (acc * b ^ w + n) := by
  induction w generalizing n with
  | zero =>
    have hzero : n = 0 := by simpa using hn
    rw [hzero]
    simp [digits, readDigits]
  | succ w ih =>
    have hlt : n / b < b ^ w := Nat.div_lt_of_lt_mul (by rw [Nat.mul_comm]; exact hn)
    have hdigit : n % b < b := Nat.mod_lt n hpos
    rw [digits, readDigits_append, ih hlt, Option.bind_some, readDigits_digitChar hb _ hdigit]
    have hn' : n / b * b + n % b = n := by rw [Nat.mul_comm]; exact Nat.div_add_mod n b
    rw [Nat.add_mul, Nat.add_assoc, hn', Nat.mul_assoc, ← Nat.pow_succ]

/-- A number is read back from its digits without leading zeros. -/
theorem readDigits_toDigits (hpos : 1 < b) (hb : b ≤ 16) (n : Nat) :
    readDigits b 0 (Nat.toDigits b n) = some n := by
  induction n using Nat.strongRecOn with
  | ind n ih =>
    rw [Nat.toDigits_eq_if hpos]
    split
    · rename_i hn
      rw [readDigits_digitChar hb 0 hn, Nat.zero_mul, Nat.zero_add]
    · rename_i hn
      have hlt : n / b < n := Nat.div_lt_self (by omega) hpos
      have hdigit : n % b < b := Nat.mod_lt n (by omega)
      rw [readDigits_append, ih _ hlt, Option.bind_some, readDigits_digitChar hb _ hdigit]
      rw [Nat.mul_comm, Nat.div_add_mod]

/-! ## Integers

  A sign, and the decimal digits of the absolute value without leading zeros. -/

/-- A decimal text with a sign if it is negative. -/
def readInt : List Char → Option Int
  | [] => none
  | c :: cs =>
    if c = '-' then (readDigits 10 0 cs).map fun n => -(n : Int)
    else (readDigits 10 0 (c :: cs)).map Int.ofNat

/-- A natural number that is written in decimal is read back. -/
theorem readInt_toDigits (n : Nat) : readInt (Nat.toDigits 10 n) = some (n : Int) := by
  have hread := readDigits_toDigits (b := 10) (by decide) (by decide) n
  cases hcs : Nat.toDigits 10 n with
  | nil => exact absurd hcs Nat.toDigits_ne_nil
  | cons c cs =>
    have hdigit : c.isDigit = true :=
      Nat.isDigit_of_mem_toDigits (by decide) (by decide) (hcs ▸ List.mem_cons_self)
    have hsign : c ≠ '-' := by
      rintro rfl
      cases hdigit
    rw [hcs] at hread
    rw [readInt, if_neg hsign, hread]; rfl

/-- An integer is read back from its text. -/
theorem readInt_repr (n : Int) : readInt n.repr.toList = some n := by
  cases n with
  | ofNat n =>
    rw [Int.repr, Nat.toList_repr]
    exact readInt_toDigits n
  | negSucc n =>
    rw [Int.repr, String.toList_append, Nat.toList_repr]
    change (readDigits 10 0 (Nat.toDigits 10 (n + 1))).map (fun n => -(n : Int)) = _
    rw [readDigits_toDigits (by decide) (by decide)]; rfl

end Text
