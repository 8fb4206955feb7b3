/-
  Days of the calendar: `NaiveDate` of the `chrono` crate, in its order and with its text.

  A date of the structure is a date of the proleptic Gregorian calendar, within the years that the
  crate has.  `iso` is the text that `serde_json` writes; no two dates share it.

  Only order and text are needed: credentials are listed by the date of their achievement, and the
  date is part of what an attestation is made of.  There is no arithmetic of days here.
-/
import EduStell.Text.Digits
import Mathlib.Data.Prod.Lex

namespace EduStell

/-- The Gregorian rule: every fourth year, but of the centuries every fourth only. -/
def isLeapYear (year : Int) : Bool := year % 4 = 0 && (year % 100 ≠ 0 || year % 400 = 0)

/-- The last day of a month; that of February depends on the year. -/
def daysInMonth (year : Int) (month : Nat) : Nat :=
  match month with
  | 2 => if isLeapYear year then 29 else 28
  | 4 | 6 | 9 | 11 => 30
  | _ => 31

/-- `chrono::NaiveDate`: a year in the range of chrono, a month of it and a day of that month.  A
    date that is not in the calendar cannot be built. -/
structure NaiveDate where
  year : Int
  month : Nat
  day : Nat
  year_range : -262143 ≤ year ∧ year ≤ 262142
  month_range : 1 ≤ month ∧ month ≤ 12
  day_range : 1 ≤ day ∧ day ≤ daysInMonth year month

namespace NaiveDate

/-- Two dates with the same year, month and day are the same date. -/
theorem ext_fields {d e : NaiveDate} (hyear : d.year = e.year) (hmonth : d.month = e.month)
    (hday : d.day = e.day) : d = e := by
  cases d; cases e
  simp only at hyear hmonth hday
  subst hyear hmonth hday
  rfl

/-- Year, month and day, compared from left to right. -/
instance : LinearOrder NaiveDate :=
  LinearOrder.lift' (fun d => toLex (d.year, toLex (d.month, d.day))) fun d e h => by
    have hyear : d.year = e.year := congrArg (fun p => (ofLex p).1) h
    have hmonth : d.month = e.month := congrArg (fun p => (ofLex (ofLex p).2).1) h
    have hday : d.day = e.day := congrArg (fun p => (ofLex (ofLex p).2).2) h
    exact ext_fields hyear hmonth hday

/-! ## The text

  A year may have a sign and more than four digits, so that the text determines the date is proved
  piece by piece: the digits of a width, the year, then the month and the day behind it. -/

/-- The digits of a year without its sign: four, or as many as it takes. -/
def yearDigits (n : Nat) : List Char :=
  if n < 10 ^ 4 then Text.digits 10 4 n
  else if n < 10 ^ 5 then Text.digits 10 5 n
  else Text.digits 10 6 n

/-- Outside of 0 to 9999 a year has a sign. -/
def yearText (year : Int) : List Char :=
  if 0 ≤ year ∧ year ≤ 9999 then Text.digits 10 4 year.toNat
  else (if year < 0 then '-' else '+') :: yearDigits year.natAbs

/-- The text of a date, as `Display` and `serde` write it: ISO 8601. -/
def iso (d : NaiveDate) : String :=
  String.ofList (yearText d.year ++ '-' :: Text.digits 10 2 d.month ++ '-' :: Text.digits 10 2 d.day)

/-- Numbers that fit the width have different texts. -/
theorem digits_injective {w n m : Nat} (hn : n < 10 ^ w) (hm : m < 10 ^ w)
    (h : Text.digits 10 w n = Text.digits 10 w m) : n = m := by
  have hread := Text.readDigits_digits (b := 10) (by decide) (by decide) 0 hn
  rw [h, Text.readDigits_digits (by decide) (by decide) 0 hm, Nat.zero_mul, Nat.zero_add,
    Nat.zero_add] at hread
  exact (Option.some.inj hread).symm

/-- The digits of a year of at most six digits are read back. -/
theorem readDigits_yearDigits {n : Nat} (hn : n < 10 ^ 6) :
    Text.readDigits 10 0 (yearDigits n) = some n := by
  have hread : ∀ {w}, n < 10 ^ w → Text.readDigits 10 0 (Text.digits 10 w n) = some n := by
    intro w hw
    rw [Text.readDigits_digits (by decide) (by decide) 0 hw, Nat.zero_mul, Nat.zero_add]
  rw [yearDigits]
  split
  · exact hread ‹_›
  · split
    · exact hread ‹_›
    · exact hread hn

/-- A year is written with four digits at least. -/
theorem yearDigits_length (n : Nat) : 4 ≤ (yearDigits n).length := by
  rw [yearDigits]
  split
  · rw [Text.length_digits]
  · split <;> rw [Text.length_digits] <;> omega

/-- Different years have different texts, signs included. -/
theorem yearText_injective {y z : Int} (hy : -262143 ≤ y ∧ y ≤ 262142)
    (hz : -262143 ≤ z ∧ z ≤ 262142) (h : yearText y = yearText z) : y = z := by
  have hlength := congrArg List.length h
  by_cases hy4 : 0 ≤ y ∧ y ≤ 9999 <;> by_cases hz4 : 0 ≤ z ∧ z ≤ 9999
  · rw [yearText, yearText, if_pos hy4, if_pos hz4] at h
    have hnat := digits_injective (by omega) (by omega) h
    omega
  · -- a year with a sign is the longer text
    rw [yearText, yearText, if_pos hy4, if_neg hz4, Text.length_digits, List.length_cons] at hlength
    have := yearDigits_length z.natAbs
    omega
  · rw [yearText, yearText, if_neg hy4, if_pos hz4, Text.length_digits, List.length_cons] at hlength
    have := yearDigits_length y.natAbs
    omega
  · rw [yearText, yearText, if_neg hy4, if_neg hz4] at h
    obtain ⟨hsign, hdigits⟩ := List.cons_eq_cons.mp h
    have hread := readDigits_yearDigits (n := y.natAbs) (by omega)
    rw [hdigits, readDigits_yearDigits (by omega)] at hread
    have habs : z.natAbs = y.natAbs := Option.some.inj hread
    have hsame : y < 0 ↔ z < 0 := by
      by_cases hy0 : y < 0 <;> by_cases hz0 : z < 0
      · exact ⟨fun _ => hz0, fun _ => hy0⟩
      · rw [if_pos hy0, if_neg hz0] at hsign
        cases hsign
      · rw [if_neg hy0, if_pos hz0] at hsign
        cases hsign
      · exact ⟨fun hlt => absurd hlt hy0, fun hlt => absurd hlt hz0⟩
    omega

/-- A day has two digits at most. -/
theorem day_lt (d : NaiveDate) : d.day < 100 := by
  have hday := d.day_range.2
  unfold daysInMonth at hday
  split at hday
  · split at hday <;> omega
  all_goals omega

/-- A date is known by its text. -/
theorem iso_injective {d e : NaiveDate} (h : d.iso = e.iso) : d = e := by
  rw [iso, iso, String.ofList_inj] at h
  simp only [List.append_assoc] at h
  obtain ⟨hyear, hrest⟩ := List.append_inj' h (by simp)
  obtain ⟨hmonth, hday⟩ := List.append_inj (List.cons_eq_cons.mp hrest).2 (by simp)
  have hd := d.month_range
  have he := e.month_range
  refine ext_fields (yearText_injective d.year_range e.year_range hyear) ?_ ?_
  · exact digits_injective (by omega) (by omega) hmonth
  · exact digits_injective d.day_lt e.day_lt (List.cons_eq_cons.mp hday).2

example : (NaiveDate.mk 2026 4 1 (by decide) (by decide) (by decide)).iso = "2026-04-01" := by decide

end NaiveDate
end EduStell
