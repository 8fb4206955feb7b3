/-
  The error type of the application services.

  `ContributionError`, `PayoutError`, `ScholarshipError` and `SchoolError` of the source are four
  enums with the same five variants and the same conversion from `PersistenceError`; they are one
  type here.  The conversions from the rule violations differ and stand with their services.
-/
import EduStell.Persistence

namespace EduStell

open Txn Program

/-- What a service answers instead of a result: the five variants that the four enums share. -/
inductive ServiceError
  | validation (message : String)
  | forbidden
  | notFound
  | conflict (message : String)
  | repository (message : String)
  deriving DecidableEq, Repr

/-- The four enums of the source, under their own names. -/
abbrev ContributionError := ServiceError
/-- The payout service has these errors. -/
abbrev PayoutError := ServiceError
/-- So does the scholarship service. -/
abbrev ScholarshipError := ServiceError
/-- So does the school service. -/
abbrev SchoolError := ServiceError

/-- `From<PersistenceError>` -/
def ServiceError.ofPersistence : PersistenceError → ServiceError
  | .notFound => .notFound
  | .conflict message => .conflict message
  | .validation message => .validation message
  | .repository message => .repository message

/-- A transaction of the persistence layer, called from a service. -/
def workflow {α : Type} (p : Tx PersistenceError α) : Tx ServiceError α :=
  p.mapError .ofPersistence

/-- `From<…RuleViolation>` -/
class IntoServiceError (ε : Type) where
  into : ε → ServiceError

/-- A rule of the domain, checked by a service. -/
def check {ε α : Type} [IntoServiceError ε] (r : Except ε α) : Tx ServiceError α :=
  ofExcept (r.mapError IntoServiceError.into)

/-- A rule that is checked in one case only. -/
def checkIf {ε : Type} [IntoServiceError ε] (c : Prop) [Decidable c] (r : Except ε Unit) :
    Tx ServiceError Unit :=
  if c then check r else pure ()

/-! ## Rules for the service-level statements

  A check has two ends, and its rule gives one goal for each: the converted violation, or the rest
  of the service with the check's condition as a hypothesis. -/

section

variable {α β ε : Type} [IntoServiceError ε] {E : Session Db Resource Write → Db → β → Prop}
  {N : Session Db Resource Write → Db → Except ServiceError β → Prop}
  {l : Session Db Resource Write} {s : Db}

/-- A check of the domain ends the service with its converted violation, or lets it go on. -/
theorem Ends.check {r : Except ε α} {k : α → Tx ServiceError β}
    (herr : ∀ e, r = .error e → N l s (.error (IntoServiceError.into e)))
    (hok : ∀ a, r = .ok a → Ends (k a) E N l s) : Ends (EduStell.check r >>= k) E N l s := by
  cases r with
  | error e => exact Ends.fail (herr e rfl)
  | ok a => exact hok a rfl

/-- A check that is made in one case only lets the service go on in every other case. -/
theorem Ends.checkIf {c : Prop} [Decidable c] {r : Except ε Unit} {k : Unit → Tx ServiceError β}
    (herr : ∀ e, c → r = .error e → N l s (.error (IntoServiceError.into e)))
    (hok : (c → r = .ok ()) → Ends (k ()) E N l s) : Ends (EduStell.checkIf c r >>= k) E N l s := by
  rw [EduStell.checkIf]
  split
  · rename_i hc
    refine Ends.check (fun e he => herr e hc he) ?_
    intro u hu
    exact hok fun _ => hu
  · rename_i hc
    exact hok fun hc' => absurd hc' hc

end

end EduStell
