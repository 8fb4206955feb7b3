/-
  Serial runs: programs served one after another, and what happened earlier in such a run.

  The first part is about one program that runs alone: `p.Runs l s Q` says how it ends, and there is
  one rule for each statement, in the form "statement, then rest".  A plain SELECT sees the state
  itself; which locks the session holds and what it has seen before does not matter (`exec_congr`).

  The second part speaks of runs.  `Earlier P qs` says that some request of `qs` had `P` of the
  requests before it, so what a request finds is compared with the past of the run and not with a
  flag in the state; `earlier_snoc` is the step of every induction over it.

  Both parts use the programs as they are: nothing about a serial run is defined a second time.
-/
import EduStell.Txn.Program
import Mathlib.Data.List.Induction

namespace Txn

variable {σ R : Type} {V : R → Type} {W ε α β κ : Type} [Store σ V W]

/-! ## One program

  `Runs` is the strongest reading, for a program that meets nobody: each read returns the row that
  is there, and a whole call is evaluated statement by statement. -/

/-- Running alone depends on the pending writes only. -/
theorem Program.exec_congr (p : Program σ V W ε α) : ∀ {l l' : Session σ R W} (s : σ),
    l.writes = l'.writes → p.exec l s = p.exec l' s := by
  induction p with
  | ret a => exact fun s _ => rfl
  | fail e => exact fun s _ => rfl
  | read k ih =>
    intro l l' s h
    rw [Program.exec, Program.exec, Session.view_congr h s]
    exact ih _ s h
  | start k ih => exact fun s h => ih s h
  | lock r k ih =>
    intro l l' s h
    rw [Program.exec, Program.exec, Session.view_congr h s]
    exact ih _ s h
  | write w k ih =>
    intro l l' s h
    exact ih s (congrArg (· ++ [w]) h)
  | commit k ih =>
    intro l l' s h
    rw [Program.exec, Program.exec, Session.view_congr h s]
    exact ih _ rfl
  | rollback k ih => exact fun s _ => ih s rfl

/-- Run alone from session `l`, the program ends with an answer and a state that satisfy `Q`. -/
def Program.Runs (p : Program σ V W ε α) (l : Session σ R W) (s : σ) (Q : Except ε α → σ → Prop) :
    Prop :=
  Q (p.exec l s).1 (p.exec l s).2

namespace Program.Runs

variable {l : Session σ R W} {s : σ} {Q : Except ε β → σ → Prop}

/-- A plain SELECT reads the one database there is. -/
theorem select {query : σ → α} {k : α → Program σ V W ε β}
    (h : (k (query (l.view s))).Runs (l.saw s) s Q) : (Program.select query >>= k).Runs l s Q := h

/-- `BEGIN` changes nothing. -/
theorem beginTx {k : Unit → Program σ V W ε β} (h : (k ()).Runs l.begun s Q) :
    (Program.beginTx >>= k).Runs l s Q := h

/-- A lock reads the row. -/
theorem forUpdate {r : R} {k : V r → Program σ V W ε β}
    (h : (k (Store.get (l.view s) r)).Runs (l.lock r) s Q) :
    (Program.forUpdate r >>= k).Runs l s Q := h

/-- A statement is seen by the session that made it. -/
theorem execute {w : W} {k : Unit → Program σ V W ε β} (h : (k ()).Runs (l.write w) s Q) :
    (Program.execute w >>= k).Runs l s Q := h

/-- A commit publishes what the session has written. -/
theorem commitTx {k : Unit → Program σ V W ε β} (h : (k ()).Runs l.ended (l.view s) Q) :
    (Program.commitTx >>= k).Runs l s Q := h

/-- A guard ends the program, or the rest goes on. -/
theorem failIf {c : Prop} [Decidable c] {e : ε} {k : Unit → Program σ V W ε β}
    (hfail : c → Q (.error e) s) (h : ¬ c → (k ()).Runs l s Q) :
    (Program.failIf c e >>= k).Runs l s Q := by
  rw [Program.failIf]
  split
  · rename_i hc
    exact hfail hc
  · rename_i hc
    exact h hc

/-- A missing row ends the program, or the rest goes on with it. -/
theorem okOr {o : Option α} {e : ε} {k : α → Program σ V W ε β} (hnone : o = none → Q (.error e) s)
    (h : ∀ a, o = some a → (k a).Runs l s Q) : (Program.okOr o e >>= k).Runs l s Q := by
  cases o with
  | none => exact hnone rfl
  | some a => exact h a rfl

/-- A failed check ends the program, or the rest goes on with what it computed. -/
theorem ofExcept {r : Except ε α} {k : α → Program σ V W ε β}
    (herr : ∀ e, r = .error e → Q (.error e) s) (h : ∀ a, r = .ok a → (k a).Runs l s Q) :
    (Program.ofExcept r >>= k).Runs l s Q := by
  cases r with
  | error e => exact herr e rfl
  | ok a => exact h a rfl

/-- A request whose answer is converted. -/
theorem map {p : Program σ V W ε α} {f : α → β} (h : p.Runs l s fun r s => Q (r.map f) s) :
    (f <$> p).Runs l s Q := by
  change (p.bind fun a => ret (f a)).Runs l s Q
  induction p generalizing l s with
  | ret a => exact h
  | fail e => exact h
  | read k ih => exact ih _ h
  | start k ih => exact ih h
  | lock r k ih => exact ih _ h
  | write w k ih => exact ih h
  | commit k ih => exact ih h
  | rollback k ih => exact ih h

/-- Between transactions a program runs as from a fresh session. -/
theorem restart {p : Program σ V W ε β} (hl : l.writes = []) (h : p.Runs Session.init s Q) :
    p.Runs l s Q := by
  have hinit : l.writes = (Session.init : Session σ R W).writes := hl
  rw [Program.Runs, Program.exec_congr p s hinit]
  exact h

end Program.Runs

/-! ## Runs

  A run is a list of requests, and its induction is on the last of them.  `Meets` states a
  condition in the state in which a request is served, which is the form that an exact condition
  needs. -/

namespace Serial

/-- Programs served one after another. -/
def run (prog : κ → Program σ V W ε α) (s : σ) (qs : List κ) : σ :=
  qs.foldl (fun s q => ((prog q).serve s).2) s

/-- The last request is served in the state that the others have left. -/
theorem run_snoc (prog : κ → Program σ V W ε α) (s : σ) (qs : List κ) (q : κ) :
    run prog s (qs ++ [q]) = ((prog q).serve (run prog s qs)).2 := by
  rw [run, List.foldl_append]; rfl

/-- Every request of the run meets `ok` in the state in which it is served. -/
def Meets (prog : κ → Program σ V W ε α) (ok : κ → σ → Prop) : σ → List κ → Prop
  | _, [] => True
  | s, q :: qs => ok q s ∧ Meets prog ok ((prog q).serve s).2 qs

/-- What is kept by every request that meets `ok` holds after every run that meets it. -/
theorem run_keeps {prog : κ → Program σ V W ε α} {P : σ → Prop} {ok : κ → σ → Prop}
    (h : ∀ q s, P s → ok q s → P ((prog q).serve s).2) {qs : List κ} {s : σ} (hs : P s)
    (hqs : Meets prog ok s qs) : P (run prog s qs) := by
  induction qs generalizing s with
  | nil => exact hs
  | cons q qs ih =>
    obtain ⟨hq, hqs⟩ := hqs
    exact ih (h q s hs hq) hqs

/-- Some request of the run had `P` of the requests before it. -/
def Earlier (P : List κ → κ → Prop) (qs : List κ) : Prop :=
  ∃ pre q post, qs = pre ++ q :: post ∧ P pre q

variable {P : List κ → κ → Prop}

/-- Nothing is earlier than the first request. -/
theorem earlier_nil : ¬ Earlier P [] := by
  rintro ⟨pre, q, post, h, -⟩
  simp at h

/-- Something happened earlier when it happened before the last request, or at it. -/
theorem earlier_snoc {qs : List κ} {q : κ} : Earlier P (qs ++ [q]) ↔ Earlier P qs ∨ P qs q := by
  constructor
  · rintro ⟨pre, q', post, h, hP⟩
    rcases split_snoc h with ⟨rfl, rfl⟩ | ⟨post', hqs⟩
    · exact .inr hP
    · exact .inl ⟨pre, q', post', hqs, hP⟩
  · rintro (⟨pre, q', post, rfl, hP⟩ | hP)
    · exact ⟨pre, q', post ++ [q], by simp, hP⟩
    · exact ⟨qs, q, [], rfl, hP⟩

end Serial
end Txn
