/-
  A program that runs alone and may die after any of its statements.

  `p.cut n` runs the first `n` statements of `p`; what it has not committed by then is lost.  The
  states that a cut can leave are the committed states on the way, so one judgement serves both
  readings of a program:

  * `p.Along P Q l s` — run alone from session `l`, every commit of `p` establishes `P`, and its
    end, if it gets there, `Q`.

  The rules have the form "statement, then rest"; `Along.call` is the rule for a service that calls
  another one, whose transactions are its own.

  For runs, `runCut` serves requests of which some die, and `runCut_keeps` is the rule of
  invariants: what every commit and every end keeps holds after every run.
-/
import EduStell.Txn.Outcomes
import EduStell.Txn.Serial

namespace Txn

variable {σ R : Type} {V : R → Type} {W ε ε' α β κ : Type}

namespace Program

/-- A service called by another one: a transaction that it leaves open is dropped when it returns. -/
def call (p : Program σ V W ε α) : Program σ V W ε α := do
  let a ← p
  rollbackTx
  return a

variable [Store σ V W]

/-- The committed state after at most `n` statements. -/
def cut : Nat → Program σ V W ε α → Session σ R W → σ → σ
  | 0, _, _, s => s
  | _ + 1, .ret _, _, s => s
  | _ + 1, .fail _, _, s => s
  | n + 1, .read k, l, s => cut n (k (l.view s)) (l.saw s) s
  | n + 1, .start k, l, s => cut n k l.begun s
  | n + 1, .lock r k, l, s => cut n (k (Store.get (l.view s) r)) (l.lock r) s
  | n + 1, .write w k, l, s => cut n k (l.write w) s
  | n + 1, .commit k, l, s => cut n k l.ended (l.view s)
  | n + 1, .rollback k, l, s => cut n k l.ended s

/-- Every commit establishes `P`, and the end satisfies `Q`. -/
def Along (P : σ → Prop) (Q : Except ε α → σ → Prop) :
    Program σ V W ε α → Session σ R W → σ → Prop
  | .ret a, _, s => Q (.ok a) s
  | .fail e, _, s => Q (.error e) s
  | .read k, l, s => (k (l.view s)).Along P Q (l.saw s) s
  | .start k, l, s => k.Along P Q l.begun s
  | .lock r k, l, s => (k (Store.get (l.view s) r)).Along P Q (l.lock r) s
  | .write w k, l, s => k.Along P Q (l.write w) s
  | .commit k, l, s => P (l.view s) ∧ k.Along P Q l.ended (l.view s)
  | .rollback k, l, s => k.Along P Q l.ended s

variable {P : σ → Prop} {Q : Except ε α → σ → Prop}

/-! ## What the judgement says

  Cut or not, the committed state that is left behind was published by one of the commits on the
  way or was there at the start.  That is all a crash can do to a database. -/

/-- The end of a program that is not cut off. -/
theorem Along.exec {p : Program σ V W ε α} : ∀ {l s}, p.Along P Q l s →
    Q (p.exec l s).1 (p.exec l s).2 := by
  induction p with
  | ret a => exact fun h => h
  | fail e => exact fun h => h
  | read k ih => exact fun h => ih _ h
  | start k ih => exact fun h => ih h
  | lock r k ih => exact fun h => ih _ h
  | write w k ih => exact fun h => ih h
  | commit k ih => exact fun h => ih h.2
  | rollback k ih => exact fun h => ih h

/-- Wherever the program is cut off. -/
theorem Along.cut {n : Nat} : ∀ {p : Program σ V W ε α} {l s}, P s → p.Along P Q l s →
    P (p.cut n l s) := by
  induction n with
  | zero => exact fun hs _ => hs
  | succ n ih =>
    intro p l s hs h
    cases p with
    | ret a => exact hs
    | fail e => exact hs
    | read k => exact ih hs h
    | start k => exact ih hs h
    | lock r k => exact ih hs h
    | write w k => exact ih hs h
    | commit k => exact ih h.1 h.2
    | rollback k => exact ih hs h

/-- Only the pending writes of a session matter. -/
theorem Along.congr {p : Program σ V W ε α} : ∀ {l l' : Session σ R W} {s}, l.writes = l'.writes →
    p.Along P Q l s → p.Along P Q l' s := by
  induction p with
  | ret a => exact fun _ h => h
  | fail e => exact fun _ h => h
  | read k ih =>
    intro l l' s hl h
    rw [Along, ← Session.view_congr hl s]
    exact ih _ (l := l.saw s) hl h
  | start k ih =>
    intro l l' s hl h
    exact ih (l := l.begun) hl h
  | lock r k ih =>
    intro l l' s hl h
    rw [Along, ← Session.view_congr hl s]
    exact ih _ (l := l.lock r) hl h
  | write w k ih =>
    intro l l' s hl h
    exact ih (l := l.write w) (congrArg (· ++ [w]) hl) h
  | commit k ih =>
    intro l l' s hl h
    rw [Along, ← Session.view_congr hl s]
    exact ⟨h.1, ih (l := l.ended) rfl h.2⟩
  | rollback k ih =>
    intro l l' s hl h
    exact ih (l := l.ended) rfl h

/-- The judgement may be weakened. -/
theorem Along.mono {P' : σ → Prop} {Q' : Except ε α → σ → Prop} {p : Program σ V W ε α}
    (hP : ∀ s, P s → P' s) (hQ : ∀ r s, Q r s → Q' r s) : ∀ {l s}, p.Along P Q l s →
    p.Along P' Q' l s := by
  induction p with
  | ret a => exact fun h => hQ _ _ h
  | fail e => exact fun h => hQ _ _ h
  | read k ih => exact fun h => ih _ h
  | start k ih => exact fun h => ih h
  | lock r k ih => exact fun h => ih _ h
  | write w k ih => exact fun h => ih h
  | commit k ih => exact fun h => ⟨hP _ h.1, ih h.2⟩
  | rollback k ih => exact fun h => ih h

/-! ## Rules

  A plain SELECT, a lock or a statement adds no committed state, so only the rule for COMMIT asks
  for `P`. -/

namespace Along

variable {Q : Except ε β → σ → Prop} {l : Session σ R W} {s : σ}

/-- A plain SELECT. -/
theorem select {query : σ → α} {k : α → Program σ V W ε β}
    (h : (k (query (l.view s))).Along P Q (l.saw s) s) :
    (Program.select query >>= k).Along P Q l s := h

/-- `BEGIN`. -/
theorem beginTx {k : Unit → Program σ V W ε β} (h : (k ()).Along P Q l.begun s) :
    (Program.beginTx >>= k).Along P Q l s := h

/-- A statement, which only its own session sees. -/
theorem execute {w : W} {k : Unit → Program σ V W ε β} (h : (k ()).Along P Q (l.write w) s) :
    (Program.execute w >>= k).Along P Q l s := h

/-- A commit establishes `P`, and the rest starts from what it published. -/
theorem commitTx {k : Unit → Program σ V W ε β} (hP : P (l.view s))
    (h : (k ()).Along P Q l.ended (l.view s)) : (Program.commitTx >>= k).Along P Q l s := ⟨hP, h⟩

/-- A missing row ends the program, or the rest goes on with it. -/
theorem okOr {o : Option α} {e : ε} {k : α → Program σ V W ε β} (hnone : o = none → Q (.error e) s)
    (h : ∀ a, o = some a → (k a).Along P Q l s) : (Program.okOr o e >>= k).Along P Q l s := by
  cases o with
  | none => exact hnone rfl
  | some a => exact h a rfl

/-- A program whose errors are converted. -/
theorem mapError {p : Program σ V W ε' β} {g : ε' → ε}
    (h : p.Along P (fun r s => Q (r.mapError g) s) l s) : (p.mapError g).Along P Q l s := by
  induction p generalizing l s with
  | ret a => exact h
  | fail e => exact h
  | read k ih => exact ih _ h
  | start k ih => exact ih h
  | lock r k ih => exact ih _ h
  | write w k ih => exact ih h
  | commit k ih => exact ⟨h.1, ih h.2⟩
  | rollback k ih => exact ih h

/-- A program whose answer is converted. -/
theorem map {p : Program σ V W ε α} {f : α → β} (h : p.Along P (fun r s => Q (r.map f) s) l s) :
    (f <$> p).Along P Q l s := by
  change (p.bind fun a => ret (f a)).Along P Q l s
  induction p generalizing l s with
  | ret a => exact h
  | fail e => exact h
  | read k ih => exact ih _ h
  | start k ih => exact ih h
  | lock r k ih => exact ih _ h
  | write w k ih => exact ih h
  | commit k ih => exact ⟨h.1, ih h.2⟩
  | rollback k ih => exact ih h

/-- A call of another service: an error ends the caller too, and after an answer the caller goes on
    as from a fresh session. -/
theorem call {p : Program σ V W ε α} {k : α → Program σ V W ε β}
    (h : p.Along P (fun r s => match r with
      | .ok a => (k a).Along P Q Session.init s
      | .error e => Q (.error e) s) l s) : (Program.call p >>= k).Along P Q l s := by
  rw [Program.call, bind_assoc]
  change (p.bind fun a => rollback (k a)).Along P Q l s
  induction p generalizing l s with
  | ret a =>
    show (k a).Along P Q l.ended s
    exact Along.congr (l := Session.init) rfl h
  | fail e => exact h
  | read k ih => exact ih _ h
  | start k ih => exact ih h
  | lock r k ih => exact ih _ h
  | write w k ih => exact ih h
  | commit k ih => exact ⟨h.1, ih h.2⟩
  | rollback k ih => exact ih h

end Along

/-! ## Requests whose outcomes are known

  A request with one transaction needs no walk through its statements: what is known of its ends
  among others holds when it runs alone. -/

/-- What a program guarantees among others, under rules that hold when nobody else is there. -/
theorem Along.of_wp {p : Program σ V W ε α} : ∀ {l s},
    wp (κ := Unit) ⟨fun _ => True, Eq, fun _ _ _ => True, fun _ l s => P (l.view s)⟩ () p
      (fun r _ s => Q r s) l s → p.Along P Q l s := by
  induction p with
  | ret a => exact fun h => h
  | fail e => exact fun h => h
  | read k ih => exact fun h => ih _ (h _ trivial rfl)
  | start k ih => exact fun h => ih h
  | lock r k ih => exact fun h => ih _ h
  | write w k ih => exact fun h => ih h.2
  | commit k ih => exact fun h => ⟨(h trivial).1, ih ((h trivial).2 _ trivial rfl)⟩
  | rollback k ih => exact fun h => ih (h trivial _ trivial rfl)

/-- A request with one transaction, run alone: it commits once, or not at all. -/
theorem Along.of_outcomes {E : Session σ R W → σ → α → Prop}
    {N : Session σ R W → σ → Except ε α → Prop} {p : Program σ V W ε α} (h : Outcomes p E N) {s : σ}
    (hN : ∀ l r, (∀ t ∈ l.seen, t = s) → N l s r → Q r s)
    (hE : ∀ l a, (∀ t ∈ l.seen, t = s) → E l s a → P (l.view s) ∧ Q (.ok a) (l.view s)) :
    p.Along P Q Session.init s := by
  refine Along.of_wp ((h s).wp _ () _ ?_ ?_ ?_)
  · intro t ht
    cases ht
  · intro l r hseen hr
    have hQ : Q r s := hN l r (fun t ht => (hseen t ht).2) hr
    refine ⟨hQ, ?_⟩
    rintro - s' - rfl
    exact hQ
  · intro l a hseen ha _
    obtain ⟨hP, hQ⟩ := hE l a (fun t ht => (hseen t ht).2) ha
    refine ⟨hP, ?_⟩
    rintro s' - rfl
    exact hQ

end Program

/-! ## Runs

  Each request of the run comes with the number of statements it is granted.  A number that is
  large enough serves it to its end, so the runs in which nobody dies are among these. -/

namespace Serial

variable [Store σ V W]

/-- Requests one after another; some of them die, after the number of statements they come with. -/
def runCut (prog : κ → Program σ V W ε α) (s : σ) (qs : List (κ × Option Nat)) : σ :=
  qs.foldl (fun s q => match q.2 with
    | none => ((prog q.1).serve s).2
    | some n => (prog q.1).cut n Session.init s) s

/-- **What every commit and every end keeps holds after every run**, whoever dies where. -/
theorem runCut_keeps {prog : κ → Program σ V W ε α} {P : σ → Prop}
    (h : ∀ q s, P s → (prog q).Along P (fun _ => P) Session.init s) (qs : List (κ × Option Nat))
    {s : σ} (hs : P s) : P (runCut prog s qs) := by
  induction qs generalizing s with
  | nil => exact hs
  | cons q qs ih =>
    obtain ⟨q, n⟩ := q
    cases n with
    | none => exact ih (h q s hs).exec
    | some n => exact ih ((h q s hs).cut hs)

end Serial
end Txn
