/-
  How a request with one transaction can end.

  Most service calls read a few rows, decide, and then run one transaction.  Such a program ends in
  one of two ways, and `Ends` says so once for every environment it may run in:

  * `E l s a` — it commits the writes of session `l` on the state `s` and answers `a`;
  * `N l s r` — it commits nothing and answers `r`.

  The snapshots that its plain SELECTs have seen are in `l.seen`, the latest first; everything it
  has read under a lock is content of `s`.  There is one rule for each statement, in the form
  "statement, then rest", so a proof of `Ends` walks through the program as it is written, and each
  error exit becomes one goal.

  `Outcomes` is `Ends` from a fresh session.  `Outcomes.serve` reads it for a request that meets no
  other; `EduStell.Txn.Interleave` reads it for a request among others.

  The text of a service is walked through here, once; what is proved of its requests afterwards,
  alone or among others, is proved of their ends.
-/
import EduStell.Txn.Program

namespace Txn

variable {σ R : Type} {V : R → Type} {W ε ε' α β κ : Type} [Store σ V W]

/-- Every way a program can end that goes on from session `l`, its transaction ending in `s`. -/
structure Ends (p : Program σ V W ε α) (E : Session σ R W → σ → α → Prop)
    (N : Session σ R W → σ → Except ε α → Prop) (l : Session σ R W) (s : σ) : Prop where
  wp : ∀ {κ : Type} (X : Rules σ R W κ) (q : κ) (P : Except ε α → Session σ R W → σ → Prop),
    (∀ t ∈ l.seen, X.inv t ∧ X.rely t s) →
    (∀ l r, (∀ t ∈ l.seen, X.inv t ∧ X.rely t s) → N l s r →
      P r l s ∧ (X.cond q l s → ∀ s', X.inv s' → X.rely s s' → P r l.ended s')) →
    (∀ l a, (∀ t ∈ l.seen, X.inv t ∧ X.rely t s) → E l s a → X.cond q l s → X.guar q l s ∧
      ∀ s', X.inv s' → X.rely (l.view s) s' → P (.ok a) l.ended s') →
    Txn.wp X q p P l s

/-- Every way a request can end. -/
def Outcomes (p : Program σ V W ε α) (E : Session σ R W → σ → α → Prop)
    (N : Session σ R W → σ → Except ε α → Prop) : Prop :=
  ∀ s, Ends p E N Session.init s

/-- An end without a commit that answers with an error. -/
def Refused (_ : Session σ R W) (_ : σ) (r : Except ε α) : Prop := ∃ e, r = .error e

/-- An answer made from an error is an error. -/
theorem Refused.of_map {l : Session σ R W} {s : σ} {f : α → β} {r : Except ε β}
    (h : ∃ r' : Except ε α, r = r'.map f ∧ Refused l s r') : Refused l s r := by
  obtain ⟨_, rfl, e, rfl⟩ := h
  exact ⟨e, rfl⟩

namespace Ends

open Program

variable {E : Session σ R W → σ → β → Prop} {N : Session σ R W → σ → Except ε β → Prop}
  {l : Session σ R W} {s : σ}

/-! ## The ends themselves

  A program that has reached its answer has ended, with what it published or without. -/

/-- A failure commits nothing. -/
theorem fail {e : ε} (h : N l s (.error e)) : Ends (Program.fail e) E N l s :=
  ⟨fun _ _ _ hseen hN _ => (hN l _ hseen h).1⟩

/-- An answer without a commit. -/
theorem pure {b : β} (h : N l s (.ok b)) : Ends (pure b) E N l s :=
  ⟨fun _ _ _ hseen hN _ => (hN l _ hseen h).1⟩

/-- The commit with the answer right behind it: what it publishes is judged by `E`. -/
theorem commit {b : β} (h : E l s b) : Ends (commitTx >>= fun _ => Pure.pure b) E N l s :=
  ⟨fun _ _ _ hseen _ hE hcond => hE l b hseen h hcond⟩

/-- A rollback drops what was written and answers. -/
theorem rollback {b : β} (h : N l s (.ok b)) :
    Ends (rollbackTx >>= fun _ => Pure.pure b) E N l s :=
  ⟨fun _ _ _ hseen hN _ hcond => (hN l _ hseen h).2 hcond⟩

/-! ## One rule for each statement

  A guard, a missing row or a failed check has two ends, and each rule hands over one goal for
  each of them, with the condition as a hypothesis.  The order of the checks in the source is the
  order of the goals. -/

/-- After a plain SELECT the session has seen the snapshot, and the rest may use what it found. -/
theorem select {query : σ → α} {k : α → Program σ V W ε β}
    (h : ∀ t, Ends (k (query (l.view t))) E N (l.saw t) s) :
    Ends (Program.select query >>= k) E N l s := by
  constructor
  intro κ X q P hseen hN hE t hinv hrely
  refine (h t).wp X q P ?_ hN hE
  intro t' ht'
  rcases List.mem_cons.mp ht' with rfl | ht'
  · exact ⟨hinv, hrely⟩
  · exact hseen t' ht'

/-- After `BEGIN`. -/
theorem beginTx {k : Unit → Program σ V W ε β} (h : Ends (k ()) E N l.begun s) :
    Ends (Program.beginTx >>= k) E N l s :=
  ⟨fun X q P hseen hN hE => h.wp X q P hseen hN hE⟩

/-- After a lock the rest uses the content of the row, which stays as it is to the end. -/
theorem forUpdate {r : R} {k : V r → Program σ V W ε β}
    (h : Ends (k (Store.get (l.view s) r)) E N (l.lock r) s) :
    Ends (Program.forUpdate r >>= k) E N l s :=
  ⟨fun X q P hseen hN hE => h.wp X q P hseen hN hE⟩

/-- After a statement, which may write only what the session has locked. -/
theorem execute {w : W} {k : Unit → Program σ V W ε β}
    (hown : ∀ r, Store.touches σ w r → r ∈ l.locks) (h : Ends (k ()) E N (l.write w) s) :
    Ends (Program.execute w >>= k) E N l s :=
  ⟨fun X q P hseen hN hE => ⟨hown, h.wp X q P hseen hN hE⟩⟩

/-- A missing row ends the request, or the rest goes on with it. -/
theorem okOr {o : Option α} {e : ε} {k : α → Program σ V W ε β}
    (hnone : o = none → N l s (.error e)) (hsome : ∀ a, o = some a → Ends (k a) E N l s) :
    Ends (Program.okOr o e >>= k) E N l s := by
  cases o with
  | none => exact fail (hnone rfl)
  | some a => exact hsome a rfl

/-- A failed check ends the request, or the rest goes on with what it computed. -/
theorem ofExcept {r : Except ε α} {k : α → Program σ V W ε β}
    (herr : ∀ e, r = .error e → N l s (.error e)) (hok : ∀ a, r = .ok a → Ends (k a) E N l s) :
    Ends (Program.ofExcept r >>= k) E N l s := by
  cases r with
  | error e => exact fail (herr e rfl)
  | ok a => exact hok a rfl

/-- A guard ends the request where its condition holds. -/
theorem failIf {c : Prop} [Decidable c] {e : ε} {k : Unit → Program σ V W ε β}
    (hc : c → N l s (.error e)) (h : ¬ c → Ends (k ()) E N l s) :
    Ends (Program.failIf c e >>= k) E N l s := by
  rw [Program.failIf]
  split
  · rename_i hc'
    exact fail (hc hc')
  · rename_i hc'
    exact h hc'

/-- Each arm ends under its own condition. -/
theorem ite {c : Prop} [Decidable c] {p p' : Program σ V W ε β} (h : c → Ends p E N l s)
    (h' : ¬ c → Ends p' E N l s) : Ends (if c then p else p') E N l s := by
  split
  · rename_i hc
    exact h hc
  · rename_i hc
    exact h' hc

/-- The same for a branch in front of the rest of the program. -/
theorem bind_ite {c : Prop} [Decidable c] {p p' : Program σ V W ε α} {k : α → Program σ V W ε β}
    (h : c → Ends (p >>= k) E N l s) (h' : ¬ c → Ends (p' >>= k) E N l s) :
    Ends ((if c then p else p') >>= k) E N l s := by
  split
  · rename_i hc
    exact h hc
  · rename_i hc
    exact h' hc

/-! ## Converted errors and answers

  A service that ends in a call of another layer converts its answer and its errors and adds no
  statement, so the ends of the inner call are its ends. -/

/-- The tail call of a service: a transaction whose errors and whose answer are converted. -/
theorem mapError {p : Program σ V W ε' α} {g : ε' → ε} {f : α → β}
    (h : Ends p (fun l s a => E l s (f a)) (fun l s r => N l s ((r.mapError g).map f)) l s) :
    Ends (p.mapError g >>= fun a => Pure.pure (f a)) E N l s := by
  constructor
  intro κ X q P hseen hN hE
  rw [wp_bind, wp_mapError]
  have hwp : Txn.wp X q p (fun r l s => P ((r.mapError g).map f) l s) l s := by
    refine h.wp X q _ hseen ?_ ?_
    · intro l r hl hr
      exact hN l _ hl hr
    · intro l a hl ha hc
      exact hE l (f a) hl ha hc
  refine (congrFun (congrFun (congrArg (Txn.wp X q p) ?_) l) s).mp hwp
  funext r l s
  cases r <;> rfl

/-- The same where the answer is passed on as it is. -/
theorem mapError_tail {p : Program σ V W ε' β} {g : ε' → ε}
    (h : Ends p E (fun l s r => N l s (r.mapError g)) l s) : Ends (p.mapError g) E N l s := by
  constructor
  intro κ X q P hseen hN hE
  rw [wp_mapError]
  refine h.wp X q (fun r l s => P (r.mapError g) l s) hseen ?_ hE
  intro l r hl hr
  exact hN l _ hl hr

end Ends

/-- The ends may be described more loosely. -/
theorem Outcomes.mono {p : Program σ V W ε α} {E E' : Session σ R W → σ → α → Prop}
    {N N' : Session σ R W → σ → Except ε α → Prop} (h : Outcomes p E N)
    (hE : ∀ l s a, E l s a → E' l s a) (hN : ∀ l s r, N l s r → N' l s r) : Outcomes p E' N' := by
  intro s
  constructor
  intro κ X q P hseen hN' hE'
  refine (h s).wp X q P hseen ?_ ?_
  · intro l r hl hr
    exact hN' l r hl (hN l s r hr)
  · intro l a hl ha
    exact hE' l a hl (hE l s a ha)

/-- Ends without a commit may be described more loosely. -/
theorem Outcomes.weaken {p : Program σ V W ε α} {E : Session σ R W → σ → α → Prop}
    {N N' : Session σ R W → σ → Except ε α → Prop} (h : Outcomes p E N)
    (hN : ∀ l s r, N l s r → N' l s r) : Outcomes p E N' :=
  h.mono (fun _ _ _ ha => ha) hN

/-- The outcomes of a request whose answer is converted. -/
theorem Outcomes.map {p : Program σ V W ε α} {E : Session σ R W → σ → α → Prop}
    {N : Session σ R W → σ → Except ε α → Prop} (h : Outcomes p E N) (f : α → β) :
    Outcomes (f <$> p) (fun l s b => ∃ a, b = f a ∧ E l s a)
      (fun l s r => ∃ r', r = r'.map f ∧ N l s r') := by
  intro s
  constructor
  intro κ X q P hseen hN hE
  rw [wp_map]
  refine (h s).wp X q _ hseen ?_ ?_
  · intro l r hl hr
    exact hN l (r.map f) hl ⟨r, rfl, hr⟩
  · intro l a hl ha
    exact hE l (f a) hl ⟨a, rfl, ha⟩

/-- The outcomes of a request that runs alone: the snapshots are the state it starts in. -/
theorem Outcomes.serve {p : Program σ V W ε α} {E : Session σ R W → σ → α → Prop}
    {N : Session σ R W → σ → Except ε α → Prop} (h : Outcomes p E N) (s : σ) :
    (∃ l, (∀ t ∈ l.seen, t = s) ∧ N l s (p.serve s).1 ∧ (p.serve s).2 = s) ∨
    (∃ l a, (∀ t ∈ l.seen, t = s) ∧ E l s a ∧ (p.serve s).1 = .ok a ∧
      (p.serve s).2 = l.view s) := by
  let P : Except ε α → Session σ R W → σ → Prop := fun r _ s' =>
    (∃ l, (∀ t ∈ l.seen, t = s) ∧ N l s r ∧ s' = s) ∨
    (∃ l a, (∀ t ∈ l.seen, t = s) ∧ E l s a ∧ r = .ok a ∧ s' = l.view s)
  have hwp : wp Rules.alone () p P Session.init s := by
    refine (h s).wp Rules.alone () P ?_ ?_ ?_
    · intro t ht
      cases ht
    · intro l r hseen hN
      have hl : ∀ t ∈ l.seen, t = s := fun t ht => (hseen t ht).2
      refine ⟨Or.inl ⟨l, hl, hN, rfl⟩, ?_⟩
      intro _ s' _ hs'
      exact Or.inl ⟨l, hl, hN, hs'.symm⟩
    · intro l a hseen hE _
      have hl : ∀ t ∈ l.seen, t = s := fun t ht => (hseen t ht).2
      refine ⟨trivial, ?_⟩
      intro s' _ hs'
      exact Or.inr ⟨l, a, hl, hE, rfl, hs'.symm⟩
  obtain ⟨_, hP⟩ := exec_of_wp p P Session.init s hwp
  exact hP

end Txn
