/-
  A program whose calls may fail.

  A call of a repository is a plain SELECT, or a transaction, from its `beginTx` on.  The calls of a
  program are numbered in the order in which they are made, and `faults i` is the error with which
  number `i` fails: a call that fails does nothing, and ends the program.

  * `p.faulty faults n` — the program `p`, from call number `n` on;
  * `p.Under faults n Q l s` — run alone from session `l`, it ends with `Q`, whatever fails.

  The rules of `Under` follow the statements of a program.  Inside a transaction no call is
  counted, so a fault cannot strike between two statements of one transaction.
-/
import EduStell.Txn.Product

namespace Txn

variable {σ τ R R' : Type} {V : R → Type} {V' : R' → Type} {W W' ε ε' α β : Type}

namespace Program

/-- The program from its call number `n` on, each call failing where `faults` says so. -/
def faulty (faults : Nat → Option ε) : Nat → Program σ V W ε α → Program σ V W ε α
  | _, ret a => ret a
  | _, fail e => fail e
  | n, read k =>
    match faults n with
    | some e => fail e
    | none => read fun v => (k v).faulty faults (n + 1)
  | n, start k =>
    match faults n with
    | some e => fail e
    | none => start (k.faulty faults (n + 1))
  | n, lock r k => lock r fun v => (k v).faulty faults n
  | n, write w k => write w (k.faulty faults n)
  | n, commit k => commit (k.faulty faults n)
  | n, rollback k => rollback (k.faulty faults n)

/-- A program of one side fails there. -/
theorem faulty_inl (faults : Nat → Option ε) (p : Program σ V W ε α) : ∀ n,
    (p.inl : Program (σ × τ) (Sum.elim V V') (W ⊕ W') ε α).faulty faults n =
      (p.faulty faults n).inl := by
  -- only reads and begins are numbered, and `inl` keeps both
  induction p with
  | ret a => exact fun _ => rfl
  | fail e => exact fun _ => rfl
  | read k ih =>
    intro n
    rw [inl, faulty, faulty]
    cases faults n with
    | some e => rfl
    | none => exact congrArg read (funext fun s => ih s.1 (n + 1))
  | start k ih =>
    intro n
    rw [inl, faulty, faulty]
    cases faults n with
    | some e => rfl
    | none => exact congrArg start (ih (n + 1))
  | lock r k ih =>
    intro n
    rw [inl, faulty, faulty, inl]
    exact congrArg _ (funext fun v => ih v n)
  | write w k ih =>
    intro n
    rw [inl, faulty, faulty, inl, ih n]
  | commit k ih => exact fun n => congrArg commit (ih n)
  | rollback k ih => exact fun n => congrArg rollback (ih n)

/-! ## Converted errors

  Services convert the errors of the repositories that they call.  These equations push the
  conversion down to the single statements, where the numbering of calls looks for them. -/

section

variable (g : ε → ε')

/-- A sequence converts the errors of both of its parts. -/
@[simp] theorem mapError_bind (p : Program σ V W ε α) (f : α → Program σ V W ε β) :
    (p >>= f).mapError g = p.mapError g >>= fun a => (f a).mapError g := by
  change (p.bind f).mapError g = (p.mapError g).bind fun a => (f a).mapError g
  induction p with
  | ret a => rfl
  | fail e => rfl
  | read k ih => exact congrArg read (funext ih)
  | start k ih => exact congrArg start ih
  | lock r k ih => exact congrArg (lock r) (funext ih)
  | write w k ih => exact congrArg (write w) ih
  | commit k ih => exact congrArg commit ih
  | rollback k ih => exact congrArg rollback ih

/-- An answer has no error to convert. -/
@[simp] theorem mapError_pure (a : α) :
    (pure a : Program σ V W ε α).mapError g = pure a := rfl

/-- `BEGIN` raises no error of its own. -/
@[simp] theorem mapError_beginTx :
    (Program.beginTx : Program σ V W ε Unit).mapError g = Program.beginTx := rfl

/-- A statement raises no error of its own. -/
@[simp] theorem mapError_execute (w : W) :
    (Program.execute w : Program σ V W ε Unit).mapError g = Program.execute w := rfl

/-- `COMMIT` raises no error of its own. -/
@[simp] theorem mapError_commitTx :
    (Program.commitTx : Program σ V W ε Unit).mapError g = Program.commitTx := rfl

/-- A guard fails with the converted error. -/
@[simp] theorem mapError_failIf (c : Prop) [Decidable c] (e : ε) :
    (Program.failIf c e : Program σ V W ε Unit).mapError g = Program.failIf c (g e) := by
  by_cases hc : c
  · rw [Program.failIf, Program.failIf, if_pos hc, if_pos hc]; rfl
  · rw [Program.failIf, Program.failIf, if_neg hc, if_neg hc]; rfl

/-- A pure computation fails with the converted error. -/
@[simp] theorem mapError_ofExcept (r : Except ε α) :
    (Program.ofExcept r : Program σ V W ε α).mapError g = Program.ofExcept (r.mapError g) := by
  cases r <;> rfl

end

/-! ## The judgement

  The rules number the calls as the program makes them.  Inside a transaction nothing is numbered:
  its statements stand or fall with the call that opened it. -/

variable [Store σ V W] [Store τ V' W']

/-- Run alone, whatever fails, the program ends with `Q`. -/
def Under (faults : Nat → Option ε) (n : Nat) (Q : Except ε α → σ → Prop)
    (p : Program σ V W ε α) (l : Session σ R W) (s : σ) : Prop :=
  (p.faulty faults n).Along (fun _ => True) Q l s

namespace Under

/-- What the judgement says of a request that is served. -/
theorem serve {faults : Nat → Option ε} {Q : Except ε α → σ → Prop} {p : Program σ V W ε α} {s : σ}
    (h : p.Under faults 0 Q Session.init s) :
    Q ((p.faulty faults 0).serve s).1 ((p.faulty faults 0).serve s).2 :=
  h.exec

/-- A program of one side leaves the other alone. -/
theorem inl {faults : Nat → Option ε} {n : Nat} {Q : Except ε α → σ × τ → Prop}
    {p : Program σ V W ε α} {s : σ} {t : τ}
    (h : p.Under faults n (fun r s => Q r (s, t)) Session.init s) :
    p.inl.Under faults n Q Session.init (s, t) := by
  rw [Under, faulty_inl]
  exact Along.inl h

variable {faults : Nat → Option ε} {n : Nat} {Q : Except ε β → σ → Prop} {l : Session σ R W} {s : σ}

/-- Between transactions a program runs as from a fresh session. -/
theorem restart {p : Program σ V W ε β} (hl : l.writes = []) (h : p.Under faults n Q Session.init s) :
    p.Under faults n Q l s :=
  Along.congr hl.symm h

/-- An answer. -/
theorem ok {b : β} (h : Q (.ok b) s) : (pure b : Program σ V W ε β).Under faults n Q l s := h

/-- A plain SELECT is a call: it fails, or the rest is numbered from the next call on. -/
theorem select {query : σ → α} {k : α → Program σ V W ε β}
    (hfault : ∀ e, faults n = some e → Q (.error e) s)
    (h : faults n = none → (k (query (l.view s))).Under faults (n + 1) Q (l.saw s) s) :
    (Program.select query >>= k).Under faults n Q l s := by
  show ((Program.read fun t => k (query t)).faulty faults n).Along _ Q l s
  rw [faulty]
  cases hn : faults n with
  | some e => exact hfault e hn
  | none => exact h hn

/-- A transaction is a call: it fails at its `BEGIN`, or the rest is numbered from the next call on.
    -/
theorem beginTx {k : Unit → Program σ V W ε β} (hfault : ∀ e, faults n = some e → Q (.error e) s)
    (h : faults n = none → (k ()).Under faults (n + 1) Q l.begun s) :
    (Program.beginTx >>= k).Under faults n Q l s := by
  show ((Program.start (k ())).faulty faults n).Along _ Q l s
  rw [faulty]
  cases hn : faults n with
  | some e => exact hfault e hn
  | none => exact h hn

/-- A lock inside a transaction is not a call of its own. -/
theorem forUpdate {r : R} {k : V r → Program σ V W ε β}
    (h : (k (Store.get (l.view s) r)).Under faults n Q (l.lock r) s) :
    (Program.forUpdate r >>= k).Under faults n Q l s := h

/-- Neither is a statement inside a transaction. -/
theorem execute {w : W} {k : Unit → Program σ V W ε β} (h : (k ()).Under faults n Q (l.write w) s) :
    (Program.execute w >>= k).Under faults n Q l s := h

/-- The rest goes on as from a fresh session. -/
theorem commitTx {k : Unit → Program σ V W ε β}
    (h : (k ()).Under faults n Q Session.init (l.view s)) :
    (Program.commitTx >>= k).Under faults n Q l s :=
  ⟨trivial, restart rfl h⟩

/-- A guard ends the program, or the rest goes on. -/
theorem failIf {c : Prop} [Decidable c] {e : ε} {k : Unit → Program σ V W ε β}
    (hfail : c → Q (.error e) s) (h : ¬ c → (k ()).Under faults n Q l s) :
    (Program.failIf c e >>= k).Under faults n Q l s := by
  by_cases hc : c
  · rw [Program.failIf, if_pos hc]
    exact hfail hc
  · rw [Program.failIf, if_neg hc]
    exact h hc

/-- A missing row ends the program, or the rest goes on with it. -/
theorem okOr {o : Option α} {e : ε} {k : α → Program σ V W ε β} (hnone : o = none → Q (.error e) s)
    (h : ∀ a, o = some a → (k a).Under faults n Q l s) :
    (Program.okOr o e >>= k).Under faults n Q l s := by
  cases o with
  | none => exact hnone rfl
  | some a => exact h a rfl

/-- A failed check ends the program, or the rest goes on with what it computed. -/
theorem ofExcept {r : Except ε α} {k : α → Program σ V W ε β}
    (herr : ∀ e, r = .error e → Q (.error e) s) (h : ∀ a, r = .ok a → (k a).Under faults n Q l s) :
    (Program.ofExcept r >>= k).Under faults n Q l s := by
  cases r with
  | error e => exact herr e rfl
  | ok a => exact h a rfl

/-- A result whose error is converted. -/
theorem ofMapped {r : Except ε' α} {g : ε' → ε} {k : α → Program σ V W ε β}
    (herr : (∀ a, r ≠ .ok a) → ∀ e, Q (.error e) s) (h : ∀ a, r = .ok a → (k a).Under faults n Q l s) :
    (Program.ofExcept (r.mapError g) >>= k).Under faults n Q l s := by
  cases r with
  | error e => exact herr (fun _ hok => nomatch hok) (g e)
  | ok a => exact h a rfl

end Under

-- The rules are all that a proof about a program needs: left reducible, every step of it would
-- unfold the whole rest of the program.
attribute [irreducible] Under

end Program
end Txn
