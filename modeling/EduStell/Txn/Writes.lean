/-
  Which statements a program can write.

  `p.WritesOnly G` is read off the program alone: whatever its reads and locks meet, every statement
  that it writes satisfies `G`.  There is one rule for each statement and one for sequencing.
  `Outcomes.writes` adds the fact to every end of the program, so that a description of the ends that
  does not say what a statement holds can be made to.
-/
import EduStell.Txn.Outcomes

namespace Txn

variable {σ R : Type} {V : R → Type} {W ε ε' α β κ : Type}

namespace Program

/-! ## The judgement

  It needs no state: a statement counts when the program can reach it for SOME content of the rows
  that it reads.  So what holds of all statements holds of every commit, in every interleaving. -/

/-- Every statement that the program can write satisfies `G`. -/
def WritesOnly (G : W → Prop) : Program σ V W ε α → Prop
  | .ret _ => True
  | .fail _ => True
  | .read k => ∀ s, (k s).WritesOnly G
  | .start k => k.WritesOnly G
  | .lock _ k => ∀ v, (k v).WritesOnly G
  | .write w k => G w ∧ k.WritesOnly G
  | .commit k => k.WritesOnly G
  | .rollback k => k.WritesOnly G

namespace WritesOnly

variable {G : W → Prop}

/-- A constant writes nothing. -/
theorem pure (a : α) : (Pure.pure a : Program σ V W ε α).WritesOnly G := trivial

/-- A failure writes nothing. -/
theorem fail (e : ε) : (Program.fail e : Program σ V W ε α).WritesOnly G := trivial

/-- A query writes nothing. -/
theorem select (query : σ → α) : (Program.select query : Program σ V W ε α).WritesOnly G :=
  fun _ => trivial

/-- `BEGIN` writes nothing. -/
theorem beginTx : (Program.beginTx : Program σ V W ε Unit).WritesOnly G := trivial

/-- `SELECT … FOR UPDATE` writes nothing. -/
theorem forUpdate (r : R) : (Program.forUpdate r : Program σ V W ε (V r)).WritesOnly G :=
  fun _ => trivial

/-- A statement writes itself. -/
theorem execute {w : W} (h : G w) : (Program.execute w : Program σ V W ε Unit).WritesOnly G :=
  ⟨h, trivial⟩

/-- `COMMIT` issues no statement of its own. -/
theorem commitTx : (Program.commitTx : Program σ V W ε Unit).WritesOnly G := trivial

/-- `ROLLBACK` issues no statement of its own. -/
theorem rollbackTx : (Program.rollbackTx : Program σ V W ε Unit).WritesOnly G := trivial

/-- A guard writes nothing. -/
theorem failIf (c : Prop) [Decidable c] (e : ε) :
    (Program.failIf c e : Program σ V W ε Unit).WritesOnly G := by
  rw [Program.failIf]
  split <;> trivial

/-- An unwrapped option writes nothing. -/
theorem okOr (o : Option α) (e : ε) : (Program.okOr o e : Program σ V W ε α).WritesOnly G := by
  cases o <;> trivial

/-- A pure computation writes nothing. -/
theorem ofExcept (r : Except ε α) : (Program.ofExcept r : Program σ V W ε α).WritesOnly G := by
  cases r <;> trivial

/-- A sequence writes what its parts write. -/
theorem bind {p : Program σ V W ε α} {k : α → Program σ V W ε β} (h : p.WritesOnly G)
    (hk : ∀ a, (k a).WritesOnly G) : (p >>= k).WritesOnly G := by
  change (p.bind k).WritesOnly G
  induction p with
  | ret a => exact hk a
  | fail e => trivial
  | read g ih => exact fun s => ih s (h s)
  | start g ih => exact ih h
  | lock r g ih => exact fun v => ih v (h v)
  | write w g ih => exact ⟨h.1, ih h.2⟩
  | commit g ih => exact ih h
  | rollback g ih => exact ih h

/-- Behind a guard only the continuation writes. -/
theorem failIf_bind {c : Prop} [Decidable c] {e : ε} {k : Unit → Program σ V W ε β}
    (h : (k ()).WritesOnly G) : (Program.failIf c e >>= k).WritesOnly G :=
  (failIf c e).bind fun _ => h

/-- The rest of a program knows that the check has passed. -/
theorem ofExcept_bind {r : Except ε α} {k : α → Program σ V W ε β}
    (h : ∀ a, r = .ok a → (k a).WritesOnly G) : (Program.ofExcept r >>= k).WritesOnly G := by
  cases r with
  | error e => trivial
  | ok a => exact h a rfl

/-- And that the one before it has not failed. -/
theorem failIf_bind_not {c : Prop} [Decidable c] {e : ε} {k : Unit → Program σ V W ε β}
    (h : ¬ c → (k ()).WritesOnly G) : (Program.failIf c e >>= k).WritesOnly G := by
  by_cases hc : c
  · rw [Program.failIf, if_pos hc]
    trivial
  · rw [Program.failIf, if_neg hc]
    exact h hc

/-- Where every statement is allowed, every program is. -/
theorem all (h : ∀ w, G w) (p : Program σ V W ε α) : p.WritesOnly G := by
  induction p with
  | ret a => trivial
  | fail e => trivial
  | read k ih => exact ih
  | start k ih => exact ih
  | lock r k ih => exact ih
  | write w k ih => exact ⟨h w, ih⟩
  | commit k ih => exact ih
  | rollback k ih => exact ih

/-- A program writes the same whatever is made of its answer. -/
theorem map {p : Program σ V W ε α} {f : α → β} (h : p.WritesOnly G) : (f <$> p).WritesOnly G :=
  h.bind fun _ => trivial

/-- A program writes the same whatever is made of its error. -/
theorem mapError {p : Program σ V W ε α} {g : ε → ε'} (h : p.WritesOnly G) :
    (p.mapError g).WritesOnly G := by
  induction p with
  | ret a => trivial
  | fail e => trivial
  | read k ih => exact fun s => ih s (h s)
  | start k ih => exact ih h
  | lock r k ih => exact fun v => ih v (h v)
  | write w k ih => exact ⟨h.1, ih h.2⟩
  | commit k ih => exact ih h
  | rollback k ih => exact ih h

/-- Two bounds on the statements hold together. -/
theorem and {G' : W → Prop} {p : Program σ V W ε α} (h : p.WritesOnly G) (h' : p.WritesOnly G') :
    p.WritesOnly fun w => G w ∧ G' w := by
  induction p with
  | ret a => trivial
  | fail e => trivial
  | read k ih => exact fun s => ih s (h s) (h' s)
  | start k ih => exact ih h h'
  | lock r k ih => exact fun v => ih v (h v) (h' v)
  | write w k ih => exact ⟨⟨h.1, h'.1⟩, ih h.2 h'.2⟩
  | commit k ih => exact ih h h'
  | rollback k ih => exact ih h h'

/-- A branch writes what its two arms write. -/
theorem ite {c : Prop} [Decidable c] {p p' : Program σ V W ε α} (h : p.WritesOnly G)
    (h' : p'.WritesOnly G) : (if c then p else p').WritesOnly G := by
  split
  · exact h
  · exact h'

/-- The same for a branch whose arms use the condition. -/
theorem dite {c : Prop} [Decidable c] {p : c → Program σ V W ε α} {p' : ¬ c → Program σ V W ε α}
    (h : ∀ hc, (p hc).WritesOnly G) (h' : ∀ hc, (p' hc).WritesOnly G) :
    (if hc : c then p hc else p' hc).WritesOnly G := by
  split
  · exact h _
  · exact h' _

/-! ### What the rest of a program writes -/

/-- The rules below walk through one step of a program, in both directions: from the rest to the
    whole, and from the whole to the rest. -/
theorem to_read {k : σ → Program σ V W ε α} (h : ∀ s, (k s).WritesOnly G) :
    (Program.read k).WritesOnly G := h

theorem to_start {k : Program σ V W ε α} (h : k.WritesOnly G) : (Program.start k).WritesOnly G := h

theorem to_lock {r : R} {k : V r → Program σ V W ε α} (h : ∀ v, (k v).WritesOnly G) :
    (Program.lock r k).WritesOnly G := h

theorem to_write {w : W} {k : Program σ V W ε α} (hw : G w) (h : k.WritesOnly G) :
    (Program.write w k).WritesOnly G := ⟨hw, h⟩

theorem to_commit {k : Program σ V W ε α} (h : k.WritesOnly G) :
    (Program.commit k).WritesOnly G := h

theorem to_rollback {k : Program σ V W ε α} (h : k.WritesOnly G) :
    (Program.rollback k).WritesOnly G := h

theorem of_read {k : σ → Program σ V W ε α} (h : (Program.read k).WritesOnly G) (s : σ) :
    (k s).WritesOnly G := h s

theorem of_start {k : Program σ V W ε α} (h : (Program.start k).WritesOnly G) : k.WritesOnly G := h

theorem of_lock {r : R} {k : V r → Program σ V W ε α} (h : (Program.lock r k).WritesOnly G)
    (v : V r) : (k v).WritesOnly G := h v

theorem of_write {w : W} {k : Program σ V W ε α} (h : (Program.write w k).WritesOnly G) :
    G w ∧ k.WritesOnly G := h

theorem of_commit {k : Program σ V W ε α} (h : (Program.commit k).WritesOnly G) :
    k.WritesOnly G := h

theorem of_rollback {k : Program σ V W ε α} (h : (Program.rollback k).WritesOnly G) :
    k.WritesOnly G := h

end WritesOnly
end Program

variable [Store σ V W]

/-- The same environment, with what the writes of a session are known to satisfy. -/
def Rules.writing (X : Rules σ R W κ) (G : W → Prop) : Rules σ R W κ where
  inv := X.inv
  rely := X.rely
  cond q l s := X.cond q l s ∧ ∀ w ∈ l.writes, G w
  guar := X.guar

/-- A program that writes only `G` may be reasoned about as if that were known of every session. -/
theorem wp_of_writing {X : Rules σ R W κ} {q : κ} {G : W → Prop} (p : Program σ V W ε α)
    {P : Except ε α → Session σ R W → σ → Prop} (hp : p.WritesOnly G) :
    ∀ l s, (∀ w ∈ l.writes, G w) → wp (X.writing G) q p P l s → wp X q p P l s := by
  induction p with
  | ret a => exact fun _ _ _ h => h
  | fail e => exact fun _ _ _ h => h
  | read k ih => exact fun l s hl h t hinv hrely => ih _ (hp _) _ s hl (h t hinv hrely)
  | start k ih => exact fun l s hl h => ih hp _ s hl h
  | lock r k ih => exact fun l s hl h => ih _ (hp _) _ s hl h
  | write w k ih =>
    intro l s hl h
    refine ⟨h.1, ih hp.2 _ s ?_ h.2⟩
    intro w' hw'
    rcases List.mem_append.mp hw' with hw' | hw'
    · exact hl w' hw'
    · rw [List.mem_singleton.mp hw']; exact hp.1
  | commit k ih =>
    intro l s hl h hc
    obtain ⟨hguar, hnext⟩ := h ⟨hc, hl⟩
    exact ⟨hguar, fun s' hinv hrely => ih hp _ s' (fun _ hw => by cases hw) (hnext s' hinv hrely)⟩
  | rollback k ih =>
    intro l s hl h hc s' hinv hrely
    exact ih hp _ s' (fun _ hw => by cases hw) (h ⟨hc, hl⟩ s' hinv hrely)

/-- **What a program writes, at each of its ends.** -/
theorem Outcomes.writes {p : Program σ V W ε α} {E : Session σ R W → σ → α → Prop}
    {N : Session σ R W → σ → Except ε α → Prop} {G : W → Prop} (h : Outcomes p E N)
    (hp : p.WritesOnly G) : Outcomes p (fun l s a => E l s a ∧ ∀ w ∈ l.writes, G w) N := by
  intro s
  constructor
  intro κ X q P hseen hN hE
  refine wp_of_writing p hp _ s (fun _ hw => by cases hw) ?_
  refine (h s).wp (X.writing G) q P hseen ?_ ?_
  · intro l r hl hr
    obtain ⟨hnow, hlater⟩ := hN l r hl hr
    exact ⟨hnow, fun hc => hlater hc.1⟩
  · intro l a hl ha hc
    exact hE l a hl ⟨ha, hc.2⟩ hc.1

-- a program is taken apart by the rules, and not by evaluating it
attribute [irreducible] Program.WritesOnly

end Txn
