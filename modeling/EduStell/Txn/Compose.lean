/-
  Services put together from others, within a pact.

  A handler that calls a service goes on with its outcome, whatever it is (`attempt`): by then the
  transaction of the service is over, committed or dropped.  What the handler knows of the outcome is
  what the pact of the service promises (`Pact.answering`).

  Two things make the pact of a service out of what is known already: the ends of a request with one
  transaction (`Among.of_outcomes`), and a side of a product (`Part.left`).
-/
import EduStell.Txn.Part
import EduStell.Txn.Product

namespace Txn

variable {σ τ R R' : Type} {V : R → Type} {V' : R' → Type} {W W' ε ε' α β κ ι : Type}

/-! ## Outcomes as values

  A handler that inspects the outcome of a service, and goes on in either case, is not a `bind`:
  an error would end it.  `attempt` returns the outcome as a value, after the guard of a
  transaction that was left open has dropped it. -/

/-- A call that has returned, with its outcome as a value.  Its transaction is dropped where it is
    still open. -/
def Program.attempt : Program σ V W ε' α → Program σ V W ε (Except ε' α)
  | .ret a => .rollback (.ret (.ok a))
  | .fail e => .rollback (.ret (.error e))
  | .read k => .read fun s => (k s).attempt
  | .start k => .start k.attempt
  | .lock r k => .lock r fun v => (k v).attempt
  | .write w k => .write w k.attempt
  | .commit k => .commit k.attempt
  | .rollback k => .rollback k.attempt

namespace Program

/-- A program run for its outcome writes what it writes. -/
theorem WritesOnly.attempt {G : W → Prop} {p : Program σ V W ε' α} (h : p.WritesOnly G) :
    (p.attempt : Program σ V W ε (Except ε' α)).WritesOnly G := by
  induction p with
  | ret a => exact .to_rollback (.pure _)
  | fail e => exact .to_rollback (.pure _)
  | read k ih => exact .to_read fun s => ih s (h.of_read s)
  | start k ih => exact .to_start (ih h.of_start)
  | lock r k ih => exact .to_lock fun v => ih v (h.of_lock v)
  | write w k ih => exact .to_write h.of_write.1 (ih h.of_write.2)
  | commit k ih => exact .to_commit (ih h.of_commit)
  | rollback k ih => exact .to_rollback (ih h.of_rollback)

end Program

/-! ## The pact of a call -/

variable [Store σ V W]

/-- The pact for a call inside of a request: the same, but for what is promised of the outcome. -/
def Pact.answering (X : Pact σ ε α κ) (Q : Except ε' β → σ → Prop)
    (hQ : ∀ {r s t}, X.rely s t → Q r s → Q r t) : Pact σ ε' β κ where
  inv := X.inv
  rely := X.rely
  guar := X.guar
  arrivals := X.arrivals
  answers _ := Q
  refl := X.refl
  trans := X.trans
  keep := X.keep
  answers_stable := hQ

namespace Program.Among

variable {X : Pact σ ε α κ} {q : κ} {ws : List W} {ls : List R} {s : σ}

/-- A call, and then the rest with what the call promises. -/
theorem attempt {Q : Except ε' β → σ → Prop} (hQ : ∀ {r s t}, X.rely s t → Q r s → Q r t)
    {p : Program σ V W ε' β} {k : Except ε' β → Program σ V W ε α}
    (h : p.Among (X.answering Q hQ) q ws ls s)
    (hk : ∀ r s, Q r s → (k r).Among X q [] [] s) : (p.attempt >>= k).Among X q ws ls s := by
  change (p.attempt.bind k).Among X q ws ls s
  induction p generalizing ws ls s with
  | ret b => exact hk _ s h
  | fail e => exact hk _ s h
  | read g ih => exact fun t ht => ih _ (h t ⟨ht.inv, ht.rely, ht.same⟩)
  | start g ih => exact ih h
  | lock r g ih => exact fun t ht => ih _ (h t ⟨ht.inv, ht.rely, ht.same⟩)
  | write w g ih => exact ⟨h.1, ih h.2⟩
  | commit g ih =>
    intro t ht
    obtain ⟨hguar, hrest⟩ := h t ⟨ht.inv, ht.rely, ht.same⟩
    exact ⟨hguar, ih hrest⟩
  | rollback g ih => exact ih h

/-! ## Requests with one transaction

  Most services are known by their ends already, as `Outcomes`.  A pact asks for less: that the
  one commit is a step of `guar`, and that the answer is agreed on.  So nothing about the
  statements of such a service is proved twice. -/

/-- What `wp` demands in the state in which the transaction ends, for every later state: a program
    that meets it keeps the pact, since what it has locked does not change until then. -/
theorem of_wp {P : Except ε α → Session σ R W → σ → Prop}
    (hP : ∀ r l s, X.inv s → P r l s → X.answers q r s) {p : Program σ V W ε α}
    {l : Session σ R W} (howned : ∀ w ∈ l.writes, ∀ r, Store.touches σ w r → r ∈ l.locks)
    (hs : X.inv s) (h : ∀ t, X.Follows l.locks s t →
      wp (⟨X.inv, X.rely, fun _ _ _ => True, fun _ l s => X.guar s (l.view s)⟩ : Rules σ R W κ) q p
        P l t) : p.Among X q l.writes l.locks s := by
  induction p generalizing l s with
  | ret a => exact hP _ l s hs (h s (.refl hs))
  | fail e => exact hP _ l s hs (h s (.refl hs))
  | read k ih =>
    intro t ht
    refine ih _ (l := l.saw t) howned ht.inv fun u hu => ?_
    exact h u (ht.trans hu) t ht.inv hu.rely
  | start k ih => exact ih (l := l.begun) howned hs fun t ht => h t ht
  | lock r k ih =>
    intro t ht
    have howned' : ∀ w ∈ (l.lock r).writes, ∀ r', Store.touches σ w r' → r' ∈ (l.lock r).locks :=
      fun w hw r' ht => List.mem_cons_of_mem r (howned w hw r' ht)
    refine ih _ (l := l.lock r) howned' ht.inv fun u hu => ?_
    -- what is read under the lock is what it will be when the transaction ends
    have hsame : Store.get (published l.writes t) r = Store.get (l.view u) r :=
      Session.get_view_congr (· ∈ (l.lock r).locks) l.writes t u howned'
        (fun r' hr' => (hu.same r' hr').symm) r List.mem_cons_self
    rw [hsame]
    refine h u ⟨hu.inv, X.trans ht.rely hu.rely, fun r' hr' => ?_⟩
    exact (hu.same r' (List.mem_cons_of_mem r hr')).trans (ht.same r' hr')
  | write w k ih =>
    refine ⟨(h s (.refl hs)).1, ih (l := l.write w) ?_ hs fun t ht => (h t ht).2⟩
    intro w' hw' r ht
    rcases List.mem_append.mp hw' with hw' | hw'
    · exact howned w' hw' r ht
    · rw [List.mem_singleton.mp hw'] at ht
      exact (h s (.refl hs)).1 r ht
  | commit k ih =>
    intro t ht
    obtain ⟨hguar, hrest⟩ := h t ht trivial
    have hlater := X.keep ht.inv hguar
    refine ⟨hguar, ih (l := l.ended) (fun w hw => by cases hw) hlater.1 fun u hu => ?_⟩
    exact hrest u hu.inv hu.rely
  | rollback k ih =>
    refine ih (l := l.ended) (fun w hw => by cases hw) hs fun t ht => ?_
    exact h s (.refl hs) trivial t ht.inv ht.rely

/-- A request with one transaction keeps the pact if each of its ends does. -/
theorem of_outcomes {p : Program σ V W ε α} {E : Session σ R W → σ → α → Prop}
    {N : Session σ R W → σ → Except ε α → Prop} (hp : Outcomes p E N) (hs : X.inv s)
    (hE : ∀ l s a, X.inv s → (∀ t ∈ l.seen, X.inv t ∧ X.rely t s) → E l s a →
      X.guar s (l.view s) ∧ X.answers q (.ok a) (l.view s))
    (hN : ∀ l s r, X.inv s → (∀ t ∈ l.seen, X.inv t ∧ X.rely t s) → N l s r → X.answers q r s) :
    p.Among X q [] [] s := by
  refine of_wp (l := Session.init) (P := fun r _ s => X.inv s → X.answers q r s)
    (fun r _ s hs h => h hs) (fun w hw => by cases hw) hs fun t ht => ?_
  refine (hp t).wp _ q _ (fun u hu => by cases hu) ?_ ?_
  · intro l r hseen hr
    refine ⟨fun hinv => hN l t r hinv hseen hr, fun _ u hu hrely _ => ?_⟩
    exact X.answers_stable hrely (hN l t r ht.inv hseen hr)
  · intro l a hseen ha _
    obtain ⟨hguar, hanswers⟩ := hE l t a ht.inv hseen ha
    exact ⟨hguar, fun u _ hrely _ => X.answers_stable hrely hanswers⟩

end Program.Among

/-! ## Sides of a product

  What a service does on one side of a product is a matter of that side's pact, and the statements
  of the other side are none of it. -/

section

variable [Store τ V' W']

/-- The left side of a product. -/
def Part.left : Part (σ × τ) (Sum.elim V V') (W ⊕ W') σ V W where
  proj := Prod.fst
  resource := Sum.inl
  content _ v := v
  statement := Sum.inl

/-- The left side of a product is a part of it. -/
theorem Part.left_lawful : (Part.left : Part (σ × τ) (Sum.elim V V') (W ⊕ W') σ V W).Lawful where
  get _ _ := rfl
  apply _ _ := rfl
  touches w r ht := by
    cases r with
    | inl r => exact ⟨r, rfl, ht⟩
    | inr r => exact ht.elim

/-- What is written on the left leaves the right as it is. -/
theorem published_left (ws : List W) (s : σ × τ) :
    published (ws.map (Sum.inl : W → W ⊕ W')) s = (published ws s.1, s.2) := by
  induction ws generalizing s with
  | nil => rfl
  | cons w ws ih => exact ih (Store.apply w s.1, s.2)

end

end Txn
