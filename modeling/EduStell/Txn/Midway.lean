/-
  What holds from some point of a run on.

  A pact speaks of whole runs.  Something may become true in the middle of one, `I`, and from then on
  each commit may be known to do more, `G`, than the pact asks for: the pact is narrowed
  (`Pact.narrow`).  The requests that arrive later have to keep `G` wherever `I` holds (`p.Guards`).
  Those that are under way have read states in which `I` did not hold yet, so of them one must know
  that nothing they can still write is against `G`; what a request can write at all is what its
  program writes (`Confined`).
-/
import EduStell.Txn.Compose

namespace Txn

variable {σ R : Type} {V : R → Type} {W ε ε' α β κ ι : Type} [Store σ V W]

/-! ## Programs that keep to a relation

  `p.Guards I G` is about the commits of a program alone: what it writes, published on any state
  with `I`, is a step of `G`. -/

namespace Program

/-- Each COMMIT of the program, in a state with `I`, is a step of `G`; `ws` are the pending writes. -/
def Guards (I : σ → Prop) (G : σ → σ → Prop) : Program σ V W ε α → List W → Prop
  | .ret _, _ => True
  | .fail _, _ => True
  | .read k, ws => ∀ s, I s → (k (published ws s)).Guards I G ws
  | .start k, ws => k.Guards I G ws
  | .lock r k, ws => ∀ s, I s → (k (Store.get (published ws s) r)).Guards I G ws
  | .write w k, ws => k.Guards I G (ws ++ [w])
  | .commit k, ws => (∀ s, I s → G s (published ws s)) ∧ k.Guards I G []
  | .rollback k, _ => k.Guards I G []

variable {I : σ → Prop} {G : σ → σ → Prop} {ws : List W}

namespace Guards

/-- A plain SELECT commits nothing. -/
theorem select {query : σ → β} {k : β → Program σ V W ε α}
    (h : ∀ s, I s → (k (query (published ws s))).Guards I G ws) :
    (Program.select query >>= k).Guards I G ws := h

/-- A failed check ends the program without a commit. -/
theorem ofExcept {r : Except ε β} {k : β → Program σ V W ε α}
    (h : ∀ b, (k b).Guards I G ws) : (Program.ofExcept r >>= k).Guards I G ws := by
  cases r with
  | error e => exact trivial
  | ok b => exact h b

/-- A missing row ends the program without a commit. -/
theorem okOr {o : Option β} {e : ε} {k : β → Program σ V W ε α}
    (h : ∀ b, (k b).Guards I G ws) : (Program.okOr o e >>= k).Guards I G ws := by
  cases o with
  | none => exact trivial
  | some b => exact h b

/-- An answer that is changed afterwards commits nothing more. -/
theorem map {p : Program σ V W ε α} {f : α → β} (h : p.Guards I G ws) :
    (f <$> p).Guards I G ws := by
  change (p.bind fun a => ret (f a)).Guards I G ws
  induction p generalizing ws with
  | ret a => exact trivial
  | fail e => exact trivial
  | read k ih => exact fun s hs => ih _ (h s hs)
  | start k ih => exact ih h
  | lock r k ih => exact fun s hs => ih _ (h s hs)
  | write w k ih => exact ih h
  | commit k ih => exact ⟨h.1, ih h.2⟩
  | rollback k ih => exact ih h

/-- A call that has returned, and the rest. -/
theorem attempt {p : Program σ V W ε' β} {k : Except ε' β → Program σ V W ε α}
    (h : p.Guards I G ws) (hk : ∀ r, (k r).Guards I G []) : (p.attempt >>= k).Guards I G ws := by
  change (p.attempt.bind k).Guards I G ws
  induction p generalizing ws with
  | ret b => exact hk _
  | fail e => exact hk _
  | read g ih => exact fun s hs => ih _ (h s hs)
  | start g ih => exact ih h
  | lock r g ih => exact fun s hs => ih _ (h s hs)
  | write w g ih => exact ih h
  | commit g ih => exact ⟨h.1, ih h.2⟩
  | rollback g ih => exact ih h

end Guards

/-- A program that writes nothing against `G`. -/
theorem WritesOnly.guards {A : W → Prop} (hA : ∀ w s, A w → G s (Store.apply w s))
    (hrefl : ∀ s, G s s) (htrans : ∀ {s t u}, G s t → G t u → G s u) {p : Program σ V W ε α}
    (hws : ∀ w ∈ ws, A w) (h : p.WritesOnly A) : p.Guards I G ws := by
  -- what a commit publishes is one step of the guarantee after the other
  have hpublished : ∀ (ws : List W) s, (∀ w ∈ ws, A w) → G s (published ws s) := by
    intro ws
    induction ws with
    | nil => exact fun s _ => hrefl s
    | cons w ws ih =>
      intro s hws
      refine htrans (hA w s (hws w List.mem_cons_self)) (ih _ fun w' hw' => ?_)
      exact hws w' (List.mem_cons_of_mem w hw')
  have hnone : ∀ w ∈ ([] : List W), A w := fun w hw => by cases hw
  -- the writes that are pending grow with `p`, so the induction generalizes them
  induction p generalizing ws with
  | ret a => exact trivial
  | fail e => exact trivial
  | read k ih => exact fun s _ => ih _ hws (h.of_read _)
  | start k ih => exact ih hws h.of_start
  | lock r k ih => exact fun s _ => ih _ hws (h.of_lock _)
  | write w k ih =>
    refine ih ?_ h.of_write.2
    intro w' hw'
    rcases List.mem_append.mp hw' with hw' | hw'
    · exact hws w' hw'
    · rw [List.mem_singleton.mp hw']
      exact h.of_write.1
  | commit k ih => exact ⟨fun s _ => hpublished ws s hws, ih hnone h.of_commit⟩
  -- what was pending is dropped
  | rollback k ih => exact ih hnone h.of_rollback

end Program

/-! ## Narrower pacts

  The narrowed pact asks more of a commit and may assume more of a state.  A program that keeps
  the pact and guards the new relation keeps both. -/

/-- The pact narrowed: a further invariant `I`, and of every commit a further `G`. -/
def Pact.narrow (X : Pact σ ε α κ) (I : σ → Prop) (G : σ → σ → Prop) (arrivals : κ → Prop)
    (hI : ∀ {s t}, I s → G s t → I t) (hrefl : ∀ s, G s s)
    (htrans : ∀ {s t u}, G s t → G t u → G s u) : Pact σ ε α κ where
  inv s := X.inv s ∧ I s
  rely s t := X.rely s t ∧ G s t
  guar s t := X.guar s t ∧ G s t
  arrivals := arrivals
  answers := X.answers
  refl s := ⟨X.refl s, hrefl s⟩
  trans h h' := ⟨X.trans h.1 h'.1, htrans h.2 h'.2⟩
  keep hs h := ⟨⟨(X.keep hs.1 h.1).1, hI hs.2 h.2⟩, (X.keep hs.1 h.1).2, h.2⟩
  answers_stable h := X.answers_stable h.1

section

variable {X : Pact σ ε α κ} {I : σ → Prop} {G : σ → σ → Prop} {arrivals : κ → Prop}
  {hI : ∀ {s t}, I s → G s t → I t} {hrefl : ∀ s, G s s}
  {htrans : ∀ {s t u}, G s t → G t u → G s u}

/-- A program keeps the narrower pact as well, if it keeps to `G`. -/
theorem Program.Among.narrow {q : κ} {p : Program σ V W ε α} {ws : List W} {ls : List R} {s : σ}
    (hp : p.Guards I G ws) (h : p.Among X q ws ls s) :
    p.Among (X.narrow I G arrivals hI hrefl htrans) q ws ls s := by
  induction p generalizing ws ls s with
  | ret a => exact h
  | fail e => exact h
  | read k ih =>
    exact fun t ht => ih _ (hp t ht.inv.2) (h t ⟨ht.inv.1, ht.rely.1, ht.same⟩)
  | start k ih => exact ih hp h
  | lock r k ih =>
    exact fun t ht => ih _ (hp t ht.inv.2) (h t ⟨ht.inv.1, ht.rely.1, ht.same⟩)
  | write w k ih => exact ⟨h.1, ih hp h.2⟩
  | commit k ih =>
    intro t ht
    obtain ⟨hguar, hrest⟩ := h t ⟨ht.inv.1, ht.rely.1, ht.same⟩
    exact ⟨⟨hguar, hp.1 t ht.inv.2⟩, ih hp.2 hrest⟩
  | rollback k ih => exact ih hp h

end

/-! ## What is under way

  A request that arrived before `I` was established may have read states without it, and its
  remaining program was promised nothing about `G`.  What saves the argument is its text:
  `Confined` lists what the request can still write. -/

/-- What every request under way has written, and what it can still write. -/
def Confined (G : κ → W → Prop) (S : System σ V W ε α κ ι) : Prop :=
  ∀ i q p l, S.slots i = .running q p l → p.WritesOnly (G q) ∧ ∀ w ∈ l.writes, G q w

/-- **A pact may be narrowed in the middle of a run**, if what is under way cannot break it any
    more. -/
theorem Pact.Sound.narrow {X : Pact σ ε α κ} {S : System σ V W ε α κ ι} (h : X.Sound S)
    {I : σ → Prop} {G : σ → σ → Prop} {arrivals : κ → Prop} {hI : ∀ {s t}, I s → G s t → I t}
    {hrefl : ∀ s, G s s} {htrans : ∀ {s t u}, G s t → G t u → G s u} (hdb : I S.db)
    {A : κ → W → Prop} (hconfined : Confined A S)
    (hA : ∀ i q p l, S.slots i = .running q p l → ∀ w s, A q w → G s (Store.apply w s)) :
    (X.narrow I G arrivals hI hrefl htrans).Sound S where
  inv := ⟨h.inv, hdb⟩
  running i q p l hslot := by
    obtain ⟨hp, hl⟩ := hconfined i q p l hslot
    have hlive := h.running i q p l hslot
    exact ⟨hlive.holds, hlive.owned,
      hlive.among.narrow (hp.guards (hA i q p l hslot) hrefl htrans hl)⟩
  finished := h.finished

variable [DecidableEq R] [DecidableEq ι] {prog : κ → Program σ V W ε α}

section

variable {G : κ → W → Prop} {S : System σ V W ε α κ ι}

omit [Store σ V W] [DecidableEq R] in
/-- Slot `i` gets new content. -/
theorem Confined.set (h : Confined G S) {S' : System σ V W ε α κ ι} {i : ι} {x : Slot σ V W ε α κ}
    (hslots : S'.slots = S.slots)
    (hx : ∀ q p l, x = .running q p l → p.WritesOnly (G q) ∧ ∀ w ∈ l.writes, G q w) :
    Confined G (S'.set i x) := by
  intro j q p l hj
  change (if j = i then x else S'.slots j) = .running q p l at hj
  split at hj
  · exact hx q p l hj
  · rw [hslots] at hj
    exact h j q p l hj

/-- A request that goes on writes what it could write before. -/
theorem Confined.advance (h : Confined G S) {i : ι} {q : κ} {p : Program σ V W ε α}
    {l : Session σ R W} (hslot : S.slots i = .running q p l) : Confined G (S.advance i q p l) := by
  obtain ⟨hp, hl⟩ := h i q p l hslot
  -- the slot goes on with a program and a session that are confined again
  have hset : ∀ {S' : System σ V W ε α κ ι} {k : Program σ V W ε α} {l' : Session σ R W},
      S'.slots = S.slots → k.WritesOnly (G q) → (∀ w ∈ l'.writes, G q w) →
      Confined G (S'.set i (.running q k l')) := by
    intro S' k l' hslots hk hl'
    refine h.set hslots fun q' p' l'' hx => ?_
    cases hx
    exact ⟨hk, hl'⟩
  have hstop : ∀ {x : Slot σ V W ε α κ}, (∀ q p l, x ≠ .running q p l) →
      Confined G ((S.release i).set i x) :=
    fun hx => h.set rfl fun q p l he => absurd he (hx q p l)
  have hended : ∀ w ∈ l.ended.writes, G q w := fun w hw => by cases hw
  -- what one statement does to the slot
  cases p with
  | ret a => exact hstop fun _ _ _ hx => by cases hx
  | fail e => exact hstop fun _ _ _ hx => by cases hx
  | read k => exact hset rfl (hp.of_read _) hl
  | start k => exact hset rfl hp.of_start hl
  | lock r k =>
    simp only [System.advance]
    split
    · exact hset rfl (hp.of_lock _) hl
    · exact h
  | write w k =>
    refine hset rfl hp.of_write.2 fun w' hw' => ?_
    rcases List.mem_append.mp hw' with hw' | hw'
    · exact hl w' hw'
    · rw [List.mem_singleton.mp hw']
      exact hp.of_write.1
  | commit k => exact hset rfl hp.of_commit hended
  | rollback k => exact hset rfl hp.of_rollback hended

/-- **Nothing is written that is not in its program**: induction on the events. -/
theorem confined_run (hprog : ∀ q, (prog q).WritesOnly (G q)) (s : σ) (es : List (Event κ ι)) :
    Confined G ((System.start s).run prog es) := by
  -- one event at the end of the run at a time
  induction es using List.reverseRecOn with
  | nil => exact fun i q p l hslot => by cases hslot
  | append_singleton es e ih =>
    rw [System.run_snoc]
    generalize (System.start s).run prog es = S at ih
    cases e with
    | call i q =>
      simp only [System.next]
      split
      · refine ih.set rfl fun q' p' l' hx => ?_
        cases hx
        exact ⟨hprog q, fun w hw => by cases hw⟩
      · exact ih
    | step i =>
      simp only [System.next]
      split
      · rename_i q p l hslot
        exact ih.advance hslot
      · exact ih
    | drop i =>
      simp only [System.next]
      split
      · exact ih.set rfl fun q' p' l' hx => by cases hx
      · exact ih

end

end Txn
