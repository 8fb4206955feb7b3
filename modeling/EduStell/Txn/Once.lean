/-
  Exactly once: duplicates of one request, in any interleaving.

  Let `mine` be the duplicates.  They take effect at most once when each of their commits finds a
  state that is `before` and leaves one that is `after`, and everyone else's commit keeps both; and
  they take effect at least once when the state of the run has come to be `after`.

  `Once` is the list of what has to be shown: that `before` and `after` exclude each other, that a
  commit of `mine` leads from the one to the other, and that every other commit keeps both.
-/
import EduStell.Txn.Interleave

namespace Txn

variable {σ R : Type} {V : R → Type} {W ε α κ ι : Type}

namespace System

/-! ## The commit that counts

  A duplicate is a request like any other, and the requests in `mine` may be many and arrive at
  any time.  Exactly one statement of one of them changes the committed state. -/

/-- The event is a statement of a request in `mine`. -/
def ActsFor (mine : κ → Prop) (S : System σ V W ε α κ ι) (e : Event κ ι) : Prop :=
  ∃ i q p l, e = .step i ∧ S.slots i = .running q p l ∧ mine q

variable [DecidableEq ι] [DecidableEq R] [Store σ V W]

/-- No statement of the requests in `mine` has changed the committed state. -/
def Never (prog : κ → Program σ V W ε α) (mine : κ → Prop) (S : System σ V W ε α κ ι)
    (es : List (Event κ ι)) : Prop :=
  ∀ pre e post, es = pre ++ e :: post → (S.run prog pre).ActsFor mine e →
    (S.run prog (pre ++ [e])).db = (S.run prog pre).db

/-- One statement of the requests in `mine` has changed the committed state, by `effect`; none of
    the others has. -/
def ExactlyOnce (prog : κ → Program σ V W ε α) (mine : κ → Prop) (effect : σ → σ → Prop)
    (S : System σ V W ε α κ ι) (es : List (Event κ ι)) : Prop :=
  ∃ pre e post, es = pre ++ e :: post ∧ (S.run prog pre).ActsFor mine e ∧
    effect (S.run prog pre).db (S.run prog (pre ++ [e])).db ∧
    ∀ pre' e' post', es = pre' ++ e' :: post' → pre' ≠ pre → (S.run prog pre').ActsFor mine e' →
      (S.run prog (pre' ++ [e'])).db = (S.run prog pre').db

end System

namespace Contract

variable [Store σ V W] {prog : κ → Program σ V W ε α}
  {E : κ → Session σ R W → σ → α → Prop} {N : κ → Session σ R W → σ → Except ε α → Prop}

/-- What makes the requests in `mine` take effect at most once. -/
structure Once (C : Contract prog E N) (mine : κ → Prop) (before after : σ → Prop)
    (effect : σ → σ → Prop) : Prop where
  /-- The two states cannot be confused. -/
  disjoint : ∀ {s}, before s → ¬ after s
  /-- A commit of `mine` finds `before` and leaves `after`. -/
  mine_commit : ∀ {q l s a}, C.arrivals q → C.inv s → (∀ t ∈ l.seen, C.inv t ∧ C.rely t s) →
    E q l s a → C.cond q l s → mine q → before s ∧ effect s (l.view s) ∧ after (l.view s)
  /-- Every other commit leaves either of them as it is. -/
  other_commit : ∀ {q l s a}, C.arrivals q → C.inv s → (∀ t ∈ l.seen, C.inv t ∧ C.rely t s) →
    E q l s a → C.cond q l s → ¬ mine q →
    (before s → before (l.view s)) ∧ (after s → after (l.view s))

variable {C : Contract prog E N} {mine : κ → Prop} {before after : σ → Prop} {effect : σ → σ → Prop}

/-! ## Every run

  Before the commit that counts the state is `before`, after it `after`, and no step of anybody
  else leads back. -/

/-- A commit is a statement of `mine` if and only if its request is. -/
theorem Commit.actsFor_iff {S S' : System σ V W ε α κ ι} {e : Event κ ι} {q : κ}
    {l : Session σ R W} {a : α} (h : C.Commit S S' e q l a) : S.ActsFor mine e ↔ mine q := by
  obtain ⟨i, k, rfl, hslot⟩ := h.event
  constructor
  · rintro ⟨i', q', p', l', he, hslot', hmine⟩
    cases he
    cases hslot.symm.trans hslot'
    exact hmine
  · intro hmine
    exact ⟨i, q, _, l, rfl, hslot, hmine⟩

variable [DecidableEq ι] [DecidableEq R]

/-- What one event does: nothing, or it is the one that counts, or it is someone else's. -/
theorem Once.step (h : C.Once mine before after effect) {s : σ} (hinv : C.inv s)
    {es : List (Event κ ι)} {e : Event κ ι} (hrun : C.Within s (es ++ [e])) :
    ((System.start s).run prog (es ++ [e])).db = ((System.start s).run prog es).db ∨
    (((System.start s).run prog es).ActsFor mine e ∧ before ((System.start s).run prog es).db ∧
      effect ((System.start s).run prog es).db ((System.start s).run prog (es ++ [e])).db ∧
      after ((System.start s).run prog (es ++ [e])).db) ∨
    (¬ ((System.start s).run prog es).ActsFor mine e ∧
      (before ((System.start s).run prog es).db →
        before ((System.start s).run prog (es ++ [e])).db) ∧
      (after ((System.start s).run prog es).db →
        after ((System.start s).run prog (es ++ [e])).db)) := by
  rcases C.db_step hinv hrun with hsame | ⟨q, l, a, hcom⟩
  · exact .inl hsame
  right
  rw [hcom.db]
  by_cases hmine : mine q
  · left
    refine ⟨hcom.actsFor_iff.mpr hmine, ?_⟩
    exact h.mine_commit hcom.arrivals hcom.inv hcom.seen hcom.effect hcom.cond hmine
  · right
    refine ⟨fun hacts => hmine (hcom.actsFor_iff.mp hacts), ?_⟩
    exact h.other_commit hcom.arrivals hcom.inv hcom.seen hcom.effect hcom.cond hmine

/-- **At most once**, in every run; and once it has happened, the state is `after`. -/
theorem Once.run (h : C.Once mine before after effect) {s : σ} (hinv : C.inv s) (hs : before s)
    {es : List (Event κ ι)} : C.Within s es →
    (before ((System.start s).run prog es).db ∧ System.Never prog mine (System.start s) es) ∨
    (after ((System.start s).run prog es).db ∧
      System.ExactlyOnce prog mine effect (System.start s) es) := by
  induction es using List.reverseRecOn with
  | nil =>
    intro _
    refine .inl ⟨hs, ?_⟩
    intro pre e post he
    simp at he
  | append_singleton es e ih =>
    intro hrun
    -- an event that changes nothing, or is not of `mine`, adds nothing to either history
    have hquiet : (((System.start s).run prog es).ActsFor mine e →
          ((System.start s).run prog (es ++ [e])).db = ((System.start s).run prog es).db) →
        (before ((System.start s).run prog es).db →
          before ((System.start s).run prog (es ++ [e])).db) →
        (after ((System.start s).run prog es).db →
          after ((System.start s).run prog (es ++ [e])).db) →
        (before ((System.start s).run prog (es ++ [e])).db ∧
          System.Never prog mine (System.start s) (es ++ [e])) ∨
        (after ((System.start s).run prog (es ++ [e])).db ∧
          System.ExactlyOnce prog mine effect (System.start s) (es ++ [e])) := by
      intro hsame hbefore hafter
      rcases ih hrun.prefix with ⟨hb, hnever⟩ | ⟨ha, pre, x, post, hes, hacts, heffect, honly⟩
      · refine .inl ⟨hbefore hb, ?_⟩
        intro pre' x' post' hsplit hacts'
        rcases split_snoc hsplit with ⟨rfl, rfl⟩ | ⟨post'', hes'⟩
        · exact hsame hacts'
        · exact hnever pre' x' post'' hes' hacts'
      · refine .inr ⟨hafter ha, pre, x, post ++ [e], by rw [hes]; simp, hacts, heffect, ?_⟩
        intro pre' x' post' hsplit hne hacts'
        rcases split_snoc hsplit with ⟨rfl, rfl⟩ | ⟨post'', hes'⟩
        · exact hsame hacts'
        · exact honly pre' x' post'' hes' hne hacts'
    rcases h.step hinv hrun with hsame | ⟨hacts, hbefore, heffect, hafter⟩ | ⟨hothers, hb, ha⟩
    · exact hquiet (fun _ => hsame) (fun hb => hsame ▸ hb) (fun ha => hsame ▸ ha)
    · -- the event that counts: it is the first
      rcases ih hrun.prefix with ⟨-, hnever⟩ | ⟨ha, -⟩
      · refine .inr ⟨hafter, es, e, [], rfl, hacts, heffect, ?_⟩
        intro pre' x' post' hsplit hne hacts'
        rcases split_snoc hsplit with ⟨rfl, -⟩ | ⟨post'', hes'⟩
        · exact absurd rfl hne
        · exact hnever pre' x' post'' hes' hacts'
      · exact absurd ha (h.disjoint hbefore)
    · exact hquiet (fun hacts => absurd hacts hothers) hb ha

/-- A run that has come to `after` has had the one commit that counts. -/
theorem Once.of_after (h : C.Once mine before after effect) {s : σ} (hinv : C.inv s) (hs : before s)
    {es : List (Event κ ι)} (hrun : C.Within s es)
    (hafter : after ((System.start s).run prog es).db) :
    System.ExactlyOnce prog mine effect (System.start s) es := by
  rcases h.run hinv hs hrun with ⟨hbefore, -⟩ | ⟨-, honce⟩
  · exact absurd hafter (h.disjoint hbefore)
  · exact honce

end Contract
end Txn
