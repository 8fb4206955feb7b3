/-
  Two stores side by side.

  What can be locked in `σ × τ` is what can be locked in either, and a write goes to one side.  A
  program of one side runs in the product as it does alone and leaves the other side as it was:
  `Along.inl` and `Along.inr` say so for every statement on the way, so a service that works on both
  sides is put together from programs that know one of them.

  The two embeddings are mirror images, and so are their lemmas.
-/
import EduStell.Txn.Crash

namespace Txn

variable {σ τ R R' : Type} {V : R → Type} {V' : R' → Type} {W W' ε α : Type}

section

variable [Store σ V W] [Store τ V' W']

/-- The product of two stores: locks and statements of either side, each on its own side. -/
instance : Store (σ × τ) (Sum.elim V V') (W ⊕ W') where
  get s
    | .inl r => Store.get s.1 r
    | .inr r => Store.get s.2 r
  apply
    | .inl w, s => (Store.apply w s.1, s.2)
    | .inr w, s => (s.1, Store.apply w s.2)
  touches
    | .inl w, .inl r => Store.touches σ w r
    | .inr w, .inr r => Store.touches τ w r
    | .inl _, .inr _ => False
    | .inr _, .inl _ => False
  get_of_not_touches {w r s} h := by
    cases w with
    | inl w =>
      cases r with
      | inl r => exact Store.get_of_not_touches h
      | inr r => rfl
    | inr w =>
      cases r with
      | inl r => rfl
      | inr r => exact Store.get_of_not_touches h
  get_congr {w s s'} h r hr := by
    cases w with
    | inl w =>
      cases r with
      | inl r => exact Store.get_congr (fun r hr => h (.inl r) hr) r hr
      | inr r => exact False.elim hr
    | inr w =>
      cases r with
      | inl r => exact False.elim hr
      | inr r => exact Store.get_congr (fun r hr => h (.inr r) hr) r hr

end

namespace Program

/-- A program of the left side. -/
def inl : Program σ V W ε α → Program (σ × τ) (Sum.elim V V') (W ⊕ W') ε α
  | ret a => ret a
  | fail e => fail e
  | read k => read fun s => (k s.1).inl
  | start k => start k.inl
  | lock r k => lock (.inl r) fun v => (k v).inl
  | write w k => write (.inl w) k.inl
  | commit k => commit k.inl
  | rollback k => rollback k.inl

/-- A program of the right side. -/
def inr : Program τ V' W' ε α → Program (σ × τ) (Sum.elim V V') (W ⊕ W') ε α
  | ret a => ret a
  | fail e => fail e
  | read k => read fun s => (k s.2).inr
  | start k => start k.inr
  | lock r k => lock (.inr r) fun v => (k v).inr
  | write w k => write (.inr w) k.inr
  | commit k => commit k.inr
  | rollback k => rollback k.inr

end Program

variable [Store σ V W] [Store τ V' W']

/-! ## What a session of one side sees

  The pending statements of a session are filtered by side: those of the left side act on the left
  component alone. -/

/-- Statements of the left side are seen on the left side. -/
theorem Session.view_inl {l : Session σ R W} {l' : Session (σ × τ) (R ⊕ R') (W ⊕ W')}
    (h : l'.writes = l.writes.map .inl) (s : σ × τ) : l'.view s = (l.view s.1, s.2) := by
  rw [Session.view, Session.view, h, List.foldl_map]
  generalize l.writes = ws
  induction ws generalizing s with
  | nil => rfl
  | cons w ws ih => exact ih (Store.apply w s.1, s.2)

/-- Statements of the right side are seen on the right side. -/
theorem Session.view_inr {l : Session τ R' W'} {l' : Session (σ × τ) (R ⊕ R') (W ⊕ W')}
    (h : l'.writes = l.writes.map .inr) (s : σ × τ) : l'.view s = (s.1, l.view s.2) := by
  rw [Session.view, Session.view, h, List.foldl_map]
  generalize l.writes = ws
  induction ws generalizing s with
  | nil => rfl
  | cons w ws ih => exact ih (s.1, Store.apply w s.2)

/-! ## A program of one side leaves the other alone

  The two inductions below run over the statements of the program, for a session that may have
  written on BOTH sides already. -/

namespace Program.Along

variable {P : σ × τ → Prop} {Q : Except ε α → σ × τ → Prop}

/-- The induction behind `inl`, for a session that is under way. -/
theorem inl_session {p : Program σ V W ε α} {t : τ} :
    ∀ {l : Session σ R W} {l' : Session (σ × τ) (R ⊕ R') (W ⊕ W')} {s : σ},
    l'.writes = l.writes.map .inl →
    p.Along (fun s => P (s, t)) (fun r s => Q r (s, t)) l s → p.inl.Along P Q l' (s, t) := by
  -- the session of the pair writes what the session of the side writes
  induction p with
  | ret a => exact fun _ h => h
  | fail e => exact fun _ h => h
  | read k ih =>
    intro l l' s hl h
    have hview := Session.view_inl hl (s, t)
    rw [inl, Along, hview]
    exact ih _ (l := l.saw s) hl h
  | start k ih =>
    intro l l' s hl h
    exact ih (l := l.begun) hl h
  | lock r k ih =>
    intro l l' s hl h
    have hview := Session.view_inl hl (s, t)
    rw [inl, Along, hview]
    exact ih _ (l := l.lock r) hl h
  | write w k ih =>
    intro l l' s hl h
    refine ih (l := l.write w) ?_ h
    rw [Session.write, Session.write, hl, List.map_append]; rfl
  | commit k ih =>
    intro l l' s hl h
    have hview := Session.view_inl hl (s, t)
    rw [inl, Along, hview]
    exact ⟨h.1, ih (l := l.ended) rfl h.2⟩
  | rollback k ih =>
    intro l l' s hl h
    exact ih (l := l.ended) rfl h

/-- The induction behind `inr`, for a session that is under way. -/
theorem inr_session {p : Program τ V' W' ε α} {s : σ} :
    ∀ {l : Session τ R' W'} {l' : Session (σ × τ) (R ⊕ R') (W ⊕ W')} {t : τ},
    l'.writes = l.writes.map .inr →
    p.Along (fun t => P (s, t)) (fun r t => Q r (s, t)) l t → p.inr.Along P Q l' (s, t) := by
  induction p with
  | ret a => exact fun _ h => h
  | fail e => exact fun _ h => h
  | read k ih =>
    intro l l' t hl h
    have hview := Session.view_inr hl (s, t)
    rw [inr, Along, hview]
    exact ih _ (l := l.saw t) hl h
  | start k ih =>
    intro l l' t hl h
    exact ih (l := l.begun) hl h
  | lock r k ih =>
    intro l l' t hl h
    have hview := Session.view_inr hl (s, t)
    rw [inr, Along, hview]
    exact ih _ (l := l.lock r) hl h
  | write w k ih =>
    intro l l' t hl h
    refine ih (l := l.write w) ?_ h
    rw [Session.write, Session.write, hl, List.map_append]; rfl
  | commit k ih =>
    intro l l' t hl h
    have hview := Session.view_inr hl (s, t)
    rw [inr, Along, hview]
    exact ⟨h.1, ih (l := l.ended) rfl h.2⟩
  | rollback k ih =>
    intro l l' t hl h
    exact ih (l := l.ended) rfl h

/-- A program of the left side goes in the product as it goes alone. -/
theorem inl {p : Program σ V W ε α} {s : σ} {t : τ}
    (h : p.Along (fun s => P (s, t)) (fun r s => Q r (s, t)) Session.init s) :
    p.inl.Along P Q Session.init (s, t) :=
  inl_session rfl h

/-- A program of the right side goes in the product as it goes alone. -/
theorem inr {p : Program τ V' W' ε α} {s : σ} {t : τ}
    (h : p.Along (fun t => P (s, t)) (fun r t => Q r (s, t)) Session.init t) :
    p.inr.Along P Q Session.init (s, t) :=
  inr_session rfl h

end Program.Along
end Txn
