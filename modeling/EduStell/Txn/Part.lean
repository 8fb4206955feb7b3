/-
  A store that is a part of a larger one.

  `Part` says where the part lies: its state in the larger state, its resources among the larger
  ones, its statements among the larger ones.  A program of the part is then a program of the whole,
  `p.within P`, which writes nothing but statements of the part.  Unlike in a product, other
  statements of the whole may write the part as well.

  The larger store is not a product: its other tables may be written together with the part, and a
  resource of the part may be locked by a statement of the whole.
-/
import EduStell.Txn.Rely
import EduStell.Txn.Serial
import EduStell.Txn.Writes

namespace Txn

variable {σ τ R R' : Type} {V : R → Type} {V' : R' → Type} {W W' ε α κ : Type}

/-! ## Where the part lies

  The three maps have to fit together: a statement of the part, run in the whole, changes the part
  as it does there, and touches the resources that belong to it. -/

/-- Where the part lies. -/
structure Part (σ : Type) {R : Type} (V : R → Type) (W τ : Type) {R' : Type} (V' : R' → Type)
    (W' : Type) where
  proj : σ → τ
  resource : R' → R
  content : ∀ r, V (resource r) → V' r
  statement : W' → W

namespace Part

variable [Store σ V W] [Store τ V' W']

/-- The part is read and written where it lies. -/
structure Lawful (P : Part σ V W τ V' W') : Prop where
  /-- The content of a resource of the part is what it is in the whole. -/
  get : ∀ s r, P.content r (Store.get s (P.resource r)) = Store.get (P.proj s) r
  /-- A statement changes the part as it does when it stands alone. -/
  apply : ∀ w s, P.proj (Store.apply (P.statement w) s) = Store.apply w (P.proj s)
  /-- A statement of the part touches resources of the part only. -/
  touches : ∀ w r, Store.touches σ (P.statement w) r → ∃ r', r = P.resource r' ∧
    Store.touches τ w r'

/-- Publishing the statements of a part changes the part as publishing them there does. -/
theorem Lawful.published {P : Part σ V W τ V' W'} (h : P.Lawful) (ws : List W') (s : σ) :
    P.proj (published (ws.map P.statement) s) = Txn.published ws (P.proj s) := by
  induction ws generalizing s with
  | nil => rfl
  | cons w ws ih =>
    change P.proj (Txn.published (ws.map P.statement) (Store.apply (P.statement w) s)) =
      Txn.published ws (Store.apply w (P.proj s))
    rw [ih, h.apply]

/-- What the pact `X` of the whole asks of the pact `Y` of the part. -/
structure Carries (P : Part σ V W τ V' W') (X : Pact σ ε α κ) (Y : Pact τ ε α κ) : Prop where
  /-- What may follow in the whole may follow in the part. -/
  later : ∀ {s t}, X.Later s t → Y.Later (P.proj s) (P.proj t)
  /-- A step that the part allows is allowed by the whole. -/
  guar : ∀ {s} {ws : List W'}, X.inv s → Y.guar (P.proj s) (Txn.published ws (P.proj s)) →
    X.guar s (Txn.published (ws.map P.statement) s)
  /-- An answer that the part promises is one that the whole promises. -/
  answers : ∀ {q r s}, Y.answers q r (P.proj s) → X.answers q r s

/-- A continuation of the whole that keeps the pact keeps the pact of the part. -/
theorem Carries.follows {P : Part σ V W τ V' W'} {X : Pact σ ε α κ} {Y : Pact τ ε α κ}
    (h : P.Carries X Y) (hP : P.Lawful) {ls : List R'} {s t : σ}
    (ht : X.Follows (ls.map P.resource) s t) : Y.Follows ls (P.proj s) (P.proj t) := by
  obtain ⟨hinv, hrely⟩ := h.later ht.later
  refine ⟨hinv, hrely, fun r hr => ?_⟩
  rw [← hP.get, ← hP.get, ht.same _ (List.mem_map_of_mem hr)]

end Part

namespace Program

/-! ## Programs of the part in the whole

  A service written for its own tables runs unchanged in a larger database.  Its pact there is the
  pact of the part, carried over by `Carries`. -/

/-- A program of the part, run in the whole. -/
def within (P : Part σ V W τ V' W') : Program τ V' W' ε α → Program σ V W ε α
  | ret a => ret a
  | fail e => fail e
  | read k => read fun s => (k (P.proj s)).within P
  | start k => start (k.within P)
  | lock r k => lock (P.resource r) fun v => (k (P.content r v)).within P
  | write w k => write (P.statement w) (k.within P)
  | commit k => commit (k.within P)
  | rollback k => rollback (k.within P)

/-- It writes the statements that it writes in the part. -/
theorem WritesOnly.within (P : Part σ V W τ V' W') {G : W → Prop} {G' : W' → Prop}
    (hG : ∀ w, G' w → G (P.statement w)) {p : Program τ V' W' ε α} (hp : p.WritesOnly G') :
    (p.within P).WritesOnly G := by
  induction p with
  | ret a => exact .pure a
  | fail e => exact .fail e
  | read k ih => exact .to_read fun s => ih _ (hp.of_read _)
  | start k ih => exact .to_start (ih hp.of_start)
  | lock r k ih => exact .to_lock fun v => ih _ (hp.of_lock _)
  | write w k ih => exact .to_write (hG w hp.of_write.1) (ih hp.of_write.2)
  | commit k ih => exact .to_commit (ih hp.of_commit)
  | rollback k ih => exact .to_rollback (ih hp.of_rollback)

/-- What every statement of a program keeps, the program keeps when it runs alone. -/
theorem WritesOnly.exec [Store σ V W] {G : W → Prop} {Q : σ → Prop}
    (hQ : ∀ w s, G w → Q s → Q (Store.apply w s)) {p : Program σ V W ε α} (hp : p.WritesOnly G)
    {l : Session σ R W} {s : σ} (hl : ∀ w ∈ l.writes, G w) (hs : Q s) : Q (p.exec l s).2 := by
  have hview : ∀ {ws : List W} {s : σ}, (∀ w ∈ ws, G w) → Q s →
      Q (ws.foldl (fun s w => Store.apply w s) s) := by
    intro ws
    induction ws with
    | nil => exact fun _ hs => hs
    | cons w ws ih =>
      exact fun hws hs => ih (fun w' hw' => hws w' (List.mem_cons_of_mem w hw'))
        (hQ w _ (hws w List.mem_cons_self) hs)
  induction p generalizing l s with
  | ret a => exact hs
  | fail e => exact hs
  | read k ih => exact ih _ (hp.of_read _) hl hs
  | start k ih => exact ih hp.of_start hl hs
  | lock r k ih => exact ih _ (hp.of_lock _) hl hs
  | write w k ih =>
    refine ih hp.of_write.2 (fun w' hw' => ?_) hs
    rcases List.mem_append.mp hw' with hw' | hw'
    · exact hl w' hw'
    · rw [List.mem_singleton.mp hw']; exact hp.of_write.1
  | commit k ih => exact ih hp.of_commit (fun _ hw => by cases hw) (hview hl hs)
  | rollback k ih => exact ih hp.of_rollback (fun _ hw => by cases hw) hs

/-- A program that keeps the pact of the part keeps that of the whole. -/
theorem Among.within [Store σ V W] [Store τ V' W'] {P : Part σ V W τ V' W'} (hP : P.Lawful)
    {X : Pact σ ε α κ} {Y : Pact τ ε α κ} (hXY : P.Carries X Y) {q : κ}
    {p : Program τ V' W' ε α} {ws : List W'} {ls : List R'} {s : σ}
    (h : p.Among Y q ws ls (P.proj s)) :
    (p.within P).Among X q (ws.map P.statement) (ls.map P.resource) s := by
  induction p generalizing ws ls s with
  | ret a => exact hXY.answers h
  | fail e => exact hXY.answers h
  | read k ih =>
    intro t ht
    change ((k (P.proj (published (ws.map P.statement) t))).within P).Among X q _ _ t
    rw [hP.published]
    exact ih _ (h (P.proj t) (hXY.follows hP ht))
  | start k ih => exact ih h
  | lock r k ih =>
    intro t ht
    change ((k (P.content r (Store.get (published (ws.map P.statement) t) (P.resource r)))).within
      P).Among X q _ _ t
    rw [hP.get, hP.published]
    exact ih _ (h (P.proj t) (hXY.follows hP ht))
  | write w k ih =>
    constructor
    · intro r ht
      obtain ⟨r', rfl, ht'⟩ := hP.touches w r ht
      exact List.mem_map_of_mem (h.1 r' ht')
    · have hrest := ih h.2
      rw [List.map_append] at hrest
      exact hrest
  | commit k ih =>
    intro t ht
    obtain ⟨hguar, hrest⟩ := h (P.proj t) (hXY.follows hP ht)
    rw [← hP.published ws t] at hrest
    exact ⟨hXY.guar ht.inv hguar, ih hrest⟩
  | rollback k ih => exact ih h

end Program
end Txn
