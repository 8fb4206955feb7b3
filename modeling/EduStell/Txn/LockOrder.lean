/-
  Lock order: programs that take their row locks in the order of a rank never wait in a circle.

  `p.Orderly ok Q held` is read off the program alone, like `WritesOnly`: from a session that holds
  the locks `held`, each further lock is `ok` with those that are held, each statement writes only
  what is locked, and `Q` holds of the answer and of the locks at the end.  What a lock returns is
  the content of the row in some database.

  A slot waits for another one when its next statement needs a row that the other one holds.  Where
  every program takes its locks by increasing rank, what a slot waits for has a smaller rank than
  what the next one waits for (`WaitsFor.rank_lt`), so there is no way round.

  The rules are for the statements of a program; `Ordered` is what they make of a run: the lock
  table and the sessions agree, and the rest of every program is orderly under its locks.
-/
import EduStell.Txn.Interleave
import Mathlib.Logic.Relation

namespace Txn

variable {σ R : Type} {V : R → Type} {W ε α β κ ι : Type} [Store σ V W]

namespace Program

/-! ## Orderly programs

  The judgement follows the statements and carries the list of locks held, so that the next lock
  can be compared with them.  It does not say WHICH content a lock returns: a program that picks
  its next row by what it has read is covered, as long as every choice is `ok`. -/

/-- Every lock is taken when it may be, and every statement writes what is locked. -/
def Orderly (ok : List R → R → Prop) (Q : α → List R → Prop) : Program σ V W ε α → List R → Prop
  | .ret a, held => Q a held
  | .fail _, _ => True
  | .read k, held => ∀ s, (k s).Orderly ok Q held
  | .start k, held => k.Orderly ok Q held
  | .lock r k, held => ok held r ∧ ∀ s : σ, (k (Store.get s r)).Orderly ok Q (r :: held)
  | .write w k, held => (∀ r, Store.touches σ w r → r ∈ held) ∧ k.Orderly ok Q held
  | .commit k, _ => k.Orderly ok Q []
  | .rollback k, _ => k.Orderly ok Q []

namespace Orderly

variable {ok : List R → R → Prop} {Q : β → List R → Prop} {held : List R}

/-- The answer of a program with these locks. -/
theorem pure {b : β} (h : Q b held) : (Pure.pure b : Program σ V W ε β).Orderly ok Q held := h

/-- A part of a program, and what follows it. -/
theorem bind {p : Program σ V W ε α} {k : α → Program σ V W ε β} :
    ∀ {held}, p.Orderly ok (fun a held => (k a).Orderly ok Q held) held →
      (p >>= k).Orderly ok Q held := by
  change ∀ {held}, _ → (p.bind k).Orderly ok Q held
  induction p with
  | ret a => exact id
  | fail e => exact fun _ => trivial
  | read g ih => exact fun h s => ih s (h s)
  | start g ih => exact fun h => ih h
  | lock r g ih => exact fun h => ⟨h.1, fun s => ih _ (h.2 s)⟩
  | write w g ih => exact fun h => ⟨h.1, ih h.2⟩
  | commit g ih => exact fun h => ih h
  | rollback g ih => exact fun h => ih h

/-- An answer that is changed afterwards. -/
theorem map {p : Program σ V W ε α} {f : α → β}
    (h : p.Orderly ok (fun a held => Q (f a) held) held) : (f <$> p).Orderly ok Q held :=
  bind (k := fun a => Pure.pure (f a)) h

/-- A plain SELECT takes no lock. -/
theorem select {query : σ → α} {k : α → Program σ V W ε β}
    (h : ∀ s, (k (query s)).Orderly ok Q held) : (Program.select query >>= k).Orderly ok Q held := h

/-- `BEGIN` takes no lock. -/
theorem beginTx {k : Unit → Program σ V W ε β} (h : (k ()).Orderly ok Q held) :
    (Program.beginTx >>= k).Orderly ok Q held := h

/-- A lock that may be taken now, in front of an orderly rest. -/
theorem forUpdate {r : R} {k : V r → Program σ V W ε β} (hok : ok held r)
    (h : ∀ s : σ, (k (Store.get s r)).Orderly ok Q (r :: held)) :
    (Program.forUpdate r >>= k).Orderly ok Q held := ⟨hok, h⟩

/-- A statement writes what is locked. -/
theorem execute {w : W} {k : Unit → Program σ V W ε β}
    (hw : ∀ r, Store.touches σ w r → r ∈ held) (h : (k ()).Orderly ok Q held) :
    (Program.execute w >>= k).Orderly ok Q held := ⟨hw, h⟩

/-- A commit gives up all locks. -/
theorem commitTx {k : Unit → Program σ V W ε β} (h : (k ()).Orderly ok Q []) :
    (Program.commitTx >>= k).Orderly ok Q held := h

/-- A rollback gives up all locks. -/
theorem rollbackTx {k : Unit → Program σ V W ε β} (h : (k ()).Orderly ok Q []) :
    (Program.rollbackTx >>= k).Orderly ok Q held := h

/-- A guard in front of an orderly rest. -/
theorem failIf {c : Prop} [Decidable c] {e : ε} {k : Unit → Program σ V W ε β}
    (h : ¬ c → (k ()).Orderly ok Q held) : (Program.failIf c e >>= k).Orderly ok Q held := by
  rw [Program.failIf]
  split
  · trivial
  · exact h ‹_›

/-- A missing row ends the program, so only a row that was found has to be considered. -/
theorem okOr {o : Option α} {e : ε} {k : α → Program σ V W ε β}
    (h : ∀ a, o = some a → (k a).Orderly ok Q held) : (Program.okOr o e >>= k).Orderly ok Q held := by
  cases o with
  | none => trivial
  | some a => exact h a rfl

/-- A failed check ends the program. -/
theorem ofExcept {r : Except ε α} {k : α → Program σ V W ε β}
    (h : ∀ a, r = .ok a → (k a).Orderly ok Q held) :
    (Program.ofExcept r >>= k).Orderly ok Q held := by
  cases r with
  | error e => trivial
  | ok a => exact h a rfl

/-- A branch is orderly when both arms are. -/
theorem ite {c : Prop} [Decidable c] {p p' : Program σ V W ε β} (h : p.Orderly ok Q held)
    (h' : p'.Orderly ok Q held) : (if c then p else p').Orderly ok Q held := by
  split
  · exact h
  · exact h'

end Orderly
end Program

namespace System

variable {prog : κ → Program σ V W ε α} {ok : κ → List R → R → Prop}

/-! ## What every run keeps

  The lock table and the sessions agree on who holds what, and the rest of every program is
  orderly for exactly those locks. -/

/-- What is held is held by a session that knows it, and the rest of every program is orderly. -/
structure Ordered (ok : κ → List R → R → Prop) (S : System σ V W ε α κ ι) : Prop where
  /-- A lock is held by a session that is under way and knows of it. -/
  holder : ∀ r i, S.holder r = some i → ∃ q p l, S.slots i = .running q p l ∧ r ∈ l.locks
  /-- What a session knows to be locked is held by its slot. -/
  holds : ∀ i q p l, S.slots i = .running q p l → ∀ r ∈ l.locks, S.holder r = some i
  /-- The rest of its program takes its locks in order. -/
  rest : ∀ i q p l, S.slots i = .running q p l → p.Orderly (ok q) (fun _ _ => True) l.locks

/-- Nobody holds a lock at the start. -/
theorem ordered_start (s : σ) : Ordered ok (start s : System σ V W ε α κ ι) := by
  constructor
  · intro r i h
    cases h
  · intro i q p l h
    cases h
  · intro i q p l h
    cases h

section Step

variable [DecidableEq ι] {S S' : System σ V W ε α κ ι}

omit [DecidableEq ι] in
/-- What a slot under way holds is what its session has locked. -/
theorem Ordered.mine (h : Ordered ok S) {i : ι} {q : κ} {p : Program σ V W ε α} {l : Session σ R W}
    (hslot : S.slots i = .running q p l) (r : R) : S.holder r = some i ↔ r ∈ l.locks := by
  constructor
  · intro hr
    obtain ⟨q', p', l', hslot', hmem⟩ := h.holder r i hr
    cases hslot'.symm.trans hslot
    exact hmem
  · exact h.holds i q p l hslot r

/-- Slot `i` moves on to `x`; the others keep their locks, and it holds those of `x`. -/
theorem Ordered.update (h : Ordered ok S) {i : ι} {x : Slot σ V W ε α κ}
    (hslots : S'.slots = fun j => if j = i then x else S.slots j)
    (hothers : ∀ r j, j ≠ i → (S'.holder r = some j ↔ S.holder r = some j))
    (hmine : ∀ r, S'.holder r = some i ↔ ∃ q p l, x = .running q p l ∧ r ∈ l.locks)
    (hrest : ∀ q p l, x = .running q p l → p.Orderly (ok q) (fun _ _ => True) l.locks) :
    Ordered ok S' := by
  have hself : S'.slots i = x := by rw [hslots]; exact if_pos rfl
  have hother : ∀ j, j ≠ i → S'.slots j = S.slots j := by
    intro j hj
    rw [hslots]; exact if_neg hj
  -- holders, held locks and the rest of the programs, each for the slot `i` and for the others
  constructor
  · intro r j hr
    by_cases hj : j = i
    · subst hj
      rw [hself]
      exact (hmine r).mp hr
    · rw [hother j hj]
      exact h.holder r j ((hothers r j hj).mp hr)
  · intro j q p l hslot r hr
    by_cases hj : j = i
    · subst hj
      exact (hmine r).mpr ⟨q, p, l, hself.symm.trans hslot, hr⟩
    · rw [hother j hj] at hslot
      exact (hothers r j hj).mpr (h.holds j q p l hslot r hr)
  · intro j q p l hslot
    by_cases hj : j = i
    · subst hj
      exact hrest q p l (hself.symm.trans hslot)
    · rw [hother j hj] at hslot
      exact h.rest j q p l hslot

/-- Slot `i` goes on with its program under the locks that it has. -/
theorem Ordered.goOn (h : Ordered ok S) {i : ι} {q : κ} {p p' : Program σ V W ε α}
    {l l' : Session σ R W} (hslot : S.slots i = .running q p l) (hlocks : l'.locks = l.locks)
    (hp : p'.Orderly (ok q) (fun _ _ => True) l.locks) :
    Ordered ok (S.set i (.running q p' l')) := by
  refine h.update rfl (fun _ _ _ => Iff.rfl) ?_ ?_
  · intro r
    show S.holder r = some i ↔ _
    rw [h.mine hslot r, ← hlocks]
    exact ⟨fun hr => ⟨q, p', l', rfl, hr⟩, by rintro ⟨_, _, _, hx, hr⟩; cases hx; exact hr⟩
  · intro _ _ _ hx
    cases hx
    rw [hlocks]
    exact hp

/-- Slot `i` frees its locks, whatever becomes of the database. -/
theorem Ordered.free (h : Ordered ok S) (i : ι) (s : σ) {x : Slot σ V W ε α κ}
    (hx : ∀ q p l, x = .running q p l → l.locks = [] ∧ p.Orderly (ok q) (fun _ _ => True) []) :
    Ordered ok (({ S with db := s } : System σ V W ε α κ ι).release i |>.set i x) := by
  refine h.update rfl ?_ ?_ ?_
  · -- the locks of the others stay
    intro r j hj
    show (if S.holder r = some i then none else S.holder r) = some j ↔ _
    by_cases hr : S.holder r = some i
    · rw [if_pos hr, hr]
      exact iff_of_false (fun he => by cases he) fun he => hj (Option.some.inj he).symm
    · rw [if_neg hr]
  · -- the slot keeps none
    intro r
    show (if S.holder r = some i then none else S.holder r) = some i ↔ _
    refine iff_of_false ?_ ?_
    · intro hr
      split at hr
      · cases hr
      · exact absurd hr ‹_›
    · rintro ⟨q, p, l, hrun, hr⟩
      rw [(hx q p l hrun).1] at hr
      cases hr
  · intro q p l hrun
    obtain ⟨hlocks, hp⟩ := hx q p l hrun
    rw [hlocks]
    exact hp

variable [DecidableEq R]

/-- Slot `i` gets a lock that is free, or has it already. -/
theorem Ordered.lock (h : Ordered ok S) {i : ι} {q : κ} {p p' : Program σ V W ε α}
    {l : Session σ R W} {r : R} (hslot : S.slots i = .running q p l)
    (hfree : S.holder r = none ∨ S.holder r = some i)
    (hp : p'.Orderly (ok q) (fun _ _ => True) (r :: l.locks)) :
    Ordered ok ((S.acquire i r).set i (.running q p' (l.lock r))) := by
  have hholder : ∀ r', ((S.acquire i r).set i (.running q p' (l.lock r))).holder r' =
      if r' = r then some i else S.holder r' := fun _ => rfl
  refine h.update rfl ?_ ?_ ?_
  · intro r' j hj
    rw [hholder]
    by_cases hr : r' = r
    · rw [if_pos hr, hr]
      refine iff_of_false (fun he => hj (Option.some.inj he).symm) fun he => ?_
      -- no one else held it
      rcases hfree with hnone | hown
      · cases he.symm.trans hnone
      · exact hj (Option.some.inj (he.symm.trans hown))
    · rw [if_neg hr]
  · intro r'
    rw [hholder]
    by_cases hr : r' = r
    · rw [if_pos hr, hr]
      exact iff_of_true rfl ⟨q, p', l.lock r, rfl, List.mem_cons_self⟩
    · rw [if_neg hr, h.mine hslot r']
      constructor
      · exact fun hmem => ⟨q, p', l.lock r, rfl, List.mem_cons_of_mem r hmem⟩
      · rintro ⟨_, _, _, hx, hmem⟩
        cases hx
        exact (List.mem_cons.mp hmem).resolve_left hr
  · intro _ _ _ hx
    cases hx
    exact hp

/-- **Every event keeps the system ordered.** -/
theorem Ordered.next (hprog : ∀ q, (prog q).Orderly (ok q) (fun _ _ => True) [])
    (h : Ordered ok S) (e : Event κ ι) : Ordered ok (S.next prog e) := by
  cases e with
  | call i q =>
    rw [System.next]
    cases hslot : S.slots i with
    | idle =>
      refine h.update rfl (fun _ _ _ => Iff.rfl) ?_ ?_
      · intro r
        refine iff_of_false (fun hr => ?_) ?_
        · obtain ⟨_, _, _, hrun, -⟩ := h.holder r i hr
          cases hrun.symm.trans hslot
        · rintro ⟨_, _, _, hx, hr⟩
          cases hx
          cases hr
      · intro _ _ _ hx
        cases hx
        exact hprog q
    | running | finished | lost => exact h
  | drop i =>
    rw [System.next]
    cases hslot : S.slots i with
    | running q p l => exact h.free i S.db fun _ _ _ hx => by cases hx
    | idle | finished | lost => exact h
  | step i =>
    rw [System.next]
    cases hslot : S.slots i with
    | running q p l =>
      have hp := h.rest i q p l hslot
      cases p with
      | ret a => exact h.free i S.db fun _ _ _ hx => by cases hx
      | fail e => exact h.free i S.db fun _ _ _ hx => by cases hx
      | read k => exact h.goOn hslot rfl (hp _)
      | start k => exact h.goOn hslot rfl hp
      | write w k => exact h.goOn hslot rfl hp.2
      -- all locks are given back
      | commit k =>
        refine h.free i (l.view S.db) fun _ _ _ hx => ?_
        cases hx
        exact ⟨rfl, hp⟩
      | rollback k =>
        refine h.free i S.db fun _ _ _ hx => ?_
        cases hx
        exact ⟨rfl, hp⟩
      | lock r k =>
        show Ordered ok (if _ then _ else _)
        split
        · -- only a lock that is free, or its own, is taken
          rename_i hfree
          exact h.lock hslot hfree (hp.2 _)
        · exact h
    | idle | finished | lost => exact h

/-- **Every run of orderly programs is ordered.** -/
theorem ordered_run (hprog : ∀ q, (prog q).Orderly (ok q) (fun _ _ => True) []) (s : σ)
    (es : List (Event κ ι)) : Ordered ok ((System.start s).run prog es) := by
  induction es using List.reverseRecOn with
  | nil => exact ordered_start s
  | append_singleton es e ih =>
    rw [run_snoc]
    exact ih.next hprog e

end Step

end System

/-! ## Waiting

  A cycle of waiting slots needs each of them to hold one row and to need the next.  Along the
  cycle the ranks of the needed rows grow strictly, and they cannot come back to where they began.
  -/

/-- The next statement of the slot needs the row `r`: a lock, or an UPDATE. -/
inductive Slot.Needs : Slot σ V W ε α κ → κ → R → Prop
  | lock {q : κ} {r : R} {k : V r → Program σ V W ε α} {l : Session σ R W} :
    Needs (.running q (.lock r k) l) q r
  | write {q : κ} {r : R} {w : W} {k : Program σ V W ε α} {l : Session σ R W}
    (touches : Store.touches σ w r) : Needs (.running q (.write w k) l) q r

namespace System

variable (counted : κ → R → Prop) (rank : R → Nat)

/-- Slot `i` waits for a row lock that slot `j` holds.  Which of the locks of a request count as row
    locks is up to `counted`. -/
structure WaitsFor (S : System σ V W ε α κ ι) (i j : ι) : Prop where
  other : i ≠ j
  /-- A row that `i` needs next and `j` holds, and which counts for both of them. -/
  row : ∃ q r, (S.slots i).Needs q r ∧ counted q r ∧ S.holder r = some j ∧
    ∃ q' p l, S.slots j = .running q' p l ∧ counted q' r

/-- A row is locked after the rows of smaller rank; one that is held may be locked again. -/
def ByRank (q : κ) (held : List R) (r : R) : Prop :=
  counted q r → ∀ r' ∈ held, counted q r' → r' = r ∨ rank r' < rank r

/-- The rank of the row that a slot is about to lock. -/
def nextRank (S : System σ V W ε α κ ι) (i : ι) : Nat :=
  match S.slots i with
  | .running _ (.lock r _) _ => rank r
  | _ => 0

variable {counted rank} {S : System σ V W ε α κ ι} {i j k : ι}

/-- A slot that waits is about to lock a row that the other one has locked: an UPDATE never waits. -/
theorem WaitsFor.locks (hS : Ordered (ByRank counted rank) S) (h : WaitsFor counted S i j) :
    ∃ q r next l, S.slots i = .running q (.lock r next) l ∧ counted q r ∧ S.holder r = some j ∧
      ∃ q' p l', S.slots j = .running q' p l' ∧ counted q' r ∧ r ∈ l'.locks := by
  obtain ⟨q, r, hneeds, hcounted, hholder, q', p, l', hrun, hcounted'⟩ := h.row
  have hmem : r ∈ l'.locks := (hS.mine hrun r).mp hholder
  generalize hslot : S.slots i = x at hneeds
  cases hneeds with
  | lock => exact ⟨q, r, _, _, rfl, hcounted, hholder, q', p, l', hrun, hcounted', hmem⟩
  | write htouches =>
    have hown := hS.holds i q _ _ hslot r ((hS.rest i q _ _ hslot).1 r htouches)
    exact absurd (Option.some.inj (hown.symm.trans hholder)) h.other

/-- **What a slot waits for ranks below what the next one waits for.** -/
theorem WaitsFor.rank_lt (hS : Ordered (ByRank counted rank) S) (hij : WaitsFor counted S i j)
    (hjk : WaitsFor counted S j k) : S.nextRank rank i < S.nextRank rank j := by
  obtain ⟨q, r, next, l, hi, -, hholder, q', p, l', hrun, hcounted, hmem⟩ := hij.locks hS
  obtain ⟨q₂, r₂, next₂, l₂, hj, hcounted₂, hholder₂, -⟩ := hjk.locks hS
  cases hrun.symm.trans hj
  have hi' : S.nextRank rank i = rank r := by rw [nextRank, hi]
  have hj' : S.nextRank rank j = rank r₂ := by rw [nextRank, hj]
  rw [hi', hj']
  rcases (hS.rest j _ _ _ hj).1 hcounted₂ r hmem hcounted with rfl | hlt
  · -- the row that `j` has locked is not one that it waits for
    exact absurd (Option.some.inj (hholder.symm.trans hholder₂)) hjk.other
  · exact hlt

/-- Along a chain of waiting slots the ranks go up. -/
theorem rank_lt_of_chain (hS : Ordered (ByRank counted rank) S)
    (h : Relation.TransGen (WaitsFor counted S) i j) :
    ∀ {k}, WaitsFor counted S j k → S.nextRank rank i < S.nextRank rank j := by
  induction h with
  | single hij => exact fun hjk => hij.rank_lt hS hjk
  | tail _ hbc ih => exact fun hck => Nat.lt_trans (ih hbc) (hbc.rank_lt hS hck)

/-- **In an ordered system, no slot waits for itself through others.** -/
theorem Ordered.no_cycle (hS : Ordered (ByRank counted rank) S) (i : ι) :
    ¬ Relation.TransGen (WaitsFor counted S) i i := by
  intro h
  obtain ⟨j, hij, -⟩ := Relation.TransGen.head'_iff.mp h
  exact Nat.lt_irrefl _ (rank_lt_of_chain hS h hij)

end System

end Txn
