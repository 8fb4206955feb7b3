/-
  Progress: requests that lock in the order of a rank are all answered, whoever goes next.

  1. **Nobody is stuck** — in an ordered system in which every lock counts, a slot that waits does so
     for a slot whose next row has a greater rank; ranks are bounded, so somebody need not wait.

  2. **Nothing goes on for ever** — a statement that is executed replaces a program by a part of it.
     A program may go on in infinitely many ways, one for each content it may read, so there is no
     bound on the number of statements; but "part of" is well-founded, and so is replacing one
     program of a finite collection by a part of it (`Relation.CutExpand`).

  `Inevitably P S` puts the two together: whichever slots that need not wait go next, a state with
  `P` is reached.
-/
import EduStell.Txn.History
import EduStell.Txn.LockOrder
import Mathlib.Logic.Hydra
import Mathlib.Tactic.Abel

namespace Txn

variable {σ R : Type} {V : R → Type} {W ε ε' α β κ ι : Type} [Store σ V W]

/-! ## Orderly programs

  Orderliness is kept by converting errors and by a looser rule, as the calls of the source need
  it. -/

/-- Converting errors leaves the locks as they are taken. -/
theorem Program.Orderly.mapError {ok : List R → R → Prop} {g : ε' → ε} {Q : α → List R → Prop}
    {p : Program σ V W ε' α} : ∀ {held}, p.Orderly ok Q held → (p.mapError g).Orderly ok Q held := by
  induction p with
  | ret a => exact id
  | fail e => exact fun _ => trivial
  | read k ih => exact fun h s => ih s (h s)
  | start k ih => exact fun h => ih h
  | lock r k ih => exact fun h => ⟨h.1, fun s => ih _ (h.2 s)⟩
  | write w k ih => exact fun h => ⟨h.1, ih h.2⟩
  | commit k ih => exact fun h => ih h
  | rollback k ih => exact fun h => ih h

/-- A looser rule for the locks. -/
theorem Program.Orderly.mono {ok ok' : List R → R → Prop} {Q : α → List R → Prop}
    (hok : ∀ held r, ok held r → ok' held r) {p : Program σ V W ε α} :
    ∀ {held}, p.Orderly ok Q held → p.Orderly ok' Q held := by
  induction p with
  | ret a => exact id
  | fail e => exact fun _ => trivial
  | read k ih => exact fun h s => ih s (h s)
  | start k ih => exact fun h => ih h
  | lock r k ih => exact fun h => ⟨hok _ r h.1, fun s => ih _ (h.2 s)⟩
  | write w k ih => exact fun h => ⟨h.1, ih h.2⟩
  | commit k ih => exact fun h => ih h
  | rollback k ih => exact fun h => ih h

/-! ## Programs end

  `Program.Next p p'` says that `p'` is what is left of `p` after one statement.  It is
  well-founded because a program is: no number bounds the statements, but no program goes on for
  ever. -/

/-- What a program is after one more statement. -/
inductive Program.Next : Program σ V W ε α → Program σ V W ε α → Prop
  | read {k : σ → Program σ V W ε α} (s : σ) : Next (k s) (.read k)
  | start {k : Program σ V W ε α} : Next k (.start k)
  | lock {r : R} {k : V r → Program σ V W ε α} (v : V r) : Next (k v) (.lock r k)
  | write {w : W} {k : Program σ V W ε α} : Next k (.write w k)
  | commit {k : Program σ V W ε α} : Next k (.commit k)
  | rollback {k : Program σ V W ε α} : Next k (.rollback k)

omit [Store σ V W] in
/-- No program goes on for ever: each statement leaves a smaller rest. -/
theorem Program.next_wf : WellFounded (Next (σ := σ) (V := V) (W := W) (ε := ε) (α := α)) := by
  constructor
  intro p
  induction p with
  | ret a => exact ⟨_, fun _ h => by cases h⟩
  | fail e => exact ⟨_, fun _ h => by cases h⟩
  | read k ih => exact ⟨_, fun _ h => by cases h; exact ih _⟩
  | start k ih => exact ⟨_, fun _ h => by cases h; exact ih⟩
  | lock r k ih => exact ⟨_, fun _ h => by cases h; exact ih _⟩
  | write w k ih => exact ⟨_, fun _ h => by cases h; exact ih⟩
  | commit k ih => exact ⟨_, fun _ h => by cases h; exact ih⟩
  | rollback k ih => exact ⟨_, fun _ h => by cases h; exact ih⟩

/-- What a slot still has to send: one program while it is under way. -/
def Slot.todo : Slot σ V W ε α κ → Multiset (Program σ V W ε α)
  | .running _ p _ => {p}
  | _ => 0

namespace System

/-- Slot `i` has a statement to send, and need not wait for a lock. -/
def Runnable (S : System σ V W ε α κ ι) (i : ι) : Prop :=
  ∃ q p l, S.slots i = .running q p l ∧
    ∀ r k, p = .lock r k → S.holder r = none ∨ S.holder r = some i

/-- No request is under way. -/
def Answered (S : System σ V W ε α κ ι) : Prop := ∀ i q p l, S.slots i ≠ .running q p l

variable [DecidableEq ι] [DecidableEq R]

/-- `S'` is `S` after a statement of a slot that need not wait. -/
def Proceeds (prog : κ → Program σ V W ε α) (S' S : System σ V W ε α κ ι) : Prop :=
  ∃ i, S.Runnable i ∧ S' = S.next prog (.step i)

/-- Whichever slots that need not wait go next, a state with `P` is reached. -/
inductive Inevitably (prog : κ → Program σ V W ε α) (P : System σ V W ε α κ ι → Prop) :
    System σ V W ε α κ ι → Prop
  | now {S : System σ V W ε α κ ι} (h : P S) : Inevitably prog P S
  | later {S : System σ V W ε α κ ι} (hmove : ∃ i, S.Runnable i)
    (h : ∀ S', Proceeds prog S' S → Inevitably prog P S') : Inevitably prog P S

variable {prog : κ → Program σ V W ε α} {S : System σ V W ε α κ ι} {i : ι}

/-! ## Nothing goes on for ever

  The work that is left is the finite collection of the programs under way.  A statement replaces
  one of them by a part of it, or removes it, and the collection gets smaller in the order of
  `Relation.CutExpand`. -/

/-- An event of one slot leaves the others. -/
theorem slots_step_ne {j : ι} (h : j ≠ i) : (S.next prog (.step i)).slots j = S.slots j := by
  simp only [next]
  split
  · exact slots_advance_ne h _ _ _
  · rfl

/-- A request under way is under way after its next statement, or has its result. -/
theorem slots_step_self {q : κ} {p : Program σ V W ε α} {l : Session σ R W}
    (h : S.slots i = .running q p l) :
    (∃ p' l', (S.next prog (.step i)).slots i = .running q p' l') ∨
      ∃ r l', (S.next prog (.step i)).slots i = .finished q r l' := by
  have hnext : S.next prog (.step i) = S.advance i q p l := by rw [next, h]
  rw [hnext]
  cases p with
  | ret a => exact .inr ⟨_, _, if_pos rfl⟩
  | fail e => exact .inr ⟨_, _, if_pos rfl⟩
  | lock r k =>
    rw [advance]
    split
    · exact .inl ⟨_, _, if_pos rfl⟩
    · exact .inl ⟨_, _, h⟩
  | read k => exact .inl ⟨_, _, if_pos rfl⟩
  | start k => exact .inl ⟨_, _, if_pos rfl⟩
  | write w k => exact .inl ⟨_, _, if_pos rfl⟩
  | commit k => exact .inl ⟨_, _, if_pos rfl⟩
  | rollback k => exact .inl ⟨_, _, if_pos rfl⟩

/-- What a slot that goes on has left is a part of what it had, or nothing. -/
theorem Runnable.smaller (h : S.Runnable i) : ∃ p, (S.slots i).todo = {p} ∧
    ∀ p' ∈ ((S.next prog (.step i)).slots i).todo, Program.Next p' p := by
  obtain ⟨q, p, l, hslot, hfree⟩ := h
  refine ⟨p, by rw [hslot]; rfl, ?_⟩
  have hnext : S.next prog (.step i) = S.advance i q p l := by rw [next, hslot]
  rw [hnext]
  intro p' hp'
  cases p with
  | ret a => simp [advance, set, Slot.todo] at hp'
  | fail e => simp [advance, set, Slot.todo] at hp'
  | read k =>
    have hp : p' = k (l.view S.db) := by simpa [advance, set, Slot.todo] using hp'
    rw [hp]; exact .read _
  | start k =>
    have hp : p' = k := by simpa [advance, set, Slot.todo] using hp'
    rw [hp]; exact .start
  | lock r k =>
    have hp : p' = k (Store.get (l.view S.db) r) := by
      simpa [advance, set, Slot.todo, hfree r k rfl] using hp'
    rw [hp]; exact .lock _
  | write w k =>
    have hp : p' = k := by simpa [advance, set, Slot.todo] using hp'
    rw [hp]; exact .write
  | commit k =>
    have hp : p' = k := by simpa [advance, set, release, Slot.todo] using hp'
    rw [hp]; exact .commit
  | rollback k =>
    have hp : p' = k := by simpa [advance, set, release, Slot.todo] using hp'
    rw [hp]; exact .rollback

/-- What the slots `is` still have to send. -/
def work (is : List ι) (S : System σ V W ε α κ ι) : Multiset (Program σ V W ε α) :=
  (is.map fun i => (S.slots i).todo).sum

/-- One statement replaces one program by a part of it. -/
theorem work_step {is : List ι} (hnodup : is.Nodup) (hmem : i ∈ is) (h : S.Runnable i) :
    Relation.CutExpand Program.Next (work is (S.next prog (.step i))) (work is S) := by
  obtain ⟨p, hp, hsmaller⟩ : ∃ p, (S.slots i).todo = {p} ∧
      ∀ p' ∈ ((S.next prog (.step i)).slots i).todo, Program.Next p' p := h.smaller
  refine ⟨((S.next prog (.step i)).slots i).todo, p, hsmaller, ?_⟩
  obtain ⟨before, after, rfl⟩ := List.append_of_mem hmem
  have hnotin : i ∉ before ∧ i ∉ after := by
    have hperm := List.nodup_middle.mp hnodup
    have hnot := (List.nodup_cons.mp hperm).1
    exact ⟨fun hb => hnot (List.mem_append_left _ hb), fun ha => hnot (List.mem_append_right _ ha)⟩
  have hsame : ∀ js : List ι, i ∉ js → (js.map fun j => ((S.next prog (.step i)).slots j).todo)
      = js.map fun j => (S.slots j).todo := by
    intro js hjs
    refine List.map_congr_left fun j hj => ?_
    have hne : j ≠ i := fun he => hjs (by rw [← he]; exact hj)
    rw [slots_step_ne hne]
  simp only [work, List.map_append, List.map_cons, List.sum_append, List.sum_cons,
    hsame before hnotin.1, hsame after hnotin.2, hp]
  abel

/-- **No schedule is infinite**, where only finitely many requests are under way. -/
theorem acc_proceeds {is : List ι} (hnodup : is.Nodup) :
    ∀ {S : System σ V W ε α κ ι}, (∀ i q p l, S.slots i = .running q p l → i ∈ is) →
      Acc (Proceeds prog) S := by
  have hwf := InvImage.wf (work (σ := σ) (V := V) (W := W) (ε := ε) (α := α) (κ := κ) is)
    (WellFounded.cutExpand Program.next_wf)
  intro S
  induction S using hwf.induction with
  | _ S ih =>
    intro hall
    refine ⟨S, ?_⟩
    rintro _ ⟨i, hrunnable, rfl⟩
    have hmem : i ∈ is := by
      obtain ⟨q, p, l, hslot, -⟩ := hrunnable
      exact hall i q p l hslot
    refine ih _ (work_step hnodup hmem hrunnable) ?_
    intro j q p l hslot
    by_cases hj : j = i
    · rw [hj]; exact hmem
    · rw [slots_step_ne hj] at hslot
      exact hall j q p l hslot

/-! ## Nobody is stuck

  Take a slot that waits for the row of greatest rank.  Its holder, if it waits as well, waits for
  a row of greater rank: so the holder has a statement to send. -/

omit [DecidableEq ι] [DecidableEq R] in
/-- A slot that is under way and cannot go on waits for another one that is under way. -/
theorem Ordered.waits {ok : κ → List R → R → Prop} (hS : Ordered ok S) {q : κ}
    {p : Program σ V W ε α} {l : Session σ R W} (hslot : S.slots i = .running q p l)
    (hstuck : ¬ S.Runnable i) : ∃ j, WaitsFor (fun _ _ => True) S i j := by
  by_contra hnone
  refine hstuck ⟨q, p, l, hslot, fun r k hp => ?_⟩
  subst hp
  by_contra hheld
  cases hholder : S.holder r with
  | none => exact hheld (.inl hholder)
  | some j =>
    have hne : i ≠ j := by
      rintro rfl
      exact hheld (.inr hholder)
    obtain ⟨q', p', l', hslot', -⟩ := hS.holder r j hholder
    have hneeds : (S.slots i).Needs q r := by rw [hslot]; exact .lock
    exact hnone ⟨j, hne, q, r, hneeds, trivial, hholder, q', p', l', hslot', trivial⟩

omit [DecidableEq ι] [DecidableEq R] in
/-- **Some slot need not wait**: one that waits does so for a slot that is about to lock a row of
    greater rank, and ranks are bounded. -/
theorem Ordered.exists_runnable {rank : R → Nat} {bound : Nat} (hrank : ∀ r, rank r ≤ bound)
    (hS : Ordered (ByRank (fun _ _ => True) rank) S) {q : κ} {p : Program σ V W ε α}
    {l : Session σ R W} (hslot : S.slots i = .running q p l) : ∃ j, S.Runnable j := by
  -- along the slots that wait, what is left below the bound gets smaller
  induction hn : bound - S.nextRank rank i using Nat.strongRecOn generalizing i q p l with
  | _ n ih =>
    by_cases hi : S.Runnable i
    · exact ⟨i, hi⟩
    · obtain ⟨j, hij⟩ := hS.waits hslot hi
      obtain ⟨_, _, _, _, _, q', p', l', hslot', -⟩ := hij.row
      by_cases hj : S.Runnable j
      · exact ⟨j, hj⟩
      · obtain ⟨m, hjm⟩ := hS.waits hslot' hj
        have hlt : S.nextRank rank i < S.nextRank rank j := hij.rank_lt hS hjm
        have hle : S.nextRank rank j ≤ bound := by
          unfold nextRank
          split
          · exact hrank _
          · omega
        exact ih (bound - S.nextRank rank j) (by omega) hslot' rfl

/-! ## Both together

  Finitely many slots have been called in a run, so the collection is finite; somebody can go on
  while anybody is under way; and going on ends.  `Inevitably` is the conclusion for whatever
  schedule. -/

/-- The slots that a run has called. -/
def calledSlots (es : List (Event κ ι)) : List ι :=
  es.filterMap fun e => match e with
    | .call i _ => some i
    | _ => none

omit [DecidableEq ι] in
/-- The calls of a longer run are those before the last event and its own. -/
theorem calledSlots_snoc (es : List (Event κ ι)) (e : Event κ ι) :
    calledSlots (es ++ [e]) = calledSlots es ++ calledSlots [e] := by
  simp [calledSlots]

/-- A slot that is under way was called. -/
theorem mem_calledSlots {s : σ} {es : List (Event κ ι)} :
    ∀ i q p l, ((start s).run prog es).slots i = .running q p l → i ∈ calledSlots es := by
  induction es using List.reverseRecOn with
  | nil =>
    intro i q p l hslot
    cases hslot
  | append_singleton es e ih =>
    intro i q p l hslot
    rw [run_snoc] at hslot
    rw [calledSlots_snoc]
    cases e with
    | call j q' =>
      by_cases hij : i = j
      · rw [hij]
        exact List.mem_append_right _ (by simp [calledSlots])
      · refine List.mem_append_left _ ?_
        simp only [next] at hslot
        split at hslot
        · simp only [set, if_neg hij] at hslot
          exact ih i q p l hslot
        · exact ih i q p l hslot
    | step j =>
      refine List.mem_append_left _ ?_
      by_cases hij : i = j
      · subst hij
        cases hold : ((start s).run prog es).slots i with
        | running q' p' l' => exact ih i q' p' l' hold
        | _ => simp only [next, hold] at hslot; cases hslot
      · rw [slots_step_ne hij] at hslot
        exact ih i q p l hslot
    | drop j =>
      refine List.mem_append_left _ ?_
      simp only [next] at hslot
      split at hslot
      · simp only [set, release] at hslot
        split at hslot
        · cases hslot
        · exact ih i q p l hslot
      · exact ih i q p l hslot

/-- A slot that goes on serves the same request. -/
theorem request_step {q q' : κ} {p p' : Program σ V W ε α} {l l' : Session σ R W}
    (hslot : S.slots i = .running q p l)
    (hslot' : (S.next prog (.step i)).slots i = .running q' p' l') : q' = q := by
  have hnext : S.next prog (.step i) = S.advance i q p l := by rw [next, hslot]
  rw [hnext] at hslot'
  cases p with
  | lock r k =>
    simp only [advance] at hslot'
    split at hslot'
    · simp only [set, if_pos] at hslot'
      cases hslot'; rfl
    · rw [hslot] at hslot'
      cases hslot'; rfl
  | _ =>
    simp only [advance, set, release, if_pos] at hslot'
    cases hslot'
    try rfl

/-- The order of locks that is asked of the requests `good` alone. -/
def RankedIf (good : κ → Prop) (rank : R → Nat) (q : κ) (held : List R) (r : R) : Prop :=
  good q → ByRank (fun _ _ => True) rank q held r

omit [DecidableEq ι] [DecidableEq R] in
/-- Where every request under way is good, the locks are ordered. -/
theorem Ordered.of_good {good : κ → Prop} {rank : R → Nat} (hS : Ordered (RankedIf good rank) S)
    (hgood : ∀ i q p l, S.slots i = .running q p l → good q) :
    Ordered (ByRank (fun _ _ => True) rank) S where
  holder := hS.holder
  holds := hS.holds
  rest i q p l hslot :=
    (hS.rest i q p l hslot).mono fun _ _ hok => hok (hgood i q p l hslot)

/-- **Every run comes to an end**: whichever slots go on, all requests are answered, if those under
    way take their locks in the order of a rank. -/
theorem inevitably_answered {good : κ → Prop} {rank : R → Nat} {bound : Nat}
    (hrank : ∀ r, rank r ≤ bound)
    (hprog : ∀ q, (prog q).Orderly (RankedIf good rank q) (fun _ _ => True) [])
    (s : σ) (es : List (Event κ ι))
    (hgood : ∀ i q p l, ((start s).run prog es).slots i = .running q p l → good q) :
    Inevitably prog Answered ((start s).run prog es) := by
  have hnodup : (calledSlots es).dedup.Nodup := List.nodup_dedup _
  have hacc : Acc (Proceeds prog) ((start s).run prog es) := by
    refine acc_proceeds hnodup fun i q p l hslot => ?_
    exact List.mem_dedup.mpr (mem_calledSlots i q p l hslot)
  have hordered := ordered_run (ι := ι) hprog s es
  generalize (start s).run prog es = S at hacc hordered hgood
  induction hacc with
  | intro S _ ih =>
    by_cases hdone : S.Answered
    · exact .now hdone
    · obtain ⟨i, q, p, l, hslot⟩ : ∃ i q p l, S.slots i = .running q p l := by
        by_contra hnone
        exact hdone fun i q p l hslot => hnone ⟨i, q, p, l, hslot⟩
      have hrunnable := (hordered.of_good hgood).exists_runnable hrank hslot
      refine .later hrunnable fun S' hS' => ih S' hS' ?_ ?_
      · obtain ⟨j, -, rfl⟩ := hS'
        exact hordered.next hprog (.step j)
      · -- a statement brings no new request
        obtain ⟨j, hj, rfl⟩ := hS'
        intro m q' p' l' hslot'
        by_cases hm : m = j
        · subst hm
          obtain ⟨q₀, p₀, l₀, hslot₀, -⟩ := hj
          rw [request_step hslot₀ hslot']
          exact hgood m q₀ p₀ l₀ hslot₀
        · rw [slots_step_ne hm] at hslot'
          exact hgood m q' p' l' hslot'

end System
end Txn
