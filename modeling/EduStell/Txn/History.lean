/-
  The history of a run: its commits, in order.

  `System.history` lists every commit of a run with the slot and the request that made it, the
  session that was published and the committed state that it found.  The committed state of a run is
  its start with these sessions applied one after another, so a statement about all commits is an
  induction over this list.

  What ONE request commits, and what it answers after it, is read off its program alone: `Follows X`
  says that whichever rows the statements of a program meet, the transactions that it commits are
  allowed by `X.ok` and its answer by `X.answers`.  `follows_run` carries that over to every
  interleaving.  It is how all-or-nothing and "at most one transaction of this kind" are stated for a
  request that has several transactions, or none.

  The two parts meet in `follows_run`: the commits of one slot in the history of a run are allowed
  by the script of its request, one after another, and its answer fits them.
-/
import EduStell.Txn.Interleave

namespace Txn

variable {σ R : Type} {V : R → Type} {W ε ε' α β κ ι : Type}

/-! ## Commits

  The session of a commit is recorded as it was when it published, its snapshots included, so the
  stale read behind a commit can be compared with the state that the commit found. -/

/-- A commit of a run. -/
structure Committed (σ R W κ ι : Type) where
  slot : ι
  request : κ
  /-- The session as it published, with its snapshots. -/
  session : Session σ R W
  /-- The committed state that the COMMIT found. -/
  state : σ

namespace System

/-- The commit that an event makes. -/
def commitOf (S : System σ V W ε α κ ι) : Event κ ι → Option (Committed σ R W κ ι)
  | .call _ _ => none
  | .drop _ => none
  | .step i =>
    match S.slots i with
    | .running q (.commit _) l => some ⟨i, q, l, S.db⟩
    | _ => none

variable [DecidableEq ι] [DecidableEq R] [Store σ V W]

/-- The commits of a run, the first one first. -/
def history (prog : κ → Program σ V W ε α) :
    System σ V W ε α κ ι → List (Event κ ι) → List (Committed σ R W κ ι)
  | _, [] => []
  | S, e :: es => (S.commitOf e).toList ++ history prog (S.next prog e) es

variable {prog : κ → Program σ V W ε α} {S : System σ V W ε α κ ι}

/-- The last event adds its own commit, if it makes one. -/
theorem history_snoc (es : List (Event κ ι)) (e : Event κ ι) :
    S.history prog (es ++ [e]) = S.history prog es ++ ((S.run prog es).commitOf e).toList := by
  induction es generalizing S with
  | nil => simp [history]
  | cons d es ih =>
    rw [List.cons_append, history, ih, history, List.append_assoc]; rfl

/-- The history of a longer run starts with the history of its beginning. -/
theorem history_append (es fs : List (Event κ ι)) :
    S.history prog (es ++ fs) = S.history prog es ++ (S.run prog es).history prog fs := by
  induction es generalizing S with
  | nil => rfl
  | cons e es ih =>
    rw [List.cons_append, history, ih, history, List.append_assoc]; rfl

/-- A commit of the history is made by one event. -/
theorem mem_history {es : List (Event κ ι)} {c : Committed σ R W κ ι} :
    c ∈ S.history prog es ↔
      ∃ pre e post, es = pre ++ e :: post ∧ (S.run prog pre).commitOf e = some c := by
  induction es using List.reverseRecOn with
  | nil => simp [history]
  | append_singleton es e ih =>
    rw [history_snoc, List.mem_append, ih, Option.mem_toList]
    constructor
    · rintro (⟨pre, d, post, rfl, hc⟩ | hc)
      · exact ⟨pre, d, post ++ [e], by simp, hc⟩
      · exact ⟨es, e, [], rfl, hc⟩
    · rintro ⟨pre, d, post, hes, hc⟩
      rcases split_snoc hes with ⟨rfl, rfl⟩ | ⟨post', hes'⟩
      · exact .inr hc
      · exact .inl ⟨pre, d, post', hes', hc⟩

/-- An event that makes no commit leaves the committed state alone. -/
theorem db_next_none {e : Event κ ι} (h : S.commitOf e = none) : (S.next prog e).db = S.db := by
  rcases db_next prog S e with hsame | ⟨i, q, k, l, rfl, hslot, -⟩
  · exact hsame
  · simp only [commitOf, hslot] at h
    cases h

variable (prog) in
/-- A commit publishes what its session sees. -/
theorem db_next_some {e : Event κ ι} {c : Committed σ R W κ ι} (h : S.commitOf e = some c) :
    c.state = S.db ∧ (S.next prog e).db = c.session.view c.state := by
  cases e with
  | call i q => cases h
  | drop i => cases h
  | step i =>
    simp only [commitOf] at h
    split at h
    · rename_i q k l hslot
      cases h
      refine ⟨rfl, ?_⟩
      simp only [next, hslot, advance]; rfl
    · cases h

omit [DecidableEq ι] [DecidableEq R] [Store σ V W] in
/-- Who makes the commit. -/
theorem slot_of_commitOf {e : Event κ ι} {c : Committed σ R W κ ι} (h : S.commitOf e = some c) :
    e = .step c.slot ∧ ∃ k, S.slots c.slot = .running c.request (.commit k) c.session := by
  cases e with
  | call i q => cases h
  | drop i => cases h
  | step i =>
    simp only [commitOf] at h
    split at h
    · rename_i q k l hslot
      cases h
      exact ⟨rfl, k, hslot⟩
    · cases h

/-- The last event of a run adds nothing to its history, or one commit that publishes its session. -/
theorem snoc_cases (prog : κ → Program σ V W ε α) (S : System σ V W ε α κ ι)
    (es : List (Event κ ι)) (e : Event κ ι) :
    ((S.run prog (es ++ [e])).db = (S.run prog es).db ∧
      S.history prog (es ++ [e]) = S.history prog es) ∨
    ∃ c k, e = .step c.slot ∧
      (S.run prog es).slots c.slot = .running c.request (.commit k) c.session ∧
      c.state = (S.run prog es).db ∧
      (S.run prog (es ++ [e])).db = c.session.view c.state ∧
      S.history prog (es ++ [e]) = S.history prog es ++ [c] := by
  rw [run_snoc, history_snoc]
  cases hcommit : (S.run prog es).commitOf e with
  | none => exact .inl ⟨db_next_none hcommit, List.append_nil _⟩
  | some c =>
    obtain ⟨he, k, hslot⟩ := slot_of_commitOf hcommit
    obtain ⟨hstate, hdb⟩ := db_next_some prog hcommit
    exact .inr ⟨c, k, he, hslot, hstate, hdb, rfl⟩

end System

/-! ## What one request commits

  A script is a pair of predicates, one for the next transaction given those already committed,
  one for the answer given all of them.  `Follows` is asked for ALL rows that a read may return,
  so it is a property of the text of a program and not of a run. -/

/-- What a request may commit, transaction by transaction, and what it may answer after it. -/
structure Script (W ε α : Type) where
  /-- Which transactions may be committed, the last one being the one in question. -/
  ok : List (List W) → Prop
  /-- Which answer may be given after the transactions that were committed. -/
  answers : List (List W) → Except ε α → Prop

/-- Nothing is asked. -/
def Script.anything : Script W ε α := ⟨fun _ => True, fun _ _ => True⟩

namespace Program

/-- Whatever its statements meet, the rest of a program keeps to the script: it has committed `done`,
    and written `ws` since. -/
def Follows (X : Script W ε α) : Program σ V W ε α → List (List W) → List W → Prop
  | .ret a, done, _ => X.answers done (.ok a)
  | .fail e, done, _ => X.answers done (.error e)
  | .read k, done, ws => ∀ s, (k s).Follows X done ws
  | .start k, done, ws => k.Follows X done ws
  | .lock _ k, done, ws => ∀ v, (k v).Follows X done ws
  | .write w k, done, ws => k.Follows X done (ws ++ [w])
  | .commit k, done, ws => X.ok (done ++ [ws]) ∧ k.Follows X (done ++ [ws]) []
  | .rollback k, done, _ => k.Follows X done []

/-- Every program follows the pattern that asks nothing. -/
theorem follows_anything (p : Program σ V W ε α) : ∀ done ws, p.Follows .anything done ws := by
  induction p with
  | ret a => exact fun _ _ => trivial
  | fail e => exact fun _ _ => trivial
  | read k ih => exact fun done ws s => ih s done ws
  | start k ih => exact ih
  | lock r k ih => exact fun done ws v => ih v done ws
  | write w k ih => exact fun done ws => ih done (ws ++ [w])
  | commit k ih => exact fun done ws => ⟨trivial, ih _ _⟩
  | rollback k ih => exact fun done ws => ih done []

namespace Follows

variable {X : Script W ε β} {done : List (List W)} {ws : List W}

/-- A plain SELECT commits nothing. -/
theorem select {query : σ → α} {k : α → Program σ V W ε β}
    (h : ∀ s, (k (query s)).Follows X done ws) : (Program.select query >>= k).Follows X done ws := h

/-- `BEGIN` commits nothing. -/
theorem beginTx {k : Unit → Program σ V W ε β} (h : (k ()).Follows X done ws) :
    (Program.beginTx >>= k).Follows X done ws := h

/-- A lock commits nothing. -/
theorem forUpdate {r : R} {k : V r → Program σ V W ε β} (h : ∀ v, (k v).Follows X done ws) :
    (Program.forUpdate r >>= k).Follows X done ws := h

/-- A statement joins the transaction that is open. -/
theorem execute {w : W} {k : Unit → Program σ V W ε β} (h : (k ()).Follows X done (ws ++ [w])) :
    (Program.execute w >>= k).Follows X done ws := h

/-- A commit adds the open transaction to those that are done, and must be allowed there. -/
theorem commitTx {k : Unit → Program σ V W ε β} (hok : X.ok (done ++ [ws]))
    (h : (k ()).Follows X (done ++ [ws]) []) : (Program.commitTx >>= k).Follows X done ws := ⟨hok, h⟩

/-- A guard answers with its error after what is done so far, or the rest goes on. -/
theorem failIf {c : Prop} [Decidable c] {e : ε} {k : Unit → Program σ V W ε β}
    (hfail : X.answers done (.error e)) (h : (k ()).Follows X done ws) :
    (Program.failIf c e >>= k).Follows X done ws := by
  rw [Program.failIf]
  split
  · exact hfail
  · exact h

/-- A missing row answers with its error after what is done so far, or the rest goes on. -/
theorem okOr {o : Option α} {e : ε} {k : α → Program σ V W ε β}
    (hnone : X.answers done (.error e)) (h : ∀ a, (k a).Follows X done ws) :
    (Program.okOr o e >>= k).Follows X done ws := by
  cases o with
  | none => exact hnone
  | some a => exact h a

/-- A failed check answers with its error after what is done so far, or the rest goes on. -/
theorem ofExcept {r : Except ε α} {k : α → Program σ V W ε β}
    (herr : ∀ e, X.answers done (.error e)) (h : ∀ a, (k a).Follows X done ws) :
    (Program.ofExcept r >>= k).Follows X done ws := by
  cases r with
  | error e => exact herr e
  | ok a => exact h a

/-- A script that asks less. -/
theorem mono {Y : Script W ε β} {p : Program σ V W ε β} (h : p.Follows X done ws)
    (hok : ∀ done, X.ok done → Y.ok done)
    (hanswers : ∀ done r, X.answers done r → Y.answers done r) : p.Follows Y done ws := by
  induction p generalizing done ws with
  | ret b => exact hanswers _ _ h
  | fail e => exact hanswers _ _ h
  | read k ih => exact fun s => ih s (h s)
  | start k ih => exact ih h
  | lock r k ih => exact fun v => ih v (h v)
  | write w k ih => exact ih h
  | commit k ih => exact ⟨hok _ h.1, ih h.2⟩
  | rollback k ih => exact ih h

/-- A transaction whose errors are converted. -/
theorem mapError {p : Program σ V W ε' β} {g : ε' → ε}
    (h : p.Follows ⟨X.ok, fun done r => X.answers done (r.mapError g)⟩ done ws) :
    (p.mapError g).Follows X done ws := by
  induction p generalizing done ws with
  | ret a => exact h
  | fail e => exact h
  | read k ih => exact fun s => ih s (h s)
  | start k ih => exact ih h
  | lock r k ih => exact fun v => ih v (h v)
  | write w k ih => exact ih h
  | commit k ih => exact ⟨h.1, ih h.2⟩
  | rollback k ih => exact ih h

/-- A request whose answer is converted. -/
theorem map {p : Program σ V W ε α} {f : α → β}
    (h : p.Follows ⟨X.ok, fun done r => X.answers done (r.map f)⟩ done ws) :
    (f <$> p).Follows X done ws := by
  change (p.bind fun a => ret (f a)).Follows X done ws
  induction p generalizing done ws with
  | ret a => exact h
  | fail e => exact h
  | read k ih => exact fun s => ih s (h s)
  | start k ih => exact ih h
  | lock r k ih => exact fun v => ih v (h v)
  | write w k ih => exact ih h
  | commit k ih => exact ⟨h.1, ih h.2⟩
  | rollback k ih => exact ih h

end Follows
end Program

/-! ## Every run

  `SlotFollows` is the invariant of one slot: its commits so far are a beginning of what its
  script allows, and the rest of its program carries on from there.  Only the slot's own
  statements matter to it, whoever else commits in between. -/

namespace System

/-- The commits of one slot. -/
def commitsOf [DecidableEq ι] (i : ι) (hist : List (Committed σ R W κ ι)) :
    List (Committed σ R W κ ι) :=
  hist.filter fun c => c.slot = i

/-- A slot keeps to the script of its request, `mine` being its commits so far. -/
def SlotFollows (X : κ → Script W ε α) (x : Slot σ V W ε α κ) (mine : List (Committed σ R W κ ι)) :
    Prop :=
  match x with
  | .idle => mine = []
  | .running q p l => (∀ c ∈ mine, c.request = q) ∧ (X q).ok (mine.map (·.session.writes)) ∧
      p.Follows (X q) (mine.map (·.session.writes)) l.writes
  | .finished q r _ => (∀ c ∈ mine, c.request = q) ∧ (X q).ok (mine.map (·.session.writes)) ∧
      (X q).answers (mine.map (·.session.writes)) r
  | .lost q => (∀ c ∈ mine, c.request = q) ∧ (X q).ok (mine.map (·.session.writes))

/-- The commits of a kind are those of one slot and those of the others. -/
theorem length_filter_slot [DecidableEq ι] (p : Committed σ R W κ ι → Bool) (i : ι)
    (hist : List (Committed σ R W κ ι)) :
    (hist.filter p).length = ((commitsOf i hist).filter p).length +
      ((hist.filter fun c => c.slot ≠ i).filter p).length := by
  induction hist with
  | nil => rfl
  | cons c hist ih =>
    by_cases hslot : c.slot = i <;> by_cases hp : p c = true <;>
      simp_all [commitsOf] <;> omega

/-- Two kinds of commits are compared slot by slot. -/
theorem length_filter_le_of_slots [DecidableEq ι] {p q : Committed σ R W κ ι → Bool}
    {hist : List (Committed σ R W κ ι)}
    (h : ∀ i, ((commitsOf i hist).filter p).length ≤ ((commitsOf i hist).filter q).length) :
    (hist.filter p).length ≤ (hist.filter q).length := by
  induction hn : hist.length using Nat.strongRecOn generalizing hist with
  | ind n ih =>
    cases hist with
    | nil => exact Nat.le_refl 0
    | cons c hist =>
      -- the commits of the first one's slot, and the others
      let others := (c :: hist).filter fun d => d.slot ≠ c.slot
      have hshort : others.length < n := by
        have hle : (hist.filter fun d => d.slot ≠ c.slot).length ≤ hist.length :=
          List.length_filter_le _ _
        have hothers : others = hist.filter fun d => d.slot ≠ c.slot := by simp [others]
        rw [hothers, ← hn, List.length_cons]
        omega
      have hrest : (others.filter p).length ≤ (others.filter q).length := by
        refine ih _ hshort (fun i => ?_) rfl
        by_cases hi : i = c.slot
        · have hnone : commitsOf i others = [] := by
            refine List.filter_eq_nil_iff.mpr fun d hd => ?_
            have hne := (List.mem_filter.mp hd).2
            simpa [hi] using hne
          rw [hnone]
          exact Nat.le_refl 0
        · have hsame : commitsOf i others = commitsOf i (c :: hist) := by
            rw [commitsOf, commitsOf, List.filter_filter]
            refine List.filter_congr fun d _ => ?_
            by_cases hd : d.slot = i <;> simp [hd, hi]
          rw [hsame]
          exact h i
      rw [length_filter_slot p c.slot, length_filter_slot q c.slot]
      exact Nat.add_le_add (h c.slot) hrest

variable [DecidableEq ι] [DecidableEq R] [Store σ V W] {prog : κ → Program σ V W ε α}
  {X : κ → Script W ε α} {S : System σ V W ε α κ ι}

/-- One statement of a request that keeps to its script. -/
theorem SlotFollows.advance {i : ι} {q : κ} {p : Program σ V W ε α} {l : Session σ R W}
    (hslot : S.slots i = .running q p l) {mine : List (Committed σ R W κ ι)}
    (h : SlotFollows X (.running q p l) mine) :
    SlotFollows X ((S.advance i q p l).slots i) (mine ++ (S.commitOf (.step i)).toList) := by
  obtain ⟨hrequest, hok, hfollows⟩ := h
  simp only [commitOf, hslot]
  cases p with
  | ret a => simpa [System.advance, set, release, SlotFollows] using ⟨hrequest, hok, hfollows⟩
  | fail e => simpa [System.advance, set, release, SlotFollows] using ⟨hrequest, hok, hfollows⟩
  | read k =>
    have hnext := hfollows (l.view S.db)
    simpa [System.advance, set, SlotFollows] using ⟨hrequest, hok, hnext⟩
  | start k => simpa [System.advance, set, SlotFollows] using ⟨hrequest, hok, hfollows⟩
  | lock r k =>
    simp only [System.advance]
    -- a lock that is taken leaves the slot where it is
    split
    · have hnext := hfollows (Store.get (l.view S.db) r)
      simpa [set, acquire, SlotFollows] using ⟨hrequest, hok, hnext⟩
    · rw [hslot]
      simpa [SlotFollows] using ⟨hrequest, hok, hfollows⟩
  | write w k => simpa [System.advance, set, SlotFollows] using ⟨hrequest, hok, hfollows⟩
  | commit k =>
    -- the only statement that adds to the history
    obtain ⟨hok', hnext⟩ := hfollows
    have hrequest' : ∀ c ∈ mine ++ [⟨i, q, l, S.db⟩], c.request = q := by
      intro c hc
      rcases List.mem_append.mp hc with hc | hc
      · exact hrequest c hc
      · rw [List.mem_singleton.mp hc]
    simp only [System.advance, set, release, if_pos, SlotFollows, Option.toList_some,
      List.map_append, List.map_singleton]
    exact ⟨hrequest', hok', hnext⟩
  | rollback k =>
    simpa [System.advance, set, release, SlotFollows] using ⟨hrequest, hok, hfollows⟩

/-- A statement of one slot is none of the others'. -/
theorem slots_advance_ne {i j : ι} (h : j ≠ i) (q : κ) (p : Program σ V W ε α) (l : Session σ R W) :
    (S.advance i q p l).slots j = S.slots j := by
  cases p with
  | lock r k =>
    simp only [advance]
    split
    · simp [set, acquire, h]
    · rfl
  | _ => simp [advance, set, release, h]

/-- One event. -/
theorem SlotFollows.next (hok : ∀ q, (X q).ok []) (hprog : ∀ q, (prog q).Follows (X q) [] [])
    {hist : List (Committed σ R W κ ι)}
    (h : ∀ j, SlotFollows X (S.slots j) (commitsOf j hist)) (e : Event κ ι) (j : ι) :
    SlotFollows X ((S.next prog e).slots j) (commitsOf j (hist ++ (S.commitOf e).toList)) := by
  have hj := h j
  cases e with
  -- a call and a drop commit nothing
  | call i q =>
    simp only [System.next, commitOf, Option.toList_none, List.append_nil]
    split
    · rename_i hidle
      by_cases hji : j = i
      · subst hji
        have hnone : commitsOf j hist = [] := by rw [hidle] at hj; exact hj
        rw [hnone]
        simpa [set, SlotFollows] using ⟨hok q, hprog q⟩
      · simpa [set, hji] using hj
    · exact hj
  | drop i =>
    simp only [System.next, commitOf, Option.toList_none, List.append_nil]
    split
    · rename_i q p l hslot
      by_cases hji : j = i
      · subst hji
        rw [hslot] at hj
        simpa [set, release, SlotFollows] using ⟨hj.1, hj.2.1⟩
      · simpa [set, release, hji] using hj
    · exact hj
  | step i =>
    by_cases hji : j = i
    · subst hji
      cases hslot : S.slots j with
      | running q p l =>
        have hadvance := SlotFollows.advance hslot (hslot ▸ hj)
        have hmine : commitsOf j (S.commitOf (.step j)).toList = (S.commitOf (.step j)).toList := by
          refine List.filter_eq_self.mpr fun c hc => ?_
          obtain ⟨he, -⟩ := slot_of_commitOf (Option.mem_toList.mp hc)
          cases he
          simp
        simp only [System.next, hslot]
        rw [commitsOf, List.filter_append]
        rw [commitsOf] at hmine hadvance
        rw [hmine]
        exact hadvance
      | idle => simpa [System.next, commitOf, hslot] using hslot ▸ hj
      | finished q r l => simpa [System.next, commitOf, hslot] using hslot ▸ hj
      | lost q => simpa [System.next, commitOf, hslot] using hslot ▸ hj
    · -- a commit of another slot
      have hnone : commitsOf j (S.commitOf (.step i)).toList = [] := by
        refine List.filter_eq_nil_iff.mpr fun c hc => ?_
        obtain ⟨he, -⟩ := slot_of_commitOf (Option.mem_toList.mp hc)
        cases he
        simpa using Ne.symm hji
      have hothers : commitsOf j (hist ++ (S.commitOf (.step i)).toList) = commitsOf j hist := by
        rw [commitsOf] at hnone ⊢
        rw [List.filter_append, hnone, List.append_nil]; rfl
      rw [hothers]
      have hsame : (S.next prog (.step i)).slots j = S.slots j := by
        simp only [System.next]
        split
        · exact slots_advance_ne hji _ _ _
        · rfl
      rw [hsame]
      exact hj

/-- **Every request of a run keeps to its script**: induction on the events. -/
theorem follows_run (hok : ∀ q, (X q).ok []) (hprog : ∀ q, (prog q).Follows (X q) [] []) (s : σ)
    (es : List (Event κ ι)) (i : ι) :
    SlotFollows X (((start s).run prog es).slots i) (commitsOf i ((start s).history prog es)) := by
  induction es using List.reverseRecOn generalizing i with
  | nil => rfl
  | append_singleton es e ih =>
    rw [run_snoc, history_snoc]
    exact SlotFollows.next hok hprog ih e i

/-- Two commits of one slot, one after the other, are two of its commits. -/
theorem two_le_commitsOf {s : σ} {es mid : List (Event κ ι)} (post : List (Event κ ι)) {i : ι}
    {c c' : Committed σ R W κ ι}
    (hc : ((start s).run prog es).commitOf (.step i) = some c)
    (hc' : ((start s).run prog (es ++ .step i :: mid)).commitOf (.step i) = some c') :
    2 ≤ (commitsOf i ((start s).history prog (es ++ .step i :: mid ++ .step i :: post))).length := by
  have hslot : c.slot = i := (Event.step.inj (slot_of_commitOf hc).1).symm
  have hslot' : c'.slot = i := (Event.step.inj (slot_of_commitOf hc').1).symm
  have hmine : commitsOf i [c] = [c] := by simp [commitsOf, hslot]
  have hmine' : commitsOf i [c'] = [c'] := by simp [commitsOf, hslot']
  rw [commitsOf] at hmine hmine'
  rw [history_append, history_append]
  simp only [history, hc, hc', Option.toList_some, commitsOf, List.filter_append, hmine, hmine',
    List.length_append, List.length_singleton]
  omega

/-- A slot with one commit makes it at one place of the run. -/
theorem place_unique {s : σ} {es pre post pre' post' : List (Event κ ι)} {i : ι}
    {c c' : Committed σ R W κ ι} (h : (commitsOf i ((start s).history prog es)).length ≤ 1)
    (hes : es = pre ++ .step i :: post) (hes' : es = pre' ++ .step i :: post')
    (hc : ((start s).run prog pre).commitOf (.step i) = some c)
    (hc' : ((start s).run prog pre').commitOf (.step i) = some c') : pre' = pre := by
  have hsplit : pre ++ .step i :: post = pre' ++ .step i :: post' := hes.symm.trans hes'
  -- one of the two prefixes is the longer one; if they differ, the shorter one's commit is a
  -- second one of the same slot
  rcases List.append_eq_append_iff.mp hsplit with ⟨mid, hpre, hrest⟩ | ⟨mid, hpre, hrest⟩
  · cases mid with
    | nil => rw [hpre, List.append_nil]
    | cons e mid =>
      obtain ⟨rfl, -⟩ := List.cons.inj hrest
      subst hpre
      have htwo := two_le_commitsOf post' hc hc'
      rw [← hes'] at htwo
      omega
  · cases mid with
    | nil => rw [hpre, List.append_nil]
    | cons e mid =>
      obtain ⟨rfl, -⟩ := List.cons.inj hrest
      subst hpre
      have htwo := two_le_commitsOf post hc' hc
      rw [← hes] at htwo
      omega

omit [DecidableEq ι] [DecidableEq R] [Store σ V W] in
/-- The commits of a slot are those of one request, and by its script. -/
theorem SlotFollows.commits {x : Slot σ V W ε α κ} {mine : List (Committed σ R W κ ι)}
    (h : SlotFollows X x mine) : mine = [] ∨ ∃ q, (∀ c ∈ mine, c.request = q) ∧
      (X q).ok (mine.map (·.session.writes)) := by
  cases x with
  | idle => exact .inl h
  | running q p l => exact .inr ⟨q, h.1, h.2.1⟩
  | finished q r l => exact .inr ⟨q, h.1, h.2.1⟩
  | lost q => exact .inr ⟨q, h.1, h.2⟩

/-- A slot without a commit has changed nothing. -/
theorem quiet_of_commitsOf {s : σ} {es : List (Event κ ι)} {i : ι}
    (h : commitsOf i ((start s).history prog es) = []) (pre post : List (Event κ ι))
    (hes : es = pre ++ .step i :: post) :
    ((start s).run prog (pre ++ [.step i])).db = ((start s).run prog pre).db := by
  rw [run_snoc]
  cases hc : ((start s).run prog pre).commitOf (.step i) with
  | none => exact db_next_none hc
  | some c =>
    have hmem : c ∈ (start s).history prog es := mem_history.mpr ⟨pre, _, post, hes, hc⟩
    obtain ⟨he, -⟩ := slot_of_commitOf hc
    have hslot : c.slot = i := (Event.step.inj he).symm
    exact absurd hslot (by simpa using List.filter_eq_nil_iff.mp h c hmem)

end System

/-- **Every commit of a run** is by the contract. -/
theorem Contract.history_guar [Store σ V W] [DecidableEq ι] [DecidableEq R]
    {prog : κ → Program σ V W ε α} {E : κ → Session σ R W → σ → α → Prop}
    {N : κ → Session σ R W → σ → Except ε α → Prop} (C : Contract prog E N) {s : σ} (hs : C.inv s)
    {es : List (Event κ ι)} (h : C.Within s es) :
    ∀ c ∈ (System.start s).history prog es, C.guar c.request c.session c.state := by
  intro c hmem
  obtain ⟨pre, e, post, rfl, hc⟩ := System.mem_history.mp hmem
  obtain ⟨rfl, k, hslot⟩ := System.slot_of_commitOf hc
  have hsound := C.sound hs h.prefix
  rw [(System.db_next_some prog hc).1]
  exact (hsound.running _ _ _ _ hslot).commit hsound.inv (h pre _ post rfl _ _ _ hslot)

end Txn
