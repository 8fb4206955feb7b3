/-
  Interleavings: any number of database programs, statement by statement, under row locks.

  A `System` is a committed database, a table of slots in each of which one request is served, and
  the lock table.  An `Event` is one thing that happens next: a request arrives, the request in a
  slot executes its next statement (or waits, when that statement needs a lock another session
  holds), or the connection of a slot is lost.  A run is a list of events, so a property of every
  interleaving is a property of every list.

  The main theorem is `Contract.sound`: what `wp` demands of each program in isolation holds of
  every run.  The invariant behind it (`Live`) is the one of two-phase locking: a session's view of
  the resources it has locked is determined by the CURRENT committed state, because whoever commits
  in between has written only what it had locked itself.

  The proof goes in three steps.

  1. What one event can do to the committed state: nothing, unless it is a COMMIT (`db_next`).
  2. What it can do to a slot that is under way: `Live` is kept by its own statements, one lemma
     for each kind of statement, and by everybody else's (`Live.mono`).
  3. Both together for one event (`Sound.next`), and by induction for a run (`sound`).
-/
import EduStell.Txn.Outcomes
import Mathlib.Data.List.Induction

namespace Txn

variable {σ R : Type} {V : R → Type} {W ε α κ ι : Type}

/-- What a slot is doing. -/
inductive Slot (σ : Type) {R : Type} (V : R → Type) (W ε α κ : Type) : Type
  | idle
  | running (q : κ) (p : Program σ V W ε α) (l : Session σ R W)
  | finished (q : κ) (r : Except ε α) (l : Session σ R W)
  | lost (q : κ)

/-- A database that serves several requests at once: the committed state, the slots in which
    requests run, and who holds which lock. -/
structure System (σ : Type) {R : Type} (V : R → Type) (W ε α κ ι : Type) : Type where
  db : σ
  slots : ι → Slot σ V W ε α κ
  holder : R → Option ι

/-- What can happen next. -/
inductive Event (κ ι : Type) : Type
  | call (i : ι) (q : κ)
  | step (i : ι)
  | drop (i : ι)

namespace System

/-- A committed database and no request under way. -/
def start (s : σ) : System σ V W ε α κ ι := ⟨s, fun _ => .idle, fun _ => none⟩

variable [DecidableEq ι]

/-- The system with another content of one slot. -/
def set (S : System σ V W ε α κ ι) (i : ι) (x : Slot σ V W ε α κ) : System σ V W ε α κ ι :=
  { S with slots := fun j => if j = i then x else S.slots j }

/-- Free every lock of slot `i`. -/
def release (S : System σ V W ε α κ ι) (i : ι) : System σ V W ε α κ ι :=
  { S with holder := fun r => if S.holder r = some i then none else S.holder r }

variable [DecidableEq R]

/-- The system after slot `i` was granted the lock of `r`. -/
def acquire (S : System σ V W ε α κ ι) (i : ι) (r : R) : System σ V W ε α κ ι :=
  { S with holder := fun r' => if r' = r then some i else S.holder r' }

variable [Store σ V W]

/-- Slot `i` executes the next statement of its program. -/
def advance (S : System σ V W ε α κ ι) (i : ι) (q : κ) :
    Program σ V W ε α → Session σ R W → System σ V W ε α κ ι
  | .ret a, l => (S.release i).set i (.finished q (.ok a) l)
  | .fail e, l => (S.release i).set i (.finished q (.error e) l)
  | .read k, l => S.set i (.running q (k (l.view S.db)) (l.saw S.db))
  | .start k, l => S.set i (.running q k l.begun)
  | .lock r k, l =>
    if S.holder r = none ∨ S.holder r = some i then
      (S.acquire i r).set i (.running q (k (Store.get (l.view S.db) r)) (l.lock r))
    else S
  | .write w k, l => S.set i (.running q k (l.write w))
  | .commit k, l => ({ S with db := l.view S.db }.release i).set i (.running q k l.ended)
  | .rollback k, l => (S.release i).set i (.running q k l.ended)

/-- One event; a call of a slot that is in use, and a step of one that is not running, do nothing. -/
def next (prog : κ → Program σ V W ε α) (S : System σ V W ε α κ ι) :
    Event κ ι → System σ V W ε α κ ι
  | .call i q =>
    match S.slots i with
    | .idle => S.set i (.running q (prog q) Session.init)
    | _ => S
  | .step i =>
    match S.slots i with
    | .running q p l => S.advance i q p l
    | _ => S
  | .drop i =>
    match S.slots i with
    | .running q _ _ => (S.release i).set i (.lost q)
    | _ => S

/-- A run. -/
def run (prog : κ → Program σ V W ε α) (S : System σ V W ε α κ ι) (es : List (Event κ ι)) :
    System σ V W ε α κ ι :=
  es.foldl (next prog) S

/-- Without an event nothing changes. -/
@[simp] theorem run_nil (prog : κ → Program σ V W ε α) (S : System σ V W ε α κ ι) :
    S.run prog [] = S := rfl

/-- The last event comes after the others. -/
@[simp] theorem run_snoc (prog : κ → Program σ V W ε α) (S : System σ V W ε α κ ι)
    (es : List (Event κ ι)) (e : Event κ ι) :
    S.run prog (es ++ [e]) = (S.run prog es).next prog e := by
  simp [run]

/-- Every event of the run meets `ok` in the state in which it happens. -/
def Meets (prog : κ → Program σ V W ε α) (ok : Event κ ι → System σ V W ε α κ ι → Prop)
    (S : System σ V W ε α κ ι) (es : List (Event κ ι)) : Prop :=
  ∀ pre e post, es = pre ++ e :: post → ok e (S.run prog pre)

/-- A run that meets a condition met it before its last event, and at that event. -/
theorem Meets.snoc {prog : κ → Program σ V W ε α} {ok : Event κ ι → System σ V W ε α κ ι → Prop}
    {S : System σ V W ε α κ ι} {es : List (Event κ ι)} {e : Event κ ι}
    (h : Meets prog ok S (es ++ [e])) : Meets prog ok S es ∧ ok e (S.run prog es) :=
  ⟨fun pre e' post he => h pre e' (post ++ [e]) (by rw [he]; simp), h es e [] rfl⟩

/-- So did each beginning of the run. -/
theorem Meets.prefix {prog : κ → Program σ V W ε α} {ok : Event κ ι → System σ V W ε α κ ι → Prop}
    {S : System σ V W ε α κ ι} {es fs : List (Event κ ι)} (h : Meets prog ok S (es ++ fs)) :
    Meets prog ok S es :=
  fun pre e post he => h pre e (post ++ fs) (by rw [he]; simp)

/-- The first event meets the condition, and the rest of the run does. -/
theorem meets_cons {prog : κ → Program σ V W ε α} {ok : Event κ ι → System σ V W ε α κ ι → Prop}
    {S : System σ V W ε α κ ι} {e : Event κ ι} {es : List (Event κ ι)} :
    Meets prog ok S (e :: es) ↔ ok e S ∧ Meets prog ok (S.next prog e) es := by
  constructor
  · exact fun h => ⟨h [] e es rfl, fun pre e' post he => h (e :: pre) e' post (by rw [he]; rfl)⟩
  · rintro ⟨he, h⟩ pre e' post hsplit
    cases pre with
    | nil => cases hsplit; exact he
    | cons d pre =>
      obtain ⟨rfl, hes⟩ := List.cons.inj hsplit
      exact h pre e' post hes

/-- Whether a run meets a condition can be decided event by event. -/
instance decidableMeets (prog : κ → Program σ V W ε α)
    (ok : Event κ ι → System σ V W ε α κ ι → Prop) [∀ e S, Decidable (ok e S)] :
    (S : System σ V W ε α κ ι) → (es : List (Event κ ι)) → Decidable (Meets prog ok S es)
  | _, [] => .isTrue fun pre e post h => by simp at h
  | S, e :: es =>
    have := decidableMeets prog ok (S.next prog e) es
    decidable_of_iff (ok e S ∧ Meets prog ok (S.next prog e) es) meets_cons.symm

/-- The events of a run in which only requests in `arrivals` arrive and a session takes a step only
    where `cond` holds of it and of the committed state. -/
def allows (arrivals : κ → Prop) (cond : κ → Session σ R W → σ → Prop) :
    Event κ ι → System σ V W ε α κ ι → Prop
  | .call _ q, _ => arrivals q
  | .step i, S => ∀ q p l, S.slots i = .running q p l → cond q l S.db
  | .drop _, _ => True

/-- Whether an event is allowed can be decided. -/
instance (arrivals : κ → Prop) [DecidablePred arrivals] (cond : κ → Session σ R W → σ → Prop)
    [∀ q l s, Decidable (cond q l s)] (e : Event κ ι) (S : System σ V W ε α κ ι) :
    Decidable (allows arrivals cond e S) :=
  match e with
  | .call _ q => inferInstanceAs (Decidable (arrivals q))
  | .drop _ => .isTrue trivial
  | .step i =>
    match h : S.slots i with
    | .running q p l => decidable_of_iff (cond q l S.db)
      ⟨fun hc q' p' l' h' => by rw [h] at h'; cases h'; exact hc, fun hs => hs q p l h⟩
    | .idle => .isTrue fun _ _ _ h' => by cases h.symm.trans h'
    | .finished _ _ _ => .isTrue fun _ _ _ h' => by cases h.symm.trans h'
    | .lost _ => .isTrue fun _ _ _ h' => by cases h.symm.trans h'

/-- Where everything is admitted, every run qualifies. -/
theorem meets_allows {prog : κ → Program σ V W ε α} {arrivals : κ → Prop}
    {cond : κ → Session σ R W → σ → Prop} (harrival : ∀ q, arrivals q) (hcond : ∀ q l s, cond q l s)
    (S : System σ V W ε α κ ι) (es : List (Event κ ι)) : Meets prog (allows arrivals cond) S es := by
  intro pre e post _
  cases e with
  | call i q => exact harrival q
  | step i => exact fun q p l _ => hcond q l _
  | drop i => trivial

/-! ## What one event changes

  Every other event moves a slot or the lock table and leaves the committed database alone, so an
  invariant of the committed states has to be looked at where a COMMIT is executed, and nowhere
  else. -/

/-- Only a COMMIT changes the committed database, to the view of the session that commits. -/
theorem db_next (prog : κ → Program σ V W ε α) (S : System σ V W ε α κ ι) (e : Event κ ι) :
    (S.next prog e).db = S.db ∨ ∃ i q k l, e = .step i ∧ S.slots i = .running q (.commit k) l ∧
      (S.next prog e).db = l.view S.db := by
  cases e with
  | call i q => left; simp only [next]; split <;> rfl
  | drop i => left; simp only [next]; split <;> rfl
  | step i =>
    simp only [next]
    split
    · rename_i q p l hrun
      cases p with
      | commit k => exact Or.inr ⟨i, q, k, l, rfl, hrun, rfl⟩
      | lock r k => left; simp only [advance]; split <;> rfl
      | ret a => exact Or.inl rfl
      | fail e => exact Or.inl rfl
      | read k => exact Or.inl rfl
      | start k => exact Or.inl rfl
      | write w k => exact Or.inl rfl
      | rollback k => exact Or.inl rfl
    · exact Or.inl rfl

end System

/-! ## Contracts: what every run of a family of requests guarantees

  A contract names the admitted requests, an invariant `inv` and a relation `rely` of the
  committed states, and for each request what its commit and its answer may be.  To use it, one
  gives the ends of each program alone, and proves that what they promise keeps `inv` and `rely`.

  The invariant of a run is `Sound`: every slot that is under way holds its locks, has written
  nothing else, and is `wp`-correct in EVERY state that agrees with the present one on these
  locks.  The last clause is what survives the commits of the others. -/

/-- A family of requests with their outcomes, and what is to be shown of every run of them:
    `inv` of every committed state, `rely` between an earlier and a later one, `post` of every
    answer and the committed state from then on, given that only requests in `arrivals` arrive and
    that a session takes a step only where `cond` holds.  The fields `keep`, `postN` and `postE` are
    the proof obligations, one commit or one answer each. -/
structure Contract [Store σ V W] (prog : κ → Program σ V W ε α)
    (E : κ → Session σ R W → σ → α → Prop) (N : κ → Session σ R W → σ → Except ε α → Prop) where
  /-- The ends of each program, read off its text. -/
  outcomes : ∀ q, Outcomes (prog q) (E q) (N q)
  /-- What holds of every committed state. -/
  inv : σ → Prop
  /-- How one committed state may follow another. -/
  rely : σ → σ → Prop
  /-- The requests that may arrive. -/
  arrivals : κ → Prop
  /-- The condition on a step: it may look at the session and at the state in which the step is
      taken. -/
  cond : κ → Session σ R W → σ → Prop
  /-- What is promised of an answer, in the state in which it is given and in every later one. -/
  post : κ → Except ε α → Session σ R W → σ → Prop := fun _ _ _ _ => True
  refl : ∀ s, rely s s
  trans : ∀ {s t u}, rely s t → rely t u → rely s u
  /-- A commit keeps the invariant and moves the state on along `rely`. -/
  keep : ∀ {q l s a}, arrivals q → inv s → (∀ t ∈ l.seen, inv t ∧ rely t s) → E q l s a →
    cond q l s → inv (l.view s) ∧ rely s (l.view s)
  /-- What was promised stays true while the state moves on. -/
  post_stable : ∀ {q r l s t}, rely s t → post q r l s → post q r l t := by intros; trivial
  /-- The promise does not depend on the locks of the session, which are gone by then. -/
  post_ended : ∀ {q r l s}, post q r l s → post q r l.ended s := by intros; trivial
  /-- The promise at an end without a commit. -/
  postN : ∀ {q l s r}, arrivals q → inv s → (∀ t ∈ l.seen, inv t ∧ rely t s) → N q l s r →
    cond q l s → post q r l s := by intros; trivial
  /-- The promise at an end with one. -/
  postE : ∀ {q l s a}, arrivals q → inv s → (∀ t ∈ l.seen, inv t ∧ rely t s) → E q l s a →
    cond q l s → post q (.ok a) l (l.view s) := by intros; trivial

namespace Contract

variable [Store σ V W] {prog : κ → Program σ V W ε α}
  {E : κ → Session σ R W → σ → α → Prop} {N : κ → Session σ R W → σ → Except ε α → Prop}
  (C : Contract prog E N)

/-- What is known of a commit. -/
def guar (q : κ) (l : Session σ R W) (s : σ) : Prop :=
  ∃ a, C.arrivals q ∧ C.inv s ∧ (∀ t ∈ l.seen, C.inv t ∧ C.rely t s) ∧ E q l s a ∧ C.cond q l s

/-- The rules that a session lives under: the contract without its promises. -/
def rules : Rules σ R W κ := ⟨fun s => C.inv s, C.rely, C.cond, C.guar⟩

/-- A request under way: it holds its locks, it has written only what it has locked, and from
    every committed state that may follow without touching its locks the rest of its program is
    right. -/
structure Live (S : System σ V W ε α κ ι) (i : ι) (q : κ) (p : Program σ V W ε α)
    (l : Session σ R W) : Prop where
  /-- The lock table knows the locks of the session. -/
  holds : ∀ r ∈ l.locks, S.holder r = some i
  /-- Nothing is written that is not locked. -/
  owned : ∀ w ∈ l.writes, ∀ r, Store.touches σ w r → r ∈ l.locks
  /-- The rest of the program is right in every state that may come, as long as it agrees with the
      present one on what is locked. -/
  spec : ∀ s, C.inv s → C.rely S.db s → (∀ r ∈ l.locks, Store.get s r = Store.get S.db r) →
    wp C.rules q p (fun r l s => C.cond q l s → C.post q r l s) l s

/-- A state of the system that keeps the contract: the invariant holds of what is committed, each
    request under way is where its judgement says, and each answer is one that was promised. -/
structure Sound (S : System σ V W ε α κ ι) : Prop where
  inv : C.inv S.db
  /-- Each request under way holds its locks and will end right. -/
  running : ∀ i q p l, S.slots i = .running q p l → C.Live S i q p l
  /-- Each answer is as promised. -/
  finished : ∀ i q r l, S.slots i = .finished q r l → C.post q r l S.db

/-- Every admitted request starts right. -/
theorem wp_prog {q : κ} (hq : C.arrivals q) {s : σ} (hs : C.inv s) :
    wp C.rules q (prog q) (fun r l s => C.cond q l s → C.post q r l s) Session.init s := by
  refine (C.outcomes q s).wp C.rules q _ ?_ ?_ ?_
  · intro t ht
    cases ht
  · intro l r hseen hN
    refine ⟨C.postN hq hs hseen hN, ?_⟩
    intro hc s' _ hrely _
    exact C.post_stable hrely (C.post_ended (C.postN hq hs hseen hN hc))
  · intro l a hseen hE hc
    refine ⟨⟨a, hq, hs, hseen, hE, hc⟩, ?_⟩
    intro s' _ hrely _
    exact C.post_stable hrely (C.post_ended (C.postE hq hs hseen hE hc))

/-- The empty system keeps the contract. -/
theorem sound_start {s : σ} (hs : C.inv s) : C.Sound (System.start s : System σ V W ε α κ ι) := by
  constructor
  · exact hs
  · intro i q p l hslot
    cases hslot
  · intro i q r l hslot
    cases hslot

section Step

variable {C} {S : System σ V W ε α κ ι}

/-- A request under way does not notice a step that leaves its locks and their content alone. -/
theorem Live.mono {S' : System σ V W ε α κ ι} {i : ι} {q : κ} {p : Program σ V W ε α}
    {l : Session σ R W} (h : C.Live S i q p l) (hrely : C.rely S.db S'.db)
    (hheld : ∀ r ∈ l.locks, S'.holder r = some i)
    (hget : ∀ r ∈ l.locks, Store.get S'.db r = Store.get S.db r) : C.Live S' i q p l where
  holds := hheld
  owned := h.owned
  spec s hs hs' hl := h.spec s hs (C.trans hrely hs') fun r hr => (hl r hr).trans (hget r hr)

/-- The rest of a program is right in the committed state itself. -/
theorem Live.here {i : ι} {q : κ} {p : Program σ V W ε α} {l : Session σ R W}
    (h : C.Live S i q p l) (hinv : C.inv S.db) :
    wp C.rules q p (fun r l s => C.cond q l s → C.post q r l s) l S.db :=
  h.spec S.db hinv (C.refl _) fun _ _ => rfl

/-- The guarantee of the commit a request is about to execute. -/
theorem Live.commit {i : ι} {q : κ} {k : Program σ V W ε α} {l : Session σ R W}
    (h : C.Live S i q (.commit k) l) (hinv : C.inv S.db) (hc : C.cond q l S.db) :
    C.guar q l S.db :=
  ((h.here hinv) hc).1

/-- A promised commit keeps the invariant and follows its predecessor. -/
theorem guar_keep {q : κ} {l : Session σ R W} {s : σ} (h : C.guar q l s) :
    C.inv (l.view s) ∧ C.rely s (l.view s) := by
  obtain ⟨a, hq, hs, hseen, hE, hc⟩ := h
  exact C.keep hq hs hseen hE hc

variable [DecidableEq ι]

/-- Slot `i` gets new content and everything else stays: enough to look at slot `i`. -/
theorem Sound.set (h : C.Sound S) (i : ι) (x : Slot σ V W ε α κ)
    (hrun : ∀ q p l, x = .running q p l → C.Live (S.set i x) i q p l)
    (hfin : ∀ q r l, x = .finished q r l → C.post q r l S.db) : C.Sound (S.set i x) where
  inv := h.inv
  running j q p l hj := by
    by_cases hji : j = i
    · subst hji
      exact hrun q p l (by simpa [System.set] using hj)
    · have hj' : S.slots j = .running q p l := by simpa [System.set, hji] using hj
      exact (h.running j q p l hj').mono (C.refl _) (h.running j q p l hj').holds fun _ _ => rfl
  finished j q r l hj := by
    by_cases hji : j = i
    · subst hji
      exact hfin q r l (by simpa [System.set] using hj)
    · exact h.finished j q r l (by simpa [System.set, hji] using hj)

/-- Slot `i` frees its locks and moves on to `x`, perhaps after publishing a new committed state
    that agrees with the old one on the locks of all other slots. -/
theorem Sound.settle (h : C.Sound S) (i : ι) (s : σ) (x : Slot σ V W ε α κ)
    (hinv : C.inv s) (hrely : C.rely S.db s)
    (hget : ∀ j, j ≠ i → ∀ r, S.holder r = some j → Store.get s r = Store.get S.db r)
    (hrun : ∀ q p l, x = .running q p l →
      C.Live (({ S with db := s } : System σ V W ε α κ ι).release i |>.set i x) i q p l)
    (hfin : ∀ q r l, x = .finished q r l → C.post q r l s) :
    C.Sound (({ S with db := s } : System σ V W ε α κ ι).release i |>.set i x) where
  inv := hinv
  running j q p l hj := by
    by_cases hji : j = i
    · subst hji
      exact hrun q p l (by simpa [System.set, System.release] using hj)
    · have hj' : S.slots j = .running q p l := by simpa [System.set, System.release, hji] using hj
      have hlive := h.running j q p l hj'
      refine hlive.mono hrely ?_ ?_
      · intro r hr
        have hheld := hlive.holds r hr
        have hne : S.holder r ≠ some i := by
          rw [hheld]
          exact fun he => hji (Option.some.inj he)
        simpa [System.set, System.release, hne] using hheld
      · intro r hr
        exact hget j hji r (hlive.holds r hr)
  finished j q r l hj := by
    by_cases hji : j = i
    · subst hji
      exact hfin q r l (by simpa [System.set, System.release] using hj)
    · exact C.post_stable hrely
        (h.finished j q r l (by simpa [System.set, System.release, hji] using hj))

/-- Slot `i` goes on with its program. -/
theorem Sound.goOn (h : C.Sound S) {i : ι} {q : κ} {p : Program σ V W ε α} {l : Session σ R W}
    (hlive : C.Live (S.set i (.running q p l)) i q p l) : C.Sound (S.set i (.running q p l)) := by
  refine h.set i _ ?_ ?_
  · intro q' p' l' hx
    cases hx
    exact hlive
  · intro q' r' l' hx
    cases hx

/-- Slot `i` answers, and frees its locks. -/
theorem Sound.answer (h : C.Sound S) {i : ι} {q : κ} {r : Except ε α} {l : Session σ R W}
    (hpost : C.post q r l S.db) : C.Sound ((S.release i).set i (.finished q r l)) := by
  refine h.settle i S.db _ h.inv (C.refl _) (fun _ _ _ _ => rfl) ?_ ?_
  · intro q' p' l' hx
    cases hx
  · intro q' r' l' hx
    cases hx
    exact hpost

/-- Slot `i` loses its connection. -/
theorem Sound.lose (h : C.Sound S) (i : ι) (q : κ) : C.Sound ((S.release i).set i (.lost q)) := by
  refine h.settle i S.db _ h.inv (C.refl _) (fun _ _ _ _ => rfl) ?_ ?_
  · intro q' p' l' hx
    cases hx
  · intro q' r' l' hx
    cases hx

/-- Slot `i` ends its transaction and goes on, `s` being the committed state after it. -/
theorem Sound.endTx (h : C.Sound S) {i : ι} {q : κ} {k : Program σ V W ε α} {l : Session σ R W}
    {s : σ} (hinv : C.inv s) (hrely : C.rely S.db s)
    (hget : ∀ j, j ≠ i → ∀ r, S.holder r = some j → Store.get s r = Store.get S.db r)
    (hwp : ∀ s', C.inv s' → C.rely s s' →
      wp C.rules q k (fun r l s => C.cond q l s → C.post q r l s) l.ended s') :
    C.Sound (({ S with db := s } : System σ V W ε α κ ι).release i
      |>.set i (.running q k l.ended)) := by
  refine h.settle i s _ hinv hrely hget ?_ ?_
  · intro q' p' l' hx
    cases hx
    constructor
    · intro r hr
      cases hr
    · intro w hw
      cases hw
    · intro s' hs' hrely' _
      exact hwp s' hs' hrely'
  · intro q' r' l' hx
    cases hx

variable [DecidableEq R]

omit [DecidableEq ι] in
/-- Slot `i` takes a lock that is free, or that it holds already: no other slot loses one. -/
theorem Sound.acquire (h : C.Sound S) {i : ι} {r : R}
    (hfree : S.holder r = none ∨ S.holder r = some i) : C.Sound (S.acquire i r) := by
  refine ⟨h.inv, ?_, h.finished⟩
  intro j q p l hj
  have hlive := h.running j q p l hj
  refine hlive.mono (C.refl _) ?_ fun _ _ => rfl
  intro r' hr'
  have hheld := hlive.holds r' hr'
  simp only [System.acquire]
  split
  · rename_i hrr
    rw [← hrr, hheld] at hfree
    rcases hfree with hnone | hsome
    · cases hnone
    · rw [hsome]
  · exact hheld

/-- A request that has its lock goes on with the content that it finds, which is the content in
    every later state. -/
theorem Live.locked {i : ι} {q : κ} {r : R} {k : V r → Program σ V W ε α} {l : Session σ R W}
    (h : C.Live S i q (.lock r k) l) :
    C.Live ((S.acquire i r).set i (.running q (k (Store.get (l.view S.db) r)) (l.lock r))) i q
      (k (Store.get (l.view S.db) r)) (l.lock r) := by
  have howned : ∀ w ∈ l.writes, ∀ r', Store.touches σ w r' → r' ∈ r :: l.locks := by
    intro w hw r' ht
    exact List.mem_cons_of_mem r (h.owned w hw r' ht)
  constructor
  · intro r' hr'
    simp only [System.set, System.acquire]
    rcases List.mem_cons.mp hr' with rfl | hr'
    · exact if_pos rfl
    · split
      · rfl
      · exact h.holds r' hr'
  · exact howned
  · intro s hs hrely hl
    have hsame : Store.get (l.view s) r = Store.get (l.view S.db) r :=
      Session.get_view_congr (fun r' => r' ∈ r :: l.locks) l.writes s S.db howned hl r
        List.mem_cons_self
    have hspec := h.spec s hs hrely fun r' hr' => hl r' (List.mem_cons_of_mem r hr')
    simp only [wp] at hspec
    rw [← hsame]
    exact hspec

/-- One statement of one request keeps the system sound. -/
theorem Sound.advance (h : C.Sound S) {i : ι} {q : κ} {p : Program σ V W ε α} {l : Session σ R W}
    (hslot : S.slots i = .running q p l) (hc : C.cond q l S.db) :
    C.Sound (S.advance i q p l) := by
  have hlive := h.running i q p l hslot
  have hwp := hlive.here h.inv
  cases p with
  | ret a => exact h.answer (hwp hc)
  | fail e => exact h.answer (hwp hc)
  | read k =>
    refine h.goOn ⟨hlive.holds, hlive.owned, ?_⟩
    intro s hs hrely hl
    exact hlive.spec s hs hrely hl S.db h.inv hrely
  | start k => exact h.goOn ⟨hlive.holds, hlive.owned, hlive.spec⟩
  | write w k =>
    refine h.goOn ⟨hlive.holds, ?_, ?_⟩
    · intro w' hw' r ht
      rcases List.mem_append.mp hw' with hw' | hw'
      · exact hlive.owned w' hw' r ht
      · rw [List.mem_singleton.mp hw'] at ht
        exact hwp.1 r ht
    · intro s hs hrely hl
      exact (hlive.spec s hs hrely hl).2
  | lock r k =>
    simp only [System.advance]
    split
    · rename_i hfree
      exact (h.acquire hfree).goOn hlive.locked
    · exact h
  | commit k =>
    obtain ⟨hinv, hrely⟩ := guar_keep (hlive.commit h.inv hc)
    refine h.endTx hinv hrely ?_ (hwp hc).2
    intro j hji r hr
    -- the session has written only what it holds, and `r` is held by another one
    refine Session.get_view_of_not_touches l.writes S.db ?_
    intro w hw ht
    rw [hlive.holds r (hlive.owned w hw r ht)] at hr
    exact hji (Option.some.inj hr).symm
  | rollback k => exact h.endTx h.inv (C.refl _) (fun _ _ _ _ => rfl) (hwp hc)

/-- **One event** keeps the system sound. -/
theorem Sound.next (h : C.Sound S) {e : Event κ ι} (he : System.allows C.arrivals C.cond e S) :
    C.Sound (S.next prog e) := by
  cases e with
  | call i q =>
    simp only [System.next]
    split
    · refine h.goOn ?_
      constructor
      · intro r hr
        cases hr
      · intro w hw
        cases hw
      · intro s hs _ _
        exact C.wp_prog he hs
    · exact h
  | step i =>
    simp only [System.next]
    split
    · rename_i q p l hslot
      exact h.advance hslot (he q p l hslot)
    · exact h
  | drop i =>
    simp only [System.next]
    split
    · exact h.lose i _
    · exact h

end Step

/-! ## What holds of every run

  From here on nothing is about statements any more: a run is sound, each of its commits is by the
  contract, and each answer is an agreed one. -/

variable [DecidableEq ι] [DecidableEq R]

/-- The runs a contract speaks of. -/
abbrev Within (s : σ) (es : List (Event κ ι)) : Prop :=
  System.Meets prog (System.allows C.arrivals C.cond) (System.start s) es

/-- **Every run is sound**: induction on the events, `Sound.next` at each. -/
theorem sound {s : σ} (hs : C.inv s) {es : List (Event κ ι)} :
    C.Within s es → C.Sound ((System.start s).run prog es) := by
  induction es using List.reverseRecOn with
  | nil => exact fun _ => C.sound_start hs
  | append_singleton es e ih =>
    intro h
    rw [System.run_snoc]
    exact (ih h.snoc.1).next h.snoc.2

/-- A commit of a run: slot `i` publishes, for request `q`, what `E` says. -/
structure Commit (S S' : System σ V W ε α κ ι) (e : Event κ ι) (q : κ) (l : Session σ R W)
    (a : α) : Prop where
  /-- The event is the COMMIT of a slot. -/
  event : ∃ i k, e = .step i ∧ S.slots i = .running q (.commit k) l
  arrivals : C.arrivals q
  inv : C.inv S.db
  /-- The snapshots of the session belong to the run, and the present state follows each of them. -/
  seen : ∀ t ∈ l.seen, C.inv t ∧ C.rely t S.db
  /-- The end that the program was known to have. -/
  effect : E q l S.db a
  cond : C.cond q l S.db
  db : S'.db = l.view S.db

/-- **One event of a run** leaves the committed state alone or is a commit by the contract. -/
theorem db_step {s : σ} (hs : C.inv s) {pre post : List (Event κ ι)} {e : Event κ ι}
    (h : C.Within s (pre ++ e :: post)) :
    ((System.start s).run prog (pre ++ [e])).db = ((System.start s).run prog pre).db ∨
    ∃ q l a,
      C.Commit ((System.start s).run prog pre) ((System.start s).run prog (pre ++ [e])) e q l a := by
  have hsound := C.sound hs h.prefix
  rw [System.run_snoc]
  rcases System.db_next prog ((System.start s).run prog pre) e with
    hsame | ⟨i, q, k, l, rfl, hslot, hdb⟩
  · exact Or.inl hsame
  · obtain ⟨a, hq, hinv, hseen, hE, hc⟩ :=
      (hsound.running i q _ l hslot).commit hsound.inv (h pre _ post rfl q _ l hslot)
    exact Or.inr ⟨q, l, a, ⟨i, k, rfl, hslot⟩, hq, hinv, hseen, hE, hc, hdb⟩

omit [DecidableEq R] in
/-- A request that runs alone keeps the invariant, if a session that has read the present state does
    what the contract asks of it. -/
theorem serve {q : κ} {s : σ} (hq : C.arrivals q) (hcond : ∀ l, (∀ t ∈ l.seen, t = s) → C.cond q l s)
    (hs : C.inv s) : C.inv ((prog q).serve s).2 := by
  rcases (C.outcomes q).serve s with ⟨l, -, -, hdb⟩ | ⟨l, a, hseen, heffect, -, hdb⟩
  · rw [hdb]; exact hs
  · rw [hdb]
    refine (C.keep hq hs (fun t ht => ?_) heffect (hcond l hseen)).1
    rw [hseen t ht]
    exact ⟨hs, C.refl s⟩

/-- The last event of a run takes the committed state along `rely`. -/
theorem rely_step {s : σ} (hs : C.inv s) {es : List (Event κ ι)} {e : Event κ ι}
    (h : C.Within s (es ++ [e])) :
    C.rely ((System.start s).run prog es).db ((System.start s).run prog (es ++ [e])).db := by
  rcases C.db_step hs h with hsame | ⟨q, l, a, hcom⟩
  · rw [hsame]; exact C.refl _
  · rw [hcom.db]; exact (C.keep hcom.arrivals hcom.inv hcom.seen hcom.effect hcom.cond).2

/-- A later committed state of a run follows an earlier one. -/
theorem rely_run {s : σ} (hs : C.inv s) (es : List (Event κ ι)) {fs : List (Event κ ι)} :
    C.Within s (es ++ fs) →
    C.rely ((System.start s).run prog es).db ((System.start s).run prog (es ++ fs)).db := by
  induction fs using List.reverseRecOn with
  | nil => intro _; rw [List.append_nil]; exact C.refl _
  | append_singleton fs e ih =>
    intro h
    rw [← List.append_assoc] at h ⊢
    exact C.trans (ih h.prefix) (C.rely_step hs h)

end Contract
end Txn
