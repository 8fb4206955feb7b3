/-
  Database programs: a service call as the sequence of statements it sends.

  A `Program` is a well-founded tree of statements.  Each statement sees the database as
  READ COMMITTED shows it: the rows committed so far with the session's own writes on top.

  * `read k`     — a plain SELECT: the continuation may ask anything of the snapshot it gets;
  * `start k`    — BEGIN;
  * `lock r k`   — SELECT ... FOR UPDATE, and the lock every UPDATE or unique INSERT takes: wait
                   for the row (or index entry) `r`, keep it to the end of the transaction, and go
                   on with its content;
  * `write w k`  — one row written, visible to others at commit only;
  * `commit k`, `rollback k` — the end of the transaction: writes published or dropped, locks freed.

  A program that stops (`ret`, `fail`) drops an open transaction, as a transaction guard that goes
  out of scope does.

  Two readings of a program are given here.  `exec` runs it alone.  `wp` is what it guarantees
  among others, in rely-guarantee form and WITHOUT mentioning interleavings: the statements of the
  transaction that is about to commit are all evaluated in ONE state `s` (the state at the commit:
  what was read under a lock has not changed since), while a plain SELECT may have seen any earlier
  state `t` with `rely t s`.  That this reading is right for every schedule is the theorem of
  `EduStell.Txn.Interleave`; that it is right for a program that runs alone is `exec_of_wp` below.

  Three properties of programs recur in the other modules of this library, each read off the
  program alone: what it writes (`EduStell.Txn.Writes`), in which order it locks
  (`EduStell.Txn.LockOrder`), and which transactions it commits (`EduStell.Txn.History`).
-/
import Mathlib.Logic.Basic

namespace Txn

/-- What a transaction can lock and write.  `R` names the lockable things (rows, entries of unique
    indexes), `V r` is what a holder of `r` may look at, `W` are the writes of single statements.
    `touches w r` is the footprint of a write: it changes no other content, and what it makes of its
    footprint depends on its footprint alone. -/
class Store (σ : Type) {R : outParam Type} (V : outParam (R → Type)) (W : outParam Type) where
  get : σ → (r : R) → V r
  apply : W → σ → σ
  touches : W → R → Prop
  get_of_not_touches : ∀ {w r s}, ¬ touches w r → get (apply w s) r = get s r
  get_congr : ∀ {w s s'}, (∀ r, touches w r → get s r = get s' r) →
    ∀ r, touches w r → get (apply w s) r = get (apply w s') r

/-- A database program with result `α` and errors `ε`. -/
inductive Program (σ : Type) {R : Type} (V : R → Type) (W ε α : Type) : Type
  | ret (a : α)
  | fail (e : ε)
  | read (k : σ → Program σ V W ε α)
  | start (k : Program σ V W ε α)
  | lock (r : R) (k : V r → Program σ V W ε α)
  | write (w : W) (k : Program σ V W ε α)
  | commit (k : Program σ V W ε α)
  | rollback (k : Program σ V W ε α)

variable {σ R : Type} {V : R → Type} {W ε ε' α β κ : Type}

/-- A conversion of errors leaves a result alone. -/
theorem ok_of_mapError {r : Except ε α} {g : ε → ε'} {a : α} (h : r.mapError g = .ok a) :
    r = .ok a := by
  cases r with
  | error e => cases h
  | ok b => cases h; rfl

namespace Program

/-! ## Programs as a monad

  The constructors carry their continuation, so `bind` walks to the ends of the first program and
  puts the second one there: a called function is FLATTENED into the statements of its caller.
  With the monad laws as an instance the source's `?` chains are `do` blocks, and `bind_assoc`
  regroups them.  An error ends the whole program, so nothing after it is reached; what differs
  from one layer to the next is only the type of the error, which `mapError` converts. -/

/-- Sequencing; an error ends the whole. -/
def bind : Program σ V W ε α → (α → Program σ V W ε β) → Program σ V W ε β
  | ret a, f => f a
  | fail e, _ => fail e
  | read k, f => read fun s => (k s).bind f
  | start k, f => start (k.bind f)
  | lock r k, f => lock r fun v => (k v).bind f
  | write w k, f => write w (k.bind f)
  | commit k, f => commit (k.bind f)
  | rollback k, f => rollback (k.bind f)

/-- Sequencing by `bind` and constant programs by `ret`, so that the calls of the source are written
    in `do` blocks. -/
instance : Monad (Program σ V W ε) where
  pure := ret
  bind := bind

/-- Nothing is done after the answer: right identity. -/
theorem bind_ret (p : Program σ V W ε α) : p.bind ret = p := by
  induction p with
  | ret a => rfl
  | fail e => rfl
  | read g ih => exact congrArg read (funext ih)
  | start g ih => exact congrArg start ih
  | lock r g ih => exact congrArg (lock r) (funext ih)
  | write w g ih => exact congrArg (write w) ih
  | commit g ih => exact congrArg commit ih
  | rollback g ih => exact congrArg rollback ih

/-- Associativity. -/
theorem bind_bind {γ : Type} (p : Program σ V W ε α) (f : α → Program σ V W ε β)
    (k : β → Program σ V W ε γ) : (p.bind f).bind k = p.bind fun a => (f a).bind k := by
  induction p with
  | ret a => rfl
  | fail e => rfl
  | read g ih => exact congrArg read (funext ih)
  | start g ih => exact congrArg start ih
  | lock r g ih => exact congrArg (lock r) (funext ih)
  | write w g ih => exact congrArg (write w) ih
  | commit g ih => exact congrArg commit ih
  | rollback g ih => exact congrArg rollback ih

/-- A called function is flattened into the statements of its caller by `bind_assoc`. -/
instance : LawfulMonad (Program σ V W ε) :=
  LawfulMonad.mk' _ bind_ret (fun _ _ => rfl) bind_bind

/-- The errors of an inner layer, converted for the caller. -/
def mapError (g : ε → ε') : Program σ V W ε α → Program σ V W ε' α
  | ret a => ret a
  | fail e => fail (g e)
  | read k => read fun s => (k s).mapError g
  | start k => start (k.mapError g)
  | lock r k => lock r fun v => (k v).mapError g
  | write w k => write w (k.mapError g)
  | commit k => commit (k.mapError g)
  | rollback k => rollback (k.mapError g)

/-- A plain SELECT. -/
def select (query : σ → α) : Program σ V W ε α := read fun s => ret (query s)

/-- SELECT ... FOR UPDATE. -/
def forUpdate (r : R) : Program σ V W ε (V r) := lock r ret

/-- One write statement. -/
def execute (w : W) : Program σ V W ε Unit := write w (ret ())

/-- `BEGIN`. -/
def beginTx : Program σ V W ε Unit := start (ret ())

/-- `COMMIT`. -/
def commitTx : Program σ V W ε Unit := commit (ret ())

/-- `ROLLBACK`. -/
def rollbackTx : Program σ V W ε Unit := rollback (ret ())

/-- `if c { return Err(e) }` -/
def failIf (c : Prop) [Decidable c] (e : ε) : Program σ V W ε Unit :=
  if c then fail e else ret ()

/-- `ok_or(e)?` -/
def okOr (o : Option α) (e : ε) : Program σ V W ε α :=
  match o with
  | some a => ret a
  | none => fail e

/-- `?` on a pure result. -/
def ofExcept : Except ε α → Program σ V W ε α
  | .ok a => ret a
  | .error e => fail e

end Program

/-! ## Sessions

  A session knows its locks and its pending writes.  Nobody else sees the pending writes, and the
  session sees them on top of whatever is committed NOW: READ COMMITTED takes a new snapshot for
  each statement.  `seen` lists the snapshots of its plain SELECTs, the latest first.  No
  statement depends on it: it lets a result name the state that a stale check was made in. -/

/-- The state of one database session: the locks it holds, its uncommitted writes, and, for the
    proofs only, the snapshots its plain SELECTs have seen (the latest first) and whether it has
    begun a transaction. -/
structure Session (σ R W : Type) where
  /-- What is locked, the latest first. -/
  locks : List R
  /-- What is pending, in the order in which it was written. -/
  writes : List W
  /-- The snapshots of the plain SELECTs, the latest first. -/
  seen : List σ
  /-- Whether a `BEGIN` has been sent. -/
  began : Bool

namespace Session

/-- What a session has done before its first step: nothing. -/
def init : Session σ R W := ⟨[], [], [], false⟩

/-- The database as this session sees it: committed rows with its own writes on top. -/
def view [Store σ V W] (l : Session σ R W) (s : σ) : σ :=
  l.writes.foldl (fun s w => Store.apply w s) s

/-- The session after a read that found `s`. -/
def saw (l : Session σ R W) (s : σ) : Session σ R W := { l with seen := s :: l.seen }

/-- The session after `BEGIN`. -/
def begun (l : Session σ R W) : Session σ R W := { l with began := true }

/-- The session after it was granted the lock of `r`. -/
def lock (l : Session σ R W) (r : R) : Session σ R W := { l with locks := r :: l.locks }

/-- The session after a statement `w`, which only it sees until the commit. -/
def write (l : Session σ R W) (w : W) : Session σ R W := { l with writes := l.writes ++ [w] }

/-- After COMMIT or ROLLBACK. -/
def ended (l : Session σ R W) : Session σ R W := { l with locks := [], writes := [] }

variable [Store σ V W]

/-- A new session sees the shared store as it is. -/
@[simp] theorem view_init (s : σ) : (init : Session σ R W).view s = s := rfl
/-- A read writes nothing. -/
@[simp] theorem view_saw (l : Session σ R W) (t s : σ) : (l.saw t).view s = l.view s := rfl
/-- `BEGIN` writes nothing. -/
@[simp] theorem view_begun (l : Session σ R W) (s : σ) : l.begun.view s = l.view s := rfl
/-- A lock writes nothing. -/
@[simp] theorem view_lock (l : Session σ R W) (r : R) (s : σ) : (l.lock r).view s = l.view s := rfl
/-- A statement is seen by its own session at once. -/
@[simp] theorem view_write (l : Session σ R W) (w : W) (s : σ) :
    (l.write w).view s = Store.apply w (l.view s) := by
  rw [view, write, List.foldl_append]; rfl
/-- An ended session has no writes of its own any more. -/
@[simp] theorem view_ended (l : Session σ R W) (s : σ) : l.ended.view s = s := rfl

/-- A view depends on the pending writes alone. -/
theorem view_congr {l l' : Session σ R W} (h : l.writes = l'.writes) (s : σ) :
    l.view s = l'.view s := by
  rw [view, view, h]

/-- What every write keeps, a session's writes keep. -/
theorem view_keeps {P : σ → Prop} (h : ∀ w s, P s → P (Store.apply w s)) (l : Session σ R W) {s : σ}
    (hs : P s) : P (l.view s) := by
  rw [view]
  induction l.writes generalizing s with
  | nil => exact hs
  | cons w ws ih => exact ih (h w s hs)

/-- Content outside the footprint of the session's writes is what is committed. -/
theorem get_view_of_not_touches {r : R} : ∀ (ws : List W) (s : σ),
    (∀ w ∈ ws, ¬ Store.touches σ w r) →
    Store.get (ws.foldl (fun s w => Store.apply w s) s) r = Store.get s r
  | [], _, _ => rfl
  | w :: ws, s, h => by
    have hws : ∀ w' ∈ ws, ¬ Store.touches σ w' r := fun w' hw' => h w' (List.mem_cons_of_mem w hw')
    rw [List.foldl_cons, get_view_of_not_touches ws _ hws]
    exact Store.get_of_not_touches (h w List.mem_cons_self)

/-- Two states that agree on a set of resources still agree on it after writes within that set. -/
theorem get_view_congr (held : R → Prop) : ∀ (ws : List W) (s s' : σ),
    (∀ w ∈ ws, ∀ r, Store.touches σ w r → held r) →
    (∀ r, held r → Store.get s r = Store.get s' r) →
    ∀ r, held r → Store.get (ws.foldl (fun s w => Store.apply w s) s) r
      = Store.get (ws.foldl (fun s w => Store.apply w s) s') r
  | [], _, _, _, h => h
  | w :: ws, s, s', hown, h => by
    have hws : ∀ w' ∈ ws, ∀ r, Store.touches σ w' r → held r :=
      fun w' hw' => hown w' (List.mem_cons_of_mem w hw')
    refine get_view_congr held ws _ _ hws ?_
    intro r hr
    by_cases ht : Store.touches σ w r
    · have hsame : ∀ r', Store.touches σ w r' → Store.get s r' = Store.get s' r' :=
        fun r' hr' => h r' (hown w List.mem_cons_self r' hr')
      exact Store.get_congr hsame r ht
    · rw [Store.get_of_not_touches ht, Store.get_of_not_touches ht]
      exact h r hr

end Session

/-! ## Running alone

  Served one after another, a request finds the committed database and leaves the next one to the
  request after it.  Nobody holds a lock, so none is waited for, and a plain SELECT is as good as
  a locking one. -/

/-- Run a program alone: its result and the database it leaves. -/
def Program.exec [Store σ V W] : Program σ V W ε α → Session σ R W → σ → Except ε α × σ
  | .ret a, _, s => (.ok a, s)
  | .fail e, _, s => (.error e, s)
  | .read k, l, s => (k (l.view s)).exec (l.saw s) s
  | .start k, l, s => k.exec l.begun s
  | .lock r k, l, s => (k (Store.get (l.view s) r)).exec (l.lock r) s
  | .write w k, l, s => k.exec (l.write w) s
  | .commit k, l, s => k.exec l.ended (l.view s)
  | .rollback k, l, s => k.exec l.ended s

/-- A request that meets no other. -/
def Program.serve [Store σ V W] (p : Program σ V W ε α) (s : σ) : Except ε α × σ :=
  p.exec Session.init s

/-! ## What a program guarantees among others

  The point of `wp` is what it does NOT mention: no other slot, no lock table, no schedule.  The
  state `s` stands for the database at the moment of the commit.  A locked row is read from `s`,
  whenever the lock was taken; a plain SELECT is answered from some earlier `t`, of which only
  `rely t s` is known, so a check made on it may be out of date when the commit comes. -/

/-- A rely-guarantee environment for requests `κ`: an invariant of the committed states, the order
    in which a committed state may follow another, what is known of a session whenever it takes a
    step (`cond`), and what every commit has to establish (`guar`). -/
structure Rules (σ R W κ : Type) where
  /-- What holds of every committed state. -/
  inv : σ → Prop
  /-- How one committed state may follow another. -/
  rely : σ → σ → Prop
  /-- What may be assumed where the request takes a step. -/
  cond : κ → Session σ R W → σ → Prop
  /-- What has to be shown of a commit. -/
  guar : κ → Session σ R W → σ → Prop

/-- The weakest precondition of a program at the state `s` in which its transaction ends. -/
def wp [Store σ V W] (X : Rules σ R W κ) (q : κ) : Program σ V W ε α →
    (Except ε α → Session σ R W → σ → Prop) → Session σ R W → σ → Prop
  | .ret a, P, l, s => P (.ok a) l s
  | .fail e, P, l, s => P (.error e) l s
  -- a plain SELECT saw an earlier committed state
  | .read k, P, l, s => ∀ t, X.inv t → X.rely t s → wp X q (k (l.view t)) P (l.saw t) s
  | .start k, P, l, s => wp X q k P l.begun s
  -- content read under a lock is still the content at the end
  | .lock r k, P, l, s => wp X q (k (Store.get (l.view s) r)) P (l.lock r) s
  | .write w k, P, l, s =>
    (∀ r, Store.touches σ w r → r ∈ l.locks) ∧ wp X q k P (l.write w) s
  -- after the end of a transaction the committed state moves on
  | .commit k, P, l, s => X.cond q l s → X.guar q l s ∧
    ∀ s', X.inv s' → X.rely (l.view s) s' → wp X q k P l.ended s'
  | .rollback k, P, l, s => X.cond q l s →
    ∀ s', X.inv s' → X.rely s s' → wp X q k P l.ended s'

section Wp

variable [Store σ V W] {X : Rules σ R W κ} {q : κ}

/-- What a sequence guarantees: its second part after every answer of the first, and an error of the
    first is an error of both. -/
theorem wp_bind (p : Program σ V W ε α) (f : α → Program σ V W ε β)
    (P : Except ε β → Session σ R W → σ → Prop) : ∀ l s,
    wp X q (p >>= f) P l s = wp X q p (fun r l s => match r with
      | .ok a => wp X q (f a) P l s
      | .error e => P (.error e) l s) l s := by
  change ∀ l s, wp X q (p.bind f) P l s = _
  induction p with
  | ret a => intro l s; rfl
  | fail e => intro l s; rfl
  | read k ih => intro l s; simp only [Program.bind, wp, ih]
  | start k ih => intro l s; simp only [Program.bind, wp, ih]
  | lock r k ih => intro l s; simp only [Program.bind, wp, ih]
  | write w k ih => intro l s; simp only [Program.bind, wp, ih]
  | commit k ih => intro l s; simp only [Program.bind, wp, ih]
  | rollback k ih => intro l s; simp only [Program.bind, wp, ih]

/-- Renaming the error changes the answer only. -/
theorem wp_mapError (g : ε → ε') (p : Program σ V W ε α)
    (P : Except ε' α → Session σ R W → σ → Prop) : ∀ l s,
    wp X q (p.mapError g) P l s = wp X q p (fun r l s => P (r.mapError g) l s) l s := by
  induction p with
  | ret a => intro l s; rfl
  | fail e => intro l s; rfl
  | read k ih => intro l s; simp only [Program.mapError, wp, ih]
  | start k ih => intro l s; simp only [Program.mapError, wp, ih]
  | lock r k ih => intro l s; simp only [Program.mapError, wp, ih]
  | write w k ih => intro l s; simp only [Program.mapError, wp, ih]
  | commit k ih => intro l s; simp only [Program.mapError, wp, ih]
  | rollback k ih => intro l s; simp only [Program.mapError, wp, ih]

/-- Applying a function to the answer changes the answer only. -/
theorem wp_map (f : α → β) (p : Program σ V W ε α) (P : Except ε β → Session σ R W → σ → Prop)
    (l : Session σ R W) (s : σ) :
    wp X q (f <$> p) P l s = wp X q p (fun r l s => P (r.map f) l s) l s := by
  change wp X q (p >>= fun a => pure (f a)) P l s = _
  rw [wp_bind]
  congr 1
  funext r l s
  cases r <;> rfl

end Wp

/-! ## `wp` is sound for a program that runs alone

  Alone, every snapshot is the one state there is, and `rely` may be equality.  So one proof about
  a program serves its serial runs and its interleaved ones. -/

/-- The environment of a program that runs alone: a snapshot is the state itself. -/
def Rules.alone : Rules σ R W Unit where
  inv := fun _ => True
  rely := Eq
  cond := fun _ _ _ => True
  guar := fun _ _ _ => True

/-- What a program guarantees among others it guarantees alone. -/
theorem exec_of_wp [Store σ V W] (p : Program σ V W ε α)
    (P : Except ε α → Session σ R W → σ → Prop) : ∀ l s, wp Rules.alone () p P l s →
    ∃ l', P (p.exec l s).1 l' (p.exec l s).2 := by
  induction p with
  | ret a => intro l s h; exact ⟨l, h⟩
  | fail e => intro l s h; exact ⟨l, h⟩
  | read k ih => intro l s h; exact ih (l.view s) (l.saw s) s (h s trivial rfl)
  | start k ih => intro l s h; exact ih l.begun s h
  | lock r k ih => intro l s h; exact ih (Store.get (l.view s) r) (l.lock r) s h
  | write w k ih => intro l s h; exact ih (l.write w) s h.2
  | commit k ih => intro l s h; exact ih l.ended (l.view s) ((h trivial).2 _ trivial rfl)
  | rollback k ih => intro l s h; exact ih l.ended s (h trivial s trivial rfl)

/-! ## Places in a list -/

/-- A place in a list that has grown by one: the last one, or a place before. -/
theorem split_snoc {β : Type} {es pre post : List β} {e x : β}
    (h : es ++ [e] = pre ++ x :: post) : (pre = es ∧ x = e) ∨ ∃ post', es = pre ++ x :: post' := by
  rcases List.eq_nil_or_concat post with rfl | ⟨post', y, rfl⟩
  · obtain ⟨hpre, hx⟩ := List.append_inj' h rfl
    exact .inl ⟨hpre.symm, (List.cons.inj hx).1.symm⟩
  · have hsplit : es ++ [e] = (pre ++ x :: post') ++ [y] := by rw [h]; simp
    exact .inr ⟨post', (List.append_inj' hsplit rfl).1⟩

end Txn
