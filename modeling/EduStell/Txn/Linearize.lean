/-
  Linearizability: transactions that read only what they lock behave as if each ran at one moment.

  1. **Programs** — `p.Atomic` is read off the program alone: it is one transaction, it reads nothing
     but the content of its locks, it writes only what it has locked, and after its COMMIT or ROLLBACK
     it goes straight to its answer.  `Inside` describes a stretch of statements of such a
     transaction, and there is one rule for each statement, in the form "statement, then rest".

  2. **Histories** — a `Linearization` of a run is an order of the requests that have taken effect.
     Serving them alone in that order gives the committed database, each answer is the one a request
     gets at its place, and a request that is answered before another one arrives comes first.

  3. **The crux (`Open.same`)** — a session that has not ended its transaction is where the request
     would be if it had been served alone on the database of NOW: whoever commits meanwhile changes
     nothing that it has locked.  So the moment of a request is the moment its transaction ends.

  The order of the requests is built along the run: `Tracked` is its invariant, and a slot whose
  transaction ends gets the last place.
-/
import EduStell.Txn.History
import EduStell.Txn.Serial

namespace Txn

variable {σ R : Type} {V : R → Type} {W ε ε' α β κ ι : Type} [Store σ V W]

namespace Program

/-! ## Atomic programs

  `Sealed` is the state of a program between two statements of its transaction: what it may still
  do depends on the locks it holds, so the predicate carries them along.  A plain SELECT has no
  rule, on purpose: a call with one is not atomic in this sense, since it may act on what was true
  before. -/

/-- The answer of a program that has nothing more to send. -/
def result : Program σ V W ε α → Option (Except ε α)
  | .ret a => some (.ok a)
  | .fail e => some (.error e)
  | _ => none

/-- A stretch of statements inside a transaction that holds the locks `held`. -/
def Inside (Q : α → List R → Prop) : Program σ V W ε α → List R → Prop
  | .ret a, held => Q a held
  | .fail _, _ => True
  | .lock r k, held => ∀ s : σ, (k (Store.get s r)).Inside Q (r :: held)
  | .write w k, held => (∀ r, Store.touches σ w r → r ∈ held) ∧ k.Inside Q held
  | _, _ => False

/-- The rest of a transaction that holds the locks `held`, with its end and the answer after it. -/
def Sealed : Program σ V W ε α → List R → Prop
  | .ret _, _ => True
  | .fail _, _ => True
  | .lock r k, held => ∀ s : σ, (k (Store.get s r)).Sealed (r :: held)
  | .write w k, held => (∀ r, Store.touches σ w r → r ∈ held) ∧ k.Sealed held
  | .commit k, _ => k.result.isSome
  | .rollback k, _ => k.result.isSome
  | _, _ => False

/-- One transaction, or no statement at all. -/
def Atomic (p : Program σ V W ε α) : Prop := p.Sealed [] ∨ ∃ k, p = .start k ∧ k.Sealed []

omit [Store σ V W] in
/-- A program at its answer is that answer. -/
theorem eq_of_result {p : Program σ V W ε α} {r : Except ε α} (h : p.result = some r) :
    (∃ a, p = .ret a ∧ r = .ok a) ∨ ∃ e, p = .fail e ∧ r = .error e := by
  cases p with
  | ret a => exact .inl ⟨a, rfl, (Option.some.inj h).symm⟩
  | fail e => exact .inr ⟨e, rfl, (Option.some.inj h).symm⟩
  | _ => cases h

/-- A program at its answer leaves the database alone. -/
theorem exec_of_result {p : Program σ V W ε α} {r : Except ε α} (h : p.result = some r)
    (l : Session σ R W) (s : σ) : p.exec l s = (r, s) := by
  rcases eq_of_result h with ⟨a, rfl, rfl⟩ | ⟨e, rfl, rfl⟩ <;> rfl

namespace Inside

variable {Q : β → List R → Prop} {held : List R}

/-- The stretch ends with an answer and its locks. -/
theorem pure {b : β} (h : Q b held) : (Pure.pure b : Program σ V W ε β).Inside Q held := h

/-- A failure ends the stretch: the transaction is dropped with its session. -/
theorem fail {e : ε} : (Program.fail e : Program σ V W ε β).Inside Q held := trivial

/-- A stretch, and what follows it. -/
theorem bind {p : Program σ V W ε α} {k : α → Program σ V W ε β} :
    ∀ {held}, p.Inside (fun a held => (k a).Inside Q held) held → (p >>= k).Inside Q held := by
  show ∀ {held}, _ → (p.bind k).Inside Q held
  induction p with
  | ret a => exact id
  | fail e => exact fun _ => trivial
  | lock r g ih => exact fun h s => ih _ (h s)
  | write w g ih => exact fun h => ⟨h.1, ih h.2⟩
  | read g => exact False.elim
  | start g => exact False.elim
  | commit g => exact False.elim
  | rollback g => exact False.elim

/-- A lock reads the content of its row, in whatever database. -/
theorem forUpdate {r : R} {k : V r → Program σ V W ε β}
    (h : ∀ s : σ, (k (Store.get s r)).Inside Q (r :: held)) :
    (Program.forUpdate r >>= k).Inside Q held := h

/-- A statement writes what is locked. -/
theorem execute {w : W} {k : Unit → Program σ V W ε β}
    (hw : ∀ r, Store.touches σ w r → r ∈ held) (h : (k ()).Inside Q held) :
    (Program.execute w >>= k).Inside Q held := ⟨hw, h⟩

/-- A guard in front of the rest of the stretch. -/
theorem failIf {c : Prop} [Decidable c] {e : ε} {k : Unit → Program σ V W ε β}
    (h : ¬ c → (k ()).Inside Q held) : (Program.failIf c e >>= k).Inside Q held := by
  unfold Program.failIf
  split
  · exact trivial
  · rename_i hc
    exact h hc

/-- A branch stays inside the transaction when both arms do. -/
theorem ite {c : Prop} [Decidable c] {p p' : Program σ V W ε β} (h : p.Inside Q held)
    (h' : p'.Inside Q held) : (if c then p else p').Inside Q held := by
  split
  · exact h
  · exact h'

end Inside

namespace Sealed

variable {held : List R}

/-- Nothing more is sent after an answer. -/
theorem pure {b : β} : (Pure.pure b : Program σ V W ε β).Sealed held := trivial

/-- The transaction ends with its commit and the answer right behind it. -/
theorem commitTx {b : β} :
    (Program.commitTx >>= fun _ => Pure.pure b : Program σ V W ε β).Sealed held := rfl

/-- The transaction ends with its rollback and the answer right behind it. -/
theorem rollbackTx {b : β} :
    (Program.rollbackTx >>= fun _ => Pure.pure b : Program σ V W ε β).Sealed held := rfl

/-- A stretch of statements, and the rest of the transaction. -/
theorem bind {p : Program σ V W ε α} {k : α → Program σ V W ε β} :
    ∀ {held}, p.Inside (fun a held => (k a).Sealed held) held → (p >>= k).Sealed held := by
  show ∀ {held}, _ → (p.bind k).Sealed held
  induction p with
  | ret a => exact id
  | fail e => exact fun _ => trivial
  | lock r g ih => exact fun h s => ih _ (h s)
  | write w g ih => exact fun h => ⟨h.1, ih h.2⟩
  | read g => exact False.elim
  | start g => exact False.elim
  | commit g => exact False.elim
  | rollback g => exact False.elim

/-- A lock reads the content of its row, in whatever database. -/
theorem forUpdate {r : R} {k : V r → Program σ V W ε β}
    (h : ∀ s : σ, (k (Store.get s r)).Sealed (r :: held)) :
    (Program.forUpdate r >>= k).Sealed held := h

/-- A statement writes what is locked. -/
theorem execute {w : W} {k : Unit → Program σ V W ε β}
    (hw : ∀ r, Store.touches σ w r → r ∈ held) (h : (k ()).Sealed held) :
    (Program.execute w >>= k).Sealed held := ⟨hw, h⟩

/-- A guard in front of the rest of the transaction. -/
theorem failIf {c : Prop} [Decidable c] {e : ε} {k : Unit → Program σ V W ε β}
    (h : ¬ c → (k ()).Sealed held) : (Program.failIf c e >>= k).Sealed held := by
  unfold Program.failIf
  split
  · exact trivial
  · rename_i hc
    exact h hc

/-- A missing row ends the program. -/
theorem okOr {o : Option α} {e : ε} {k : α → Program σ V W ε β}
    (h : ∀ a, o = some a → (k a).Sealed held) : (Program.okOr o e >>= k).Sealed held := by
  cases o with
  | none => exact trivial
  | some a => exact h a rfl

/-- A failed check ends the program. -/
theorem ofExcept {r : Except ε α} {k : α → Program σ V W ε β}
    (h : ∀ a, r = .ok a → (k a).Sealed held) : (Program.ofExcept r >>= k).Sealed held := by
  cases r with
  | error e => exact trivial
  | ok a => exact h a rfl

/-- A branch is the rest of a transaction when both arms are. -/
theorem ite {c : Prop} [Decidable c] {p p' : Program σ V W ε β} (h : p.Sealed held)
    (h' : p'.Sealed held) : (if c then p else p').Sealed held := by
  split
  · exact h
  · exact h'

/-- A transaction whose answer is converted. -/
theorem map {f : α → β} {p : Program σ V W ε α} : ∀ {held}, p.Sealed held → (f <$> p).Sealed held := by
  show ∀ {held}, _ → (p.bind fun a => Program.ret (f a)).Sealed held
  have hend : ∀ g : Program σ V W ε α, g.result.isSome →
      (g.bind fun a => Program.ret (f a) : Program σ V W ε β).result.isSome := by
    intro g hg
    cases g with
    | ret a => rfl
    | fail e => rfl
    | _ => cases hg
  induction p with
  | ret a => exact fun _ => trivial
  | fail e => exact fun _ => trivial
  | lock r g ih => exact fun h s => ih _ (h s)
  | write w g ih => exact fun h => ⟨h.1, ih h.2⟩
  | commit g => exact fun h => hend g h
  | rollback g => exact fun h => hend g h
  | read g => exact False.elim
  | start g => exact False.elim

end Sealed

/-- The transaction of a repository method. -/
theorem Atomic.beginTx {k : Unit → Program σ V W ε β} (h : (k ()).Sealed []) :
    (Program.beginTx >>= k).Atomic := .inr ⟨k (), rfl, h⟩

/-- A program stays atomic whatever is made of its answer. -/
theorem Atomic.map {p : Program σ V W ε α} {f : α → β} (h : p.Atomic) : (f <$> p).Atomic := by
  rcases h with hsealed | ⟨k, rfl, hsealed⟩
  · exact .inl hsealed.map
  · exact .inr ⟨f <$> k, rfl, hsealed.map⟩

end Program

/-! ## Histories

  The order grows at its end only, by the slot whose transaction ends.  Real time is kept for
  free: a request that has been answered has ended its transaction, and one that arrives later
  will end its own after that. -/

/-- The answer that slot `i` gets at its place in an order of requests served one after another. -/
def AnswerAt (prog : κ → Program σ V W ε α) (s : σ) (order : List (ι × κ)) (i : ι) (q : κ)
    (r : Except ε α) : Prop :=
  ∃ before after, order = before ++ (i, q) :: after ∧
    r = ((prog q).serve (Serial.run prog s (before.map Prod.snd))).1

/-- An answer keeps its place when the order grows at its end. -/
theorem AnswerAt.snoc {prog : κ → Program σ V W ε α} {s : σ} {order : List (ι × κ)} {i : ι} {q : κ}
    {r : Except ε α} (h : AnswerAt prog s order i q r) (x : ι × κ) :
    AnswerAt prog s (order ++ [x]) i q r := by
  obtain ⟨before, after, rfl, hr⟩ := h
  exact ⟨before, after ++ [x], by simp, hr⟩

/-- A request that is answered has its place in the order. -/
theorem AnswerAt.mem {prog : κ → Program σ V W ε α} {s : σ} {order : List (ι × κ)} {i : ι} {q : κ}
    {r : Except ε α} (h : AnswerAt prog s order i q r) : (i, q) ∈ order := by
  obtain ⟨before, after, rfl, -⟩ := h
  simp

variable [DecidableEq ι] [DecidableEq R]

/-- `order` explains the run `es` from the database `s`: each slot in it has called its request and
    takes effect once. -/
structure Linearization (prog : κ → Program σ V W ε α) (s : σ) (es : List (Event κ ι))
    (order : List (ι × κ)) : Prop where
  /-- The committed state is that of the serial run in this order. -/
  database : ((System.start s).run prog es).db = Serial.run prog s (order.map Prod.snd)
  /-- A slot has one place at most. -/
  once : (order.map Prod.fst).Nodup
  /-- Whoever is in the order has been called. -/
  called : ∀ i q, (i, q) ∈ order → Event.call i q ∈ es
  /-- Each answer is the one that the request gets at its place. -/
  answers : ∀ i q r l, ((System.start s).run prog es).slots i = .finished q r l →
    AnswerAt prog s order i q r
  /-- Who was answered before another slot was called comes first. -/
  realTime : ∀ pre post, es = pre ++ post →
    ∀ i q r l, ((System.start s).run prog pre).slots i = .finished q r l →
    ∀ j, ((System.start s).run prog pre).slots j = .idle →
    ∀ q' before after, order = before ++ (j, q') :: after → (i, q) ∈ before

namespace Linearization

/-- A slot whose request has not taken effect: its session holds its locks, has written only what it
    has locked, and is where the request would be if it had been served alone. -/
structure Open (prog : κ → Program σ V W ε α) (S : System σ V W ε α κ ι) (i : ι) (q : κ)
    (p : Program σ V W ε α) (l : Session σ R W) : Prop where
  /-- The lock table knows the locks of the session. -/
  holds : ∀ r ∈ l.locks, S.holder r = some i
  /-- Nothing is written that is not locked. -/
  owned : ∀ w ∈ l.writes, ∀ r, Store.touches σ w r → r ∈ l.locks
  /-- Served alone on any database that agrees on the locks, the request would be where it is. -/
  same : ∀ s, (∀ r ∈ l.locks, Store.get s r = Store.get S.db r) → (prog q).serve s = p.exec l s
  /-- What is left is the rest of one transaction. -/
  rest : p.Sealed l.locks ∨ ∃ k, p = .start k ∧ k.Sealed l.locks

/-- What is kept of a slot: it has not arrived, or not taken effect, or it has its place. -/
def Placed (prog : κ → Program σ V W ε α) (s : σ) (S : System σ V W ε α κ ι)
    (order : List (ι × κ)) (i : ι) : Slot σ V W ε α κ → Prop
  | .idle => i ∉ order.map Prod.fst
  | .running q p l => (i ∉ order.map Prod.fst ∧ Open prog S i q p l) ∨
    ∃ r, p.result = some r ∧ AnswerAt prog s order i q r
  | .finished q r _ => AnswerAt prog s order i q r
  | .lost _ => True

/-- The invariant of a run: every slot is placed, and a slot that is under way is one that was
    called. -/
structure Tracked (prog : κ → Program σ V W ε α) (s : σ) (es : List (Event κ ι))
    (order : List (ι × κ)) : Prop extends Linearization prog s es order where
  /-- Every slot is idle, open, or has its place. -/
  placed : ∀ i, Placed prog s ((System.start s).run prog es) order i
    (((System.start s).run prog es).slots i)
  /-- A request under way was called. -/
  running : ∀ i q p l, ((System.start s).run prog es).slots i = .running q p l →
    Event.call i q ∈ es

variable {prog : κ → Program σ V W ε α} {s : σ} {es : List (Event κ ι)} {order : List (ι × κ)}

/-! ## One event

  One lemma for each thing a slot can do: go on, take effect, answer, wait or leave.  Of the other
  slots only `Placed.stays` is needed, since a slot does not notice an event that leaves its locks
  and their content alone. -/

omit [DecidableEq ι] [DecidableEq R] in
/-- A slot does not notice a step that leaves its locks and their content alone. -/
theorem Open.mono {S S' : System σ V W ε α κ ι} {i : ι} {q : κ} {p : Program σ V W ε α}
    {l : Session σ R W} (h : Open prog S i q p l) (hheld : ∀ r ∈ l.locks, S'.holder r = some i)
    (hget : ∀ r ∈ l.locks, Store.get S'.db r = Store.get S.db r) : Open prog S' i q p l where
  holds := hheld
  owned := h.owned
  same t ht := h.same t fun r hr => (ht r hr).trans (hget r hr)
  rest := h.rest

omit [DecidableEq ι] [DecidableEq R] in
/-- What the session has locked now is what it would lock if it ran alone on any database that
    agrees with the committed one on its locks: the locked row included. -/
theorem Open.locked {S : System σ V W ε α κ ι} {i : ι} {q : κ} {r : R}
    {k : V r → Program σ V W ε α} {l : Session σ R W} (h : Open prog S i q (.lock r k) l) (t : σ)
    (ht : ∀ r' ∈ r :: l.locks, Store.get t r' = Store.get S.db r') :
    (prog q).serve t = (k (Store.get (l.view S.db) r)).exec (l.lock r) t := by
  have howned : ∀ w ∈ l.writes, ∀ r', Store.touches σ w r' → r' ∈ r :: l.locks :=
    fun w hw r' htouch => List.mem_cons_of_mem r (h.owned w hw r' htouch)
  have hrow : Store.get (l.view t) r = Store.get (l.view S.db) r :=
    Session.get_view_congr (fun r' => r' ∈ r :: l.locks) l.writes t S.db howned ht r
      List.mem_cons_self
  rw [h.same t fun r' hr' => ht r' (List.mem_cons_of_mem r hr'), ← hrow]
  rfl

/-- A slot that is answered stays answered. -/
theorem finished_next {S : System σ V W ε α κ ι} {i : ι} {q : κ} {r : Except ε α}
    {l : Session σ R W} (h : S.slots i = .finished q r l) (e : Event κ ι) :
    (S.next prog e).slots i = .finished q r l := by
  cases e with
  | call j q' =>
    simp only [System.next]
    split
    · rename_i hidle
      have hne : i ≠ j := fun he => by rw [← he, h] at hidle; cases hidle
      simpa [System.set, hne] using h
    · exact h
  | step j =>
    simp only [System.next]
    split
    · rename_i q' p' l' hrun
      have hne : i ≠ j := fun he => by rw [← he, h] at hrun; cases hrun
      rw [System.slots_advance_ne hne]
      exact h
    · exact h
  | drop j =>
    simp only [System.next]
    split
    · rename_i q' p' l' hrun
      have hne : i ≠ j := fun he => by rw [← he, h] at hrun; cases hrun
      simpa [System.set, System.release, hne] using h
    · exact h

/-- An answer stays for the rest of the run. -/
theorem finished_run {S : System σ V W ε α κ ι} {i : ι} {q : κ} {r : Except ε α}
    {l : Session σ R W} (h : S.slots i = .finished q r l) (fs : List (Event κ ι)) :
    (S.run prog fs).slots i = .finished q r l := by
  induction fs using List.reverseRecOn with
  | nil => exact h
  | append_singleton fs e ih => rw [System.run_snoc]; exact finished_next ih e

/-- What an event of slot `i` does to the order: nothing, or `i`, which has been called and has no
    place yet, gets the last one. -/
inductive Grows (es : List (Event κ ι)) (order : List (ι × κ)) (i : ι) : List (ι × κ) → Prop
  | same : Grows es order i order
  | last {q : κ} (hnot : i ∉ order.map Prod.fst) (hcall : Event.call i q ∈ es) :
    Grows es order i (order ++ [(i, q)])

namespace Grows

variable {i : ι} {order' : List (ι × κ)}

omit [DecidableEq ι] [DecidableEq R] in
/-- Answers keep their places. -/
theorem answerAt (h : Grows es order i order') {j : ι} {q : κ} {r : Except ε α}
    (hat : AnswerAt prog s order j q r) : AnswerAt prog s order' j q r := by
  cases h with
  | same => exact hat
  | last => exact hat.snoc _

omit [Store σ V W] [DecidableEq ι] [DecidableEq R] in
/-- Only the slot of the event can be new in the order. -/
theorem not_mem (h : Grows es order i order') {j : ι} (hj : j ≠ i) (hnot : j ∉ order.map Prod.fst) :
    j ∉ order'.map Prod.fst := by
  cases h with
  | same => exact hnot
  | last => simpa [hj] using hnot

omit [Store σ V W] [DecidableEq ι] [DecidableEq R] in
/-- A place is taken once. -/
theorem nodup (h : Grows es order i order') (honce : (order.map Prod.fst).Nodup) :
    (order'.map Prod.fst).Nodup := by
  cases h with
  | same => exact honce
  | last hnot =>
    rw [List.map_append, List.map_singleton]
    refine List.nodup_append.mpr ⟨honce, by simp, ?_⟩
    rintro a ha b hb rfl
    rw [List.mem_singleton.mp hb] at ha
    exact hnot ha

omit [Store σ V W] [DecidableEq ι] [DecidableEq R] in
/-- Every request in the order has been called. -/
theorem called (h : Grows es order i order') (hcalled : ∀ j q, (j, q) ∈ order → Event.call j q ∈ es)
    {j : ι} {q : κ} (hmem : (j, q) ∈ order') : Event.call j q ∈ es := by
  cases h with
  | same => exact hcalled j q hmem
  | last hnot hcall =>
    rcases List.mem_append.mp hmem with hmem | hmem
    · exact hcalled j q hmem
    · cases List.mem_singleton.mp hmem
      exact hcall

omit [Store σ V W] [DecidableEq ι] [DecidableEq R] in
/-- Who had a place stands before the one that gets the last place; between two that had theirs
    nothing changes. -/
theorem before (h : Grows es order i order') {x y : ι × κ} {pre post : List (ι × κ)}
    (hx : x ∈ order) (hsplit : order' = pre ++ y :: post)
    (hold : ∀ post', order = pre ++ y :: post' → x ∈ pre) : x ∈ pre := by
  cases h with
  | same => exact hold post hsplit
  | last =>
    rcases split_snoc hsplit with ⟨rfl, -⟩ | ⟨post', hin⟩
    · exact hx
    · exact hold post' hin

end Grows

omit [DecidableEq ι] [DecidableEq R] in
/-- A slot that does not move keeps its place. -/
theorem Placed.stays {S S' : System σ V W ε α κ ι} {i j : ι} {order' : List (ι × κ)}
    {x : Slot σ V W ε α κ} (h : Placed prog s S order j x) (hj : j ≠ i)
    (horder : Grows es order i order')
    (hheld : ∀ r, S.holder r = some j →
      S'.holder r = some j ∧ Store.get S'.db r = Store.get S.db r) :
    Placed prog s S' order' j x := by
  cases x with
  | idle => exact horder.not_mem hj h
  | finished q r l => exact horder.answerAt h
  | lost q => exact trivial
  | running q p l =>
    rcases h with ⟨hnot, hopen⟩ | ⟨r, hr, hat⟩
    · refine .inl ⟨horder.not_mem hj hnot, hopen.mono ?_ ?_⟩
      · exact fun r hr => (hheld r (hopen.holds r hr)).1
      · exact fun r hr => (hheld r (hopen.holds r hr)).2
    · exact .inr ⟨r, hr, horder.answerAt hat⟩

/-- An answer that was given before the last event had its place then. -/
theorem Tracked.answered (h : Tracked prog s es order) {pre post : List (Event κ ι)}
    (hes : es = pre ++ post) {j : ι} {q : κ} {r : Except ε α} {l : Session σ R W}
    (hfin : ((System.start s).run prog pre).slots j = .finished q r l) : (j, q) ∈ order := by
  have hstays : ((System.start s).run prog es).slots j = .finished q r l := by
    rw [hes, System.run, List.foldl_append]
    exact finished_run hfin post
  exact (h.answers j q r l hstays).mem

/-- Only slot `i` moves: enough to look at its place, which may be a new one at the end. -/
theorem Tracked.snoc (h : Tracked prog s es order) {e : Event κ ι} {i : ι}
    {order' : List (ι × κ)}
    (hslots : ∀ j, j ≠ i → ((System.start s).run prog (es ++ [e])).slots j
      = ((System.start s).run prog es).slots j)
    (hheld : ∀ j, j ≠ i → ∀ r, ((System.start s).run prog es).holder r = some j →
      ((System.start s).run prog (es ++ [e])).holder r = some j ∧
      Store.get ((System.start s).run prog (es ++ [e])).db r
        = Store.get ((System.start s).run prog es).db r)
    (horder : Grows es order i order')
    (hdb : ((System.start s).run prog (es ++ [e])).db
      = Serial.run prog s (order'.map Prod.snd))
    (hplaced : Placed prog s ((System.start s).run prog (es ++ [e])) order' i
      (((System.start s).run prog (es ++ [e])).slots i))
    (hrunning : ∀ q p l, ((System.start s).run prog (es ++ [e])).slots i = .running q p l →
      Event.call i q ∈ es ++ [e]) : Tracked prog s (es ++ [e]) order' := by
  have hall : ∀ j, Placed prog s ((System.start s).run prog (es ++ [e])) order' j
      (((System.start s).run prog (es ++ [e])).slots j) := by
    intro j
    by_cases hj : j = i
    · exact hj ▸ hplaced
    · rw [hslots j hj]
      exact (h.placed j).stays hj horder (hheld j hj)
  refine ⟨⟨hdb, horder.nodup h.once, ?_, ?_, ?_⟩, hall, ?_⟩
  · exact fun j q hmem => List.mem_append_left [e] (horder.called h.called hmem)
  · intro j q r l hfin
    have hj := hall j
    rw [hfin] at hj
    exact hj
  · intro pre post hes j q r l hfin j' hidle q' before after hbefore
    rcases List.eq_nil_or_concat post with rfl | ⟨post', d, rfl⟩
    · -- who has not arrived at the end has no place
      rw [List.append_nil] at hes
      have hj' := hall j'
      rw [hes, hidle] at hj'
      exact absurd (by rw [hbefore]; simp) hj'
    · have hsplit : es ++ [e] = (pre ++ post') ++ [d] := by rw [hes]; simp
      have hpre : es = pre ++ post' := (List.append_inj' hsplit rfl).1
      exact horder.before (h.answered hpre hfin) hbefore
        fun after' => h.realTime pre post' hpre j q r l hfin j' hidle q' before after'
  · intro j q p l hrun
    by_cases hj : j = i
    · subst hj
      exact hrunning q p l hrun
    · rw [hslots j hj] at hrun
      exact List.mem_append_left [e] (h.running j q p l hrun)

/-- Nothing moves. -/
theorem Tracked.still (h : Tracked prog s es order) {e : Event κ ι}
    (hsame : (System.start s).run prog (es ++ [e]) = (System.start s).run prog es) (i : ι) :
    Tracked prog s (es ++ [e]) order := by
  refine h.snoc (i := i) ?_ ?_ .same ?_ ?_ ?_
  · intro j _
    rw [hsame]
  · intro j _ r hr
    rw [hsame]
    exact ⟨hr, rfl⟩
  · rw [hsame]; exact h.database
  · rw [hsame]; exact h.placed i
  · intro q p l hslot
    rw [hsame] at hslot
    exact List.mem_append_left [e] (h.running i q p l hslot)

omit [Store σ V W] [DecidableEq ι] [DecidableEq R] in
/-- What another slot holds is not held by this one. -/
theorem holder_ne {holder : R → Option ι} {i j : ι} {r : R} (hj : j ≠ i) (hr : holder r = some j) :
    holder r ≠ some i := by
  rw [hr]
  exact fun he => hj (Option.some.inj he)

section Step

variable {i : ι} {q : κ} {p : Program σ V W ε α} {l : Session σ R W} {e : Event κ ι}

/-- The request of slot `i` takes effect, and gets the last place. -/
theorem Tracked.takeEffect (h : Tracked prog s es order)
    (hslot : ((System.start s).run prog es).slots i = .running q p l)
    (hnot : i ∉ order.map Prod.fst) {r : Except ε α} {db : σ} {x : Slot σ V W ε α κ}
    (hserve : (prog q).serve ((System.start s).run prog es).db = (r, db))
    (hnext : (System.start s).run prog (es ++ [e]) =
      (({ (System.start s).run prog es with db := db } : System σ V W ε α κ ι).release i).set i x)
    (hget : ∀ j, j ≠ i → ∀ r, ((System.start s).run prog es).holder r = some j →
      Store.get db r = Store.get ((System.start s).run prog es).db r)
    (hx : (∃ l', x = .finished q r l') ∨ ∃ k l', x = .running q k l' ∧ k.result = some r) :
    Tracked prog s (es ++ [e]) (order ++ [(i, q)]) := by
  have hcall := h.running i q p l hslot
  have hat : AnswerAt prog s (order ++ [(i, q)]) i q r := by
    refine ⟨order, [], rfl, ?_⟩
    rw [← h.database, hserve]
  have hself : ((System.start s).run prog (es ++ [e])).slots i = x := by
    rw [hnext]; exact if_pos rfl
  refine h.snoc (i := i) ?_ ?_ (.last hnot hcall) ?_ ?_ ?_
  · intro j hj
    rw [hnext]; exact if_neg hj
  · intro j hj r' hr'
    rw [hnext]
    exact ⟨(if_neg (holder_ne hj hr')).trans hr', hget j hj r' hr'⟩
  · rw [List.map_append, List.map_singleton, Serial.run_snoc, ← h.database, hserve, hnext]; rfl
  · rw [hself]
    rcases hx with ⟨l', rfl⟩ | ⟨k, l', rfl, hk⟩
    · exact hat
    · exact .inr ⟨r, hk, hat⟩
  · intro q' p' l' hrun
    rw [hself] at hrun
    rcases hx with ⟨l'', rfl⟩ | ⟨k, l'', rfl, hk⟩ <;> cases hrun
    exact List.mem_append_left [e] hcall

/-- The request of slot `i` goes on with its statements. -/
theorem Tracked.goOn (h : Tracked prog s es order)
    (hslot : ((System.start s).run prog es).slots i = .running q p l)
    (hnot : i ∉ order.map Prod.fst) {p' : Program σ V W ε α} {l' : Session σ R W}
    {holder : R → Option ι}
    (hnext : (System.start s).run prog (es ++ [e]) =
      ({ (System.start s).run prog es with holder := holder } : System σ V W ε α κ ι).set i
        (.running q p' l'))
    (hheld : ∀ j, j ≠ i → ∀ r, ((System.start s).run prog es).holder r = some j →
      holder r = some j)
    (hopen : Open prog
      ({ (System.start s).run prog es with holder := holder } : System σ V W ε α κ ι) i q p' l') :
    Tracked prog s (es ++ [e]) order := by
  have hself : ((System.start s).run prog (es ++ [e])).slots i = .running q p' l' := by
    rw [hnext]; exact if_pos rfl
  refine h.snoc (i := i) ?_ ?_ .same ?_ ?_ ?_
  · intro j hj
    rw [hnext]; exact if_neg hj
  · intro j hj r hr
    rw [hnext]
    exact ⟨hheld j hj r hr, rfl⟩
  · rw [hnext]
    exact h.database
  · rw [hself, hnext]
    exact .inl ⟨hnot, hopen.mono hopen.holds fun _ _ => rfl⟩
  · intro q' p'' l'' hrun
    rw [hself] at hrun
    cases hrun
    exact List.mem_append_left [e] (h.running i q p l hslot)

/-- Slot `i` gives up its locks and has nothing more to do. -/
theorem Tracked.leave (h : Tracked prog s es order) {x : Slot σ V W ε α κ}
    (hnext : (System.start s).run prog (es ++ [e]) =
      (((System.start s).run prog es).release i).set i x)
    (hx : Placed prog s ((System.start s).run prog (es ++ [e])) order i x)
    (hstops : ∀ q p l, x ≠ .running q p l) : Tracked prog s (es ++ [e]) order := by
  have hself : ((System.start s).run prog (es ++ [e])).slots i = x := by
    rw [hnext]; exact if_pos rfl
  refine h.snoc (i := i) ?_ ?_ .same ?_ ?_ ?_
  · intro j hj
    rw [hnext]; exact if_neg hj
  · intro j hj r hr
    rw [hnext]
    exact ⟨(if_neg (holder_ne hj hr)).trans hr, rfl⟩
  · rw [hnext]; exact h.database
  · rw [hself]; exact hx
  · intro q p l hrun
    rw [hself] at hrun
    exact absurd hrun (hstops q p l)

/-- The statement of a request that has its place is the last one: its answer is sent. -/
theorem Tracked.answer (h : Tracked prog s es order) {r : Except ε α}
    (hnext : (System.start s).run prog (es ++ [e]) = ((System.start s).run prog es).advance i q p l)
    (hr : p.result = some r) (hat : AnswerAt prog s order i q r) :
    Tracked prog s (es ++ [e]) order := by
  have hfin : (System.start s).run prog (es ++ [e]) =
      (((System.start s).run prog es).release i).set i (.finished q r l) := by
    rw [hnext]
    rcases Program.eq_of_result hr with ⟨a, rfl, rfl⟩ | ⟨e, rfl, rfl⟩ <;> rfl
  refine h.leave hfin hat ?_
  intro q' p' l' hx
  cases hx

/-- A statement that waits for a row: the slot locks it, or it stays where it is. -/
theorem Tracked.lock (h : Tracked prog s es order)
    (hslot : ((System.start s).run prog es).slots i = .running q p l)
    (hnot : i ∉ order.map Prod.fst) {r : R} {k : V r → Program σ V W ε α}
    (hopen : Open prog ((System.start s).run prog es) i q (.lock r k) l)
    (hsealed : (Program.lock r k).Sealed l.locks)
    (hnext : (System.start s).run prog (es ++ [e]) =
      ((System.start s).run prog es).advance i q (.lock r k) l) :
    Tracked prog s (es ++ [e]) order := by
  simp only [System.advance] at hnext
  split at hnext
  · rename_i hfree
    have hother : ∀ j, j ≠ i → ∀ r', ((System.start s).run prog es).holder r' = some j →
        (((System.start s).run prog es).acquire i r).holder r' = some j := by
      intro j hj r' hr'
      have hne : r' ≠ r := by
        rintro rfl
        rw [hr'] at hfree
        rcases hfree with hnone | hsome
        · cases hnone
        · exact hj (Option.some.inj hsome)
      exact (if_neg hne).trans hr'
    refine h.goOn hslot hnot hnext hother ⟨?_, ?_, hopen.locked, .inl (hsealed _)⟩
    · intro r' hr'
      show (if r' = r then some i else ((System.start s).run prog es).holder r') = some i
      split
      · rfl
      · rename_i hne
        exact hopen.holds r' ((List.mem_cons.mp hr').resolve_left hne)
    · exact fun w hw r' ht => List.mem_cons_of_mem r (hopen.owned w hw r' ht)
  · -- the row is another slot's
    exact h.still hnext i

/-- COMMIT: here the request takes effect. -/
theorem Tracked.commit (h : Tracked prog s es order)
    (hslot : ((System.start s).run prog es).slots i = .running q p l)
    (hnot : i ∉ order.map Prod.fst) {k : Program σ V W ε α} {r : Except ε α}
    (hopen : Open prog ((System.start s).run prog es) i q (.commit k) l) (hr : k.result = some r)
    (hnext : (System.start s).run prog (es ++ [e]) =
      ((System.start s).run prog es).advance i q (.commit k) l) :
    Tracked prog s (es ++ [e]) (order ++ [(i, q)]) := by
  have hserve : (prog q).serve ((System.start s).run prog es).db
      = (r, l.view ((System.start s).run prog es).db) :=
    (hopen.same _ fun _ _ => rfl).trans (Program.exec_of_result hr l.ended _)
  refine h.takeEffect hslot hnot hserve hnext ?_ (.inr ⟨k, l.ended, rfl, hr⟩)
  intro j hj r' hr'
  -- the session has written only what it holds, and `r'` is held by another one
  refine Session.get_view_of_not_touches l.writes _ fun w hw ht => ?_
  exact holder_ne hj hr' (hopen.holds r' (hopen.owned w hw r' ht))

/-- **One statement** of one slot: the order stays, or the slot gets the last place in it. -/
theorem Tracked.advance (h : Tracked prog s es order)
    (hslot : ((System.start s).run prog es).slots i = .running q p l) :
    ∃ order', Tracked prog s (es ++ [.step i]) order' := by
  have hnext : (System.start s).run prog (es ++ [.step i])
      = ((System.start s).run prog es).advance i q p l := by
    rw [System.run_snoc, System.next, hslot]
  have hplaced := h.placed i
  rw [hslot] at hplaced
  rcases hplaced with ⟨hnot, hopen⟩ | ⟨r, hr, hat⟩
  · have hhere := hopen.same _ fun _ _ => rfl
    cases p with
    | ret a =>
      exact ⟨_, h.takeEffect hslot hnot hhere hnext (fun _ _ _ _ => rfl) (.inl ⟨l, rfl⟩)⟩
    | fail e =>
      exact ⟨_, h.takeEffect hslot hnot hhere hnext (fun _ _ _ _ => rfl) (.inl ⟨l, rfl⟩)⟩
    | read k => rcases hopen.rest with hrest | ⟨k', hk, -⟩ <;> [exact hrest.elim; cases hk]
    | start k =>
      rcases hopen.rest with hrest | ⟨k', hk, hsealed⟩
      · exact hrest.elim
      · cases hk
        exact ⟨_, h.goOn hslot hnot hnext (fun _ _ _ hr => hr)
          ⟨hopen.holds, hopen.owned, hopen.same, .inl hsealed⟩⟩
    | write w k =>
      rcases hopen.rest with ⟨hw, hsealed⟩ | ⟨k', hk, -⟩
      · refine ⟨_, h.goOn hslot hnot hnext (fun _ _ _ hr => hr)
          ⟨hopen.holds, ?_, hopen.same, .inl hsealed⟩⟩
        intro w' hw' r ht
        rcases List.mem_append.mp hw' with hw' | hw'
        · exact hopen.owned w' hw' r ht
        · rw [List.mem_singleton.mp hw'] at ht
          exact hw r ht
      · cases hk
    | lock r k =>
      rcases hopen.rest with hsealed | ⟨k', hk, -⟩
      · exact ⟨order, h.lock hslot hnot hopen hsealed hnext⟩
      · cases hk
    | commit k =>
      rcases hopen.rest with hsealed | ⟨k', hk, -⟩
      · obtain ⟨r, hr⟩ := Option.isSome_iff_exists.mp hsealed
        exact ⟨_, h.commit hslot hnot hopen hr hnext⟩
      · cases hk
    | rollback k =>
      rcases hopen.rest with hsealed | ⟨k', hk, -⟩
      · obtain ⟨r, hr⟩ := Option.isSome_iff_exists.mp hsealed
        have hserve := hhere.trans (Program.exec_of_result hr l.ended _)
        exact ⟨_, h.takeEffect hslot hnot hserve hnext (fun _ _ _ _ => rfl)
          (.inr ⟨k, l.ended, rfl, hr⟩)⟩
      · cases hk
  · exact ⟨order, h.answer hnext hr hat⟩

/-- A request arrives at a slot that has none: the slot is open, at its first statement. -/
theorem Tracked.call (hprog : ∀ q, (prog q).Atomic) (h : Tracked prog s es order)
    (hidle : ((System.start s).run prog es).slots i = .idle)
    (hnext : (System.start s).run prog (es ++ [.call i q]) =
      ((System.start s).run prog es).set i (.running q (prog q) Session.init)) :
    Tracked prog s (es ++ [.call i q]) order := by
  have hself : ((System.start s).run prog (es ++ [.call i q])).slots i
      = .running q (prog q) Session.init := by
    rw [hnext]; exact if_pos rfl
  have hnot := h.placed i
  rw [hidle] at hnot
  have hopen : Open prog ((System.start s).run prog (es ++ [.call i q])) i q (prog q)
      Session.init := by
    refine ⟨?_, ?_, fun t _ => rfl, hprog q⟩
    · intro r hr
      cases hr
    · intro w hw
      cases hw
  refine h.snoc (i := i) ?_ ?_ .same ?_ ?_ ?_
  · intro j hj
    rw [hnext]; exact if_neg hj
  · intro j _ r hr
    rw [hnext]
    exact ⟨hr, rfl⟩
  · rw [hnext]; exact h.database
  · rw [hself]; exact .inl ⟨hnot, hopen⟩
  · intro q' p' l' hslot
    rw [hself] at hslot
    cases hslot
    exact List.mem_append_right es List.mem_cons_self

end Step

/-! ## Every run

  The invariant `Tracked` for every state of a run, and the linearization that is read off it at
  the end. -/

/-- Before the first event nothing has taken effect. -/
theorem tracked_start (prog : κ → Program σ V W ε α) (s : σ) :
    Tracked prog s ([] : List (Event κ ι)) [] := by
  refine ⟨⟨rfl, List.nodup_nil, ?_, ?_, ?_⟩, ?_, ?_⟩
  · intro i q hmem
    cases hmem
  · intro i q r l hslot
    cases hslot
  · intro pre post _ i q r l _ j _ q' before after hsplit
    simp at hsplit
  · intro i
    exact List.not_mem_nil
  · intro i q p l hslot
    cases hslot

/-- **One event**: a slot that is called opens, and one that loses its connection frees its locks. -/
theorem Tracked.next (hprog : ∀ q, (prog q).Atomic) (h : Tracked prog s es order)
    (e : Event κ ι) : ∃ order', Tracked prog s (es ++ [e]) order' := by
  have hrun := System.run_snoc prog (System.start s) es e
  cases e with
  | call i q =>
    simp only [System.next] at hrun
    split at hrun
    · exact ⟨order, h.call hprog ‹_› hrun⟩
    · exact ⟨order, h.still hrun i⟩
  | step i =>
    cases hslot : ((System.start s).run prog es).slots i with
    | running q p l => exact h.advance hslot
    | idle =>
      rw [System.next, hslot] at hrun
      exact ⟨order, h.still hrun i⟩
    | finished q r l =>
      rw [System.next, hslot] at hrun
      exact ⟨order, h.still hrun i⟩
    | lost q =>
      rw [System.next, hslot] at hrun
      exact ⟨order, h.still hrun i⟩
  | drop i =>
    simp only [System.next] at hrun
    split at hrun
    · refine ⟨order, h.leave hrun trivial ?_⟩
      intro q' p' l' hx
      cases hx
    · exact ⟨order, h.still hrun i⟩

/-- **Every run of atomic requests has a linearization**: induction on the events. -/
theorem exists_linearization (hprog : ∀ q, (prog q).Atomic) (s : σ) (es : List (Event κ ι)) :
    ∃ order, Linearization prog s es order := by
  have htracked : ∃ order, Tracked prog s es order := by
    induction es using List.reverseRecOn with
    | nil => exact ⟨[], tracked_start prog s⟩
    | append_singleton es e ih =>
      obtain ⟨order, h⟩ := ih
      exact h.next hprog e
  obtain ⟨order, h⟩ := htracked
  exact ⟨order, h.toLinearization⟩

end Linearization
end Txn
