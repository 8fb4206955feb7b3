/-
  Programs with several transactions among others.

  A `Contract` is for requests that end with their one transaction.  A service that opens no
  transaction of its own has a transaction for each statement, and between two of them anything may be
  committed that the others may commit.  A `Pact` is what all of them agree on: an invariant of the
  committed states, the order `rely` in which one may follow another, and the steps `guar` that a
  COMMIT may take, which respect both.  `p.Among X q ws ls s` says that the rest `p` of request `q`,
  with `ws` pending and `ls` locked since its last commit, keeps the pact from the committed state `s`
  on, whatever the others do, and answers as agreed.  What is locked does not change meanwhile.

  There is one rule for each statement, in the form "statement, then rest".  `Pact.sound` carries the
  judgement to every interleaved run, by the argument of `Contract.sound`.

  A pact is weaker than a contract in one respect and stronger in another.  It does not know the
  ends of a program, so every program has to be judged statement by statement; but it lets a
  program have any number of transactions, and what it promises it promises of each COMMIT.
-/
import EduStell.Txn.Interleave

namespace Txn

variable {σ R : Type} {V : R → Type} {W ε ε' α β κ ι : Type}

/-- What requests agree on. -/
structure Pact (σ ε α κ : Type) where
  /-- What holds of every committed state. -/
  inv : σ → Prop
  /-- How one committed state may follow another. -/
  rely : σ → σ → Prop
  /-- The steps that a COMMIT may take. -/
  guar : σ → σ → Prop
  /-- The requests that may arrive. -/
  arrivals : κ → Prop
  /-- What is promised of an answer. -/
  answers : κ → Except ε α → σ → Prop
  refl : ∀ s, rely s s
  trans : ∀ {s t u}, rely s t → rely t u → rely s u
  /-- A step that is allowed keeps the invariant and goes along `rely`. -/
  keep : ∀ {s t}, inv s → guar s t → inv t ∧ rely s t
  /-- What was promised stays true while the state moves on. -/
  answers_stable : ∀ {q r s t}, rely s t → answers q r s → answers q r t

/-- The committed state with pending writes on top. -/
def published [Store σ V W] (ws : List W) (s : σ) : σ := ws.foldl (fun s w => Store.apply w s) s

namespace Pact

variable (X : Pact σ ε α κ)

/-- One committed state follows another within the pact. -/
def Later (s s' : σ) : Prop := X.inv s' ∧ X.rely s s'

/-- And nothing that is locked has changed. -/
structure Follows [Store σ V W] (ls : List R) (s s' : σ) : Prop where
  inv : X.inv s'
  rely : X.rely s s'
  /-- What is locked has not changed. -/
  same : ∀ r ∈ ls, Store.get s' r = Store.get s r

/-- The same for a service of which `X` is a layer more. -/
def under (f : Except ε' β → Except ε α) : Pact σ ε' β κ where
  inv := X.inv
  rely := X.rely
  guar := X.guar
  arrivals := X.arrivals
  answers q r s := X.answers q (f r) s
  refl := X.refl
  trans := X.trans
  keep := X.keep
  answers_stable h := X.answers_stable h

variable {X} [Store σ V W] {ls : List R} {s t u : σ}

/-- What follows with the locks unchanged follows. -/
theorem Follows.later (h : X.Follows ls s t) : X.Later s t := ⟨h.inv, h.rely⟩

/-- Following is transitive. -/
theorem Follows.trans (h : X.Follows ls s t) (h' : X.Follows ls t u) : X.Follows ls s u :=
  ⟨h'.inv, X.trans h.rely h'.rely, fun r hr => (h'.same r hr).trans (h.same r hr)⟩

/-- A committed state follows itself. -/
theorem Follows.refl (h : X.inv s) : X.Follows ls s s := ⟨h, X.refl s, fun _ _ => rfl⟩

end Pact

namespace Program

variable [Store σ V W] (X : Pact σ ε α κ) (q : κ)

/-- The rest of request `q` keeps the pact. -/
def Among : Program σ V W ε α → List W → List R → σ → Prop
  | .ret a, _, _, s => X.answers q (.ok a) s
  | .fail e, _, _, s => X.answers q (.error e) s
  | .read k, ws, ls, s => ∀ s', X.Follows ls s s' → (k (published ws s')).Among ws ls s'
  | .start k, ws, ls, s => k.Among ws ls s
  | .lock r k, ws, ls, s => ∀ s', X.Follows ls s s' →
    (k (Store.get (published ws s') r)).Among ws (r :: ls) s'
  | .write w k, ws, ls, s => (∀ r, Store.touches σ w r → r ∈ ls) ∧ k.Among (ws ++ [w]) ls s
  | .commit k, ws, ls, s => ∀ s', X.Follows ls s s' → X.guar s' (published ws s') ∧
    k.Among [] [] (published ws s')
  | .rollback k, _, _, s => k.Among [] [] s

variable {X q}

/-- The pact is kept from every later state as well. -/
theorem Among.mono {p : Program σ V W ε α} : ∀ {ws : List W} {ls : List R} {s s' : σ},
    X.rely s s' → (∀ r ∈ ls, Store.get s' r = Store.get s r) →
    p.Among X q ws ls s → p.Among X q ws ls s' := by
  have hfollows : ∀ {ls : List R} {s s' t : σ}, X.rely s s' →
      (∀ r ∈ ls, Store.get s' r = Store.get s r) → X.Follows ls s' t → X.Follows ls s t :=
    fun hrely hsame ht =>
      ⟨ht.inv, X.trans hrely ht.rely, fun r hr => (ht.same r hr).trans (hsame r hr)⟩
  have hnone : ∀ {s s' : σ}, ∀ r ∈ ([] : List R), Store.get s' r = Store.get s r :=
    fun r hr => by cases hr
  induction p with
  | ret a => exact fun hrely _ h => X.answers_stable hrely h
  | fail e => exact fun hrely _ h => X.answers_stable hrely h
  | read k ih => exact fun hrely hsame h t ht => h t (hfollows hrely hsame ht)
  | start k ih => exact fun hrely hsame h => ih hrely hsame h
  | lock r k ih => exact fun hrely hsame h t ht => h t (hfollows hrely hsame ht)
  | write w k ih => exact fun hrely hsame h => ⟨h.1, ih hrely hsame h.2⟩
  | commit k ih => exact fun hrely hsame h t ht => h t (hfollows hrely hsame ht)
  | rollback k ih => exact fun hrely _ h => ih hrely hnone h

/-! ## Rules

  The rules say at each statement which state it is judged in.  A SELECT and a lock take a state
  that follows by `rely`; after the lock the row no longer changes, and `ls` remembers that.  At a
  COMMIT the pending writes are published in the state of THAT moment, which `guar` has to allow. -/

namespace Among

variable {ws : List W} {ls : List R} {s : σ}

/-- A plain SELECT reads whatever has been committed by then. -/
theorem select {query : σ → β} {k : β → Program σ V W ε α}
    (h : ∀ s', X.Follows ls s s' → (k (query (published ws s'))).Among X q ws ls s') :
    (Program.select query >>= k).Among X q ws ls s := h

/-- `BEGIN` changes nothing. -/
theorem beginTx {k : Unit → Program σ V W ε α} (h : (k ()).Among X q ws ls s) :
    (Program.beginTx >>= k).Among X q ws ls s := h

/-- A lock is granted in whatever state has been committed by then, and holds the row from there on.
    -/
theorem forUpdate {r : R} {k : V r → Program σ V W ε α}
    (h : ∀ s', X.Follows ls s s' →
      (k (Store.get (published ws s') r)).Among X q ws (r :: ls) s') :
    (Program.forUpdate r >>= k).Among X q ws ls s := h

/-- A statement joins the pending writes; what it touches must be locked. -/
theorem execute {w : W} {k : Unit → Program σ V W ε α}
    (hlocked : ∀ r, Store.touches σ w r → r ∈ ls) (h : (k ()).Among X q (ws ++ [w]) ls s) :
    (Program.execute w >>= k).Among X q ws ls s := ⟨hlocked, h⟩

/-- A commit publishes the pending writes as one step that the pact allows, and gives up the locks.
    -/
theorem commitTx {k : Unit → Program σ V W ε α}
    (h : ∀ s', X.Follows ls s s' → X.guar s' (published ws s') ∧
      (k ()).Among X q [] [] (published ws s')) : (Program.commitTx >>= k).Among X q ws ls s := h

/-- A guard answers with its error, or the rest goes on. -/
theorem failIf {c : Prop} [Decidable c] {e : ε} {k : Unit → Program σ V W ε α}
    (hfail : c → X.answers q (.error e) s) (h : ¬ c → (k ()).Among X q ws ls s) :
    (Program.failIf c e >>= k).Among X q ws ls s := by
  rw [Program.failIf]
  split
  · rename_i hc
    exact hfail hc
  · rename_i hc
    exact h hc

/-- A missing row answers with its error, or the rest goes on with it. -/
theorem okOr {o : Option β} {e : ε} {k : β → Program σ V W ε α}
    (hnone : o = none → X.answers q (.error e) s) (h : ∀ b, o = some b → (k b).Among X q ws ls s) :
    (Program.okOr o e >>= k).Among X q ws ls s := by
  cases o with
  | none => exact hnone rfl
  | some b => exact h b rfl

/-- A failed check answers with its error, or the rest goes on with what it computed. -/
theorem ofExcept {r : Except ε β} {k : β → Program σ V W ε α}
    (herr : ∀ e, r = .error e → X.answers q (.error e) s)
    (h : ∀ b, r = .ok b → (k b).Among X q ws ls s) :
    (Program.ofExcept r >>= k).Among X q ws ls s := by
  cases r with
  | error e => exact herr e rfl
  | ok b => exact h b rfl

/-- A request whose answer is converted. -/
theorem map {p : Program σ V W ε β} {f : β → α} (h : p.Among (X.under (Except.map f)) q ws ls s) :
    (f <$> p).Among X q ws ls s := by
  change (p.bind fun b => ret (f b)).Among X q ws ls s
  induction p generalizing ws ls s with
  | ret b => exact h
  | fail e => exact h
  | read k ih => exact fun t ht => ih _ (h t ⟨ht.inv, ht.rely, ht.same⟩)
  | start k ih => exact ih h
  | lock r k ih => exact fun t ht => ih _ (h t ⟨ht.inv, ht.rely, ht.same⟩)
  | write w k ih => exact ⟨h.1, ih h.2⟩
  | commit k ih =>
    intro t ht
    obtain ⟨hguar, hrest⟩ := h t ⟨ht.inv, ht.rely, ht.same⟩
    exact ⟨hguar, ih hrest⟩
  | rollback k ih => exact ih h

/-- A request whose errors are converted. -/
theorem mapError {p : Program σ V W ε' α} {g : ε' → ε}
    (h : p.Among (X.under (Except.mapError g)) q ws ls s) : (p.mapError g).Among X q ws ls s := by
  induction p generalizing ws ls s with
  | ret b => exact h
  | fail e => exact h
  | read k ih => exact fun t ht => ih _ (h t ⟨ht.inv, ht.rely, ht.same⟩)
  | start k ih => exact ih h
  | lock r k ih => exact fun t ht => ih _ (h t ⟨ht.inv, ht.rely, ht.same⟩)
  | write w k ih => exact ⟨h.1, ih h.2⟩
  | commit k ih =>
    intro t ht
    obtain ⟨hguar, hrest⟩ := h t ⟨ht.inv, ht.rely, ht.same⟩
    exact ⟨hguar, ih hrest⟩
  | rollback k ih => exact ih h

end Among
end Program

/-! ## Every run

  As for contracts: a slot does not notice a step that leaves its locks alone, except that the
  committed state has moved on along `rely`, and `Among.mono` covers that. -/

namespace Pact

variable [Store σ V W] (X : Pact σ ε α κ)

/-- A request under way: it holds its locks, it has written only what it has locked, and the rest of
    its program keeps the pact. -/
structure Live (S : System σ V W ε α κ ι) (i : ι) (q : κ) (p : Program σ V W ε α)
    (l : Session σ R W) : Prop where
  /-- The lock table knows the locks of the session. -/
  holds : ∀ r ∈ l.locks, S.holder r = some i
  /-- Nothing is written that is not locked. -/
  owned : ∀ w ∈ l.writes, ∀ r, Store.touches σ w r → r ∈ l.locks
  /-- The rest of the program keeps the pact from the present state on. -/
  among : p.Among X q l.writes l.locks S.db

/-- The committed state is as agreed, and every request under way keeps to it. -/
structure Sound (S : System σ V W ε α κ ι) : Prop where
  inv : X.inv S.db
  running : ∀ i q p l, S.slots i = .running q p l → X.Live S i q p l
  finished : ∀ i q r l, S.slots i = .finished q r l → X.answers q r S.db

variable {X} {S S' : System σ V W ε α κ ι} {i : ι} {q : κ}

/-- The empty system keeps the pact. -/
theorem sound_start {s : σ} (hs : X.inv s) : X.Sound (System.start s : System σ V W ε α κ ι) := by
  constructor
  · exact hs
  · intro i q p l hslot
    cases hslot
  · intro i q r l hslot
    cases hslot

/-- Slot `i` gets new content, and the committed state moves on without touching what the others
    hold: enough to look at slot `i`. -/
theorem Sound.move (h : X.Sound S) {x : Slot σ V W ε α κ} (hx : S'.slots i = x)
    (hothers : ∀ j, j ≠ i → S'.slots j = S.slots j) (hlater : X.Later S.db S'.db)
    (hheld : ∀ j, j ≠ i → ∀ r, S.holder r = some j →
      S'.holder r = some j ∧ Store.get S'.db r = Store.get S.db r)
    (hrun : ∀ q p l, x = .running q p l → X.Live S' i q p l)
    (hfin : ∀ q r l, x = .finished q r l → X.answers q r S'.db) : X.Sound S' where
  inv := hlater.1
  running j q p l hj := by
    by_cases hji : j = i
    · subst hji
      exact hrun q p l (hx.symm.trans hj)
    · have hlive := h.running j q p l ((hothers j hji).symm.trans hj)
      constructor
      · exact fun r hr => (hheld j hji r (hlive.holds r hr)).1
      · exact hlive.owned
      · exact hlive.among.mono hlater.2 fun r hr => (hheld j hji r (hlive.holds r hr)).2
  finished j q r l hj := by
    by_cases hji : j = i
    · subst hji
      exact hfin q r l (hx.symm.trans hj)
    · exact X.answers_stable hlater.2 (h.finished j q r l ((hothers j hji).symm.trans hj))

variable [DecidableEq ι]

/-- Slot `i` goes on in the same committed state. -/
theorem Sound.goOn (h : X.Sound S) {p : Program σ V W ε α} {l : Session σ R W}
    (hlive : X.Live (S.set i (.running q p l)) i q p l) : X.Sound (S.set i (.running q p l)) := by
  refine h.move (i := i) (if_pos rfl) (fun j hj => if_neg hj) ⟨h.inv, X.refl _⟩ ?_ ?_ ?_
  · exact fun j _ r hr => ⟨hr, rfl⟩
  · intro q' p' l' hx
    cases hx
    exact hlive
  · intro q' r' l' hx
    cases hx

omit [Store σ V W] in
/-- One slot gives up its own locks only. -/
theorem holder_release (S : System σ V W ε α κ ι) {i j : ι} (hj : j ≠ i) {r : R}
    (hr : S.holder r = some j) : (S.release i).holder r = some j := by
  have hne : S.holder r ≠ some i := by
    rw [hr]
    exact fun he => hj (Option.some.inj he)
  exact (if_neg hne).trans hr

/-- Slot `i` frees its locks and stops. -/
theorem Sound.stop (h : X.Sound S) {x : Slot σ V W ε α κ} (hrun : ∀ q p l, x ≠ .running q p l)
    (hfin : ∀ q r l, x = .finished q r l → X.answers q r S.db) :
    X.Sound ((S.release i).set i x) := by
  refine h.move (i := i) (if_pos rfl) (fun j hj => if_neg hj) ⟨h.inv, X.refl _⟩ ?_ ?_ hfin
  · exact fun j hj r hr => ⟨holder_release S hj hr, rfl⟩
  · exact fun q p l hx => absurd hx (hrun q p l)

/-- Slot `i` ends its transaction and goes on, `s` being the committed state after it. -/
theorem Sound.endTx (h : X.Sound S) {k : Program σ V W ε α} {l : Session σ R W} {s : σ}
    (hlater : X.Later S.db s)
    (hget : ∀ j, j ≠ i → ∀ r, S.holder r = some j → Store.get s r = Store.get S.db r)
    (hamong : k.Among X q [] [] s) :
    X.Sound (({ S with db := s } : System σ V W ε α κ ι).release i
      |>.set i (.running q k l.ended)) := by
  refine h.move (i := i) (if_pos rfl) (fun j hj => if_neg hj) hlater ?_ ?_ ?_
  · intro j hj r hr
    exact ⟨holder_release { S with db := s } hj hr, hget j hj r hr⟩
  · intro q' p' l' hx
    cases hx
    constructor
    · intro r hr
      cases hr
    · intro w hw
      cases hw
    · exact hamong
  · intro q' r' l' hx
    cases hx

variable [DecidableEq R] {prog : κ → Program σ V W ε α}

/-- Slot `i` takes a lock that is free, or that it holds already. -/
theorem Sound.lock (h : X.Sound S) {r : R} {k : V r → Program σ V W ε α} {l : Session σ R W}
    (hlive : X.Live S i q (.lock r k) l) (hfree : S.holder r = none ∨ S.holder r = some i) :
    X.Sound ((S.acquire i r).set i
      (.running q (k (Store.get (l.view S.db) r)) (l.lock r))) := by
  refine h.move (i := i) (if_pos rfl) (fun j hj => if_neg hj) ⟨h.inv, X.refl _⟩ ?_ ?_ ?_
  · intro j hj r' hr'
    refine ⟨?_, rfl⟩
    -- a lock that another slot holds is not the one that was free
    have hne : r' ≠ r := by
      rintro rfl
      rw [hr'] at hfree
      rcases hfree with hfree | hfree
      · cases hfree
      · exact hj (Option.some.inj hfree)
    exact (if_neg hne).trans hr'
  · intro q' p' l' hx
    -- the slot itself: it holds what it held and the new one
    cases hx
    constructor
    · intro r' hr'
      change (if r' = r then some i else S.holder r') = some i
      split
      · rfl
      · rename_i hne
        exact hlive.holds r' ((List.mem_cons.mp hr').resolve_left hne)
    · exact fun w hw r' ht => List.mem_cons_of_mem r (hlive.owned w hw r' ht)
    · exact hlive.among S.db (.refl h.inv)
  · intro q' r' l' hx
    cases hx

/-- One statement. -/
theorem Sound.advance (h : X.Sound S) {p : Program σ V W ε α} {l : Session σ R W}
    (hslot : S.slots i = .running q p l) : X.Sound (S.advance i q p l) := by
  have hlive := h.running i q p l hslot
  have hamong := hlive.among
  cases p with
  | ret a =>
    refine h.stop (fun q' p' l' hx => by cases hx) ?_
    intro q' r' l' hx
    cases hx
    exact hamong
  | fail e =>
    refine h.stop (fun q' p' l' hx => by cases hx) ?_
    intro q' r' l' hx
    cases hx
    exact hamong
  | read k => exact h.goOn ⟨hlive.holds, hlive.owned, hamong S.db (.refl h.inv)⟩
  | start k => exact h.goOn ⟨hlive.holds, hlive.owned, hamong⟩
  | lock r k =>
    simp only [System.advance]
    split
    · rename_i hfree
      exact h.lock hlive hfree
    · exact h
  | write w k =>
    refine h.goOn ⟨hlive.holds, ?_, hamong.2⟩
    intro w' hw' r ht
    rcases List.mem_append.mp hw' with hw' | hw'
    · exact hlive.owned w' hw' r ht
    · rw [List.mem_singleton.mp hw'] at ht
      exact hamong.1 r ht
  | commit k =>
    obtain ⟨hguar, hrest⟩ := hamong S.db (.refl h.inv)
    refine h.endTx (X.keep h.inv hguar) ?_ hrest
    intro j hji r hr
    -- the session has written only what it holds, and `r` is held by another one
    refine Session.get_view_of_not_touches l.writes S.db ?_
    intro w hw ht
    rw [hlive.holds r (hlive.owned w hw r ht)] at hr
    exact hji (Option.some.inj hr).symm
  | rollback k => exact h.endTx ⟨h.inv, X.refl _⟩ (fun _ _ _ _ => rfl) hamong

/-- Only admitted requests arrive. -/
abbrev Within (X : Pact σ ε α κ) (es : List (Event κ ι)) : Prop :=
  ∀ i q, Event.call i q ∈ es → X.arrivals q

/-- One event. -/
theorem Sound.next (h : X.Sound S)
    (hprog : ∀ q, X.arrivals q → ∀ s, X.inv s → (prog q).Among X q [] [] s) {e : Event κ ι}
    (he : ∀ i q, e = .call i q → X.arrivals q) : X.Sound (S.next prog e) := by
  -- an arrival starts a program on the invariant; a step goes by `advance`; a drop only releases
  cases e with
  | call i q =>
    simp only [System.next]
    split
    · refine h.goOn ⟨?_, ?_, hprog q (he i q rfl) S.db h.inv⟩
      · intro r hr
        cases hr
      · intro w hw
        cases hw
    · exact h
  | step i =>
    simp only [System.next]
    split
    · rename_i q p l hslot
      exact h.advance hslot
    · exact h
  | drop i =>
    simp only [System.next]
    split
    · refine h.stop (fun q' p' l' hx => by cases hx) ?_
      intro q' r' l' hx
      cases hx
    · exact h

/-- **Every run keeps the pact**, from a point where it is kept: induction on the events. -/
theorem Sound.run (h : X.Sound S)
    (hprog : ∀ q, X.arrivals q → ∀ s, X.inv s → (prog q).Among X q [] [] s)
    {es : List (Event κ ι)} : X.Within es → X.Sound (S.run prog es) := by
  induction es using List.reverseRecOn with
  | nil => exact fun _ => h
  | append_singleton es e ih =>
    intro hes
    rw [System.run_snoc]
    refine (ih fun i q hq => hes i q (List.mem_append_left _ hq)).next hprog ?_
    rintro i q rfl
    exact hes i q (List.mem_append_right _ (List.mem_singleton_self _))

/-- And the committed state moves on within it. -/
theorem Sound.rely_run (h : X.Sound S)
    (hprog : ∀ q, X.arrivals q → ∀ s, X.inv s → (prog q).Among X q [] [] s)
    {es : List (Event κ ι)} : X.Within es → X.rely S.db (S.run prog es).db := by
  induction es using List.reverseRecOn with
  | nil => exact fun _ => X.refl _
  | append_singleton es e ih =>
    intro hes
    have hbefore : X.Within es := fun i q hq => hes i q (List.mem_append_left _ hq)
    refine X.trans (ih hbefore) ?_
    have hsound := h.run hprog hbefore
    rw [System.run_snoc]
    generalize S.run prog es = S' at hsound
    rcases System.db_next prog S' e with hsame | ⟨i, q, k, l, rfl, hslot, hdb⟩
    · rw [hsame]
      exact X.refl _
    · rw [hdb]
      have hguar := ((hsound.running i q _ l hslot).among S'.db (.refl hsound.inv)).1
      exact (X.keep hsound.inv hguar).2

/-- Every run of requests that keep the pact keeps it: the induction over the events. -/
theorem sound {s : σ} (hs : X.inv s)
    (hprog : ∀ q, X.arrivals q → ∀ s, X.inv s → (prog q).Among X q [] [] s)
    {es : List (Event κ ι)} (hes : X.Within es) : X.Sound ((System.start s).run prog es) :=
  (sound_start hs).run hprog hes

/-- A later committed state follows an earlier one, whichever events come in between. -/
theorem later_run {s : σ} (hs : X.inv s)
    (hprog : ∀ q, X.arrivals q → ∀ s, X.inv s → (prog q).Among X q [] [] s)
    (es : List (Event κ ι)) {fs : List (Event κ ι)} (h : X.Within (es ++ fs)) :
    X.rely ((System.start s).run prog es).db ((System.start s).run prog (es ++ fs)).db := by
  have hes : X.Within es := fun i q hq => h i q (List.mem_append_left _ hq)
  have hfs : X.Within fs := fun i q hq => h i q (List.mem_append_right _ hq)
  have hrun : (System.start s).run prog (es ++ fs) = ((System.start s).run prog es).run prog fs :=
    List.foldl_append
  rw [hrun]
  exact (sound hs hprog hes).rely_run hprog hfs

end Pact
end Txn
