/-
  From a response to what its request has done: the ids of a request are on its response and on the
  audit row that it writes.

  The server runs the workflows of `EduStell.Requests`.  For the database a run of the server is an
  interleaved run: an access of the middleware is no event of the database, and the next statement of a
  handler is one (`Server.next_cases`).  Only a COMMIT adds to the trail, and it adds one row
  (`commit_row`), in the scope of the exchange whose turn it is.  So the rows of the trail are, one by
  one, the commits in the history of that run; a request has at most one there, and none if it is
  answered with an error (`Request.once`).

  The plan: an answer is explained by the monitor of its exchange (`answered_of_stands`); a COMMIT
  publishes one row, in the context of its exchange (`row_of_commit`); and the rows of the trail
  are matched with the slots of the commits (`trail_after`).
-/
import EduStell.Http.Accounting
import EduStell.Integrity.OneCommit

namespace EduStell.Http

open Api Task Txn

/-! ## The database of the server

  For the database a run of the server is one of its own interleaved runs, so what holds of every
  such run holds here. -/

section

variable {σ R : Type} {V : R → Type} {W ε α κ : Type} {S : Server σ V W ε α κ}

/-- An exchange that is there stays, but for its stage. -/
theorem Server.getElem?_put {i j : Nat} {x y : Exchange κ} {stage : Stage κ}
    (hx : S.exchanges[i]? = some x) (hy : S.exchanges[j]? = some y) :
    ∃ stage', (S.put j y stage).exchanges[i]? = some { x with stage := stage' } := by
  have hi : i < S.exchanges.length := (List.getElem?_eq_some_iff.mp hx).1
  show ∃ stage', (S.exchanges.set j { y with stage := stage })[i]? = _
  rw [List.getElem?_set]
  by_cases hij : j = i
  · subst hij
    obtain rfl := Option.some.inj (hx.symm.trans hy)
    exact ⟨stage, by rw [if_pos rfl, if_pos hi]⟩
  · exact ⟨x.stage, by rw [if_neg hij, hx]⟩

variable [Store σ V W] [DecidableEq R]

/-- An event changes no more of an exchange than its stage. -/
theorem Server.getElem?_next (service : Service σ V W ε α κ) {i : Nat} {x : Exchange κ}
    (hx : S.exchanges[i]? = some x) (e : ServerEvent) :
    ∃ stage, (S.next service e).exchanges[i]? = some { x with stage := stage } := by
  have hmoves := Server.moves service S e
  generalize S.next service e = S' at hmoves
  have hsame : ∃ stage, S.exchanges[i]? = some { x with stage := stage } := ⟨x.stage, hx⟩
  have hdrop : ∀ {j : Nat} {y : Exchange κ} {stage : Stage κ}, S.exchanges[j]? = some y →
      ∃ stage', (S.drop service j y stage).exchanges[i]? = some { x with stage := stage' } := by
    intro j y stage hy
    unfold Server.drop
    split
    · exact Server.getElem?_put hx hy
    · exact hsame
  cases hmoves with
  | stay => exact hsame
  | arrive request fresh =>
    refine ⟨x.stage, ?_⟩
    show (S.exchanges ++ _)[i]? = _
    rw [List.getElem?_append_left (List.getElem?_eq_some_iff.mp hx).1]
    exact hx
  | @access j y p hy hstage instant =>
    cases p with
    | done r => exact Server.getElem?_put hx hy
    | ask op k => cases op <;> exact Server.getElem?_put hx hy
  | work hy hstage =>
    unfold Server.work
    split
    · exact Server.getElem?_put hx hy
    · exact hsame
  | cut hy hstage outcome => exact hdrop hy
  | leave hy hstage => exact hdrop hy

/-- **What an event does**: nothing to the trail and at most one event of the database that commits
    nothing, or the COMMIT of an exchange that waits for its handler, which is published in the scope
    of that exchange. -/
theorem Server.next_cases (service : Service σ V W ε α κ) (S : Server σ V W ε α κ)
    (e : ServerEvent) :
    ((S.next service e).trail = S.trail ∧ ((S.next service e).inner = S.inner ∨
      ∃ e', S.inner.commitOf e' = none ∧
        (S.next service e).inner = S.inner.next service.program e')) ∨
    ∃ i x scope q k c, S.exchanges[i]? = some x ∧ x.stage = .waiting scope q k ∧
      S.inner.commitOf (.step i) = some c ∧
      (S.next service e).inner = S.inner.next service.program (.step i) ∧
      (S.next service e).trail = S.trail ++ Server.published service S.inner.db
        (S.inner.next service.program (.step i)).db scope := by
  have hdrop : ∀ i x stage, (S.drop service i x stage).trail = S.trail ∧
      ((S.drop service i x stage).inner = S.inner ∨ ∃ e', S.inner.commitOf e' = none ∧
        (S.drop service i x stage).inner = S.inner.next service.program e') := by
    intro i x stage
    unfold Server.drop
    split
    · exact ⟨rfl, .inr ⟨.drop i, rfl, rfl⟩⟩
    · exact ⟨rfl, .inl rfl⟩
  have hmoves := Server.moves service S e
  generalize S.next service e = S' at hmoves
  cases hmoves with
  | stay => exact .inl ⟨rfl, .inl rfl⟩
  | arrive request fresh => exact .inl ⟨rfl, .inl rfl⟩
  | @access i x p hx hstage instant =>
    cases p with
    | done r => exact .inl ⟨rfl, .inl rfl⟩
    | ask op k =>
      cases op with
      | serve scope q => exact .inl ⟨rfl, .inr ⟨.call i q, rfl, rfl⟩⟩
      | _ => exact .inl ⟨rfl, .inl rfl⟩
  | @work i x scope q k hx hstage =>
    unfold Server.work
    split
    · exact .inl ⟨rfl, .inl rfl⟩
    · cases hcommit : S.inner.commitOf (.step i) with
      | none =>
        refine .inl ⟨?_, .inr ⟨.step i, hcommit, rfl⟩⟩
        -- nothing is published by what leaves the database as it is
        show S.trail ++ Server.published service _ (S.inner.next _ _).db _ = _
        rw [System.db_next_none hcommit, Server.published, List.drop_length, List.map_nil,
          List.append_nil]
      | some c => exact .inr ⟨i, x, scope, q, k, c, hx, hstage, hcommit, rfl, rfl⟩
  | cut hx hstage outcome => exact .inl (hdrop _ _ _)
  | leave hx hstage => exact .inl (hdrop _ _ _)

end

/-! ## Answers and audit rows

  An answer comes from the limiter, from the router itself, from the result of a request or from a
  cut; and each row of the trail is the row of one commit of one exchange. -/

/-- The server of the workflows. -/
def workflows (app : App EduStell.Request ServiceError EduStell.Response) :
    Service Db Content Write ServiceError EduStell.Response EduStell.Request :=
  ⟨app, EduStell.Request.program, Db.audit⟩

/-- Where a response comes from, before the middleware puts its headers on: the limiter, a handler
    that answers at once, the result of the handler's request, or what has cut the handler off. -/
inductive AnswerOf (app : App EduStell.Request ServiceError EduStell.Response)
    (x : Exchange EduStell.Request)
    (slot : Slot Db Content Write ServiceError EduStell.Response EduStell.Request) : Response → Prop
  /-- The limiter turns the request away. -/
  | limited (path : isLimitedPath x.request.path = true) : AnswerOf app x slot rateLimited
  /-- The handler answers without work in the database. -/
  | atOnce {outcome : Outcome} (target : (app.route x.attached).target = .inl outcome) :
      AnswerOf app x slot (catchPanic outcome)
  /-- The handler answers what its work has come to. -/
  | result {q : EduStell.Request} {r : Except ServiceError EduStell.Response} {l : Sess}
      (works : x.Works app q) (finished : slot = .finished q r l) :
      AnswerOf app x slot (catchPanic (app.respond q r))
  /-- The work was cut off, and the answer is whatever the handler makes of that. -/
  | cutOff {q : EduStell.Request} {outcome : Outcome} (works : x.Works app q)
      (lost : slot = .lost q) : AnswerOf app x slot (catchPanic outcome)

/-- An id that the client has given comes back as it was given. -/
def GivenBack (name : String) (x : Exchange EduStell.Request) (r : Response) : Prop :=
  ∀ value text, x.request.headers.get name = some value → value.toStr = some text →
    (trim text).isEmpty = false → r.headers.get name = some value

/-- The answer of an exchange. -/
structure Answered (app : App EduStell.Request ServiceError EduStell.Response)
    (x : Exchange EduStell.Request)
    (slot : Slot Db Content Write ServiceError EduStell.Response EduStell.Request)
    (r : Response) : Prop where
  /-- The response is that of the limiter, of a handler that answers at once or of a request, with
      the frame around it. -/
  framed : ∃ base, AnswerOf app x slot base ∧ Framed app.environment x.ids base r
  /-- A request id from the client comes back. -/
  requestId : GivenBack xRequestId x r
  /-- So does a correlation id. -/
  correlationId : GivenBack xCorrelationId x r

/-- The row is one that the request of exchange `i` persists, and bears the ids of that exchange. -/
def RowOf (app : App EduStell.Request ServiceError EduStell.Response)
    (xs : List (Exchange EduStell.Request)) (i : Nat) (row : AuditRow) : Prop :=
  ∃ (x : Exchange EduStell.Request) (q : EduStell.Request), xs[i]? = some x ∧ x.Works app q ∧
    row.context = some x.ids.audit ∧ q.Persists row.log

/-- **From a response to what its request has done.** -/
structure Traced (app : App EduStell.Request ServiceError EduStell.Response) (s : Db)
    (S : Server Db Content Write ServiceError EduStell.Response EduStell.Request) : Prop where
  /-- For the database this is an interleaved run. -/
  run : ∃ es, S.inner = Sys.after s es
  /-- Every answer is one of those that are to be expected. -/
  answers : ∀ (i : Nat) x r, S.exchanges[i]? = some x → x.stage = .answered r →
    Answered app x (S.inner.slots i) r
  /-- The trail is that of the start with the rows of this run behind it. -/
  audit : S.inner.db.audit = s.audit ++ S.trail.map AuditRow.log
  /-- Each of these rows belongs to an exchange, no two to the same one, and none to one whose
      request has failed. -/
  rows : ∃ slots : List Nat, slots.Nodup ∧ List.Forall₂ (RowOf app S.exchanges) slots S.trail ∧
    ∀ i ∈ slots, ∀ q e l, S.inner.slots i ≠ .finished q (.error e) l

section

variable {app : App EduStell.Request ServiceError EduStell.Response}
  {S : Server Db Content Write ServiceError EduStell.Response EduStell.Request}
  {x : Exchange EduStell.Request} {s : Db}

/-- A framed response gives both ids back. -/
theorem Framed.givenBack {environment : Environment} {base r : Response}
    (h : Framed environment x.ids base r) : GivenBack xRequestId x r ∧ GivenBack xCorrelationId x r := by
  constructor
  · intro value text hget htext hblank
    rw [h.requestId]
    exact headerOrGenerate_given x.fresh.1 hget htext hblank
  · intro value text hget htext hblank
    rw [h.correlationId]
    exact headerOrGenerate_given x.fresh.2 hget htext hblank

/-- An answered exchange is answered for: by the limiter, at once, by the result of its request, or
    by a cut. -/
theorem answered_of_stands {a : Account} {r : Response}
    {slot : Slot Db Content Write ServiceError EduStell.Response EduStell.Request}
    (h : x.Stands app slot a) (hstage : x.stage = .answered r) : Answered app x slot r := by
  rw [Exchange.Stands, hstage] at h
  obtain ⟨hended, hcame⟩ := h
  obtain ⟨base, hinside, hframed⟩ := hended.response
  refine ⟨⟨base, ?_, hframed⟩, hframed.givenBack.1, hframed.givenBack.2⟩
  cases hinside with
  | limited path turned full => exact .limited path
  | answered room target came => exact .atOnce target
  | served room target came =>
    rw [Exchange.Came, came] at hcame
    rcases hcame with ⟨q, result, l, hslot, hworks, rfl⟩ | ⟨q, hslot, hworks⟩
    · exact .result hworks hslot
    · exact .cutOff hworks hslot

/-- A row stays the row of its exchange. -/
theorem RowOf.next {i : Nat} {row : AuditRow} (h : RowOf app S.exchanges i row) (e : ServerEvent) :
    RowOf app (S.next (workflows app) e).exchanges i row := by
  obtain ⟨x, q, hx, hworks, hcontext, hpersists⟩ := h
  obtain ⟨stage, hx'⟩ := Server.getElem?_next (workflows app) hx e
  exact ⟨_, q, hx', hworks, hcontext, hpersists⟩

/-- **A COMMIT publishes one row**, that of the exchange which waits for it. -/
theorem row_of_commit {es : List Happening} {acc : Nat → Account}
    {subject : String × String × Nat × String × String}
    (hsound : Sound (workflows app) subject S acc) (hrun : S.inner = Sys.after s es) {i : Nat}
    {scope : Option AuditContext} {q : EduStell.Request} {k : Outcome → Handling _ Response}
    (hx : S.exchanges[i]? = some x) (hstage : x.stage = .waiting scope q k)
    {c : Committed Db Resource Write EduStell.Request Nat}
    (hcommit : S.inner.commitOf (.step i) = some c) :
    ∃ row, c.slot = i ∧ RowOf app S.exchanges i row ∧
      (S.inner.next EduStell.Request.program (.step i)).db.audit = S.inner.db.audit ++ [row.log] ∧
      Server.published (workflows app) S.inner.db
        (S.inner.next EduStell.Request.program (.step i)).db scope = [row] := by
  obtain ⟨log, hpersists, hview⟩ := commit_row s es (hrun ▸ hcommit)
  obtain ⟨hstate, hdb⟩ := System.db_next_some EduStell.Request.program hcommit
  obtain ⟨hslot, p, hrunning⟩ := System.slot_of_commitOf hcommit
  obtain rfl : i = c.slot := by cases hslot; rfl
  have haudit : (S.inner.next EduStell.Request.program (.step c.slot)).db.audit =
      S.inner.db.audit ++ [log] := by
    rw [hdb, hview, hstate]
  -- the exchange waits for this request, in its own scope
  have hstands := hsound.stands c.slot x hx
  rw [Exchange.Stands, hstage] at hstands
  obtain ⟨⟨hscope, hworks, -⟩, -, hq⟩ := hstands
  have hrequest : c.request = q := by
    rcases hq with ⟨p', l', h⟩ | ⟨r, l', h⟩
    · cases hrunning.symm.trans h; rfl
    · cases hrunning.symm.trans h
  refine ⟨⟨log, scope⟩, rfl, ⟨x, q, hx, hworks, hscope, hrequest ▸ hpersists⟩, haudit, ?_⟩
  show ((S.inner.next EduStell.Request.program (.step c.slot)).db.audit.drop
    S.inner.db.audit.length).map _ = _
  rw [haudit, List.drop_left]
  rfl

/-- **The trail of the server**, by induction over its events: its rows are those of the commits in
    the history of the database, one each. -/
theorem trail_after (app : App EduStell.Request ServiceError EduStell.Response) (s : Db)
    (es : List ServerEvent) :
    ∃ es', (Server.after (workflows app) s es).inner = Sys.after s es' ∧
      (Server.after (workflows app) s es).inner.db.audit =
        s.audit ++ (Server.after (workflows app) s es).trail.map AuditRow.log ∧
      List.Forall₂ (RowOf app (Server.after (workflows app) s es).exchanges) (owners s es')
        (Server.after (workflows app) s es).trail := by
  induction es using List.reverseRecOn with
  | nil => exact ⟨[], rfl, (List.append_nil _).symm, .nil⟩
  | append_singleton es e ih =>
    obtain ⟨es', hrun, haudit, hrows⟩ := ih
    obtain ⟨acc, hsound⟩ := sound_after (workflows app) ("", "", 0, "", "") s es
    rw [Server.after_snoc]
    generalize Server.after (workflows app) s es = S at hrun haudit hrows hsound
    have hkept : List.Forall₂ (RowOf app (S.next (workflows app) e).exchanges) (owners s es')
        S.trail := hrows.imp fun _ _ h => h.next e
    have hsnoc : ∀ e', S.inner.next EduStell.Request.program e' = Sys.after s (es' ++ [e']) := by
      intro e'
      rw [hrun]
      exact (System.run_snoc _ _ _ _).symm
    have howners : ∀ e', owners s (es' ++ [e']) =
        owners s es' ++ ((S.inner.commitOf e').toList.map fun c => c.slot) := by
      intro e'
      rw [owners, System.history_snoc, List.map_append, hrun]
      rfl
    rcases Server.next_cases (workflows app) S e with
      ⟨htrail, hinner | ⟨e', hquiet, hinner⟩⟩ |
      ⟨i, x, scope, q, k, c, hx, hstage, hcommit, hinner, htrail⟩
    · rw [htrail, hinner]
      exact ⟨es', hrun, haudit, hkept⟩
    · refine ⟨es' ++ [e'], hinner.trans (hsnoc e'), ?_, ?_⟩
      · rw [htrail, hinner, System.db_next_none hquiet]
        exact haudit
      · rw [htrail, howners, hquiet, Option.toList_none, List.map_nil, List.append_nil]
        exact hkept
    · obtain ⟨row, hslot, hrow, hdb, hpublished⟩ := row_of_commit hsound hrun hx hstage hcommit
      have htrail : (S.next (workflows app) e).trail = S.trail ++ [row] :=
        htrail.trans (congrArg (S.trail ++ ·) hpublished)
      refine ⟨es' ++ [Event.step i], hinner.trans (hsnoc (.step i)), ?_, ?_⟩
      · rw [htrail, hinner, List.map_append, ← List.append_assoc, ← haudit]
        exact hdb
      · rw [htrail, howners, hcommit, Option.toList_some, List.map_singleton, hslot]
        exact List.rel_append hkept (.cons (hrow.next e) .nil)

end

/-- **Every answer and every audit row is traced to its request**, in every run of the server.

    Four parts: the server's database is an interleaved run of its requests; the answers are those
    of these requests, in their frame; the stored trail grows by the rows of the run; and these
    belong to exchanges, one to each at most. -/
theorem requests_traced (app : App EduStell.Request ServiceError EduStell.Response) (s : Db)
    (es : List ServerEvent) : Traced app s (Server.after (workflows app) s es) := by
  obtain ⟨es', hrun, haudit, hrows⟩ := trail_after app s es
  obtain ⟨acc, hsound⟩ := sound_after (workflows app) ("", "", 0, "", "") s es
  refine ⟨⟨es', hrun⟩, ?_, haudit, owners s es', owners_nodup s es', hrows, ?_⟩
  · intro i x r hx hstage
    exact answered_of_stands (hsound.stands i x hx) hstage
  · intro i hi q e l
    rw [hrun]
    exact not_failed_of_mem_owners hi

end EduStell.Http
