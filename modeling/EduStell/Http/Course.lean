/-
  What one request does on its way through the middleware, whatever happens meanwhile.

  The account of a request is what has been seen of it so far: what it has counted, what it has
  logged, its turn at the rate limiter and what came of its handler.  `watch` says what must hold of
  the account at each access and at the end, and `buildRouter_keeps` that the router keeps to it: a
  request counts itself in and out once, logs one line, runs its handler in its own audit context and
  at most once, and its response is that of the handler, of the panic boundary or of the limiter, with
  the ids and the security headers on top (`Framed`).

  The monitor is used twice: `EduStell.Http.Accounting` adds the accounts up, and
  `EduStell.Http.Traced` reads off the ids that a response and its audit row bear.
-/
import EduStell.Http.Middleware

namespace EduStell.Http

open Api Task Task.Tree

variable {κ ε α : Type}

/-! ## Headers of a response

  The middleware sets its headers last, on whatever response comes from inside; headers that it
  does not set are left. -/

/-- The names that the middleware sets. -/
def frameNames (environment : Environment) : List String :=
  xRequestId :: xCorrelationId :: (securityHeaders environment).map Prod.fst

/-- `r` is the response `base` from inside, with the ids and the security headers. -/
structure Framed (environment : Environment) (ids : RequestContext) (base r : Response) : Prop where
  /-- The middleware changes neither status nor body. -/
  status : r.status = base.status
  body : r.body = base.body
  /-- The request id is given back. -/
  requestId : r.headers.get xRequestId = HeaderValue.fromStr ids.requestId
  /-- So is the correlation id. -/
  correlationId : r.headers.get xCorrelationId = HeaderValue.fromStr ids.correlationId
  /-- All security headers are set. -/
  security : ∀ item ∈ securityHeaders environment,
    r.headers.get item.1 = some (HeaderValue.fromStatic item.2)
  /-- Every other header is left as it was. -/
  others : ∀ name ∉ frameNames environment, r.headers.get name = base.headers.get name

/-- The ids can be set as headers. -/
def RequestContext.Settable (ids : RequestContext) : Prop :=
  (HeaderValue.fromStr ids.requestId).isSome = true ∧
    (HeaderValue.fromStr ids.correlationId).isSome = true

/-- An id that is kept or generated can be sent back. -/
theorem headerOrGenerate_settable (headers : HeaderMap) (name : String) (fresh : Uuid) :
    (HeaderValue.fromStr (headerOrGenerate headers name fresh)).isSome = true := by
  unfold headerOrGenerate
  cases hgiven : ((headers.get name).bind HeaderValue.toStr).filter
      fun value => !(trim value).isEmpty with
  | none =>
    show (HeaderValue.fromStr fresh.hyphenated).isSome = true
    rw [HeaderValue.fromStr_hyphenated]; rfl
  | some s =>
    -- a given id was the text of a value
    obtain ⟨value, -, hs⟩ := Option.bind_eq_some_iff.mp (Option.eq_some_of_filter_eq_some hgiven)
    show (HeaderValue.fromStr s).isSome = true
    rw [HeaderValue.fromStr_of_toStr hs]; rfl

/-- So can both ids of a request. -/
theorem Request.ids_settable (request : Request) (fresh : Uuid × Uuid) :
    (request.ids fresh).Settable :=
  ⟨headerOrGenerate_settable _ _ _, headerOrGenerate_settable _ _ _⟩

/-- A header that can be set is found as it was set. -/
theorem get_setHeader_self (headers : HeaderMap) {name value : String}
    (h : (HeaderValue.fromStr value).isSome = true) :
    (setHeader headers name value).get name = HeaderValue.fromStr value := by
  obtain ⟨v, hv⟩ := Option.isSome_iff_exists.mp h
  rw [setHeader, hv]
  exact HeaderMap.get_insert_self headers v name

/-- Setting a header leaves the others. -/
theorem get_setHeader_of_ne (headers : HeaderMap) {name name' value : String} (h : name' ≠ name) :
    (setHeader headers name value).get name' = headers.get name' := by
  unfold setHeader
  split
  · exact HeaderMap.get_insert_of_ne headers _ h
  · rfl

/-- Setting headers leaves the others. -/
theorem get_insertAll_of_not_mem {items : List (String × String)} {name : String}
    (headers : HeaderMap) (h : name ∉ items.map Prod.fst) :
    (insertAll headers items).get name = headers.get name := by
  unfold insertAll
  induction items generalizing headers with
  | nil => rfl
  | cons item items ih =>
    rw [List.map_cons, List.mem_cons, not_or] at h
    rw [List.foldl_cons, ih _ h.2]
    exact HeaderMap.get_insert_of_ne headers _ h.1

/-- Each of several headers with different names is found as it was set. -/
theorem get_insertAll_of_mem {items : List (String × String)} (headers : HeaderMap)
    (hnodup : (items.map Prod.fst).Nodup) {item : String × String} (h : item ∈ items) :
    (insertAll headers items).get item.1 = some (HeaderValue.fromStatic item.2) := by
  unfold insertAll
  induction items generalizing headers with
  | nil => cases h
  | cons first items ih =>
    obtain ⟨hfirst, hnodup⟩ := List.nodup_cons.mp hnodup
    rcases List.mem_cons.mp h with rfl | h
    · -- the names that follow are others
      rw [List.foldl_cons]
      exact (get_insertAll_of_not_mem _ hfirst).trans (HeaderMap.get_insert_self headers _ _)
    · exact ih _ hnodup h

/-- The middleware sets every name once. -/
theorem nodup_frameNames (environment : Environment) : (frameNames environment).Nodup := by
  cases environment <;> decide

/-- **The frame of a response.** -/
theorem framed (environment : Environment) {ids : RequestContext} (hids : ids.Settable)
    {base r : Response} (hstatus : r.status = base.status) (hbody : r.body = base.body)
    (hheaders : r.headers = setIds (insertAll base.headers (securityHeaders environment)) ids) :
    Framed environment ids base r := by
  obtain ⟨hrequest, hnodup⟩ := List.nodup_cons.mp (nodup_frameNames environment)
  obtain ⟨hcorrelation, hnodup⟩ := List.nodup_cons.mp hnodup
  rw [List.mem_cons, not_or] at hrequest
  have hbelow : ∀ {name : String} (headers : HeaderMap), name ≠ xRequestId → name ≠ xCorrelationId →
      (setIds headers ids).get name = headers.get name := by
    intro name headers hr hc
    rw [setIds, get_setHeader_of_ne _ hc, get_setHeader_of_ne _ hr]
  constructor
  · exact hstatus
  · exact hbody
  · rw [hheaders, setIds, get_setHeader_of_ne _ hrequest.1, get_setHeader_self _ hids.1]
  · rw [hheaders]
    exact get_setHeader_self _ hids.2
  · intro item hitem
    have hmem : item.1 ∈ (securityHeaders environment).map Prod.fst := List.mem_map_of_mem hitem
    rw [hheaders, hbelow _ (fun he => hrequest.2 (he ▸ hmem)) (fun he => hcorrelation (he ▸ hmem))]
    exact get_insertAll_of_mem _ hnodup hitem
  · intro name hname
    simp only [frameNames, List.mem_cons, not_or] at hname
    rw [hheaders, hbelow _ hname.1 hname.2.1]
    exact get_insertAll_of_not_mem _ hname.2.2

/-- An id that a client gives comes back as it was given. -/
theorem headerOrGenerate_given {headers : HeaderMap} {name s : String} {value : HeaderValue}
    (fresh : Uuid) (hget : headers.get name = some value) (htext : value.toStr = some s)
    (hblank : (trim s).isEmpty = false) :
    HeaderValue.fromStr (headerOrGenerate headers name fresh) = some value := by
  have hfilter : (((headers.get name).bind HeaderValue.toStr).filter
      fun value => !(trim value).isEmpty) = some s := by
    rw [hget, Option.bind_some, htext, Option.filter_some, hblank]; rfl
  rw [headerOrGenerate, hfilter]
  exact HeaderValue.fromStr_of_toStr htext

/-! ## The account of a request

  An account has one field for each thing that may happen once.  `after` says which access fills
  which. -/

/-- What has been seen of a request. -/
structure Account where
  /-- What the request has added to the gauge, less what it has taken off. -/
  inFlight : Nat
  /-- How often it has been counted as finished. -/
  total : Nat
  /-- How often it has been counted as failed. -/
  errors : Nat
  /-- What it has logged. -/
  lines : List LogLine
  /-- The entry of its window, once it has had its turn at the limiter. -/
  turned : Option Window
  /-- The outcome of its handler's work, once there is one. -/
  came : Option Outcome

namespace Account

/-- Nothing has been seen. -/
def start : Account := ⟨0, 0, 0, [], none, none⟩

/-- What one operation of the registry changes. -/
def count (a : Account) : Count → Account
  | .inFlightAdd => { a with inFlight := a.inFlight + 1 }
  | .inFlightSub => { a with inFlight := a.inFlight - 1 }
  | .totalAdd => { a with total := a.total + 1 }
  | .errorAdd => { a with errors := a.errors + 1 }
  | _ => a

/-- What one access changes. -/
def after (a : Account) : (op : Access κ) → op.Answer → Account
  | .now, _ => a
  | .count c, _ => a.count c
  | .turn _ _, window => { a with turned := some window }
  | .log line, _ => { a with lines := a.lines ++ [line] }
  | .serve _ _, outcome => { a with came := some outcome }

/-- Nothing is counted or logged twice. -/
structure Once (a : Account) : Prop where
  inFlight : a.inFlight ≤ 1
  total : a.total ≤ 1
  errors : a.errors ≤ 1
  lines : a.lines.length ≤ 1

/-- The request counts as in flight, and that is all. -/
structure Flying (a : Account) : Prop where
  inFlight : a.inFlight = 1
  total : a.total = 0
  errors : a.errors = 0
  lines : a.lines = []

/-- What counts as in flight and as nothing else is counted once. -/
theorem Flying.once {a : Account} (h : a.Flying) : a.Once := by
  refine ⟨?_, ?_, ?_, ?_⟩
  · rw [h.inFlight]
  · rw [h.total]; omega
  · rw [h.errors]; omega
  · rw [h.lines]; exact Nat.zero_le 1

end Account

/-- The entry leaves no room for the request. -/
def isOver (window : Window) : Bool := window.hits > authMaxRequests

section

variable (app : App κ ε α) (request : Request)

/-- Where the response from inside comes from: the limiter, a handler that answers at once, or the
    handler's work. -/
inductive Inside : Account → Response → Prop
  | limited {a : Account} {window : Window} (path : isLimitedPath request.path = true)
    (turned : a.turned = some window) (full : isOver window = true) : Inside a rateLimited
  | answered {a : Account} {outcome : Outcome} (room : ∀ window, a.turned = some window →
    isOver window = false) (target : (app.route request).target = .inl outcome)
    (came : a.came = none) : Inside a (catchPanic outcome)
  | served {a : Account} {q : κ} {outcome : Outcome} (room : ∀ window, a.turned = some window →
    isOver window = false) (target : (app.route request).target = .inr q)
    (came : a.came = some outcome) : Inside a (catchPanic outcome)

/-- What must hold at an access; `scope` is met by the audit context of the handler's work. -/
def Before (scope : Option AuditContext → Prop) : Access κ → Account → Prop
  | .serve context q, a => scope context ∧ (app.route request).target = .inr q ∧ a.Flying ∧
    a.came = none ∧ ∀ window, a.turned = some window → isOver window = false
  | .count .inFlightSub, a => a.Flying
  | _, a => a.Once

/-- The line that the request log gets. -/
def Request.line (request : Request) (ids : RequestContext) (status : Nat) (latencyMs : UInt64) :
    LogLine :=
  ⟨request.method, request.path, status, latencyMs, ids.requestId, ids.correlationId⟩

/-- A request that has been answered with `r`. -/
structure Ended (ids : RequestContext) (r : Response) (a : Account) : Prop where
  /-- It no longer counts as in flight. -/
  inFlight : a.inFlight = 0
  /-- It has been counted once. -/
  total : a.total = 1
  /-- It counts as an error exactly with a status from 500 on. -/
  errors : a.errors = if 500 ≤ r.status then 1 else 0
  /-- It has one line in the log, with the status of its response. -/
  lines : ∃ latencyMs, a.lines = [request.line ids r.status latencyMs]
  /-- Its response is one from inside, framed. -/
  response : ∃ base, Inside app request a base ∧ Framed app.environment ids base r

/-- The monitor of a request. -/
def watch (scope : Option AuditContext → Prop) {β : Type} (ends : β → Account → Prop) :
    Monitor (Access κ) Access.Answer β Account where
  before := Before app request scope
  after op r a := a.after op r
  ends := ends

end

/-! ## The router keeps to it

  One lemma for each layer of the stack, in the form "the layer keeps to it, if what comes next
  does"; the router is their composition. -/

section

variable {app : App κ ε α} {request : Request} {scope : Option AuditContext → Prop}
  {a : Account} {β : Type} {ends : β → Account → Prop}

/-- An access that asks for nothing but that nothing has been counted twice. -/
theorem Keeps.perform {op : Access κ} {k : op.Answer → Handling κ β}
    (hop : Before app request scope op a)
    (h : ∀ r, (k r).Keeps (watch app request scope ends) (a.after op r)) :
    (Http.perform op >>= k).Keeps (watch app request scope ends) a :=
  Keeps.access hop h

/-- A middleware after what comes next. -/
theorem Keeps.next {γ : Type} {p : Handling κ γ} {k : γ → Handling κ β} {mid : γ → Account → Prop}
    (h : p.Keeps (watch app request scope mid) a)
    (hk : ∀ c a, mid c a → (k c).Keeps (watch app request scope ends) a) :
    (p >>= k).Keeps (watch app request scope ends) a := by
  have hp : p.Keeps ((watch app request scope fun c a =>
      (k c).Keeps (watch app request scope ends) a).ending mid) a := h
  exact Keeps.bind (hp.mono hk)

/-- The handler proper: its work is done at most once, and its outcome is what is answered. -/
theorem respond_keeps (hscope : scope none) (hflying : a.Flying) (hcame : a.came = none)
    (hroom : ∀ window, a.turned = some window → isOver window = false) :
    (respond app request).Keeps
      (watch app request scope fun base a => a.Flying ∧ Inside app request a base) a := by
  unfold respond
  split
  · rename_i outcome htarget
    exact ⟨hflying, .answered hroom htarget hcame⟩
  · rename_i q htarget
    refine Keeps.perform ⟨hscope, htarget, hflying, hcame, hroom⟩ fun outcome => ?_
    exact ⟨⟨hflying.inFlight, hflying.total, hflying.errors, hflying.lines⟩,
      .served hroom htarget rfl⟩

/-- A handler that counts itself first. -/
theorem handle_keeps (hscope : scope none) (hflying : a.Flying) (hcame : a.came = none)
    (hroom : ∀ window, a.turned = some window → isOver window = false) :
    (handle app request).Keeps
      (watch app request scope fun base a => a.Flying ∧ Inside app request a base) a := by
  unfold handle
  split
  · rename_i probe hprobe
    -- a probe is a counter that the account does not know
    cases probe with
    | auditQuery =>
      exact Keeps.perform hflying.once fun _ => respond_keeps hscope hflying hcame hroom
    | healthCheck =>
      exact Keeps.perform hflying.once fun _ => respond_keeps hscope hflying hcame hroom
  · exact respond_keeps hscope hflying hcame hroom

/-- The limiter: it answers, or it leaves the rest to the handler. -/
theorem authRateLimit_keeps (hscope : scope none) (hflying : a.Flying) (hcame : a.came = none)
    (hturned : a.turned = none) :
    (authRateLimit request (handle app)).Keeps
      (watch app request scope fun base a => a.Flying ∧ Inside app request a base) a := by
  unfold authRateLimit
  split
  · refine handle_keeps hscope hflying hcame fun window hwindow => ?_
    rw [hturned] at hwindow
    cases hwindow
  · rename_i hpath
    have hpath : isLimitedPath request.path = true := by simpa using hpath
    refine Keeps.perform hflying.once fun now => Keeps.perform hflying.once fun window => ?_
    have hflying' : ({ a with turned := some window } : Account).Flying :=
      ⟨hflying.inFlight, hflying.total, hflying.errors, hflying.lines⟩
    split
    · rename_i hover
      exact ⟨hflying', .limited hpath rfl (decide_eq_true hover)⟩
    · rename_i hroom
      refine handle_keeps hscope hflying' hcame fun window' hwindow => ?_
      obtain rfl := Option.some.inj hwindow
      exact decide_eq_false hroom

/-- The response from inside, with the security headers. -/
def Secured (app : App κ ε α) (request : Request) (a : Account) (r : Response) : Prop :=
  ∃ base, Inside app request a base ∧
    r = { base with headers := insertAll base.headers (securityHeaders app.environment) }

/-- The security headers are on the response, wherever it comes from. -/
theorem applySecurityHeaders_keeps (hscope : scope none) (hflying : a.Flying) (hcame : a.came = none)
    (hturned : a.turned = none) :
    (applySecurityHeaders app.environment request fun request =>
      authRateLimit request (handle app)).Keeps
      (watch app request scope fun r a => a.Flying ∧ Secured app request a r) a := by
  refine Keeps.next (authRateLimit_keeps hscope hflying hcame hturned) ?_
  rintro base a ⟨hflying, hinside⟩
  exact ⟨hflying, base, hinside, rfl⟩

/-- What a request has counted at the end. -/
structure Tracked (app : App κ ε α) (request : Request) (r : Response) (a : Account) : Prop where
  inFlight : a.inFlight = 0
  total : a.total = 1
  errors : a.errors = if 500 ≤ r.status then 1 else 0
  lines : a.lines = []
  secured : Secured app request a r

/-- A request whose end has been counted is counted once. -/
theorem Tracked.once {r : Response} (h : Tracked app request r a) : a.Once := by
  refine ⟨?_, ?_, ?_, ?_⟩
  · rw [h.inFlight]; omega
  · rw [h.total]
  · rw [h.errors]; split <;> omega
  · rw [h.lines]; exact Nat.zero_le 1

/-- Counting and logging leave it open where the response comes from. -/
theorem Inside.of_same {a' : Account} {base : Response} (h : Inside app request a base)
    (hturned : a'.turned = a.turned) (hcame : a'.came = a.came) : Inside app request a' base := by
  cases h with
  | limited path turned full => exact .limited path (hturned.trans turned) full
  | answered room target came =>
    exact .answered (fun window hw => room window (hturned.symm.trans hw)) target (hcame.trans came)
  | served room target came =>
    exact .served (fun window hw => room window (hturned.symm.trans hw)) target (hcame.trans came)

/-- The response stays explained as long as its sources do. -/
theorem Secured.of_same {a' : Account} {r : Response} (h : Secured app request a r)
    (hturned : a'.turned = a.turned) (hcame : a'.came = a.came) : Secured app request a' r := by
  obtain ⟨base, hinside, hr⟩ := h
  exact ⟨base, hinside.of_same hturned hcame, hr⟩

/-- The end of a request brings the gauge down and counts once. -/
theorem requestFinished_keeps {r : Response} {latencyMs : UInt64} (hflying : a.Flying)
    (hsecured : Secured app request a r) :
    (requestFinished r.status latencyMs : Handling κ Unit).Keeps
      (watch app request scope fun _ => Tracked app request r) a := by
  have hlanded : (a.count .inFlightSub).inFlight = 0 := by
    show a.inFlight - 1 = 0
    rw [hflying.inFlight]
  have htotal : ((a.count .inFlightSub).count .totalAdd).total = 1 := by
    show a.total + 1 = 1
    rw [hflying.total]
  have honce : ∀ a' : Account, a'.inFlight = 0 → a'.total ≤ 1 → a'.errors = a.errors →
      a'.lines = a.lines → a'.Once := by
    intro a' hinFlight htotal herrors hlines
    refine ⟨?_, htotal, ?_, ?_⟩
    · rw [hinFlight]; omega
    · rw [herrors, hflying.errors]; omega
    · rw [hlines, hflying.lines]; exact Nat.zero_le 1
  have hmid : (a.count .inFlightSub).total ≤ 1 := by
    show a.total ≤ 1
    rw [hflying.total]; omega
  refine Keeps.perform hflying fun _ => ?_
  refine Keeps.perform (honce _ hlanded hmid rfl rfl) fun _ => ?_
  refine Keeps.perform (honce _ hlanded (Nat.le_of_eq htotal) rfl rfl) fun _ => ?_
  split
  · rename_i hfailed
    refine ⟨honce _ hlanded (Nat.le_of_eq htotal) rfl rfl, fun _ => ?_⟩
    refine ⟨hlanded, htotal, ?_, hflying.lines, hsecured.of_same rfl rfl⟩
    rw [if_pos hfailed]
    show a.errors + 1 = 1
    rw [hflying.errors]
  · rename_i hfailed
    refine ⟨hlanded, htotal, ?_, hflying.lines, hsecured.of_same rfl rfl⟩
    rw [if_neg hfailed]
    exact hflying.errors

/-- The metrics: up at the start, down and counted at the end. -/
theorem trackRequests_keeps (hscope : scope none) :
    (trackRequests request fun request => applySecurityHeaders app.environment request
      fun request => authRateLimit request (handle app)).Keeps
      (watch app request scope (Tracked app request)) Account.start := by
  have hstart : Account.start.Once := ⟨by decide, by decide, by decide, by decide⟩
  refine Keeps.perform hstart fun startedAt => Keeps.perform hstart fun _ => ?_
  have hflying : (Account.start.count .inFlightAdd).Flying := ⟨rfl, rfl, rfl, rfl⟩
  refine Keeps.next (applySecurityHeaders_keeps hscope hflying rfl rfl) ?_
  rintro r a ⟨hflying, hsecured⟩
  refine Keeps.perform hflying.once fun endedAt => ?_
  exact Keeps.next (requestFinished_keeps hflying hsecured) fun _ a htracked => htracked

/-- The log: one line, after everything has been counted. -/
theorem logRequests_keeps {ids : RequestContext} (hids : request.context = some ids)
    (hscope : scope none) :
    (logRequests request fun request => trackRequests request fun request =>
      applySecurityHeaders app.environment request fun request =>
        authRateLimit request (handle app)).Keeps
      (watch app request scope fun r a => a.inFlight = 0 ∧ a.total = 1 ∧
        a.errors = (if 500 ≤ r.status then 1 else 0) ∧
        (∃ latencyMs, a.lines = [request.line ids r.status latencyMs]) ∧ Secured app request a r)
      Account.start := by
  have hstart : Account.start.Once := ⟨by decide, by decide, by decide, by decide⟩
  refine Keeps.perform hstart fun startedAt => Keeps.next (trackRequests_keeps hscope) ?_
  intro r a htracked
  refine Keeps.perform htracked.once fun endedAt => Keeps.perform htracked.once fun _ => ?_
  refine ⟨htracked.inFlight, htracked.total, htracked.errors, ⟨elapsedMs startedAt endedAt, ?_⟩,
    htracked.secured.of_same rfl rfl⟩
  show a.lines ++ [_] = _
  rw [htracked.lines, hids]
  rfl

end

/-- Within the scope of a context. -/
theorem scopeAuditContext_keeps {app : App κ ε α} {request : Request} {β : Type}
    {scope : Option AuditContext → Prop} {ends : β → Account → Prop} {context : AuditContext}
    {p : Handling κ β} {a : Account}
    (h : p.Keeps (watch app request (fun inner => scope (inner.or (some context))) ends) a) :
    (scopeAuditContext context p).Keeps (watch app request scope ends) a := by
  refine Keeps.relabel ?_
  have hsame : (watch app request scope ends).relabelled (Access.scoped context)
      (Access.answer_scoped context) =
      watch app request (fun inner => scope (inner.or (some context))) ends := by
    unfold Monitor.relabelled watch
    congr 1
    · funext op
      cases op with
      | count c => cases c <;> rfl
      | _ => rfl
    · funext op
      cases op <;> rfl
  rw [hsame]
  exact h

/-- The audit context of a request. -/
def RequestContext.audit (ids : RequestContext) : AuditContext := ⟨ids.requestId, ids.correlationId⟩

/-- **The router keeps to it.** -/
theorem buildRouter_keeps (app : App κ ε α) (fresh : Uuid × Uuid) (request : Request) :
    (buildRouter app fresh request).Keeps
      (watch app (request.attached fresh)
        (fun context => context = some (request.ids fresh).audit)
        (Ended app (request.attached fresh) (request.ids fresh))) Account.start := by
  unfold buildRouter attachRequestContext
  refine Keeps.next (scopeAuditContext_keeps (logRequests_keeps rfl rfl)) ?_
  rintro r a ⟨hinFlight, htotal, herrors, hlines, base, hinside, hsecured⟩
  refine ⟨hinFlight, htotal, herrors, hlines, base, hinside, ?_⟩
  refine framed app.environment (request.ids_settable fresh) ?_ ?_ ?_
  · rw [hsecured]
  · rw [hsecured]
  · rw [hsecured]

end EduStell.Http
