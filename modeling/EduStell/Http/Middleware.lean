/-
  The middleware of the API, from the outside to the inside as `build_router` stacks it: ids for the
  request, the request log, the metrics, security headers, the rate limit of the auth routes, the
  boundary for panics, and then the handlers.

  A middleware is a function of the request and of what comes next.  What it computes is translated
  as it is; each access to what requests share (a clock, an atomic counter, the map of windows, the
  log, the handler's own work) is an access of a task, so that other requests may come between any two
  of them.  `next.run(request).await` is the only place where a request waits for long, and the only
  place where a client that goes away ends it.

  Handlers are known by what they do with the request: `App.route` says whether a handler answers at
  once or works on the database, `App.respond` what it makes of the outcome.  A handler may panic.

  Each layer is a function of its own under the name that it has in the source, and `buildRouter`
  composes them.  A layer that answers by itself (a full window, a panic) does not call the next
  one, and what the outer layers add to the answer, they add to that answer too.
-/
import EduStell.Auth.Kinds
import EduStell.Http.Message
import EduStell.Task.Tree

namespace EduStell.Http

open Api Task Task.Tree

/-! ## What requests share

  Whatever is not in a request and can be seen by another one is reached by an access.  So a run
  in which requests take turns is a run of accesses. -/

/-- The counters of `MetricsRegistry`; `fetch_add` and `fetch_sub` wrap around. -/
structure MetricsRegistry where
  inFlightRequests : UInt64
  totalRequests : UInt64
  errorResponses : UInt64
  totalLatencyMs : UInt64
  auditQueries : UInt64
  healthChecks : UInt64

/-- The counters when the server starts. -/
def MetricsRegistry.new : MetricsRegistry := ⟨0, 0, 0, 0, 0, 0⟩

/-- One atomic operation on the registry. -/
inductive Count
  | inFlightAdd
  | inFlightSub
  | totalAdd
  | latencyAdd (ms : UInt64)
  | errorAdd
  | auditQueriesAdd
  | healthChecksAdd

/-- What an operation makes of the counters. -/
def MetricsRegistry.apply (m : MetricsRegistry) : Count → MetricsRegistry
  | .inFlightAdd => { m with inFlightRequests := m.inFlightRequests + 1 }
  | .inFlightSub => { m with inFlightRequests := m.inFlightRequests - 1 }
  | .totalAdd => { m with totalRequests := m.totalRequests + 1 }
  | .latencyAdd ms => { m with totalLatencyMs := m.totalLatencyMs + ms }
  | .errorAdd => { m with errorResponses := m.errorResponses + 1 }
  | .auditQueriesAdd => { m with auditQueries := m.auditQueries + 1 }
  | .healthChecksAdd => { m with healthChecks := m.healthChecks + 1 }

/-- A line of the request log. -/
structure LogLine where
  method : String
  path : String
  statusCode : Nat
  latencyMs : UInt64
  requestId : String
  correlationId : String
  deriving DecidableEq

/-- `application::audit::AuditContext` -/
structure AuditContext where
  requestId : String
  correlationId : String
  deriving DecidableEq

/-- What a handler ends with: a response, or the message of a panic. -/
abbrev Outcome : Type := Except String Response

variable {κ : Type}

/-- `turn` is the time under the lock of the map of windows. `serve` runs the handler's work on the
    database, `scope` being the audit context of the task. -/
inductive Access (κ : Type)
  | now
  | count (c : Count)
  | turn (key : String) (now : Instant)
  | log (line : LogLine)
  | serve (scope : Option AuditContext) (q : κ)

/-- What an access answers. -/
@[reducible] def Access.Answer : Access κ → Type
  | now => Instant
  | count _ => Unit
  | turn _ _ => Window
  | log _ => Unit
  | serve _ _ => Outcome

/-- A middleware at work: a task of accesses that ends with an `α`. -/
abbrev Handling (κ α : Type) : Type := Tree (Access κ) Access.Answer α

/-- What comes next in the stack. -/
abbrev Next (κ : Type) : Type := Request → Handling κ Response

/-- One access. -/
def perform (a : Access κ) : Handling κ a.Answer := access a

/-- `Instant::now()`. -/
def now : Handling κ Instant := perform .now

/-- One atomic operation on the registry. -/
def count (c : Count) : Handling κ Unit := perform (.count c)

/-- `tracing::info!`. -/
def info (line : LogLine) : Handling κ Unit := perform (.log line)

/-! ## `request_id`

  An id that the client has sent is kept if it can be read and is not blank; otherwise one is
  drawn.  The ids are then given back in the response and handed on to the handlers. -/

/-- The header of the request id. -/
def xRequestId : String := "x-request-id"

/-- The header of the correlation id. -/
def xCorrelationId : String := "x-correlation-id"

/-- `fresh` is what `Uuid::new_v4` draws. -/
def headerOrGenerate (headers : HeaderMap) (name : String) (fresh : Uuid) : String :=
  (((headers.get name).bind HeaderValue.toStr).filter fun value => !(trim value).isEmpty).getD
    fresh.hyphenated

/-- The ids of a request, given or drawn. -/
def Request.ids (request : Request) (fresh : Uuid × Uuid) : RequestContext where
  requestId := headerOrGenerate request.headers xRequestId fresh.1
  correlationId := headerOrGenerate request.headers xCorrelationId fresh.2

/-- Both ids as headers. -/
def setIds (headers : HeaderMap) (ids : RequestContext) : HeaderMap :=
  setHeader (setHeader headers xRequestId ids.requestId) xCorrelationId ids.correlationId

/-- The request as the next middleware gets it. -/
def Request.attached (request : Request) (fresh : Uuid × Uuid) : Request :=
  { request with
    headers := setIds request.headers (request.ids fresh)
    context := some (request.ids fresh) }

/-- The work of a handler gets the audit context of the task, unless it has one. -/
def Access.scoped (context : AuditContext) : Access κ → Access κ
  | serve scope q => serve (scope.or (some context)) q
  | a => a

/-- The context does not change what is answered. -/
theorem Access.answer_scoped (context : AuditContext) :
    ∀ a : Access κ, (a.scoped context).Answer = a.Answer
  | now => rfl
  | count _ => rfl
  | turn _ _ => rfl
  | log _ => rfl
  | serve _ _ => rfl

/-- What the task does within the scope it does in the context; an inner scope has precedence. -/
def scopeAuditContext {α : Type} (context : AuditContext) (p : Handling κ α) : Handling κ α :=
  p.relabel (Access.scoped context) (Access.answer_scoped context)

/-- The ids of the request: kept if the client has sent some, fresh otherwise, and sent back. -/
def attachRequestContext (fresh : Uuid × Uuid) (request : Request) (next : Next κ) :
    Handling κ Response := do
  let ids := request.ids fresh
  let response ← scopeAuditContext ⟨ids.requestId, ids.correlationId⟩
    (next (request.attached fresh))
  return { response with headers := setIds response.headers ids }

/-! ## `logging`

  The line is written after the response is there, with its status and the time it took. -/

/-- `as_millis`, cut to 64 bits. -/
def elapsedMs (startedAt endedAt : Instant) : UInt64 := UInt64.ofNat ((endedAt - startedAt) / 1000000)

/-- The line of the log is written once the response is there. -/
def logRequests (request : Request) (next : Next κ) : Handling κ Response := do
  let startedAt ← now
  let response ← next request
  let endedAt ← now
  info {
    method := request.method
    path := request.path
    statusCode := response.status
    latencyMs := elapsedMs startedAt endedAt
    requestId := (request.context.map fun ctx => ctx.requestId).getD "unknown"
    correlationId := (request.context.map fun ctx => ctx.correlationId).getD "unknown" }
  return response

/-! ## `metrics`

  `request_started` before, `request_finished` after.  Between the two the client may go away, and
  the second one is not called. -/

/-- The gauge goes up. -/
def requestStarted : Handling κ Unit := count .inFlightAdd

/-- The gauge goes down and the request is counted; a status from 500 on counts as an error. -/
def requestFinished (statusCode : Nat) (latencyMs : UInt64) : Handling κ Unit := do
  count .inFlightSub
  count .totalAdd
  count (.latencyAdd latencyMs)
  if statusCode ≥ 500 then count .errorAdd

/-- Between the start and the end of a request its client may go away, and then the end never comes.
    -/
def trackRequests (request : Request) (next : Next κ) : Handling κ Response := do
  let startedAt ← now
  requestStarted
  let response ← next request
  let endedAt ← now
  requestFinished response.status (elapsedMs startedAt endedAt)
  return response

/-! ## `security_headers`

  The headers are inserted, so a header of the same name from a handler is replaced. -/

/-- The headers that every response gets, in the order of the source. -/
def securityHeaders (environment : Environment) : List (String × String) :=
  [("x-content-type-options", "nosniff"),
    ("x-frame-options", "DENY"),
    ("referrer-policy", "no-referrer"),
    ("permissions-policy", "camera=(), microphone=(), geolocation=()"),
    ("content-security-policy", "default-src 'none'; frame-ancestors 'none'; base-uri 'none'"),
    ("cache-control", "no-store"),
    ("pragma", "no-cache")] ++
  if environment = .staging ∨ environment = .production then
    [("strict-transport-security", "max-age=31536000; includeSubDomains")]
  else []

/-- Headers set one after another. -/
def insertAll (headers : HeaderMap) (items : List (String × String)) : HeaderMap :=
  items.foldl (fun headers item => headers.insert item.1 (HeaderValue.fromStatic item.2)) headers

/-- The headers are set on the response, whoever has made it. -/
def applySecurityHeaders (environment : Environment) (request : Request) (next : Next κ) :
    Handling κ Response := do
  let response ← next request
  return { response with headers := insertAll response.headers (securityHeaders environment) }

/-! ## `rate_limit`

  The limiter sits inside the metrics and the log, so a refused request is counted and logged like
  any other. -/

/-- What the limiter reads of the request. -/
def Request.limited (request : Request) : HttpRequest where
  path := request.path
  xForwardedFor := request.headers.get "x-forwarded-for"
  xRealIp := request.headers.get "x-real-ip"

/-- The answer of the limiter. -/
def rateLimited : Response := .ofJson 429 tooManyRequests.headers tooManyRequests.body

/-- `turn` counts the request in its window and gives the entry. -/
def authRateLimit (request : Request) (next : Next κ) : Handling κ Response := do
  if !isLimitedPath request.path then next request
  else
    let key := rateLimitKey request.limited
    let now ← Http.now
    let entry ← perform (.turn key now)
    if entry.hits > authMaxRequests then return rateLimited
    next request

/-! ## `panic_boundary`

  The innermost layer: a panic of a handler becomes a response, and the layers around it do not
  notice. -/

/-- The message is logged; the client does not see it. -/
def catchPanic : Outcome → Response
  | .ok response => response
  | .error _ => .ofJson 500 [] (internalEnvelope none)

/-! ## The handlers

  A handler is known by its route and by what it makes of the outcome of its work. -/

/-- The counters that handlers have of their own: `audit_query`, `health_check`. -/
inductive Probe
  | auditQuery | healthCheck

/-- The operation with which a handler counts itself. -/
def Probe.count : Probe → Count
  | auditQuery => .auditQueriesAdd
  | healthCheck => .healthChecksAdd

/-- What the handler of a request does: count itself, if it does, and answer at once or work on the
    database. -/
structure Routed (κ : Type) where
  probe : Option Probe
  target : Outcome ⊕ κ

/-- The handlers, as the middleware sees them. -/
structure App (κ ε α : Type) where
  environment : Environment
  route : Request → Routed κ
  respond : κ → Except ε α → Outcome

variable {ε α : Type}

/-- The handler proper; what it panics with is caught. -/
def respond (app : App κ ε α) (request : Request) : Handling κ Response :=
  match (app.route request).target with
  | .inl outcome => return catchPanic outcome
  | .inr q => do
    let outcome ← perform (.serve none q)
    return catchPanic outcome

/-- A handler that counts itself does so before it answers. -/
def handle (app : App κ ε α) (request : Request) : Handling κ Response :=
  match (app.route request).probe with
  | some probe => do
    count probe.count
    respond app request
  | none => respond app request

/-- `build_router`; the layer that is added last is the outermost. -/
def buildRouter (app : App κ ε α) (fresh : Uuid × Uuid) (request : Request) : Handling κ Response :=
  attachRequestContext fresh request fun request =>
    logRequests request fun request =>
      trackRequests request fun request =>
        applySecurityHeaders app.environment request fun request =>
          authRateLimit request (handle app)

end EduStell.Http
