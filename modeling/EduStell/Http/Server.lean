/-
  The server: any number of exchanges with clients, access by access, over the interleaved database.

  An exchange is one request on its way through the router.  Its handler's work is a program of the
  system of `EduStell.Txn.Interleave`, in the slot that has the exchange's number; the middleware
  around it is a task.  One event is one access of one exchange, or one statement of its program;
  besides, handlers may be cut off anywhere, by a panic or by the loss of their connection, and clients
  may leave while their handlers work, which drops the future of the exchange.

  An audit row is written on the task of its request: what a COMMIT of the request publishes bears the
  audit context of the task.

  The state has the exchanges with their stages, the database system, the metrics, the log, the
  windows of the rate limit and the stored trail.  A stage says where the middleware is: at work,
  waiting for its handler, answered, or left by its client.
-/
import EduStell.Audit
import EduStell.Http.Course
import EduStell.Txn.Interleave

namespace EduStell.Http

open Api Task Txn

variable {σ R : Type} {V : R → Type} {W ε α κ : Type}

/-- A stored row of `audit_logs`, with the ids that the redaction fills in. -/
structure AuditRow where
  log : AuditLog
  context : Option AuditContext

/-! ## Exchanges

  An exchange is either between two accesses, or waits for its handler, or is over. -/

/-- Where an exchange is: between two accesses, waiting for the handler's work, answered, or left by
    its client. -/
inductive Stage (κ : Type)
  | working (p : Handling κ Response)
  | waiting (scope : Option AuditContext) (q : κ) (k : Outcome → Handling κ Response)
  | answered (r : Response)
  | left

/-- A request on its way through the server. -/
structure Exchange (κ : Type) where
  request : Request
  fresh : Uuid × Uuid
  stage : Stage κ

namespace Exchange

/-- The request as the handlers see it, and its ids. -/
def attached (x : Exchange κ) : Request := x.request.attached x.fresh

/-- The ids of the request. -/
def ids (x : Exchange κ) : RequestContext := x.request.ids x.fresh

/-- The work that the handler has for the database. -/
def Works (app : App κ ε α) (x : Exchange κ) (q : κ) : Prop := (app.route x.attached).target = .inr q

end Exchange

/-- The server: the database with its slots, what the requests share, and the requests. -/
structure Server (σ : Type) {R : Type} (V : R → Type) (W ε α κ : Type) : Type where
  inner : System σ V W ε α κ Nat
  metrics : MetricsRegistry
  windows : Windows
  log : List LogLine
  trail : List AuditRow
  exchanges : List (Exchange κ)

/-! ## Events

  The server does one thing at a time; which one, and of which exchange, is up to the run. -/

/-- A request arrives; a request makes one access, or one step in the database; the handler's task
    is cut off; a client leaves. -/
inductive ServerEvent
  | arrive (request : Request) (fresh : Uuid × Uuid)
  | step (i : Nat) (instant : Instant)
  | cut (i : Nat) (outcome : Outcome)
  | leave (i : Nat)

/-- What the server runs: the router, the programs behind the handlers, and where the database keeps
    its audit rows. -/
structure Service (σ : Type) {R : Type} (V : R → Type) (W ε α κ : Type) where
  app : App κ ε α
  program : κ → Program σ V W ε α
  audit : σ → List AuditLog

namespace Server

/-- The server without requests. -/
def start (s : σ) : Server σ V W ε α κ :=
  ⟨System.start s, .new, fun _ => none, [], [], []⟩

/-- Exchange `i` is `x` now, in another stage. -/
def put (S : Server σ V W ε α κ) (i : Nat) (x : Exchange κ) (stage : Stage κ) :
    Server σ V W ε α κ :=
  { S with exchanges := S.exchanges.set i { x with stage := stage } }

variable [Store σ V W] [DecidableEq R] (service : Service σ V W ε α κ)

/-- The next access of exchange `i`. -/
def access (S : Server σ V W ε α κ) (i : Nat) (x : Exchange κ) (instant : Instant) :
    Handling κ Response → Server σ V W ε α κ
  | .done r => S.put i x (.answered r)
  | .ask .now k => S.put i x (.working (k instant))
  | .ask (.count c) k => { S with metrics := S.metrics.apply c }.put i x (.working (k ()))
  | .ask (.turn key now) k =>
    let entry := hit (S.windows key) now
    { S with windows := fun key' => if key' = key then some entry else S.windows key' }.put i x
      (.working (k entry))
  | .ask (.log line) k => { S with log := S.log ++ [line] }.put i x (.working (k ()))
  | .ask (.serve scope q) k =>
    { S with inner := S.inner.next service.program (.call i q) }.put i x (.waiting scope q k)

/-- The rows that a step of the database has published, in the context of a task. -/
def published (service : Service σ V W ε α κ) (before after : σ)
    (context : Option AuditContext) : List AuditRow :=
  ((service.audit after).drop (service.audit before).length).map fun log => ⟨log, context⟩

/-- The handler's work of exchange `i` goes on: its next statement, or what the handler makes of its
    result. -/
def work (S : Server σ V W ε α κ) (i : Nat) (x : Exchange κ)
    (scope : Option AuditContext) (q : κ) (k : Outcome → Handling κ Response) :
    Server σ V W ε α κ :=
  match S.inner.slots i with
  | .finished _ r _ => S.put i x (.working (k (service.app.respond q r)))
  | _ =>
    let inner := S.inner.next service.program (.step i)
    { S with
      inner := inner
      trail := S.trail ++ published service S.inner.db inner.db scope }

/-- The handler's work of exchange `i` ends before its time. -/
def drop (S : Server σ V W ε α κ) (i : Nat) (x : Exchange κ) (stage : Stage κ) :
    Server σ V W ε α κ :=
  match S.inner.slots i with
  | .running _ _ _ =>
    { S with inner := S.inner.next service.program (.drop i) }.put i x stage
  | _ => S

/-- One event; what is asked of an exchange that is not there, or not in that stage, does nothing. -/
def next (S : Server σ V W ε α κ) : ServerEvent → Server σ V W ε α κ
  | .arrive request fresh =>
    { S with exchanges := S.exchanges ++
        [⟨request, fresh, .working (buildRouter service.app fresh request)⟩] }
  | .step i instant =>
    match S.exchanges[i]? with
    | some x =>
      match x.stage with
      | .working p => S.access service i x instant p
      | .waiting scope q k => S.work service i x scope q k
      | _ => S
    | none => S
  | .cut i outcome =>
    match S.exchanges[i]? with
    | some x =>
      match x.stage with
      | .waiting _ _ k => S.drop service i x (.working (k outcome))
      | _ => S
    | none => S
  | .leave i =>
    match S.exchanges[i]? with
    | some x =>
      match x.stage with
      | .waiting _ _ _ => S.drop service i x .left
      | _ => S
    | none => S

/-! ## What an event can do

  The relation `Moves` lists the possible changes of the server, and an invariant is proved along
  its cases. -/

/-- What one event can make of the server. -/
inductive Moves (S : Server σ V W ε α κ) : Server σ V W ε α κ → Prop
  /-- The event is none, or finds its exchange in another stage. -/
  | stay : Moves S S
  /-- A request comes in. -/
  | arrive (request : Request) (fresh : Uuid × Uuid) : Moves S { S with exchanges := S.exchanges ++
      [⟨request, fresh, .working (buildRouter service.app fresh request)⟩] }
  /-- One access of the middleware. -/
  | access {i : Nat} {x : Exchange κ} {p : Handling κ Response} (found : S.exchanges[i]? = some x)
      (stage : x.stage = .working p) (instant : Instant) : Moves S (S.access service i x instant p)
  /-- One statement of the handler's work, or what the handler makes of its end. -/
  | work {i : Nat} {x : Exchange κ} {scope : Option AuditContext} {q : κ}
      {k : Outcome → Handling κ Response} (found : S.exchanges[i]? = some x)
      (stage : x.stage = .waiting scope q k) : Moves S (S.work service i x scope q k)
  /-- The work is cut off, and the middleware goes on with what comes of that. -/
  | cut {i : Nat} {x : Exchange κ} {scope : Option AuditContext} {q : κ}
      {k : Outcome → Handling κ Response} (found : S.exchanges[i]? = some x)
      (stage : x.stage = .waiting scope q k) (outcome : Outcome) :
      Moves S (S.drop service i x (.working (k outcome)))
  /-- The client leaves while the work is under way. -/
  | leave {i : Nat} {x : Exchange κ} {scope : Option AuditContext} {q : κ}
      {k : Outcome → Handling κ Response} (found : S.exchanges[i]? = some x)
      (stage : x.stage = .waiting scope q k) : Moves S (S.drop service i x .left)

/-- **Every event is one of these.** -/
theorem moves (S : Server σ V W ε α κ) (e : ServerEvent) : Moves service S (S.next service e) := by
  cases e with
  | arrive request fresh => exact .arrive request fresh
  | step i instant =>
    simp only [next]
    split
    · rename_i x hx
      split
      · rename_i p hstage
        exact .access hx hstage instant
      · rename_i scope q k hstage
        exact .work hx hstage
      · exact .stay
    · exact .stay
  | cut i outcome =>
    simp only [next]
    split
    · rename_i x hx
      split
      · rename_i scope q k hstage
        exact .cut hx hstage outcome
      · exact .stay
    · exact .stay
  | leave i =>
    simp only [next]
    split
    · rename_i x hx
      split
      · rename_i scope q k hstage
        exact .leave hx hstage
      · exact .stay
    · exact .stay

/-- The server after the events `es`. -/
def after (s : σ) (es : List ServerEvent) : Server σ V W ε α κ :=
  es.foldl (next service) (start s)

/-- The last event comes after the others. -/
theorem after_snoc (s : σ) (es : List ServerEvent) (e : ServerEvent) :
    after service s (es ++ [e]) = (after service s es).next service e := by
  rw [after, List.foldl_append]; rfl

end Server

end EduStell.Http
