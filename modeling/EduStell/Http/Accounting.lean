/-
  The books of the server: what the metrics and the request log say of the exchanges.

  Every exchange has an account, and the counters are the sums of the accounts (`Books`).  One access
  of one exchange moves its account and the counters alike (`Books.access`), so the sums are kept
  whatever the order of the accesses is.  What an account is at each stage is known from the monitor:
  an exchange that waits for its handler is in flight, one that has been answered is not, has been
  counted once and has one line in the log.

  A client that leaves while its handler works leaves the gauge as it was: `request_finished` is never
  called, so the gauge counts the clients that have left for good.

  The plan: what an exchange has counted is known from its stage (`Stands`); an event moves one
  account and the counters alike (`Sound.next`); so the counters are sums over exchanges in every
  state (`sound_after`), and each of the sums is read stage by stage (`Sound.total`).
-/
import EduStell.Http.Server
import EduStell.Txn.Progress
import Mathlib.Algebra.BigOperators.Group.Finset.Basic

namespace EduStell.Http

open Api Task Txn

variable {σ R : Type} {V : R → Type} {W ε α κ : Type}

/-! ## Where an exchange stands

  `Stands` ties the stage of an exchange to the state of its monitor: what an exchange has counted
  is known from where it is. -/

namespace Exchange

variable (app : App κ ε α) (x : Exchange κ)

/-- The audit context that the handler's work has to have. -/
def scope (context : Option AuditContext) : Prop := context = some x.ids.audit

/-- The monitor of the exchange. -/
def watched : Monitor (Access κ) Access.Answer Response Account :=
  watch app x.attached x.scope (Ended app x.attached x.ids)

/-- What has come of the handler's work, and the slot that it was done in. -/
def Came (slot : Slot σ V W ε α κ) (a : Account) : Prop :=
  match a.came with
  | none => slot = .idle
  | some outcome => (∃ q r l, slot = .finished q r l ∧ x.Works app q ∧ outcome = app.respond q r) ∨
    ∃ q, slot = .lost q ∧ x.Works app q

/-- What is known of an exchange at its stage. -/
def Stands (slot : Slot σ V W ε α κ) (a : Account) : Prop :=
  match x.stage with
  | .working p => p.Keeps (x.watched app) a ∧ x.Came app slot a
  | .waiting scope q k => Before app x.attached x.scope (.serve scope q) a ∧
    (∀ outcome, (k outcome).Keeps (x.watched app) { a with came := some outcome }) ∧
    ((∃ p l, slot = .running q p l) ∨ ∃ r l, slot = .finished q r l)
  | .answered r => Ended app x.attached x.ids r a ∧ x.Came app slot a
  | .left => a.Flying ∧ ∃ q, slot = .lost q ∧ x.Works app q

end Exchange

/-! ## Sums

  The counters wrap, so the sums are taken modulo 2^64 where a counter is compared with them. -/

/-- In flight, finished, failed, and lines of the log with a certain subject. -/
abbrev Totals : Type := Nat × Nat × Nat × Nat

/-- A line, but for how long it took. -/
def LogLine.subject (line : LogLine) : String × String × Nat × String × String :=
  (line.method, line.path, line.statusCode, line.requestId, line.correlationId)

section

variable (subject : String × String × Nat × String × String)

/-- How many lines have the subject. -/
def linesOf (lines : List LogLine) : Nat := (lines.map LogLine.subject).count subject

/-- What an account adds to the counters and to the log. -/
def Account.totals (a : Account) : Totals := (a.inFlight, a.total, a.errors, linesOf subject a.lines)

/-- The counters and the log have these totals. -/
structure Books (m : MetricsRegistry) (log : List LogLine) (t : Totals) : Prop where
  inFlight : m.inFlightRequests = UInt64.ofNat t.1
  total : m.totalRequests = UInt64.ofNat t.2.1
  errors : m.errorResponses = UInt64.ofNat t.2.2.1
  log : linesOf subject log = t.2.2.2

variable {subject} {m : MetricsRegistry} {log : List LogLine} {t : Totals} {a : Account}

/-- Counters wrap around as their sum does. -/
theorem ofNat_succ (n : Nat) : UInt64.ofNat (n + 1) = UInt64.ofNat n + 1 := UInt64.ofNat_add n 1

/-- **A counter moves as the account does.** -/
theorem Books.count {c : Count} (hsub : c = .inFlightSub → a.inFlight = 1)
    (h : Books subject m log (t + a.totals subject)) :
    Books subject (m.apply c) log (t + (a.count c).totals subject) := by
  -- a count moves one of the counters and the entry for it alike, modulo 2^64
  obtain ⟨hinFlight, htotal, herrors, hlog⟩ := h
  cases c with
  | inFlightAdd =>
    refine ⟨?_, htotal, herrors, hlog⟩
    show m.inFlightRequests + 1 = UInt64.ofNat (t.1 + (a.inFlight + 1))
    rw [hinFlight, ← Nat.add_assoc, ofNat_succ]; rfl
  -- the subtraction undoes the addition of the same exchange, so it never borrows
  | inFlightSub =>
    refine ⟨?_, htotal, herrors, hlog⟩
    show m.inFlightRequests - 1 = UInt64.ofNat (t.1 + (a.inFlight - 1))
    have hinFlight : m.inFlightRequests = UInt64.ofNat (t.1 + a.inFlight) := hinFlight
    rw [hinFlight, hsub rfl, ofNat_succ, UInt64.add_sub_cancel, Nat.sub_self, Nat.add_zero]
  | totalAdd =>
    refine ⟨hinFlight, ?_, herrors, hlog⟩
    show m.totalRequests + 1 = UInt64.ofNat (t.2.1 + (a.total + 1))
    rw [htotal, ← Nat.add_assoc, ofNat_succ]; rfl
  | errorAdd =>
    refine ⟨hinFlight, htotal, ?_, hlog⟩
    show m.errorResponses + 1 = UInt64.ofNat (t.2.2.1 + (a.errors + 1))
    rw [herrors, ← Nat.add_assoc, ofNat_succ]; rfl
  -- counters that the account does not follow
  | latencyAdd ms => exact ⟨hinFlight, htotal, herrors, hlog⟩
  | auditQueriesAdd => exact ⟨hinFlight, htotal, herrors, hlog⟩
  | healthChecksAdd => exact ⟨hinFlight, htotal, herrors, hlog⟩

/-- The lines of two parts of the log. -/
theorem linesOf_append (lines lines' : List LogLine) :
    linesOf subject (lines ++ lines') = linesOf subject lines + linesOf subject lines' := by
  rw [linesOf, List.map_append, List.count_append]; rfl

/-- A line is logged, and the account has it. -/
theorem Books.line {line : LogLine} (h : Books subject m log (t + a.totals subject)) :
    Books subject m (log ++ [line])
      (t + ({ a with lines := a.lines ++ [line] } : Account).totals subject) := by
  refine ⟨h.inFlight, h.total, h.errors, ?_⟩
  show linesOf subject (log ++ [line]) = t.2.2.2 + linesOf subject (a.lines ++ [line])
  rw [linesOf_append, linesOf_append, h.log, ← Nat.add_assoc]
  rfl

/-- The sum over the exchanges. -/
def sumOf (subject : String × String × Nat × String × String) (acc : Nat → Account) (n : Nat) :
    Totals :=
  ∑ i ∈ Finset.range n, (acc i).totals subject

/-- One account and the others. -/
theorem sumOf_split (acc : Nat → Account) {i n : Nat} (hi : i < n) :
    sumOf subject acc n =
      ∑ j ∈ (Finset.range n).erase i, (acc j).totals subject + (acc i).totals subject :=
  (Finset.sum_erase_add _ _ (Finset.mem_range.mpr hi)).symm

/-- One account has changed and the others have not. -/
theorem sumOf_update (acc : Nat → Account) {i n : Nat} (hi : i < n) (a : Account) :
    sumOf subject (Function.update acc i a) n =
      ∑ j ∈ (Finset.range n).erase i, (acc j).totals subject + a.totals subject := by
  rw [sumOf_split _ hi, Function.update_self]
  refine congrArg (· + a.totals subject) (Finset.sum_congr rfl fun j hj => ?_)
  rw [Function.update_of_ne (Finset.ne_of_mem_erase hj)]

end

/-! ## Every event keeps the books

  An access moves one account and, by the same amount, the counters.  No other exchange is looked
  at. -/

section

variable [Store σ V W] [DecidableEq R] {service : Service σ V W ε α κ}
  {subject : String × String × Nat × String × String}

/-- The exchanges stand as their accounts say, and the books are their sum. -/
structure Sound (service : Service σ V W ε α κ)
    (subject : String × String × Nat × String × String) (S : Server σ V W ε α κ)
    (acc : Nat → Account) : Prop where
  /-- Each exchange stands as its account says. -/
  stands : ∀ (i : Nat) (x : Exchange κ), S.exchanges[i]? = some x →
    x.Stands service.app (S.inner.slots i) (acc i)
  /-- A slot without an exchange is idle. -/
  idle : ∀ i, S.exchanges.length ≤ i → S.inner.slots i = .idle
  /-- The counters and the log are the sum of the accounts. -/
  books : Books subject S.metrics S.log (sumOf subject acc S.exchanges.length)

variable {S S' : Server σ V W ε α κ} {acc : Nat → Account} {i : Nat} {x : Exchange κ}

omit [Store σ V W] [DecidableEq R] in
/-- The server at its start: no exchange, and counters at zero. -/
theorem Sound.start (s : σ) :
    Sound service subject (Server.start s : Server σ V W ε α κ) fun _ => .start where
  stands i x hx := by cases hx
  idle i _ := rfl
  books := ⟨rfl, rfl, rfl, rfl⟩

omit [Store σ V W] [DecidableEq R] in
/-- Exchange `i` moves on and nothing else does: enough to look at exchange `i`. -/
theorem Sound.move (h : Sound service subject S acc) (hx : S.exchanges[i]? = some x) {stage : Stage κ}
    {a : Account} (hexchanges : S'.exchanges = S.exchanges.set i { x with stage := stage })
    (hslots : ∀ j, j ≠ i → S'.inner.slots j = S.inner.slots j)
    (hstands : Exchange.Stands service.app { x with stage := stage } (S'.inner.slots i) a)
    (hbooks : ∀ t, Books subject S.metrics S.log (t + (acc i).totals subject) →
      Books subject S'.metrics S'.log (t + a.totals subject)) :
    Sound service subject S' (Function.update acc i a) := by
  have hi : i < S.exchanges.length := (List.getElem?_eq_some_iff.mp hx).1
  have hlength : S'.exchanges.length = S.exchanges.length := by rw [hexchanges, List.length_set]
  -- every exchange stands, the slots without one are idle, and the books are in balance
  constructor
  · intro j y hy
    rw [hexchanges, List.getElem?_set] at hy
    -- the exchange that has moved, or another one
    by_cases hji : j = i
    · subst hji
      rw [if_pos rfl, if_pos hi] at hy
      obtain rfl := Option.some.inj hy
      rw [Function.update_self]
      exact hstands
    · rw [if_neg (Ne.symm hji)] at hy
      rw [Function.update_of_ne hji, hslots j hji]
      exact h.stands j y hy
  · intro j hj
    rw [hlength] at hj
    rw [hslots j (by omega)]
    exact h.idle j hj
  · -- the sum differs in one term
    rw [hlength, sumOf_update acc hi]
    refine hbooks _ ?_
    rw [← sumOf_split acc hi]
    exact h.books

omit [Store σ V W] [DecidableEq R] in
/-- Exchange `i` goes on with its task, and the database does not notice. -/
theorem Sound.goOn (h : Sound service subject S acc) (hx : S.exchanges[i]? = some x)
    {p : Handling κ Response} {a : Account}
    (hexchanges : S'.exchanges = S.exchanges.set i { x with stage := .working p })
    (hinner : S'.inner = S.inner) (hcame : a.came = (acc i).came)
    (hslot : x.Came service.app (S.inner.slots i) (acc i)) (hkeeps : p.Keeps (x.watched service.app) a)
    (hbooks : ∀ t, Books subject S.metrics S.log (t + (acc i).totals subject) →
      Books subject S'.metrics S'.log (t + a.totals subject)) :
    Sound service subject S' (Function.update acc i a) := by
  refine h.move hx hexchanges (fun j _ => by rw [hinner]) ⟨hkeeps, ?_⟩ hbooks
  rw [hinner, Exchange.Came, hcame]
  exact hslot

/-- One access of an exchange keeps the books. -/
theorem Sound.access (h : Sound service subject S acc) (hx : S.exchanges[i]? = some x)
    {p : Handling κ Response} (hstage : x.stage = .working p) (instant : Instant) :
    ∃ acc', Sound service subject (S.access service i x instant p) acc' := by
  have hstands := h.stands i x hx
  rw [Exchange.Stands, hstage] at hstands
  obtain ⟨hkeeps, hcame⟩ := hstands
  cases p with
  | done r =>
    exact ⟨_, h.move hx rfl (fun _ _ => rfl) ⟨hkeeps, hcame⟩ fun _ hbooks => hbooks⟩
  | ask op k =>
    obtain ⟨hbefore, hrest⟩ := hkeeps
    cases op with
    | now => exact ⟨_, h.goOn hx rfl rfl rfl hcame (hrest instant) fun _ hbooks => hbooks⟩
    | count c =>
      refine ⟨_, h.goOn hx rfl rfl ?_ hcame (hrest ()) fun _ hbooks => hbooks.count ?_⟩
      · show ((acc i).count c).came = _
        cases c <;> rfl
      · rintro rfl
        exact (hbefore : (acc i).Flying).inFlight
    | turn key now =>
      let entry := hit (S.windows key) now
      exact ⟨_, h.goOn (a := { acc i with turned := some entry }) hx rfl rfl rfl hcame (hrest entry)
        fun _ hbooks => hbooks⟩
    | log line =>
      exact ⟨_, h.goOn (a := { acc i with lines := (acc i).lines ++ [line] }) hx rfl rfl rfl hcame
        (hrest ()) fun _ hbooks => hbooks.line⟩
    | serve scope q =>
      -- the handler's work begins in a slot that is free
      have hidle : S.inner.slots i = .idle := by
        have hnone : (acc i).came = none := hbefore.2.2.2.1
        rw [Exchange.Came, hnone] at hcame
        exact hcame
      have hnext : S.inner.next service.program (.call i q) =
          S.inner.set i (.running q (service.program q) Session.init) := by
        simp only [System.next, hidle]
      refine ⟨Function.update acc i (acc i), h.move (a := acc i) hx rfl ?_ ?_ fun _ hbooks => hbooks⟩
      · intro j hj
        show (S.inner.next service.program (.call i q)).slots j = S.inner.slots j
        rw [hnext]
        exact if_neg hj
      · refine ⟨hbefore, hrest, .inl ⟨service.program q, Session.init, ?_⟩⟩
        show (S.inner.next service.program (.call i q)).slots i = _
        rw [hnext]
        exact if_pos rfl

/-- One step of the handler's work keeps the books. -/
theorem Sound.work (h : Sound service subject S acc) (hx : S.exchanges[i]? = some x)
    {scope : Option AuditContext} {q : κ} {k : Outcome → Handling κ Response}
    (hstage : x.stage = .waiting scope q k) :
    ∃ acc', Sound service subject (S.work service i x scope q k) acc' := by
  have hstands := h.stands i x hx
  rw [Exchange.Stands, hstage] at hstands
  obtain ⟨hbefore, hrest, hslot⟩ := hstands
  have hworks : x.Works service.app q := hbefore.2.1
  -- the slot of a waiting exchange runs, or is done
  unfold Server.work
  rcases hslot with ⟨p, l, hslot⟩ | ⟨r, l, hslot⟩
  · -- the next statement; the exchange waits on
    rw [hslot]
    have hsame : S.exchanges = S.exchanges.set i { x with stage := .waiting scope q k } := by
      obtain ⟨hi, hget⟩ := List.getElem?_eq_some_iff.mp hx
      rw [← hstage, ← hget]
      exact (List.set_getElem_self hi).symm
    refine ⟨Function.update acc i (acc i), h.move (a := acc i) hx hsame ?_ ?_ fun _ hbooks => hbooks⟩
    · intro j hj
      show (S.inner.next service.program (.step i)).slots j = S.inner.slots j
      exact System.slots_step_ne hj
    · refine ⟨hbefore, hrest, ?_⟩
      show (∃ p' l', (S.inner.next service.program (.step i)).slots i = .running q p' l') ∨ _
      exact System.slots_step_self hslot
  · -- the result, and what the handler makes of it
    rw [hslot]
    let outcome := service.app.respond q r
    refine ⟨_, h.move (a := { acc i with came := some outcome }) hx rfl (fun _ _ => rfl) ?_
      fun _ hbooks => hbooks⟩
    exact ⟨hrest outcome, .inl ⟨q, r, l, hslot, hworks, rfl⟩⟩

/-- The handler's work is cut off; `stage` is what becomes of the exchange. -/
theorem Sound.drop (h : Sound service subject S acc) (hx : S.exchanges[i]? = some x)
    {scope : Option AuditContext} {q : κ} {k : Outcome → Handling κ Response}
    (hstage : x.stage = .waiting scope q k) {stage : Stage κ} {a : Account}
    (htotals : a.totals subject = (acc i).totals subject)
    (hstands : ∀ slot : Slot σ V W ε α κ, slot = .lost q →
      Exchange.Stands service.app { x with stage := stage } slot a) :
    ∃ acc', Sound service subject (S.drop service i x stage) acc' := by
  have hold := h.stands i x hx
  rw [Exchange.Stands, hstage] at hold
  obtain ⟨-, -, hslot⟩ := hold
  unfold Server.drop
  -- a call that still runs is lost; one that is done cannot be cut off
  rcases hslot with ⟨p, l, hslot⟩ | ⟨r, l, hslot⟩
  · rw [hslot]
    have hnext : S.inner.next service.program (.drop i) =
        (S.inner.release i).set i (.lost q) := by rw [System.next, hslot]
    refine ⟨_, h.move (a := a) hx rfl ?_ (hstands _ ?_) fun t hbooks => by rwa [htotals]⟩
    · intro j hj
      show (S.inner.next service.program (.drop i)).slots j = _
      rw [hnext]
      exact if_neg hj
    · show (S.inner.next service.program (.drop i)).slots i = _
      rw [hnext]
      exact if_pos rfl
  · rw [hslot]
    exact ⟨acc, h⟩

omit [Store σ V W] [DecidableEq R] in
/-- A request arrives, and nothing has been counted of it. -/
theorem Sound.arrive (h : Sound service subject S acc) (request : Request) (fresh : Uuid × Uuid) :
    ∃ acc', Sound service subject { S with exchanges := S.exchanges ++
      [⟨request, fresh, .working (buildRouter service.app fresh request)⟩] } acc' := by
  -- the account of the new exchange begins empty
  refine ⟨Function.update acc S.exchanges.length .start, ?_, ?_, ?_⟩
  · -- an old exchange keeps its account
    intro i x hx
    rw [List.getElem?_append] at hx
    split at hx
    · rename_i hi
      rw [Function.update_of_ne (by omega)]
      exact h.stands i x hx
    · rename_i hi
      obtain ⟨hi', rfl⟩ := List.getElem?_eq_some_iff.mp hx
      have hlast : i = S.exchanges.length := by
        rw [List.length_singleton] at hi'
        omega
      subst hlast
      rw [Function.update_self]
      simp only [Nat.sub_self, List.getElem_cons_zero]
      exact ⟨buildRouter_keeps service.app fresh request, h.idle _ (Nat.le_refl _)⟩
  · intro i hi
    rw [List.length_append, List.length_singleton] at hi
    exact h.idle i (by omega)
  · -- the empty account adds nothing to the sum
    have hsame : sumOf subject (Function.update acc S.exchanges.length .start)
        (S.exchanges.length + 1) = sumOf subject acc S.exchanges.length := by
      rw [sumOf, Finset.sum_range_succ, Function.update_self]
      show _ + (0 : Totals) = _
      rw [add_zero]
      refine Finset.sum_congr rfl fun j hj => ?_
      rw [Function.update_of_ne (Finset.mem_range.mp hj).ne]
    rw [List.length_append, List.length_singleton, hsame]
    exact h.books

/-- **One event.** -/
theorem Sound.next (h : Sound service subject S acc) (e : ServerEvent) :
    ∃ acc', Sound service subject (S.next service e) acc' := by
  have hmoves := Server.moves service S e
  generalize S.next service e = S' at hmoves
  cases hmoves with
  -- an event that finds no exchange to move
  | stay => exact ⟨acc, h⟩
  | arrive request fresh => exact h.arrive request fresh
  | access hx hstage instant => exact h.access hx hstage instant
  | work hx hstage => exact h.work hx hstage
  -- the caller is told of an error, and what the call has committed stays
  | @cut i x scope q k hx hstage outcome =>
    have hstands := h.stands i x hx
    rw [Exchange.Stands, hstage] at hstands
    obtain ⟨hbefore, hrest, -⟩ := hstands
    refine h.drop (a := { acc i with came := some outcome }) hx hstage rfl fun slot hslot => ?_
    exact ⟨hrest outcome, .inr ⟨q, hslot, hbefore.2.1⟩⟩
  -- the client is gone: no answer is ever built
  | @leave i x scope q k hx hstage =>
    have hstands := h.stands i x hx
    rw [Exchange.Stands, hstage] at hstands
    obtain ⟨hbefore, -, -⟩ := hstands
    refine h.drop (a := acc i) hx hstage rfl fun slot hslot => ?_
    exact ⟨hbefore.2.2.1, q, hslot, hbefore.2.1⟩

/-- **Every run.** -/
theorem sound_after (service : Service σ V W ε α κ)
    (subject : String × String × Nat × String × String) (s : σ) (es : List ServerEvent) :
    ∃ acc, Sound service subject (Server.after service s es) acc := by
  induction es using List.reverseRecOn with
  | nil => exact ⟨_, Sound.start s⟩
  | append_singleton es e ih =>
    obtain ⟨acc, h⟩ := ih
    rw [Server.after_snoc]
    exact h.next e

end

/-! ## What the metrics say

  From the stages to the numbers: who is in flight, who was answered, and with which status.
  Whoever is between two accesses counts on either side, so each equation holds up to those. -/

namespace Exchange

variable (x : Exchange κ)

/-- Between two accesses of the middleware. -/
def isWorking : Bool :=
  match x.stage with
  | .working _ => true
  | _ => false

/-- The handler is at work. -/
def isWaiting : Bool :=
  match x.stage with
  | .waiting _ _ _ => true
  | _ => false

/-- The client has left while the handler was at work. -/
def hasLeft : Bool :=
  match x.stage with
  | .left => true
  | _ => false

/-- Answered, with a response of which `ok` holds. -/
def isAnswered (ok : Response → Bool) : Bool :=
  match x.stage with
  | .answered r => ok r
  | _ => false

end Exchange

/-- **What the metrics and the request log say of the exchanges**, up to those that are between two
    accesses just now. -/
structure Counted (S : Server σ V W ε α κ) : Prop where
  /-- In flight is who waits for his handler, or has left while waiting. -/
  inFlight : ∃ m ≤ S.exchanges.countP Exchange.isWorking, S.metrics.inFlightRequests =
    UInt64.ofNat (S.exchanges.countP (fun x => x.isWaiting || x.hasLeft) + m)
  /-- The total counts who has been answered. -/
  total : ∃ m ≤ S.exchanges.countP Exchange.isWorking, S.metrics.totalRequests =
    UInt64.ofNat (S.exchanges.countP (fun x => x.isAnswered fun _ => true) + m)
  /-- The errors count who has been answered with a status from 500 on. -/
  errors : ∃ m ≤ S.exchanges.countP Exchange.isWorking, S.metrics.errorResponses =
    UInt64.ofNat (S.exchanges.countP (fun x => x.isAnswered fun r => 500 ≤ r.status) + m)
  /-- The log has a line for each answer. -/
  log : ∀ subject, ∃ m ≤ S.exchanges.countP Exchange.isWorking,
    (S.log.map LogLine.subject).count subject = S.exchanges.countP (fun x =>
      x.isAnswered fun r => (x.request.line x.ids r.status 0).subject = subject) + m

section

variable {app : App κ ε α} {x : Exchange κ} {slot : Slot σ V W ε α κ} {a : Account}

/-- Before an access nothing has been counted twice. -/
theorem Before.once {request : Request} {scope : Option AuditContext → Prop} {op : Access κ}
    (h : Before app request scope op a) : a.Once := by
  cases op with
  | serve context q =>
    obtain ⟨-, -, hflying, -⟩ := h
    exact hflying.once
  | count c =>
    cases c with
    | inFlightSub => exact Account.Flying.once h
    | _ => exact h
  | _ => exact h

/-- At the end nothing has been counted twice. -/
theorem Ended.once {request : Request} {ids : RequestContext} {r : Response}
    (h : Ended app request ids r a) : a.Once := by
  obtain ⟨latencyMs, hlines⟩ := h.lines
  refine ⟨?_, ?_, ?_, ?_⟩
  · rw [h.inFlight]; omega
  · rw [h.total]
  · rw [h.errors]; split <;> omega
  · rw [hlines]; exact Nat.le_refl 1

/-- Nothing is counted twice of an exchange that is between two accesses. -/
theorem once_of_working {p : Handling κ Response} (h : p.Keeps (x.watched app) a) : a.Once := by
  cases p with
  | done r => exact Ended.once h
  | ask op k => exact Before.once h.1

/-- Between none and one more than `P` says. -/
def Within (P : Exchange κ → Bool) (x : Exchange κ) (n : Nat) : Prop :=
  (P x = true → 1 ≤ n) ∧ (P x = false → x.isWorking = false → n = 0) ∧ n ≤ 1

/-- The stages one by one: what each of them says of the count. -/
theorem within_of_stands {P : Exchange κ → Bool} {n : Nat} (hstands : x.Stands app slot a)
    (hworking : ∀ p, x.stage = .working p → P x = false ∧ (a.Once → n ≤ 1))
    (hwaiting : ∀ scope q k, x.stage = .waiting scope q k → a.Flying →
      n = if P x = true then 1 else 0)
    (hanswered : ∀ r, x.stage = .answered r → Ended app x.attached x.ids r a →
      n = if P x = true then 1 else 0)
    (hleft : x.stage = .left → a.Flying → n = if P x = true then 1 else 0) : Within P x n := by
  -- in every stage but one, the count is exact
  have hexact : (n = if P x = true then 1 else 0) → Within P x n := by
    intro hn
    refine ⟨fun hP => ?_, fun hP _ => ?_, ?_⟩
    · rw [hn, if_pos hP]
    · rw [hn, if_neg (by rw [hP]; exact Bool.false_ne_true)]
    · rw [hn]; split <;> omega
  -- in the stage of a layer that is at work, the count may be ahead of the stage by one
  rw [Exchange.Stands] at hstands
  split at hstands
  · rename_i p hstage
    obtain ⟨hP, hle⟩ := hworking p hstage
    refine ⟨fun h => ?_, fun _ hidle => ?_, hle (once_of_working hstands.1)⟩
    · rw [hP] at h
      cases h
    · rw [Exchange.isWorking, hstage] at hidle
      cases hidle
  · rename_i scope q k hstage
    exact hexact (hwaiting scope q k hstage hstands.1.2.2.1)
  · rename_i r hstage
    exact hexact (hanswered r hstage hstands.1)
  · rename_i hstage
    exact hexact (hleft hstage hstands.1)

end

/-- A sum over the exchanges. -/
theorem sum_within (P : Exchange κ → Bool) (xs : List (Exchange κ)) (f : Nat → Nat)
    (h : ∀ i x, xs[i]? = some x → Within P x (f i)) :
    ∃ m ≤ xs.countP Exchange.isWorking,
      ∑ i ∈ Finset.range xs.length, f i = xs.countP P + m := by
  -- the last exchange is added to the sum of the others
  induction xs using List.reverseRecOn with
  | nil => exact ⟨0, Nat.le_refl 0, rfl⟩
  | append_singleton xs x ih =>
    obtain ⟨m, hm, hsum⟩ := ih fun i y hy => h i y (by
      rw [List.getElem?_append_left (List.getElem?_eq_some_iff.mp hy).1]
      exact hy)
    obtain ⟨hlow, hzero, hhigh⟩ := h xs.length x (by simp)
    rw [List.length_append, List.length_singleton, Finset.sum_range_succ, hsum, List.countP_append,
      List.countP_append, List.countP_singleton, List.countP_singleton]
    -- it satisfies `P`, or is at work and may count already, or neither
    by_cases hP : P x = true
    · have := hlow hP
      refine ⟨m, by omega, ?_⟩
      rw [if_pos hP]
      omega
    · rw [if_neg hP]
      by_cases hworking : x.isWorking = true
      · rw [if_pos hworking]
        exact ⟨m + f xs.length, by omega, by omega⟩
      · have := hzero (Bool.eq_false_iff.mpr hP) (Bool.eq_false_iff.mpr hworking)
        rw [if_neg hworking]
        exact ⟨m, by omega, by omega⟩

section

variable [Store σ V W] [DecidableEq R] {service : Service σ V W ε α κ}
  {subject : String × String × Nat × String × String} {S : Server σ V W ε α κ} {acc : Nat → Account}

omit [Store σ V W] [DecidableEq R] in
/-- A total of the books, for what of an account is counted in it. -/
theorem Sound.total (h : Sound service subject S acc) (f : Account → Nat) (P : Exchange κ → Bool)
    (hP : ∀ x (slot : Slot σ V W ε α κ) a, x.Stands service.app slot a → Within P x (f a)) :
    ∃ m ≤ S.exchanges.countP Exchange.isWorking,
      ∑ i ∈ Finset.range S.exchanges.length, f (acc i) = S.exchanges.countP P + m :=
  sum_within P S.exchanges _ fun i x hx => hP x _ _ (h.stands i x hx)

/-- Who is between two accesses has not been answered. -/
theorem Exchange.not_stage {x : Exchange κ} {p : Handling κ Response} (h : x.stage = .working p)
    (ok : Response → Bool) : x.isAnswered ok = false := by
  rw [Exchange.isAnswered, h]

omit [Store σ V W] [DecidableEq R] in
/-- The gauge counts who waits and who has left. -/
theorem Sound.counted_inFlight (h : Sound service subject S acc) :
    ∃ m ≤ S.exchanges.countP Exchange.isWorking, S.metrics.inFlightRequests =
      UInt64.ofNat (S.exchanges.countP (fun x => x.isWaiting || x.hasLeft) + m) := by
  -- while the call runs an exchange is in flight; so is one that was left
  obtain ⟨m, hm, hsum⟩ := h.total (fun a => a.inFlight) (fun x => x.isWaiting || x.hasLeft) <| by
    intro x slot a hstands
    refine within_of_stands hstands ?_ ?_ ?_ ?_
    · intro p hstage
      exact ⟨by rw [Exchange.isWaiting, Exchange.hasLeft, hstage]; rfl, fun honce => honce.inFlight⟩
    · intro scope q k hstage hflying
      rw [Exchange.isWaiting, Exchange.hasLeft, hstage]
      exact hflying.inFlight
    · intro r hstage hended
      rw [Exchange.isWaiting, Exchange.hasLeft, hstage]
      exact hended.inFlight
    · intro hstage hflying
      rw [Exchange.isWaiting, Exchange.hasLeft, hstage]
      exact hflying.inFlight
  refine ⟨m, hm, ?_⟩
  rw [h.books.inFlight, sumOf, Prod.fst_sum, ← hsum]
  rfl

omit [Store σ V W] [DecidableEq R] in
/-- The total counts who has been answered. -/
theorem Sound.counted_total (h : Sound service subject S acc) :
    ∃ m ≤ S.exchanges.countP Exchange.isWorking, S.metrics.totalRequests =
      UInt64.ofNat (S.exchanges.countP (fun x => x.isAnswered fun _ => true) + m) := by
  obtain ⟨m, hm, hsum⟩ := h.total (fun a => a.total) (fun x => x.isAnswered fun _ => true) <| by
    intro x slot a hstands
    refine within_of_stands hstands ?_ ?_ ?_ ?_
    · exact fun p hstage => ⟨Exchange.not_stage hstage _, fun honce => honce.total⟩
    · intro scope q k hstage hflying
      rw [Exchange.isAnswered, hstage]
      exact hflying.total
    · intro r hstage hended
      rw [Exchange.isAnswered, hstage]
      exact hended.total
    · intro hstage hflying
      rw [Exchange.isAnswered, hstage]
      exact hflying.total
  refine ⟨m, hm, ?_⟩
  rw [h.books.total, sumOf, Prod.snd_sum, Prod.fst_sum, ← hsum]
  rfl

omit [Store σ V W] [DecidableEq R] in
/-- The errors count who has been answered with a status from 500 on. -/
theorem Sound.counted_errors (h : Sound service subject S acc) :
    ∃ m ≤ S.exchanges.countP Exchange.isWorking, S.metrics.errorResponses =
      UInt64.ofNat (S.exchanges.countP (fun x => x.isAnswered fun r => 500 ≤ r.status) + m) := by
  obtain ⟨m, hm, hsum⟩ := h.total (fun a => a.errors)
      (fun x => x.isAnswered fun r => 500 ≤ r.status) <| by
    intro x slot a hstands
    refine within_of_stands hstands ?_ ?_ ?_ ?_
    · exact fun p hstage => ⟨Exchange.not_stage hstage _, fun honce => honce.errors⟩
    · intro scope q k hstage hflying
      rw [Exchange.isAnswered, hstage]
      exact hflying.errors
    · intro r hstage hended
      rw [Exchange.isAnswered, hstage, hended.errors]
      simp only [decide_eq_true_eq]
    · intro hstage hflying
      rw [Exchange.isAnswered, hstage]
      exact hflying.errors
  refine ⟨m, hm, ?_⟩
  rw [h.books.errors, sumOf, Prod.snd_sum, Prod.snd_sum, Prod.fst_sum, ← hsum]
  rfl

omit [Store σ V W] [DecidableEq R] in
/-- The log has one line for each answer with the subject. -/
theorem Sound.counted_log (h : Sound service subject S acc) :
    ∃ m ≤ S.exchanges.countP Exchange.isWorking,
      (S.log.map LogLine.subject).count subject = S.exchanges.countP (fun x =>
        x.isAnswered fun r => (x.request.line x.ids r.status 0).subject = subject) + m := by
  obtain ⟨m, hm, hsum⟩ := h.total (fun a => linesOf subject a.lines)
      (fun x => x.isAnswered fun r => (x.request.line x.ids r.status 0).subject = subject) <| by
    intro x slot a hstands
    refine within_of_stands hstands ?_ ?_ ?_ ?_
    · refine fun p hstage => ⟨Exchange.not_stage hstage _, fun honce => ?_⟩
      refine Nat.le_trans List.count_le_length ?_
      rw [List.length_map]
      exact honce.lines
    · intro scope q k hstage hflying
      rw [Exchange.isAnswered, hstage, hflying.lines]
      rfl
    · intro r hstage hended
      obtain ⟨latencyMs, hlines⟩ := hended.lines
      rw [Exchange.isAnswered, hstage, hlines, linesOf, List.map_singleton, List.count_singleton]
      simp only [decide_eq_true_eq, beq_iff_eq]
      rfl
    · intro hstage hflying
      rw [Exchange.isAnswered, hstage, hflying.lines]
      rfl
  refine ⟨m, hm, ?_⟩
  have hlog := h.books.log
  rw [sumOf, Prod.snd_sum, Prod.snd_sum, Prod.snd_sum] at hlog
  exact hlog.trans hsum

/-- **The metrics and the log are right in every state of every run**: what is in flight waits for its
    handler, or for a client that has left; every answer has been counted once, as an error where its
    status says so, and has one line in the log.  Only exchanges that are between two accesses may
    have been counted, or logged, before their answer.

    The proof gives an account to each exchange, of what it has counted so far; the metrics are the
    sum of the accounts, and the account of an exchange is known from its stage. -/
theorem requests_counted (service : Service σ V W ε α κ) (s : σ) (es : List ServerEvent) :
    Counted (Server.after service s es) := by
  obtain ⟨acc, h⟩ := sound_after service default s es
  refine ⟨h.counted_inFlight, h.counted_total, h.counted_errors, fun subject => ?_⟩
  obtain ⟨acc, h⟩ := sound_after service subject s es
  exact h.counted_log

end

end EduStell.Http
