/-
  The requests that reach the services, and the two ways to run them.

  * `Request.program` is the service call behind each request.  The ids that the source draws with
    `Uuid::new_v4()` are part of the request; the three settlements and the six review steps carry
    their transition.
  * `Request.serve` and `serveAll` run requests one after another.
  * `Sys.after` runs the interleaved system of `EduStell.Txn.Interleave` at these requests: any
    number of them take turns statement by statement, wait for each other's row locks, and may lose
    their connection.

  A property of the system is a property of `Request`: the modules on savings, scholarships and
  integrity state theirs for all requests together, because every request may come between the
  statements of every other one.
-/
import EduStell.Application.Contributions
import EduStell.Application.Payouts
import EduStell.Application.Scholarships
import EduStell.Application.Schools
import EduStell.Txn.Interleave

namespace EduStell

open Txn

/-- A request to one of the four services that move money or decide about it.  What the service
    draws, the id of a new row, comes with the request. -/
inductive Request
  | record (newId : Uuid) (actor : AuthenticatedUser) (input : RecordContributionIntentInput)
  | settle (transition : ContributionTransition) (actor : AuthenticatedUser)
    (input : SettlementInput)
  | createPayout (newId : Uuid) (actor : AuthenticatedUser) (input : CreatePayoutRequestInput)
  | review (transition : PayoutTransition) (actor : AuthenticatedUser) (input : ReviewPayoutInput)
  | verifySchool (actor : AuthenticatedUser) (input : VerifySchoolInput)
  | createPool (newId : Uuid) (actor : AuthenticatedUser) (input : CreateScholarshipPoolInput)
  | fundPool (newId : Uuid) (actor : AuthenticatedUser) (input : FundScholarshipPoolInput)
  | createApplication (newId : Uuid) (actor : AuthenticatedUser)
    (input : CreateScholarshipApplicationInput)
  | approve (newId : Uuid) (actor : AuthenticatedUser) (input : DecideScholarshipApplicationInput)
  | reject (newId : Uuid) (actor : AuthenticatedUser) (input : DecideScholarshipApplicationInput)
  | disburse (actor : AuthenticatedUser) (input : UpdateScholarshipAwardInput)
  | revoke (actor : AuthenticatedUser) (input : UpdateScholarshipAwardInput)

/-- What a request is answered with. -/
inductive Response
  | contribution (c : Contribution)
  | payout (p : PayoutRequest)
  | school (x : School)
  | pool (x : ScholarshipPool)
  | funded (x : ScholarshipPool × DonorContribution)
  | application (x : ScholarshipApplication)
  | decision (x : ScholarshipReviewDecision)

/-! ## The service behind a request

  Services that are one function in the source, with the transition as a parameter, are one
  request here.  The equations `settlement_eq` and `reviewStep_eq` say so for the functions that
  the routes call. -/

/-- The settlement service of a transition. -/
def settlement (actor : AuthenticatedUser) (input : SettlementInput) :
    ContributionTransition → Tx ServiceError Contribution
  | .confirm => confirmContribution actor input
  | .fail => failContribution actor input
  | .reverse => reverseContribution actor input

/-- A settlement is the shared service, called with the action of its transition. -/
theorem settlement_eq (actor : AuthenticatedUser) (input : SettlementInput)
    (t : ContributionTransition) :
    settlement actor input t = settleContribution actor input t t.auditAction := by
  cases t <;> rfl

/-- The review service of a transition. -/
def reviewStep (actor : AuthenticatedUser) (input : ReviewPayoutInput) :
    PayoutTransition → Tx ServiceError PayoutRequest
  | .moveToReview => movePayoutToReview actor input
  | .approve => approvePayout actor input
  | .reject => rejectPayout actor input
  | .markProcessing => markPayoutProcessing actor input
  | .complete => completePayout actor input
  | .fail => failPayout actor input

/-- A review step is the shared service, called with the action of its transition. -/
theorem reviewStep_eq (actor : AuthenticatedUser) (input : ReviewPayoutInput)
    (t : PayoutTransition) :
    reviewStep actor input t = reviewTransition actor input t t.auditAction := by
  cases t <;> rfl

/-- The service that a request reaches, with its answer in one type. -/
def Request.program : Request → Tx ServiceError Response
  | .record newId actor input => .contribution <$> recordContributionIntent newId actor input
  | .settle transition actor input => .contribution <$> settlement actor input transition
  | .createPayout newId actor input => .payout <$> createPayoutRequest newId actor input
  | .review transition actor input => .payout <$> reviewStep actor input transition
  | .verifySchool actor input => .school <$> EduStell.verifySchool actor input
  | .createPool newId actor input => .pool <$> createScholarshipPool newId actor input
  | .fundPool newId actor input => .funded <$> fundScholarshipPool newId actor input
  | .createApplication newId actor input =>
    .application <$> createScholarshipApplication newId actor input
  | .approve newId actor input => .decision <$> approveApplication newId actor input
  | .reject newId actor input => .decision <$> rejectApplication newId actor input
  | .disburse actor input => .decision <$> disburseAward actor input
  | .revoke actor input => .decision <$> revokeAward actor input

/-! ## Running requests

  A serial run is a fold, and its induction is on the last request.  `Served ok` is a condition on
  each request in the state in which it is served; it can be evaluated on a concrete run. -/

/-- One request served alone: its answer and the database after it. -/
def Request.serve (q : Request) (s : Db) : Except ServiceError Response × Db := q.program.serve s

/-- Requests served one after another. -/
def serveAll (s : Db) (qs : List Request) : Db := qs.foldl (fun s q => (q.serve s).2) s

/-- No request, no change. -/
@[simp] theorem serveAll_nil (s : Db) : serveAll s [] = s := rfl

/-- Serving a list is serving its parts one after the other. -/
theorem serveAll_append (s : Db) (qs qs' : List Request) :
    serveAll s (qs ++ qs') = serveAll (serveAll s qs) qs' :=
  List.foldl_append

/-- The last request is served in the state that the others leave. -/
@[simp] theorem serveAll_snoc (s : Db) (qs : List Request) (q : Request) :
    serveAll s (qs ++ [q]) = (q.serve (serveAll s qs)).2 := by
  rw [serveAll_append]; rfl

/-- Every request of the run meets `ok` in the state in which it is served. -/
def Served (ok : Request → Db → Prop) (s : Db) (qs : List Request) : Prop :=
  ∀ pre q post, qs = pre ++ q :: post → ok q (serveAll s pre)

/-- What holds when each request of a run is served holds in every beginning of the run. -/
theorem Served.prefix {ok : Request → Db → Prop} {s : Db} {pre post : List Request}
    (h : Served ok s (pre ++ post)) : Served ok s pre :=
  fun pre' q post' he => h pre' q (post' ++ post) (by rw [he]; simp)

/-- The first request, and the others in the state that it leaves. -/
theorem served_cons {ok : Request → Db → Prop} {s : Db} {q : Request} {qs : List Request} :
    Served ok s (q :: qs) ↔ ok q s ∧ Served ok (q.serve s).2 qs := by
  constructor
  · exact fun h => ⟨h [] q qs rfl, fun pre q' post he => h (q :: pre) q' post (by rw [he]; rfl)⟩
  · rintro ⟨hq, h⟩ pre q' post hsplit
    cases pre with
    | nil => cases hsplit; exact hq
    | cons p pre =>
      obtain ⟨rfl, hqs⟩ := List.cons.inj hsplit
      exact h pre q' post hqs

/-- Whether a condition holds at every request of a run can be computed. -/
instance decidableServed (ok : Request → Db → Prop) [∀ q s, Decidable (ok q s)] :
    (s : Db) → (qs : List Request) → Decidable (Served ok s qs)
  | _, [] => .isTrue fun pre q post h => by simp at h
  | s, q :: qs =>
    have := decidableServed ok (q.serve s).2 qs
    decidable_of_iff (ok q s ∧ Served ok (q.serve s).2 qs) served_cons.symm

/-- A property that holds at the start and is kept by every request that meets `ok` holds after
    every run whose requests all meet it. -/
theorem serveAll_induction {P : Db → Prop} {ok : Request → Db → Prop} {s : Db} (hs : P s)
    (step : ∀ s q, P s → ok q s → P (q.serve s).2) {qs : List Request} (h : Served ok s qs) :
    P (serveAll s qs) := by
  induction qs generalizing s with
  | nil => exact hs
  | cons q qs ih =>
    obtain ⟨hq, hqs⟩ := served_cons.mp h
    exact ih (step s q hs hq) hqs

/-- A property that every request keeps holds after every run. -/
theorem serveAll_keeps {P : Db → Prop} {s : Db} (hs : P s)
    (step : ∀ s (q : Request), P s → P (q.serve s).2) (qs : List Request) : P (serveAll s qs) := by
  induction qs generalizing s with
  | nil => exact hs
  | cons q qs ih => exact ih (step s q hs)

/-! ## Interleaved runs

  The same requests under `EduStell.Txn.Interleave`, each in a slot of its own. -/

/-- A database session of the workflow services. -/
abbrev Sess : Type := Session Db Resource Write

/-- Any number of them, and the database. -/
abbrev Sys : Type := System Db Content Write ServiceError Response Request Nat

/-- What happens in an interleaved run; slots are numbered. -/
abbrev Happening : Type := Event Request Nat

/-- The system after the events `es`, from a committed database and no request under way. -/
def Sys.after (s : Db) (es : List Happening) : Sys := (System.start s).run Request.program es

end EduStell
