/-
  The audit rows that requests write are events that services build, redacted.

  `Request.Builds` says which events a request can build.  `Request.writes_built` reads off its program
  that it writes no other row; with the ends of the request (`Request.outcomes`) this becomes
  `Request.audited`: a commit appends exactly one row, and it is one of these.

  `trail_built` then holds of every interleaved run: whatever is in the trail has been built by a
  service.
-/
import EduStell.Spec.Audited
import EduStell.Spec.Effects
import EduStell.Trail.Events

namespace EduStell

open Txn Program

/-- The events that a request can build, for rows that it reads on its way. -/
def Request.Builds : Request → AuditedOperation → Prop
  | .record newId actor input, op => ∃ amount,
    op = .recordContributionIntent actor (intentRow newId actor input amount) input.idempotencyKey
  | .settle tr actor input, op =>
    ∃ current, op = .settleContribution actor current tr.targetStatus input tr.auditAction
  | .createPayout newId actor input, op => ∃ amount vault milestone school,
    op = .createPayoutRequest actor (payoutRow newId actor input amount) vault milestone school
  | .review tr actor input, op => ∃ payout vault milestone school,
    op = .reviewPayout actor payout vault milestone school tr.targetStatus input tr.auditAction
  | .verifySchool actor input, op => op = .verifySchool actor input
  | .createPool _ actor _, op => ∃ pool, op = .createScholarshipPool actor pool
  | .fundPool _ actor _, op => ∃ pool contribution, op = .fundScholarshipPool actor pool contribution
  | .createApplication _ actor _, op =>
    ∃ application, op = .createScholarshipApplication actor application
  | .approve _ actor _, op => ∃ application award pool, op = .approveApplication actor application award pool
  | .reject _ actor _, op => ∃ application award pool, op = .rejectApplication actor application award pool
  | .disburse actor input, op => ∃ award pool, op = .disburseAward actor award pool input
  | .revoke actor input, op => ∃ award pool, op = .revokeAward actor award pool input

/-- A persisted row of a request: an event that it can build, redacted. -/
def Request.Persists (q : Request) (log : AuditLog) : Prop :=
  ∃ op built, q.Builds op ∧ op.audit = some built ∧ log = sanitizeAuditLog built

/-! ## What the services write

  The services hand the row that they have built to one transaction, and write nothing else
  themselves. -/

section

variable {newId : Uuid} {actor : AuthenticatedUser}

/-- A check writes nothing. -/
theorem writes_check {ε α : Type} [IntoServiceError ε] {r : Except ε α} {P : AuditLog → Prop} :
    (check r).WritesOnly (Audits P) :=
  .ofExcept _

/-- Nor does a check that is made only in some cases. -/
theorem writes_checkIf {ε : Type} [IntoServiceError ε] {c : Prop} [Decidable c]
    {r : Except ε Unit} {P : AuditLog → Prop} : (checkIf c r).WritesOnly (Audits P) :=
  .ite writes_check (.pure ())

/-- The transaction of a service writes what the repository writes. -/
theorem writes_workflow {α : Type} {p : Tx PersistenceError α} {P : AuditLog → Prop}
    (h : p.WritesOnly (Audits P)) : (workflow p).WritesOnly (Audits P) :=
  h.mapError

/-- The row of a recorded intent is the one that was built for it. -/
theorem writes_recordContributionIntent (input : RecordContributionIntentInput) :
    (recordContributionIntent newId actor input).WritesOnly
      (Audits (Request.record newId actor input).Persists) := by
  refine WritesOnly.failIf_bind (writes_check.bind fun _ => ?_)
  refine (WritesOnly.select _).bind fun _ => (WritesOnly.okOr _ _).bind fun _ => ?_
  refine (WritesOnly.select _).bind fun _ => writes_check.bind fun _ => writes_check.bind fun _ => ?_
  refine (WritesOnly.select _).bind fun existing => ?_
  cases existing with
  | some existing => exact (WritesOnly.ofExcept _).bind fun _ => .pure _
  | none =>
    refine (WritesOnly.ofExcept _).bind fun amount => ?_
    exact writes_workflow (writes_createIntentWithAudit _ ⟨_, _, ⟨amount, rfl⟩, rfl, rfl⟩)

/-- The row of a settlement is the one that was built for it. -/
theorem writes_settleContribution (input : SettlementInput) (tr : ContributionTransition) :
    (settleContribution actor input tr tr.auditAction).WritesOnly
      (Audits (Request.settle tr actor input).Persists) := by
  refine writes_check.bind fun _ => (WritesOnly.select _).bind fun _ => ?_
  refine (WritesOnly.okOr _ _).bind fun current => WritesOnly.ofExcept_bind fun target htarget => ?_
  obtain rfl := Contributions.validateTransition_ok (ok_of_mapError htarget)
  refine WritesOnly.ite (.pure _) (WritesOnly.bind ?_ fun _ => .pure _)
  exact writes_workflow (writes_settleWithAudit _ _ _ _ ⟨_, _, ⟨current, rfl⟩, rfl, rfl⟩)

/-- The row of a payout request is the one that was built for it. -/
theorem writes_createPayoutRequest (input : CreatePayoutRequestInput) :
    (createPayoutRequest newId actor input).WritesOnly
      (Audits (Request.createPayout newId actor input).Persists) := by
  refine writes_check.bind fun _ => writes_check.bind fun _ => (WritesOnly.select _).bind ?_
  rintro (_ | existing)
  · refine (WritesOnly.select _).bind fun _ => (WritesOnly.okOr _ _).bind fun vault => ?_
    refine WritesOnly.failIf_bind ((WritesOnly.select _).bind fun _ => ?_)
    refine (WritesOnly.okOr _ _).bind fun milestone => (WritesOnly.select _).bind fun _ => ?_
    refine (WritesOnly.okOr _ _).bind fun school => writes_check.bind fun _ => ?_
    refine writes_check.bind fun _ => writes_check.bind fun _ => writes_check.bind fun _ => ?_
    refine writes_check.bind fun _ => (WritesOnly.ofExcept _).bind fun amount => ?_
    exact writes_workflow (writes_createRequestWithAudit _
      ⟨_, _, ⟨amount, vault, milestone, school, rfl⟩, rfl, rfl⟩)
  · exact .ite (.pure _) (.fail _)

/-- The row of a review is the one that was built for it. -/
theorem writes_reviewTransition (input : ReviewPayoutInput) (tr : PayoutTransition) :
    (reviewTransition actor input tr tr.auditAction).WritesOnly
      (Audits (Request.review tr actor input).Persists) := by
  refine writes_check.bind fun _ => (WritesOnly.select _).bind fun _ => ?_
  refine (WritesOnly.okOr _ _).bind fun payout => WritesOnly.ofExcept_bind fun target htarget => ?_
  obtain rfl := Payouts.validateTransition_ok (ok_of_mapError htarget)
  refine WritesOnly.ite (.pure _) ?_
  refine (WritesOnly.select _).bind fun _ => (WritesOnly.okOr _ _).bind fun school => ?_
  refine (WritesOnly.select _).bind fun _ => (WritesOnly.okOr _ _).bind fun milestone => ?_
  refine (WritesOnly.select _).bind fun _ => (WritesOnly.okOr _ _).bind fun vault => ?_
  refine writes_check.bind fun _ => writes_check.bind fun _ => writes_checkIf.bind fun _ => ?_
  refine writes_checkIf.bind fun _ => WritesOnly.bind ?_ fun _ => .pure _
  exact writes_workflow (writes_transitionWithAudit _ _ _ _ _
    ⟨_, _, ⟨payout, vault, milestone, school, rfl⟩, rfl, rfl⟩)

/-- The row of a verification is the one that was built for it. -/
theorem writes_verifySchool (input : VerifySchoolInput) :
    (verifySchool actor input).WritesOnly (Audits (Request.verifySchool actor input).Persists) := by
  refine (WritesOnly.ofExcept _).bind fun _ => ?_
  exact writes_workflow (writes_verifyWithAudit _ _ _ ⟨_, _, rfl, rfl, rfl⟩)

/-- The row of a new pool is the one that was built for it. -/
theorem writes_createScholarshipPool (input : CreateScholarshipPoolInput) :
    (createScholarshipPool newId actor input).WritesOnly
      (Audits (Request.createPool newId actor input).Persists) := by
  refine WritesOnly.failIf_bind (WritesOnly.failIf_bind ?_)
  refine (WritesOnly.ofExcept _).bind fun amount => ?_
  exact writes_workflow (writes_createPoolWithAudit _ ⟨_, _, ⟨_, rfl⟩, rfl, rfl⟩)

/-- The row of a funding is the one that was built for it. -/
theorem writes_fundScholarshipPool (input : FundScholarshipPoolInput) :
    (fundScholarshipPool newId actor input).WritesOnly
      (Audits (Request.fundPool newId actor input).Persists) := by
  refine writes_check.bind fun _ => writes_check.bind fun _ => (WritesOnly.select _).bind fun _ => ?_
  refine (WritesOnly.okOr _ _).bind fun pool => writes_check.bind fun _ => ?_
  refine writes_check.bind fun _ => (WritesOnly.ofExcept _).bind fun amount => ?_
  exact writes_workflow (writes_fundPoolWithAudit _ ⟨_, _, ⟨pool, _, rfl⟩, rfl, rfl⟩)

/-- The row of an application is the one that was built for it. -/
theorem writes_createScholarshipApplication (input : CreateScholarshipApplicationInput) :
    (createScholarshipApplication newId actor input).WritesOnly
      (Audits (Request.createApplication newId actor input).Persists) := by
  refine writes_check.bind fun _ => (WritesOnly.select _).bind fun _ => ?_
  refine (WritesOnly.okOr _ _).bind fun pool => writes_check.bind fun _ => ?_
  refine (WritesOnly.select _).bind fun _ => (WritesOnly.okOr _ _).bind fun child => ?_
  refine writes_check.bind fun _ => writes_check.bind fun _ => ?_
  exact writes_workflow (writes_createApplicationWithAudit _ ⟨_, _, ⟨_, rfl⟩, rfl, rfl⟩)

/-- The row of an approval is the one that was built for it. -/
theorem writes_approveApplication (input : DecideScholarshipApplicationInput) :
    (approveApplication newId actor input).WritesOnly
      (Audits (Request.approve newId actor input).Persists) := by
  refine writes_check.bind fun _ => writes_check.bind fun _ => (WritesOnly.select _).bind fun _ => ?_
  refine (WritesOnly.okOr _ _).bind fun application => writes_check.bind fun _ => ?_
  refine (WritesOnly.select _).bind fun _ => (WritesOnly.okOr _ _).bind fun pool => ?_
  refine writes_check.bind fun _ => writes_check.bind fun _ => (WritesOnly.ofExcept _).bind fun _ => ?_
  refine WritesOnly.bind ?_ fun _ => .pure _
  exact writes_workflow (writes_decideApplicationWithAudit _ _ _ _
    ⟨_, _, ⟨application, _, pool, rfl⟩, rfl, rfl⟩)

/-- The row of a rejection is the one that was built for it. -/
theorem writes_rejectApplication (input : DecideScholarshipApplicationInput) :
    (rejectApplication newId actor input).WritesOnly
      (Audits (Request.reject newId actor input).Persists) := by
  refine writes_check.bind fun _ => (WritesOnly.select _).bind fun _ => ?_
  refine (WritesOnly.okOr _ _).bind fun application => writes_check.bind fun _ => ?_
  refine (WritesOnly.select _).bind fun _ => (WritesOnly.okOr _ _).bind fun pool => ?_
  refine (WritesOnly.ofExcept _).bind fun _ => WritesOnly.bind ?_ fun _ => .pure _
  exact writes_workflow (writes_decideApplicationWithAudit _ _ _ _
    ⟨_, _, ⟨application, _, pool, rfl⟩, rfl, rfl⟩)

/-- The row of a disbursement is the one that was built for it. -/
theorem writes_disburseAward (input : UpdateScholarshipAwardInput) :
    (disburseAward actor input).WritesOnly (Audits (Request.disburse actor input).Persists) := by
  refine writes_check.bind fun _ => (WritesOnly.select _).bind fun _ => ?_
  refine (WritesOnly.okOr _ _).bind fun award => writes_check.bind fun _ => ?_
  refine (WritesOnly.select _).bind fun _ => (WritesOnly.okOr _ _).bind fun _ => ?_
  refine (WritesOnly.select _).bind fun _ => (WritesOnly.okOr _ _).bind fun pool => ?_
  refine WritesOnly.bind ?_ fun _ => .pure _
  exact writes_workflow (writes_transitionAwardWithAudit _ _ _ _ _
    ⟨_, _, ⟨award, pool, rfl⟩, rfl, rfl⟩)

/-- The row of a revocation is the one that was built for it. -/
theorem writes_revokeAward (input : UpdateScholarshipAwardInput) :
    (revokeAward actor input).WritesOnly (Audits (Request.revoke actor input).Persists) := by
  refine writes_check.bind fun _ => (WritesOnly.select _).bind fun _ => ?_
  refine (WritesOnly.okOr _ _).bind fun award => writes_check.bind fun _ => ?_
  refine (WritesOnly.select _).bind fun _ => (WritesOnly.okOr _ _).bind fun _ => ?_
  refine (WritesOnly.select _).bind fun _ => (WritesOnly.okOr _ _).bind fun pool => ?_
  refine WritesOnly.bind ?_ fun _ => .pure _
  exact writes_workflow (writes_transitionAwardWithAudit _ _ _ _ _
    ⟨_, _, ⟨award, pool, rfl⟩, rfl, rfl⟩)

end

/-- **A request writes no audit row but an event that it builds, redacted.** -/
theorem Request.writes_built (q : Request) : q.program.WritesOnly (EduStell.Audits q.Persists) := by
  cases q with
  | record newId actor input => exact (writes_recordContributionIntent input).map
  | settle tr actor input =>
    rw [Request.program, settlement_eq]
    exact (writes_settleContribution input tr).map
  | createPayout newId actor input => exact (writes_createPayoutRequest input).map
  | review tr actor input =>
    rw [Request.program, reviewStep_eq]
    exact (writes_reviewTransition input tr).map
  | verifySchool actor input => exact (writes_verifySchool input).map
  | createPool newId actor input => exact (writes_createScholarshipPool input).map
  | fundPool newId actor input => exact (writes_fundScholarshipPool input).map
  | createApplication newId actor input => exact (writes_createScholarshipApplication input).map
  | approve newId actor input => exact (writes_approveApplication input).map
  | reject newId actor input => exact (writes_rejectApplication input).map
  | disburse actor input => exact (writes_disburseAward input).map
  | revoke actor input => exact (writes_revokeAward input).map

/-! ## The row of a commit

  With the row known, the effect of a request is an effect with a row that its service has built. -/

/-- The effect of a request, with the audit row that its commit appends. -/
def Request.EffectWith (q : Request) (l : Sess) (s : Db) (b : Response) : Prop :=
  q.Effect l s b ∧ ∃ log, q.Persists log ∧ (l.view s).audit = s.audit ++ [log]

/-- **Every way a request can end**, with its audit row. -/
theorem Request.audited (q : Request) : Outcomes q.program q.EffectWith q.Stops := by
  refine (q.outcomes.writes q.writes_built).mono ?_ fun _ _ _ h => h
  rintro l s b ⟨heffect, hwrites⟩
  refine ⟨heffect, ?_⟩
  obtain ⟨log, -, hview⟩ := heffect.audit
  -- the row that the commit appends is the one that the session has written
  have hrows : [log] = auditRows l.writes :=
    List.append_cancel_left (hview.symm.trans (audit_view l s))
  refine ⟨log, Audits.of_mem hwrites log ?_, hview⟩
  rw [← hrows]
  exact List.mem_singleton_self log

/-! ## The trail of a run

  The trail of every run, as far as it was written by requests of the run. -/

/-- Every row of the trail is an event that some request has built, redacted. -/
def TrailBuilt (s : Db) : Prop := ∀ log ∈ s.audit, ∃ q : Request, q.Persists log

/-- Requests whose audit rows were built for them, in a trail that they only add to. -/
def trailContract : Contract Request.program Request.EffectWith Request.Stops where
  outcomes := Request.audited
  inv := TrailBuilt
  rely _ _ := True
  arrivals _ := True
  cond _ _ _ := True
  refl _ := trivial
  trans _ _ := trivial
  keep {q l s b} _ hs _ h _ := by
    refine ⟨?_, trivial⟩
    obtain ⟨-, log, hlog, hview⟩ := h
    intro log' hmem
    rw [hview] at hmem
    rcases List.mem_append.mp hmem with hmem | hmem
    · exact hs log' hmem
    · rw [List.mem_singleton.mp hmem]
      exact ⟨q, hlog⟩

/-- **In every interleaved run that starts with an empty trail, the trail holds events of the
    services, redacted.** -/
theorem trail_built {s : Db} (h : s.audit = []) (es : List Happening) :
    TrailBuilt (Sys.after s es).db := by
  have hstart : TrailBuilt s := by
    intro log hlog
    rw [h] at hlog
    cases hlog
  have hwithin : trailContract.Within s es :=
    System.meets_allows (fun _ => trivial) (fun _ _ _ => trivial) _ _
  exact (trailContract.sound hstart hwithin).inv

end EduStell
