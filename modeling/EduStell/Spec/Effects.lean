/-
  What a request can do, all requests together.

  `Request.Effect` is what a request leaves when it commits, `Request.Stops` how it can end without,
  and `Request.outcomes` is that there is nothing else.  The two inversions sort the effects by the
  tables they touch, so that an invariant of the savings side has four cases and one of the
  scholarship side five, and the frame is one more of each.

  Two more things are read off the effects:

  * `Request.Effect.audit`: every commit writes one audit row, about the entity of its request;
  * `Request.serve_keeps`: a request served alone either commits nothing, or its commit has read
    the state that it changes.  This is how a result about serial runs uses the effects.
-/
import EduStell.Spec.Creation
import EduStell.Spec.Review
import EduStell.Spec.Scholarship

namespace EduStell

open Txn

/-! ## Effects

  One case for each request.  The settlement and review requests name the transition, so the
  effects of all nine have two cases. -/

/-- What a request leaves when it commits the writes of session `l` on `s` and answers `b`. -/
def Request.Effect : Request → Sess → Db → Response → Prop
  | .record newId actor input, l, s, b =>
    ∃ a, b = .contribution a ∧ Recorded newId actor input l s a
  | .settle tr actor input, l, s, b => ∃ a, b = .contribution a ∧ Settled tr actor input l s a
  | .createPayout newId actor input, l, s, b =>
    ∃ a, b = .payout a ∧ Requested newId actor input l s a
  | .review tr actor input, l, s, b => ∃ a, b = .payout a ∧ Reviewed tr actor input l s a
  | .verifySchool actor input, l, s, b => ∃ a, b = .school a ∧ SchoolVerified actor input l s a
  | .createPool newId _ _, l, s, b => ∃ a, b = .pool a ∧ PoolCreated newId l s a
  | .fundPool newId _ input, l, s, b =>
    ∃ a, b = .funded a ∧ ∃ pool, PoolFunded newId input l s pool a.2
  | .createApplication newId _ input, l, s, b => ∃ a, b = .application a ∧ Applied newId input l s a
  | .approve newId actor input, l, s, b =>
    ∃ a, b = .decision a ∧ Decided .approve newId actor input l s a.award
  | .reject newId actor input, l, s, b => ∃ a, b = .decision a ∧ Decided .reject newId actor input l s a.award
  | .disburse actor input, l, s, b => ∃ a, b = .decision a ∧ AwardMoved .disburse actor input l s
  | .revoke actor input, l, s, b => ∃ a, b = .decision a ∧ AwardMoved .revoke actor input l s

/-- How a request ends that commits nothing. -/
def Request.Stops : Request → Sess → Db → Except ServiceError Response → Prop
  | .settle tr actor input, l, s, r =>
    ∃ r', r = r'.map Response.contribution ∧ SettleStopped tr actor input l s r'
  | .review tr actor input, l, s, r =>
    ∃ r', r = r'.map Response.payout ∧ ReviewStopped tr actor input l s r'
  | .record _ _ _, _, _, _ | .createPayout _ _ _, _, _, _ | .verifySchool _ _, _, _, _ => True
  | .disburse actor input, l, s, r => Refused l s r ∧ AwardStopped .disburse actor input l s
  | .revoke actor input, l, s, r => Refused l s r ∧ AwardStopped .revoke actor input l s
  | _, l, s, r => Refused l s r

/-- **Every way a request can end.** -/
theorem Request.outcomes (q : Request) : Outcomes q.program q.Effect q.Stops := by
  -- the rules of the single operations, and the answer's constructor around them
  cases q with
  | record newId actor input =>
    exact (recordContributionIntent_outcomes.map _).weaken fun _ _ _ _ => trivial
  | settle tr actor input =>
    rw [Request.program, settlement_eq]
    exact settleContribution_outcomes.map _
  | createPayout newId actor input =>
    exact (createPayoutRequest_outcomes.map _).weaken fun _ _ _ _ => trivial
  | review tr actor input =>
    rw [Request.program, reviewStep_eq]
    exact reviewTransition_outcomes.map _
  | verifySchool actor input =>
    exact (verifySchool_outcomes.map _).weaken fun _ _ _ _ => trivial
  | createPool newId actor input =>
    exact (createScholarshipPool_outcomes.map _).weaken fun _ _ _ => Refused.of_map
  | fundPool newId actor input =>
    exact (fundScholarshipPool_outcomes.map _).weaken fun _ _ _ => Refused.of_map
  | createApplication newId actor input =>
    exact (createScholarshipApplication_outcomes.map _).weaken fun _ _ _ => Refused.of_map
  | approve newId actor input =>
    exact (approveApplication_outcomes.map _).weaken fun _ _ _ => Refused.of_map
  | reject newId actor input =>
    exact (rejectApplication_outcomes.map _).weaken fun _ _ _ => Refused.of_map
  | disburse actor input =>
    exact (disburseAward_outcomes.map _).weaken fun _ _ _ ⟨_, hr, hstop⟩ =>
      ⟨.of_map ⟨_, hr, hstop.1⟩, hstop.2⟩
  | revoke actor input =>
    exact (revokeAward_outcomes.map _).weaken fun _ _ _ ⟨_, hr, hstop⟩ =>
      ⟨.of_map ⟨_, hr, hstop.1⟩, hstop.2⟩

/-! ## Audit rows

  Which entity an audit row is about, and what about it, is read off the request that has written
  it.  So counting the rows about one entity is counting the commits of requests about it. -/

/-- What the audit row of a request is about. -/
def Request.Audits : Request → AuditLog → Prop
  | .record newId _ _, log => log.entityType = "contribution" ∧ log.entityId = some newId
  | .settle tr _ input, log => log.entityType = "contribution" ∧
    log.entityId = some input.contributionId ∧ log.action = tr.auditAction
  | .createPayout newId _ _, log => log.entityType = "payout_request" ∧ log.entityId = some newId
  | .review tr _ input, log => log.entityType = "payout_request" ∧
    log.entityId = some input.payoutId ∧ log.action = tr.auditAction
  | .verifySchool _ input, log => log.entityType = "school" ∧ log.entityId = some input.schoolId
  | _, log => log.OfScholarship

/-- **Every commit writes one audit row**, about the entity of its request. -/
theorem Request.Effect.audit {q : Request} {l : Sess} {s : Db} {b : Response}
    (h : q.Effect l s b) : ∃ log, q.Audits log ∧ (l.view s).audit = s.audit ++ [log] := by
  -- every operation appends one row to the trail, as its description says
  cases q with
  | record newId actor input =>
    obtain ⟨a, -, h⟩ := h
    obtain ⟨log, htype, hid, hview⟩ := h.view
    exact ⟨log, ⟨htype, hid⟩, by rw [hview]⟩
  | settle tr actor input =>
    obtain ⟨a, -, t, current, row, vault, vault', entries, h, -⟩ := h
    have hid : current.id = input.contributionId := (Table.find_some h.begun.found).2
    exact ⟨_, ⟨rfl, congrArg some hid, rfl⟩, by rw [h.view]⟩
  | createPayout newId actor input =>
    obtain ⟨a, -, h⟩ := h
    obtain ⟨log, htype, hid, hview⟩ := h.view
    exact ⟨log, ⟨htype, hid⟩, by rw [hview]⟩
  | review tr actor input =>
    obtain ⟨a, -, x, row, vault, vault', h, -⟩ := h
    have hid : x.payout.id = input.payoutId := (Table.find_some h.begun.found).2
    exact ⟨_, ⟨rfl, congrArg some hid, rfl⟩, by rw [h.view]⟩
  | verifySchool actor input =>
    obtain ⟨a, -, h⟩ := h
    obtain ⟨log, htype, hid, hview⟩ := h.view
    exact ⟨log, ⟨htype, hid⟩, by rw [hview]⟩
  | createPool newId actor input =>
    obtain ⟨a, -, h⟩ := h
    obtain ⟨log, hlog, hview⟩ := h.view
    exact ⟨log, hlog, by rw [hview]⟩
  | fundPool newId actor input =>
    obtain ⟨a, -, pool, h⟩ := h
    obtain ⟨log, hlog, hview⟩ := h.view
    exact ⟨log, hlog, by rw [hview]⟩
  | createApplication newId actor input =>
    obtain ⟨a, -, h⟩ := h
    obtain ⟨log, hlog, hview⟩ := h.view
    exact ⟨log, hlog, by rw [hview]⟩
  | approve newId actor input =>
    obtain ⟨a, -, _, _, _, _, _, _, h⟩ := h
    obtain ⟨log, hlog, hview⟩ := h.view
    exact ⟨log, hlog, by rw [hview]⟩
  | reject newId actor input =>
    obtain ⟨a, -, _, _, _, _, _, _, h⟩ := h
    obtain ⟨log, hlog, hview⟩ := h.view
    exact ⟨log, hlog, by rw [hview]⟩
  | disburse actor input =>
    obtain ⟨a, -, _, _, _, _, _, _, _, _, _, _, h⟩ := h
    obtain ⟨_, _, log, hlog, hview⟩ := h.view
    exact ⟨log, hlog, by rw [hview]⟩
  | revoke actor input =>
    obtain ⟨a, -, _, _, _, _, _, _, _, _, _, _, h⟩ := h
    obtain ⟨_, _, log, hlog, hview⟩ := h.view
    exact ⟨log, hlog, by rw [hview]⟩

/-- An audit row about a contribution comes from its recording or from a settlement. -/
theorem Request.Audits.contribution {q : Request} {log : AuditLog} {id : Uuid} (h : q.Audits log)
    (htype : log.entityType = "contribution") (hid : log.entityId = some id) :
    (∃ actor input, q = .record id actor input) ∨
      ∃ tr actor input, q = .settle tr actor input ∧ input.contributionId = id := by
  cases q with
  | record newId actor input =>
    obtain rfl : newId = id := Option.some.inj (h.2.symm.trans hid)
    exact .inl ⟨actor, input, rfl⟩
  | settle tr actor input =>
    exact .inr ⟨tr, actor, input, rfl, Option.some.inj (h.2.1.symm.trans hid)⟩
  | createPayout newId actor input => exact absurd (h.1.symm.trans htype) (by decide)
  | review tr actor input => exact absurd (h.1.symm.trans htype) (by decide)
  | verifySchool actor input => exact absurd (h.1.symm.trans htype) (by decide)
  | _ => rcases h with h | h <;> exact absurd (h.symm.trans htype) (by decide)

/-- The same for a payout. -/
theorem Request.Audits.payout {q : Request} {log : AuditLog} {id : Uuid} (h : q.Audits log)
    (htype : log.entityType = "payout_request") (hid : log.entityId = some id) :
    (∃ actor input, q = .createPayout id actor input) ∨
      ∃ tr actor input, q = .review tr actor input ∧ input.payoutId = id := by
  cases q with
  | record newId actor input => exact absurd (h.1.symm.trans htype) (by decide)
  | settle tr actor input => exact absurd (h.1.symm.trans htype) (by decide)
  | createPayout newId actor input =>
    obtain rfl : newId = id := Option.some.inj (h.2.symm.trans hid)
    exact .inl ⟨actor, input, rfl⟩
  | review tr actor input =>
    exact .inr ⟨tr, actor, input, rfl, Option.some.inj (h.2.1.symm.trans hid)⟩
  | verifySchool actor input => exact absurd (h.1.symm.trans htype) (by decide)
  | _ => rcases h with h | h <;> exact absurd (h.symm.trans htype) (by decide)

/-! ## Contributions, payouts, vaults and their ledger

  An invariant of the savings side sees one of four things: a contribution is recorded or settled,
  a payout is requested or reviewed.  Everything else leaves its tables alone, and that is one
  case. -/

/-- Two states with the same savings side. -/
structure SameSavings (s s' : Db) : Prop where
  contributions : s'.contributions = s.contributions
  payouts : s'.payouts = s.payouts
  vaults : s'.vaults = s.vaults
  ledger : s'.ledger = s.ledger

/-- What a commit does to the savings side. -/
inductive SavingsEffect (q : Request) (l : Sess) (s : Db) : Prop
  | recorded {newId : Uuid} {actor : AuthenticatedUser} {input : RecordContributionIntentInput}
    {a : Contribution} (request : q = .record newId actor input)
    (h : Recorded newId actor input l s a)
  | settled {tr : ContributionTransition} {actor : AuthenticatedUser} {input : SettlementInput}
    {t : Db} {current row : Contribution} {vault vault' : SavingsVault}
    {entries : List VaultLedgerEntry} (request : q = .settle tr actor input)
    (h : SettledAs tr actor input l s t current row vault vault' entries)
  | requested {newId : Uuid} {actor : AuthenticatedUser} {input : CreatePayoutRequestInput}
    {a : PayoutRequest} (request : q = .createPayout newId actor input)
    (h : Requested newId actor input l s a)
  | reviewed {tr : PayoutTransition} {actor : AuthenticatedUser} {input : ReviewPayoutInput}
    {x : ReviewReads} {row : PayoutRequest} {vault vault' : SavingsVault}
    (request : q = .review tr actor input) (h : ReviewedAs tr actor input l s x row vault vault')
  | other (h : SameSavings s (l.view s))

/-- A commit that changes nothing of the savings side. -/
theorem SavingsEffect.of_view {q : Request} {l : Sess} {s s' : Db} (hview : l.view s = s')
    (h : SameSavings s s') : SavingsEffect q l s :=
  .other (hview ▸ h)

/-- What every commit is on the savings side: one of four kinds, or nothing. -/
theorem Request.Effect.savings {q : Request} {l : Sess} {s : Db} {b : Response}
    (h : q.Effect l s b) : SavingsEffect q l s := by
  -- contributions and payouts have effects of their own; the others leave the savings tables alone
  cases q with
  | record newId actor input =>
    obtain ⟨a, -, h⟩ := h
    exact .recorded rfl h
  | settle tr actor input =>
    obtain ⟨a, -, _, _, _, _, _, _, h, -⟩ := h
    exact .settled rfl h
  | createPayout newId actor input =>
    obtain ⟨a, -, h⟩ := h
    exact .requested rfl h
  | review tr actor input =>
    obtain ⟨a, -, _, _, _, _, h, -⟩ := h
    exact .reviewed rfl h
  | verifySchool actor input =>
    obtain ⟨a, -, h⟩ := h
    obtain ⟨log, -, -, hview⟩ := h.view
    exact .of_view hview ⟨rfl, rfl, rfl, rfl⟩
  | createPool newId actor input =>
    obtain ⟨a, -, h⟩ := h
    obtain ⟨log, -, hview⟩ := h.view
    exact .of_view hview ⟨rfl, rfl, rfl, rfl⟩
  | fundPool newId actor input =>
    obtain ⟨a, -, pool, h⟩ := h
    obtain ⟨log, -, hview⟩ := h.view
    exact .of_view hview ⟨rfl, rfl, rfl, rfl⟩
  | createApplication newId actor input =>
    obtain ⟨a, -, h⟩ := h
    obtain ⟨log, -, hview⟩ := h.view
    exact .of_view hview ⟨rfl, rfl, rfl, rfl⟩
  | approve newId actor input =>
    obtain ⟨a, -, _, _, _, _, _, _, h⟩ := h
    obtain ⟨log, -, hview⟩ := h.view
    exact .of_view hview ⟨rfl, rfl, rfl, rfl⟩
  | reject newId actor input =>
    obtain ⟨a, -, _, _, _, _, _, _, h⟩ := h
    obtain ⟨log, -, hview⟩ := h.view
    exact .of_view hview ⟨rfl, rfl, rfl, rfl⟩
  | disburse actor input =>
    obtain ⟨a, -, _, _, _, _, _, _, _, _, _, _, h⟩ := h
    obtain ⟨_, _, _, -, hview⟩ := h.view
    exact .of_view hview ⟨rfl, rfl, rfl, rfl⟩
  | revoke actor input =>
    obtain ⟨a, -, _, _, _, _, _, _, _, _, _, _, h⟩ := h
    obtain ⟨_, _, _, -, hview⟩ := h.view
    exact .of_view hview ⟨rfl, rfl, rfl, rfl⟩

/-! ## Pools, applications, awards and donor contributions

  Likewise for the scholarship side, with five cases.  The two sides share no table but the audit
  log. -/

/-- Two states with the same scholarship side. -/
structure SameScholarships (s s' : Db) : Prop where
  pools : s'.pools = s.pools
  applications : s'.applications = s.applications
  awards : s'.awards = s.awards
  donorContributions : s'.donorContributions = s.donorContributions

/-- What a commit does to the scholarship side. -/
inductive ScholarshipEffect (q : Request) (l : Sess) (s : Db) : Prop
  | created {newId : Uuid} {actor : AuthenticatedUser} {input : CreateScholarshipPoolInput}
    {a : ScholarshipPool} (request : q = .createPool newId actor input)
    (h : PoolCreated newId l s a)
  | funded {newId : Uuid} {actor : AuthenticatedUser} {input : FundScholarshipPoolInput}
    {pool : ScholarshipPool} {donation : DonorContribution}
    (request : q = .fundPool newId actor input) (h : PoolFunded newId input l s pool donation)
  | applied {newId : Uuid} {actor : AuthenticatedUser} {input : CreateScholarshipApplicationInput}
    {a : ScholarshipApplication} (request : q = .createApplication newId actor input)
    (h : Applied newId input l s a)
  | decided {d : Decision} {newId : Uuid} {actor : AuthenticatedUser}
    {input : DecideScholarshipApplicationInput} {t₁ t₂ : Db}
    {application row : ScholarshipApplication} {pool lockedPool : ScholarshipPool}
    {award : ScholarshipAward}
    (request : q = match d with
      | .approve => .approve newId actor input
      | .reject => .reject newId actor input)
    (h : DecidedAs d newId actor input l s t₁ t₂ application row pool lockedPool award)
  | moved {tr : AwardTransition} {actor : AuthenticatedUser} {input : UpdateScholarshipAwardInput}
    {t₁ t₂ t₃ t₄ : Db} {award row : ScholarshipAward} {application reread : ScholarshipApplication}
    {pool lockedPool : ScholarshipPool}
    (request : (tr = .disburse ∧ q = .disburse actor input) ∨ (tr = .revoke ∧ q = .revoke actor input))
    (h : AwardMovedAs tr actor input l s t₁ t₂ t₃ t₄ award row application reread pool lockedPool)
  | other (h : SameScholarships s (l.view s))

/-- A commit that changes nothing of the scholarship side. -/
theorem ScholarshipEffect.of_view {q : Request} {l : Sess} {s s' : Db} (hview : l.view s = s')
    (h : SameScholarships s s') : ScholarshipEffect q l s :=
  .other (hview ▸ h)

/-- What every commit is on the scholarship side: one of five kinds, or nothing. -/
theorem Request.Effect.scholarship {q : Request} {l : Sess} {s : Db} {b : Response}
    (h : q.Effect l s b) : ScholarshipEffect q l s := by
  -- the other way round: the scholarship operations, and those that leave their tables alone
  cases q with
  | record newId actor input =>
    obtain ⟨a, -, h⟩ := h
    obtain ⟨log, -, -, hview⟩ := h.view
    exact .of_view hview ⟨rfl, rfl, rfl, rfl⟩
  | settle tr actor input =>
    obtain ⟨a, -, _, _, _, _, _, _, h, -⟩ := h
    exact .of_view h.view ⟨rfl, rfl, rfl, rfl⟩
  | createPayout newId actor input =>
    obtain ⟨a, -, h⟩ := h
    obtain ⟨log, -, -, hview⟩ := h.view
    exact .of_view hview ⟨rfl, rfl, rfl, rfl⟩
  | review tr actor input =>
    obtain ⟨a, -, _, _, _, _, h, -⟩ := h
    exact .of_view h.view ⟨rfl, rfl, rfl, rfl⟩
  | verifySchool actor input =>
    obtain ⟨a, -, h⟩ := h
    obtain ⟨log, -, -, hview⟩ := h.view
    exact .of_view hview ⟨rfl, rfl, rfl, rfl⟩
  | createPool newId actor input =>
    obtain ⟨a, -, h⟩ := h
    exact .created rfl h
  | fundPool newId actor input =>
    obtain ⟨a, -, pool, h⟩ := h
    exact .funded rfl h
  | createApplication newId actor input =>
    obtain ⟨a, -, h⟩ := h
    exact .applied rfl h
  | approve newId actor input =>
    obtain ⟨a, -, _, _, _, _, _, _, h⟩ := h
    exact .decided (d := .approve) rfl h
  | reject newId actor input =>
    obtain ⟨a, -, _, _, _, _, _, _, h⟩ := h
    exact .decided (d := .reject) rfl h
  | disburse actor input =>
    obtain ⟨a, -, _, _, _, _, _, _, _, _, _, _, h⟩ := h
    exact .moved (.inl ⟨rfl, rfl⟩) h
  | revoke actor input =>
    obtain ⟨a, -, _, _, _, _, _, _, _, _, _, _, h⟩ := h
    exact .moved (.inr ⟨rfl, rfl⟩) h

/-! ### Table by table -/

/-- What a commit does to the pools: of a pool that is there, it sets the balance. -/
inductive PoolsEffect (l : Sess) (s : Db) : Prop
  | kept (view : (l.view s).pools = s.pools)
  | created {newId : Uuid} {a : ScholarshipPool} (h : PoolCreated newId l s a)
    (fresh : s.pools.find a.id = none) (view : (l.view s).pools = s.pools.insert a)
  | set {id : Uuid} {pool : ScholarshipPool} {funds : Int64} {nonneg : 0 ≤ funds}
    (locked : s.pools.find id = some pool)
    (view : (l.view s).pools = s.pools.replace (pool.setFunds funds nonneg))

/-- What it does to the donor contributions. -/
inductive DonationsEffect (q : Request) (l : Sess) (s : Db) : Prop
  | kept (view : (l.view s).donorContributions = s.donorContributions)
  | funded {newId : Uuid} {actor : AuthenticatedUser} {input : FundScholarshipPoolInput}
    {pool : ScholarshipPool} {donation : DonorContribution}
    (request : q = .fundPool newId actor input) (h : PoolFunded newId input l s pool donation)
    (fresh : s.donorContributions.find donation.id = none)
    (view : (l.view s).donorContributions = s.donorContributions.insert donation)

/-- What it does to the applications. -/
inductive ApplicationsEffect (q : Request) (l : Sess) (s : Db) : Prop
  | kept (view : (l.view s).applications = s.applications)
  | applied {newId : Uuid} {input : CreateScholarshipApplicationInput} {a : ScholarshipApplication}
    (h : Applied newId input l s a) (fresh : s.applications.find a.id = none)
    (view : (l.view s).applications = s.applications.insert a)
  | decided {d : Decision} {newId : Uuid} {actor : AuthenticatedUser}
    {input : DecideScholarshipApplicationInput} {t₁ t₂ : Db}
    {application row : ScholarshipApplication} {pool lockedPool : ScholarshipPool}
    {award : ScholarshipAward}
    (request : q = match d with
      | .approve => .approve newId actor input
      | .reject => .reject newId actor input)
    (h : DecidedAs d newId actor input l s t₁ t₂ application row pool lockedPool award)
    (view : (l.view s).applications = s.applications.replace (row.setStatus d.applicationStatus))

/-- What it does to the awards. -/
inductive AwardsEffect (q : Request) (l : Sess) (s : Db) : Prop
  | kept (view : (l.view s).awards = s.awards)
  | decided {d : Decision} {newId : Uuid} {actor : AuthenticatedUser}
    {input : DecideScholarshipApplicationInput} {t₁ t₂ : Db}
    {application row : ScholarshipApplication} {pool lockedPool : ScholarshipPool}
    {award : ScholarshipAward}
    (h : DecidedAs d newId actor input l s t₁ t₂ application row pool lockedPool award)
    (fresh : s.awards.find award.id = none) (view : (l.view s).awards = s.awards.insert award)
  | moved {tr : AwardTransition} {actor : AuthenticatedUser} {input : UpdateScholarshipAwardInput}
    {t₁ t₂ t₃ t₄ : Db} {award row : ScholarshipAward} {application reread : ScholarshipApplication}
    {pool lockedPool : ScholarshipPool}
    (request : (tr = .disburse ∧ q = .disburse actor input) ∨ (tr = .revoke ∧ q = .revoke actor input))
    (h : AwardMovedAs tr actor input l s t₁ t₂ t₃ t₄ award row application reread pool lockedPool)

section

variable {q : Request} {l : Sess} {s : Db}

/-- What a commit does to the pools. -/
theorem ScholarshipEffect.pools (h : ScholarshipEffect q l s) : PoolsEffect l s := by
  rcases h with ⟨-, hc⟩ | ⟨-, hc⟩ | ⟨-, hc⟩ | ⟨-, hc⟩ | ⟨-, hc⟩ | hc
  · obtain ⟨log, -, hview⟩ := hc.view
    exact .created hc (by rw [hc.id]; exact hc.fresh) (by rw [hview])
  · obtain ⟨log, -, hview⟩ := hc.view
    exact .set hc.locked (by rw [hview])
  · obtain ⟨log, -, hview⟩ := hc.view
    exact .kept (by rw [hview])
  · obtain ⟨log, -, hview⟩ := hc.view
    exact .set hc.poolLocked (by rw [hview])
  · obtain ⟨payout, vault, log, -, hview⟩ := hc.view
    exact .set hc.poolLocked (by rw [hview])
  · exact .kept hc.pools

/-- What a commit does to the donor contributions. -/
theorem ScholarshipEffect.donations (h : ScholarshipEffect q l s) : DonationsEffect q l s := by
  rcases h with ⟨-, hc⟩ | ⟨hq, hc⟩ | ⟨-, hc⟩ | ⟨-, hc⟩ | ⟨-, hc⟩ | hc
  · obtain ⟨log, -, hview⟩ := hc.view
    exact .kept (by rw [hview])
  · obtain ⟨log, -, hview⟩ := hc.view
    exact .funded hq hc (by rw [hc.id]; exact hc.fresh) (by rw [hview])
  · obtain ⟨log, -, hview⟩ := hc.view
    exact .kept (by rw [hview])
  · obtain ⟨log, -, hview⟩ := hc.view
    exact .kept (by rw [hview])
  · obtain ⟨payout, vault, log, -, hview⟩ := hc.view
    exact .kept (by rw [hview])
  · exact .kept hc.donorContributions

/-- What a commit does to the applications. -/
theorem ScholarshipEffect.applications (h : ScholarshipEffect q l s) : ApplicationsEffect q l s := by
  rcases h with ⟨-, hc⟩ | ⟨-, hc⟩ | ⟨-, hc⟩ | ⟨hq, hc⟩ | ⟨-, hc⟩ | hc
  · obtain ⟨log, -, hview⟩ := hc.view
    exact .kept (by rw [hview])
  · obtain ⟨log, -, hview⟩ := hc.view
    exact .kept (by rw [hview])
  · obtain ⟨log, -, hview⟩ := hc.view
    exact .applied hc (by rw [hc.id]; exact hc.fresh) (by rw [hview])
  · obtain ⟨log, -, hview⟩ := hc.view
    exact .decided hq hc (by rw [hview])
  · obtain ⟨payout, vault, log, -, hview⟩ := hc.view
    exact .kept (by rw [hview])
  · exact .kept hc.applications

/-- What a commit does to the awards. -/
theorem ScholarshipEffect.awards (h : ScholarshipEffect q l s) : AwardsEffect q l s := by
  rcases h with ⟨-, hc⟩ | ⟨-, hc⟩ | ⟨-, hc⟩ | ⟨-, hc⟩ | ⟨hq, hc⟩ | hc
  · obtain ⟨log, -, hview⟩ := hc.view
    exact .kept (by rw [hview])
  · obtain ⟨log, -, hview⟩ := hc.view
    exact .kept (by rw [hview])
  · obtain ⟨log, -, hview⟩ := hc.view
    exact .kept (by rw [hview])
  · obtain ⟨log, -, hview⟩ := hc.view
    exact .decided hc (by rw [hc.awardOf.id]; exact hc.fresh) (by rw [hview])
  · exact .moved hq hc
  · exact .kept hc.awards

end

/-! ## Requests served alone

  Served alone, a request has read the state that it commits to.  So the two rows of `SettledAs`
  and of `ReviewedAs`, the one that was read and the one that is rewritten, are the same row. -/

/-- What a request keeps when it is served alone: its commit, if there is one, has read the state it
    starts from. -/
theorem Request.serve_keeps {P : Db → Prop} {q : Request} {s : Db} (hs : P s)
    (h : ∀ l b, (∀ t ∈ l.seen, t = s) → q.Effect l s b → P (l.view s)) : P (q.serve s).2 := by
  rcases (Request.outcomes q).serve s with ⟨l, -, -, hdb⟩ | ⟨l, b, hseen, heffect, -, hdb⟩
  · rw [Request.serve, hdb]; exact hs
  · rw [Request.serve, hdb]; exact h l b hseen heffect

/-- An error is not changed by what is made of the answer. -/
theorem error_of_map {ε α β : Type} {r : Except ε α} {f : α → β} {e : ε} (h : r.map f = .error e) :
    r = .error e := by
  cases r with
  | ok a => cases h
  | error e => cases h; rfl

/-- A settlement that is answered with an error has stopped with it. -/
theorem Request.settle_stopped {tr : ContributionTransition} {actor : AuthenticatedUser}
    {input : SettlementInput} {s : Db} {e : ServiceError}
    (h : ((Request.settle tr actor input).serve s).1 = .error e) :
    ∃ l, (∀ t ∈ l.seen, t = s) ∧ SettleStopped tr actor input l s (.error e) := by
  rcases (Request.outcomes (.settle tr actor input)).serve s with
    ⟨l, hseen, ⟨r, hr, hstop⟩, -⟩ | ⟨l, b, -, -, hok, -⟩
  · rw [error_of_map (hr.symm.trans h)] at hstop
    exact ⟨l, hseen, hstop⟩
  · rw [Request.serve, hok] at h
    cases h

/-- A review, too. -/
theorem Request.review_stopped {tr : PayoutTransition} {actor : AuthenticatedUser}
    {input : ReviewPayoutInput} {s : Db} {e : ServiceError}
    (h : ((Request.review tr actor input).serve s).1 = .error e) :
    ∃ l, (∀ t ∈ l.seen, t = s) ∧ ReviewStopped tr actor input l s (.error e) := by
  rcases (Request.outcomes (.review tr actor input)).serve s with
    ⟨l, hseen, ⟨r, hr, hstop⟩, -⟩ | ⟨l, b, -, -, hok, -⟩
  · rw [error_of_map (hr.symm.trans h)] at hstop
    exact ⟨l, hseen, hstop⟩
  · rw [Request.serve, hok] at h
    cases h

section

variable {tr : ContributionTransition} {actor : AuthenticatedUser} {input : SettlementInput}
  {l : Sess} {s t : Db} {current row : Contribution} {vault vault' : SavingsVault}
  {entries : List VaultLedgerEntry}

/-- A settlement that has read the state it commits to has read the row that it rewrites... -/
theorem SettledAs.serial_row (h : SettledAs tr actor input l s t current row vault vault' entries)
    (hseen : ∀ t ∈ l.seen, t = s) : current = row := by
  obtain rfl : t = s := hseen t (by rw [h.begun.seen]; exact List.mem_cons_self)
  exact Option.some.inj (h.begun.found.symm.trans h.locked)

/-- ... and has decided on it. -/
theorem SettledAs.serial (h : SettledAs tr actor input l s t current row vault vault' entries)
    (hseen : ∀ t ∈ l.seen, t = s) : Contributions.Edge row.status tr.targetStatus := by
  rw [← h.serial_row hseen]
  exact h.begun.edge

/-- Of a review that has read the present state, the rows that it locks are those it has checked... -/
theorem ReviewBegun.serial {tr : PayoutTransition} {input : ReviewPayoutInput} {x : ReviewReads}
    {row : PayoutRequest} (h : ReviewBegun tr actor input l x) (hseen : ∀ t ∈ l.seen, t = s)
    (hrow : s.payouts.find input.payoutId = some row) (hvault : s.vaults.find row.vaultId = some vault) :
    x.payout = row ∧ x.vault = vault := by
  have h₁ : x.t₁ = s := hseen x.t₁ (by rw [h.seen]; simp)
  have h₄ : x.t₄ = s := hseen x.t₄ (by rw [h.seen]; simp)
  have hread : x.payout = row := Option.some.inj ((h₁ ▸ h.found).symm.trans hrow)
  exact ⟨hread, Option.some.inj ((h₄ ▸ h.vaultFound).symm.trans (hread ▸ hvault))⟩

/-- ... and it has decided on them. -/
theorem ReviewedAs.serial {tr : PayoutTransition} {input : ReviewPayoutInput} {x : ReviewReads}
    {row : PayoutRequest} (h : ReviewedAs tr actor input l s x row vault vault')
    (hseen : ∀ t ∈ l.seen, t = s) :
    x.payout = row ∧ x.vault = vault ∧ Payouts.Edge row.status tr.targetStatus := by
  obtain ⟨hrow, hvault⟩ := h.begun.serial hseen h.locked h.vaultLocked
  exact ⟨hrow, hvault, hrow ▸ h.begun.edge⟩

end

open Contributions in
/-- A settlement that the rules accept, served alone: it commits, or its sum does not fit, or there
    is not enough to take back. -/
theorem Request.serve_settle {tr : ContributionTransition} {actor : AuthenticatedUser}
    {input : SettlementInput} {s : Db} {c : Contribution} {v : SavingsVault}
    (hadmin : actor.role = .platformAdmin)
    (hc : s.contributions.find input.contributionId = some c) (hedge : Edge c.status tr.targetStatus)
    (hv : s.vaults.find c.vaultId = some v) :
    (∃ l t current vault' entries, SettledAs tr actor input l s t current c v vault' entries ∧
      (Request.settle tr actor input).serve s =
        (.ok (.contribution (settledRow tr input c)), l.view s)) ∨
    (tr = .confirm ∧ ¬ 0 ≤ v.totalContributedMinor + c.amount.amountMinor ∧
      (Request.settle tr actor input).serve s = (.error (.ofPersistence
        (.checkViolation "savings_vaults" "savings_vaults_total_contributed_minor_check")), s)) ∨
    (tr = .reverse ∧ v.totalContributedMinor < c.amount.amountMinor ∧
      (Request.settle tr actor input).serve s =
        (.error (.conflict "vault balance would become negative"), s)) := by
  -- the row is there, so whatever is found under its id is that row
  have hlocked : ∀ {row}, s.contributions.find input.contributionId = some row → row = c :=
    fun hrow => Option.some.inj (hrow.symm.trans hc)
  rcases (Request.outcomes (.settle tr actor input)).serve s with
    ⟨l, hseen, ⟨r, hr, hstop⟩, hdb⟩ | ⟨l, b, -, ⟨a, rfl, h⟩, hok, hdb⟩
  · -- of the ends without a commit, the state leaves two
    have hread : ∀ {t}, l.seen = [t] → t = s :=
      fun ht => hseen _ (by rw [ht]; exact List.mem_cons_self)
    cases hstop with
    | forbidden _ hrole => exact absurd hadmin hrole
    | missing _ ht hnone =>
      rw [hread ht] at hnone
      cases hnone.symm.trans hc
    | illegal _ ht hcurrent hrefused =>
      rw [hread ht] at hcurrent
      rw [hlocked hcurrent, ok_of_edge hedge] at hrefused
      cases hrefused
    | unchanged _ ht hcurrent hsame =>
      rw [hread ht] at hcurrent
      rw [hlocked hcurrent] at hsame
      exact absurd hsame hedge.1
    | repeated _ hrow hsame =>
      rw [hlocked hrow] at hsame
      exact absurd hsame hedge.1
    | gone _ hnone => cases hnone.symm.trans hc
    | vaultGone _ hrow hnone =>
      rw [hlocked hrow] at hnone
      cases hnone.symm.trans hv
    | overflow _ htr hrow _ hvault _ hwraps =>
      rw [hlocked hrow] at hvault hwraps
      obtain rfl := Option.some.inj (hv.symm.trans hvault)
      exact .inr (.inl ⟨htr, hwraps, Prod.ext hr hdb⟩)
    | negative _ htr hrow _ hvault _ hshort =>
      rw [hlocked hrow] at hvault hshort
      obtain rfl := Option.some.inj (hv.symm.trans hvault)
      exact .inr (.inr ⟨htr, hshort, Prod.ext hr hdb⟩)
  · obtain ⟨t, current, row, vault, vault', entries, h, rfl⟩ := h
    obtain rfl := hlocked h.locked
    obtain rfl := Option.some.inj (hv.symm.trans h.vaultLocked)
    exact .inl ⟨l, t, current, vault', entries, h, Prod.ext hok hdb⟩

end EduStell
