/-
  What a notification tells has happened.

  A handler announces a settlement or a review whenever its service answers `Ok`, and that may be long
  after the row has moved on: the service may have found the transition taken in a row that it read
  without a lock.  So the status of the row is no proof of the announcement.  What stands is the audit
  row of the transition, which is written together with the status (`Audited`) and never leaves, and
  the row with its owner and its amount, which nothing changes (`SubjectsKept`).  An award that was
  approved may be disbursed or revoked, but it does not become a rejection (`RejectionsKept`).

  All this is relative to a state `s₀` in which a run starts: what had its status there needs no
  audit row.

  The plan: `Backed` is stable, since what it names stays (`NewsKept`); a row with a status has
  its audit row (`Audited`); hence what a service answers with `Ok` is backed (`settle_among`,
  `review_among`, `other_among`), wherever its program was interrupted by others.
-/
import EduStell.Integrity.Rows
import EduStell.Notifications.Service
import EduStell.Savings.StatusEdges
import EduStell.Txn.Compose

namespace EduStell

open Txn Program Persistence Notifications

/-! ## What an event says

  `Backed` has one case for each event.  It names the row, the transition that the trail records,
  and the user who is to be told. -/

/-- The trail has a row that says so. -/
def Trailed (entityType action : String) (id : Uuid) (s : Db) : Prop :=
  ∃ log ∈ s.audit, log.entityType = entityType ∧ log.entityId = some id ∧ log.action = action

/-- The contribution has been through the transition, at the start or with an audit row. -/
def SettledBy (s₀ : Db) (tr : ContributionTransition) (id : Uuid) (s : Db) : Prop :=
  (∃ c₀, s₀.contributions.find id = some c₀ ∧ c₀.status = tr.targetStatus) ∨
    Trailed "contribution" tr.auditAction id s

/-- So has the payout. -/
def ReviewedBy (s₀ : Db) (tr : PayoutTransition) (id : Uuid) (s : Db) : Prop :=
  (∃ p₀, s₀.payouts.find id = some p₀ ∧ p₀.status = tr.targetStatus) ∨
    Trailed "payout_request" tr.auditAction id s

/-- This contribution was settled in this way. -/
def WasSettled (s₀ : Db) (tr : ContributionTransition) (c : Contribution) (s : Db) : Prop :=
  SettledBy s₀ tr c.id s ∧
    ∃ row, s.contributions.find c.id = some row ∧ row.vaultId = c.vaultId ∧ row.amount = c.amount

/-- This payout was reviewed in this way. -/
def WasReviewed (s₀ : Db) (tr : PayoutTransition) (p : PayoutRequest) (s : Db) : Prop :=
  ReviewedBy s₀ tr p.id s ∧
    ∃ row, s.payouts.find p.id = some row ∧ row.requestedBy = p.requestedBy ∧
      row.vaultId = p.vaultId ∧ row.amount = p.amount

/-- An award was granted on an application. -/
def WasAwarded (award : ScholarshipAward) (application : ScholarshipApplication) (s : Db) : Prop :=
  (∃ row, s.awards.find award.id = some row ∧ row.applicationId = application.id ∧
    row.amount = award.amount ∧ row.status ≠ .rejected) ∧
  ∃ row, s.applications.find application.id = some row ∧
    row.applicantUserId = application.applicantUserId

/-- What the event says has happened, and to the one it is addressed to. -/
inductive Backed (s₀ s : Db) : ApplicationEvent → Prop
  /-- The contribution was confirmed, and the user owns its vault. -/
  | contributionReceived {c : Contribution} {vault : SavingsVault}
    (settled : WasSettled s₀ .confirm c s) (owner : s.vaults.find c.vaultId = some vault) :
    Backed s₀ s (.contributionReceived vault.ownerUserId c.id c.vaultId c.amount.amountMinor
      c.amount.currency.asStr)
  /-- The payout was approved, and the user has asked for it. -/
  | payoutApproved {p : PayoutRequest} (reviewed : WasReviewed s₀ .approve p s) :
    Backed s₀ s (.payoutApproved p.requestedBy p.id p.vaultId p.amount.amountMinor
      p.amount.currency.asStr)
  /-- The payout was completed, and the user has asked for it. -/
  | payoutCompleted {p : PayoutRequest} (reviewed : WasReviewed s₀ .complete p s) :
    Backed s₀ s (.payoutCompleted p.requestedBy p.id p.vaultId p.amount.amountMinor
      p.amount.currency.asStr)
  /-- The award was granted, and the user has applied for it. -/
  | scholarshipAwarded {award : ScholarshipAward} {application : ScholarshipApplication}
    (awarded : WasAwarded award application s) :
    Backed s₀ s (.scholarshipAwarded application.applicantUserId award.id application.id
      award.amount.amountMinor award.amount.currency.asStr)

/-! ## What nothing changes

  `SubjectsKept` is what no statement changes; `NewsKept` adds what no commit changes, that a
  rejection stays one. -/

/-- A later state still has every row that an event may speak of, and the trail. -/
structure SubjectsKept (s s' : Db) : Prop where
  /-- A contribution keeps its vault and its amount. -/
  contributions : Table.Keeps (fun c : Contribution => (c.vaultId, c.amount)) s.contributions
    s'.contributions
  /-- A payout keeps who has asked for it, its vault and its amount. -/
  payouts : Table.Keeps (fun p : PayoutRequest => (p.requestedBy, p.vaultId, p.amount)) s.payouts
    s'.payouts
  /-- A vault keeps its owner. -/
  vaults : Table.Keeps SavingsVault.ownerUserId s.vaults s'.vaults
  /-- An award keeps its application and its amount. -/
  awards : Table.Keeps (fun a : ScholarshipAward => (a.applicationId, a.amount)) s.awards s'.awards
  /-- An application keeps its applicant. -/
  applications : Table.Keeps ScholarshipApplication.applicantUserId s.applications s'.applications
  /-- No audit row is lost. -/
  audit : ∀ log ∈ s.audit, log ∈ s'.audit

namespace SubjectsKept

variable {s₀ s t u : Db}

/-- Nothing has changed. -/
theorem refl (s : Db) : SubjectsKept s s :=
  ⟨.refl _, .refl _, .refl _, .refl _, .refl _, fun _ h => h⟩

/-- What is kept over two stretches is kept over both. -/
theorem trans (hst : SubjectsKept s t) (htu : SubjectsKept t u) : SubjectsKept s u :=
  ⟨hst.contributions.trans htu.contributions, hst.payouts.trans htu.payouts,
    hst.vaults.trans htu.vaults, hst.awards.trans htu.awards,
    hst.applications.trans htu.applications, fun log h => htu.audit log (hst.audit log h)⟩

/-- No statement changes what an event may speak of. -/
theorem apply (w : Write) (s : Db) : SubjectsKept s (Store.apply w s) := by
  have hsame := refl s
  -- what news speaks of is never overwritten: owner, vault, amount, requester, applicant
  cases w with
  | insertContribution row => exact { hsame with contributions := Table.keeps_insert _ _ }
  | settleContribution id status ref =>
    have hkeeps := Table.keeps_modify s.contributions id (fun c => c.settle status ref)
      (fun _ hk => hk) (f := fun c => (c.vaultId, c.amount)) fun _ => rfl
    exact { hsame with contributions := hkeeps }
  | insertPayout row => exact { hsame with payouts := Table.keeps_insert _ _ }
  | reviewPayout id status notes ref reviewer =>
    have hkeeps := Table.keeps_modify s.payouts id (fun p => p.review status notes ref reviewer)
      (fun _ hk => hk) (f := fun p => (p.requestedBy, p.vaultId, p.amount)) fun _ => rfl
    exact { hsame with payouts := hkeeps }
  | setVaultTotals id total h =>
    have hkeeps := Table.keeps_modify s.vaults id (fun v => v.setTotals total h) (fun _ hk => hk)
      (f := SavingsVault.ownerUserId) fun _ => rfl
    exact { hsame with vaults := hkeeps }
  | setVaultLocked id locked disbursed hl hd =>
    have hkeeps := Table.keeps_modify s.vaults id
      (fun v => v.setLockedAndDisbursed locked disbursed hl hd) (fun _ hk => hk)
      (f := SavingsVault.ownerUserId) fun _ => rfl
    exact { hsame with vaults := hkeeps }
  | setVaultBalances id contributed locked hc hl =>
    have hkeeps := Table.keeps_modify s.vaults id (fun v => v.setBalances contributed locked hc hl)
      (fun _ hk => hk) (f := SavingsVault.ownerUserId) fun _ => rfl
    exact { hsame with vaults := hkeeps }
  | insertAward row => exact { hsame with awards := Table.keeps_insert _ _ }
  | transitionAward id status payout vault =>
    have hkeeps := Table.keeps_modify s.awards id (fun a => a.transition status payout vault)
      (fun _ hk => hk) (f := fun a => (a.applicationId, a.amount)) fun _ => rfl
    exact { hsame with awards := hkeeps }
  | insertApplication row => exact { hsame with applications := Table.keeps_insert _ _ }
  | setApplicationStatus id status =>
    have hkeeps := Table.keeps_modify s.applications id (fun x => x.setStatus status)
      (fun _ hk => hk) (f := ScholarshipApplication.applicantUserId) fun _ => rfl
    exact { hsame with applications := hkeeps }
  | insertAuditLog row => exact { hsame with audit := fun log h => List.mem_append_left _ h }
  | _ => exact { hsame with }

/-- The statements of a session change no subject: amounts, owners and addressees stay. -/
theorem view (l : Sess) (s : Db) : SubjectsKept s (l.view s) :=
  l.view_keeps (fun w _ h => h.trans (apply w _)) (refl s)

/-- The trail keeps its rows. -/
theorem trailed {entityType action : String} {id : Uuid} (h : SubjectsKept s t)
    (hs : Trailed entityType action id s) : Trailed entityType action id t := by
  obtain ⟨log, hlog, hrest⟩ := hs
  exact ⟨log, h.audit log hlog, hrest⟩

/-- A contribution that was settled stays so. -/
theorem wasSettled {tr : ContributionTransition} {c : Contribution} (h : SubjectsKept s t)
    (hs : WasSettled s₀ tr c s) : WasSettled s₀ tr c t := by
  obtain ⟨hsettled, row, hrow, hvault, hamount⟩ := hs
  obtain ⟨row', hrow', hsame⟩ := h.contributions _ row hrow
  obtain ⟨hvault', hamount'⟩ := Prod.mk.inj hsame
  exact ⟨hsettled.imp_right h.trailed, row', hrow', hvault'.trans hvault, hamount'.trans hamount⟩

/-- A payout that was reviewed stays so. -/
theorem wasReviewed {tr : PayoutTransition} {p : PayoutRequest} (h : SubjectsKept s t)
    (hs : WasReviewed s₀ tr p s) : WasReviewed s₀ tr p t := by
  obtain ⟨hreviewed, row, hrow, hby, hvault, hamount⟩ := hs
  obtain ⟨row', hrow', hsame⟩ := h.payouts _ row hrow
  obtain ⟨hby', hrest⟩ := Prod.mk.inj hsame
  obtain ⟨hvault', hamount'⟩ := Prod.mk.inj hrest
  exact ⟨hreviewed.imp_right h.trailed, row', hrow', hby'.trans hby, hvault'.trans hvault,
    hamount'.trans hamount⟩

end SubjectsKept

/-- All that events rely on. -/
structure NewsKept (s s' : Db) : Prop where
  subjects : SubjectsKept s s'
  rejections : RejectionsKept s s'

namespace NewsKept

variable {s₀ s t u : Db}

/-- Nothing has changed. -/
theorem refl (s : Db) : NewsKept s s := ⟨.refl s, .refl _⟩

/-- What is kept over two stretches is kept over both. -/
theorem trans (hst : NewsKept s t) (htu : NewsKept t u) : NewsKept s u :=
  ⟨hst.subjects.trans htu.subjects, hst.rejections.trans htu.rejections⟩

/-- An award that was granted stays so. -/
theorem wasAwarded {award : ScholarshipAward} {application : ScholarshipApplication}
    (h : NewsKept s t) (hs : WasAwarded award application s) : WasAwarded award application t := by
  obtain ⟨⟨row, hrow, happlication, hamount, hstatus⟩, x, hx, hby⟩ := hs
  constructor
  · obtain ⟨row', hrow', hsame⟩ := h.subjects.awards _ row hrow
    obtain ⟨happlication', hamount'⟩ := Prod.mk.inj hsame
    refine ⟨row', hrow', happlication'.trans happlication, hamount'.trans hamount, ?_⟩
    obtain ⟨row'', hrow'', hrejected⟩ := h.rejections _ row hrow
    obtain rfl : row' = row'' := Option.some.inj (hrow'.symm.trans hrow'')
    simpa [ScholarshipAward.isRejected, hstatus] using hrejected
  · obtain ⟨x', hx', hby'⟩ := h.subjects.applications _ x hx
    exact ⟨x', hx', hby'.trans hby⟩

/-- News stays true. -/
theorem backed {event : ApplicationEvent} (h : NewsKept s t) (hs : Backed s₀ s event) :
    Backed s₀ t event := by
  cases hs with
  | contributionReceived settled owner =>
    obtain ⟨vault', hvault', howner⟩ := h.subjects.vaults _ _ owner
    rw [← howner]
    exact .contributionReceived (h.subjects.wasSettled settled) hvault'
  | payoutApproved reviewed => exact .payoutApproved (h.subjects.wasReviewed reviewed)
  | payoutCompleted reviewed => exact .payoutCompleted (h.subjects.wasReviewed reviewed)
  | scholarshipAwarded awarded => exact .scholarshipAwarded (h.wasAwarded awarded)

end NewsKept

/-! ## Status and trail

  The status of a row and the trail: whoever finds the status finds the audit row too, since both
  came in one commit. -/

/-- A row that has the status of a transition has been through it. -/
structure Audited (s₀ s : Db) : Prop where
  /-- A contribution with the status of a transition has been through it. -/
  contributions : ∀ id c tr, s.contributions.find id = some c →
    c.status = ContributionTransition.targetStatus tr → SettledBy s₀ tr id s
  /-- So has a payout. -/
  payouts : ∀ id p tr, s.payouts.find id = some p →
    p.status = PayoutTransition.targetStatus tr → ReviewedBy s₀ tr id s

section

variable {q : Request} {l : Sess} {s₀ s : Db} {b : Response}

/-- At the start every row has the status that it had at the start. -/
theorem Audited.start (s : Db) : Audited s s :=
  ⟨fun _ c _ hc hstatus => .inl ⟨c, hc, hstatus⟩, fun _ p _ hp hstatus => .inl ⟨p, hp, hstatus⟩⟩

/-- Two transitions lead to two states. -/
theorem targetStatus_injective {tr tr' : ContributionTransition}
    (h : tr.targetStatus = tr'.targetStatus) : tr = tr' := by
  cases tr <;> cases tr' <;> first | rfl | cases h

/-- So it is with payouts. -/
theorem payoutTarget_injective {tr tr' : PayoutTransition} (h : tr.targetStatus = tr'.targetStatus) :
    tr = tr' := by
  cases tr <;> cases tr' <;> first | rfl | cases h

/-- What a commit appends is there. -/
theorem Request.Effect.trailed (h : q.Effect l s b) {entityType action : String} {id : Uuid}
    (hlog : ∀ log, q.Audits log → log.entityType = entityType ∧ log.entityId = some id ∧
      log.action = action) : Trailed entityType action id (l.view s) := by
  obtain ⟨log, haudits, hview⟩ := h.audit
  refine ⟨log, ?_, hlog log haudits⟩
  rw [hview]
  exact List.mem_append_right _ (List.mem_singleton_self _)

/-- A commit that brings a contribution to the state of a transition audits it. -/
theorem Audited.commit_contributions (hs : Audited s₀ s) (h : q.Effect l s b) (id : Uuid)
    (c : Contribution) (tr : ContributionTransition) (hc : (l.view s).contributions.find id = some c)
    (hstatus : c.status = tr.targetStatus) : SettledBy s₀ tr id (l.view s) := by
  -- a contribution that is not touched keeps the row of the trail that it had
  have hold : s.contributions.find id = some c → SettledBy s₀ tr id (l.view s) :=
    fun hc => (hs.contributions id c tr hc hstatus).imp_right (SubjectsKept.view l s).trailed
  rcases h.savings with ⟨-, hx⟩ | ⟨rfl, hx⟩ | ⟨-, hx⟩ | ⟨-, hx⟩ | hx
  · obtain ⟨log, -, -, hview⟩ := hx.view
    rw [hview] at hc
    rcases Table.of_find_insert hc with rfl | hc
    · -- no transition leads to the status of a new row
      rw [hx.status] at hstatus
      cases tr <;> cases hstatus
    · exact hold hc
  · rename_i tr' actor input t current row vault vault' entries
    have hrowid : row.id = input.contributionId := (Table.find_some hx.locked).2
    rw [hx.view] at hc
    rw [Table.find_replace] at hc
    split at hc
    · rename_i hid
      obtain ⟨_, -, rfl⟩ := Option.map_eq_some_iff.mp hc
      obtain rfl : tr' = tr := targetStatus_injective hstatus
      refine .inr (h.trailed fun log hlog => ⟨hlog.1, ?_, hlog.2.2⟩)
      rw [hlog.2.1, hid]
      exact congrArg some hrowid.symm
    · exact hold hc
  · obtain ⟨log, -, -, hview⟩ := hx.view
    rw [hview] at hc
    exact hold hc
  · rw [hx.view] at hc
    exact hold hc
  · rw [hx.contributions] at hc
    exact hold hc

/-- A commit that brings a payout to the state of a transition audits it. -/
theorem Audited.commit_payouts (hs : Audited s₀ s) (h : q.Effect l s b) (id : Uuid)
    (p : PayoutRequest) (tr : PayoutTransition) (hp : (l.view s).payouts.find id = some p)
    (hstatus : p.status = tr.targetStatus) : ReviewedBy s₀ tr id (l.view s) := by
  -- as for contributions
  have hold : s.payouts.find id = some p → ReviewedBy s₀ tr id (l.view s) :=
    fun hp => (hs.payouts id p tr hp hstatus).imp_right (SubjectsKept.view l s).trailed
  rcases h.savings with ⟨-, hx⟩ | ⟨-, hx⟩ | ⟨-, hx⟩ | ⟨rfl, hx⟩ | hx
  · obtain ⟨log, -, -, hview⟩ := hx.view
    rw [hview] at hp
    exact hold hp
  · rw [hx.view] at hp
    exact hold hp
  · obtain ⟨log, -, -, hview⟩ := hx.view
    rw [hview] at hp
    rcases Table.of_find_insert hp with rfl | hp
    · rw [hx.status] at hstatus
      cases tr <;> cases hstatus
    · exact hold hp
  · rename_i tr' actor input x row vault vault'
    have hrowid : row.id = input.payoutId := (Table.find_some hx.locked).2
    rw [hx.view] at hp
    rw [Table.find_replace] at hp
    split at hp
    · rename_i hid
      -- the row that is reviewed: its new status names the transition, and the new row of the
      -- trail records it
      obtain ⟨_, -, rfl⟩ := Option.map_eq_some_iff.mp hp
      obtain rfl : tr' = tr := payoutTarget_injective hstatus
      refine .inr (h.trailed fun log hlog => ⟨hlog.1, ?_, hlog.2.2⟩)
      rw [hlog.2.1, hid]
      exact congrArg some hrowid.symm
    · exact hold hp
  · rw [hx.payouts] at hp
    exact hold hp

/-- **Every commit leaves the trail of what it has done.** -/
theorem Audited.commit (hs : Audited s₀ s) (h : q.Effect l s b) : Audited s₀ (l.view s) :=
  ⟨hs.commit_contributions h, hs.commit_payouts h⟩

/-- A row that has the status has been through the transition. -/
theorem Audited.wasSettled (hs : Audited s₀ s) {id : Uuid} {c : Contribution}
    {tr : ContributionTransition} (hc : s.contributions.find id = some c)
    (hstatus : c.status = tr.targetStatus) : WasSettled s₀ tr c s := by
  have hid : c.id = id := (Table.find_some hc).2
  rw [WasSettled, hid]
  exact ⟨hs.contributions id c tr hc hstatus, c, hc, rfl, rfl⟩

/-- A payout in the state of a transition was reviewed so. -/
theorem Audited.wasReviewed (hs : Audited s₀ s) {id : Uuid} {p : PayoutRequest}
    {tr : PayoutTransition} (hp : s.payouts.find id = some p) (hstatus : p.status = tr.targetStatus) :
    WasReviewed s₀ tr p s := by
  have hid : p.id = id := (Table.find_some hp).2
  rw [WasReviewed, hid]
  exact ⟨hs.payouts id p tr hp hstatus, p, hp, rfl, rfl, rfl⟩

/-- A commit takes nothing back that has been announced. -/
theorem NewsKept.commit (h : q.Effect l s b) (hseen : ∀ t ∈ l.seen, RejectionsKept t s) :
    NewsKept s (l.view s) :=
  ⟨.view l s, .commit h hseen⟩

end

/-! ## What the services answer

  The pact between the services and the rest: a commit keeps the news, and an answer is backed by
  what the service has read or written. -/

section

variable {α κ : Type}

/-- What a service agrees on with the others, for what it promises of its answer. -/
def newsPact (s₀ : Db) (Q : Except ServiceError α → Db → Prop)
    (hQ : ∀ {r s t}, NewsKept s t → Q r s → Q r t) : Pact Db ServiceError α κ where
  inv := Audited s₀
  rely := NewsKept
  guar s s' := Audited s₀ s' ∧ NewsKept s s'
  arrivals _ := True
  answers _ := Q
  refl := .refl
  trans := .trans
  keep _ h := h
  answers_stable := hQ

variable {Q : Except ServiceError α → Db → Prop} {hQ : ∀ {r s t}, NewsKept s t → Q r s → Q r t}
  {c : κ} {s₀ s : Db}

/-- A service whose commits are those of a request keeps the pact, if its answers are right. -/
theorem newsPact_among {p : Tx ServiceError α} {E : Sess → Db → α → Prop}
    {N : Sess → Db → Except ServiceError α → Prop} (hp : Outcomes p E N)
    (heffect : ∀ l s a, E l s a → ∃ (q : Request) (b : Response), q.Effect l s b)
    (hE : ∀ l s a, E l s a → Q (.ok a) (l.view s))
    (hN : ∀ l s r, Audited s₀ s → (∀ t ∈ l.seen, Audited s₀ t ∧ NewsKept t s) → N l s r → Q r s)
    (hs : Audited s₀ s) : p.Among (newsPact s₀ Q hQ) c [] [] s := by
  refine Among.of_outcomes hp hs ?_ hN
  intro l s a hinv hseen ha
  obtain ⟨q, b, h⟩ := heffect l s a ha
  have hrejections : ∀ t ∈ l.seen, RejectionsKept t s := fun t ht => (hseen t ht).2.rejections
  exact ⟨⟨hinv.commit h, .commit h hrejections⟩, hE l s a ha⟩

/-- A settlement is answered with a contribution that has been settled. -/
def SettleAnswer (s₀ : Db) (tr : ContributionTransition) (r : Except ServiceError Contribution)
    (s : Db) : Prop :=
  ∀ c, r = .ok c → WasSettled s₀ tr c s

/-- A review is answered with a payout that has been reviewed. -/
def ReviewAnswer (s₀ : Db) (tr : PayoutTransition) (r : Except ServiceError PayoutRequest) (s : Db) :
    Prop :=
  ∀ p, r = .ok p → WasReviewed s₀ tr p s

/-- An approval is answered with the award that it has granted. -/
def OtherAnswer (q : Request) (r : Except ServiceError Response) (s : Db) : Prop :=
  ∀ newId actor input decision, q = .approve newId actor input → r = .ok (.decision decision) →
    WasAwarded decision.award decision.application s

/-- What a settlement was answered with stays true. -/
theorem settleAnswer_stable {tr : ContributionTransition} {r : Except ServiceError Contribution}
    {s₀ s t : Db} (h : NewsKept s t) (hr : SettleAnswer s₀ tr r s) : SettleAnswer s₀ tr r t :=
  fun c hc => h.subjects.wasSettled (hr c hc)

/-- What a review was answered with stays true. -/
theorem reviewAnswer_stable {tr : PayoutTransition} {r : Except ServiceError PayoutRequest}
    {s₀ s t : Db} (h : NewsKept s t) (hr : ReviewAnswer s₀ tr r s) : ReviewAnswer s₀ tr r t :=
  fun p hp => h.subjects.wasReviewed (hr p hp)

/-- What an approval was answered with stays true. -/
theorem otherAnswer_stable {q : Request} {r : Except ServiceError Response} {s t : Db}
    (h : NewsKept s t) (hr : OtherAnswer q r s) : OtherAnswer q r t :=
  fun newId actor input decision hq hd => h.wasAwarded (hr newId actor input decision hq hd)

/-- **A settlement that is answered `Ok` has been made**, by this request or by an earlier one. -/
theorem settle_among (tr : ContributionTransition) (actor : AuthenticatedUser)
    (input : SettlementInput) (hs : Audited s₀ s) :
    (settleContribution actor input tr tr.auditAction).Among
      (newsPact s₀ (SettleAnswer s₀ tr) settleAnswer_stable) c [] [] s := by
  refine newsPact_among settleContribution_outcomes ?_ ?_ ?_ hs
  · exact fun l s a ha => ⟨.settle tr actor input, .contribution a, a, rfl, ha⟩
  · intro l s a ha c hc
    obtain rfl := Except.ok.inj hc
    have heffect : (Request.settle tr actor input).Effect l s (.contribution a) := ⟨a, rfl, ha⟩
    obtain ⟨t, current, row, vault, vault', entries, hx, rfl⟩ := ha
    have hid : row.id = input.contributionId := (Table.find_some hx.locked).2
    refine ⟨.inr (heffect.trailed fun log hlog => ⟨hlog.1, ?_, hlog.2.2⟩), settledRow tr input row,
      ?_, rfl, rfl⟩
    · exact hlog.2.1.trans (congrArg some hid.symm)
    · rw [hx.view]
      exact Table.find_replace_self (hid ▸ hx.locked) rfl
  · intro l s r hinv hseen hr c hc
    subst hc
    cases hr with
    | @unchanged t _ _ seen found status =>
      -- the row was read in an earlier state, and has been told of there
      obtain ⟨haudited, hkept⟩ := hseen t (by rw [seen]; exact List.mem_cons_self)
      exact hkept.subjects.wasSettled (haudited.wasSettled found status)
    | repeated begun locked status => exact hinv.wasSettled locked status

/-- **A review that is answered `Ok` has been made.** -/
theorem review_among (tr : PayoutTransition) (actor : AuthenticatedUser)
    (input : ReviewPayoutInput) (hs : Audited s₀ s) :
    (reviewTransition actor input tr tr.auditAction).Among
      (newsPact s₀ (ReviewAnswer s₀ tr) reviewAnswer_stable) c [] [] s := by
  refine newsPact_among reviewTransition_outcomes ?_ ?_ ?_ hs
  · -- the commit is the effect of a request
    exact fun l s a ha => ⟨.review tr actor input, .payout a, a, rfl, ha⟩
  · -- the commit itself has written the audit row
    intro l s a ha p hp
    obtain rfl := Except.ok.inj hp
    have heffect : (Request.review tr actor input).Effect l s (.payout a) := ⟨a, rfl, ha⟩
    obtain ⟨x, row, vault, vault', hx, rfl⟩ := ha
    have hid : row.id = input.payoutId := (Table.find_some hx.locked).2
    refine ⟨.inr (heffect.trailed fun log hlog => ⟨hlog.1, ?_, hlog.2.2⟩),
      reviewedRow tr actor input row, ?_, rfl, rfl, rfl⟩
    · exact hlog.2.1.trans (congrArg some hid.symm)
    · rw [hx.view]
      exact Table.find_replace_self (hid ▸ hx.locked) rfl
  · -- an answer without a commit: the row was in the status when it was read or locked
    intro l s r hinv hseen hr p hp
    subst hp
    cases hr with
    | @unchanged t _ _ seen found status =>
      obtain ⟨haudited, hkept⟩ := hseen t (by rw [seen]; exact List.mem_cons_self)
      exact hkept.subjects.wasReviewed (haudited.wasReviewed found status)
    | repeated begun locked status => exact hinv.wasReviewed locked status

/-- The award and the application that an approval answers with are the rows that it leaves. -/
theorem Decided.wasAwarded {newId : Uuid} {actor : AuthenticatedUser}
    {input : DecideScholarshipApplicationInput} {l : Sess} {decision : ScholarshipReviewDecision}
    (h : Decided .approve newId actor input l s decision.award)
    (happlication : ∃ row, s.applications.find input.applicationId = some row ∧
      decision.application = row.setStatus .approved) :
    WasAwarded decision.award decision.application (l.view s) := by
  obtain ⟨t₁, t₂, application, row, pool, lockedPool, hx⟩ := h
  obtain ⟨row', hrow', hreturned⟩ := happlication
  obtain rfl : row = row' := Option.some.inj (hx.locked.symm.trans hrow')
  obtain ⟨log, -, hview⟩ := hx.view
  have hid : row.id = input.applicationId := (Table.find_some hx.locked).2
  -- the application that is returned is the stored one
  have hrowid : decision.application.id = row.id := by rw [hreturned]; rfl
  rw [hview]
  constructor
  · refine ⟨decision.award, ?_, ?_, rfl, ?_⟩
    · refine Table.find_insert_new rfl ?_
      rw [hx.awardOf.id]
      exact hx.fresh
    · rw [hrowid, hid]
      exact hx.awardOf.applicationId
    · rw [hx.awardOf.status]
      decide
  · refine ⟨row.setStatus .approved, ?_, ?_⟩
    · rw [hrowid]
      exact Table.find_replace_self (hid ▸ hx.locked) rfl
    · rw [hreturned]

/-- **The other requests**: an approval that is answered `Ok` has granted an award. -/
theorem other_among (q : Request) (hs : Audited s₀ s) :
    q.program.Among (newsPact s₀ (OtherAnswer q) otherAnswer_stable) c [] [] s := by
  by_cases hq : ∃ newId actor input, q = .approve newId actor input
  · obtain ⟨newId, actor, input, rfl⟩ := hq
    refine newsPact_among (approveApplication_ends.map _) ?_ ?_ ?_ hs
    · rintro l s b ⟨decision, rfl, hdecided, -⟩
      exact ⟨.approve newId actor input, .decision decision, decision, rfl, hdecided⟩
    · rintro l s b ⟨decision, rfl, hdecided, hreturned⟩ newId' actor' input' decision' - hok
      cases hok
      exact hdecided.wasAwarded hreturned
    · rintro l s r - - ⟨r', rfl, e, rfl⟩ newId' actor' input' decision' - hok
      cases hok
  · refine newsPact_among q.outcomes ?_ ?_ ?_ hs
    · exact fun l s b hb => ⟨q, b, hb⟩
    · exact fun l s b _ newId actor input _ hsame _ => absurd ⟨newId, actor, input, hsame⟩ hq
    · exact fun l s r _ _ _ newId actor input _ hsame _ => absurd ⟨newId, actor, input, hsame⟩ hq

end

end EduStell
