/-
  Duplicates of one transition, in any interleaving.

  A call is idempotent at two levels: its service answers at once when it READS the row in the target
  status, and its transaction answers without a write when it LOCKS the row there.  Between the two
  the row can only move from where it was to the target, as long as all transitions of the entity are
  the same one; so the first commit takes effect, and every other call finds one of the two.

  The plan, for contributions first and then for payouts:

  1. the condition on the others: no other transition of the entity, and sums that fit;
  2. the effect of the one commit on all that belongs to the entity (`SettlementOf`, `ReviewOf`),
     and what everybody else leaves of it (`ContributionKept`, `PayoutKept`);
  3. what a duplicate is answered with (`settle_answer`, `review_answer`);
  4. the contract, and by `EduStell.Txn.Once` that one commit counts.
-/
import EduStell.Savings.StatusEdges
import EduStell.Txn.Once

namespace EduStell

open Txn

/-! ## Exactly once

  What the two kinds of entities share: of all the statements of the duplicates, one changes the
  database, and every call that is not refused is answered as it is. -/

/-- The call got past the checks of its service: it has begun its transaction, or was answered
    without an error. -/
def Passed (l : Sess) (r : Except ServiceError Response) : Prop := l.began = true ∨ ∃ b, r = .ok b

/-- The requests in `mine` take effect exactly once, if one of them has passed its checks and been
    answered; and each that has is answered as `answer` says.  The others keep `frame`. -/
structure TakesEffectOnce (mine : Request → Prop) (answer : Response → Prop)
    (effect frame : Db → Db → Prop) (s : Db) (es : List Happening) : Prop where
  /-- Every duplicate that passes its checks is answered without an error, as `answer` says. -/
  answered : ∀ i q r l, (Sys.after s es).slots i = .finished q r l → mine q → Passed l r →
    ∃ b, r = .ok b ∧ answer b
  /-- If there is one, one statement of the duplicates has changed the database, by `effect`. -/
  once : (∃ i q r l, (Sys.after s es).slots i = .finished q r l ∧ mine q ∧ Passed l r) →
    System.ExactlyOnce Request.program mine effect (System.start s) es
  /-- Every other event keeps to `frame`. -/
  others : ∀ pre e post, es = pre ++ e :: post → ¬ (Sys.after s pre).ActsFor mine e →
    frame (Sys.after s pre).db (Sys.after s (pre ++ [e])).db

/-- What a contract has to say for this. -/
theorem takesEffectOnce {C : Contract Request.program Request.Effect Request.Stops}
    {mine : Request → Prop} {answer : Response → Prop} {before after : Db → Prop}
    {effect frame : Db → Db → Prop} (hC : C.Once mine before after effect)
    (hpost : ∀ {q r l s}, C.post q r l s → mine q → Passed l r →
      (∃ b, r = .ok b ∧ answer b) ∧ after s)
    (hrefl : ∀ s, frame s s)
    (hframe : ∀ {q l s b}, C.arrivals q → C.inv s → q.Effect l s b → ¬ mine q → frame s (l.view s))
    {s : Db} (hinv : C.inv s) (hs : before s) {es : List Happening} (h : C.Within s es) :
    TakesEffectOnce mine answer effect frame s es := by
  have hsound := C.sound hinv h
  -- every answer, at most one effect, and a frame for the steps in between
  refine ⟨fun i q r l hslot hmine hpassed => ?_, ?_, ?_⟩
  · exact (hpost (hsound.finished i q r l hslot) hmine hpassed).1
  · rintro ⟨i, q, r, l, hslot, hmine, hpassed⟩
    exact hC.of_after hinv hs h (hpost (hsound.finished i q r l hslot) hmine hpassed).2
  · rintro pre e post rfl hothers
    -- a step publishes nothing, or the effect of one request
    rcases C.db_step hinv h with hsame | ⟨q, l, b, hcom⟩
    · rw [show (Sys.after s (pre ++ [e])).db = (Sys.after s pre).db from hsame]
      exact hrefl _
    · rw [show (Sys.after s (pre ++ [e])).db = l.view (Sys.after s pre).db from hcom.db]
      exact hframe hcom.arrivals hcom.inv hcom.effect fun hmine => hothers (hcom.actsFor_iff.mpr hmine)

/-- The audit rows about one entity. -/
def auditOf (entityType : String) (id : Uuid) (audit : List AuditLog) : List AuditLog :=
  audit.filter fun log => log.entityType = entityType ∧ log.entityId = some id

/-- A row about another entity does not count. -/
theorem auditOf_snoc {entityType : String} {id : Uuid} {log : AuditLog} (audit : List AuditLog)
    (h : ¬ (log.entityType = entityType ∧ log.entityId = some id)) :
    auditOf entityType id (audit ++ [log]) = auditOf entityType id audit := by
  simp [auditOf, List.filter_append, h]

/-- The ledger entries of one contribution. -/
def entriesOf (id : Uuid) (ledger : List VaultLedgerEntry) : List VaultLedgerEntry :=
  ledger.filter fun e => e.contributionId = some id

/-- Whatever commits, a vault stays. -/
theorem vault_row {q : Request} {l : Sess} {s : Db} (h : SavingsEffect q l s) {id : Uuid}
    {v : SavingsVault} (hv : s.vaults.find id = some v) :
    ∃ v', (l.view s).vaults.find id = some v' := by
  rcases h with ⟨-, hc⟩ | ⟨-, hc⟩ | ⟨-, hc⟩ | ⟨-, hc⟩ | hc
  · obtain ⟨log, -, -, hview⟩ := hc.view
    rw [hview]; exact ⟨v, hv⟩
  · rw [hc.view]; exact ⟨_, Table.find_replace_of_some hv _⟩
  · obtain ⟨log, -, -, hview⟩ := hc.view
    rw [hview]; exact ⟨v, hv⟩
  · rw [hc.view]; exact ⟨_, Table.find_replace_of_some hv _⟩
  · rw [hc.vaults]; exact ⟨v, hv⟩

/-! ## Contributions

  `SettlementOf` is the effect of the one settlement on everything that belongs to the
  contribution: its row, its vault, its ledger entries and its audit rows.  The requests of others
  may move the vault, and none of the rest. -/

section

variable {tr : ContributionTransition} {id : Uuid}

/-- One transition of one contribution, whoever asks for it. -/
def Settles (tr : ContributionTransition) (id : Uuid) : Request → Prop
  | .settle tr' _ input => tr' = tr ∧ input.contributionId = id
  | _ => False

/-- No other transition of the contribution. -/
def SettlesOnly (tr : ContributionTransition) (id : Uuid) : Request → Prop
  | .settle tr' _ input => input.contributionId = id → tr' = tr
  | _ => True

/-- The transition of a contribution is not refused for the total of its vault. -/
def ContributionTransition.Fits : ContributionTransition → Account → Int → Prop
  | confirm, x, amount => x.contributed + amount < 2 ^ 63
  | fail, _, _ => True
  | reverse, x, amount => amount ≤ x.contributed

/-- While a settlement of the contribution holds the lock of the vault, its sum fits, if it is still
    to be made. -/
def SettlementFits (id : Uuid) : Request → Sess → Db → Prop
  | .settle tr _ input, l, s => input.contributionId = id → ∀ c ∈ s.contributions.find id,
    c.status ≠ tr.targetStatus → .vault c.vaultId ∈ l.locks → ∀ v ∈ s.vaults.find c.vaultId,
      tr.Fits v.account c.amount.units
  | _, _, _ => True

/-- Whether a request asks for no other transition can be decided. -/
instance (tr : ContributionTransition) (id : Uuid) : DecidablePred (SettlesOnly tr id)
  | .settle .. => inferInstanceAs (Decidable (_ → _))
  | .record .. | .createPayout .. | .review .. | .verifySchool .. | .createPool ..
  | .fundPool .. | .createApplication .. | .approve .. | .reject .. | .disburse ..
  | .revoke .. => .isTrue trivial

/-- Whether a transition fits can be decided. -/
instance (tr : ContributionTransition) (x : Account) (amount : Int) : 
    Decidable (tr.Fits x amount) :=
  match tr with
  | .confirm => inferInstanceAs (Decidable (_ < _))
  | .fail => .isTrue trivial
  | .reverse => inferInstanceAs (Decidable (_ ≤ _))

/-- Whether a settlement meets the condition can be decided. -/
instance (id : Uuid) (q : Request) (l : Sess) (s : Db) : Decidable (SettlementFits id q l s) :=
  match q with
  | .settle .. => inferInstanceAs (Decidable (_ → _))
  | .record .. | .createPayout .. | .review .. | .verifySchool .. | .createPool ..
  | .fundPool .. | .createApplication .. | .approve .. | .reject .. | .disburse ..
  | .revoke .. => .isTrue trivial

/-- The settlement of contribution `id`: its row takes the target status, the account of its vault
    moves by its amount, and it gets the ledger entry of the transition and one audit row. -/
structure SettlementOf (tr : ContributionTransition) (id : Uuid) (s s' : Db) (c c' : Contribution)
    (v v' : SavingsVault) (entries : List VaultLedgerEntry) (log : AuditLog) : Prop where
  found : s.contributions.find id = some c
  vaultFound : s.vaults.find c.vaultId = some v
  /-- It was not in the target status before. -/
  changes : c.status ≠ tr.targetStatus
  key : c'.id = id
  /-- The row takes the status, and perhaps another reference. -/
  row : c' = { c with status := tr.targetStatus, externalReference := c'.externalReference }
  vaultKey : v'.id = v.id
  /-- The account of the vault is settled. -/
  account : v'.account = v.account.settle c.amount.units tr
  /-- The ledger gets the entry of the transition, if it has one. -/
  ledger : entries.map (fun e => (e.contributionId, e.entryType)) =
    tr.entryType.toList.map fun entryType => (some id, entryType)
  entityType : log.entityType = "contribution"
  entityId : log.entityId = some id
  action : log.action = tr.auditAction
  /-- Nothing else changes. -/
  state : s' = { s with
    contributions := s.contributions.replace c'
    vaults := s.vaults.replace v'
    ledger := s.ledger ++ entries
    audit := s.audit ++ [log] }

/-- What the requests of others leave of a contribution: its row, its entries, its audit rows. -/
structure ContributionKept (id : Uuid) (s s' : Db) : Prop where
  row : s'.contributions.find id = s.contributions.find id
  ledger : entriesOf id s'.ledger = entriesOf id s.ledger
  audit : auditOf "contribution" id s'.audit = auditOf "contribution" id s.audit

/-- The contribution has the status, and its vault exists. -/
def ContributionAt (id : Uuid) (status : ContributionStatus) (s : Db) : Prop :=
  ∃ c v, s.contributions.find id = some c ∧ c.status = status ∧ s.vaults.find c.vaultId = some v

/-- What a settlement makes of the database is the settlement of its contribution. -/
theorem SettledAs.settlementOf {actor : AuthenticatedUser} {input : SettlementInput} {l : Sess}
    {s t : Db} {current row : Contribution} {vault vault' : SavingsVault}
    {entries : List VaultLedgerEntry}
    (h : SettledAs tr actor input l s t current row vault vault' entries) :
    ∃ log, SettlementOf tr input.contributionId s (l.view s) row (settledRow tr input row) vault
      vault' entries log := by
  have hid : row.id = input.contributionId := (Table.find_some h.locked).2
  have hread : current.id = input.contributionId := (Table.find_some h.begun.found).2
  refine ⟨_, h.locked, h.vaultLocked, h.changes, hid, rfl, h.move.id, h.move.account, ?_, rfl,
    congrArg some hread, rfl, h.view⟩
  rcases h.move.entry with ⟨rfl, rfl, -⟩ | ⟨e, rfl, he⟩
  · rfl
  · have hentry : e.contributionId = some input.contributionId := he.contributionId.trans (congrArg some hid)
    rw [he.kind, List.map_singleton, hentry]; rfl

/-- A request that is admitted and is no duplicate leaves the contribution alone. -/
theorem contributionKept {q : Request} {l : Sess} {s : Db} {b : Response} {c : Contribution}
    (harrival : SettlesOnly tr id q) (hother : ¬ Settles tr id q) (h : q.Effect l s b)
    (hc : s.contributions.find id = some c) : ContributionKept id s (l.view s) := by
  have hid : c.id = id := (Table.find_some hc).2
  -- a settlement that is admitted is one of another contribution
  have hsettle : ∀ {tr' actor input}, q = .settle tr' actor input → input.contributionId ≠ id := by
    rintro tr' actor input rfl he
    exact hother ⟨harrival he, he⟩
  refine ⟨?_, ?_, ?_⟩
  · obtain ⟨c', hc', rfl | ⟨tr', actor, input, t, current, vault, vault', entries, hq, hx, -⟩⟩ :=
      contribution_row h hc
    · rw [hc, hc']
    · exact absurd ((Table.find_some hx.locked).2.symm.trans hid) (hsettle hq)
  · rcases h.savings with ⟨-, hx⟩ | ⟨hq, hx⟩ | ⟨-, hx⟩ | ⟨-, hx⟩ | hx
    · obtain ⟨log, -, -, hview⟩ := hx.view
      rw [hview]
    · rename_i tr' actor input t current row vault vault' entries
      have hne : row.id ≠ id := fun he => hsettle hq ((Table.find_some hx.locked).2.symm.trans he)
      rw [hx.view]
      rcases hx.move.entry with ⟨-, rfl, -⟩ | ⟨e, rfl, he⟩
      · rw [List.append_nil]
      · have hentry : e.contributionId ≠ some id := fun hsome =>
          hne (Option.some.inj (he.contributionId.symm.trans hsome))
        simp [entriesOf, hentry]
    · obtain ⟨log, -, -, hview⟩ := hx.view
      rw [hview]
    · rw [hx.view]
    · rw [hx.ledger]
  · obtain ⟨log, hlog, haudit⟩ := h.audit
    rw [haudit]
    refine auditOf_snoc _ fun ⟨htype, hentity⟩ => ?_
    rcases hlog.contribution htype hentity with ⟨actor, input, rfl⟩ | ⟨tr', actor, input, hq, he⟩
    · obtain ⟨a, -, hx⟩ := h
      rw [hx.fresh] at hc; cases hc
    · exact hsettle hq he

/-- The row of a contribution that has the status has it. -/
theorem ContributionAt.status_eq {status : ContributionStatus} {s : Db} {c : Contribution}
    (h : ContributionAt id status s) (hc : s.contributions.find id = some c) : c.status = status := by
  obtain ⟨c', v, hc', hstatus, -⟩ := h
  rw [Option.some.inj (hc.symm.trans hc')]
  exact hstatus

/-- Another request leaves the contribution in its status. -/
theorem ContributionAt.kept {status : ContributionStatus} {q : Request} {l : Sess} {s : Db}
    {b : Response} (hs : ContributionAt id status s) (harrival : SettlesOnly tr id q)
    (hother : ¬ Settles tr id q) (h : q.Effect l s b) : ContributionAt id status (l.view s) := by
  obtain ⟨c, v, hc, hstatus, hv⟩ := hs
  obtain ⟨v', hv'⟩ := vault_row h.savings hv
  exact ⟨c, v', (contributionKept harrival hother h hc).row.trans hc, hstatus, hv'⟩

/-- A settlement leaves its contribution in the target status. -/
theorem SettledAs.settled {actor : AuthenticatedUser} {input : SettlementInput} {l : Sess}
    {s t : Db} {current row : Contribution} {vault vault' : SavingsVault}
    {entries : List VaultLedgerEntry}
    (h : SettledAs tr actor input l s t current row vault vault' entries) :
    ContributionAt input.contributionId tr.targetStatus (l.view s) := by
  have hid : (settledRow tr input row).id = input.contributionId := (Table.find_some h.locked).2
  refine ⟨settledRow tr input row, vault', ?_, rfl, h.vaultAfter⟩
  rw [h.view]
  exact Table.find_replace_self h.locked hid

/-- What the duplicates of a settlement are answered with. -/
def SettledAnswer (tr : ContributionTransition) (id : Uuid) (b : Response) : Prop :=
  ∃ c, b = .contribution c ∧ c.id = id ∧ c.status = tr.targetStatus

/-- From where it may start, a settlement that is not refused finds or leaves the target status. -/
theorem settle_answer {start : ContributionStatus} (hedge : Contributions.Edge start tr.targetStatus)
    {actor : AuthenticatedUser} {input : SettlementInput} {l : Sess} {s : Db}
    {r : Except ServiceError Contribution}
    (hs : ContributionAt input.contributionId start s ∨
      ContributionAt input.contributionId tr.targetStatus s)
    (hseen : ∀ t ∈ l.seen, ContributionAt input.contributionId start t ∨
      ContributionAt input.contributionId tr.targetStatus t)
    (hrely : ∀ t ∈ l.seen, ContributionAt input.contributionId tr.targetStatus t →
      ContributionAt input.contributionId tr.targetStatus s)
    (hstop : SettleStopped tr actor input l s r)
    (hfits : SettlementFits input.contributionId (.settle tr actor input) l s)
    (hpassed : l.began = true ∨ ∃ c, r = .ok c) :
    (∃ c, r = .ok c ∧ c.id = input.contributionId ∧ c.status = tr.targetStatus) ∧
      ContributionAt input.contributionId tr.targetStatus s := by
  -- a call that has not begun and was refused is not among those that are passed on
  have hrefused : ∀ {e : ServiceError}, l.began = false → ¬ (l.began = true ∨
      ∃ c : Contribution, (Except.error e : Except ServiceError Contribution) = .ok c) := by
    rintro e hbegan (hpassed | ⟨c, hc⟩)
    · rw [hbegan] at hpassed; cases hpassed
    · cases hc
  cases hstop with
  | forbidden hbegan => exact absurd hpassed (hrefused hbegan)
  | missing hbegan => exact absurd hpassed (hrefused hbegan)
  | illegal hbegan => exact absurd hpassed (hrefused hbegan)
  -- the row that was read is in the target status already, and stays in it
  | unchanged hbegan ht hfound hstatus =>
    rename_i t current
    have hmem : t ∈ l.seen := by rw [ht]; exact List.mem_cons_self
    refine ⟨⟨current, rfl, (Table.find_some hfound).2, hstatus⟩, hrely t hmem ?_⟩
    rcases hseen t hmem with hstart | htarget
    · exact absurd (hstatus.symm.trans (hstart.status_eq hfound)).symm hedge.1
    · exact htarget
  -- the row that was locked is in the target status: another duplicate has been here
  | repeated hbegun hlocked hstatus =>
    rename_i t current row
    refine ⟨⟨row, rfl, (Table.find_some hlocked).2, hstatus⟩, ?_⟩
    rcases hs with hstart | htarget
    · exact absurd (hstatus.symm.trans (hstart.status_eq hlocked)).symm hedge.1
    · exact htarget
  | gone hbegun hnone =>
    -- the contribution and its vault are there in both of the states allowed
    rcases hs with ⟨c, v, hc, -⟩ | ⟨c, v, hc, -⟩ <;> rw [hc] at hnone <;> cases hnone
  | vaultGone hbegun hlocked hnone =>
    rcases hs with ⟨c, v, hc, -, hv⟩ | ⟨c, v, hc, -, hv⟩ <;>
      (rw [hc] at hlocked; cases hlocked; rw [hv] at hnone; cases hnone)
  -- the condition of the contract is about just these two ends
  | overflow hbegun htr hlocked hchanges hvault hheld hwraps =>
    subst htr
    have hlt := hfits rfl _ hlocked hchanges hheld _ hvault
    rename_i t current row vault
    exact absurd (nonneg_add_of_lt vault.contributed_nonneg row.amount.nonneg hlt) hwraps
  | negative hbegun htr hlocked hchanges hvault hheld hshort =>
    subst htr
    have hle := hfits rfl _ hlocked hchanges hheld _ hvault
    exact absurd (Int64.lt_iff_toInt_lt.mp hshort) (Int.not_lt.mpr hle)

/-- A duplicate that commits is the first: it finds the contribution where it started. -/
theorem settles_commit {start : ContributionStatus} {q : Request} {l : Sess} {s : Db} {b : Response}
    (hq : Settles tr id q)
    (hs : ContributionAt id start s ∨ ContributionAt id tr.targetStatus s) (h : q.Effect l s b) :
    ContributionAt id start s ∧
      (∃ c c' v v' entries log, SettlementOf tr id s (l.view s) c c' v v' entries log) ∧
      ContributionAt id tr.targetStatus (l.view s) ∧ SettledAnswer tr id b := by
  cases q with
  | settle tr' actor input =>
    obtain ⟨rfl, rfl⟩ := hq
    obtain ⟨a, rfl, t, current, row, vault, vault', entries, h, rfl⟩ := h
    obtain ⟨log, hlog⟩ := h.settlementOf
    refine ⟨?_, ⟨_, _, _, _, _, _, hlog⟩, h.settled, settledRow tr' input row, rfl, ?_, rfl⟩
    · rcases hs with hstart | htarget
      · exact hstart
      · exact absurd (htarget.status_eq h.locked) h.changes
    · exact (Table.find_some h.locked).2
  | _ => exact hq.elim

/-- Duplicates of one settlement, among requests that make no other transition of the contribution.
    -/
def duplicateSettlements (id : Uuid) {start : ContributionStatus}
    (hedge : Contributions.Edge start tr.targetStatus) :
    Contract Request.program Request.Effect Request.Stops where
  outcomes := Request.outcomes
  inv s := ContributionAt id start s ∨ ContributionAt id tr.targetStatus s
  rely s s' := ContributionAt id tr.targetStatus s → ContributionAt id tr.targetStatus s'
  arrivals := SettlesOnly tr id
  cond := SettlementFits id
  post q r l s := Settles tr id q → Passed l r →
    (∃ b, r = .ok b ∧ SettledAnswer tr id b) ∧ ContributionAt id tr.targetStatus s
  refl _ h := h
  trans hst htu h := htu (hst h)
  -- a duplicate takes the row to the target status, and nobody else touches it
  keep {q l s b} harrival hs _ h _ := by
    by_cases hmine : Settles tr id q
    · obtain ⟨-, -, htarget, -⟩ := settles_commit hmine hs h
      exact ⟨.inr htarget, fun _ => htarget⟩
    · exact ⟨hs.imp (·.kept harrival hmine h) (·.kept harrival hmine h), (·.kept harrival hmine h)⟩
  post_stable hrely hpost hmine hpassed := by
    obtain ⟨hanswer, htarget⟩ := hpost hmine hpassed
    exact ⟨hanswer, hrely htarget⟩
  post_ended hpost := hpost
  -- an end without a commit: it answers with the row as it is, or was not passed on
  postN {q l s r} _ hs hseen hstop hcond hmine hpassed := by
    cases q with
    | settle tr' actor input =>
      obtain ⟨rfl, rfl⟩ := hmine
      obtain ⟨r, rfl, hstop⟩ := hstop
      have hpassed' : l.began = true ∨ ∃ c, r = .ok c := by
        refine hpassed.imp_right ?_
        rintro ⟨b, hb⟩
        cases r with
        | error e => cases hb
        | ok c => exact ⟨c, rfl⟩
      obtain ⟨⟨c, rfl, hid, hstatus⟩, htarget⟩ := settle_answer hedge hs
        (fun t ht => (hseen t ht).1) (fun t ht => (hseen t ht).2) hstop hcond hpassed'
      exact ⟨⟨_, rfl, c, rfl, hid, hstatus⟩, htarget⟩
    | _ => exact hmine.elim
  -- an end with a commit
  postE {q l s b} _ hs _ h _ hmine _ := by
    obtain ⟨-, -, htarget, hanswer⟩ := settles_commit hmine hs h
    exact ⟨⟨b, rfl, hanswer⟩, htarget⟩

/-- Such a contract has its settlement made once. -/
theorem duplicateSettlements_once {start : ContributionStatus}
    (hedge : Contributions.Edge start tr.targetStatus) :
    (duplicateSettlements id hedge).Once (Settles tr id) (ContributionAt id start)
      (ContributionAt id tr.targetStatus)
      (fun s s' => ∃ c c' v v' entries log, SettlementOf tr id s s' c c' v v' entries log) where
  disjoint := by
    rintro s ⟨c, v, hc, hstatus, -⟩ htarget
    exact hedge.1 (hstatus.symm.trans (htarget.status_eq hc))
  mine_commit _ hs _ h _ hmine := by
    obtain ⟨hstart, heffect, htarget, -⟩ := settles_commit hmine hs h
    exact ⟨hstart, heffect, htarget⟩
  other_commit harrival _ _ h _ hmine :=
    ⟨(·.kept harrival hmine h), (·.kept harrival hmine h)⟩

end

/-! ## Payouts

  The argument for payouts is the same, with the review steps in the place of the settlements and
  no ledger. -/

section

variable {tr : PayoutTransition} {id : Uuid}

/-- One transition of one payout, whoever asks for it. -/
def Reviews (tr : PayoutTransition) (id : Uuid) : Request → Prop
  | .review tr' _ input => tr' = tr ∧ input.payoutId = id
  | _ => False

/-- No other transition of the payout. -/
def ReviewsOnly (tr : PayoutTransition) (id : Uuid) : Request → Prop
  | .review tr' _ input => input.payoutId = id → tr' = tr
  | _ => True

/-- The transition of a payout is not refused for the totals of its vault. -/
def PayoutTransition.Fits : PayoutTransition → Account → Int → Prop
  | approve, x, amount => x.locked + amount < 2 ^ 63
  | complete, x, amount => amount ≤ x.locked ∧ x.disbursed + amount < 2 ^ 63
  | _, _, _ => True

/-- While a review of the payout holds the lock of the vault, its sums fit, if they are still to be
    made. -/
def ReviewFits (id : Uuid) : Request → Sess → Db → Prop
  | .review tr _ input, l, s => input.payoutId = id → ∀ p ∈ s.payouts.find id,
    p.status ≠ tr.targetStatus → .vault p.vaultId ∈ l.locks → ∀ v ∈ s.vaults.find p.vaultId,
      tr.Fits v.account p.amount.units
  | _, _, _ => True

/-- Whether a request asks for no other step can be decided. -/
instance (tr : PayoutTransition) (id : Uuid) : DecidablePred (ReviewsOnly tr id)
  | .review .. => inferInstanceAs (Decidable (_ → _))
  | .record .. | .settle .. | .createPayout .. | .verifySchool .. | .createPool ..
  | .fundPool .. | .createApplication .. | .approve .. | .reject .. | .disburse ..
  | .revoke .. => .isTrue trivial

/-- Whether a step fits can be decided. -/
instance (tr : PayoutTransition) (x : Account) (amount : Int) : 
    Decidable (tr.Fits x amount) :=
  match tr with
  | .approve => inferInstanceAs (Decidable (_ < _))
  | .complete => inferInstanceAs (Decidable (_ ∧ _))
  | .moveToReview | .reject | .markProcessing | .fail => .isTrue trivial

/-- Whether a review meets the condition can be decided. -/
instance (id : Uuid) (q : Request) (l : Sess) (s : Db) : Decidable (ReviewFits id q l s) :=
  match q with
  | .review .. => inferInstanceAs (Decidable (_ → _))
  | .record .. | .settle .. | .createPayout .. | .verifySchool .. | .createPool ..
  | .fundPool .. | .createApplication .. | .approve .. | .reject .. | .disburse ..
  | .revoke .. => .isTrue trivial

/-- The review step of payout `id`: its row takes the target status, the account of its vault moves
    by its amount, and it gets one audit row. -/
structure ReviewOf (tr : PayoutTransition) (id : Uuid) (s s' : Db) (p p' : PayoutRequest)
    (v v' : SavingsVault) (log : AuditLog) : Prop where
  found : s.payouts.find id = some p
  vaultFound : s.vaults.find p.vaultId = some v
  /-- It was not in the target status before. -/
  changes : p.status ≠ tr.targetStatus
  key : p'.id = id
  /-- The row takes the status, and perhaps notes, a reference and a reviewer. -/
  row : p' = { p with
    status := tr.targetStatus
    reviewNotes := p'.reviewNotes
    externalPayoutReference := p'.externalPayoutReference
    reviewedBy := p'.reviewedBy }
  vaultKey : v'.id = v.id
  /-- The account of the vault takes the step. -/
  account : v'.account = v.account.review p.amount.units tr
  entityType : log.entityType = "payout_request"
  entityId : log.entityId = some id
  action : log.action = tr.auditAction
  /-- Nothing else changes. -/
  state : s' = { s with
    payouts := s.payouts.replace p'
    vaults := s.vaults.replace v'
    audit := s.audit ++ [log] }

/-- What the requests of others leave of a payout: its row, its audit rows. -/
structure PayoutKept (id : Uuid) (s s' : Db) : Prop where
  row : s'.payouts.find id = s.payouts.find id
  audit : auditOf "payout_request" id s'.audit = auditOf "payout_request" id s.audit

/-- The payout has the status, and its vault exists. -/
def PayoutAt (id : Uuid) (status : PayoutStatus) (s : Db) : Prop :=
  ∃ p v, s.payouts.find id = some p ∧ p.status = status ∧ s.vaults.find p.vaultId = some v

/-- What a review makes of the database is the review of its payout. -/
theorem ReviewedAs.reviewOf {actor : AuthenticatedUser} {input : ReviewPayoutInput} {l : Sess}
    {s : Db} {x : ReviewReads} {row : PayoutRequest} {vault vault' : SavingsVault}
    (h : ReviewedAs tr actor input l s x row vault vault') :
    ∃ log, ReviewOf tr input.payoutId s (l.view s) row (reviewedRow tr actor input row) vault vault'
      log := by
  have hid : row.id = input.payoutId := (Table.find_some h.locked).2
  have hread : x.payout.id = input.payoutId := (Table.find_some h.begun.found).2
  exact ⟨_, h.locked, h.vaultLocked, h.changes, hid, rfl, h.move.id,
    h.move.account row.amount.nonneg, rfl, congrArg some hread, rfl, h.view⟩

/-- A request that is admitted and is no duplicate leaves the payout alone. -/
theorem payoutKept {q : Request} {l : Sess} {s : Db} {b : Response} {p : PayoutRequest}
    (harrival : ReviewsOnly tr id q) (hother : ¬ Reviews tr id q) (h : q.Effect l s b)
    (hp : s.payouts.find id = some p) : PayoutKept id s (l.view s) := by
  have hid : p.id = id := (Table.find_some hp).2
  -- a review that is admitted is one of another payout
  have hreview : ∀ {tr' actor input}, q = .review tr' actor input → input.payoutId ≠ id := by
    rintro tr' actor input rfl he
    exact hother ⟨harrival he, he⟩
  refine ⟨?_, ?_⟩
  · obtain ⟨p', hp', rfl | ⟨tr', actor, input, x, vault, vault', hq, hx, -⟩⟩ := payout_row h hp
    · rw [hp, hp']
    · exact absurd ((Table.find_some hx.locked).2.symm.trans hid) (hreview hq)
  · obtain ⟨log, hlog, haudit⟩ := h.audit
    rw [haudit]
    refine auditOf_snoc _ fun ⟨htype, hentity⟩ => ?_
    rcases hlog.payout htype hentity with ⟨actor, input, rfl⟩ | ⟨tr', actor, input, hq, he⟩
    · obtain ⟨a, -, hx⟩ := h
      rw [hx.fresh] at hp; cases hp
    · exact hreview hq he

/-- The row of a payout that has the status has it. -/
theorem PayoutAt.status_eq {status : PayoutStatus} {s : Db} {p : PayoutRequest}
    (h : PayoutAt id status s) (hp : s.payouts.find id = some p) : p.status = status := by
  obtain ⟨p', v, hp', hstatus, -⟩ := h
  rw [Option.some.inj (hp.symm.trans hp')]
  exact hstatus

/-- Another request leaves the payout in its status. -/
theorem PayoutAt.kept {status : PayoutStatus} {q : Request} {l : Sess} {s : Db} {b : Response}
    (hs : PayoutAt id status s) (harrival : ReviewsOnly tr id q) (hother : ¬ Reviews tr id q)
    (h : q.Effect l s b) : PayoutAt id status (l.view s) := by
  obtain ⟨p, v, hp, hstatus, hv⟩ := hs
  obtain ⟨v', hv'⟩ := vault_row h.savings hv
  exact ⟨p, v', (payoutKept harrival hother h hp).row.trans hp, hstatus, hv'⟩

/-- A review leaves its payout in the target status. -/
theorem ReviewedAs.reviewed {actor : AuthenticatedUser} {input : ReviewPayoutInput} {l : Sess}
    {s : Db} {x : ReviewReads} {row : PayoutRequest} {vault vault' : SavingsVault}
    (h : ReviewedAs tr actor input l s x row vault vault') :
    PayoutAt input.payoutId tr.targetStatus (l.view s) := by
  have hid : (reviewedRow tr actor input row).id = input.payoutId := (Table.find_some h.locked).2
  refine ⟨reviewedRow tr actor input row, vault', ?_, rfl, h.vaultAfter⟩
  rw [h.view]
  exact Table.find_replace_self h.locked hid

/-- What the duplicates of a review are answered with. -/
def ReviewedAnswer (tr : PayoutTransition) (id : Uuid) (b : Response) : Prop :=
  ∃ p, b = .payout p ∧ p.id = id ∧ p.status = tr.targetStatus

/-- From where it may start, a review that is not refused finds or leaves the target status. -/
theorem review_answer {start : PayoutStatus} (hedge : Payouts.Edge start tr.targetStatus)
    {actor : AuthenticatedUser} {input : ReviewPayoutInput} {l : Sess} {s : Db}
    {r : Except ServiceError PayoutRequest}
    (hs : PayoutAt input.payoutId start s ∨ PayoutAt input.payoutId tr.targetStatus s)
    (hseen : ∀ t ∈ l.seen, PayoutAt input.payoutId start t ∨
      PayoutAt input.payoutId tr.targetStatus t)
    (hrely : ∀ t ∈ l.seen, PayoutAt input.payoutId tr.targetStatus t →
      PayoutAt input.payoutId tr.targetStatus s)
    (hstop : ReviewStopped tr actor input l s r)
    (hfits : ReviewFits input.payoutId (.review tr actor input) l s)
    (hpassed : l.began = true ∨ ∃ p, r = .ok p) :
    (∃ p, r = .ok p ∧ p.id = input.payoutId ∧ p.status = tr.targetStatus) ∧
      PayoutAt input.payoutId tr.targetStatus s := by
  cases hstop with
  | refused hbegan =>
    rcases hpassed with hpassed | ⟨p, hp⟩
    · rw [hbegan] at hpassed; cases hpassed
    · cases hp
  -- read before the lock: the snapshot shows the target, and so does the state by now
  | unchanged hbegan ht hfound hstatus =>
    rename_i t current
    have hmem : t ∈ l.seen := by rw [ht]; exact List.mem_cons_self
    refine ⟨⟨current, rfl, (Table.find_some hfound).2, hstatus⟩, hrely t hmem ?_⟩
    rcases hseen t hmem with hstart | htarget
    · exact absurd (hstatus.symm.trans (hstart.status_eq hfound)).symm hedge.1
    · exact htarget
  | repeated hbegun hlocked hstatus =>
    rename_i x row
    refine ⟨⟨row, rfl, (Table.find_some hlocked).2, hstatus⟩, ?_⟩
    rcases hs with hstart | htarget
    · exact absurd (hstatus.symm.trans (hstart.status_eq hlocked)).symm hedge.1
    · exact htarget
  | gone hbegun hnone =>
    rcases hs with ⟨p, v, hp, -⟩ | ⟨p, v, hp, -⟩ <;> rw [hp] at hnone <;> cases hnone
  | vaultGone hbegun hlocked hnone =>
    rcases hs with ⟨p, v, hp, -, hv⟩ | ⟨p, v, hp, -, hv⟩ <;>
      (rw [hp] at hlocked; cases hlocked; rw [hv] at hnone; cases hnone)
  -- the bounds on the vault exclude the three refusals by it
  | lockedOverflow hbegun htr hlocked hchanges hvault hheld hwraps =>
    subst htr
    have hlt := hfits rfl _ hlocked hchanges hheld _ hvault
    rename_i x row vault
    exact absurd (nonneg_add_of_lt vault.locked_nonneg row.amount.nonneg hlt) hwraps
  | underflow hbegun htr hlocked hchanges hvault hheld hshort =>
    subst htr
    have hle := (hfits rfl _ hlocked hchanges hheld _ hvault).1
    exact absurd (Int64.lt_iff_toInt_lt.mp hshort) (Int.not_lt.mpr hle)
  | disbursedOverflow hbegun htr hlocked hchanges hvault hheld hwraps =>
    subst htr
    have hlt := (hfits rfl _ hlocked hchanges hheld _ hvault).2
    rename_i x row vault
    exact absurd (nonneg_add_of_lt vault.disbursed_nonneg row.amount.nonneg hlt) hwraps

/-- A duplicate that commits is the first: it finds the payout where it started. -/
theorem reviews_commit {start : PayoutStatus} {q : Request} {l : Sess} {s : Db} {b : Response}
    (hq : Reviews tr id q) (hs : PayoutAt id start s ∨ PayoutAt id tr.targetStatus s)
    (h : q.Effect l s b) :
    PayoutAt id start s ∧ (∃ p p' v v' log, ReviewOf tr id s (l.view s) p p' v v' log) ∧
      PayoutAt id tr.targetStatus (l.view s) ∧ ReviewedAnswer tr id b := by
  cases q with
  | review tr' actor input =>
    obtain ⟨rfl, rfl⟩ := hq
    obtain ⟨a, rfl, x, row, vault, vault', h, rfl⟩ := h
    obtain ⟨log, hlog⟩ := h.reviewOf
    refine ⟨?_, ⟨_, _, _, _, _, hlog⟩, h.reviewed, reviewedRow tr' actor input row, rfl, ?_, rfl⟩
    · rcases hs with hstart | htarget
      · exact hstart
      · exact absurd (htarget.status_eq h.locked) h.changes
    · exact (Table.find_some h.locked).2
  | _ => exact hq.elim

/-- Duplicates of one review step, among requests that make no other step of the payout. -/
def duplicateReviews (id : Uuid) {start : PayoutStatus}
    (hedge : Payouts.Edge start tr.targetStatus) :
    Contract Request.program Request.Effect Request.Stops where
  outcomes := Request.outcomes
  inv s := PayoutAt id start s ∨ PayoutAt id tr.targetStatus s
  rely s s' := PayoutAt id tr.targetStatus s → PayoutAt id tr.targetStatus s'
  arrivals := ReviewsOnly tr id
  cond := ReviewFits id
  post q r l s := Reviews tr id q → Passed l r →
    (∃ b, r = .ok b ∧ ReviewedAnswer tr id b) ∧ PayoutAt id tr.targetStatus s
  refl _ h := h
  trans hst htu h := htu (hst h)
  -- as for settlements
  keep {q l s b} harrival hs _ h _ := by
    by_cases hmine : Reviews tr id q
    · obtain ⟨-, -, htarget, -⟩ := reviews_commit hmine hs h
      exact ⟨.inr htarget, fun _ => htarget⟩
    · exact ⟨hs.imp (·.kept harrival hmine h) (·.kept harrival hmine h), (·.kept harrival hmine h)⟩
  post_stable hrely hpost hmine hpassed := by
    obtain ⟨hanswer, htarget⟩ := hpost hmine hpassed
    exact ⟨hanswer, hrely htarget⟩
  post_ended hpost := hpost
  postN {q l s r} _ hs hseen hstop hcond hmine hpassed := by
    cases q with
    | review tr' actor input =>
      obtain ⟨rfl, rfl⟩ := hmine
      obtain ⟨r, rfl, hstop⟩ := hstop
      have hpassed' : l.began = true ∨ ∃ p, r = .ok p := by
        refine hpassed.imp_right ?_
        rintro ⟨b, hb⟩
        cases r with
        | error e => cases hb
        | ok p => exact ⟨p, rfl⟩
      obtain ⟨⟨p, rfl, hid, hstatus⟩, htarget⟩ := review_answer hedge hs
        (fun t ht => (hseen t ht).1) (fun t ht => (hseen t ht).2) hstop hcond hpassed'
      exact ⟨⟨_, rfl, p, rfl, hid, hstatus⟩, htarget⟩
    | _ => exact hmine.elim
  postE {q l s b} _ hs _ h _ hmine _ := by
    obtain ⟨-, -, htarget, hanswer⟩ := reviews_commit hmine hs h
    exact ⟨⟨b, rfl, hanswer⟩, htarget⟩

/-- Such a contract has its step made once. -/
theorem duplicateReviews_once {start : PayoutStatus}
    (hedge : Payouts.Edge start tr.targetStatus) :
    (duplicateReviews id hedge).Once (Reviews tr id) (PayoutAt id start)
      (PayoutAt id tr.targetStatus)
      (fun s s' => ∃ p p' v v' log, ReviewOf tr id s s' p p' v v' log) where
  disjoint := by
    rintro s ⟨p, v, hp, hstatus, -⟩ htarget
    exact hedge.1 (hstatus.symm.trans (htarget.status_eq hp))
  mine_commit _ hs _ h _ hmine := by
    obtain ⟨hstart, heffect, htarget, -⟩ := reviews_commit hmine hs h
    exact ⟨hstart, heffect, htarget⟩
  other_commit harrival _ _ h _ hmine :=
    ⟨(·.kept harrival hmine h), (·.kept harrival hmine h)⟩

end

/-! ## Every run

  Both in one statement, with the two calls that overlap as the test. -/

/-- **Duplicates take effect once**: any number of requests for one transition of one contribution,
    or of one payout, in every run without another transition of it.

    Both parts have the same shape.  The row is in a status from which the transition is legal, its
    vault is stored, and of the requests of the run those about this row ask for this transition.
    Then exactly one statement of the run changes the row, and every duplicate that has passed its
    checks is answered with the row in its new status.  `SettlementFits` and `ReviewFits` leave out
    the runs in which the change itself is refused by a CHECK or a guard. -/
theorem duplicates_take_effect_once {s : Db} {id : Uuid} {es : List Happening} :
    (∀ (tr : ContributionTransition) c v, s.contributions.find id = some c →
      Contributions.Edge c.status tr.targetStatus → s.vaults.find c.vaultId = some v →
      System.Meets Request.program (System.allows (SettlesOnly tr id) (SettlementFits id))
        (System.start s) es →
      TakesEffectOnce (Settles tr id) (SettledAnswer tr id)
        (fun s s' => ∃ c c' v v' entries log, SettlementOf tr id s s' c c' v v' entries log)
        (ContributionKept id) s es) ∧
    (∀ (tr : PayoutTransition) p v, s.payouts.find id = some p →
      Payouts.Edge p.status tr.targetStatus → s.vaults.find p.vaultId = some v →
      System.Meets Request.program (System.allows (ReviewsOnly tr id) (ReviewFits id))
        (System.start s) es →
      TakesEffectOnce (Reviews tr id) (ReviewedAnswer tr id)
        (fun s s' => ∃ p p' v v' log, ReviewOf tr id s s' p p' v v' log)
        (PayoutKept id) s es) := by
  -- the two families are instances of one argument, with their own contracts
  constructor
  · intro tr c v hc hedge hv h
    have hstart : ContributionAt id c.status s := ⟨c, v, hc, rfl, hv⟩
    refine takesEffectOnce (duplicateSettlements_once hedge) (fun hpost => hpost)
      (fun s => ⟨rfl, rfl, rfl⟩) (fun harrival hs heffect hother => ?_) (.inl hstart) hstart h
    rcases hs with ⟨c, v, hc, -⟩ | ⟨c, v, hc, -⟩ <;> exact contributionKept harrival hother heffect hc
  · intro tr p v hp hedge hv h
    have hstart : PayoutAt id p.status s := ⟨p, v, hp, rfl, hv⟩
    refine takesEffectOnce (duplicateReviews_once hedge) (fun hpost => hpost)
      (fun s => ⟨rfl, rfl⟩) (fun harrival hs heffect hother => ?_) (.inl hstart) hstart h
    rcases hs with ⟨p, v, hp, -⟩ | ⟨p, v, hp, -⟩ <;> exact payoutKept harrival hother heffect hp

section

open Scenario

/-- Calls `0` and `1` of `q` both read, then each runs its transaction; call `2` comes later. -/
def Scenario.threeTimes (q : Request) (reads : Nat) : List Happening :=
  [.call 0 q, .call 1 q] ++ List.replicate reads (.step 0) ++ List.replicate reads (.step 1) ++
  List.replicate 10 (.step 1) ++ List.replicate 10 (.step 0) ++ alone 2 q 3

/-- A contribution of 100. -/
def Scenario.recorded : Db := serveAll family [record 1 100]

/-- A payout of 60 from it. -/
def Scenario.requested : Db :=
  serveAll recorded [settle .confirm 1, payout 2 60, review .moveToReview 2]

/-- The contribution is confirmed three times, the payout is approved three times. -/
theorem duplicates_take_effect_once_family :
    (Sys.after recorded (threeTimes (settle .confirm 1) 1)).db.ledger.length = 1 ∧
    (Sys.after requested (threeTimes (review .approve 2) 4)).db.audit.length =
      requested.audit.length + 1 ∧
    TakesEffectOnce (Settles .confirm 1) (SettledAnswer .confirm 1)
      (fun s s' => ∃ c c' v v' entries log, SettlementOf .confirm 1 s s' c c' v v' entries log)
      (ContributionKept 1) recorded (threeTimes (settle .confirm 1) 1) ∧
    TakesEffectOnce (Reviews .approve 2) (ReviewedAnswer .approve 2)
      (fun s s' => ∃ p p' v v' log, ReviewOf .approve 2 s s' p p' v v' log) (PayoutKept 2) requested
      (threeTimes (review .approve 2) 4) := by
  obtain ⟨c, v, hc, hedge, hv⟩ : ∃ c v, recorded.contributions.find 1 = some c ∧
      Contributions.Edge c.status ContributionTransition.confirm.targetStatus ∧
      recorded.vaults.find c.vaultId = some v := ⟨_, _, rfl, by decide, rfl⟩
  obtain ⟨p, w, hp, hedge', hw⟩ : ∃ p w, requested.payouts.find 2 = some p ∧
      Payouts.Edge p.status PayoutTransition.approve.targetStatus ∧
      requested.vaults.find p.vaultId = some w := ⟨_, _, rfl, by decide, rfl⟩
  exact ⟨by decide, by decide, duplicates_take_effect_once.1 .confirm c v hc hedge hv (by decide),
    duplicates_take_effect_once.2 .approve p w hp hedge' hw (by decide)⟩

end

end EduStell
