/-
  Which status changes are committed.

  A settlement and a review decide on the status they have READ, and rewrite the row they have
  LOCKED.  In between another request may have moved the row; the transaction notices only if the
  row has reached its own target.  So a run takes edges of the status machines only as long as no
  request finds its row moved elsewhere: that is the condition of the two results below, and the two
  races show that it can fail.

  For contributions and for payouts alike:

  1. the condition, as a decidable property of a step (`SettlesWhatItRead`, `ReviewsWhatItRead`);
  2. a commit that meets it takes its row along an edge (`SettledAs.edge`, `ReviewedAs.edge`);
  3. the contract for all requests: the ledger of a contribution agrees with its status
     (`LedgerAgrees`), and a payout with a terminal status stays as it is (`PayoutsFollow`);
  4. the theorem about runs, and a run that does not meet the condition.
-/
import EduStell.Scenario
import EduStell.Spec.Account
import EduStell.Spec.Effects

namespace EduStell

open Txn

/-! ## Contributions and their ledger entries

  The number of entries that a status calls for is a function of the status, so that no
  contribution is confirmed or reversed twice is a statement about the ledger. -/

/-- How many ledger entries of a kind a contribution has. -/
def entryCount (id : Uuid) (entryType : VaultLedgerEntryType) (ledger : List VaultLedgerEntry) :
    Nat :=
  ledger.countP fun e => e.contributionId = some id ∧ e.entryType = entryType

/-- How many it should have. -/
def ContributionStatus.entries : ContributionStatus → VaultLedgerEntryType → Nat
  | confirmed, .contributionConfirmed => 1
  | reversed, _ => 1
  | _, _ => 0

/-- No status has an entry twice. -/
theorem entries_le_one (status : ContributionStatus) (entryType : VaultLedgerEntryType) :
    status.entries entryType ≤ 1 := by
  cases status <;> cases entryType <;> decide

/-- Along an edge the number grows by the entry that the settlement adds. -/
theorem entries_edge {a : ContributionStatus} {tr : ContributionTransition}
    (h : Contributions.Edge a tr.targetStatus) (entryType : VaultLedgerEntryType) :
    tr.targetStatus.entries entryType =
      a.entries entryType + if tr.entryType = some entryType then 1 else 0 := by
  revert h
  cases a <;> cases tr <;> cases entryType <;> decide

/-- The ledger of every contribution agrees with its status, exactly or as a bound. -/
structure LedgerAgrees (R : Nat → Nat → Prop) (s : Db) : Prop where
  /-- A contribution has the entries that its status calls for, exactly or at most, as `R` says. -/
  count : ∀ c ∈ s.contributions.rows, ∀ entryType,
    R (entryCount c.id entryType s.ledger) (c.status.entries entryType)
  /-- An entry names a contribution that is there. -/
  known : ∀ e ∈ s.ledger, ∀ id, e.contributionId = some id →
    ∃ c, s.contributions.find id = some c

/-- An empty ledger agrees with every status, as a bound. -/
theorem LedgerAgrees.start {s : Db} (h : s.ledger = []) : LedgerAgrees (· ≤ ·) s := by
  constructor
  · intro c _ entryType
    rw [h]; exact Nat.zero_le _
  · intro e he
    rw [h] at he; cases he

section

variable {tr : ContributionTransition} {actor : AuthenticatedUser} {input : SettlementInput}
  {l : Sess} {s t : Db} {current row : Contribution} {vault vault' : SavingsVault}
  {entries : List VaultLedgerEntry}

/-- A settlement adds the entry of its kind to its contribution, and none to any other. -/
theorem SettledAs.entryCount (h : SettledAs tr actor input l s t current row vault vault' entries)
    (id : Uuid) (entryType : VaultLedgerEntryType) :
    EduStell.entryCount id entryType (l.view s).ledger = EduStell.entryCount id entryType s.ledger +
      if row.id = id ∧ tr.entryType = some entryType then 1 else 0 := by
  rw [h.view]
  rcases h.move.entry with ⟨rfl, rfl, -⟩ | ⟨e, rfl, he⟩
  · simp [ContributionTransition.entryType]
  · have hid : e.contributionId = some row.id := he.contributionId
    rw [he.kind]
    simp [EduStell.entryCount, List.countP_append, hid]

/-- A settlement along an edge keeps the ledger in agreement. -/
theorem LedgerAgrees.settled {R : Nat → Nat → Prop} (hR : ∀ m n k, R m n → R (m + k) (n + k))
    (hs : LedgerAgrees R s) (h : SettledAs tr actor input l s t current row vault vault' entries)
    (hedge : Contributions.Edge row.status tr.targetStatus) : LedgerAgrees R (l.view s) := by
  obtain ⟨hmem, hid⟩ := Table.find_some h.locked
  have hcontributions : (l.view s).contributions =
      s.contributions.replace (settledRow tr input row) := by rw [h.view]
  constructor
  · intro c hc entryType
    rw [h.entryCount]
    rw [hcontributions] at hc
    rcases Table.mem_replace hc with rfl | ⟨hc, hne⟩
    · have hcount := hs.count row hmem entryType
      rw [show (settledRow tr input row).status = tr.targetStatus from rfl, entries_edge hedge,
        show (settledRow tr input row).id = row.id from rfl]
      simp only [true_and]
      exact hR _ _ _ hcount
    · have hother : ¬ (row.id = c.id ∧ tr.entryType = some entryType) := fun hand => hne hand.1.symm
      rw [if_neg hother, Nat.add_zero]
      exact hs.count c hc entryType
  · intro e he id hcid
    have hknown : ∃ c, s.contributions.find id = some c := by
      rw [h.view] at he
      rcases List.mem_append.mp he with he | he
      · exact hs.known e he id hcid
      · rcases h.move.entry with ⟨-, rfl, -⟩ | ⟨e', rfl, he'⟩
        · cases he
        · obtain rfl := List.mem_singleton.mp he
          obtain rfl : row.id = id := Option.some.inj (he'.contributionId.symm.trans hcid)
          exact ⟨row, Table.find_key hmem⟩
    obtain ⟨c, hc⟩ := hknown
    rw [hcontributions, Table.find_replace]
    split
    · rw [hc]; exact ⟨_, rfl⟩
    · exact ⟨c, hc⟩

/-- A new contribution has no entries yet. -/
theorem LedgerAgrees.recorded {R : Nat → Nat → Prop} (hR : R 0 0) (hs : LedgerAgrees R s)
    {newId : Uuid} {input : RecordContributionIntentInput} {a : Contribution}
    (h : Recorded newId actor input l s a) : LedgerAgrees R (l.view s) := by
  obtain ⟨log, -, -, hview⟩ := h.view
  have hfresh : s.contributions.find (Keyed.key a) = none := by
    rw [show Keyed.key a = newId from h.id]; exact h.fresh
  rw [hview]
  constructor
  · intro c hc entryType
    rcases (Table.mem_insert hfresh).mp hc with hc | rfl
    · exact hs.count c hc entryType
    · have hnone : entryCount c.id entryType s.ledger = 0 := by
        rw [entryCount, List.countP_eq_zero]
        intro e he hcount
        obtain ⟨hcid, -⟩ := of_decide_eq_true hcount
        obtain ⟨c', hc'⟩ := hs.known e he c.id hcid
        rw [h.id, h.fresh] at hc'
        cases hc'
      show R (entryCount c.id entryType s.ledger) (c.status.entries entryType)
      rw [hnone, h.status]
      exact hR
  · intro e he id hcid
    obtain ⟨c, hc⟩ := hs.known e he id hcid
    show ∃ c, (s.contributions.insert a).find id = some c
    rw [Table.find_insert]
    split
    · exact ⟨_, rfl⟩
    · exact ⟨c, hc⟩

end

/-- A row stays what it is, or is settled. -/
theorem contribution_row {q : Request} {l : Sess} {s : Db} {b : Response} (h : q.Effect l s b)
    {id : Uuid} {c : Contribution} (hc : s.contributions.find id = some c) :
    ∃ c', (l.view s).contributions.find id = some c' ∧ (c' = c ∨
      ∃ tr actor input t current vault vault' entries, q = .settle tr actor input ∧
        SettledAs tr actor input l s t current c vault vault' entries ∧
        c' = settledRow tr input c) := by
  rcases h.savings with ⟨rfl, hx⟩ | ⟨rfl, hx⟩ | ⟨rfl, hx⟩ | ⟨rfl, hx⟩ | hx
  · obtain ⟨log, -, -, hview⟩ := hx.view
    exact ⟨c, by rw [hview]; exact Table.find_insert_of_some hc _, .inl rfl⟩
  · rename_i tr actor input t current row vault vault' entries
    have hid : (settledRow tr input row).id = input.contributionId := (Table.find_some hx.locked).2
    obtain ⟨c', hc', hcases⟩ := Table.find_replace_row hx.locked hid hc
    refine ⟨c', by rw [hx.view]; exact hc', hcases.imp_right ?_⟩
    rintro ⟨-, rfl, rfl⟩
    exact ⟨tr, actor, input, t, current, vault, vault', entries, rfl, hx, rfl⟩
  · obtain ⟨log, -, -, hview⟩ := hx.view
    exact ⟨c, by rw [hview]; exact hc, .inl rfl⟩
  · exact ⟨c, by rw [hx.view]; exact hc, .inl rfl⟩
  · exact ⟨c, by rw [hx.contributions]; exact hc, .inl rfl⟩

/-! ### Interleaved settlements

  The condition compares two statuses of one row, at the moment the lock is held; the race below
  is a run in which they differ. -/

/-- While a settlement holds the lock of its contribution, the row has the status that its service
    has read, or already the one it is meant to get. -/
def SettlesWhatItRead : Request → Sess → Db → Prop
  | .settle tr _ input, l, s => .contribution input.contributionId ∈ l.locks →
    ∀ t ∈ l.seen, ∀ read ∈ t.contributions.find input.contributionId,
      ∀ row ∈ s.contributions.find input.contributionId,
        row.status = read.status ∨ row.status = tr.targetStatus
  | _, _, _ => True

/-- Whether a settlement meets the condition can be decided. -/
instance (q : Request) (l : Sess) (s : Db) : Decidable (SettlesWhatItRead q l s) :=
  match q with
  | .settle .. => inferInstanceAs (Decidable (_ → _))
  | .record .. | .createPayout .. | .review .. | .verifySchool .. | .createPool ..
  | .fundPool .. | .createApplication .. | .approve .. | .reject .. | .disburse ..
  | .revoke .. => .isTrue trivial

/-- A settlement that meets the condition takes its row along an edge: the row has the status that
    was validated. -/
theorem SettledAs.edge {tr : ContributionTransition} {actor : AuthenticatedUser}
    {input : SettlementInput} {l : Sess} {s t : Db} {current row : Contribution}
    {vault vault' : SavingsVault} {entries : List VaultLedgerEntry}
    (h : SettledAs tr actor input l s t current row vault vault' entries)
    (hcond : SettlesWhatItRead (.settle tr actor input) l s) :
    Contributions.Edge row.status tr.targetStatus := by
  have hlocked : Resource.contribution input.contributionId ∈ l.locks := by rw [h.locks]; simp
  have hseen : t ∈ l.seen := by rw [h.begun.seen]; exact List.mem_cons_self
  rcases hcond hlocked t hseen current h.begun.found row h.locked with hread | htarget
  · rw [hread]; exact h.begun.edge
  · exact absurd htarget h.changes

/-- Along the run, every committed change of a contribution's status is one that the rules accept. -/
def ContributionEdges (s : Db) (es : List Happening) : Prop :=
  ∀ pre e post, es = pre ++ e :: post → ∀ id c c',
    (Sys.after s pre).db.contributions.find id = some c →
    (Sys.after s (pre ++ [e])).db.contributions.find id = some c' →
    c'.status ≠ c.status → Contributions.Edge c.status c'.status

/-- After the run, no contribution has been confirmed twice or reversed twice. -/
def SettledOnce (s : Db) (es : List Happening) : Prop :=
  ∀ c ∈ (Sys.after s es).db.contributions.rows, ∀ entryType,
    entryCount c.id entryType (Sys.after s es).db.ledger ≤ 1

/-- Settlements that write over the status that they have read. -/
def settlementContract : Contract Request.program Request.Effect Request.Stops where
  outcomes := Request.outcomes
  inv := LedgerAgrees (· ≤ ·)
  rely _ _ := True
  arrivals _ := True
  cond := SettlesWhatItRead
  refl _ := trivial
  trans _ _ := trivial
  keep {q l s b} _ hs _ h hcond := by
    refine ⟨?_, trivial⟩
    rcases h.savings with ⟨rfl, hx⟩ | ⟨rfl, hx⟩ | ⟨rfl, hx⟩ | ⟨rfl, hx⟩ | hx
    · exact hs.recorded (Nat.le_refl 0) hx
    · exact hs.settled (fun _ _ k hle => Nat.add_le_add_right hle k) hx (hx.edge hcond)
    · obtain ⟨log, -, -, hview⟩ := hx.view
      rw [hview]; exact ⟨hs.count, hs.known⟩
    · rw [hx.view]; exact ⟨hs.count, hs.known⟩
    · constructor
      · rw [hx.contributions, hx.ledger]; exact hs.count
      · rw [hx.contributions, hx.ledger]; exact hs.known

/-- **Settlements take edges, and settle once**, in every run in which each settles what it read.

    The condition is about what a settlement finds when it holds the lock: the status that it has
    read, or the one that it is going to.  Where it finds a third one, another settlement has come
    in between, and the code writes its own status over it without asking the rules. -/
theorem settlements_take_edges {s : Db} (hs : LedgerAgrees (· ≤ ·) s) {es : List Happening}
    (h : System.Meets Request.program (System.allows (fun _ => True) SettlesWhatItRead)
      (System.start s) es) : ContributionEdges s es ∧ SettledOnce s es := by
  constructor
  · rintro pre e post rfl id c c' hc hc' hne
    rcases settlementContract.db_step hs h with hsame | ⟨q, l, b, hcom⟩
    · have hsame' : (Sys.after s (pre ++ [e])).db = (Sys.after s pre).db := hsame
      rw [hsame', hc] at hc'
      exact absurd (congrArg _ (Option.some.inj hc').symm) hne
    · have hdb : (Sys.after s (pre ++ [e])).db = l.view (Sys.after s pre).db := hcom.db
      rw [hdb] at hc'
      obtain ⟨c'', hc'', hcases⟩ := contribution_row hcom.effect hc
      obtain rfl : c'' = c' := Option.some.inj (hc''.symm.trans hc')
      rcases hcases with rfl | ⟨tr, actor, input, t, current, vault, vault', entries, rfl, hx, rfl⟩
      · exact absurd rfl hne
      · exact hx.edge hcom.cond
  · intro c hc entryType
    exact ((settlementContract.sound hs h).inv.count c hc entryType).trans
      (entries_le_one c.status entryType)

section

open Scenario

/-- Two confirmations and a failure of one contribution: all three read it pending, then each runs its
    transaction. -/
def Scenario.settlementRace : List Happening :=
  [.call 0 (settle .confirm 1), .step 0, .call 1 (settle .fail 1), .step 1,
    .call 2 (settle .confirm 1), .step 2] ++
  List.replicate 9 (.step 0) ++ List.replicate 8 (.step 1) ++ List.replicate 9 (.step 2)

/-- The failure overwrites the confirmed row, and the second confirmation the failed one: neither is
    an edge, and the vault is credited twice.

    Three calls read the pending contribution: two confirmations and a failure.  One confirmation
    commits, the failure writes over it, and the other confirmation finds a status that is not its
    target. -/
theorem settlements_race :
    ¬ ContributionEdges (serveAll family [record 1 100]) settlementRace ∧
    ¬ SettledOnce (serveAll family [record 1 100]) settlementRace := by
  constructor
  · intro h
    obtain ⟨c, c', hc, hc', hstatus, hstatus'⟩ : ∃ c c',
        (Sys.after (serveAll family [record 1 100])
          (settlementRace.take 20)).db.contributions.find 1 = some c ∧
        (Sys.after (serveAll family [record 1 100])
          (settlementRace.take 20 ++ [.step 1])).db.contributions.find 1 = some c' ∧
        c.status = .confirmed ∧ c'.status = .failed := ⟨_, _, rfl, rfl, rfl, rfl⟩
    have hedge := h (settlementRace.take 20) (.step 1) (settlementRace.drop 21) rfl 1 c c' hc hc'
      (by rw [hstatus, hstatus']; decide)
    rw [hstatus, hstatus'] at hedge
    exact absurd hedge (by decide)
  · intro h
    obtain ⟨c, hc, hid⟩ : ∃ c ∈ (Sys.after (serveAll family [record 1 100])
        settlementRace).db.contributions.rows, c.id = 1 := ⟨_, List.mem_cons_self, rfl⟩
    have hcount := h c hc .contributionConfirmed
    rw [hid] at hcount
    exact absurd hcount (by decide)

/-- One after the other they take edges. -/
theorem settlements_take_edges_in_turn :
    let s := serveAll family [record 1 100]
    let es := alone 0 (settle .confirm 1) 10 ++ alone 1 (settle .reverse 1) 10
    (Sys.after s es).db.ledger.length = 2 ∧ ContributionEdges s es ∧ SettledOnce s es :=
  ⟨by decide, settlements_take_edges (.start rfl) (by decide)⟩

end

/-! ## Payouts

  Three statuses are terminal.  No edge leaves them, so what is kept in every qualifying run is
  the row as a whole. -/

/-- The statuses from which no edge leads on. -/
def PayoutStatus.Terminal (status : PayoutStatus) : Prop :=
  status = .rejected ∨ status = .completed ∨ status = .failed

/-- Whether a status is terminal can be decided. -/
instance (status : PayoutStatus) : Decidable status.Terminal :=
  inferInstanceAs (Decidable (_ ∨ _ ∨ _))

/-- No edge leaves a terminal status. -/
theorem not_terminal_of_edge {a b : PayoutStatus} (h : Payouts.Edge a b) : ¬ a.Terminal := by
  revert h
  cases a <;> cases b <;> decide

/-- A row stays what it is, or is reviewed. -/
theorem payout_row {q : Request} {l : Sess} {s : Db} {b : Response} (h : q.Effect l s b)
    {id : Uuid} {p : PayoutRequest} (hp : s.payouts.find id = some p) :
    ∃ p', (l.view s).payouts.find id = some p' ∧ (p' = p ∨
      ∃ tr actor input x vault vault', q = .review tr actor input ∧
        ReviewedAs tr actor input l s x p vault vault' ∧ p' = reviewedRow tr actor input p) := by
  rcases h.savings with ⟨rfl, hx⟩ | ⟨rfl, hx⟩ | ⟨rfl, hx⟩ | ⟨rfl, hx⟩ | hx
  · obtain ⟨log, -, -, hview⟩ := hx.view
    exact ⟨p, by rw [hview]; exact hp, .inl rfl⟩
  · exact ⟨p, by rw [hx.view]; exact hp, .inl rfl⟩
  · obtain ⟨log, -, -, hview⟩ := hx.view
    exact ⟨p, by rw [hview]; exact Table.find_insert_of_some hp _, .inl rfl⟩
  · rename_i tr actor input x row vault vault'
    have hid : (reviewedRow tr actor input row).id = input.payoutId := (Table.find_some hx.locked).2
    obtain ⟨p', hp', hcases⟩ := Table.find_replace_row hx.locked hid hp
    refine ⟨p', by rw [hx.view]; exact hp', hcases.imp_right ?_⟩
    rintro ⟨-, rfl, rfl⟩
    exact ⟨tr, actor, input, x, vault, vault', rfl, hx, rfl⟩
  · exact ⟨p, by rw [hx.payouts]; exact hp, .inl rfl⟩

/-! ### Interleaved reviews

  As for settlements, with the row of the payout in the place of the contribution. -/

/-- While a review holds the lock of its payout, the row has the status that its service has read,
    or already the one it is meant to get; a rejection may also find the review started. -/
def ReviewsWhatItRead : Request → Sess → Db → Prop
  | .review tr _ input, l, s => .payout input.payoutId ∈ l.locks →
    -- the first of the service's reads is the payout
    ∀ t ∈ l.seen.getLast?, ∀ read ∈ t.payouts.find input.payoutId,
      ∀ row ∈ s.payouts.find input.payoutId,
        row.status = read.status ∨ row.status = tr.targetStatus ∨
        (tr = .reject ∧ read.status = .pending ∧ row.status = .underReview)
  | _, _, _ => True

/-- Whether a review meets the condition can be decided. -/
instance (q : Request) (l : Sess) (s : Db) : Decidable (ReviewsWhatItRead q l s) :=
  match q with
  | .review .. => inferInstanceAs (Decidable (_ → _))
  | .record .. | .settle .. | .createPayout .. | .verifySchool .. | .createPool ..
  | .fundPool .. | .createApplication .. | .approve .. | .reject .. | .disburse ..
  | .revoke .. => .isTrue trivial

/-- A review that meets the condition takes its row along an edge: the row has the status that was
    validated. -/
theorem ReviewedAs.edge {tr : PayoutTransition} {actor : AuthenticatedUser}
    {input : ReviewPayoutInput} {l : Sess} {s : Db} {x : ReviewReads} {row : PayoutRequest}
    {vault vault' : SavingsVault} (h : ReviewedAs tr actor input l s x row vault vault')
    (hcond : ReviewsWhatItRead (.review tr actor input) l s) :
    Payouts.Edge row.status tr.targetStatus := by
  have hlocked : Resource.payout input.payoutId ∈ l.locks := by rw [h.locks]; simp
  have hseen : x.t₁ ∈ l.seen.getLast? := by rw [h.begun.seen]; rfl
  rcases hcond hlocked x.t₁ hseen x.payout h.begun.found row h.locked with
    hread | htarget | ⟨rfl, -, hreview⟩
  · rw [hread]; exact h.begun.edge
  · exact absurd htarget h.changes
  · rw [hreview]; decide

/-- Along the run, every committed change of a payout's status is one that the rules accept. -/
def PayoutEdges (s : Db) (es : List Happening) : Prop :=
  ∀ pre e post, es = pre ++ e :: post → ∀ id p p',
    (Sys.after s pre).db.payouts.find id = some p →
    (Sys.after s (pre ++ [e])).db.payouts.find id = some p' →
    p'.status ≠ p.status → Payouts.Edge p.status p'.status

/-- Along the run, a payout that is rejected, completed or failed stays so. -/
def PayoutsEnd (s : Db) (es : List Happening) : Prop :=
  ∀ pre post, es = pre ++ post → ∀ id p, (Sys.after s pre).db.payouts.find id = some p →
    p.status.Terminal →
    ∃ p', (Sys.after s es).db.payouts.find id = some p' ∧ p'.status = p.status

/-- A later state still has every payout, and the terminal ones unchanged. -/
def PayoutsFollow (s s' : Db) : Prop :=
  ∀ id p, s.payouts.find id = some p → ∃ p', s'.payouts.find id = some p' ∧
    (p.status.Terminal → p'.status = p.status)

/-- Reviews that write over the status that they have read. -/
def reviewContract : Contract Request.program Request.Effect Request.Stops where
  outcomes := Request.outcomes
  inv _ := True
  rely := PayoutsFollow
  arrivals _ := True
  cond := ReviewsWhatItRead
  refl s := fun id p hp => ⟨p, hp, fun _ => rfl⟩
  trans {s t u} hst htu := fun id p hp => by
    obtain ⟨p', hp', hsame⟩ := hst id p hp
    obtain ⟨p'', hp'', hsame'⟩ := htu id p' hp'
    refine ⟨p'', hp'', ?_⟩
    intro hend
    have hend' : p'.status.Terminal := by rw [hsame hend]; exact hend
    exact (hsame' hend').trans (hsame hend)
  keep {q l s b} _ _ _ h hcond := by
    refine ⟨trivial, ?_⟩
    intro id p hp
    obtain ⟨p', hp', hcases⟩ := payout_row h hp
    refine ⟨p', hp', ?_⟩
    intro hend
    rcases hcases with rfl | ⟨tr, actor, input, x, vault, vault', rfl, hx, rfl⟩
    · rfl
    · exact absurd hend (not_terminal_of_edge (hx.edge hcond))

/-- **Reviews take edges, and terminal payouts stay**, in every run in which each reviews what it
    read.

    The condition is that of settlements, with one case more: a rejection is legal from both open
    statuses, so one that has read a pending payout may find its review started. -/
theorem reviews_take_edges {s : Db} {es : List Happening}
    (h : System.Meets Request.program (System.allows (fun _ => True) ReviewsWhatItRead)
      (System.start s) es) : PayoutEdges s es ∧ PayoutsEnd s es := by
  constructor
  · rintro pre e post rfl id p p' hp hp' hne
    rcases reviewContract.db_step trivial h with hsame | ⟨q, l, b, hcom⟩
    · have hsame' : (Sys.after s (pre ++ [e])).db = (Sys.after s pre).db := hsame
      rw [hsame', hp] at hp'
      exact absurd (congrArg _ (Option.some.inj hp').symm) hne
    · have hdb : (Sys.after s (pre ++ [e])).db = l.view (Sys.after s pre).db := hcom.db
      rw [hdb] at hp'
      obtain ⟨p'', hp'', hcases⟩ := payout_row hcom.effect hp
      obtain rfl : p'' = p' := Option.some.inj (hp''.symm.trans hp')
      rcases hcases with rfl | ⟨tr, actor, input, x, vault, vault', rfl, hx, rfl⟩
      · exact absurd rfl hne
      · exact hx.edge hcom.cond
  · rintro pre post rfl id p hp hend
    obtain ⟨p', hp', hsame⟩ := reviewContract.rely_run trivial pre h id p hp
    exact ⟨p', hp', hsame hend⟩

section

open Scenario

/-- A funded vault and a payout under review. -/
def Scenario.underReview : Db :=
  serveAll family [record 1 100, settle .confirm 1, payout 2 60, review .moveToReview 2]

/-- An approval and a rejection of one payout: both read it under review, then each runs its
    transaction. -/
def Scenario.reviewRace : List Happening :=
  [.call 0 (review .approve 2)] ++ List.replicate 4 (.step 0) ++ [.call 1 (review .reject 2)] ++
  List.replicate 13 (.step 1) ++ List.replicate 9 (.step 0)

/-- The approval overwrites the rejected row: not an edge, and the rejection was not the end.

    Both calls read the payout under review.  The rejection commits first; the approval finds a row
    that is not approved, and so it goes on. -/
theorem reviews_race :
    ¬ PayoutEdges underReview reviewRace ∧ ¬ PayoutsEnd underReview reviewRace := by
  constructor
  · intro h
    obtain ⟨p, p', hp, hp', hstatus, hstatus'⟩ : ∃ p p',
        (Sys.after underReview (reviewRace.take 25)).db.payouts.find 2 = some p ∧
        (Sys.after underReview (reviewRace.take 25 ++ [.step 0])).db.payouts.find 2 = some p' ∧
        p.status = .rejected ∧ p'.status = .approved := ⟨_, _, rfl, rfl, rfl, rfl⟩
    have hedge := h (reviewRace.take 25) (.step 0) (reviewRace.drop 26) rfl 2 p p' hp hp'
      (by rw [hstatus, hstatus']; decide)
    rw [hstatus, hstatus'] at hedge
    exact absurd hedge (by decide)
  · intro h
    obtain ⟨p, hp, hstatus⟩ : ∃ p,
        (Sys.after underReview (reviewRace.take 25)).db.payouts.find 2 = some p ∧
        p.status = .rejected := ⟨_, rfl, rfl⟩
    obtain ⟨p', hp', hsame⟩ := h (reviewRace.take 25) (reviewRace.drop 25) rfl 2 p hp
      (by rw [hstatus]; decide)
    obtain ⟨q, hq, hstatus'⟩ : ∃ q,
        (Sys.after underReview reviewRace).db.payouts.find 2 = some q ∧ q.status = .approved :=
      ⟨_, rfl, rfl⟩
    obtain rfl : p' = q := Option.some.inj (hp'.symm.trans hq)
    rw [hstatus, hstatus'] at hsame
    cases hsame

/-- One after the other they take edges. -/
theorem reviews_take_edges_in_turn :
    let es := alone 0 (review .approve 2) 13 ++ alone 1 (review .markProcessing 2) 13 ++
      alone 2 (review .complete 2) 13
    PayoutEdges underReview es ∧ PayoutsEnd underReview es :=
  reviews_take_edges (by decide)

end

end EduStell
