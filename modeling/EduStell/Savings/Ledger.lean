/-
  The ledger law: a vault's contributed total is the running total of its ledger.

  The total and the balance of the new entry are computed from the vault row AFTER it is locked, and
  the lock is held to the commit; so the law needs nothing of what the service has read before, and
  holds for every interleaving of every request.  At the limit of `i64` the CHECK of the vaults
  table takes over: a confirmation that would overflow computes a negative total and is rolled back.

  `LedgerLaw` has two parts, the total of a vault and the balance that each entry carries; both
  are `Running` of `EduStell.Txn.Journal`, so an entry is judged once, when it is appended.
-/
import EduStell.Scenario
import EduStell.Spec.Account
import EduStell.Spec.Effects
import EduStell.Txn.Journal

namespace EduStell

open Txn Persistence Contributions

/-! ## The law

  Confirmations count up and reversals count down, in the order of the commits; every entry
  carries the total just after it. -/

/-- The sum of a vault's ledger amounts of one kind. -/
def entrySum (vaultId : Uuid) (entryType : VaultLedgerEntryType) (ledger : List VaultLedgerEntry) :
    Int :=
  Journal.sumOf (fun e => e.vaultId = vaultId ∧ e.entryType = entryType) (fun e => e.amount.units)
    ledger

/-- What was confirmed less what was reversed. -/
def runningTotal (vaultId : Uuid) (ledger : List VaultLedgerEntry) : Int :=
  entrySum vaultId .contributionConfirmed ledger - entrySum vaultId .contributionReversed ledger

/-- The law: every total is the running total of the ledger, and every entry carries it. -/
structure LedgerLaw (s : Db) : Prop where
  /-- The total of a vault is what the ledger adds up to. -/
  total : ∀ v ∈ s.vaults.rows, v.totalContributedMinor.toInt = runningTotal v.id s.ledger
  /-- And so is the balance of each entry, up to that entry. -/
  running : Journal.Running (fun e => e.balanceAfterMinor.toInt)
    (fun e ledger => runningTotal e.vaultId ledger) s.ledger

namespace LedgerLaw

variable {s : Db}

/-- An empty ledger for vaults without money. -/
theorem start (htotal : ∀ v ∈ s.vaults.rows, v.totalContributedMinor = 0) (hledger : s.ledger = []) :
    LedgerLaw s := by
  constructor
  · intro v hv
    rw [htotal v hv, hledger]; rfl
  · rw [hledger]; exact .nil

/-- One entry more moves the running total of its own vault. -/
theorem runningTotal_snoc (vaultId : Uuid) (ledger : List VaultLedgerEntry) (e : VaultLedgerEntry) :
    runningTotal vaultId (ledger ++ [e]) =
      runningTotal vaultId ledger + if e.vaultId = vaultId then e.signed else 0 := by
  simp only [runningTotal, entrySum, Journal.sumOf_append, Journal.sumOf_singleton]
  by_cases hv : e.vaultId = vaultId
  · cases ht : e.entryType <;> simp [hv, VaultLedgerEntry.signed, ht] <;> omega
  · simp [hv]

/-- A settlement keeps the law. -/
theorem settled {tr : ContributionTransition} {actor : AuthenticatedUser} {input : SettlementInput}
    {l : Sess} {t : Db} {current row : Contribution} {vault vault' : SavingsVault}
    {entries : List VaultLedgerEntry} (hs : LedgerLaw s)
    (h : SettledAs tr actor input l s t current row vault vault' entries) :
    LedgerLaw (l.view s) := by
  obtain ⟨hmem, hid⟩ := Table.find_some h.vaultLocked
  have hid : vault.id = row.vaultId := hid
  rw [h.view]
  rcases h.move.entry with ⟨-, rfl, rfl⟩ | ⟨e, rfl, he⟩
  · -- a failed contribution moves nothing
    rw [Table.replace_self (Table.find_key hmem), List.append_nil]
    exact ⟨hs.total, hs.running⟩
  · -- the new entry carries the new total, which is the running total with it
    have hnew : vault'.totalContributedMinor.toInt = runningTotal vault.id (s.ledger ++ [e]) := by
      rw [runningTotal_snoc, if_pos he.vaultId, ← hs.total vault hmem]
      exact he.moved
    have hsum : ∀ vaultId, runningTotal vaultId (s.ledger ++ [e]) =
        runningTotal vaultId s.ledger + if row.vaultId = vaultId then e.signed else 0 := by
      intro vaultId
      rw [runningTotal_snoc, he.vaultId, hid]
    constructor
    · exact Table.column_replace (S := fun id => runningTotal id s.ledger) h.vaultLocked h.vaultKey
        hs.total hsum he.moved
    · refine hs.running.snoc ?_
      show e.balanceAfterMinor.toInt = runningTotal e.vaultId (s.ledger ++ [e])
      rw [he.balance, he.vaultId]; exact hnew

/-- A review does not touch the contributed total. -/
theorem reviewed {tr : PayoutTransition} {actor : AuthenticatedUser} {input : ReviewPayoutInput}
    {l : Sess} {x : ReviewReads} {row : PayoutRequest} {vault vault' : SavingsVault}
    (hs : LedgerLaw s) (h : ReviewedAs tr actor input l s x row vault vault') :
    LedgerLaw (l.view s) := by
  have hsame := congrArg Int64.toInt h.move.contributed
  rw [h.view]
  constructor
  · exact Table.column_keep (S := fun id => runningTotal id s.ledger) h.vaultLocked h.vaultKey
      hs.total hsame
  · exact hs.running

/-- **Every commit keeps the law.** -/
theorem commit {q : Request} {l : Sess} {b : Response} (hs : LedgerLaw s) (h : q.Effect l s b) :
    LedgerLaw (l.view s) := by
  rcases h.savings with ⟨-, h⟩ | ⟨-, h⟩ | ⟨-, h⟩ | ⟨-, h⟩ | h
  · obtain ⟨log, -, -, hview⟩ := h.view
    rw [hview]; exact ⟨hs.total, hs.running⟩
  · exact hs.settled h
  · obtain ⟨log, -, -, hview⟩ := h.view
    rw [hview]; exact ⟨hs.total, hs.running⟩
  · exact hs.reviewed h
  · constructor
    · rw [h.vaults, h.ledger]; exact hs.total
    · rw [h.ledger]; exact hs.running

end LedgerLaw

/-! ## Over every run

  The contract asks nothing of arrivals, of schedules or of reads: each commit is judged by the
  row that it has locked. -/

/-- The law needs nothing of the environment. -/
def ledgerContract : Contract Request.program Request.Effect Request.Stops where
  outcomes := Request.outcomes
  inv := LedgerLaw
  rely _ _ := True
  arrivals _ := True
  cond _ _ _ := True
  refl _ := trivial
  trans _ _ := trivial
  keep _ hs _ h _ := ⟨hs.commit h, trivial⟩

/-- Every run meets the contract, which asks nothing. -/
theorem ledgerContract_within (s : Db) (es : List Happening) : ledgerContract.Within s es :=
  System.meets_allows (fun _ => trivial) (fun _ _ _ => trivial) _ _

/-- A confirmation whose sum does not fit commits nothing: whatever statement it executes next. -/
theorem confirm_overflow_keeps {s : Db} (hs : LedgerLaw s) (es : List Happening) {i : Nat}
    {actor : AuthenticatedUser} {input : SettlementInput} {c : Contribution} {v : SavingsVault}
    {p : Tx ServiceError Response} {l : Sess}
    (hslot : (Sys.after s es).slots i = .running (.settle .confirm actor input) p l)
    (hc : (Sys.after s es).db.contributions.find input.contributionId = some c)
    (hv : (Sys.after s es).db.vaults.find c.vaultId = some v)
    (hlimit : 2 ^ 63 ≤ v.totalContributedMinor.toInt + c.amount.units) :
    (Sys.after s (es ++ [.step i])).db = (Sys.after s es).db := by
  rcases ledgerContract.db_step hs (ledgerContract_within s (es ++ [.step i])) with
    hsame | ⟨q, l', b, hcom⟩
  · exact hsame
  -- a commit of slot `i` would be one of this very request, and it has not overflowed
  obtain ⟨j, k, hj, hrun⟩ := hcom.event
  cases hj
  obtain ⟨rfl, -, rfl⟩ : q = .settle .confirm actor input ∧ _ ∧ l' = l := by
    have := hrun.symm.trans hslot
    cases this
    exact ⟨rfl, trivial, rfl⟩
  obtain ⟨a, -, t, current, row, vault, vault', entries, h, -⟩ := hcom.effect
  obtain rfl : c = row := Option.some.inj (hc.symm.trans h.locked)
  obtain rfl : v = vault := Option.some.inj (hv.symm.trans h.vaultLocked)
  exact absurd h.move.no_overflow (Int.not_lt.mpr hlimit)

/-- Served alone, such a confirmation is refused by the CHECK of the vaults table. -/
theorem confirm_overflow_refused {s : Db} {actor : AuthenticatedUser} {input : SettlementInput}
    {c : Contribution} {v : SavingsVault} (hadmin : actor.role = .platformAdmin)
    (hc : s.contributions.find input.contributionId = some c) (hpending : c.status = .pending)
    (hv : s.vaults.find c.vaultId = some v)
    (hlimit : 2 ^ 63 ≤ v.totalContributedMinor.toInt + c.amount.units) :
    (Request.settle .confirm actor input).serve s = (.error (.ofPersistence
      (.checkViolation "savings_vaults" "savings_vaults_total_contributed_minor_check")), s) := by
  have hedge : Edge c.status ContributionTransition.confirm.targetStatus := by
    rw [hpending]; decide
  rcases Request.serve_settle hadmin hc hedge hv with
    ⟨l, t, current, vault', entries, h, -⟩ | ⟨-, -, hserve⟩ | ⟨htr, -, -⟩
  · exact absurd h.move.no_overflow (Int.not_lt.mpr hlimit)
  · exact hserve
  · cases htr

/-- **Every run keeps the ledger law, at the limit of `i64` too.**  From vaults with a zero total and
    an empty ledger, whatever requests interleave:

    1. each vault's total is what its ledger confirms less what it reverses;
    2. in commit order, each entry carries the running total just after it, never negative;
    3. a confirmation whose sum does not fit changes nothing with any of its statements; its sum
       wraps to a negative number, and served alone it is refused by the CHECK and leaves the
       database as it was. -/
theorem ledger_law_run {s : Db} (htotal : ∀ v ∈ s.vaults.rows, v.totalContributedMinor = 0)
    (hledger : s.ledger = []) (es : List Happening) :
    (∀ v ∈ (Sys.after s es).db.vaults.rows, v.totalContributedMinor.toInt =
      entrySum v.id .contributionConfirmed (Sys.after s es).db.ledger
        - entrySum v.id .contributionReversed (Sys.after s es).db.ledger) ∧
    (∀ pre e post, (Sys.after s es).db.ledger = pre ++ e :: post →
      e.balanceAfterMinor.toInt = runningTotal e.vaultId (pre ++ [e]) ∧ 0 ≤ e.balanceAfterMinor) ∧
    (∀ actor input c v, (Sys.after s es).db.contributions.find input.contributionId = some c →
      (Sys.after s es).db.vaults.find c.vaultId = some v →
      2 ^ 63 ≤ v.totalContributedMinor.toInt + c.amount.units →
      v.totalContributedMinor + c.amount.amountMinor < 0 ∧
      (∀ i p l, (Sys.after s es).slots i = .running (.settle .confirm actor input) p l →
        (Sys.after s (es ++ [.step i])).db = (Sys.after s es).db) ∧
      (actor.role = .platformAdmin → c.status = .pending →
        (Request.settle .confirm actor input).serve (Sys.after s es).db = (.error (.ofPersistence
          (.checkViolation "savings_vaults" "savings_vaults_total_contributed_minor_check")),
          (Sys.after s es).db))) := by
  have hs := LedgerLaw.start htotal hledger
  have hlaw : LedgerLaw (Sys.after s es).db :=
    (ledgerContract.sound hs (ledgerContract_within s es)).inv
  refine ⟨hlaw.total, fun pre e post he => ⟨hlaw.running pre e post he, e.balance_nonneg⟩, ?_⟩
  intro actor input c v hc hv hlimit
  refine ⟨?_, fun i p l hslot => confirm_overflow_keeps hs es hslot hc hv hlimit,
    fun hadmin hpending => confirm_overflow_refused hadmin hc hpending hv hlimit⟩
  exact neg_add_of_le v.contributed_nonneg c.amount.nonneg hlimit

section

open Scenario

/-- Two contributions of 2^62, recorded. -/
def Scenario.atLimit : Db :=
  serveAll family [record 1 4611686018427387904, record 2 4611686018427387904]

/-- The first is confirmed; the second no longer fits. -/
theorem ledger_law_run_at_limit :
    let es := alone 0 (settle .confirm 1) 12
    (Sys.after atLimit es).db.ledger.length = 1 ∧
    (∀ v ∈ (Sys.after atLimit es).db.vaults.rows, v.totalContributedMinor.toInt =
      entrySum v.id .contributionConfirmed (Sys.after atLimit es).db.ledger
        - entrySum v.id .contributionReversed (Sys.after atLimit es).db.ledger) ∧
    ((settle .confirm 2).serve (Sys.after atLimit es).db).1 = .error (.ofPersistence
      (.checkViolation "savings_vaults" "savings_vaults_total_contributed_minor_check")) := by
  intro es
  obtain ⟨hlaw, -, hlimit⟩ := ledger_law_run (s := atLimit) (by decide) (by rfl) es
  refine ⟨by decide, hlaw, ?_⟩
  obtain ⟨c, v, hc, hpending, hv, hsum⟩ : ∃ c v,
      (Sys.after atLimit es).db.contributions.find 2 = some c ∧ c.status = .pending ∧
      (Sys.after atLimit es).db.vaults.find c.vaultId = some v ∧
      9223372036854775808 ≤ v.totalContributedMinor.toInt + c.amount.units :=
    ⟨_, _, rfl, rfl, rfl, by decide⟩
  obtain ⟨-, -, hserve⟩ := hlimit admin ⟨2, none⟩ c v hc hv hsum
  exact congrArg Prod.fst (hserve rfl hpending)

end

end EduStell
