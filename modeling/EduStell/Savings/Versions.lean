/-
  The version of a vault, under settlements, reviews and optimistic updates at once.

  Every statement that sets totals of a vault adds one to its version, and a transaction has at most
  one such statement for each vault; so the version counts the commits that have written totals.  An
  optimistic update names the version that its caller has read.  It takes effect only where the row
  still has that version: then no commit in between has written a total.

  The plan: a statement adds one to the version of a vault exactly if it sets its totals
  (`Write.bumps`); a session has at most one such statement for each vault; so one event raises
  the version by one or leaves it (`bumps_next`), and the version of a run counts the commits that
  set totals.
-/
import EduStell.Scenario
import EduStell.Spec.Account
import EduStell.Spec.Effects
import EduStell.Txn.History

namespace EduStell

open Txn Txn.Program Persistence

/-! ## Statements

  Every statement that writes a total of a vault writes its version too.  Counting is therefore
  done on the statements that are pending in a session. -/

/-- Does the statement set totals of the vault? -/
def Write.setsTotals (id : Uuid) : Write → Bool
  | .setVaultTotals id' _ _ => id' = id
  | .setVaultLocked id' _ _ _ _ => id' = id
  | .setVaultBalances id' _ _ _ _ => id' = id
  | _ => false

/-- How often a session has set totals of the vault. -/
def totalWrites (id : Uuid) (l : Sess) : Nat := l.writes.countP (Write.setsTotals id)

/-- What statements make of a vault row: `n` of them have set totals. -/
structure Bumped (n : Nat) (v v' : SavingsVault) : Prop where
  version : v'.version = v.version + n
  same : n = 0 → v' = v

/-- Without a statement nothing changes. -/
theorem Bumped.refl (v : SavingsVault) : Bumped 0 v v := ⟨rfl, fun _ => rfl⟩

/-- Statements one after another. -/
theorem Bumped.trans {m n : Nat} {v v' v'' : SavingsVault} (h : Bumped m v v') (h' : Bumped n v' v'') :
    Bumped (m + n) v v'' := by
  constructor
  · rw [h'.version, h.version, Nat.add_assoc]
  · intro hzero
    rw [h'.same (Nat.eq_zero_of_add_eq_zero hzero).2, h.same (Nat.eq_zero_of_add_eq_zero hzero).1]

/-- One statement sets totals of a vault and adds one to its version, or leaves the row alone. -/
theorem Write.bumps (w : Write) {s : Db} {id : Uuid} {v : SavingsVault}
    (hv : s.vaults.find id = some v) : ∃ v', (Store.apply w s).vaults.find id = some v' ∧
      Bumped (if w.setsTotals id then 1 else 0) v v' := by
  have hmodify : ∀ (k : Uuid) (f : SavingsVault → SavingsVault) (hf : ∀ x, x.id = k → (f x).id = k),
      (∀ v, (f v).version = v.version + 1) → ∃ v', (s.vaults.modify k f hf).find id = some v' ∧
        Bumped (if decide (k = id) then 1 else 0) v v' := by
    intro k f hf hversion
    rw [Table.find_modify, hv]
    -- the vault that is updated, or another one
    by_cases hk : k = id
    · rw [if_pos hk.symm, if_pos (decide_eq_true hk)]
      exact ⟨f v, rfl, hversion v, fun hzero => by cases hzero⟩
    · rw [if_neg (Ne.symm hk), if_neg (by simpa using hk)]
      exact ⟨v, rfl, .refl v⟩
  cases w with
  | setVaultTotals k total h =>
    exact hmodify k (fun v => v.setTotals total h) (fun _ hk => hk) fun _ => rfl
  | setVaultLocked k locked disbursed hl hd =>
    exact hmodify k (fun v => v.setLockedAndDisbursed locked disbursed hl hd) (fun _ hk => hk)
      fun _ => rfl
  | setVaultBalances k contributed locked hc hl =>
    exact hmodify k (fun v => v.setBalances contributed locked hc hl) (fun _ hk => hk) fun _ => rfl
  | _ => exact ⟨v, hv, .refl v⟩

/-- A commit adds to the version the number of its statements that set totals. -/
theorem view_bumps (l : Sess) {s : Db} {id : Uuid} {v : SavingsVault}
    (hv : s.vaults.find id = some v) : ∃ v', (l.view s).vaults.find id = some v' ∧
      Bumped (totalWrites id l) v v' := by
  rw [Session.view, totalWrites]
  induction l.writes generalizing s v with
  | nil => exact ⟨v, hv, .refl v⟩
  | cons w ws ih =>
    obtain ⟨v', hv', hfirst⟩ := w.bumps hv
    obtain ⟨v'', hv'', hrest⟩ := ih hv'
    refine ⟨v'', hv'', ?_⟩
    rw [List.countP_cons, Nat.add_comm]
    exact hfirst.trans hrest

/-! ## Requests

  The optimistic caller is a request of its own, beside the modelled services; it may come with
  any version and any balances. -/

/-- The requests of the services, and callers that update balances with a version of their own. -/
inductive VaultRequest
  | service (q : Request)
  | updateBalances (id : Uuid) (totalContributedMinor totalLockedMinor expectedVersion : Int64)

/-- A request; an update of balances is answered with nothing. -/
def VaultRequest.program : VaultRequest → Tx ServiceError (Option Response)
  | service q => some <$> q.program
  | updateBalances id contributed locked expected =>
    (fun _ => none) <$> workflow (Persistence.updateBalances id contributed locked expected)

/-- An update of balances that takes effect. -/
structure BalancesUpdated (id : Uuid) (contributed locked expected : Int64) (l : Sess) (s : Db)
    (vault : SavingsVault) : Prop where
  found : s.vaults.find id = some vault
  version : vault.version = expected.toInt
  view : ∃ hc hl, l.view s =
    { s with vaults := s.vaults.replace (vault.setBalances contributed locked hc hl) }

/-- What a request commits; an update of balances has a statement of its own. -/
def VaultRequest.Effect : VaultRequest → Sess → Db → Option Response → Prop
  | service q, l, s, b => ∃ a, b = some a ∧ q.Effect l s a
  | updateBalances id contributed locked expected, l, s, _ =>
    ∃ vault, BalancesUpdated id contributed locked expected l s vault

/-- An update of balances finds the vault in the version that it expects, or is refused. -/
theorem updateBalances_outcomes {id : Uuid} {contributed locked expected : Int64} :
    Outcomes (workflow (Persistence.updateBalances id contributed locked expected))
      (fun l s _ => ∃ vault, BalancesUpdated id contributed locked expected l s vault) Refused := by
  intro s
  refine Ends.mapError_tail (Ends.beginTx (Ends.select fun t => ?_))
  refine Ends.okOr (fun _ => ⟨_, rfl⟩) fun snapshot _ => Ends.failIf (fun _ => ⟨_, rfl⟩) fun _ => ?_
  refine Ends.forUpdate (Ends.okOr (fun _ => ⟨_, rfl⟩) fun vault hvault => ?_)
  refine Ends.failIf (fun _ => ⟨_, rfl⟩) fun hversion => ?_
  have hvault' : s.vaults.find id = some vault := hvault
  have hid : vault.id = id := (Table.find_some hvault').2
  split
  · split
    · refine Ends.execute (fun r hr => by rw [show r = _ from hr, hid]; exact List.mem_cons_self) ?_
      refine Ends.commit ⟨vault, hvault', Decidable.not_not.mp hversion, ‹_›, ‹_›, ?_⟩
      simp only [Session.view_write, Session.view_lock, Session.view_saw, Session.view_begun,
        Session.view_init]
      rw [hid, apply_setVaultBalances vault hvault']
    · exact Ends.fail ⟨_, rfl⟩
  · exact Ends.fail ⟨_, rfl⟩

/-- Every request ends in one of these ways. -/
theorem VaultRequest.outcomes (q : VaultRequest) :
    Outcomes q.program q.Effect fun _ _ _ => True := by
  cases q with
  | service q => exact ((Request.outcomes q).map _).weaken fun _ _ _ _ => trivial
  | updateBalances id contributed locked expected =>
    exact (updateBalances_outcomes.map _).mono (fun _ _ _ ⟨_, _, h⟩ => h) fun _ _ _ _ => trivial

section

variable {l : Sess} {s : Db} {id : Uuid} {v v' : SavingsVault}

/-- A vault row that is replaced by one of the next version at most. -/
theorem version_replace {k : Uuid} {vault vault' : SavingsVault}
    (hlocked : s.vaults.find k = some vault) (hid : vault'.id = k)
    (hversion : vault'.version ≤ vault.version + 1) (hv : s.vaults.find id = some v)
    (hv' : (s.vaults.replace vault').find id = some v') : v'.version ≤ v.version + 1 := by
  obtain ⟨v'', hv'', hcases⟩ := Table.find_replace_row hlocked hid hv
  obtain rfl := Option.some.inj (hv''.symm.trans hv')
  rcases hcases with rfl | ⟨-, rfl, rfl⟩
  · exact Nat.le_succ _
  · exact hversion

/-- A settlement raises the version at most by one. -/
theorem VaultMove.version_le {actorUserId : Uuid} {vault vault' : SavingsVault} {row : Contribution}
    {tr : ContributionTransition} {entries : List VaultLedgerEntry}
    (h : VaultMove actorUserId vault row tr vault' entries) : vault'.version ≤ vault.version + 1 := by
  cases h with
  | confirm => exact Nat.le_refl _
  | fail => exact Nat.le_succ _
  | reverse => exact Nat.le_refl _

/-- A review raises the version at most by one. -/
theorem FundsMove.version_le {vault vault' : SavingsVault} {amount : Int64} {tr : PayoutTransition}
    (h : FundsMove vault amount tr vault') : vault'.version ≤ vault.version + 1 := by
  cases h with
  | approve | complete | fail => exact Nat.le_refl _
  | moveToReview | reject | markProcessing | failShort => exact Nat.le_succ _

/-- No commit adds more than one to a version. -/
theorem VaultRequest.Effect.version_le {q : VaultRequest} {b : Option Response}
    (h : q.Effect l s b) (hv : s.vaults.find id = some v)
    (hv' : (l.view s).vaults.find id = some v') : v'.version ≤ v.version + 1 := by
  -- an operation that writes no vault
  have hsame : (l.view s).vaults = s.vaults → v'.version ≤ v.version + 1 := by
    intro hvaults
    rw [hvaults] at hv'
    rw [Option.some.inj (hv.symm.trans hv')]
    exact Nat.le_succ _
  cases q with
  | service q =>
    obtain ⟨a, -, h⟩ := h
    rcases h.savings with ⟨-, hx⟩ | ⟨-, hx⟩ | ⟨-, hx⟩ | ⟨-, hx⟩ | hx
    · obtain ⟨log, -, -, hview⟩ := hx.view
      exact hsame (by rw [hview])
    · rw [hx.view] at hv'
      exact version_replace hx.vaultLocked hx.vaultKey hx.move.version_le hv hv'
    · obtain ⟨log, -, -, hview⟩ := hx.view
      exact hsame (by rw [hview])
    · rw [hx.view] at hv'
      exact version_replace hx.vaultLocked hx.vaultKey hx.move.version_le hv hv'
    · exact hsame hx.vaults
  -- the UPDATE adds one to the version that it has found
  | updateBalances k contributed locked expected =>
    obtain ⟨vault, hx⟩ := h
    obtain ⟨hc, hl, hview⟩ := hx.view
    have hid : (vault.setBalances contributed locked hc hl).id = k := (Table.find_some hx.found).2
    have hversion : (vault.setBalances contributed locked hc hl).version ≤ vault.version + 1 :=
      Nat.le_refl _
    rw [hview] at hv'
    exact version_replace hx.found hid hversion hv hv'

end

/-! ## Every run

  The version of a vault and the history of its commits, side by side: what was counted is what
  happened. -/

/-- Nothing is asked of a run: every commit is by its effect. -/
def vaultContract : Contract VaultRequest.program VaultRequest.Effect fun _ _ _ _ => True where
  outcomes := VaultRequest.outcomes
  inv _ := True
  rely _ _ := True
  arrivals _ := True
  cond _ _ _ := True
  refl _ := trivial
  trans _ _ := trivial
  keep _ _ _ _ _ := ⟨trivial, trivial⟩

/-- An event of a run. -/
abbrev VaultEvent : Type := Event VaultRequest Nat

/-- The system after the events `es`, from a committed database and no request under way. -/
def VaultRequest.after (s : Db) (es : List VaultEvent) :
    System Db Content Write ServiceError (Option Response) VaultRequest Nat :=
  (System.start s).run VaultRequest.program es

/-- The commit that an event makes, if it sets totals of the vault. -/
def SetsTotals (id : Uuid) (S : System Db Content Write ServiceError (Option Response) VaultRequest Nat)
    (e : VaultEvent) : Prop :=
  ∃ c, S.commitOf e = some c ∧ ∃ w ∈ c.session.writes, w.setsTotals id = true

section

variable {s : Db} {es : List VaultEvent} {id : Uuid} {v : SavingsVault}

/-- Every commit of a run is by its effect. -/
theorem effect_of_commitOf {e : VaultEvent} {c : Committed Db Resource Write VaultRequest Nat}
    (h : (VaultRequest.after s es).commitOf e = some c) :
    ∃ b, c.request.Effect c.session c.state b := by
  have hmem : c ∈ (System.start s).history VaultRequest.program (es ++ [e]) :=
    System.mem_history.mpr ⟨es, e, [], rfl, h⟩
  have hwithin : vaultContract.Within s (es ++ [e]) :=
    System.meets_allows (fun _ => trivial) (fun _ _ _ => trivial) _ _
  obtain ⟨b, -, -, -, heffect, -⟩ := vaultContract.history_guar trivial hwithin c hmem
  exact ⟨b, heffect⟩

/-- **One event**: a commit that sets totals of the vault adds exactly one to its version, and
    nothing else touches the row. -/
theorem bumps_next (e : VaultEvent) (hv : (VaultRequest.after s es).db.vaults.find id = some v) :
    ∃ v', (VaultRequest.after s (es ++ [e])).db.vaults.find id = some v' ∧
      (SetsTotals id (VaultRequest.after s es) e → v'.version = v.version + 1) ∧
      (¬ SetsTotals id (VaultRequest.after s es) e → v' = v) := by
  have hnext : VaultRequest.after s (es ++ [e]) = (VaultRequest.after s es).next VaultRequest.program e :=
    System.run_snoc _ _ _ _
  rw [hnext]
  cases hcommit : (VaultRequest.after s es).commitOf e with
  | none =>
    rw [System.db_next_none hcommit]
    refine ⟨v, hv, ?_, fun _ => rfl⟩
    rintro ⟨c, hc, -⟩
    cases hcommit.symm.trans hc
  | some c =>
    obtain ⟨hstate, hdb⟩ := System.db_next_some VaultRequest.program hcommit
    rw [← hstate] at hv
    obtain ⟨v', hv', hbumped⟩ := view_bumps c.session hv
    obtain ⟨b, heffect⟩ := effect_of_commitOf hcommit
    -- one statement at most has set totals
    have hle := heffect.version_le hv hv'
    rw [hbumped.version] at hle
    rw [hdb]
    refine ⟨v', hv', ?_, ?_⟩
    · rintro ⟨_, hc, hwrites⟩
      cases hcommit.symm.trans hc
      have hpos : 0 < totalWrites id c.session := List.countP_pos_iff.mpr hwrites
      rw [hbumped.version]
      omega
    · intro hnone
      refine hbumped.same (List.countP_eq_zero.mpr fun w hw hsets => hnone ?_)
      exact ⟨c, hcommit, w, hw, hsets⟩

/-- Along a run the version never drops; and if it is still the same, no commit has set totals of
    the vault, and the row is the same. -/
theorem version_mono (fs : List VaultEvent)
    (hv : (VaultRequest.after s es).db.vaults.find id = some v) :
    ∃ v', (VaultRequest.after s (es ++ fs)).db.vaults.find id = some v' ∧ v.version ≤ v'.version ∧
      (v'.version = v.version → v' = v ∧ ∀ mid e post, fs = mid ++ e :: post →
        ¬ SetsTotals id (VaultRequest.after s (es ++ mid)) e) := by
  induction fs using List.reverseRecOn with
  | nil => exact ⟨v, by rw [List.append_nil]; exact hv, Nat.le_refl _, fun _ => ⟨rfl, by simp⟩⟩
  | append_singleton fs e ih =>
    obtain ⟨v₁, hv₁, hle, hsame⟩ := ih
    obtain ⟨v₂, hv₂, hsets, hkept⟩ := bumps_next e hv₁
    rw [List.append_assoc] at hv₂
    by_cases hwrites : SetsTotals id (VaultRequest.after s (es ++ fs)) e
    · have hversion := hsets hwrites
      exact ⟨v₂, hv₂, by omega, fun he => by omega⟩
    · obtain rfl := hkept hwrites
      refine ⟨v₂, hv₂, hle, fun he => ?_⟩
      obtain ⟨hrow, hnone⟩ := hsame he
      refine ⟨hrow, fun mid e' post hsplit => ?_⟩
      rcases split_snoc hsplit with ⟨rfl, rfl⟩ | ⟨post', hfs⟩
      · exact hwrites
      · exact hnone mid e' post' hfs

/-- A commit of an update of balances finds the version that was expected, and sets totals. -/
theorem updated_of_commitOf {e : VaultEvent} {c : Committed Db Resource Write VaultRequest Nat}
    {contributed locked expected : Int64} (h : (VaultRequest.after s es).commitOf e = some c)
    (hrequest : c.request = .updateBalances id contributed locked expected) :
    (∃ v, (VaultRequest.after s es).db.vaults.find id = some v ∧ (v.version : Int) = expected.toInt) ∧
      SetsTotals id (VaultRequest.after s es) e := by
  obtain ⟨hstate, -⟩ := System.db_next_some VaultRequest.program h
  obtain ⟨b, heffect⟩ := effect_of_commitOf h
  rw [hrequest, hstate] at heffect
  obtain ⟨vault, hx⟩ := heffect
  refine ⟨⟨vault, hx.found, hx.version⟩, ?_⟩
  obtain ⟨v', hv', hbumped⟩ := view_bumps c.session hx.found
  -- the row has another version after it, so some statement has set totals
  obtain ⟨hc, hl, hview⟩ := hx.view
  have hid : (vault.setBalances contributed locked hc hl).id = id := (Table.find_some hx.found).2
  rw [hview] at hv'
  obtain rfl := Option.some.inj ((Table.find_replace_self hx.found hid).symm.trans hv')
  have hnext : vault.version + 1 = vault.version + totalWrites id c.session := hbumped.version
  have hpos : 0 < totalWrites id c.session := by omega
  exact ⟨c, h, List.countP_pos_iff.mp hpos⟩

end

/-! ## An update of balances succeeds by a commit

  A success is told to the caller after the commit, so one has to go back from the answer to the
  commit of the same slot, by its script. -/

/-- Of the other requests nothing is asked. -/
def VaultRequest.script : VaultRequest → Script Write ServiceError (Option Response)
  | service _ => .anything
  | updateBalances _ _ _ _ => ⟨fun _ => True, fun done r => (∃ a, r = .ok a) → done ≠ []⟩

/-- A request may commit nothing. -/
theorem VaultRequest.script_nil (q : VaultRequest) : q.script.ok [] := by
  cases q <;> trivial

/-- Each request commits by its script. -/
theorem VaultRequest.script_follows (q : VaultRequest) : q.program.Follows q.script [] [] := by
  cases q with
  | service q => exact follows_anything _ _ _
  | updateBalances id contributed locked expected =>
    have herror : ∀ (e : ServiceError) (done : List (List Write)),
        (∃ a, (Except.error e : Except ServiceError (Option Response)) = .ok a) → done ≠ [] := by
      rintro e done ⟨a, ha⟩
      cases ha
    refine Follows.map (Follows.mapError ?_)
    refine Follows.beginTx (Follows.select fun t => ?_)
    refine Follows.okOr (herror _ _) fun snapshot => Follows.failIf (herror _ _) ?_
    refine Follows.forUpdate fun found => ?_
    refine Follows.okOr (herror _ _) fun vault => Follows.failIf (herror _ _) ?_
    split
    · split
      · exact Follows.execute (Follows.commitTx trivial fun _ => List.cons_ne_nil _ _)
      · exact herror _ _
    · exact herror _ _

/-- The commit of an update that has been answered with success, after the events in which its slot
    was idle. -/
theorem commit_of_success {s : Db} {pre rest : List VaultEvent} {i : Nat} {id : Uuid}
    {contributed locked expected : Int64} {a : Option Response} {l : Sess}
    (hidle : (VaultRequest.after s pre).slots i = .idle)
    (hslot : (VaultRequest.after s (pre ++ rest)).slots i =
      .finished (.updateBalances id contributed locked expected) (.ok a) l) :
    ∃ mid post c, rest = mid ++ .step i :: post ∧
      (VaultRequest.after s (pre ++ mid)).commitOf (.step i) = some c ∧
      c.request = .updateBalances id contributed locked expected := by
  -- a slot's commits, read off the script of its request
  have hscript (es : List VaultEvent) :=
    System.follows_run VaultRequest.script_nil VaultRequest.script_follows s es
  have hbefore := hscript pre i
  rw [show ((System.start s).run VaultRequest.program pre).slots i = _ from hidle] at hbefore
  have hfollows := hscript (pre ++ rest) i
  rw [show ((System.start s).run VaultRequest.program (pre ++ rest)).slots i = _ from hslot]
    at hfollows
  obtain ⟨hrequest, -, hanswers⟩ := hfollows
  -- the answer was a success, so the commit is in the history
  have hsome := hanswers ⟨a, rfl⟩
  have hmine : System.commitsOf i ((System.start s).history VaultRequest.program (pre ++ rest)) =
      System.commitsOf i ((VaultRequest.after s pre).history VaultRequest.program rest) := by
    rw [System.history_append, System.commitsOf, List.filter_append]
    rw [show List.filter _ _ = _ from hbefore, List.nil_append]; rfl
  rw [hmine] at hsome hrequest
  -- a commit of the slot, in the part of the run after `pre`
  obtain ⟨c, hc⟩ := List.exists_mem_of_ne_nil _ fun hnil => hsome (List.map_eq_nil_iff.mpr hnil)
  obtain ⟨hhistory, hslotOf⟩ := List.mem_filter.mp hc
  obtain rfl : c.slot = i := of_decide_eq_true hslotOf
  obtain ⟨mid, e, post, hrest, hcommit⟩ := System.mem_history.mp hhistory
  obtain ⟨rfl, -⟩ := System.slot_of_commitOf hcommit
  refine ⟨mid, post, c, hrest, ?_, hrequest c hc⟩
  rw [VaultRequest.after, System.run, List.foldl_append]
  exact hcommit

/-- What the version of a vault says about a run: it counts the commits that set totals of the vault,
    one each; and an update of balances that succeeds with the version of a row read before it was
    called has found that row, and no commit has set totals of the vault in between. -/
structure VersionsCount (s : Db) (es : List VaultEvent) : Prop where
  /-- A commit that sets totals of a vault adds one to its version, and any other event leaves the
      row. -/
  counts : ∀ pre e post, es = pre ++ e :: post → ∀ id v,
    (VaultRequest.after s pre).db.vaults.find id = some v →
    ∃ v', (VaultRequest.after s (pre ++ [e])).db.vaults.find id = some v' ∧
      (SetsTotals id (VaultRequest.after s pre) e → v'.version = v.version + 1) ∧
      (¬ SetsTotals id (VaultRequest.after s pre) e → v' = v)
  /-- An update that succeeds has found the row that its caller had read: no other commit has set
      its totals since. -/
  no_lost_update : ∀ pre rest, es = pre ++ rest →
    ∀ i id contributed locked expected a l read,
    (VaultRequest.after s pre).db.vaults.find id = some read → (read.version : Int) = expected.toInt →
    (VaultRequest.after s pre).slots i = .idle →
    (VaultRequest.after s es).slots i =
      .finished (.updateBalances id contributed locked expected) (.ok a) l →
    ∃ mid post, rest = mid ++ .step i :: post ∧
      (VaultRequest.after s (pre ++ mid)).db.vaults.find id = some read ∧
      SetsTotals id (VaultRequest.after s (pre ++ mid)) (.step i) ∧
      ∀ mid' e post', mid = mid' ++ e :: post' → ¬ SetsTotals id (VaultRequest.after s (pre ++ mid')) e

/-- **No lost update** between optimistic and pessimistic writers, in every interleaving.

    No condition is needed on either side: the pessimistic writers count the version up under their
    lock, and the optimistic one compares it in its WHERE clause, which PostgreSQL evaluates again
    after waiting. -/
theorem versions_count (s : Db) (es : List VaultEvent) : VersionsCount s es := by
  constructor
  · intro pre e post _ id v hv
    exact bumps_next e hv
  · intro pre rest hes i id contributed locked expected a l read hread hversion hidle hslot
    subst hes
    obtain ⟨mid, post, c, hrest, hcommit, hrequest⟩ := commit_of_success hidle hslot
    obtain ⟨⟨v, hv, hexpected⟩, hsets⟩ := updated_of_commitOf hcommit hrequest
    obtain ⟨v', hv', -, hsame⟩ := version_mono mid hread
    obtain rfl := Option.some.inj (hv.symm.trans hv')
    obtain ⟨rfl, hnone⟩ := hsame (by omega)
    exact ⟨mid, post, hrest, hv, hsets, hnone⟩

end EduStell
