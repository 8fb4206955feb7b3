/-
  Funding a pool, under interleaved requests: all or nothing, and once for each key.

  The transaction locks the pool row, sets its balance, and only then inserts the donor contribution,
  which may find its key taken; the new balance may have wrapped.  What makes this safe is that the
  whole transaction is dropped by an error, that the balance it adds to is the one of the row it has
  LOCKED, and that the index entry of the key is locked before it is looked at.

  The plan: the script of a funding says that it commits all or nothing (`fundPool_follows`); a
  commit that credits a key adds the first donor contribution under it (`donationsUnder_view`); so
  the history of a run has at most one such commit (`credits_run`).
-/
import EduStell.Scholarships.Decisions
import EduStell.Txn.History

namespace EduStell

open Txn Program Persistence

/-- The commits of a run from `s`. -/
def Sys.history (s : Db) (es : List Happening) : List (Committed Db Resource Write Request Nat) :=
  (System.start s).history Request.program es

/-- The last event comes after the others. -/
theorem Sys.after_snoc (s : Db) (es : List Happening) (e : Happening) :
    Sys.after s (es ++ [e]) = (Sys.after s es).next Request.program e :=
  System.run_snoc _ _ _ _

/-- A request to credit the key. -/
def Request.Credits (key : String) : Request → Prop
  | .fundPool _ _ input => input.idempotencyKey = key
  | _ => False

/-- Whether a request credits the key can be decided. -/
instance (key : String) : DecidablePred (Request.Credits key)
  | .fundPool .. => inferInstanceAs (Decidable (_ = _))
  | .record .. | .settle .. | .createPayout .. | .review .. | .verifySchool .. | .createPool ..
  | .createApplication .. | .approve .. | .reject .. | .disburse .. | .revoke .. => .isFalse id

/-- The commits of a history that credit the key. -/
def credits (key : String) (hist : List (Committed Db Resource Write Request Nat)) :
    List (Committed Db Resource Write Request Nat) :=
  hist.filter fun c => c.request.Credits key

/-- The donor contributions under a key. -/
def donationsUnder (s : Db) (key : String) : List DonorContribution :=
  s.donorContributions.rows.filter fun c => c.idempotencyKey = some key

/-- The funding that a request asks for: the balance of the pool grows by the amount (as integers),
    and one donor contribution and one audit row are added. -/
structure FundingOf (input : FundScholarshipPoolInput) (s s' : Db) (pool pool' : ScholarshipPool)
    (donation : DonorContribution) (log : AuditLog) : Prop where
  found : s.pools.find input.poolId = some pool
  /-- Of the pool only the balance changes, -/
  row : pool' = { pool with availableFunds := pool'.availableFunds }
  /-- and not its currency; -/
  currency : pool'.availableFunds.currency = pool.availableFunds.currency
  /-- it grows by the amount, as an integer. -/
  funds : pool'.availableFunds.units = pool.availableFunds.units + input.amountMinor.toInt
  poolId : donation.poolId = input.poolId
  amount : donation.amount.amountMinor = input.amountMinor
  key : donation.idempotencyKey = some input.idempotencyKey
  fresh : s.donorContributions.find donation.id = none
  /-- Nothing else changes. -/
  state : s' = { s with
    pools := s.pools.replace pool'
    donorContributions := s.donorContributions.insert donation
    audit := s.audit ++ [log] }

/-- What a funding makes of the database is the funding that was asked for. -/
theorem PoolFunded.fundingOf {newId : Uuid} {input : FundScholarshipPoolInput} {l : Sess} {s : Db}
    {pool : ScholarshipPool} {donation : DonorContribution}
    (h : PoolFunded newId input l s pool donation) :
    ∃ pool' log, FundingOf input s (l.view s) pool pool' donation log := by
  obtain ⟨log, -, hview⟩ := h.view
  refine ⟨pool.setFunds _ h.nonneg, log, h.locked, rfl, rfl, ?_, h.poolId, h.amount, h.key,
    h.id ▸ h.fresh, hview⟩
  exact toInt_add_of_nonneg pool.availableFunds.nonneg (Int64.le_of_lt h.positive) h.nonneg

/-! ## One transaction

  A script for one request: a funding has committed its one transaction when it answers with a
  result, and none when it answers with an error. -/

/-- A request that answers without an error by its one commit, and with an error without one. -/
def allOrNothing : Script Write ServiceError Response where
  ok done := done.length ≤ 1
  answers done r := match r with
    | .ok _ => done.length = 1
    | .error _ => done = []

section

variable {β : Type} {X : Script Write PersistenceError β} {done : List (List Write)} {ws : List Write}

/-- A taken index entry ends the program, or the rest goes on. -/
theorem follows_insertUnique {r : Resource} {taken : Content r → Bool} {constraint : String}
    {k : Unit → Tx PersistenceError β}
    (htaken : X.answers done (.error (.uniqueViolation constraint)))
    (h : (k ()).Follows X done ws) : (insertUnique r taken constraint >>= k).Follows X done ws := by
  rw [insertUnique, bind_assoc]
  exact Follows.forUpdate fun _ => Follows.failIf htaken h

/-- The same for an entry that there may be no key for. -/
theorem follows_insertUniqueKey {key : Option String} {entry : String → Resource}
    {taken : ∀ k, Content (entry k) → Bool} {constraint : String} {k : Unit → Tx PersistenceError β}
    (htaken : X.answers done (.error (.uniqueViolation constraint)))
    (h : (k ()).Follows X done ws) :
    (insertUniqueKey key entry taken constraint >>= k).Follows X done ws := by
  cases key with
  | none => exact h
  | some x => exact follows_insertUnique htaken h

/-- New funds of a pool: the CHECK refuses them, or a statement is added. -/
theorem follows_updatePoolFunds {pool : ScholarshipPool} {funds : Int64}
    {k : ScholarshipPool → Tx PersistenceError β}
    (herr : X.answers done (.error
      (.checkViolation "scholarship_pools" "scholarship_pools_available_funds_minor_check")))
    (h : ∀ hf, (k (pool.setFunds funds hf)).Follows X done
      (ws ++ [.setPoolFunds pool.id funds hf])) :
    (updatePoolFunds pool funds >>= k).Follows X done ws := by
  rw [updatePoolFunds]
  split
  · rw [bind_assoc]
    exact Follows.execute (h _)
  · exact herr

end

/-- A funding commits everything, or nothing. -/
theorem fundPool_follows (newId : Uuid) (actor : AuthenticatedUser)
    (input : FundScholarshipPoolInput) :
    (Request.program (.fundPool newId actor input)).Follows allOrNothing [] [] := by
  refine Follows.map (Follows.ofExcept (fun _ => rfl) fun _ => Follows.ofExcept (fun _ => rfl) fun _ => ?_)
  refine Follows.select fun s => Follows.okOr rfl fun pool => ?_
  refine Follows.ofExcept (fun _ => rfl) fun _ => Follows.ofExcept (fun _ => rfl) fun _ => ?_
  refine Follows.ofExcept (fun _ => rfl) fun amount => Follows.mapError ?_
  refine Follows.beginTx (Follows.forUpdate fun row => Follows.okOr rfl fun locked => ?_)
  refine follows_updatePoolFunds rfl fun hf => Follows.failIf rfl (follows_insertUnique rfl ?_)
  refine follows_insertUniqueKey rfl (Follows.ofExcept (fun _ => rfl) fun stored => ?_)
  exact Follows.execute (Follows.execute (Follows.commitTx (Nat.le_refl 1) rfl))

/-- The script of a request: all or nothing for a funding. -/
def fundingScript : Request → Script Write ServiceError Response
  | .fundPool .. => allOrNothing
  | _ => .anything

/-- A request may commit nothing. -/
theorem fundingScript_nil (q : Request) : (fundingScript q).ok [] := by
  cases q with
  | fundPool newId actor input => exact Nat.zero_le 1
  | _ => exact trivial

/-- Each request commits by its script. -/
theorem fundingScript_follows (q : Request) : q.program.Follows (fundingScript q) [] [] := by
  cases q with
  | fundPool newId actor input => exact fundPool_follows newId actor input
  | _ => exact follows_anything _ _ _

/-! ## One key

  Under a free key there is no row; the commit that credits it adds the first, and a second one is
  stopped by the index. -/

section

variable {q : Request} {l : Sess} {s : Db}

/-- A free key has no donor contribution. -/
theorem donationsUnder_nil {key : String}
    (h : s.donorContributions.any (fun c => c.idempotencyKey = some key) = false) :
    donationsUnder s key = [] := by
  refine List.filter_eq_nil_iff.mpr fun c hc he => ?_
  exact List.any_eq_false.mp h c hc he

/-- Every request but a funding leaves the donor contributions alone. -/
theorem donorContributions_view (h : ScholarshipEffect q l s)
    (hq : ∀ newId actor input, q ≠ .fundPool newId actor input) :
    (l.view s).donorContributions = s.donorContributions := by
  cases h.donations with
  | kept view => exact view
  | funded request => exact absurd request (hq _ _ _)

/-- A commit that credits the key adds the first donor contribution under it, and no other commit
    adds one. -/
theorem donationsUnder_view {b : Response} (h : q.Effect l s b) (key : String) :
    (q.Credits key → donationsUnder s key = [] ∧ (donationsUnder (l.view s) key).length = 1) ∧
    (¬ q.Credits key → donationsUnder (l.view s) key = donationsUnder s key) := by
  by_cases hq : ∃ newId actor input, q = .fundPool newId actor input
  · obtain ⟨newId, actor, input, rfl⟩ := hq
    obtain ⟨a, -, pool, hc⟩ := h
    have hfresh : s.donorContributions.find a.2.id = none := by rw [hc.id]; exact hc.fresh
    obtain ⟨log, -, hview⟩ := hc.view
    have hdonations : (l.view s).donorContributions = s.donorContributions.insert a.2 := by
      rw [hview]
    have hinsert : donationsUnder (l.view s) key = donationsUnder s key ++
        if input.idempotencyKey = key then [a.2] else [] := by
      rw [donationsUnder, hdonations, Table.filter_insert hfresh, hc.key]
      simp only [decide_eq_true_eq, Option.some.injEq]; rfl
    constructor
    · intro (hkey : input.idempotencyKey = key)
      have hnone : donationsUnder s key = [] := donationsUnder_nil (hkey ▸ hc.keyFree)
      rw [hinsert, hnone, if_pos hkey]
      exact ⟨rfl, rfl⟩
    · intro (hkey : ¬ input.idempotencyKey = key)
      rw [hinsert, if_neg hkey, List.append_nil]
  · have hothers : ∀ newId actor input, q ≠ .fundPool newId actor input :=
      fun newId actor input he => hq ⟨newId, actor, input, he⟩
    constructor
    · intro hcredits
      cases q with
      | fundPool newId actor input => exact absurd rfl (hothers newId actor input)
      | _ => exact hcredits.elim
    · intro _
      rw [donationsUnder, donorContributions_view h.scholarship hothers]; rfl

end

/-! ## Every run

  The history of the run, filtered by key, has at most one commit in it. -/

/-- The effects of the requests, and nothing else. -/
def effectContract : Contract Request.program Request.Effect Request.Stops where
  outcomes := Request.outcomes
  inv _ := True
  rely _ _ := True
  arrivals _ := True
  cond _ _ _ := True
  refl _ := trivial
  trans _ _ := trivial
  keep _ _ _ _ _ := ⟨trivial, trivial⟩

/-- Every run meets a contract that asks nothing of its arrivals. -/
theorem effectContract_within (s : Db) (es : List Happening) : effectContract.Within s es :=
  System.meets_allows (fun _ => trivial) (fun _ _ _ => trivial) _ es

/-- Every commit of a run leaves what its request is meant to leave. -/
theorem Sys.history_effect {s : Db} {es : List Happening}
    {c : Committed Db Resource Write Request Nat} (hc : c ∈ Sys.history s es) :
    ∃ b, c.request.Effect c.session c.state b := by
  obtain ⟨b, -, -, -, h, -⟩ :=
    effectContract.history_guar trivial (effectContract_within s es) c hc
  exact ⟨b, h⟩

/-- **A key is credited at most once**: no commit of the run credits it, or one, and then it had no
    donor contribution at the start and has one at the end. -/
theorem credits_run (s : Db) (es : List Happening) (key : String) :
    (credits key (Sys.history s es) = [] ∧
      donationsUnder (Sys.after s es).db key = donationsUnder s key) ∨
    ((credits key (Sys.history s es)).length = 1 ∧ donationsUnder s key = [] ∧
      (donationsUnder (Sys.after s es).db key).length = 1) := by
  induction es using List.reverseRecOn with
  | nil => exact .inl ⟨rfl, rfl⟩
  | append_singleton es e ih =>
    simp only [Sys.after, Sys.history] at ih ⊢
    rcases System.snoc_cases Request.program (System.start s) es e with
      ⟨hdb, hhist⟩ | ⟨c, -, -, -, hstate, hdb, hhist⟩
    · rw [hdb, hhist]
      exact ih
    · have hmem : c ∈ Sys.history s (es ++ [e]) := by rw [Sys.history, hhist]; simp
      obtain ⟨b, heffect⟩ := Sys.history_effect hmem
      obtain ⟨hcredit, hother⟩ := donationsUnder_view heffect key
      rw [hdb, hhist, credits, List.filter_append]
      by_cases hkey : c.request.Credits key
      · -- the key was free, so no commit has credited it before
        obtain ⟨hfree, hone⟩ := hcredit hkey
        rw [hstate] at hfree
        rcases ih with ⟨hnone, hsame⟩ | ⟨-, -, htaken⟩
        · right
          rw [credits] at hnone
          refine ⟨by simp [hnone, hkey], hsame.symm.trans hfree, hone⟩
        · rw [hfree] at htaken; cases htaken
      · rw [hother hkey, hstate, List.filter_singleton, decide_eq_false hkey, cond_false,
          List.append_nil]
        exact ih

/-- What the fundings of a run do: each key is credited at most once; a funding that was answered with
    an error has changed nothing; one that succeeded has changed the committed state once, by the
    funding it asks for. -/
structure FundingsExact (s : Db) (es : List Happening) : Prop where
  /-- A key is credited at most once, and stands for at most one row. -/
  once : ∀ key, (credits key (Sys.history s es)).length ≤ 1 ∧
    ((donationsUnder s key).length ≤ 1 → (donationsUnder (Sys.after s es).db key).length ≤ 1)
  /-- A funding that was answered with an error has changed nothing. -/
  failed : ∀ i newId actor input e l,
    (Sys.after s es).slots i = .finished (.fundPool newId actor input) (.error e) l →
    ∀ pre post, es = pre ++ .step i :: post →
      (Sys.after s (pre ++ [.step i])).db = (Sys.after s pre).db
  /-- One that was answered with a result has one commit, which is the funding it has asked for. -/
  succeeded : ∀ i newId actor input b l,
    (Sys.after s es).slots i = .finished (.fundPool newId actor input) (.ok b) l →
    ∃ pre post, es = pre ++ .step i :: post ∧
      (∃ pool pool' donation log, FundingOf input (Sys.after s pre).db
        (Sys.after s (pre ++ [.step i])).db pool pool' donation log) ∧
      ∀ pre' post', es = pre' ++ .step i :: post' → pre' ≠ pre →
        (Sys.after s (pre' ++ [.step i])).db = (Sys.after s pre').db

/-- **Fundings are exact** in every interleaving with any other requests.

    Nothing is asked of the start or of the other requests: the key of a donation is a unique index,
    whose entry is locked by the INSERT, and the balance is added to under the lock of the pool. -/
theorem fundings_exact (s : Db) (es : List Happening) : FundingsExact s es := by
  have hscript := System.follows_run fundingScript_nil fundingScript_follows s es
  refine ⟨?_, ?_, ?_⟩
  · intro key
    rcases credits_run s es key with ⟨hnone, hsame⟩ | ⟨hone, -, hrow⟩
    · rw [hnone, hsame]
      exact ⟨Nat.zero_le 1, id⟩
    · rw [hone, hrow]
      exact ⟨Nat.le_refl 1, fun _ => Nat.le_refl 1⟩
  · -- an error: the script of the request has committed nothing
    intro i newId actor input e l hslot pre post hes
    have hfollows := hscript i
    rw [show ((System.start s).run Request.program es).slots i = _ from hslot] at hfollows
    have hnone : System.commitsOf i (Sys.history s es) = [] := List.map_eq_nil_iff.mp hfollows.2.2
    exact System.quiet_of_commitsOf hnone pre post hes
  · -- an Ok: the script has committed once, and this is the place
    intro i newId actor input b l hslot
    have hfollows := hscript i
    rw [show ((System.start s).run Request.program es).slots i = _ from hslot] at hfollows
    obtain ⟨hrequest, -, hone⟩ := hfollows
    have hlength : (System.commitsOf i (Sys.history s es)).length = 1 := List.length_map _ ▸ hone
    obtain ⟨c, hcommits⟩ := List.length_eq_one_iff.mp hlength
    have hmem : c ∈ System.commitsOf i (Sys.history s es) := by rw [hcommits]; simp
    have hrequestOf : c.request = .fundPool newId actor input := hrequest c hmem
    obtain ⟨hhistory, hslotOf⟩ := List.mem_filter.mp hmem
    obtain rfl : c.slot = i := of_decide_eq_true hslotOf
    obtain ⟨pre, e, post, hes, hcommit⟩ := System.mem_history.mp hhistory
    obtain ⟨rfl, -⟩ := System.slot_of_commitOf hcommit
    refine ⟨pre, post, hes, ?_, ?_⟩
    · obtain ⟨b, heffect⟩ := Sys.history_effect hhistory
      rw [hrequestOf] at heffect
      obtain ⟨a, -, pool, hc⟩ := heffect
      obtain ⟨pool', log, hfunding⟩ := hc.fundingOf
      obtain ⟨hstate, hdb⟩ := System.db_next_some Request.program hcommit
      rw [hstate] at hfunding hdb
      refine ⟨pool, pool', a.2, log, ?_⟩
      rw [Sys.after_snoc, Sys.after, hdb]
      exact hfunding
    · intro pre' post' hes' hne
      rw [Sys.after_snoc]
      cases hother : (Sys.after s pre').commitOf (.step c.slot) with
      | none => exact System.db_next_none hother
      | some c' =>
        exact absurd (System.place_unique (Nat.le_of_eq hlength) hes hes' hcommit hother) hne

end EduStell
