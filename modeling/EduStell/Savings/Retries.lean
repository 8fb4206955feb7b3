/-
  Retries of a request that carries an idempotency key, at any later point of a serial run.

  `Later` is that run: the modelled requests, and in between whatever the rest of the program does
  to the rows that the two services read.  A key stands for one row, whose intent no statement
  rewrites; so a retry is answered with that row as it is now, and the key cannot be used for
  anything else.

  The two services look the key up at different places.  A contribution is looked up AFTER the vault
  and its contributors were checked again, so a retry needs that an intent that was allowed once
  stays allowed (`IntentAllowed.later`); a payout is looked up before any of its checks.

  The currency of a request is compared with the one that was stored as text and parsed again, so
  everything rests on the currency of the request having been parsed, as both callers do.

  The plan: what a key stands for is a property of one state (`IntentStands`, `PayoutStands`); it
  is kept by every statement and by other code; it holds once a request has been answered
  (`of_serve`); and a retry in such a state is answered with the row (`answered`).
-/
import EduStell.Scenario
import EduStell.Spec.Effects
import Mathlib.Logic.Relation

namespace EduStell

open Txn Program Persistence

/-! ## Serial runs

  Other code is a relation and no list of statements: it may do anything that keeps the owners,
  the currencies and the contributors of the vaults, and leaves contributions and payouts alone. -/

/-- Vaults keep their owner and currency, whatever becomes of their balances, and contributors stay. -/
structure VaultsKept (s s' : Db) : Prop where
  /-- A vault stays, with its owner and its currency. -/
  vaults : ∀ id v, s.vaults.find id = some v → ∃ v', s'.vaults.find id = some v' ∧
    v'.ownerUserId = v.ownerUserId ∧ v'.currency = v.currency
  /-- No contributor is lost. -/
  contributors : s.vaultContributors.rows ⊆ s'.vaultContributors.rows

/-- What other code may do between two requests: anything to milestones, schools and balances, new
    vaults and contributors, but contributions and payouts are left to the requests. -/
structure Elsewhere (s s' : Db) : Prop extends VaultsKept s s' where
  contributions : s'.contributions = s.contributions
  payouts : s'.payouts = s.payouts

/-- A later point of a serial run. -/
def Later : Db → Db → Prop :=
  Relation.ReflTransGen fun s s' => (∃ q : Request, s' = (q.serve s).2) ∨ Elsewhere s s'

/-- Requests served one after another lead to a later point. -/
theorem Later.serveAll (s : Db) (qs : List Request) : Later s (serveAll s qs) := by
  induction qs generalizing s with
  | nil => exact .refl
  | cons q qs ih => exact .head (.inl ⟨q, rfl⟩) (ih _)

/-- What every statement and all other code keeps holds at every later point. -/
theorem Later.keeps {P : Db → Prop} (hwrite : ∀ w s, P s → P (Store.apply w s))
    (helse : ∀ s s', Elsewhere s s' → P s → P s') {s s' : Db} (h : Later s s') (hs : P s) : P s' := by
  induction h with
  | refl => exact hs
  | tail _ hstep ih =>
    rcases hstep with ⟨q, rfl⟩ | hstep
    · exact Request.serve_keeps ih fun l _ _ _ => l.view_keeps hwrite ih
    · exact helse _ _ hstep ih

/-- No statement takes a vault or changes its owner. -/
theorem Write.vaultsKept (w : Write) (s : Db) : VaultsKept s (w.apply s) := by
  have hsame : ∀ {s'}, s'.vaults = s.vaults → s'.vaultContributors = s.vaultContributors →
      VaultsKept s s' := by
    intro s' hvaults hcontributors
    refine ⟨fun id v hv => ⟨v, by rw [hvaults]; exact hv, rfl, rfl⟩, ?_⟩
    rw [hcontributors]
    exact fun _ hx => hx
  have hmodify : ∀ {k f hf}, (∀ v : SavingsVault, (f v).ownerUserId = v.ownerUserId ∧
      (f v).currency = v.currency) → VaultsKept s { s with vaults := s.vaults.modify k f hf } := by
    intro k f hf hkeep
    refine ⟨fun id v hv => ?_, fun _ hx => hx⟩
    simp only [Table.find_modify, hv]
    split
    · exact ⟨f v, rfl, hkeep v⟩
    · exact ⟨v, rfl, rfl, rfl⟩
  cases w with
  | setVaultTotals id total h => exact hmodify fun v => ⟨rfl, rfl⟩
  | setVaultLocked id locked disbursed hl hd => exact hmodify fun v => ⟨rfl, rfl⟩
  | setVaultBalances id contributed locked hc hl => exact hmodify fun v => ⟨rfl, rfl⟩
  | _ => exact hsame rfl rfl

/-! ## Retries

  A retry is compared as the services compare it.  `Reuses` is its opposite: the same key, for
  something that the comparison tells apart. -/

/-- The same request by the same actor; an external reference is not part of what is compared, and
    a repeated call draws another id for a row that it may have to create. -/
def Retries : Request → Request → Prop
  | .record _ actor input, .record _ actor' input' =>
    actor' = actor ∧ ∃ ref, input' = { input with externalReference := ref }
  | .createPayout _ actor input, .createPayout _ actor' input' => actor' = actor ∧ input' = input
  | _, _ => False

/-- A request that uses the key for something else. -/
def Reuses : Request → Request → Prop
  | .record _ actor input, .record _ actor' input' =>
    input'.idempotencyKey = input.idempotencyKey ∧
      (input'.vaultId ≠ input.vaultId ∨ actor'.userId ≠ actor.userId ∨
        input'.amountMinor ≠ input.amountMinor ∨ input'.currency ≠ input.currency ∨
        input'.sourceType ≠ input.sourceType)
  | .createPayout _ actor input, .createPayout _ actor' input' =>
    input'.idempotencyKey = input.idempotencyKey ∧
      (input'.vaultId ≠ input.vaultId ∨ actor'.userId ≠ actor.userId ∨
        input'.amountMinor ≠ input.amountMinor ∨ input'.currency ≠ input.currency ∨
        input'.milestoneId ≠ input.milestoneId ∨ input'.schoolId ≠ input.schoolId)
  | _, _ => False

/-- In the state `s`, the request `q` is answered with `b` as often as it is repeated, and its key
    serves no other; nothing changes either way. -/
structure Answered (q : Request) (b : Response) (s : Db) : Prop where
  /-- A repeat is answered alike, and changes nothing. -/
  again : ∀ q', Retries q q' → q'.serve s = (.ok b, s)
  /-- Another use of the key is refused, and changes nothing. -/
  reused : ∀ q', Reuses q q' → ∃ e, q'.serve s = (.error e, s)

/-! ## Contributions

  What stands is the row under the key, and the right of the one who has recorded it to
  contribute. -/

section

variable {newId : Uuid} {actor : AuthenticatedUser} {input : RecordContributionIntentInput}
  {l : Sess} {s : Db} {a c : Contribution}

/-- The comparison of a retry: everything but the external reference. -/
theorem ensureSameIntent_ok {actorUserId : Uuid} :
    ensureSameIntent c actorUserId input = .ok () ↔ c.vaultId = input.vaultId ∧
      c.contributorUserId = actorUserId ∧ c.amount.amountMinor = input.amountMinor ∧
      c.amount.currency = input.currency ∧ c.sourceType = input.sourceType := by
  rw [ensureSameIntent]
  split
  · rename_i h
    simp only [reduceCtorEq, false_iff]
    tauto
  · rename_i h
    simp only [true_iff]
    tauto

/-- A new row is the intent that it was recorded for, -/
theorem IntentRecorded.same {text : String} (h : IntentRecorded newId actor input l s a)
    (hparsed : Currency.parse text = .ok input.currency) :
    ensureSameIntent a actor.userId input = .ok () := by
  obtain ⟨nonneg, amount, hstored, rfl⟩ := h.row
  obtain rfl : amount = ⟨input.amountMinor, input.currency, nonneg⟩ := eq_of_storedMoney hparsed hstored
  exact ensureSameIntent_ok.mpr ⟨rfl, rfl, rfl, rfl, rfl⟩

/-- and the one that its key stands for. -/
theorem IntentRecorded.found (h : IntentRecorded newId actor input l s a) :
    contributionByIdempotencyKey (l.view s) input.idempotencyKey = some a := by
  obtain ⟨nonneg, amount, hstored, rfl⟩ := h.row
  obtain ⟨log, -, -, hview⟩ := h.view
  rw [hview]
  exact Table.first_insert_new h.fresh h.keyFree (decide_eq_true rfl)

/-- A recording under a key that has a row creates nothing: it is answered with the row or refused. -/
theorem serve_record_found (hkey : contributionByIdempotencyKey s input.idempotencyKey = some c) :
    (IntentValid actor input → IntentAllowed actor input s s →
      ensureSameIntent c actor.userId input = .ok () →
      (Request.record newId actor input).serve s = (.ok (.contribution c), s)) ∧
    (¬ ensureSameIntent c actor.userId input = .ok () →
      ∃ e, (Request.record newId actor input).serve s = (.error e, s)) := by
  rcases (recordContributionIntent_ends.map Response.contribution).serve s with
    ⟨l, hseen, ⟨r, hr, hstop⟩, hdb⟩ | ⟨l, b, hseen, ⟨a, -, hrecorded⟩, -⟩
  · -- every row that was found under the key is `c`
    have hrow : ∀ {t c'}, t ∈ l.seen →
        contributionByIdempotencyKey t input.idempotencyKey = some c' → c' = c := by
      intro t c' ht hc'
      rw [hseen t ht, hkey] at hc'
      exact (Option.some.inj hc').symm
    have hclosed : ¬ IntentOpen actor input l := by
      intro hopen
      obtain ⟨t, ht, hnone⟩ := hopen.unread
      rw [hseen t ht, hkey] at hnone
      cases hnone
    cases hstop with
    | invalid h => exact ⟨fun hvalid => absurd hvalid h, fun _ => ⟨_, Prod.ext hr hdb⟩⟩
    | refused h₁ h₂ h =>
      rw [hseen _ h₁, hseen _ h₂] at h
      exact ⟨fun _ hallowed => absurd hallowed h, fun _ => ⟨_, Prod.ext hr hdb⟩⟩
    | existing _ ht hfound hsame =>
      obtain rfl := hrow ht hfound
      exact ⟨fun _ _ _ => Prod.ext hr hdb, fun hdiffers => absurd hsame hdiffers⟩
    | different ht hfound hdiffers =>
      obtain rfl := hrow ht hfound
      refine ⟨fun _ _ hsame => ?_, fun _ => ⟨_, Prod.ext hr hdb⟩⟩
      cases hsame.symm.trans hdiffers
    | idTaken hopen => exact absurd hopen hclosed
    | keyTaken hopen => exact absurd hopen hclosed
    | noCurrency hopen => exact absurd hopen hclosed
  · obtain ⟨t, ht, hnone⟩ := hrecorded.opened.unread
    rw [hseen t ht, hkey] at hnone
    cases hnone

/-- Whoever was allowed to contribute stays so. -/
theorem IntentAllowed.later {s' : Db} (h : IntentAllowed actor input s s) (hkept : VaultsKept s s') :
    IntentAllowed actor input s' s' := by
  obtain ⟨vault, hvault, haccess, hcurrency⟩ := h
  obtain ⟨vault', hvault', howner, hcurrency'⟩ := hkept.vaults _ _ hvault
  refine ⟨vault', hvault', ?_, by rw [hcurrency']; exact hcurrency⟩
  rw [howner]
  rw [Contributions.canViewOrFundVault] at haccess ⊢
  split
  · rfl
  · rename_i howns
    rw [if_neg howns] at haccess
    split at haccess
    · rename_i hexplicit
      obtain ⟨hany, hrole⟩ := hexplicit
      rw [Table.any, List.any_eq_true] at hany
      obtain ⟨item, hitem, hmatch⟩ := hany
      have hany' : s'.vaultContributors.any (fun item =>
          item.vaultId = input.vaultId && item.contributorUserId = actor.userId) = true :=
        List.any_eq_true.mpr ⟨item, hkept.contributors hitem, hmatch⟩
      rw [if_pos ⟨hany', hrole⟩]
    · cases haccess

/-- The key stands for the contribution `a`, and who recorded it may still do so. -/
structure IntentStands (actor : AuthenticatedUser) (input : RecordContributionIntentInput)
    (a : Contribution) (s : Db) : Prop where
  allowed : IntentAllowed actor input s s
  row : ∃ c, contributionByIdempotencyKey s input.idempotencyKey = some c ∧
    c = { a with status := c.status, externalReference := c.externalReference }

/-- No statement takes the key from its contribution. -/
theorem IntentStands.write (w : Write) (s : Db) (h : IntentStands actor input a s) :
    IntentStands actor input a (w.apply s) := by
  refine ⟨h.allowed.later (w.vaultsKept s), ?_⟩
  obtain ⟨c, hkey, hc⟩ := h.row
  cases w with
  | insertContribution row => exact ⟨c, Table.first_insert hkey row, hc⟩
  | settleContribution id status ref =>
    have hfirst := Table.first_modify s.contributions id (fun c => c.settle status ref)
      (fun _ hk => hk) (p := fun c => c.idempotencyKey = some input.idempotencyKey) fun _ => rfl
    refine ⟨if c.id = id then c.settle status ref else c, hfirst.trans (congrArg _ hkey), ?_⟩
    split
    · rw [hc]; rfl
    · exact hc
  | _ => exact ⟨c, hkey, hc⟩

/-- Nor does other code. -/
theorem IntentStands.elsewhere {s' : Db} (hstep : Elsewhere s s')
    (h : IntentStands actor input a s) : IntentStands actor input a s' := by
  refine ⟨h.allowed.later hstep.toVaultsKept, ?_⟩
  rw [contributionByIdempotencyKey, hstep.contributions]
  exact h.row

/-- Once a recording has been answered, its key stands for the answer. -/
theorem IntentStands.of_serve {text : String} (hparsed : Currency.parse text = .ok input.currency)
    (h : ((Request.record newId actor input).serve s).1 = .ok (.contribution a)) :
    IntentValid actor input ∧ ensureSameIntent a actor.userId input = .ok () ∧
      IntentStands actor input a ((Request.record newId actor input).serve s).2 := by
  rcases (recordContributionIntent_ends.map Response.contribution).serve s with
    ⟨l, hseen, ⟨r, hr, hstop⟩, hdb⟩ | ⟨l, b, hseen, ⟨a', rfl, hrecorded⟩, hok, hdb⟩
  · have hanswer : r = .ok a := by
      have hr' := hr.symm.trans h
      cases r with
      | error e => cases hr'
      | ok c => cases hr'; rfl
    have hstate : ((Request.record newId actor input).serve s).2 = s := hdb
    subst hanswer
    cases hstop with
    | existing hchecked ht hfound hsame =>
      obtain ⟨t₁, ht₁, t₂, ht₂, hallowed⟩ := hchecked.allowed
      rw [hseen t₁ ht₁, hseen t₂ ht₂] at hallowed
      rw [hseen _ ht] at hfound
      rw [hstate]
      exact ⟨hchecked.valid, hsame, hallowed, a, hfound, rfl⟩
  · have hanswer : a' = a := by
      have hok' := hok.symm.trans h
      cases hok'; rfl
    have hstate : ((Request.record newId actor input).serve s).2 = l.view s := hdb
    subst hanswer
    obtain ⟨t₁, ht₁, t₂, ht₂, hallowed⟩ := hrecorded.opened.allowed
    obtain ⟨log, -, -, hview⟩ := hrecorded.view
    rw [hseen t₁ ht₁, hseen t₂ ht₂] at hallowed
    have hallowed' : IntentAllowed actor input (l.view s) (l.view s) := by
      rw [hview]; exact hallowed
    rw [hstate]
    exact ⟨hrecorded.opened.valid, hrecorded.same hparsed, hallowed', a', hrecorded.found, rfl⟩

/-- A key that stands for a row answers a retry with it, and no other intent. -/
theorem IntentStands.answered (hvalid : IntentValid actor input)
    (hsame : ensureSameIntent a actor.userId input = .ok ()) (h : IntentStands actor input a s) :
    ∃ c, s.contributions.find a.id = some c ∧
      c = { a with status := c.status, externalReference := c.externalReference } ∧
      Answered (.record newId actor input) (.contribution c) s := by
  obtain ⟨hallowed, c, hkey, hc⟩ := h
  have hrow : c ∈ s.contributions.rows := List.mem_of_find?_eq_some hkey
  have hid : c.id = a.id := by rw [hc]
  have hsame' : ensureSameIntent c actor.userId input = .ok () := by
    rw [hc]; exact hsame
  refine ⟨c, hid ▸ Table.find_key hrow, hc, ?_, ?_⟩
  · intro q' hq'
    cases q' with
    | record newId' actor' input' =>
      obtain ⟨rfl, ref, rfl⟩ := hq'
      exact (@serve_record_found newId' actor' { input with externalReference := ref } s c
        hkey).1 hvalid hallowed hsame'
    | _ => exact hq'.elim
  · intro q' hq'
    cases q' with
    | record newId' actor' input' =>
      obtain ⟨hkey', hdiffers⟩ := hq'
      refine (serve_record_found (hkey' ▸ hkey)).2 fun hsame'' => ?_
      obtain ⟨h₁, h₂, h₃, h₄, h₅⟩ := ensureSameIntent_ok.mp hsame'
      obtain ⟨h₁', h₂', h₃', h₄', h₅'⟩ := ensureSameIntent_ok.mp hsame''
      rcases hdiffers with h | h | h | h | h
      · exact h (h₁'.symm.trans h₁)
      · exact h (h₂'.symm.trans h₂)
      · exact h (h₃'.symm.trans h₃)
      · exact h (h₄'.symm.trans h₄)
      · exact h (h₅'.symm.trans h₅)
    | _ => exact hq'.elim

end

/-! ## Payouts

  The lookup precedes every check but two, which depend on the request alone; so the row is all
  that has to stand. -/

section

variable {newId : Uuid} {actor : AuthenticatedUser} {input : CreatePayoutRequestInput}
  {l : Sess} {s : Db} {a p : PayoutRequest}

/-- The comparison of a retry: every field that identifies the request. -/
theorem samePayoutRequest_iff {actorUserId : Uuid} :
    samePayoutRequest p actorUserId input = true ↔ p.vaultId = input.vaultId ∧
      p.milestoneId = input.milestoneId ∧ p.schoolId = input.schoolId ∧
      p.requestedBy = actorUserId ∧ p.amount.amountMinor = input.amountMinor ∧
      p.amount.currency = input.currency := by
  simp only [samePayoutRequest, Bool.and_eq_true, decide_eq_true_eq, and_assoc]

/-- A new row is the payout that it was requested for, -/
theorem PayoutCreated.same {text : String} (h : PayoutCreated newId actor input l s a)
    (hparsed : Currency.parse text = .ok input.currency) :
    samePayoutRequest a actor.userId input = true := by
  obtain ⟨nonneg, amount, hstored, rfl⟩ := h.row
  obtain rfl : amount = ⟨input.amountMinor, input.currency, nonneg⟩ := eq_of_storedMoney hparsed hstored
  exact samePayoutRequest_iff.mpr ⟨rfl, rfl, rfl, rfl, rfl, rfl⟩

/-- and the one that its key stands for. -/
theorem PayoutCreated.found (h : PayoutCreated newId actor input l s a) :
    payoutByIdempotencyKey (l.view s) input.idempotencyKey = some a := by
  obtain ⟨nonneg, amount, hstored, rfl⟩ := h.row
  obtain ⟨log, -, -, hview⟩ := h.view
  rw [hview]
  exact Table.first_insert_new h.fresh h.keyFree (decide_eq_true rfl)

/-- A request under a key that has a row creates nothing: it is answered with the row or refused. -/
theorem serve_createPayout_found (hkey : payoutByIdempotencyKey s input.idempotencyKey = some p) :
    (PayoutValid actor input → samePayoutRequest p actor.userId input = true →
      (Request.createPayout newId actor input).serve s = (.ok (.payout p), s)) ∧
    (¬ samePayoutRequest p actor.userId input = true →
      ∃ e, (Request.createPayout newId actor input).serve s = (.error e, s)) := by
  rcases (createPayoutRequest_ends.map Response.payout).serve s with
    ⟨l, hseen, ⟨r, hr, hstop⟩, hdb⟩ | ⟨l, b, hseen, ⟨a, -, hcreated⟩, -⟩
  · have hrow : ∀ {t p'}, t ∈ l.seen →
        payoutByIdempotencyKey t input.idempotencyKey = some p' → p' = p := by
      intro t p' ht hp'
      rw [hseen t ht, hkey] at hp'
      exact (Option.some.inj hp').symm
    have hclosed : ¬ PayoutOpen actor input l := by
      intro hopen
      obtain ⟨t, ht, hnone⟩ := hopen.unread
      rw [hseen t ht, hkey] at hnone
      cases hnone
    cases hstop with
    | invalid h => exact ⟨fun hvalid => absurd hvalid h, fun _ => ⟨_, Prod.ext hr hdb⟩⟩
    | existing _ ht hfound hsame =>
      obtain rfl := hrow ht hfound
      exact ⟨fun _ _ => Prod.ext hr hdb, fun hdiffers => absurd hsame hdiffers⟩
    | different ht hfound hdiffers =>
      obtain rfl := hrow ht hfound
      exact ⟨fun _ hsame => absurd hsame hdiffers, fun _ => ⟨_, Prod.ext hr hdb⟩⟩
    | refused hunread =>
      obtain ⟨t, ht, hnone⟩ := hunread
      rw [hseen t ht, hkey] at hnone
      cases hnone
    | idTaken hopen => exact absurd hopen hclosed
    | keyTaken hopen => exact absurd hopen hclosed
    | noCurrency hopen => exact absurd hopen hclosed
  · obtain ⟨t, ht, hnone⟩ := hcreated.opened.unread
    rw [hseen t ht, hkey] at hnone
    cases hnone

/-- The key stands for the payout `a`. -/
def PayoutStands (input : CreatePayoutRequestInput) (a : PayoutRequest) (s : Db) : Prop :=
  ∃ p, payoutByIdempotencyKey s input.idempotencyKey = some p ∧
    p = { a with
      status := p.status, reviewNotes := p.reviewNotes,
      externalPayoutReference := p.externalPayoutReference, reviewedBy := p.reviewedBy }

/-- No statement takes the key from its payout. -/
theorem PayoutStands.write (w : Write) (s : Db) (h : PayoutStands input a s) :
    PayoutStands input a (w.apply s) := by
  obtain ⟨p, hkey, hp⟩ := h
  cases w with
  | insertPayout row => exact ⟨p, Table.first_insert hkey row, hp⟩
  | reviewPayout id status notes ref reviewer =>
    have hfirst := Table.first_modify s.payouts id (fun p => p.review status notes ref reviewer)
      (fun _ hk => hk) (p := fun p => p.idempotencyKey = some input.idempotencyKey) fun _ => rfl
    refine ⟨if p.id = id then p.review status notes ref reviewer else p,
      hfirst.trans (congrArg _ hkey), ?_⟩
    split
    · rw [hp]; rfl
    · exact hp
  | _ => exact ⟨p, hkey, hp⟩

/-- Nor does other code. -/
theorem PayoutStands.elsewhere {s' : Db} (hstep : Elsewhere s s') (h : PayoutStands input a s) :
    PayoutStands input a s' := by
  rw [PayoutStands, payoutByIdempotencyKey, hstep.payouts]
  exact h

/-- Once a request has been answered, its key stands for the answer. -/
theorem PayoutStands.of_serve {text : String} (hparsed : Currency.parse text = .ok input.currency)
    (h : ((Request.createPayout newId actor input).serve s).1 = .ok (.payout a)) :
    PayoutValid actor input ∧ samePayoutRequest a actor.userId input = true ∧
      PayoutStands input a ((Request.createPayout newId actor input).serve s).2 := by
  rcases (createPayoutRequest_ends.map Response.payout).serve s with
    ⟨l, hseen, ⟨r, hr, hstop⟩, hdb⟩ | ⟨l, b, hseen, ⟨a', rfl, hcreated⟩, hok, hdb⟩
  · have hanswer : r = .ok a := by
      have hr' := hr.symm.trans h
      cases r with
      | error e => cases hr'
      | ok p => cases hr'; rfl
    have hstate : ((Request.createPayout newId actor input).serve s).2 = s := hdb
    subst hanswer
    cases hstop with
    | existing hvalid ht hfound hsame =>
      rw [hseen _ ht] at hfound
      rw [hstate]
      exact ⟨hvalid, hsame, a, hfound, rfl⟩
  · have hanswer : a' = a := by
      have hok' := hok.symm.trans h
      cases hok'; rfl
    have hstate : ((Request.createPayout newId actor input).serve s).2 = l.view s := hdb
    subst hanswer
    rw [hstate]
    exact ⟨hcreated.opened.valid, hcreated.same hparsed, a', hcreated.found, rfl⟩

/-- As long as the key stands for the payout, a retry is answered with it. -/
theorem PayoutStands.answered (hvalid : PayoutValid actor input)
    (hsame : samePayoutRequest a actor.userId input = true) (h : PayoutStands input a s) :
    ∃ p, s.payouts.find a.id = some p ∧
      p = { a with
        status := p.status, reviewNotes := p.reviewNotes,
        externalPayoutReference := p.externalPayoutReference, reviewedBy := p.reviewedBy } ∧
      Answered (.createPayout newId actor input) (.payout p) s := by
  obtain ⟨p, hkey, hp⟩ := h
  have hrow : p ∈ s.payouts.rows := List.mem_of_find?_eq_some hkey
  have hid : p.id = a.id := by rw [hp]
  have hsame' : samePayoutRequest p actor.userId input = true := by
    rw [hp]; exact hsame
  refine ⟨p, hid ▸ Table.find_key hrow, hp, ?_, ?_⟩
  · intro q' hq'
    cases q' with
    | createPayout newId' actor' input' =>
      obtain ⟨rfl, rfl⟩ := hq'
      exact (serve_createPayout_found hkey).1 hvalid hsame'
    | _ => exact hq'.elim
  · intro q' hq'
    cases q' with
    | createPayout newId' actor' input' =>
      obtain ⟨hkey', hdiffers⟩ := hq'
      refine (serve_createPayout_found (hkey' ▸ hkey)).2 fun hsame'' => ?_
      obtain ⟨h₁, h₂, h₃, h₄, h₅, h₆⟩ := samePayoutRequest_iff.mp hsame'
      obtain ⟨h₁', h₂', h₃', h₄', h₅', h₆'⟩ := samePayoutRequest_iff.mp hsame''
      rcases hdiffers with h | h | h | h | h | h
      · exact h (h₁'.symm.trans h₁)
      · exact h (h₄'.symm.trans h₄)
      · exact h (h₅'.symm.trans h₅)
      · exact h (h₆'.symm.trans h₆)
      · exact h (h₂'.symm.trans h₂)
      · exact h (h₃'.symm.trans h₃)
    | _ => exact hq'.elim

end

/-! ## Every later point of every serial run

  Both services, and any number of retries: each is answered with the row as it is by then. -/

/-- **Retries are stable**: once a contribution has been recorded under a key, or a payout requested,
    the same request is answered with that row as it is now, and a request that uses the key for
    something else is refused; neither changes anything.

    `Later` is any further serial history, in which vaults, schools and milestones may have changed
    too.  The repeat may draw another id and, for a contribution, bring another external reference:
    neither is part of what is compared.  What may have changed in the row is listed: its status,
    and the columns that reviews and settlements fill in. -/
theorem retries_stable {s s' : Db} {newId : Uuid} {actor : AuthenticatedUser} {text : String} :
    (∀ (input : RecordContributionIntentInput) a, Currency.parse text = .ok input.currency →
      ((Request.record newId actor input).serve s).1 = .ok (.contribution a) →
      Later ((Request.record newId actor input).serve s).2 s' →
      ∃ c, s'.contributions.find a.id = some c ∧
        c = { a with status := c.status, externalReference := c.externalReference } ∧
        Answered (.record newId actor input) (.contribution c) s') ∧
    (∀ (input : CreatePayoutRequestInput) a, Currency.parse text = .ok input.currency →
      ((Request.createPayout newId actor input).serve s).1 = .ok (.payout a) →
      Later ((Request.createPayout newId actor input).serve s).2 s' →
      ∃ p, s'.payouts.find a.id = some p ∧
        p = { a with
          status := p.status, reviewNotes := p.reviewNotes,
          externalPayoutReference := p.externalPayoutReference, reviewedBy := p.reviewedBy } ∧
        Answered (.createPayout newId actor input) (.payout p) s') := by
  constructor
  · intro input a hparsed hanswer hlater
    obtain ⟨hvalid, hsame, hstands⟩ := IntentStands.of_serve hparsed hanswer
    have hstands' : IntentStands actor input a s' :=
      hlater.keeps IntentStands.write (fun _ _ => IntentStands.elsewhere) hstands
    exact hstands'.answered hvalid hsame
  · intro input a hparsed hanswer hlater
    obtain ⟨hvalid, hsame, hstands⟩ := PayoutStands.of_serve hparsed hanswer
    have hstands' : PayoutStands input a s' :=
      hlater.keeps PayoutStands.write (fun _ _ => PayoutStands.elsewhere) hstands
    exact hstands'.answered hvalid hsame

section

open Scenario

/-- The contribution is recorded and confirmed, a payout is requested and rejected, the contribution
    is reversed; then the milestone is cancelled and the school loses its verification. -/
def Scenario.muchLater : Db :=
  { serveAll family [record 1 100, settle .confirm 1, payout 2 60, review .moveToReview 2,
      review .reject 2, settle .reverse 1] with
    milestones := row ⟨101, 100, .cancelled⟩
    schools := row ⟨102, .rejected, none⟩ }

/-- Both retries are answered with what has become of the row. -/
theorem retries_stable_muchLater :
    (∃ c, muchLater.contributions.find 1 = some c ∧ c.status = .reversed ∧
      Answered (record 1 100) (.contribution c) muchLater) ∧
    (∃ p, muchLater.payouts.find 2 = some p ∧ p.status = .rejected ∧
      Answered (payout 2 60) (.payout p) muchLater) := by
  have hlater : ∀ qs qs', qs ++ qs' = [record 1 100, settle .confirm 1, payout 2 60,
      review .moveToReview 2, review .reject 2, settle .reverse 1] →
      Later (serveAll family qs) muchLater := by
    intro qs qs' hqs
    refine .tail (Later.serveAll _ qs') (.inr ?_)
    rw [← serveAll_append, hqs]
    exact { vaults := fun id v hv => ⟨v, hv, rfl, rfl⟩, contributors := fun _ hx => hx,
            contributions := rfl, payouts := rfl }
  constructor
  · obtain ⟨a, ha, hid⟩ : ∃ a, ((record 1 100).serve family).1 = .ok (.contribution a) ∧ a.id = 1 :=
      ⟨_, rfl, rfl⟩
    obtain ⟨c, hc, -, hanswered⟩ := retries_stable.1 ⟨100, 100, usd, .fiat, none, "1"⟩ a
      (show Currency.parse "USD" = .ok usd from rfl) ha (hlater [record 1 100] _ rfl)
    rw [hid] at hc
    have hstatus : (muchLater.contributions.find 1).map (·.status) = some .reversed := by decide
    rw [hc] at hstatus
    exact ⟨c, hc, Option.some.inj hstatus, hanswered⟩
  · obtain ⟨a, ha, hid⟩ : ∃ a, ((payout 2 60).serve (serveAll family
        [record 1 100, settle .confirm 1])).1 = .ok (.payout a) ∧ a.id = 2 := ⟨_, rfl, rfl⟩
    obtain ⟨p, hp, -, hanswered⟩ := retries_stable.2 ⟨100, 101, 102, 60, usd, "2"⟩ a
      (show Currency.parse "USD" = .ok usd from rfl) ha
      (hlater [record 1 100, settle .confirm 1, payout 2 60] _ rfl)
    rw [hid] at hp
    have hstatus : (muchLater.payouts.find 2).map (·.status) = some .rejected := by decide
    rw [hp] at hstatus
    exact ⟨p, hp, Option.some.inj hstatus, hanswered⟩

end

end EduStell
