/-
  Duplicates of one creation, in any interleaving: one actor sends the same intent under the same
  key, any number of times at once.

  The key is read before the transaction that inserts the row, so what keeps a second row out is the
  unique index alone.  There are then two ways for a duplicate to end: it READ the key after the
  first commit and is answered with the row, or it read the key before and meets the index entry,
  and `map_err` makes a conflict of that (`duplicates_conflict`).  Nothing reads the row again.

  `CreatesFresh` excludes the second way and no other; while it holds, the database is the one of the
  start or the one with exactly the new row and its audit row (`Created`), so the invariant of these
  runs says the whole state.

  The plan: the ends of a creation in detail (`Creates`, `CreateStops`); what a duplicate can meet
  (`CreatedOnce`); that it commits only in the state of the start (`duplicate_creates`) and stops
  only with the row (`duplicate_stops`); and the contract that carries both to every run.
-/
import EduStell.Savings.Retries

namespace EduStell

open Txn Program Persistence

/-! ## What is created

  `Creatable` is the condition on the start, `Created` the whole effect: one row, one audit row,
  and every other table as it was. -/

/-- The request is valid in the state `s`, and its key is free.  Its currency has been parsed. -/
def Creatable : Request → Db → Prop
  | .record _ actor input, s => Currency.parse input.currency.asStr = .ok input.currency ∧
    IntentValid actor input ∧ IntentAllowed actor input s s ∧
    contributionByIdempotencyKey s input.idempotencyKey = none
  | .createPayout _ actor input, s => Currency.parse input.currency.asStr = .ok input.currency ∧
    PayoutValid actor input ∧ PayoutAllowed actor input s s s ∧
    payoutByIdempotencyKey s input.idempotencyKey = none
  | _, _ => False

/-- One row has been created of what `q` asks for, and one audit row about it: nothing else is
    different from `s₀`. -/
def Created : Request → Db → Response → Db → Prop
  | .record _ actor input, s₀, .contribution a, s =>
    ensureSameIntent a actor.userId input = .ok () ∧ a.status = .pending ∧
    a.idempotencyKey = some input.idempotencyKey ∧ s₀.contributions.find a.id = none ∧
    ∃ log : AuditLog, log.entityType = "contribution" ∧ log.entityId = some a.id ∧
      s = { s₀ with contributions := s₀.contributions.insert a, audit := s₀.audit ++ [log] }
  | .createPayout _ actor input, s₀, .payout a, s =>
    samePayoutRequest a actor.userId input = true ∧ a.status = .pending ∧
    a.idempotencyKey = some input.idempotencyKey ∧ s₀.payouts.find a.id = none ∧
    ∃ log : AuditLog, log.entityType = "payout_request" ∧ log.entityId = some a.id ∧
      s = { s₀ with payouts := s₀.payouts.insert a, audit := s₀.audit ++ [log] }
  | _, _, _, _ => False

/-- While a creation holds the index entries of its new row, neither of them is taken. -/
def CreatesFresh : Request → Sess → Db → Prop
  | .record newId _ input, l, s =>
    (.contribution newId ∈ l.locks → s.contributions.find newId = none) ∧
    (.contributionKey input.idempotencyKey ∈ l.locks →
      s.contributions.any (fun c => c.idempotencyKey = some input.idempotencyKey) = false)
  | .createPayout newId _ input, l, s =>
    (.payout newId ∈ l.locks → s.payouts.find newId = none) ∧
    (.payoutKey input.idempotencyKey ∈ l.locks →
      s.payouts.any (fun p => p.idempotencyKey = some input.idempotencyKey) = false)
  | _, _, _ => True

/-! ## The ends of a creation

  For the creations, what commits and what stops is taken from `EduStell.Spec.Creation` in detail.
  No other request is admitted in these runs. -/

/-- What a creation commits; of the other requests nothing is said. -/
def Request.Creates : Request → Sess → Db → Response → Prop
  | .record newId actor input, l, s, b =>
    ∃ a, b = .contribution a ∧ IntentRecorded newId actor input l s a
  | .createPayout newId actor input, l, s, b =>
    ∃ a, b = .payout a ∧ PayoutCreated newId actor input l s a
  | _, _, _, _ => True

/-- How a creation ends that commits nothing. -/
def Request.CreateStops : Request → Sess → Db → Except ServiceError Response → Prop
  | .record newId actor input, l, s, r =>
    ∃ r', r = r'.map Response.contribution ∧ RecordStopped newId actor input l s r'
  | .createPayout newId actor input, l, s, r =>
    ∃ r', r = r'.map Response.payout ∧ CreateStopped newId actor input l s r'
  | _, _, _, _ => True

/-- Every request ends in one of these ways. -/
theorem Request.create_outcomes (q : Request) : Outcomes q.program q.Creates q.CreateStops := by
  cases q with
  | record newId actor input => exact recordContributionIntent_ends.map _
  | createPayout newId actor input => exact createPayoutRequest_ends.map _
  | _ => exact (Request.outcomes _).mono (fun _ _ _ _ => trivial) fun _ _ _ _ => trivial

/-! ## Duplicates

  Along such a run the database is in one of two states, and a duplicate can tell them apart by
  the key alone. -/

/-- What the database may be: nothing has been created, or one row. -/
def CreatedOnce (q : Request) (s₀ s : Db) : Prop := s = s₀ ∨ ∃ b, Created q s₀ b s

section

variable {q : Request} {s₀ s : Db} {b b' : Response}

/-- A creation adds one audit row. -/
theorem Created.audit (h : Created q s₀ b s) : ∃ log, s.audit = s₀.audit ++ [log] := by
  cases q with
  | record newId actor input =>
    cases b with
    | contribution a =>
      obtain ⟨-, -, -, -, log, -, -, rfl⟩ := h
      exact ⟨log, rfl⟩
    | _ => exact h.elim
  | createPayout newId actor input =>
    cases b with
    | payout a =>
      obtain ⟨-, -, -, -, log, -, -, rfl⟩ := h
      exact ⟨log, rfl⟩
    | _ => exact h.elim
  | _ => exact h.elim

/-- What has been created was not there. -/
theorem Created.ne (h : Created q s₀ b s) : s ≠ s₀ := by
  rintro rfl
  obtain ⟨log, haudit⟩ := h.audit
  have hlength : s.audit.length = (s.audit ++ [log]).length := congrArg List.length haudit
  simp at hlength

/-- What has been created stays, as long as other states than that of the start do. -/
theorem Created.stays {s' : Db} (h : Created q s₀ b s) (hlater : s' = s ∨ s = s₀) :
    Created q s₀ b s' := by
  rcases hlater with rfl | hstart
  · exact h
  · exact absurd hstart h.ne

end

/-! ### Contributions

  The vault and its contributors are as at the start, so a duplicate passes the checks that the
  first one passed, whenever it reads them. -/

section

variable {newId newId' : Uuid} {actor : AuthenticatedUser} {input : RecordContributionIntentInput}
  {ref : Option String} {s₀ s t : Db} {a c : Contribution} {l : Sess}

/-- The new row is what the key stands for. -/
theorem Created.contribution_found (hfree : contributionByIdempotencyKey s₀ input.idempotencyKey = none)
    (h : Created (.record newId actor input) s₀ (.contribution a) s) :
    contributionByIdempotencyKey s input.idempotencyKey = some a := by
  obtain ⟨-, -, hkey, hfresh, log, -, -, rfl⟩ := h
  exact Table.first_insert_new hfresh (Table.first_none.mp hfree) (decide_eq_true hkey)

/-- A duplicate meets no rows but the new one, and the vault and the contributors of the start. -/
theorem CreatedOnce.record (hfree : contributionByIdempotencyKey s₀ input.idempotencyKey = none)
    (h : CreatedOnce (.record newId actor input) s₀ s) :
    s.vaults = s₀.vaults ∧ s.vaultContributors = s₀.vaultContributors ∧
    ((s = s₀ ∧ contributionByIdempotencyKey s input.idempotencyKey = none) ∨
      ∃ a, Created (.record newId actor input) s₀ (.contribution a) s ∧
        contributionByIdempotencyKey s input.idempotencyKey = some a) := by
  rcases h with rfl | ⟨b, h⟩
  · exact ⟨rfl, rfl, .inl ⟨rfl, hfree⟩⟩
  · cases b with
    | contribution a =>
      have hfound := h.contribution_found hfree
      have hcreated := h
      obtain ⟨-, -, -, -, log, -, -, hs⟩ := h
      exact ⟨by rw [hs], by rw [hs], .inr ⟨a, hcreated, hfound⟩⟩
    | _ => exact h.elim

/-- A duplicate that commits is the first. -/
theorem record_creates (hq : Creatable (.record newId actor input) s₀)
    (hs : CreatedOnce (.record newId actor input) s₀ s)
    (h : IntentRecorded newId' actor { input with externalReference := ref } l s a) :
    s = s₀ ∧ Created (.record newId actor input) s₀ (.contribution a) (l.view s) := by
  obtain ⟨hparsed, -, -, hfree⟩ := hq
  obtain ⟨-, -, ⟨rfl, -⟩ | ⟨a', -, hfound⟩⟩ := hs.record hfree
  · have hsame : ensureSameIntent a actor.userId input = .ok () := h.same hparsed
    obtain ⟨nonneg, amount, -, rfl⟩ := h.row
    exact ⟨rfl, hsame, rfl, rfl, h.fresh, h.view⟩
  · have hnone := Table.first_none.mpr h.keyFree
    cases hnone.symm.trans hfound

/-- A duplicate that does not commit is answered with the row, unless an index stops it. -/
theorem record_stops (hq : Creatable (.record newId actor input) s₀)
    (hseen : ∀ t ∈ l.seen, CreatedOnce (.record newId actor input) s₀ t ∧ (s = t ∨ t = s₀))
    {r : Except ServiceError Contribution}
    (h : RecordStopped newId' actor { input with externalReference := ref } l s r)
    (hfresh : CreatesFresh (.record newId' actor { input with externalReference := ref }) l s) :
    ∃ a, r = .ok a ∧ Created (.record newId actor input) s₀ (.contribution a) s := by
  obtain ⟨hparsed, hvalid, hallowed, hfree⟩ := hq
  -- what is found under the key is the new row, and it is there to stay
  have hrow : ∀ {t c}, t ∈ l.seen → contributionByIdempotencyKey t input.idempotencyKey = some c →
      Created (.record newId actor input) s₀ (.contribution c) s := by
    intro t c ht hc
    obtain ⟨honce, hlater⟩ := hseen t ht
    obtain ⟨-, -, ⟨-, hnone⟩ | ⟨a, hcreated, hfound⟩⟩ := honce.record hfree
    · cases hnone.symm.trans hc
    · obtain rfl := Option.some.inj (hfound.symm.trans hc)
      exact hcreated.stays hlater
  cases h with
  | invalid hinvalid => exact absurd hvalid hinvalid
  | refused h₁ h₂ hrefused =>
    obtain ⟨vault, hvault, haccess, hcurrency⟩ := hallowed
    refine absurd ⟨vault, ?_, ?_, hcurrency⟩ hrefused
    · rw [((hseen _ h₁).1.record hfree).1]; exact hvault
    · rw [((hseen _ h₂).1.record hfree).2.1]; exact haccess
  | existing _ ht hfound _ => exact ⟨_, rfl, hrow ht hfound⟩
  | different ht hfound hdiffers =>
    obtain ⟨hsame, -⟩ := hrow ht hfound
    cases hsame.symm.trans hdiffers
  | idTaken _ hheld htaken => exact absurd (hfresh.1 hheld) htaken
  | keyTaken _ hheld htaken => cases (hfresh.2 hheld).symm.trans htaken
  | noCurrency _ hunread => cases (storedMoney_of_parsed hparsed).symm.trans hunread

end

/-! ### Payouts

  The key is read before any other check, so a duplicate that finds it needs no other row. -/

section

variable {newId newId' : Uuid} {actor : AuthenticatedUser} {input : CreatePayoutRequestInput}
  {s₀ s : Db} {a : PayoutRequest} {l : Sess}

/-- The key stands for the new payout. -/
theorem Created.payout_found (hfree : payoutByIdempotencyKey s₀ input.idempotencyKey = none)
    (h : Created (.createPayout newId actor input) s₀ (.payout a) s) :
    payoutByIdempotencyKey s input.idempotencyKey = some a := by
  obtain ⟨-, -, hkey, hfresh, log, -, -, rfl⟩ := h
  exact Table.first_insert_new hfresh (Table.first_none.mp hfree) (decide_eq_true hkey)

/-- A duplicate meets no rows but the new one, and the rows it checks as they were at the start. -/
theorem CreatedOnce.createPayout
    (hfree : payoutByIdempotencyKey s₀ input.idempotencyKey = none)
    (h : CreatedOnce (.createPayout newId actor input) s₀ s) :
    s.vaults = s₀.vaults ∧ s.milestones = s₀.milestones ∧ s.schools = s₀.schools ∧
    ((s = s₀ ∧ payoutByIdempotencyKey s input.idempotencyKey = none) ∨
      ∃ a, Created (.createPayout newId actor input) s₀ (.payout a) s ∧
        payoutByIdempotencyKey s input.idempotencyKey = some a) := by
  rcases h with rfl | ⟨b, h⟩
  · exact ⟨rfl, rfl, rfl, .inl ⟨rfl, hfree⟩⟩
  · cases b with
    | payout a =>
      have hfound := h.payout_found hfree
      have hcreated := h
      obtain ⟨-, -, -, -, log, -, -, hs⟩ := h
      exact ⟨by rw [hs], by rw [hs], by rw [hs], .inr ⟨a, hcreated, hfound⟩⟩
    | _ => exact h.elim

/-- A duplicate that creates has found nothing created. -/
theorem createPayout_creates (hq : Creatable (.createPayout newId actor input) s₀)
    (hs : CreatedOnce (.createPayout newId actor input) s₀ s)
    (h : PayoutCreated newId' actor input l s a) :
    s = s₀ ∧ Created (.createPayout newId actor input) s₀ (.payout a) (l.view s) := by
  obtain ⟨hparsed, -, -, hfree⟩ := hq
  obtain ⟨-, -, -, ⟨rfl, -⟩ | ⟨a', -, hfound⟩⟩ := hs.createPayout hfree
  · have hsame : samePayoutRequest a actor.userId input = true := h.same hparsed
    obtain ⟨nonneg, amount, -, rfl⟩ := h.row
    exact ⟨rfl, hsame, rfl, rfl, h.fresh, h.view⟩
  · have hnone := Table.first_none.mpr h.keyFree
    cases hnone.symm.trans hfound

/-- A duplicate that creates nothing is answered with the row that is there. -/
theorem createPayout_stops (hq : Creatable (.createPayout newId actor input) s₀)
    (hseen : ∀ t ∈ l.seen, CreatedOnce (.createPayout newId actor input) s₀ t ∧ (s = t ∨ t = s₀))
    {r : Except ServiceError PayoutRequest} (h : CreateStopped newId' actor input l s r)
    (hfresh : CreatesFresh (.createPayout newId' actor input) l s) :
    ∃ a, r = .ok a ∧ Created (.createPayout newId actor input) s₀ (.payout a) s := by
  obtain ⟨hparsed, hvalid, hallowed, hfree⟩ := hq
  have hrow : ∀ {t p}, t ∈ l.seen → payoutByIdempotencyKey t input.idempotencyKey = some p →
      Created (.createPayout newId actor input) s₀ (.payout p) s := by
    intro t p ht hp
    obtain ⟨honce, hlater⟩ := hseen t ht
    obtain ⟨-, -, -, ⟨-, hnone⟩ | ⟨a, hcreated, hfound⟩⟩ := honce.createPayout hfree
    · cases hnone.symm.trans hp
    · obtain rfl := Option.some.inj (hfound.symm.trans hp)
      exact hcreated.stays hlater
  cases h with
  | invalid hinvalid => exact absurd hvalid hinvalid
  | existing _ ht hfound _ => exact ⟨_, rfl, hrow ht hfound⟩
  | different ht hfound hdiffers =>
    obtain ⟨hsame, -⟩ := hrow ht hfound
    exact absurd hsame hdiffers
  | refused _ h₁ h₂ h₃ hrefused =>
    obtain ⟨vault, milestone, school, hvault, hmilestone, hschool, hchecks⟩ := hallowed
    refine absurd ⟨vault, milestone, school, ?_, ?_, ?_, hchecks⟩ hrefused
    · rw [((hseen _ h₁).1.createPayout hfree).1]; exact hvault
    · rw [((hseen _ h₂).1.createPayout hfree).2.1]; exact hmilestone
    · rw [((hseen _ h₃).1.createPayout hfree).2.2.1]; exact hschool
  | idTaken _ hheld htaken => exact absurd (hfresh.1 hheld) htaken
  | keyTaken _ hheld htaken => cases (hfresh.2 hheld).symm.trans htaken
  | noCurrency _ hunread => cases (storedMoney_of_parsed hparsed).symm.trans hunread

end

/-! ## Every run of duplicates

  The contract for these runs, with `CreatesFresh` as its condition: it is asked where a creation
  holds its two index entries, and nowhere else. -/

section

variable {q q' : Request} {s₀ s : Db} {b b' : Response} {l : Sess}

/-- There is one row to be answered with. -/
theorem Created.unique (hq : Creatable q s₀) (h : Created q s₀ b s) (h' : Created q s₀ b' s) :
    b' = b := by
  cases q with
  | record newId actor input =>
    cases b with
    | contribution a =>
      cases b' with
      | contribution a' =>
        have hfound := h.contribution_found hq.2.2.2
        rw [Option.some.inj (hfound.symm.trans (h'.contribution_found hq.2.2.2))]
      | _ => exact h'.elim
    | _ => exact h.elim
  | createPayout newId actor input =>
    cases b with
    | payout a =>
      cases b' with
      | payout a' =>
        have hfound := h.payout_found hq.2.2.2
        rw [Option.some.inj (hfound.symm.trans (h'.payout_found hq.2.2.2))]
      | _ => exact h'.elim
    | _ => exact h.elim
  | _ => exact hq.elim

/-- A duplicate commits only what creates the row, in the state of the start. -/
theorem duplicate_creates (hq : Creatable q s₀) (hq' : Retries q q') (hs : CreatedOnce q s₀ s)
    (h : q'.Creates l s b) : s = s₀ ∧ Created q s₀ b (l.view s) := by
  cases q with
  | record newId actor input =>
    cases q' with
    | record newId' actor' input' =>
      obtain ⟨rfl, ref, rfl⟩ := hq'
      obtain ⟨a, rfl, h⟩ := h
      exact record_creates hq hs h
    | _ => exact hq'.elim
  | createPayout newId actor input =>
    cases q' with
    | createPayout newId' actor' input' =>
      obtain ⟨rfl, rfl⟩ := hq'
      obtain ⟨a, rfl, h⟩ := h
      exact createPayout_creates hq hs h
    | _ => exact hq'.elim
  | _ => exact hq.elim

/-- A duplicate that creates nothing has found the row. -/
theorem duplicate_stops (hq : Creatable q s₀) (hq' : Retries q q')
    (hseen : ∀ t ∈ l.seen, CreatedOnce q s₀ t ∧ (s = t ∨ t = s₀)) {r : Except ServiceError Response}
    (h : q'.CreateStops l s r) (hfresh : CreatesFresh q' l s) : ∃ b, r = .ok b ∧ Created q s₀ b s := by
  cases q with
  | record newId actor input =>
    cases q' with
    | record newId' actor' input' =>
      obtain ⟨rfl, ref, rfl⟩ := hq'
      obtain ⟨r, rfl, h⟩ := h
      obtain ⟨a, rfl, hcreated⟩ := record_stops hq hseen h hfresh
      exact ⟨_, rfl, hcreated⟩
    | _ => exact hq'.elim
  | createPayout newId actor input =>
    cases q' with
    | createPayout newId' actor' input' =>
      obtain ⟨rfl, rfl⟩ := hq'
      obtain ⟨r, rfl, h⟩ := h
      obtain ⟨a, rfl, hcreated⟩ := createPayout_stops hq hseen h hfresh
      exact ⟨_, rfl, hcreated⟩
    | _ => exact hq'.elim
  | _ => exact hq.elim

/-- Requests that repeat one creation, none of which finds an index entry of its new row taken. -/
def duplicateContract (hq : Creatable q s₀) :
    Contract Request.program Request.Creates Request.CreateStops where
  outcomes := Request.create_outcomes
  inv := CreatedOnce q s₀
  rely s s' := s' = s ∨ s = s₀
  arrivals := Retries q
  cond := CreatesFresh
  post _ r _ s := ∃ b, r = .ok b ∧ Created q s₀ b s
  refl _ := .inl rfl
  trans {s t u} hst htu := by
    rcases hst with rfl | rfl
    · exact htu
    · exact .inr rfl
  keep hq' hs _ h _ := by
    obtain ⟨hstart, hcreated⟩ := duplicate_creates hq hq' hs h
    exact ⟨.inr ⟨_, hcreated⟩, .inr hstart⟩
  post_stable hrely hpost := by
    obtain ⟨b, rfl, hcreated⟩ := hpost
    exact ⟨b, rfl, hcreated.stays hrely⟩
  post_ended hpost := hpost
  postN hq' _ hseen h hfresh := duplicate_stops hq hq' hseen h hfresh
  postE hq' hs _ h _ := ⟨_, rfl, (duplicate_creates hq hq' hs h).2⟩

/-- **Duplicates create one row**, in every run in which none of them finds an index entry of its
    new row taken: nothing has been created and nobody answered, or one row and one audit row have
    been created and everyone answered so far got that row.

    The alternative is about one moment of the run, so it covers runs in which some of the
    duplicates are still under way.  A duplicate that finds the entry of its key taken when it
    inserts is answered with a conflict instead of the row. -/
theorem duplicates_created_once (hq : Creatable q s₀) {es : List Happening}
    (h : System.Meets Request.program (System.allows (Retries q) CreatesFresh)
      (System.start s₀) es) :
    ((Sys.after s₀ es).db = s₀ ∧ ∀ i q' r l, (Sys.after s₀ es).slots i ≠ .finished q' r l) ∨
    ∃ b, Created q s₀ b (Sys.after s₀ es).db ∧
      ∀ i q' r l, (Sys.after s₀ es).slots i = .finished q' r l → r = .ok b := by
  have hsound := (duplicateContract hq).sound (.inl rfl) h
  rcases hsound.inv with hstart | ⟨b, hcreated⟩
  · refine .inl ⟨hstart, fun i q' r l hslot => ?_⟩
    obtain ⟨b, -, hcreated⟩ := hsound.finished i q' r l hslot
    exact hcreated.ne hstart
  · refine .inr ⟨b, hcreated, fun i q' r l hslot => ?_⟩
    obtain ⟨b', rfl, hcreated'⟩ := hsound.finished i q' r l hslot
    rw [hcreated.unique hq hcreated']

end

/-! ## The race for the key

  The two schedules: both duplicates read the key before either inserts, and one is answered with
  a conflict; or the second one reads it later. -/

/-- Whether a request repeats another one can be decided. -/
instance (q q' : Request) : Decidable (Retries q q') :=
  match q with
  | .record _ actor input =>
    match q' with
    | .record _ actor' input' => decidable_of_iff
        (actor' = actor ∧ input' = { input with externalReference := input'.externalReference })
        ⟨fun h => ⟨h.1, _, h.2⟩, fun ⟨h, ref, h'⟩ => ⟨h, by rw [h']⟩⟩
    | .createPayout .. | .settle .. | .review .. | .verifySchool .. | .createPool .. | .fundPool ..
    | .createApplication .. | .approve .. | .reject .. | .disburse .. | .revoke .. => .isFalse id
  | .createPayout _ actor input =>
    match q' with
    | .createPayout _ actor' input' => inferInstanceAs (Decidable (actor' = actor ∧ input' = input))
    | .record .. | .settle .. | .review .. | .verifySchool .. | .createPool .. | .fundPool ..
    | .createApplication .. | .approve .. | .reject .. | .disburse .. | .revoke .. => .isFalse id
  | .settle .. | .review .. | .verifySchool .. | .createPool .. | .fundPool ..
  | .createApplication .. | .approve .. | .reject .. | .disburse .. | .revoke .. => .isFalse id

/-- Whether a creation meets the condition can be decided. -/
instance (q : Request) (l : Sess) (s : Db) : Decidable (CreatesFresh q l s) :=
  match q with
  | .record .. | .createPayout .. => inferInstanceAs (Decidable (_ ∧ _))
  | .settle .. | .review .. | .verifySchool .. | .createPool .. | .fundPool ..
  | .createApplication .. | .approve .. | .reject .. | .disburse .. | .revoke .. => .isTrue trivial

section

open Scenario

/-- Slots `0` and `1` both read, then each runs its transaction. -/
def Scenario.race (q q' : Request) (reads : Nat) : List Happening :=
  [.call 0 q, .call 1 q'] ++ List.replicate reads (.step 0) ++ List.replicate reads (.step 1) ++
  List.replicate 7 (.step 0) ++ List.replicate 4 (.step 1)

/-- The contribution, sent again. -/
def Scenario.recordAgain : Request := .record 3 parent ⟨100, 100, usd, .fiat, none, "1"⟩

/-- The payout, sent again. -/
def Scenario.payoutAgain : Request := .createPayout 3 parent ⟨100, 101, 102, 60, usd, "2"⟩

/-- A contribution of 100, confirmed. -/
def Scenario.saved : Db := serveAll family [record 1 100, settle .confirm 1]

/-- The contribution can be recorded. -/
theorem Scenario.record_creatable : Creatable (record 1 100) family :=
  ⟨rfl, ⟨.inl rfl, by decide⟩, ⟨vault, rfl, rfl, rfl⟩, rfl⟩

/-- The payout can be requested. -/
theorem Scenario.payout_creatable : Creatable (payout 2 60) saved :=
  ⟨rfl, ⟨rfl, by decide⟩, ⟨_, _, _, rfl, rfl, rfl, rfl, rfl, rfl, rfl, rfl, by decide⟩, rfl⟩

/-- A duplicate that has read the key too early is answered with a conflict: the contribution is sent
    twice, the payout is sent twice. -/
theorem duplicates_conflict :
    (Creatable (record 1 100) family ∧
      System.Meets Request.program (System.allows (Retries (record 1 100)) fun _ _ _ => True)
        (System.start family) (race (record 1 100) recordAgain 3) ∧
      ∃ message l, (Sys.after family (race (record 1 100) recordAgain 3)).slots 1 =
        .finished recordAgain (.error (.conflict message)) l) ∧
    (Creatable (payout 2 60) saved ∧
      System.Meets Request.program (System.allows (Retries (payout 2 60)) fun _ _ _ => True)
        (System.start saved) (race (payout 2 60) payoutAgain 4) ∧
      ∃ message l, (Sys.after saved (race (payout 2 60) payoutAgain 4)).slots 1 =
        .finished payoutAgain (.error (.conflict message)) l) :=
  ⟨⟨record_creatable, by decide, _, _, rfl⟩, payout_creatable, by decide, _, _, rfl⟩

/-- The duplicate comes while the first is under way, but reads the key after its commit. -/
def Scenario.inTurn (q q' : Request) (n : Nat) : List Happening :=
  [.call 0 q, .call 1 q'] ++ List.replicate n (.step 0) ++ List.replicate 6 (.step 1)

/-- Then both are answered with the one row. -/
theorem duplicates_created_once_in_turn :
    (∃ b, Created (record 1 100) family b (Sys.after family (inTurn (record 1 100) recordAgain 9)).db ∧
      ∀ i q' r l, (Sys.after family (inTurn (record 1 100) recordAgain 9)).slots i =
        .finished q' r l → r = .ok b) ∧
    (∃ b, Created (payout 2 60) saved b (Sys.after saved (inTurn (payout 2 60) payoutAgain 10)).db ∧
      ∀ i q' r l, (Sys.after saved (inTurn (payout 2 60) payoutAgain 10)).slots i =
        .finished q' r l → r = .ok b) := by
  constructor
  · refine (duplicates_created_once record_creatable (by decide)).resolve_left fun h => ?_
    exact h.2 1 recordAgain _ _ rfl
  · refine (duplicates_created_once payout_creatable (by decide)).resolve_left fun h => ?_
    exact h.2 1 payoutAgain _ _ rfl

end

end EduStell
