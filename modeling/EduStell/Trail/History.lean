/-
  The status history of a contribution or a payout, told by its audit rows alone.

  A creation writes a row with the status "pending", a settlement or a review one with the status it
  found and the status it leaves; `rebuild` replays such rows and fails where one does not take up
  what the one before has left.  `Request.tells` is the crux: a request served alone leaves the status
  and the rows of an entity alone, or changes both, and in step.

  Three definitions carry the argument: `Chain`, which rows are to be; `rebuild`, which computes
  the history from rows; and `Told`, what one step of a run does to status and rows.  The
  induction over a run needs `Told` only.
-/
import EduStell.Savings.StatusEdges
import EduStell.Trail.Rows

namespace EduStell

open Txn

/-! ## What rows say

  A row about an entity says which status it found and which it left, both as text.  These texts
  are under keys that the redaction leaves alone, so the stored row still says it. -/

/-- `Value::as_str` -/
def Value.asText : Value → Option String
  | .string text => some text
  | _ => none

/-- The text that an object holds under a key. -/
def Value.text? (v : Value) (key : String) : Option String :=
  match v with
  | .object fields => fields.findSome? fun field => if field.1 = key then field.2.asText else none
  | _ => none

/-- The redaction keeps a text. -/
theorem Value.asText_sanitize (v : Value) : (sanitizeJsonValue v).asText = v.asText := by
  cases v <;> rfl

/-- The redaction keeps the texts under keys that are no secret. -/
theorem Value.text?_sanitize {key : String} (h : isSensitiveKey key = false) (v : Value) :
    (sanitizeJsonValue v).text? key = v.text? key := by
  cases v with
  | object fields =>
    show (sanitizeFields fields).findSome? _ = _
    rw [sanitizeFields_eq, List.findSome?_map]
    refine congrArg (fun f => fields.findSome? f) (funext fun (key', value) => ?_)
    by_cases hkey : key' = key
    · subst hkey
      simp [sanitizeField, h, asText_sanitize]
    · simp [sanitizeField, hkey]
  | _ => rfl

/-- The rows about an entity, in commit order (`list_by_entity`). -/
def trail (entityType : String) (id : Uuid) (s : Db) : List AuditLog :=
  s.audit.filter fun log => log.entityType = entityType ∧ log.entityId = some id

/-- The action and the status of the row that begins an entity. -/
def AuditLog.Begins (creation : String) (log : AuditLog) : Prop :=
  log.action = creation ∧ log.metadata.text? "status" = some "pending"

/-- Whether a row begins a history can be decided. -/
instance (creation : String) (log : AuditLog) : Decidable (log.Begins creation) :=
  inferInstanceAs (Decidable (_ ∧ _))

/-- Rows that begin with a creation, and each of which goes on from the status before it. -/
inductive Chain (creation : String) : List AuditLog → String → Prop
  | created {log : AuditLog} (begins : log.Begins creation) : Chain creation [log] "pending"
  | changed {rows : List AuditLog} {log : AuditLog} {last next : String}
    (before : Chain creation rows last)
    (fromStatus : log.metadata.text? "from_status" = some last)
    (toStatus : log.metadata.text? "to_status" = some next) : Chain creation (rows ++ [log]) next

/-- What a row adds to a status history: the first status, or the one that follows the last. -/
def appendStatus (creation : String) (history : List String) (log : AuditLog) :
    Option (List String) :=
  match history.getLast? with
  | none => if log.Begins creation then some ["pending"] else none
  | some last =>
    if log.metadata.text? "from_status" = some last then
      (log.metadata.text? "to_status").map fun next => history ++ [next]
    else none

/-- The status history that rows tell, if they tell one. -/
def rebuild (creation : String) (rows : List AuditLog) : Option (List String) :=
  rows.foldlM (appendStatus creation) []

section

variable {creation : String}

/-- The last row adds its status to the history before it. -/
theorem rebuild_snoc (rows : List AuditLog) (log : AuditLog) : rebuild creation (rows ++ [log]) =
    (rebuild creation rows).bind fun history => appendStatus creation history log := by
  rw [rebuild, List.foldlM_append]
  simp only [List.foldlM_cons, List.foldlM_nil, bind_pure]
  rfl

/-- A row that is appended leaves no empty history. -/
theorem appendStatus_ne_nil {history : List String} {log : AuditLog} :
    appendStatus creation history log ≠ some [] := by
  rw [appendStatus]
  split
  · split <;> simp
  · split <;> simp

/-- Only no rows tell of nothing. -/
theorem eq_nil_of_rebuild {rows : List AuditLog} (h : rebuild creation rows = some []) :
    rows = [] := by
  cases rows using List.reverseRecOn with
  | nil => rfl
  | append_singleton rows log =>
    rw [rebuild_snoc] at h
    obtain ⟨history, -, happend⟩ := Option.bind_eq_some_iff.mp h
    exact absurd happend appendStatus_ne_nil

/-- Rows that tell a history with a last status are a chain to it. -/
theorem chain_of_rebuild {rows : List AuditLog} {history : List String} {last : String}
    (h : rebuild creation rows = some history) (hlast : history.getLast? = some last) :
    Chain creation rows last := by
  induction rows using List.reverseRecOn generalizing history last with
  | nil => cases h; cases hlast
  | append_singleton rows log ih =>
    rw [rebuild_snoc] at h
    obtain ⟨before, hbefore, happend⟩ := Option.bind_eq_some_iff.mp h
    rw [appendStatus] at happend
    split at happend
    · rename_i hnone
      split at happend
      · rename_i hbegins
        cases happend
        cases hlast
        -- nothing came before the creation
        rw [List.getLast?_eq_none_iff.mp hnone] at hbefore
        obtain rfl := eq_nil_of_rebuild hbefore
        exact .created hbegins
      · cases happend
    · rename_i from' hsome
      split at happend
      · rename_i hfrom
        obtain ⟨next, hnext, rfl⟩ := Option.map_eq_some_iff.mp happend
        obtain rfl : next = last := by simpa using hlast
        exact .changed (ih hbefore hsome) hfrom hnext
      · cases happend

end

/-! ## One request

  One case for each effect.  A repeat or a refusal commits nothing and writes no row, which is the
  other half of what is told. -/

/-- The status text of a stored contribution. -/
def contributionStatus (id : Uuid) (s : Db) : Option String :=
  (s.contributions.find id).map fun c => asStr c.status

/-- The status text of a stored payout. -/
def payoutStatus (id : Uuid) (s : Db) : Option String :=
  (s.payouts.find id).map fun p => asStr p.status

/-- A step leaves the status and the rows of an entity alone, or changes both in step. -/
inductive Told (creation : String) (status status' : Option String) (rows rows' : List AuditLog) :
    Prop
  /-- Neither the status nor the rows. -/
  | kept (status : status' = status) (rows : rows' = rows)
  /-- The first status, with the row of a creation. -/
  | created {log : AuditLog} (before : status = none) (after : status' = some "pending")
    (begins : log.Begins creation) (rows : rows' = rows ++ [log])
  /-- Another status, with a row that goes on from the last one to it. -/
  | changed {log : AuditLog} {last next : String} (before : status = some last)
    (after : status' = some next) (changes : last ≠ next)
    (fromStatus : log.metadata.text? "from_status" = some last)
    (toStatus : log.metadata.text? "to_status" = some next) (rows : rows' = rows ++ [log])

/-- The rows about an entity after a commit that appends `log`. -/
theorem trail_snoc {entityType : String} {id : Uuid} {s s' : Db} {log : AuditLog}
    (h : s'.audit = s.audit ++ [log]) : trail entityType id s' = trail entityType id s ++
      if log.entityType = entityType ∧ log.entityId = some id then [log] else [] := by
  rw [trail, h, List.filter_append]
  simp only [List.filter_cons, List.filter_nil, decide_eq_true_eq]
  rfl

/-- The matcher leaves `status`. -/
theorem sensitive_status : isSensitiveKey "status" = false := plainKeys_safe _ (by decide)

/-- The matcher leaves `from_status`. -/
theorem sensitive_fromStatus : isSensitiveKey "from_status" = false := plainKeys_safe _ (by decide)

/-- The matcher leaves `to_status`. -/
theorem sensitive_toStatus : isSensitiveKey "to_status" = false := plainKeys_safe _ (by decide)

section

variable {newId : Uuid} {actor : AuthenticatedUser} {l : Sess} {s : Db}

/-- A recorded intent is pending, and the other contributions are as they were. -/
theorem Recorded.status_view {input : RecordContributionIntentInput} {a : Contribution}
    (h : Recorded newId actor input l s a) (id : Uuid) : contributionStatus id (l.view s) =
      if newId = id then some "pending" else contributionStatus id s := by
  obtain ⟨_, -, -, hview⟩ := h.view
  have hkey : Keyed.key a = newId := h.id
  rw [contributionStatus, hview]
  show ((s.contributions.insert a).find id).map _ = _
  rw [Table.find_insert, hkey]
  split
  · rename_i hid
    rw [← hid, h.fresh]
    exact congrArg (some ∘ asStr) h.status
  · rfl

/-- A requested payout is pending, and the other payouts are as they were. -/
theorem Requested.status_view {input : CreatePayoutRequestInput} {a : PayoutRequest}
    (h : Requested newId actor input l s a) (id : Uuid) : payoutStatus id (l.view s) =
      if newId = id then some "pending" else payoutStatus id s := by
  obtain ⟨_, -, -, hview⟩ := h.view
  have hkey : Keyed.key a = newId := h.id
  rw [payoutStatus, hview]
  show ((s.payouts.insert a).find id).map _ = _
  rw [Table.find_insert, hkey]
  split
  · rename_i hid
    rw [← hid, h.fresh]
    exact congrArg (some ∘ asStr) h.status
  · rfl

/-- A settlement changes the status of its own contribution. -/
theorem SettledAs.status_view {tr : ContributionTransition} {input : SettlementInput} {t : Db}
    {current row : Contribution} {vault vault' : SavingsVault} {entries : List VaultLedgerEntry}
    (h : SettledAs tr actor input l s t current row vault vault' entries) (id : Uuid) :
    contributionStatus id (l.view s) =
      if input.contributionId = id then some (asStr tr.targetStatus) else contributionStatus id s := by
  have hkey : Keyed.key (settledRow tr input row) = input.contributionId :=
    (Table.find_some h.locked).2
  rw [contributionStatus, h.view]
  show ((s.contributions.replace (settledRow tr input row)).find id).map _ = _
  split
  · rename_i hid
    rw [← hid, Table.find_replace_self h.locked hkey]
    rfl
  · rename_i hid
    rw [Table.find_replace, hkey, if_neg (Ne.symm hid)]
    rfl

/-- A review changes the status of its own payout. -/
theorem ReviewedAs.status_view {tr : PayoutTransition} {input : ReviewPayoutInput} {x : ReviewReads}
    {row : PayoutRequest} {vault vault' : SavingsVault}
    (h : ReviewedAs tr actor input l s x row vault vault') (id : Uuid) :
    payoutStatus id (l.view s) =
      if input.payoutId = id then some (asStr tr.targetStatus) else payoutStatus id s := by
  have hkey : Keyed.key (reviewedRow tr actor input row) = input.payoutId :=
    (Table.find_some h.locked).2
  rw [payoutStatus, h.view]
  show ((s.payouts.replace (reviewedRow tr actor input row)).find id).map _ = _
  split
  · rename_i hid
    rw [← hid, Table.find_replace_self h.locked hkey]
    rfl
  · rename_i hid
    rw [Table.find_replace, hkey, if_neg (Ne.symm hid)]
    rfl

end

section

variable {q : Request} {l : Sess} {s : Db} {b : Response} {log : AuditLog}

/-- A request whose row is not about a contribution leaves its status alone. -/
theorem contributionStatus_kept (h : q.Effect l s b) (habout : q.Audits log) {id : Uuid}
    (hlog : ¬ (log.entityType = "contribution" ∧ log.entityId = some id)) :
    contributionStatus id (l.view s) = contributionStatus id s := by
  rcases h.savings with ⟨rfl, hx⟩ | ⟨rfl, hx⟩ | ⟨-, hx⟩ | ⟨-, hx⟩ | hx
  · rw [hx.status_view, if_neg]
    rintro rfl
    exact hlog habout
  · rw [hx.status_view, if_neg]
    rintro rfl
    exact hlog ⟨habout.1, habout.2.1⟩
  · obtain ⟨_, -, -, hview⟩ := hx.view
    rw [contributionStatus, hview]
    rfl
  · rw [contributionStatus, hx.view]
    rfl
  · rw [contributionStatus, hx.contributions]
    rfl

/-- A request whose row is about something else leaves the status of the payout. -/
theorem payoutStatus_kept (h : q.Effect l s b) (habout : q.Audits log) {id : Uuid}
    (hlog : ¬ (log.entityType = "payout_request" ∧ log.entityId = some id)) :
    payoutStatus id (l.view s) = payoutStatus id s := by
  rcases h.savings with ⟨-, hx⟩ | ⟨-, hx⟩ | ⟨rfl, hx⟩ | ⟨rfl, hx⟩ | hx
  · obtain ⟨_, -, -, hview⟩ := hx.view
    rw [payoutStatus, hview]
    rfl
  · rw [payoutStatus, hx.view]
    rfl
  · rw [hx.status_view, if_neg]
    rintro rfl
    exact hlog habout
  · rw [hx.status_view, if_neg]
    rintro rfl
    exact hlog ⟨habout.1, habout.2.1⟩
  · rw [payoutStatus, hx.payouts]
    rfl

/-- **A commit tells what it makes of a contribution.** -/
theorem Request.EffectWith.contribution_told (h : q.EffectWith l s b) (hseen : ∀ t ∈ l.seen, t = s)
    (id : Uuid) : Told "contribution.recorded" (contributionStatus id s)
      (contributionStatus id (l.view s)) (trail "contribution" id s)
      (trail "contribution" id (l.view s)) := by
  obtain ⟨heffect, log, hbuilt, haudit⟩ := h
  obtain ⟨log', habout, haudit'⟩ := heffect.audit
  obtain rfl : log = log' := by simpa using haudit.symm.trans haudit'
  rw [trail_snoc haudit]
  split
  · rename_i hlog
    rcases habout.contribution hlog.1 hlog.2 with ⟨actor, input, rfl⟩ | ⟨tr, actor, input, rfl, rfl⟩
    · obtain ⟨a, -, hx⟩ := heffect
      -- the row is the event of the recording
      obtain ⟨op, built, ⟨amount, rfl⟩, ⟨rfl⟩, rfl⟩ := hbuilt
      refine .created ?_ ?_ ⟨rfl, (Value.text?_sanitize sensitive_status _).trans rfl⟩ rfl
      · rw [contributionStatus, hx.fresh]
        rfl
      · rw [hx.status_view, if_pos rfl]
    · obtain ⟨a, -, t, current, row, vault, vault', entries, hx, -⟩ := heffect
      obtain rfl := hx.serial_row hseen
      obtain rfl : log = _ := by simpa [hx.view] using haudit.symm
      refine .changed ?_ ?_ ?_ ((Value.text?_sanitize sensitive_fromStatus _).trans rfl)
        ((Value.text?_sanitize sensitive_toStatus _).trans rfl) rfl
      · rw [contributionStatus, hx.locked]
        rfl
      · rw [hx.status_view, if_pos rfl]
      · exact fun he => hx.changes (StringEnum.asStr_injective he)
  · rename_i hlog
    rw [List.append_nil]
    exact .kept (contributionStatus_kept heffect habout hlog) rfl

/-- **A commit tells what it makes of a payout.** -/
theorem Request.EffectWith.payout_told (h : q.EffectWith l s b) (hseen : ∀ t ∈ l.seen, t = s)
    (id : Uuid) : Told "payout.requested" (payoutStatus id s) (payoutStatus id (l.view s))
      (trail "payout_request" id s) (trail "payout_request" id (l.view s)) := by
  obtain ⟨heffect, log, hbuilt, haudit⟩ := h
  obtain ⟨log', habout, haudit'⟩ := heffect.audit
  -- the one row that the commit appends
  obtain rfl : log = log' := by simpa using haudit.symm.trans haudit'
  rw [trail_snoc haudit]
  -- the row is about this payout, or about something else
  split
  · rename_i hlog
    -- it was requested, or reviewed
    rcases habout.payout hlog.1 hlog.2 with ⟨actor, input, rfl⟩ | ⟨tr, actor, input, rfl, rfl⟩
    · obtain ⟨a, -, hx⟩ := heffect
      obtain ⟨op, built, ⟨amount, vault, milestone, school, rfl⟩, ⟨rfl⟩, rfl⟩ := hbuilt
      refine .created ?_ ?_ ⟨rfl, (Value.text?_sanitize sensitive_status _).trans rfl⟩ rfl
      · rw [payoutStatus, hx.fresh]
        rfl
      · rw [hx.status_view, if_pos rfl]
    · obtain ⟨a, -, x, row, vault, vault', hx, -⟩ := heffect
      obtain ⟨hrow, -, -⟩ := hx.serial hseen
      obtain rfl : log = _ := by simpa [hx.view] using haudit.symm
      refine .changed ?_ ?_ ?_ ((Value.text?_sanitize sensitive_fromStatus _).trans rfl)
        ((Value.text?_sanitize sensitive_toStatus _).trans rfl) rfl
      · rw [payoutStatus, hx.locked, hrow]
        rfl
      · -- the new status is the transition's
        rw [hx.status_view, if_pos rfl]
      · rw [hrow]
        exact fun he => hx.changes (StringEnum.asStr_injective he)
  · rename_i hlog
    rw [List.append_nil]
    -- a row about something else, and the payout's status is unchanged
    exact .kept (payoutStatus_kept heffect habout hlog) rfl

end

/-- A request served alone commits nothing, or one transaction with its row. -/
theorem Request.serve_cases (q : Request) (s : Db) : (q.serve s).2 = s ∨
    ∃ l b, (∀ t ∈ l.seen, t = s) ∧ q.EffectWith l s b ∧ (q.serve s).2 = l.view s := by
  rcases q.audited.serve s with ⟨l, -, -, hdb⟩ | ⟨l, b, hseen, heffect, -, hdb⟩
  · exact .inl hdb
  · exact .inr ⟨l, b, hseen, heffect, hdb⟩

/-- A request that is answered with an error has changed nothing. -/
theorem Request.serve_error {q : Request} {s : Db} {e : ServiceError}
    (h : (q.serve s).1 = .error e) : (q.serve s).2 = s := by
  rcases q.audited.serve s with ⟨l, -, -, hdb⟩ | ⟨l, b, -, -, hok, -⟩
  · exact hdb
  · rw [Request.serve, hok] at h
    cases h

/-! ## A run

  `historyOf` reads the statuses along the run, `rebuild` the rows in the trail; each told step
  adds the same status to both, or none to either. -/

/-- The statuses that `status` reads along a run, one for each change. -/
def historyOf (status : Db → Option String) (s : Db) : List Request → List String
  | [] => []
  | q :: qs =>
    (if status (q.serve s).2 = status s then [] else (status (q.serve s).2).toList) ++
      historyOf status (q.serve s).2 qs

/-- The last request adds the status that it leads to, if it is another one. -/
theorem historyOf_snoc (status : Db → Option String) (s : Db) (qs : List Request) (q : Request) :
    historyOf status s (qs ++ [q]) = historyOf status s qs ++
      if status (serveAll s (qs ++ [q])) = status (serveAll s qs) then []
      else (status (serveAll s (qs ++ [q]))).toList := by
  induction qs generalizing s with
  | nil => exact List.append_nil _
  | cons p qs ih =>
    rw [List.cons_append, historyOf, ih, historyOf, List.append_assoc]
    rfl

/-- One row for each change of the status, and none otherwise. -/
def RowPerChange (status status' : Option String) (rows rows' : List AuditLog) : Prop :=
  if status' = status then rows' = rows else ∃ log, rows' = rows ++ [log]

/-- What is told has one row for each change. -/
theorem Told.rowPerChange {creation : String} {status status' : Option String}
    {rows rows' : List AuditLog} (h : Told creation status status' rows rows') :
    RowPerChange status status' rows rows' := by
  cases h with
  | kept hstatus hrows => exact (if_pos hstatus).mpr hrows
  | created hbefore hafter _ hrows =>
    exact (if_neg (by rw [hbefore, hafter]; exact Option.some_ne_none _)).mpr ⟨_, hrows⟩
  | changed hbefore hafter hne _ _ hrows =>
    exact (if_neg (by rw [hbefore, hafter]; exact fun he => hne (Option.some.inj he).symm)).mpr
      ⟨_, hrows⟩

/-- The rows of an entity rebuild its history: induction on the run, one told step at a time. -/
theorem rebuild_run {creation : String} {status : Db → Option String} {rows : Db → List AuditLog}
    (step : ∀ (q : Request) s,
      Told creation (status s) (status (q.serve s).2) (rows s) (rows (q.serve s).2))
    {s : Db} (hstatus : status s = none) (hrows : rows s = []) (qs : List Request) :
    rebuild creation (rows (serveAll s qs)) = some (historyOf status s qs) ∧
    (historyOf status s qs).getLast? = status (serveAll s qs) := by
  -- the last request tells what happened to the history: nothing, its begin, or one change
  induction qs using List.reverseRecOn with
  | nil =>
    rw [serveAll_nil, hrows, hstatus]
    exact ⟨rfl, rfl⟩
  | append_singleton qs q ih =>
    obtain ⟨hrebuild, hlast⟩ := ih
    have htold := step q (serveAll s qs)
    rw [historyOf_snoc, serveAll_snoc]
    cases htold with
    | kept hstatus' hrows' =>
      rw [if_pos hstatus', hrows', hstatus', List.append_nil]
      exact ⟨hrebuild, hlast⟩
    | created hbefore hafter hbegins hrows' =>
      rw [hbefore] at hlast
      have hnil := List.getLast?_eq_none_iff.mp hlast
      rw [hnil] at hrebuild ⊢
      rw [hrows', rebuild_snoc, hrebuild, hbefore, hafter]
      simp [appendStatus, hbegins]
    | changed hbefore hafter hne hfrom hto hrows' =>
      rw [hbefore] at hlast
      rw [hrows', rebuild_snoc, hrebuild, hbefore, hafter]
      simp [appendStatus, hlast, hfrom, hto, Ne.symm hne]

/-- A start: no contributions, no payouts, and no rows about any. -/
structure Untold (s : Db) : Prop where
  contributions : s.contributions.rows = []
  payouts : s.payouts.rows = []
  audit : ∀ log ∈ s.audit, log.entityType ≠ "contribution" ∧ log.entityType ≠ "payout_request"

/-- What the trail tells of the entities whose status `status` reads. -/
structure TrailTells (entityType creation : String) (status : Uuid → Db → Option String) (s : Db)
    (qs : List Request) : Prop where
  /-- The rows begin with the creation, and each goes on from the one before, up to the present
      status. -/
  chain : ∀ id last, status id (serveAll s qs) = some last →
    Chain creation (trail entityType id (serveAll s qs)) last
  /-- A change of the status has one row, and whatever is no change has none. -/
  rows : ∀ pre q post, qs = pre ++ q :: post → ∀ id,
    RowPerChange (status id (serveAll s pre)) (status id (serveAll s (pre ++ [q])))
      (trail entityType id (serveAll s pre)) (trail entityType id (serveAll s (pre ++ [q])))
  /-- The rows tell the statuses in the order in which they were taken. -/
  history : ∀ id, rebuild creation (trail entityType id (serveAll s qs)) =
    some (historyOf (status id) s qs)

/-- A trail that tells each step tells the run. -/
theorem TrailTells.of_told {entityType creation : String} {status : Uuid → Db → Option String}
    {s : Db} (step : ∀ (q : Request) s id, Told creation (status id s) (status id (q.serve s).2)
      (trail entityType id s) (trail entityType id (q.serve s).2))
    (hstatus : ∀ id, status id s = none) (hrows : ∀ id, trail entityType id s = [])
    (qs : List Request) : TrailTells entityType creation status s qs := by
  have hrun := fun id => rebuild_run (fun q s => step q s id) (hstatus id) (hrows id) qs
  constructor
  · intro id last hlast
    exact chain_of_rebuild (hrun id).1 ((hrun id).2.trans hlast)
  · rintro pre q post - id
    rw [serveAll_snoc]
    exact (step q _ id).rowPerChange
  · exact fun id => (hrun id).1

/-- **The audit rows of a contribution and of a payout tell its status history**: they are a chain
    from "pending" to the stored status, one row for each change, and a refused request adds none.

    The three parts are the same statement for contributions and for payouts, and what a refused
    request leaves: the state as it was, its trail included.  The statuses are read from the
    persisted rows, after redaction. -/
theorem trail_tells_history {s : Db} (h : Untold s) (qs : List Request) :
    TrailTells "contribution" "contribution.recorded" contributionStatus s qs ∧
    TrailTells "payout_request" "payout.requested" payoutStatus s qs ∧
    ∀ pre q post, qs = pre ++ q :: post → ∀ e, (q.serve (serveAll s pre)).1 = .error e →
      serveAll s (pre ++ [q]) = serveAll s pre := by
  -- contributions, payouts, and what a refused request leaves behind
  refine ⟨.of_told ?_ ?_ ?_ qs, .of_told ?_ ?_ ?_ qs, ?_⟩
  · intro q s id
    -- refused, or committed once
    rcases q.serve_cases s with hsame | ⟨l, b, hseen, heffect, hdb⟩
    · rw [hsame]
      exact .kept rfl rfl
    · rw [hdb]
      exact heffect.contribution_told hseen id
  · intro id
    rw [contributionStatus, Table.find, h.contributions]
    rfl
  · intro id
    refine List.filter_eq_nil_iff.mpr fun log hlog => ?_
    simp [(h.audit log hlog).1]
  · intro q s id
    rcases q.serve_cases s with hsame | ⟨l, b, hseen, heffect, hdb⟩
    · rw [hsame]
      exact .kept rfl rfl
    · rw [hdb]
      exact heffect.payout_told hseen id
  · intro id
    rw [payoutStatus, Table.find, h.payouts]
    rfl
  · intro id
    refine List.filter_eq_nil_iff.mpr fun log hlog => ?_
    simp [(h.audit log hlog).2]
  · rintro pre q post - e he
    rw [serveAll_snoc]
    exact Request.serve_error he

section

open Scenario

/-- The family has nothing to tell of: no contribution, no payout and no audit row. -/
theorem Scenario.untold : Untold family := ⟨rfl, rfl, fun log hlog => by cases hlog⟩

/-- A payout is approved and a contribution taken back, with a repeat and a refusal in between. -/
theorem trail_tells_history_family :
    let qs := [record 1 100, settle .confirm 1, settle .confirm 1, payout 2 60,
      review .complete 2, review .moveToReview 2, review .approve 2, settle .reverse 1]
    rebuild "contribution.recorded" (trail "contribution" 1 (serveAll family qs)) =
      some ["pending", "confirmed", "reversed"] ∧
    rebuild "payout.requested" (trail "payout_request" 2 (serveAll family qs)) =
      some ["pending", "under_review", "approved"] := by
  intro qs
  obtain ⟨hcontributions, hpayouts, -⟩ := trail_tells_history untold qs
  exact ⟨(hcontributions.history 1).trans (by decide), (hpayouts.history 2).trans (by decide)⟩

end

end EduStell
