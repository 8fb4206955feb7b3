/-
  When an email address counts as verified: the life of a verification token over a run of requests.

  The service looks at a token row; the theorem speaks of the past of the run.  `verify_email` with a
  token succeeds at time `t` if and only if the token was handed out earlier, it has not been presented
  in time since, it still is in time at `t`, and its user is active (`verification_accepted_iff`).  In
  time means before the second in which it expires: the token carries whole seconds.

  As in `EduStell.Auth.Sessions` a book of the run stands in between.  Its columns are the tokens that
  were issued and those that were presented in time.

  The plan: what one call does (`runs_verifyEmail` and the outcomes), what it does to the book
  (`VerificationBook.step`), and the book of a run, which is its past (`verificationBook_run`).
-/
import EduStell.Auth.Accounts
import EduStell.Auth.Kinds
import EduStell.Auth.Sessions

namespace EduStell.Auth

open Txn Program

/-! ## Tokens and their rows

  A token carries whole seconds and its row the exact instant, so the token may expire earlier
  than its row, and never later. -/

/-- The second in which the token expires. -/
def deadline (row : EmailVerificationToken) : DateTime := row.expiresAt.timestamp * 1000000000

/-- The token was signed for the row, and the row's hash is that of the token. -/
structure Certified (env : Env) (token : String) (row : EmailVerificationToken) : Prop where
  /-- The token was signed for this row. -/
  signed : ∃ iat : Int, env.crates.encode (.emailVerification
    ⟨row.userId, row.id, row.expiresAt.timestamp, iat, "email_verification"⟩)
    env.config.accessSecret = .ok token
  /-- The row holds a hash of it. -/
  hashed : ∃ salt, env.crates.hashPassword token salt = .ok row.tokenHash
  /-- Its expiry is an instant that can be represented. -/
  inRange : DateTime.fromTimestamp row.expiresAt.timestamp = some (deadline row)

/-- Storing an instant keeps its second. -/
theorem timestamp_toTimestamptz (t : Int) :
    DateTime.timestamp (DateTime.toTimestamptz t) = DateTime.timestamp t := by
  change (t - t % 1000) / 1000000000 = t / 1000000000
  omega

/-- The claim of a token ends no later than its row. -/
theorem deadline_le (row : EmailVerificationToken) : deadline row ≤ row.expiresAt :=
  Int.ediv_mul_le _ (by decide)

section Certified

variable {env : Env} (hcrates : env.crates.Lawful) {token : String}
  {row row' : EmailVerificationToken} {now : DateTime}

include hcrates

/-- A certified token decodes in time. -/
theorem Certified.decodes (h : Certified env token row) (hnow : now < deadline row) :
    env.decodeEmailVerificationToken now token = .ok (row.userId, row.id, deadline row) := by
  obtain ⟨iat, hsigned⟩ := h.signed
  have hle : now.timestamp ≤ row.expiresAt.timestamp + leeway := by
    have hsecond := DateTime.timestamp_le (Int.le_trans (Int.le_of_lt hnow) (deadline_le row))
    have hleeway : (0 : Int) ≤ leeway := by decide
    exact Int.le_trans hsecond (Int.le_add_of_nonneg_right hleeway)
  rw [Env.decodeEmailVerificationToken, hcrates.decodeAs_own hsigned rfl hle]
  simp only [ne_eq, not_true, if_false, h.inRange]

/-- If it decodes, then to its row. -/
theorem Certified.decoded (h : Certified env token row) {userId id : Uuid} {expiresAt : DateTime}
    (hdecoded : env.decodeEmailVerificationToken now token = .ok (userId, id, expiresAt)) :
    userId = row.userId ∧ id = row.id ∧ expiresAt = deadline row := by
  obtain ⟨iat, hsigned⟩ := h.signed
  rw [Env.decodeEmailVerificationToken, hcrates.decodeAs_signed hsigned, Claims.json,
    Serde.deserialize_serialize] at hdecoded
  split at hdecoded
  · rename_i claims hclaims
    split at hclaims
    · cases hclaims
      simp only [ne_eq, not_true, if_false, h.inRange] at hdecoded
      cases hdecoded
      exact ⟨rfl, rfl, rfl⟩
    · cases hclaims
  · cases hdecoded

/-- A certified token is the one text that its row's hash accepts. -/
theorem Certified.verified (h : Certified env token row) (value : String) :
    env.verifySecret value row.tokenHash = .ok (decide (value = token)) := by
  obtain ⟨salt, hhash⟩ := h.hashed
  rw [Env.verifySecret, hcrates.verify _ _ _ hhash]
  rfl

/-- A token is certified for one id. -/
theorem Certified.id_eq (h : Certified env token row) (h' : Certified env token row') :
    row.id = row'.id := by
  obtain ⟨iat, hsigned⟩ := h.signed
  obtain ⟨iat', hsigned'⟩ := h'.signed
  have hsame := Claims.emailVerification.inj (hcrates.encode_inj hsigned hsigned')
  exact congrArg EmailVerificationClaims.verificationId hsame

end Certified

/-! ## One call

  The checks that a call makes, gathered in one condition, and what the call does when they pass. -/

/-- The call alone, its answer and the database after it. -/
def AccountCall.serve (env : Env) (c : AccountCall) (s : AccountDb) :
    Except AccountError AccountAnswer × AccountDb :=
  (c.program env).serve s

/-- The token passes the checks of `verify_email`. -/
structure PassesVerification (env : Env) (now : DateTime) (token : String) (s : AccountDb)
    (row : EmailVerificationToken) : Prop where
  decoded : ∃ expiresAt, now < expiresAt ∧
    env.decodeEmailVerificationToken now token = .ok (row.userId, row.id, expiresAt)
  found : s.verifications.find row.id = some row
  unconsumed : row.consumedAt = none
  unexpired : now < row.expiresAt
  verified : env.verifySecret token row.tokenHash = .ok true

section Rules

variable {α : Type} {s : AccountDb} {Q : Except AccountError α → AccountDb → Prop}

/-- A user looked up by id: his row, if it is there and can be converted. -/
theorem runs_findUser {userId : Uuid} {k : Option User → AccountTx α}
    (herr : ∀ u e, s.auth.users.find userId = some u → u.toUser = .error e → Q (.error (.auth e)) s)
    (hnone : s.auth.users.find userId = none → (k none).Runs Session.init s Q)
    (hsome : ∀ u user, s.auth.users.find userId = some u → u.toUser = .ok user →
      (k (some user)).Runs Session.init s Q) :
    (authTx (findUserById userId) >>= k).Runs Session.init s Q := by
  let rest (row : Option UserRow) : AccountTx α := authTx (fromRow row) >>= k
  -- the bind reassociates by computation: what is left to run is the row's reading
  change (rest (s.auth.users.find userId)).Runs _ s Q
  refine Runs.restart rfl ?_
  cases hrow : s.auth.users.find userId with
  | none => exact hnone hrow
  | some u =>
    -- a row whose role or status does not parse fails here, with the error of that text
    cases huser : u.toUser with
    | error e =>
      have hrest : rest (some u) = Program.fail (.auth e) := by
        change authTx (fromRow (some u)) >>= k = _
        rw [fromRow, huser]
        rfl
      rw [hrest]
      exact herr u e hrow huser
    | ok user =>
      have hrest : rest (some u) = k (some user) := by
        change authTx (fromRow (some u)) >>= k = _
        rw [fromRow, huser]
        rfl
      rw [hrest]
      exact hsome u user hrow huser

/-- The UPDATE that consumes a token. -/
theorem runs_consume {now : DateTime} {id : Uuid} {k : Unit → AccountTx α}
    (h : (k ()).Runs Session.init
      ((AccountWrite.consumeVerification id now.toTimestamptz).apply s) Q) :
    (consumeEmailVerificationToken now id >>= k).Runs Session.init s Q := by
  simp only [consumeEmailVerificationToken, bind_assoc]
  exact Runs.beginTx (Runs.forUpdate (Runs.execute (Runs.commitTx (Runs.restart rfl h))))

/-- The UPDATE that marks an address. -/
theorem runs_markEmailVerified {userId : Uuid} {k : Unit → AccountTx α}
    (h : (k ()).Runs Session.init ((AccountWrite.markEmailVerified userId).apply s) Q) :
    (markEmailVerified userId >>= k).Runs Session.init s Q := by
  simp only [markEmailVerified, bind_assoc]
  exact Runs.beginTx (Runs.forUpdate (Runs.execute (Runs.commitTx (Runs.restart rfl h))))

/-- The INSERT of a token row, unless its id is taken. -/
theorem runs_storeVerification {x : EmailVerificationToken} {k : Unit → AccountTx α}
    (htaken : ∀ e, Q (.error e) s)
    (h : s.verifications.find x.id = none → (k ()).Runs Session.init ((AccountWrite.insertVerification
      { x with expiresAt := x.expiresAt.toTimestamptz }).apply s) Q) :
    (storeEmailVerificationToken x >>= k).Runs Session.init s Q := by
  simp only [storeEmailVerificationToken, bind_assoc]
  refine Runs.beginTx (Runs.forUpdate ?_)
  refine Runs.failIf (fun _ => htaken _) fun hfree => ?_
  refine Runs.execute (Runs.commitTx (Runs.restart rfl ?_))
  exact h (Option.not_isSome_iff_eq_none.mp hfree)

/-- Token and user are marked. -/
def confirmed (now : DateTime) (row : EmailVerificationToken) (s : AccountDb) : AccountDb :=
  (AccountWrite.markEmailVerified row.userId).apply
    ((AccountWrite.consumeVerification row.id now.toTimestamptz).apply s)

/-- A verification that fails the checks is refused and changes nothing; one that passes them marks
    token and user, whatever comes of it. -/
theorem runs_verifyEmail {env : Env} {now : DateTime} {token : String}
    {Q : Except AccountError PublicUser → AccountDb → Prop}
    (hrefused : (∀ row, ¬ PassesVerification env now token s row) → ∀ e, Q (.error e) s)
    (hpasses : ∀ row, PassesVerification env now token s row → (do
        let user ← okOr (← authTx (findUserById row.userId)) .notFound
        ofExcept ((ensureActiveUser user).mapError .auth)
        return user.toPublic : AccountTx PublicUser).Runs Session.init (confirmed now row s) Q) :
    (verifyEmail env now token).Runs Session.init s Q := by
  refine Runs.ofExcept (fun e he => hrefused ?_ e) ?_
  · intro row h
    obtain ⟨expiresAt, -, hdecoded⟩ := h.decoded
    rw [hdecoded] at he
    cases he
  rintro ⟨userId, id, expiresAt⟩ hdecoded
  have hdecode : env.decodeEmailVerificationToken now token = .ok (userId, id, expiresAt) :=
    ok_of_mapError hdecoded
  -- what passes the checks is the row of the token's id
  have hrow : ∀ row, PassesVerification env now token s row →
      row.userId = userId ∧ row.id = id ∧ now < expiresAt := by
    intro row h
    obtain ⟨expiresAt', hnow, hdecoded'⟩ := h.decoded
    cases hdecode.symm.trans hdecoded'
    exact ⟨rfl, rfl, hnow⟩
  refine Runs.failIf (fun hexpired => hrefused (fun row h => ?_) _) fun hnow => ?_
  · exact Int.not_le.mpr (hrow row h).2.2 hexpired
  refine Runs.select (Runs.restart rfl (Runs.okOr ?_ fun record hfound => ?_))
  · intro hnone
    refine hrefused (fun row h => ?_) _
    obtain ⟨-, rfl, -⟩ := hrow row h
    exact Option.some_ne_none row (h.found.symm.trans hnone)
  have hrecord : ∀ row, PassesVerification env now token s row → row = record := by
    intro row h
    obtain ⟨-, rfl, -⟩ := hrow row h
    exact Option.some.inj (h.found.symm.trans hfound)
  have hfails : ¬ PassesVerification env now token s record → ∀ e, Q (.error e) s := by
    intro hnot
    exact hrefused fun row h => hnot (hrecord row h ▸ h)
  refine Runs.failIf (fun hbad => hfails (fun h => ?_) _) fun hgood => ?_
  · rcases hbad with hbad | hbad | hbad
    · exact hbad (hrow record h).1
    · rw [h.unconsumed] at hbad; cases hbad
    · exact Int.not_le.mpr h.unexpired hbad
  refine Runs.ofExcept (fun e he => hfails (fun h => ?_) e) fun isMatch hverified => ?_
  · rw [h.verified] at he; cases he
  refine Runs.failIf (fun hbad => hfails (fun h => ?_) _) fun hmatch => ?_
  · rw [h.verified] at hverified
    cases hverified
    cases hbad
  have hid : record.id = id := (Table.find_some hfound).2
  rw [not_or, not_or, not_ne_iff] at hgood
  obtain ⟨rfl, hunconsumed, hunexpired⟩ := hgood
  refine runs_consume (runs_markEmailVerified (hpasses record ?_))
  constructor
  · exact ⟨expiresAt, Int.not_le.mp hnow, hid ▸ hdecode⟩
  · exact hid ▸ hfound
  · rw [Bool.not_eq_true, Option.isSome_eq_false_iff, Option.isNone_iff_eq_none] at hunconsumed
    exact hunconsumed
  · exact Int.not_le.mp hunexpired
  · have htrue : isMatch = true := by simpa using hmatch
    exact htrue ▸ ok_of_mapError hverified

end Rules

/-! ## What a call can do

  Every call leaves the token rows alone, adds one, or consumes one. -/

/-- Consuming a token changes its own row only. -/
theorem find_consumeVerification (s : AccountDb) (id x : Uuid) (now : DateTime) :
    ((AccountWrite.consumeVerification id now).apply s).verifications.find x =
      if x = id then (s.verifications.find id).map (·.consume now) else s.verifications.find x := by
  have hfind := Table.find_modify s.verifications id x (·.consume now) fun _ h => by exact h
  by_cases hx : x = id
  · rw [if_pos hx] at hfind ⊢
    exact hx ▸ hfind
  · rw [if_neg hx] at hfind ⊢
    exact hfind

/-- Marking an address changes the row of its own user only. -/
theorem find_markEmailVerified (s : AccountDb) (id x : Uuid) :
    ((AccountWrite.markEmailVerified id).apply s).auth.users.find x =
      if x = id then (s.auth.users.find x).map UserRow.verify else s.auth.users.find x :=
  Table.find_modify s.auth.users id x UserRow.verify fun _ h => by exact h

/-- Whether a user has verified his address does not matter to reading him. -/
theorem toUser_verify (u : UserRow) :
    u.verify.toUser = u.toUser.map fun user => { user with emailVerified := true } := by
  have hsame : StringEnum.parse UserRole u.verify.role = StringEnum.parse UserRole u.role := rfl
  rw [UserRow.toUser, UserRow.toUser, hsame]
  cases StringEnum.parse UserRole u.role <;> rfl

/-- Marking an address loses no user, and changes nobody's status. -/
theorem usersKept_verify (s : AccountDb) (id : Uuid) :
    UsersKept s.auth ((AccountWrite.markEmailVerified id).apply s).auth := by
  rintro id' ⟨row, user, hfound, huser⟩
  have hfind := find_markEmailVerified s id id'
  rw [hfound] at hfind
  by_cases hid : id' = id
  · rw [if_pos hid] at hfind
    refine ⟨row.verify, { user with emailVerified := true }, hfind, ?_⟩
    rw [toUser_verify, huser]
    rfl
  · rw [if_neg hid] at hfind
    exact ⟨row, user, hfind, huser⟩

/-- The user is there, can be read and is active. -/
def ActiveUser (s : AuthDb) (id : Uuid) : Prop :=
  ∃ row user, s.users.find id = some row ∧ row.toUser = .ok user ∧ row.status = "active"

/-- Every way a call can end: it leaves the verification tokens alone, adds one, or consumes one and
    marks its user. -/
inductive AccountOutcome (env : Env) (c : AccountCall) (s : AccountDb) :
    Except AccountError AccountAnswer → AccountDb → Prop
  /-- No verification token is written; a verification among these was refused at the checks. -/
  | quiet {r : Except AccountError AccountAnswer} {s' : AccountDb}
    (answer : ∀ resp, r ≠ .ok (.begun resp)) (tokens : s'.verifications = s.verifications)
    (users : UsersKept s.auth s'.auth)
    (verify : ∀ token, c.request = .verifyEmail token →
      (∃ e, r = .error e) ∧ ∀ row, ¬ PassesVerification env c.now token s row) :
    AccountOutcome env c s r s'
  /-- A token has been handed out, and its row stored. -/
  | begun {draw : VerificationDraw} {userId : Uuid} {row : EmailVerificationToken}
    {resp : EmailVerificationResponse} (request : c.request = .beginEmailVerification draw userId)
    (certified : Certified env resp.verificationToken row) (unconsumed : row.consumedAt = none)
    (readable : Readable s.auth row.userId) (fresh : s.verifications.find row.id = none) :
    AccountOutcome env c s (.ok (.begun resp)) ((AccountWrite.insertVerification row).apply s)
  /-- A token has passed the checks: it is consumed and its user marked, whether or not he is
      active. -/
  | verified {token : String} {row : EmailVerificationToken}
    {r : Except AccountError AccountAnswer} (request : c.request = .verifyEmail token)
    (checks : PassesVerification env c.now token s row) (answer : ∀ resp, r ≠ .ok (.begun resp))
    (active : (∃ u, r = .ok (.user u)) ↔ ActiveUser s.auth row.userId) :
    AccountOutcome env c s r (confirmed c.now row s)

section Outcomes

variable {env : Env} {c : AccountCall} {s : AccountDb}

/-- A call that begins, renews or ends a session leaves the verification tokens alone. -/
theorem auth_outcome {request : Request} (hrequest : c.request = .auth request) :
    AccountOutcome env c s (c.serve env s).1 (c.serve env s).2 := by
  obtain ⟨now, _⟩ := c
  cases hrequest
  let p : AccountTx Answer := authTx (Call.program env ⟨now, request⟩)
  -- whatever the auth service writes leaves the verification tokens alone
  have hwrites : p.WritesOnly fun w => ∃ w', w = .auth w' :=
    (WritesOnly.within authPart (fun w _ => ⟨w, rfl⟩) (WritesOnly.all (fun _ => trivial) _)).mapError
  have hkept : ∀ w t, (∃ w', w = AccountWrite.auth w') →
      (t.verifications = s.verifications ∧ UsersKept s.auth t.auth) →
      (w.apply t).verifications = s.verifications ∧ UsersKept s.auth (w.apply t).auth := by
    rintro _ t ⟨w, rfl⟩ ⟨htokens, husers⟩
    refine ⟨htokens, fun id h => ?_⟩
    cases w with
    | insertUser row => exact usersKept_insert t.auth row id (husers id h)
    | setUserStatus id' status => exact usersKept_setStatus t.auth id' status id (husers id h)
    | insertRefreshToken row => exact husers id h
    | revokeRefreshToken id' now => exact husers id h
    | insertAuditLog row => exact husers id h
  have hend := hwrites.exec (l := Session.init) (s := s)
    (Q := fun t => t.verifications = s.verifications ∧ UsersKept s.auth t.auth) hkept
    (fun _ hw => by cases hw) ⟨rfl, .refl _⟩
  have hquiet : p.Runs Session.init s fun r t => AccountOutcome env ⟨now, .auth request⟩ s
      (r.map .auth) t := by
    refine .quiet ?_ hend.1 hend.2 ?_
    · intro resp hr
      cases hanswer : (p.exec Session.init s).1 with
      | error e => rw [hanswer] at hr; cases hr
      | ok answer => rw [hanswer] at hr; cases hr
    · intro token hverify
      cases hverify
  exact Runs.map hquiet

/-- What ends without a write and without an answer that hands out a token. -/
theorem AccountOutcome.unchanged {r : Except AccountError AccountAnswer}
    (hanswer : ∀ resp, r ≠ .ok (.begun resp)) (hc : ∀ token, c.request ≠ .verifyEmail token) :
    AccountOutcome env c s r s :=
  .quiet hanswer rfl (.refl _) fun token hrequest => absurd hrequest (hc token)

/-- How asking for a token can end: refused, or with a new row whose token is certified. -/
theorem beginEmailVerification_outcome {draw : VerificationDraw} {userId : Uuid}
    (hrequest : c.request = .beginEmailVerification draw userId) :
    (beginEmailVerification env c.now draw userId).Runs Session.init s
      fun r s' => AccountOutcome env c s (r.map .begun) s' := by
  -- up to the insert nothing is written, so every error leaves the state as it was
  have hrefused : ∀ e, AccountOutcome env c s
      ((Except.error e : Except AccountError EmailVerificationResponse).map .begun) s := by
    intro e
    refine .unchanged ?_ ?_
    · intro resp hr
      cases hr
    · intro token hverify
      rw [hrequest] at hverify
      cases hverify
  refine runs_findUser (fun _ e _ _ => hrefused _) (fun _ => hrefused _) fun u user hfound huser => ?_
  refine Runs.ofExcept (fun e _ => hrefused e) fun _ _ => Runs.failIf (fun _ => hrefused _) fun _ => ?_
  refine Runs.okOr (fun _ => hrefused _) fun signed hsigned => ?_
  refine Runs.ofExcept (fun e _ => hrefused e) fun issued hissued => ?_
  refine Runs.ofExcept (fun e _ => hrefused e) fun tokenHash hhash => ?_
  -- the call has gone on, so the token was signed
  obtain ⟨issued', rfl⟩ : ∃ issued', signed = .ok issued' := by
    cases signed with
    | error e => cases hissued
    | ok issued' => exact ⟨issued', rfl⟩
  cases hissued
  obtain ⟨hencode, hrange⟩ := Env.signed_of_issueEmailVerificationToken hsigned
  refine runs_storeVerification hrefused fun hfresh => .begun hrequest ?_ rfl ?_ hfresh
  · constructor
    · rw [timestamp_toTimestamptz]
      exact ⟨_, hencode⟩
    · refine ⟨draw.salt, ?_⟩
      rw [Env.hashSecret] at hhash
      cases hcrate : env.crates.hashPassword issued.token draw.salt with
      | error e => rw [hcrate] at hhash; cases hhash
      | ok hash => rw [hcrate] at hhash; cases hhash; rfl
    · rw [deadline, timestamp_toTimestamptz]
      exact DateTime.fromTimestamp_timestamp hrange
  · -- the row of the user is the one that was read, so the token's owner is readable
    have hid : user.id = u.id := toUser_id huser
    have hkey : u.id = userId := (Table.find_some hfound).2
    exact ⟨u, user, (hid.trans hkey).symm ▸ hfound, huser⟩

/-- How presenting a token can end: refused at one of the checks, or with the token consumed and the
    address marked, whatever becomes of the answer. -/
theorem verifyEmail_outcome {token : String} (hrequest : c.request = .verifyEmail token) :
    (verifyEmail env c.now token).Runs Session.init s
      fun r s' => AccountOutcome env c s (r.map .user) s' := by
  refine runs_verifyEmail ?_ ?_
  · intro hnot e
    refine .quiet ?_ rfl (.refl _) ?_
    · intro resp hr
      cases hr
    · intro token' hverify
      rw [hrequest] at hverify
      cases hverify
      exact ⟨⟨e, rfl⟩, hnot⟩
  intro row hchecks
  -- the user that is read is the one that was marked
  have hread : ∀ u, (confirmed c.now row s).auth.users.find row.userId = some u ↔
      ∃ u', s.auth.users.find row.userId = some u' ∧ u = u'.verify := by
    intro u
    rw [confirmed, find_markEmailVerified, if_pos rfl, Option.map_eq_some_iff]
    exact exists_congr fun u' => and_congr_right fun _ => eq_comm
  have hfails : ∀ e, ¬ ActiveUser s.auth row.userId → AccountOutcome env c s
      ((Except.error e : Except AccountError PublicUser).map .user) (confirmed c.now row s) := by
    intro e hnot
    refine .verified hrequest hchecks ?_ (iff_of_false ?_ hnot)
    · intro resp hr
      cases hr
    · rintro ⟨u, hr⟩
      cases hr
  refine runs_findUser ?_ ?_ ?_
  · intro u e hu herr
    refine hfails _ ?_
    rintro ⟨u', user, hu', huser, -⟩
    obtain ⟨u'', hu'', rfl⟩ := (hread u).mp hu
    obtain rfl := Option.some.inj (hu'.symm.trans hu'')
    rw [toUser_verify, huser] at herr
    cases herr
  · intro hnone
    refine hfails _ ?_
    rintro ⟨u', user, hu', -, -⟩
    rw [(hread _).mpr ⟨u', hu', rfl⟩] at hnone
    cases hnone
  intro u user hu huser
  obtain ⟨u', hu', rfl⟩ := (hread u).mp hu
  have hstatus : user.status = u'.status := by
    have hverify : user.status = u'.verify.status := toUser_status huser
    exact hverify
  refine Runs.ofExcept (fun e he => hfails e ?_) fun _ hok => ?_
  · rintro ⟨u'', user'', hu'', -, hactive⟩
    obtain rfl := Option.some.inj (hu'.symm.trans hu'')
    rw [ensureActiveUser, if_pos (hstatus.trans hactive)] at he
    cases he
  have hactive : user.status = "active" := by
    cases hcheck : ensureActiveUser user with
    | error e => rw [hcheck] at hok; cases hok
    | ok _ => exact active_of_ok hcheck
  have hreadable : ∃ user', u'.toUser = .ok user' := by
    rw [toUser_verify] at huser
    cases hread : u'.toUser with
    | error e => rw [hread] at huser; cases huser
    | ok user' => exact ⟨user', rfl⟩
  obtain ⟨user', huser'⟩ := hreadable
  refine .verified hrequest hchecks ?_ (iff_of_true ⟨_, rfl⟩ ?_)
  · intro resp hr
    cases hr
  · exact ⟨u', user', hu', huser', hstatus.symm.trans hactive⟩

/-- **Every call** ends in one of these ways. -/
theorem AccountCall.outcome (env : Env) (c : AccountCall) (s : AccountDb) :
    AccountOutcome env c s (c.serve env s).1 (c.serve env s).2 := by
  cases hrequest : c.request with
  | auth request => exact auth_outcome hrequest
  | beginEmailVerification draw userId =>
    change (c.program env).Runs Session.init s (AccountOutcome env c s)
    rw [AccountCall.program, hrequest]
    exact Runs.map (beginEmailVerification_outcome hrequest)
  | verifyEmail token =>
    change (c.program env).Runs Session.init s (AccountOutcome env c s)
    rw [AccountCall.program, hrequest]
    exact Runs.map (verifyEmail_outcome hrequest)
  | currentUser userId =>
    change (c.program env).Runs Session.init s (AccountOutcome env c s)
    rw [AccountCall.program, hrequest]
    -- looking a user up is no verification, and writes nothing
    have hc : ∀ token, c.request ≠ .verifyEmail token := by
      intro token hverify
      rw [hrequest] at hverify
      cases hverify
    have hend : ∀ r : Except AccountError PublicUser, AccountOutcome env c s (r.map .user) s := by
      intro r
      refine .unchanged (fun resp hr => ?_) hc
      cases r <;> cases hr
    refine Runs.map (runs_findUser (fun _ e _ _ => hend (.error _)) (fun _ => hend (.error _)) ?_)
    intro u user _ _
    exact Runs.ofExcept (fun e _ => hend (.error e)) fun _ _ => hend (.ok _)

end Outcomes

/-! ## The book

  The book has two columns; the rows say the same, but spread over tables.  Since ids are not
  repeated, a token has one row. -/

/-- The rows are the same but for the instant at which they were consumed. -/
structure SameToken (x row : EmailVerificationToken) : Prop where
  id : x.id = row.id
  userId : x.userId = row.userId
  tokenHash : x.tokenHash = row.tokenHash
  expiresAt : x.expiresAt = row.expiresAt

/-- A row is for the token of its own. -/
theorem SameToken.refl (row : EmailVerificationToken) : SameToken row row := ⟨rfl, rfl, rfl, rfl⟩

/-- A consumed row is for the same token. -/
theorem SameToken.consume {x row : EmailVerificationToken} (h : SameToken x row) (now : DateTime) :
    SameToken (x.consume now) row :=
  ⟨h.id, h.userId, h.tokenHash, h.expiresAt⟩

/-- What has been consumed stays consumed. -/
theorem consume_consumed (x : EmailVerificationToken) (now : DateTime) :
    (x.consume now).consumedAt ≠ none := by
  cases h : x.consumedAt <;> simp [EmailVerificationToken.consume, h]

/-- How the rows follow the book: one row for each token that was issued, consumed if and only if the
    token was presented in time. -/
structure VerificationBook (env : Env) (issued : String → EmailVerificationToken → Prop)
    (presented : String → Prop) (s : AccountDb) : Prop where
  /-- Every row is the row of a token that was issued. -/
  rows : ∀ x ∈ s.verifications.rows, ∃ token row, issued token row ∧ SameToken x row
  /-- Every token that was issued has its row, consumed exactly if the token was presented. -/
  found : ∀ token row, issued token row → ∃ x, s.verifications.find row.id = some x ∧
    SameToken x row ∧ (x.consumedAt = none ↔ ¬ presented token)
  /-- A token and its row belong together. -/
  certified : ∀ token row, issued token row → Certified env token row
  /-- The user of the token can be read. -/
  readable : ∀ token row, issued token row → Readable s.auth row.userId
  /-- What was presented was issued. -/
  known : ∀ token, presented token → ∃ row, issued token row

namespace VerificationBook

variable {env : Env} {issued : String → EmailVerificationToken → Prop} {presented : String → Prop}
  {s s' : AccountDb} {token token' : String} {row row' : EmailVerificationToken} {now : DateTime}

/-- Two tokens of one id are one token. -/
theorem token_eq (hcrates : env.crates.Lawful) (h : VerificationBook env issued presented s)
    (hrow : issued token row) (hrow' : issued token' row') (hid : row.id = row'.id) :
    token = token' := by
  obtain ⟨x, hx, hsame, -⟩ := h.found token row hrow
  obtain ⟨y, hy, hsame', -⟩ := h.found token' row' hrow'
  obtain rfl : x = y := Option.some.inj (hx.symm.trans (hid ▸ hy))
  have hhash : row.tokenHash = row'.tokenHash := hsame.tokenHash.symm.trans hsame'.tokenHash
  have hverified := (h.certified token row hrow).verified hcrates token
  rw [hhash, (h.certified token' row' hrow').verified hcrates token] at hverified
  simpa using hverified

/-- The rows of one token agree on everything else. -/
theorem row_eq (hcrates : env.crates.Lawful) (h : VerificationBook env issued presented s)
    (hrow : issued token row) (hrow' : issued token row') :
    deadline row = deadline row' ∧ row.userId = row'.userId := by
  have hid := (h.certified token row hrow).id_eq hcrates (h.certified token row' hrow')
  obtain ⟨x, hx, hsame, -⟩ := h.found token row hrow
  obtain ⟨y, hy, hsame', -⟩ := h.found token row' hrow'
  obtain rfl : x = y := Option.some.inj (hx.symm.trans (hid ▸ hy))
  have hexpires : row.expiresAt = row'.expiresAt := hsame.expiresAt.symm.trans hsame'.expiresAt
  exact ⟨by rw [deadline, deadline, hexpires], hsame.userId.symm.trans hsame'.userId⟩

/-- What passes the checks is a token of the book that was not presented in time before, and is. -/
theorem passes (hcrates : env.crates.Lawful) (h : VerificationBook env issued presented s)
    {x : EmailVerificationToken} (hchecks : PassesVerification env now token s x) :
    ∃ row, issued token row ∧ SameToken x row ∧ ¬ presented token ∧ now < deadline row := by
  obtain ⟨hmem, hkey⟩ := Table.find_some hchecks.found
  obtain ⟨owner, row, hrow, hsame⟩ := h.rows x hmem
  have hverified := hchecks.verified
  rw [hsame.tokenHash, (h.certified owner row hrow).verified hcrates token] at hverified
  obtain rfl : token = owner := of_decide_eq_true (Except.ok.inj hverified)
  refine ⟨row, hrow, hsame, ?_, ?_⟩
  · obtain ⟨y, hy, -, hlive⟩ := h.found token row hrow
    have hfound := hchecks.found
    rw [hsame.id, hy] at hfound
    obtain rfl := Option.some.inj hfound
    exact hlive.mp hchecks.unconsumed
  · obtain ⟨expiresAt, hnow, hdecoded⟩ := hchecks.decoded
    rw [((h.certified token row hrow).decoded hcrates hdecoded).2.2] at hnow
    exact hnow

/-- And such a token passes. -/
theorem checks (hcrates : env.crates.Lawful) (h : VerificationBook env issued presented s)
    (hrow : issued token row) (hlive : ¬ presented token) (hnow : now < deadline row) :
    ∃ x, PassesVerification env now token s x ∧ SameToken x row := by
  obtain ⟨x, hx, hsame, hconsumed⟩ := h.found token row hrow
  have hcertified := h.certified token row hrow
  refine ⟨x, ?_, hsame⟩
  constructor
  · refine ⟨deadline row, hnow, ?_⟩
    rw [hsame.id, hsame.userId]
    exact hcertified.decodes hcrates hnow
  · rw [hsame.id]
    exact hx
  · exact hconsumed.mpr hlive
  · rw [hsame.expiresAt]
    exact Int.lt_of_lt_of_le hnow (deadline_le row)
  · rw [hsame.tokenHash, hcertified.verified hcrates token, decide_eq_true rfl]

/-- Equivalent books are kept alike. -/
theorem congr {issued' : String → EmailVerificationToken → Prop} {presented' : String → Prop}
    (h : VerificationBook env issued presented s)
    (hissued : ∀ token row, issued token row ↔ issued' token row)
    (hpresented : ∀ token, presented token ↔ presented' token) :
    VerificationBook env issued' presented' s := by
  obtain rfl : issued = issued' := funext fun token => funext fun row => propext (hissued token row)
  obtain rfl : presented = presented' := funext fun token => propext (hpresented token)
  exact h

/-- What leaves the tokens and the users in place. -/
theorem keep (h : VerificationBook env issued presented s)
    (htokens : s'.verifications = s.verifications) (husers : UsersKept s.auth s'.auth) :
    VerificationBook env issued presented s' where
  rows := htokens ▸ h.rows
  found := htokens ▸ h.found
  certified := h.certified
  readable token row hrow := husers _ (h.readable token row hrow)
  known := h.known

/-- A token of the book is presented in time: its row is consumed. -/
theorem present (hcrates : env.crates.Lawful) (h : VerificationBook env issued presented s)
    (hrow : issued token row) (now : DateTime) :
    VerificationBook env issued (fun t => presented t ∨ t = token)
      ((AccountWrite.consumeVerification row.id now).apply s) := by
  -- rows, lookups and known tokens; that a token is certified and its user readable stays
  refine ⟨?_, ?_, h.certified, h.readable, ?_⟩
  · intro y hy
    obtain ⟨x, hx, rfl⟩ := List.mem_map.mp hy
    obtain ⟨t, r, hr, hsame⟩ := h.rows x hx
    refine ⟨t, r, hr, ?_⟩
    split
    · exact hsame.consume now
    · exact hsame
  · intro t r hr
    obtain ⟨x, hx, hsame, hlive⟩ := h.found t r hr
    rw [find_consumeVerification]
    -- the stamped row belongs to exactly one token that was handed out
    by_cases hid : r.id = row.id
    · have ht : t = token := h.token_eq hcrates hr hrow hid
      rw [if_pos hid, ← hid, hx]
      refine ⟨x.consume now, rfl, hsame.consume now, ?_⟩
      exact iff_of_false (consume_consumed x now) fun hnot => hnot (.inr ht)
    · have ht : t ≠ token := by
        rintro rfl
        exact hid ((h.certified t r hr).id_eq hcrates (h.certified t row hrow))
      rw [if_neg hid]
      refine ⟨x, hx, hsame, ?_⟩
      rw [hlive, not_or, and_iff_left ht]
  · rintro t (ht | rfl)
    · exact h.known t ht
    · exact ⟨row, hrow⟩

/-- A row is stored for a new token. -/
theorem issue (hcrates : env.crates.Lawful) (h : VerificationBook env issued presented s)
    (hcertified : Certified env token row) (hunconsumed : row.consumedAt = none)
    (hreadable : Readable s.auth row.userId) (hfresh : s.verifications.find row.id = none) :
    VerificationBook env (fun t r => issued t r ∨ t = token ∧ r = row) presented
      ((AccountWrite.insertVerification row).apply s) := by
  have hfind : ∀ id, ((AccountWrite.insertVerification row).apply s).verifications.find id =
      if row.id = id then some row else s.verifications.find id := by
    intro id
    have hinsert := Table.find_insert s.verifications row id
    by_cases hid : row.id = id
    · rw [← hid, hfresh] at hinsert
      rw [← hid, if_pos rfl]
      exact hinsert.trans (if_pos rfl)
    · rw [if_neg hid]
      exact hinsert.trans (if_neg hid)
  refine ⟨?_, ?_, ?_, ?_, ?_⟩
  · intro x hx
    rcases (Table.mem_insert hfresh).mp hx with hx | rfl
    · obtain ⟨t, r, hr, hsame⟩ := h.rows x hx
      exact ⟨t, r, .inl hr, hsame⟩
    · exact ⟨token, x, .inr ⟨rfl, rfl⟩, .refl x⟩
  · rintro t r (hr | ⟨rfl, rfl⟩)
    · obtain ⟨x, hx, hsame⟩ := h.found t r hr
      have hid : row.id ≠ r.id := by
        intro hid
        rw [← hid, hfresh] at hx
        cases hx
      rw [hfind, if_neg hid]
      exact ⟨x, hx, hsame⟩
    · rw [hfind, if_pos rfl]
      refine ⟨r, rfl, .refl r, iff_of_true hunconsumed ?_⟩
      -- a token that was presented has a row already, and under this id
      intro hpresented
      obtain ⟨old, hold⟩ := h.known t hpresented
      obtain ⟨x, hx, -⟩ := h.found t old hold
      rw [(h.certified t old hold).id_eq hcrates hcertified, hfresh] at hx
      cases hx
  · rintro t r (hr | ⟨rfl, rfl⟩)
    · exact h.certified t r hr
    · exact hcertified
  · rintro t r (hr | ⟨rfl, rfl⟩)
    · exact h.readable t r hr
    · exact hreadable
  · intro t ht
    obtain ⟨r, hr⟩ := h.known t ht
    exact ⟨r, .inl hr⟩

end VerificationBook

/-! ## What a call does to the book

  Which moves of the book a call makes, and that the rows follow. -/

/-- The call is answered with the token and has stored the row. -/
def HandsOut (s : AccountDb) (r : Except AccountError AccountAnswer) (s' : AccountDb) (token : String)
    (row : EmailVerificationToken) : Prop :=
  (∃ resp, r = .ok (.begun resp) ∧ resp.verificationToken = token) ∧
    s.verifications.find row.id = none ∧ s'.verifications.find row.id = some row

/-- The call presents a token in time. -/
def Presents (issued : String → EmailVerificationToken → Prop) (c : AccountCall) (token : String) :
    Prop :=
  c.request = .verifyEmail token ∧ ∃ row, issued token row ∧ c.now < deadline row

/-- **One call**: the book moves with it. -/
theorem VerificationBook.step {env : Env} (hcrates : env.crates.Lawful) {c : AccountCall}
    {s s' : AccountDb} {r : Except AccountError AccountAnswer}
    {issued : String → EmailVerificationToken → Prop} {presented : String → Prop}
    (h : VerificationBook env issued presented s) (houtcome : AccountOutcome env c s r s') :
    VerificationBook env (fun token row => issued token row ∨ HandsOut s r s' token row)
      (fun token => presented token ∨ Presents issued c token) s' := by
  have hnothing : (∀ resp, r ≠ .ok (.begun resp)) → ∀ token row,
      issued token row ↔ issued token row ∨ HandsOut s r s' token row := by
    intro hanswer token row
    refine (or_iff_left ?_).symm
    rintro ⟨⟨resp, hr, -⟩, -⟩
    exact hanswer resp hr
  cases houtcome with
  | quiet answer tokens users verify =>
    refine (h.keep tokens users).congr (hnothing answer) fun token => (or_iff_left_of_imp ?_).symm
    -- a token that is presented in time and still fails was presented before
    rintro ⟨hrequest, row, hrow, hnow⟩
    by_contra hlive
    obtain ⟨x, hchecks, -⟩ := h.checks hcrates hrow hlive hnow
    exact (verify token hrequest).2 x hchecks
  | @begun draw userId row resp request certified unconsumed readable fresh =>
    refine (h.issue hcrates certified unconsumed readable fresh).congr ?_ ?_
    · intro token row'
      refine or_congr_right ⟨?_, ?_⟩
      · rintro ⟨rfl, rfl⟩
        exact ⟨⟨resp, rfl, rfl⟩, fresh, Table.find_insert_new rfl fresh⟩
      · rintro ⟨⟨resp', hr, rfl⟩, hnone, hsome⟩
        cases hr
        have hfind := (Table.find_insert s.verifications row row'.id).symm.trans hsome
        rw [hnone] at hfind
        split at hfind
        · exact ⟨rfl, (Option.some.inj hfind).symm⟩
        · cases hfind
    · intro token
      refine (or_iff_left ?_).symm
      rintro ⟨hrequest, -⟩
      rw [request] at hrequest
      cases hrequest
  | @verified token x _ request checks answer active =>
    obtain ⟨row, hrow, hsame, hlive, hnow⟩ := h.passes hcrates checks
    have hmid : VerificationBook env issued (fun t => presented t ∨ t = token)
        (confirmed c.now x s) := by
      refine (h.present hcrates hrow c.now.toTimestamptz).keep ?_ ?_
      · rw [confirmed, hsame.id]; rfl
      · rw [confirmed, hsame.id]
        exact usersKept_verify _ _
    refine hmid.congr (hnothing answer) fun t => or_congr_right ⟨?_, ?_⟩
    · rintro rfl
      exact ⟨request, row, hrow, hnow⟩
    · rintro ⟨hrequest, -⟩
      rw [request] at hrequest
      cases hrequest
      rfl

/-! ## Every run

  The columns of the book are then replaced by the past of the run, which is what the theorem
  speaks of. -/

/-- Calls served one after another. -/
def runAccountCalls (env : Env) (s : AccountDb) (cs : List AccountCall) : AccountDb :=
  Serial.run (AccountCall.program env) s cs

section Run

variable (env : Env) (s : AccountDb) (cs : List AccountCall)

/-- An earlier begin was answered with the token and stored the row. -/
def HandedOut (token : String) (row : EmailVerificationToken) : Prop :=
  Serial.Earlier (fun pre c => HandsOut (runAccountCalls env s pre)
    (c.serve env (runAccountCalls env s pre)).1 (c.serve env (runAccountCalls env s pre)).2 token row)
    cs

/-- An earlier verification presented the token in time, after it had been handed out. -/
def Presented (token : String) : Prop :=
  Serial.Earlier (fun pre c => Presents (HandedOut env s pre) c token) cs

end Run

section

variable {env : Env} {s : AccountDb} {cs : List AccountCall}

/-- The rows follow the book of the run. -/
theorem verificationBook_run (hcrates : env.crates.Lawful) (hs : s.verifications.rows = []) :
    VerificationBook env (HandedOut env s cs) (Presented env s cs) (runAccountCalls env s cs) := by
  induction cs using List.reverseRecOn with
  | nil =>
    refine ⟨?_, ?_, ?_, ?_, ?_⟩
    · intro x hx
      rw [show (runAccountCalls env s []).verifications.rows = [] from hs] at hx
      cases hx
    · exact fun token row h => absurd h Serial.earlier_nil
    · exact fun token row h => absurd h Serial.earlier_nil
    · exact fun token row h => absurd h Serial.earlier_nil
    · exact fun token h => absurd h Serial.earlier_nil
  | append_singleton cs c ih =>
    have hstep := ih.step hcrates (c.outcome env (runAccountCalls env s cs))
    rw [runAccountCalls, Serial.run_snoc]
    exact hstep.congr (fun token row => Serial.earlier_snoc.symm) fun token =>
      Serial.earlier_snoc.symm

/-- **A verification succeeds** if and only if its token was handed out earlier in the run and not
    presented in time since, it is in time, and its user is active.

    Being presented in time spends a token even if the call is refused afterwards, because its user
    is not active.  That is why the second condition speaks of presenting and not of succeeding. -/
theorem verification_accepted_iff (hcrates : env.crates.Lawful) (hs : s.verifications.rows = [])
    {now : DateTime} {token : String} :
    (∃ u, (AccountCall.serve env ⟨now, .verifyEmail token⟩ (runAccountCalls env s cs)).1 =
      .ok (.user u)) ↔
    ∃ row, HandedOut env s cs token row ∧ ¬ Presented env s cs token ∧ now < deadline row ∧
      ∃ user, (runAccountCalls env s cs).auth.users.find row.userId = some user ∧
        user.status = "active" := by
  -- what the run so far has established, and what the next call can do
  have hbook : VerificationBook env (HandedOut env s cs) (Presented env s cs)
      (runAccountCalls env s cs) := verificationBook_run hcrates hs
  have houtcome := AccountCall.outcome env ⟨now, .verifyEmail token⟩
    (runAccountCalls env s cs)
  generalize (AccountCall.serve env ⟨now, .verifyEmail token⟩ (runAccountCalls env s cs)).1 = r
    at houtcome ⊢
  generalize (AccountCall.serve env ⟨now, .verifyEmail token⟩ (runAccountCalls env s cs)).2 = s'
    at houtcome
  cases houtcome with
  -- nothing was consumed: the call has failed, and so some condition on the right fails
  | quiet answer tokens users verify =>
    obtain ⟨⟨e, rfl⟩, hfails⟩ := verify token rfl
    refine iff_of_false ?_ ?_
    · rintro ⟨u, hr⟩
      cases hr
    · rintro ⟨row, hrow, hlive, hnow, -⟩
      obtain ⟨x, hchecks, -⟩ := hbook.checks hcrates hrow hlive hnow
      exact hfails x hchecks
  -- another operation's outcome
  | begun request => cases request
  | @verified token' x _ request checks answer active =>
    cases request
    rw [active]
    obtain ⟨row, hrow, hsame, hlive, hnow⟩ := hbook.passes hcrates checks
    -- the stored row and the one handed out have one user
    rw [hsame.userId]
    constructor
    · rintro ⟨u, user, hu, -, hactive⟩
      exact ⟨row, hrow, hlive, hnow, u, hu, hactive⟩
    · rintro ⟨row', hrow', -, -, u, hu, hactive⟩
      rw [← (hbook.row_eq hcrates hrow hrow').2] at hu
      obtain ⟨u', user, hu', huser'⟩ := hbook.readable token row hrow
      obtain rfl := Option.some.inj (hu.symm.trans hu')
      exact ⟨u, user, hu, huser', hactive⟩

end

section

open EduStell.Auth.Scenario

/-- One active user who has verified nothing. -/
def Scenario.newcomer : AccountDb where
  auth := {
    users := ⟨[⟨1, "p@x", "pw", "parent", false, false, "active"⟩], List.nodup_singleton _⟩
    refreshTokens := .empty
    audit := [] }
  verifications := .empty

/-- The user asks for a token at time 0. -/
def Scenario.askForToken : AccountCall := ⟨0, .beginEmailVerification ⟨8, ""⟩ 1⟩

/-- The token of `askForToken`. -/
def Scenario.emailToken : String :=
  token (.emailVerification ⟨1, 8, 86400, 0, "email_verification"⟩) "A"

/-- The row of `askForToken`. -/
def Scenario.emailTokenRow : EmailVerificationToken := ⟨8, 1, emailToken, 86400000000000, none⟩

/-- The token of `askForToken` is presented. -/
def Scenario.verifyAt (now : DateTime) : AccountCall := ⟨now, .verifyEmail emailToken⟩

/-- The token is accepted, and a second time it is not. -/
theorem verification_accepted_once :
    (∃ u, ((Scenario.verifyAt 1).serve env (runAccountCalls env newcomer [askForToken])).1 =
      .ok (.user u)) ∧
    ¬ ∃ u, ((Scenario.verifyAt 2).serve env
      (runAccountCalls env newcomer [askForToken, Scenario.verifyAt 1])).1 = .ok (.user u) := by
  have hhanded : HandedOut env newcomer [askForToken] emailToken emailTokenRow :=
    ⟨[], askForToken, [], rfl, ⟨_, rfl, rfl⟩, rfl, rfl⟩
  constructor
  · refine (verification_accepted_iff crates_lawful rfl).mpr
      ⟨emailTokenRow, hhanded, ?_, by decide, _, rfl, rfl⟩
    rintro ⟨pre, c, post, hcs, hrequest, -⟩
    have hc : c ∈ [askForToken] := by rw [hcs]; simp
    rw [List.mem_singleton.mp hc] at hrequest
    cases hrequest
  · intro haccepted
    obtain ⟨row, -, hlive, -⟩ := (verification_accepted_iff crates_lawful rfl).mp haccepted
    exact hlive ⟨[askForToken], Scenario.verifyAt 1, [], rfl, rfl, emailTokenRow, hhanded, by decide⟩

end

end EduStell.Auth
