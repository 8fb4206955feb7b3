/-
  Verified addresses under concurrency: what `verify_email` marks stays marked, and nothing else
  marks.

  `verify_email` reads the token row, consumes it and marks the user in transactions of their own, so
  two verifications may both pass the checks of one token.  That does no harm: the second UPDATE of
  the row affects nothing, and marking a user twice is marking him once.  What every interleaving
  keeps is a pact (`accountPact`): no mark is ever taken back, a row is consumed only by a call that
  presents its token in time, and a user is marked only after that.  What the auth service does is
  taken from its own pact.

  `accountPact` has the auth service as a part of it (`authPart_carries`); of the account service
  itself there are three kinds of statements, and one lemma for each of them.
-/
import EduStell.Auth.Conduct
import EduStell.Auth.EmailVerification

namespace EduStell.Auth

open Txn Program

/-! ## The pact

  A mark is accounted for by the call that has made it, or was there at the start. -/

/-- A call of the run presents in time, at `t`, a token of this row. -/
def PresentedFor (env : Env) (es : List AccountHappening) (row : EmailVerificationToken)
    (t : DateTime) : Prop :=
  ∃ i now token expiresAt, .call i ⟨now, .verifyEmail token⟩ ∈ es ∧ t = now.toTimestamptz ∧
    now < expiresAt ∧ now < row.expiresAt ∧
    env.decodeEmailVerificationToken now token = .ok (row.userId, row.id, expiresAt) ∧
    env.verifySecret token row.tokenHash = .ok true

/-- `REFERENCES users(id)` -/
def TokensHaveUsers (s : AccountDb) : Prop :=
  ∀ id row, s.verifications.find id = some row → (s.auth.users.find row.userId).isSome = true

/-- Every mark in `s` has been there in `s₀` or was made by a call of the run that may make it. -/
structure Founded (env : Env) (es : List AccountHappening) (s₀ s : AccountDb) : Prop where
  /-- A verification token belongs to a user who is there. -/
  users : TokensHaveUsers s₀ → TokensHaveUsers s
  /-- A token is consumed from the start, or by a call that has presented it in time. -/
  consumed : ∀ id row t, s.verifications.find id = some row → row.consumedAt = some t →
    (∃ row₀, s₀.verifications.find id = some row₀ ∧ row₀.consumedAt = some t) ∨
      PresentedFor env es row t
  /-- An address is verified from the start, or by a call that has presented a token of its user. -/
  verified : ∀ id u, s.auth.users.find id = some u → u.emailVerified = true →
    (∃ u₀, s₀.auth.users.find id = some u₀ ∧ u₀.emailVerified = true) ∨
      ∃ row t, s.verifications.find row.id = some row ∧ row.userId = id ∧
        row.consumedAt.isSome = true ∧ PresentedFor env es row t

/-- No user or token is lost, and no mark. -/
structure MarksKept (s s' : AccountDb) : Prop where
  /-- No user is lost, and no mark. -/
  users : ∀ id u, s.auth.users.find id = some u → ∃ u', s'.auth.users.find id = some u' ∧
    (u.emailVerified = true → u'.emailVerified = true)
  /-- No token is lost, and no consumption is taken back. -/
  tokens : ∀ id row, s.verifications.find id = some row → ∃ row',
    s'.verifications.find id = some row' ∧ SameToken row' row ∧
    (row.consumedAt.isSome = true → row'.consumedAt = row.consumedAt)

/-- A user who is answered by a verification is marked. -/
def VerifiedAnswer (s₀ : AccountDb) (c : AccountCall) (r : Except AccountError AccountAnswer)
    (s : AccountDb) : Prop :=
  TokensHaveUsers s₀ → ∀ token u, c.request = .verifyEmail token → r = .ok (.user u) →
    u.emailVerified = true ∧ MarkedUser s.auth u.id

/-- Nothing has changed. -/
theorem MarksKept.refl (s : AccountDb) : MarksKept s s where
  users _ u hu := ⟨u, hu, id⟩
  tokens _ row hrow := ⟨row, hrow, .refl row, fun _ => rfl⟩

/-- Three rows for one token. -/
theorem SameToken.trans {x y z : EmailVerificationToken} (h : SameToken x y) (h' : SameToken y z) :
    SameToken x z :=
  ⟨h.id.trans h'.id, h.userId.trans h'.userId, h.tokenHash.trans h'.tokenHash,
    h.expiresAt.trans h'.expiresAt⟩

/-- What is kept over two stretches is kept over both. -/
theorem MarksKept.trans {s t u : AccountDb} (h : MarksKept s t) (h' : MarksKept t u) :
    MarksKept s u where
  users id x hx := by
    obtain ⟨y, hy, hxy⟩ := h.users id x hx
    obtain ⟨z, hz, hyz⟩ := h'.users id y hy
    exact ⟨z, hz, fun hverified => hyz (hxy hverified)⟩
  tokens id x hx := by
    obtain ⟨y, hy, hsame, hxy⟩ := h.tokens id x hx
    obtain ⟨z, hz, hsame', hyz⟩ := h'.tokens id y hy
    refine ⟨z, hz, hsame'.trans hsame, fun hconsumed => ?_⟩
    have hy := hxy hconsumed
    rw [← hy] at hconsumed ⊢
    exact hyz hconsumed

/-- A marked user stays marked. -/
theorem MarksKept.marked {s s' : AccountDb} (h : MarksKept s s') {id : Uuid}
    (hmarked : MarkedUser s.auth id) : MarkedUser s'.auth id := by
  obtain ⟨u, hu, hverified⟩ := hmarked
  obtain ⟨u', hu', hkept⟩ := h.users id u hu
  exact ⟨u', hu', hkept hverified⟩

/-- Who has presented a token has presented the one that the changed row is for. -/
theorem PresentedFor.same {env : Env} {es : List AccountHappening} {row row' : EmailVerificationToken}
    {t : DateTime} (h : PresentedFor env es row t) (hsame : SameToken row' row) :
    PresentedFor env es row' t := by
  obtain ⟨i, now, token, expiresAt, hcall, ht, hnow, hrow, hdecoded, hverified⟩ := h
  refine ⟨i, now, token, expiresAt, hcall, ht, hnow, ?_, ?_, ?_⟩
  · rw [hsame.expiresAt]; exact hrow
  · rw [hsame.id, hsame.userId]; exact hdecoded
  · rw [hsame.tokenHash]; exact hverified

/-- All that is agreed on. -/
structure AccountsFounded (env : Env) (es : List AccountHappening) (s₀ s : AccountDb) : Prop where
  marks : Founded env es s₀ s
  roles : RolesFounded es s₀.auth s.auth

/-- No mark is lost, and no role. -/
structure AccountsKept (s s' : AccountDb) : Prop where
  marks : MarksKept s s'
  roles : RolesKept s.auth s'.auth

/-- A verified address is answered for, and so is a session. -/
structure AccountAnswered (env : Env) (s₀ : AccountDb) (c : AccountCall)
    (r : Except AccountError AccountAnswer) (s : AccountDb) : Prop where
  verified : VerifiedAnswer s₀ c r s
  session : ∀ a, r = .ok (.auth a) → SessionAnswer env (.ok a) s.auth

/-- What the calls of a run agree on. -/
def accountPact (env : Env) (es : List AccountHappening) (s₀ : AccountDb) :
    Pact AccountDb AccountError AccountAnswer AccountCall where
  inv := AccountsFounded env es s₀
  rely := AccountsKept
  guar s s' := AccountsFounded env es s₀ s' ∧ AccountsKept s s'
  arrivals c := ∃ i, .call i c ∈ es
  answers := AccountAnswered env s₀
  refl s := ⟨.refl s, .refl s.auth⟩
  -- marks and roles are kept over two steps if they are kept over each
  trans h h' := ⟨h.marks.trans h'.marks, h.roles.trans h'.roles⟩
  keep _ h := h
  answers_stable h hr := by
    constructor
    · intro hs token u hrequest hu
      obtain ⟨hverified, hmarked⟩ := hr.verified hs token u hrequest hu
      exact ⟨hverified, h.marks.marked hmarked⟩
    · intro a ha resp hresp
      obtain ⟨now, jti, user, sessionId, hsession⟩ := hr.session a ha resp hresp
      exact ⟨now, jti, user, sessionId, h.roles.sessionOf hsession⟩

/-! ## Each statement keeps the pact

  Marks and tokens are written by few statements, and the auth service writes neither. -/

section Statements

variable {env : Env} {es : List AccountHappening} {s₀ s : AccountDb}

/-- The step from `s` to `s'`, as far as marks are concerned. -/
structure MarksStep (env : Env) (es : List AccountHappening) (s₀ s s' : AccountDb) : Prop where
  founded : Founded env es s₀ s'
  kept : MarksKept s s'

/-- Whose marks stay as they were. -/
theorem marks_of_users {s' : AccountDb} (h : Founded env es s₀ s)
    (htokens : s'.verifications = s.verifications)
    (husers : ∀ id u, s.auth.users.find id = some u → ∃ u', s'.auth.users.find id = some u' ∧
      (u.emailVerified = true → u'.emailVerified = true))
    (hmarks : ∀ id, MarkedUser s'.auth id → MarkedUser s.auth id ∨
      ∃ row t, s.verifications.find row.id = some row ∧ row.userId = id ∧
        row.consumedAt.isSome = true ∧ PresentedFor env es row t) : MarksStep env es s₀ s s' := by
  refine ⟨⟨?_, ?_, ?_⟩, ⟨husers, ?_⟩⟩
  · -- the users of the tokens: a row may change, its key stays
    intro hs id row hrow
    rw [htokens] at hrow
    obtain ⟨u, hu⟩ := Option.isSome_iff_exists.mp (h.users hs id row hrow)
    obtain ⟨u', hu', -⟩ := husers _ u hu
    rw [hu']; rfl
  · rw [htokens]
    exact h.consumed
  · -- a mark that is there now was there, or is the new one
    intro id u hu hverified
    rw [htokens]
    rcases hmarks id ⟨u, hu, hverified⟩ with ⟨u', hu', hverified'⟩ | hnew
    · exact h.verified id u' hu' hverified'
    · exact .inr hnew
  · -- the tokens have not been touched
    intro id row hrow
    rw [htokens]
    exact ⟨row, hrow, .refl row, fun _ => rfl⟩

/-- A user is marked for whom a token has been presented and consumed. -/
theorem marks_markEmailVerified (h : Founded env es s₀ s) {row : EmailVerificationToken} {t : DateTime}
    (hrow : s.verifications.find row.id = some row) (hconsumed : row.consumedAt.isSome = true)
    (hpresented : PresentedFor env es row t) :
    MarksStep env es s₀ s ((AccountWrite.markEmailVerified row.userId).apply s) := by
  refine marks_of_users h rfl ?_ ?_
  · intro id u hu
    rw [find_markEmailVerified, hu]
    split
    · exact ⟨u.verify, rfl, fun _ => rfl⟩
    · exact ⟨u, rfl, fun hverified => hverified⟩
  · rintro id ⟨u, hu, hverified⟩
    rw [find_markEmailVerified] at hu
    split at hu
    · rename_i hid
      exact .inr ⟨row, t, hrow, hid.symm, hconsumed, hpresented⟩
    · exact .inl ⟨u, hu, hverified⟩

/-- A token is consumed that has been presented; one that is consumed already stays as it is. -/
theorem marks_consumeVerification (h : Founded env es s₀ s) {row : EmailVerificationToken} {t : DateTime}
    (hrow : s.verifications.find row.id = some row) (hpresented : PresentedFor env es row t) :
    MarksStep env es s₀ s ((AccountWrite.consumeVerification row.id t).apply s) := by
  -- forwards: every token is still there, and a stamp once set stays
  have hsame : ∀ id x, s.verifications.find id = some x → ∃ x',
      ((AccountWrite.consumeVerification row.id t).apply s).verifications.find id = some x' ∧
      SameToken x' x ∧ (x.consumedAt.isSome = true → x'.consumedAt = x.consumedAt) := by
    intro id x hx
    rw [find_consumeVerification]
    split
    · rename_i hid
      refine ⟨x.consume t, ?_, (SameToken.refl x).consume t, fun hconsumed => ?_⟩
      · rw [← hid, hx]; rfl
      · obtain ⟨t', ht'⟩ := Option.isSome_iff_exists.mp hconsumed
        rw [EmailVerificationToken.consume, ht']; rfl
    · exact ⟨x, hx, .refl x, fun _ => rfl⟩
  -- backwards: every stamp that is there now was there, or is this one
  have hback : ∀ id x, ((AccountWrite.consumeVerification row.id t).apply s).verifications.find id =
      some x → ∃ y, s.verifications.find id = some y ∧ SameToken x y ∧
        (x.consumedAt = y.consumedAt ∨ y = row ∧ x.consumedAt = some t) := by
    intro id x hx
    rw [find_consumeVerification] at hx
    split at hx
    · rename_i hid
      rw [hrow] at hx
      obtain rfl := Option.some.inj hx
      refine ⟨row, hid ▸ hrow, (SameToken.refl row).consume t, ?_⟩
      cases hconsumed : row.consumedAt with
      | none =>
        right
        refine ⟨rfl, ?_⟩
        change row.consumedAt.or (some t) = some t
        rw [hconsumed]; rfl
      | some t' =>
        left
        change row.consumedAt.or (some t) = some t'
        rw [hconsumed]; rfl
    · exact ⟨x, hx, .refl x, .inl rfl⟩
  refine ⟨⟨?_, ?_, ?_⟩, ⟨fun _ u hu => ⟨u, hu, fun hverified => hverified⟩, hsame⟩⟩
  · -- the invariant looks back along `hback`; the token behind a mark is followed along `hsame`
    intro hs id x hx
    obtain ⟨y, hy, hxy, -⟩ := hback id x hx
    rw [hxy.userId]
    exact h.users hs id y hy
  · intro id x t' hx ht'
    obtain ⟨y, hy, hxy, hconsumed | ⟨rfl, hconsumed⟩⟩ := hback id x hx
    · exact (h.consumed id y t' hy (hconsumed ▸ ht')).imp_right fun hnew => hnew.same hxy
    · obtain rfl : t = t' := Option.some.inj (hconsumed.symm.trans ht')
      exact .inr (hpresented.same hxy)
  · intro id u hu hverified
    refine (h.verified id u hu hverified).imp_right ?_
    rintro ⟨x, t', hx, hid, hconsumed, hpresented'⟩
    obtain ⟨x', hx', hxx, hkept⟩ := hsame x.id x hx
    refine ⟨x', t', hxx.id ▸ hx', hxx.userId.trans hid, ?_, hpresented'.same hxx⟩
    rw [hkept hconsumed]
    exact hconsumed

/-- A token is stored for a user who is there. -/
theorem marks_insertVerification (h : Founded env es s₀ s) {row : EmailVerificationToken}
    (huser : (s.auth.users.find row.userId).isSome = true) (hunconsumed : row.consumedAt = none) :
    MarksStep env es s₀ s ((AccountWrite.insertVerification row).apply s) := by
  have hold : ∀ id x, s.verifications.find id = some x →
      ((AccountWrite.insertVerification row).apply s).verifications.find id = some x :=
    fun id x hx => Table.find_insert_of_some hx row
  have hback : ∀ id x, ((AccountWrite.insertVerification row).apply s).verifications.find id =
      some x → x = row ∨ s.verifications.find id = some x :=
    fun id x hx => Table.of_find_insert hx
  refine ⟨⟨?_, ?_, ?_⟩, ⟨fun _ u hu => ⟨u, hu, fun hverified => hverified⟩, ?_⟩⟩
  · intro hs id x hx
    rcases hback id x hx with rfl | hx
    · exact huser
    · exact h.users hs id x hx
  · intro id x t hx ht
    rcases hback id x hx with rfl | hx
    · rw [hunconsumed] at ht; cases ht
    · exact h.consumed id x t hx ht
  · intro id u hu hverified
    refine (h.verified id u hu hverified).imp_right ?_
    rintro ⟨x, t, hx, hrest⟩
    exact ⟨x, t, hold x.id x hx, hrest⟩
  · exact fun id x hx => ⟨x, hold id x hx, .refl x, fun _ => rfl⟩

end Statements

section Steps

variable {env : Env} {es : List AccountHappening} {s₀ s s' : AccountDb}

/-- A token is written. -/
theorem guar_tokens (h : AccountsFounded env es s₀ s) (hmarks : MarksStep env es s₀ s s')
    (hauth : s'.auth = s.auth) : (accountPact env es s₀).guar s s' := by
  refine ⟨⟨hmarks.founded, ?_⟩, ⟨hmarks.kept, ?_⟩⟩
  · rw [hauth]
    exact h.roles
  · rw [hauth]
    exact .refl _

/-- A user is marked. -/
theorem guar_markEmailVerified (h : AccountsFounded env es s₀ s) {id : Uuid}
    (hmarks : MarksStep env es s₀ s ((AccountWrite.markEmailVerified id).apply s)) :
    (accountPact env es s₀).guar s ((AccountWrite.markEmailVerified id).apply s) := by
  refine ⟨⟨hmarks.founded, ?_⟩, ⟨hmarks.kept, ?_, .refl _⟩⟩
  · intro id' u hu
    rw [find_markEmailVerified] at hu
    split at hu
    · obtain ⟨u', hu', rfl⟩ := Option.map_eq_some_iff.mp hu
      exact h.roles id' u' hu'
    · exact h.roles id' u hu
  · exact Table.keeps_modify _ id _ (fun _ h => by exact h) fun _ => rfl

/-- The auth service works on a part of the account database. -/
theorem authPart_lawful : authPart.Lawful where
  get _ _ := rfl
  apply _ _ := rfl
  touches w r ht := by
    cases r with
    | auth r => exact ⟨r, rfl, ht⟩
    | verification id => exact ht.elim

/-- The auth service writes no verification token. -/
theorem published_verifications (ws : List Write) (s : AccountDb) :
    (published (ws.map AccountWrite.auth) s).verifications = s.verifications := by
  induction ws generalizing s with
  | nil => rfl
  | cons w ws ih => exact ih (AccountWrite.apply (.auth w) s)

/-- What the auth service keeps is all that is asked of it. -/
theorem authPart_carries : authPart.Carries
    (((accountPact env es s₀).under (Except.map AccountAnswer.auth)).under
      (Except.mapError AccountError.auth))
    (sessionsPact env es s₀.auth) where
  later h := ⟨h.1.roles, h.2.roles⟩
  guar {s ws} hs h := by
    have hauth : (published (ws.map AccountWrite.auth) s).auth = published ws s.auth :=
      authPart_lawful.published ws s
    have hmarks : MarksStep env es s₀ s (published (ws.map AccountWrite.auth) s) := by
      refine marks_of_users hs.marks (published_verifications ws s) ?_ ?_
      · intro id u hu
        obtain ⟨u', hu', hsame⟩ := h.marks.kept id u hu
        rw [hauth]
        exact ⟨u', hu', fun hverified => hsame.trans hverified⟩
      · intro id hmarked
        rw [hauth] at hmarked
        exact .inl (h.marks.back id hmarked)
    change (accountPact env es s₀).guar s (published (ws.map AccountWrite.auth) s)
    refine ⟨⟨hmarks.founded, ?_⟩, ⟨hmarks.kept, ?_⟩⟩
    · rw [hauth]
      exact h.founded
    · rw [hauth]
      exact h.kept
  answers {q r s} h := by
    constructor
    · intro _ token u hrequest hr
      cases r <;> cases hr
    · intro a ha
      cases r with
      | error e => cases ha
      | ok a' =>
        cases ha
        exact h

end Steps

/-! ## Each call keeps the pact

  Two verifications of one token may interleave in any way: both may mark, and both mark the same
  user. -/

section Rules

variable {α : Type} {X : Pact AccountDb AccountError α AccountCall} {q : AccountCall} {s : AccountDb}

/-- A user looked up by id was there at some later moment. -/
theorem among_findUser {userId : Uuid} {k : Option User → AccountTx α}
    (herr : ∀ e s', X.answers q (.error e) s')
    (h : ∀ s' found, X.Later s s' → (∀ user, found = some user →
      ∃ u, s'.auth.users.find userId = some u ∧ u.toUser = .ok user) →
      (k found).Among X q [] [] s') :
    (authTx (findUserById userId) >>= k).Among X q [] [] s := by
  intro s' hs'
  change (authTx (fromRow (s'.auth.users.find userId)) >>= k).Among X q [] [] s'
  cases hrow : s'.auth.users.find userId with
  | none =>
    refine h s' none hs'.later fun user hfound => ?_
    cases hfound
  | some u =>
    rw [fromRow]
    cases huser : u.toUser with
    | error e => exact herr _ s'
    | ok user =>
      refine h s' (some user) hs'.later fun user' hfound => ?_
      cases hfound
      exact ⟨u, hrow, huser⟩

/-- The UPDATE that consumes a token is a transaction of its own. -/
theorem among_consume {now : DateTime} {id : Uuid} {k : Unit → AccountTx α}
    (h : ∀ s', X.Later s s' →
      X.guar s' ((AccountWrite.consumeVerification id now.toTimestamptz).apply s') ∧
      (k ()).Among X q [] [] ((AccountWrite.consumeVerification id now.toTimestamptz).apply s')) :
    (consumeEmailVerificationToken now id >>= k).Among X q [] [] s := by
  simp only [consumeEmailVerificationToken, bind_assoc]
  refine Among.beginTx (Among.forUpdate fun t ht => ?_)
  refine Among.execute ?_ (Among.commitTx fun t' ht' => ?_)
  · rintro r rfl
    exact List.mem_cons_self
  · exact h t' ⟨ht'.inv, X.trans ht.rely ht'.rely⟩

/-- The UPDATE that marks an address is a transaction of its own. -/
theorem among_markEmailVerified {userId : Uuid} {k : Unit → AccountTx α}
    (h : ∀ s', X.Later s s' → X.guar s' ((AccountWrite.markEmailVerified userId).apply s') ∧
      (k ()).Among X q [] [] ((AccountWrite.markEmailVerified userId).apply s')) :
    (markEmailVerified userId >>= k).Among X q [] [] s := by
  simp only [markEmailVerified, bind_assoc]
  refine Among.beginTx (Among.forUpdate fun t ht => ?_)
  refine Among.execute ?_ (Among.commitTx fun t' ht' => ?_)
  · rintro r rfl
    exact List.mem_cons_self
  · exact h t' ⟨ht'.inv, X.trans ht.rely ht'.rely⟩

/-- The INSERT of a token row is a transaction of its own, unless its id is taken. -/
theorem among_storeVerification {x : EmailVerificationToken} {k : Unit → AccountTx α}
    (herr : ∀ e s', X.answers q (.error e) s')
    (h : ∀ s' row, X.Later s s' → row = { x with expiresAt := x.expiresAt.toTimestamptz } →
      X.guar s' ((AccountWrite.insertVerification row).apply s') ∧
      (k ()).Among X q [] [] ((AccountWrite.insertVerification row).apply s')) :
    (storeEmailVerificationToken x >>= k).Among X q [] [] s := by
  simp only [storeEmailVerificationToken, bind_assoc]
  refine Among.beginTx (Among.forUpdate fun t ht => ?_)
  refine Among.failIf (fun _ => herr _ _) fun _ => ?_
  refine Among.execute ?_ (Among.commitTx fun t' ht' => ?_)
  · rintro r rfl
    exact List.mem_cons_self
  · exact h t' _ ⟨ht'.inv, X.trans ht.rely ht'.rely⟩ rfl

end Rules

section Calls

variable {env : Env} {es : List AccountHappening} {s₀ s : AccountDb} {c : AccountCall}

/-- An error answers for nothing. -/
theorem accountAnswered_error (e : AccountError) (s : AccountDb) :
    AccountAnswered env s₀ c (.error e) s := by
  constructor
  · intro _ token u _ hr
    cases hr
  · intro a hr
    cases hr

/-- An answer of another kind. -/
theorem accountAnswered_other (hc : ∀ token, c.request ≠ .verifyEmail token)
    {r : Except AccountError AccountAnswer} (hr : ∀ a, r ≠ .ok (.auth a)) (s : AccountDb) :
    AccountAnswered env s₀ c r s :=
  ⟨fun _ token _ hrequest => absurd hrequest (hc token), fun a ha => absurd ha (hr a)⟩

/-- Asking for a token keeps the pact: a token that nobody has presented is no mark. -/
theorem among_beginEmailVerification {draw : VerificationDraw} {userId : Uuid}
    (hrequest : c.request = .beginEmailVerification draw userId) :
    (beginEmailVerification env c.now draw userId).Among
      ((accountPact env es s₀).under (Except.map .begun)) c [] [] s := by
  have hanswer : ∀ r s, ((accountPact env es s₀).under (Except.map .begun)).answers c r s := by
    intro r s
    refine accountAnswered_other ?_ ?_ s
    · intro token hverify
      rw [hrequest] at hverify
      cases hverify
    · intro a ha
      cases r <;> cases ha
  refine among_findUser (fun _ _ => hanswer _ _) fun t found hlater hfound => ?_
  refine Among.okOr (fun _ => hanswer _ _) fun user huser => ?_
  refine Among.ofExcept (fun _ _ => hanswer _ _) fun _ _ => Among.failIf (fun _ => hanswer _ _) ?_
  intro _
  refine Among.okOr (fun _ => hanswer _ _) fun signed _ => Among.ofExcept (fun _ _ => hanswer _ _) ?_
  intro issued _
  refine Among.ofExcept (fun _ _ => hanswer _ _) fun hash _ => ?_
  refine among_storeVerification (fun _ _ => hanswer _ _) fun t' row hlater' hrow => ⟨?_, hanswer _ _⟩
  -- users stay, so the one that was found is still there
  obtain ⟨u, hu, hread⟩ := hfound user huser
  have hid : user.id = userId := (toUser_id hread).trans (Table.find_some hu).2
  obtain ⟨u', hu', -⟩ := hlater'.2.marks.users userId u hu
  refine guar_tokens hlater'.1 (marks_insertVerification hlater'.1.marks ?_ ?_) rfl
  · rw [hrow]
    change (t'.auth.users.find user.id).isSome = true
    rw [hid, hu']
    rfl
  · rw [hrow]

/-- A call whose token has passed the checks is one that presents it. -/
theorem presentedFor {token : String} {record : EmailVerificationToken} {expiresAt : DateTime}
    (hcalled : ∃ i, .call i c ∈ es) (hrequest : c.request = .verifyEmail token)
    (hdecoded : env.decodeEmailVerificationToken c.now token =
      .ok (record.userId, record.id, expiresAt))
    (hnow : c.now < expiresAt) (hunexpired : c.now < record.expiresAt)
    (hverified : env.verifySecret token record.tokenHash = .ok true) :
    PresentedFor env es record c.now.toTimestamptz := by
  obtain ⟨i, hcall⟩ := hcalled
  have hc : c = ⟨c.now, .verifyEmail token⟩ := by rw [← hrequest]
  exact ⟨i, c.now, token, expiresAt, hc ▸ hcall, rfl, hnow, hunexpired, hdecoded, hverified⟩

/-- The answer of a verification: the user that was marked, as he is read afterwards. -/
theorem among_markedUser {userId : Uuid}
    (hmarked : TokensHaveUsers s₀ → MarkedUser s.auth userId) : (do
      let user ← okOr (← authTx (findUserById userId)) .notFound
      Program.ofExcept ((ensureActiveUser user).mapError .auth)
      return user.toPublic : AccountTx PublicUser).Among
      ((accountPact env es s₀).under (Except.map .user)) c [] [] s := by
  have herr : ∀ e s, ((accountPact env es s₀).under (Except.map .user)).answers c
      (.error e) s := fun e s => accountAnswered_error e s
  refine among_findUser herr fun t found hlater hfound => ?_
  refine Among.okOr (fun _ => herr _ _) fun user hsome => Among.ofExcept (fun _ _ => herr _ _) ?_
  intro _ _
  refine ⟨?_, fun a ha => by cases ha⟩
  intro hs token' u' _ hanswer
  cases hanswer
  obtain ⟨u, hu, hread⟩ := hfound user hsome
  obtain ⟨u', hu', hverified⟩ := hlater.2.marks.marked (hmarked hs)
  obtain rfl := Option.some.inj (hu.symm.trans hu')
  have hid : user.id = userId := (toUser_id hread).trans (Table.find_some hu).2
  refine ⟨?_, u, ?_, hverified⟩
  · rw [UserRow.toUser] at hread
    split at hread
    · cases hread; exact hverified
    · cases hread
  · change t.auth.users.find user.id = some u
    rw [hid]
    exact hu

/-- The two UPDATEs of a verification, and its answer. -/
theorem among_confirm {record : EmailVerificationToken}
    (hrecord : s.verifications.find record.id = some record)
    (hpresented : PresentedFor env es record c.now.toTimestamptz) : (do
      consumeEmailVerificationToken c.now record.id
      markEmailVerified record.userId
      let user ← okOr (← authTx (findUserById record.userId)) .notFound
      Program.ofExcept ((ensureActiveUser user).mapError .auth)
      return user.toPublic : AccountTx PublicUser).Among
      ((accountPact env es s₀).under (Except.map .user)) c [] [] s := by
  refine among_consume fun t₁ hlater₁ => ?_
  obtain ⟨row₁, hrow₁, hsame₁, -⟩ := hlater₁.2.marks.tokens record.id record hrecord
  have hpresented₁ := hpresented.same hsame₁
  rw [← hsame₁.id] at hrow₁ ⊢
  refine ⟨guar_tokens hlater₁.1 (marks_consumeVerification hlater₁.1.marks hrow₁ hpresented₁) rfl, ?_⟩
  -- and from here on it is consumed
  have hconsumed : ((AccountWrite.consumeVerification row₁.id c.now.toTimestamptz).apply
      t₁).verifications.find row₁.id = some (row₁.consume c.now.toTimestamptz) := by
    rw [find_consumeVerification, if_pos rfl, hrow₁]
    rfl
  have hdone : (row₁.consume c.now.toTimestamptz).consumedAt.isSome = true :=
    Option.isSome_iff_ne_none.mpr (consume_consumed row₁ _)
  refine among_markEmailVerified fun t₂ hlater₂ => ?_
  obtain ⟨row₂, hrow₂, hsame₂, hkept₂⟩ := hlater₂.2.marks.tokens row₁.id _ hconsumed
  have hsame : SameToken row₂ row₁ := hsame₂.trans ((SameToken.refl row₁).consume _)
  have huser : record.userId = row₂.userId := (hsame.trans hsame₁).userId.symm
  have hconsumed₂ : row₂.consumedAt.isSome = true := by
    rw [hkept₂ hdone]
    exact hdone
  have hmarks := marks_markEmailVerified hlater₂.1.marks (hsame.id ▸ hrow₂) hconsumed₂
    (hpresented₁.same hsame)
  rw [huser]
  refine ⟨guar_markEmailVerified hlater₂.1 hmarks, among_markedUser fun hs => ?_⟩
  -- the user of a token is there, and now he is marked
  obtain ⟨u, hu⟩ := Option.isSome_iff_exists.mp (hlater₂.1.marks.users hs _ row₂ hrow₂)
  refine ⟨u.verify, ?_, rfl⟩
  rw [find_markEmailVerified, if_pos rfl, hu]
  rfl

/-- Presenting a token keeps the pact: what it marks it was presented for. -/
theorem among_verifyEmail {token : String} (hcalled : ∃ i, .call i c ∈ es)
    (hrequest : c.request = .verifyEmail token) :
    (verifyEmail env c.now token).Among
      ((accountPact env es s₀).under (Except.map .user)) c [] [] s := by
  have herr : ∀ e s, ((accountPact env es s₀).under (Except.map .user)).answers c
      (.error e) s := fun e s => accountAnswered_error e s
  refine Among.ofExcept (fun _ _ => herr _ _) ?_
  rintro ⟨userId, id, expiresAt⟩ hdecoded
  refine Among.failIf (fun _ => herr _ _) fun hnow => Among.select fun t hlater => ?_
  refine Among.okOr (fun _ => herr _ _) fun record hfound => Among.failIf (fun _ => herr _ _) ?_
  intro hgood
  refine Among.ofExcept (fun _ _ => herr _ _) fun isMatch hverified => ?_
  refine Among.failIf (fun _ => herr _ _) fun hmatch => ?_
  -- the row of the token's id is the one that the token was made for
  obtain rfl : record.id = id := (Table.find_some hfound).2
  rw [not_or, not_or, not_ne_iff] at hgood
  obtain ⟨rfl, -, hunexpired⟩ := hgood
  obtain rfl : isMatch = true := by simpa using hmatch
  exact among_confirm hfound (presentedFor hcalled hrequest (ok_of_mapError hdecoded)
    (Int.not_le.mp hnow) (Int.not_le.mp hunexpired) (ok_of_mapError hverified))

/-- Who asks for himself changes nothing. -/
theorem among_currentUser {userId : Uuid} (hrequest : c.request = .currentUser userId) :
    (currentUser userId).Among ((accountPact env es s₀).under (Except.map .user)) c [] [] s := by
  have hanswer : ∀ r s, ((accountPact env es s₀).under (Except.map .user)).answers c r s := by
    intro r s
    refine accountAnswered_other ?_ ?_ s
    · intro token hverify
      rw [hrequest] at hverify
      cases hverify
    · intro a ha
      cases r <;> cases ha
  refine among_findUser (fun _ _ => hanswer _ _) fun t found _ _ => ?_
  exact Among.okOr (fun _ => hanswer _ _) fun user _ =>
    Among.ofExcept (fun _ _ => hanswer _ _) fun _ _ => hanswer _ _

/-- Every call. -/
theorem AccountCall.among (hcalled : ∃ i, .call i c ∈ es) :
    (c.program env).Among (accountPact env es s₀) c [] [] s := by
  rw [AccountCall.program]
  split
  · rename_i request hrequest
    obtain ⟨i, hcall⟩ := hcalled
    have hc : c = ⟨c.now, .auth request⟩ := by rw [← hrequest]
    exact Among.map (Among.mapError (Among.within authPart_lawful authPart_carries (Call.among (hc ▸ hcall))))
  · rename_i draw userId hrequest
    exact Among.map (among_beginEmailVerification hrequest)
  · rename_i token hrequest
    exact Among.map (among_verifyEmail hcalled hrequest)
  · rename_i userId hrequest
    exact Among.map (among_currentUser hrequest)

end Calls

/-! ## Every run

  What holds in every state, and what stays from a state to a later one, in one statement. -/

/-- The account database with its slots. -/
abbrev AccountSys : Type :=
  System AccountDb AccountContent AccountWrite AccountError AccountAnswer AccountCall Nat

/-- The system after the events. -/
def AccountSys.after (env : Env) (s : AccountDb) (es : List AccountHappening) : AccountSys :=
  (System.start s).run (AccountCall.program env) es

/-- At the start every mark has been there. -/
theorem accounts_start {env : Env} {es : List AccountHappening} (s : AccountDb) :
    AccountsFounded env es s s := by
  refine ⟨⟨id, ?_, ?_⟩, ?_⟩
  · exact fun _ row _ hrow ht => .inl ⟨row, hrow, ht⟩
  · exact fun _ u hu hverified => .inl ⟨u, hu, hverified⟩
  · exact fun _ u hu => .inl ⟨u, hu, rfl, rfl⟩

/-- Every run keeps the pact of its calls. -/
theorem accounts_sound (env : Env) (s : AccountDb) (es : List AccountHappening) :
    (accountPact env es s).Sound (AccountSys.after env s es) :=
  (accountPact env es s).sound (accounts_start s) (fun _ hcalled _ _ => AccountCall.among hcalled)
    fun i _ hc => ⟨i, hc⟩

/-- No mark and no role is lost from one moment of a run to a later one. -/
theorem accounts_kept (env : Env) (s : AccountDb) (es fs : List AccountHappening) :
    AccountsKept (AccountSys.after env s es).db (AccountSys.after env s (es ++ fs)).db :=
  (accountPact env (es ++ fs) s).later_run (accounts_start s)
    (fun _ hcalled _ _ => AccountCall.among hcalled) es fun i _ hc => ⟨i, hc⟩

/-- What holds of the marks of a run, and of how it goes on. -/
structure VerificationsStand (env : Env) (s : AccountDb) (es fs : List AccountHappening) : Prop where
  /-- Every mark of the run has its reason in the run. -/
  founded : Founded env es s (AccountSys.after env s es).db
  /-- No mark is lost, however the run goes on. -/
  kept : MarksKept (AccountSys.after env s es).db (AccountSys.after env s (es ++ fs)).db
  /-- Who is answered as verified is verified. -/
  answered : ∀ i c r l, (AccountSys.after env s es).slots i = .finished c r l →
    VerifiedAnswer s c r (AccountSys.after env s es).db

/-- **A verified address stays verified**, in every interleaved run, and it was verified by a token
    of its user that was presented in time: no mark is made without, and none is taken back.

    Three parts: every mark has its reason in the run up to `es`; every mark is still there after
    `fs`; and who was answered as verified is so. -/
theorem verifications_stand (env : Env) (s : AccountDb) (es fs : List AccountHappening) :
    VerificationsStand env s es fs := by
  have hsound := accounts_sound env s es
  refine ⟨hsound.inv.marks, (accounts_kept env s es fs).marks, ?_⟩
  exact fun i c r l hslot => (hsound.finished i c r l hslot).verified

end EduStell.Auth
