/-
  Rotation: a refresh session is exchanged for at most one new session — if its revocation counts.

  A refresh looks its session up, revokes it and stores a new one, in three statements.  The UPDATE
  that revokes tests `revoked_at IS NULL`, but nobody looks at how many rows it affected, so two
  refreshes that both pass the lookup both go on to store a session (`exchanged_twice`).  As long as
  each UPDATE affects a row, there is one exchange for each session (`exchanged_once`).

  The argument counts commits: a refresh stores after it has revoked, and a revocation that affects a
  row leaves a session that no later one finds unrevoked.

  Both counts are of commits in the history of a run: revocations of a session by refreshes, and
  sessions that are stored in exchange for it.
-/
import EduStell.Auth.Scenario
import EduStell.Txn.History

namespace EduStell.Auth

open Txn Program

/-! ## Exchanges in the history of a run

  The words for counting: sessions stored in exchange for one session, and revocations of it. -/

/-- A session of the auth database. -/
abbrev Sess : Type := Session AuthDb Resource Write

/-- The auth database with its slots. -/
abbrev Sys : Type := System AuthDb Content Write AuthError Answer Call Nat

/-- An event of a run. -/
abbrev Happening : Type := Event Call Nat

/-- A commit of a run. -/
abbrev Commit : Type := Committed AuthDb Resource Write Call Nat

/-- The system after the events. -/
def Sys.after (env : Env) (s : AuthDb) (es : List Happening) : Sys :=
  (System.start s).run (Call.program env) es

/-- The commits of the run. -/
def Sys.history (env : Env) (s : AuthDb) (es : List Happening) : List Commit :=
  (System.start s).history (Call.program env) es

/-- The session that a refresh is to exchange. -/
def Call.exchanges (env : Env) (c : Call) : Option Uuid :=
  match c.request with
  | .refresh _ refreshToken =>
    (env.decodeRefreshToken c.now refreshToken).toOption.map (·.sessionId)
  | _ => none

/-- The transaction stores a new session. -/
def storesSession : List Write → Bool
  | [.insertRefreshToken _] => true
  | _ => false

/-- The transaction revokes session `x`. -/
def revokesSession (x : Uuid) : List Write → Bool
  | [.revokeRefreshToken id _] => id = x
  | _ => false

/-- The new sessions that are stored in exchange for session `x`. -/
def exchangesOf (env : Env) (x : Uuid) (hist : List Commit) : List Commit :=
  hist.filter fun c => c.request.exchanges env = some x ∧ storesSession c.session.writes

/-- The revocations of session `x` by refreshes. -/
def revocationsOf (env : Env) (x : Uuid) (hist : List Commit) : List Commit :=
  hist.filter fun c => c.request.exchanges env = some x ∧ revokesSession x c.session.writes

/-! ## What one refresh commits

  A refresh stores a session only after it has revoked one, so a slot never stores more than it
  revokes. -/

/-- Nothing; the revocation; or the revocation and then the new session. -/
def rotation (x : Uuid) : Script Write AuthError Answer where
  ok done := done = [] ∨ (∃ now, done = [[.revokeRefreshToken x now]]) ∨
    ∃ now row, done = [[.revokeRefreshToken x now], [.insertRefreshToken row]]
  answers _ _ := True

/-- What a call commits: a rotation, if it is a refresh with a readable token. -/
def Call.script (env : Env) (c : Call) : Script Write AuthError Answer :=
  match c.exchanges env with
  | some x => rotation x
  | none => .anything

section

variable {α : Type} {X : Script Write AuthError α} {done : List (List Write)} {ws : List Write}

/-- The conversion of a row ends the program, or the rest goes on. -/
theorem follows_fromRow {row : Option UserRow} {k : Option User → Tx AuthError α}
    (hfail : ∀ e, X.answers done (.error e)) (h : ∀ u, (k u).Follows X done ws) :
    (fromRow row >>= k).Follows X done ws := by
  cases row with
  | none => exact h none
  | some row =>
    rw [fromRow, bind_map_left]
    exact Follows.ofExcept hfail fun u => h (some u)

/-- A taken index entry ends the program, or the rest goes on. -/
theorem follows_insertUnique {r : Resource} {taken : Content r → Bool} {constraint : String}
    {k : Unit → Tx AuthError α}
    (htaken : X.answers done (.error (uniqueViolation constraint)))
    (h : (k ()).Follows X done ws) : (insertUnique r taken constraint >>= k).Follows X done ws := by
  rw [insertUnique, bind_assoc]
  exact Follows.forUpdate fun _ => Follows.failIf htaken h

/-- A session is stored by one commit. -/
theorem storeRefreshSession_follows {session : RefreshSession} {k : Unit → Tx AuthError α}
    (herr : ∀ e, X.answers done (.error e))
    (hok : ∀ row, X.ok (done ++ [[.insertRefreshToken row]]))
    (h : ∀ row, (k ()).Follows X (done ++ [[.insertRefreshToken row]]) []) :
    (storeRefreshSession session >>= k).Follows X done [] := by
  simp only [storeRefreshSession, bind_assoc]
  refine Follows.beginTx (follows_insertUnique (herr _) (follows_insertUnique (herr _) ?_))
  exact ⟨hok _, h _⟩

/-- A session is revoked by one commit. -/
theorem revokeRefreshSession_follows {now : DateTime} {x : Uuid} {k : Unit → Tx AuthError α}
    (hok : ∀ now, X.ok (done ++ [[.revokeRefreshToken x now]]))
    (h : ∀ now, (k ()).Follows X (done ++ [[.revokeRefreshToken x now]]) []) :
    (revokeRefreshSession now x >>= k).Follows X done [] :=
  fun _ => ⟨hok _, h _⟩

end

/-- A refresh commits no more than its rotation. -/
theorem refresh_follows (env : Env) (now : DateTime) (draw : SessionDraw) (token : String) {x : Uuid}
    (hx : (env.decodeRefreshToken now token).toOption.map (·.sessionId) = some x) :
    (refresh env now draw token).Follows ⟨(rotation x).ok, fun _ _ => True⟩ [] [] := by
  cases hclaims : env.decodeRefreshToken now token with
  | error e => rw [hclaims] at hx; cases hx
  | ok claims =>
    obtain rfl : claims.sessionId = x := by
      rw [hclaims] at hx
      exact Option.some.inj hx
    rw [refresh, hclaims]
    refine Follows.select fun s => ?_
    -- the session that is found is the one with this id
    cases hfound : s.refreshTokens.find claims.sessionId with
    | none => trivial
    | some session =>
      have hid : session.id = claims.sessionId := (Table.find_some hfound).2
      refine Follows.failIf trivial (Follows.failIf trivial (Follows.ofExcept (fun _ => trivial) ?_))
      intro isMatch
      refine Follows.failIf trivial ?_
      rw [hid]
      refine revokeRefreshSession_follows (fun now => .inr (.inl ⟨now, rfl⟩)) fun now' => ?_
      rw [findUserById, bind_assoc]
      refine Follows.select fun s => follows_fromRow (fun _ => trivial) fun u => ?_
      refine Follows.okOr trivial fun user => Follows.ofExcept (fun _ => trivial) fun _ => ?_
      refine Follows.ofExcept (fun _ => trivial) fun access => ?_
      refine Follows.ofExcept (fun _ => trivial) fun refreshToken => ?_
      refine Follows.ofExcept (fun _ => trivial) fun hash => ?_
      exact storeRefreshSession_follows (fun _ => trivial) (fun row => .inr (.inr ⟨now', row, rfl⟩))
        fun _ => trivial

/-- Each call commits by its script. -/
theorem script_follows (env : Env) (c : Call) : (c.program env).Follows (c.script env) [] [] := by
  cases hx : c.exchanges env with
  | none => rw [Call.script, hx]; exact follows_anything _ _ _
  | some x =>
    obtain ⟨now, q⟩ := c
    cases q with
    | refresh draw token =>
      rw [Call.script, hx]
      exact Follows.map (refresh_follows env now draw token hx)
    | _ => cases hx

/-- A call may commit nothing. -/
theorem script_nil (env : Env) (c : Call) : (c.script env).ok [] := by
  rw [Call.script]
  split
  · exact .inl rfl
  · trivial

/-- A slot stores no more sessions in exchange for `x` than it revokes. -/
theorem exchanges_le_revocations (env : Env) (s : AuthDb) (es : List Happening) (x : Uuid) (i : Nat) :
    (exchangesOf env x (System.commitsOf i (Sys.history env s es))).length ≤
      (revocationsOf env x (System.commitsOf i (Sys.history env s es))).length := by
  have hfollows := System.follows_run (script_nil env) (script_follows env) s es i
  rw [Sys.history]
  generalize System.commitsOf i _ = mine at hfollows ⊢
  rcases hfollows.commits with rfl | ⟨q, hrequest, hok⟩
  · exact Nat.le_refl 0
  by_cases hx : q.exchanges env = some x
  · rw [Call.script, hx] at hok
    rcases hok with hnone | ⟨now, hone⟩ | ⟨now, row, htwo⟩
    · obtain rfl := List.map_eq_nil_iff.mp hnone
      exact Nat.le_refl 0
    · obtain ⟨c, rfl, hc⟩ := List.map_eq_singleton_iff.mp hone
      have hnone : exchangesOf env x [c] = [] := by simp [exchangesOf, hc, storesSession]
      rw [hnone]
      exact Nat.zero_le _
    · obtain ⟨c, rest, rfl, hc, hrest⟩ := List.map_eq_cons_iff.mp htwo
      obtain ⟨d, rfl, hd⟩ := List.map_eq_singleton_iff.mp hrest
      have hqc : c.request = q := hrequest c List.mem_cons_self
      have hqd : d.request = q := hrequest d (List.mem_cons_of_mem c List.mem_cons_self)
      have hexchange : exchangesOf env x [c, d] = [d] := by
        simp [exchangesOf, hc, hd, hqc, hqd, hx, storesSession]
      have hrevocation : revocationsOf env x [c, d] = [c] := by
        simp [revocationsOf, hc, hd, hqc, hqd, hx, revokesSession]
      rw [hexchange, hrevocation]
      exact Nat.le_refl 1
  · have hnone : exchangesOf env x mine = [] := by
      refine List.filter_eq_nil_iff.mpr fun c hc => ?_
      simp [hrequest c hc, hx]
    rw [hnone]
    exact Nat.zero_le _

/-! ## A revocation that affects a row

  A revocation affects a row if the session is live, and leaves it revoked for good. -/

/-- The session is there and has not been revoked. -/
def AuthDb.live (s : AuthDb) (x : Uuid) : Bool :=
  (s.refreshTokens.find x).any fun row => row.revokedAt.isNone

/-- The session is there and revoked. -/
def AuthDb.revoked (s : AuthDb) (x : Uuid) : Bool :=
  (s.refreshTokens.find x).any fun row => row.revokedAt.isSome

/-- A session is not live and revoked at once. -/
theorem not_live_of_revoked {s : AuthDb} {x : Uuid} (h : s.revoked x = true) : s.live x = false := by
  cases hfound : s.refreshTokens.find x with
  | none => rw [AuthDb.live, hfound]; rfl
  | some row =>
    rw [AuthDb.revoked, hfound] at h
    rw [AuthDb.live, hfound]
    cases hrow : row.revokedAt with
    | none => rw [Option.any_some, hrow] at h; cases h
    | some t => simp [hrow]

/-- No statement takes a revocation back. -/
theorem revoked_apply {x : Uuid} (w : Write) (s : AuthDb) (h : s.revoked x = true) :
    (w.apply s).revoked x = true := by
  cases w with
  | insertRefreshToken row =>
    rw [AuthDb.revoked] at h ⊢
    cases hfound : s.refreshTokens.find x with
    | none => rw [hfound] at h; cases h
    | some row' =>
      have hsame : (s.refreshTokens.insert row).find x = some row' := by
        rw [Table.find_insert, hfound]; simp
      rw [hfound] at h
      exact hsame ▸ h
  | revokeRefreshToken id now =>
    rw [AuthDb.revoked, find_revokeRefreshToken]
    split
    · rename_i hid
      rw [AuthDb.revoked, hid] at h
      cases hfound : s.refreshTokens.find id with
      | none => rw [hfound] at h; cases h
      | some row => simp [RefreshSession.revoke]
    · exact h
  | _ => exact h

/-- Nor do the statements of a session. -/
theorem revoked_view {x : Uuid} (l : Sess) {s : AuthDb} (h : s.revoked x = true) :
    (l.view s).revoked x = true :=
  Session.view_keeps (P := fun s => s.revoked x = true) revoked_apply l h

/-- The UPDATE of a refresh affects a row. -/
def RevokesLive (env : Env) (c : Call) (l : Sess) (s : AuthDb) : Prop :=
  match c.exchanges env with
  | some x => revokesSession x l.writes = true → s.live x = true
  | none => True

/-- Whether the UPDATE of a refresh affects a row can be decided. -/
instance (env : Env) (c : Call) (l : Sess) (s : AuthDb) : Decidable (RevokesLive env c l s) :=
  match h : c.exchanges env with
  | some x => decidable_of_iff (revokesSession x l.writes = true → s.live x = true)
    (by rw [RevokesLive, h])
  | none => .isTrue (by rw [RevokesLive, h]; trivial)

/-- A commit that revokes a live session leaves it revoked. -/
theorem revoked_of_live {x : Uuid} {l : Sess} {s : AuthDb} (h : revokesSession x l.writes = true)
    (hlive : s.live x = true) : (l.view s).revoked x = true := by
  rw [revokesSession.eq_def] at h
  split at h
  · rename_i id now hwrites
    obtain rfl : id = x := of_decide_eq_true h
    have hview : l.view s = (Write.revokeRefreshToken id now).apply s := by
      rw [Session.view, hwrites]; rfl
    rw [AuthDb.revoked, hview, find_revokeRefreshToken, if_pos rfl]
    cases hfound : s.refreshTokens.find id with
    | none => rw [AuthDb.live, hfound] at hlive; cases hlive
    | some row => simp [RefreshSession.revoke]
  · cases h

/-! ## Every run

  Each revocation that counts finds a live session, and the next one cannot. -/

/-- A session is revoked by a refresh at most once, and from then on it is revoked. -/
theorem revocations_run {env : Env} {s : AuthDb} {es : List Happening}
    (h : System.Meets (Call.program env) (System.allows (fun _ => True) (RevokesLive env))
      (System.start s) es) (x : Uuid) :
    revocationsOf env x (Sys.history env s es) = [] ∨
      ((revocationsOf env x (Sys.history env s es)).length = 1 ∧
        (Sys.after env s es).db.revoked x = true) := by
  induction es using List.reverseRecOn with
  | nil => exact .inl rfl
  | append_singleton es e ih =>
    obtain ⟨hes, he⟩ := h.snoc
    simp only [Sys.after, Sys.history] at ih ⊢
    rcases System.snoc_cases (Call.program env) (System.start s) es e with
      ⟨hdb, hhist⟩ | ⟨c, k, rfl, hslot, hstate, hdb, hhist⟩
    · rw [hdb, hhist]
      exact ih hes
    · rw [hdb, hhist, hstate, revocationsOf, List.filter_append]
      by_cases hrevokes : c.request.exchanges env = some x ∧ revokesSession x c.session.writes = true
      · -- it affects a row, so no refresh has revoked the session before
        have hlive := he _ _ _ hslot
        rw [RevokesLive, hrevokes.1] at hlive
        have hlive := hlive hrevokes.2
        rcases ih hes with hnone | ⟨-, hrevoked⟩
        · right
          rw [revocationsOf] at hnone
          rw [hnone, List.nil_append]
          exact ⟨by simp [hrevokes], revoked_of_live hrevokes.2 hlive⟩
        · rw [not_live_of_revoked hrevoked] at hlive; cases hlive
      · have hskip : [c].filter (fun c => decide (c.request.exchanges env = some x ∧
            revokesSession x c.session.writes = true)) = [] := by simpa using hrevokes
        rw [hskip, List.append_nil]
        rcases ih hes with hnone | ⟨hone, hrevoked⟩
        · exact .inl hnone
        · exact .inr ⟨hone, revoked_view _ hrevoked⟩

/-- **Each session is exchanged at most once**, in every run in which the UPDATE of each refresh
    affects a row.

    An exchange of a session is a commit of a refresh that stores another one in its place.  The
    UPDATE before it has `WHERE revoked_at IS NULL`, so for each session it affects a row once; but
    the repository does not look at the number of rows, and a refresh whose UPDATE affects none goes
    on as if it had. -/
theorem exchanged_once {env : Env} {s : AuthDb} {es : List Happening}
    (h : System.Meets (Call.program env) (System.allows (fun _ => True) (RevokesLive env))
      (System.start s) es) (x : Uuid) : (exchangesOf env x (Sys.history env s es)).length ≤ 1 := by
  have hle : (exchangesOf env x (Sys.history env s es)).length ≤
      (revocationsOf env x (Sys.history env s es)).length :=
    System.length_filter_le_of_slots fun i => exchanges_le_revocations env s es x i
  rcases revocations_run h x with hnone | ⟨hone, -⟩
  · rw [hnone] at hle
    exact Nat.le_succ_of_le hle
  · rw [hone] at hle
    exact hle

section

open EduStell.Auth.Scenario

/-- Two refreshes with one token: both look the session up before either revokes it. -/
def Scenario.refreshRace : List Happening :=
  [.call 0 (refresh 4 3), .call 1 (refresh 5 3), .step 0, .step 1] ++
  List.replicate 11 (.step 0) ++ List.replicate 11 (.step 1)

/-- The call is a refresh. -/
def Call.IsRefresh (c : Call) : Prop := ∃ draw token, c.request = .refresh draw token

/-- Both are answered with a new session, although tokens and hashes do all they should. -/
theorem exchanged_twice :
    env.crates.Lawful ∧ (∀ q i, .call i q ∈ refreshRace → q.IsRefresh) ∧
    (¬ ∀ x, (exchangesOf env x (Sys.history env begun refreshRace)).length ≤ 1) ∧
    ((Sys.after env begun refreshRace).db.refreshTokens.rows.map fun row =>
      (row.id, row.revokedAt.isSome)) = [(3, true), (4, false), (5, false)] := by
  refine ⟨crates_lawful, ?_, ?_, by decide⟩
  · intro q i hq
    simp [refreshRace] at hq
    rcases hq with hq | hq
    · rw [hq.2]; exact ⟨_, _, rfl⟩
    · rw [hq.2]; exact ⟨_, _, rfl⟩
  · intro h
    exact absurd (h 3) (by decide)

/-- One after the other, the second is refused. -/
theorem exchanged_once_in_turn :
    let es : List Happening := .call 0 (Scenario.refresh 4 3) :: List.replicate 12 (.step 0) ++
      .call 1 (Scenario.refresh 5 3) :: List.replicate 12 (.step 1)
    (exchangesOf env 3 (Sys.history env begun es)).length ≤ 1 ∧
    ((Sys.after env begun es).db.refreshTokens.rows.map fun row =>
      (row.id, row.revokedAt.isSome)) = [(3, true), (4, false)] :=
  ⟨exchanged_once (by decide) 3, by decide⟩

end

end EduStell.Auth
