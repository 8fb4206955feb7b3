/-
  Crates to run the auth services with: tokens that are the secret and the claims as text, and hashes
  that are the value itself.  They are lawful, so what a run over them shows is not due to them.
-/
import EduStell.Auth.Service

namespace EduStell.Auth.Scenario

open Txn

/-! ## Claims as text

  Numbers, ids and claims are written so that they can be read back; nothing about the crates
  depends on the format. -/

/-- Unary, closed by a point. -/
def number (n : Nat) : List Char := List.replicate n 'i' ++ ['.']

/-- Counts the digits up to the separator, and returns what follows it. -/
def readNumber : List Char → Nat × List Char
  | [] => (0, [])
  | c :: cs => if c = 'i' then ((readNumber cs).1 + 1, (readNumber cs).2) else (0, cs)

/-- A number is read back. -/
@[simp] theorem readNumber_number (n : Nat) (cs : List Char) : readNumber (number n ++ cs) = (n, cs) := by
  rw [number, List.append_assoc]
  induction n with
  | zero => rfl
  | succ n ih => rw [List.replicate_succ, List.cons_append, readNumber, if_pos rfl, ih]

/-- The positive part and the negative part. -/
def integer (i : Int) : List Char := number i.toNat ++ number (-i).toNat

/-- Reads both parts of an integer. -/
def readInteger (cs : List Char) : Int × List Char :=
  let (pos, cs) := readNumber cs
  let (neg, cs) := readNumber cs
  (pos - neg, cs)

/-- An integer is read back. -/
@[simp] theorem readInteger_integer (i : Int) (cs : List Char) :
    readInteger (integer i ++ cs) = (i, cs) := by
  have hparts : (i.toNat : Int) - ((-i).toNat : Int) = i := by omega
  simp only [readInteger, integer, List.append_assoc, readNumber_number, hparts]

/-- An id, as the number it is. -/
def uuid (u : Uuid) : List Char := number u.toNat

/-- Reads an id. -/
def readUuid (cs : List Char) : Uuid × List Char :=
  (BitVec.ofNat 128 (readNumber cs).1, (readNumber cs).2)

/-- An id is read back. -/
@[simp] theorem readUuid_uuid (u : Uuid) (cs : List Char) : readUuid (uuid u ++ cs) = (u, cs) := by
  simp [readUuid, uuid]

/-- The roles in the order of their numbers. -/
def roles : List UserRole := [.parent, .contributor, .student, .schoolAdmin, .donor, .platformAdmin]

/-- A role, as its number. -/
def role (r : UserRole) : List Char := number (roles.idxOf r)

/-- Reads a role. -/
def readRole (cs : List Char) : UserRole × List Char :=
  ((roles[(readNumber cs).1]?).getD .parent, (readNumber cs).2)

/-- A role is read back. -/
@[simp] theorem readRole_role (r : UserRole) (cs : List Char) : readRole (role r ++ cs) = (r, cs) := by
  simp only [readRole, role, readNumber_number]
  cases r <;> rfl

/-- Claims as text: a letter for their kind, and then one field after another. -/
def text : Claims → List Char
  | .access c => 'a' :: (uuid c.sub ++ (role c.role ++ (uuid c.sessionId ++ (uuid c.jti ++
      (integer c.exp ++ (integer c.iat ++ c.tokenType.toList))))))
  | .refresh c => 'r' :: (uuid c.sub ++ (uuid c.sessionId ++ (integer c.exp ++ (integer c.iat ++
      c.tokenType.toList))))
  | .emailVerification c => 'e' :: (uuid c.sub ++ (uuid c.verificationId ++ (integer c.exp ++
      (integer c.iat ++ c.tokenType.toList))))

/-- Reads the letter, and then the fields of that kind. -/
def readText : List Char → Option Claims
  | [] => none
  | kind :: cs =>
    let (sub, cs) := readUuid cs
    if kind = 'a' then
      let (role, cs) := readRole cs
      let (sessionId, cs) := readUuid cs
      let (jti, cs) := readUuid cs
      let (exp, cs) := readInteger cs
      let (iat, cs) := readInteger cs
      some (.access ⟨sub, role, sessionId, jti, exp, iat, String.ofList cs⟩)
    else if kind = 'e' then
      let (verificationId, cs) := readUuid cs
      let (exp, cs) := readInteger cs
      let (iat, cs) := readInteger cs
      some (.emailVerification ⟨sub, verificationId, exp, iat, String.ofList cs⟩)
    else
      let (sessionId, cs) := readUuid cs
      let (exp, cs) := readInteger cs
      let (iat, cs) := readInteger cs
      some (.refresh ⟨sub, sessionId, exp, iat, String.ofList cs⟩)

/-- Claims are read back. -/
theorem readText_text (claims : Claims) : readText (text claims) = some claims := by
  cases claims <;> simp [readText, text]

/-! ## The crates

  Two sets of crates.  The second one writes the length of a secret in front of it, so that no
  token is signed under two secrets. -/

/-- The claims, signed. -/
def token (claims : Claims) (secret : String) : String :=
  String.ofList (secret.toList ++ text claims)

/-- The claims of a token, whether or not it is signed with the secret. -/
def readToken (token secret : String) : Option Claims :=
  readText (token.toList.drop secret.toList.length)

/-- Who has the secret reads the claims of a token. -/
theorem readToken_token (claims : Claims) (secret : String) :
    readToken (token claims secret) secret = some claims := by
  rw [readToken, token, String.toList_ofList, List.drop_left, readText_text]

/-- Signing is writing the secret in front of the claims, hashing is leaving the text as it is. -/
def crates : Crates where
  encode claims secret := .ok (token claims secret)
  decode t secret now :=
    match readToken t secret with
    | some claims =>
      if token claims secret = t ∧ now ≤ claims.exp + leeway then .ok claims
      else .error "InvalidToken"
    | none => .error "InvalidToken"
  hashPassword value _ := .ok value
  verifyPassword value hash := .ok (decide (value = hash))

/-- These crates do what is assumed of the real ones. -/
theorem crates_lawful : crates.Lawful where
  decode_iff t secret now claims := by
    change (match readToken t secret with | some claims => _ | none => _) = _ ↔
      Except.ok (token claims secret) = .ok t ∧ _
    constructor
    · intro h
      split at h
      · split at h
        · rename_i hsigned
          cases h
          exact ⟨congrArg Except.ok hsigned.1, hsigned.2⟩
        · cases h
      · cases h
    · rintro ⟨htoken, hnow⟩
      obtain rfl := Except.ok.inj htoken
      rw [readToken_token]
      exact if_pos ⟨rfl, hnow⟩
  encodes claims secret := ⟨_, rfl⟩
  hashes value salt := ⟨_, rfl⟩
  verify value salt hash h other := by
    obtain rfl : value = hash := Except.ok.inj h
    rfl

/-- The same crates under other secrets. -/
def withSecrets (crates : Crates) (f : String → String) : Crates where
  encode claims secret := crates.encode claims (f secret)
  decode t secret now := crates.decode t (f secret) now
  hashPassword := crates.hashPassword
  verifyPassword := crates.verifyPassword

/-- Other secrets, the same laws. -/
theorem withSecrets_lawful {crates : Crates} (h : crates.Lawful) (f : String → String) :
    (withSecrets crates f).Lawful where
  decode_iff t secret now claims := h.decode_iff t (f secret) now claims
  encodes claims secret := h.encodes claims (f secret)
  hashes := h.hashes
  verify := h.verify

/-- A secret with its length first: none is the beginning of another. -/
def keyedSecret (secret : String) : String :=
  String.ofList (number secret.toList.length ++ secret.toList)

/-- Crates under which no token is signed with two secrets. -/
def keyedCrates : Crates := withSecrets crates keyedSecret

/-- They do what is assumed of the real ones. -/
theorem keyedCrates_lawful : keyedCrates.Lawful := withSecrets_lawful crates_lawful keyedSecret

/-- A token determines the secret that it was signed with. -/
theorem keyedCrates_keyed : keyedCrates.Keyed where
  secret_eq {a b secret secret' t} ha hb := by
    have htoken : token a (keyedSecret secret) = token b (keyedSecret secret') :=
      Except.ok.inj (ha.trans hb.symm)
    have htext := congrArg String.toList htoken
    simp only [token, keyedSecret, String.toList_ofList, List.append_assoc] at htext
    have hread := congrArg readNumber htext
    rw [readNumber_number, readNumber_number] at hread
    obtain ⟨hlen, hrest⟩ := Prod.mk.inj hread
    exact String.toList_inj.mp (List.append_inj hrest hlen).1

/-- The service that the runs below are served by: access tokens for a second, sessions for five. -/
def env : Env := ⟨crates, ⟨"A", "R", 1, 5⟩, id⟩

/-! ## Rows

  A user, his session and the calls that the runs of these modules consist of. -/

/-- A parent who can log in, with `pw` as the hash of his password. -/
def user : User := ⟨1, "p@x", "pw", .parent, true, false, "active"⟩

/-- One active user, and no session. -/
def household : AuthDb where
  users := ⟨[⟨1, "p@x", "pw", "parent", true, false, "active"⟩], List.nodup_singleton _⟩
  refreshTokens := .empty
  audit := []

/-- Call `sessionId` logs the user in at time 0. -/
def login (sessionId : Uuid) : Call := ⟨0, .login ⟨sessionId, 0, ""⟩ ⟨"p@x", "pw"⟩⟩

/-- The refresh token of a session that began at time 0. -/
def refreshToken (sessionId : Uuid) : String :=
  token (.refresh ⟨1, sessionId, 5, 0, "refresh"⟩) "R"

/-- Call `newId` refreshes it at time 1. -/
def refresh (newId sessionId : Uuid) : Call := ⟨1, .refresh ⟨newId, 0, ""⟩ (refreshToken sessionId)⟩

/-- The session is logged out at time 0. -/
def logout (sessionId : Uuid) : Call := ⟨0, .logout (refreshToken sessionId)⟩

/-- Session 3 has begun. -/
def begun : AuthDb := (((login 3).program env).serve household).2

end EduStell.Auth.Scenario
