/-
  `domain::auth`: users, roles, sessions, and the claims of a token with their JSON.

  Claims are written and read as JSON through the instances of `EduStell.Serde`.  What a token can
  be mistaken for is decided here: by the fields that a kind of claims has and another one has
  not.
-/
import EduStell.Serde

namespace EduStell

/-! ## Users

  A role has a name in the database and another one as JSON.  The claims are JSON objects, with
  their fields in the order of the source. -/

/-- The name of a role, in the database and in claims. -/
def UserRole.asStr : UserRole → String
  | parent => "parent"
  | contributor => "contributor"
  | student => "student"
  | schoolAdmin => "school_admin"
  | donor => "donor"
  | platformAdmin => "platform_admin"

/-- The names that a role is parsed from. -/
instance : StringEnum UserRole where
  name := "user role"
  variants := [.parent, .contributor, .student, .schoolAdmin, .donor, .platformAdmin]
  asStr := UserRole.asStr
  find_asStr a := by cases a <;> decide

/-- The name of the variant, which is what `serde` writes. -/
def UserRole.variantName : UserRole → String
  | parent => "Parent"
  | contributor => "Contributor"
  | student => "Student"
  | schoolAdmin => "SchoolAdmin"
  | donor => "Donor"
  | platformAdmin => "PlatformAdmin"

/-- A role is serialized as its name. -/
instance : Serde UserRole where
  serialize role := .string role.variantName
  deserialize
    | .string s => (StringEnum.variants (α := UserRole)).find? fun role => role.variantName = s
    | _ => none
  deserialize_serialize role := by cases role <;> decide

/-- The claims of an access token. -/
structure AccessClaims where
  sub : Uuid
  role : UserRole
  sessionId : Uuid
  jti : Uuid
  exp : Int
  iat : Int
  tokenType : String

/-- The claims of a refresh token. -/
structure RefreshClaims where
  sub : Uuid
  sessionId : Uuid
  exp : Int
  iat : Int
  tokenType : String

/-- Of `infrastructure::auth::jwt`. -/
structure EmailVerificationClaims where
  sub : Uuid
  verificationId : Uuid
  exp : Int
  iat : Int
  tokenType : String

/-- The fields of access claims, in their order. -/
instance : Serde AccessClaims where
  serialize c := .object [("sub", serialize c.sub), ("role", serialize c.role),
    ("session_id", serialize c.sessionId), ("jti", serialize c.jti), ("exp", serialize c.exp),
    ("iat", serialize c.iat), ("token_type", serialize c.tokenType)]
  deserialize v := do
    return { sub := ← v.get "sub", role := ← v.get "role", sessionId := ← v.get "session_id",
             jti := ← v.get "jti", exp := ← v.get "exp", iat := ← v.get "iat",
             tokenType := ← v.get "token_type" }
  deserialize_serialize c := by simp [Value.get, Value.field]

/-- The fields of refresh claims, in their order. -/
instance : Serde RefreshClaims where
  serialize c := .object [("sub", serialize c.sub), ("session_id", serialize c.sessionId),
    ("exp", serialize c.exp), ("iat", serialize c.iat), ("token_type", serialize c.tokenType)]
  deserialize v := do
    return { sub := ← v.get "sub", sessionId := ← v.get "session_id", exp := ← v.get "exp",
             iat := ← v.get "iat", tokenType := ← v.get "token_type" }
  deserialize_serialize c := by simp [Value.get, Value.field]

/-- The fields of verification claims, in their order. -/
instance : Serde EmailVerificationClaims where
  serialize c := .object [("sub", serialize c.sub), ("verification_id", serialize c.verificationId),
    ("exp", serialize c.exp), ("iat", serialize c.iat), ("token_type", serialize c.tokenType)]
  deserialize v := do
    return { sub := ← v.get "sub", verificationId := ← v.get "verification_id",
             exp := ← v.get "exp", iat := ← v.get "iat", tokenType := ← v.get "token_type" }
  deserialize_serialize c := by simp [Value.get, Value.field]

end EduStell
