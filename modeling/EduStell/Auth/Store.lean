/-
  The tables of the auth service as a transactional store: `users`, `refresh_tokens` and the audit
  trail, with the five statements that write them.

  A user row keeps its role as text; it is parsed when the row is read.

  An INSERT locks the entries of its unique indexes besides its row: the email of a user, the hash
  of a refresh token.  So a second user with the same address waits for the first and is then
  refused.
-/
import EduStell.Audit
import EduStell.Auth.Tokens
import EduStell.Txn.Program

namespace EduStell.Auth

open Txn

/-- A row of `users`; the role is the text that the column holds. -/
structure UserRow where
  id : Uuid
  email : String
  passwordHash : String
  role : String
  emailVerified : Bool
  mfaEnabled : Bool
  status : String

/-- `users_pkey`. -/
instance : Keyed UserRow Uuid := ⟨UserRow.id⟩

/-- The tables that the auth service works on. -/
structure AuthDb where
  users : Table UserRow
  refreshTokens : Table RefreshSession
  audit : List AuditLog

/-- What a transaction can lock: a row by its id, or the entry of a unique index. -/
inductive Resource
  | user (id : Uuid)
  | userEmail (email : String)
  | refreshToken (id : Uuid)
  | refreshTokenHash (hash : String)
  deriving DecidableEq

/-- What a lock returns: the row, or whether the entry is taken. -/
@[reducible] def Content : Resource → Type
  | .user _ => Option UserRow
  | .userEmail _ => Bool
  | .refreshToken _ => Option RefreshSession
  | .refreshTokenHash _ => Bool

/-- The content of a resource in the database. -/
def AuthDb.content (s : AuthDb) : (r : Resource) → Content r
  | .user id => s.users.find id
  | .userEmail email => s.users.any fun u => u.email = email
  | .refreshToken id => s.refreshTokens.find id
  | .refreshTokenHash hash => s.refreshTokens.any fun x => x.tokenHash = hash

/-- The row with another status. -/
def UserRow.setStatus (u : UserRow) (status : String) : UserRow := { u with status := status }

/-- The statements of the auth service that change rows. -/
inductive Write
  | insertUser (row : UserRow)
  | setUserStatus (id : Uuid) (status : String)
  | insertRefreshToken (row : RefreshSession)
  | revokeRefreshToken (id : Uuid) (now : DateTime)
  | insertAuditLog (row : AuditLog)

namespace Write

/-- What a statement does to the tables. -/
def apply : Write → AuthDb → AuthDb
  | insertUser row, s => { s with users := s.users.insert row }
  | setUserStatus id status, s =>
    { s with users := s.users.modify id (fun u => u.setStatus status) fun _ h => h }
  | insertRefreshToken row, s => { s with refreshTokens := s.refreshTokens.insert row }
  | revokeRefreshToken id now, s =>
    { s with refreshTokens := s.refreshTokens.modify id (fun x => x.revoke now) fun _ h => h }
  | insertAuditLog row, s => { s with audit := s.audit ++ [row] }

/-- What a statement changes: its row and, for an INSERT, the index entry. -/
def Touches : Write → Resource → Prop
  | insertUser row, r => r = .user row.id ∨ r = .userEmail row.email
  | setUserStatus id _, r => r = .user id
  | insertRefreshToken row, r => r = .refreshToken row.id ∨ r = .refreshTokenHash row.tokenHash
  | revokeRefreshToken id _, r => r = .refreshToken id
  | insertAuditLog _, _ => False

/-- A statement leaves the content outside its footprint alone. -/
theorem content_of_not_touches {w : Write} {r : Resource} {s : AuthDb} (h : ¬ w.Touches r) :
    (w.apply s).content r = s.content r := by
  cases w with
  | insertUser row =>
    cases r with
    | user id' => exact Table.find_insert_ne _ _ fun he => h (.inl (he ▸ rfl))
    | userEmail email =>
      exact Table.any_insert_of_not _ _ (decide_eq_false fun he => h (.inr (he ▸ rfl)))
    | _ => rfl
  | setUserStatus id status =>
    cases r with
    | user id' => exact Table.find_modify_ne _ (ne_of_apply_ne Resource.user h) _ fun _ hk => by exact hk
    | userEmail email => exact Table.any_modify _ _ _ (fun _ hk => by exact hk) fun _ => rfl
    | _ => rfl
  | insertRefreshToken row =>
    cases r with
    | refreshToken id' => exact Table.find_insert_ne _ _ fun he => h (.inl (he ▸ rfl))
    | refreshTokenHash hash =>
      exact Table.any_insert_of_not _ _ (decide_eq_false fun he => h (.inr (he ▸ rfl)))
    | _ => rfl
  | revokeRefreshToken id now =>
    cases r with
    | refreshToken id' =>
      exact Table.find_modify_ne _ (ne_of_apply_ne Resource.refreshToken h) _ fun _ hk => by exact hk
    | refreshTokenHash hash => exact Table.any_modify _ _ _ (fun _ hk => by exact hk) fun _ => rfl
    | _ => rfl
  | insertAuditLog row => cases r <;> rfl

/-- What a statement makes of its footprint depends on the footprint alone. -/
theorem content_congr {w : Write} {s s' : AuthDb}
    (h : ∀ r, w.Touches r → s.content r = s'.content r) {r : Resource} (hr : w.Touches r) :
    (w.apply s).content r = (w.apply s').content r := by
  cases w with
  | insertUser row =>
    have hid := h _ (.inl rfl)
    rcases hr with rfl | rfl
    · exact Table.find_insert_congr _ hid
    · exact Table.any_insert_congr _ hid (h _ (.inr rfl))
  | setUserStatus id status =>
    cases hr
    exact Table.find_modify_congr (h _ rfl) _ fun _ hk => by exact hk
  | insertRefreshToken row =>
    have hid := h _ (.inl rfl)
    rcases hr with rfl | rfl
    · exact Table.find_insert_congr _ hid
    · exact Table.any_insert_congr _ hid (h _ (.inr rfl))
  | revokeRefreshToken id now =>
    cases hr
    exact Table.find_modify_congr (h _ rfl) _ fun _ hk => by exact hk
  | insertAuditLog row => exact hr.elim

end Write

/-- A revocation changes the row of its own session only. -/
theorem find_revokeRefreshToken (s : AuthDb) (id x : Uuid) (now : DateTime) :
    ((Write.revokeRefreshToken id now).apply s).refreshTokens.find x =
      if x = id then (s.refreshTokens.find id).map (·.revoke now) else s.refreshTokens.find x := by
  have hfind := Table.find_modify s.refreshTokens id x (·.revoke now) fun _ h => by exact h
  by_cases hx : x = id
  · rw [if_pos hx] at hfind ⊢
    exact hx ▸ hfind
  · rw [if_neg hx] at hfind ⊢
    exact hfind

/-- The statements and locks of the auth service as a store. -/
instance : Store AuthDb Content Write where
  get := AuthDb.content
  apply := Write.apply
  touches := Write.Touches
  get_of_not_touches := Write.content_of_not_touches
  get_congr h _ hr := Write.content_congr h hr

end EduStell.Auth
