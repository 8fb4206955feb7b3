/-
  `application::schools`, as far as payouts depend on it: the change of a school's verification.
-/
import EduStell.Application.Errors

namespace EduStell

open Txn Program Persistence

/-- `VerifySchoolInput`: the status that the school is given. -/
structure VerifySchoolInput where
  schoolId : Uuid
  verificationStatus : SchoolVerificationStatus

/-- `require_platform_admin`: the only check that is made. -/
def requirePlatformAdmin (role : UserRole) : Except SchoolError Unit :=
  if role = .platformAdmin then .ok () else .error .forbidden

/-- `verify_school`: any status may follow any other. -/
def verifySchool (actor : AuthenticatedUser) (input : VerifySchoolInput) : Tx SchoolError School := do
  ofExcept (requirePlatformAdmin actor.role)
  let event : AuditEvent := {
    actorUserId := some actor.userId
    entityType := .school
    entityId := some input.schoolId
    action := .schoolVerified
    metadata := .object [("verification_status", .string (asStr input.verificationStatus))] }
  let audit := { event.intoLog with action := "school.verification_status_changed" }
  workflow (verifyWithAudit input.schoolId (asStr input.verificationStatus) actor.userId audit)

end EduStell
