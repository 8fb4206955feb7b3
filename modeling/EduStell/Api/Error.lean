/-
  `ApiError`: what a handler answers when it does not answer with data.
-/
import EduStell.Application.Errors

namespace EduStell.Api

/-- `shared::error_codes::ErrorCode` -/
inductive ErrorCode
  | internal | infrastructureUnavailable | validation | invalidCredentials | forbidden | notFound
  | conflict | emailAlreadyExists
  deriving DecidableEq, Repr

/-- The name of the code in a response. -/
def ErrorCode.asStr : ErrorCode → String
  | internal => "INTERNAL_ERROR"
  | infrastructureUnavailable => "INFRASTRUCTURE_UNAVAILABLE"
  | validation => "VALIDATION_ERROR"
  | invalidCredentials => "INVALID_CREDENTIALS"
  | forbidden => "FORBIDDEN"
  | notFound => "NOT_FOUND"
  | conflict => "CONFLICT"
  | emailAlreadyExists => "EMAIL_ALREADY_EXISTS"

/-- A detail of an error, perhaps about a field. -/
structure ErrorDetail where
  field : Option String
  message : String
  deriving DecidableEq, Repr

/-- An error response. -/
structure ApiError where
  status : Nat
  code : ErrorCode
  message : String
  details : List ErrorDetail
  deriving DecidableEq, Repr

namespace ApiError

/-- A validation error that names its field. -/
def validationWithField (message field : String) : ApiError :=
  ⟨400, .validation, message, [⟨some field, message⟩]⟩

/-- The response to an error of a workflow service. -/
def ofService : ServiceError → ApiError
  | .validation message => ⟨400, .validation, message, []⟩
  | .forbidden => ⟨403, .forbidden, "forbidden", []⟩
  | .notFound => ⟨404, .notFound, "resource not found", []⟩
  | .conflict message => ⟨409, .conflict, message, []⟩
  | .repository _ => ⟨500, .infrastructureUnavailable, "internal server error", []⟩

end ApiError
end EduStell.Api
