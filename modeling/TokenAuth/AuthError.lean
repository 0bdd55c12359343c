import TokenAuth.Directory.Fault
import TokenAuth.Http.Status
import TokenAuth.Text.Blank

/-! Why the service refuses, and what a fault of the directory means to its callers. -/

namespace TokenAuth

/-- Why a sign-in, a refresh or a registration was refused. -/
inductive AuthError
  | badCredentials
  | notARefreshToken
  | invalidRefreshTokenPayload
  | invalidToken (reason : String)
  | userIdMissing
  | serviceUnavailable (reason : String)
  | downstream (status : Nat) (message : String)
  | passwordHashing (reason : String)
  | tokenSigning (reason : String)
deriving DecidableEq

namespace AuthError

def kind : AuthError → String
  | badCredentials => "BAD_CREDENTIALS"
  | notARefreshToken => "NOT_A_REFRESH_TOKEN"
  | invalidRefreshTokenPayload => "INVALID_REFRESH_TOKEN_PAYLOAD"
  | invalidToken _ => "INVALID_TOKEN"
  | userIdMissing => "USER_ID_MISSING"
  | serviceUnavailable _ => "SERVICE_UNAVAILABLE"
  | downstream _ _ => "DOWNSTREAM_ERROR"
  | passwordHashing _ => "PASSWORD_HASHING_FAILED"
  | tokenSigning _ => "TOKEN_SIGNING_FAILED"

def message : AuthError → String
  | badCredentials => "Bad credentials"
  | notARefreshToken => "Not a refresh token"
  | invalidRefreshTokenPayload => "Invalid refresh token payload"
  | invalidToken reason => s!"Invalid token: {reason}"
  | userIdMissing => "User id missing"
  | serviceUnavailable reason => s!"Service unavailable: {reason}"
  | downstream _ message => message
  | passwordHashing reason => s!"Password hashing failed: {reason}"
  | tokenSigning reason => s!"Token signing failed: {reason}"

/-- The directory's status where it is a registered error, else a bad gateway. -/
def forwardedStatus (code : Nat) : Http.Status :=
  match Http.Status.ofCode? code with
  | some s => if s.isRegistered && s.isError then s else .badGateway
  | none => .badGateway

/-- The directory's text without the blanks around it, or a sentence where there is none. -/
def forwardedMessage (code : Nat) (body : Bytes) : String :=
  let generic := s!"Credentials directory request failed with status {code}"
  match ofUtf8? body with
  | some text => if Text.isBlank text then generic else Text.trim text
  | none => generic

/-- What a fault of the directory means to the caller. -/
def ofFault : Directory.Fault → AuthError
  | .unavailable reason => .serviceUnavailable reason
  | .status code body => .downstream (forwardedStatus code).code (forwardedMessage code body)
  | .unreadable _ =>
    .downstream Http.Status.badGateway.code "Invalid response from credentials directory"

end AuthError

end TokenAuth
