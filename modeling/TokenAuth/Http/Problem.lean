import TokenAuth.AuthError
import TokenAuth.Http.Message
import TokenAuth.Json.Doc

/-! Refusals as JSON bodies: a status, a kind, a message and sometimes details. -/

namespace TokenAuth.Http

/-- A refusal as it is shown to the caller. -/
inductive Problem
  | unprocessable (message : String)
  | refused (status : Status) (kind message : String) (details : Option Json)

namespace Problem

def status : Problem → Status
  | unprocessable _ => .unprocessable
  | refused status _ _ _ => status

def rejectedMessage : String := "Credentials directory rejected the request"

/-- The message and the details in a body that the directory sent with an error. -/
def forwarded (body : String) : String × Option Json :=
  match Json.ofBytes? (utf8 body) with
  | some (.obj members) =>
    match members.lookup "error" with
    | some (.str message) => (message, none)
    | some details => (rejectedMessage, some details)
    | none => (rejectedMessage, some (.obj members))
  | some (.str message) => (message, none)
  | some details => (rejectedMessage, some details)
  | none => (body, none)

/-- What is shown of an error. Its own words are shown only where they tell nothing of the
inside. -/
def ofAuthError (e : AuthError) : Problem :=
  match e with
  | .badCredentials => .refused .unauthorized e.kind e.message none
  | .invalidToken _ => .refused .unauthorized e.kind "Invalid token" none
  | .notARefreshToken => .refused .badRequest e.kind e.message none
  | .invalidRefreshTokenPayload => .refused .badRequest e.kind e.message none
  | .userIdMissing => .refused .internalError e.kind e.message none
  | .serviceUnavailable _ => .refused .unavailable e.kind "Credentials directory unavailable" none
  | .downstream code body =>
    let (message, details) := forwarded body
    .refused ((Status.ofCode? code).getD .badGateway) e.kind message details
  | .passwordHashing _ => .refused .internalError e.kind "Internal server error" none
  | .tokenSigning _ => .refused .internalError e.kind "Internal server error" none

def data : Problem → Json
  | unprocessable message =>
    .obj [("message", .str message), ("kind", .str "VALIDATION_FAILED")]
  | refused _ kind message details =>
    .obj ([("message", .str message), ("kind", .str kind)] ++
      match details with
      | some value => [("details", value)]
      | none => [])

def statusJson (s : Status) : Json :=
  .num (.whole ⟨s.code, by omega, by have := s.upper; omega⟩)

def toJson (problem : Problem) : Json :=
  .obj [("status_code", statusJson problem.status), ("data", problem.data)]

def response (problem : Problem) : Response := .json problem.status problem.toJson

end Problem

end TokenAuth.Http
