import TokenAuth.Http.Message
import TokenAuth.Signer

/-! The caller of a request, known by an access token in its authorization header. -/

namespace TokenAuth.Http

/-- Why the bearer of a request is unknown. -/
inductive BearerFault
  | missing
  | unreadable
  | otherScheme
  | rejected
deriving DecidableEq

namespace BearerFault

def message : BearerFault → String
  | missing => "Missing Authorization header"
  | unreadable => "Invalid Authorization header"
  | otherScheme => "Invalid Authorization header format. Expected: Bearer <token>"
  | rejected => "Invalid or expired token"

def response (fault : BearerFault) : Response :=
  .json .unauthorized (.obj [("error", .str fault.message)])

end BearerFault

namespace Request

/-- The token in the first authorization header. -/
def bearerToken (request : Request) : Except BearerFault String :=
  match request.header? "authorization" with
  | none => .error .missing
  | some value =>
    match Header.text? value with
    | none => .error .unreadable
    | some text =>
      match (Text.afterLead? "Bearer " text).map Text.trim with
      | none => .error .otherScheme
      | some token => if token = "" then .error .otherScheme else .ok token

/-- The claims of the access token that a request carries. -/
def bearerClaims (request : Request) (keys : SigningKeys) (now : Int) :
    Except BearerFault Claims := do
  let token ← request.bearerToken
  (keys.parseAccessToken now token).mapError fun _ => .rejected

end Request

end TokenAuth.Http
