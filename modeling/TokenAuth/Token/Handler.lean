import TokenAuth.Secret
import TokenAuth.Token.Claims
import TokenAuth.Token.Compact
import TokenAuth.Token.Header
import TokenAuth.Token.Standing

/-! Writing tokens, and reading those whose signature, times and names hold. -/

namespace TokenAuth.Token

/-- Why a text is no token at all. -/
inductive Malformed
  | segments
  | base64
  | json
  | algorithm
deriving DecidableEq

namespace Malformed

def message : Malformed → String
  | segments => "InvalidToken"
  | base64 => "Base64 error"
  | json => "JSON error"
  | algorithm => "InvalidAlgorithm"

end Malformed

inductive Rejection
  | malformed (fault : Malformed)
  | expired
  | invalidSignature
  | invalidIssuer
  | invalidAudience
  | missingClaim (name : String)
deriving DecidableEq

namespace Rejection

def message : Rejection → String
  | malformed fault => s!"Failed to decode token: {fault.message}"
  | expired => "Token is expired"
  | invalidSignature => "Token signature is invalid"
  | invalidIssuer => "Token issuer is not accepted"
  | invalidAudience => "Token audience is not accepted"
  | missingClaim name => s!"Missing required claim: {name}"

end Rejection

/-- A key with the issuer and the audience that its tokens are checked against. -/
structure Handler where
  secret : SigningSecret
  issuer : Option String
  audience : Option String

def headerJson : Json := .obj [("typ", .str "JWT"), ("alg", .str "HS256")]

def orReject {α : Type} (fault : Malformed) : Option α → Except Rejection α
  | some a => .ok a
  | none => .error (.malformed fault)

namespace Handler

/-- The compact token of a payload. -/
def encode (handler : Handler) (payload : Json) : String :=
  let header := encodeSegment headerJson.render
  let body := encodeSegment payload.render
  let signature := sign handler.secret.bytes (header ++ Compact.dot :: body)
  ofAscii (Compact.join ⟨header, body, signature⟩)

/-- Checks the header and the signature of a token and returns its payload segment. -/
def verifySignature (handler : Handler) (token : Bytes) : Except Rejection Bytes := do
  let parts ← orReject .segments (Compact.split? token)
  let headerBytes ← orReject .base64 (decodeSegment? parts.header)
  let header ← orReject .json (Header.ofBytes? headerBytes)
  if header.algorithm ≠ .hs256 then .error (.malformed .algorithm)
  else if parts.signature ≠ sign handler.secret.bytes parts.message then .error .invalidSignature
  else .ok parts.payload

/-- Whether the names seen in a claim include the expected one. What is absent or cannot be read
is let through. -/
def admits (expected : Option String) : Seen (List String) → Bool
  | .value names =>
    match expected with
    | some name => names.contains name
    | none => true
  | _ => true

/-- Checks the claims that decide over a payload at a unix second. -/
def validate (handler : Handler) (now : Int) (standing : Standing) : Except Rejection Unit :=
  match standing.expiry with
  | .value expiry =>
    if (expiry : Int) < now then .error .expired
    else if !admits handler.issuer standing.issuers then .error .invalidIssuer
    else if !admits handler.audience standing.audiences then .error .invalidAudience
    else .ok ()
  | _ => .error (.missingClaim "exp")

/-- Decodes a token at a unix second, its payload by `read?`. -/
def decodeAs {α : Type} (handler : Handler) (read? : Json.Doc → Option α) (now : Int)
    (token : String) : Except Rejection α := do
  let segment ← handler.verifySignature (utf8 token)
  let payload ← orReject .base64 (decodeSegment? segment)
  let doc ← orReject .json (Json.Doc.ofBytes? payload)
  let value ← orReject .json (read? doc)
  let standing ← orReject .json (Standing.ofDoc? doc)
  handler.validate now standing
  return value

def decode (handler : Handler) : Int → String → Except Rejection Claims :=
  handler.decodeAs Claims.ofDoc?

/-- Decodes a payload of any shape. -/
def decodeValue (handler : Handler) : Int → String → Except Rejection Json :=
  handler.decodeAs fun doc => doc.value? Json.Doc.maxDepth

end Handler

end TokenAuth.Token
