import TokenAuth.Base64
import TokenAuth.Text.Blank

/-! Secrets that sign tokens: base64 where a text is such, else the text itself. -/

namespace TokenAuth

inductive SecretError
  | empty
  | tooShort (actual : Nat)
deriving DecidableEq

/-- A key for signing tokens. -/
structure SigningSecret where
  bytes : Bytes
  longEnough : 32 ≤ bytes.length
deriving DecidableEq

namespace SigningSecret

def minLength : Nat := 32

/-- The bytes of a padded or unpadded Base64 text, if they are enough for a key. -/
def decodeBase64? (bs : Bytes) : Option Bytes :=
  let decoded :=
    (Base64.decode? .standard .full bs).or (Base64.decode? .standard .none bs)
  decoded.filter fun bytes => minLength ≤ bytes.length

/-- A secret is Base64 where that gives a long enough key, else its own bytes; blanks around it
do not count. -/
def decode (raw : String) : Except SecretError SigningSecret :=
  let text := utf8 (Text.trim raw)
  if text = [] then .error .empty
  else
    let bytes := (decodeBase64? text).getD text
    if h : minLength ≤ bytes.length then .ok ⟨bytes, h⟩ else .error (.tooShort bytes.length)

/-- What may be shown of a secret. -/
def redacted (secret : SigningSecret) : String :=
  s!"SigningSecret([redacted; {secret.bytes.length} bytes])"

end SigningSecret

namespace SecretError

def message : SecretError → String
  | empty => "Signing secret is empty"
  | tooShort actual =>
    s!"Signing secret too short: minimum {SigningSecret.minLength} bytes, got {actual}"

end SecretError

end TokenAuth
