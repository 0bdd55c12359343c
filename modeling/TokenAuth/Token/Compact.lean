import TokenAuth.Base64
import TokenAuth.Crypto.Hmac
import TokenAuth.Text.Split

/-! Tokens in their compact form: header, payload and signature with dots between them. -/

namespace TokenAuth.Token

/-- The three segments of a compact token. -/
structure Compact where
  header : Bytes
  payload : Bytes
  signature : Bytes
deriving DecidableEq

namespace Compact

def dot : UInt8 := 0x2E

/-- Splits a token at its last two dots. -/
def split? (token : Bytes) : Option Compact := do
  let (message, signature) ← Text.splitLast? [dot] token
  let (header, payload) ← Text.splitLast? [dot] message
  return ⟨header, payload, signature⟩

/-- What is signed. -/
def message (c : Compact) : Bytes := c.header ++ dot :: c.payload

def join (c : Compact) : Bytes := c.message ++ dot :: c.signature

end Compact

def encodeSegment (bs : Bytes) : Bytes := Base64.encode .url .none bs

def decodeSegment? (bs : Bytes) : Option Bytes := Base64.decode? .url .none bs

/-- The signature segment of a message under a key. -/
def sign (key message : Bytes) : Bytes := encodeSegment (Hmac.sha256 key message)

end TokenAuth.Token
