import TokenAuth.Http.Status
import TokenAuth.Json.Printer

/-! Requests and responses. -/

namespace TokenAuth.Http

/-- A header with its name in lower case. -/
structure Header where
  name : String
  value : Bytes
deriving DecidableEq

namespace Header

/-- The bytes of a value that is text: the visible characters of ASCII, the space and the tab. -/
def isTextByte (b : UInt8) : Bool := (0x20 ≤ b && b ≤ 0x7E) || b == 0x09

/-- The text of a value, if it has no other bytes. -/
def text? (value : Bytes) : Option String :=
  if value.all isTextByte then some (ofAscii value) else none

end Header

structure Request where
  method : String
  path : String
  headers : List Header
  body : Bytes

namespace Request

/-- The value of the first header with a name. -/
def header? (request : Request) (name : String) : Option Bytes :=
  (request.headers.find? fun h => h.name == name).map Header.value

end Request

structure Response where
  status : Status
  headers : List Header
  body : Bytes
deriving DecidableEq

namespace Response

def withHeader (response : Response) (name value : String) : Response :=
  { response with headers := response.headers ++ [⟨name, utf8 value⟩] }

def empty (status : Status) : Response := ⟨status, [], []⟩

def json (status : Status) (value : Json) : Response :=
  ⟨status, [⟨"content-type", utf8 "application/json"⟩], value.render⟩

def text (status : Status) (s : String) : Response :=
  ⟨status, [⟨"content-type", utf8 "text/plain; charset=utf-8"⟩], utf8 s⟩

end Response

end TokenAuth.Http
