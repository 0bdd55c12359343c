import TokenAuth.Text.Split
import TokenAuth.Text.Bytes

/-! Media types, as far as it takes to tell that a body is JSON. -/

namespace TokenAuth.Http

/-- A media type without its parameters, in lower case. -/
structure MediaType where
  kind : Bytes
  subtype : Bytes
  suffix : Option Bytes
deriving DecidableEq

namespace MediaType

def isAsciiLetter (b : UInt8) : Bool := (0x41 ≤ b && b ≤ 0x5A) || (0x61 ≤ b && b ≤ 0x7A)

def isAsciiDigit (b : UInt8) : Bool := 0x30 ≤ b && b ≤ 0x39

/-- The bytes of a token: letters, digits and fifteen marks. -/
def isTokenByte (b : UInt8) : Bool :=
  isAsciiLetter b || isAsciiDigit b || (utf8 "!#$%&'*+-.^_|~\x60").contains b

/-- The bytes that may stand between quotes. -/
def isQuotedByte (b : UInt8) : Bool := 0x20 ≤ b && b != 0x7F

def lowerByte (b : UInt8) : UInt8 := if 0x41 ≤ b && b ≤ 0x5A then b + 0x20 else b

/-- Where a reader stands in the parameters after a semicolon. -/
inductive Place
  | parameter
  | name
  | value
  | token
  | opened
  | quoted
  | closed
deriving DecidableEq

/-- A parameter is a name, an equals sign and a token or a quoted value. Spaces stand only
before a name and after a quoted value, and the first byte between quotes may be a quote. -/
def step : Place → UInt8 → Option Place
  | .parameter, b =>
    if b = 0x20 then some .parameter else if isTokenByte b then some .name else none
  | .name, b => if b = 0x3D then some .value else if isTokenByte b then some .name else none
  | .value, b => if b = 0x22 then some .opened else if isTokenByte b then some .token else none
  | .token, b => if b = 0x3B then some .parameter else if isTokenByte b then some .token else none
  | .opened, b => if isQuotedByte b then some .quoted else none
  | .quoted, b =>
    if b = 0x22 then some .closed else if isQuotedByte b then some .quoted else none
  | .closed, b => if b = 0x20 then some .closed else if b = 0x3B then some .parameter else none

/-- Whether parameters may end at a place. -/
def Place.isEnd : Place → Bool
  | parameter | value | token | closed => true
  | name | opened | quoted => false

def areParameters (bs : Bytes) : Bool :=
  match bs.foldlM step .parameter with
  | some place => place.isEnd
  | none => false

/-- The part of a subtype before its last plus sign, and the suffix after it. A plus sign at the
start belongs to the subtype. -/
def splitSuffix (name : Bytes) : Bytes × Option Bytes :=
  match Text.splitLast? [0x2B] name with
  | some (before, after) => if before.isEmpty then (name, none) else (before, some after)
  | none => (name, none)

def ofNames (kind name : Bytes) : MediaType :=
  let (subtype, suffix) := splitSuffix (name.map lowerByte)
  ⟨kind.map lowerByte, subtype, suffix⟩

def ofBytes? (bs : Bytes) : Option MediaType :=
  let kind := bs.takeWhile isTokenByte
  match bs.dropWhile isTokenByte with
  | 0x2F :: rest =>
    let name := rest.takeWhile isTokenByte
    if kind.isEmpty then none
    else
      match rest.dropWhile isTokenByte with
      | [] => some (ofNames kind name)
      | 0x3B :: parameters =>
        if !name.isEmpty && areParameters parameters then some (ofNames kind name) else none
      | _ => none
  | _ => none

/-- Whether values of the type are JSON texts. -/
def isJson (m : MediaType) : Bool :=
  m.kind == utf8 "application" && (m.subtype == utf8 "json" || m.suffix == some (utf8 "json"))

end MediaType

end TokenAuth.Http
