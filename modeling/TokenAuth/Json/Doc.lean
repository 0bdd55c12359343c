import TokenAuth.Json.Token

/-!
The tree that a JSON text spells, before texts and numbers are given their values. Reading keeps
the open part of a text whose grammar breaks, so that what was read up to there can be judged.
-/

namespace TokenAuth.Json

inductive Doc
  | null
  | bool (b : Bool)
  | number (n : Numeral)
  | text (raw : Bytes)
  | array (items : List Doc)
  | object (members : List (Bytes × Doc))

/-- A container not closed yet, what it holds latest first. -/
inductive Frame
  | array (items : List Doc)
  | object (members : List (Bytes × Doc)) (key : Option Bytes)

/-- What may come next: a value, a value or the end of an empty array, a key or the end of an
empty object, a key, a colon, or a comma or the end of a container. -/
inductive Place
  | value
  | item
  | member
  | key
  | colon
  | next
deriving DecidableEq

/-- What one lexeme leads to. -/
inductive Progress
  | more (frames : List Frame) (place : Place)
  | done (root : Doc)
  | stuck

/-- Hands a finished value to the container around it. -/
def put (value : Doc) : List Frame → Progress
  | [] => .done value
  | .array items :: frames => .more (.array (value :: items) :: frames) .next
  | .object members (some key) :: frames =>
    .more (.object ((key, value) :: members) none :: frames) .next
  | .object _ none :: _ => .stuck

/-- Starts a value with a lexeme. -/
def startValue (frames : List Frame) : Token → Progress
  | .null => put .null frames
  | .bool b => put (.bool b) frames
  | .number n => put (.number n) frames
  | .text raw => put (.text raw) frames
  | .openArray => .more (.array [] :: frames) .item
  | .openObject => .more (.object [] none :: frames) .member
  | _ => .stuck

def startKey (raw : Bytes) : List Frame → Progress
  | .object members none :: frames => .more (.object members (some raw) :: frames) .colon
  | _ => .stuck

def closeArray : List Frame → Progress
  | .array items :: frames => put (.array items.reverse) frames
  | _ => .stuck

def closeObject : List Frame → Progress
  | .object members none :: frames => put (.object members.reverse) frames
  | _ => .stuck

def separate : List Frame → Progress
  | .array items :: frames => .more (.array items :: frames) .value
  | .object members none :: frames => .more (.object members none :: frames) .key
  | _ => .stuck

def step (frames : List Frame) (place : Place) (token : Token) : Progress :=
  match place, token with
  | .value, t => startValue frames t
  | .item, .closeArray => closeArray frames
  | .item, t => startValue frames t
  | .member, .closeObject => closeObject frames
  | .member, .text raw => startKey raw frames
  | .key, .text raw => startKey raw frames
  | .colon, .colon => .more frames .value
  | .next, .comma => separate frames
  | .next, .closeArray => closeArray frames
  | .next, .closeObject => closeObject frames
  | _, _ => .stuck

/-- A value and what follows it, or the containers that were open where the grammar broke. -/
inductive Reading
  | complete (root : Doc) (rest : Bytes)
  | cut (frames : List Frame)

def run (frames : List Frame) (place : Place) (bs : Bytes) : Reading :=
  match _h : Token.next? bs with
  | none => .cut frames
  | some (token, rest) =>
    match step frames place token with
    | .more frames place => run frames place rest
    | .done root => .complete root rest
    | .stuck => .cut frames
termination_by bs.length
decreasing_by exact Token.length_next? ‹_›

/-- Reads one value at the start of a byte string. -/
def read (bs : Bytes) : Reading := run [] .value bs

namespace Doc

/-- The tree of a byte string that is one value, blanks around it aside. -/
def ofBytes? (bs : Bytes) : Option Doc :=
  match read bs with
  | .complete root rest => if rest.all isGap then some root else none
  | .cut _ => none

/-- The number of containers that may stand one inside the other. -/
def maxDepth : Nat := 127

mutual

/-- The value of a tree with at most `depth` containers one inside the other. -/
def value? (depth : Nat) : Doc → Option Json
  | null => some .null
  | bool b => some (.bool b)
  | number n => n.number?.map .num
  | text raw => (textOf? raw).map .str
  | array items =>
    match depth with
    | 0 => none
    | depth + 1 => (values? depth items).map .arr
  | object members =>
    match depth with
    | 0 => none
    | depth + 1 => (memberValues? depth members).map .obj

def values? (depth : Nat) : List Doc → Option (List Json)
  | [] => some []
  | item :: items => do
    let value ← value? depth item
    let values ← values? depth items
    return value :: values

/-- Members in key order; of several with one name the last stays. -/
def memberValues? (depth : Nat) : List (Bytes × Doc) → Option (List (String × Json))
  | [] => some []
  | (raw, doc) :: members => do
    let key ← textOf? raw
    let value ← value? depth doc
    let members ← memberValues? depth members
    return addMissing key value members

end

def string? : Doc → Option String
  | text raw => textOf? raw
  | _ => none

def bool? : Doc → Option Bool
  | bool b => some b
  | _ => none

def whole? : Doc → Option Whole
  | number n =>
    match n.number? with
    | some (.whole w) => some w
    | _ => none
  | _ => none

def int64? (doc : Doc) : Option Int64 := doc.whole?.bind Whole.toInt64?

/-- Null stands for no value. -/
def optional? {α : Type} (read? : Doc → Option α) : Doc → Option (Option α)
  | null => some none
  | doc => (read? doc).map some

/-- The one of `names` that a tree names, as a text or as an object with that name over null. -/
def choice? {α : Type} (names : List (String × α)) : Doc → Option α
  | text raw => (textOf? raw).bind fun name => names.lookup name
  | object [(raw, null)] => (textOf? raw).bind fun name => names.lookup name
  | _ => none

def items? {α : Type} (read? : Doc → Option α) : Doc → Option (List α)
  | array items => items.mapM read?
  | _ => none

end Doc

/-- The trees of a record's fields by name. -/
abbrev Fields := List (String × Doc)

namespace Fields

def required? {α : Type} (fields : Fields) (name : String) (read? : Doc → Option α) : Option α :=
  (fields.lookup name).bind read?

/-- The value of a field that may be absent or null. -/
def optional? {α : Type} (fields : Fields) (name : String) (read? : Doc → Option α) :
    Option (Option α) :=
  match fields.lookup name with
  | none => some none
  | some doc => doc.optional? read?

end Fields

namespace Doc

/-- The members with texts for keys. -/
def named? (members : List (Bytes × Doc)) : Option Fields :=
  members.mapM fun (raw, doc) => (textOf? raw).map fun key => (key, doc)

/-- No field of `names` occurs twice. -/
def distinctFields (names : List String) (fields : Fields) : Bool :=
  names.all fun name => (fields.filter fun f => f.1 == name).length ≤ 1

/-- The fields of an object that are among `names`; none may occur twice. -/
def objectFields? (names : List String) : Doc → Option Fields
  | object members => do
    let fields ← named? members
    if distinctFields names fields then some (fields.filter fun f => names.contains f.1) else none
  | _ => none

/-- The fields of a record: an object, where other members are ignored, or an array of all its
fields in order. -/
def recordFields? (names : List String) : Doc → Option Fields
  | array items => if items.length = names.length then some (names.zip items) else none
  | doc => doc.objectFields? names

end Doc

/-- The value of a byte string that is one JSON text. -/
def ofBytes? (bs : Bytes) : Option Json := do
  let doc ← Doc.ofBytes? bs
  doc.value? Doc.maxDepth

end TokenAuth.Json
