import TokenAuth.Base64
import TokenAuth.Crypto.Argon2
import TokenAuth.Text.Digits
import TokenAuth.Text.Split

/-!
Hashes written as fields after dollar signs: an algorithm, a version, parameters, a salt and a
digest. Reading checks the form of each field; which algorithms and parameters exist is asked only
when a password is checked.
-/

namespace TokenAuth.Password

inductive ValueFault
  | character (c : Char)
  | format
  | malformed
  | tooLong
  | tooShort
deriving DecidableEq

namespace ValueFault

def message : ValueFault → String
  | character c => s!"contains invalid character: '{c}'"
  | format => "value format is invalid"
  | malformed => "value malformed"
  | tooLong => "value to long"
  | tooShort => "value to short"

end ValueFault

inductive FieldsFault
  | missingField
  | trailing
  | name
  | value (fault : ValueFault)
  | tooManyParams
  | salt (fault : ValueFault)
  | base64
  | base64Length
  | digestTooShort
deriving DecidableEq

namespace FieldsFault

def message : FieldsFault → String
  | missingField => "password hash string missing field"
  | trailing => "password hash string contains trailing characters"
  | name => "invalid parameter name"
  | value fault => s!"invalid parameter value: {fault.message}"
  | tooManyParams => "maximum number of parameters reached"
  | salt fault => s!"salt invalid: {fault.message}"
  | base64 => "invalid Base64 encoding"
  | base64Length => "invalid Base64 length"
  | digestTooShort => "output size too short, expected at least 10 bytes"

end FieldsFault

/-- The fields of a written hash. -/
structure HashFields where
  algorithm : String
  version : Option Nat
  params : List (String × String)
  salt : Option String
  digest : Option Bytes
deriving DecidableEq

namespace HashFields

def isNameChar (c : Char) : Bool :=
  ('a' ≤ c && c ≤ 'z') || ('0' ≤ c && c ≤ '9') || c == '-'

def isValueChar (c : Char) : Bool :=
  ('A' ≤ c && c ≤ 'Z') || ('a' ≤ c && c ≤ 'z') || ('0' ≤ c && c ≤ '9') || c == '/' || c == '+' ||
    c == '.' || c == '-'

def byteSize (cs : List Char) : Nat := (String.ofList cs).utf8ByteSize

def readName (cs : List Char) : Except FieldsFault String :=
  if 1 ≤ cs.length ∧ byteSize cs ≤ 32 ∧ cs.all isNameChar then .ok (String.ofList cs)
  else .error .name

def readValue (cs : List Char) : Except ValueFault String :=
  if 64 < byteSize cs then .error .tooLong
  else
    match cs.find? fun c => !isValueChar c with
    | some c => .error (.character c)
    | none => .ok (String.ofList cs)

/-- A number below 2³² without leading zeros. -/
def readDecimal (s : String) : Except ValueFault Nat :=
  let cs := s.toList
  if cs.isEmpty then .error .malformed
  else
    match cs.find? fun c => (Digits.ofChar? c).isNone with
    | some c => .error (.character c)
    | none =>
      let n := (Digits.nat? cs).getD 0
      if (cs.head? = some '0' ∧ cs.length ≠ 1) ∨ 0x100000000 ≤ n then .error .format else .ok n

def readParam (cs : List Char) : Except FieldsFault (String × String) :=
  match Text.splitOn (· == '=') cs with
  | [] => .error .name
  | name :: rest => do
    let name ← readName name
    match rest with
    | [] => .error (.value .malformed)
    | value :: more => do
      let value ← (readValue value).mapError .value
      if more.isEmpty then .ok (name, value) else .error (.value .malformed)

def readParams (cs : List Char) : Except FieldsFault (List (String × String)) :=
  if 127 < byteSize cs then .error .tooManyParams
  else (Text.splitOn (· == ',') cs).mapM readParam

def readSalt (cs : List Char) : Except FieldsFault String :=
  if byteSize cs < 4 then .error (.salt .tooShort)
  else (readValue cs).mapError .salt

/-- A digest of ten to 64 bytes. -/
def readDigest (cs : List Char) : Except FieldsFault Bytes :=
  let bytes := utf8 (String.ofList cs)
  if 64 < bytes.length / 4 * 3 + bytes.length % 4 * 3 / 4 then .error .base64Length
  else
    match Base64.decode? .standard .none bytes with
    | none => .error .base64
    | some digest => if digest.length < 10 then .error .digestTooShort else .ok digest

def takeVersion : List (List Char) → Except FieldsFault (Option Nat × List (List Char))
  | ('v' :: '=' :: digits) :: rest =>
    if digits.contains ',' then .ok (none, ('v' :: '=' :: digits) :: rest)
    else do
      let value ← (readValue digits).mapError .value
      let n ← (readDecimal value).mapError .value
      return (some n, rest)
  | fields => .ok (none, fields)

def takeParams : List (List Char) → Except FieldsFault (List (String × String) × List (List Char))
  | field :: rest =>
    if field.contains '=' then do
      let params ← readParams field
      return (params, rest)
    else .ok ([], field :: rest)
  | [] => .ok ([], [])

/-- Reads a field if there is one. -/
def takeOne {α : Type} (read : List Char → Except FieldsFault α) :
    List (List Char) → Except FieldsFault (Option α × List (List Char))
  | field :: rest => do
    let a ← read field
    return (some a, rest)
  | [] => .ok (none, [])

def read (hash : String) : Except FieldsFault HashFields :=
  match Text.splitOn (· == '$') hash.toList with
  | [] :: algorithm :: fields => do
    let algorithm ← readName algorithm
    let (version, fields) ← takeVersion fields
    let (params, fields) ← takeParams fields
    let (salt, fields) ← takeOne readSalt fields
    let (digest, fields) ← takeOne readDigest fields
    if fields.isEmpty then .ok ⟨algorithm, version, params, salt, digest⟩ else .error .trailing
  | _ => .error .missingField

end HashFields

namespace Argon2Hash

def variants : List (String × Argon2.Variant) :=
  [("argon2d", .d), ("argon2i", .i), ("argon2id", .id)]

def versions : List (Nat × Argon2.Version) := [(16, .v16), (19, .v19)]

/-- The costs of new hashes, and of written ones where they give none. -/
def defaultParams : Argon2.Params := ⟨19456, 2, 1, 32, []⟩

def decodeBase64? (limit : Nat) (s : String) : Option Bytes :=
  (Base64.decode? .standard .none (utf8 s)).filter fun bs => bs.length ≤ limit

def withParam (p : Argon2.Params) (param : String × String) : Option Argon2.Params :=
  let number := (HashFields.readDecimal param.2).toOption
  match param.1 with
  | "m" => number.map fun n => { p with memory := n }
  | "t" => number.map fun n => { p with passes := n }
  | "p" => number.map fun n => { p with lanes := n }
  | "keyid" => (decodeBase64? 8 param.2).map fun _ => p
  | "data" => (decodeBase64? 32 param.2).map fun data => { p with data := data }
  | _ => none

def params? (fields : HashFields) (digest : Bytes) : Option Argon2.Params :=
  (fields.params.foldlM withParam { defaultParams with outputLength := digest.length }).filter
    Argon2.Params.isValid

/-- The digest that a password gives under the algorithm, the parameters and the salt of a written
hash, where all of them exist. -/
def recompute? (fields : HashFields) (password : String) : Option Bytes := do
  let salt ← fields.salt
  let digest ← fields.digest
  let variant ← variants.lookup fields.algorithm
  let version ← match fields.version with
    | none => some .v19
    | some n => versions.lookup n
  let p ← params? fields digest
  let salt ← decodeBase64? 64 salt
  if salt.length < 8 then none else some (Argon2.core variant version p (utf8 password) salt)

def accepts (fields : HashFields) (password : String) : Bool :=
  match recompute? fields password with
  | some digest => fields.digest == some digest
  | none => false

def encodeBase64 (bs : Bytes) : String := ofAscii (Base64.encode .standard .none bs)

/-- The written hash of a password under the default costs. -/
def text (salt : Bytes) (password : String) : String :=
  let p := defaultParams
  "$argon2id$v=19$m=" ++ Digits.text (Digits.ofNat p.memory) ++ ",t=" ++
    Digits.text (Digits.ofNat p.passes) ++ ",p=" ++ Digits.text (Digits.ofNat p.lanes) ++ "$" ++
    encodeBase64 salt ++ "$" ++ encodeBase64 (Argon2.core .id .v19 p (utf8 password) salt)

end Argon2Hash

end TokenAuth.Password
