import TokenAuth.Json.Doc
import TokenAuth.Text.Hex
import TokenAuth.Text.Split

/-!
Identifiers of sixteen bytes, the ways to write them, and what is wrong with a text that is none.
-/

namespace TokenAuth

/-- A universally unique identifier. -/
structure Uuid where
  bytes : Bytes16
deriving DecidableEq

/-- Why a text is no identifier. -/
inductive UuidFault
  | character (c : Char) (offset : Nat)
  | length (found : Nat)
  | groupCount (found : Nat)
  | groupLength (group expected found : Nat)
deriving DecidableEq

namespace UuidFault

def message : UuidFault → String
  | character c offset => s!"invalid character: found `{c}` at {offset}"
  | length found => s!"invalid length: found {found}"
  | groupCount found => s!"invalid group count: expected 5, found {found}"
  | groupLength group expected found =>
    s!"invalid group length in group {group}: expected {expected}, found {found}"

end UuidFault

namespace Uuid

def ofBytes? (bs : Bytes) : Option Uuid := (Bytes16.ofList? bs).map Uuid.mk

/-- Marks random bytes as an identifier of version 4. -/
def ofRandom (random : Bytes16) : Uuid :=
  let marked := (random.toList.set 6 ((random.toList.getD 6 0 &&& 0x0F) ||| 0x40)).set 8
    ((random.toList.getD 8 0 &&& 0x3F) ||| 0x80)
  ⟨⟨marked, by simp only [marked, List.length_set, random.length_toList]⟩⟩

/-- The hexadecimal digits of the five groups. -/
def groupLengths : List Nat := [8, 4, 4, 4, 12]

/-- Lower-case digits in groups of 8, 4, 4, 4 and 12 with hyphens between them. -/
def text (id : Uuid) : String :=
  let digits := (Hex.encode id.bytes.toList).map fun b => Char.ofNat b.toNat
  String.ofList (digits.take 8 ++ '-' :: ((digits.drop 8).take 4 ++ '-' ::
    ((digits.drop 12).take 4 ++ '-' :: ((digits.drop 16).take 4 ++ '-' :: digits.drop 20))))

def groups (cs : List Char) : List (List Char) := Text.splitOn (· == '-') cs

def isHexDigit (c : Char) : Bool :=
  c.toNat < 128 && (Hex.value? (UInt8.ofNat c.toNat)).isSome

/-- The identifier of hexadecimal digits alone. -/
def ofDigits? (cs : List Char) : Option Uuid :=
  if cs.all isHexDigit then
    (Hex.decode? (cs.map fun c => UInt8.ofNat c.toNat)).bind ofBytes?
  else none

/-- The identifier of digits in groups. -/
def ofGroups? (cs : List Char) : Option Uuid :=
  if (groups cs).map List.length = groupLengths then ofDigits? (groups cs).flatten else none

/-- What stands between braces. -/
def unbraced? (cs : List Char) : Option (List Char) :=
  match cs with
  | '{' :: rest => if rest.getLast? = some '}' then some rest.dropLast else none
  | _ => none

/-- What follows the name of the namespace, in any case. -/
def afterUrn? (cs : List Char) : Option (List Char) :=
  if (cs.take 9).map Char.toLower = "urn:uuid:".toList then some (cs.drop 9) else none

/-- The first character that no identifier contains, with its byte offset. -/
def strayCharacter? (offset : Nat) : List Char → Option (Char × Nat)
  | [] => none
  | c :: cs =>
    if isHexDigit c || c == '-' then strayCharacter? (offset + c.utf8Size) cs
    else some (c, offset)

/-- The first of the four leading groups that has the wrong length. -/
def wrongGroup? (cs : List Char) : Option UuidFault :=
  ((((groups cs).map List.length).zip groupLengths).take 4).zipIdx.findSome? fun ((n, m), i) =>
    if n = m then none else some (.groupLength i m n)

/-- Says what is wrong with an identifier of `size` bytes whose groups are `cs`; `bare` ones stand
without braces or namespace. -/
def diagnose (bare : Bool) (size offset : Nat) (cs : List Char) : UuidFault :=
  match strayCharacter? offset cs with
  | some (c, at_) => .character c at_
  | none =>
    let count := (groups cs).length
    if count = 1 ∧ bare then .length size
    else if count ≠ 5 then .groupCount count
    else (wrongGroup? cs).getD (.groupLength 4 12 (size - 24))

def orFault (id : Option Uuid) (fault : UuidFault) : Except UuidFault Uuid :=
  match id with
  | some id => .ok id
  | none => .error fault

/-- Reads an identifier written as 32 digits, in groups, in groups between braces, or in groups
after the namespace. A text as long as one of the forms with groups is judged by its groups
alone. -/
def read (s : String) : Except UuidFault Uuid :=
  let cs := s.toList
  let size := s.utf8ByteSize
  let grouped (body : List Char) := orFault (ofGroups? body) (diagnose false size 0 body)
  if size = 36 then grouped cs
  else
    match unbraced? cs, afterUrn? cs with
    | some body, _ => if size = 38 then grouped body else .error (outside size 1 body false)
    | none, some body => if size = 45 then grouped body else .error (outside size 9 body false)
    | none, none => orFault (ofDigits? cs) (outside size 0 cs true)
where
  /-- A text longer than any form is not looked into. -/
  outside (size offset : Nat) (body : List Char) (bare : Bool) : UuidFault :=
    if 45 < size then .length size else diagnose bare size offset body

def ofDoc? (doc : Json.Doc) : Option Uuid := doc.string?.bind fun s => (read s).toOption

def toJson (id : Uuid) : Json := .str id.text

end Uuid

end TokenAuth
