import TokenAuth.Text.Blank
import TokenAuth.Text.Letters
import TokenAuth.Text.Split

/-!
Email addresses: a local part and a domain, each with a grammar of its own. A display name may
stand before an address in angle brackets.
-/

namespace TokenAuth

/-- Why a text is no address. -/
inductive AddressFault
  | character
  | noSeparator
  | noEndBracket
  | noDisplayName
  | localEmpty
  | localTooLong
  | domainEmpty
  | domainTooLong
  | labelEmpty
  | labelTooLong
deriving DecidableEq

namespace AddressFault

def message : AddressFault → String
  | character => "Invalid character."
  | noSeparator => "Missing separator character '@'."
  | noEndBracket => "Terminating '>' is missing."
  | noDisplayName => "Display name was not supplied, but email starts with '<'."
  | localEmpty => "Local part is empty."
  | localTooLong => "Local part is too long. Length limit: 64"
  | domainEmpty => "Domain is empty."
  | domainTooLong => "Domain is too long. Length limit: 254"
  | labelEmpty => "A sub-domain is empty."
  | labelTooLong => "A sub-domain is too long. Length limit: 63"

end AddressFault

namespace Address

def byteSize (cs : List Char) : Nat := cs.foldl (fun n c => n + c.utf8Size) 0

/-- Characters whose last two bytes would themselves be a UTF-8 sequence of two bytes. -/
def isTwoByteLike (c : Char) : Bool :=
  let high := c.toNat / 256
  let low := c.toNat % 256
  0xC2 ≤ high && high ≤ 0xDF && 0x80 ≤ low && low ≤ 0xBF

/-- A character of an atom. -/
def isAtomChar (c : Char) : Bool :=
  isAlphanumeric c || "!#$%&'*+-/=?^_`{|}~".toList.contains c || isTwoByteLike c

def isVisible (c : Char) : Bool := '!' ≤ c && c ≤ '~'

/-- A character that stands for itself between quotes. -/
def isQuotedChar (c : Char) : Bool :=
  c == ' ' || c == '\t' || (isVisible c && c != '"' && c != '\\') || isTwoByteLike c

/-- A character of a bracketed domain. -/
def isLiteralChar (c : Char) : Bool :=
  (isVisible c && c != '[' && c != '\\' && c != ']') || isTwoByteLike c

def isAtom (cs : List Char) : Bool := !cs.isEmpty && cs.all isAtomChar

def isDotAtom (cs : List Char) : Bool := (Text.splitOn (· == '.') cs).all isAtom

/-- Quoted content: characters that stand for themselves, and visible ones after a backslash. -/
def isQuotedContent : List Char → Bool
  | [] => true
  | '\\' :: c :: cs => isVisible c && isQuotedContent cs
  | c :: cs => isQuotedChar c && isQuotedContent cs

/-- What stands between two enclosing characters. -/
def between? (first last : Char) (cs : List Char) : Option (List Char) :=
  if cs.head? = some first ∧ cs.getLast? = some last then some (cs.drop 1).dropLast else none

def require (b : Bool) (fault : AddressFault) : Except AddressFault Unit :=
  if b then .ok () else .error fault

def checkLocal (cs : List Char) : Except AddressFault Unit :=
  if cs.isEmpty then .error .localEmpty
  else if 64 < byteSize cs then .error .localTooLong
  else
    match between? '"' '"' cs with
    | some content =>
      if cs.length ≤ 2 then .error .localEmpty else require (isQuotedContent content) .character
    | none => require (isDotAtom cs) .character

/-- A label of a domain name starts and ends with a letter or a number. Its ends are looked at
before its length, its length before what stands between them. -/
def checkLabel (cs : List Char) : Except AddressFault Unit := do
  require (!cs.isEmpty) .labelEmpty
  require (cs.head?.any isAlphanumeric && cs.getLast?.any isAlphanumeric) .character
  require (byteSize cs ≤ 63) .labelTooLong
  require (isAtom cs) .character

def checkDomain (cs : List Char) : Except AddressFault Unit :=
  if cs.isEmpty then .error .domainEmpty
  else if 254 < byteSize cs then .error .domainTooLong
  else
    match between? '[' ']' cs with
    | some content => require (content.all isLiteralChar) .character
    | none => (Text.splitOn (· == '.') cs).forM checkLabel

/-- A display name, empty if there is none, and the address, which stands between angle brackets
after a display name. -/
def splitDisplay (cs : List Char) : Except AddressFault (List Char × List Char) :=
  match Text.splitLast? [' ', '<'] cs with
  | none => .ok ([], cs)
  | some (display, rest) =>
    let rest := Text.strip isBlank rest
    if rest.getLast? = some '>' then .ok (Text.strip isBlank display, rest.dropLast)
    else .error .noEndBracket

/-- Checks an address, which a display name may precede. -/
def check (s : String) : Except AddressFault Unit := do
  let (display, address) ← splitDisplay s.toList
  match Text.splitLast? ['@'] address with
  | none => .error .noSeparator
  | some (name, domain) =>
    if display.isEmpty ∧ name.head? = some '<' then .error .noDisplayName
    else do
      checkLocal name
      checkDomain domain

end Address

inductive EmailError
  | invalidFormat (fault : AddressFault)
  | invalidLength (actual : Nat)
deriving DecidableEq

/-- The email of an account, as it was given. -/
structure Email where
  text : String
  length_valid : 5 ≤ text.length ∧ text.length ≤ 100
  address_valid : Address.check text = .ok ()

namespace Email

def minLength : Nat := 5

def maxLength : Nat := 100

def ofString (s : String) : Except EmailError Email :=
  if hlength : minLength ≤ s.length ∧ s.length ≤ maxLength then
    match haddress : Address.check s with
    | .ok () => .ok ⟨s, hlength, haddress⟩
    | .error fault => .error (.invalidFormat fault)
  else .error (.invalidLength s.length)

end Email

namespace EmailError

def message : EmailError → String
  | invalidFormat fault => s!"Invalid email format: {fault.message}"
  | invalidLength actual =>
    s!"Email must be between {Email.minLength} and {Email.maxLength} characters, got {actual}"

end EmailError

end TokenAuth
