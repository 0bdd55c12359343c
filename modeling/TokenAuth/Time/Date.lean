import TokenAuth.Text.Blank
import TokenAuth.Text.Digits
import TokenAuth.Time.Instant

namespace TokenAuth

def isLeapYear (year : Int) : Bool := year % 4 == 0 && (year % 100 != 0 || year % 400 == 0)

def daysInMonth (year : Int) (month : Nat) : Nat :=
  if month = 2 then if isLeapYear year then 29 else 28
  else if month = 4 ∨ month = 6 ∨ month = 9 ∨ month = 11 then 30
  else 31

/-- A day of the proleptic Gregorian calendar. -/
structure Date where
  year : Int
  month : Nat
  day : Nat
  year_lower : -262143 ≤ year
  year_upper : year ≤ 262142
  month_valid : 1 ≤ month ∧ month ≤ 12
  day_valid : 1 ≤ day ∧ day ≤ daysInMonth year month
deriving DecidableEq

namespace Date

def ofParts? (year : Int) (month day : Nat) : Option Date :=
  if h : (-262143 ≤ year ∧ year ≤ 262142) ∧ (1 ≤ month ∧ month ≤ 12) ∧
      (1 ≤ day ∧ day ≤ daysInMonth year month) then
    some ⟨year, month, day, h.1.1, h.1.2, h.2.1, h.2.2⟩
  else none

/-- Days since 1970-01-01, counted in years that start in March. -/
def toDays (d : Date) : Int :=
  let year := if d.month ≤ 2 then d.year - 1 else d.year
  let era := year / 400
  let yearOfEra := year % 400
  let month : Int := if d.month ≤ 2 then (d.month : Int) + 9 else (d.month : Int) - 3
  let dayOfYear := (153 * month + 2) / 5 + (d.day : Int) - 1
  let dayOfEra := 365 * yearOfEra + yearOfEra / 4 - yearOfEra / 100 + dayOfYear
  146097 * era + dayOfEra - 719468

/-- The date that is `n` days after 1970-01-01. -/
def ofDays? (n : Int) : Option Date :=
  let days := n + 719468
  let era := days / 146097
  let dayOfEra := days % 146097
  let yearOfEra := (dayOfEra - dayOfEra / 1460 + dayOfEra / 36524 - dayOfEra / 146096) / 365
  let dayOfYear := dayOfEra - (365 * yearOfEra + yearOfEra / 4 - yearOfEra / 100)
  let month := (5 * dayOfYear + 2) / 153
  let day := dayOfYear - (153 * month + 2) / 5 + 1
  let civilMonth := if month < 10 then month + 3 else month - 9
  let year := yearOfEra + 400 * era + if civilMonth ≤ 2 then 1 else 0
  ofParts? year civilMonth.toNat day.toNat

/-- Year, month and day with a hyphen between them; a year that is not four digits has a sign. -/
def text (d : Date) : String :=
  let year :=
    if 0 ≤ d.year ∧ d.year ≤ 9999 then Digits.text (Digits.padded 4 d.year.toNat)
    else (if d.year < 0 then "-" else "+") ++ Digits.text (Digits.padded 4 d.year.natAbs)
  year ++ "-" ++ Digits.text (Digits.padded 2 d.month) ++ "-" ++ Digits.text (Digits.padded 2 d.day)

end Date

/-- Why a text is no date. -/
inductive DateFault
  | outOfRange
  | invalid
  | tooShort
  | trailing
deriving DecidableEq

namespace DateFault

def message : DateFault → String
  | outOfRange => "input is out of range"
  | invalid => "input contains invalid characters"
  | tooShort => "premature end of input"
  | trailing => "trailing input"

end DateFault

/-! Readers of the parts of a written time. Each returns what follows the part. -/

namespace Timestamp

abbrev Reader (α : Type) := List Char → Except DateFault (α × List Char)

def skipBlanks (cs : List Char) : List Char := cs.dropWhile isBlank

/-- A number of one to `width` digits, or of any number of digits. -/
def number (width : Option Nat) : Reader Nat := fun cs =>
  let digits := (Digits.takeChars cs).1
  let digits := match width with
    | some w => digits.take w
    | none => digits
  if cs.isEmpty then .error .tooShort
  else if digits.isEmpty then .error .invalid
  else if 0x8000000000000000 ≤ Digits.value digits then .error .outOfRange
  else .ok (Digits.value digits, cs.drop digits.length)

/-- A number of one or two digits between two bounds, after blanks. -/
def bounded (low high : Nat) : Reader Nat := fun cs => do
  let (n, rest) ← number (some 2) (skipBlanks cs)
  if low ≤ n ∧ n ≤ high then .ok (n, rest) else .error .outOfRange

/-- A year: one to four digits, or any number of digits after a sign. -/
def year : Reader Int := fun cs => do
  let (y, rest) ← (match skipBlanks cs with
    | '-' :: cs => (number none cs).map fun (n, rest) => (-(n : Int), rest)
    | '+' :: cs => (number none cs).map fun (n, rest) => ((n : Int), rest)
    | cs => (number (some 4) cs).map fun (n, rest) => ((n : Int), rest))
  if -0x80000000 ≤ y ∧ y < 0x80000000 then .ok (y, rest) else .error .outOfRange

def literal (c : Char) : Reader Unit := fun cs =>
  match cs with
  | [] => .error .tooShort
  | d :: rest => if d = c then .ok ((), rest) else .error .invalid

/-- Year, month and day with hyphens between them; `loose` allows blanks before the hyphens. -/
def dateParts (loose : Bool) : Reader (Int × Nat × Nat) := fun cs => do
  let space (cs : List Char) := if loose then skipBlanks cs else cs
  let (y, cs) ← year cs
  let (_, cs) ← literal '-' (space cs)
  let (m, cs) ← bounded 1 12 cs
  let (_, cs) ← literal '-' (space cs)
  let (d, cs) ← bounded 1 31 cs
  return ((y, m, d), space cs)

def dateOf (parts : Int × Nat × Nat) : Except DateFault Date :=
  match Date.ofParts? parts.1 parts.2.1 parts.2.2 with
  | some d => .ok d
  | none => .error .outOfRange

end Timestamp

namespace Date

def readAs (loose : Bool) (s : String) : Except DateFault Date := do
  let (parts, rest) ← Timestamp.dateParts loose s.toList
  if rest.isEmpty then Timestamp.dateOf parts else .error .trailing

/-- Reads a date of a form field. -/
def read (s : String) : Except DateFault Date := readAs false s

/-- Reads a date of a record, where blanks may stand around the hyphens. -/
def readLoose? (s : String) : Option Date := (readAs true s).toOption

end Date

end TokenAuth
