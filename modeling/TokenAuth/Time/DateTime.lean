import TokenAuth.Time.Date

/-! A day with a time on it, as records write them. -/

namespace TokenAuth

/-- A date and a time of day without a zone. A leap second is written as the second billion of
nanoseconds of second 59. -/
structure DateTime where
  date : Date
  hour : Nat
  minute : Nat
  second : Nat
  nanos : Nat
  hour_lt : hour < 24
  minute_lt : minute < 60
  second_lt : second < 60
  nanos_le : nanos ≤ 1999999999
  leap : 1000000000 ≤ nanos → second = 59
deriving DecidableEq

namespace DateTime

def ofParts? (date : Date) (hour minute second nanos : Nat) : Option DateTime :=
  if h : hour < 24 ∧ minute < 60 ∧ second < 60 ∧ nanos ≤ 1999999999 ∧
      (1000000000 ≤ nanos → second = 59) then
    some ⟨date, hour, minute, second, nanos, h.1, h.2.1, h.2.2.1, h.2.2.2.1, h.2.2.2.2⟩
  else none

/-- Nothing, three, six or nine digits after a point, as few as show the nanoseconds. -/
def fractionText (nanos : Nat) : String :=
  if nanos = 0 then ""
  else if nanos % 1000000 = 0 then "." ++ Digits.text (Digits.padded 3 (nanos / 1000000))
  else if nanos % 1000 = 0 then "." ++ Digits.text (Digits.padded 6 (nanos / 1000))
  else "." ++ Digits.text (Digits.padded 9 nanos)

def text (t : DateTime) : String :=
  let (second, nanos) :=
    if 1000000000 ≤ t.nanos then (t.second + 1, t.nanos - 1000000000) else (t.second, t.nanos)
  t.date.text ++ "T" ++ Digits.text (Digits.padded 2 t.hour) ++ ":" ++
    Digits.text (Digits.padded 2 t.minute) ++ ":" ++ Digits.text (Digits.padded 2 second) ++
    fractionText nanos

/-- The fraction after a point, if there is one. Digits after the ninth do not count. -/
def fraction : Timestamp.Reader Nat := fun cs =>
  match cs with
  | '.' :: cs => do
    let (n, rest) ← Timestamp.number (some 9) cs
    let count := cs.length - rest.length
    return (n * Nat.pow 10 (9 - count), (Digits.takeChars rest).2)
  | cs => .ok (0, cs)

def parts : Timestamp.Reader ((Int × Nat × Nat) × Nat × Nat × Nat × Nat) := fun cs => do
  let (date, cs) ← Timestamp.dateParts true cs
  let (_, cs) ← Timestamp.literal 'T' cs
  let (hour, cs) ← Timestamp.bounded 0 23 cs
  let (_, cs) ← Timestamp.literal ':' (Timestamp.skipBlanks cs)
  let (minute, cs) ← Timestamp.bounded 0 59 cs
  let (_, cs) ← Timestamp.literal ':' (Timestamp.skipBlanks cs)
  let (second, cs) ← Timestamp.bounded 0 60 cs
  let (nanos, cs) ← fraction cs
  return ((date, hour, minute, second, nanos), Timestamp.skipBlanks cs)

def read? (s : String) : Option DateTime := do
  let ((date, hour, minute, second, nanos), rest) ← (parts s.toList).toOption
  let date ← (Timestamp.dateOf date).toOption
  if rest.isEmpty then
    if second = 60 then ofParts? date hour minute 59 (nanos + 1000000000)
    else ofParts? date hour minute second nanos
  else none

end DateTime

end TokenAuth
