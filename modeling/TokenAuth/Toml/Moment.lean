import TokenAuth.Text.Shortest
import TokenAuth.Time.Date
import TokenAuth.Toml.Value

/-! The dates and times of TOML. They are kept as texts in one spelling. -/

namespace TokenAuth.Toml.Moment

abbrev Read := Option (String × List Char)

/-- A number of `count` digits between two bounds, and what follows it. -/
def number? (count low high : Nat) (cs : List Char) : Option (Nat × List Char) := do
  let n ← Digits.nat? (cs.take count)
  if (cs.take count).length = count ∧ low ≤ n ∧ n ≤ high then some (n, cs.drop count) else none

def expect? (c : Char) : List Char → Option (List Char)
  | d :: cs => if d = c then some cs else none
  | [] => none

def two (n : Nat) : String := Digits.text (Digits.padded 2 n)

def date? (cs : List Char) : Read := do
  let (year, cs) ← number? 4 0 9999 cs
  let cs ← expect? '-' cs
  let (month, cs) ← number? 2 1 12 cs
  let cs ← expect? '-' cs
  let (day, cs) ← number? 2 1 31 cs
  let date ← Date.ofParts? year month day
  return (date.text, cs)

/-- The digits of a second's fraction: nine at most count, and zeros at the end do not. -/
def fraction? : List Char → Read
  | '.' :: cs =>
    let digits := (Digits.takeChars cs).1
    let kept := Decimal.trimmed (digits.take 9)
    if digits.isEmpty then none
    else some (if kept.isEmpty then "" else "." ++ Digits.text kept, cs.drop digits.length)
  | cs => some ("", cs)

def time? (cs : List Char) : Read := do
  let (hour, cs) ← number? 2 0 23 cs
  let cs ← expect? ':' cs
  let (minute, cs) ← number? 2 0 59 cs
  let cs ← expect? ':' cs
  let (second, cs) ← number? 2 0 60 cs
  let (fraction, cs) ← fraction? cs
  return (two hour ++ ":" ++ two minute ++ ":" ++ two second ++ fraction, cs)

/-- The offset from universal time, if one is written. An offset of nothing is positive. -/
def offset? : List Char → Read
  | [] => some ("", [])
  | c :: cs =>
    if c = 'Z' ∨ c = 'z' then some ("Z", cs)
    else if c = '+' ∨ c = '-' then do
      let (hour, cs) ← number? 2 0 23 cs
      let cs ← expect? ':' cs
      let (minute, cs) ← number? 2 0 59 cs
      let sign := if c = '-' ∧ 0 < hour + minute then "-" else "+"
      return (sign ++ two hour ++ ":" ++ two minute, cs)
    else none

/-- A date, a time, or both with or without an offset. -/
def text? (cs : List Char) : Option String :=
  match date? cs with
  | some (date, []) => some date
  | some (date, c :: cs) =>
    if c = 'T' ∨ c = 't' ∨ c = ' ' then do
      let (time, cs) ← time? cs
      let (offset, cs) ← offset? cs
      if cs.isEmpty then some (date ++ "T" ++ time ++ offset) else none
    else none
  | none =>
    match time? cs with
    | some (time, []) => some time
    | _ => none

def read? (cs : List Char) : Option Value := (text? cs).map .text

end TokenAuth.Toml.Moment
