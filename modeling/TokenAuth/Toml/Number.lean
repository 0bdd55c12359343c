import TokenAuth.Text.Digits
import TokenAuth.Text.Split
import TokenAuth.Toml.Quoted
import TokenAuth.Toml.Value

/-! The numbers of TOML. -/

namespace TokenAuth.Toml.Number

/-- Digits with single underscores between them, which do not count. -/
def ungroup? (digit? : Char → Option Nat) (cs : List Char) : Option (List Nat) :=
  let groups := Text.splitOn (· == '_') cs
  if groups.any List.isEmpty then none else groups.flatten.mapM digit?

def decimalDigit? (c : Char) : Option Nat := (Digits.ofChar? c).map Fin.val

def digitBelow? (base : Nat) (c : Char) : Option Nat :=
  (Quoted.hexValue? c).filter fun d => d < base

def valueIn (base : Nat) (digits : List Nat) : Nat := digits.foldl (fun n d => base * n + d) 0

/-- The digits of a whole part: a lone zero, or digits that do not start with zero. -/
def whole? (cs : List Char) : Option (List Nat) :=
  (ungroup? decimalDigit? cs).filter fun ds => ds.head? ≠ some 0 || ds.length == 1

/-- A sign, and what follows it. -/
def sign : List Char → Bool × List Char
  | '-' :: cs => (true, cs)
  | '+' :: cs => (false, cs)
  | cs => (false, cs)

def signed (negative : Bool) (n : Nat) : Int := if negative then -(n : Int) else n

def int64? (n : Int) : Option Value :=
  if -0x8000000000000000 ≤ n ∧ n < 0x8000000000000000 then some (.int (Int64.ofInt n)) else none

/-- A whole number to base sixteen, eight or two. It has no sign. -/
def based? : List Char → Option Value
  | '0' :: 'x' :: cs => ofBase 16 cs
  | '0' :: 'o' :: cs => ofBase 8 cs
  | '0' :: 'b' :: cs => ofBase 2 cs
  | _ => none
where
  ofBase (base : Nat) (cs : List Char) : Option Value :=
    (ungroup? (digitBelow? base) cs).bind fun ds => int64? (valueIn base ds)

def integer? (cs : List Char) : Option Value :=
  let (negative, cs) := sign cs
  (whole? cs).bind fun ds => int64? (signed negative (valueIn 10 ds))

/-- The float nearest to `n × 10 ^ exponent`. -/
def nearest (n : Nat) (exponent : Int) : Float :=
  let point : Int := (Digits.ofNat n).length + exponent
  if n = 0 ∨ point < -400 then 0
  else if 400 < point then 1.0 / 0.0
  else if exponent < 0 then Float.ofScientific n true exponent.natAbs
  else Float.ofScientific n false exponent.toNat

/-- The digits behind a point; a number without a point has none. -/
def fraction? : List Char → Option (List Nat)
  | [] => some []
  | '.' :: cs => ungroup? decimalDigit? cs
  | _ => none

def exponent? : List Char → Option Int
  | [] => some 0
  | _ :: cs =>
    let (down, cs) := sign cs
    (ungroup? decimalDigit? cs).map fun ds => signed down (valueIn 10 ds)

def isExponentLetter (c : Char) : Bool := c == 'e' || c == 'E'

/-- A float has a point or an exponent; one that is too large is refused. -/
def float? (cs : List Char) : Option Value := do
  let (negative, cs) := sign cs
  guard (cs.any fun c => c == '.' || isExponentLetter c)
  let mantissa := cs.takeWhile fun c => !isExponentLetter c
  let whole ← whole? (mantissa.takeWhile (· != '.'))
  let fraction ← fraction? (mantissa.dropWhile (· != '.'))
  let exponent ← exponent? (cs.dropWhile fun c => !isExponentLetter c)
  let x := nearest (valueIn 10 (whole ++ fraction)) (exponent - fraction.length)
  if x.isInf ∧ !negative then none
  else return .float (if negative then -x else x).toBits

def special? (cs : List Char) : Option Value :=
  let (negative, cs) := sign cs
  let flip (x : Float) : Value := .float (if negative then -x else x).toBits
  if cs = ['i', 'n', 'f'] then some (flip (1.0 / 0.0))
  else if cs = ['n', 'a', 'n'] then some (flip (0.0 / 0.0))
  else none

def read? (cs : List Char) : Option Value :=
  based? cs <|> integer? cs <|> float? cs <|> special? cs

end TokenAuth.Toml.Number
