import TokenAuth.Text.Hex

/-! The texts of TOML. Each reader starts behind the opening quotes and returns what follows the
closing ones. -/

namespace TokenAuth.Toml.Quoted

abbrev Read := Option (List Char × List Char)

/-- The characters that need no escape: all but controls, of which the tab is allowed. -/
def isPlain (c : Char) : Bool := c == '\t' || (' ' ≤ c && c != '\x7f')

def hexValue? (c : Char) : Option Nat :=
  if c.toNat < 128 then Hex.value? (UInt8.ofNat c.toNat) else none

/-- The character whose code point `count` digits write. -/
def codePoint? (count : Nat) (cs : List Char) : Option Char := do
  let digits ← (cs.take count).mapM hexValue?
  let n := digits.foldl (fun n d => 16 * n + d) 0
  if digits.length = count ∧ n.isValidChar then some (Char.ofNat n) else none

/-- The character that an escape writes, and the number of characters behind the backslash. -/
def escape? : List Char → Option (Char × Nat)
  | 'b' :: _ => some ('\x08', 1)
  | 't' :: _ => some ('\t', 1)
  | 'n' :: _ => some ('\n', 1)
  | 'f' :: _ => some ('\x0c', 1)
  | 'r' :: _ => some ('\r', 1)
  | '"' :: _ => some ('"', 1)
  | '\\' :: _ => some ('\\', 1)
  | 'u' :: cs => (codePoint? 4 cs).map fun c => (c, 5)
  | 'U' :: cs => (codePoint? 8 cs).map fun c => (c, 9)
  | _ => none

/-- Puts a character in front of a text that was read. -/
def withChar (c : Char) : Read → Read := Option.map fun (text, rest) => (c :: text, rest)

/-- A text in single quotes on one line. -/
def literal? : List Char → Read
  | [] => none
  | c :: cs =>
    if c = '\'' then some ([], cs) else if isPlain c then withChar c (literal? cs) else none

/-- A text in double quotes on one line. `skip` characters belong to an escape that was read. -/
def basic? (skip : Nat) : List Char → Read
  | [] => none
  | c :: cs =>
    match skip with
    | skip + 1 => basic? skip cs
    | 0 =>
      if c = '"' then some ([], cs)
      else if c = '\\' then
        match escape? cs with
        | some (e, n) => withChar e (basic? n cs)
        | none => none
      else if isPlain c then withChar c (basic? 0 cs)
      else none

/-- Quotes at the end of a text of several lines: three close it, and up to two more before them
belong to it. -/
def closing? (quote : Char) (cs : List Char) : Read :=
  let count := (cs.takeWhile (· == quote)).length
  if count < 3 then none
  else some (List.replicate (min 2 (count - 3)) quote, cs.drop (min 5 count))

/-- A text in three single quotes. -/
def literalLines? : List Char → Read
  | [] => none
  | c :: cs =>
    match closing? '\'' (c :: cs) with
    | some read => some read
    | none =>
      if c = '\n' ∨ isPlain c then withChar c (literalLines? cs)
      else if c = '\r' ∧ cs.head? = some '\n' then literalLines? cs
      else none

/-- Whether a line ends behind blanks. -/
def isLineEnd (cs : List Char) : Bool :=
  match cs.dropWhile fun c => c == ' ' || c == '\t' with
  | '\n' :: _ => true
  | '\r' :: '\n' :: _ => true
  | _ => false

/-- How the next character of a text in three double quotes is read: as itself, as part of an
escape that was read, or as a blank behind a backslash at the end of a line. -/
inductive Place
  | plain
  | escaped (left : Nat)
  | joined

def isJoint (c : Char) : Bool := c == ' ' || c == '\t' || c == '\n' || c == '\r'

/-- A text in three double quotes. -/
def basicLines? (place : Place) : List Char → Read
  | [] => none
  | c :: cs =>
    match place with
    | .escaped (left + 1) => basicLines? (.escaped left) cs
    | place =>
      let joining := match place with
        | .joined => isJoint c
        | _ => false
      if joining then
        if c = '\r' ∧ cs.head? ≠ some '\n' then none else basicLines? .joined cs
      else
        match closing? '"' (c :: cs) with
        | some read => some read
        | none =>
          if c = '\\' then
            if isLineEnd cs then basicLines? .joined cs
            else
              match escape? cs with
              | some (e, n) => withChar e (basicLines? (.escaped n) cs)
              | none => none
          else if c = '\n' ∨ isPlain c then withChar c (basicLines? .plain cs)
          else if c = '\r' ∧ cs.head? = some '\n' then basicLines? .plain cs
          else none

/-- The line break directly behind the opening quotes does not belong to the text. -/
def dropBreak : List Char → List Char
  | '\n' :: cs => cs
  | '\r' :: '\n' :: cs => cs
  | cs => cs

/-- The text that starts with quotes of any kind. -/
def take? : List Char → Option (String × List Char)
  | '"' :: '"' :: '"' :: cs => named (basicLines? .plain (dropBreak cs))
  | '"' :: cs => named (basic? 0 cs)
  | '\'' :: '\'' :: '\'' :: cs => named (literalLines? (dropBreak cs))
  | '\'' :: cs => named (literal? cs)
  | _ => none
where
  named : Read → Option (String × List Char) := Option.map fun (text, rest) =>
    (String.ofList text, rest)

end TokenAuth.Toml.Quoted
