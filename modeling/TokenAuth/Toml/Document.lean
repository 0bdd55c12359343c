import TokenAuth.Toml.Moment
import TokenAuth.Toml.Number

/-! TOML documents: keys, values and the lines they stand on. -/

namespace TokenAuth.Toml

def isSpace (c : Char) : Bool := c == ' ' || c == '\t'

def skipSpaces (cs : List Char) : List Char := cs.dropWhile isSpace

/-- Skips blanks, line ends and comments. A comment stops before a control character. -/
def skipLines (inComment : Bool) : List Char → List Char
  | [] => []
  | c :: cs =>
    if c = '\n' then skipLines false cs
    else if c = '\r' ∧ cs.head? = some '\n' then skipLines false cs
    else if inComment then if Quoted.isPlain c then skipLines true cs else c :: cs
    else if isSpace c then skipLines false cs
    else if c = '#' then skipLines true cs
    else c :: cs

/-- What follows the line whose blanks and comment come next. -/
def endLine? (cs : List Char) : Option (List Char) :=
  let cs := match skipSpaces cs with
    | '#' :: cs => cs.dropWhile Quoted.isPlain
    | cs => cs
  match cs with
  | [] => some []
  | '\n' :: cs => some cs
  | '\r' :: '\n' :: cs => some cs
  | _ => none

def isBareChar (c : Char) : Bool := c.isAlphanum || c == '_' || c == '-'

/-- A part of a key: bare, or in quotes on one line. -/
def keyPart? : List Char → Option (String × List Char)
  | '"' :: cs => Quoted.take?.named (Quoted.basic? 0 cs)
  | '\'' :: cs => Quoted.take?.named (Quoted.literal? cs)
  | cs =>
    let name := cs.takeWhile isBareChar
    if name.isEmpty then none else some (String.ofList name, cs.dropWhile isBareChar)

/-- A key: parts with points between them, with blanks around all of them. -/
def key? : Nat → List Char → Option (List String × List Char)
  | 0, _ => none
  | fuel + 1, cs => do
    let (part, cs) ← keyPart? (skipSpaces cs)
    match skipSpaces cs with
    | '.' :: cs => do
      let (parts, cs) ← key? fuel cs
      return (part :: parts, cs)
    | cs => return ([part], cs)

/-- Whether a character ends a value that is not in quotes or brackets. -/
def endsWord (c : Char) : Bool :=
  isSpace c || c == '\n' || c == '\r' || c == ',' || c == ']' || c == '\x7d' || c == '#'

def isDay (cs : List Char) : Bool := (Moment.date? cs).any fun read => read.2.isEmpty

/-- The characters of a value that is not in quotes or brackets. A date may be followed by a
blank and a time. -/
def takeWord (cs : List Char) : List Char × List Char :=
  let word := cs.takeWhile fun c => !endsWord c
  match cs.dropWhile fun c => !endsWord c with
  | ' ' :: c :: rest =>
    if isDay word ∧ c.isDigit then
      let time := (c :: rest).takeWhile fun c => !endsWord c
      (word ++ ' ' :: time, (c :: rest).drop time.length)
    else (word, ' ' :: c :: rest)
  | rest => (word, rest)

def ofWord? (word : List Char) : Option Value :=
  if word = ['t', 'r', 'u', 'e'] then some (.bool true)
  else if word = ['f', 'a', 'l', 's', 'e'] then some (.bool false)
  else Number.read? word <|> Moment.read? word

/-- The number of brackets and braces that may stand one inside the other. -/
def maxDepth : Nat := 79

mutual

/-- A value at most `depth` deep, and what follows it. No character takes more than two units of
fuel. -/
def value? (depth : Nat) : Nat → List Char → Option (Value × List Char)
  | 0, _ => none
  | fuel + 1, cs =>
    match cs with
    | '[' :: cs =>
      match depth with
      | 0 => none
      | depth + 1 => (items? depth fuel cs).map fun (items, cs) => (.array items, cs)
    | '\x7b' :: cs =>
      match depth with
      | 0 => none
      | depth + 1 => do
        let (pairs, cs) ← match skipSpaces cs with
          | '\x7d' :: cs => some ([], cs)
          | cs => pairs? depth fuel cs
        let table ← Value.ofPairs? pairs
        return (table, cs)
    | cs =>
      if cs.head? = some '"' ∨ cs.head? = some '\'' then
        (Quoted.take? cs).map fun (s, cs) => (.text s, cs)
      else
        let (word, cs) := takeWord cs
        (ofWord? word).map fun v => (v, cs)

/-- The items up to the closing bracket. A comma may stand behind the last one. -/
def items? (depth : Nat) : Nat → List Char → Option (List Value × List Char)
  | 0, _ => none
  | fuel + 1, cs =>
    match skipLines false cs with
    | ']' :: cs => some ([], cs)
    | cs => do
      let (value, cs) ← value? depth fuel cs
      match skipLines false cs with
      | ']' :: cs => return ([value], cs)
      | ',' :: cs => do
        let (values, cs) ← items? depth fuel cs
        return (value :: values, cs)
      | _ => none

/-- The pairs up to the closing brace, on one line. -/
def pairs? (depth : Nat) : Nat → List Char → Option (List (List String × Value) × List Char)
  | 0, _ => none
  | fuel + 1, cs => do
    let (pair, cs) ← pair? depth fuel cs
    match skipSpaces cs with
    | '\x7d' :: cs => return ([pair], cs)
    | ',' :: cs => do
      let (pairs, cs) ← pairs? depth fuel cs
      return (pair :: pairs, cs)
    | _ => none

/-- A key, an equals sign and a value. -/
def pair? (depth : Nat) : Nat → List Char → Option ((List String × Value) × List Char)
  | 0, _ => none
  | fuel + 1, cs => do
    let (key, cs) ← key? fuel cs
    match cs with
    | '=' :: cs => do
      let (value, cs) ← value? depth fuel (skipSpaces cs)
      return ((key, value), cs)
    | _ => none

end

/-- What one line says. -/
inductive Statement
  | pair (key : List String) (value : Value)
  | declare (name : List String)
  | extend (name : List String)

/-- The statement at the start of a line, and what follows it on the line. -/
def statement? (fuel : Nat) : List Char → Option (Statement × List Char)
  | '[' :: '[' :: cs => do
    let (name, cs) ← key? fuel cs
    match cs with
    | ']' :: ']' :: cs => return (.extend name, cs)
    | _ => none
  | '[' :: cs => do
    let (name, cs) ← key? fuel cs
    match cs with
    | ']' :: cs => return (.declare name, cs)
    | _ => none
  | cs => (pair? maxDepth fuel cs).map fun ((key, value), cs) => (.pair key value, cs)

/-- The document so far: its tables, and the name of the table that is being filled. -/
structure Draft where
  members : Value.Members
  name : List String

namespace Draft

def add? (draft : Draft) : Statement → Option Draft
  | .pair key value =>
    (Value.within? false (Value.addPair? key value) draft.name .declared draft.members).map
      fun members => { draft with members := members }
  | .declare name => (Value.declare? name draft.members).map fun members => ⟨members, name⟩
  | .extend name => (Value.extend? name draft.members).map fun members => ⟨members, name⟩

/-- Adds the statements of a document line by line. -/
def lines? : Nat → Draft → List Char → Option Draft
  | 0, _, _ => none
  | fuel + 1, draft, cs =>
    match skipLines false cs with
    | [] => some draft
    | cs => do
      let (statement, cs) ← statement? fuel cs
      let draft ← draft.add? statement
      let cs ← endLine? cs
      lines? fuel draft cs

end Draft

/-- The members of a document. -/
def read? (s : String) : Option Value.Members :=
  let cs := s.toList
  (Draft.lines? (2 * cs.length + 4) ⟨[], []⟩ cs).map Draft.members

end TokenAuth.Toml
