import TokenAuth.Settings.Setting
import TokenAuth.Text.Digits

/-! Paths to settings: names with points between them and places of lists in brackets. -/

namespace TokenAuth.Setting

/-- A step into a table or into a list. A place below zero counts from the end. -/
inductive Step
  | key (name : String)
  | index (n : Int)
deriving DecidableEq

namespace Path

/-- The characters of a name: letters and digits of ASCII, blanks, lines and hyphens. -/
def isNameChar (c : Char) : Bool := c.isAlphanum || c == ' ' || c == '_' || c == '-'

/-- The number between brackets, blanks around it aside. -/
def index? (cs : List Char) : Option Int :=
  let isGap (c : Char) : Bool := c == ' ' || c == '\t'
  let n? := match (cs.dropWhile isGap).reverse.dropWhile isGap |>.reverse with
    | '-' :: ds => (Digits.nat? ds).map fun n => -(n : Int)
    | ds => (Digits.nat? ds).map fun n => (n : Int)
  n?.filter fun n => -0x8000000000000000 ≤ n && n < 0x8000000000000000

def steps? (cs : List Char) : Option (List Step) :=
  match cs with
  | [] => some []
  | '.' :: cs =>
    let name := cs.takeWhile isNameChar
    if name.isEmpty then none
    else do
      let steps ← steps? (cs.dropWhile isNameChar)
      return .key (String.ofList name) :: steps
  | '[' :: cs =>
    match index? (cs.takeWhile (· != ']')), _h : cs.dropWhile (· != ']') with
    | some n, _ :: rest => do
      let steps ← steps? rest
      return .index n :: steps
    | _, _ => none
  | _ => none
termination_by cs.length
decreasing_by
  · have := (List.dropWhile_suffix isNameChar (l := cs)).length_le
    simp only [List.length_cons]; omega
  · have hle := (List.dropWhile_suffix (fun c => c != ']') (l := cs)).length_le
    rw [‹List.dropWhile _ cs = _›] at hle
    simp only [List.length_cons] at hle ⊢; omega

/-- The steps that a text writes, a name first. -/
def read? (s : String) : Option (List Step) := steps? ('.' :: s.toList)

end Path

/-- The members of a table, and its source; anything else has none. -/
def tableParts : Option Setting → Option String × Members
  | some (table origin members) => (origin, members)
  | _ => (none, [])

def listParts : Option Setting → Option String × List Setting
  | some (list origin items) => (origin, items)
  | _ => (none, [])

/-- Changes a place of a list, which is made long enough. -/
def updateAt (n : Int) (f : Option Setting → Setting) (items : List Setting) : List Setting :=
  let i := (if n < 0 then n + items.length else n).toNat
  items.take i ++ List.replicate (i - items.length) null ++ f items[i]? :: items.drop (i + 1)

/-- A setting after a value was put at a path into it. What stands in the way of the path is
replaced. -/
def assign (value : Setting) : List Step → Option Setting → Setting
  | [], old => onto value old
  | .key name :: steps, old =>
    let (origin, members) := tableParts old
    table origin (update (foldCase name) (assign value steps) members)
  | .index n :: steps, old =>
    let (origin, items) := listParts old
    list origin (updateAt n (fun item =>
      if steps = [] then value else assign value steps item) items)

/-- Puts a value where a text says, or under the text as a name if it writes no path. -/
def put (members : Members) (name : String) (value : Setting) : Members :=
  let steps := (Path.read? name).getD [.key name]
  (tableParts (some (assign value steps (some (table none members))))).2

end TokenAuth.Setting
