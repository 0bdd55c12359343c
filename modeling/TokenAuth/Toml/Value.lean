namespace TokenAuth.Toml

/-- How a table came about: it was declared under its name, implied by a longer name, made by
dots in a key, or written out in braces. -/
inductive TableKind
  | declared
  | implied
  | dotted
  | braced
deriving DecidableEq

/-- A value of a TOML document. A float is kept by its binary64 pattern; the tables of an array
that was declared part by part are kept latest first. -/
inductive Value
  | text (s : String)
  | int (n : Int64)
  | float (bits : UInt64)
  | bool (b : Bool)
  | array (items : List Value)
  | table (kind : TableKind) (members : List (String × Value))
  | tables (items : List (List (String × Value)))

namespace Value

abbrev Members := List (String × Value)

/-- Changes the member of a name, or adds it at the end; `f` may refuse. -/
def update? (key : String) (f : Option Value → Option Value) : Members → Option Members
  | [] => (f none).map fun v => [(key, v)]
  | (k, v) :: rest =>
    if k = key then (f (some v)).map fun v => (k, v) :: rest
    else (update? key f rest).map fun rest => (k, v) :: rest

/-- Changes a table inside others. Tables on the way that are missing are made. Keys with dots
do not reach into declared tables, and nothing reaches into a table in braces. -/
def within? (dots : Bool) (change : TableKind → Members → Option Members) :
    List String → TableKind → Members → Option Members
  | [], kind, members => change kind members
  | key :: path, _, members =>
    update? key (fun old =>
      match old with
      | none =>
        let kind := if dots then .dotted else .implied
        (within? dots change path kind []).map (table kind)
      | some (table kind inner) =>
        if kind = .braced ∨ (dots ∧ kind = .declared) then none
        else (within? dots change path kind inner).map (table kind)
      | some (tables (last :: others)) =>
        (within? dots change path .declared last).map fun last => tables (last :: others)
      | _ => none) members

/-- Adds a value under a key with dots, to a table that is not there yet or was made by dots. -/
def addPair? (key : List String) (value : Value) (kind : TableKind) (members : Members) :
    Option Members :=
  match key.getLast? with
  | none => none
  | some name =>
    let path := key.dropLast
    within? true (fun kind members =>
      if path.isEmpty ∨ kind = .dotted then
        update? name (fun old => if old.isSome then none else some value) members
      else none) path kind members

/-- Declares the table of a name. -/
def declare? (name : List String) (members : Members) : Option Members :=
  match name.getLast? with
  | none => none
  | some last =>
    within? false (fun _ members =>
      update? last (fun old =>
        match old with
        | none => some (table .declared [])
        | some (table .implied inner) => some (table .declared inner)
        | _ => none) members) name.dropLast .declared members

/-- Declares one more table of the array of a name. -/
def extend? (name : List String) (members : Members) : Option Members :=
  match name.getLast? with
  | none => none
  | some last =>
    within? false (fun _ members =>
      update? last (fun old =>
        match old with
        | none => some (tables [[]])
        | some (tables items) => some (tables ([] :: items))
        | _ => none) members) name.dropLast .declared members

/-- The table of key and value pairs in braces. -/
def ofPairs? (pairs : List (List String × Value)) : Option Value :=
  (pairs.foldlM (fun members (key, value) => addPair? key value .declared members) []).map
    (table .braced)

end Value

end TokenAuth.Toml
