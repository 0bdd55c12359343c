import TokenAuth.Json.Basic
import TokenAuth.Text.Binary64

/-!
Settings as sources give them, and how a source is laid over those before it: a table goes over
a table member by member, anything else replaces what was there.
-/

namespace TokenAuth

inductive Scalar
  | null
  | bool (b : Bool)
  | int (n : Int64)
  | float (bits : UInt64)
  | text (s : String)
deriving DecidableEq

/-- A setting and the source it is from. Tables that were put together have no one source. -/
inductive Setting
  | scalar (origin : Option String) (value : Scalar)
  | list (origin : Option String) (items : List Setting)
  | table (origin : Option String) (members : List (String × Setting))

namespace Setting

abbrev Members := List (String × Setting)

def null : Setting := scalar none .null

/-- Changes the member of a name, or adds it at the end. -/
def update (key : String) (f : Option Setting → Setting) : Members → Members
  | [] => [(key, f none)]
  | (k, v) :: rest => if k = key then (k, f (some v)) :: rest else (k, v) :: update key f rest

theorem lookup_update_self (key : String) (f : Option Setting → Setting) (members : Members) :
    (update key f members).lookup key = some (f (members.lookup key)) := by
  induction members with
  | nil => simp [update]
  | cons m rest ih =>
    obtain ⟨k, v⟩ := m
    by_cases h : k = key
    · subst h; simp [update]
    · have hne : (key == k) = false := beq_false_of_ne (Ne.symm h)
      simp [update, h, List.lookup_cons, hne, ih]

theorem lookup_update_of_ne {key other : String} (h : other ≠ key)
    (f : Option Setting → Setting) (members : Members) :
    (update key f members).lookup other = members.lookup other := by
  have hkey : (other == key) = false := beq_false_of_ne h
  induction members with
  | nil => simp [update, List.lookup_cons, hkey]
  | cons m rest ih =>
    obtain ⟨k, v⟩ := m
    by_cases hk : k = key
    · subst hk; simp [update, List.lookup_cons, hkey]
    · simp [update, hk, List.lookup_cons, ih]

/-- Names are the same whatever the case of their letters. -/
def foldCase (name : String) : String := name.toLower

mutual

/-- A setting laid over the one that was there before. -/
def onto (value : Setting) (old : Option Setting) : Setting :=
  match value, old with
  | table _ [], some old => old
  | table _ incoming, some (table origin members) => table origin (ontoAll incoming members)
  | table _ incoming, _ => table none (ontoAll incoming [])
  | value, _ => value

def ontoAll (incoming : Members) (members : Members) : Members :=
  match incoming with
  | [] => members
  | (key, value) :: rest => ontoAll rest (update (foldCase key) (onto value) members)

end

mutual

def ofJson (origin : String) : Json → Setting
  | .null => scalar (some origin) .null
  | .bool b => scalar (some origin) (.bool b)
  | .num (.whole n) =>
    scalar (some origin) (match n.toInt64? with
      | some i => .int i
      | none => .float (UInt64.ofNat n.value.toNat).toFloat.toBits)
  | .num (.float bits) => scalar (some origin) (.float bits)
  | .str s => scalar (some origin) (.text s)
  | .arr items => list (some origin) (ofItems origin items)
  | .obj members => table (some origin) (ofMembers origin members)

def ofItems (origin : String) : List Json → List Setting
  | [] => []
  | item :: items => ofJson origin item :: ofItems origin items

def ofMembers (origin : String) : List (String × Json) → Members
  | [] => []
  | (key, value) :: members => (key, ofJson origin value) :: ofMembers origin members

end

end Setting

end TokenAuth
