/-! JSON values, and their canonical form with members in order of their names. -/

namespace TokenAuth

/-- The whole numbers that a JSON number holds exactly. -/
structure Whole where
  value : Int
  lower : -0x8000000000000000 ≤ value
  upper : value < 0x10000000000000000
deriving DecidableEq

namespace Whole

def ofInt? (n : Int) : Option Whole :=
  if h : -0x8000000000000000 ≤ n ∧ n < 0x10000000000000000 then some ⟨n, h.1, h.2⟩ else none

def ofInt64 (n : Int64) : Whole :=
  ⟨n.toInt, by have := n.le_toInt; omega, by have := n.toInt_lt; omega⟩

def toInt64? (n : Whole) : Option Int64 :=
  if n.value < 0x8000000000000000 then some (Int64.ofInt n.value) else none

theorem toInt64?_ofInt64 (n : Int64) : (ofInt64 n).toInt64? = some n := by
  have hlt : (ofInt64 n).value < 0x8000000000000000 := by
    have := n.toInt_lt
    simp only [ofInt64]
    omega
  rw [toInt64?, if_pos hlt]
  exact congrArg some n.ofInt_toInt

end Whole

/-- A float is kept by its binary64 pattern. -/
inductive Number
  | whole (n : Whole)
  | float (bits : UInt64)
deriving DecidableEq

inductive Json
  | null
  | bool (b : Bool)
  | num (n : Number)
  | str (s : String)
  | arr (items : List Json)
  | obj (members : List (String × Json))

namespace Json

def int (n : Int64) : Json := num (.whole (.ofInt64 n))

def str? : Json → Option String
  | str s => some s
  | _ => none

/-- The value of the member named `key`. -/
def member? (key : String) : Json → Option Json
  | obj members => members.lookup key
  | _ => none

/-- Puts a member at its place in key order, unless its name is taken. -/
def addMissing (key : String) (value : Json) : List (String × Json) → List (String × Json)
  | [] => [(key, value)]
  | (k, v) :: rest =>
    if key < k then (key, value) :: (k, v) :: rest
    else if key = k then (k, v) :: rest
    else (k, v) :: addMissing key value rest

/-- Puts a member at its place in key order, where it replaces one of its name. -/
def insert (key : String) (value : Json) : List (String × Json) → List (String × Json)
  | [] => [(key, value)]
  | (k, v) :: rest =>
    if key < k then (key, value) :: (k, v) :: rest
    else if key = k then (key, value) :: rest
    else (k, v) :: insert key value rest

mutual

/-- The value with the members of every object in key order; of several members with one name
the last stays. -/
def canonical : Json → Json
  | arr items => arr (canonicalItems items)
  | obj members => obj (canonicalMembers members)
  | value => value

def canonicalItems : List Json → List Json
  | [] => []
  | item :: items => canonical item :: canonicalItems items

def canonicalMembers : List (String × Json) → List (String × Json)
  | [] => []
  | (key, value) :: members => addMissing key (canonical value) (canonicalMembers members)

end

end Json

end TokenAuth
