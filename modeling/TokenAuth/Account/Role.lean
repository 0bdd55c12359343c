import TokenAuth.Json.Doc

/-! The roles and the sexes that records name. -/

namespace TokenAuth

inductive Role
  | user
  | admin
deriving DecidableEq

namespace Role

def name : Role → String
  | user => "USER"
  | admin => "ADMIN"

def names : List (String × Role) := [("USER", user), ("ADMIN", admin)]

def ofDoc? (doc : Json.Doc) : Option Role := doc.choice? names

end Role

/-- A set of roles. -/
structure Roles where
  user : Bool
  admin : Bool
deriving DecidableEq

namespace Roles

def empty : Roles := ⟨false, false⟩

def ofList (roles : List Role) : Roles := ⟨roles.contains .user, roles.contains .admin⟩

/-- The roles of the set, users before administrators. -/
def toList (roles : Roles) : List Role :=
  (if roles.user then [.user] else []) ++ if roles.admin then [.admin] else []

theorem ofList_toList (roles : Roles) : ofList roles.toList = roles := by
  obtain ⟨u, a⟩ := roles
  cases u <;> cases a <;> rfl

def ofDoc? (doc : Json.Doc) : Option Roles := (doc.items? Role.ofDoc?).map ofList

def toJson (roles : Roles) : Json := .arr (roles.toList.map fun role => .str role.name)

end Roles

inductive Sex
  | male
  | female
deriving DecidableEq

namespace Sex

def name : Sex → String
  | male => "MALE"
  | female => "FEMALE"

def names : List (String × Sex) := [("MALE", male), ("FEMALE", female)]

def ofDoc? (doc : Json.Doc) : Option Sex := doc.choice? names

end Sex

end TokenAuth
