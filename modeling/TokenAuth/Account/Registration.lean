import TokenAuth.Account.Email
import TokenAuth.Account.Role
import TokenAuth.Account.UserId
import TokenAuth.Json.Printer
import TokenAuth.Time.DateTime

/-!
Registrations: the fields of a form, the checks they must pass, and what is sent to the directory
and received from it.
-/

namespace TokenAuth

inductive NameField
  | firstName
  | lastName
deriving DecidableEq

namespace NameField

def name : NameField → String
  | firstName => "firstName"
  | lastName => "lastName"

end NameField

inductive RegistrationError
  | email (e : EmailError)
  | blankPassword
  | invalidName (field : NameField)
  | birthDateNotInPast
deriving DecidableEq

/-- The fields of a registration as they were given. -/
structure Registration.Form where
  email : String
  password : String
  firstName : String
  lastName : String
  birthDate : Date
  sex : Sex

/-- A registration whose fields were checked. -/
structure Registration where
  email : Email
  password : String
  firstName : String
  lastName : String
  birthDate : Date
  sex : Sex

namespace Registration

def nameMinLength : Nat := 2

def nameMaxLength : Nat := 50

/-- A name counts without the blanks around it and is kept with them. -/
def checkName (field : NameField) (name : String) : Except RegistrationError String :=
  let length := (Text.trim name).length
  if nameMinLength ≤ length ∧ length ≤ nameMaxLength then .ok name else .error (.invalidName field)

/-- Checks a registration on the day `today`, counted from 1970-01-01. -/
def check (today : Int) (form : Form) : Except RegistrationError Registration := do
  let email ← (Email.ofString form.email).mapError .email
  if Text.isBlank form.password then .error .blankPassword
  let firstName ← checkName .firstName form.firstName
  let lastName ← checkName .lastName form.lastName
  if today ≤ form.birthDate.toDays then .error .birthDateNotInPast
  return ⟨email, form.password, firstName, lastName, form.birthDate, form.sex⟩

end Registration

namespace RegistrationError

def message : RegistrationError → String
  | email e => s!"Invalid email: {e.message}"
  | blankPassword => "Password is mandatory"
  | invalidName field =>
    s!"{field.name} must be between {Registration.nameMinLength} and " ++
      s!"{Registration.nameMaxLength} characters"
  | birthDateNotInPast => "Birth date must be in the past"

end RegistrationError

/-- What is sent to the directory to create an account. -/
structure NewUser where
  email : String
  passwordHash : String
  firstName : String
  lastName : String
  birthDate : Date
  sex : Sex
deriving DecidableEq

namespace NewUser

def ofRegistration (r : Registration) (passwordHash : String) : NewUser :=
  ⟨r.email.text, passwordHash, r.firstName, r.lastName, r.birthDate, r.sex⟩

def toJson (user : NewUser) : Json :=
  .obj [("email", .str user.email), ("password", .str user.passwordHash),
    ("firstName", .str user.firstName), ("lastName", .str user.lastName),
    ("birthDate", .str user.birthDate.text), ("sex", .str user.sex.name)]

end NewUser

/-- What the directory answers about an account it created. -/
structure RegisteredUser where
  externalId : Option UserId
  email : String
  firstName : Option String
  lastName : Option String
  birthDate : Option Date
  sex : Option Sex
  createdAt : Option DateTime
deriving DecidableEq

namespace RegisteredUser

def fieldNames : List String :=
  ["externalId", "email", "firstName", "lastName", "birthDate", "sex", "createdAt"]

def ofDoc? (doc : Json.Doc) : Option RegisteredUser := do
  let fields ← doc.recordFields? fieldNames
  let externalId ← fields.optional? "externalId" Uuid.ofDoc?
  let email ← fields.required? "email" Json.Doc.string?
  let firstName ← fields.optional? "firstName" Json.Doc.string?
  let lastName ← fields.optional? "lastName" Json.Doc.string?
  let birthDate ← fields.optional? "birthDate" fun doc => doc.string?.bind Date.readLoose?
  let sex ← fields.optional? "sex" Sex.ofDoc?
  let createdAt ← fields.optional? "createdAt" fun doc => doc.string?.bind DateTime.read?
  return ⟨externalId, email, firstName, lastName, birthDate, sex, createdAt⟩

def ofBytes? (bs : Bytes) : Option RegisteredUser := (Json.Doc.ofBytes? bs).bind ofDoc?

/-- Null stands for what is absent. -/
def toJson (user : RegisteredUser) : Json :=
  let orNull (value : Option String) : Json := (value.map Json.str).getD .null
  .obj [("externalId", orNull (user.externalId.map Uuid.text)), ("email", .str user.email),
    ("firstName", orNull user.firstName), ("lastName", orNull user.lastName),
    ("birthDate", orNull (user.birthDate.map Date.text)),
    ("sex", orNull (user.sex.map Sex.name)),
    ("createdAt", orNull (user.createdAt.map DateTime.text))]

end RegisteredUser

end TokenAuth
