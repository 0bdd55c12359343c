import TokenAuth.Password.Argon2Hash
import TokenAuth.Password.BcryptHash
import TokenAuth.Text.Blank

/-! Hashing a password and checking one against a stored hash of any known format. -/

namespace TokenAuth.Password

/-- The algorithm of new hashes. -/
inductive Algorithm
  | bcrypt
  | argon2
deriving DecidableEq

inductive Corruption
  | bcrypt (fault : BcryptFault)
  | argon2 (fault : FieldsFault)
deriving DecidableEq

inductive Error
  | corruptHash (cause : Corruption)
  | unrecognizedHash
deriving DecidableEq

namespace Error

def message : Error → String
  | corruptHash (.bcrypt fault) => s!"Stored password hash is corrupt: bcrypt: {fault.message}"
  | corruptHash (.argon2 fault) => s!"Stored password hash is corrupt: argon2: {fault.message}"
  | unrecognizedHash => "Unrecognized password hash format"

end Error

/-- Why no hash of a password was made. -/
structure HashingFault where
  reason : String
deriving DecidableEq

def HashingFault.message (fault : HashingFault) : String :=
  s!"Password hashing failed: {fault.reason}"

/-- The cost of new bcrypt hashes. -/
def bcryptCost : Nat := 10

/-- The hash of a password under a salt. -/
def hash (algorithm : Algorithm) (salt : Bytes16) (password : String) : String :=
  match algorithm with
  | .bcrypt => (BcryptHash.compute bcryptCost salt.toList password).text
  | .argon2 => Argon2Hash.text salt.toList password

/-- A new hash of a password. There is none where chance gives no salt, or the algorithm takes no
such password. -/
def newHash (algorithm : Algorithm) (salt : Except String Bytes16) (password : String) :
    Except HashingFault String :=
  match salt with
  | .ok salt => .ok (hash algorithm salt password)
  | .error reason => .error ⟨reason⟩

def encoderIds : List String := ["\x7bbcrypt\x7d", "\x7bargon2\x7d"]

/-- A stored hash without the one encoder id that may precede it. -/
def withoutEncoderId (stored : String) : String :=
  (encoderIds.findSome? fun id => Text.afterLead? id stored).getD stored

def bcryptLeads : List String := ["$2a$", "$2b$", "$2x$", "$2y$"]

def startsWith (lead s : String) : Bool := (Text.afterLead? lead s).isSome

/-- Checks a password against a stored hash, whose form says which algorithm it is of. -/
def verify (password stored : String) : Except Error Bool :=
  let stored := withoutEncoderId stored
  if bcryptLeads.any fun lead => startsWith lead stored then
    match BcryptHash.read stored with
    | .ok h => .ok (h.accepts password)
    | .error fault => .error (.corruptHash (.bcrypt fault))
  else if startsWith "$argon2" stored then
    match HashFields.read stored with
    | .ok fields => .ok (Argon2Hash.accepts fields password)
    | .error fault => .error (.corruptHash (.argon2 fault))
  else .error .unrecognizedHash

end TokenAuth.Password
