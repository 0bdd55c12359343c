import TokenAuth.Uuid

namespace TokenAuth

/-- The id of an account. -/
abbrev UserId := Uuid

inductive UserIdError
  | invalidFormat (fault : UuidFault)
deriving DecidableEq

namespace UserIdError

def message : UserIdError → String
  | invalidFormat fault => s!"Invalid UUID format: {fault.message}"

end UserIdError

def UserId.ofString (s : String) : Except UserIdError UserId :=
  (Uuid.read s).mapError .invalidFormat

end TokenAuth
