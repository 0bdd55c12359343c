import TokenAuth.Text.Bytes

/-! The ways in which the directory fails. -/

namespace TokenAuth.Directory

/-- Why the directory of accounts gave no usable answer. -/
inductive Fault
  | unavailable (reason : String)
  | status (code : Nat) (body : Bytes)
  | unreadable (reason : String)
deriving DecidableEq

namespace Fault

def message : Fault → String
  | unavailable reason => s!"Credentials directory unreachable: {reason}"
  | status code _ => s!"Credentials directory returned {code}"
  | unreadable reason => s!"Unreadable credentials directory response: {reason}"

end Fault

end TokenAuth.Directory
