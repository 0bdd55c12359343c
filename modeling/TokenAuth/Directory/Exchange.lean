import TokenAuth.Directory.Consult
import TokenAuth.Http.Status

/-! The directory as a web service: what it is sent, and what its replies mean. -/

namespace TokenAuth.Directory

/-- A JSON value sent to a path of the service by POST. -/
structure Post where
  path : String
  body : Json

namespace Post

def findPath : String := "/api/v1/internal/users/credentials"

def createPath : String := "/api/v1/users"

def find (email : String) : Post := ⟨findPath, .obj [("email", .str email)]⟩

def create (user : NewUser) : Post := ⟨createPath, user.toJson⟩

/-- Where a post goes; slashes at the end of the address of the service do not count. -/
def url (post : Post) (address : String) : String :=
  String.ofList (address.toList.reverse.dropWhile (· == '/')).reverse ++ post.path

end Post

/-- Why no reply arrived, or not all of its body. -/
inductive Outage
  | timedOut
  | unreachable
  | broken (reason : String)
deriving DecidableEq

namespace Outage

def message : Outage → String
  | timedOut => "Credentials directory request timed out"
  | unreachable => "Credentials directory connection failed"
  | broken reason => s!"Credentials directory request failed: {reason}"

def toFault (outage : Outage) : Fault := .unavailable outage.message

end Outage

structure Reply where
  status : Http.Status
  body : Except Outage Bytes

namespace Reply

/-- The body of a reply that reports success. -/
def successBody (reply : Reply) : Except Fault Bytes :=
  match reply.body with
  | .error outage => .error outage.toFault
  | .ok body =>
    if reply.status.isSuccess then .ok body else .error (.status reply.status.code body)

end Reply

/-- What one post led to. -/
abbrev Outcome := Except Outage Reply

/-- A blank of ASCII. The vertical tab is none. -/
def isAsciiBlank (b : UInt8) : Bool :=
  b == 0x20 || b == 0x09 || b == 0x0A || b == 0x0C || b == 0x0D

namespace Outcome

/-- What a lookup found. An account is absent if the service knows no such path, or if it
answers with nothing. -/
def readFind : Outcome → Except Fault (Option Credentials)
  | .error outage => .error outage.toFault
  | .ok reply =>
    if reply.status = .notFound then .ok none
    else do
      let body ← reply.successBody
      if body.all isAsciiBlank then .ok none
      else
        match Credentials.ofBytes? body with
        | some found => .ok found
        | none => .error (.unreadable "no credentials record")

/-- The account that the service says it created. -/
def readCreate : Outcome → Except Fault RegisteredUser
  | .error outage => .error outage.toFault
  | .ok reply => do
    let body ← reply.successBody
    match RegisteredUser.ofBytes? body with
    | some user => .ok user
    | none => .error (.unreadable "no registered user")

end Outcome

/-- A web service whose replies depend on a state. -/
structure WebService (σ : Type) where
  exchange : Post → σ → Outcome × σ

namespace WebService

def directory {σ : Type} (web : WebService σ) : Service σ where
  find email s :=
    let (outcome, s) := web.exchange (.find email) s
    (outcome.readFind, s)
  create user s :=
    let (outcome, s) := web.exchange (.create user) s
    (outcome.readCreate, s)

end WebService

end TokenAuth.Directory
