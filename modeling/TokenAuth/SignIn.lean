import TokenAuth.Directory.Consult
import TokenAuth.Password.Hasher
import TokenAuth.Signer

/-!
Signing in, refreshing and registering. Each is a computation that asks the directory at most
once.
-/

namespace TokenAuth

open Directory (Consult)

/-- What signs in, refreshes and registers accounts. It keeps nothing from call to call. -/
structure SignIn where
  keys : SigningKeys
  algorithm : Password.Algorithm

namespace SignIn

/-- The clock as one call sees it: what it shows at each look, in order. -/
structure Clock where
  look : Nat → Instant

/-- A clock that stands still during a call. -/
def Clock.steady (t : Instant) : Clock := ⟨fun _ => t⟩

instance : Coe Instant Clock := ⟨Clock.steady⟩

/-- What becomes of the work that a call leaves to another thread: to hash a password, or to check
one. -/
structure Work where
  /-- The salt of a new hash, or why none can be made. -/
  salt : Except String Bytes16
  /-- Why no result comes back, where none does. -/
  loss : Option String

namespace Work

/-- Work that comes back. -/
def sound (salt : Bytes16) : Work := ⟨.ok salt, none⟩

instance : Coe Bytes16 Work := ⟨sound⟩

/-- What was worked out, unless it was lost. -/
def result {α : Type} (work : Work) (a : α) : Except AuthError α :=
  match work.loss with
  | none => .ok a
  | some reason => .error (.passwordHashing reason)

end Work

/-- The clock of a call, what chance gives to its tokens, and its work on a password. -/
structure Moment where
  clock : Clock
  accessDraw : SigningKeys.Draw
  refreshDraw : SigningKeys.Draw
  work : Work

namespace Moment

/-- The first look at the clock. -/
def now (m : Moment) : Instant := m.clock.look 0

/-- The second look at the clock. -/
def later (m : Moment) : Instant := m.clock.look 1

/-- An access token is issued last, after the refresh token or after a token was read. -/
def accessStamp (m : Moment) : SigningKeys.Stamp := ⟨m.accessDraw, m.later⟩

def refreshStamp (m : Moment) : SigningKeys.Stamp := ⟨m.refreshDraw, m.now⟩

end Moment

/-- The account that was found, if it may sign in. None and a disabled one look the same. -/
def activeCredentials :
    Except Directory.Fault (Option Credentials) → Except AuthError Credentials
  | .error fault => .error (.ofFault fault)
  | .ok none => .error .badCredentials
  | .ok (some c) => if c.enabled then .ok c else .error .badCredentials

/-- A stored hash that cannot be checked is as bad as one that does not match. -/
def checkPassword (work : Work) (password : String) (c : Credentials) : Except AuthError Unit := do
  let verified ← work.result (Password.verify password c.passwordHash)
  match verified with
  | .ok true => .ok ()
  | _ => .error .badCredentials

def respond (service : SignIn) (m : Moment) (id : UserId) (c : Credentials)
    (refreshToken : String) : Except AuthError TokenResponse := do
  let accessToken ← service.keys.createAccessToken m.accessStamp id c.email c.roles
  return ⟨accessToken, service.keys.accessTtlSeconds, refreshToken⟩

/-- The second half of a login, with the directory's answer. -/
def finishLogin (service : SignIn) (m : Moment) (password : String)
    (answer : Except Directory.Fault (Option Credentials)) : Except AuthError TokenResponse := do
  let c ← activeCredentials answer
  checkPassword m.work password c
  match c.externalId with
  | none => .error .userIdMissing
  | some id =>
    let refreshToken ← service.keys.createRefreshToken m.refreshStamp id c.email
    service.respond m id c refreshToken

def login (service : SignIn) (m : Moment) (email password : String) :
    Consult (Except AuthError TokenResponse) :=
  .find email fun answer => .done (service.finishLogin m password answer)

/-- What a refresh token entitles to: the account it was issued to. -/
structure Grant where
  userId : UserId
  email : String

/-- The account that the claims of a refresh token name. -/
def grantOf (claims : Claims) : Except AuthError Grant :=
  if !SigningKeys.isRefresh claims then .error .notARefreshToken
  else
    match (claims.extraText? SigningKeys.userIdClaim).bind fun s => (Uuid.read s).toOption with
    | none => .error .invalidRefreshTokenPayload
    | some userId =>
      match claims.sub with
      | none => .error .invalidRefreshTokenPayload
      | some email => if email = "" then .error .invalidRefreshTokenPayload else .ok ⟨userId, email⟩

/-- Reads a refresh token. A live access token is told from a text that is no token. -/
def readRefreshToken (service : SignIn) (m : Moment) (token : String) : Except AuthError Grant :=
  match service.keys.parseRefreshToken m.now.seconds token with
  | .ok claims => grantOf claims
  | .error e =>
    match service.keys.parseAccessToken m.later.seconds token with
    | .ok _ => .error .notARefreshToken
    | .error _ => .error e

/-- The second half of a refresh. The account is read anew, so the new token has its present
roles; it must still be the account the token was issued to. -/
def finishRefresh (service : SignIn) (m : Moment) (token : String) (grant : Grant)
    (answer : Except Directory.Fault (Option Credentials)) : Except AuthError TokenResponse := do
  let c ← activeCredentials answer
  match c.externalId with
  | none => .error .userIdMissing
  | some id =>
    if id = grant.userId then service.respond m id c token else .error .badCredentials

def refresh (service : SignIn) (m : Moment) (token : String) :
    Consult (Except AuthError TokenResponse) :=
  match service.readRefreshToken m token with
  | .error e => .done (.error e)
  | .ok grant =>
    .find grant.email fun answer => .done (service.finishRefresh m token grant answer)

/-- The hash that a new account is created with. -/
def hashPassword (service : SignIn) (work : Work) (password : String) :
    Except AuthError String := do
  let hashed ← work.result (Password.newHash service.algorithm work.salt password)
  hashed.mapError fun fault => .passwordHashing fault.message

/-- The account that is created has the hash of the password in its place. Without one nothing is
asked for. -/
def register (service : SignIn) (m : Moment) (r : Registration) :
    Consult (Except AuthError RegisteredUser) :=
  match service.hashPassword m.work r.password with
  | .error e => .done (.error e)
  | .ok passwordHash =>
    .create (.ofRegistration r passwordHash) fun answer =>
      .done (answer.mapError AuthError.ofFault)

end SignIn

end TokenAuth
