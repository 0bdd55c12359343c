import TokenAuth.Account.Credentials
import TokenAuth.AuthError
import TokenAuth.Token.Handler

/-! The tokens of the service: an access token and a refresh token have keys of their own. -/

namespace TokenAuth

/-- Why keys are refused at the start. -/
inductive SigningKeysError
  | accessSecret (e : SecretError)
  | refreshSecret (e : SecretError)
  | sharedSecret
  | nonPositiveTtl
  | ttlOutOfRange
deriving DecidableEq

namespace SigningKeysError

def message : SigningKeysError → String
  | accessSecret e => s!"Invalid access token secret: {e.message}"
  | refreshSecret e => s!"Invalid refresh token secret: {e.message}"
  | sharedSecret => "Access and refresh token secrets must differ"
  | nonPositiveTtl => "Token lifetimes must be positive"
  | ttlOutOfRange => "Token lifetime too large to compute an expiry"

end SigningKeysError

/-- The keys, the names and the lifetimes of access and refresh tokens. -/
structure SigningKeys where
  accessKey : SigningSecret
  refreshKey : SigningSecret
  issuer : String
  audience : String
  accessTtl : Span
  refreshTtl : Span
  keys_ne : accessKey ≠ refreshKey
  accessTtl_pos : 0 < accessTtl.nanoseconds
  refreshTtl_pos : 0 < refreshTtl.nanoseconds

namespace SigningKeys

/-- Checks keys at an instant, from which both lifetimes must lead to an instant. -/
def check (now : Instant) (accessSecret refreshSecret issuer audience : String)
    (accessTtl refreshTtl : Span) : Except SigningKeysError SigningKeys := do
  let accessKey ← (SigningSecret.decode accessSecret).mapError .accessSecret
  let refreshKey ← (SigningSecret.decode refreshSecret).mapError .refreshSecret
  if hkeys : accessKey = refreshKey then .error .sharedSecret
  else if httl : 0 < accessTtl.nanoseconds ∧ 0 < refreshTtl.nanoseconds then
    if (now.add? accessTtl).isNone ∨ (now.add? refreshTtl).isNone then .error .ttlOutOfRange
    else
      .ok ⟨accessKey, refreshKey, issuer, audience, accessTtl, refreshTtl, hkeys, httl.1, httl.2⟩
  else .error .nonPositiveTtl

def userIdClaim : String := "userId"

def rolesClaim : String := "roles"

def typeClaim : String := "typ"

def refreshType : String := "refresh"

def accessHandler (keys : SigningKeys) : Token.Handler :=
  ⟨keys.accessKey, some keys.issuer, some keys.audience⟩

def refreshHandler (keys : SigningKeys) : Token.Handler :=
  ⟨keys.refreshKey, some keys.issuer, some keys.audience⟩

def accessTtlSeconds (keys : SigningKeys) : Int64 := Int64.ofInt keys.accessTtl.wholeSeconds

/-- What chance gives to a new token: bytes for its id, and the order of its extra claims. -/
structure Draw where
  random : Bytes16
  order : Json.Listing

/-- A draw that lists extra claims in the order of their names. -/
def Draw.sorted (random : Bytes16) : Draw := ⟨random, .sorted⟩

instance : Coe Bytes16 Draw := ⟨Draw.sorted⟩

/-- What a new token is issued with: the instant, and what chance gives to it. -/
structure Stamp extends Draw where
  now : Instant

/-- The claims of both kinds of token. -/
def baseClaims (keys : SigningKeys) (stamp : Stamp) (ttl : Span) (id : UserId) (email : String) :
    Except AuthError Claims :=
  match Claims.issued? stamp.now ttl with
  | none => .error (.tokenSigning "Token expiry out of range")
  | some claims =>
    .ok ({ claims with
      sub := some email
      iss := some keys.issuer
      aud := some keys.audience
      jti := some (Uuid.ofRandom stamp.random).text }.withExtra userIdClaim (.str id.text))

/-- The payload of an access token names the roles of its account. -/
def accessClaims (keys : SigningKeys) (stamp : Stamp) (id : UserId) (email : String)
    (roles : Roles) : Except AuthError Claims :=
  (keys.baseClaims stamp keys.accessTtl id email).map fun claims =>
    claims.withExtra rolesClaim roles.toJson

/-- The payload of a refresh token is marked as one. -/
def refreshClaims (keys : SigningKeys) (stamp : Stamp) (id : UserId) (email : String) :
    Except AuthError Claims :=
  (keys.baseClaims stamp keys.refreshTtl id email).map fun claims =>
    claims.withExtra typeClaim (.str refreshType)

def createAccessToken (keys : SigningKeys) (stamp : Stamp) (id : UserId) (email : String)
    (roles : Roles) : Except AuthError String :=
  (keys.accessClaims stamp id email roles).map fun claims =>
    keys.accessHandler.encode (claims.payload stamp.order)

def createRefreshToken (keys : SigningKeys) (stamp : Stamp) (id : UserId) (email : String) :
    Except AuthError String :=
  (keys.refreshClaims stamp id email).map fun claims =>
    keys.refreshHandler.encode (claims.payload stamp.order)

def invalidToken (rejection : Token.Rejection) : AuthError := .invalidToken rejection.message

def parseRefreshToken (keys : SigningKeys) (now : Int) (token : String) :
    Except AuthError Claims :=
  (keys.refreshHandler.decode now token).mapError invalidToken

def isRefresh (claims : Claims) : Bool := claims.extraText? typeClaim == some refreshType

/-- Reads an access token. One marked as a refresh token is none, whatever its key. -/
def parseAccessToken (keys : SigningKeys) (now : Int) (token : String) :
    Except AuthError Claims := do
  let claims ← (keys.accessHandler.decode now token).mapError invalidToken
  if isRefresh claims then .error (.invalidToken "Refresh token presented as access token")
  else .ok claims

end SigningKeys

end TokenAuth
