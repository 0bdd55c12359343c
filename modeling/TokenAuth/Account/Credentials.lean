import TokenAuth.Account.Role
import TokenAuth.Account.UserId

/-! What the directory knows of an account for a sign-in, and what a sign-in gives back. -/

namespace TokenAuth

/-- What the directory holds of an account for signing in. -/
structure Credentials where
  externalId : Option UserId
  email : String
  passwordHash : String
  enabled : Bool
  roles : Roles
deriving DecidableEq

namespace Credentials

def fieldNames : List String := ["externalId", "email", "password", "enabled", "roles"]

/-- An account without a mark is enabled, and one without roles has none. -/
def ofDoc? (doc : Json.Doc) : Option Credentials := do
  let fields ← doc.recordFields? fieldNames
  let externalId ← fields.optional? "externalId" Uuid.ofDoc?
  let email ← fields.required? "email" Json.Doc.string?
  let passwordHash ← fields.required? "password" Json.Doc.string?
  let enabled ← fields.optional? "enabled" Json.Doc.bool?
  let roles ← fields.optional? "roles" Roles.ofDoc?
  return ⟨externalId, email, passwordHash, enabled.getD true, roles.getD .empty⟩

/-- A record, or null for none. -/
def ofBytes? (bs : Bytes) : Option (Option Credentials) := do
  let doc ← Json.Doc.ofBytes? bs
  doc.optional? ofDoc?

end Credentials

/-- The tokens of a sign-in. -/
structure TokenResponse where
  accessToken : String
  expiresInSeconds : Int64
  refreshToken : String
deriving DecidableEq

namespace TokenResponse

def fieldNames : List String := ["accessToken", "expiresInSeconds", "refreshToken"]

def ofDoc? (doc : Json.Doc) : Option TokenResponse := do
  let fields ← doc.recordFields? fieldNames
  let accessToken ← fields.required? "accessToken" Json.Doc.string?
  let expiresInSeconds ← fields.required? "expiresInSeconds" Json.Doc.int64?
  let refreshToken ← fields.required? "refreshToken" Json.Doc.string?
  return ⟨accessToken, expiresInSeconds, refreshToken⟩

def toJson (tokens : TokenResponse) : Json :=
  .obj [("accessToken", .str tokens.accessToken),
    ("expiresInSeconds", .int tokens.expiresInSeconds),
    ("refreshToken", .str tokens.refreshToken)]

end TokenResponse

end TokenAuth
