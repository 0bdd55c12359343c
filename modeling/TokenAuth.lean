import TokenAuth.Account.Credentials
import TokenAuth.Account.Email
import TokenAuth.Account.Registration
import TokenAuth.Account.Role
import TokenAuth.Account.UserId
import TokenAuth.AuthError
import TokenAuth.Base64
import TokenAuth.Crypto.Argon2
import TokenAuth.Crypto.Argon2Block
import TokenAuth.Crypto.Bcrypt
import TokenAuth.Crypto.Blake2b
import TokenAuth.Crypto.Blowfish
import TokenAuth.Crypto.Hmac
import TokenAuth.Crypto.Pi
import TokenAuth.Crypto.Sha256
import TokenAuth.Directory.Consult
import TokenAuth.Directory.Exchange
import TokenAuth.Directory.Fault
import TokenAuth.Http.Api
import TokenAuth.Http.Bearer
import TokenAuth.Http.Endpoint
import TokenAuth.Http.Form
import TokenAuth.Http.MediaType
import TokenAuth.Http.Message
import TokenAuth.Http.Problem
import TokenAuth.Http.Status
import TokenAuth.Json.Basic
import TokenAuth.Json.Canonical
import TokenAuth.Json.Doc
import TokenAuth.Json.Numeral
import TokenAuth.Json.Printer
import TokenAuth.Json.Token
import TokenAuth.Password.Argon2Hash
import TokenAuth.Password.BcryptHash
import TokenAuth.Password.Hasher
import TokenAuth.Proofs.AccountRecord
import TokenAuth.Proofs.Base64
import TokenAuth.Proofs.Compact
import TokenAuth.Proofs.Contact
import TokenAuth.Proofs.Decoding
import TokenAuth.Proofs.Digits
import TokenAuth.Proofs.Dismissed
import TokenAuth.Proofs.Encoding
import TokenAuth.Proofs.Entered
import TokenAuth.Proofs.Fields
import TokenAuth.Proofs.FirstLogin
import TokenAuth.Proofs.Forwarded
import TokenAuth.Proofs.Grounds
import TokenAuth.Proofs.Identifier
import TokenAuth.Proofs.Impostor
import TokenAuth.Proofs.Issuance
import TokenAuth.Proofs.Issued
import TokenAuth.Proofs.JsonReading
import TokenAuth.Proofs.JsonToken
import TokenAuth.Proofs.Judged
import TokenAuth.Proofs.Layering
import TokenAuth.Proofs.Lifetime
import TokenAuth.Proofs.Lookup
import TokenAuth.Proofs.MemberOrder
import TokenAuth.Proofs.Names
import TokenAuth.Proofs.PasswordHash
import TokenAuth.Proofs.Payload
import TokenAuth.Proofs.Posted
import TokenAuth.Proofs.Precedence
import TokenAuth.Proofs.Presented
import TokenAuth.Proofs.Record
import TokenAuth.Proofs.RefreshChain
import TokenAuth.Proofs.Refused
import TokenAuth.Proofs.RoundTrip
import TokenAuth.Proofs.Segments
import TokenAuth.Proofs.Separation
import TokenAuth.Proofs.SettingsField
import TokenAuth.Proofs.Split
import TokenAuth.Proofs.Standing
import TokenAuth.Proofs.Trimmed
import TokenAuth.Secret
import TokenAuth.Settings.Basic
import TokenAuth.Settings.Path
import TokenAuth.Settings.Reading
import TokenAuth.Settings.Setting
import TokenAuth.Settings.Source
import TokenAuth.SignIn
import TokenAuth.Signer
import TokenAuth.Text.Binary64
import TokenAuth.Text.Blank
import TokenAuth.Text.Bytes
import TokenAuth.Text.Digits
import TokenAuth.Text.Hex
import TokenAuth.Text.Letters
import TokenAuth.Text.Quoted
import TokenAuth.Text.Shortest
import TokenAuth.Text.Split
import TokenAuth.Text.Visible
import TokenAuth.Time.Date
import TokenAuth.Time.DateTime
import TokenAuth.Time.Instant
import TokenAuth.Token.Claims
import TokenAuth.Token.Compact
import TokenAuth.Token.Handler
import TokenAuth.Token.Header
import TokenAuth.Token.Standing
import TokenAuth.Toml.Document
import TokenAuth.Toml.Moment
import TokenAuth.Toml.Number
import TokenAuth.Toml.Quoted
import TokenAuth.Toml.Value
import TokenAuth.Uuid
import TokenAuth.Proofs.Expiry
import TokenAuth.Proofs.SecretReading
import TokenAuth.Proofs.BcryptText
import TokenAuth.Proofs.HashFields
import TokenAuth.Proofs.Recipe
import TokenAuth.Proofs.StoredHash
import TokenAuth.Proofs.Garbled
import TokenAuth.Proofs.Migration
import TokenAuth.Proofs.BareAddress
import TokenAuth.Proofs.BirthDate
import TokenAuth.Proofs.ConfiguredLifetime
import TokenAuth.Proofs.FieldLimits
import TokenAuth.Proofs.JsonValue
import TokenAuth.Proofs.Shown
import TokenAuth.Proofs.TimeText
import TokenAuth.Proofs.CreatedAccount
