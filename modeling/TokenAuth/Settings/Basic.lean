import TokenAuth.Password.Hasher
import TokenAuth.Settings.Reading
import TokenAuth.Settings.Source
import TokenAuth.Time.Instant

namespace TokenAuth

structure ServerSettings where
  httpPort : UInt16

structure TokenSettings where
  secret : String
  refreshSecret : String
  issuer : String
  audience : String
  accessTtlMinutes : Int64
  refreshTtlDays : Int64

structure DirectorySettings where
  baseUrl : String
  timeoutMs : UInt64
  connectTimeoutMs : UInt64

structure PasswordSettings where
  algorithm : Password.Algorithm

/-- The settings of the service. -/
structure Settings where
  server : ServerSettings
  tokens : TokenSettings
  directory : DirectorySettings
  password : PasswordSettings

/-! In every record, what is wrong with a field that is there comes before a field that is
missing. -/

namespace ServerSettings

def ofLocated (l : Located) : Except SettingsError ServerSettings := do
  let r ← RecordFields.ofLocated .server l
  let httpPort ← r.optional "http_port" (Located.read Setting.toUInt16)
  return ⟨← r.required "http_port" httpPort⟩

end ServerSettings

namespace TokenSettings

def defaultIssuer : String := "auth-service"

def defaultAudience : String := "irisinfinity"

def defaultAccessTtlMinutes : Int64 := 15

def defaultRefreshTtlDays : Int64 := 7

def ofLocated (l : Located) : Except SettingsError TokenSettings := do
  let r ← RecordFields.ofLocated .jwt l
  let secret ← r.optional "secret" (Located.read Setting.toText)
  let refreshSecret ← r.optional "refresh_secret" (Located.read Setting.toText)
  let issuer ← r.optional "issuer" (Located.read Setting.toText)
  let audience ← r.optional "audience" (Located.read Setting.toText)
  let accessTtlMinutes ← r.optional "access_ttl_minutes" (Located.read Setting.toInt64)
  let refreshTtlDays ← r.optional "refresh_ttl_days" (Located.read Setting.toInt64)
  let secret ← r.required "secret" secret
  let refreshSecret ← r.required "refresh_secret" refreshSecret
  return ⟨secret, refreshSecret, issuer.getD defaultIssuer, audience.getD defaultAudience,
    accessTtlMinutes.getD defaultAccessTtlMinutes, refreshTtlDays.getD defaultRefreshTtlDays⟩

def accessTtl (s : TokenSettings) : Except SettingsError Span :=
  match Span.ofMinutes? s.accessTtlMinutes.toInt with
  | some ttl => .ok ttl
  | none => .error (.lifetimeOutOfRange "jwt.access_ttl_minutes" s.accessTtlMinutes)

def refreshTtl (s : TokenSettings) : Except SettingsError Span :=
  match Span.ofDays? s.refreshTtlDays.toInt with
  | some ttl => .ok ttl
  | none => .error (.lifetimeOutOfRange "jwt.refresh_ttl_days" s.refreshTtlDays)

/-- The settings as they may be shown: without the secrets. -/
def redacted (s : TokenSettings) : String :=
  let hidden := Text.quoted "[redacted]"
  "JwtConfig \x7b " ++
    s!"secret: {hidden}, refresh_secret: {hidden}, issuer: {Text.quoted s.issuer}, " ++
    s!"audience: {Text.quoted s.audience}, access_ttl_minutes: {s.accessTtlMinutes}, " ++
    s!"refresh_ttl_days: {s.refreshTtlDays}" ++ " \x7d"

end TokenSettings

namespace DirectorySettings

def defaultTimeoutMs : UInt64 := 5000

def defaultConnectTimeoutMs : UInt64 := 2000

def ofLocated (l : Located) : Except SettingsError DirectorySettings := do
  let r ← RecordFields.ofLocated .directory l
  let baseUrl ← r.optional "base_url" (Located.read Setting.toText)
  let timeoutMs ← r.optional "timeout_ms" (Located.read Setting.toUInt64)
  let connectTimeoutMs ← r.optional "connect_timeout_ms" (Located.read Setting.toUInt64)
  let baseUrl ← r.required "base_url" baseUrl
  return ⟨baseUrl, timeoutMs.getD defaultTimeoutMs,
    connectTimeoutMs.getD defaultConnectTimeoutMs⟩

end DirectorySettings

namespace PasswordSettings

def defaultAlgorithm : Password.Algorithm := .bcrypt

def algorithms : List (String × Password.Algorithm) := [("bcrypt", .bcrypt), ("argon2", .argon2)]

/-- The algorithm of a name, whatever the case of its letters. -/
def algorithmOfName (name : String) : Except SettingsError Password.Algorithm :=
  match algorithms.lookup (Setting.foldCase name) with
  | some algorithm => .ok algorithm
  | none => .error (.unknownAlgorithm name)

/-- An algorithm is named by a text, or by the one key of a table. -/
def readAlgorithm (l : Located) : Except SettingsError Password.Algorithm :=
  match l.setting with
  | .scalar _ (.text name) => algorithmOfName name
  | .table _ [(name, _)] => algorithmOfName name
  | _ => .error .notAlgorithm

def ofLocated (l : Located) : Except SettingsError PasswordSettings := do
  let r ← RecordFields.ofLocated .password l
  let algorithm ← r.optional "algorithm" readAlgorithm
  return ⟨algorithm.getD defaultAlgorithm⟩

end PasswordSettings

namespace Settings

/-- The settings in a table whose members have the names of the sections. -/
def ofMembers (members : Setting.Members) : Except SettingsError Settings := do
  let r : RecordFields := ⟨members.map fun (name, value) => (name, ⟨name, value⟩), .missingField⟩
  let server ← r.optional "server" ServerSettings.ofLocated
  let tokens ← r.optional "jwt" TokenSettings.ofLocated
  let directory ← r.optional "directory" DirectorySettings.ofLocated
  let password ← r.optional "password" PasswordSettings.ofLocated
  let server ← r.required "server" server
  let tokens ← r.required "jwt" tokens
  let directory ← r.required "directory" directory
  return ⟨server, tokens, directory, password.getD ⟨PasswordSettings.defaultAlgorithm⟩⟩

/-- Loads the settings. The environment goes over the file of the run mode, and that over the
default file. -/
def load (folder : SettingsFolder) (env : Environment) : Except SettingsError Settings :=
  match Setting.collect? folder env with
  | none => .error .unreadableFile
  | some members => ofMembers members

end Settings

end TokenAuth
