import TokenAuth.Settings.Setting
import TokenAuth.Text.Quoted

/-! Reading settings as records of texts, numbers and algorithms. -/

namespace TokenAuth

/-- The records of the settings. -/
inductive SettingsRecord
  | server
  | jwt
  | directory
  | password
deriving DecidableEq

namespace SettingsRecord

def name : SettingsRecord → String
  | server => "ServerConfig"
  | jwt => "JwtConfig"
  | directory => "DirectoryConfig"
  | password => "PasswordConfig"

def fieldNames : SettingsRecord → List String
  | server => ["http_port"]
  | jwt =>
    ["secret", "refresh_secret", "issuer", "audience", "access_ttl_minutes", "refresh_ttl_days"]
  | directory => ["base_url", "timeout_ms", "connect_timeout_ms"]
  | password => ["algorithm"]

end SettingsRecord

/-- What stands where a text or a number should. -/
inductive Misfit
  | null
  | list
  | table
  | text (s : String)
deriving DecidableEq

/-- How a setting fails to be what it should. -/
inductive SettingFault
  | notText (found : Misfit)
  | notInteger (found : Misfit)
  | negative (n : Int64)
  | beyond16Bits (n : UInt64)
deriving DecidableEq

/-- Why settings cannot be used. -/
inductive SettingsError
  | unreadableFile
  | missingField (name : String)
  | tooFewItems (count : Nat) (record : SettingsRecord)
  | notRecord (found : Scalar) (record : SettingsRecord)
  | notAlgorithm
  | unknownAlgorithm (name : String)
  | unfit (fault : SettingFault) (path : String) (origin : Option String)
  | lifetimeOutOfRange (path : String) (n : Int64)
deriving DecidableEq

namespace Misfit

def message : Misfit → String
  | null => "unit value"
  | list => "sequence"
  | table => "map"
  | text s => s!"string {Text.quoted s}"

end Misfit

namespace SettingFault

def message : SettingFault → String
  | notText found => s!"invalid type: {found.message}, expected a string"
  | notInteger found => s!"invalid type: {found.message}, expected an integer"
  | negative n =>
    s!"invalid type: 64-bit integer \x60{n}\x60, expected an unsigned 64 bit or less integer"
  | beyond16Bits n =>
    s!"invalid type: 64-bit unsigned integer \x60{n}\x60, expected an unsigned 16 bit integer"

end SettingFault

namespace Scalar

/-- A float with a point, unless it is no finite number. -/
def pointedText (bits : UInt64) : String :=
  let text := Binary64.text bits
  if Binary64.isSpecial bits ∨ text.toList.contains '.' then text else text ++ ".0"

def description : Scalar → String
  | null => "unit value"
  | bool b => s!"boolean \x60{b}\x60"
  | int n => s!"integer \x60{n}\x60"
  | float bits => s!"floating point \x60{pointedText bits}\x60"
  | text s => s!"string {Text.quoted s}"

end Scalar

namespace SettingsError

def message : SettingsError → String
  | unreadableFile => "a settings file cannot be read"
  | missingField name => s!"missing field \x60{name}\x60"
  | tooFewItems count record =>
    let total := record.fieldNames.length
    let items := if total = 1 then "element" else "elements"
    s!"invalid length {count}, expected struct {record.name} with {total} {items}"
  | notRecord found record =>
    s!"invalid type: {found.description}, expected struct {record.name}"
  | notAlgorithm =>
    "value of enum HashAlgorithm should be represented by either string or table with " ++
      "exactly one key"
  | unknownAlgorithm name => s!"enum HashAlgorithm does not have variant constructor {name}"
  | unfit fault path origin =>
    let place := match origin with
      | some origin => s!" in {origin}"
      | none => ""
    s!"{fault.message} for key \x60{path}\x60{place}"
  | lifetimeOutOfRange path n => s!"{path} out of range: {n}"

end SettingsError

namespace Setting

def origin : Setting → Option String
  | scalar origin _ => origin
  | list origin _ => origin
  | table origin _ => origin

/-- The text of a setting. Numbers and truth values count as texts. -/
def toText : Setting → Except SettingFault String
  | scalar _ (.text s) => .ok s
  | scalar _ (.bool b) => .ok (toString b)
  | scalar _ (.int n) => .ok (toString n)
  | scalar _ (.float bits) => .ok (Binary64.text bits)
  | scalar _ .null => .error (.notText .null)
  | list _ _ => .error (.notText .list)
  | table _ _ => .error (.notText .table)

/-- The words for truth values in a text, whatever the case of their letters. -/
def truthWord? (s : String) : Option Bool :=
  let word := foldCase s
  if ["true", "on", "yes"].contains word then some true
  else if ["false", "off", "no"].contains word then some false
  else none

/-- The number that a text writes: digits with a plus, or where `signed` a minus, before them. -/
def written? (signed : Bool) (s : String) : Option Int :=
  match s.toList with
  | '+' :: ds => (Digits.nat? ds).map fun n => n
  | '-' :: ds => if signed then (Digits.nat? ds).map fun n => -(n : Int) else none
  | ds => (Digits.nat? ds).map fun n => n

/-- The whole number of a setting between two bounds. Truth values count as one and zero, and
floats are rounded. -/
def toInteger (low high : Int) (fromInt : Int64 → Except SettingFault Int) :
    Setting → Except SettingFault Int
  | scalar _ (.int n) => fromInt n
  | scalar _ (.float bits) => .ok (Binary64.roundWithin low high bits)
  | scalar _ (.bool b) => .ok (if b then 1 else 0)
  | scalar _ (.text s) =>
    match truthWord? s with
    | some b => .ok (if b then 1 else 0)
    | none =>
      match (written? (low < 0) s).filter fun n => low ≤ n && n ≤ high with
      | some n => .ok n
      | none => .error (.notInteger (.text s))
  | scalar _ .null => .error (.notInteger .null)
  | list _ _ => .error (.notInteger .list)
  | table _ _ => .error (.notInteger .table)

def toInt64 (s : Setting) : Except SettingFault Int64 :=
  (s.toInteger (-0x8000000000000000) 0x7FFFFFFFFFFFFFFF fun n => .ok n.toInt).map Int64.ofInt

def toUInt64 (s : Setting) : Except SettingFault UInt64 :=
  (s.toInteger 0 0xFFFFFFFFFFFFFFFF fun n =>
    if n < 0 then .error (.negative n) else .ok n.toInt).map
    fun n => UInt64.ofNat n.toNat

def toUInt16 (s : Setting) : Except SettingFault UInt16 := do
  let n ← s.toUInt64
  if n < 65536 then .ok n.toUInt16 else .error (.beyond16Bits n)

end Setting

/-- A setting and the path to it. -/
structure Located where
  path : String
  setting : Setting

namespace Located

/-- The number that is too large is shown without the source of its setting. -/
def originOf (s : Setting) : SettingFault → Option String
  | .beyond16Bits _ => none
  | _ => s.origin

def read {α : Type} (convert : Setting → Except SettingFault α) (l : Located) :
    Except SettingsError α :=
  (convert l.setting).mapError fun fault => .unfit fault l.path (originOf l.setting fault)

end Located

/-- The fields of a record that are there, by name, and the error for one that is not. -/
structure RecordFields where
  fields : List (String × Located)
  missing : String → SettingsError

namespace RecordFields

/-- The fields of a record: a table, where other members are ignored, or a list of its fields in
order, where further items are ignored. -/
def ofLocated (record : SettingsRecord) (l : Located) : Except SettingsError RecordFields :=
  match l.setting with
  | .scalar _ found => .error (.notRecord found record)
  | .list _ items =>
    let located := items.mapIdx fun i item => ⟨l.path ++ "[" ++ toString i ++ "]", item⟩
    .ok ⟨record.fieldNames.zip located, fun _ => .tooFewItems items.length record⟩
  | .table _ members =>
    .ok ⟨record.fieldNames.filterMap fun name =>
      (members.lookup name).map fun value => (name, ⟨l.path ++ "." ++ name, value⟩),
      .missingField⟩

/-- The value of a field that is there. -/
def optional {α : Type} (r : RecordFields) (name : String)
    (read : Located → Except SettingsError α) : Except SettingsError (Option α) :=
  match r.fields.lookup name with
  | none => .ok none
  | some l => (read l).map some

def required {α : Type} (r : RecordFields) (name : String) : Option α → Except SettingsError α
  | some a => .ok a
  | none => .error (r.missing name)

end RecordFields

end TokenAuth
