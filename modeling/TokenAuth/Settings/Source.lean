import TokenAuth.Json.Doc
import TokenAuth.Settings.Path
import TokenAuth.Text.Blank
import TokenAuth.Toml.Document

/-! Where settings come from: two files of the settings folder, and environment variables. -/

namespace TokenAuth

namespace Setting

mutual

def ofToml (origin : String) : Toml.Value → Setting
  | .text s => scalar (some origin) (.text s)
  | .int n => scalar (some origin) (.int n)
  | .float bits => scalar (some origin) (.float bits)
  | .bool b => scalar (some origin) (.bool b)
  | .array items => list (some origin) (ofTomlItems origin items)
  | .table _ members => table (some origin) (ofTomlMembers origin members)
  | .tables items => list (some origin) (ofTomlTables origin items).reverse

def ofTomlItems (origin : String) : List Toml.Value → List Setting
  | [] => []
  | item :: items => ofToml origin item :: ofTomlItems origin items

def ofTomlMembers (origin : String) : List (String × Toml.Value) → Members
  | [] => []
  | (key, value) :: members => (key, ofToml origin value) :: ofTomlMembers origin members

def ofTomlTables (origin : String) : List (List (String × Toml.Value)) → List Setting
  | [] => []
  | members :: tables => table (some origin) (ofTomlMembers origin members) ::
      ofTomlTables origin tables

end

end Setting

/-- The settings of one source, each under the path it is put at. -/
abbrev Layer := List (String × Setting)

namespace Layer

/-- Lays the settings of a source over those before it. -/
def apply (members : Setting.Members) (layer : Layer) : Setting.Members :=
  layer.foldl (fun members (name, value) => Setting.put members name value) members

end Layer

/-- The forms of settings files that are read here. Of two files of one name the first form counts. -/
inductive FileFormat
  | toml
  | json
deriving DecidableEq

namespace FileFormat

def extension : FileFormat → String
  | toml => ".toml"
  | json => ".json"

def all : List FileFormat := [toml, json]

/-- The format that the end of a file's name tells. -/
def ofName? (name : String) : Option FileFormat :=
  all.find? fun format => format.extension.toList.reverse.isPrefixOf name.toList.reverse

/-- The settings in the text of a file: the members of the table at its top. -/
def layer? (format : FileFormat) (origin text : String) : Option Layer :=
  match format with
  | toml => (Toml.read? text).map (Setting.ofTomlMembers origin)
  | json =>
    match Json.ofBytes? (utf8 text) with
    | some (.obj members) => some (Setting.ofMembers origin members)
    | _ => none

end FileFormat

/-- The texts of the files in the settings folder by name. -/
abbrev SettingsFolder := List (String × String)

namespace SettingsFolder

/-- The file of a name: the name itself if it tells a format, or the name with an extension. -/
def file? (folder : SettingsFolder) (name : String) : Option (String × FileFormat × String) :=
  match folder.lookup name with
  | some text => (FileFormat.ofName? name).map fun format => (name, format, text)
  | none =>
    FileFormat.all.findSome? fun format =>
      (folder.lookup (name ++ format.extension)).map fun text =>
        (name ++ format.extension, format, text)

/-- A mark of the byte order at the start of a file does not count. -/
def withoutMark (text : String) : String := (Text.afterLead? "\uFEFF" text).getD text

/-- The settings of the file of a name: none if there is no such file. The result is nothing if
the file cannot be read. -/
def layer? (folder : SettingsFolder) (name : String) : Option Layer :=
  match folder.file? name with
  | none => some []
  | some (file, format, text) => format.layer? ("config/" ++ file) (withoutMark text)

end SettingsFolder

/-- Environment variables by name. -/
abbrev Environment := List (String × String)

namespace Environment

/-- Two underscores stand for a point. -/
def withPoints : List Char → List Char
  | '_' :: '_' :: cs => '.' :: withPoints cs
  | c :: cs => c :: withPoints cs
  | [] => []

/-- What a variable sets: its name starts with two underscores, and the rest is the path. -/
def path? (name : String) : Option String :=
  match (Setting.foldCase name).toList with
  | '_' :: '_' :: cs => some (String.ofList (withPoints cs))
  | _ => none

def origin : String := "the environment"

/-- The settings in the environment. All of them are texts. -/
def layer (env : Environment) : Layer :=
  env.filterMap fun (name, value) =>
    (path? name).map fun path => (path, .scalar (some origin) (.text value))

/-- The name of the second file of settings. -/
def runMode (env : Environment) : String := (env.lookup "RUN_MODE").getD "development"

end Environment

namespace Setting

/-- The settings of a folder under those of an environment. The result is nothing if a file
cannot be read. -/
def collect? (folder : SettingsFolder) (env : Environment) : Option Members := do
  let base ← folder.layer? "default"
  let mode ← folder.layer? env.runMode
  return [base, mode, env.layer].foldl Layer.apply []

end Setting

end TokenAuth
