import Mathlib
import TokenAuth.Proofs.SettingsField

/-!
# Which source a setting is loaded from

A field is loaded from the environment, else from the file of the run mode, else from the default
file, else it is the built-in default (`load_reads_first_source`). The environment has a value for
it only under a name that starts with two underscores: a variable that is named for the table and
the field alone is not seen, whatever its value.
-/

namespace TokenAuth

open Setting

/-! ### Fields over several sources -/

namespace SettingsField

variable {α : Type} {field : SettingsField α} {x : α}

/-- This value of the field is read from the first of the sources that has one, or is the built-in
default if none has. -/
def LoadedFrom (field : SettingsField α) (sources : List Layer) (x : α) : Prop :=
  field.Gives (sources.findSome? fun source => source.value? field.record.key field.name) x

theorem Gives.imp_right {first next next' : Option Setting} (h : field.Gives (first <|> next) x)
    (himp : field.Gives next x → field.Gives next' x) : field.Gives (first <|> next') x := by
  cases first with
  | none => exact himp h
  | some setting => exact h

/-- Where sources are laid over each other, the last one first in the list, a field is loaded from
those that count. -/
theorem loadedFrom_visible {sources : List Layer}
    (h : field.Gives (leaf? field.record.key field.name
      (sources.foldr (fun source members => source.apply members) [])) x) :
    field.LoadedFrom (Layer.visible field.record.key sources) x := by
  induction sources with
  | nil => exact h
  | cons source rest ih =>
    have hlaid := h.of_laid (source.laid_apply field.record.key field.name _)
    rw [LoadedFrom, Layer.findSome?_visible_cons]
    refine hlaid.imp_right fun hunder => ?_
    split
    · next hkeeps =>
      rw [if_pos hkeeps] at hunder
      exact ih hunder
    · next hkeeps =>
      rw [if_neg hkeeps] at hunder
      exact hunder

end SettingsField

namespace SettingsFolder

theorem layer?_of_toml {folder : SettingsFolder} {name file text : String}
    {members : Toml.Value.Members} (hfile : folder.file? name = some (file, .toml, text))
    (hmark : withoutMark text = text) (hread : Toml.read? text = some members) :
    folder.layer? name = some (ofTomlMembers ("config/" ++ file) members) := by
  simp only [layer?, hfile, FileFormat.layer?, hmark, hread, Option.map_some]

end SettingsFolder

/-! ### Variables that are not seen -/

namespace Environment

variable {name : String}

theorem layer_filter_ne (h : path? name = none) (env : Environment) :
    layer (env.filter fun var => var.1 ≠ name) = layer env := by
  unfold layer
  rw [List.filterMap_filter]
  congr 1
  funext ⟨key, value⟩
  by_cases hkey : key = name
  · simp [hkey, h]
  · simp [hkey]

theorem runMode_filter_ne (h : name ≠ "RUN_MODE") (env : Environment) :
    runMode (env.filter fun var => var.1 ≠ name) = runMode env := by
  unfold runMode
  congr 1
  induction env with
  | nil => rfl
  | cons var rest ih =>
    obtain ⟨key, value⟩ := var
    by_cases hkey : key = name
    · subst hkey
      rw [List.filter_cons_of_neg (by simp), List.lookup_cons, beq_false_of_ne (Ne.symm h)]
      exact ih
    · rw [List.filter_cons_of_pos (by simpa using hkey), List.lookup_cons, List.lookup_cons, ih]

end Environment

namespace SettingsField

variable {α : Type}

/-- The name of the variable that a field is documented under. -/
def variableName (field : SettingsField α) : String :=
  field.record.key.toUpper ++ "__" ++ field.name.toUpper

theorem path?_variableName (field : SettingsField α) :
    Environment.path? field.variableName = none := by
  cases field <;> decide +kernel

theorem variableName_ne_runMode (field : SettingsField α) : field.variableName ≠ "RUN_MODE" := by
  cases field <;> decide +kernel

theorem path?_prefixed (field : SettingsField α) :
    Environment.path? ("__" ++ field.variableName) = some field.path := by
  cases field <;> decide +kernel

theorem pathParts_path (field : SettingsField α) :
    pathParts field.path = (field.record.key, [.key field.name]) := by
  cases field <;> cbv

theorem foldCase_name (field : SettingsField α) : foldCase field.name = field.name := by
  cases field <;> decide +kernel

end SettingsField

/-! ### Loading -/

namespace Setting

theorem collect?_congr {env env' : Environment} (hmode : env'.runMode = env.runMode)
    (hlayer : env'.layer = env.layer) (folder : SettingsFolder) :
    collect? folder env' = collect? folder env := by
  rw [collect?, collect?, hmode, hlayer]

theorem collect?_eq_some {folder : SettingsFolder} {env : Environment} {base mode : Layer}
    (hbase : folder.layer? "default" = some base) (hmode : folder.layer? env.runMode = some mode) :
    collect? folder env = some ([base, mode, env.layer].foldl Layer.apply []) := by
  rw [collect?, hbase, hmode]
  rfl

end Setting

namespace Settings

variable {α : Type} {folder : SettingsFolder} {env : Environment} {settings : Settings}

/-- A variable that is not seen changes nothing. -/
theorem load_congr {name : String} (hpath : Environment.path? name = none)
    (hname : name ≠ "RUN_MODE") {env' : Environment}
    (h : env'.filter (fun var => var.1 ≠ name) = env.filter fun var => var.1 ≠ name) :
    load folder env' = load folder env := by
  have hmode : env'.runMode = env.runMode := by
    rw [← Environment.runMode_filter_ne hname env', h, Environment.runMode_filter_ne hname]
  have hlayer : env'.layer = env.layer := by
    rw [← Environment.layer_filter_ne hpath env', h, Environment.layer_filter_ne hpath]
  rw [load, load, collect?_congr hmode hlayer]

/-- A variable that has two underscores before the documented name and is the last of its kind
decides the field, whatever the files and the other variables hold. -/
theorem load_reads_prefixed (field : SettingsField α) {value : String}
    (h : load folder (env ++ [("__" ++ field.variableName, value)]) = .ok settings) :
    field.Reads (.scalar (some Environment.origin) (.text value)) (field.get settings) := by
  have hlayer : Environment.layer (env ++ [("__" ++ field.variableName, value)]) =
      env.layer ++ [(field.path, .scalar (some Environment.origin) (.text value))] := by
    simp [Environment.layer, field.path?_prefixed]
  unfold load at h
  split at h
  · exact nomatch h
  · next members hcollect =>
    obtain ⟨base, -, hcollect⟩ := Option.bind_eq_some_iff.mp hcollect
    obtain ⟨mode, -, hcollect⟩ := Option.bind_eq_some_iff.mp hcollect
    rw [hlayer] at hcollect
    simp only [List.foldl_cons, List.foldl_nil, Layer.apply, List.foldl_append] at hcollect
    obtain rfl := Option.some.inj hcollect
    have hlookup := lookup_put_member field.pathParts_path
    have hgives := field.gives_of_ofMembers h fun origin items hlist => by
      rw [hlookup] at hlist
      exact nomatch hlist
    rw [leaf?, hlookup, field.foldCase_name, tableParts, lookup_update_self] at hgives
    simpa [SettingsField.Gives, onto] using hgives

/-- **Precedence of the sources.** When the settings can be loaded, the variable that is named for
the record and the field has no part in it: every environment that is the same but for that
variable loads the same settings. If the record is not written as a list, the field is what the
environment has for it, else what the file of the run mode has, else what the default file has,
else the built-in default; a source that puts anything but a table in the place of the record hides
those after it. -/
theorem load_reads_first_source (hload : load folder env = .ok settings) {base mode : Layer}
    (hbase : folder.layer? "default" = some base) (hmode : folder.layer? env.runMode = some mode)
    (field : SettingsField α) :
    (∀ env' : Environment,
      (env'.filter fun var => var.1 ≠ field.variableName) =
        (env.filter fun var => var.1 ≠ field.variableName) →
      load folder env' = .ok settings) ∧
    ((∀ origin items, ([base, mode, env.layer].foldl Layer.apply []).lookup field.record.key ≠
        some (.list origin items)) →
      field.LoadedFrom (Layer.visible field.record.key [env.layer, mode, base])
        (field.get settings)) := by
  constructor
  · intro env' henv
    rw [load_congr field.path?_variableName field.variableName_ne_runMode henv]
    exact hload
  · intro hlist
    rw [load, collect?_eq_some hbase hmode] at hload
    exact SettingsField.loadedFrom_visible (field.gives_of_ofMembers hload hlist)

/-! Two files and an environment that sets one field in vain and another one in effect. -/

def sampleDefaultText : String :=
  "[server]\nhttp_port = 8081\n[jwt]\nsecret = \"dev\"\nrefresh_secret = \"dev-refresh\"\n" ++
    "[directory]\nbase_url = \"http://users\"\n"

def sampleModeText : String := "[jwt]\nissuer = \"main\"\n"

def sampleFolder : SettingsFolder :=
  [("default.toml", sampleDefaultText), ("production.toml", sampleModeText)]

def sampleEnv : Environment :=
  [("RUN_MODE", "production"), ("JWT__SECRET", "confidential"), ("__JWT__AUDIENCE", "everyone")]

def sampleDefault : Layer :=
  ofTomlMembers "config/default.toml"
    [("server", .table .declared [("http_port", .int 8081)]),
     ("jwt", .table .declared [("secret", .text "dev"), ("refresh_secret", .text "dev-refresh")]),
     ("directory", .table .declared [("base_url", .text "http://users")])]

def sampleMode : Layer :=
  ofTomlMembers "config/production.toml" [("jwt", .table .declared [("issuer", .text "main")])]

def sampleSettings : Settings :=
  ⟨⟨8081⟩, ⟨"dev", "dev-refresh", "main", "everyone", 15, 7⟩, ⟨"http://users", 5000, 2000⟩,
    ⟨.bcrypt⟩⟩

def sampleMembers : Members :=
  let default := some "config/default.toml"
  let mode := some "config/production.toml"
  [("server", .table none [("http_port", .scalar default (.int 8081))]),
   ("jwt", .table none
    [("secret", .scalar default (.text "dev")),
     ("refresh_secret", .scalar default (.text "dev-refresh")),
     ("issuer", .scalar mode (.text "main")),
     ("audience", .scalar (some Environment.origin) (.text "everyone"))]),
   ("directory", .table none [("base_url", .scalar default (.text "http://users"))])]

theorem layer?_default_sample : sampleFolder.layer? "default" = some sampleDefault := by
  have hfile : sampleFolder.file? "default" = some ("default.toml", .toml, sampleDefaultText) := by
    cbv
  exact SettingsFolder.layer?_of_toml hfile (by decide +kernel) (by cbv)

theorem layer?_mode_sample : sampleFolder.layer? sampleEnv.runMode = some sampleMode := by
  have hfile : sampleFolder.file? sampleEnv.runMode =
      some ("production.toml", .toml, sampleModeText) := by
    cbv
  have hmark : SettingsFolder.withoutMark sampleModeText = sampleModeText := by
    simp [SettingsFolder.withoutMark, Text.afterLead?, sampleModeText]
  exact SettingsFolder.layer?_of_toml hfile hmark (by cbv)

theorem layer_sampleEnv : sampleEnv.layer =
    [("jwt.audience", .scalar (some Environment.origin) (.text "everyone"))] := by
  cbv

theorem members_sample :
    [sampleDefault, sampleMode, sampleEnv.layer].foldl Layer.apply [] = sampleMembers := by
  rw [layer_sampleEnv]
  cbv

theorem load_sample : load sampleFolder sampleEnv = .ok sampleSettings := by
  rw [load, collect?_eq_some layer?_default_sample layer?_mode_sample, members_sample]
  cbv

theorem visible_sample :
    Layer.visible SettingsField.issuer.record.key [sampleEnv.layer, sampleMode, sampleDefault] =
      [sampleEnv.layer, sampleMode, sampleDefault] := by
  rw [layer_sampleEnv]
  cbv

theorem sample_reads_first_source :
    load sampleFolder sampleEnv = .ok sampleSettings ∧
      (∀ env' : Environment,
        (env'.filter fun var => var.1 ≠ SettingsField.issuer.variableName) =
          (sampleEnv.filter fun var => var.1 ≠ SettingsField.issuer.variableName) →
        load sampleFolder env' = .ok sampleSettings) ∧
      SettingsField.issuer.LoadedFrom [sampleEnv.layer, sampleMode, sampleDefault] "main" := by
  obtain ⟨hvariable, hfield⟩ := load_reads_first_source load_sample layer?_default_sample
    layer?_mode_sample .issuer
  have hlist : ∀ origin items,
      ([sampleDefault, sampleMode, sampleEnv.layer].foldl Layer.apply []).lookup "jwt" ≠
        some (.list origin items) := by
    rw [members_sample]
    exact fun _ _ h => nomatch h
  have hloaded := hfield hlist
  rw [visible_sample] at hloaded
  exact ⟨load_sample, hvariable, hloaded⟩

theorem secret_variable_ignored :
    load sampleFolder sampleEnv = .ok sampleSettings ∧
      sampleEnv.lookup SettingsField.secret.variableName = some "confidential" ∧
      ¬ SettingsField.secret.Reads (.scalar (some Environment.origin) (.text "confidential"))
        sampleSettings.tokens.secret := by
  refine ⟨load_sample, by cbv, ?_⟩
  intro h
  exact absurd (Except.ok.inj h) (by decide)

end Settings

end TokenAuth
