import TokenAuth.Proofs.Decoding
import TokenAuth.Proofs.Layering
import TokenAuth.Settings.Basic

/-!
# Fields of the settings

Every field of the loaded settings is read from the member of its name in the table of its record,
or is the built-in default where there is no such member (`SettingsField.gives_of_ofMembers`). When
the table was laid together from sources, the member may be replaced by what a single source has
for it (`SettingsField.Gives.of_laid`).
-/

namespace TokenAuth

open Outcome Setting

/-- The fields of the settings and the types of their values. -/
inductive SettingsField : Type → Type
  | httpPort : SettingsField UInt16
  | secret : SettingsField String
  | refreshSecret : SettingsField String
  | issuer : SettingsField String
  | audience : SettingsField String
  | accessTtlMinutes : SettingsField Int64
  | refreshTtlDays : SettingsField Int64
  | baseUrl : SettingsField String
  | timeoutMs : SettingsField UInt64
  | connectTimeoutMs : SettingsField UInt64
  | algorithm : SettingsField Password.Algorithm

/-- The name that the table of a record has. -/
def SettingsRecord.key : SettingsRecord → String
  | server => "server"
  | jwt => "jwt"
  | directory => "directory"
  | password => "password"

namespace SettingsField

variable {α : Type}

def record : SettingsField α → SettingsRecord
  | httpPort => .server
  | secret | refreshSecret | issuer | audience | accessTtlMinutes | refreshTtlDays => .jwt
  | baseUrl | timeoutMs | connectTimeoutMs => .directory
  | algorithm => .password

def name : SettingsField α → String
  | httpPort => "http_port"
  | secret => "secret"
  | refreshSecret => "refresh_secret"
  | issuer => "issuer"
  | audience => "audience"
  | accessTtlMinutes => "access_ttl_minutes"
  | refreshTtlDays => "refresh_ttl_days"
  | baseUrl => "base_url"
  | timeoutMs => "timeout_ms"
  | connectTimeoutMs => "connect_timeout_ms"
  | algorithm => "algorithm"

def read : {α : Type} → SettingsField α → Located → Except SettingsError α
  | _, httpPort => Located.read toUInt16
  | _, secret | _, refreshSecret | _, issuer | _, audience | _, baseUrl => Located.read toText
  | _, accessTtlMinutes | _, refreshTtlDays => Located.read toInt64
  | _, timeoutMs | _, connectTimeoutMs => Located.read toUInt64
  | _, algorithm => PasswordSettings.readAlgorithm

/-- The value of a field that no source has. -/
def default? : {α : Type} → SettingsField α → Option α
  | _, httpPort | _, secret | _, refreshSecret | _, baseUrl => none
  | _, issuer => some TokenSettings.defaultIssuer
  | _, audience => some TokenSettings.defaultAudience
  | _, accessTtlMinutes => some TokenSettings.defaultAccessTtlMinutes
  | _, refreshTtlDays => some TokenSettings.defaultRefreshTtlDays
  | _, timeoutMs => some DirectorySettings.defaultTimeoutMs
  | _, connectTimeoutMs => some DirectorySettings.defaultConnectTimeoutMs
  | _, algorithm => some PasswordSettings.defaultAlgorithm

def get : {α : Type} → SettingsField α → Settings → α
  | _, httpPort, s => s.server.httpPort
  | _, secret, s => s.tokens.secret
  | _, refreshSecret, s => s.tokens.refreshSecret
  | _, issuer, s => s.tokens.issuer
  | _, audience, s => s.tokens.audience
  | _, accessTtlMinutes, s => s.tokens.accessTtlMinutes
  | _, refreshTtlDays, s => s.tokens.refreshTtlDays
  | _, baseUrl, s => s.directory.baseUrl
  | _, timeoutMs, s => s.directory.timeoutMs
  | _, connectTimeoutMs, s => s.directory.connectTimeoutMs
  | _, algorithm, s => s.password.algorithm

theorem name_mem_fieldNames (field : SettingsField α) : field.name ∈ field.record.fieldNames := by
  cases field <;> decide

/-- The path that the field is found at. -/
def path (field : SettingsField α) : String := field.record.key ++ "." ++ field.name

/-- The setting is read as this value of the field. -/
def Reads (field : SettingsField α) (setting : Setting) (x : α) : Prop :=
  field.read ⟨field.path, setting⟩ = .ok x

/-- What stands at the place of the field makes it this value. -/
def Gives (field : SettingsField α) (place : Option Setting) (x : α) : Prop :=
  match place with
  | some setting => field.Reads setting x
  | none => field.default? = some x

end SettingsField

/-! ### What a record is made of -/

namespace RecordFields

variable {α : Type} {r : RecordFields} {name : String} {read : Located → Except SettingsError α}

/-- A record is made with this value of a field: as it is read, or a default. -/
def Has (r : RecordFields) (name : String) (read : Located → Except SettingsError α)
    (default? : Option α) (x : α) : Prop :=
  ∃ given, r.optional name read = .ok given ∧ (given <|> default?) = some x

theorem Has.read_eq {default? : Option α} {x : α} {l : Located} (h : r.Has name read default? x)
    (hl : r.fields.lookup name = some l) : read l = .ok x := by
  obtain ⟨given, hgiven, hx⟩ := h
  rw [optional, hl] at hgiven
  obtain ⟨value, hvalue, rfl⟩ := map_eq_ok_iff.mp hgiven
  rw [hvalue, Option.some.inj hx]

theorem Has.default?_eq {default? : Option α} {x : α} (h : r.Has name read default? x)
    (hl : r.fields.lookup name = none) : default? = some x := by
  obtain ⟨given, hgiven, hx⟩ := h
  rw [optional, hl] at hgiven
  obtain rfl := Except.ok.inj hgiven
  exact hx

theorem required_eq_ok_iff {given : Option α} {x : α} :
    r.required name given = .ok x ↔ given = some x := by
  cases given <;> simp [required]

theorem has_of_required {given : Option α} {x : α} (h : r.optional name read = .ok given)
    (hx : r.required name given = .ok x) : r.Has name read none x :=
  ⟨given, h, by simpa using required_eq_ok_iff.mp hx⟩

theorem has_getD {given : Option α} (h : r.optional name read = .ok given) (x : α) :
    r.Has name read (some x) (given.getD x) :=
  ⟨given, h, by cases given <;> rfl⟩

end RecordFields

namespace ServerSettings

theorem has_of_ofLocated {l : Located} {s : ServerSettings} (h : ofLocated l = .ok s) :
    ∃ r, RecordFields.ofLocated .server l = .ok r ∧
      r.Has "http_port" (Located.read toUInt16) none s.httpPort := by
  simp only [ofLocated, bind_eq_ok_iff] at h
  obtain ⟨r, hr, port?, hport, port, hrequired, h⟩ := h
  obtain rfl := Except.ok.inj h
  exact ⟨r, hr, RecordFields.has_of_required hport hrequired⟩

end ServerSettings

namespace TokenSettings

theorem has_of_ofLocated {l : Located} {s : TokenSettings} (h : ofLocated l = .ok s) :
    ∃ r, RecordFields.ofLocated .jwt l = .ok r ∧
      r.Has "secret" (Located.read toText) none s.secret ∧
      r.Has "refresh_secret" (Located.read toText) none s.refreshSecret ∧
      r.Has "issuer" (Located.read toText) (some defaultIssuer) s.issuer ∧
      r.Has "audience" (Located.read toText) (some defaultAudience) s.audience ∧
      r.Has "access_ttl_minutes" (Located.read toInt64) (some defaultAccessTtlMinutes)
        s.accessTtlMinutes ∧
      r.Has "refresh_ttl_days" (Located.read toInt64) (some defaultRefreshTtlDays)
        s.refreshTtlDays := by
  simp only [ofLocated, bind_eq_ok_iff] at h
  obtain ⟨r, hr, secret?, hsecret, refresh?, hrefresh, issuer?, hissuer, audience?, haudience,
    minutes?, hminutes, days?, hdays, secret, hsecret', refresh, hrefresh', h⟩ := h
  obtain rfl := Except.ok.inj h
  exact ⟨r, hr, RecordFields.has_of_required hsecret hsecret',
    RecordFields.has_of_required hrefresh hrefresh', RecordFields.has_getD hissuer _,
    RecordFields.has_getD haudience _, RecordFields.has_getD hminutes _,
    RecordFields.has_getD hdays _⟩

end TokenSettings

namespace DirectorySettings

theorem has_of_ofLocated {l : Located} {s : DirectorySettings} (h : ofLocated l = .ok s) :
    ∃ r, RecordFields.ofLocated .directory l = .ok r ∧
      r.Has "base_url" (Located.read toText) none s.baseUrl ∧
      r.Has "timeout_ms" (Located.read toUInt64) (some defaultTimeoutMs) s.timeoutMs ∧
      r.Has "connect_timeout_ms" (Located.read toUInt64) (some defaultConnectTimeoutMs)
        s.connectTimeoutMs := by
  simp only [ofLocated, bind_eq_ok_iff] at h
  obtain ⟨r, hr, url?, hurl, timeout?, htimeout, connect?, hconnect, url, hurl', h⟩ := h
  obtain rfl := Except.ok.inj h
  exact ⟨r, hr, RecordFields.has_of_required hurl hurl', RecordFields.has_getD htimeout _,
    RecordFields.has_getD hconnect _⟩

end DirectorySettings

namespace PasswordSettings

theorem has_of_ofLocated {l : Located} {s : PasswordSettings} (h : ofLocated l = .ok s) :
    ∃ r, RecordFields.ofLocated .password l = .ok r ∧
      r.Has "algorithm" readAlgorithm (some defaultAlgorithm) s.algorithm := by
  simp only [ofLocated, bind_eq_ok_iff] at h
  obtain ⟨r, hr, algorithm?, halgorithm, h⟩ := h
  obtain rfl := Except.ok.inj h
  exact ⟨r, hr, RecordFields.has_getD halgorithm _⟩

end PasswordSettings

/-! ### What the settings are made of -/

namespace Settings

/-- The tables of the records, by name. -/
def tables (members : Members) : RecordFields :=
  ⟨members.map fun (name, value) => (name, ⟨name, value⟩), .missingField⟩

theorem lookup_tables (members : Members) (key : String) :
    (tables members).fields.lookup key = (members.lookup key).map fun value => ⟨key, value⟩ := by
  unfold tables
  induction members with
  | nil => rfl
  | cons member rest ih =>
    obtain ⟨name, value⟩ := member
    by_cases h : key = name
    · subst h; simp
    · simpa [List.lookup_cons, beq_false_of_ne h] using ih

theorem has_of_ofMembers {members : Members} {s : Settings} (h : ofMembers members = .ok s) :
    (tables members).Has "server" ServerSettings.ofLocated none s.server ∧
      (tables members).Has "jwt" TokenSettings.ofLocated none s.tokens ∧
      (tables members).Has "directory" DirectorySettings.ofLocated none s.directory ∧
      (tables members).Has "password" PasswordSettings.ofLocated
        (some ⟨PasswordSettings.defaultAlgorithm⟩) s.password := by
  simp only [ofMembers, bind_eq_ok_iff] at h
  obtain ⟨server?, hserver, tokens?, htokens, directory?, hdirectory, password?, hpassword,
    server, hserver', tokens, htokens', directory, hdirectory', h⟩ := h
  obtain rfl := Except.ok.inj h
  exact ⟨RecordFields.has_of_required hserver hserver',
    RecordFields.has_of_required htokens htokens',
    RecordFields.has_of_required hdirectory hdirectory', RecordFields.has_getD hpassword _⟩

theorem cases_of_has {α : Type} {members : Members} {key : String}
    {read : Located → Except SettingsError α} {default? : Option α} {x : α}
    (h : (tables members).Has key read default? x) :
    (∃ setting, members.lookup key = some setting ∧ read ⟨key, setting⟩ = .ok x) ∨
      members.lookup key = none ∧ default? = some x := by
  have hlookup := lookup_tables members key
  cases hkey : members.lookup key with
  | none =>
    rw [hkey] at hlookup
    exact .inr ⟨rfl, h.default?_eq hlookup⟩
  | some setting =>
    rw [hkey] at hlookup
    exact .inl ⟨setting, rfl, h.read_eq hlookup⟩

theorem exists_of_has {α : Type} {members : Members} {key : String}
    {read : Located → Except SettingsError α} {x : α} (h : (tables members).Has key read none x) :
    ∃ setting, members.lookup key = some setting ∧ read ⟨key, setting⟩ = .ok x :=
  (cases_of_has h).resolve_right fun hnone => nomatch hnone.2

end Settings

namespace SettingsField

variable {α : Type}

theorem lookup_filterMap_names {β γ : Type} (names : List String) (name : String)
    (value? : String → Option β) (locate : String → β → γ) :
    (names.filterMap fun n => (value? n).map fun value => (n, locate n value)).lookup name =
      if name ∈ names then (value? name).map (locate name) else none := by
  induction names with
  | nil => rfl
  | cons n rest ih =>
    by_cases h : name = n
    · subst h
      cases hvalue : value? name <;> simp [hvalue, ih]
    · cases hvalue : value? n <;>
        simp [hvalue, ih, h, List.lookup_cons, beq_false_of_ne h]

/-- The fields in a table are its members. -/
theorem lookup_ofLocated {field : SettingsField α} {r : RecordFields} {origin : Option String}
    {members : Members}
    (h : RecordFields.ofLocated field.record ⟨field.record.key, .table origin members⟩ = .ok r) :
    r.fields.lookup field.name =
      (members.lookup field.name).map fun value => ⟨field.path, value⟩ := by
  obtain rfl := Except.ok.inj h
  have hname := field.name_mem_fieldNames
  exact (lookup_filterMap_names _ _ (fun n => members.lookup n) _).trans (if_pos hname)

/-- The record of a field is read from the table of its name, and without that table the field is
the default. -/
theorem record_of_ofMembers {members : Members} {s : Settings}
    (h : Settings.ofMembers members = .ok s) (field : SettingsField α) :
    (∃ setting r, members.lookup field.record.key = some setting ∧
      RecordFields.ofLocated field.record ⟨field.record.key, setting⟩ = .ok r ∧
      r.Has field.name field.read field.default? (field.get s)) ∨
    members.lookup field.record.key = none ∧ field.default? = some (field.get s) := by
  obtain ⟨hserver, htokens, hdirectory, hpassword⟩ := Settings.has_of_ofMembers h
  obtain ⟨_, hserver, hread⟩ := Settings.exists_of_has hserver
  obtain ⟨_, hserverRecord, hport⟩ := ServerSettings.has_of_ofLocated hread
  obtain ⟨_, htokens, hread⟩ := Settings.exists_of_has htokens
  obtain ⟨_, htokensRecord, hsecret, hrefresh, hissuer, haudience, hminutes, hdays⟩ :=
    TokenSettings.has_of_ofLocated hread
  obtain ⟨_, hdirectory, hread⟩ := Settings.exists_of_has hdirectory
  obtain ⟨_, hdirectoryRecord, hurl, htimeout, hconnect⟩ :=
    DirectorySettings.has_of_ofLocated hread
  cases field with
  | httpPort => exact .inl ⟨_, _, hserver, hserverRecord, hport⟩
  | secret => exact .inl ⟨_, _, htokens, htokensRecord, hsecret⟩
  | refreshSecret => exact .inl ⟨_, _, htokens, htokensRecord, hrefresh⟩
  | issuer => exact .inl ⟨_, _, htokens, htokensRecord, hissuer⟩
  | audience => exact .inl ⟨_, _, htokens, htokensRecord, haudience⟩
  | accessTtlMinutes => exact .inl ⟨_, _, htokens, htokensRecord, hminutes⟩
  | refreshTtlDays => exact .inl ⟨_, _, htokens, htokensRecord, hdays⟩
  | baseUrl => exact .inl ⟨_, _, hdirectory, hdirectoryRecord, hurl⟩
  | timeoutMs => exact .inl ⟨_, _, hdirectory, hdirectoryRecord, htimeout⟩
  | connectTimeoutMs => exact .inl ⟨_, _, hdirectory, hdirectoryRecord, hconnect⟩
  | algorithm =>
    obtain ⟨_, hpassword, hread⟩ | ⟨hpassword, hdefault⟩ := Settings.cases_of_has hpassword
    · obtain ⟨_, hpasswordRecord, halgorithm⟩ := PasswordSettings.has_of_ofLocated hread
      exact .inl ⟨_, _, hpassword, hpasswordRecord, halgorithm⟩
    · exact .inr ⟨hpassword, by rw [get, ← Option.some.inj hdefault]; rfl⟩

/-- **Where a field comes from.** The value of a loaded field is what stands at its name in the
table of its record. -/
theorem gives_of_ofMembers {members : Members} {s : Settings}
    (h : Settings.ofMembers members = .ok s) (field : SettingsField α)
    (hlist : ∀ origin items, members.lookup field.record.key ≠ some (.list origin items)) :
    field.Gives (leaf? field.record.key field.name members) (field.get s) := by
  unfold leaf?
  obtain ⟨setting, r, hkey, hr, hhas⟩ | ⟨hkey, hdefault⟩ := field.record_of_ofMembers h
  · cases setting with
    | scalar => exact nomatch hr
    | list origin items => exact absurd hkey (hlist origin items)
    | table origin inner =>
      have hlookup := lookup_ofLocated hr
      rw [hkey, tableParts]
      cases hname : inner.lookup field.name with
      | none =>
        rw [hname] at hlookup
        exact hhas.default?_eq hlookup
      | some value =>
        rw [hname] at hlookup
        exact hhas.read_eq hlookup
  · rw [hkey]
    exact hdefault

end SettingsField

/-! ### What can be read -/

namespace Setting

variable {setting : Setting}

theorem exists_scalar_of_toText {x : String} (h : setting.toText = .ok x) :
    ∃ origin value, setting = .scalar origin value := by
  cases setting with
  | scalar origin value => exact ⟨origin, value, rfl⟩
  | list => exact nomatch h
  | table => exact nomatch h

theorem exists_scalar_of_toInteger {low high x : Int} {fromInt : Int64 → Except SettingFault Int}
    (h : setting.toInteger low high fromInt = .ok x) :
    ∃ origin value, setting = .scalar origin value := by
  cases setting with
  | scalar origin value => exact ⟨origin, value, rfl⟩
  | list => exact nomatch h
  | table => exact nomatch h

theorem exists_scalar_of_toInt64 {x : Int64} (h : setting.toInt64 = .ok x) :
    ∃ origin value, setting = .scalar origin value := by
  obtain ⟨n, hn, -⟩ := map_eq_ok_iff.mp h
  exact exists_scalar_of_toInteger hn

theorem exists_scalar_of_toUInt64 {x : UInt64} (h : setting.toUInt64 = .ok x) :
    ∃ origin value, setting = .scalar origin value := by
  obtain ⟨n, hn, -⟩ := map_eq_ok_iff.mp h
  exact exists_scalar_of_toInteger hn

theorem exists_scalar_of_toUInt16 {x : UInt16} (h : setting.toUInt16 = .ok x) :
    ∃ origin value, setting = .scalar origin value := by
  obtain ⟨n, hn, -⟩ := bind_eq_ok_iff.mp h
  exact exists_scalar_of_toUInt64 hn

end Setting

theorem PasswordSettings.readAlgorithm_cases {path : String} {setting : Setting}
    {x : Password.Algorithm} (h : readAlgorithm ⟨path, setting⟩ = .ok x) :
    (∃ origin value, setting = .scalar origin value) ∨
      ∃ origin name value,
        setting = .table origin [(name, value)] ∧ algorithmOfName name = .ok x := by
  unfold readAlgorithm at h
  split at h
  · next origin name heq => exact .inl ⟨origin, _, heq⟩
  · next origin name value heq => exact .inr ⟨origin, name, value, heq, h⟩
  · exact nomatch h

namespace SettingsField

variable {α : Type} {field : SettingsField α} {x : α}

/-- Fields are read from scalars, or from tables with one member, of which only the name counts. -/
theorem Reads.cases {setting : Setting} (h : field.Reads setting x) :
    (∃ origin value, setting = .scalar origin value) ∨
      ∃ origin name value, setting = .table origin [(name, value)] ∧
        ∀ origin' value', field.Reads (.table origin' [(name, value')]) x := by
  cases field with
  | httpPort => exact .inl (exists_scalar_of_toUInt16 (mapError_eq_ok_iff.mp h))
  | secret | refreshSecret | issuer | audience | baseUrl =>
    exact .inl (exists_scalar_of_toText (mapError_eq_ok_iff.mp h))
  | accessTtlMinutes | refreshTtlDays =>
    exact .inl (exists_scalar_of_toInt64 (mapError_eq_ok_iff.mp h))
  | timeoutMs | connectTimeoutMs =>
    exact .inl (exists_scalar_of_toUInt64 (mapError_eq_ok_iff.mp h))
  | algorithm =>
    refine (PasswordSettings.readAlgorithm_cases h).imp_right ?_
    rintro ⟨origin, name, value, hsetting, hname⟩
    exact ⟨origin, name, value, hsetting, fun _ _ => hname⟩

theorem not_reads_list (origin : Option String) (items : List Setting) :
    ¬ field.Reads (.list origin items) x := by
  intro h
  obtain ⟨_, _, heq⟩ | ⟨_, _, _, heq, -⟩ := h.cases <;> exact nomatch heq

theorem not_reads_table_nil (origin : Option String) : ¬ field.Reads (.table origin []) x := by
  intro h
  obtain ⟨_, _, heq⟩ | ⟨_, _, _, heq, -⟩ := h.cases <;> exact nomatch heq

theorem Reads.of_keys_subset {origin origin' : Option String} {members members' : Members}
    (h : field.Reads (.table origin' members') x) (hne : members ≠ [])
    (hnodup : (keys members).Nodup) (hsub : keys members ⊆ keys members') :
    field.Reads (.table origin members) x := by
  obtain ⟨_, _, heq⟩ | ⟨_, name, _, heq, hreads⟩ := h.cases
  · cases heq
  · obtain ⟨-, rfl⟩ := Setting.table.inj heq
    have hname : ∀ key ∈ keys members, key = name := fun key hkey => by
      simpa [keys] using hsub hkey
    cases members with
    | nil => exact absurd rfl hne
    | cons member rest =>
      obtain ⟨key, value⟩ := member
      obtain rfl := hname key List.mem_cons_self
      cases rest with
      | nil => exact hreads origin value
      | cons next rest =>
        -- A second name would be the same one again.
        have hnext := hname next.1 (List.mem_cons_of_mem _ List.mem_cons_self)
        simp [keys, hnext] at hnodup

/-- **Fields over sources.** A field that is read where a source was laid over something is read
from what the source has for it, or if that is nothing, from what was there before. -/
theorem Gives.of_laid {old alone full : Option Setting} (hlaid : Laid old alone full)
    (h : field.Gives full x) : field.Gives (given? alone <|> old) x := by
  cases hlaid with
  | untouched => exact h
  | empty =>
    cases old with
    | none => exact absurd h (not_reads_table_nil none)
    | some setting => exact h
  | scalar => exact h
  | list origin origin' items items' => exact absurd h (not_reads_list origin' items')
  | @table origin origin' members members' hne hnodup hsub =>
    have hreads : field.Reads (.table origin members) x := Reads.of_keys_subset h hne hnodup hsub
    obtain ⟨member, rest, rfl⟩ := List.exists_cons_of_ne_nil hne
    exact hreads

end SettingsField

end TokenAuth
