import TokenAuth.Account.Credentials
import TokenAuth.Proofs.Record

/-!
# Records of accounts

What a body must be to be read as a record of an account, and what the account is then
(`Credentials.ofBytes?_eq_some_some_iff`). A body that is neither null nor a record is broken in one
of the ways of `Credentials.Unreadable`.
-/

namespace TokenAuth

open Json (textOf?)
open Json.Doc (Gives IsRecord LeavesOut MayGive Misshapen Unread)

variable {doc : Json.Doc}

theorem Json.Doc.bool?_eq_some_iff {b : Bool} : doc.bool? = some b ↔ doc = .bool b := by
  cases doc <;> simp [Json.Doc.bool?]

namespace Uuid

/-- A tree that is a text which reads as an identifier. -/
def SpelledBy (doc : Json.Doc) (id : Uuid) : Prop := ∃ s, doc.string? = some s ∧ read s = .ok id

theorem ofDoc?_eq_some_iff {id : Uuid} : ofDoc? doc = some id ↔ SpelledBy doc id := by
  rw [ofDoc?, Option.bind_eq_some_iff]
  refine exists_congr fun s => and_congr_right fun _ => ?_
  cases read s <;> simp [Except.toOption]

end Uuid

/-! ### Roles -/

namespace Role

/-- A tree that is the name of a role, or has it over null. -/
inductive NamedBy (role : Role) : Json.Doc → Prop
  | text {raw : Bytes} (h : textOf? raw = some role.name) : NamedBy role (.text raw)
  | overNull {raw : Bytes} (h : textOf? raw = some role.name) :
      NamedBy role (.object [(raw, .null)])

theorem lookup_names {name : String} {role : Role} :
    names.lookup name = some role ↔ name = role.name := by
  by_cases huser : name = "USER"
  · subst huser
    cases role <;> decide
  · by_cases hadmin : name = "ADMIN"
    · subst hadmin
      cases role <;> decide
    · cases role <;>
        simp [names, Role.name, List.lookup_cons, beq_eq_false_iff_ne.mpr, huser, hadmin]

theorem ofDoc?_eq_some_iff {role : Role} : ofDoc? doc = some role ↔ role.NamedBy doc := by
  constructor
  · intro h
    unfold ofDoc? Json.Doc.choice? at h
    split at h
    · obtain ⟨name, hname, hrole⟩ := Option.bind_eq_some_iff.mp h
      exact .text (lookup_names.mp hrole ▸ hname)
    · obtain ⟨name, hname, hrole⟩ := Option.bind_eq_some_iff.mp h
      exact .overNull (lookup_names.mp hrole ▸ hname)
    · exact nomatch h
  · rintro (h | h) <;> exact Option.bind_eq_some_iff.mpr ⟨_, h, lookup_names.mpr rfl⟩

end Role

namespace Roles

/-- The set of the roles that the items of an array name. -/
def ListedIn (doc : Json.Doc) (roles : Roles) : Prop :=
  ∃ items, doc = .array items ∧ (∀ item ∈ items, ∃ role : Role, role.NamedBy item) ∧
    ∀ role : Role, role ∈ roles.toList ↔ ∃ item ∈ items, role.NamedBy item

theorem mem_toList_ofList {roles : List Role} {role : Role} :
    role ∈ (ofList roles).toList ↔ role ∈ roles := by
  cases role <;> simp [ofList, toList]

theorem eq_of_mem_iff {roles roles' : Roles}
    (h : ∀ role, role ∈ roles.toList ↔ role ∈ roles'.toList) : roles = roles' := by
  rw [← ofList_toList roles, ← ofList_toList roles']
  simp only [ofList, List.contains_eq_mem, h]

theorem not_mem_empty (role : Role) : role ∉ empty.toList := by
  cases role <;> decide

theorem ofDoc?_eq_some_iff {roles : Roles} : ofDoc? doc = some roles ↔ ListedIn doc roles := by
  rw [ofDoc?, Option.map_eq_some_iff]
  constructor
  · rintro ⟨named, hnamed, rfl⟩
    cases doc with
    | array items =>
      refine ⟨items, rfl, fun item hitem => ?_, fun role => ?_⟩
      · obtain ⟨role, hrole⟩ := Outcome.exists_mapM_iff.mp ⟨named, hnamed⟩ item hitem
        exact ⟨role, Role.ofDoc?_eq_some_iff.mp hrole⟩
      · simp only [mem_toList_ofList, Outcome.mem_of_mapM_eq_some hnamed, Role.ofDoc?_eq_some_iff]
    | _ => exact nomatch hnamed
  · rintro ⟨items, rfl, hall, hmem⟩
    obtain ⟨named, hnamed⟩ : ∃ named, items.mapM Role.ofDoc? = some named :=
      Outcome.exists_mapM_iff.mpr fun item hitem => by
        obtain ⟨role, hrole⟩ := hall item hitem
        exact ⟨role, Role.ofDoc?_eq_some_iff.mpr hrole⟩
    refine ⟨named, hnamed, eq_of_mem_iff fun role => ?_⟩
    rw [mem_toList_ofList, Outcome.mem_of_mapM_eq_some hnamed, hmem]
    simp only [Role.ofDoc?_eq_some_iff]

theorem exists_listedIn {items : List Json.Doc}
    (h : ∀ item ∈ items, ∃ role : Role, role.NamedBy item) :
    ∃ roles, ListedIn (.array items) roles := by
  obtain ⟨named, hnamed⟩ : ∃ named, items.mapM Role.ofDoc? = some named := by
    simpa only [Outcome.exists_mapM_iff, Role.ofDoc?_eq_some_iff] using h
  refine ⟨ofList named, ofDoc?_eq_some_iff.mp ?_⟩
  rw [ofDoc?, Json.Doc.items?, hnamed, Option.map_some]

end Roles

/-! ### Records of accounts -/

namespace Credentials

variable {c : Credentials}

theorem fieldNames_nodup : fieldNames.Nodup := by decide

/-- A tree that is a record of an account. What is left out of it is no id, no mark against the
account, and no role. -/
structure RecordedIn (doc : Json.Doc) (c : Credentials) : Prop where
  record : IsRecord fieldNames doc
  email : ∃ field, Gives fieldNames "email" doc field ∧ field.string? = some c.email
  passwordHash : ∃ field, Gives fieldNames "password" doc field ∧
    field.string? = some c.passwordHash
  externalId : MayGive fieldNames "externalId" Uuid.SpelledBy doc c.externalId
  enabled : ∃ mark, MayGive fieldNames "enabled" (fun field b => field = .bool b) doc mark ∧
    c.enabled = mark.getD true
  roles : ∃ roles, MayGive fieldNames "roles" Roles.ListedIn doc roles ∧
    c.roles = roles.getD .empty

-- Both sides need a record. Its fields are then read by name, each by the reader of its kind.
theorem ofDoc?_eq_some_iff : ofDoc? doc = some c ↔ RecordedIn doc c := by
  have hrecord : (∃ fields, doc.recordFields? fieldNames = some fields) ↔ IsRecord fieldNames doc :=
    Json.Doc.exists_recordFields?_iff
  cases h : doc.recordFields? fieldNames with
  | none =>
    have hnone : ¬ IsRecord fieldNames doc := by simp [← hrecord, h]
    rw [ofDoc?, h]
    exact ⟨nofun, fun hc => absurd hc.record hnone⟩
  | some fields =>
    have hsome : IsRecord fieldNames doc := hrecord.mp ⟨fields, h⟩
    have hoptional {α : Type} {name : String} {read? : Json.Doc → Option α}
        {Reads : Json.Doc → α → Prop} (hname : name ∈ fieldNames)
        (hread : ∀ field a, read? field = some a ↔ Reads field a) (value : Option α) :
        fields.optional? name read? = some value ↔ MayGive fieldNames name Reads doc value :=
      Json.Doc.optional?_recordFields? fieldNames_nodup hname h hread
    simp only [ofDoc?, h, Option.bind_eq_bind, Option.bind_eq_some_iff, Option.pure_def,
      Option.some.injEq, exists_eq_left',
      Json.Doc.required?_recordFields? fieldNames_nodup (show "email" ∈ fieldNames by decide) h,
      Json.Doc.required?_recordFields? fieldNames_nodup (show "password" ∈ fieldNames by decide) h,
      hoptional (show "externalId" ∈ fieldNames by decide) fun _ _ => Uuid.ofDoc?_eq_some_iff,
      hoptional (show "enabled" ∈ fieldNames by decide) fun _ _ => Json.Doc.bool?_eq_some_iff,
      hoptional (show "roles" ∈ fieldNames by decide) fun _ _ => Roles.ofDoc?_eq_some_iff]
    constructor
    · rintro ⟨_, hid, _, hemail, _, hhash, mark, hmark, roles, hroles, rfl⟩
      exact ⟨hsome, hemail, hhash, hid, ⟨mark, hmark, rfl⟩, ⟨roles, hroles, rfl⟩⟩
    · rintro ⟨-, hemail, hhash, hid, ⟨mark, hmark, henabled⟩, ⟨roles, hroles, hlisted⟩⟩
      refine ⟨_, hid, _, hemail, _, hhash, mark, hmark, roles, hroles, ?_⟩
      rw [← henabled, ← hlisted]

theorem RecordedIn.gives_unique (h : RecordedIn doc c) {name : String} {field field' : Json.Doc}
    (hgives : Gives fieldNames name doc field) (hgives' : Gives fieldNames name doc field')
    (hname : name ∈ fieldNames) : field = field' :=
  Json.Doc.gives_unique fieldNames_nodup hname h.record hgives hgives'

theorem RecordedIn.enabled_eq_false_iff (h : RecordedIn doc c) :
    c.enabled = false ↔ Gives fieldNames "enabled" doc (.bool false) := by
  obtain ⟨mark, hmark, henabled⟩ := h.enabled
  rw [henabled]
  cases hmark with
  | none hout =>
    simp only [Option.getD_none, Bool.true_eq_false, false_iff]
    exact fun hgives => nomatch hout _ hgives
  | some hgives _ hbool =>
    subst hbool
    constructor
    · rintro rfl
      exact hgives
    · intro hfalse
      exact Json.Doc.bool.inj (h.gives_unique hgives hfalse (by decide))

theorem RecordedIn.leavesOut_externalId (h : RecordedIn doc c) (hnone : c.externalId = none) :
    LeavesOut fieldNames "externalId" doc := by
  have hid := h.externalId
  rw [hnone] at hid
  cases hid with
  | none hout => exact hout

theorem RecordedIn.mem_roles_iff (h : RecordedIn doc c) {role : Role} :
    role ∈ c.roles.toList ↔
      ∃ items, Gives fieldNames "roles" doc (.array items) ∧ ∃ item ∈ items, role.NamedBy item := by
  obtain ⟨roles, hroles, hlisted⟩ := h.roles
  rw [hlisted]
  cases hroles with
  | none hout =>
    refine ⟨fun hmem => absurd hmem (Roles.not_mem_empty role), ?_⟩
    rintro ⟨items, hgives, -⟩
    exact nomatch hout _ hgives
  | some hgives _ hin =>
    obtain ⟨items, rfl, -, hmem⟩ := hin
    rw [Option.getD_some, hmem]
    constructor
    · rintro ⟨item, hitem, hrole⟩
      exact ⟨items, hgives, item, hitem, hrole⟩
    · rintro ⟨items', hgives', item, hitem, hrole⟩
      obtain rfl := Json.Doc.array.inj (h.gives_unique hgives hgives' (by decide))
      exact ⟨item, hitem, hrole⟩

/-- What keeps a tree from being a record of an account. -/
inductive Defect (doc : Json.Doc) : Prop
  | misshapen (h : Misshapen fieldNames doc)
  | missing {name : String} (hname : name ∈ ["email", "password"])
      (h : ∀ field, ¬ Gives fieldNames name doc field)
  | noText {name : String} {field : Json.Doc} (hname : name ∈ ["email", "password"])
      (hgives : Gives fieldNames name doc field) (h : field.string? = none)
  | malformedId {field : Json.Doc} (hgives : Gives fieldNames "externalId" doc field)
      (hne : field ≠ .null) (h : ∀ id, ¬ Uuid.SpelledBy field id)
  | noMark {field : Json.Doc} (hgives : Gives fieldNames "enabled" doc field)
      (hne : field ≠ .null) (h : ∀ b, field ≠ .bool b)
  | noList {field : Json.Doc} (hgives : Gives fieldNames "roles" doc field)
      (hne : field ≠ .null) (h : ∀ items, field ≠ .array items)
  | unknownRole {items : List Json.Doc} {item : Json.Doc}
      (hgives : Gives fieldNames "roles" doc (.array items)) (hmem : item ∈ items)
      (h : ∀ role : Role, ¬ role.NamedBy item)

theorem RecordedIn.text (h : RecordedIn doc c) {name : String}
    (hname : name ∈ ["email", "password"]) :
    ∃ field s, Gives fieldNames name doc field ∧ field.string? = some s := by
  simp only [List.mem_cons, List.not_mem_nil, or_false] at hname
  rcases hname with rfl | rfl
  · obtain ⟨field, hgives, hs⟩ := h.email
    exact ⟨field, _, hgives, hs⟩
  · obtain ⟨field, hgives, hs⟩ := h.passwordHash
    exact ⟨field, _, hgives, hs⟩

theorem RecordedIn.not_defect (h : RecordedIn doc c) : ¬ Defect doc := by
  have hunread {α : Type} {name : String} {Reads : Json.Doc → α → Prop} {value : Option α}
      (hname : name ∈ fieldNames) (hgives : MayGive fieldNames name Reads doc value) :
      ¬ Unread fieldNames name Reads doc :=
    (Json.Doc.exists_mayGive_iff fieldNames_nodup hname h.record).mp ⟨value, hgives⟩
  obtain ⟨_, hmark, -⟩ := h.enabled
  obtain ⟨_, hroles, -⟩ := h.roles
  intro hdefect
  cases hdefect with
  | misshapen hmisshapen => exact Json.Doc.not_isRecord_iff.mpr hmisshapen h.record
  | missing hname hmissing =>
    obtain ⟨field, -, hgives, -⟩ := h.text hname
    exact hmissing field hgives
  | noText hname hgives hnone =>
    obtain ⟨field, s, hgives', hs⟩ := h.text hname
    obtain rfl := h.gives_unique hgives hgives'
      ((show ["email", "password"] ⊆ fieldNames by decide) hname)
    exact nomatch hnone.symm.trans hs
  | malformedId hgives hne hid => exact hunread (by decide) h.externalId ⟨_, hgives, hne, hid⟩
  | noMark hgives hne hbool => exact hunread (by decide) hmark ⟨_, hgives, hne, hbool⟩
  | noList hgives hne harray =>
    refine hunread (by decide) hroles ⟨_, hgives, hne, ?_⟩
    rintro roles ⟨items, hitems, -⟩
    exact harray items hitems
  | unknownRole hgives hmem hunknown =>
    refine hunread (by decide) hroles ⟨_, hgives, nofun, ?_⟩
    rintro roles ⟨items, ⟨⟩, hall, -⟩
    obtain ⟨role, hrole⟩ := hall _ hmem
    exact hunknown role hrole

theorem exists_text_of_not_defect (h : ¬ Defect doc) {name : String}
    (hname : name ∈ ["email", "password"]) :
    ∃ s field, Gives fieldNames name doc field ∧ field.string? = some s := by
  refine Classical.byContradiction fun hnone => h (.missing hname fun field hgives => ?_)
  cases hs : field.string? with
  | none => exact h (.noText hname hgives hs)
  | some s => exact hnone ⟨s, field, hgives, hs⟩

/-- **A tree is a record of an account unless there is a defect in it.** -/
theorem exists_recordedIn_iff : (∃ c, RecordedIn doc c) ↔ ¬ Defect doc := by
  refine ⟨fun ⟨c, hc⟩ => hc.not_defect, fun h => ?_⟩
  have hrecord : IsRecord fieldNames doc := Classical.byContradiction fun hnone =>
    h (.misshapen (Json.Doc.not_isRecord_iff.mp hnone))
  have hread {α : Type} {name : String} {Reads : Json.Doc → α → Prop} (hname : name ∈ fieldNames)
      (hunread : ¬ Unread fieldNames name Reads doc) :
      ∃ value, MayGive fieldNames name Reads doc value :=
    (Json.Doc.exists_mayGive_iff fieldNames_nodup hname hrecord).mpr hunread
  have hlist {field : Json.Doc} (hgives : Gives fieldNames "roles" doc field)
      (hne : field ≠ .null) : ∃ roles, Roles.ListedIn field roles := by
    obtain ⟨items, rfl⟩ : ∃ items, field = .array items := Classical.byContradiction fun hnone =>
      h (.noList hgives hne fun items hitems => hnone ⟨items, hitems⟩)
    exact Roles.exists_listedIn fun item hitem => Classical.byContradiction fun hnone =>
      h (.unknownRole hgives hitem fun role hrole => hnone ⟨role, hrole⟩)
  obtain ⟨email, hemail⟩ := exists_text_of_not_defect h (show "email" ∈ _ by decide)
  obtain ⟨passwordHash, hhash⟩ := exists_text_of_not_defect h (show "password" ∈ _ by decide)
  obtain ⟨externalId, hid⟩ := hread (show "externalId" ∈ _ by decide)
    fun ⟨_, hgives, hne, hnone⟩ => h (.malformedId hgives hne hnone)
  obtain ⟨mark, hmark⟩ := hread (show "enabled" ∈ _ by decide)
    fun ⟨_, hgives, hne, hnone⟩ => h (.noMark hgives hne hnone)
  obtain ⟨roles, hroles⟩ : ∃ roles, MayGive fieldNames "roles" Roles.ListedIn doc roles := by
    refine hread (by decide) ?_
    rintro ⟨field, hgives, hne, hnone⟩
    obtain ⟨roles, hlisted⟩ := hlist hgives hne
    exact hnone roles hlisted
  exact ⟨⟨externalId, email, passwordHash, mark.getD true, roles.getD .empty⟩, hrecord, hemail,
    hhash, hid, ⟨mark, hmark, rfl⟩, ⟨roles, hroles, rfl⟩⟩

theorem ofDoc?_eq_none_iff : ofDoc? doc = none ↔ Defect doc := by
  rw [Option.eq_none_iff_forall_ne_some]
  simp only [ne_eq, ofDoc?_eq_some_iff, ← not_exists, exists_recordedIn_iff, Classical.not_not]

/-! ### Bodies of replies -/

variable {body : Bytes}

theorem RecordedIn.ne_null (h : RecordedIn doc c) : doc ≠ .null := by
  rintro rfl
  exact nomatch h.record

theorem ofBytes?_eq_some_none_iff :
    ofBytes? body = some none ↔ Json.Doc.ofBytes? body = some .null := by
  simp only [ofBytes?, Option.bind_eq_bind, Option.bind_eq_some_iff]
  constructor
  · rintro ⟨doc, hdoc, hread⟩
    by_cases hnull : doc = .null
    · exact hnull ▸ hdoc
    · simp [Json.Doc.optional?_of_ne_null hnull] at hread
  · exact fun hdoc => ⟨_, hdoc, rfl⟩

theorem ofBytes?_eq_some_some_iff :
    ofBytes? body = some (some c) ↔
      ∃ doc, Json.Doc.ofBytes? body = some doc ∧ RecordedIn doc c := by
  simp only [ofBytes?, Option.bind_eq_bind, Option.bind_eq_some_iff, ← ofDoc?_eq_some_iff]
  refine exists_congr fun doc => and_congr_right fun _ => ?_
  by_cases hnull : doc = .null
  · subst hnull
    simp only [Json.Doc.optional?, Option.some.injEq, reduceCtorEq, false_iff]
    exact fun hread => (ofDoc?_eq_some_iff.mp hread).ne_null rfl
  · simp [Json.Doc.optional?_of_ne_null hnull]

/-- What keeps a body from being null or a record of an account: a broken grammar, text after the
value, or a defect of the value. -/
inductive Unreadable (body : Bytes) : Prop
  | broken {frames : List Json.Frame} (h : Json.read body = .cut frames)
  | trailing {root : Json.Doc} {rest : Bytes} {b : UInt8} (h : Json.read body = .complete root rest)
      (hmem : b ∈ rest) (hgap : Json.isGap b = false)
  | defective {doc : Json.Doc} (h : Json.Doc.ofBytes? body = some doc) (hne : doc ≠ .null)
      (hdefect : Defect doc)

theorem ofBytes?_eq_none_iff : ofBytes? body = none ↔ Unreadable body := by
  constructor
  · intro h
    cases hread : Json.read body with
    | cut frames => exact .broken hread
    | complete root rest =>
      by_cases hgap : rest.all Json.isGap = true
      · have hdoc : Json.Doc.ofBytes? body = some root := by
          rw [Json.Doc.ofBytes?, hread]
          exact if_pos hgap
        by_cases hnull : root = .null
        · rw [hnull, ← ofBytes?_eq_some_none_iff, h] at hdoc
          simp at hdoc
        · refine .defective hdoc hnull (ofDoc?_eq_none_iff.mp ?_)
          simpa [ofBytes?, hdoc, Json.Doc.optional?_of_ne_null hnull] using h
      · simp only [List.all_eq_true, Classical.not_forall, Bool.not_eq_true] at hgap
        obtain ⟨b, hmem, hgap⟩ := hgap
        exact .trailing hread hmem hgap
  · intro h
    cases h with
    | broken hread => simp [ofBytes?, Json.Doc.ofBytes?, hread]
    | trailing hread hmem hgap =>
      have hall : ¬ _ := fun hall => Bool.eq_false_iff.mp hgap (List.all_eq_true.mp hall _ hmem)
      simp only [ofBytes?, Json.Doc.ofBytes?, hread, if_neg hall, Option.bind_eq_bind,
        Option.bind_none]
    | defective hdoc hne hdefect =>
      simp [ofBytes?, hdoc, Json.Doc.optional?_of_ne_null hne, ofDoc?_eq_none_iff.mpr hdefect]

end Credentials

end TokenAuth
