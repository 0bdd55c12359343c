import TokenAuth.Proofs.AccountRecord
import TokenAuth.Proofs.Contact
import TokenAuth.Proofs.Forwarded
import TokenAuth.Proofs.Lookup
import TokenAuth.Proofs.TimeText

/-!
# What is shown of a created account

A reply of the users service to a creation is read as an account by seven of its fields
(`RegisteredUser.ofDoc?_eq_some_iff`). The account is shown with these seven, and what is shown is
read as the same account (`RegisteredUser.ofDoc?_toJson`), though seldom as the same text: a date
may be spelled in more ways than one, and the reply may name fields that no account has. Main
statement: `SignIn.created_account_shown`.
-/

namespace TokenAuth

open Json (fieldsOf)
open Json.Doc (Gives IsRecord LeavesOut MayGive)

namespace RegisteredUser

variable {doc : Json.Doc} {user : RegisteredUser} {name : String}

/-! ### Records of created accounts -/

theorem fieldNames_nodup : fieldNames.Nodup := by decide

/-- A tree that is a record of a created account. All but the email may be left out of it. -/
structure RecordedIn (doc : Json.Doc) (user : RegisteredUser) : Prop where
  record : IsRecord fieldNames doc
  externalId : MayGive fieldNames "externalId" Uuid.SpelledBy doc user.externalId
  email : ∃ field, Gives fieldNames "email" doc field ∧ field.string? = some user.email
  firstName : MayGive fieldNames "firstName" (fun field s => field.string? = some s) doc
    user.firstName
  lastName : MayGive fieldNames "lastName" (fun field s => field.string? = some s) doc user.lastName
  birthDate : MayGive fieldNames "birthDate"
    (fun field d => ∃ s, field.string? = some s ∧ Date.readLoose? s = some d) doc user.birthDate
  sex : MayGive fieldNames "sex" (fun field sex => Sex.ofDoc? field = some sex) doc user.sex
  createdAt : MayGive fieldNames "createdAt"
    (fun field t => ∃ s, field.string? = some s ∧ DateTime.read? s = some t) doc user.createdAt

theorem ofDoc?_eq_some_iff : ofDoc? doc = some user ↔ RecordedIn doc user := by
  have hrecord : (∃ fields, doc.recordFields? fieldNames = some fields) ↔ IsRecord fieldNames doc :=
    Json.Doc.exists_recordFields?_iff
  cases h : doc.recordFields? fieldNames with
  | none =>
    have hnone : ¬ IsRecord fieldNames doc := by simp [← hrecord, h]
    rw [ofDoc?, h]
    exact ⟨nofun, fun huser => absurd huser.record hnone⟩
  | some fields =>
    have hsome : IsRecord fieldNames doc := hrecord.mp ⟨fields, h⟩
    have hoptional {α : Type} {name : String} {read? : Json.Doc → Option α}
        {Reads : Json.Doc → α → Prop} (hname : name ∈ fieldNames)
        (hread : ∀ field a, read? field = some a ↔ Reads field a) (value : Option α) :
        fields.optional? name read? = some value ↔ MayGive fieldNames name Reads doc value :=
      Json.Doc.optional?_recordFields? fieldNames_nodup hname h hread
    simp only [ofDoc?, h, Option.bind_eq_bind, Option.bind_eq_some_iff, Option.pure_def,
      Option.some.injEq, exists_eq_left',
      Json.Doc.required?_recordFields? fieldNames_nodup (show "email" ∈ fieldNames by decide) h,
      hoptional (show "externalId" ∈ fieldNames by decide) fun _ _ => Uuid.ofDoc?_eq_some_iff,
      hoptional (show "firstName" ∈ fieldNames by decide) fun _ _ => Iff.rfl,
      hoptional (show "lastName" ∈ fieldNames by decide) fun _ _ => Iff.rfl,
      hoptional (show "birthDate" ∈ fieldNames by decide) fun _ _ => Option.bind_eq_some_iff,
      hoptional (show "sex" ∈ fieldNames by decide) fun _ _ => Iff.rfl,
      hoptional (show "createdAt" ∈ fieldNames by decide) fun _ _ => Option.bind_eq_some_iff]
    constructor
    · rintro ⟨_, hid, _, hemail, _, hfirst, _, hlast, _, hbirth, _, hsex, _, hcreated, rfl⟩
      exact ⟨hsome, hid, hemail, hfirst, hlast, hbirth, hsex, hcreated⟩
    · rintro ⟨-, hid, hemail, hfirst, hlast, hbirth, hsex, hcreated⟩
      exact ⟨_, hid, _, hemail, _, hfirst, _, hlast, _, hbirth, _, hsex, _, hcreated, rfl⟩

/-! ### Accounts as they are shown -/

/-- The member for a value that may be absent. -/
def orNull {α : Type} (text : α → String) (value : Option α) : Json :=
  ((value.map text).map Json.str).getD .null

/-- The members that an account is shown with. -/
def members (user : RegisteredUser) : List (String × Json) :=
  [("externalId", orNull Uuid.text user.externalId), ("email", .str user.email),
    ("firstName", orNull id user.firstName), ("lastName", orNull id user.lastName),
    ("birthDate", orNull Date.text user.birthDate), ("sex", orNull Sex.name user.sex),
    ("createdAt", orNull DateTime.text user.createdAt)]

theorem toJson_eq (user : RegisteredUser) : user.toJson = .obj user.members := by
  simp only [toJson, members, orNull, Option.map_id_apply]

theorem floatFree_toJson (user : RegisteredUser) : user.toJson.FloatFree := by
  have hfree {α : Type} (text : α → String) (value : Option α) : (orNull text value).FloatFree := by
    cases value <;> trivial
  simp only [toJson_eq, members, Json.FloatFree, Json.MembersFloatFree, hfree, and_self]

section OrNull

variable {α : Type} {text : α → String} {value : Option α} {members : List (String × Json)}

theorem optional?_of_lookup {read? : Json.Doc → Option α} {member : Json}
    (hlookup : members.lookup name = some member)
    (hread : member.doc.optional? read? = some value) :
    (fieldsOf members).optional? name read? = some value := by
  rw [Json.Fields.optional?, Json.lookup_fieldsOf, hlookup]
  exact hread

theorem doc_orNull_eq_null_iff : (orNull text value).doc = .null ↔ value = none := by
  cases value <;> simp [orNull, Json.doc]

theorem optional?_orNull {read? : Json.Doc → Option α}
    (hlookup : members.lookup name = some (orNull text value))
    (hread : ∀ a, read? (Json.str (text a)).doc = some a) :
    (fieldsOf members).optional? name read? = some value := by
  refine optional?_of_lookup hlookup ?_
  cases value with
  | none => rfl
  | some a => exact Option.map_eq_some_iff.mpr ⟨a, hread a, rfl⟩

end OrNull

theorem ofDoc?_sexName (sex : Sex) : Sex.ofDoc? (Json.str sex.name).doc = some sex := by
  have hname : Json.textOf? (Json.escape (utf8 sex.name)) = some sex.name :=
    Json.textOf?_escape sex.name
  rw [Sex.ofDoc?, Json.doc, Json.Doc.choice?, hname]
  cases sex <;> rfl

/-- **What is shown of an account is read as the account.** -/
theorem ofDoc?_toJson (user : RegisteredUser) : ofDoc? user.toJson.doc = some user := by
  have hfields : user.toJson.doc.recordFields? fieldNames = some (fieldsOf user.members) := by
    rw [toJson_eq]
    exact Json.recordFields?_obj
      (show ∀ name ∈ fieldNames, fieldNames.count name ≤ 1 by decide)
      (by simp [members, fieldNames])
  have hid : (fieldsOf user.members).optional? "externalId" Uuid.ofDoc? = some user.externalId :=
    optional?_orNull rfl fun id =>
      Uuid.ofDoc?_eq_some_iff.mpr ⟨_, Json.string?_doc_str _, Uuid.read_text id⟩
  have hemail : (fieldsOf user.members).required? "email" Json.Doc.string? = some user.email :=
    Json.string?_doc_str user.email
  have hfirst : (fieldsOf user.members).optional? "firstName" Json.Doc.string? =
      some user.firstName :=
    optional?_orNull rfl Json.string?_doc_str
  have hlast : (fieldsOf user.members).optional? "lastName" Json.Doc.string? =
      some user.lastName :=
    optional?_orNull rfl Json.string?_doc_str
  have hbirth : (fieldsOf user.members).optional? "birthDate"
      (fun doc => doc.string?.bind Date.readLoose?) = some user.birthDate :=
    optional?_orNull rfl fun d => by
      rw [Json.string?_doc_str, Option.bind_some, Date.readLoose?_text]
  have hsex : (fieldsOf user.members).optional? "sex" Sex.ofDoc? = some user.sex :=
    optional?_orNull rfl ofDoc?_sexName
  have hcreated : (fieldsOf user.members).optional? "createdAt"
      (fun doc => doc.string?.bind DateTime.read?) = some user.createdAt :=
    optional?_orNull rfl fun t => by
      rw [Json.string?_doc_str, Option.bind_some, DateTime.read?_text]
  simp only [ofDoc?, hfields, hid, hemail, hfirst, hlast, hbirth, hsex, hcreated,
    Option.bind_eq_bind, Option.bind_some, Option.pure_def]

theorem ofBytes?_render (user : RegisteredUser) : ofBytes? user.toJson.render = some user := by
  rw [ofBytes?, Json.Doc.ofBytes?_render user.floatFree_toJson, Option.bind_some, ofDoc?_toJson]

/-- A member is null if the record leaves it out. -/
theorem RecordedIn.lookup_eq_null_iff (h : RecordedIn doc user) (hname : name ∈ fieldNames) :
    (fieldsOf user.members).lookup name = some .null ↔ LeavesOut fieldNames name doc := by
  have hoptional {α : Type} {Reads : Json.Doc → α → Prop} {text : α → String} {value : Option α}
      (hlookup : user.members.lookup name = some (orNull text value))
      (hgives : MayGive fieldNames name Reads doc value) :
      (fieldsOf user.members).lookup name = some .null ↔ LeavesOut fieldNames name doc := by
    rw [Json.lookup_fieldsOf, hlookup, Option.map_some, Option.some.injEq, doc_orNull_eq_null_iff]
    exact Json.Doc.eq_none_iff_leavesOut hgives
  simp only [fieldNames, List.mem_cons, List.not_mem_nil, or_false] at hname
  rcases hname with rfl | rfl | rfl | rfl | rfl | rfl | rfl
  · exact hoptional rfl h.externalId
  · obtain ⟨field, hgives, hemail⟩ := h.email
    refine iff_of_false nofun fun hout => ?_
    rw [hout field hgives] at hemail
    exact nomatch hemail
  · exact hoptional rfl h.firstName
  · exact hoptional rfl h.lastName
  · exact hoptional rfl h.birthDate
  · exact hoptional rfl h.sex
  · exact hoptional rfl h.createdAt

theorem ofBytes?_eq_some_iff {body : Bytes} : ofBytes? body = some user ↔
    ∃ doc, Json.Doc.ofBytes? body = some doc ∧ RecordedIn doc user := by
  simp only [ofBytes?, Option.bind_eq_some_iff, ofDoc?_eq_some_iff]

/-- A body that shows an account as a record gave it: it is read as the account, and it is an object
with the fields of the account and no others, null where the record leaves them out. -/
structure ShownBy (user : RegisteredUser) (doc : Json.Doc) (body : Bytes) : Prop where
  body_eq : body = user.toJson.render
  read : ofBytes? body = some user
  fields : ∃ docs fields, Json.Doc.ofBytes? body = some (.object docs) ∧
    Json.Doc.named? docs = some fields ∧ fields.map Prod.fst = fieldNames ∧
    ∀ name ∈ fieldNames, fields.lookup name = some .null ↔ LeavesOut fieldNames name doc

theorem RecordedIn.shownBy (h : RecordedIn doc user) : user.ShownBy doc user.toJson.render where
  body_eq := rfl
  read := user.ofBytes?_render
  fields := by
    refine ⟨Json.memberDocs user.members, fieldsOf user.members, ?_,
      Json.named?_memberDocs user.members, Json.map_fst_fieldsOf user.members,
      fun name hname => h.lookup_eq_null_iff hname⟩
    rw [Json.Doc.ofBytes?_render user.floatFree_toJson, toJson_eq, Json.doc]

end RegisteredUser

/-! ### Replies to a creation -/

namespace Directory.Outcome

theorem readCreate_eq_ok_iff {outcome : Directory.Outcome} {user : RegisteredUser} :
    readCreate outcome = .ok user ↔ ∃ status body, outcome = .ok ⟨status, .ok body⟩ ∧
      (200 ≤ status.code ∧ status.code < 300) ∧ RegisteredUser.ofBytes? body = some user := by
  have hsuccess (status : Http.Status) :
      status.isSuccess = true ↔ 200 ≤ status.code ∧ status.code < 300 := by
    simp [Http.Status.isSuccess]
  rcases outcome with outage | ⟨status, outage | body⟩
  · simp [readCreate]
  · simp [readCreate, Reply.successBody, bind, Except.bind]
  · by_cases h2xx : 200 ≤ status.code ∧ status.code < 300
    · cases hread : RegisteredUser.ofBytes? body <;>
        simp [readCreate, Reply.successBody, bind, Except.bind, (hsuccess status).mpr h2xx, h2xx,
          hread]
    · simp [readCreate, Reply.successBody, bind, Except.bind, hsuccess, h2xx]

end Directory.Outcome

namespace SignIn

open Directory

variable {service : SignIn} {m : Moment} {request : Http.Request} {user : NewUser} {σ : Type}

/-- What is answered to what came of a creation. -/
def creationResponse (created : Except Fault RegisteredUser) : Http.Response :=
  (Http.respond .created RegisteredUser.toJson (created.mapError AuthError.ofFault)).shared

theorem isError_creationResponse (fault : Fault) :
    400 ≤ (creationResponse (.error fault)).status.code ∧
      (creationResponse (.error fault)).status.code < 600 :=
  AuthError.isError_shown fault

theorem creationResponse_created_iff {created : Except Fault RegisteredUser} :
    (creationResponse created).status = .created ↔ ∃ account, created = .ok account := by
  cases created with
  | ok account => exact iff_of_true rfl ⟨account, rfl⟩
  | error fault =>
    refine iff_of_false (fun hcreated => ?_) (by rintro ⟨_, ⟨⟩⟩)
    have herror := isError_creationResponse fault
    rw [hcreated] at herror
    exact absurd herror (by decide)

/-- A request that asks for a creation is answered with what came of it. -/
theorem run_of_create_mem {directory : Service σ} {s : σ}
    (h : .create user ∈ ((Http.Api.answer service m request).run directory s).calls) :
    ((Http.Api.answer service m request).run directory s).result =
      creationResponse (directory.create user s).1 := by
  rcases Step.calls_step service m request directory s with
    hcalls | ⟨email, hcalls⟩ | ⟨form, r, hashed, hregisters, hhash, hcalls⟩ <;>
    rw [step] at hcalls <;> rw [hcalls] at h
  · exact nomatch h
  · exact nomatch List.mem_singleton.mp h
  · obtain rfl := Call.create.inj (List.mem_singleton.mp h)
    rw [Http.Api.run_registers_of_ok hregisters hhash]
    rfl

/-- **A created account is shown without loss and nothing else is.** -/
theorem created_account_shown (service : SignIn) (web : WebService σ) (m : Moment)
    (request : Http.Request) (s : σ) (user : NewUser)
    (hcall : .create user ∈ ((Http.Api.answer service m request).run web.directory s).calls) :
    let outcome := (web.exchange (.create user) s).1
    let response := ((Http.Api.answer service m request).run web.directory s).result
    (response.status = .created ↔ ∃ status body account, outcome = .ok ⟨status, .ok body⟩ ∧
      (200 ≤ status.code ∧ status.code < 300) ∧ RegisteredUser.ofBytes? body = some account) ∧
    (response.status ≠ .created → 400 ≤ response.status.code ∧ response.status.code < 600) ∧
    ∀ status body account, outcome = .ok ⟨status, .ok body⟩ →
      200 ≤ status.code ∧ status.code < 300 → RegisteredUser.ofBytes? body = some account →
      ∃ doc, Json.Doc.ofBytes? body = some doc ∧ account.RecordedIn doc ∧
        account.ShownBy doc response.body := by
  intro outcome response
  have hresult : response = creationResponse (Outcome.readCreate outcome) := run_of_create_mem hcall
  refine ⟨?_, fun hother => ?_, fun status body account houtcome h2xx hbody => ?_⟩
  · rw [hresult, creationResponse_created_iff]
    simp only [Outcome.readCreate_eq_ok_iff]
    constructor
    · rintro ⟨account, status, body, hread⟩
      exact ⟨status, body, account, hread⟩
    · rintro ⟨status, body, account, hread⟩
      exact ⟨account, status, body, hread⟩
  · rw [hresult] at hother ⊢
    cases hread : Outcome.readCreate outcome with
    | ok account =>
      exact absurd (creationResponse_created_iff.mpr ⟨account, hread⟩) hother
    | error fault => exact isError_creationResponse fault
  · obtain ⟨doc, hdoc, hrecorded⟩ := RegisteredUser.ofBytes?_eq_some_iff.mp hbody
    refine ⟨doc, hdoc, hrecorded, ?_⟩
    rw [hresult, Outcome.readCreate_eq_ok_iff.mpr ⟨status, body, houtcome, h2xx, hbody⟩]
    exact hrecorded.shownBy

/-! ### A reply with a password -/

/-- A record of an account in a far year and in a leap second, with a password and a hash. -/
def createdRecord : Json :=
  .obj [("password", .str "Secret123!"), ("createdAt", .str "-0044-03-15T23:59:60.5"),
    ("email", .str "a@b.org"), ("hash", .arr [.null]), ("birthDate", .str "+10000-02-29"),
    ("firstName", .str "Zoë \"Z\""), ("lastName", .null),
    ("externalId", .str "urn:uuid:F81D4FAE-7DEC-11D0-A765-00A0C91E6BF6"),
    ("sex", .obj [("FEMALE", .null)])]

def createdAccount : RegisteredUser where
  externalId := (Uuid.read "f81d4fae-7dec-11d0-a765-00a0c91e6bf6").toOption
  email := "a@b.org"
  firstName := some "Zoë \"Z\""
  lastName := none
  birthDate := Date.ofParts? 10000 2 29
  sex := some .female
  createdAt := (Date.ofParts? (-44) 3 15).bind fun day => DateTime.ofParts? day 23 59 59 1500000000

/-- The members of the record that an account is read from. -/
def createdMembers : List (String × Json) :=
  [("createdAt", .str "-0044-03-15T23:59:60.5"), ("email", .str "a@b.org"),
    ("birthDate", .str "+10000-02-29"), ("firstName", .str "Zoë \"Z\""), ("lastName", .null),
    ("externalId", .str "urn:uuid:F81D4FAE-7DEC-11D0-A765-00A0C91E6BF6"),
    ("sex", .obj [("FEMALE", .null)])]

theorem recordFields?_createdRecord :
    createdRecord.doc.recordFields? RegisteredUser.fieldNames = some (fieldsOf createdMembers) := by
  rw [createdRecord, Json.doc, Json.Doc.recordFields?_object, Json.named?_memberDocs,
    Option.bind_some]
  rfl

theorem ofDoc?_createdRecord :
    RegisteredUser.ofDoc? createdRecord.doc = some createdAccount := by
  have htext {α : Type} {read? : String → Option α} {name s : String} {value : Option α}
      (hlookup : createdMembers.lookup name = some (.str s))
      (hread : value.isSome = true ∧ read? s = value) :
      (fieldsOf createdMembers).optional? name (fun doc => doc.string?.bind read?) =
        some value := by
    obtain ⟨a, rfl⟩ := Option.isSome_iff_exists.mp hread.1
    have hvalue : (Json.str s).doc.string?.bind read? = some a := by
      rw [Json.string?_doc_str, Option.bind_some, hread.2]
    exact RegisteredUser.optional?_of_lookup hlookup (Option.map_eq_some_iff.mpr ⟨a, hvalue, rfl⟩)
  have hid : (fieldsOf createdMembers).optional? "externalId" Uuid.ofDoc? =
      some createdAccount.externalId :=
    htext rfl (show _ ∧ (Uuid.read _).toOption = _ by decide +kernel)
  have hemail : (fieldsOf createdMembers).required? "email" Json.Doc.string? =
      some createdAccount.email :=
    Json.string?_doc_str "a@b.org"
  have hfirst : (fieldsOf createdMembers).optional? "firstName" Json.Doc.string? =
      some createdAccount.firstName :=
    RegisteredUser.optional?_of_lookup rfl
      (Option.map_eq_some_iff.mpr ⟨_, Json.string?_doc_str "Zoë \"Z\"", rfl⟩)
  have hlast : (fieldsOf createdMembers).optional? "lastName" Json.Doc.string? =
      some createdAccount.lastName := rfl
  have hbirth : (fieldsOf createdMembers).optional? "birthDate"
      (fun doc => doc.string?.bind Date.readLoose?) = some createdAccount.birthDate :=
    htext rfl (by decide +kernel)
  have hsex : (fieldsOf createdMembers).optional? "sex" Sex.ofDoc? = some createdAccount.sex := by
    have hname : Json.textOf? (Json.escape (utf8 "FEMALE")) = some "FEMALE" :=
      Json.textOf?_escape "FEMALE"
    have hread : Sex.ofDoc? (Json.obj [("FEMALE", .null)]).doc = some .female := by
      rw [Sex.ofDoc?, Json.doc, Json.memberDocs, Json.memberDocs, Json.doc, Json.Doc.choice?, hname]
      rfl
    exact RegisteredUser.optional?_of_lookup rfl (Option.map_eq_some_iff.mpr ⟨_, hread, rfl⟩)
  have hcreated : (fieldsOf createdMembers).optional? "createdAt"
      (fun doc => doc.string?.bind DateTime.read?) = some createdAccount.createdAt :=
    htext rfl (by decide +kernel)
  simp only [RegisteredUser.ofDoc?, recordFields?_createdRecord, hid, hemail, hfirst, hlast, hbirth,
    hsex, hcreated, Option.bind_eq_bind, Option.bind_some, Option.pure_def]

/-- The account is shown in its own spelling, and neither the password nor the hash is. -/
theorem record_with_password_shown :
    ∃ request user response,
      .create user ∈ ((Http.Api.answer twinService twinMoment request).run
        (answering ⟨.ok, .ok createdRecord.render⟩).directory ()).calls ∧
      ((Http.Api.answer twinService twinMoment request).run
        (answering ⟨.ok, .ok createdRecord.render⟩).directory ()).result = response ∧
      response.status = .created ∧ RegisteredUser.ofBytes? response.body = some createdAccount ∧
      response.body = utf8 ("\x7b\"externalId\":\"f81d4fae-7dec-11d0-a765-00a0c91e6bf6\"," ++
        "\"email\":\"a@b.org\",\"firstName\":\"Zoë \\\"Z\\\"\",\"lastName\":null," ++
        "\"birthDate\":\"+10000-02-29\",\"sex\":\"FEMALE\"," ++
        "\"createdAt\":\"-0044-03-15T23:59:60.500\"\x7d") := by
  obtain ⟨r, hregisters⟩ :=
    exists_registers_registering "a@b.org" (by decide +kernel) (by decide +kernel)
  obtain ⟨hashed, hhash⟩ : ∃ hashed,
      twinService.hashPassword twinMoment.work r.password = .ok hashed := ⟨_, hashPassword_twin _⟩
  have hcall : .create (.ofRegistration r hashed) ∈
      ((Http.Api.answer twinService twinMoment (registering "a@b.org")).run
        (answering ⟨.ok, .ok createdRecord.render⟩).directory ()).calls := by
    rw [Http.Api.run_registers_of_ok hregisters hhash]
    exact List.mem_singleton.mpr rfl
  have hfree : createdRecord.FloatFree := by
    simp [createdRecord, Json.FloatFree, Json.MembersFloatFree, Json.ItemsFloatFree]
  have hbody : RegisteredUser.ofBytes? createdRecord.render = some createdAccount := by
    rw [RegisteredUser.ofBytes?, Json.Doc.ofBytes?_render hfree]
    exact ofDoc?_createdRecord
  obtain ⟨hstatus, -, hshown⟩ := created_account_shown twinService
    (answering ⟨.ok, .ok createdRecord.render⟩) twinMoment (registering "a@b.org") () _ hcall
  obtain ⟨doc, -, -, hshows⟩ := hshown _ _ _ rfl (by decide) hbody
  refine ⟨_, _, _, hcall, rfl, hstatus.mpr ⟨_, _, _, rfl, by decide, hbody⟩, hshows.read, ?_⟩
  rw [hshows.body_eq]
  decide +kernel

end SignIn

end TokenAuth
