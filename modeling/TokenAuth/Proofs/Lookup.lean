import TokenAuth.Directory.Exchange
import TokenAuth.Proofs.AccountRecord
import TokenAuth.Proofs.Presented

/-!
# Looking up an account

What the reply of the web service means to a lookup and to the login that asked for it. Main
statement: `lookup_fails_closed`. Only a record that is read from start to end, and whose mark is
not `false`, signs anyone in.
-/

namespace TokenAuth

open Json.Doc (Gives LeavesOut)

namespace Directory.Outcome

variable {status : Http.Status} {body : Bytes} {c : Credentials}

/-- A body of nothing but blanks of ASCII. -/
def Blank (body : Bytes) : Prop := ∀ b ∈ body, b ∈ [0x20, 0x09, 0x0A, 0x0C, 0x0D]

instance : Decidable (Blank body) := inferInstanceAs (Decidable (∀ b ∈ body, _))

theorem all_isAsciiBlank_iff : body.all isAsciiBlank = true ↔ Blank body := by
  simp [Blank, isAsciiBlank, or_assoc]

/-- A form feed is a blank of a body and starts no value. -/
theorem ofBytes?_of_blank (h : Blank body) : Json.Doc.ofBytes? body = none := by
  refine Json.Doc.ofBytes?_eq_none fun b rest hrest => ?_
  have hmem : b ∈ body := (List.dropWhile_sublist _).subset (hrest ▸ List.mem_cons_self)
  have hgap : Json.isGap b = false := by
    simpa [hrest] using List.head?_dropWhile_not Json.isGap body
  have hblank := h b hmem
  simp only [List.mem_cons, List.not_mem_nil, or_false] at hblank
  rcases hblank with rfl | rfl | rfl | rfl | rfl
  · exact absurd hgap (by decide)
  · exact absurd hgap (by decide)
  · exact absurd hgap (by decide)
  · exact ⟨by decide, by decide⟩
  · exact absurd hgap (by decide)

theorem readFind_reply (status : Http.Status) (body : Bytes) :
    readFind (.ok ⟨status, .ok body⟩) =
      if status.code = 404 then .ok none
      else if 200 ≤ status.code ∧ status.code < 300 then
        if Blank body then .ok none
        else
          match Credentials.ofBytes? body with
          | some found => .ok found
          | none => .error (.unreadable "no credentials record")
      else .error (.status status.code body) := by
  have habsent : status = .notFound ↔ status.code = 404 := by
    obtain ⟨code, lower, upper⟩ := status
    simp [Http.Status.notFound]
  have hsuccess : status.isSuccess = true ↔ 200 ≤ status.code ∧ status.code < 300 := by
    simp [Http.Status.isSuccess]
  by_cases h404 : status.code = 404
  · simp [readFind, habsent, h404]
  · by_cases h2xx : 200 ≤ status.code ∧ status.code < 300
    · simp only [readFind, habsent, h404, if_false, Reply.successBody, hsuccess.mpr h2xx, if_true,
        all_isAsciiBlank_iff, h2xx, and_self]
      rfl
    · simp only [readFind, habsent, h404, if_false, Reply.successBody, hsuccess, h2xx]
      rfl

theorem readFind_eq_ok_iff {found : Option Credentials} :
    readFind (.ok ⟨status, .ok body⟩) = .ok found ↔
      status.code = 404 ∧ found = none ∨
        (200 ≤ status.code ∧ status.code < 300) ∧
          (Blank body ∧ found = none ∨ Credentials.ofBytes? body = some found) := by
  rw [readFind_reply]
  by_cases h404 : status.code = 404
  · simp [h404, eq_comm]
  · by_cases h2xx : 200 ≤ status.code ∧ status.code < 300
    · by_cases hblank : Blank body
      · have hnone : Credentials.ofBytes? body = none := by
          rw [Credentials.ofBytes?, ofBytes?_of_blank hblank]
          rfl
        simp [h404, h2xx, hblank, hnone, eq_comm]
      · cases hread : Credentials.ofBytes? body <;> simp [h404, h2xx, hblank]
    · simp [h404, h2xx]

theorem readFind_eq_some_iff :
    readFind (.ok ⟨status, .ok body⟩) = .ok (some c) ↔
      (200 ≤ status.code ∧ status.code < 300) ∧
        ∃ doc, Json.Doc.ofBytes? body = some doc ∧ Credentials.RecordedIn doc c := by
  simp [readFind_eq_ok_iff, Credentials.ofBytes?_eq_some_some_iff]

theorem readFind_eq_error_iff {fault : Fault} :
    readFind (.ok ⟨status, .ok body⟩) = .error fault ↔
      status.code ≠ 404 ∧ ¬ (200 ≤ status.code ∧ status.code < 300) ∧
          fault = .status status.code body ∨
        (200 ≤ status.code ∧ status.code < 300) ∧ ¬ Blank body ∧
          Credentials.ofBytes? body = none ∧ fault = .unreadable "no credentials record" := by
  rw [readFind_reply]
  by_cases h404 : status.code = 404
  · simp [h404]
  · by_cases h2xx : 200 ≤ status.code ∧ status.code < 300
    · by_cases hblank : Blank body
      · simp [h404, h2xx, hblank]
      · cases hread : Credentials.ofBytes? body <;> simp [h404, h2xx, hblank, eq_comm]
    · simp [h404, h2xx, eq_comm]

end Directory.Outcome

namespace SignIn

open Directory Directory.Outcome Credentials

/-- **A lookup fails closed.** What a reply of any status with any body means to a lookup, and to
the login that asked: tokens are given for a record that has an id and no mark `false`. -/
theorem lookup_fails_closed {σ : Type} (web : WebService σ) (s : σ) (email : String)
    (status : Http.Status) (body : Bytes)
    (hreply : (web.exchange (.find email) s).1 = .ok ⟨status, .ok body⟩) :
    let found := (web.directory.find email s).1
    let success := 200 ≤ status.code ∧ status.code < 300
    (found = .ok none ↔
      status.code = 404 ∨ success ∧ (Blank body ∨ Json.Doc.ofBytes? body = some .null)) ∧
    (∀ code bytes, found = .error (.status code bytes) ↔
      ¬ success ∧ status.code ≠ 404 ∧ code = status.code ∧ bytes = body) ∧
    (∀ c, found = .ok (some c) ↔
      success ∧ ∃ doc, Json.Doc.ofBytes? body = some doc ∧ RecordedIn doc c) ∧
    ((∃ reason, found = .error (.unreadable reason)) ↔
      success ∧ ¬ Blank body ∧ Unreadable body) ∧
    (∀ reason, found ≠ .error (.unavailable reason)) ∧
    (∀ c doc, found = .ok (some c) → Json.Doc.ofBytes? body = some doc →
      (c.enabled = false ↔ Gives fieldNames "enabled" doc (.bool false)) ∧
      (c.externalId = none → LeavesOut fieldNames "externalId" doc) ∧
      ∀ role, role ∈ c.roles.toList ↔ ∃ items, Gives fieldNames "roles" doc (.array items) ∧
        ∃ item ∈ items, role.NamedBy item) ∧
    ∀ (service : SignIn) (m : Moment) (password : String),
      (∃ tokens, ((service.login m email password).run web.directory s).result = .ok tokens) ↔
        success ∧ ∃ doc c id, Json.Doc.ofBytes? body = some doc ∧ RecordedIn doc c ∧
          ¬ Gives fieldNames "enabled" doc (.bool false) ∧ c.externalId = some id ∧
          m.work.loss = none ∧ Password.verify password c.passwordHash = .ok true ∧
          (∃ expiry, m.later.add? service.keys.accessTtl = some expiry) ∧
          ∃ expiry, m.now.add? service.keys.refreshTtl = some expiry := by
  have hfound : (web.directory.find email s).1 = readFind (.ok ⟨status, .ok body⟩) := by
    rw [← hreply]
    rfl
  have hsome (c : Credentials) : (web.directory.find email s).1 = .ok (some c) ↔
      (200 ≤ status.code ∧ status.code < 300) ∧
        ∃ doc, Json.Doc.ofBytes? body = some doc ∧ RecordedIn doc c := by
    rw [hfound, readFind_eq_some_iff]
  refine ⟨?_, fun code bytes => ?_, hsome, ?_, fun reason => ?_, fun c doc hc hdoc => ?_,
    fun service m password => ?_⟩
  · simp [hfound, readFind_eq_ok_iff, ofBytes?_eq_some_none_iff]
  · simp only [hfound, readFind_eq_error_iff]
    grind
  · simp [hfound, readFind_eq_error_iff, ofBytes?_eq_none_iff]
  · simp [hfound, readFind_eq_error_iff]
  · obtain ⟨-, doc', hdoc', hrecorded⟩ := (hsome c).mp hc
    obtain rfl := Option.some.inj (hdoc.symm.trans hdoc')
    exact ⟨hrecorded.enabled_eq_false_iff, hrecorded.leavesOut_externalId,
      fun role => hrecorded.mem_roles_iff⟩
  · rw [run_login, exists_finishLogin_iff]
    constructor
    · rintro ⟨c, id, hc, henabled, hid, hloss, hverify, haccess, hrefresh⟩
      obtain ⟨hsuccess, doc, hdoc, hrecorded⟩ := (hsome c).mp hc
      refine ⟨hsuccess, doc, c, id, hdoc, hrecorded, fun hfalse => ?_, hid, hloss, hverify,
        haccess, hrefresh⟩
      rw [hrecorded.enabled_eq_false_iff.mpr hfalse] at henabled
      exact nomatch henabled
    · rintro ⟨hsuccess, doc, c, id, hdoc, hrecorded, hmark, hid, hloss, hverify, haccess, hrefresh⟩
      refine ⟨c, id, (hsome c).mpr ⟨hsuccess, doc, hdoc, hrecorded⟩, ?_, hid, hloss, hverify,
        haccess, hrefresh⟩
      rwa [← hrecorded.enabled_eq_false_iff, Bool.not_eq_false] at hmark

/-- A record with members in an order of their own, one of them unknown, and no id. -/
def disabledRecord : Json :=
  .obj [("id", .int 7), ("roles", .arr [.str "ADMIN"]), ("password", .str "hash"),
    ("enabled", .bool false), ("email", .str "a@b.org")]

theorem recordFields?_disabledRecord :
    disabledRecord.doc.recordFields? fieldNames = some (Json.fieldsOf
      [("roles", .arr [.str "ADMIN"]), ("password", .str "hash"), ("enabled", .bool false),
        ("email", .str "a@b.org")]) := by
  rw [disabledRecord, Json.doc, Json.Doc.recordFields?_object, Json.named?_memberDocs,
    Option.bind_some]
  rfl

theorem recordedIn_disabledRecord :
    RecordedIn disabledRecord.doc ⟨none, "a@b.org", "hash", false, ⟨false, true⟩⟩ := by
  have hmark : (Json.bool false).doc.optional? Json.Doc.bool? = some (some false) := rfl
  have hroles : (Json.arr [.str "ADMIN"]).doc.optional? Roles.ofDoc? =
      some (some ⟨false, true⟩) := by
    have hitem : Role.ofDoc? (Json.str "ADMIN").doc = some .admin :=
      Role.ofDoc?_eq_some_iff.mpr (.text (Json.textOf?_escape "ADMIN"))
    simp only [Json.doc, Json.itemDocs, Json.Doc.optional?, Roles.ofDoc?, Json.Doc.items?,
      List.mapM_cons, List.mapM_nil] at hitem ⊢
    rw [hitem]
    rfl
  rw [← ofDoc?_eq_some_iff, ofDoc?, recordFields?_disabledRecord]
  simp [Json.Fields.required?, Json.Fields.optional?, Json.lookup_fieldsOf, List.lookup_cons,
    Json.string?_doc_str, hmark, hroles]

/-- A web service that gives one reply to every post. -/
def answering (reply : Reply) : WebService Unit := ⟨fun _ s => (.ok reply, s)⟩

theorem disabled_record_signs_in_nobody :
    ((answering ⟨.ok, .ok disabledRecord.render⟩).exchange (.find "a@b.org") ()).1 =
        .ok ⟨.ok, .ok disabledRecord.render⟩ ∧
      ((answering ⟨.ok, .ok disabledRecord.render⟩).directory.find "a@b.org" ()).1 =
        .ok (some ⟨none, "a@b.org", "hash", false, ⟨false, true⟩⟩) ∧
      ¬ ∃ tokens, ((twinService.login twinMoment "a@b.org" "Secret123!").run
        (answering ⟨.ok, .ok disabledRecord.render⟩).directory ()).result = .ok tokens := by
  have hdoc : Json.Doc.ofBytes? disabledRecord.render = some disabledRecord.doc :=
    Json.Doc.ofBytes?_render ⟨trivial, ⟨trivial, trivial⟩, trivial, trivial, trivial, trivial⟩
  obtain ⟨-, -, hsome, -, -, hread, hlogin⟩ := lookup_fails_closed
    (answering ⟨.ok, .ok disabledRecord.render⟩) () "a@b.org" .ok disabledRecord.render rfl
  have hfound := (hsome _).mpr
    ⟨by decide, disabledRecord.doc, hdoc, recordedIn_disabledRecord⟩
  have hmark := (hread _ _ hfound hdoc).1.mp rfl
  refine ⟨rfl, hfound, fun htokens => ?_⟩
  obtain ⟨-, doc, c, id, hdoc', -, hunmarked, -⟩ := (hlogin _ _ _).mp htokens
  obtain rfl := Option.some.inj (hdoc.symm.trans hdoc')
  exact hunmarked hmark

end SignIn

end TokenAuth
