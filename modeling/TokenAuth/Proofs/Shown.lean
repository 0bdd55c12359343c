import TokenAuth.Proofs.JsonValue
import TokenAuth.Proofs.Judged

/-!
# What a bearer is shown

The bearer of an access token is shown the claims that its payload was read as. Those keep every
member of the payload but the registered ones that are null
(`Claims.ReadFrom.canonicalMembers_eq`), so what is shown is the payload without these
(`SignIn.bearer_sees_payload`).
-/

namespace TokenAuth

open Json (canonicalMembers fieldsOf)

/-! ### Registered members -/

namespace Json

/-- What an optional field is read as: nothing where it is absent or null, and else its value. -/
inductive Fields.ReadsAs (fields : Fields) (name : String) : Option Json → Prop
  | absent (h : fields.lookup name = none) : ReadsAs fields name none
  | null (h : fields.lookup name = some .null) : ReadsAs fields name none
  | value {doc : Doc} {value : Json} (h : fields.lookup name = some doc) (hne : value ≠ .null)
      (hvalue : ∀ limit, doc.value? limit = some value) : ReadsAs fields name (some value)

variable {fields : Fields} {name : String}

theorem Fields.readsAs_of_optional? {α : Type} {read? : Doc → Option α} {toJson : α → Json}
    (hvalue : ∀ doc a limit, read? doc = some a → doc.value? limit = some (toJson a))
    (hne : ∀ a, toJson a ≠ .null) {value : Option α}
    (h : fields.optional? name read? = some value) : fields.ReadsAs name (value.map toJson) := by
  rcases Fields.optional?_eq_some_iff.mp h with ⟨rfl, hnone | hnull⟩ | ⟨doc, a, hdoc, -, hread, rfl⟩
  · exact .absent hnone
  · exact .null hnull
  · exact .value hdoc (hne a) fun limit => hvalue doc a limit hread

theorem Fields.ReadsAs.exists_value? {member : Option Json} (h : fields.ReadsAs name member)
    {doc : Doc} (hdoc : fields.lookup name = some doc) (limit : Nat) :
    ∃ value, doc.value? limit = some value := by
  cases h with
  | absent hnone => exact nomatch hnone.symm.trans hdoc
  | null hnull =>
    obtain rfl := Option.some.inj (hnull.symm.trans hdoc)
    exact ⟨.null, rfl⟩
  | value hdoc' _ hvalue =>
    obtain rfl := Option.some.inj (hdoc'.symm.trans hdoc)
    exact ⟨_, hvalue limit⟩

theorem Fields.ReadsAs.eq_some_iff {member : Option Json} (h : fields.ReadsAs name member)
    (limit : Nat) {value : Json} :
    member = some value ↔
      (∃ doc, fields.lookup name = some doc ∧ doc.value? limit = some value) ∧ value ≠ .null := by
  cases h with
  | absent hnone => simp [hnone]
  | null hnull =>
    rw [hnull]
    simp only [reduceCtorEq, false_iff, not_and]
    rintro ⟨_, ⟨⟩, ⟨⟩⟩ hne
    exact hne rfl
  | value hdoc hne hvalue =>
    simp only [hdoc, Option.some.injEq, exists_eq_left', hvalue]
    constructor
    · rintro rfl
      exact ⟨rfl, hne⟩
    · exact fun hsame => hsame.1

theorem Doc.value?_of_string? {doc : Doc} {s : String} (limit : Nat) (h : doc.string? = some s) :
    doc.value? limit = some (.str s) := by
  obtain ⟨raw, rfl, hraw⟩ := Doc.string?_eq_some_iff.mp h
  rw [Doc.value?, hraw]
  rfl

theorem Doc.value?_of_int64? {doc : Doc} {e : Int64} (limit : Nat) (h : doc.int64? = some e) :
    doc.value? limit = some (.int e) := by
  obtain ⟨n, ⟨w, hlower, hupper⟩, rfl, hnumber, he⟩ := Doc.int64?_eq_some_iff.mp h
  obtain rfl : w = e.toInt := Whole.value_eq_of_toInt64? he
  rw [Doc.value?, hnumber]
  rfl

end Json

namespace Claims

/-- Claims keep a member unless it is registered and null. -/
def keeps : String × Json → Bool
  | (name, .null) => !registeredNames.contains name
  | _ => true

theorem keeps_iff {member : String × Json} :
    keeps member = true ↔ member.1 ∈ registeredNames → member.2 ≠ .null := by
  obtain ⟨name, value⟩ := member
  cases value <;> simp [keeps]

namespace ReadFrom

variable {claims : Claims} {fields : Json.Fields} {docs : List (Bytes × Json.Doc)}
variable {members : List (String × Json)} {name : String} {value : Json}

/-- A registered claim is what the field with its name is read as. -/
theorem readsAs (h : ReadFrom fields claims) (hname : name ∈ registeredNames) :
    fields.ReadsAs name (claims.registered.lookup name) := by
  have htext {name : String} {value : Option String}
      (hread : fields.optional? name Json.Doc.string? = some value) :
      fields.ReadsAs name (value.map .str) :=
    Json.Fields.readsAs_of_optional? (fun _ _ limit => Json.Doc.value?_of_string? limit) nofun hread
  have htime {name : String} {value : Option Int64}
      (hread : fields.optional? name Json.Doc.int64? = some value) :
      fields.ReadsAs name (value.map .int) :=
    Json.Fields.readsAs_of_optional? (fun _ _ limit => Json.Doc.value?_of_int64? limit) nofun hread
  simp only [registeredNames, List.mem_cons, List.not_mem_nil, or_false] at hname
  rcases hname with rfl | rfl | rfl | rfl | rfl | rfl | rfl
  · simpa [registered_eq, List.lookup_append, Json.lookup_optionalMember] using htext h.sub
  · simpa [registered_eq, List.lookup_append, Json.lookup_optionalMember] using htime h.exp
  · simpa [registered_eq, List.lookup_append, Json.lookup_optionalMember] using htime h.iat
  · simpa [registered_eq, List.lookup_append, Json.lookup_optionalMember] using htime h.nbf
  · simpa [registered_eq, List.lookup_append, Json.lookup_optionalMember] using htext h.iss
  · simpa [registered_eq, List.lookup_append, Json.lookup_optionalMember] using htext h.aud
  · simpa [registered_eq, List.lookup_append, Json.lookup_optionalMember] using htext h.jti

theorem lookup_of_mem (h : ReadFrom fields claims) (hname : name ∈ registeredNames)
    {doc : Json.Doc} (hmem : (name, doc) ∈ fields) : fields.lookup name = some doc :=
  (Json.Doc.lookup_eq_some_iff_of_count (Json.Doc.distinctFields_iff.mp h.distinct name hname)).mpr
    hmem

/-- **What is read as claims is a value**, as deep as a payload may be. -/
theorem exists_memberValues? (h : ReadFrom fields claims)
    (hfields : Json.Doc.named? docs = some fields) :
    ∃ members, Json.Doc.memberValues? (Json.Doc.maxDepth - 1) docs = some members := by
  have hfield : ∀ field ∈ fields, ∃ member,
      Json.Doc.fieldValue? (Json.Doc.maxDepth - 1) field = some member := by
    rintro ⟨name, doc⟩ hmem
    obtain ⟨value, hvalue⟩ : ∃ value, doc.value? (Json.Doc.maxDepth - 1) = some value := by
      by_cases hname : name ∈ registeredNames
      · exact (h.readsAs hname).exists_value? (h.lookup_of_mem hname hmem) _
      · obtain ⟨entries, hentries, -⟩ := Option.map_eq_some_iff.mp h.extra
        have hother : (name, doc) ∈
            fields.filter fun field => !registeredNames.contains field.1 :=
          List.mem_filter.mpr ⟨hmem, by simpa using hname⟩
        obtain ⟨_, hmember⟩ := Outcome.exists_mapM_iff.mp ⟨entries, hentries⟩ _ hother
        obtain ⟨value, hvalue, -⟩ := Option.map_eq_some_iff.mp hmember
        exact ⟨value, hvalue⟩
    exact ⟨(name, value), Json.Doc.fieldValue?_eq_some_iff.mpr ⟨rfl, hvalue⟩⟩
  obtain ⟨values, hvalues⟩ := Outcome.exists_mapM_iff.mpr hfield
  exact ⟨_, Json.Doc.memberValues?_eq_some_iff.mpr ⟨fields, values, hfields, hvalues, rfl⟩⟩

/-! ### Members kept -/

section Members

variable (h : ReadFrom fields claims) (hfields : Json.Doc.named? docs = some fields)
variable (hmembers : Json.Doc.memberValues? (Json.Doc.maxDepth - 1) docs = some members)

include h hfields hmembers

theorem lookup_registered_iff (hname : name ∈ registeredNames) :
    claims.registered.lookup name = some value ↔
      members.lookup name = some value ∧ value ≠ .null := by
  rw [Json.lookup_memberValues?_of_count hfields
    (Json.Doc.distinctFields_iff.mp h.distinct name hname) hmembers]
  exact (h.readsAs hname).eq_some_iff _

theorem entries_extra :
    claims.extra.entries = members.filter fun member => !registeredNames.contains member.1 := by
  obtain ⟨fields', values, hfields', hvalues, rfl⟩ := Json.Doc.memberValues?_eq_some_iff.mp hmembers
  obtain rfl := Option.some.inj (hfields'.symm.trans hfields)
  have hothers := Outcome.mapM_filter (p := fun field => !registeredNames.contains field.1)
    (q := fun member => !registeredNames.contains member.1)
    (fun field member hmember => by rw [(Json.Doc.fieldValue?_eq_some_iff.mp hmember).1]) hvalues
  have hextra := h.extra
  change (List.mapM (Json.Doc.fieldValue? (Json.Doc.maxDepth - 1)) _).map _ = _ at hextra
  rw [hothers, Option.map_some, Option.some.injEq] at hextra
  rw [← hextra]
  exact Json.canonicalMembers_filter (fun name => !registeredNames.contains name) values

/-- **Claims keep the members of their payload** but the registered ones that are null. -/
theorem mem_toJson_iff {member : String × Json} :
    member ∈ claims.registered ++ claims.extra.entries ↔ member ∈ members.filter keeps := by
  obtain ⟨name, value⟩ := member
  rw [List.mem_append, List.mem_filter, keeps_iff, h.entries_extra hfields hmembers,
    List.mem_filter]
  by_cases hname : name ∈ registeredNames
  · have hcount := List.nodup_iff_count.mp claims.nodup_registered name
    have hcount' := List.nodup_iff_count.mp
      (Json.keysIncrease_memberValues? hmembers).nodup_keys name
    rw [← Json.Doc.lookup_eq_some_iff_of_count hcount,
      ← Json.Doc.lookup_eq_some_iff_of_count hcount',
      h.lookup_registered_iff hfields hmembers hname]
    simp [hname]
  · have hnone : (name, value) ∉ claims.registered := fun hmem =>
      hname (claims.keys_registered_sublist.subset (List.mem_map_of_mem hmem))
    simp [hname, hnone]

theorem readable (hfree : Json.MembersFloatFree members) : claims.Readable where
  disjoint := by
    refine disjoint_of_keys fun name hname hmem => ?_
    obtain ⟨member, hmember, rfl⟩ := List.mem_map.mp hmem
    rw [h.entries_extra hfields hmembers, List.mem_filter] at hmember
    simp [hname] at hmember
  floatFree := by
    rw [h.entries_extra hfields hmembers, Json.membersFloatFree_iff_forall]
    exact fun member hmember =>
      Json.membersFloatFree_iff_forall.mp hfree member (List.mem_filter.mp hmember).1
  depth_le := by
    rw [h.entries_extra hfields hmembers, Json.membersDepth_le_iff]
    intro member hmember
    have hkept := (List.mem_filter.mp hmember).1
    exact (Json.Doc.settled_of_memberValues? docs hmembers member hkept).depth_le

theorem perm_members (hdisjoint : claims.Disjoint) :
    (claims.registered ++ claims.extra.entries).Perm (members.filter keeps) := by
  have hkeys := (Json.keysIncrease_memberValues? hmembers).filter keeps
  have hnodup {members : List (String × Json)} (hkeys : (members.map Prod.fst).Nodup) :
      members.Nodup :=
    List.Pairwise.of_map Prod.fst (fun _ _ => mt (congrArg Prod.fst)) hkeys
  exact (List.perm_ext_iff_of_nodup (hnodup (nodup_keys_toJson hdisjoint))
    (hnodup hkeys.nodup_keys)).mpr fun member => h.mem_toJson_iff hfields hmembers

theorem canonicalMembers_eq (hdisjoint : claims.Disjoint) :
    canonicalMembers (claims.registered ++ claims.extra.entries) = members.filter keeps := by
  have hkeys : Json.KeysIncrease (members.filter keeps) :=
    (Json.keysIncrease_memberValues? hmembers).filter _
  have hvalues : ∀ member ∈ members.filter keeps, member.2.canonical = member.2 := by
    intro member hmember
    have hread := (List.mem_filter.mp hmember).1
    exact (Json.Doc.settled_of_memberValues? docs hmembers member hread).canonical_eq
  calc canonicalMembers (claims.registered ++ claims.extra.entries)
    _ = canonicalMembers (members.filter keeps) := Json.canonicalMembers_of_perm
      (h.perm_members hfields hmembers hdisjoint) hkeys.nodup_keys hvalues
    _ = members.filter keeps := Json.canonicalMembers_of_keysIncrease hkeys hvalues

end Members

end ReadFrom

/-! ### Claims written and read -/

variable {claims : Claims}

theorem Readable.ofBytes?_render (h : claims.Readable) {payload : Json}
    (hpayload : claims.IsPayload payload) : ofBytes? payload.render = some claims := by
  rw [ofBytes?, Json.Doc.ofBytes?_render (hpayload.floatFree h.floatFree), Option.bind_some]
  exact hpayload.ofDoc?_doc h

end Claims

/-! ### Bearers between spaces -/

namespace Http

/-- A request for the caller's claims, with a text between spaces as its bearer. -/
structure Request.BearsSpaced (request : Request) (token : String) : Prop where
  endpoint_eq : request.endpoint? = some .me
  method_eq : request.method = "GET"
  header_eq : ∃ before after : String, (∀ c ∈ before.toList, c = ' ') ∧
    (∀ c ∈ after.toList, c = ' ') ∧
    request.header? "authorization" = some (utf8 ("Bearer " ++ (before ++ token ++ after)))

theorem eq_space_of_mem_utf8 {spaces : String} (h : ∀ c ∈ spaces.toList, c = ' ') :
    ∀ b ∈ utf8 spaces, b = 0x20 := by
  intro b hb
  rw [← String.ofList_toList (s := spaces), utf8_ofList, List.mem_flatMap] at hb
  obtain ⟨c, hc, hb⟩ := hb
  rw [h c hc] at hb
  have hspace : String.utf8EncodeChar ' ' = [0x20] := by decide
  rw [hspace] at hb
  exact List.mem_singleton.mp hb

theorem Request.BearsSpaced.bearerToken {request : Request} {token : String}
    (h : request.BearsSpaced token) (hvisible : ∀ b ∈ utf8 token, 0x20 < b.toNat ∧ b.toNat < 0x7F)
    (hne : utf8 token ≠ []) : request.bearerToken = .ok token := by
  obtain ⟨before, after, hbefore, hafter, hheader⟩ := h.header_eq
  have hblank {spaces : String} (hspaces : ∀ c ∈ spaces.toList, c = ' ') :
      ∀ c ∈ spaces.toList, isBlank c = true := fun c hc => hspaces c hc ▸ rfl
  refine bearerToken_of_printable hheader (fun b hb => ?_)
    (Text.trim_between (hblank hbefore) (hblank hafter) hvisible) ?_
  · rw [utf8_append, utf8_append, List.mem_append, List.mem_append] at hb
    rcases hb with (hb | hb) | hb
    · rw [eq_space_of_mem_utf8 hbefore b hb]
      decide
    · exact ⟨Nat.le_of_lt (hvisible b hb).1, (hvisible b hb).2⟩
    · rw [eq_space_of_mem_utf8 hafter b hb]
      decide
  · rintro rfl
    exact hne rfl

end Http

namespace SignIn

variable {service : SignIn} {m : Moment} {token : String} {claims : Claims}

theorem answer_bearsSpaced (h : service.keys.parseAccessToken m.now.seconds token = .ok claims)
    {request : Http.Request} (hbears : request.BearsSpaced token) :
    Http.Api.answer service m request =
      .done (Http.Response.json .ok (claims.payload m.accessDraw.order)).shared := by
  obtain ⟨hsigned, hclaims⟩ := SigningKeys.signed_of_parseAccessToken h
  have hbearer := hbears.bearerToken (Token.visible_of_signed hsigned hclaims)
    (Token.utf8_ne_nil_of_signed hsigned)
  apply Http.Api.answer_me_of_ok hbears.endpoint_eq hbears.method_eq
  rw [Http.Request.bearerClaims_of_bearerToken hbearer, h, Outcome.mapError_ok]

/-- **The bearer of an access token is shown its payload and nothing else.** The payload is an
object, of whose members with one name the last counts. If it has no floats, what is shown has its
members but the registered ones that are null, which the expiry never is. What is shown is read back
as the claims that were verified, and these are read back however they are written. -/
theorem bearer_sees_payload (service : SignIn) (m : Moment) (token : String) (claims : Claims)
    (h : service.keys.parseAccessToken m.now.seconds token = .ok claims) :
    ∃ docs members, Token.payloadDoc? token = some (.object docs) ∧
      Token.payload? token = some (.obj members) ∧
      (∀ name value, members.lookup name = some value ↔
        Json.LastMember (Json.Doc.maxDepth - 1) docs name value) ∧
      (∃ e, members.lookup "exp" = some (.int e)) ∧
      (Json.MembersFloatFree members →
        (∀ request : Http.Request, request.BearsSpaced token → ∃ response order,
          Http.Api.answer service m request = .done response ∧ response.status = .ok ∧
            response.body = (Json.obj order).render ∧ order.Perm (members.filter Claims.keeps) ∧
            Json.ofBytes? response.body = some (.obj (members.filter Claims.keeps)) ∧
            Claims.ofBytes? response.body = some claims) ∧
        ∀ payload, claims.IsPayload payload → Claims.ofBytes? payload.render = some claims) := by
  have hread := Token.Handler.decode_eq_ok_iff.mp (SigningKeys.parseAccessToken_eq_ok_iff.mp h).1
  obtain ⟨-, hclaims, ⟨e, hexp, -⟩, -⟩ := hread
  obtain ⟨doc, hdoc, hof⟩ := Option.bind_eq_some_iff.mp hclaims
  obtain ⟨docs, fields, rfl, hfields, hfrom⟩ := Claims.ofDoc?_eq_some_iff.mp hof
  obtain ⟨members, hmembers⟩ := hfrom.exists_memberValues? hfields
  have hexpiry : claims.registered.lookup "exp" = some (.int e) := by
    simp [Claims.registered_eq, List.lookup_append, Json.lookup_optionalMember, hexp]
  refine ⟨docs, members, hdoc, ?_, ?_, ⟨e, ?_⟩, fun hfree => ⟨fun request hbears => ?_, ?_⟩⟩
  · rw [Token.payload?, hdoc, Option.bind_some]
    exact congrArg (Option.map Json.obj) hmembers
  · exact fun name value => Json.lookup_memberValues?_eq_some_iff hmembers
  · exact ((hfrom.lookup_registered_iff hfields hmembers (by decide)).mp hexpiry).1
  · have hreadable := hfrom.readable hfields hmembers hfree
    have hpayload := claims.isPayload_payload m.accessDraw.order
    refine ⟨_, _, answer_bearsSpaced h hbears, rfl, rfl,
      ((List.Perm.refl _).append (m.accessDraw.order.perm claims.extra)).trans
        (hfrom.perm_members hfields hmembers hreadable.disjoint), ?_,
      hreadable.ofBytes?_render hpayload⟩
    refine (hreadable.ofBytes?_payload hpayload).trans ?_
    rw [Claims.toJson, Claims.payload, Json.canonical]
    exact congrArg (some ∘ Json.obj)
      (hfrom.canonicalMembers_eq hfields hmembers hreadable.disjoint)
  · exact fun payload hpayload =>
      (hfrom.readable hfields hmembers hfree).ofBytes?_render hpayload

/-! ### A payload with nulls and a member given twice -/

def sparseMembers : List (String × Json) :=
  [("zone", .str "first"), ("sub", .null), ("exp", .int 1700000900), ("aud", .null),
    ("note", .null), ("zone", .arr [.null, .obj [("Größe", .int (-1))]])]

def sparseClaims : Claims :=
  { Claims.empty with
    exp := some 1700000900
    extra := .ofList [("zone", .str "first"), ("note", .null),
      ("zone", .arr [.null, .obj [("Größe", .int (-1))]])] }

def sparseToken : String := twinService.keys.accessHandler.encode (.obj sparseMembers)

theorem readFrom_sparseMembers : Claims.ReadFrom (fieldsOf sparseMembers) sparseClaims where
  distinct := by
    rw [Json.Doc.distinctFields_iff, Json.map_fst_fieldsOf]
    decide
  sub := Json.Fields.optional?_eq_some_iff.mpr (.inl ⟨rfl, .inr rfl⟩)
  exp := by
    have hexp : sparseMembers.lookup "exp" = (some 1700000900).map Json.int := rfl
    exact Json.optional?_fieldsOf hexp (fun _ => by simp [Json.int, Json.doc]) Json.int64?_doc_int
  iat := rfl
  nbf := rfl
  iss := rfl
  aud := Json.Fields.optional?_eq_some_iff.mpr (.inl ⟨rfl, .inr rfl⟩)
  jti := rfl
  extra := by
    have hothers : ((fieldsOf sparseMembers).filter
          fun field => !Claims.registeredNames.contains field.1) =
        fieldsOf (sparseMembers.filter fun member =>
          !Claims.registeredNames.contains member.1) := rfl
    rw [hothers, Claims.mapM_value?_fieldsOf]
    · rfl
    · simp [sparseMembers, Claims.registeredNames, Json.canonical, Json.canonicalItems,
        Json.canonicalMembers, Json.addMissing, Json.int]
    · simp [sparseMembers, Claims.registeredNames, Json.MembersFloatFree, Json.FloatFree,
        Json.ItemsFloatFree, Json.int]
    · simp [sparseMembers, Claims.registeredNames, Json.membersDepth, Json.depth,
        Json.itemsDepth, Json.int, Json.Doc.maxDepth]

theorem parse_sparseToken :
    twinService.keys.parseAccessToken twinMoment.now.seconds sparseToken = .ok sparseClaims := by
  have hfree : (Json.obj sparseMembers).FloatFree := by
    simp [sparseMembers, Json.FloatFree, Json.MembersFloatFree, Json.ItemsFloatFree, Json.int]
  have hclaims : Token.claims? sparseToken = some sparseClaims := by
    rw [Token.claims?, sparseToken, Token.Handler.payloadDoc?_encode _ hfree, Option.bind_some]
    exact Claims.ofDoc?_eq_some_iff.mpr
      ⟨_, _, rfl, Json.named?_memberDocs sparseMembers, readFrom_sparseMembers⟩
  have hsigned := Token.Handler.signed_encode twinService.keys.accessHandler (.obj sparseMembers)
  refine SigningKeys.parseAccessToken_eq_ok_iff.mpr
    ⟨Token.Handler.decode_eq_ok_iff.mpr ⟨hsigned, hclaims, ?_, ?_, ?_⟩, ?_⟩
  · exact ⟨1700000900, rfl, by decide, by decide⟩
  · exact fun _ _ => .inl rfl
  · exact fun _ _ => .inl rfl
  · have hextra : sparseClaims.extra.get? SigningKeys.typeClaim = none := by
      simp only [sparseClaims, Json.Members.get?, Json.Members.ofList, Json.canonicalMembers,
        Json.canonical, Json.addMissing, String.reduceLT, String.reduceEq, if_true, if_false]
      rfl
    rw [SigningKeys.isRefresh, Claims.extraText?, hextra]
    rfl

theorem payload?_sparseToken : Token.payload? sparseToken = some (.obj [("aud", .null),
    ("exp", .int 1700000900), ("note", .null), ("sub", .null),
    ("zone", .arr [.null, .obj [("Größe", .int (-1))]])]) := by
  rw [sparseToken, Token.Handler.payload?_encode]
  · simp only [sparseMembers, Json.canonical, Json.canonicalMembers, Json.canonicalItems,
      Json.addMissing, Json.int, String.reduceLT, String.reduceEq, if_true, if_false]
  · simp [sparseMembers, Json.FloatFree, Json.MembersFloatFree, Json.ItemsFloatFree, Json.int]
  · simp [sparseMembers, Json.membersDepth, Json.depth, Json.itemsDepth, Json.int,
      Json.Doc.maxDepth]

/-- Its bearer is shown a custom null, and of a member given twice the last. -/
theorem sparse_bearer_sees_payload :
    twinService.keys.parseAccessToken twinMoment.now.seconds sparseToken = .ok sparseClaims ∧
      ∃ response, Http.Api.answer twinService twinMoment
          (bearing ("  " ++ sparseToken ++ " ")) = .done response ∧ response.status = .ok ∧
        Json.ofBytes? response.body = some (.obj [("exp", .int 1700000900), ("note", .null),
          ("zone", .arr [.null, .obj [("Größe", .int (-1))]])]) ∧
        Claims.ofBytes? response.body = some sparseClaims := by
  obtain ⟨docs, members, -, hpayload, -, -, hshown⟩ :=
    bearer_sees_payload twinService twinMoment sparseToken sparseClaims parse_sparseToken
  obtain rfl : _ = members :=
    Json.obj.inj (Option.some.inj (payload?_sparseToken.symm.trans hpayload))
  have hfree : Json.MembersFloatFree [("aud", .null), ("exp", .int 1700000900), ("note", .null),
      ("sub", .null), ("zone", .arr [.null, .obj [("Größe", .int (-1))]])] := by
    simp [Json.MembersFloatFree, Json.FloatFree, Json.ItemsFloatFree, Json.int]
  have hbears : (bearing ("  " ++ sparseToken ++ " ")).BearsSpaced sparseToken :=
    ⟨endpoint?_bearing, rfl, "  ", " ", by simp, by simp, rfl⟩
  obtain ⟨response, order, hanswer, hstatus, -, -, hbody, hclaims⟩ := (hshown hfree).1 _ hbears
  exact ⟨parse_sparseToken, response, hanswer, hstatus, hbody, hclaims⟩

end SignIn

end TokenAuth
