import TokenAuth.Proofs.Fields
import TokenAuth.Proofs.MemberOrder
import TokenAuth.Token.Claims
import TokenAuth.Token.Standing

/-!
# What a payload is read as

A payload is read twice: as claims, and as the few claims that decide whether it is accepted. Main
statements: claims that were written read back (`IsPayload.ofDoc?_doc`), and the two readings of one payload
agree on its expiry, its issuer and its audience (`Standing.exists_ofDoc?_of_claims`).
-/

namespace TokenAuth

open Json (optionalMember fieldsOf)

namespace Claims

/-- What the fields of a payload must be to be read as some claims. -/
structure ReadFrom (fields : Json.Fields) (claims : Claims) : Prop where
  distinct : Json.Doc.distinctFields registeredNames fields = true
  sub : fields.optional? "sub" Json.Doc.string? = some claims.sub
  exp : fields.optional? "exp" Json.Doc.int64? = some claims.exp
  iat : fields.optional? "iat" Json.Doc.int64? = some claims.iat
  nbf : fields.optional? "nbf" Json.Doc.int64? = some claims.nbf
  iss : fields.optional? "iss" Json.Doc.string? = some claims.iss
  aud : fields.optional? "aud" Json.Doc.string? = some claims.aud
  jti : fields.optional? "jti" Json.Doc.string? = some claims.jti
  extra : ((fields.filter fun (field : String × Json.Doc) => !registeredNames.contains field.1).mapM
      fun (field : String × Json.Doc) =>
        (field.2.value? (Json.Doc.maxDepth - 1)).map fun value => (field.1, value)).map
    Json.Members.ofList = some claims.extra

theorem ofDoc?_eq_some_iff {doc : Json.Doc} {claims : Claims} :
    ofDoc? doc = some claims ↔ ∃ members fields, doc = .object members ∧
      Json.Doc.named? members = some fields ∧ ReadFrom fields claims := by
  obtain ⟨sub, exp, iat, nbf, iss, aud, jti, extra⟩ := claims
  constructor
  · intro h
    cases doc with
    | object members =>
      simp only [ofDoc?, Option.bind_eq_bind, Option.bind_eq_some_iff, Option.pure_def] at h
      obtain ⟨fields, hfields, h⟩ := h
      split at h
      · next hdistinct =>
        simp only [Option.bind_eq_some_iff, Option.some.injEq, Claims.mk.injEq] at h
        obtain ⟨_, hsub, _, hexp, _, hiat, _, hnbf, _, hiss, _, haud, _, hjti, _, hextra,
          rfl, rfl, rfl, rfl, rfl, rfl, rfl, rfl⟩ := h
        exact ⟨members, fields, rfl, hfields, hdistinct, hsub, hexp, hiat, hnbf, hiss, haud, hjti,
          by rw [hextra]; rfl⟩
      · simp at h
    | _ => simp [ofDoc?] at h
  · rintro ⟨members, fields, rfl, hfields, h⟩
    obtain ⟨entries, hentries, hextra⟩ := Option.map_eq_some_iff.mp h.extra
    simp only [ofDoc?, hfields, h.distinct, h.sub, h.exp, h.iat, h.nbf, h.iss, h.aud, h.jti,
      hentries, Option.bind_eq_bind, Option.bind_some, if_true, Option.pure_def, hextra]

/-! ### Claims read back -/

theorem registered_eq (claims : Claims) :
    claims.registered = optionalMember "sub" .str claims.sub ++ optionalMember "exp" .int claims.exp ++
      optionalMember "iat" .int claims.iat ++ optionalMember "nbf" .int claims.nbf ++
      optionalMember "iss" .str claims.iss ++ optionalMember "aud" .str claims.aud ++
      optionalMember "jti" .str claims.jti :=
  rfl

/-- The registered claims of a payload, each at most once and in their fixed order. -/
theorem keys_registered_sublist (claims : Claims) :
    (claims.registered.map Prod.fst).Sublist registeredNames := by
  have hmember {α : Type} (name : String) (toJson : α → Json) (value : Option α) :
      ((optionalMember name toJson value).map Prod.fst).Sublist [name] := by
    cases value <;> simp [optionalMember]
  simp only [registered_eq, List.map_append]
  exact (((((((hmember _ _ _).append (hmember _ _ _)).append (hmember _ _ _)).append
    (hmember _ _ _)).append (hmember _ _ _)).append (hmember _ _ _)).append (hmember _ _ _))

theorem nodup_registered (claims : Claims) : (claims.registered.map Prod.fst).Nodup := by
  have hnames : registeredNames.Nodup := by decide
  exact hnames.sublist claims.keys_registered_sublist

theorem canonical_of_mem_registered (claims : Claims) :
    ∀ member ∈ claims.registered, member.2.canonical = member.2 := by
  have hoptional {α : Type} {name : String} {toJson : α → Json}
      (htoJson : ∀ a, (toJson a).canonical = toJson a) (value : Option α) :
      ∀ member ∈ optionalMember name toJson value, member.2.canonical = member.2 := by
    intro member hmember
    obtain ⟨a, -, rfl⟩ := Option.map_eq_some_iff.mp (Option.mem_toList.mp hmember)
    exact htoJson a
  have htext {name : String} (value : Option String) :
      ∀ member ∈ optionalMember name Json.str value, member.2.canonical = member.2 :=
    hoptional (fun _ => rfl) value
  have htime {name : String} (value : Option Int64) :
      ∀ member ∈ optionalMember name Json.int value, member.2.canonical = member.2 :=
    hoptional (fun _ => rfl) value
  rw [registered_eq]
  simp only [List.forall_mem_append]
  exact ⟨⟨⟨⟨⟨⟨htext _, htime _⟩, htime _⟩, htime _⟩, htext _⟩, htext _⟩, htext _⟩

/-- Claims whose payload reads back: no name stands twice, there are no floats, and the values do
not nest too deeply. -/
structure Readable (claims : Claims) : Prop where
  disjoint : claims.Disjoint
  floatFree : Json.MembersFloatFree claims.extra.entries
  depth_le : Json.membersDepth claims.extra.entries ≤ Json.Doc.maxDepth - 1

theorem disjoint_of_keys {claims : Claims}
    (h : ∀ name ∈ registeredNames, name ∉ claims.extra.entries.map Prod.fst) : claims.Disjoint := by
  intro name hname
  rw [Json.Members.get?, List.lookup_eq_none_iff]
  intro member hmember
  refine bne_iff_ne.mpr fun heq => h name hname ?_
  rw [heq]
  exact List.mem_map_of_mem hmember

theorem key_not_registered {claims : Claims} (hdisjoint : claims.Disjoint)
    {member : String × Json} (hmember : member ∈ claims.extra.entries) :
    member.1 ∉ registeredNames := by
  intro hname
  have hnone := List.lookup_eq_none_iff.mp (hdisjoint member.1 hname) member hmember
  simp at hnone

/-- A payload of claims has the registered ones in their fixed order and the extra ones in any. -/
def IsPayload (claims : Claims) (payload : Json) : Prop :=
  ∃ extra, extra.Perm claims.extra.entries ∧ payload = .obj (claims.registered ++ extra)

theorem isPayload_payload (claims : Claims) (order : Json.Listing) :
    claims.IsPayload (claims.payload order) :=
  ⟨_, order.perm claims.extra, rfl⟩

theorem isPayload_toJson (claims : Claims) : claims.IsPayload claims.toJson :=
  claims.isPayload_payload .sorted

theorem nodup_keys_toJson {claims : Claims} (hdisjoint : claims.Disjoint) :
    ((claims.registered ++ claims.extra.entries).map Prod.fst).Nodup := by
  rw [List.map_append, List.nodup_append]
  refine ⟨claims.nodup_registered, claims.extra.keysIncrease_entries.nodup_keys, ?_⟩
  rintro name hname _ hextra rfl
  obtain ⟨member, hmember, rfl⟩ := List.mem_map.mp hextra
  exact key_not_registered hdisjoint hmember (claims.keys_registered_sublist.subset hname)

/-- **In whatever order claims are written, their payload is the same object.** -/
theorem IsPayload.canonical_eq {claims : Claims} {payload : Json}
    (hpayload : claims.IsPayload payload) (hdisjoint : claims.Disjoint) :
    payload.canonical = claims.toJson.canonical := by
  obtain ⟨extra, hextra, rfl⟩ := hpayload
  have hvalues : ∀ member ∈ claims.registered ++ claims.extra.entries,
      member.2.canonical = member.2 :=
    List.forall_mem_append.mpr
      ⟨claims.canonical_of_mem_registered, claims.extra.canonical_of_mem_entries⟩
  have hperm := (List.Perm.refl claims.registered).append hextra
  exact congrArg Json.obj
    (Json.canonicalMembers_of_perm hperm (nodup_keys_toJson hdisjoint) hvalues)

section Order

variable {claims : Claims} {extra : List (String × Json)}

theorem key_not_registered_of_perm (hdisjoint : claims.Disjoint)
    (hextra : extra.Perm claims.extra.entries) {member : String × Json} (hmember : member ∈ extra) :
    member.1 ∉ registeredNames :=
  key_not_registered hdisjoint (hextra.mem_iff.mp hmember)

theorem lookup_payload (hdisjoint : claims.Disjoint) (hextra : extra.Perm claims.extra.entries)
    {name : String} (hname : name ∈ registeredNames) :
    (claims.registered ++ extra).lookup name = claims.registered.lookup name := by
  have hnone : extra.lookup name = none := by
    rw [List.lookup_eq_none_iff]
    intro member hmember
    refine bne_iff_ne.mpr fun heq => key_not_registered_of_perm hdisjoint hextra hmember ?_
    exact heq ▸ hname
  rw [List.lookup_append, hnone, Option.or_none]

theorem distinctFields_payload (hdisjoint : claims.Disjoint)
    (hextra : extra.Perm claims.extra.entries) :
    Json.Doc.distinctFields registeredNames (fieldsOf (claims.registered ++ extra)) = true := by
  rw [Json.Doc.distinctFields_iff]
  intro name hname
  have hothers : (extra.map Prod.fst).count name = 0 := by
    rw [List.count_eq_zero]
    intro hmem
    obtain ⟨member, hmember, rfl⟩ := List.mem_map.mp hmem
    exact key_not_registered_of_perm hdisjoint hextra hmember hname
  have hregistered : (claims.registered.map Prod.fst).count name ≤ 1 := by
    have hnodup : registeredNames.Nodup := by decide
    exact List.nodup_iff_count.mp (hnodup.sublist claims.keys_registered_sublist) name
  have hkeys (members : List (String × Json)) :
      (fieldsOf members).map Prod.fst = members.map Prod.fst := by
    simp [fieldsOf]
  rw [hkeys, List.map_append, List.count_append, hothers]
  exact hregistered

theorem others_payload (hdisjoint : claims.Disjoint) (hextra : extra.Perm claims.extra.entries) :
    (fieldsOf (claims.registered ++ extra)).filter
        (fun field => !registeredNames.contains field.1) = fieldsOf extra := by
  rw [Json.fieldsOf_append, List.filter_append]
  have hregistered : (fieldsOf claims.registered).filter
      (fun field => !registeredNames.contains field.1) = [] := by
    rw [List.filter_eq_nil_iff]
    intro field hfield
    obtain ⟨member, hmember, rfl⟩ := List.mem_map.mp hfield
    have hname : member.1 ∈ registeredNames :=
      claims.keys_registered_sublist.subset (List.mem_map_of_mem hmember)
    simp [hname]
  have hothers : (fieldsOf extra).filter
      (fun field => !registeredNames.contains field.1) = fieldsOf extra := by
    rw [List.filter_eq_self]
    intro field hfield
    obtain ⟨member, hmember, rfl⟩ := List.mem_map.mp hfield
    simp [key_not_registered_of_perm hdisjoint hextra hmember]
  rw [hregistered, hothers, List.nil_append]

theorem mapM_value?_fieldsOf {members : List (String × Json)} {limit : Nat}
    (hcanonical : ∀ member ∈ members, member.2.canonical = member.2)
    (hfree : Json.MembersFloatFree members) (hdepth : Json.membersDepth members ≤ limit) :
    ((fieldsOf members).mapM fun field =>
        (field.2.value? limit).map fun value => (field.1, value)) = some members := by
  induction members with
  | nil => rfl
  | cons member members ih =>
    obtain ⟨key, value⟩ := member
    simp only [Json.membersDepth, Nat.max_le] at hdepth
    have hvalue := Json.value?_doc value hfree.1 limit hdepth.1
    have hself : value.canonical = value := hcanonical (key, value) List.mem_cons_self
    have hrest := ih (fun m hm => hcanonical m (List.mem_cons_of_mem _ hm)) hfree.2 hdepth.2
    rw [fieldsOf] at hrest ⊢
    simp [List.mapM_cons, hvalue, hself, hrest]

/-- **Claims that were written read back.** -/
theorem IsPayload.ofDoc?_doc {payload : Json} (hpayload : claims.IsPayload payload)
    (h : claims.Readable) : ofDoc? payload.doc = some claims := by
  obtain ⟨extra, hextra, rfl⟩ := hpayload
  have htext {name : String} {value : Option String} (hname : name ∈ registeredNames)
      (hlookup : claims.registered.lookup name = value.map .str) :
      (fieldsOf (claims.registered ++ extra)).optional? name Json.Doc.string? = some value :=
    Json.optional?_fieldsOf ((lookup_payload h.disjoint hextra hname).trans hlookup)
      (fun _ => by simp [Json.doc]) Json.string?_doc_str
  have htime {name : String} {value : Option Int64} (hname : name ∈ registeredNames)
      (hlookup : claims.registered.lookup name = value.map .int) :
      (fieldsOf (claims.registered ++ extra)).optional? name Json.Doc.int64? = some value :=
    Json.optional?_fieldsOf ((lookup_payload h.disjoint hextra hname).trans hlookup)
      (fun _ => by simp [Json.int, Json.doc]) Json.int64?_doc_int
  have hlookup := claims.registered_eq
  have hothers := others_payload h.disjoint hextra
  have hvalues : (fieldsOf extra).mapM (fun field =>
      (field.2.value? (Json.Doc.maxDepth - 1)).map fun value => (field.1, value)) = some extra := by
    apply mapM_value?_fieldsOf
    · exact fun m hm => claims.extra.canonical_of_mem_entries m (hextra.mem_iff.mp hm)
    · exact Json.membersFloatFree_of_perm hextra h.floatFree
    · rw [Json.membersDepth_of_perm hextra]
      exact h.depth_le
  refine ofDoc?_eq_some_iff.mpr ⟨_, _, rfl, Json.named?_memberDocs _, ?_⟩
  constructor
  · exact distinctFields_payload h.disjoint hextra
  · exact htext (by decide) (by simp [hlookup, List.lookup_append, Json.lookup_optionalMember])
  · exact htime (by decide) (by simp [hlookup, List.lookup_append, Json.lookup_optionalMember])
  · exact htime (by decide) (by simp [hlookup, List.lookup_append, Json.lookup_optionalMember])
  · exact htime (by decide) (by simp [hlookup, List.lookup_append, Json.lookup_optionalMember])
  · exact htext (by decide) (by simp [hlookup, List.lookup_append, Json.lookup_optionalMember])
  · exact htext (by decide) (by simp [hlookup, List.lookup_append, Json.lookup_optionalMember])
  · exact htext (by decide) (by simp [hlookup, List.lookup_append, Json.lookup_optionalMember])
  · rw [hothers, hvalues, Option.map_some, Json.Members.ofList_of_perm hextra]

end Order

end Claims

end TokenAuth
