import TokenAuth.Proofs.MemberOrder
import TokenAuth.Proofs.Record

/-!
# Values that trees are read as

A tree is read as a value that is in canonical form and nests no deeper than it may
(`Doc.settled_of_value?`). The members of an object are read one by one and put in order
(`Doc.memberValues?_eq_some_iff`), and of several with one name the last counts
(`lookup_memberValues?_eq_some_iff`).
-/

namespace TokenAuth.Json

variable {members : List (String × Json)} {key name : String} {value : Json}
variable {docs : List (Bytes × Doc)} {depth : Nat}

/-! ### Members given more than once -/

theorem lookup_eq_none_of_forall_lt (h : ∀ m ∈ members, name < m.1) :
    members.lookup name = none := by
  rw [List.lookup_eq_none_iff]
  intro m hm
  rw [bne_iff_ne]
  exact fun heq => String.lt_irrefl m.1 (heq ▸ h m hm)

/-- A member that is there stays, and one that is not is added. -/
theorem lookup_addMissing (h : KeysIncrease members) :
    (addMissing key value members).lookup name =
      (members.lookup name).or (if name = key then some value else none) := by
  induction members with
  | nil =>
    by_cases hname : name = key
    · simp [addMissing, hname]
    · simp [addMissing, List.lookup_cons, hname, beq_eq_false_iff_ne.mpr hname]
  | cons head rest ih =>
    obtain ⟨k, v⟩ := head
    obtain ⟨hhead, hrest⟩ := List.pairwise_cons.mp h
    unfold addMissing
    split
    · next hlt =>
      by_cases hname : name = key
      · subst hname
        have hnone : ((k, v) :: rest).lookup name = none := by
          refine lookup_eq_none_of_forall_lt fun m hm => ?_
          rcases List.mem_cons.mp hm with rfl | hm
          · exact hlt
          · exact String.lt_trans hlt (hhead m hm)
        simp [hnone]
      · simp [List.lookup_cons, hname, beq_eq_false_iff_ne.mpr hname]
    · split
      · next heq =>
        subst heq
        by_cases hname : name = key
        · simp [hname]
        · simp [hname]
      · by_cases hname : name = k
        · simp [hname]
        · simp only [List.lookup_cons, beq_eq_false_iff_ne.mpr hname]
          exact ih hrest

theorem keysIncrease_memberValues? (h : Doc.memberValues? depth docs = some members) :
    KeysIncrease members := by
  induction docs generalizing members with
  | nil =>
    obtain rfl : [] = members := by simpa [Doc.memberValues?] using h
    exact .nil
  | cons head docs ih =>
    simp only [Doc.memberValues?, Option.bind_eq_bind, Option.bind_eq_some_iff, Option.pure_def,
      Option.some.injEq] at h
    obtain ⟨key, -, value, -, rest, hrest, rfl⟩ := h
    exact keysIncrease_addMissing (ih hrest)

/-- The value of the last member with a name. -/
def LastMember (depth : Nat) (docs : List (Bytes × Doc)) (name : String) (value : Json) : Prop :=
  ∃ before raw doc after, docs = before ++ (raw, doc) :: after ∧ textOf? raw = some name ∧
    doc.value? depth = some value ∧ ∀ member ∈ after, textOf? member.1 ≠ some name

theorem lastMember_cons_iff {raw : Bytes} {doc : Doc} :
    LastMember depth ((raw, doc) :: docs) name value ↔
      LastMember depth docs name value ∨
        (∀ member ∈ docs, textOf? member.1 ≠ some name) ∧ textOf? raw = some name ∧
          doc.value? depth = some value := by
  constructor
  · rintro ⟨before, raw', doc', after, hdocs, hname, hvalue, hlast⟩
    rcases List.cons_eq_append_iff.mp hdocs with ⟨rfl, heq⟩ | ⟨before, rfl, heq⟩
    · obtain ⟨⟨rfl, rfl⟩, rfl⟩ : (raw' = raw ∧ doc' = doc) ∧ after = docs := by simpa using heq
      exact .inr ⟨hlast, hname, hvalue⟩
    · exact .inl ⟨before, raw', doc', after, heq, hname, hvalue, hlast⟩
  · rintro (⟨before, raw', doc', after, rfl, hrest⟩ | ⟨hlast, hname, hvalue⟩)
    · exact ⟨(raw, doc) :: before, raw', doc', after, rfl, hrest⟩
    · exact ⟨[], raw, doc, docs, rfl, hname, hvalue, hlast⟩

theorem lookup_memberValues?_eq_none_iff (h : Doc.memberValues? depth docs = some members) :
    members.lookup name = none ↔ ∀ member ∈ docs, textOf? member.1 ≠ some name := by
  induction docs generalizing members with
  | nil =>
    obtain rfl : [] = members := by simpa [Doc.memberValues?] using h
    simp
  | cons head docs ih =>
    obtain ⟨raw, doc⟩ := head
    simp only [Doc.memberValues?, Option.bind_eq_bind, Option.bind_eq_some_iff, Option.pure_def,
      Option.some.injEq] at h
    obtain ⟨key, hkey, value, -, rest, hrest, rfl⟩ := h
    rw [lookup_addMissing (keysIncrease_memberValues? hrest), Option.or_eq_none_iff, ih hrest,
      List.forall_mem_cons, hkey, and_comm]
    simp [eq_comm]

/-- **Of several members with one name the last counts.** -/
theorem lookup_memberValues?_eq_some_iff (h : Doc.memberValues? depth docs = some members) :
    members.lookup name = some value ↔ LastMember depth docs name value := by
  induction docs generalizing members with
  | nil =>
    obtain rfl : [] = members := by simpa [Doc.memberValues?] using h
    simp [LastMember]
  | cons head docs ih =>
    obtain ⟨raw, doc⟩ := head
    simp only [Doc.memberValues?, Option.bind_eq_bind, Option.bind_eq_some_iff, Option.pure_def,
      Option.some.injEq] at h
    obtain ⟨key, hkey, first, hfirst, rest, hrest, rfl⟩ := h
    rw [lookup_addMissing (keysIncrease_memberValues? hrest), Option.or_eq_some_iff, ih hrest,
      lookup_memberValues?_eq_none_iff hrest, lastMember_cons_iff, hkey, hfirst]
    simp [eq_comm]

/-- A member that is given once has the value of its field. -/
theorem lookup_memberValues?_of_count {fields : Fields} (hfields : Doc.named? docs = some fields)
    (hcount : (fields.map Prod.fst).count name ≤ 1)
    (h : Doc.memberValues? depth docs = some members) :
    members.lookup name = some value ↔
      ∃ doc, fields.lookup name = some doc ∧ doc.value? depth = some value := by
  have hlookup {doc : Doc} : fields.lookup name = some doc ↔
      ∃ raw, (raw, doc) ∈ docs ∧ textOf? raw = some name := by
    rw [Doc.lookup_eq_some_iff_of_count hcount, Doc.mem_named? hfields]
  have hgiven {value : Json} (hvalue : members.lookup name = some value) :
      ∃ doc, fields.lookup name = some doc ∧ doc.value? depth = some value := by
    obtain ⟨before, raw, doc, after, rfl, hname, hvalue, -⟩ :=
      (lookup_memberValues?_eq_some_iff h).mp hvalue
    exact ⟨doc, hlookup.mpr ⟨raw, by simp, hname⟩, hvalue⟩
  refine ⟨hgiven, ?_⟩
  rintro ⟨doc, hdoc, hvalue⟩
  obtain ⟨raw, hmem, hname⟩ := hlookup.mp hdoc
  have hthere : members.lookup name ≠ none := fun hnone =>
    (lookup_memberValues?_eq_none_iff h).mp hnone _ hmem hname
  -- Some member with the name is the last one, and there is no other.
  obtain ⟨last, hlast⟩ := Option.ne_none_iff_exists'.mp hthere
  obtain ⟨doc', hdoc', hvalue'⟩ := hgiven hlast
  obtain rfl : doc' = doc := Option.some.inj (hdoc'.symm.trans hdoc)
  obtain rfl : last = value := Option.some.inj (hvalue'.symm.trans hvalue)
  exact hlast

/-! ### What is read is settled -/

/-- A value in canonical form that nests no deeper than a limit. -/
structure SettledWithin (limit : Nat) (value : Json) : Prop where
  canonical_eq : value.canonical = value
  depth_le : value.depth ≤ limit

theorem canonicalItems_of_forall {items : List Json}
    (h : ∀ item ∈ items, item.canonical = item) : canonicalItems items = items := by
  induction items with
  | nil => rfl
  | cons item items ih =>
    rw [List.forall_mem_cons] at h
    rw [canonicalItems, h.1, ih h.2]

theorem itemsDepth_le_iff {items : List Json} {limit : Nat} :
    itemsDepth items ≤ limit ↔ ∀ item ∈ items, item.depth ≤ limit := by
  induction items with
  | nil => simp [itemsDepth]
  | cons item items ih => simp only [itemsDepth, Nat.max_le, ih, List.forall_mem_cons]

theorem settledWithin_arr {limit : Nat} {items : List Json}
    (h : ∀ item ∈ items, item.SettledWithin limit) : (arr items).SettledWithin (limit + 1) where
  canonical_eq := by
    rw [canonical, canonicalItems_of_forall fun item hitem => (h item hitem).canonical_eq]
  depth_le := Nat.succ_le_succ (itemsDepth_le_iff.mpr fun item hitem => (h item hitem).depth_le)

theorem settledWithin_obj {limit : Nat} (hkeys : KeysIncrease members)
    (h : ∀ m ∈ members, m.2.SettledWithin limit) : (obj members).SettledWithin (limit + 1) where
  canonical_eq := by
    rw [canonical, canonicalMembers_of_keysIncrease hkeys fun m hm => (h m hm).canonical_eq]
  depth_le := Nat.succ_le_succ (membersDepth_le_iff.mpr fun m hm => (h m hm).depth_le)

namespace Doc

mutual

/-- **What a tree is read as is settled.** -/
theorem settled_of_value? : (doc : Doc) → {limit : Nat} → {value : Json} →
    doc.value? limit = some value → value.SettledWithin limit
  | .null, _, _, h => by
    obtain rfl := Option.some.inj h
    exact ⟨rfl, Nat.zero_le _⟩
  | .bool b, _, _, h => by
    obtain rfl := Option.some.inj h
    exact ⟨rfl, Nat.zero_le _⟩
  | .number n, _, _, h => by
    obtain ⟨_, -, rfl⟩ := Option.map_eq_some_iff.mp h
    exact ⟨rfl, Nat.zero_le _⟩
  | .text raw, _, _, h => by
    obtain ⟨_, -, rfl⟩ := Option.map_eq_some_iff.mp h
    exact ⟨rfl, Nat.zero_le _⟩
  | .array _, 0, _, h => nomatch h
  | .object _, 0, _, h => nomatch h
  | .array items, limit + 1, _, h => by
    obtain ⟨values, hvalues, rfl⟩ := Option.map_eq_some_iff.mp h
    exact settledWithin_arr (settled_of_values? items hvalues)
  | .object docs, limit + 1, _, h => by
    obtain ⟨members, hmembers, rfl⟩ := Option.map_eq_some_iff.mp h
    exact settledWithin_obj (keysIncrease_memberValues? hmembers)
      (settled_of_memberValues? docs hmembers)

theorem settled_of_values? : (items : List Doc) → {limit : Nat} → {values : List Json} →
    values? limit items = some values → ∀ value ∈ values, value.SettledWithin limit
  | [], _, _, h => by
    obtain rfl := Option.some.inj h
    simp
  | item :: items, limit, _, h => by
    simp only [values?, Option.bind_eq_bind, Option.bind_eq_some_iff, Option.pure_def,
      Option.some.injEq] at h
    obtain ⟨value, hvalue, values, hvalues, rfl⟩ := h
    exact List.forall_mem_cons.mpr
      ⟨settled_of_value? item hvalue, settled_of_values? items hvalues⟩

theorem settled_of_memberValues? : (docs : List (Bytes × Doc)) → {limit : Nat} →
    {members : List (String × Json)} → memberValues? limit docs = some members →
    ∀ m ∈ members, m.2.SettledWithin limit
  | [], _, _, h => by
    obtain rfl := Option.some.inj h
    simp
  | (raw, doc) :: docs, limit, _, h => by
    simp only [memberValues?, Option.bind_eq_bind, Option.bind_eq_some_iff, Option.pure_def,
      Option.some.injEq] at h
    obtain ⟨key, -, value, hvalue, members, hmembers, rfl⟩ := h
    intro m hm
    rcases mem_addMissing hm with rfl | hm
    · exact settled_of_value? doc hvalue
    · exact settled_of_memberValues? docs hmembers m hm

end

/-! ### Members as fields -/

/-- The value of a field, with its name. -/
def fieldValue? (limit : Nat) (field : String × Doc) : Option (String × Json) :=
  (field.2.value? limit).map fun value => (field.1, value)

theorem fieldValue?_eq_some_iff {limit : Nat} {field : String × Doc} {m : String × Json} :
    fieldValue? limit field = some m ↔ m.1 = field.1 ∧ field.2.value? limit = some m.2 := by
  obtain ⟨key, value⟩ := m
  rw [fieldValue?, Option.map_eq_some_iff]
  constructor
  · rintro ⟨_, hvalue, heq⟩
    obtain ⟨rfl, rfl⟩ := Prod.mk.inj heq
    exact ⟨rfl, hvalue⟩
  · rintro ⟨rfl, hvalue⟩
    exact ⟨value, hvalue, rfl⟩

/-- The members of an object are the values of its fields, put in order. -/
theorem memberValues?_eq_some_iff {limit : Nat} :
    memberValues? limit docs = some members ↔ ∃ fields values, named? docs = some fields ∧
      fields.mapM (fieldValue? limit) = some values ∧ members = canonicalMembers values := by
  induction docs generalizing members with
  | nil => simp [memberValues?, named?, canonicalMembers, eq_comm]
  | cons head docs ih =>
    obtain ⟨raw, doc⟩ := head
    simp only [memberValues?, Option.bind_eq_bind, Option.bind_eq_some_iff, Option.pure_def,
      Option.some.injEq, ih]
    simp only [named?, Outcome.mapM_cons_eq_some_iff, Option.map_eq_some_iff]
    constructor
    · rintro ⟨key, hkey, value, hvalue, _, ⟨fields, values, hfields, hvalues, rfl⟩, rfl⟩
      refine ⟨_, (key, value) :: values, ⟨_, fields, ⟨key, hkey, rfl⟩, hfields, rfl⟩,
        Outcome.mapM_cons_eq_some_iff.mpr
          ⟨_, _, fieldValue?_eq_some_iff.mpr ⟨rfl, hvalue⟩, hvalues, rfl⟩, ?_⟩
      rw [canonicalMembers, (settled_of_value? doc hvalue).canonical_eq]
    · rintro ⟨_, _, ⟨_, fields, ⟨key, hkey, rfl⟩, hfields, rfl⟩, hvalues, rfl⟩
      obtain ⟨⟨_, value⟩, values, hfield, hrest, rfl⟩ :=
        Outcome.mapM_cons_eq_some_iff.mp hvalues
      obtain ⟨rfl, hvalue⟩ := fieldValue?_eq_some_iff.mp hfield
      refine ⟨_, hkey, value, hvalue, _, ⟨fields, values, hfields, hrest, rfl⟩, ?_⟩
      rw [canonicalMembers, (settled_of_value? doc hvalue).canonical_eq]

end Doc

end TokenAuth.Json
