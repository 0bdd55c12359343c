import TokenAuth.Proofs.JsonReading

/-!
# Fields of records

The fields of an object that was written are its members, by name. A reader of some of them finds
each where it was put.
-/

namespace TokenAuth

namespace Whole

theorem value_eq_of_toInt64? {w : Whole} {e : Int64} (h : w.toInt64? = some e) :
    w.value = e.toInt := by
  rw [Whole.toInt64?] at h
  split at h
  · next hlt =>
    obtain rfl := Option.some.inj h
    exact (Int64.toInt_ofInt_of_le w.lower hlt).symm
  · simp at h

end Whole

namespace Json

/-- The fields that the members of an object are read as. -/
def fieldsOf (members : List (String × Json)) : Fields :=
  members.map fun member => (member.1, member.2.doc)

theorem fieldsOf_append (members more : List (String × Json)) :
    fieldsOf (members ++ more) = fieldsOf members ++ fieldsOf more :=
  List.map_append

theorem lookup_fieldsOf (members : List (String × Json)) (name : String) :
    (fieldsOf members).lookup name = (members.lookup name).map doc := by
  induction members with
  | nil => rfl
  | cons member members ih =>
    obtain ⟨key, value⟩ := member
    simp only [fieldsOf, List.map_cons, List.lookup_cons]
    by_cases hkey : name == key
    · simp [hkey]
    · simp only [hkey]
      exact ih

theorem named?_memberDocs (members : List (String × Json)) :
    Doc.named? (memberDocs members) = some (fieldsOf members) := by
  induction members with
  | nil => rfl
  | cons member members ih =>
    obtain ⟨key, value⟩ := member
    rw [Doc.named?] at ih ⊢
    simp [memberDocs, textOf?_escape, ih, fieldsOf]

theorem length_filter_key_eq_count {α : Type} (name : String) (fields : List (String × α)) :
    (fields.filter fun field => field.1 == name).length = (fields.map Prod.fst).count name := by
  rw [← List.countP_eq_length_filter, List.count_eq_countP, List.countP_map]
  rfl

theorem Doc.distinctFields_iff {names : List String} {fields : Fields} :
    Doc.distinctFields names fields = true ↔
      ∀ name ∈ names, (fields.map Prod.fst).count name ≤ 1 := by
  simp only [Doc.distinctFields, List.all_eq_true, decide_eq_true_eq, length_filter_key_eq_count]

theorem distinctFields_of_subset {names more : List String} {fields : Fields}
    (hsubset : names ⊆ more) (h : Doc.distinctFields more fields = true) :
    Doc.distinctFields names fields = true := by
  rw [Doc.distinctFields_iff] at h ⊢
  exact fun name hname => h name (hsubset hname)

/-- Leaving out fields that are not asked for changes no answer. -/
theorem lookup_filter_contains {α : Type} {names : List String} {name : String}
    (hname : name ∈ names) (fields : List (String × α)) :
    (fields.filter fun field => names.contains field.1).lookup name = fields.lookup name := by
  induction fields with
  | nil => rfl
  | cons field fields ih =>
    obtain ⟨key, value⟩ := field
    by_cases hkey : name = key
    · subst hkey
      simp [hname]
    · by_cases hmem : key ∈ names
      · simp only [List.filter_cons, List.contains_iff_mem.mpr hmem, if_true, List.lookup_cons,
          beq_eq_false_iff_ne.mpr hkey]
        exact ih
      · simp only [List.filter_cons, List.lookup_cons, beq_eq_false_iff_ne.mpr hkey]
        rw [if_neg (by simpa using hmem)]
        exact ih

theorem map_fst_fieldsOf (members : List (String × Json)) :
    (fieldsOf members).map Prod.fst = members.map Prod.fst := by
  rw [fieldsOf, List.map_map]
  rfl

/-- A record is read back as the fields it was written with. -/
theorem recordFields?_obj {names : List String} {members : List (String × Json)}
    (hnodup : ∀ name ∈ names, (members.map Prod.fst).count name ≤ 1)
    (hall : ∀ member ∈ members, member.1 ∈ names) :
    (obj members).doc.recordFields? names = some (fieldsOf members) := by
  have hdistinct : Doc.distinctFields names (fieldsOf members) = true := by
    rwa [Doc.distinctFields_iff, map_fst_fieldsOf]
  have hkept : ((fieldsOf members).filter fun field => names.contains field.1) =
      fieldsOf members := by
    rw [List.filter_eq_self]
    intro field hfield
    obtain ⟨member, hmember, rfl⟩ := List.mem_map.mp hfield
    exact List.contains_iff_mem.mpr (hall member hmember)
  rw [doc, Doc.recordFields?.eq_def]
  simp only [Doc.objectFields?, named?_memberDocs, Option.bind_eq_bind, Option.bind_some,
    hdistinct, if_true, hkept]

/-! ### Optional fields -/

/-- A member that is there if its value is. -/
def optionalMember {α : Type} (name : String) (toJson : α → Json) (value : Option α) :
    List (String × Json) :=
  (value.map fun a => (name, toJson a)).toList

theorem lookup_optionalMember {α : Type} (name key : String) (toJson : α → Json)
    (value : Option α) :
    (optionalMember name toJson value).lookup key = if key = name then value.map toJson else none := by
  cases value with
  | none => simp [optionalMember]
  | some a =>
    by_cases hkey : key = name
    · simp [optionalMember, hkey]
    · simp [optionalMember, List.lookup_cons, beq_eq_false_iff_ne.mpr hkey, hkey]

theorem Doc.optional?_of_ne_null {α : Type} {doc : Doc} (h : doc ≠ .null) (read? : Doc → Option α) :
    doc.optional? read? = (read? doc).map some := by
  cases doc <;> first | rfl | exact absurd rfl h

/-- An optional field reads as nothing where it is absent or null, and else as its reader says. -/
theorem Fields.optional?_eq_some_iff {α : Type} {fields : Fields} {name : String}
    {read? : Doc → Option α} {value : Option α} :
    fields.optional? name read? = some value ↔
      (value = none ∧ (fields.lookup name = none ∨ fields.lookup name = some .null)) ∨
        ∃ doc a, fields.lookup name = some doc ∧ doc ≠ .null ∧ read? doc = some a ∧
          value = some a := by
  rw [Fields.optional?]
  cases hlookup : fields.lookup name with
  | none => simp [eq_comm]
  | some doc =>
    by_cases hnull : doc = .null
    · subst hnull
      simp [Doc.optional?, eq_comm]
    · simp [Doc.optional?_of_ne_null hnull, hnull, Option.map_eq_some_iff, eq_comm]

theorem Doc.string?_eq_some_iff {doc : Doc} {s : String} :
    doc.string? = some s ↔ ∃ raw, doc = .text raw ∧ textOf? raw = some s := by
  cases doc <;> simp [Doc.string?]

theorem Doc.int64?_eq_some_iff {doc : Doc} {e : Int64} :
    doc.int64? = some e ↔ ∃ n w, doc = .number n ∧ n.number? = some (.whole w) ∧
      w.toInt64? = some e := by
  cases doc with
  | number n =>
    cases hnumber : n.number? with
    | none => simp [Doc.int64?, Doc.whole?, hnumber]
    | some number => cases number <;> simp [Doc.int64?, Doc.whole?, hnumber]
  | _ => simp [Doc.int64?, Doc.whole?]

/-- An optional field of an object that was written is read by its own reader. -/
theorem optional?_fieldsOf {α : Type} {members : List (String × Json)} {name : String}
    {read? : Doc → Option α} {toJson : α → Json} {value : Option α}
    (hlookup : members.lookup name = value.map toJson)
    (hnull : ∀ a, (toJson a).doc ≠ .null) (hread : ∀ a, read? (toJson a).doc = some a) :
    (fieldsOf members).optional? name read? = some value := by
  rw [Fields.optional?, lookup_fieldsOf, hlookup]
  cases value with
  | none => rfl
  | some a =>
    change (toJson a).doc.optional? read? = some (some a)
    rw [Doc.optional?.eq_def]
    split
    · next hdoc => exact absurd hdoc (hnull a)
    · simp [hread]

theorem string?_doc_str (s : String) : (str s).doc.string? = some s :=
  textOf?_escape s

theorem int64?_doc_int (n : Int64) : (int n).doc.int64? = some n := by
  simp [int, doc, Numeral.ofNumber, Doc.int64?, Doc.whole?, Numeral.number?_ofWhole,
    Whole.toInt64?_ofInt64]

end Json

end TokenAuth
