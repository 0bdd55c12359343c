import TokenAuth.Proofs.Fields
import TokenAuth.Proofs.Outcome

/-!
# What a record gives

A record is an object or an array. What it gives for a name is a member of the object, which may
stand anywhere among others, or the item at the name's place in the array. Main statements: when a
tree is a record (`exists_recordFields?_iff`), what keeps it from being one (`not_isRecord_iff`), and
that reading its fields by name finds what it gives (`lookup_recordFields?`).
-/

namespace TokenAuth.Json.Doc

open Outcome

/-- What a tree gives for one of the names of its fields. -/
inductive Gives (names : List String) (name : String) : Doc → Doc → Prop
  | member {members : List (Bytes × Doc)} {raw : Bytes} {doc : Doc} (hmem : (raw, doc) ∈ members)
      (hkey : textOf? raw = some name) : Gives names name (.object members) doc
  | item {items : List Doc} {i : Nat} {doc : Doc} (hname : names[i]? = some name)
      (hitem : items[i]? = some doc) : Gives names name (.array items) doc

/-- An object whose keys are texts, none of the names twice, or an array with an item for each
name. -/
inductive IsRecord (names : List String) : Doc → Prop
  | object {members : List (Bytes × Doc)} (hkeys : ∀ member ∈ members, (textOf? member.1).isSome)
      (honce : ∀ name ∈ names,
        members.countP (fun member => textOf? member.1 == some name) ≤ 1) :
      IsRecord names (.object members)
  | array {items : List Doc} (hlength : items.length = names.length) :
      IsRecord names (.array items)

variable {names : List String} {name : String} {members : List (Bytes × Doc)} {fields : Fields}
variable {doc field : Doc}

/-! ### Objects -/

theorem exists_named?_iff :
    (∃ fields, named? members = some fields) ↔
      ∀ member ∈ members, (textOf? member.1).isSome := by
  simp only [named?, exists_mapM_iff, Option.map_eq_some_iff, Option.isSome_iff_exists]
  constructor
  · intro h member hmember
    obtain ⟨_, key, hkey, -⟩ := h member hmember
    exact ⟨key, hkey⟩
  · intro h member hmember
    obtain ⟨key, hkey⟩ := h member hmember
    exact ⟨_, key, hkey, rfl⟩

theorem mem_named? (h : named? members = some fields) :
    (name, field) ∈ fields ↔ ∃ raw, (raw, field) ∈ members ∧ textOf? raw = some name := by
  rw [named?] at h
  simp only [mem_of_mapM_eq_some h, Option.map_eq_some_iff, Prod.mk.injEq]
  constructor
  · rintro ⟨⟨raw, _⟩, hmem, _, hkey, rfl, rfl⟩
    exact ⟨raw, hmem, hkey⟩
  · rintro ⟨raw, hmem, hkey⟩
    exact ⟨(raw, field), hmem, name, hkey, rfl, rfl⟩

theorem count_named? (h : named? members = some fields) :
    (fields.map Prod.fst).count name =
      members.countP fun member => textOf? member.1 == some name := by
  induction members generalizing fields with
  | nil =>
    obtain rfl : [] = fields := by simpa [named?] using h
    rfl
  | cons member members ih =>
    obtain ⟨_, rest, hfield, hrest, rfl⟩ := mapM_cons_eq_some_iff.mp h
    obtain ⟨key, hkey, rfl⟩ := Option.map_eq_some_iff.mp hfield
    rw [List.map_cons, List.count_cons, ih hrest, List.countP_cons, hkey]
    simp

/-- A key that stands once is looked up as what stands with it. -/
theorem lookup_eq_some_iff_of_count {α : Type} {entries : List (String × α)} {a : α}
    (h : (entries.map Prod.fst).count name ≤ 1) :
    entries.lookup name = some a ↔ (name, a) ∈ entries := by
  induction entries with
  | nil => simp
  | cons entry entries ih =>
    obtain ⟨key, b⟩ := entry
    rw [List.map_cons, List.count_cons] at h
    by_cases hkey : name = key
    · subst hkey
      have hnone : name ∉ entries.map Prod.fst := by
        rw [← List.count_eq_zero]
        simp only [BEq.rfl, if_true] at h
        omega
      have hrest : (name, a) ∉ entries := fun hmem => hnone (List.mem_map_of_mem hmem)
      simp [hrest, eq_comm]
    · have hcount : (entries.map Prod.fst).count name ≤ 1 := by omega
      simp only [List.lookup_cons, beq_eq_false_iff_ne.mpr hkey, List.mem_cons, Prod.mk.injEq, hkey,
        false_and, false_or]
      exact ih hcount

/-! ### Arrays -/

theorem lookup_zip_eq_some_iff (hnodup : names.Nodup) {items : List Doc}
    (hlength : items.length = names.length) :
    (names.zip items).lookup name = some field ↔
      ∃ i : Nat, names[i]? = some name ∧ items[i]? = some field := by
  have honce : ((names.zip items).map Prod.fst).count name ≤ 1 := by
    rw [List.map_fst_zip (Nat.le_of_eq hlength.symm)]
    exact List.nodup_iff_count.mp hnodup name
  rw [lookup_eq_some_iff_of_count honce, List.mem_iff_getElem?]
  simp only [List.getElem?_zip_eq_some]

/-! ### Records -/

theorem recordFields?_object (members : List (Bytes × Doc)) :
    (object members).recordFields? names = (named? members).bind fun fields =>
      if distinctFields names fields then some (fields.filter fun field => names.contains field.1)
      else none :=
  rfl

theorem recordFields?_array (items : List Doc) :
    (array items).recordFields? names =
      if items.length = names.length then some (names.zip items) else none :=
  rfl

theorem exists_recordFields?_iff :
    (∃ fields, doc.recordFields? names = some fields) ↔ IsRecord names doc := by
  constructor
  · rintro ⟨fields, h⟩
    cases doc with
    | object members =>
      rw [recordFields?_object] at h
      obtain ⟨named, hnamed, h⟩ := Option.bind_eq_some_iff.mp h
      split at h
      · next hdistinct =>
        refine .object (exists_named?_iff.mp ⟨named, hnamed⟩) fun name hname => ?_
        rw [← count_named? hnamed]
        exact distinctFields_iff.mp hdistinct name hname
      · exact nomatch h
    | array items =>
      rw [recordFields?_array] at h
      split at h
      · next hlength => exact .array hlength
      · exact nomatch h
    | _ => exact nomatch h
  · intro h
    cases h with
    | object hkeys honce =>
      obtain ⟨named, hnamed⟩ := exists_named?_iff.mpr hkeys
      have hdistinct : distinctFields names named = true := by
        refine distinctFields_iff.mpr fun name hname => ?_
        rw [count_named? hnamed]
        exact honce name hname
      rw [recordFields?_object, hnamed, Option.bind_some, if_pos hdistinct]
      exact ⟨_, rfl⟩
    | array hlength =>
      rw [recordFields?_array, if_pos hlength]
      exact ⟨_, rfl⟩

/-- **A field that is read by name is what the record gives for it.** -/
theorem lookup_recordFields? (hnodup : names.Nodup) (hname : name ∈ names)
    (h : doc.recordFields? names = some fields) :
    fields.lookup name = some field ↔ Gives names name doc field := by
  cases doc with
  | object members =>
    rw [recordFields?_object] at h
    obtain ⟨named, hnamed, h⟩ := Option.bind_eq_some_iff.mp h
    split at h
    · next hdistinct =>
      obtain rfl := Option.some.inj h
      rw [lookup_filter_contains hname,
        lookup_eq_some_iff_of_count (distinctFields_iff.mp hdistinct name hname),
        mem_named? hnamed]
      constructor
      · rintro ⟨raw, hmem, hkey⟩
        exact .member hmem hkey
      · intro hgives
        cases hgives with
        | member hmem hkey => exact ⟨_, hmem, hkey⟩
    · exact nomatch h
  | array items =>
    rw [recordFields?_array] at h
    split at h
    · next hlength =>
      obtain rfl := Option.some.inj h
      rw [lookup_zip_eq_some_iff hnodup hlength]
      constructor
      · rintro ⟨i, hi, hitem⟩
        exact .item hi hitem
      · intro hgives
        cases hgives with
        | item hi hitem => exact ⟨_, hi, hitem⟩
    · exact nomatch h
  | _ => exact nomatch h

/-- A record gives one thing at most for a name. -/
theorem gives_unique (hnodup : names.Nodup) (hname : name ∈ names) (hrecord : IsRecord names doc)
    {field' : Doc} (h : Gives names name doc field) (h' : Gives names name doc field') :
    field = field' := by
  obtain ⟨fields, hfields⟩ := exists_recordFields?_iff.mpr hrecord
  rw [← lookup_recordFields? hnodup hname hfields] at h h'
  exact Option.some.inj (h.symm.trans h')

/-! ### Trees that are no records -/

/-- What keeps a tree from being a record. -/
inductive Misshapen (names : List String) : Doc → Prop
  | scalar {doc : Doc} (hobject : ∀ members, doc ≠ .object members)
      (harray : ∀ items, doc ≠ .array items) : Misshapen names doc
  | key {members : List (Bytes × Doc)} {raw : Bytes} {doc : Doc} (hmem : (raw, doc) ∈ members)
      (htext : textOf? raw = none) : Misshapen names (.object members)
  | twice {members : List (Bytes × Doc)} {name : String} (hname : name ∈ names)
      (hcount : 2 ≤ members.countP fun member => textOf? member.1 == some name) :
      Misshapen names (.object members)
  | length {items : List Doc} (hlength : items.length ≠ names.length) :
      Misshapen names (.array items)

theorem not_isRecord_iff : ¬ IsRecord names doc ↔ Misshapen names doc := by
  constructor
  · intro h
    cases doc with
    | object members =>
      by_cases hkeys : ∀ member ∈ members, (textOf? member.1).isSome
      · by_cases honce : ∀ name ∈ names,
            members.countP (fun member => textOf? member.1 == some name) ≤ 1
        · exact absurd (.object hkeys honce) h
        · simp only [Classical.not_forall, Nat.not_le] at honce
          obtain ⟨name, hname, hcount⟩ := honce
          exact .twice hname hcount
      · simp only [Classical.not_forall, Bool.not_eq_true, Option.isSome_eq_false_iff,
          Option.isNone_iff_eq_none] at hkeys
        obtain ⟨⟨raw, doc⟩, hmem, htext⟩ := hkeys
        exact .key hmem htext
    | array items => exact .length fun hlength => h (.array hlength)
    | _ => exact .scalar (fun _ => nofun) (fun _ => nofun)
  · rintro h (⟨hkeys, honce⟩ | hlength)
    · cases h with
      | scalar hobject _ => exact hobject _ rfl
      | key hmem htext =>
        have hsome := hkeys _ hmem
        rw [htext] at hsome
        exact nomatch hsome
      | twice hname hcount =>
        have hle := honce _ hname
        omega
    · cases h with
      | scalar _ harray => exact harray _ rfl
      | length hne => exact hne hlength

/-! ### Fields that may be left out -/

/-- A tree that gives nothing but null for a name. -/
def LeavesOut (names : List String) (name : String) (doc : Doc) : Prop :=
  ∀ field, Gives names name doc field → field = .null

variable {α : Type} {Reads : Doc → α → Prop} {read? : Doc → Option α}

/-- The value of a field that may be left out, where `Reads` tells which value a tree has. -/
inductive MayGive (names : List String) (name : String) (Reads : Doc → α → Prop) (doc : Doc) :
    Option α → Prop
  | none (h : LeavesOut names name doc) : MayGive names name Reads doc none
  | some {field : Doc} {a : α} (hgives : Gives names name doc field) (hne : field ≠ .null)
      (hreads : Reads field a) : MayGive names name Reads doc (some a)

theorem eq_none_iff_leavesOut {value : Option α} (h : MayGive names name Reads doc value) :
    value = none ↔ LeavesOut names name doc := by
  cases h with
  | none hout => exact iff_of_true rfl hout
  | some hgives hne _ => exact iff_of_false nofun fun hout => hne (hout _ hgives)

/-- A field that is there and has no value. -/
def Unread (names : List String) (name : String) (Reads : Doc → α → Prop) (doc : Doc) : Prop :=
  ∃ field, Gives names name doc field ∧ field ≠ .null ∧ ∀ a, ¬ Reads field a

variable (hnodup : names.Nodup) (hname : name ∈ names)

include hnodup hname

theorem required?_recordFields? (h : doc.recordFields? names = some fields) {a : α} :
    fields.required? name read? = some a ↔
      ∃ field, Gives names name doc field ∧ read? field = some a := by
  simp only [Fields.required?, Option.bind_eq_some_iff, lookup_recordFields? hnodup hname h]

theorem leavesOut_iff (h : doc.recordFields? names = some fields) :
    LeavesOut names name doc ↔ fields.lookup name = none ∨ fields.lookup name = some .null := by
  simp only [LeavesOut, ← lookup_recordFields? hnodup hname h]
  cases fields.lookup name <;> simp

theorem optional?_recordFields? (h : doc.recordFields? names = some fields)
    (hread : ∀ field a, read? field = some a ↔ Reads field a) {value : Option α} :
    fields.optional? name read? = some value ↔ MayGive names name Reads doc value := by
  rw [Fields.optional?_eq_some_iff, ← leavesOut_iff hnodup hname h]
  simp only [lookup_recordFields? hnodup hname h, hread]
  constructor
  · rintro (⟨rfl, hout⟩ | ⟨field, a, hgives, hne, hreads, rfl⟩)
    · exact .none hout
    · exact .some hgives hne hreads
  · rintro (hout | ⟨hgives, hne, hreads⟩)
    · exact .inl ⟨rfl, hout⟩
    · exact .inr ⟨_, _, hgives, hne, hreads, rfl⟩

theorem exists_mayGive_iff (hrecord : IsRecord names doc) :
    (∃ value, MayGive names name Reads doc value) ↔ ¬ Unread names name Reads doc := by
  constructor
  · rintro ⟨_, hout | ⟨hgives, _, hreads⟩⟩ ⟨field, hfield, hne, hunread⟩
    · exact hne (hout field hfield)
    · obtain rfl := gives_unique hnodup hname hrecord hgives hfield
      exact hunread _ hreads
  · intro h
    by_cases hout : LeavesOut names name doc
    · exact ⟨none, .none hout⟩
    · simp only [LeavesOut, Classical.not_forall] at hout
      obtain ⟨field, hgives, hne⟩ := hout
      obtain ⟨a, hreads⟩ : ∃ a, Reads field a := by
        refine Classical.byContradiction fun hnone => h ⟨field, hgives, hne, fun a hreads => ?_⟩
        exact hnone ⟨a, hreads⟩
      exact ⟨some a, .some hgives hne hreads⟩

end TokenAuth.Json.Doc
