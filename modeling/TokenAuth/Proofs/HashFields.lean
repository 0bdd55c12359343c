import TokenAuth.Proofs.FieldText

/-!
# What the fields of a hash are written as

Fields that can be written have one text, and a text is read as fields exactly if it is that text
(`read_eq_ok_iff`). Each field is read off the front of what is left, so of each it is said what may
follow it.
-/

namespace TokenAuth.Password.HashFields

open Outcome

/-! ### Texts -/

def versionText (n : Nat) : String := "v=" ++ decimal n

def paramsSegment (params : List (String × String)) : List String :=
  if params = [] then [] else [paramsText params]

/-- What stands after the parameters, between dollar signs. -/
def saltSegments (f : HashFields) : List String :=
  f.salt.toList ++ f.digest.toList.map Argon2Hash.encodeBase64

/-- What stands after the version. -/
def paramsSegments (f : HashFields) : List String := paramsSegment f.params ++ f.saltSegments

/-- What stands after the algorithm. -/
def segments (f : HashFields) : List String :=
  f.version.toList.map versionText ++ f.paramsSegments

/-- The text of fields. -/
def text (f : HashFields) : String := "$".intercalate ("" :: f.algorithm :: f.segments)

/-- Fields that can be written. -/
structure WellFormed (f : HashFields) : Prop where
  algorithm : IsName f.algorithm
  version : ∀ n ∈ f.version, n < 0x100000000
  param : ∀ param ∈ f.params, IsParam param
  params : (paramsText f.params).utf8ByteSize ≤ 127
  /-- A lone parameter of that name would be read as the version. -/
  unversioned : f.version = none → ∀ value, f.params ≠ [("v", value)]
  salt : ∀ salt ∈ f.salt, 4 ≤ salt.utf8ByteSize ∧ IsValue salt
  digest : ∀ digest ∈ f.digest, 10 ≤ digest.length ∧ digest.length ≤ 64
  order : f.salt = none → f.digest = none

/-! ### Fields off the front -/

/-- A field that is read as a version wherever one may stand. -/
def IsVersion (field : List Char) : Prop := ∃ digits, field = 'v' :: '=' :: digits ∧ ',' ∉ digits

theorem toList_versionText (n : Nat) :
    (versionText n).toList = 'v' :: '=' :: (decimal n).toList := by
  rw [versionText, String.toList_append]
  rfl

theorem isVersion_versionText (n : Nat) : IsVersion (versionText n).toList :=
  ⟨_, toList_versionText n, Digits.not_mem_text (by decide) _⟩

theorem takeVersion_of_not_isVersion {fields : List (List Char)}
    (h : ∀ field ∈ fields.head?, ¬IsVersion field) : takeVersion fields = .ok (none, fields) := by
  unfold takeVersion
  split
  · next digits rest =>
    have hcomma : digits.contains ',' = true := by
      by_contra hnot
      refine h _ rfl ⟨digits, rfl, ?_⟩
      simpa using hnot
    rw [if_pos hcomma]
  · rfl

theorem takeVersion_digits {digits : List Char} (hcomma : ',' ∉ digits)
    {fields rest : List (List Char)} {version : Option Nat} :
    takeVersion (('v' :: '=' :: digits) :: fields) = .ok (version, rest) ↔
      ∃ n, n < 0x100000000 ∧ digits = (decimal n).toList ∧ version = some n ∧ rest = fields := by
  have hnot : digits.contains ',' = false := by simpa using hcomma
  rw [takeVersion, hnot, if_neg Bool.false_ne_true]
  constructor
  · intro h
    obtain ⟨value, hvalue, hnumber⟩ := bind_eq_ok_iff.mp h
    obtain ⟨n, hn, hend⟩ := bind_eq_ok_iff.mp hnumber
    obtain ⟨-, rfl⟩ := readValue_eq_ok_iff.mp (mapError_eq_ok_iff.mp hvalue)
    obtain ⟨hsmall, rfl⟩ := readDecimal_eq_ok_iff.mp (mapError_eq_ok_iff.mp hn)
    obtain ⟨rfl, rfl⟩ := Prod.mk.inj (Except.ok.inj hend)
    exact ⟨n, hsmall, rfl, rfl, rfl⟩
  · rintro ⟨n, hsmall, rfl, rfl, rfl⟩
    have hvalue : readValue (decimal n).toList = .ok (decimal n) :=
      readValue_eq_ok_iff.mpr ⟨isValue_decimal hsmall, rfl⟩
    have hnumber : readDecimal (decimal n) = .ok n := readDecimal_eq_ok_iff.mpr ⟨hsmall, rfl⟩
    rw [hvalue, mapError_ok]
    change ((readDecimal (decimal n)).mapError FieldsFault.value >>= _) = _
    rw [hnumber, mapError_ok]
    rfl

theorem takeVersion_eq_ok_iff {fields rest : List (List Char)} {version : Option Nat} :
    takeVersion fields = .ok (version, rest) ↔ (∀ n ∈ version, n < 0x100000000) ∧
      (version = none → ∀ field ∈ rest.head?, ¬IsVersion field) ∧
      fields = (version.toList.map versionText).map String.toList ++ rest := by
  by_cases hhead : ∀ field ∈ fields.head?, ¬IsVersion field
  · rw [takeVersion_of_not_isVersion hhead, Except.ok.injEq, Prod.mk.injEq]
    constructor
    · rintro ⟨rfl, rfl⟩
      exact ⟨by simp, fun _ => hhead, rfl⟩
    · rintro ⟨-, -, rfl⟩
      cases version with
      | none => exact ⟨rfl, rfl⟩
      | some n => exact absurd (isVersion_versionText n) (hhead _ rfl)
  · simp only [not_forall, not_not] at hhead
    obtain ⟨field, hfield, hversion⟩ := hhead
    obtain ⟨others, rfl⟩ := List.head?_eq_some_iff.mp hfield
    obtain ⟨digits, rfl, hcomma⟩ := id hversion
    rw [takeVersion_digits hcomma]
    constructor
    · rintro ⟨n, hsmall, rfl, rfl, rfl⟩
      refine ⟨by simpa using hsmall, by simp, ?_⟩
      simp [toList_versionText]
    · rintro ⟨hsmall, hnone, hfields⟩
      cases version with
      | none =>
        obtain rfl : _ = rest := hfields
        exact absurd hversion (hnone rfl _ rfl)
      | some n =>
        simp [toList_versionText] at hfields
        exact ⟨n, hsmall n rfl, hfields.1, rfl, hfields.2.symm⟩

theorem equals_mem_paramsText {params : List (String × String)} (h : params ≠ []) :
    '=' ∈ (paramsText params).toList := by
  obtain ⟨param, others, rfl⟩ := List.exists_cons_of_ne_nil h
  have hfirst : '=' ∈ (paramText param).toList := by
    simp [paramText]
  rw [toList_paramsText]
  cases others with
  | nil => simpa using hfirst
  | cons second others => simp [List.intercalate_cons_cons, hfirst]

theorem takeParams_of_not_mem {fields : List (List Char)}
    (h : ∀ field ∈ fields.head?, '=' ∉ field) : takeParams fields = .ok ([], fields) := by
  cases fields with
  | nil => rfl
  | cons field fields =>
    have hnot : field.contains '=' = false := by simpa using h field rfl
    rw [takeParams, hnot, if_neg Bool.false_ne_true]

theorem takeParams_cons {field : List Char} (hequals : '=' ∈ field)
    {fields rest : List (List Char)} {params : List (String × String)} :
    takeParams (field :: fields) = .ok (params, rest) ↔
      readParams field = .ok params ∧ rest = fields := by
  have hcontains : field.contains '=' = true := by simpa using hequals
  rw [takeParams, if_pos hcontains, bind_eq_ok_iff]
  constructor
  · rintro ⟨read, hread, hend⟩
    obtain ⟨rfl, rfl⟩ := Prod.mk.inj (Except.ok.inj hend)
    exact ⟨hread, rfl⟩
  · rintro ⟨hread, rfl⟩
    exact ⟨params, hread, rfl⟩

theorem takeParams_eq_ok_iff {fields rest : List (List Char)} {params : List (String × String)} :
    takeParams fields = .ok (params, rest) ↔
      ((paramsText params).utf8ByteSize ≤ 127 ∧ ∀ param ∈ params, IsParam param) ∧
      (params = [] → ∀ field ∈ rest.head?, '=' ∉ field) ∧
      fields = (paramsSegment params).map String.toList ++ rest := by
  by_cases hhead : ∀ field ∈ fields.head?, '=' ∉ field
  · rw [takeParams_of_not_mem hhead, Except.ok.injEq, Prod.mk.injEq]
    constructor
    · rintro ⟨rfl, rfl⟩
      exact ⟨⟨by decide, by simp⟩, fun _ => hhead, rfl⟩
    · rintro ⟨-, -, rfl⟩
      by_cases hparams : params = []
      · subst hparams
        exact ⟨rfl, rfl⟩
      · rw [paramsSegment, if_neg hparams] at hhead
        exact absurd (equals_mem_paramsText hparams) (hhead _ rfl)
  · simp only [not_forall, not_not] at hhead
    obtain ⟨field, hfield, hequals⟩ := hhead
    obtain ⟨others, rfl⟩ := List.head?_eq_some_iff.mp hfield
    rw [takeParams_cons hequals, readParams_eq_ok_iff]
    constructor
    · rintro ⟨⟨hne, hsize, hparam, rfl⟩, rfl⟩
      refine ⟨⟨hsize, hparam⟩, fun hnil => absurd hnil hne, ?_⟩
      rw [paramsSegment, if_neg hne]
      rfl
    · rintro ⟨⟨hsize, hparam⟩, hnil, hfields⟩
      by_cases hparams : params = []
      · rw [paramsSegment, if_pos hparams] at hfields
        obtain rfl : _ = rest := hfields
        exact absurd hequals (hnil hparams _ rfl)
      · rw [paramsSegment, if_neg hparams] at hfields
        obtain ⟨rfl, rfl⟩ := List.cons.inj hfields
        exact ⟨⟨hparams, hsize, hparam, rfl⟩, rfl⟩

theorem takeOne_eq_ok_iff {α : Type} {read : List Char → Except FieldsFault α} {p : α → Prop}
    {write : α → String} (hread : ∀ cs a, read cs = .ok a ↔ p a ∧ cs = (write a).toList)
    {fields rest : List (List Char)} {found : Option α} :
    takeOne read fields = .ok (found, rest) ↔ (∀ a ∈ found, p a) ∧ (found = none → rest = []) ∧
      fields = (found.toList.map write).map String.toList ++ rest := by
  cases fields with
  | nil =>
    rw [takeOne, Except.ok.injEq, Prod.mk.injEq]
    cases found with
    | none => exact ⟨fun h => ⟨by simp, fun _ => h.2.symm, h.2⟩, fun h => ⟨rfl, h.2.2⟩⟩
    | some a => simp
  | cons field fields =>
    rw [takeOne, bind_eq_ok_iff]
    constructor
    · rintro ⟨a, ha, hend⟩
      obtain ⟨rfl, rfl⟩ := Prod.mk.inj (Except.ok.inj hend)
      obtain ⟨hp, rfl⟩ := (hread _ _).mp ha
      exact ⟨by simpa using hp, by simp, rfl⟩
    · rintro ⟨hp, hnone, hfields⟩
      cases found with
      | none =>
        rw [hnone rfl] at hfields
        exact nomatch hfields
      | some a =>
        obtain ⟨rfl, rfl⟩ := List.cons.inj hfields
        exact ⟨a, (hread _ _).mpr ⟨hp a rfl, rfl⟩, rfl⟩

theorem eq_singleton_of_append_eq {x c : Char} {name value rest : List Char}
    (h : name ++ x :: value = c :: x :: rest) (hne : name ≠ []) (hx : x ∉ name) : name = [c] := by
  obtain ⟨d, ds, rfl⟩ := List.exists_cons_of_ne_nil hne
  obtain ⟨rfl, htail⟩ := List.cons.inj h
  cases ds with
  | nil => rfl
  | cons e es =>
    obtain ⟨rfl, -⟩ := List.cons.inj htail
    simp at hx

/-- Parameters that are read as a version are one of that name. -/
theorem isVersion_paramsText_iff {params : List (String × String)} (hne : params ≠ [])
    (hparams : ∀ param ∈ params, IsParam param) :
    IsVersion (paramsText params).toList ↔ ∃ value, params = [("v", value)] := by
  obtain ⟨⟨name, value⟩, others, rfl⟩ := List.exists_cons_of_ne_nil hne
  obtain ⟨hname, hvalue⟩ := hparams (name, value) List.mem_cons_self
  constructor
  · rintro ⟨digits, htext, hcomma⟩
    rw [toList_paramsText] at htext
    cases others with
    | cons second others =>
      -- Between two parameters stands a comma, and in a version there is none.
      have hmem : ',' ∈ 'v' :: '=' :: digits := by
        rw [← htext]
        simp [List.intercalate_cons_cons]
      simp [hcomma] at hmem
    | nil =>
      have hform : name.toList ++ '=' :: value.toList = 'v' :: '=' :: digits := by
        rw [← htext]
        simp [paramText]
      have hchars : name.toList = ['v'] :=
        eq_singleton_of_append_eq hform (mt String.toList_eq_nil_iff.mp hname.1)
          (hname.not_mem (by decide))
      exact ⟨value, by rw [← String.ofList_toList (s := name), hchars]⟩
  · rintro ⟨value', hform⟩
    obtain ⟨hparam, rfl⟩ := List.cons.inj hform
    obtain ⟨rfl, rfl⟩ := Prod.mk.inj hparam
    refine ⟨value.toList, ?_, hvalue.not_mem (by decide)⟩
    rw [toList_paramsText]
    simp [paramText]

/-! ### Hashes -/

theorem read_eq_ok_iff_takes {hash : String} {f : HashFields} :
    read hash = .ok f ↔ ∃ fields,
      Text.splitOn (· == '$') hash.toList = [] :: f.algorithm.toList :: fields ∧
      IsName f.algorithm ∧ ∃ afterVersion afterParams afterSalt,
        takeVersion fields = .ok (f.version, afterVersion) ∧
        takeParams afterVersion = .ok (f.params, afterParams) ∧
        takeOne readSalt afterParams = .ok (f.salt, afterSalt) ∧
        takeOne readDigest afterSalt = .ok (f.digest, []) := by
  constructor
  · intro h
    unfold read at h
    split at h
    · next algorithm fields hsplit =>
      obtain ⟨name, hname, h₁⟩ := bind_eq_ok_iff.mp h
      obtain ⟨⟨version, afterVersion⟩, hversion, h₂⟩ := bind_eq_ok_iff.mp h₁
      obtain ⟨⟨params, afterParams⟩, hparams, h₃⟩ := bind_eq_ok_iff.mp h₂
      obtain ⟨⟨salt, afterSalt⟩, hsalt, h₄⟩ := bind_eq_ok_iff.mp h₃
      obtain ⟨⟨digest, rest⟩, hdigest, h₅⟩ := bind_eq_ok_iff.mp h₄
      obtain ⟨hvalid, rfl⟩ := readName_eq_ok_iff.mp hname
      dsimp only at h₅
      split at h₅
      · next hrest =>
        obtain rfl := Except.ok.inj h₅
        obtain rfl := List.isEmpty_iff.mp hrest
        exact ⟨fields, hsplit, hvalid, afterVersion, afterParams, afterSalt, hversion, hparams,
          hsalt, hdigest⟩
      · exact nomatch h₅
    · exact nomatch h
  · rintro ⟨fields, hsplit, hname, afterVersion, afterParams, afterSalt, hversion, hparams, hsalt,
      hdigest⟩
    have hread : readName f.algorithm.toList = .ok f.algorithm :=
      readName_eq_ok_iff.mpr ⟨hname, rfl⟩
    simp only [read, hsplit, hread, hversion, hparams, hsalt, hdigest, bind, Except.bind,
      List.isEmpty_nil, if_true]

theorem takeSalt_eq_ok_iff {fields rest : List (List Char)} {salt : Option String} :
    takeOne readSalt fields = .ok (salt, rest) ↔
      (∀ s ∈ salt, 4 ≤ s.utf8ByteSize ∧ IsValue s) ∧ (salt = none → rest = []) ∧
      fields = salt.toList.map String.toList ++ rest := by
  rw [takeOne_eq_ok_iff fun _ _ => readSalt_eq_ok_iff, List.map_id']

theorem takeDigest_eq_ok_iff {fields rest : List (List Char)} {digest : Option Bytes} :
    takeOne readDigest fields = .ok (digest, rest) ↔
      (∀ bytes ∈ digest, 10 ≤ bytes.length ∧ bytes.length ≤ 64) ∧ (digest = none → rest = []) ∧
      fields = (digest.toList.map Argon2Hash.encodeBase64).map String.toList ++ rest :=
  takeOne_eq_ok_iff fun _ _ => readDigest_eq_ok_iff

variable {f : HashFields}

theorem WellFormed.no_equals (h : f.WellFormed) :
    ∀ field ∈ (f.saltSegments.map String.toList).head?, '=' ∉ field := by
  intro field hfield
  cases hsalt : f.salt with
  | none => simp [saltSegments, hsalt, h.order hsalt] at hfield
  | some salt =>
    obtain rfl : salt.toList = field := by simpa [saltSegments, hsalt] using hfield
    exact (h.salt salt hsalt).2.not_mem (by decide)

theorem WellFormed.not_isVersion (h : f.WellFormed) (hnone : f.version = none) :
    ∀ field ∈ (f.paramsSegments.map String.toList).head?, ¬IsVersion field := by
  intro field hfield hversion
  by_cases hparams : f.params = []
  · -- What follows has no equals sign, which a version has.
    obtain ⟨digits, rfl, -⟩ := hversion
    rw [paramsSegments, paramsSegment, if_pos hparams, List.nil_append] at hfield
    exact h.no_equals _ hfield (by simp)
  · rw [paramsSegments, paramsSegment, if_neg hparams] at hfield
    obtain rfl : (paramsText f.params).toList = field := by simpa using hfield
    obtain ⟨value, hvalue⟩ := (isVersion_paramsText_iff hparams h.param).mp hversion
    exact h.unversioned hnone value hvalue

theorem WellFormed.no_dollar (h : f.WellFormed) :
    ∀ part ∈ [] :: f.algorithm.toList :: f.segments.map String.toList, '$' ∉ part := by
  have hversion (n : Nat) : '$' ∉ (versionText n).toList := by
    have hdigits : '$' ∉ (decimal n).toList := Digits.not_mem_text (by decide) _
    simp [toList_versionText, hdigits]
  have hparams : '$' ∉ (paramsText f.params).toList := by
    rw [toList_paramsText]
    apply Text.not_mem_intercalate (by decide)
    simp only [List.forall_mem_map]
    intro param hparam
    exact (h.param param hparam).not_mem (by decide) (by decide) (by decide)
  have hdigest (digest : Bytes) : '$' ∉ (Argon2Hash.encodeBase64 digest).toList := by
    intro hmem
    exact absurd (isValueChar_of_mem digest '$' hmem) (by decide)
  simp only [List.forall_mem_cons, List.forall_mem_map, segments, paramsSegments, saltSegments,
    List.forall_mem_append]
  refine ⟨List.not_mem_nil, h.algorithm.not_mem (by decide), fun n _ => hversion n, ?_, ?_,
    fun digest _ => hdigest digest⟩
  · intro segment hsegment
    rw [paramsSegment] at hsegment
    split at hsegment
    · exact nomatch hsegment
    · rw [List.mem_singleton.mp hsegment]
      exact hparams
  · intro salt hsalt
    exact (h.salt salt (by simpa using hsalt)).2.not_mem (by decide)

theorem toList_text (f : HashFields) : f.text.toList =
    ['$'].intercalate ([] :: f.algorithm.toList :: f.segments.map String.toList) := by
  rw [text, String.toList_intercalate]
  rfl

theorem exists_text_eq (f : HashFields) : ∃ rest, f.text = "$" ++ (f.algorithm ++ rest) := by
  cases hsegments : f.segments with
  | nil =>
    refine ⟨"", ?_⟩
    rw [← String.toList_inj, toList_text, hsegments]
    simp [List.intercalate_cons_cons]
  | cons segment segments =>
    refine ⟨"$" ++ "$".intercalate (segment :: segments), ?_⟩
    rw [← String.toList_inj, toList_text, hsegments]
    simp [List.intercalate_cons_cons, String.toList_intercalate]

/-- **A text is read as fields exactly if they can be written and it is their text.** -/
theorem read_eq_ok_iff {hash : String} : read hash = .ok f ↔ f.WellFormed ∧ hash = f.text := by
  rw [read_eq_ok_iff_takes, ← String.toList_inj, toList_text]
  simp only [takeVersion_eq_ok_iff, takeParams_eq_ok_iff, takeSalt_eq_ok_iff, takeDigest_eq_ok_iff]
  constructor
  · rintro ⟨fields, hsplit, hname, _, _, _, ⟨hversion, hunversioned, rfl⟩,
      ⟨⟨hsize, hparam⟩, -, rfl⟩, ⟨hsalt, horder, rfl⟩, hdigest, -, rfl⟩
    obtain ⟨-, hhash, -⟩ := Text.splitOn_eq_iff.mp hsplit
    refine ⟨⟨hname, hversion, hparam, hsize, ?_, hsalt, hdigest, ?_⟩, ?_⟩
    · intro hnone value hparams
      have hne : f.params ≠ [] := by simp [hparams]
      -- Such a parameter would have been taken for the version.
      refine hunversioned hnone _ ?_ ((isVersion_paramsText_iff hne hparam).mpr ⟨value, hparams⟩)
      rw [paramsSegment, if_neg hne]
      rfl
    · intro hnone
      have hrest := horder hnone
      cases hdigest' : f.digest with
      | none => rfl
      | some digest => simp [hdigest'] at hrest
    · rw [hhash]
      simp [segments, paramsSegments, saltSegments]
  · rintro ⟨h, hhash⟩
    refine ⟨_, Text.splitOn_eq_iff.mpr ⟨by simp, hhash, h.no_dollar⟩, h.algorithm,
      f.paramsSegments.map String.toList, f.saltSegments.map String.toList,
      (f.digest.toList.map Argon2Hash.encodeBase64).map String.toList,
      ⟨h.version, h.not_isVersion, ?_⟩, ⟨⟨h.params, h.param⟩, fun _ => h.no_equals, ?_⟩,
      ⟨h.salt, ?_, ?_⟩, h.digest, by simp, ?_⟩
    · rw [segments, List.map_append]
    · rw [paramsSegments, List.map_append]
    · intro hnone
      simp [h.order hnone]
    · rw [saltSegments, List.map_append]
    · rw [List.append_nil]

end TokenAuth.Password.HashFields
