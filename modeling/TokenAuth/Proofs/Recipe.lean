import TokenAuth.Proofs.HashFields

/-!
# What a written hash says to compute

The fields of an Argon2 hash may give a recipe: a variant, a version, costs that are admissible, and
a salt. They give at most one (`Describes.unique`), and a password is accepted if they give one and
it makes the digest that is written (`Describes.accepts_eq`), and else not.
-/

namespace TokenAuth.Password.Argon2Hash

open HashFields (decimal)

/-! ### Costs -/

/-- What one parameter sets. The id of a key sets nothing. -/
inductive Sets (p : Argon2.Params) : String × String → Argon2.Params → Prop
  | memory {n : Nat} (h : n < 0x100000000) : Sets p ("m", decimal n) { p with memory := n }
  | passes {n : Nat} (h : n < 0x100000000) : Sets p ("t", decimal n) { p with passes := n }
  | lanes {n : Nat} (h : n < 0x100000000) : Sets p ("p", decimal n) { p with lanes := n }
  | keyId {id : Bytes} (h : id.length ≤ 8) : Sets p ("keyid", encodeBase64 id) p
  | data {data : Bytes} (h : data.length ≤ 32) :
      Sets p ("data", encodeBase64 data) { p with data := data }

/-- What parameters set, one after the other: of those with one name the last counts. -/
inductive SetsAll : Argon2.Params → List (String × String) → Argon2.Params → Prop
  | nil {p : Argon2.Params} : SetsAll p [] p
  | cons {p q r : Argon2.Params} {param : String × String} {rest : List (String × String)}
      (first : Sets p param q) (others : SetsAll q rest r) : SetsAll p (param :: rest) r

variable {p q : Argon2.Params}

theorem decodeBase64?_eq_some_iff {limit : Nat} {s : String} {bs : Bytes} :
    decodeBase64? limit s = some bs ↔ s = encodeBase64 bs ∧ bs.length ≤ limit := by
  have htext : s = encodeBase64 bs ↔ utf8 s = Base64.encode .standard .none bs := by
    rw [← HashFields.utf8_encodeBase64]
    exact ⟨congrArg utf8, utf8_injective⟩
  rw [decodeBase64?, Option.filter_eq_some_iff, Base64.decode?_eq_some_iff, decide_eq_true_eq,
    htext]

theorem readDecimal?_eq_some_iff {s : String} {n : Nat} :
    (HashFields.readDecimal s).toOption = some n ↔ n < 0x100000000 ∧ s = decimal n := by
  rw [← HashFields.readDecimal_eq_ok_iff]
  cases HashFields.readDecimal s <;> simp [Except.toOption]

theorem mapDecimal_eq_some_iff {f : Nat → Argon2.Params} {s : String} :
    (HashFields.readDecimal s).toOption.map f = some q ↔
      ∃ n, n < 0x100000000 ∧ s = decimal n ∧ f n = q := by
  simp only [Option.map_eq_some_iff, readDecimal?_eq_some_iff, and_assoc]

theorem mapBase64_eq_some_iff {f : Bytes → Argon2.Params} {limit : Nat} {s : String} :
    (decodeBase64? limit s).map f = some q ↔
      ∃ bs, bs.length ≤ limit ∧ s = encodeBase64 bs ∧ f bs = q := by
  simp only [Option.map_eq_some_iff, decodeBase64?_eq_some_iff, and_assoc, and_left_comm]

theorem withParam_eq_some_iff {param : String × String} :
    withParam p param = some q ↔ Sets p param q := by
  constructor
  · intro h
    obtain ⟨name, value⟩ := param
    unfold withParam at h
    dsimp only at h
    split at h
    · obtain ⟨n, hsmall, rfl, rfl⟩ := mapDecimal_eq_some_iff.mp h
      exact .memory hsmall
    · obtain ⟨n, hsmall, rfl, rfl⟩ := mapDecimal_eq_some_iff.mp h
      exact .passes hsmall
    · obtain ⟨n, hsmall, rfl, rfl⟩ := mapDecimal_eq_some_iff.mp h
      exact .lanes hsmall
    · obtain ⟨id, hshort, rfl, rfl⟩ := mapBase64_eq_some_iff.mp h
      exact .keyId hshort
    · obtain ⟨data, hshort, rfl, rfl⟩ := mapBase64_eq_some_iff.mp h
      exact .data hshort
    · exact nomatch h
  · rintro (h | h | h | h | h)
    · exact mapDecimal_eq_some_iff.mpr ⟨_, h, rfl, rfl⟩
    · exact mapDecimal_eq_some_iff.mpr ⟨_, h, rfl, rfl⟩
    · exact mapDecimal_eq_some_iff.mpr ⟨_, h, rfl, rfl⟩
    · exact mapBase64_eq_some_iff.mpr ⟨_, h, rfl, rfl⟩
    · exact mapBase64_eq_some_iff.mpr ⟨_, h, rfl, rfl⟩

theorem foldlM_withParam_eq_some_iff {params : List (String × String)} :
    params.foldlM withParam p = some q ↔ SetsAll p params q := by
  induction params generalizing p with
  | nil =>
    constructor
    · intro h
      obtain rfl : p = q := Option.some.inj h
      exact .nil
    · rintro ⟨⟩
      rfl
  | cons param rest ih =>
    simp only [List.foldlM_cons, Option.bind_eq_bind, Option.bind_eq_some_iff,
      withParam_eq_some_iff, ih]
    constructor
    · rintro ⟨r, hfirst, hothers⟩
      exact .cons hfirst hothers
    · rintro ⟨⟩
      exact ⟨_, ‹_›, ‹_›⟩

theorem SetsAll.unique {r : Argon2.Params} {params : List (String × String)}
    (hq : SetsAll p params q) (hr : SetsAll p params r) : q = r :=
  Option.some.inj ((foldlM_withParam_eq_some_iff.mpr hq).symm.trans
    (foldlM_withParam_eq_some_iff.mpr hr))

/-! ### Recipes -/

def variantName : Argon2.Variant → String
  | .d => "argon2d"
  | .i => "argon2i"
  | .id => "argon2id"

/-- What the digest of a password is computed from. -/
structure Recipe where
  variant : Argon2.Variant
  version : Argon2.Version
  params : Argon2.Params
  salt : Bytes

/-- The digest that a recipe makes of a password. -/
def Recipe.compute (recipe : Recipe) (password : String) : Bytes :=
  Argon2.core recipe.variant recipe.version recipe.params (utf8 password) recipe.salt

/-- Costs that a hash can have. -/
structure Admissible (p : Argon2.Params) : Prop where
  memory : 8 ≤ p.memory ∧ 8 * p.lanes ≤ p.memory
  passes : 1 ≤ p.passes
  lanes : 1 ≤ p.lanes ∧ p.lanes ≤ 0xFFFFFF
  outputLength : 4 ≤ p.outputLength

/-- The costs of a hash that gives none. -/
def silentCosts (outputLength : Nat) : Argon2.Params where
  memory := 19456
  passes := 2
  lanes := 1
  outputLength := outputLength
  data := []

/-- Fields that give a recipe and the digest it should make. -/
structure Describes (fields : HashFields) (recipe : Recipe) (digest : Bytes) : Prop where
  algorithm : fields.algorithm = variantName recipe.variant
  version : fields.version = some recipe.version.code ∨
    fields.version = none ∧ recipe.version = .v19
  params : SetsAll (silentCosts digest.length) fields.params recipe.params
  admissible : Admissible recipe.params
  salt : fields.salt = some (encodeBase64 recipe.salt)
  saltLength : 8 ≤ recipe.salt.length ∧ recipe.salt.length ≤ 64
  digest : fields.digest = some digest

variable {fields : HashFields} {recipe : Recipe} {digest : Bytes} {password : String}

theorem lookup_variants_iff {name : String} {variant : Argon2.Variant} :
    variants.lookup name = some variant ↔ name = variantName variant := by
  simp only [variants, List.lookup_cons, List.lookup_nil]
  cases variant <;> simp only [variantName] <;> grind

theorem lookup_versions_iff {n : Nat} {version : Argon2.Version} :
    versions.lookup n = some version ↔ n = version.code := by
  simp only [versions, List.lookup_cons, List.lookup_nil]
  cases version <;> simp only [Argon2.Version.code] <;> grind

theorem isValid_iff : p.isValid = true ↔ Admissible p := by
  simp only [Argon2.Params.isValid, Bool.and_eq_true, decide_eq_true_eq]
  constructor
  · rintro ⟨⟨⟨⟨⟨hmin, hmemory⟩, hpasses⟩, hlanes⟩, hmax⟩, houtput⟩
    exact ⟨⟨hmin, hmemory⟩, hpasses, ⟨hlanes, hmax⟩, houtput⟩
  · rintro ⟨⟨hmin, hmemory⟩, hpasses, ⟨hlanes, hmax⟩, houtput⟩
    exact ⟨⟨⟨⟨⟨hmin, hmemory⟩, hpasses⟩, hlanes⟩, hmax⟩, houtput⟩

theorem params?_eq_some_iff :
    params? fields digest = some p ↔ SetsAll (silentCosts digest.length) fields.params p ∧
      Admissible p := by
  rw [params?, Option.filter_eq_some_iff, foldlM_withParam_eq_some_iff, isValid_iff]
  rfl

/-- The version that fields give, or are taken to give. -/
def version? (fields : HashFields) : Option Argon2.Version :=
  match fields.version with
  | none => some .v19
  | some n => versions.lookup n

theorem version?_eq_some_iff {version : Argon2.Version} :
    version? fields = some version ↔
      fields.version = some version.code ∨ fields.version = none ∧ version = .v19 := by
  rw [version?]
  split
  · next hnone => simp [hnone, eq_comm]
  · next n hn => simp [hn, lookup_versions_iff]

theorem recompute?_eq : recompute? fields password =
    fields.salt.bind fun salt => fields.digest.bind fun digest =>
      (variants.lookup fields.algorithm).bind fun variant => (version? fields).bind fun version =>
        (params? fields digest).bind fun p => (decodeBase64? 64 salt).bind fun salt =>
          if salt.length < 8 then none
          else some (Argon2.core variant version p (utf8 password) salt) := by
  rw [recompute?, version?]
  cases fields.version <;> rfl

/-- A digest is recomputed exactly if the fields give a recipe. -/
theorem recompute?_eq_some_iff {made : Bytes} :
    recompute? fields password = some made ↔
      ∃ recipe digest, Describes fields recipe digest ∧ recipe.compute password = made := by
  simp only [recompute?_eq, Option.bind_eq_some_iff, lookup_variants_iff, version?_eq_some_iff,
    params?_eq_some_iff, decodeBase64?_eq_some_iff]
  constructor
  · rintro ⟨salt, hsalt, digest, hdigest, variant, hvariant, version, hversion, p,
      ⟨hparams, hadmissible⟩, bytes, ⟨rfl, hmax⟩, hend⟩
    split at hend
    · cases hend
    next hmin =>
    exact ⟨⟨variant, version, p, bytes⟩, digest, ⟨hvariant, hversion, hparams, hadmissible, hsalt,
      ⟨Nat.le_of_not_lt hmin, hmax⟩, hdigest⟩, Option.some.inj hend⟩
  · rintro ⟨recipe, digest, h, rfl⟩
    refine ⟨_, h.salt, digest, h.digest, recipe.variant, h.algorithm, recipe.version, h.version,
      recipe.params, ⟨h.params, h.admissible⟩, recipe.salt, ⟨rfl, h.saltLength.2⟩, ?_⟩
    rw [if_neg (Nat.not_lt.mpr h.saltLength.1)]
    rfl

theorem encodeBase64_injective {bs cs : Bytes} (h : encodeBase64 bs = encodeBase64 cs) :
    bs = cs := by
  apply Base64.encode_injective .standard .none
  rw [← HashFields.utf8_encodeBase64, h, HashFields.utf8_encodeBase64]

theorem Describes.unique {recipe' : Recipe} {digest' : Bytes} (h : Describes fields recipe digest)
    (h' : Describes fields recipe' digest') : recipe = recipe' ∧ digest = digest' := by
  obtain rfl : digest = digest' := Option.some.inj (h.digest.symm.trans h'.digest)
  refine ⟨?_, rfl⟩
  obtain ⟨variant, version, params, salt⟩ := recipe
  obtain ⟨variant', version', params', salt'⟩ := recipe'
  have hvariant : variant = variant' := Option.some.inj
    ((lookup_variants_iff.mpr h.algorithm).symm.trans (lookup_variants_iff.mpr h'.algorithm))
  have hversion : version = version' := Option.some.inj
    ((version?_eq_some_iff.mpr h.version).symm.trans (version?_eq_some_iff.mpr h'.version))
  have hparams : params = params' := h.params.unique h'.params
  have hsalt : salt = salt' :=
    encodeBase64_injective (Option.some.inj (h.salt.symm.trans h'.salt))
  rw [hvariant, hversion, hparams, hsalt]

/-- A password is accepted if the recipe makes the digest of it. -/
theorem Describes.accepts_eq (h : Describes fields recipe digest) (password : String) :
    accepts fields password = decide (recipe.compute password = digest) := by
  have hmade : recompute? fields password = some (recipe.compute password) :=
    recompute?_eq_some_iff.mpr ⟨recipe, digest, h, rfl⟩
  rw [accepts, hmade, h.digest, Bool.eq_iff_iff, beq_iff_eq, Option.some.injEq, decide_eq_true_eq]
  exact eq_comm

theorem accepts_of_not_describes (h : ∀ recipe digest, ¬Describes fields recipe digest)
    (password : String) : accepts fields password = false := by
  have hnone : recompute? fields password = none := by
    rw [Option.eq_none_iff_forall_ne_some]
    intro made hmade
    obtain ⟨recipe, digest, hgives, -⟩ := recompute?_eq_some_iff.mp hmade
    exact h recipe digest hgives
  rw [accepts, hnone]

end TokenAuth.Password.Argon2Hash
