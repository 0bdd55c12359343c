import TokenAuth.Password.Hasher
import TokenAuth.Proofs.BcryptText
import TokenAuth.Proofs.Recipe
import TokenAuth.Proofs.Trimmed

/-!
# Stored hashes

What a stored text is a hash of, whichever algorithm made it: a complete hash with its salt, its
costs and its digest, written after the lead of its algorithm. Against such a text a password passes
if the digest comes out again (`verify_of_writes`).
-/

namespace TokenAuth.Password

/-! ### What stands in front -/

def BcryptLed (text : String) : Prop :=
  ∃ lead ∈ ["$2a$", "$2b$", "$2x$", "$2y$"], ∃ rest, text = lead ++ rest

def Argon2Led (text : String) : Prop := ∃ rest, text = "$argon2" ++ rest

/-- The text is what is stored, but for one encoder id in front of it. -/
def Bared (stored text : String) : Prop :=
  stored = "\x7bbcrypt\x7d" ++ text ∨ stored = "\x7bargon2\x7d" ++ text ∨
    stored = text ∧ ∀ rest, text ≠ "\x7bbcrypt\x7d" ++ rest ∧ text ≠ "\x7bargon2\x7d" ++ rest

variable {stored text lead password : String}

theorem startsWith_iff : startsWith lead text = true ↔ ∃ rest, text = lead ++ rest := by
  simp only [startsWith, Option.isSome_iff_exists, Text.afterLead?_eq_some_iff]

theorem any_startsWith_iff :
    (bcryptLeads.any fun lead => startsWith lead text) = true ↔ BcryptLed text := by
  simp only [List.any_eq_true, startsWith_iff]
  rfl

theorem BcryptLed.not_argon2Led (h : BcryptLed text) : ¬Argon2Led text := by
  rintro ⟨rest, rfl⟩
  obtain ⟨lead, hlead, other, heq⟩ := h
  rw [← String.toList_inj, String.toList_append, String.toList_append] at heq
  simp only [List.mem_cons, List.not_mem_nil, or_false] at hlead
  rcases hlead with rfl | rfl | rfl | rfl <;> simp at heq

theorem bared_withoutEncoderId (stored : String) : Bared stored (withoutEncoderId stored) := by
  cases hbcrypt : Text.afterLead? "\x7bbcrypt\x7d" stored with
  | some rest =>
    have hrest : withoutEncoderId stored = rest := by simp [withoutEncoderId, encoderIds, hbcrypt]
    rw [hrest]
    exact .inl (Text.afterLead?_eq_some_iff.mp hbcrypt)
  | none =>
    cases hargon2 : Text.afterLead? "\x7bargon2\x7d" stored with
    | some rest =>
      have hrest : withoutEncoderId stored = rest := by
        simp [withoutEncoderId, encoderIds, hbcrypt, hargon2]
      rw [hrest]
      exact .inr (.inl (Text.afterLead?_eq_some_iff.mp hargon2))
    | none =>
      have hrest : withoutEncoderId stored = stored := by
        simp [withoutEncoderId, encoderIds, hbcrypt, hargon2]
      rw [hrest]
      refine .inr (.inr ⟨rfl, fun rest => ⟨?_, ?_⟩⟩)
      · intro heq
        exact nomatch hbcrypt.symm.trans (Text.afterLead?_eq_some_iff.mpr heq)
      · intro heq
        exact nomatch hargon2.symm.trans (Text.afterLead?_eq_some_iff.mpr heq)

theorem withoutEncoderId_eq_iff : withoutEncoderId stored = text ↔ Bared stored text := by
  constructor
  · rintro rfl
    exact bared_withoutEncoderId stored
  · rintro (rfl | rfl | ⟨rfl, hnone⟩)
    · simp [withoutEncoderId, encoderIds, Text.afterLead?_append]
    · have hother : Text.afterLead? "\x7bbcrypt\x7d" ("\x7bargon2\x7d" ++ text) = none := by
        simp [Text.afterLead?]
      simp [withoutEncoderId, encoderIds, hother, Text.afterLead?_append]
    · rcases bared_withoutEncoderId stored with h | h | ⟨h, -⟩
      · exact absurd h (hnone _).1
      · exact absurd h (hnone _).2
      · exact h.symm

/-- A text that begins with a dollar sign is stored as it is, or after an encoder id. -/
theorem bared_of_dollar (text : String) {id : String}
    (hid : id ∈ ["", "\x7bbcrypt\x7d", "\x7bargon2\x7d"]) :
    Bared (id ++ ("$" ++ text)) ("$" ++ text) := by
  simp only [List.mem_cons, List.not_mem_nil, or_false] at hid
  rcases hid with rfl | rfl | rfl
  · refine .inr (.inr ⟨String.empty_append, fun rest => ⟨?_, ?_⟩⟩) <;>
      simp [← String.toList_inj]
  · exact .inl rfl
  · exact .inr (.inl rfl)

/-! ### Complete hashes -/

/-- A hash of either algorithm, with what a password is to be checked against. -/
inductive StoredHash
  | bcrypt (h : BcryptHash)
  | argon2 (recipe : Argon2Hash.Recipe) (digest : Bytes)

namespace StoredHash

def digest : StoredHash → Bytes
  | bcrypt h => h.digest
  | argon2 _ digest => digest

/-- The digest that a password gives under the costs and the salt in a hash. -/
def recompute (password : String) : StoredHash → Bytes
  | bcrypt h => Bcrypt.core h.cost h.salt (Bcrypt.key (utf8 password))
  | argon2 recipe _ => recipe.compute password

/-- A text of a complete hash. -/
inductive Writes (text : String) : StoredHash → Prop
  | bcrypt {h : BcryptHash} (hled : BcryptLed text) (hcomplete : h.Complete)
      (hspells : BcryptHash.Spells text h) : Writes text (.bcrypt h)
  | argon2 {fields : HashFields} {recipe : Argon2Hash.Recipe} {digest : Bytes}
      (hform : fields.WellFormed) (htext : text = fields.text)
      (hgives : Argon2Hash.Describes fields recipe digest) : Writes text (.argon2 recipe digest)

end StoredHash

/-! ### What is made of a stored text -/

variable {fields : HashFields} {recipe : Argon2Hash.Recipe} {digest : Bytes}

theorem argon2Led_of_describes (hgives : Argon2Hash.Describes fields recipe digest) :
    Argon2Led fields.text := by
  have hlead (variant : Argon2.Variant) :
      ∃ suffix, Argon2Hash.variantName variant = "argon2" ++ suffix := by
    cases variant with
    | d => exact ⟨"d", by decide⟩
    | i => exact ⟨"i", by decide⟩
    | id => exact ⟨"id", by decide⟩
  have hjoin : "$argon2" = "$" ++ "argon2" := by decide
  obtain ⟨suffix, hsuffix⟩ := hlead recipe.variant
  obtain ⟨rest, htext⟩ := fields.exists_text_eq
  refine ⟨suffix ++ rest, ?_⟩
  rw [htext, hgives.algorithm, hsuffix, hjoin]
  simp only [String.append_assoc]

theorem StoredHash.Writes.argon2Led (h : StoredHash.Writes text (.argon2 recipe digest)) :
    Argon2Led text := by
  cases h with
  | argon2 _ htext hgives => exact htext ▸ argon2Led_of_describes hgives

theorem verify_of_bcryptLed (hbared : Bared stored text) (hled : BcryptLed text) :
    verify password stored =
      ((BcryptHash.read text).mapError fun fault => .corruptHash (.bcrypt fault)).map
        fun h => h.accepts password := by
  simp only [verify, withoutEncoderId_eq_iff.mpr hbared, any_startsWith_iff.mpr hled, if_true]
  cases BcryptHash.read text <;> rfl

theorem verify_of_argon2Led (hbared : Bared stored text) (hled : Argon2Led text) :
    verify password stored =
      ((HashFields.read text).mapError fun fault => .corruptHash (.argon2 fault)).map
        fun fields => Argon2Hash.accepts fields password := by
  have hbcrypt : ¬BcryptLed text := fun h => h.not_argon2Led hled
  rw [← any_startsWith_iff, Bool.not_eq_true] at hbcrypt
  simp only [verify, withoutEncoderId_eq_iff.mpr hbared, hbcrypt, startsWith_iff.mpr hled, if_true,
    Bool.false_eq_true, if_false]
  cases HashFields.read text <;> rfl

theorem verify_of_unled (hbared : Bared stored text) (hbcrypt : ¬BcryptLed text)
    (hargon2 : ¬Argon2Led text) : verify password stored = .error .unrecognizedHash := by
  rw [← any_startsWith_iff, Bool.not_eq_true] at hbcrypt
  have hnot : startsWith "$argon2" text = false := by
    rw [← Bool.not_eq_true, startsWith_iff]
    exact hargon2
  simp only [verify, withoutEncoderId_eq_iff.mpr hbared, hbcrypt, hnot, Bool.false_eq_true,
    if_false]

theorem StoredHash.Writes.dollar {hash : StoredHash} (h : StoredHash.Writes text hash) :
    ∃ rest, text = "$" ++ rest := by
  cases h with
  | bcrypt hled _ _ =>
    obtain ⟨lead, hlead, rest, rfl⟩ := hled
    have hdollar : ∀ lead ∈ ["$2a$", "$2b$", "$2x$", "$2y$"],
        ∃ marker ∈ ["2a$", "2b$", "2x$", "2y$"], lead = "$" ++ marker := by decide
    obtain ⟨marker, -, rfl⟩ := hdollar lead hlead
    exact ⟨marker ++ rest, String.append_assoc⟩
  | argon2 _ htext _ =>
    obtain ⟨rest, hrest⟩ := HashFields.exists_text_eq _
    exact ⟨_, htext.trans hrest⟩

theorem StoredHash.Writes.bared {hash : StoredHash} (h : StoredHash.Writes text hash)
    {id : String} (hid : id ∈ ["", "\x7bbcrypt\x7d", "\x7bargon2\x7d"]) :
    Bared (id ++ text) text := by
  obtain ⟨rest, rfl⟩ := h.dollar
  exact bared_of_dollar rest hid

theorem StoredHash.Writes.bared_self {hash : StoredHash} (h : StoredHash.Writes text hash) :
    Bared text text := by
  have hid : "" ∈ ["", "\x7bbcrypt\x7d", "\x7bargon2\x7d"] := by decide
  simpa using h.bared hid

/-- **Against a complete hash a password passes exactly if its digest comes out again.** -/
theorem verify_of_writes {hash : StoredHash} (hbared : Bared stored text)
    (hwrites : StoredHash.Writes text hash) (password : String) :
    verify password stored = .ok (decide (hash.recompute password = hash.digest)) := by
  cases hwrites with
  | bcrypt hled hcomplete hspells =>
    rw [verify_of_bcryptLed hbared hled, BcryptHash.read_eq_ok_iff.mpr ⟨hcomplete, hspells⟩]
    have haccepts (h : BcryptHash) : h.accepts password =
        decide (StoredHash.recompute password (.bcrypt h) = StoredHash.digest (.bcrypt h)) := by
      rw [Bool.eq_iff_iff, BcryptHash.accepts, beq_iff_eq, decide_eq_true_eq]
      rfl
    exact congrArg Except.ok (haccepts _)
  | argon2 hform htext hgives =>
    have hled : Argon2Led text := (StoredHash.Writes.argon2 hform htext hgives).argon2Led
    rw [verify_of_argon2Led hbared hled, HashFields.read_eq_ok_iff.mpr ⟨hform, htext⟩]
    exact congrArg Except.ok (hgives.accepts_eq password)

end TokenAuth.Password
