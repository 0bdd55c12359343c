import TokenAuth.Proofs.StoredHash

/-!
# Hashes of passwords

What is made of a password is a complete hash, with a salt and a digest of fixed lengths and the
costs that were used, so a password passes against the hash that was made of it (`verify_hash`).
-/

namespace TokenAuth

namespace Password

/-! ### Hashes of bcrypt -/

namespace BcryptHash

theorem length_core (cost : Nat) (salt key : Bytes) : (Bcrypt.core cost salt key).length = 23 := by
  simp [Bcrypt.core, Bcrypt.blocks, Sha256.wordBytes]

theorem complete_compute (salt : Bytes16) (password : String) :
    (compute bcryptCost salt.toList password).Complete where
  cost := (by decide : minCost ≤ bcryptCost ∧ bcryptCost ≤ maxCost)
  salt := salt.length_toList
  digest := length_core _ _ _

/-- A complete hash is written under each of the leads. -/
theorem writes_afterMarker {h : BcryptHash} (hcomplete : h.Complete) {lead : String}
    (hlead : lead ∈ ["$2a$", "$2b$", "$2x$", "$2y$"]) :
    StoredHash.Writes (lead ++ h.afterMarker) (.bcrypt h) := by
  have hmarkers : ∀ lead ∈ ["$2a$", "$2b$", "$2x$", "$2y$"],
      ∃ marker ∈ markers, lead = "$" ++ marker ++ "$" := by decide
  obtain ⟨marker, hmarker, heq⟩ := hmarkers lead hlead
  refine .bcrypt ⟨lead, hlead, _, rfl⟩ hcomplete ?_
  rw [heq]
  exact h.spells_afterMarker hmarker

end BcryptHash

/-! ### Hashes of Argon2 -/

namespace Argon2Hash

theorem length_digest {size : Nat} (hsize : size ≤ 64) (message : Bytes) :
    (Blake2b.digest size message).length = size := by
  have hwords (ws : List UInt64) : (ws.flatMap Blake2b.wordBytes).length = 8 * ws.length := by
    induction ws with
    | nil => rfl
    | cons w ws ih =>
      rw [List.flatMap_cons, List.length_append, ih, List.length_cons]
      have : (Blake2b.wordBytes w).length = 8 := rfl
      omega
  rw [Blake2b.digest, List.length_take, hwords, Vector.length_toList]
  omega

theorem length_core (salt : Bytes) (password : String) :
    (Argon2.core .id .v19 defaultParams (utf8 password) salt).length = 32 := by
  have hlong (message : Bytes) : (Argon2.longDigest 32 message).length = 32 := by
    rw [Argon2.longDigest, if_pos (by decide)]
    exact length_digest (by decide) _
  exact hlong _

/-- The fields of a hash under the default costs. -/
def fieldsOf (salt digest : Bytes) : HashFields where
  algorithm := "argon2id"
  version := some 19
  params := [("m", "19456"), ("t", "2"), ("p", "1")]
  salt := some (encodeBase64 salt)
  digest := some digest

variable {salt digest : Bytes}

theorem text_fieldsOf : (fieldsOf salt digest).text = "$argon2id$v=19$m=19456,t=2,p=1$" ++
    encodeBase64 salt ++ "$" ++ encodeBase64 digest := by
  have hversion : HashFields.versionText 19 = "v=19" := by decide +kernel
  have hparams : HashFields.paramsText [("m", "19456"), ("t", "2"), ("p", "1")] =
      "m=19456,t=2,p=1" := by decide
  have hsegments : (fieldsOf salt digest).segments =
      ["v=19", "m=19456,t=2,p=1", encodeBase64 salt, encodeBase64 digest] := by
    simp [HashFields.segments, HashFields.paramsSegments, HashFields.paramsSegment,
      HashFields.saltSegments, fieldsOf, hversion, hparams]
  rw [← String.toList_inj, HashFields.toList_text, hsegments]
  simp [fieldsOf, List.intercalate_cons_cons]

theorem wellFormed_fieldsOf (hsalt : salt.length = 16) (hdigest : digest.length = 32) :
    (fieldsOf salt digest).WellFormed where
  algorithm := (by decide +kernel : HashFields.IsName "argon2id")
  version := by
    rintro _ ⟨⟩
    decide
  param := (by decide +kernel : ∀ param ∈ [("m", "19456"), ("t", "2"), ("p", "1")],
    HashFields.IsParam param)
  params := (by decide +kernel : (HashFields.paramsText
    [("m", "19456"), ("t", "2"), ("p", "1")]).utf8ByteSize ≤ 127)
  unversioned := fun h => nomatch h
  salt := by
    rintro _ ⟨⟩
    rw [HashFields.IsValue, HashFields.byteSize_encodeBase64, hsalt]
    exact ⟨by decide, by decide, HashFields.isValueChar_of_mem salt⟩
  digest := by
    rintro _ ⟨⟩
    rw [hdigest]
    decide
  order := fun h => nomatch h

theorem text_eq (salt : Bytes) (password : String) :
    text salt password =
      (fieldsOf salt (Argon2.core .id .v19 defaultParams (utf8 password) salt)).text := by
  have hhead : "$argon2id$v=19$m=" ++ Digits.text (Digits.ofNat defaultParams.memory) ++ ",t=" ++
      Digits.text (Digits.ofNat defaultParams.passes) ++ ",p=" ++
      Digits.text (Digits.ofNat defaultParams.lanes) ++ "$" =
        "$argon2id$v=19$m=19456,t=2,p=1$" := by
    have hmemory : Digits.ofNat defaultParams.memory = [1, 9, 4, 5, 6] := by decide +kernel
    have hpasses : Digits.ofNat defaultParams.passes = [2] := by decide +kernel
    have hlanes : Digits.ofNat defaultParams.lanes = [1] := by decide +kernel
    rw [hmemory, hpasses, hlanes]
    decide
  rw [text_fieldsOf]
  unfold text
  dsimp only
  rw [hhead]

theorem describes_fieldsOf (hsalt : salt.length = 16) (hdigest : digest.length = 32) :
    Describes (fieldsOf salt digest) ⟨.id, .v19, defaultParams, salt⟩ digest where
  algorithm := rfl
  version := .inl rfl
  params := by
    rw [hdigest]
    exact foldlM_withParam_eq_some_iff.mp rfl
  admissible := isValid_iff.mp rfl
  salt := rfl
  saltLength := by
    rw [hsalt]
    decide
  digest := rfl

end Argon2Hash

/-! ### Checking a password -/

/-- The hash that is made of a password. -/
def made (algorithm : Algorithm) (salt : Bytes16) (password : String) : StoredHash :=
  match algorithm with
  | .bcrypt => .bcrypt (BcryptHash.compute bcryptCost salt.toList password)
  | .argon2 => .argon2 ⟨.id, .v19, Argon2Hash.defaultParams, salt.toList⟩
      (Argon2.core .id .v19 Argon2Hash.defaultParams (utf8 password) salt.toList)

theorem recompute_made (algorithm : Algorithm) (salt : Bytes16) (password : String) :
    (made algorithm salt password).recompute password = (made algorithm salt password).digest := by
  cases algorithm <;> rfl

theorem writes_hash (algorithm : Algorithm) (salt : Bytes16) (password : String) :
    StoredHash.Writes (hash algorithm salt password) (made algorithm salt password) := by
  cases algorithm with
  | bcrypt =>
    rw [hash, BcryptHash.text_eq]
    exact BcryptHash.writes_afterMarker (BcryptHash.complete_compute salt password) (by decide)
  | argon2 =>
    have hdigest := Argon2Hash.length_core salt.toList password
    exact .argon2 (Argon2Hash.wellFormed_fieldsOf salt.length_toList hdigest)
      (Argon2Hash.text_eq salt.toList password)
      (Argon2Hash.describes_fieldsOf salt.length_toList hdigest)

theorem verify_hash_bcrypt (salt : Bytes16) (password other : String) :
    verify other (hash .bcrypt salt password) =
      .ok (Bcrypt.core bcryptCost salt.toList (Bcrypt.key (utf8 other)) ==
        Bcrypt.core bcryptCost salt.toList (Bcrypt.key (utf8 password))) := by
  have hwrites := writes_hash .bcrypt salt password
  rw [verify_of_writes hwrites.bared_self hwrites, Except.ok.injEq, Bool.eq_iff_iff,
    decide_eq_true_eq, beq_iff_eq]
  rfl

/-- **A password is accepted by the hash that was made of it**, whichever algorithm and salt made
it. -/
theorem verify_hash (algorithm : Algorithm) (salt : Bytes16) (password : String) :
    verify password (hash algorithm salt password) = .ok true := by
  have hwrites := writes_hash algorithm salt password
  rw [verify_of_writes hwrites.bared_self hwrites, recompute_made, decide_eq_true rfl]

end Password

end TokenAuth
