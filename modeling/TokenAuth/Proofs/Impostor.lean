import TokenAuth.Proofs.Dismissed

/-!
# Passwords that pass for another

A hash of bcrypt is made of the bytes that fill the key schedule: the password and a zero byte,
repeated without end, the first 72 of them. A password that fills it with the same bytes as another
passes for that one. One that does not is refused, unless the two keys collide. Main statement:
`other_password_refused_iff`.
-/

namespace TokenAuth

namespace Sha256

theorem wordBytes_word (a b c d : UInt8) :
    wordBytes ((a.toUInt32 <<< 24) ||| (b.toUInt32 <<< 16) ||| (c.toUInt32 <<< 8) ||| d.toUInt32) =
      [a, b, c, d] := by
  have hhigh (x : UInt8) (i : Nat) (hi : 8 ≤ i) : x.toBitVec.getLsbD i = false :=
    BitVec.getLsbD_of_ge _ _ hi
  simp only [wordBytes, List.cons.injEq, and_true]
  refine ⟨?_, ?_, ?_, ?_⟩ <;> apply UInt8.eq_of_toBitVec_eq <;> apply BitVec.eq_of_getLsbD_eq <;>
    intro i hi <;> simp <;> grind

/-- A word holds its four bytes. -/
theorem headD_words_inj {a b c d a' b' c' d' : UInt8}
    (h : (words [a, b, c, d]).headD 0 = (words [a', b', c', d']).headD 0) :
    [a, b, c, d] = [a', b', c', d'] := by
  simp only [words, List.headD_cons] at h
  rw [← wordBytes_word, h, wordBytes_word]

end Sha256

/-! ### What fills the key schedule -/

namespace Bcrypt

/-- The bytes that fill the key schedule: a key that is repeated without end. -/
def filling (key : Bytes) : Bytes := (List.range maxKeyLength).map (cycled key)

/-- Two keys of which the core is given different words and makes one digest. -/
def Collide (cost : Nat) (salt key key' : Bytes) : Prop :=
  keyWords key ≠ keyWords key' ∧ core cost salt key = core cost salt key'

variable {key key' p q : Bytes}

theorem filling_eq_iff :
    filling key = filling key' ↔ ∀ i < maxKeyLength, cycled key i = cycled key' i := by
  simp [filling, List.map_inj_left]

theorem getElem_keyWords (key : Bytes) (i : Nat) (hi : i < 18) :
    (keyWords key)[i] = (Sha256.words [cycled key (4 * i), cycled key (4 * i + 1),
      cycled key (4 * i + 2), cycled key (4 * i + 3)]).headD 0 := by
  simp [keyWords, List.range_succ]

/-- **The core is given the same words exactly if the same bytes fill the schedule.** -/
theorem keyWords_eq_iff : keyWords key = keyWords key' ↔ filling key = filling key' := by
  rw [filling_eq_iff]
  constructor
  · intro h i hi
    have hword : i / 4 < 18 := by
      rw [maxKeyLength] at hi
      omega
    have hbytes := congrArg (fun ws : Subkeys => ws[i / 4]) h
    simp only [getElem_keyWords] at hbytes
    have hquad := Sha256.headD_words_inj hbytes
    simp only [List.cons.injEq, and_true] at hquad
    obtain ⟨h0, h1, h2, h3⟩ := hquad
    have hplace : i = 4 * (i / 4) ∨ i = 4 * (i / 4) + 1 ∨ i = 4 * (i / 4) + 2 ∨
        i = 4 * (i / 4) + 3 := by omega
    rcases hplace with hi | hi | hi | hi <;> rw [hi] <;> assumption
  · intro h
    apply Vector.ext
    intro i hi
    have hbyte (j : Nat) (hj : j < 4) : cycled key (4 * i + j) = cycled key' (4 * i + j) := by
      apply h
      rw [maxKeyLength]
      omega
    have hfirst : cycled key (4 * i) = cycled key' (4 * i) := hbyte 0 (by decide)
    rw [getElem_keyWords, getElem_keyWords, hfirst, hbyte 1 (by decide), hbyte 2 (by decide),
      hbyte 3 (by decide)]

theorem core_eq_of_filling_eq (cost : Nat) (salt : Bytes) (h : filling key = filling key') :
    core cost salt key = core cost salt key' := by
  simp only [core, keyWords_eq_iff.mpr h]

/-- Two keys have one digest if the same bytes fill the schedule, or if they collide. -/
theorem core_eq_iff {cost : Nat} {salt : Bytes} :
    core cost salt key = core cost salt key' ↔
      filling key = filling key' ∨ Collide cost salt key key' := by
  rw [Collide, ne_eq, keyWords_eq_iff]
  constructor
  · intro h
    by_cases hfilling : filling key = filling key'
    · exact .inl hfilling
    · exact .inr ⟨hfilling, h⟩
  · rintro (hfilling | ⟨-, h⟩)
    · exact core_eq_of_filling_eq cost salt hfilling
    · exact h

/-! ### Keys of passwords -/

theorem key_of_le (h : maxKeyLength ≤ p.length) : Bcrypt.key p = p.take maxKeyLength := by
  rw [Bcrypt.key, List.take_append_of_le_length h]

theorem key_of_lt (h : p.length < maxKeyLength) : Bcrypt.key p = p ++ [0] := by
  rw [Bcrypt.key, List.take_of_length_le]
  rw [List.length_append]
  exact h

theorem cycled_of_lt {i : Nat} (h : i < key.length) : cycled key i = key[i] := by
  rw [cycled, Nat.mod_eq_of_lt h, List.getD_eq_getElem?_getD, List.getElem?_eq_getElem h,
    Option.getD_some]

theorem cycled_key_of_lt {i : Nat} (hi : i < p.length) (hcounts : i < maxKeyLength) :
    cycled (Bcrypt.key p) i = p[i] := by
  have hlength : i < (Bcrypt.key p).length := by
    rw [Bcrypt.key, List.length_take, List.length_append]
    omega
  rw [cycled_of_lt hlength]
  simp only [Bcrypt.key, List.getElem_take]
  exact List.getElem_append_left hi

theorem cycled_key_length (h : p.length < maxKeyLength) : cycled (Bcrypt.key p) p.length = 0 := by
  have hlength : p.length < (Bcrypt.key p).length := by
    rw [key_of_lt h, List.length_append]
    exact Nat.lt_succ_self _
  rw [cycled_of_lt hlength]
  simp [key_of_lt h]

/-- The zero byte after a short password stands inside no password without such bytes. -/
theorem length_le_of_filling_eq (hp : p.length < maxKeyLength) (hq : 0 ∉ q)
    (h : filling (Bcrypt.key p) = filling (Bcrypt.key q)) : q.length ≤ p.length := by
  apply Nat.le_of_not_lt
  intro hlt
  have hbyte : cycled (Bcrypt.key p) p.length = cycled (Bcrypt.key q) p.length :=
    filling_eq_iff.mp h p.length hp
  rw [cycled_key_length hp, cycled_key_of_lt hlt hp] at hbyte
  apply hq
  rw [hbyte]
  exact List.getElem_mem hlt

theorem take_eq_of_filling_eq (hlength : p.length = q.length ∨
      maxKeyLength ≤ p.length ∧ maxKeyLength ≤ q.length)
    (h : filling (Bcrypt.key p) = filling (Bcrypt.key q)) :
    p.take maxKeyLength = q.take maxKeyLength := by
  apply List.ext_getElem
  · rw [List.length_take, List.length_take]
    omega
  · intro i hip hiq
    rw [List.length_take] at hip hiq
    have hbyte := filling_eq_iff.mp h i (by omega)
    rw [cycled_key_of_lt (by omega) (by omega), cycled_key_of_lt (by omega) (by omega)] at hbyte
    rwa [List.getElem_take, List.getElem_take]

/-- **Passwords without zero bytes fill the schedule alike exactly if they begin with the same 72
bytes.** -/
theorem filling_key_eq_iff (hp : 0 ∉ p) (hq : 0 ∉ q) :
    filling (Bcrypt.key p) = filling (Bcrypt.key q) ↔
      p.take maxKeyLength = q.take maxKeyLength := by
  constructor
  · intro h
    apply take_eq_of_filling_eq _ h
    by_cases hshort : p.length < maxKeyLength
    · have hle := length_le_of_filling_eq hshort hq h
      have hge := length_le_of_filling_eq (Nat.lt_of_le_of_lt hle hshort) hp h.symm
      exact .inl (Nat.le_antisymm hge hle)
    · refine .inr ⟨Nat.le_of_not_lt hshort, Nat.le_of_not_lt fun hlt => ?_⟩
      exact hshort (Nat.lt_of_le_of_lt (length_le_of_filling_eq hlt hp h.symm) hlt)
  · intro h
    have hlength := congrArg List.length h
    rw [List.length_take, List.length_take] at hlength
    by_cases hshort : p.length < maxKeyLength
    · have hp' : p.take maxKeyLength = p := List.take_of_length_le (Nat.le_of_lt hshort)
      have hq' : q.take maxKeyLength = q := List.take_of_length_le (by omega)
      rw [← hp', h, hq']
    · rw [key_of_le (by omega), key_of_le (by omega), h]

end Bcrypt

/-! ### Passwords against a hash of another -/

namespace Password

/-- A password that passes for another under a salt: both fill the key schedule with the same bytes,
or their keys collide. -/
def PassesFor (salt : Bytes16) (other password : String) : Prop :=
  Bcrypt.filling (Bcrypt.key (utf8 other)) = Bcrypt.filling (Bcrypt.key (utf8 password)) ∨
    Bcrypt.Collide bcryptCost salt.toList (Bcrypt.key (utf8 other)) (Bcrypt.key (utf8 password))

variable {salt : Bytes16} {password other : String}

theorem verify_hash_bcrypt_eq_true_iff :
    verify other (hash .bcrypt salt password) = .ok true ↔ PassesFor salt other password := by
  rw [verify_hash_bcrypt, Except.ok.injEq, beq_iff_eq]
  exact Bcrypt.core_eq_iff

theorem verify_hash_bcrypt_eq_false_iff :
    verify other (hash .bcrypt salt password) = .ok false ↔ ¬PassesFor salt other password := by
  rw [← verify_hash_bcrypt_eq_true_iff, verify_hash_bcrypt, Except.ok.injEq, Except.ok.injEq,
    Bool.not_eq_true]

end Password

/-! ### Signing in with another password -/

namespace SignIn

open Directory Outcome Password

variable {service : SignIn} {m : Moment} {σ : Type} {directory : Service σ} {s : σ}

/-- What was registered is found with the hash of its password. -/
theorem find_after_register (hkeeps : directory.KeepsAccounts) {r : Registration}
    {user : RegisteredUser} (h : ((service.register m r).run directory s).result = .ok user) :
    ∃ c salt, (directory.find r.email.text ((service.register m r).run directory s).state).1 =
        .ok (some c) ∧ c.enabled = true ∧ m.work.salt = .ok salt ∧
      c.passwordHash = Password.hash service.algorithm salt r.password := by
  cases hhash : service.hashPassword m.work r.password with
  | error e =>
    rw [run_register_of_error hhash] at h
    exact nomatch h
  | ok hashed =>
    rw [run_register_of_ok hhash] at h ⊢
    obtain ⟨c, _, hfind, -, hkept, henabled, -⟩ :=
      hkeeps.kept (.ofRegistration r hashed) s user (mapError_eq_ok_iff.mp h)
    obtain ⟨-, salt, hsalt, rfl⟩ := hashPassword_eq_ok_iff.mp hhash
    exact ⟨c, salt, hfind, henabled, hsalt, hkept⟩

/-- **Another password is refused unless it passes for the one that was hashed.** Without collisions
and zero bytes it does so exactly if the two begin with the same 72 bytes, so the bytes after them
protect nothing. A login to a registered account is refused by the same rule, wherever the password
is checked. -/
theorem other_password_refused_iff (salt : Bytes16) (p q : String) (service : SignIn) {σ : Type}
    (directory : Service σ) (m m' : Moment) (s : σ) (r : Registration) :
    (Password.verify q (Password.hash .bcrypt salt p) = .ok false ↔ ¬PassesFor salt q p) ∧
    (Password.verify q (Password.hash .bcrypt salt p) = .ok true ↔ PassesFor salt q p) ∧
    (0 ∉ utf8 p → 0 ∉ utf8 q →
      (PassesFor salt q p ↔ (utf8 q).take 72 = (utf8 p).take 72 ∨
        Bcrypt.Collide bcryptCost salt.toList (Bcrypt.key (utf8 q)) (Bcrypt.key (utf8 p)))) ∧
    (service.algorithm = .bcrypt → directory.KeepsAccounts →
      (∃ user, ((service.register m r).run directory s).result = .ok user) →
      ∃ salt, m.work.salt = .ok salt ∧
        (((service.login m' r.email.text q).run directory
            ((service.register m r).run directory s).state).result = .error .badCredentials ↔
          m'.work.loss = none ∧ ¬PassesFor salt q r.password)) := by
  refine ⟨verify_hash_bcrypt_eq_false_iff, verify_hash_bcrypt_eq_true_iff, ?_, ?_⟩
  · intro hp hq
    rw [PassesFor, Bcrypt.filling_key_eq_iff hq hp]
    rfl
  · rintro hbcrypt hkeeps ⟨user, hregister⟩
    obtain ⟨c, salt, hfind, henabled, hsalt, hhash⟩ := find_after_register hkeeps hregister
    refine ⟨salt, hsalt, ?_⟩
    rw [run_login, hfind, finishLogin_found_eq_badCredentials_iff, henabled, hhash, hbcrypt, ne_eq,
      verify_hash_bcrypt_eq_true_iff]
    simp

/-- A password of 73 bytes. -/
def longPassword (last : Char) : String := String.ofList (List.replicate 72 'a' ++ [last])

theorem take_longPassword :
    (utf8 (longPassword 'c')).take 72 = (utf8 (longPassword 'b')).take 72 := by
  decide +kernel

def longFields : List (String × String) :=
  [("email", "a@b.org"), ("password", longPassword 'b'), ("firstName", "Alice"),
    ("lastName", "Liddell"), ("birthDate", "1990-01-01"), ("sex", "FEMALE")]

/-- A registered account lets in who knows the first 72 bytes of its password. -/
theorem long_password_passes : ∃ r : Registration, r.password = longPassword 'b' ∧
    ((twinService.login twinMoment r.email.text (longPassword 'c')).run registry
      ((twinService.register twinMoment r).run registry []).state).result ≠
        .error .badCredentials := by
  have hread : (Http.Form.registration longFields twinMoment.now.day).isOk = true := by
    decide +kernel
  cases hregistration : Http.Form.registration longFields twinMoment.now.day with
  | error e =>
    rw [hregistration] at hread
    exact nomatch hread
  | ok r =>
    have hpassword : r.password = longPassword 'b' :=
      (Http.Form.of_registration_eq_ok hregistration).2.1
    obtain ⟨-, -, hpasses, hlogin⟩ := other_password_refused_iff SigningKeys.twinStamp.random
      (longPassword 'b') (longPassword 'c') twinService registry twinMoment twinMoment [] r
    have hregister : (twinService.register twinMoment r).run registry [] = _ :=
      run_register_of_ok (hashPassword_twin r.password)
    obtain ⟨salt, hsalt, hrefused⟩ :=
      hlogin rfl keepsAccounts_registry ⟨_, congrArg Run.result hregister⟩
    obtain rfl := Except.ok.inj hsalt
    refine ⟨r, hpassword, fun hbad => (hrefused.mp hbad).2 ?_⟩
    rw [hpassword]
    exact (hpasses (by decide +kernel) (by decide +kernel)).mpr (.inl take_longPassword)

/-- Two passwords of which the core is given one key. -/
theorem other_password_accepted : longPassword 'c' ≠ longPassword 'b' ∧
    Bcrypt.key (utf8 (longPassword 'c')) = Bcrypt.key (utf8 (longPassword 'b')) ∧
    ∀ salt, Password.verify (longPassword 'c') (Password.hash .bcrypt salt (longPassword 'b')) =
      .ok true := by
  have hkey : Bcrypt.key (utf8 (longPassword 'c')) = Bcrypt.key (utf8 (longPassword 'b')) := by
    decide +kernel
  refine ⟨by decide, hkey, fun salt => ?_⟩
  rw [verify_hash_bcrypt, hkey, beq_self_eq_true]

end SignIn

end TokenAuth
