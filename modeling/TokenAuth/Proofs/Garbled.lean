import TokenAuth.Proofs.Impostor

/-!
# Garbled hashes

What should be said of a stored text: that it is of no known format, that it is garbled, or whether
a password passes. That is said of every text but those that are read as Argon2 fields and give
nothing to compute: they are taken for hashes of another password. Main statement:
`stored_hashes_judged_iff`.
-/

namespace TokenAuth

namespace Password

open StoredHash (Writes)

def KnownLead (text : String) : Prop := BcryptLed text ∨ Argon2Led text

/-- What should be said of a stored text when a password is checked against it. -/
inductive Verdict (password text : String) : Except Error Bool → Prop
  | unrecognized (hlead : ¬KnownLead text) : Verdict password text (.error .unrecognizedHash)
  | checked {hash : StoredHash} {passes : Bool} (hwrites : Writes text hash)
      (hpasses : passes = true ↔ hash.recompute password = hash.digest) :
      Verdict password text (.ok passes)
  | corrupt {cause : Corruption} (hlead : KnownLead text) (hnone : ∀ hash, ¬Writes text hash) :
      Verdict password text (.error (.corruptHash cause))

/-- Fields after the lead of Argon2 that give nothing to compute: no known variant or version, a
parameter or a salt out of range, or no salt or digest at all. -/
def Unusable (text : String) : Prop :=
  Argon2Led text ∧ ∃ fields : HashFields, fields.WellFormed ∧ text = fields.text ∧
    ∀ recipe digest, ¬Argon2Hash.Describes fields recipe digest

variable {password stored text : String}

theorem HashFields.text_injective {f g : HashFields} (hf : f.WellFormed) (hg : g.WellFormed)
    (h : f.text = g.text) : f = g :=
  Except.ok.inj ((read_eq_ok_iff.mpr ⟨hf, rfl⟩).symm.trans (read_eq_ok_iff.mpr ⟨hg, h⟩))

theorem Unusable.not_writes (h : Unusable text) (hash : StoredHash) : ¬Writes text hash := by
  obtain ⟨hled, fields, hform, htext, hnone⟩ := h
  intro hwrites
  cases hwrites with
  | bcrypt hbcrypt _ _ => exact hbcrypt.not_argon2Led hled
  | argon2 hform' htext' hgives =>
    -- A text has one reading as fields only, and these describe nothing.
    obtain rfl := HashFields.text_injective hform hform' (htext.symm.trans htext')
    exact hnone _ _ hgives

theorem verdict_of_bcryptLed (hbared : Bared stored text) (hled : BcryptLed text) :
    Verdict password text (verify password stored) := by
  cases hread : BcryptHash.read text with
  | ok h =>
    obtain ⟨hcomplete, hspells⟩ := BcryptHash.read_eq_ok_iff.mp hread
    have hwrites : Writes text (.bcrypt h) := .bcrypt hled hcomplete hspells
    rw [verify_of_writes hbared hwrites]
    exact .checked hwrites decide_eq_true_iff
  | error fault =>
    rw [verify_of_bcryptLed hbared hled, hread]
    refine .corrupt (.inl hled) fun hash hwrites => ?_
    cases hwrites with
    | bcrypt _ hcomplete hspells =>
      have hok := BcryptHash.read_eq_ok_iff.mpr ⟨hcomplete, hspells⟩
      exact nomatch hread.symm.trans hok
    | argon2 hform htext hgives =>
      exact hled.not_argon2Led (Writes.argon2 hform htext hgives).argon2Led

theorem verdict_of_argon2Led (hbared : Bared stored text) (hled : Argon2Led text) :
    Verdict password text (verify password stored) ∨ Unusable text := by
  cases hread : HashFields.read text with
  | ok fields =>
    obtain ⟨hform, htext⟩ := HashFields.read_eq_ok_iff.mp hread
    by_cases hgives : ∃ recipe digest, Argon2Hash.Describes fields recipe digest
    · obtain ⟨recipe, digest, hgives⟩ := hgives
      have hwrites : Writes text (.argon2 recipe digest) := .argon2 hform htext hgives
      rw [verify_of_writes hbared hwrites]
      exact .inl (.checked hwrites decide_eq_true_iff)
    · exact .inr ⟨hled, fields, hform, htext, fun recipe digest h => hgives ⟨recipe, digest, h⟩⟩
  | error fault =>
    rw [verify_of_argon2Led hbared hled, hread]
    refine .inl (.corrupt (.inr hled) fun hash hwrites => ?_)
    cases hwrites with
    | bcrypt hbcrypt _ _ => exact hbcrypt.not_argon2Led hled
    | argon2 hform htext _ =>
      have hok := HashFields.read_eq_ok_iff.mpr ⟨hform, htext⟩
      exact nomatch hread.symm.trans hok

theorem verdict_or_unusable (password : String) (hbared : Bared stored text) :
    Verdict password text (verify password stored) ∨ Unusable text := by
  by_cases hbcrypt : BcryptLed text
  · exact .inl (verdict_of_bcryptLed hbared hbcrypt)
  by_cases hargon2 : Argon2Led text
  · exact verdict_of_argon2Led hbared hargon2
  · rw [verify_of_unled hbared hbcrypt hargon2]
    exact .inl (.unrecognized (not_or.mpr ⟨hbcrypt, hargon2⟩))

theorem Unusable.verify_eq (h : Unusable text) (password : String) (hbared : Bared stored text) :
    verify password stored = .ok false := by
  obtain ⟨hled, fields, hform, htext, hnone⟩ := h
  rw [verify_of_argon2Led hbared hled, HashFields.read_eq_ok_iff.mpr ⟨hform, htext⟩]
  exact congrArg Except.ok (Argon2Hash.accepts_of_not_describes hnone password)

theorem Unusable.not_verdict (h : Unusable text) (hbared : Bared stored text) :
    ¬Verdict password text (verify password stored) := by
  rw [h.verify_eq password hbared]
  rintro (_ | hwrites | _)
  exact h.not_writes _ hwrites

/-- **A password passes exactly if the stored text is a complete hash and its digest comes out
again.** -/
theorem verify_eq_ok_true_iff : verify password stored = .ok true ↔
    ∃ text hash, Bared stored text ∧ Writes text hash ∧ hash.recompute password = hash.digest := by
  constructor
  · intro h
    have hbared := bared_withoutEncoderId stored
    rcases verdict_or_unusable password hbared with hverdict | hunusable
    · rw [h] at hverdict
      cases hverdict with
      | checked hwrites hpasses => exact ⟨_, _, hbared, hwrites, hpasses.mp rfl⟩
    · exact nomatch h.symm.trans (hunusable.verify_eq password hbared)
  · rintro ⟨text, hash, hbared, hwrites, hmade⟩
    rw [verify_of_writes hbared hwrites, hmade, decide_eq_true rfl]

end Password

/-! ### Signing in -/

namespace SignIn

open Directory Outcome Password

variable {service : SignIn} {m : Moment} {password : String} {c : Credentials}

/-- **Stored hashes get the verdict they should, but for unusable ones.** Of those no password
passes and nothing is reported. A login whose check comes back is answered alike in every case but
that of a password that passes. What a text of bcrypt spells is what a reader of such texts takes:
its cost may have a sign or leading zeros, and a run of dollar signs counts as one. -/
theorem stored_hashes_judged_iff (password stored : String) :
    (∃ text, Bared stored text ∧
      (Verdict password text (Password.verify password stored) ↔ ¬Unusable text) ∧
      (Unusable text → Password.verify password stored = .ok false)) ∧
    (Password.verify password stored = .ok true ↔
      ∃ text hash, Bared stored text ∧ StoredHash.Writes text hash ∧
        hash.recompute password = hash.digest) ∧
    ∀ (service : SignIn) {σ : Type} (directory : Service σ) (m : Moment) (s : σ) (email : String)
      (c : Credentials), (directory.find email s).1 = .ok (some c) → c.passwordHash = stored →
      (((service.login m email password).run directory s).result = .error .badCredentials ↔
        c.enabled = false ∨ m.work.loss = none ∧ Password.verify password stored ≠ .ok true) := by
  have hbared := bared_withoutEncoderId stored
  refine ⟨⟨_, hbared, ⟨fun h hunusable => hunusable.not_verdict hbared h, fun h => ?_⟩,
    fun h => h.verify_eq password hbared⟩, verify_eq_ok_true_iff, ?_⟩
  · exact (verdict_or_unusable password hbared).resolve_right h
  · rintro service σ directory m s email c hfind rfl
    rw [run_login, hfind, finishLogin_found_eq_badCredentials_iff]

/-- A hash of bcrypt of which most is lost. -/
def cutAccount : Credentials :=
  { twinAccount with passwordHash := "\x7bbcrypt\x7d$2b$10$AQwXIi04Q05" }

/-- A login to an account with a garbled hash is refused. -/
theorem cut_account_refused :
    ((twinService.login twinMoment "a@x.org" "Secret123!").run (directoryOf cutAccount) ()).result =
      .error .badCredentials := by
  have hcorrupt : (Password.verify "Secret123!" cutAccount.passwordHash).isOk = false := by
    decide +kernel
  obtain ⟨-, -, hlogin⟩ := stored_hashes_judged_iff "Secret123!" cutAccount.passwordHash
  refine (hlogin twinService (directoryOf cutAccount) twinMoment () "a@x.org" cutAccount
    rfl rfl).mpr (.inr ⟨rfl, fun hpasses => ?_⟩)
  rw [hpasses] at hcorrupt
  exact nomatch hcorrupt

/-- A hash of Argon2 that ends with its salt. -/
def cutHash : String := "$argon2id$v=19$m=8,t=1,p=1$AQwXIi04Q05ZZG96hZCbpg"

theorem unusable_cutHash : Unusable cutHash := by
  cases hread : HashFields.read cutHash with
  | error fault =>
    have hok : (HashFields.read cutHash).isOk = true := by decide +kernel
    rw [hread] at hok
    exact nomatch hok
  | ok fields =>
    have hdigest : (HashFields.read cutHash).toOption.map HashFields.digest = some none := by
      decide +kernel
    rw [hread] at hdigest
    obtain ⟨hform, htext⟩ := HashFields.read_eq_ok_iff.mp hread
    refine ⟨⟨"id$v=19$m=8,t=1,p=1$AQwXIi04Q05ZZG96hZCbpg", by decide⟩, fields, hform, htext, ?_⟩
    intro recipe digest hgives
    have hnone : fields.digest = none := Option.some.inj hdigest
    exact nomatch hnone.symm.trans hgives.digest

/-- A hash without a digest is taken for that of another password. -/
theorem cut_hash_not_reported : Password.verify "Secret123!" cutHash = .ok false ∧
    Bared cutHash cutHash ∧ KnownLead cutHash ∧ (∀ hash, ¬StoredHash.Writes cutHash hash) ∧
    ¬Verdict "Secret123!" cutHash (Password.verify "Secret123!" cutHash) := by
  have hbared : Bared cutHash cutHash := withoutEncoderId_eq_iff.mp (by decide)
  exact ⟨unusable_cutHash.verify_eq _ hbared, hbared, .inr unusable_cutHash.1,
    unusable_cutHash.not_writes, unusable_cutHash.not_verdict hbared⟩

end SignIn

end TokenAuth
