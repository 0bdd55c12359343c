import TokenAuth.Proofs.Lifetime

/-!
# Hashes that outlive their algorithm

A hash says by itself how to check it, so passwords keep passing against stored hashes after
another algorithm is configured, and however a hash that came from elsewhere is marked. Main
statement: `hashes_outlive_algorithms`.
-/

namespace TokenAuth

namespace Password

open StoredHash (Writes)

/-- A text under which a hash may be stored: the hash, or one of bcrypt under another of its
markers, each with an encoder id in front or none. -/
def StandsFor (stored hash : String) : Prop :=
  ∃ id ∈ ["", "\x7bbcrypt\x7d", "\x7bargon2\x7d"], ∃ text, stored = id ++ text ∧
    (text = hash ∨ ∃ rest, hash = "$2b$" ++ rest ∧
      ∃ lead ∈ ["$2a$", "$2b$", "$2x$", "$2y$"], text = lead ++ rest)

variable {algorithm : Algorithm} {salt : Bytes16} {password stored : String}

theorem exists_hash_bcrypt_eq (salt : Bytes16) (password : String) :
    ∃ rest, hash .bcrypt salt password = "$2b$" ++ rest :=
  ⟨_, BcryptHash.text_eq _⟩

/-- Only a hash of bcrypt begins with its marker, and under another marker it is the same hash. -/
theorem writes_marked {rest lead : String} (hhash : hash algorithm salt password = "$2b$" ++ rest)
    (hlead : lead ∈ ["$2a$", "$2b$", "$2x$", "$2y$"]) :
    Writes (lead ++ rest) (made algorithm salt password) := by
  cases algorithm with
  | bcrypt =>
    rw [hash, BcryptHash.text_eq] at hhash
    obtain rfl : _ = rest := (String.append_right_inj "$2b$").mp hhash
    exact BcryptHash.writes_afterMarker (BcryptHash.complete_compute salt password) hlead
  | argon2 =>
    have hled := (writes_hash .argon2 salt password).argon2Led
    exact absurd hled (BcryptLed.not_argon2Led ⟨"$2b$", by decide, rest, hhash⟩)

theorem StandsFor.exists_writes (h : StandsFor stored (hash algorithm salt password)) :
    ∃ text, Bared stored text ∧ Writes text (made algorithm salt password) := by
  obtain ⟨id, hid, text, rfl, rfl | ⟨rest, hhash, lead, hlead, rfl⟩⟩ := h
  · have hwrites := writes_hash algorithm salt password
    exact ⟨_, hwrites.bared hid, hwrites⟩
  · have hwrites := writes_marked hhash hlead
    exact ⟨_, hwrites.bared hid, hwrites⟩

theorem verify_of_standsFor (h : StandsFor stored (hash algorithm salt password)) :
    verify password stored = .ok true := by
  obtain ⟨text, hbared, hwrites⟩ := h.exists_writes
  rw [verify_of_writes hbared hwrites, recompute_made, decide_eq_true rfl]

end Password

/-! ### Signing in -/

namespace SignIn

open Directory Password

/-- **Hashes outlive their algorithm.** Whichever algorithm made a hash and whichever is configured
when it is checked, the password that was hashed passes, under every text that stands for the hash,
and signs in to the account that is stored with it wherever it is checked. -/
theorem hashes_outlive_algorithms (old new : Algorithm) (salt : Bytes16) (password : String) :
    (∃ rest, Password.hash .bcrypt salt password = "$2b$" ++ rest) ∧
    ∀ stored, StandsFor stored (Password.hash old salt password) →
      Password.verify password stored = .ok true ∧
      ∀ (keys : SigningKeys) {σ : Type} (directory : Service σ) (m : Moment) (s : σ)
        (email : String) (c : Credentials) (id : UserId),
        (directory.find email s).1 = .ok (some c) → c.passwordHash = stored →
        c.enabled = true → c.externalId = some id →
        ((∃ tokens, ((login ⟨keys, new⟩ m email password).run directory s).result = .ok tokens) ↔
          m.work.loss = none ∧ (∃ expiry, m.later.add? keys.accessTtl = some expiry) ∧
          ∃ expiry, m.now.add? keys.refreshTtl = some expiry) := by
  refine ⟨exists_hash_bcrypt_eq salt password, fun stored hstands => ?_⟩
  have hverify := verify_of_standsFor hstands
  refine ⟨hverify, ?_⟩
  rintro keys σ directory m s email c id hfind rfl henabled hid
  rw [run_login, hfind, exists_finishLogin_iff]
  constructor
  · rintro ⟨_, _, -, -, -, hloss, -, hexpiries⟩
    exact ⟨hloss, hexpiries⟩
  · rintro ⟨hloss, hexpiries⟩
    exact ⟨c, id, rfl, henabled, hid, hloss, hverify, hexpiries⟩

/-- An account with a hash of bcrypt that another program marked, after the wrong encoder id. -/
def markedAccount (rest : String) : Credentials :=
  { twinAccount with passwordHash := "\x7bargon2\x7d" ++ ("$2y$" ++ rest) }

/-- The account signs in to a service that makes hashes of Argon2. -/
theorem marked_account_signs_in :
    ∃ rest tokens,
      Password.hash .bcrypt SigningKeys.twinStamp.random "correct horse" = "$2b$" ++ rest ∧
      ((login ⟨SigningKeys.twinKeys, .argon2⟩ twinMoment "a@x.org" "correct horse").run
        (directoryOf (markedAccount rest)) ()).result = .ok tokens := by
  obtain ⟨⟨rest, hrest⟩, hpasses⟩ := hashes_outlive_algorithms .bcrypt .argon2
    SigningKeys.twinStamp.random "correct horse"
  have hstands : StandsFor (markedAccount rest).passwordHash
      (Password.hash .bcrypt SigningKeys.twinStamp.random "correct horse") :=
    ⟨_, by decide, _, rfl, .inr ⟨rest, hrest, "$2y$", by decide, rfl⟩⟩
  obtain ⟨tokens, htokens⟩ := ((hpasses _ hstands).2 SigningKeys.twinKeys
    (directoryOf (markedAccount rest)) twinMoment () "a@x.org" (markedAccount rest)
    SigningKeys.twinId rfl rfl rfl rfl).mpr ⟨rfl, ⟨_, rfl⟩, ⟨_, rfl⟩⟩
  exact ⟨rest, tokens, hrest, htokens⟩

end SignIn

end TokenAuth
