import TokenAuth.Proofs.Issued

/-!
# What a sign-in rests on

When each step of a login and of a refresh succeeds and with what, and why a login fails.
-/

namespace TokenAuth

open Outcome Directory

namespace SignIn

variable {service : SignIn} {m : Moment} {answer : Except Fault (Option Credentials)}
variable {c : Credentials} {id : UserId} {response : TokenResponse}

/-! ### Steps -/

theorem activeCredentials_eq_ok_iff :
    activeCredentials answer = .ok c ↔ answer = .ok (some c) ∧ c.enabled = true := by
  rcases answer with fault | _ | c'
  · simp [activeCredentials]
  · simp [activeCredentials]
  · by_cases henabled : c'.enabled = true
    · simp only [activeCredentials, henabled, if_true, Except.ok.injEq, Option.some.injEq]
      constructor
      · rintro rfl
        exact ⟨rfl, henabled⟩
      · rintro ⟨rfl, -⟩
        rfl
    · simp only [activeCredentials, henabled, if_false, Except.ok.injEq, Option.some.injEq,
        reduceCtorEq, false_iff, not_and]
      rintro rfl
      exact henabled

theorem activeCredentials_of_disabled (h : c.enabled = false) :
    activeCredentials (.ok (some c)) = .error .badCredentials := by
  simp [activeCredentials, h]

theorem activeCredentials_eq_error {e : AuthError} (h : activeCredentials answer = .error e) :
    (∃ fault, answer = .error fault ∧ e = .ofFault fault) ∨
      e = .badCredentials ∧ (answer = .ok none ∨ ∃ c, answer = .ok (some c) ∧ c.enabled = false) := by
  rcases answer with fault | _ | c
  · exact .inl ⟨fault, rfl, (Except.error.inj h).symm⟩
  · exact .inr ⟨(Except.error.inj h).symm, .inl rfl⟩
  · cases henabled : c.enabled with
    | true => simp [activeCredentials, henabled] at h
    | false =>
      rw [activeCredentials_of_disabled henabled] at h
      exact .inr ⟨(Except.error.inj h).symm, .inr ⟨c, rfl, henabled⟩⟩

theorem Work.result_eq_ok_iff {α : Type} {work : Work} {a b : α} :
    work.result a = .ok b ↔ work.loss = none ∧ a = b := by
  unfold result
  cases work.loss <;> simp

theorem Work.result_eq_error {α : Type} {work : Work} {a : α} {e : AuthError}
    (h : work.result a = .error e) : ∃ reason, work.loss = some reason ∧ e = .passwordHashing reason := by
  unfold result at h
  split at h
  · exact nomatch h
  · next reason hloss => exact ⟨reason, hloss, (Except.error.inj h).symm⟩

theorem checkPassword_eq_ok_iff {work : Work} {password : String} {u : Unit} :
    checkPassword work password c = .ok u ↔
      work.loss = none ∧ Password.verify password c.passwordHash = .ok true := by
  simp only [checkPassword, bind_eq_ok_iff, Work.result_eq_ok_iff]
  constructor
  · rintro ⟨_, ⟨hloss, rfl⟩, hchecked⟩
    refine ⟨hloss, ?_⟩
    split at hchecked
    · next hverify => exact hverify
    · exact nomatch hchecked
  · rintro ⟨hloss, hverify⟩
    exact ⟨_, ⟨hloss, rfl⟩, by rw [hverify]⟩

theorem checkPassword_of_ne {work : Work} {password : String} (hloss : work.loss = none)
    (h : Password.verify password c.passwordHash ≠ .ok true) :
    checkPassword work password c = .error .badCredentials := by
  simp only [checkPassword, Work.result, hloss, bind, Except.bind]

theorem checkPassword_of_lost {work : Work} {password : String} {reason : String} (hloss : work.loss = some reason) :
    checkPassword work password c = .error (.passwordHashing reason) := by
  simp only [checkPassword, Work.result, hloss, bind, Except.bind]

theorem createAccessToken_eq_error {stamp : SigningKeys.Stamp} {email : String}
    {roles : Roles} {e : AuthError}
    (h : service.keys.createAccessToken stamp id email roles = .error e) :
    ∃ reason, e = .tokenSigning reason := by
  unfold SigningKeys.createAccessToken SigningKeys.accessClaims SigningKeys.baseClaims at h
  split at h
  · exact ⟨_, (Except.error.inj h).symm⟩
  · exact nomatch h

theorem createRefreshToken_eq_error {stamp : SigningKeys.Stamp} {email : String}
    {e : AuthError} (h : service.keys.createRefreshToken stamp id email = .error e) :
    ∃ reason, e = .tokenSigning reason := by
  unfold SigningKeys.createRefreshToken SigningKeys.refreshClaims SigningKeys.baseClaims at h
  split at h
  · exact ⟨_, (Except.error.inj h).symm⟩
  · exact nomatch h

theorem respond_eq_ok_iff {refreshToken : String} :
    service.respond m id c refreshToken = .ok response ↔
      service.keys.createAccessToken m.accessStamp id c.email c.roles = .ok response.accessToken ∧
        response.expiresInSeconds = service.keys.accessTtlSeconds ∧
        response.refreshToken = refreshToken := by
  obtain ⟨accessToken, expiresInSeconds, token⟩ := response
  simp only [respond, bind_eq_ok_iff]
  constructor
  · rintro ⟨_, hcreated, ⟨⟩⟩
    exact ⟨hcreated, rfl, rfl⟩
  · rintro ⟨hcreated, rfl, rfl⟩
    exact ⟨_, hcreated, rfl⟩

/-! ### Login -/

theorem finishLogin_eq_ok_iff {password : String} :
    service.finishLogin m password answer = .ok response ↔
      ∃ c id, answer = .ok (some c) ∧ c.enabled = true ∧ c.externalId = some id ∧
        m.work.loss = none ∧ Password.verify password c.passwordHash = .ok true ∧
        service.keys.createAccessToken m.accessStamp id c.email c.roles = .ok response.accessToken ∧
        service.keys.createRefreshToken m.refreshStamp id c.email = .ok response.refreshToken ∧
        response.expiresInSeconds = service.keys.accessTtlSeconds := by
  simp only [finishLogin, bind_eq_ok_iff, activeCredentials_eq_ok_iff, checkPassword_eq_ok_iff]
  constructor
  · rintro ⟨c, ⟨hanswer, henabled⟩, _, ⟨hloss, hverify⟩, h⟩
    cases hid : c.externalId with
    | none => simp [hid] at h
    | some id =>
      simp only [hid, bind_eq_ok_iff, respond_eq_ok_iff] at h
      obtain ⟨_, hrefresh, haccess, hexpires, rfl⟩ := h
      exact ⟨c, id, hanswer, henabled, hid, hloss, hverify, haccess, hrefresh, hexpires⟩
  · rintro ⟨c, id, hanswer, henabled, hid, hloss, hverify, haccess, hrefresh, hexpires⟩
    refine ⟨c, ⟨hanswer, henabled⟩, (), ⟨hloss, hverify⟩, ?_⟩
    simp only [hid, bind_eq_ok_iff, respond_eq_ok_iff]
    exact ⟨_, hrefresh, haccess, hexpires, rfl⟩

/-- A login succeeds for an account with an id and a password that fits and was checked, while both
expiries are instants. -/
theorem exists_finishLogin_iff {password : String} :
    (∃ response, service.finishLogin m password answer = .ok response) ↔
      ∃ c id, answer = .ok (some c) ∧ c.enabled = true ∧ c.externalId = some id ∧
        m.work.loss = none ∧ Password.verify password c.passwordHash = .ok true ∧
        (∃ expiry, m.later.add? service.keys.accessTtl = some expiry) ∧
        ∃ expiry, m.now.add? service.keys.refreshTtl = some expiry := by
  simp only [finishLogin_eq_ok_iff]
  constructor
  · rintro ⟨response, c, id, hanswer, henabled, hid, hloss, hverify, haccess, hrefresh, -⟩
    exact ⟨c, id, hanswer, henabled, hid, hloss, hverify,
      SigningKeys.exists_createAccessToken_iff.mp ⟨_, haccess⟩,
      SigningKeys.exists_createRefreshToken_iff.mp ⟨_, hrefresh⟩⟩
  · rintro ⟨c, id, hanswer, henabled, hid, hloss, hverify, haccess, hrefresh⟩
    obtain ⟨accessToken, haccess⟩ : ∃ token,
        service.keys.createAccessToken m.accessStamp id c.email c.roles = .ok token :=
      SigningKeys.exists_createAccessToken_iff.mpr haccess
    obtain ⟨refreshToken, hrefresh⟩ : ∃ token,
        service.keys.createRefreshToken m.refreshStamp id c.email = .ok token :=
      SigningKeys.exists_createRefreshToken_iff.mpr hrefresh
    exact ⟨⟨accessToken, service.keys.accessTtlSeconds, refreshToken⟩, c, id, hanswer, henabled,
      hid, hloss, hverify, haccess, hrefresh, rfl⟩

theorem finishLogin_of_active {password : String} (henabled : c.enabled = true) :
    service.finishLogin m password (.ok (some c)) = (do
      checkPassword m.work password c
      match c.externalId with
      | none => .error .userIdMissing
      | some id =>
        let refreshToken ← service.keys.createRefreshToken m.refreshStamp id c.email
        service.respond m id c refreshToken) := by
  have hactive : activeCredentials (.ok (some c)) = .ok c :=
    activeCredentials_eq_ok_iff.mpr ⟨rfl, henabled⟩
  rw [finishLogin, hactive]
  rfl

/-! ### Logins that fail -/

/-- Why a login fails on what the directory answers, and with which error. -/
inductive LoginFails (work : Work) (password : String) :
    Except Fault (Option Credentials) → AuthError → Prop
  | fault {e : AuthError} (fault : Fault) (he : .ofFault fault = e) :
      LoginFails work password (.error fault) e
  | absent : LoginFails work password (.ok none) .badCredentials
  | disabled {c : Credentials} (h : c.enabled = false) :
      LoginFails work password (.ok (some c)) .badCredentials
  | lost {c : Credentials} {reason : String} (henabled : c.enabled = true)
      (hloss : work.loss = some reason) :
      LoginFails work password (.ok (some c)) (.passwordHashing reason)
  | mismatched {c : Credentials} (henabled : c.enabled = true) (hloss : work.loss = none)
      (hverify : Password.verify password c.passwordHash ≠ .ok true) :
      LoginFails work password (.ok (some c)) .badCredentials
  | idless {c : Credentials} (henabled : c.enabled = true) (hloss : work.loss = none)
      (hverify : Password.verify password c.passwordHash = .ok true) (hid : c.externalId = none) :
      LoginFails work password (.ok (some c)) .userIdMissing
  | unsigned {c : Credentials} {reason : String} (henabled : c.enabled = true)
      (hloss : work.loss = none) (hverify : Password.verify password c.passwordHash = .ok true) :
      LoginFails work password (.ok (some c)) (.tokenSigning reason)

theorem loginFails_of_activeCredentials {work : Work} {password : String} {e : AuthError}
    (h : activeCredentials answer = .error e) : LoginFails work password answer e := by
  rcases activeCredentials_eq_error h with ⟨fault, rfl, he⟩ | ⟨rfl, rfl | ⟨c, rfl, hdisabled⟩⟩
  · exact .fault fault he.symm
  · exact .absent
  · exact .disabled hdisabled

theorem loginFails_of_checkPassword {work : Work} {password : String} {e : AuthError}
    (henabled : c.enabled = true) (h : checkPassword work password c = .error e) :
    LoginFails work password (.ok (some c)) e := by
  cases hloss : work.loss with
  | some reason =>
    rw [checkPassword_of_lost hloss] at h
    obtain rfl := Except.error.inj h
    exact .lost henabled hloss
  | none =>
    have hverify : Password.verify password c.passwordHash ≠ .ok true := by
      intro hverify
      have hchecked : checkPassword work password c = .ok () :=
        checkPassword_eq_ok_iff.mpr ⟨hloss, hverify⟩
      exact nomatch hchecked.symm.trans h
    rw [checkPassword_of_ne hloss hverify] at h
    obtain rfl := Except.error.inj h
    exact .mismatched henabled hloss hverify

theorem loginFails_of_finishLogin {password : String} {e : AuthError}
    (h : service.finishLogin m password answer = .error e) :
    LoginFails m.work password answer e := by
  rcases bind_eq_error_iff.mp h with hactive | ⟨c, hactive, hchecked⟩
  · exact loginFails_of_activeCredentials hactive
  obtain ⟨rfl, henabled⟩ := activeCredentials_eq_ok_iff.mp hactive
  rcases bind_eq_error_iff.mp hchecked with hcheck | ⟨_, hcheck, hissued⟩
  · exact loginFails_of_checkPassword henabled hcheck
  obtain ⟨hloss, hverify⟩ := checkPassword_eq_ok_iff.mp hcheck
  cases hid : c.externalId with
  | none =>
    rw [hid] at hissued
    obtain rfl := Except.error.inj hissued
    exact .idless henabled hloss hverify hid
  | some id =>
    rw [hid] at hissued
    rcases bind_eq_error_iff.mp hissued with hrefresh | ⟨_, -, hresponded⟩
    · obtain ⟨reason, rfl⟩ := createRefreshToken_eq_error hrefresh
      exact .unsigned henabled hloss hverify
    · rcases bind_eq_error_iff.mp hresponded with haccess | ⟨_, -, hdone⟩
      · obtain ⟨reason, rfl⟩ := createAccessToken_eq_error haccess
        exact .unsigned henabled hloss hverify
      · exact nomatch hdone

/-! ### Refresh -/

/-- The account that the claims of a refresh token name, as the claims have it. -/
def Grants (claims : Claims) (grant : Grant) : Prop :=
  claims.extraText? "typ" = some "refresh" ∧
    ((claims.extraText? "userId").bind fun s => (Uuid.read s).toOption) = some grant.userId ∧
    claims.sub = some grant.email ∧ grant.email ≠ ""

theorem grantOf_eq_ok_iff {claims : Claims} {grant : Grant} :
    grantOf claims = .ok grant ↔ Grants claims grant := by
  obtain ⟨userId, email⟩ := grant
  simp only [grantOf, Grants, SigningKeys.isRefresh, SigningKeys.typeClaim,
    SigningKeys.refreshType, SigningKeys.userIdClaim]
  by_cases htype : claims.extraText? "typ" = some "refresh"
  · simp only [htype, beq_self_eq_true, Bool.not_true, Bool.false_eq_true, if_false, true_and]
    cases hid : ((claims.extraText? "userId").bind fun s => (Uuid.read s).toOption) with
    | none => simp
    | some id =>
      cases hsub : claims.sub with
      | none => simp
      | some sub =>
        by_cases hempty : sub = ""
        · simp only [hempty, if_true, reduceCtorEq, Option.some.injEq, false_iff]
          rintro ⟨-, rfl, hne⟩
          exact hne rfl
        · simp only [hempty, if_false, Except.ok.injEq, Grant.mk.injEq, Option.some.injEq]
          constructor
          · rintro ⟨rfl, rfl⟩
            exact ⟨rfl, rfl, hempty⟩
          · rintro ⟨rfl, rfl, -⟩
            exact ⟨rfl, rfl⟩
  · simp [htype]

theorem readRefreshToken_eq_ok_iff {token : String} {grant : Grant} :
    service.readRefreshToken m token = .ok grant ↔
      ∃ claims, service.keys.parseRefreshToken m.now.seconds token = .ok claims ∧
        Grants claims grant := by
  rw [readRefreshToken]
  cases hparse : service.keys.parseRefreshToken m.now.seconds token with
  | ok claims => simp [grantOf_eq_ok_iff]
  | error e => cases service.keys.parseAccessToken m.later.seconds token <;> simp

theorem finishRefresh_eq_ok_iff {token : String} {grant : Grant} :
    service.finishRefresh m token grant answer = .ok response ↔
      ∃ c, answer = .ok (some c) ∧ c.enabled = true ∧ c.externalId = some grant.userId ∧
        service.keys.createAccessToken m.accessStamp grant.userId c.email c.roles =
          .ok response.accessToken ∧
        response.expiresInSeconds = service.keys.accessTtlSeconds ∧
        response.refreshToken = token := by
  simp only [finishRefresh, bind_eq_ok_iff, activeCredentials_eq_ok_iff]
  constructor
  · rintro ⟨c, ⟨hanswer, henabled⟩, h⟩
    cases hid : c.externalId with
    | none => simp [hid] at h
    | some id =>
      by_cases hsame : id = grant.userId
      · simp only [hid, hsame, if_true, respond_eq_ok_iff] at h
        exact ⟨c, hanswer, henabled, hid.trans (congrArg some hsame), h⟩
      · simp [hid, hsame] at h
  · rintro ⟨c, hanswer, henabled, hid, h⟩
    refine ⟨c, ⟨hanswer, henabled⟩, ?_⟩
    simp only [hid, if_true, respond_eq_ok_iff]
    exact h

/-! ### Registration -/

theorem hashPassword_eq_ok_iff {work : Work} {password hashed : String} :
    service.hashPassword work password = .ok hashed ↔
      work.loss = none ∧ ∃ salt, work.salt = .ok salt ∧
        hashed = Password.hash service.algorithm salt password := by
  simp only [hashPassword, bind_eq_ok_iff, Work.result_eq_ok_iff, mapError_eq_ok_iff]
  constructor
  · rintro ⟨_, ⟨hloss, rfl⟩, hhashed⟩
    refine ⟨hloss, ?_⟩
    cases hsalt : work.salt with
    | error reason =>
      rw [hsalt] at hhashed
      exact nomatch hhashed
    | ok salt =>
      rw [hsalt] at hhashed
      exact ⟨salt, rfl, (Except.ok.inj hhashed).symm⟩
  · rintro ⟨hloss, salt, hsalt, rfl⟩
    exact ⟨_, ⟨hloss, rfl⟩, by rw [hsalt, Password.newHash]⟩

/-- Whatever keeps a password from being hashed, it is reported as such. -/
theorem hashPassword_eq_error {work : Work} {password : String} {e : AuthError}
    (h : service.hashPassword work password = .error e) : ∃ reason, e = .passwordHashing reason := by
  rcases bind_eq_error_iff.mp h with hlost | ⟨hashed, -, h⟩
  · obtain ⟨reason, -, he⟩ := Work.result_eq_error hlost
    exact ⟨reason, he⟩
  · cases hashed with
    | ok hashed => exact nomatch h
    | error fault => exact ⟨fault.message, (Except.error.inj h).symm⟩

/-! ### Runs -/

variable {σ : Type} {directory : Directory.Service σ} {s : σ}

theorem run_login (email password : String) :
    (service.login m email password).run directory s =
      ⟨service.finishLogin m password (directory.find email s).1, [.find email],
        (directory.find email s).2⟩ :=
  rfl

theorem run_refresh_of_ok {token : String} {grant : Grant}
    (h : service.readRefreshToken m token = .ok grant) :
    (service.refresh m token).run directory s =
      ⟨service.finishRefresh m token grant (directory.find grant.email s).1, [.find grant.email],
        (directory.find grant.email s).2⟩ := by
  rw [refresh, h]
  rfl

theorem run_refresh_of_error {token : String} {e : AuthError}
    (h : service.readRefreshToken m token = .error e) :
    (service.refresh m token).run directory s = ⟨.error e, [], s⟩ := by
  rw [refresh, h]
  rfl

theorem run_register_of_ok {r : Registration} {hashed : String}
    (h : service.hashPassword m.work r.password = .ok hashed) :
    (service.register m r).run directory s =
      ⟨(directory.create (.ofRegistration r hashed) s).1.mapError AuthError.ofFault,
        [.create (.ofRegistration r hashed)], (directory.create (.ofRegistration r hashed) s).2⟩ := by
  rw [register, h]
  rfl

theorem run_register_of_error {r : Registration} {e : AuthError}
    (h : service.hashPassword m.work r.password = .error e) :
    (service.register m r).run directory s = ⟨.error e, [], s⟩ := by
  rw [register, h]
  rfl

theorem result_refresh_eq_ok_iff {token : String} :
    ((service.refresh m token).run directory s).result = .ok response ↔
      ∃ grant, service.readRefreshToken m token = .ok grant ∧
        service.finishRefresh m token grant (directory.find grant.email s).1 = .ok response := by
  cases hread : service.readRefreshToken m token with
  | error e => simp [run_refresh_of_error hread]
  | ok grant => simp [run_refresh_of_ok hread]

end SignIn

end TokenAuth
