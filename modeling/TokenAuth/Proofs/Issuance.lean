import TokenAuth.Proofs.Grounds

/-!
# What tokens are issued for

Tokens tell of an account what the directory says of it in the same call, and no more than the
account is taken from a token that was presented.
-/

namespace TokenAuth

namespace SignIn

open Directory SigningKeys

/-- **Every token that is given out rests on an enabled record of the same call.** A login has
tokens for it exactly if the password was checked and fits the record; a refresh exactly if the presented token
is a live one of the refresh key, marked as such, and names the account of the record. The payload
of the new access token tells of the account what the record says. -/
theorem tokens_eq_ok_iff {σ : Type} (service : SignIn) (directory : Directory.Service σ) (s : σ)
    (m : Moment) :
    (∀ email password response,
      ((service.login m email password).run directory s).calls = [.find email] ∧
      (((service.login m email password).run directory s).result = .ok response ↔
        ∃ c id accessExpiry refreshExpiry,
          (directory.find email s).1 = .ok (some c) ∧ c.enabled = true ∧ c.externalId = some id ∧
          m.work.loss = none ∧ Password.verify password c.passwordHash = .ok true ∧
          service.keys.createAccessToken m.accessStamp id c.email c.roles =
            .ok response.accessToken ∧
          m.accessStamp.now.add? service.keys.accessTtl = some accessExpiry ∧
          Token.payload? response.accessToken =
            some (service.keys.accessPayload m.accessStamp accessExpiry id c.email c.roles) ∧
          service.keys.createRefreshToken m.refreshStamp id c.email = .ok response.refreshToken ∧
          m.refreshStamp.now.add? service.keys.refreshTtl = some refreshExpiry ∧
          Token.payload? response.refreshToken =
            some (service.keys.refreshPayload m.refreshStamp refreshExpiry id c.email) ∧
          response.expiresInSeconds = service.keys.accessTtlSeconds)) ∧
    (∀ token response,
      ((service.refresh m token).run directory s).result = .ok response ↔
        ∃ claims c id email accessExpiry,
          service.keys.parseRefreshToken m.now.seconds token = .ok claims ∧
          Token.Signed service.keys.refreshKey token ∧ Token.claims? token = some claims ∧
          claims.extraText? "typ" = some "refresh" ∧
          ((claims.extraText? "userId").bind fun s => (Uuid.read s).toOption) = some id ∧
          claims.sub = some email ∧ email ≠ "" ∧
          ((service.refresh m token).run directory s).calls = [.find email] ∧
          (directory.find email s).1 = .ok (some c) ∧ c.enabled = true ∧ c.externalId = some id ∧
          service.keys.createAccessToken m.accessStamp id c.email c.roles =
            .ok response.accessToken ∧
          m.accessStamp.now.add? service.keys.accessTtl = some accessExpiry ∧
          Token.payload? response.accessToken =
            some (service.keys.accessPayload m.accessStamp accessExpiry id c.email c.roles) ∧
          response.refreshToken = token ∧
          response.expiresInSeconds = service.keys.accessTtlSeconds) := by
  constructor
  · intro email password response
    refine ⟨rfl, ?_⟩
    rw [run_login, finishLogin_eq_ok_iff]
    constructor
    · rintro ⟨c, id, hanswer, henabled, hid, hloss, hverify, haccess, hrefresh, hexpires⟩
      obtain ⟨accessExpiry, haccessExpiry, haccessPayload⟩ := payload?_createAccessToken haccess
      obtain ⟨refreshExpiry, hrefreshExpiry, hrefreshPayload⟩ := payload?_createRefreshToken hrefresh
      exact ⟨c, id, accessExpiry, refreshExpiry, hanswer, henabled, hid, hloss, hverify, haccess,
        haccessExpiry, haccessPayload, hrefresh, hrefreshExpiry, hrefreshPayload, hexpires⟩
    · rintro ⟨c, id, -, -, hanswer, henabled, hid, hloss, hverify, haccess, -, -, hrefresh, -, -,
        hexpires⟩
      exact ⟨c, id, hanswer, henabled, hid, hloss, hverify, haccess, hrefresh, hexpires⟩
  · intro token response
    rw [result_refresh_eq_ok_iff]
    constructor
    · rintro ⟨grant, hread, hfinish⟩
      obtain ⟨claims, hparse, htype, huser, hsub, hne⟩ := readRefreshToken_eq_ok_iff.mp hread
      obtain ⟨hsigned, hclaims, -⟩ :=
        Token.Handler.decode_eq_ok_iff.mp (parseRefreshToken_eq_ok_iff.mp hparse)
      obtain ⟨c, hanswer, henabled, hid, haccess, hexpires, htoken⟩ :=
        finishRefresh_eq_ok_iff.mp hfinish
      obtain ⟨accessExpiry, haccessExpiry, haccessPayload⟩ := payload?_createAccessToken haccess
      rw [run_refresh_of_ok hread]
      exact ⟨claims, c, grant.userId, grant.email, accessExpiry, hparse, hsigned, hclaims, htype,
        huser, hsub, hne, rfl, hanswer, henabled, hid, haccess, haccessExpiry, haccessPayload,
        htoken, hexpires⟩
    · rintro ⟨claims, c, id, email, -, hparse, -, -, htype, huser, hsub, hne, -, hanswer, henabled,
        hid, haccess, -, -, htoken, hexpires⟩
      exact ⟨⟨id, email⟩, readRefreshToken_eq_ok_iff.mpr ⟨claims, hparse, htype, huser, hsub, hne⟩,
        finishRefresh_eq_ok_iff.mpr ⟨c, hanswer, henabled, hid, haccess, hexpires, htoken⟩⟩

end SignIn

end TokenAuth
