import TokenAuth.Proofs.Lifetime

/-!
# Lifetimes and the times that tokens name

A token names the second of its issue and the second of its expiry, each cut off for itself, so they
lie as far apart as its lifetime has whole seconds, or one more if it has a rest. Main statement:
`tokens_last_their_lifetimes`.
-/

namespace TokenAuth

open Outcome

/-- Claims that are issued at an instant and expire a span later, both in whole seconds. -/
def Claims.LastFor (claims : Claims) (at_ : Instant) (ttl : Span) : Prop :=
  ∃ iat exp, claims.iat = some iat ∧ claims.exp = some exp ∧
    iat.toInt = at_.unixNanos / 1000000000 ∧
    exp.toInt = (at_.unixNanos + ttl.nanoseconds) / 1000000000 ∧
    (exp.toInt - iat.toInt = ttl.nanoseconds / 1000000000 ∨
      exp.toInt - iat.toInt = ttl.nanoseconds / 1000000000 + 1 ∧
        ttl.nanoseconds % 1000000000 ≠ 0)

/-- The seconds that a response reports are no more than its access token lasts, and no fewer where
the lifetime has no rest. -/
def TokenResponse.Reports (response : TokenResponse) (ttl : Span) : Prop :=
  ∃ claims iat exp, Token.claims? response.accessToken = some claims ∧ claims.iat = some iat ∧
    claims.exp = some exp ∧ response.expiresInSeconds.toInt ≤ exp.toInt - iat.toInt ∧
    (ttl.nanoseconds % 1000000000 = 0 →
      response.expiresInSeconds.toInt = exp.toInt - iat.toInt)

/-! ### Claims -/

theorem Claims.lastFor_of_add? {at_ expiry : Instant} {ttl : Span} {claims : Claims}
    (hpos : 0 < ttl.nanoseconds) (hexpiry : at_.add? ttl = some expiry)
    (hiat : claims.iat = some (Int64.ofInt at_.seconds))
    (hexp : claims.exp = some (Int64.ofInt expiry.seconds)) : claims.LastFor at_ ttl := by
  have hissue := at_.seconds_eq
  have hlast := Instant.seconds_add? hpos hexpiry
  refine ⟨_, _, hiat, hexp, ?_⟩
  rw [at_.toInt_seconds, expiry.toInt_seconds]
  omega

theorem Claims.issued?_eq_none_iff {at_ : Instant} {ttl : Span} (hpos : 0 < ttl.nanoseconds) :
    issued? at_ ttl = none ↔ ¬Instant.InRange (at_.unixNanos + ttl.nanoseconds) := by
  rw [← Instant.add?_eq_none_iff hpos, issued?]
  cases at_.add? ttl <;> simp

theorem Claims.lastFor_of_issued? {at_ : Instant} {ttl : Span} {claims : Claims}
    (hpos : 0 < ttl.nanoseconds) (h : issued? at_ ttl = some claims) : claims.LastFor at_ ttl := by
  cases hexpiry : at_.add? ttl with
  | none => simp [issued?, hexpiry] at h
  | some expiry =>
    simp only [issued?, hexpiry, Option.bind_eq_bind, Option.bind_some, Option.pure_def,
      Option.some.injEq] at h
    subst h
    exact Claims.lastFor_of_add? hpos hexpiry rfl rfl

/-! ### Tokens -/

/-- What comes of issuing a token at an instant for a span: one that lasts for it, or none where
there is no day for its expiry. -/
def Issues (result : Except AuthError String) (at_ : Instant) (ttl : Span) : Prop :=
  (Instant.InRange (at_.unixNanos + ttl.nanoseconds) → ∃ token claims, result = .ok token ∧
    Token.claims? token = some claims ∧ claims.LastFor at_ ttl) ∧
  (¬Instant.InRange (at_.unixNanos + ttl.nanoseconds) →
    result = .error (.tokenSigning "Token expiry out of range"))

namespace SigningKeys

variable {keys : SigningKeys} {stamp : Stamp} {id : UserId} {email : String} {roles : Roles}

theorem baseClaims_of_none {ttl : Span} (h : stamp.now.add? ttl = none) :
    keys.baseClaims stamp ttl id email = .error (.tokenSigning "Token expiry out of range") := by
  simp [baseClaims, Claims.issued?, h]

theorem issues_createAccessToken :
    Issues (keys.createAccessToken stamp id email roles) stamp.now keys.accessTtl := by
  constructor
  · intro hrange
    obtain ⟨expiry, hexpiry⟩ := (Instant.exists_add?_iff keys.accessTtl_pos).mpr hrange
    exact ⟨_, _, createAccessToken_eq_ok_iff.mpr ⟨expiry, hexpiry, rfl⟩,
      Token.Handler.claims?_encode _ (Claims.isPayload_payload _ _) (readable_issued_access expiry),
      Claims.lastFor_of_add? keys.accessTtl_pos hexpiry rfl rfl⟩
  · intro hrange
    rw [createAccessToken, accessClaims,
      baseClaims_of_none ((Instant.add?_eq_none_iff keys.accessTtl_pos).mpr hrange)]
    rfl

theorem issues_createRefreshToken :
    Issues (keys.createRefreshToken stamp id email) stamp.now keys.refreshTtl := by
  constructor
  · intro hrange
    obtain ⟨expiry, hexpiry⟩ := (Instant.exists_add?_iff keys.refreshTtl_pos).mpr hrange
    exact ⟨_, _, createRefreshToken_eq_ok_iff.mpr ⟨expiry, hexpiry, rfl⟩,
      Token.Handler.claims?_encode _ (Claims.isPayload_payload _ _) (readable_issued_refresh expiry),
      Claims.lastFor_of_add? keys.refreshTtl_pos hexpiry rfl rfl⟩
  · intro hrange
    rw [createRefreshToken, refreshClaims,
      baseClaims_of_none ((Instant.add?_eq_none_iff keys.refreshTtl_pos).mpr hrange)]
    rfl

/-- A lifetime in whole seconds is reported as it is: no span has more than a word holds. -/
theorem toInt_accessTtlSeconds :
    keys.accessTtlSeconds.toInt = keys.accessTtl.nanoseconds / 1000000000 := by
  have hpos := keys.accessTtl_pos
  have hupper := keys.accessTtl.upper
  rw [accessTtlSeconds, Span.wholeSeconds, Int.tdiv_eq_ediv_of_nonneg (Int.le_of_lt hpos)]
  exact Int64.toInt_ofInt_of_le (by omega) (by omega)

end SigningKeys

/-! ### Responses -/

namespace SignIn

open SigningKeys

variable {service : SignIn} {m : Moment}

theorem reports_of_issued {stamp : Stamp} {id : UserId} {email : String} {roles : Roles}
    {response : TokenResponse}
    (haccess : service.keys.createAccessToken stamp id email roles = .ok response.accessToken)
    (hexpires : response.expiresInSeconds = service.keys.accessTtlSeconds) :
    response.Reports service.keys.accessTtl := by
  obtain ⟨expiry, hexpiry, hclaims⟩ := claims?_createAccessToken haccess
  have hlasts : Claims.LastFor (service.keys.issued stamp expiry email (accessExtra id roles))
      stamp.now service.keys.accessTtl :=
    Claims.lastFor_of_add? service.keys.accessTtl_pos hexpiry rfl rfl
  obtain ⟨iat, exp, hiat, hexp, -, -, hlength⟩ := hlasts
  refine ⟨_, iat, exp, hclaims, hiat, hexp, ?_⟩
  rw [hexpires, toInt_accessTtlSeconds]
  omega

/-- **Tokens last their lifetimes.** A token is issued exactly if there is a day for its expiry. The
seconds it names lie as far apart as its lifetime has whole seconds, or one more if it has a rest,
in a leap second too. A response reports no more than that, and that where there is no rest. -/
theorem tokens_last_their_lifetimes (service : SignIn) :
    (∀ (at_ : Instant) (ttl : Span), 0 < ttl.nanoseconds →
      (Claims.issued? at_ ttl = none ↔
        ¬Instant.InRange (at_.unixNanos + ttl.nanoseconds)) ∧
      ∀ claims, Claims.issued? at_ ttl = some claims → claims.LastFor at_ ttl) ∧
    (∀ stamp id email roles,
      Issues (service.keys.createAccessToken stamp id email roles) stamp.now
        service.keys.accessTtl ∧
      Issues (service.keys.createRefreshToken stamp id email) stamp.now
        service.keys.refreshTtl) ∧
    ∀ (m : Moment) (σ : Type) (directory : Directory.Service σ) (s : σ) (response : TokenResponse),
      ((∃ email password,
          ((service.login m email password).run directory s).result = .ok response) ∨
        ∃ token, ((service.refresh m token).run directory s).result = .ok response) →
      response.Reports service.keys.accessTtl := by
  refine ⟨?_, fun stamp id email roles => ⟨issues_createAccessToken, issues_createRefreshToken⟩, ?_⟩
  · intro at_ ttl hpos
    exact ⟨Claims.issued?_eq_none_iff hpos, fun _ => Claims.lastFor_of_issued? hpos⟩
  · rintro m σ directory s response (⟨email, password, hlogin⟩ | ⟨token, hrefresh⟩)
    · obtain ⟨c, id, -, -, -, -, -, haccess, -, hexpires⟩ := finishLogin_eq_ok_iff.mp hlogin
      exact reports_of_issued haccess hexpires
    · obtain ⟨grant, -, hfinish⟩ := result_refresh_eq_ok_iff.mp hrefresh
      obtain ⟨c, -, -, -, haccess, hexpires, -⟩ := finishRefresh_eq_ok_iff.mp hfinish
      exact reports_of_issued haccess hexpires

/-- Half a second into a leap second. -/
def leapInstant : Instant := ⟨1483228799, 1500000000, by decide, by decide, by decide, by decide⟩

def shortSpan : Span := ⟨700000000, by decide, by decide⟩

theorem leap_token_lasts_a_second :
    (∃ claims, Claims.issued? leapInstant shortSpan = some claims ∧
      claims.exp = claims.iat.map (· + 1) ∧ claims.LastFor leapInstant shortSpan) ∧
    ∃ response, ((twinService.login twinMoment "a@x.org" "correct horse").run
        (directoryOf twinAccount) ()).result = .ok response ∧
      response.Reports twinService.keys.accessTtl := by
  obtain ⟨hissued, -, hreports⟩ := tokens_last_their_lifetimes twinService
  obtain ⟨response, hlogin⟩ := exists_login_twin
  exact ⟨⟨_, rfl, by decide, (hissued leapInstant shortSpan (by decide)).2 _ rfl⟩, response, hlogin,
    hreports twinMoment Unit _ () response (.inl ⟨_, _, hlogin⟩)⟩

end SignIn

end TokenAuth
