import TokenAuth.Proofs.Elapsed
import TokenAuth.Proofs.Identifier
import TokenAuth.Proofs.PasswordHash
import TokenAuth.Proofs.Presented

/-!
# How long tokens serve

The tokens of a login serve until the seconds they name as their expiry, these included, and not
after. An access token opens what is its account's; a refresh token gives a new access token with
the roles that the account has by then, and stays itself.
-/

namespace TokenAuth

open Outcome

namespace SigningKeys

variable {keys : SigningKeys} {now : Int} {token : String}

theorem parseAccessToken_of_ne_ok (h : ∀ claims, keys.parseAccessToken now token ≠ .ok claims) :
    ∃ reason, keys.parseAccessToken now token = .error (.invalidToken reason) := by
  unfold parseAccessToken at h ⊢
  cases hdecode : keys.accessHandler.decode now token with
  | error rejection => exact ⟨rejection.message, rfl⟩
  | ok claims =>
    cases hrefresh : isRefresh claims with
    | true =>
      refine ⟨"Refresh token presented as access token", ?_⟩
      simp only [mapError_ok, bind, Except.bind, hrefresh, if_true]
    | false =>
      refine absurd ?_ (h claims)
      simp [hdecode, mapError_ok, bind, Except.bind, hrefresh]

theorem parseRefreshToken_of_ne_ok (h : ∀ claims, keys.parseRefreshToken now token ≠ .ok claims) :
    ∃ reason, keys.parseRefreshToken now token = .error (.invalidToken reason) := by
  cases hparse : keys.parseRefreshToken now token with
  | ok claims => exact absurd hparse (h claims)
  | error e =>
    obtain ⟨reason, rfl⟩ := parseRefreshToken_eq_error hparse
    exact ⟨reason, rfl⟩

end SigningKeys

namespace Http

theorem Api.answer_me_of_ok {service : SignIn} {m : SignIn.Moment} {request : Request}
    {claims : Claims} (hendpoint : request.endpoint? = some .me) (hmethod : request.method = "GET")
    (h : request.bearerClaims service.keys m.now.seconds = .ok claims) :
    answer service m request =
      .done (Response.json .ok (claims.payload m.accessDraw.order)).shared := by
  have hallows : Endpoint.me.allows "GET" = true := by decide
  simp only [answer, route, hendpoint, hmethod, Endpoint.handle, Endpoint.handleMe, h,
    Endpoint.guarded, Directory.Consult.map, Response.withAllow, hallows, if_true]
  rfl

end Http

namespace SignIn

open SigningKeys

/-- An access token that serves an account until a unix second, and not after. Its bearer is shown
its payload. -/
structure ServesUntil (service : SignIn) (token : String) (expiry : Int) (id : UserId)
    (c : Credentials) : Prop where
  accepted : ∀ now ≤ expiry, ∃ claims, service.keys.parseAccessToken now token = .ok claims ∧
    claims.sub = some c.email ∧ claims.extraText? "userId" = some id.text ∧
    claims.extra.get? "roles" = some c.roles.toJson
  shown : ∀ (m : Moment) (request : Http.Request), m.now.seconds ≤ expiry →
    request.endpoint? = some .me → request.method = "GET" →
    request.header? "authorization" = some (utf8 ("Bearer " ++ token)) →
    ∃ response payload, Http.Api.answer service m request = .done response ∧
      response.status = .ok ∧ Token.payload? token = some payload ∧
      Json.ofBytes? response.body = some payload
  refused : ∀ now, expiry < now →
    ∃ reason, service.keys.parseAccessToken now token = .error (.invalidToken reason)
  turnedAway : ∀ (m : Moment) (request : Http.Request), expiry < m.now.seconds →
    request.endpoint? = some .me → request.method = "GET" →
    request.header? "authorization" = some (utf8 ("Bearer " ++ token)) →
    ∃ response, Http.Api.answer service m request = .done response ∧
      response.status = .unauthorized

/-- A refresh token that serves an account until a unix second, and not after. -/
structure RefreshesUntil (service : SignIn) (token : String) (expiry : Int) (id : UserId)
    (email : String) : Prop where
  refreshed : ∀ (m : Moment) (σ : Type) (directory : Directory.Service σ) (s : σ) (c : Credentials)
    (accessExpiry : Instant), m.now.seconds ≤ expiry → 0 ≤ m.later.seconds →
    (directory.find email s).1 = .ok (some c) → c.enabled = true → c.externalId = some id →
    m.later.add? service.keys.accessTtl = some accessExpiry →
    ∃ response, ((service.refresh m token).run directory s).result = .ok response ∧
      response.refreshToken = token ∧
      service.ServesUntil response.accessToken accessExpiry.seconds id c
  refused : ∀ (m : Moment) (σ : Type) (directory : Directory.Service σ) (s : σ),
    expiry < m.now.seconds →
    ((service.refresh m token).run directory s).calls = [] ∧
    ∃ reason, ((service.refresh m token).run directory s).result = .error (.invalidToken reason)

variable {service : SignIn} {stamp : Stamp} {id : UserId} {c : Credentials}

section Access

variable {expiry : Instant} {order : Json.Listing} {token : String}
variable (htoken : token = service.keys.accessHandler.encode
  ((service.keys.issued stamp expiry c.email (accessExtra id c.roles)).payload order))
include htoken

theorem parseAccessToken_of_live {now : Int} (hpos : 0 ≤ expiry.seconds)
    (hlive : now ≤ expiry.seconds) : service.keys.parseAccessToken now token =
      .ok (service.keys.issued stamp expiry c.email (accessExtra id c.roles)) := by
  rw [htoken]
  exact parseAccessToken_access_iff.mpr ⟨rfl, hpos, hlive⟩

theorem parseAccessToken_of_expired {now : Int} (hexpired : expiry.seconds < now) :
    ∃ reason, service.keys.parseAccessToken now token = .error (.invalidToken reason) := by
  apply parseAccessToken_of_ne_ok
  intro claims hok
  rw [htoken] at hok
  have hlive := (parseAccessToken_access_iff.mp hok).2.2
  omega

theorem servesUntil_access (hpos : 0 ≤ expiry.seconds) :
    service.ServesUntil token expiry.seconds id c := by
  have hreadable : (service.keys.issued stamp expiry c.email (accessExtra id c.roles)).Readable :=
    readable_issued_access expiry
  have hbearerToken {request : Http.Request}
      (hheader : request.header? "authorization" = some (utf8 ("Bearer " ++ token))) :
      request.bearerToken = .ok token := by
    obtain ⟨hsigned, hclaims⟩ :=
      signed_of_parseAccessToken (parseAccessToken_of_live htoken hpos (Int.le_refl _))
    exact Http.Request.bearerToken_of_signed hheader hsigned hclaims
  refine ⟨?_, ?_, fun now => parseAccessToken_of_expired htoken, ?_⟩
  · intro now hlive
    refine ⟨_, parseAccessToken_of_live htoken hpos hlive, rfl, userId_issued_access expiry, ?_⟩
    simp [issued, accessExtra, Json.Members.get?, rolesClaim]
  · intro m request hlive hendpoint hmethod hheader
    have hbearer : request.bearerClaims service.keys m.now.seconds =
        .ok (service.keys.issued stamp expiry c.email (accessExtra id c.roles)) := by
      rw [Http.Request.bearerClaims_of_bearerToken (hbearerToken hheader),
        parseAccessToken_of_live htoken hpos hlive, mapError_ok]
    refine ⟨_, _, Http.Api.answer_me_of_ok hendpoint hmethod hbearer, rfl, ?_,
      hreadable.ofBytes?_payload (Claims.isPayload_payload _ _)⟩
    rw [htoken]
    exact Token.Handler.payload?_encode_of_isPayload _ (Claims.isPayload_payload _ _) hreadable
  · intro m request hexpired hendpoint hmethod hheader
    obtain ⟨reason, hrefused⟩ := parseAccessToken_of_expired htoken hexpired
    have hclaims : request.bearerClaims service.keys m.now.seconds = .error .rejected := by
      rw [Http.Request.bearerClaims_of_bearerToken (hbearerToken hheader), hrefused, mapError_error]
    exact ⟨_, Http.Api.answer_me_of_error hendpoint hmethod hclaims, rfl⟩

end Access

theorem grants_issued_refresh {expiry : Instant} {email : String} (hemail : email ≠ "") :
    Grants (service.keys.issued stamp expiry email (refreshExtra id)) ⟨id, email⟩ := by
  refine ⟨isRefresh_iff.mp isRefresh_issued_refresh, ?_, rfl, hemail⟩
  rw [userId_issued_refresh, Option.bind_some, Uuid.read_text]
  rfl

theorem readRefreshToken_of_expired {m : Moment} {expiry : Instant} {order : Json.Listing}
    {email token : String} (htoken : token = service.keys.refreshHandler.encode
      ((service.keys.issued stamp expiry email (refreshExtra id)).payload order))
    (hexpired : expiry.seconds < m.now.seconds) :
    ∃ reason, service.readRefreshToken m token = .error (.invalidToken reason) := by
  have hrefresh : ∀ claims, service.keys.parseRefreshToken m.now.seconds token ≠ .ok claims := by
    intro claims hlate
    rw [htoken] at hlate
    have hlive := (parseRefreshToken_refresh_iff.mp hlate).2.2
    omega
  have haccess : ∀ claims, service.keys.parseAccessToken m.later.seconds token ≠ .ok claims := by
    rw [htoken]
    intro claims
    exact parseAccessToken_refresh_ne_ok
  obtain ⟨reason, hreason⟩ := parseRefreshToken_of_ne_ok hrefresh
  obtain ⟨other, hother⟩ := parseAccessToken_of_ne_ok haccess
  exact ⟨reason, by rw [readRefreshToken, hreason, hother]⟩

theorem refreshesUntil_refresh {expiry : Instant} {order : Json.Listing} {email token : String}
    (htoken : token = service.keys.refreshHandler.encode
      ((service.keys.issued stamp expiry email (refreshExtra id)).payload order))
    (hpos : 0 ≤ expiry.seconds) (hemail : email ≠ "") :
    service.RefreshesUntil token expiry.seconds id email := by
  refine ⟨?_, ?_⟩
  · intro m σ directory s c accessExpiry hlive hlater hfind henabled hid hexpiry
    have hread : service.readRefreshToken m token = .ok ⟨id, email⟩ := by
      rw [htoken]
      exact readRefreshToken_eq_ok_iff.mpr ⟨_,
        parseRefreshToken_refresh_iff.mpr ⟨rfl, hpos, hlive⟩, grants_issued_refresh hemail⟩
    obtain ⟨accessToken, haccessToken⟩ : ∃ accessToken, accessToken =
        service.keys.accessHandler.encode
          ((service.keys.issued m.accessStamp accessExpiry c.email
            (accessExtra id c.roles)).payload m.accessStamp.order) :=
      ⟨_, rfl⟩
    have hcreated := createAccessToken_eq_ok_iff.mpr ⟨accessExpiry, hexpiry, haccessToken⟩
    have hpositive : 0 ≤ accessExpiry.seconds :=
      Int.le_trans hlater (Instant.seconds_le_of_add? service.keys.accessTtl_pos hexpiry)
    refine ⟨⟨accessToken, service.keys.accessTtlSeconds, token⟩, ?_, rfl,
      servesUntil_access haccessToken hpositive⟩
    rw [run_refresh_of_ok hread]
    exact finishRefresh_eq_ok_iff.mpr ⟨c, hfind, henabled, hid, hcreated, rfl, rfl⟩
  · intro m σ directory s hexpired
    obtain ⟨reason, hread⟩ := readRefreshToken_of_expired htoken hexpired
    rw [run_refresh_of_error hread]
    exact ⟨rfl, reason, rfl⟩

/-- **The tokens of a login serve for their whole lifetime and not after.** They name their expiry,
the account that was found and its id. -/
theorem login_tokens_serve (service : SignIn) (m : Moment) (email password : String) {σ : Type}
    (directory : Directory.Service σ) (s : σ) (response : TokenResponse)
    (hnow : 0 ≤ m.now.seconds) (hlater : 0 ≤ m.later.seconds)
    (h : ((service.login m email password).run directory s).result = .ok response) :
    ∃ c id access refresh accessExpiry refreshExpiry,
      (directory.find email s).1 = .ok (some c) ∧ c.externalId = some id ∧
      Token.claims? response.accessToken = some access ∧ access.exp = some accessExpiry ∧
      Token.claims? response.refreshToken = some refresh ∧ refresh.exp = some refreshExpiry ∧
      service.ServesUntil response.accessToken accessExpiry.toInt id c ∧
      (c.email ≠ "" →
        service.RefreshesUntil response.refreshToken refreshExpiry.toInt id c.email) := by
  rw [run_login] at h
  obtain ⟨c, id, hfind, -, hid, -, -, haccess, hrefresh, -⟩ := finishLogin_eq_ok_iff.mp h
  obtain ⟨accessExpiry, haccessExpiry, haccessToken⟩ := createAccessToken_eq_ok_iff.mp haccess
  obtain ⟨refreshExpiry, hrefreshExpiry, hrefreshToken⟩ := createRefreshToken_eq_ok_iff.mp hrefresh
  have haccessPos : 0 ≤ accessExpiry.seconds :=
    Int.le_trans hlater (Instant.seconds_le_of_add? service.keys.accessTtl_pos haccessExpiry)
  have hrefreshPos : 0 ≤ refreshExpiry.seconds :=
    Int.le_trans hnow (Instant.seconds_le_of_add? service.keys.refreshTtl_pos hrefreshExpiry)
  refine ⟨c, id, service.keys.issued m.accessStamp accessExpiry c.email (accessExtra id c.roles),
    service.keys.issued m.refreshStamp refreshExpiry c.email (refreshExtra id),
    Int64.ofInt accessExpiry.seconds, Int64.ofInt refreshExpiry.seconds, hfind, hid, ?_, rfl, ?_,
    rfl, ?_, ?_⟩
  · rw [haccessToken]
    exact Token.Handler.claims?_encode _ (Claims.isPayload_payload _ _)
      (readable_issued_access accessExpiry)
  · rw [hrefreshToken]
    exact Token.Handler.claims?_encode _ (Claims.isPayload_payload _ _)
      (readable_issued_refresh refreshExpiry)
  · rw [Instant.toInt_seconds]
    exact servesUntil_access haccessToken haccessPos
  · intro hemail
    rw [Instant.toInt_seconds]
    exact refreshesUntil_refresh hrefreshToken hrefreshPos hemail

/-- A directory that knows one account, whoever is asked for. -/
def directoryOf (c : Credentials) : Directory.Service Unit where
  find _ s := (.ok (some c), s)
  create _ s := (.error (.unavailable "closed"), s)

def twinAccount : Credentials where
  externalId := some twinId
  email := "a@x.org"
  passwordHash := Password.hash .bcrypt twinStamp.random "correct horse"
  enabled := true
  roles := ⟨true, false⟩

theorem exists_login_twin : ∃ response, ((twinService.login twinMoment "a@x.org"
    "correct horse").run (directoryOf twinAccount) ()).result = .ok response := by
  have hverify : Password.verify "correct horse" twinAccount.passwordHash = .ok true :=
    Password.verify_hash .bcrypt twinStamp.random "correct horse"
  exact exists_finishLogin_iff.mpr
    ⟨twinAccount, twinId, rfl, rfl, rfl, rfl, hverify, ⟨_, rfl⟩, ⟨_, rfl⟩⟩

/-- The tokens of a login to the one account of a directory. -/
theorem twin_login_tokens_serve :
    ∃ response accessExpiry refreshExpiry,
      ((twinService.login twinMoment "a@x.org" "correct horse").run
        (directoryOf twinAccount) ()).result = .ok response ∧
      twinService.ServesUntil response.accessToken accessExpiry twinId twinAccount ∧
      twinService.RefreshesUntil response.refreshToken refreshExpiry twinId "a@x.org" := by
  obtain ⟨response, hlogin⟩ := exists_login_twin
  obtain ⟨c, id, access, refresh, accessExpiry, refreshExpiry, hfind, hid, -, -, -, -, hserves,
    hrefreshes⟩ := login_tokens_serve twinService twinMoment "a@x.org" "correct horse"
      (directoryOf twinAccount) () response (by decide) (by decide) hlogin
  cases hfind
  cases hid
  exact ⟨response, _, _, hlogin, hserves, hrefreshes (by decide)⟩

end SignIn

end TokenAuth
