import TokenAuth.Proofs.FirstLogin
import TokenAuth.Proofs.Lifetime

/-!
# Dismissed sign-ins

Whatever the directory answers that lets nobody in is refused with the same bytes: an outsider
cannot tell a missing account from a disabled one, nor a wrong password from a broken hash. Main
statement: `refusals_look_alike`.
-/

namespace TokenAuth

open Outcome Directory

namespace SignIn

/-- What a directory answers for an email when its password lets nobody in. The password of an
enabled account is checked, and the check comes back. -/
inductive Dismissed (work : Work) (password : String) : Except Fault (Option Credentials) → Prop
  | absent : Dismissed work password (.ok none)
  | disabled {c : Credentials} (h : c.enabled = false) : Dismissed work password (.ok (some c))
  | mismatched {c : Credentials} (henabled : c.enabled = true) (hloss : work.loss = none)
      (h : Password.verify password c.passwordHash = .ok false) :
      Dismissed work password (.ok (some c))
  | corrupt {c : Credentials} {cause : Password.Corruption} (henabled : c.enabled = true)
      (hloss : work.loss = none)
      (h : Password.verify password c.passwordHash = .error (.corruptHash cause)) :
      Dismissed work password (.ok (some c))
  | unrecognized {c : Credentials} (henabled : c.enabled = true) (hloss : work.loss = none)
      (h : Password.verify password c.passwordHash = .error .unrecognizedHash) :
      Dismissed work password (.ok (some c))

/-- What a directory answers for the email of a grant when the account is not the one it was issued
to. -/
inductive Grant.Dismissed (grant : Grant) : Except Fault (Option Credentials) → Prop
  | absent : grant.Dismissed (.ok none)
  | disabled {c : Credentials} (h : c.enabled = false) : grant.Dismissed (.ok (some c))
  | replaced {c : Credentials} {id : UserId} (henabled : c.enabled = true)
      (hid : c.externalId = some id) (hne : id ≠ grant.userId) : grant.Dismissed (.ok (some c))

variable {service : SignIn} {m m' : Moment} {answer : Except Fault (Option Credentials)}
variable {work : Work} {password token : String} {grant : Grant}

/-! ### What is made of a dismissal -/

theorem finishLogin_of_lost {c : Credentials} {reason : String} (henabled : c.enabled = true)
    (hloss : m.work.loss = some reason) :
    service.finishLogin m password (.ok (some c)) = .error (.passwordHashing reason) := by
  rw [finishLogin_of_active henabled, checkPassword_of_lost hloss]
  rfl

theorem finishLogin_of_mismatched {c : Credentials} (henabled : c.enabled = true)
    (hloss : m.work.loss = none) (h : Password.verify password c.passwordHash ≠ .ok true) :
    service.finishLogin m password (.ok (some c)) = .error .badCredentials := by
  rw [finishLogin_of_active henabled, checkPassword_of_ne hloss h]
  rfl

theorem finishLogin_of_dismissed (h : Dismissed m.work password answer) :
    service.finishLogin m password answer = .error .badCredentials := by
  cases h with
  | absent => rfl
  | disabled h =>
    rw [finishLogin, activeCredentials_of_disabled h]
    rfl
  | mismatched henabled hloss h | corrupt henabled hloss h | unrecognized henabled hloss h =>
    apply finishLogin_of_mismatched henabled hloss
    rw [h]
    simp

/-- Whatever is wrong with a stored hash, a login says the same. -/
theorem finishLogin_found_eq_badCredentials_iff {c : Credentials} :
    service.finishLogin m password (.ok (some c)) = .error .badCredentials ↔
      c.enabled = false ∨
        m.work.loss = none ∧ Password.verify password c.passwordHash ≠ .ok true := by
  constructor
  · intro h
    cases loginFails_of_finishLogin h with
    | disabled hdisabled => exact .inl hdisabled
    | mismatched _ hloss hverify => exact .inr ⟨hloss, hverify⟩
  · intro h
    cases henabled : c.enabled with
    | false => exact finishLogin_of_dismissed (.disabled henabled)
    | true =>
      obtain ⟨hloss, hverify⟩ := h.resolve_left (by simp [henabled])
      exact finishLogin_of_mismatched henabled hloss hverify

theorem finishRefresh_of_dismissed (h : grant.Dismissed answer) :
    service.finishRefresh m token grant answer = .error .badCredentials := by
  cases h with
  | absent => rfl
  | disabled h =>
    rw [finishRefresh, activeCredentials_of_disabled h]
    rfl
  | replaced henabled hid hne =>
    simp [finishRefresh, activeCredentials, henabled, hid, hne, bind, Except.bind]

/-- That an account has no id is found out only after its password. -/
theorem finishLogin_eq_userIdMissing
    (h : service.finishLogin m password answer = .error .userIdMissing) :
    ∃ c, answer = .ok (some c) ∧ c.enabled = true ∧ c.externalId = none ∧
      m.work.loss = none ∧ Password.verify password c.passwordHash = .ok true := by
  cases loginFails_of_finishLogin h with
  | fault fault he => cases fault <;> exact nomatch he
  | idless henabled hloss hverify hid => exact ⟨_, rfl, henabled, hid, hloss, hverify⟩

/-! ### What an outsider sees -/

theorem respond_eq_refusal {α : Type} {toJson : α → Json} {result : Except AuthError α}
    {e : AuthError} (hstatus : e.refusal.status ≠ .ok)
    (h : (Http.respond .ok toJson result).shared = e.refusal) :
    ∃ e', result = .error e' ∧ e'.kind = e.kind := by
  cases result with
  | ok a => exact absurd (congrArg Http.Response.status h).symm hstatus
  | error e' => exact ⟨e', rfl, AuthError.kind_eq_of_refusal_eq h⟩

/-- A refresh token is granted to one account, whenever it is read. -/
theorem grant_unique {grant' : Grant} (h : service.readRefreshToken m token = .ok grant)
    (h' : service.readRefreshToken m' token = .ok grant') : grant = grant' := by
  obtain ⟨claims, hparse, hgrants⟩ := readRefreshToken_eq_ok_iff.mp h
  obtain ⟨claims', hparse', hgrants'⟩ := readRefreshToken_eq_ok_iff.mp h'
  have hclaims := (SigningKeys.signed_of_parseRefreshToken hparse).2
  have hclaims' := (SigningKeys.signed_of_parseRefreshToken hparse').2
  obtain rfl : claims = claims' := Option.some.inj (hclaims.symm.trans hclaims')
  exact Except.ok.inj ((grantOf_eq_ok_iff.mpr hgrants).symm.trans (grantOf_eq_ok_iff.mpr hgrants'))

/-- Two runs that end in one and the same refusal, after one and the same call. -/
structure RefusedAlike {σ σ' : Type} (run : Run Http.Response σ) (run' : Run Http.Response σ')
    (email : String) : Prop where
  result_eq : run.result = run'.result
  calls_eq : run.calls = run'.calls
  status : run.result.status = .unauthorized
  body : run.result.body = utf8 ("\x7b\"status_code\":401,\"data\":\x7b\"message\":" ++
    "\"Bad credentials\",\"kind\":\"BAD_CREDENTIALS\"\x7d\x7d")
  calls : run.calls = [.find email]

theorem refusedAlike_of_eq {σ σ' : Type} {run : Run Http.Response σ} {run' : Run Http.Response σ'}
    {email : String} (hresult : run.result = AuthError.badCredentials.refusal)
    (hcalls : run.calls = [.find email]) (hresult' : run'.result = AuthError.badCredentials.refusal)
    (hcalls' : run'.calls = [.find email]) : RefusedAlike run run' email where
  result_eq := hresult.trans hresult'.symm
  calls_eq := hcalls.trans hcalls'.symm
  status := by
    rw [hresult]
    exact AuthError.status_refusal_badCredentials
  body := by
    rw [hresult]
    exact AuthError.body_refusal_badCredentials
  calls := hcalls

/-- **Failed sign-ins look alike.** Two logins with an email and a password that let nobody in, and
two refreshes of a token whose account is gone, disabled or another, end in the same bytes after the
same call, whatever made them fail, whenever and in whichever state. A request that is too large for
either is answered alike without a call. That an account has no id is answered to a login only if it
is enabled and the password was checked and fits; a check that is lost is a fault of the service. -/
theorem refusals_look_alike (service : SignIn) (request : Http.Request) {σ σ' : Type}
    (directory : Service σ) (directory' : Service σ') (m m' : Moment) (s : σ) (s' : σ') :
    (∀ email password, request.SignsIn email password →
      Dismissed m.work password (directory.find email s).1 →
      Dismissed m'.work password (directory'.find email s').1 →
      RefusedAlike ((Http.Api.answer service m request).run directory s)
        ((Http.Api.answer service m' request).run directory' s') email) ∧
    (∀ token grant grant', request.Presents token →
      service.readRefreshToken m token = .ok grant →
      service.readRefreshToken m' token = .ok grant' →
      grant.Dismissed (directory.find grant.email s).1 →
      grant'.Dismissed (directory'.find grant'.email s').1 →
      RefusedAlike ((Http.Api.answer service m request).run directory s)
        ((Http.Api.answer service m' request).run directory' s') grant.email) ∧
    (request.PostsTooMuch .login ∨ request.PostsTooMuch .refresh →
      (Http.Api.answer service m request).run directory s =
          ⟨Http.BodyFault.tooLarge.response.shared, [], s⟩ ∧
        (Http.Api.answer service m' request).run directory' s' =
          ⟨Http.BodyFault.tooLarge.response.shared, [], s'⟩) ∧
    (request.endpoint? = some .login →
      ((Http.Api.answer service m request).run directory s).result =
        AuthError.userIdMissing.refusal →
      ∃ email password c, request.SignsIn email password ∧
        (directory.find email s).1 = .ok (some c) ∧ c.enabled = true ∧ c.externalId = none ∧
        m.work.loss = none ∧ Password.verify password c.passwordHash = .ok true) ∧
    (∀ email password c reason, request.SignsIn email password →
      (directory.find email s).1 = .ok (some c) → c.enabled = true →
      m.work.loss = some reason →
      ((Http.Api.answer service m request).run directory s).result.status = .internalError ∧
        ((Http.Api.answer service m request).run directory s).calls = [.find email]) := by
  refine ⟨?_, ?_, ?_, ?_, ?_⟩
  · intro email password hsignsIn hdismissed hdismissed'
    rw [Http.Api.run_signsIn hsignsIn, Http.Api.run_signsIn hsignsIn]
    apply refusedAlike_of_eq _ rfl _ rfl
    · simp only [finishLogin_of_dismissed hdismissed]
      rfl
    · simp only [finishLogin_of_dismissed hdismissed']
      rfl
  · intro token grant grant' hpresents hread hread' hdismissed hdismissed'
    obtain rfl := grant_unique hread hread'
    rw [Http.Api.run_presents_of_ok hpresents hread, Http.Api.run_presents_of_ok hpresents hread']
    apply refusedAlike_of_eq _ rfl _ rfl
    · simp only [finishRefresh_of_dismissed hdismissed]
      rfl
    · simp only [finishRefresh_of_dismissed hdismissed']
      rfl
  · intro hsize
    have hanswer (m : Moment) : Http.Api.answer service m request =
        .done Http.BodyFault.tooLarge.response.shared := by
      rcases hsize with hlogin | hrefresh
      · exact Http.Api.answer_postsTooMuch rfl hlogin
      · exact Http.Api.answer_postsTooMuch rfl hrefresh
    rw [hanswer m, hanswer m']
    exact ⟨rfl, rfl⟩
  · intro hendpoint hresult
    have hcases : (∃ email password, request.SignsIn email password) ∨
        Http.Api.Immediate (Http.Api.answer service m request) :=
      Http.Api.signsIn_or_immediate hendpoint
    rcases hcases with ⟨email, password, hsignsIn⟩ | himmediate
    · rw [Http.Api.run_signsIn hsignsIn] at hresult
      obtain ⟨e, hfinish, hkind⟩ := respond_eq_refusal (by decide) hresult
      obtain rfl := AuthError.eq_userIdMissing_of_kind hkind
      obtain ⟨c, hc⟩ := finishLogin_eq_userIdMissing hfinish
      exact ⟨email, password, c, hsignsIn, hc⟩
    · have hstatus := himmediate.run directory s
      rw [hresult] at hstatus
      exact absurd hstatus.2.2 (by decide)
  · intro email password c reason hsignsIn hfind henabled hloss
    rw [Http.Api.run_signsIn hsignsIn, hfind, finishLogin_of_lost henabled hloss]
    exact ⟨rfl, rfl⟩

/-! ### Some of them -/

theorem signsIn_signingIn {email : String} (htrim : Text.trim email = email) (hne : email ≠ "")
    (hsize : (signingIn email).body.length ≤ Http.Request.bodyLimit) :
    (signingIn email).SignsIn email "Secret123!" :=
  ⟨_, posts_signingIn hsize, htrim, rfl, hne, by decide⟩

def presenting (token : String) : Http.Request := .ofFields .refresh [("refreshToken", token)]

theorem length_presenting (token : String) :
    (presenting token).body.length = (Json.escape (utf8 token)).length + 19 := by
  have hname : (Json.escape (utf8 "refreshToken")).length = 12 := by decide
  simp only [presenting, Http.Request.ofFields, Http.Form.body, List.map_cons, List.map_nil,
    Json.render, Json.tokens, Json.memberTokens, List.cons_append, List.nil_append,
    List.flatMap_cons, List.flatMap_nil, List.length_append, hname, Json.textToken,
    Json.Token.render, List.length_cons, List.length_nil]
  omega

theorem length_presenting_le (token : String) :
    (presenting token).body.length ≤ 6 * (utf8 token).length + 19 := by
  rw [length_presenting]
  exact Nat.add_le_add_right (Json.length_escape_le (utf8 token)) 19

/-- A text without blanks around it is presented as it is, if its request is not too large. -/
theorem presents_presenting {token : String} (htrim : Text.trim token = token) (hne : token ≠ "")
    (hsize : (presenting token).body.length ≤ Http.Request.bodyLimit) :
    (presenting token).Presents token := by
  refine ⟨_, Http.Request.posts_ofFields hsize ?_ ?_, htrim, hne⟩
  · simp [Http.Form.refreshFields]
  · simp

theorem presents_of_signed {secret : SigningSecret} {token : String} {claims : Claims}
    (hsigned : Token.Signed secret token) (hclaims : Token.claims? token = some claims)
    (hsize : (presenting token).body.length ≤ Http.Request.bodyLimit) :
    (presenting token).Presents token := by
  apply presents_presenting (Text.trim_of_visible (Token.visible_of_signed hsigned hclaims)) _ hsize
  intro hempty
  exact Token.utf8_ne_nil_of_signed hsigned (congrArg utf8 hempty)

def twinExpiry : Instant :=
  (SigningKeys.twinStamp.now.add? SigningKeys.twinKeys.refreshTtl).get rfl

def twinRefreshToken : String :=
  SigningKeys.twinKeys.refreshHandler.encode ((SigningKeys.twinKeys.issued SigningKeys.twinStamp
    twinExpiry "a@x.org" (SigningKeys.refreshExtra SigningKeys.twinId)).payload SigningKeys.twinStamp.order)

theorem parse_twinRefreshToken : ∃ claims,
    SigningKeys.twinKeys.parseRefreshToken 1700000000 twinRefreshToken = .ok claims ∧
      Grants claims ⟨SigningKeys.twinId, "a@x.org"⟩ := by
  have hgrants : Grants (twinService.keys.issued SigningKeys.twinStamp twinExpiry "a@x.org"
      (SigningKeys.refreshExtra SigningKeys.twinId)) ⟨SigningKeys.twinId, "a@x.org"⟩ :=
    grants_issued_refresh (by decide)
  exact ⟨_, SigningKeys.parseRefreshToken_refresh_iff.mpr ⟨rfl, by decide, by decide⟩, hgrants⟩

theorem read_twinRefreshToken : twinService.readRefreshToken twinMoment twinRefreshToken =
    .ok ⟨SigningKeys.twinId, "a@x.org"⟩ :=
  readRefreshToken_eq_ok_iff.mpr parse_twinRefreshToken

theorem presents_twinRefreshToken : (presenting twinRefreshToken).Presents twinRefreshToken := by
  obtain ⟨claims, hparse, -⟩ := parse_twinRefreshToken
  obtain ⟨hsigned, hclaims⟩ := SigningKeys.signed_of_parseRefreshToken hparse
  apply presents_of_signed hsigned hclaims
  refine Nat.le_trans (length_presenting_le twinRefreshToken) ?_
  rw [twinRefreshToken, Token.Handler.length_utf8_encode]
  decide +kernel

def idlessAccount : Credentials where
  externalId := none
  email := "a@x.org"
  passwordHash := Password.hash .bcrypt SigningKeys.twinStamp.random "Secret123!"
  enabled := true
  roles := .empty

theorem result_signingIn_idless (hsignsIn : (signingIn "a@x.org").SignsIn "a@x.org" "Secret123!") :
    ((Http.Api.answer twinService twinMoment (signingIn "a@x.org")).run
      (directoryOf idlessAccount) ()).result = AuthError.userIdMissing.refusal := by
  have hcheck : checkPassword twinMoment.work "Secret123!" idlessAccount = .ok () :=
    checkPassword_eq_ok_iff.mpr ⟨rfl, Password.verify_hash .bcrypt SigningKeys.twinStamp.random _⟩
  have hfinish : twinService.finishLogin twinMoment "Secret123!" (.ok (some idlessAccount)) =
      .error .userIdMissing := by
    rw [finishLogin_of_active rfl, hcheck]
    rfl
  rw [Http.Api.run_signsIn hsignsIn]
  change (Http.respond .ok TokenResponse.toJson (twinService.finishLogin twinMoment "Secret123!"
    (.ok (some idlessAccount)))).shared = _
  rw [hfinish]
  rfl

/-- No account and a hash in no known format, no account and one of another id, and an account
without an id. -/
theorem twin_refusals_look_alike :
    RefusedAlike
        ((Http.Api.answer twinService twinMoment (signingIn "a@x.org")).run registry [])
        ((Http.Api.answer twinService twinMoment (signingIn "a@x.org")).run
          (directoryOf { twinAccount with passwordHash := "Secret123!" }) ()) "a@x.org" ∧
      RefusedAlike
        ((Http.Api.answer twinService twinMoment (presenting twinRefreshToken)).run registry [])
        ((Http.Api.answer twinService twinMoment (presenting twinRefreshToken)).run
          (directoryOf { twinAccount with
            externalId := some ⟨⟨List.replicate 16 1, by decide⟩⟩ }) ()) "a@x.org" ∧
      ∃ email password c, (signingIn "a@x.org").SignsIn email password ∧
        ((directoryOf idlessAccount).find email ()).1 = .ok (some c) ∧ c.enabled = true ∧
        c.externalId = none ∧ twinMoment.work.loss = none ∧
        Password.verify password c.passwordHash = .ok true := by
  have hsignsIn : (signingIn "a@x.org").SignsIn "a@x.org" "Secret123!" :=
    signsIn_signingIn (by decide) (by decide) (by decide +kernel)
  refine ⟨?_, ?_, ?_⟩
  · exact (refusals_look_alike twinService (signingIn "a@x.org") registry
      (directoryOf { twinAccount with passwordHash := "Secret123!" }) twinMoment twinMoment [] ()).1
      "a@x.org" "Secret123!" hsignsIn .absent (.unrecognized rfl rfl rfl)
  · exact (refusals_look_alike twinService (presenting twinRefreshToken) registry
      (directoryOf { twinAccount with externalId := some ⟨⟨List.replicate 16 1, by decide⟩⟩ })
      twinMoment twinMoment [] ()).2.1 twinRefreshToken _ _ presents_twinRefreshToken
      read_twinRefreshToken read_twinRefreshToken .absent (.replaced rfl rfl (by decide))
  · exact (refusals_look_alike twinService (signingIn "a@x.org") (directoryOf idlessAccount)
      registry twinMoment twinMoment () []).2.2.2.1 Http.Request.endpoint?_ofFields
      (result_signingIn_idless hsignsIn)

end SignIn

end TokenAuth
