import TokenAuth.Proofs.Accepted
import TokenAuth.Proofs.Entered
import TokenAuth.Proofs.PasswordHash
import TokenAuth.Proofs.Presented

/-!
# The first login of an account

An account is kept under the email that was registered, as it was given. A login looks up the email
without the blanks around it, so what was registered can sign in exactly if it has none.
-/

namespace TokenAuth

open Outcome

theorem Http.Form.of_registration_eq_ok {today : Int} {form : Http.Form} {r : Registration}
    (h : form.registration today = .ok r) :
    r.email.text = form.get "email" ∧ r.password = form.get "password" ∧
      form.get "password" ≠ "" := by
  have hasked := (registration_eq_ok_iff.mp h).1
  exact ⟨hasked.email, hasked.password, hasked.password_ne⟩

/-! ### Answers of a directory -/

namespace AuthError

theorem code_forwardedStatus (code : Nat) : 400 ≤ (forwardedStatus code).code := by
  unfold forwardedStatus
  split
  · split
    · next s _ h =>
      simp only [Http.Status.isError, Bool.and_eq_true, decide_eq_true_eq] at h
      exact h.2.1
    · decide
  · decide

/-- A fault of the directory is an error to the caller. -/
theorem status_ofFault (fault : Directory.Fault) :
    400 ≤ (Http.Problem.ofAuthError (ofFault fault)).status.code := by
  cases fault with
  | unavailable reason => exact show 400 ≤ 503 by decide
  | unreadable reason => exact show 400 ≤ 502 by decide
  | status code body =>
    have hlower := (forwardedStatus code).lower
    have hupper := (forwardedStatus code).upper
    simp only [ofFault, Http.Problem.ofAuthError, Http.Problem.status, Http.Status.ofCode?, hlower,
      hupper, and_self, dif_pos, Option.getD_some]
    exact code_forwardedStatus code

end AuthError

namespace TokenResponse

/-- The tokens of a response are read back from it. -/
theorem ofDoc?_toJson (tokens : TokenResponse) : ofDoc? tokens.toJson.doc = some tokens := by
  have hfields : tokens.toJson.doc.recordFields? fieldNames = some (Json.fieldsOf
      [("accessToken", .str tokens.accessToken),
        ("expiresInSeconds", .int tokens.expiresInSeconds),
        ("refreshToken", .str tokens.refreshToken)]) :=
    Json.recordFields?_obj (show ∀ name ∈ fieldNames, fieldNames.count name ≤ 1 by decide)
      (by simp [fieldNames])
  simp [ofDoc?, hfields, Json.Fields.required?, Json.lookup_fieldsOf, List.lookup_cons,
    Json.string?_doc_str, Json.int64?_doc_int]

theorem eq_of_render_eq {tokens tokens' : TokenResponse}
    (h : tokens.toJson.render = tokens'.toJson.render) : tokens = tokens' := by
  have hfree (tokens : TokenResponse) : tokens.toJson.FloatFree :=
    ⟨trivial, trivial, trivial, trivial⟩
  have hread := Json.Doc.ofBytes?_render (hfree tokens)
  rw [h, Json.Doc.ofBytes?_render (hfree tokens')] at hread
  have htokens := ofDoc?_toJson tokens
  rw [← Option.some.inj hread, ofDoc?_toJson] at htokens
  exact (Option.some.inj htokens).symm

end TokenResponse

namespace Directory

/-- A directory that keeps the accounts it creates under their emails, enabled and with an id, and
finds accounts by their exact emails. -/
structure Service.KeepsAccounts {σ : Type} (directory : Service σ) : Prop where
  kept : ∀ (user : NewUser) (s : σ) (created : RegisteredUser),
    (directory.create user s).1 = .ok created →
      ∃ c id, (directory.find user.email (directory.create user s).2).1 = .ok (some c) ∧
        c.email = user.email ∧ c.passwordHash = user.passwordHash ∧ c.enabled = true ∧
        c.externalId = some id
  exact : ∀ (email : String) (s : σ) (c : Credentials),
    (directory.find email s).1 = .ok (some c) → c.email = email

end Directory

namespace SignIn

/-- Two tokens of one account. -/
structure TokensFor (tokens : TokenResponse) (id : UserId) (email : String) : Prop where
  access : ∃ claims, Token.claims? tokens.accessToken = some claims ∧ claims.sub = some email ∧
    claims.extraText? "userId" = some id.text
  refresh : ∃ claims, Token.claims? tokens.refreshToken = some claims ∧ claims.sub = some email ∧
    claims.extraText? "userId" = some id.text

variable {service : SignIn} {m : Moment} {σ : Type} {directory : Directory.Service σ} {s : σ}
variable {request : Http.Request} {form : Http.Form}

theorem verify_of_hashPassword {work : Work} {password hashed : String}
    (h : service.hashPassword work password = .ok hashed) :
    Password.verify password hashed = .ok true := by
  obtain ⟨-, salt, -, rfl⟩ := hashPassword_eq_ok_iff.mp h
  exact Password.verify_hash service.algorithm salt password

/-- A registration is answered as created only where the directory created the account. -/
theorem run_register_of_created (hpost : request.Posts .register Http.Form.registerFields form)
    (hcreated : ((Http.Api.answer service m request).run directory s).result.status = .created) :
    ∃ r hashed user, form.registration m.now.day = .ok r ∧
      service.hashPassword m.work r.password = .ok hashed ∧
      (directory.create (.ofRegistration r hashed) s).1 = .ok user ∧
      ((Http.Api.answer service m request).run directory s).state =
        (directory.create (.ofRegistration r hashed) s).2 := by
  cases hread : form.registration m.now.day with
  | error e =>
    rw [Http.Api.answer_register hpost, Directory.Consult.run_map,
      Http.Endpoint.handleRegister_of_error hread] at hcreated
    exact absurd (congrArg Http.Status.code hcreated) (show ¬(422 = 201) by decide)
  | ok r =>
    have hregisters : request.Registers m.now.day form r := ⟨hpost, hread⟩
    cases hhash : service.hashPassword m.work r.password with
    | error e =>
      obtain ⟨reason, rfl⟩ := hashPassword_eq_error hhash
      rw [Http.Api.run_registers_of_error hregisters hhash] at hcreated
      exact absurd (congrArg Http.Status.code hcreated) (show ¬(500 = 201) by decide)
    | ok hashed =>
      rw [Http.Api.run_registers_of_ok hregisters hhash] at hcreated ⊢
      cases hcreate : (directory.create (.ofRegistration r hashed) s).1 with
      | error fault =>
        have herror := AuthError.status_ofFault fault
        rw [hcreate] at hcreated
        have hstatus : (Http.Problem.ofAuthError (AuthError.ofFault fault)).status = .created :=
          hcreated
        rw [hstatus] at herror
        exact absurd herror (by decide)
      | ok user => exact ⟨r, hashed, user, rfl, hhash, hcreate, rfl⟩

theorem run_login_of_post (hpost : request.Posts .login Http.Form.loginFields form)
    (hemail : Text.trim (form.get "email") ≠ "") (hpassword : form.get "password" ≠ "") :
    ((Http.Api.answer service m request).run directory s).result =
      (Http.respond .ok TokenResponse.toJson (service.finishLogin m (form.get "password")
        (directory.find (Text.trim (form.get "email")) s).1)).shared := by
  rw [Http.Api.run_signsIn ⟨form, hpost, rfl, rfl, hemail, hpassword⟩]

theorem tokensFor_of_finishLogin {password : String} {c : Credentials} {id : UserId}
    {tokens : TokenResponse} (hid : c.externalId = some id)
    (h : service.finishLogin m password (.ok (some c)) = .ok tokens) :
    TokensFor tokens id c.email := by
  obtain ⟨c', id', hc, -, hid', -, -, haccess, hrefresh, -⟩ := finishLogin_eq_ok_iff.mp h
  obtain rfl : c = c' := Option.some.inj (Except.ok.inj hc)
  obtain rfl : id = id' := Option.some.inj (hid.symm.trans hid')
  obtain ⟨accessExpiry, -, haccess⟩ := SigningKeys.claims?_createAccessToken haccess
  obtain ⟨refreshExpiry, -, hrefresh⟩ := SigningKeys.claims?_createRefreshToken hrefresh
  exact ⟨⟨_, haccess, rfl, SigningKeys.userId_issued_access accessExpiry⟩,
    ⟨_, hrefresh, rfl, SigningKeys.userId_issued_refresh refreshExpiry⟩⟩

/-- A login that fails is answered with an error. -/
theorem status_of_finishLogin_eq_error {password : String} {e : AuthError}
    {answer : Except Directory.Fault (Option Credentials)}
    (h : service.finishLogin m password answer = .error e) :
    400 ≤ (Http.Problem.ofAuthError e).status.code := by
  cases loginFails_of_finishLogin h with
  | fault fault he =>
    rw [← he]
    exact AuthError.status_ofFault fault
  | absent | disabled | mismatched => decide
  | lost | idless | unsigned => exact show 400 ≤ 500 by decide

/-- A login is answered as ok only with the tokens of the account that was looked up. -/
theorem finishLogin_of_run_login (hpost : request.Posts .login Http.Form.loginFields form)
    {tokens : TokenResponse}
    (h : ((Http.Api.answer service m request).run directory s).result =
      (Http.Response.json .ok tokens.toJson).shared) :
    service.finishLogin m (form.get "password")
      (directory.find (Text.trim (form.get "email")) s).1 = .ok tokens := by
  by_cases hblank : Text.trim (form.get "email") = "" ∨ form.get "password" = ""
  · rw [Http.Api.answer_login hpost, Directory.Consult.run_map] at h
    simp only [Http.Endpoint.handleLogin, hblank, if_true] at h
    exact absurd (congrArg (fun response => response.status.code) h)
      (show ¬(422 = 200) by decide)
  · rw [not_or] at hblank
    rw [run_login_of_post hpost hblank.1 hblank.2] at h
    cases hfinish : service.finishLogin m (form.get "password")
        (directory.find (Text.trim (form.get "email")) s).1 with
    | error e =>
      have herror := status_of_finishLogin_eq_error hfinish
      rw [hfinish] at h
      have hstatus : (Http.Problem.ofAuthError e).status.code = 200 :=
        congrArg (fun response => response.status.code) h
      omega
    | ok tokens' =>
      rw [hfinish] at h
      rw [TokenResponse.eq_of_render_eq (congrArg Http.Response.body h)]

/-- **What was registered can sign in exactly if its email has no blanks around it**, its password is
checked at all, and both expiries of its tokens are instants. -/
theorem login_after_register_iff (service : SignIn) {σ : Type} (directory : Directory.Service σ)
    (hkeeps : directory.KeepsAccounts) (m m' : Moment) (s : σ)
    (registering signingIn : Http.Request) (given entered : Http.Form)
    (hregister : registering.Posts .register Http.Form.registerFields given)
    (hcreated :
      ((Http.Api.answer service m registering).run directory s).result.status = .created)
    (hlogin : signingIn.Posts .login Http.Form.loginFields entered)
    (hemail : entered.get "email" = given.get "email")
    (hpassword : entered.get "password" = given.get "password") :
    (∃ c id tokens, (directory.find (given.get "email")
          ((Http.Api.answer service m registering).run directory s).state).1 = .ok (some c) ∧
        c.externalId = some id ∧
        ((Http.Api.answer service m' signingIn).run directory
          ((Http.Api.answer service m registering).run directory s).state).result =
            (Http.Response.json .ok tokens.toJson).shared ∧
        TokensFor tokens id (given.get "email")) ↔
      Text.trim (given.get "email") = given.get "email" ∧ m'.work.loss = none ∧
        (∃ expiry, m'.later.add? service.keys.accessTtl = some expiry) ∧
        ∃ expiry, m'.now.add? service.keys.refreshTtl = some expiry := by
  obtain ⟨r, hashed, user, hread, hhashed, hcreate, hstate⟩ :=
    run_register_of_created hregister hcreated
  obtain ⟨htext, hsecret, hnonempty⟩ := Http.Form.of_registration_eq_ok hread
  obtain ⟨c, id, hfind, hkept, hhash, henabled, hid⟩ := hkeeps.kept _ s user hcreate
  have huser : (NewUser.ofRegistration r hashed).email = given.get "email" := htext
  rw [← hstate, huser] at hfind
  rw [huser] at hkept
  have hverify : Password.verify (given.get "password") c.passwordHash = .ok true := by
    rw [hhash, ← hsecret]
    exact verify_of_hashPassword hhashed
  constructor
  · rintro ⟨_, id', tokens, -, -, hresult, hfor⟩
    have hfinish := finishLogin_of_run_login hlogin hresult
    rw [hemail] at hfinish
    obtain ⟨c', id', hfound, -, hid', hloss, -, haccess, hrefresh⟩ :=
      exists_finishLogin_iff.mp ⟨tokens, hfinish⟩
    refine ⟨?_, hloss, haccess, hrefresh⟩
    rw [hfound] at hfinish
    obtain ⟨claims, hclaims, hsub, -⟩ := (tokensFor_of_finishLogin hid' hfinish).access
    obtain ⟨claims', hclaims', hsub', -⟩ := hfor.access
    obtain rfl : claims = claims' := Option.some.inj (hclaims.symm.trans hclaims')
    rw [hkeeps.exact _ _ c' hfound, hsub'] at hsub
    exact (Option.some.inj hsub).symm
  · rintro ⟨htrim, hloss, haccess, hrefresh⟩
    obtain ⟨tokens, hfinish⟩ : ∃ tokens,
        service.finishLogin m' (given.get "password") (.ok (some c)) = .ok tokens :=
      exists_finishLogin_iff.mpr ⟨c, id, rfl, henabled, hid, hloss, hverify, haccess, hrefresh⟩
    refine ⟨c, id, tokens, hfind, hid, ?_, ?_⟩
    · have hne : Text.trim (entered.get "email") ≠ "" := by
        rw [hemail, htrim, ← htext]
        exact r.email.text_ne_empty
      have hsecretNe : entered.get "password" ≠ "" := by rwa [hpassword]
      rw [run_login_of_post hlogin hne hsecretNe, hemail, htrim, hpassword, hfind, hfinish]
      rfl
    · have hfor := tokensFor_of_finishLogin hid hfinish
      rwa [hkept] at hfor

/-! ### A registry of accounts -/

/-- Keeps every account it is asked to create, the latest of an email before the others. -/
def registry : Directory.Service (List Credentials) where
  find email accounts := (.ok (accounts.find? fun c => c.email == email), accounts)
  create user accounts :=
    (.ok ⟨some SigningKeys.twinId, user.email, some user.firstName, some user.lastName,
        some user.birthDate, some user.sex, none⟩,
      ⟨some SigningKeys.twinId, user.email, user.passwordHash, true, ⟨true, false⟩⟩ :: accounts)

theorem keepsAccounts_registry : registry.KeepsAccounts where
  kept user accounts created _ :=
    ⟨_, _, congrArg Except.ok (List.find?_cons_of_pos (beq_self_eq_true user.email)), rfl, rfl, rfl,
      rfl⟩
  exact email accounts c hfound := by
    have hc := List.find?_some (Except.ok.inj hfound)
    exact beq_iff_eq.mp hc

def twinEmail : Email := ⟨"a@b.org", by decide, by decide +kernel⟩

def twinBirthDate : Date := (Date.ofParts? 1990 1 1).get (by decide)

def registrationFields (email : String) : List (String × String) :=
  [("email", email), ("password", "Secret123!"), ("firstName", "Alice"), ("lastName", "Liddell"),
    ("birthDate", "1990-01-01"), ("sex", "FEMALE")]

def loginFields (email : String) : List (String × String) :=
  [("email", email), ("password", "Secret123!")]

def registering (email : String) : Http.Request := .ofFields .register (registrationFields email)

def signingIn (email : String) : Http.Request := .ofFields .login (loginFields email)

/-- The day of the moment. -/
def twinToday : Date := ⟨2023, 11, 14, by decide, by decide, by decide, by decide⟩

theorem posts_registering {email : String}
    (hsize : (registering email).body.length ≤ Http.Request.bodyLimit) :
    (registering email).Posts .register Http.Form.registerFields
      (registrationFields email).reverse :=
  Http.Request.posts_ofFields hsize (by simp [registrationFields, Http.Form.registerFields])
    (show ["email", "password", "firstName", "lastName", "birthDate", "sex"].Nodup by decide)

theorem posts_signingIn {email : String}
    (hsize : (signingIn email).body.length ≤ Http.Request.bodyLimit) :
    (signingIn email).Posts .login Http.Form.loginFields (loginFields email).reverse :=
  Http.Request.posts_ofFields hsize (by simp [loginFields, Http.Form.loginFields])
    (show ["email", "password"].Nodup by decide)

theorem exists_registers_registering (email : String)
    (hsize : (registering email).body.length ≤ Http.Request.bodyLimit)
    (hread : (Http.Form.registration (registrationFields email).reverse
      twinMoment.now.day).isOk = true) :
    ∃ r, (registering email).Registers twinMoment.now.day (registrationFields email).reverse r := by
  obtain ⟨r, hregistration⟩ := exists_of_isOk hread
  exact ⟨r, posts_registering hsize, hregistration⟩

/-- A registration that is well formed is answered as created, and its account is kept. -/
theorem run_registering (email : String)
    (hsize : (registering email).body.length ≤ Http.Request.bodyLimit)
    (hread : (Http.Form.registration (registrationFields email).reverse
      twinMoment.now.day).isOk = true) :
    ∃ passwordHash,
      ((Http.Api.answer twinService twinMoment (registering email)).run registry []).result.status =
        .created ∧
      ((Http.Api.answer twinService twinMoment (registering email)).run registry []).state =
        [⟨some SigningKeys.twinId, email, passwordHash, true, ⟨true, false⟩⟩] := by
  obtain ⟨r, hregisters⟩ := exists_registers_registering email hsize hread
  have hemail : r.email.text = email := (Http.Form.of_registration_eq_ok hregisters.2).1
  rw [Http.Api.run_registers_of_ok hregisters (hashPassword_twin r.password)]
  refine ⟨Password.hash .bcrypt SigningKeys.twinStamp.random r.password, rfl, ?_⟩
  rw [← hemail]
  rfl

/-- An email with a blank after it is registered, and cannot sign in. -/
theorem login_after_register_refused :
    registry.KeepsAccounts ∧
      ((Http.Api.answer twinService twinMoment (registering "A <a@b.org> ")).run
        registry []).result.status = .created ∧
      ((Http.Api.answer twinService twinMoment (signingIn "A <a@b.org> ")).run registry
        ((Http.Api.answer twinService twinMoment (registering "A <a@b.org> ")).run
          registry []).state).result.status = .unauthorized := by
  obtain ⟨passwordHash, hcreated, hstate⟩ :=
    run_registering "A <a@b.org> " (by decide +kernel) (by decide +kernel)
  refine ⟨keepsAccounts_registry, hcreated, ?_⟩
  have htrim : Text.trim (Http.Form.get (loginFields "A <a@b.org> ").reverse "email") =
      "A <a@b.org>" := by decide
  rw [hstate, run_login_of_post (posts_signingIn (by decide +kernel)) (by decide) (by decide),
    htrim]
  rfl

/-- One without blanks can. -/
theorem clean_login_after_register :
    ((Http.Api.answer twinService twinMoment (registering "a@b.org")).run
        registry []).result.status = .created ∧
      ∃ c id tokens, (registry.find "a@b.org"
          ((Http.Api.answer twinService twinMoment (registering "a@b.org")).run
            registry []).state).1 = .ok (some c) ∧ c.externalId = some id ∧
        ((Http.Api.answer twinService twinMoment (signingIn "a@b.org")).run registry
          ((Http.Api.answer twinService twinMoment (registering "a@b.org")).run
            registry []).state).result = (Http.Response.json .ok tokens.toJson).shared ∧
        TokensFor tokens id "a@b.org" := by
  obtain ⟨-, hcreated, -⟩ :=
    run_registering "a@b.org" (by decide +kernel) (by decide +kernel)
  exact ⟨hcreated, (login_after_register_iff twinService registry keepsAccounts_registry twinMoment
    twinMoment [] (registering "a@b.org") (signingIn "a@b.org") _ _
    (posts_registering (by decide +kernel)) hcreated (posts_signingIn (by decide +kernel)) rfl
    rfl).mpr ⟨by decide, rfl, ⟨_, rfl⟩, ⟨_, rfl⟩⟩⟩

end SignIn

end TokenAuth
