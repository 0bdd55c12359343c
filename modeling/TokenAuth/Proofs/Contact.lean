import TokenAuth.Proofs.Dismissed

/-!
# Contact with the directory

What a session of requests asks of the directory, request by request, whatever the directory
replies. Main statement: `contact_discipline`. If lookups leave the directory as it is, it changes
only with registrations that hold, each by one creation.
-/

namespace TokenAuth

open Outcome

namespace Directory

variable {σ : Type}

/-- Lookups leave the directory as it is. -/
def Service.LooksUpOnly (directory : Service σ) : Prop :=
  ∀ email s, (directory.find email s).2 = s

/-- The state after a call of a directory whose lookups leave it as it is. -/
def Call.after (directory : Service σ) (s : σ) : Call → σ
  | find _ => s
  | create user => (directory.create user s).2

/-- What such a directory becomes is decided by the calls alone. -/
theorem Consult.state_run {α : Type} {directory : Service σ} (hfind : directory.LooksUpOnly)
    (consult : Consult α) (s : σ) : (consult.run directory s).state =
      (consult.run directory s).calls.foldl (Call.after directory) s := by
  induction consult generalizing s with
  | done a => rfl
  | find email next ih =>
    simp only [run, List.foldl_cons, Call.after, ih, hfind email s]
  | create user next ih => simp only [run, List.foldl_cons, Call.after, ih]

/-- Two states whose records differ at one key at most. -/
def DifferAtOne {κ ρ : Type} (record : σ → κ → ρ) (s s' : σ) : Prop :=
  ∃ key, ∀ other, other ≠ key → record s' other = record s other

end Directory

namespace AuthError

theorem eq_of_forwardedStatus {code : Nat} (h : (forwardedStatus code).code = 422) : code = 422 := by
  unfold forwardedStatus at h
  split at h
  · next s hs =>
    split at h
    · unfold Http.Status.ofCode? at hs
      split at hs
      · rw [← Option.some.inj hs] at h
        exact h
      · cases hs
    · exact absurd h (by decide)
  · exact absurd h (by decide)

/-- A fault of the directory is shown as unprocessable only where that is the directory's answer. -/
theorem fault_of_unprocessable {fault : Directory.Fault}
    (h : (ofFault fault).refusal.status = .unprocessable) : ∃ body, fault = .status 422 body := by
  cases fault with
  | unavailable reason => exact absurd (congrArg Http.Status.code h) (show ¬503 = 422 by decide)
  | unreadable reason => exact absurd (congrArg Http.Status.code h) (show ¬502 = 422 by decide)
  | status code body =>
    have hlower := (forwardedStatus code).lower
    have hupper := (forwardedStatus code).upper
    have hstatus : (refusal (ofFault (.status code body))).status = forwardedStatus code := by
      simp [refusal, Http.Response.shared, Http.Response.varying, Http.Response.withHeader,
        Http.Problem.response, Http.Response.json, ofFault, Http.Problem.ofAuthError,
        Http.Problem.status, Http.Status.ofCode?, hlower, hupper]
    rw [hstatus] at h
    exact ⟨body, by rw [eq_of_forwardedStatus (congrArg Http.Status.code h)]⟩

/-- The errors of a token that entitles to nothing. -/
def OfToken (e : AuthError) : Prop :=
  (∃ reason, e = .invalidToken reason) ∨ e = .notARefreshToken ∨ e = .invalidRefreshTokenPayload

end AuthError

/-- The account that is created for a form: what was entered, the date and the sex read without the
blanks around them, and a hash that the password verifies against. -/
structure NewUser.Submitted (user : NewUser) (form : Http.Form) : Prop where
  email : user.email = form.get "email"
  firstName : user.firstName = form.get "firstName"
  lastName : user.lastName = form.get "lastName"
  birthDate : Date.read (Text.trim (form.get "birthDate")) = .ok user.birthDate
  sex : user.sex.name = Text.trim (form.get "sex")
  password : Password.verify (form.get "password") user.passwordHash = .ok true

theorem SignIn.submitted_of_hashPassword {service : SignIn} {work : SignIn.Work} {today : Int}
    {form : Http.Form} {r : Registration} {hashed : String} (h : form.registration today = .ok r)
    (hhash : service.hashPassword work r.password = .ok hashed) :
    (NewUser.ofRegistration r hashed).Submitted form := by
  have hasked := (Http.Form.registration_eq_ok_iff.mp h).1
  refine ⟨hasked.email, hasked.firstName, hasked.lastName, hasked.birthDate, hasked.sex, ?_⟩
  rw [← hasked.password]
  exact verify_of_hashPassword hhash

namespace SignIn

open Directory

variable {service : SignIn} {m : Moment} {request : Http.Request} {σ : Type}
variable {directory : Service σ} {s : σ} {token : String} {grant : Grant}
variable {answer : Except Fault (Option Credentials)}

/-! ### One request -/

theorem finishRefresh_eq_error {e : AuthError}
    (h : service.finishRefresh m token grant answer = .error e) :
    (∃ fault, answer = .error fault ∧ e = .ofFault fault) ∨ e = .badCredentials ∨
      e = .userIdMissing ∨ ∃ reason, e = .tokenSigning reason := by
  rcases bind_eq_error_iff.mp h with hactive | ⟨c, -, h⟩
  · rcases activeCredentials_eq_error hactive with hfault | ⟨hbad, -⟩
    · exact .inl hfault
    · exact .inr (.inl hbad)
  split at h
  · exact .inr (.inr (.inl (Except.error.inj h).symm))
  · split at h
    · rcases bind_eq_error_iff.mp h with haccess | ⟨_, -, h⟩
      · exact .inr (.inr (.inr (createAccessToken_eq_error haccess)))
      · exact nomatch h
    · exact .inr (.inl (Except.error.inj h).symm)

/-- What the directory answers about an account is no error of the token. -/
theorem kind_of_finishRefresh {e e' : AuthError}
    (h : service.finishRefresh m token grant answer = .error e) (htoken : e'.OfToken) :
    e.kind ≠ e'.kind := by
  rcases htoken with ⟨reason, rfl⟩ | rfl | rfl <;>
    rcases finishRefresh_eq_error h with ⟨fault, -, rfl⟩ | rfl | rfl | ⟨reason', rfl⟩ <;>
    first
    | cases fault <;> simp [AuthError.ofFault, AuthError.kind]
    | simp [AuthError.kind]

theorem answer_of_unprocessable
    (h : (Http.respond .ok TokenResponse.toJson
      (service.finishRefresh m token grant answer)).shared.status = .unprocessable) :
    ∃ body, answer = .error (.status 422 body) := by
  cases hfinish : service.finishRefresh m token grant answer with
  | ok tokens =>
    rw [hfinish] at h
    exact absurd (congrArg Http.Status.code h) (show ¬200 = 422 by decide)
  | error e =>
    rw [hfinish] at h
    have hstatus : e.refusal.status = .unprocessable := h
    rcases finishRefresh_eq_error hfinish with ⟨fault, rfl, rfl⟩ | rfl | rfl | ⟨reason, rfl⟩
    · obtain ⟨body, rfl⟩ := AuthError.fault_of_unprocessable hstatus
      exact ⟨body, rfl⟩
    · exact absurd hstatus (by decide)
    · exact absurd hstatus (by decide)
    · exact absurd (congrArg Http.Status.code hstatus) (show ¬500 = 422 by decide)

/-- A request to refresh asks for the account of a grant, or for nothing. -/
theorem run_refresh_cases (h : request.endpoint? = some .refresh) :
    ((Http.Api.answer service m request).run directory s).calls = [] ∨
      ∃ token claims grant, request.Presents token ∧
        service.keys.parseRefreshToken m.now.seconds token = .ok claims ∧ Grants claims grant ∧
        (Http.Api.answer service m request).run directory s =
          ⟨(Http.respond .ok TokenResponse.toJson (service.finishRefresh m token grant
              (directory.find grant.email s).1)).shared,
            [.find grant.email], (directory.find grant.email s).2⟩ := by
  rcases Http.Api.presents_or_immediate h with ⟨token, hpresents⟩ | himmediate
  · cases hread : service.readRefreshToken m token with
    | error e =>
      rw [Http.Api.run_presents_of_error hpresents hread]
      exact .inl rfl
    | ok grant =>
      obtain ⟨claims, hparse, hgrants⟩ := readRefreshToken_eq_ok_iff.mp hread
      exact .inr ⟨token, claims, grant, hpresents, hparse, hgrants,
        Http.Api.run_presents_of_ok hpresents hread⟩
  · exact .inl (himmediate.run directory s).1

theorem calls_of_ofToken {e : AuthError} (h : request.endpoint? = some .refresh)
    (htoken : e.OfToken)
    (hresult : ((Http.Api.answer service m request).run directory s).result = e.refusal) :
    ((Http.Api.answer service m request).run directory s).calls = [] := by
  have hstatus : e.refusal.status ≠ .ok := by
    rcases htoken with ⟨reason, rfl⟩ | rfl | rfl
    · exact fun hok => absurd (congrArg Http.Status.code hok) (show ¬401 = 200 by decide)
    · decide
    · decide
  rcases run_refresh_cases h with hcalls | ⟨token, claims, grant, -, -, -, hrun⟩
  · exact hcalls
  · rw [hrun] at hresult
    obtain ⟨e', hfinish, hkind⟩ := respond_eq_refusal hstatus hresult
    exact absurd hkind (kind_of_finishRefresh hfinish htoken)

theorem calls_of_unprocessable (h : request.endpoint? = some .refresh)
    (hstatus : ((Http.Api.answer service m request).run directory s).result.status =
      .unprocessable) :
    ((Http.Api.answer service m request).run directory s).calls = [] ∨
      ∃ email body, ((Http.Api.answer service m request).run directory s).calls = [.find email] ∧
        (directory.find email s).1 = .error (.status 422 body) := by
  rcases run_refresh_cases h with hcalls | ⟨token, claims, grant, -, -, -, hrun⟩
  · exact .inl hcalls
  · rw [hrun] at hstatus ⊢
    obtain ⟨body, hanswer⟩ := answer_of_unprocessable hstatus
    exact .inr ⟨grant.email, body, rfl, hanswer⟩

theorem immediate_of_other (hlogin : request.endpoint? ≠ some .login)
    (hrefresh : request.endpoint? ≠ some .refresh)
    (hregister : request.endpoint? ≠ some .register) :
    Http.Api.Immediate (Http.Api.answer service m request) := by
  have hguarded {endpoint : Http.Endpoint} {response : Http.Response}
      (hresponse : response.status.code < 500) :
      Http.Api.Immediate (endpoint.guarded request (.done response)) := by
    unfold Http.Endpoint.guarded
    split
    · exact ⟨response, rfl, hresponse⟩
    · exact ⟨_, rfl, show 405 < 500 by decide⟩
  cases hendpoint : request.endpoint? with
  | none =>
    simp only [Http.Api.answer, Http.Api.route, hendpoint]
    split
    · exact ⟨_, rfl, show 200 < 500 by decide⟩
    · refine Http.Api.Immediate.map ⟨_, rfl, show 404 < 500 by decide⟩ fun response => ?_
      unfold Http.Response.forMethod
      split <;> rfl
  | some endpoint =>
    apply Http.Api.immediate_answer hendpoint
    cases endpoint with
    | health => exact hguarded (show 200 < 500 by decide)
    | me =>
      simp only [Http.Endpoint.handle, Http.Endpoint.handleMe]
      split
      · exact ⟨_, rfl, show 401 < 500 by decide⟩
      · exact hguarded (show 200 < 500 by decide)
    | login => exact absurd hendpoint hlogin
    | refresh => exact absurd hendpoint hrefresh
    | register => exact absurd hendpoint hregister

/-! ### Sessions -/

/-- One request of a session: when it came, what it found and what it led to. -/
structure Step (σ : Type) where
  moment : Moment
  request : Http.Request
  before : σ
  run : Run Http.Response σ

def step (service : SignIn) (directory : Service σ) (s : σ) (m : Moment) (request : Http.Request) :
    Step σ :=
  ⟨m, request, s, (Http.Api.answer service m request).run directory s⟩

/-- A session of requests one after the other, each at a moment of its own. -/
def session (service : SignIn) (directory : Service σ) (s : σ) :
    List (Moment × Http.Request) → List (Step σ)
  | [] => []
  | (m, request) :: requests =>
    let step := service.step directory s m request
    step :: service.session directory step.run.state requests

/-- The directory after a session. -/
def stateAfter (service : SignIn) (directory : Service σ) (s : σ) :
    List (Moment × Http.Request) → σ
  | [] => s
  | (m, request) :: requests =>
    service.stateAfter directory (service.step directory s m request).run.state requests

namespace Step

/-- What a request asks of the directory. -/
structure Disciplined (service : SignIn) (directory : Service σ) (step : Step σ) : Prop where
  login : ∀ email password, step.request.SignsIn email password → step.run.calls = [.find email]
  blankLogin : step.request.endpoint? = some .login →
    (∀ email password, ¬step.request.SignsIn email password) → step.run.calls = []
  refresh : ∀ token claims grant, step.request.Presents token →
    service.keys.parseRefreshToken step.moment.now.seconds token = .ok claims →
    Grants claims grant → step.run.calls = [.find grant.email]
  ungranted : step.request.endpoint? = some .refresh →
    (∀ token claims grant, step.request.Presents token →
      service.keys.parseRefreshToken step.moment.now.seconds token = .ok claims →
      ¬Grants claims grant) → step.run.calls = []
  refused : step.request.endpoint? = some .refresh → ∀ e : AuthError, e.OfToken →
    step.run.result = e.refusal → step.run.calls = []
  unprocessable : step.request.endpoint? = some .refresh →
    step.run.result.status = .unprocessable → step.run.calls = [] ∨
      ∃ email body, step.run.calls = [.find email] ∧
        (directory.find email step.before).1 = .error (.status 422 body)
  register : ∀ form r hashed, step.request.Registers step.moment.now.day form r →
    service.hashPassword step.moment.work r.password = .ok hashed →
    step.run.calls = [.create (.ofRegistration r hashed)] ∧
      (NewUser.ofRegistration r hashed).Submitted form
  unhashed : ∀ form r e, step.request.Registers step.moment.now.day form r →
    service.hashPassword step.moment.work r.password = .error e →
    step.run.calls = [] ∧ step.run.result.status = .internalError
  invalidRegister : step.request.endpoint? = some .register →
    (∀ form r, ¬step.request.Registers step.moment.now.day form r) → step.run.calls = []
  other : step.request.endpoint? ≠ some .login → step.request.endpoint? ≠ some .refresh →
    step.request.endpoint? ≠ some .register → step.run.calls = []

variable (service m request directory s)

theorem disciplined_step :
    (service.step directory s m request).Disciplined service directory where
  login email password hsignsIn := congrArg Run.calls (Http.Api.run_signsIn hsignsIn)
  blankLogin hendpoint hnone := by
    rcases Http.Api.signsIn_or_immediate hendpoint with ⟨email, password, hsignsIn⟩ | himmediate
    · exact absurd hsignsIn (hnone email password)
    · exact (himmediate.run directory s).1
  refresh token claims grant hpresents hparse hgrants := by
    have hread : service.readRefreshToken m token = .ok grant :=
      readRefreshToken_eq_ok_iff.mpr ⟨claims, hparse, hgrants⟩
    exact congrArg Run.calls (Http.Api.run_presents_of_ok hpresents hread)
  ungranted hendpoint hnone := by
    rcases run_refresh_cases hendpoint with hcalls | ⟨token, claims, grant, hpresents, hparse, hgrants, -⟩
    · exact hcalls
    · exact absurd hgrants (hnone token claims grant hpresents hparse)
  refused hendpoint _ htoken hresult := calls_of_ofToken hendpoint htoken hresult
  unprocessable hendpoint hstatus := calls_of_unprocessable hendpoint hstatus
  register form r hashed hregisters hhash :=
    ⟨congrArg Run.calls (Http.Api.run_registers_of_ok hregisters hhash),
      submitted_of_hashPassword hregisters.2 hhash⟩
  unhashed form r e hregisters hhash := by
    have hrun : (Http.Api.answer service m request).run directory s = _ :=
      Http.Api.run_registers_of_error hregisters hhash
    obtain ⟨reason, rfl⟩ := hashPassword_eq_error hhash
    exact ⟨congrArg Run.calls hrun, congrArg (fun run => run.result.status) hrun⟩
  invalidRegister hendpoint hnone := by
    rcases Http.Api.registers_or_immediate hendpoint with ⟨form, r, hregisters⟩ | himmediate
    · exact absurd hregisters (hnone form r)
    · exact (himmediate.run directory s).1
  other hlogin hrefresh hregister :=
    ((immediate_of_other hlogin hrefresh hregister).run directory s).1

/-- A request asks nothing, looks one account up, or creates the one it registers. -/
theorem calls_step : (service.step directory s m request).run.calls = [] ∨
    (∃ email, (service.step directory s m request).run.calls = [.find email]) ∨
    ∃ form r hashed, request.Registers m.now.day form r ∧
      service.hashPassword m.work r.password = .ok hashed ∧
      (service.step directory s m request).run.calls = [.create (.ofRegistration r hashed)] := by
  have hdisciplined := disciplined_step service m request directory s
  by_cases hlogin : request.endpoint? = some .login
  · rcases Http.Api.signsIn_or_immediate hlogin with ⟨email, password, hsignsIn⟩ | himmediate
    · exact .inr (.inl ⟨email, hdisciplined.login email password hsignsIn⟩)
    · exact .inl (himmediate.run directory s).1
  by_cases hrefresh : request.endpoint? = some .refresh
  · rcases run_refresh_cases hrefresh with hcalls | ⟨token, claims, grant, -, -, -, hrun⟩
    · exact .inl hcalls
    · exact .inr (.inl ⟨grant.email, congrArg Run.calls hrun⟩)
  by_cases hregister : request.endpoint? = some .register
  · rcases Http.Api.registers_or_immediate hregister with ⟨form, r, hregisters⟩ | himmediate
    · cases hhash : service.hashPassword m.work r.password with
      | error e => exact .inl (hdisciplined.unhashed form r e hregisters hhash).1
      | ok hashed =>
        exact .inr (.inr ⟨form, r, hashed, hregisters, hhash,
          (hdisciplined.register form r hashed hregisters hhash).1⟩)
    · exact .inl (himmediate.run directory s).1
  · exact .inl (hdisciplined.other hlogin hrefresh hregister)

/-- Where lookups leave the directory as it is, a request changes it by one creation at most. -/
theorem state_step (hfind : directory.LooksUpOnly) :
    (service.step directory s m request).run.state = s ∨
      ∃ form r hashed, request.Registers m.now.day form r ∧
        service.hashPassword m.work r.password = .ok hashed ∧
        (service.step directory s m request).run.state =
          (directory.create (.ofRegistration r hashed) s).2 := by
  have hstate : (service.step directory s m request).run.state =
      (service.step directory s m request).run.calls.foldl (Call.after directory) s :=
    Consult.state_run hfind (Http.Api.answer service m request) s
  rcases calls_step service m request directory s with
    hcalls | ⟨email, hcalls⟩ | ⟨form, r, hashed, hregisters, hhash, hcalls⟩
  · rw [hstate, hcalls]
    exact .inl rfl
  · rw [hstate, hcalls]
    exact .inl rfl
  · rw [hstate, hcalls]
    exact .inr ⟨form, r, hashed, hregisters, hhash, rfl⟩

end Step

variable {requests : List (Moment × Http.Request)}

theorem exists_step_of_mem_session {step : Step σ} (h : step ∈ service.session directory s requests) :
    ∃ s m request, step = service.step directory s m request := by
  induction requests generalizing s with
  | nil => exact nomatch h
  | cons visit requests ih =>
    obtain ⟨m, request⟩ := visit
    rcases List.mem_cons.mp h with rfl | h
    · exact ⟨s, m, request, rfl⟩
    · exact ih h

/-- Without a registration that holds and is hashed, a session leaves the directory as it is. -/
theorem stateAfter_of_not_registers (hfind : directory.LooksUpOnly)
    (h : ∀ step ∈ service.session directory s requests, ∀ form r hashed,
      step.request.Registers step.moment.now.day form r →
      service.hashPassword step.moment.work r.password ≠ .ok hashed) :
    service.stateAfter directory s requests = s := by
  induction requests generalizing s with
  | nil => rfl
  | cons visit requests ih =>
    obtain ⟨m, request⟩ := visit
    have hfirst : (service.step directory s m request).run.state = s := by
      rcases Step.state_step service m request directory s hfind with
        hsame | ⟨form, r, hashed, hregisters, hhash, -⟩
      · exact hsame
      · exact absurd hhash (h _ List.mem_cons_self form r hashed hregisters)
    calc service.stateAfter directory s ((m, request) :: requests)
      _ = service.stateAfter directory (service.step directory s m request).run.state requests := rfl
      _ = (service.step directory s m request).run.state :=
        ih fun step hstep => h step (List.mem_cons_of_mem _ hstep)
      _ = s := hfirst

/-- **What a session asks of the directory.** Every request keeps to its discipline, whatever the
directory replies and whenever it comes. If lookups leave the directory as it is, the only request
that changes it is a registration that holds and whose password is hashed, by the one creation it
asks for: if a creation makes one record differ at most, so does the request. A session without one
changes nothing. -/
theorem contact_discipline (service : SignIn) (directory : Service σ) (s : σ)
    (requests : List (Moment × Http.Request)) :
    (∀ step ∈ service.session directory s requests, step.Disciplined service directory) ∧
    (directory.LooksUpOnly →
      (∀ step ∈ service.session directory s requests, step.run.state = step.before ∨
        ∃ form r hashed, step.request.Registers step.moment.now.day form r ∧
          service.hashPassword step.moment.work r.password = .ok hashed ∧
          step.run.state = (directory.create (.ofRegistration r hashed) step.before).2 ∧
          ∀ (κ ρ : Type) (record : σ → κ → ρ),
            (∀ user s, DifferAtOne record s (directory.create user s).2) →
            DifferAtOne record step.before step.run.state) ∧
      ((∀ step ∈ service.session directory s requests, ∀ form r hashed,
          step.request.Registers step.moment.now.day form r →
          service.hashPassword step.moment.work r.password ≠ .ok hashed) →
        service.stateAfter directory s requests = s)) := by
  constructor
  · intro step hstep
    obtain ⟨s, m, request, rfl⟩ := exists_step_of_mem_session hstep
    exact Step.disciplined_step service m request directory s
  · intro hfind
    refine ⟨?_, stateAfter_of_not_registers hfind⟩
    intro step hstep
    obtain ⟨s, m, request, rfl⟩ := exists_step_of_mem_session hstep
    rcases Step.state_step service m request directory s hfind with
      hsame | ⟨form, r, hashed, hregisters, hhash, hcreated⟩
    · exact .inl hsame
    · refine .inr ⟨form, r, hashed, hregisters, hhash, hcreated, ?_⟩
      intro κ ρ record hone
      rw [hcreated]
      exact hone (.ofRegistration r hashed) s

/-! ### Some sessions -/

theorem looksUpOnly_registry : registry.LooksUpOnly :=
  fun _ _ => rfl

/-- The account that a registry finds for an email. -/
def accountOf (accounts : List Credentials) (email : String) : Option Credentials :=
  accounts.find? fun c => c.email == email

theorem differAtOne_registry (user : NewUser) (accounts : List Credentials) :
    DifferAtOne accountOf accounts (registry.create user accounts).2 := by
  refine ⟨user.email, fun other hother => ?_⟩
  apply List.find?_cons_of_neg
  rw [beq_iff_eq]
  exact fun heq => hother heq.symm

/-- A login before the account is there, its registration, and a refresh. -/
def twinSession : List (Moment × Http.Request) :=
  [(twinMoment, signingIn "a@b.org"), (twinMoment, registering "a@b.org"),
    (twinMoment, presenting twinRefreshToken)]

theorem twin_contact_discipline :
    (∀ step ∈ twinService.session registry [] twinSession,
      step.Disciplined twinService registry ∧
        (step.run.state = step.before ∨
          ∃ form r, step.request.Registers step.moment.now.day form r ∧
            DifferAtOne accountOf step.before step.run.state)) ∧
      twinService.stateAfter registry [] [(twinMoment, signingIn "a@b.org")] = [] := by
  obtain ⟨hdisciplined, hstates⟩ := contact_discipline twinService registry [] twinSession
  constructor
  · intro step hstep
    refine ⟨hdisciplined step hstep, ?_⟩
    rcases (hstates looksUpOnly_registry).1 step hstep with
      hsame | ⟨form, r, -, hregisters, -, -, hone⟩
    · exact .inl hsame
    · exact .inr ⟨form, r, hregisters, hone _ _ accountOf differAtOne_registry⟩
  · refine ((contact_discipline twinService registry []
      [(twinMoment, signingIn "a@b.org")]).2 looksUpOnly_registry).2 ?_
    intro step hstep form r hashed hregisters
    obtain rfl := List.mem_singleton.mp hstep
    exact nomatch Option.some.inj
      (hregisters.1.endpoint_eq.symm.trans Http.Request.endpoint?_ofFields)

/-- Finds fault with every lookup. -/
def faultFinder : Service Unit where
  find _ s := (.error (.status 422 (utf8 "no")), s)
  create _ s := (.error (.unavailable "closed"), s)

/-- A refresh is answered as unprocessable after a lookup where that is the directory's answer. -/
theorem unprocessable_after_lookup :
    ((Http.Api.answer twinService twinMoment (presenting twinRefreshToken)).run
        faultFinder ()).result.status = .unprocessable ∧
      ((Http.Api.answer twinService twinMoment (presenting twinRefreshToken)).run
        faultFinder ()).calls = [.find "a@x.org"] := by
  rw [Http.Api.run_presents_of_ok presents_twinRefreshToken read_twinRefreshToken]
  exact ⟨rfl, rfl⟩

end SignIn

end TokenAuth
