import TokenAuth.Http.Api
import TokenAuth.Proofs.Fields

/-!
# Posted forms

What an endpoint does with a form that is posted to it, and which form a body of text fields is read
as.
-/

namespace TokenAuth

namespace Directory.Consult

variable {α β γ σ : Type} {directory : Service σ}

theorem run_map (f : α → β) (consult : Consult α) (s : σ) :
    (consult.map f).run directory s =
      ⟨f (consult.run directory s).result, (consult.run directory s).calls,
        (consult.run directory s).state⟩ := by
  induction consult generalizing s with
  | done a => rfl
  | find email next ih => simp only [map, run, ih]
  | create user next ih => simp only [map, run, ih]

theorem map_map (f : α → β) (g : β → γ) (consult : Consult α) :
    (consult.map f).map g = consult.map fun a => g (f a) := by
  induction consult with
  | done a => rfl
  | find email next ih => simp only [map, ih]
  | create user next ih => simp only [map, ih]

end Directory.Consult

namespace Http

open Directory (Consult)

/-! ### Requests that post a form -/

/-- A request that posts a form to an endpoint. -/
structure Request.Posts (request : Request) (endpoint : Endpoint) (names : List String)
    (form : Form) : Prop where
  endpoint_eq : request.endpoint? = some endpoint
  method_eq : request.method = "POST"
  form_eq : request.form names = .ok form

variable {service : SignIn} {m : SignIn.Moment} {request : Request} {form : Form}
variable {endpoint : Endpoint} {names : List String}

theorem Api.answer_of_post (hendpoint : request.endpoint? = some endpoint)
    (hmethod : request.method = "POST") (hallows : endpoint.allows "POST" = true) :
    answer service m request = (endpoint.handle service m request).map Response.shared := by
  simp only [answer, route, hendpoint, hmethod, String.reduceEq, if_false, Consult.map_map,
    Response.withAllow, hallows, if_true, Response.forMethod]

theorem Api.answer_register (h : request.Posts .register Form.registerFields form) :
    answer service m request =
      (Endpoint.handleRegister service m form).map Response.shared := by
  have hallows : Endpoint.register.allows "POST" = true := by decide
  rw [answer_of_post h.endpoint_eq h.method_eq hallows]
  simp only [Endpoint.handle, Endpoint.guarded, h.method_eq, hallows, if_true, Endpoint.withForm,
    h.form_eq]

theorem Endpoint.handleRegister_of_ok {r : Registration} (h : form.registration m.now.day = .ok r) :
    handleRegister service m form =
      (service.register m r).map (respond .created RegisteredUser.toJson) := by
  delta handleRegister
  rw [h]

theorem Endpoint.handleRegister_of_error {e : RegisterFormError}
    (h : form.registration m.now.day = .error e) :
    handleRegister service m form = unprocessable e.message := by
  delta handleRegister
  rw [h]

theorem Api.answer_login (h : request.Posts .login Form.loginFields form) :
    answer service m request = (Endpoint.handleLogin service m form).map Response.shared := by
  have hallows : Endpoint.login.allows "POST" = true := by decide
  rw [answer_of_post h.endpoint_eq h.method_eq hallows]
  simp only [Endpoint.handle, Endpoint.guarded, h.method_eq, hallows, if_true, Endpoint.withForm,
    h.form_eq]

theorem Api.answer_refresh (h : request.Posts .refresh Form.refreshFields form) :
    answer service m request = (Endpoint.handleRefresh service m form).map Response.shared := by
  have hallows : Endpoint.refresh.allows "POST" = true := by decide
  rw [answer_of_post h.endpoint_eq h.method_eq hallows]
  simp only [Endpoint.handle, Endpoint.guarded, h.method_eq, hallows, if_true, Endpoint.withForm,
    h.form_eq]

/-! ### Bodies of text fields -/

namespace Form

open Json

/-- A body of text fields. -/
def body (fields : List (String × String)) : Json := .obj (fields.map fun f => (f.1, .str f.2))

theorem floatFree_body (fields : List (String × String)) : (body fields).FloatFree := by
  have hmembers (fields : List (String × String)) :
      MembersFloatFree (fields.map fun f => (f.1, Json.str f.2)) := by
    induction fields with
    | nil => trivial
    | cons field fields ih => exact ⟨trivial, ih⟩
  exact hmembers fields

theorem addMember_text {names : List String} {form : Form} {name : String} (value : String)
    (hname : name ∈ names) (hnew : form.lookup name = none) :
    addMember names form (escape (utf8 name), (Json.str value).doc) =
      .ok ((name, value) :: form) := by
  have hfield : fieldName names form (escape (utf8 name)) = .ok (some name) := by
    simp [fieldName, textOf?_escape, hname, hnew]
  have htext : fieldText (Json.str value).doc = .ok value := by
    simp [fieldText, Json.doc, textOf?_escape]
  simp only [addMember, hfield, htext, bind, Except.bind, pure, Except.pure]

theorem foldlM_addMember {names : List String} {fields : List (String × String)} (form : Form)
    (hnames : ∀ f ∈ fields, f.1 ∈ names) (hnodup : (fields.map Prod.fst).Nodup)
    (hnew : ∀ f ∈ fields, form.lookup f.1 = none) :
    (memberDocs (fields.map fun f => (f.1, Json.str f.2))).foldlM (addMember names) form =
      .ok (fields.reverse ++ form) := by
  induction fields generalizing form with
  | nil => rfl
  | cons field fields ih =>
    obtain ⟨name, value⟩ := field
    rw [List.map_cons, List.nodup_cons] at hnodup
    have hmember := addMember_text value (hnames (name, value) List.mem_cons_self)
      (hnew (name, value) List.mem_cons_self)
    have hrest := ih ((name, value) :: form) (fun f hf => hnames f (List.mem_cons_of_mem _ hf))
      hnodup.2 (by
        intro f hf
        have hne : f.1 ≠ name := fun heq => hnodup.1 (List.mem_map.mpr ⟨f, hf, heq⟩)
        rw [List.lookup_cons, beq_eq_false_iff_ne.mpr hne]
        exact hnew f (List.mem_cons_of_mem _ hf))
    rw [List.map_cons, memberDocs, List.foldlM_cons, hmember]
    simp only [bind, Except.bind, hrest, List.reverse_cons, List.append_assoc, List.cons_append,
      List.nil_append]

/-- Fields that are asked for, each once, are what their body is read as. -/
theorem ofBytes_body {names : List String} {fields : List (String × String)}
    (hnames : ∀ f ∈ fields, f.1 ∈ names) (hnodup : (fields.map Prod.fst).Nodup) :
    ofBytes names (body fields).render = .ok fields.reverse := by
  have hread := foldlM_addMember [] hnames hnodup fun _ _ => rfl
  rw [List.append_nil] at hread
  rw [ofBytes, read_render (floatFree_body fields)]
  exact hread

end Form

namespace Request

/-- The request that posts text fields to an endpoint. -/
def ofFields (endpoint : Endpoint) (fields : List (String × String)) : Request where
  method := "POST"
  path := endpoint.path
  headers := [⟨"content-type", utf8 "application/json"⟩]
  body := (Form.body fields).render

variable {fields : List (String × String)}

theorem endpoint?_ofFields : (ofFields endpoint fields).endpoint? = some endpoint := by
  change Endpoint.ofPath? (String.ofList
    (endpoint.path.toList.takeWhile fun c => c != '?' && c != '#')) = some endpoint
  cases endpoint <;> decide

theorem hasJson_ofFields : (ofFields endpoint fields).hasJson = true :=
  rfl

/-- Fields that are asked for, each once, are posted as the form they make up. -/
theorem posts_ofFields (hsize : (ofFields endpoint fields).body.length ≤ bodyLimit)
    (hnames : ∀ f ∈ fields, f.1 ∈ names) (hnodup : (fields.map Prod.fst).Nodup) :
    (ofFields endpoint fields).Posts endpoint names fields.reverse where
  endpoint_eq := endpoint?_ofFields
  method_eq := rfl
  form_eq := by
    have hfits : ¬bodyLimit < (ofFields endpoint fields).body.length := by omega
    have hread : Form.ofBytes names (ofFields endpoint fields).body = .ok fields.reverse :=
      Form.ofBytes_body hnames hnodup
    simp only [form, hasJson_ofFields, hfits, hread, Bool.not_true, Bool.false_eq_true, if_false]
    rfl

end Request

end Http

end TokenAuth
