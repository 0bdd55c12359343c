import TokenAuth.Directory.Exchange
import TokenAuth.Proofs.Calendar
import TokenAuth.Proofs.DateText
import TokenAuth.Proofs.FirstLogin

/-!
# Birth dates

A form is accepted with every text that spells a date in the past, also with fewer digits, a sign or
blanks, and the directory is sent the date in the text of its own. An ISO date is sent as it was
given (`Http.Form.birth_date_accepted_iff`).
-/

namespace TokenAuth

/-- A post whose body has a text for the birth date. -/
def Directory.Post.SendsBirthDate (post : Post) (text : String) : Prop :=
  ∃ members, post.body = .obj members ∧ members.lookup "birthDate" = some (.str text)

theorem NewUser.sendsBirthDate (user : NewUser) :
    (Directory.Post.create user).SendsBirthDate user.birthDate.text :=
  ⟨_, rfl, rfl⟩

namespace Http.Form

/-- The birth date of a form without the blanks around it. -/
def birthDate (form : Form) : String := Text.trim (form.get "birthDate")

/-- A form that is accepted on a day. -/
def AcceptedOn (form : Form) (today : Date) : Prop := ∃ r, form.registration today.toDays = .ok r

variable {form : Form} {today : Date} {r : Registration}

theorem acceptedOn_iff (h : form.OthersHold) :
    form.AcceptedOn today ↔ ∃ d : Date, d.SpelledBy form.birthDate ∧ d.Before today := by
  rw [AcceptedOn, exists_registration_iff, and_iff_right h]
  exact exists_congr fun d => and_congr Date.read_eq_ok_iff Date.toDays_lt_iff

theorem spelledBy_of_registration (h : form.registration today.toDays = .ok r) :
    r.birthDate.SpelledBy form.birthDate ∧ r.birthDate.Before today := by
  obtain ⟨hasked, hholds⟩ := registration_eq_ok_iff.mp h
  exact ⟨Date.read_eq_ok_iff.mp hasked.birthDate, Date.toDays_lt_iff.mp hholds.birthDate⟩

/-- An ISO date decides as it should, and other texts where none is accepted. -/
theorem acceptedOn_iff_named_iff (h : form.OthersHold) :
    (form.AcceptedOn today ↔ ∃ d : Date, d.NamedBy form.birthDate ∧ d.Before today) ↔
      Date.HasIsoShape form.birthDate ∨ ¬form.AcceptedOn today := by
  constructor
  · intro hiff
    by_cases haccepted : form.AcceptedOn today
    · obtain ⟨d, hnamed, -⟩ := hiff.mp haccepted
      exact .inl hnamed.hasIsoShape
    · exact .inr haccepted
  · rintro (hshape | hnone)
    · rw [acceptedOn_iff h]
      simp only [Date.spelledBy_iff_namedBy hshape]
    · refine ⟨fun haccepted => absurd haccepted hnone, ?_⟩
      rintro ⟨d, hnamed, hbefore⟩
      exact (acceptedOn_iff h).mpr ⟨d, hnamed.spelledBy, hbefore⟩

/-- **Which birth dates are accepted, and what is sent for them.** A form whose other fields hold is
accepted exactly if its birth date, without the blanks around it, spells a date before the day, and
with the hash of its password the directory is sent the text of that date. ISO dates alone decide exactly if the birth date has
their shape or is refused, and one is sent as it was given. -/
theorem birth_date_accepted_iff (form : Form) (h : form.OthersHold) (today : Date) :
    (form.AcceptedOn today ↔ ∃ d : Date, d.SpelledBy form.birthDate ∧ d.Before today) ∧
    ((form.AcceptedOn today ↔ ∃ d : Date, d.NamedBy form.birthDate ∧ d.Before today) ↔
      Date.HasIsoShape form.birthDate ∨ ¬form.AcceptedOn today) ∧
    ∀ (service : SignIn) (m : SignIn.Moment) (r : Registration), m.now.day = today.toDays →
      form.registration today.toDays = .ok r →
        r.birthDate.SpelledBy form.birthDate ∧
        (∀ hashed, service.hashPassword m.work r.password = .ok hashed →
          (∀ (request : Request), request.Posts .register registerFields form →
            ∀ (σ : Type) (directory : Directory.Service σ) (s : σ),
              ((Api.answer service m request).run directory s).calls =
                [.create (.ofRegistration r hashed)]) ∧
          (Directory.Post.create (.ofRegistration r hashed)).SendsBirthDate r.birthDate.text) ∧
        (Date.HasIsoShape form.birthDate → r.birthDate.text = form.birthDate) := by
  refine ⟨acceptedOn_iff h, acceptedOn_iff_named_iff h, ?_⟩
  intro service m r htoday hread
  have hspelled := (spelledBy_of_registration hread).1
  refine ⟨hspelled, fun hashed hhash => ⟨?_, NewUser.sendsBirthDate _⟩, ?_⟩
  · intro request hposts σ directory s
    have hregisters : request.Registers m.now.day form r := ⟨hposts, htoday ▸ hread⟩
    rw [Api.run_registers_of_ok hregisters hhash]
  · intro hshape
    exact ((Date.spelledBy_iff_namedBy hshape).mp hspelled).text_eq

/-! ### Two birth dates -/

/-- A registration form whose birth date is left open. -/
def bornOn (birthDate : String) : Form :=
  [("email", "a@b.org"), ("password", "Secret123!"), ("firstName", "Alice"),
    ("lastName", "Liddell"), ("sex", "FEMALE"), ("birthDate", birthDate)]

theorem othersHold_bornOn (birthDate : String) : (bornOn birthDate).OthersHold where
  email := ⟨SignIn.twinEmail, rfl⟩
  password := show Text.isBlank "Secret123!" = false by decide
  firstName := show Registration.NameFits "Alice" by decide
  lastName := show Registration.NameFits "Liddell" by decide
  sex := ⟨.female, show "FEMALE" = Text.trim "FEMALE" by decide⟩

theorem posts_bornOn {birthDate : String}
    (hsize : (Request.ofFields .register (bornOn birthDate).reverse).body.length ≤
      Request.bodyLimit) :
    (Request.ofFields .register (bornOn birthDate).reverse).Posts .register registerFields
      (bornOn birthDate) :=
  Request.posts_ofFields hsize (by simp [bornOn, registerFields])
    (show ["birthDate", "sex", "lastName", "firstName", "password", "email"].Nodup by decide)

def leapDay : Date := ⟨2000, 2, 29, by decide, by decide, by decide, by decide⟩

/-- A date without zeros in front is accepted and sent with them, and is no ISO date. -/
theorem short_date_accepted :
    (bornOn "1990-1-1").OthersHold ∧
      (∃ r hashed, (bornOn "1990-1-1").registration SignIn.twinToday.toDays = .ok r ∧
        SignIn.twinService.hashPassword SignIn.twinMoment.work r.password = .ok hashed ∧
        (Directory.Post.create (.ofRegistration r hashed)).SendsBirthDate "1990-01-01") ∧
      ¬∃ d : Date, d.NamedBy (bornOn "1990-1-1").birthDate ∧ d.Before SignIn.twinToday := by
  refine ⟨othersHold_bornOn _, ?_, ?_⟩
  · obtain ⟨r, hread⟩ := Outcome.exists_of_isOk (show
      ((bornOn "1990-1-1").registration SignIn.twinToday.toDays).isOk = true by decide +kernel)
    have hdate : (Date.read "1990-1-1").toOption.map Date.text = some "1990-01-01" := by
      decide +kernel
    have hasked : Date.read "1990-1-1" = .ok r.birthDate :=
      (registration_eq_ok_iff.mp hread).1.birthDate
    rw [hasked] at hdate
    refine ⟨r, _, hread, SignIn.hashPassword_twin r.password, ?_⟩
    rw [← Option.some.inj hdate]
    exact NewUser.sendsBirthDate _
  · rintro ⟨d, hnamed, -⟩
    exact absurd hnamed.hasIsoShape.length_eq (by decide)

/-- A leap day in the shape of an ISO date is accepted and sent as it was given. -/
theorem leap_day_accepted :
    ∃ r hashed, (bornOn "2000-02-29").registration SignIn.twinToday.toDays = .ok r ∧
      SignIn.twinService.hashPassword SignIn.twinMoment.work r.password = .ok hashed ∧
      ((Api.answer SignIn.twinService SignIn.twinMoment
        (Request.ofFields .register (bornOn "2000-02-29").reverse)).run SignIn.registry []).calls =
          [.create (.ofRegistration r hashed)] ∧
      (Directory.Post.create (.ofRegistration r hashed)).SendsBirthDate "2000-02-29" := by
  have hnamed : leapDay.NamedBy (bornOn "2000-02-29").birthDate :=
    ⟨[2, 0, 0, 0], [0, 2], [2, 9], ⟨by decide, by decide⟩, by decide, by decide, by decide⟩
  obtain ⟨hiff, -, hsent⟩ :=
    birth_date_accepted_iff (bornOn "2000-02-29") (othersHold_bornOn _) SignIn.twinToday
  obtain ⟨r, hread⟩ := hiff.mpr ⟨leapDay, hnamed.spelledBy, by decide⟩
  obtain ⟨-, hhashed, htext⟩ := hsent SignIn.twinService SignIn.twinMoment r (by decide) hread
  have hhash := SignIn.hashPassword_twin r.password
  obtain ⟨hcalls, hsends⟩ := hhashed _ hhash
  refine ⟨r, _, hread, hhash, hcalls _ (posts_bornOn (by decide +kernel)) _ SignIn.registry [], ?_⟩
  rw [htext hnamed.hasIsoShape] at hsends
  exact hsends

end Http.Form

end TokenAuth
