import TokenAuth.Http.Endpoint
import TokenAuth.Proofs.Outcome

/-!
# Registrations that are accepted

A form is accepted exactly if it asks for a registration that holds on the day
(`Http.Form.registration_eq_ok_iff`), and the registration is then the one it asks for.
-/

namespace TokenAuth

open Outcome

namespace Email

theorem ofString_eq_ok_iff {s : String} {email : Email} :
    ofString s = .ok email ↔ email.text = s := by
  constructor
  · intro h
    unfold ofString at h
    split at h
    · split at h
      · rw [← Except.ok.inj h]
      · exact nomatch h
    · exact nomatch h
  · rintro rfl
    unfold ofString
    split
    · split
      · rfl
      · next fault hfault =>
        rw [email.address_valid] at hfault
        exact nomatch hfault
    · next hlength => exact absurd email.length_valid hlength

theorem text_ne_empty (email : Email) : email.text ≠ "" := by
  intro hempty
  have hlength := email.length_valid.1
  rw [hempty] at hlength
  exact absurd hlength (by decide)

end Email

namespace Registration

/-- A name of 2 to 50 characters between the blanks around it. -/
def NameFits (name : String) : Prop :=
  nameMinLength ≤ (Text.trim name).length ∧ (Text.trim name).length ≤ nameMaxLength

instance (name : String) : Decidable (NameFits name) :=
  inferInstanceAs (Decidable (_ ∧ _))

theorem checkName_eq_ok_iff {field : NameField} {name kept : String} :
    checkName field name = .ok kept ↔ NameFits name ∧ kept = name := by
  unfold checkName
  dsimp only
  split
  · next h => simp [NameFits, h, eq_comm]
  · next h => simp [NameFits, h]

/-- What a registration is checked for on a day, besides its email. -/
structure Holds (r : Registration) (today : Int) : Prop where
  password : Text.isBlank r.password = false
  firstName : NameFits r.firstName
  lastName : NameFits r.lastName
  birthDate : r.birthDate.toDays < today

/-- The form that asks for a registration. -/
def form (r : Registration) : Form :=
  ⟨r.email.text, r.password, r.firstName, r.lastName, r.birthDate, r.sex⟩

/-- **A form is accepted exactly if its registration holds.** -/
theorem check_eq_ok_iff {today : Int} {given : Form} {r : Registration} :
    check today given = .ok r ↔ given = r.form ∧ r.Holds today := by
  constructor
  · intro h
    obtain ⟨email, hemail, h⟩ := bind_eq_ok_iff.mp h
    rw [mapError_eq_ok_iff, Email.ofString_eq_ok_iff] at hemail
    dsimp only at h
    split at h
    · exact nomatch h
    next hblank =>
    obtain ⟨firstName, hcheckFirst, h⟩ := bind_eq_ok_iff.mp h
    obtain ⟨lastName, hcheckLast, h⟩ := bind_eq_ok_iff.mp h
    obtain ⟨hfirst, rfl⟩ := checkName_eq_ok_iff.mp hcheckFirst
    obtain ⟨hlast, rfl⟩ := checkName_eq_ok_iff.mp hcheckLast
    split at h
    · exact nomatch h
    next hday =>
    obtain rfl := Except.ok.inj h
    refine ⟨?_, Bool.eq_false_iff.mpr hblank, hfirst, hlast, Int.not_le.mp hday⟩
    rw [form, hemail]
  · rintro ⟨rfl, h⟩
    have hemail : Email.ofString r.email.text = .ok r.email := Email.ofString_eq_ok_iff.mpr rfl
    have hfirst : checkName .firstName r.firstName = .ok r.firstName :=
      checkName_eq_ok_iff.mpr ⟨h.firstName, rfl⟩
    have hlast : checkName .lastName r.lastName = .ok r.lastName :=
      checkName_eq_ok_iff.mpr ⟨h.lastName, rfl⟩
    have hday : ¬today ≤ r.birthDate.toDays := Int.not_le.mpr h.birthDate
    simp only [check, form, hemail, mapError_ok, h.password, hfirst, hlast, bind, Except.bind,
      Bool.false_eq_true, if_false, hday]
    rfl

/-- A registration that is what a form asks for: its texts as they stand, and the date and the sex
that they name without the blanks around them. -/
structure AskedBy (r : Registration) (form : Http.Form) : Prop where
  email : r.email.text = form.get "email"
  password : r.password = form.get "password"
  password_ne : form.get "password" ≠ ""
  firstName : r.firstName = form.get "firstName"
  lastName : r.lastName = form.get "lastName"
  birthDate : Date.read (Text.trim (form.get "birthDate")) = .ok r.birthDate
  sex : r.sex.name = Text.trim (form.get "sex")

end Registration

namespace Http.Form

variable {today : Int} {form : Form} {r : Registration}

theorem registration_of_sex {sex : Sex} (h : sex.name = Text.trim (form.get "sex")) :
    form.registration today =
      ((Date.read (Text.trim (form.get "birthDate"))).mapError .birthDate).bind fun birthDate =>
        (Registration.check today ⟨form.get "email", form.get "password", form.get "firstName",
          form.get "lastName", birthDate, sex⟩).mapError .registration := by
  rw [registration, ← h]
  cases sex <;> rfl

theorem exists_sex_of_registration (h : form.registration today = .ok r) :
    ∃ sex : Sex, sex.name = Text.trim (form.get "sex") := by
  obtain ⟨birthDate, -, h⟩ := bind_eq_ok_iff.mp h
  split at h
  · next hsex => exact ⟨.male, hsex.symm⟩
  · next hsex => exact ⟨.female, hsex.symm⟩
  · exact nomatch h

/-- **A registration is accepted exactly if the form asks for it and it holds on the day.** -/
theorem registration_eq_ok_iff :
    form.registration today = .ok r ↔ r.AskedBy form ∧ r.Holds today := by
  constructor
  · intro h
    obtain ⟨sex, hsex⟩ := exists_sex_of_registration h
    rw [registration_of_sex hsex] at h
    obtain ⟨birthDate, hdate, h⟩ := bind_eq_ok_iff.mp h
    rw [mapError_eq_ok_iff] at hdate h
    obtain ⟨hform, hholds⟩ := Registration.check_eq_ok_iff.mp h
    obtain ⟨hemail, hpassword, hfirst, hlast, rfl, rfl⟩ := Registration.Form.mk.inj hform
    have hne : form.get "password" ≠ "" := by
      intro hempty
      have hblank := hholds.password
      rw [← hpassword, hempty] at hblank
      exact nomatch hblank
    exact ⟨⟨hemail.symm, hpassword.symm, hne, hfirst.symm, hlast.symm, hdate, hsex⟩, hholds⟩
  · rintro ⟨hasked, hholds⟩
    rw [registration_of_sex hasked.sex]
    refine bind_eq_ok_iff.mpr ⟨r.birthDate, mapError_eq_ok_iff.mpr hasked.birthDate,
      mapError_eq_ok_iff.mpr (Registration.check_eq_ok_iff.mpr ⟨?_, hholds⟩)⟩
    rw [← hasked.email, ← hasked.password, ← hasked.firstName, ← hasked.lastName]
    rfl

/-- A form of which all fields hold but perhaps the birth date. -/
structure OthersHold (form : Form) : Prop where
  email : ∃ email : Email, email.text = form.get "email"
  password : Text.isBlank (form.get "password") = false
  firstName : Registration.NameFits (form.get "firstName")
  lastName : Registration.NameFits (form.get "lastName")
  sex : ∃ sex : Sex, sex.name = Text.trim (form.get "sex")

/-- A form is accepted exactly if its birth date is read and in the past and the rest holds. -/
theorem exists_registration_iff : (∃ r, form.registration today = .ok r) ↔
    form.OthersHold ∧
      ∃ d, Date.read (Text.trim (form.get "birthDate")) = .ok d ∧ d.toDays < today := by
  simp only [registration_eq_ok_iff]
  constructor
  · rintro ⟨r, hasked, hholds⟩
    refine ⟨⟨⟨r.email, hasked.email⟩, ?_, ?_, ?_, ⟨r.sex, hasked.sex⟩⟩, r.birthDate,
      hasked.birthDate, hholds.birthDate⟩
    · rw [← hasked.password]
      exact hholds.password
    · rw [← hasked.firstName]
      exact hholds.firstName
    · rw [← hasked.lastName]
      exact hholds.lastName
  · rintro ⟨⟨⟨email, hemail⟩, hpassword, hfirst, hlast, ⟨sex, hsex⟩⟩, d, hread, hday⟩
    have hne : form.get "password" ≠ "" := by
      intro hempty
      rw [hempty] at hpassword
      exact nomatch hpassword
    exact ⟨⟨email, form.get "password", form.get "firstName", form.get "lastName", d, sex⟩,
      ⟨hemail, rfl, hne, rfl, rfl, hread, hsex⟩, hpassword, hfirst, hlast, hday⟩

end Http.Form

end TokenAuth
