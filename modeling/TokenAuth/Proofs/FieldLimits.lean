import TokenAuth.Proofs.Accepted
import TokenAuth.Proofs.Calendar
import TokenAuth.Proofs.FirstLogin
import TokenAuth.Proofs.Trimmed

/-!
# The limits of what is registered

An email is counted as it is sent. A name is counted between the blanks around it and sent with
them, so the account that is sent is within all its limits exactly if no name is longer than they
allow with its blanks (`SignIn.sent_within_limits_iff`).
-/

namespace TokenAuth

/-- The text of a name in a form. -/
def Registration.Form.nameAt (form : Form) : NameField → String
  | .firstName => form.firstName
  | .lastName => form.lastName

/-- The form with another text for a name. -/
def Registration.Form.withName (form : Form) (name : String) : NameField → Form
  | .firstName => { form with firstName := name }
  | .lastName => { form with lastName := name }

/-- The text of a name as it is sent. -/
def NewUser.nameAt (user : NewUser) : NameField → String
  | .firstName => user.firstName
  | .lastName => user.lastName

/-- An account whose texts have the lengths they should have as they are sent, of someone born
before a day. -/
structure NewUser.WithinLimits (user : NewUser) (today : Date) : Prop where
  email : 5 ≤ user.email.length ∧ user.email.length ≤ 100
  names : ∀ field, 2 ≤ (user.nameAt field).length ∧ (user.nameAt field).length ≤ 50
  birthDate : user.birthDate.Before today

/-- The same limits, where the blanks around a name do not count against its greatest length. -/
structure NewUser.WithinTrimmedLimits (user : NewUser) (today : Date) : Prop where
  email : 5 ≤ user.email.length ∧ user.email.length ≤ 100
  names : ∀ field, 2 ≤ (user.nameAt field).length ∧ (Text.trim (user.nameAt field)).length ≤ 50
  birthDate : user.birthDate.Before today

namespace Registration

variable {today : Int} {form : Form} {r : Registration}

theorem NameFits.le_length {name : String} (h : NameFits name) : 2 ≤ name.length :=
  Nat.le_trans h.1 (Text.length_trim_le name)

theorem Holds.nameFits (h : r.Holds today) (field : NameField) : NameFits (r.form.nameAt field) :=
  match field with
  | .firstName => h.firstName
  | .lastName => h.lastName

theorem nameAt_ofRegistration (r : Registration) (hashed : String) (field : NameField) :
    (NewUser.ofRegistration r hashed).nameAt field = r.form.nameAt field := by
  cases field <;> rfl

/-- A form with another name is accepted if the name fits. -/
theorem check_withName (h : check today form = .ok r) {name : String} (hname : NameFits name)
    (field : NameField) : ∃ r', check today (form.withName name field) = .ok r' ∧
      r'.form = form.withName name field := by
  obtain ⟨rfl, hholds⟩ := check_eq_ok_iff.mp h
  cases field with
  | firstName =>
    exact ⟨{ r with firstName := name },
      check_eq_ok_iff.mpr ⟨rfl, { hholds with firstName := hname }⟩, rfl⟩
  | lastName =>
    exact ⟨{ r with lastName := name },
      check_eq_ok_iff.mpr ⟨rfl, { hholds with lastName := hname }⟩, rfl⟩

theorem nameAt_withName (form : Form) (name : String) (field : NameField) :
    (form.withName name field).nameAt field = name := by
  cases field <;> rfl

end Registration

namespace SignIn

open Registration

variable {r : Registration} {today : Date} {hashed : String}

theorem withinTrimmedLimits_ofRegistration (h : r.Holds today.toDays) :
    (NewUser.ofRegistration r hashed).WithinTrimmedLimits today where
  email := r.email.length_valid
  names field := by
    rw [nameAt_ofRegistration]
    exact ⟨(h.nameFits field).le_length, (h.nameFits field).2⟩
  birthDate := Date.toDays_lt_iff.mp h.birthDate

theorem withinLimits_ofRegistration_iff (h : r.Holds today.toDays) :
    (NewUser.ofRegistration r hashed).WithinLimits today ↔
      ∀ field, (r.form.nameAt field).length ≤ 50 := by
  constructor
  · intro hlimits field
    rw [← nameAt_ofRegistration r hashed]
    exact (hlimits.names field).2
  · intro hnames
    have htrimmed : (NewUser.ofRegistration r hashed).WithinTrimmedLimits today :=
      withinTrimmedLimits_ofRegistration h
    refine ⟨htrimmed.email, fun field => ⟨(htrimmed.names field).1, ?_⟩, htrimmed.birthDate⟩
    rw [nameAt_ofRegistration]
    exact hnames field

/-- **The limits of what is registered.** What is sent for a form that is accepted on a day is
within its limits exactly if no name is too long with the blanks around it; all other limits are
kept. Any number of blanks after a name is accepted and sent. What a request registers was accepted
on the day it came, and is sent with the hash of its password. -/
theorem sent_within_limits_iff (service : SignIn) (m : Moment) :
    (∀ (today : Date) (form : Registration.Form) (r : Registration) (hashed : String),
      Registration.check today.toDays form = .ok r →
        Text.isBlank form.password = false ∧
        (NewUser.ofRegistration r hashed).WithinTrimmedLimits today ∧
        ((NewUser.ofRegistration r hashed).WithinLimits today ↔
          ∀ field, (form.nameAt field).length ≤ 50) ∧
        ∀ (field : NameField) (blanks : String), (∀ c ∈ blanks.toList, isBlank c = true) →
          ∃ r', Registration.check today.toDays
              (form.withName (form.nameAt field ++ blanks) field) = .ok r' ∧
            (NewUser.ofRegistration r' hashed).nameAt field = form.nameAt field ++ blanks) ∧
      ∀ (request : Http.Request) (given : Http.Form) (r : Registration),
        request.Registers m.now.day given r →
          ∃ (today : Date) (form : Registration.Form), today.toDays = m.now.day ∧
            form.password = given.get "password" ∧
            (∀ field, form.nameAt field = given.get field.name) ∧
            Registration.check today.toDays form = .ok r ∧
            ∀ hashed, service.hashPassword m.work r.password = .ok hashed →
              ∀ (σ : Type) (directory : Directory.Service σ) (s : σ),
                ((Http.Api.answer service m request).run directory s).calls =
                  [.create (.ofRegistration r hashed)] := by
  constructor
  · intro today form r hashed hcheck
    obtain ⟨rfl, hholds⟩ := check_eq_ok_iff.mp hcheck
    refine ⟨hholds.password, withinTrimmedLimits_ofRegistration hholds,
      withinLimits_ofRegistration_iff hholds, ?_⟩
    intro field blanks hblanks
    have hfits : NameFits (r.form.nameAt field ++ blanks) := by
      rw [NameFits, Text.trim_append_blanks _ hblanks]
      exact hholds.nameFits field
    obtain ⟨r', hcheck', hform⟩ := check_withName hcheck hfits field
    exact ⟨r', hcheck', by rw [nameAt_ofRegistration, hform, nameAt_withName]⟩
  · intro request given r hregisters
    obtain ⟨hasked, hholds⟩ := Http.Form.registration_eq_ok_iff.mp hregisters.2
    obtain ⟨today, htoday⟩ := m.now.exists_date
    refine ⟨today, r.form, htoday, hasked.password, ?_, ?_, ?_⟩
    · intro field
      cases field with
      | firstName => exact hasked.firstName
      | lastName => exact hasked.lastName
    · rw [htoday]
      exact check_eq_ok_iff.mpr ⟨rfl, hholds⟩
    · intro hashed hhash σ directory s
      rw [Http.Api.run_registers_of_ok hregisters hhash]

/-! ### A name with blanks -/

/-- A registration whose first name is left open. -/
def alice (firstName : String) : Registration :=
  ⟨⟨"alice@example.com", by decide, by decide +kernel⟩, "Secret123!", firstName, "Liddell",
    twinBirthDate, .female⟩

theorem check_alice {firstName : String} (h : NameFits firstName) :
    Registration.check twinToday.toDays (alice firstName).form = .ok (alice firstName) := by
  have hpassword : Text.isBlank "Secret123!" = false := by decide
  have hlast : NameFits "Liddell" := by decide
  have hbirth : twinBirthDate.toDays < twinToday.toDays := by decide
  exact check_eq_ok_iff.mpr ⟨rfl, hpassword, h, hlast, hbirth⟩

/-- Fifty letters and a blank. -/
def paddedName : String := String.ofList (List.replicate 50 'a') ++ " "

/-- A name of fifty letters and a blank is accepted, and one character too long as it is sent. -/
theorem padded_name_sent :
    Registration.check twinToday.toDays (alice paddedName).form = .ok (alice paddedName) ∧
      ∃ hashed, twinService.hashPassword twinMoment.work (alice paddedName).password = .ok hashed ∧
        ((NewUser.ofRegistration (alice paddedName) hashed).nameAt .firstName).length = 51 ∧
        ¬(NewUser.ofRegistration (alice paddedName) hashed).WithinLimits twinToday := by
  have hlength (hashed : String) :
      ((NewUser.ofRegistration (alice paddedName) hashed).nameAt .firstName).length = 51 := by
    rw [nameAt_ofRegistration]
    decide
  refine ⟨check_alice (by decide), _, hashPassword_twin _, hlength _, fun h => ?_⟩
  exact absurd (h.names .firstName).2 (show ¬paddedName.length ≤ 50 by decide)

/-- One without blanks is within the limits, and what a request registers is sent. -/
theorem plain_name_within_limits :
    (Registration.check twinToday.toDays (alice "Alice").form = .ok (alice "Alice") ∧
      ∀ hashed, (NewUser.ofRegistration (alice "Alice") hashed).WithinLimits twinToday) ∧
    ∃ r hashed, (registering "a@b.org").Registers twinMoment.now.day
        (registrationFields "a@b.org").reverse r ∧
      twinService.hashPassword twinMoment.work r.password = .ok hashed ∧
      ((Http.Api.answer twinService twinMoment (registering "a@b.org")).run registry []).calls =
        [.create (.ofRegistration r hashed)] := by
  have hfits : NameFits "Alice" := by decide
  have hlimits := sent_within_limits_iff twinService twinMoment
  constructor
  · refine ⟨check_alice hfits, fun hashed =>
      (hlimits.1 _ _ _ hashed (check_alice hfits)).2.2.1.mpr fun field => ?_⟩
    cases field <;> decide
  · obtain ⟨r, hregisters⟩ :=
      exists_registers_registering "a@b.org" (by decide +kernel) (by decide +kernel)
    obtain ⟨_, _, -, -, -, -, hcalls⟩ := hlimits.2 _ _ r hregisters
    have hhash := hashPassword_twin r.password
    exact ⟨r, _, hregisters, hhash, hcalls _ hhash _ registry []⟩

end SignIn

end TokenAuth
