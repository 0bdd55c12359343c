import TokenAuth.Proofs.AddressGrammar
import TokenAuth.Proofs.FirstLogin

/-!
# Emails that are addresses

An address may stand alone or between angle brackets after a display name, and the text is kept as
it was given. The email of an account is itself an address exactly if no angle bracket opens after a
space in it (`SignIn.stored_email_bare_iff`).
-/

namespace TokenAuth

open Outcome

namespace Address

/-! ### The ends of an address -/

theorem LocalPart.ne_nil {cs : List Char} (h : LocalPart cs) : cs ≠ [] := by
  rcases h.form with hatom | ⟨content, -, -, rfl⟩
  · exact hatom.ne_nil
  · exact List.cons_ne_nil _ _

theorem LocalPart.head? {cs : List Char} (h : LocalPart cs) :
    ∀ c ∈ cs.head?, isAtomChar c = true ∨ c = '"' := by
  intro c hc
  rcases h.form with hatom | ⟨content, -, -, rfl⟩
  · exact .inl (hatom.head? c hc)
  · exact .inr (Option.some.inj hc).symm

theorem DomainPart.ne_nil {cs : List Char} (h : DomainPart cs) : cs ≠ [] := by
  rcases h.form with hname | ⟨content, -, rfl⟩
  · exact hname.ne_nil
  · exact List.cons_ne_nil _ _

theorem DomainPart.getLast? {cs : List Char} (h : DomainPart cs) :
    ∀ c ∈ cs.getLast?, isAtomChar c = true ∨ c = ']' := by
  intro c hc
  rcases h.form with hname | ⟨content, -, rfl⟩
  · exact .inl (isAtomChar_of_isAlphanumeric (hname.getLast? c hc))
  · rw [← List.cons_append, List.getLast?_concat] at hc
    exact .inr (Option.some.inj hc).symm

variable {cs : List Char}

theorem Bare.head? (h : Bare cs) : ∀ c ∈ cs.head?, TokenAuth.isBlank c = false ∧ c ≠ '<' := by
  have hopen : isAtomChar '<' = false := isAtomChar_of_mem_specials (by decide)
  obtain ⟨name, domain, rfl, -, hlocal, -⟩ := h
  intro c hc
  rw [List.head?_append_of_ne_nil _ hlocal.ne_nil] at hc
  rcases hlocal.head? c hc with hatom | rfl
  · exact ⟨isBlank_of_isAtomChar hatom, ne_of_isAtomChar hatom hopen⟩
  · decide

theorem Bare.getLast? (h : Bare cs) :
    ∀ c ∈ cs.getLast?, TokenAuth.isBlank c = false ∧ c ≠ '>' := by
  have hclose : isAtomChar '>' = false := isAtomChar_of_mem_specials (by decide)
  obtain ⟨name, domain, rfl, -, -, hdomain⟩ := h
  intro c hc
  rw [List.getLast?_append_of_ne_nil _ (List.cons_ne_nil _ _),
    List.getLast?_cons_of_ne_nil hdomain.ne_nil] at hc
  rcases hdomain.getLast? c hc with hatom | rfl
  · exact ⟨isBlank_of_isAtomChar hatom, ne_of_isAtomChar hatom hclose⟩
  · decide

/-! ### Display names -/

/-- An angle bracket opens after a space. -/
def Opens (cs : List Char) : Prop := [' ', '<'] <:+: cs

/-- A display name, and then an address in angle brackets, the last that open after a space. Blanks
may stand around the address before the bracket that closes, and after that. -/
def Named (cs : List Char) : Prop :=
  ∃ display before address after,
    cs = display ++ ' ' :: '<' :: (before ++ (address ++ ['>']) ++ after) ∧
    (∀ c ∈ before, TokenAuth.isBlank c = true) ∧ (∀ c ∈ after, TokenAuth.isBlank c = true) ∧
    Bare address ∧ ¬Opens (before ++ (address ++ ['>']) ++ after)

theorem splitDisplay_eq_ok_iff {display address : List Char} :
    splitDisplay cs = .ok (display, address) ↔
      (¬Opens cs ∧ display = [] ∧ address = cs) ∨
      ∃ given rest, cs = given ++ ' ' :: '<' :: rest ∧ ¬Opens rest ∧
        display = Text.strip TokenAuth.isBlank given ∧
        Text.strip TokenAuth.isBlank rest = address ++ ['>'] := by
  have hpair : (' ' : Char) ≠ '<' := by decide
  rw [splitDisplay]
  cases hsplit : Text.splitLast? [' ', '<'] cs with
  | none =>
    have hopens : ¬Opens cs := (Text.splitLast?_none_iff_absent (List.cons_ne_nil _ _)).mp hsplit
    simp only [Except.ok.injEq, Prod.mk.injEq]
    constructor
    · rintro ⟨rfl, rfl⟩
      exact .inl ⟨hopens, rfl, rfl⟩
    · rintro (⟨-, rfl, rfl⟩ | ⟨given, rest, rfl, -⟩)
      · exact ⟨rfl, rfl⟩
      · exact absurd ⟨given, rest, by simp⟩ hopens
  | some parts =>
    obtain ⟨given, rest⟩ := parts
    obtain ⟨hcs, hrest⟩ := (Text.splitLast?_pair_iff hpair).mp hsplit
    dsimp only
    constructor
    · intro h
      split at h
      · next hclose =>
        obtain ⟨rfl, rfl⟩ := Prod.mk.inj (Except.ok.inj h)
        exact .inr ⟨given, rest, hcs, hrest, rfl,
          (List.dropLast_append_getLast? _ hclose).symm⟩
      · exact nomatch h
    · rintro (⟨hopens, -⟩ | ⟨given', rest', hcs', hrest', rfl, hstrip⟩)
      · exact absurd ⟨given, rest, by rw [hcs]; simp⟩ hopens
      · have hsame := (Text.splitLast?_pair_iff hpair).mpr ⟨hcs', hrest'⟩
        rw [hsplit, Option.some.injEq, Prod.mk.injEq] at hsame
        obtain ⟨rfl, rfl⟩ := hsame
        rw [hstrip, if_pos (List.getLast?_concat), List.dropLast_concat]

theorem Bare.ne_nil (h : Bare cs) : cs ≠ [] := by
  obtain ⟨name, domain, rfl, -⟩ := h
  exact List.append_ne_nil_of_right_ne_nil _ (List.cons_ne_nil _ _)

theorem check_eq_ok_iff_exists {s : String} : check s = .ok () ↔
    ∃ display address, splitDisplay s.toList = .ok (display, address) ∧ Bare address := by
  have hopen : isAtomChar '<' = false := isAtomChar_of_mem_specials (by decide)
  rw [check, bind_eq_ok_iff]
  constructor
  · rintro ⟨⟨display, address⟩, hdisplay, h⟩
    refine ⟨display, address, hdisplay, ?_⟩
    dsimp only at h
    split at h
    · exact nomatch h
    next name domain hsplit =>
    split at h
    · exact nomatch h
    obtain ⟨hcs, hat⟩ := Text.splitLast?_eq_some_iff.mp hsplit
    obtain ⟨hlocal, hdomain⟩ := andThen_eq_ok_iff.mp h
    exact ⟨name, domain, hcs, hat, checkLocal_eq_ok_iff.mp hlocal,
      checkDomain_eq_ok_iff.mp hdomain⟩
  · rintro ⟨display, address, hdisplay, name, domain, rfl, hat, hlocal, hdomain⟩
    -- no local part starts with a bracket, so the refusal of an empty display name does not apply
    have hhead : name.head? ≠ some '<' := by
      intro hname
      rcases hlocal.head? '<' hname with hatom | hquote
      · exact ne_of_isAtomChar hatom hopen rfl
      · exact absurd hquote (by decide)
    refine ⟨_, hdisplay, ?_⟩
    dsimp only
    rw [Text.splitLast?_eq_some_iff.mpr ⟨rfl, hat⟩]
    dsimp only
    rw [if_neg fun h => hhead h.2]
    exact andThen_eq_ok_iff.mpr ⟨checkLocal_eq_ok_iff.mpr hlocal, checkDomain_eq_ok_iff.mpr hdomain⟩

/-- **An address stands alone or after a display name.** -/
theorem check_eq_ok_iff {s : String} :
    check s = .ok () ↔ (Bare s.toList ∧ ¬Opens s.toList) ∨ Named s.toList := by
  rw [check_eq_ok_iff_exists]
  simp only [splitDisplay_eq_ok_iff]
  constructor
  · rintro ⟨display, address, ⟨hopens, -, rfl⟩ | ⟨given, rest, hcs, hrest, -, hstrip⟩, hbare⟩
    · exact .inl ⟨hbare, hopens⟩
    · obtain ⟨⟨before, after, hparts, hbefore, hafter⟩, -⟩ :=
        Text.stripsTo_strip TokenAuth.isBlank rest
      rw [hstrip] at hparts
      subst hparts
      exact .inr ⟨given, before, address, after, hcs, hbefore, hafter, hbare, hrest⟩
  · rintro (⟨hbare, hopens⟩ | ⟨given, before, address, after, hcs, hbefore, hafter, hbare, hrest⟩)
    · exact ⟨[], s.toList, .inl ⟨hopens, rfl, rfl⟩, hbare⟩
    · have hstrips : Text.StripsTo TokenAuth.isBlank (before ++ (address ++ ['>']) ++ after)
          (address ++ ['>']) := by
        refine ⟨⟨before, after, rfl, hbefore, hafter⟩, fun c hc => ?_, fun c hc => ?_⟩
        · rw [List.head?_append_of_ne_nil _ hbare.ne_nil] at hc
          exact (hbare.head? c hc).1
        · rw [List.getLast?_concat] at hc
          obtain rfl := Option.some.inj hc
          decide
      exact ⟨_, address, .inr ⟨given, _, hcs, hrest, rfl, hstrips.strip_eq⟩, hbare⟩

theorem Named.opens (h : Named cs) : Opens cs := by
  obtain ⟨display, before, address, after, rfl, -⟩ := h
  exact ⟨display, before ++ (address ++ ['>']) ++ after, by simp⟩

/-- A bracket that closes, or a blank, is not the end of an address that stands alone. -/
theorem Named.not_bare (h : Named cs) : ¬Bare cs := by
  obtain ⟨display, before, address, after, hcs, -, hafter, -⟩ := h
  intro hbare
  have hlast := hbare.getLast?
  have hends : cs = (display ++ ' ' :: '<' :: (before ++ address)) ++ ('>' :: after) := by
    rw [hcs]
    simp
  rw [hends, List.getLast?_append_of_ne_nil _ (List.cons_ne_nil _ _)] at hlast
  cases hempty : after.getLast? with
  | none =>
    rw [List.getLast?_eq_none_iff.mp hempty] at hlast
    exact (hlast '>' rfl).2 rfl
  | some c =>
    have hne : after ≠ [] := by
      rintro rfl
      exact nomatch hempty
    rw [List.getLast?_cons_of_ne_nil hne] at hlast
    have hblank := (hlast c hempty).1
    rw [hafter c (List.mem_of_mem_getLast? hempty)] at hblank
    exact nomatch hblank

theorem bare_iff_of_check {s : String} (h : check s = .ok ()) :
    Bare s.toList ↔ ¬Opens s.toList := by
  rcases check_eq_ok_iff.mp h with ⟨hbare, hopens⟩ | hnamed
  · exact iff_of_true hbare hopens
  · exact iff_of_false hnamed.not_bare (not_not_intro hnamed.opens)

end Address

namespace Email

theorem exists_ofString_iff {s : String} : (∃ email, ofString s = .ok email) ↔
    (5 ≤ s.length ∧ s.length ≤ 100) ∧
      (Address.Bare s.toList ∧ ¬Address.Opens s.toList ∨ Address.Named s.toList) := by
  simp only [ofString_eq_ok_iff]
  constructor
  · rintro ⟨email, rfl⟩
    exact ⟨email.length_valid, Address.check_eq_ok_iff.mp email.address_valid⟩
  · rintro ⟨hlength, haddress⟩
    exact ⟨⟨s, hlength, Address.check_eq_ok_iff.mpr haddress⟩, rfl⟩

end Email

namespace SignIn

/-- **When the email of an account is an address.** A text is accepted as an email exactly if it has
5 to 100 characters and is an address, alone or in angle brackets after a display name. It is then
kept as it is, and it is itself an address exactly if no angle bracket opens after a space in it. An
account that is created with it has it as its email, and its tokens name it. -/
theorem stored_email_bare_iff (s : String) :
    ((∃ email, Email.ofString s = .ok email) ↔ (5 ≤ s.length ∧ s.length ≤ 100) ∧
      (Address.Bare s.toList ∧ ¬Address.Opens s.toList ∨ Address.Named s.toList)) ∧
    ∀ email, Email.ofString s = .ok email →
      email.text = s ∧ (Address.Bare s.toList ↔ ¬Address.Opens s.toList) ∧
      (Address.Bare s.toList →
        (∀ c ∈ s.toList.head?, isBlank c = false ∧ c ≠ '<') ∧
        ∀ c ∈ s.toList.getLast?, isBlank c = false ∧ c ≠ '>') ∧
      ∀ (service : SignIn) (m : Moment) (σ : Type) (directory : Directory.Service σ)
        (state : σ) (r : Registration) (hashed : String) (created : RegisteredUser),
        directory.KeepsAccounts → r.email = email →
        (directory.create (.ofRegistration r hashed) state).1 = .ok created →
          ∃ c id, (directory.find s (directory.create (.ofRegistration r hashed) state).2).1 =
              .ok (some c) ∧ c.email = s ∧ c.externalId = some id ∧
            ∀ password tokens, service.finishLogin m password (.ok (some c)) = .ok tokens →
              TokensFor tokens id s := by
  refine ⟨Email.exists_ofString_iff, fun email h => ?_⟩
  obtain rfl := Email.ofString_eq_ok_iff.mp h
  refine ⟨rfl, Address.bare_iff_of_check email.address_valid, fun hbare => ⟨hbare.head?,
    hbare.getLast?⟩, ?_⟩
  rintro service m σ directory state r hashed created hkeeps rfl hcreate
  obtain ⟨c, id, hfind, hemail, -, -, hid⟩ := hkeeps.kept _ state created hcreate
  refine ⟨c, id, hfind, hemail, hid, fun password tokens hfinish => ?_⟩
  have hfor := tokensFor_of_finishLogin hid hfinish
  rwa [hemail] at hfor

theorem accepted_of_opens {s : String} (hlength : 5 ≤ s.length ∧ s.length ≤ 100)
    (hcheck : Address.check s = .ok ()) (hopens : Address.Opens s.toList) :
    (∃ email, Email.ofString s = .ok email) ∧ ¬Address.Bare s.toList :=
  ⟨⟨⟨s, hlength, hcheck⟩, Email.ofString_eq_ok_iff.mpr rfl⟩,
    fun hbare => (Address.bare_iff_of_check hcheck).mp hbare hopens⟩

/-- A display name or a blank may stand before an address in angle brackets. -/
theorem named_email_accepted :
    ((∃ email, Email.ofString "A <a@b.org>" = .ok email) ∧
      ¬Address.Bare "A <a@b.org>".toList) ∧
    (∃ email, Email.ofString " <a@b.org>" = .ok email) ∧ ¬Address.Bare " <a@b.org>".toList :=
  ⟨accepted_of_opens (by decide) (by decide +kernel)
      (show [' ', '<'] <:+: "A <a@b.org>".toList by decide),
    accepted_of_opens (by decide) (by decide +kernel)
      (show [' ', '<'] <:+: " <a@b.org>".toList by decide)⟩

/-- An address alone is kept as it is. -/
theorem bare_email_stored :
    Address.Bare "a@b.org".toList ∧ ∃ email r hashed c, Email.ofString "a@b.org" = .ok email ∧
      r.email = email ∧ twinService.hashPassword twinMoment.work r.password = .ok hashed ∧
      (registry.find "a@b.org" (registry.create (.ofRegistration r hashed) []).2).1 =
        .ok (some c) ∧ c.email = "a@b.org" := by
  have hemail : Email.ofString "a@b.org" = .ok twinEmail := Email.ofString_eq_ok_iff.mpr rfl
  obtain ⟨-, hbare, -, hstored⟩ := (stored_email_bare_iff "a@b.org").2 _ hemail
  obtain ⟨c, -, hfind, hc, -⟩ := hstored twinService twinMoment _ registry []
    ⟨twinEmail, "Secret123!", "Alice", "Liddell", twinBirthDate, .female⟩ _ _
    keepsAccounts_registry rfl rfl
  exact ⟨hbare.mpr (show ¬[' ', '<'] <:+: "a@b.org".toList by decide), _, _, _, c, hemail, rfl,
    hashPassword_twin _, hfind, hc⟩

end SignIn

end TokenAuth
