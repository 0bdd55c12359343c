import TokenAuth.Proofs.Payload

/-!
# Two readings of one payload

A payload that reads as claims also reads as what decides whether it is accepted, and the two
readings agree on the expiry, the issuer and the audience (`exists_ofDoc?_of_claims`).
-/

namespace TokenAuth.Token

namespace Seen

/-- What the checks see of one text that may be missing. -/
def ofText? (text : Option String) : Seen (List String) :=
  match text with
  | none => absent
  | some s => value [s]

end Seen

namespace Standing

open Json (Doc Fields)

theorem seenNames_of_optional? {fields : Fields} {name : String} {text : Option String}
    (h : fields.optional? name Doc.string? = some text) :
    seenNames (fields.lookup name) = Seen.ofText? text := by
  rcases Fields.optional?_eq_some_iff.mp h with
    ⟨rfl, hlookup | hlookup⟩ | ⟨doc, s, hlookup, hnull, hread, rfl⟩
  · rw [hlookup]
    rfl
  · rw [hlookup]
    rfl
  · obtain ⟨raw, rfl, hraw⟩ := Doc.string?_eq_some_iff.mp hread
    simp [hlookup, seenNames, names?, Doc.string?, hraw, Seen.ofOption, Seen.ofText?]

/-- What the checks see of the expiry of a payload. -/
def expiryOf : Option Doc → Seen Nat
  | none => .absent
  | some doc => .ofOption (time? doc)

theorem expiryOf_of_optional? {fields : Fields} {name : String} {expiry : Option Int64}
    (h : fields.optional? name Doc.int64? = some expiry) (n : Nat) :
    expiryOf (fields.lookup name) = .value n ↔ ∃ e, expiry = some e ∧ e.toInt = n := by
  rcases Fields.optional?_eq_some_iff.mp h with
    ⟨rfl, hlookup | hlookup⟩ | ⟨doc, e, hlookup, hnull, hread, rfl⟩
  · simp [hlookup, expiryOf]
  · simp [hlookup, expiryOf, time?, Seen.ofOption]
  · obtain ⟨numeral, w, rfl, hnumber, hw⟩ := Doc.int64?_eq_some_iff.mp hread
    have hvalue := Whole.value_eq_of_toInt64? hw
    simp only [hlookup, expiryOf, time?, hnumber, Option.some.injEq, exists_eq_left']
    by_cases hpos : 0 ≤ w.value
    · simp only [hpos, if_true, Seen.ofOption, Seen.value.injEq]
      omega
    · simp only [hpos, if_false, Seen.ofOption, reduceCtorEq, false_iff]
      omega

theorem not_isFilled_of_optional? {fields : Fields} {name : String} {value : Option Int64}
    (h : fields.optional? name Doc.int64? = some value) :
    (fields.lookup name).any isFilled = false := by
  rcases Fields.optional?_eq_some_iff.mp h with
    ⟨-, hlookup | hlookup⟩ | ⟨doc, e, hlookup, -, hread, -⟩
  · simp [hlookup]
  · simp [hlookup, isFilled]
  · obtain ⟨numeral, w, rfl, -⟩ := Doc.int64?_eq_some_iff.mp hread
    simp [hlookup, isFilled]

theorem not_isContainer_of_optional? {fields : Fields} {name : String} {value : Option String}
    (h : fields.optional? name Doc.string? = some value) :
    (fields.lookup name).any isContainer = false := by
  rcases Fields.optional?_eq_some_iff.mp h with
    ⟨-, hlookup | hlookup⟩ | ⟨doc, e, hlookup, -, hread, -⟩
  · simp [hlookup]
  · simp [hlookup, isContainer]
  · obtain ⟨raw, rfl, -⟩ := Doc.string?_eq_some_iff.mp hread
    simp [hlookup, isContainer]

/-- **Two readings of one payload agree.** Claims that can be read at all have a standing, and it
shows their expiry where that is not before 1970, their issuer and their audience. -/
theorem exists_ofDoc?_of_claims {doc : Doc} {claims : Claims} (h : Claims.ofDoc? doc = some claims) :
    ∃ standing, ofDoc? doc = some standing ∧
      (∀ n, standing.expiry = .value n ↔ ∃ e, claims.exp = some e ∧ e.toInt = n) ∧
      standing.issuers = Seen.ofText? claims.iss ∧ standing.audiences = Seen.ofText? claims.aud := by
  obtain ⟨members, fields, rfl, hfields, hread⟩ := Claims.ofDoc?_eq_some_iff.mp h
  -- The claims are read from all fields, the standing from those it names: the answers are the same.
  have hdistinct : Doc.distinctFields fieldNames fields = true :=
    Json.distinctFields_of_subset (by decide) hread.distinct
  have hrecord : (Doc.object members).recordFields? fieldNames =
      some (fields.filter fun field => fieldNames.contains field.1) := by
    simp [Doc.recordFields?, Doc.objectFields?, hfields, hdistinct]
  have hlookup (name : String) (hname : name ∈ fieldNames) :=
    Json.lookup_filter_contains hname fields
  refine ⟨⟨expiryOf (fields.lookup "exp"), seenNames (fields.lookup "iss"),
    seenNames (fields.lookup "aud")⟩, ?_, ?_, ?_, ?_⟩
  · simp only [ofDoc?, hrecord, Option.bind_eq_bind, Option.bind_some,
      hlookup "exp" (by decide), hlookup "nbf" (by decide),
      hlookup "sub" (by decide), hlookup "iss" (by decide),
      hlookup "aud" (by decide), List.any_cons, List.any_nil,
      not_isFilled_of_optional? hread.exp, not_isFilled_of_optional? hread.nbf,
      not_isContainer_of_optional? hread.sub, Bool.or_self, Bool.false_eq_true, if_false]
    rfl
  · exact expiryOf_of_optional? hread.exp
  · exact seenNames_of_optional? hread.iss
  · exact seenNames_of_optional? hread.aud

end Standing

end TokenAuth.Token
