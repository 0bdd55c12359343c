import TokenAuth.Proofs.Encoding

/-!
# Issuers and audiences

A reader that expects an issuer and an audience refuses tokens that name others. A token that names
none is accepted.
-/

namespace TokenAuth.Token

namespace Handler

/-- The handler with the same key that expects nobody. -/
def unnamed (handler : Handler) : Handler := { handler with issuer := none, audience := none }

theorem decode_iff_unnamed {handler : Handler} {now : Int} {token : String} {claims : Claims} :
    handler.decode now token = .ok claims ↔
      handler.unnamed.decode now token = .ok claims ∧ Names handler.issuer claims.iss ∧
        Names handler.audience claims.aud := by
  simp only [decode_eq_ok_iff, unnamed, names_none, and_true, and_assoc]

/-- **Expected names are compared with the names that are there.** A reader that expects an issuer
and an audience accepts what it would accept without, where each of the two claims is missing or
right. Its tokens have both names exactly where neither is missing. Readers of access and of
refresh tokens do no better. -/
theorem decode_named_iff (secret : SigningSecret) (issuer audience : String) (keys : SigningKeys)
    (now : Int) (token : String) (claims : Claims) :
    ((⟨secret, some issuer, some audience⟩ : Handler).decode now token = .ok claims ↔
      (⟨secret, none, none⟩ : Handler).decode now token = .ok claims ∧
        (claims.iss = none ∨ claims.iss = some issuer) ∧
        (claims.aud = none ∨ claims.aud = some audience)) ∧
    (((⟨secret, some issuer, some audience⟩ : Handler).decode now token = .ok claims →
        claims.iss = some issuer ∧ claims.aud = some audience) ↔
      ((⟨secret, some issuer, some audience⟩ : Handler).decode now token = .ok claims →
        claims.iss ≠ none ∧ claims.aud ≠ none)) ∧
    (keys.parseRefreshToken now token = .ok claims ↔
      keys.refreshHandler.unnamed.decode now token = .ok claims ∧
        (claims.iss = none ∨ claims.iss = some keys.issuer) ∧
        (claims.aud = none ∨ claims.aud = some keys.audience)) ∧
    (keys.parseAccessToken now token = .ok claims ↔
      keys.accessHandler.unnamed.decode now token = .ok claims ∧
        (claims.iss = none ∨ claims.iss = some keys.issuer) ∧
        (claims.aud = none ∨ claims.aud = some keys.audience) ∧
        SigningKeys.isRefresh claims = false) := by
  have hnamed : (⟨secret, some issuer, some audience⟩ : Handler).decode now token = .ok claims ↔
      (⟨secret, none, none⟩ : Handler).decode now token = .ok claims ∧
        (claims.iss = none ∨ claims.iss = some issuer) ∧
        (claims.aud = none ∨ claims.aud = some audience) := by
    rw [decode_iff_unnamed, names_some_iff, names_some_iff]
    rfl
  refine ⟨hnamed, ?_, ?_, ?_⟩
  · constructor
    · intro h hdecode
      obtain ⟨hissuer, haudience⟩ := h hdecode
      simp [hissuer, haudience]
    · intro h hdecode
      obtain ⟨hissuer, haudience⟩ := h hdecode
      obtain ⟨-, hissuers, haudiences⟩ := hnamed.mp hdecode
      exact ⟨hissuers.resolve_left hissuer, haudiences.resolve_left haudience⟩
  · rw [SigningKeys.parseRefreshToken_eq_ok_iff, decode_iff_unnamed]
    simp only [SigningKeys.refreshHandler, names_some_iff]
  · rw [SigningKeys.parseAccessToken_eq_ok_iff, decode_iff_unnamed]
    simp only [SigningKeys.accessHandler, names_some_iff, and_assoc]

/-! ### A token without an issuer -/

def issuerless : Claims :=
  { Claims.empty with exp := some 4102444800, aud := some "irisinfinity" }

theorem readable_issuerless : issuerless.Readable where
  disjoint := fun _ _ => rfl
  floatFree := trivial
  depth_le := by decide

def namedHandler : Handler :=
  ⟨⟨List.replicate 40 0x61, by decide⟩, some "auth-service", some "irisinfinity"⟩

/-- A token that names no issuer decodes where one is expected. -/
theorem decode_issuerless_ok :
    namedHandler.decode 1700000000 (namedHandler.encode issuerless.toJson) = .ok issuerless ∧
      issuerless.iss = none := by
  refine ⟨decode_eq_ok_iff.mpr ⟨signed_encode _ _,
    claims?_encode _ issuerless.isPayload_toJson readable_issuerless, ⟨4102444800, rfl, by decide, by decide⟩, ?_, ?_⟩, rfl⟩
  · exact names_some_iff.mpr (.inl rfl)
  · exact names_some_iff.mpr (.inr rfl)

end Handler

end TokenAuth.Token
