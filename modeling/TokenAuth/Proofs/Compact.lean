import TokenAuth.Proofs.Base64
import TokenAuth.Proofs.Split
import TokenAuth.Token.Compact

/-!
# Tokens and their segments

A token splits at its last two dots. Since no segment that is written holds a dot, a token that was
joined splits into the segments it was joined from.
-/

namespace TokenAuth

namespace Token

open TokenAuth.Token.Compact (dot)

theorem dot_not_mem_encodeSegment (bs : Bytes) : dot ∉ encodeSegment bs := by
  intro hmem
  obtain ⟨n, hn, hdot⟩ := Base64.mem_encode_none hmem
  exact Base64.Alphabet.symbol_url_ne_dot hn hdot.symm

theorem visible_encodeSegment (bs : Bytes) :
    ∀ b ∈ encodeSegment bs, 0x20 < b.toNat ∧ b.toNat < 0x7F :=
  Base64.visible_encode .url .none bs

theorem decodeSegment?_eq_some_iff {segment bs : Bytes} :
    decodeSegment? segment = some bs ↔ segment = encodeSegment bs :=
  Base64.decode?_eq_some_iff

theorem sign_eq_iff {key₁ key₂ message₁ message₂ : Bytes} :
    sign key₁ message₁ = sign key₂ message₂ ↔
      Hmac.sha256 key₁ message₁ = Hmac.sha256 key₂ message₂ :=
  ⟨fun h => Base64.encode_injective .url .none h, fun h => congrArg encodeSegment h⟩

namespace Compact

/-- A token is its header, its payload and its signature, with dots between them. -/
theorem split?_eq_some_iff {token : Bytes} {c : Compact} :
    split? token = some c ↔ token = c.join ∧ dot ∉ c.payload ∧ dot ∉ c.signature := by
  obtain ⟨header, payload, signature⟩ := c
  simp only [split?, Option.bind_eq_bind, Option.bind_eq_some_iff, Prod.exists,
    Text.splitLast?_eq_some_iff, Option.pure_def, Option.some.injEq, Compact.mk.injEq, join,
    message]
  constructor
  · rintro ⟨message, s, ⟨rfl, hs⟩, h, p, ⟨rfl, hp⟩, rfl, rfl, rfl⟩
    exact ⟨rfl, hp, hs⟩
  · rintro ⟨rfl, hp, hs⟩
    exact ⟨_, _, ⟨rfl, hs⟩, _, _, ⟨rfl, hp⟩, rfl, rfl, rfl⟩

theorem visible_join (header payload signature : Bytes) :
    ∀ b ∈ (⟨encodeSegment header, encodeSegment payload, encodeSegment signature⟩ : Compact).join,
      0x20 < b.toNat ∧ b.toNat < 0x7F := by
  intro b hb
  simp only [join, message, List.mem_append, List.mem_cons] at hb
  rcases hb with (hb | rfl | hb) | rfl | hb
  · exact visible_encodeSegment header b hb
  · decide
  · exact visible_encodeSegment payload b hb
  · decide
  · exact visible_encodeSegment signature b hb

end Compact

end Token

end TokenAuth
