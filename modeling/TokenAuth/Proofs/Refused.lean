import TokenAuth.Http.Api
import TokenAuth.Proofs.JsonToken

/-!
# What a refusal shows

The kind of an error stands in the bytes of its response, behind its message. Main statement:
errors that are shown by the same bytes are of one kind (`AuthError.kind_eq_of_refusal_eq`).
-/

namespace TokenAuth

namespace Json

/-- A text ends at its closing quote, so two texts with the same bytes after them are the same. -/
theorem text_append_inj {s s' : String} {rest rest' : Bytes}
    (h : (textToken s).render ++ rest = (textToken s').render ++ rest') : s = s' ∧ rest = rest' := by
  have hquoted : escape (utf8 s) ++ 0x22 :: rest = escape (utf8 s') ++ 0x22 :: rest' := by
    simpa [textToken, Token.render] using h
  have hclose := congrArg (closeText? []) hquoted
  rw [closeText?_escape, closeText?_escape, Option.some.injEq, Prod.mk.injEq, List.reverse_nil,
    List.nil_append, List.nil_append] at hclose
  obtain ⟨htext, hrest⟩ := hclose
  have hread := congrArg textOf? htext
  rw [textOf?_escape, textOf?_escape] at hread
  exact ⟨Option.some.inj hread, hrest⟩

end Json

open Http

namespace Http.Problem

open Json (textToken)

/-- The lexemes of a refusal before its message. -/
def lead (status : Status) : List Json.Token :=
  .openObject :: textToken "status_code" :: .colon :: ((statusJson status).tokens ++
    [.comma, textToken "data", .colon, .openObject, textToken "message", .colon])

theorem render_refused (status : Status) (kind message : String) (details : Option Json) :
    ∃ rest : Bytes, (refused status kind message details).toJson.render =
      (lead status).flatMap Json.Token.render ++ ((textToken message).render ++
        ([.comma, textToken "kind", .colon].flatMap Json.Token.render ++
          ((textToken kind).render ++ rest))) := by
  cases details with
  | none =>
    refine ⟨[.closeObject, .closeObject].flatMap Json.Token.render, ?_⟩
    simp [Json.render, toJson, data, lead, Problem.status, Json.tokens, Json.memberTokens]
  | some value =>
    refine ⟨(.comma :: textToken "details" :: .colon :: (value.tokens ++
      [.closeObject, .closeObject])).flatMap Json.Token.render, ?_⟩
    simp [Json.render, toJson, data, lead, Problem.status, Json.tokens, Json.memberTokens]

theorem kind_eq_of_response_eq {status status' : Status} {kind kind' message message' : String}
    {details details' : Option Json}
    (h : (refused status kind message details).response =
      (refused status' kind' message' details').response) : kind = kind' := by
  have hstatus : status = status' := congrArg Response.status h
  have hbody : (refused status kind message details).toJson.render =
      (refused status' kind' message' details').toJson.render := congrArg Response.body h
  obtain ⟨rest, hrest⟩ := render_refused status kind message details
  obtain ⟨rest', hrest'⟩ := render_refused status' kind' message' details'
  rw [hrest, hrest', hstatus, List.append_cancel_left_eq] at hbody
  obtain ⟨-, hkind⟩ := Json.text_append_inj hbody
  exact (Json.text_append_inj (List.append_cancel_left hkind)).1

end Http.Problem

namespace AuthError

/-- The response that shows an error. -/
def refusal (e : AuthError) : Response := (Problem.ofAuthError e).response.shared

theorem exists_ofAuthError_eq (e : AuthError) :
    ∃ status message details, Problem.ofAuthError e = .refused status e.kind message details := by
  cases e <;> exact ⟨_, _, _, rfl⟩

/-- **Errors that look alike are of one kind.** -/
theorem kind_eq_of_refusal_eq {e e' : AuthError} (h : e.refusal = e'.refusal) : e.kind = e'.kind := by
  obtain ⟨status, message, details, he⟩ := exists_ofAuthError_eq e
  obtain ⟨status', message', details', he'⟩ := exists_ofAuthError_eq e'
  have hresponse : (Problem.ofAuthError e).response = (Problem.ofAuthError e').response := by
    have hstatus := congrArg Response.status h
    have hbody := congrArg Response.body h
    simp only [refusal, Response.shared, Response.varying, Response.withHeader] at hstatus hbody
    simp only [Problem.response, Response.json] at hstatus hbody ⊢
    rw [hstatus, hbody]
  rw [he, he'] at hresponse
  exact Problem.kind_eq_of_response_eq hresponse

theorem eq_userIdMissing_of_kind {e : AuthError} (h : e.kind = userIdMissing.kind) :
    e = userIdMissing := by
  cases e <;> simp_all [kind]

theorem status_refusal_badCredentials : badCredentials.refusal.status = .unauthorized :=
  rfl

theorem body_refusal_badCredentials :
    badCredentials.refusal.body = utf8 ("\x7b\"status_code\":401,\"data\":\x7b\"message\":" ++
      "\"Bad credentials\",\"kind\":\"BAD_CREDENTIALS\"\x7d\x7d") := by
  decide +kernel

end AuthError

end TokenAuth
