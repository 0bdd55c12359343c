import TokenAuth.Proofs.FirstLogin
import TokenAuth.Proofs.JsonValue

/-!
# What faults of the directory are shown as

Whatever goes wrong at the directory is shown as an error, whose status stands in the body too. The
text that the directory sent with an error is shown as the message or in the details; what it sent
of itself is not shown. Main statement: `faults_shown`.
-/

namespace TokenAuth

/-! ### Texts that the directory sent -/

namespace Http

open Json (Doc textOf? LastMember)

/-- A text that is an object in JSON: its members as they are spelled, and as they are read. -/
structure Spells (text : String) (docs : List (Bytes × Doc)) (members : List (String × Json)) :
    Prop where
  tree : Doc.ofBytes? (utf8 text) = some (.object docs)
  read : Doc.memberValues? (Doc.maxDepth - 1) docs = some members

theorem ofBytes?_eq_obj_iff {text : String} {members : List (String × Json)} :
    Json.ofBytes? (utf8 text) = some (.obj members) ↔ ∃ docs, Spells text docs members := by
  simp only [Json.ofBytes?, Option.bind_eq_bind, Option.bind_eq_some_iff]
  constructor
  · rintro ⟨doc, htree, hvalue⟩
    cases doc with
    | object docs =>
      have hread : (Doc.memberValues? (Doc.maxDepth - 1) docs).map Json.obj =
          some (.obj members) := hvalue
      obtain ⟨_, hread, ⟨⟩⟩ := Option.map_eq_some_iff.mp hread
      exact ⟨docs, htree, hread⟩
    | _ => simp [Doc.value?, Doc.maxDepth] at hvalue
  · rintro ⟨docs, htree, hread⟩
    refine ⟨_, htree, ?_⟩
    change (Doc.memberValues? (Doc.maxDepth - 1) docs).map Json.obj = some (.obj members)
    rw [hread]
    rfl

/-- What a text is shown as: a message, and details if there are any. -/
inductive Forwards (text : String) : String → Option Json → Prop
  | errorText {docs : List (Bytes × Doc)} {members : List (String × Json)} {message : String}
      (hobject : Spells text docs members)
      (herror : LastMember (Doc.maxDepth - 1) docs "error" (.str message)) :
      Forwards text message none
  | errorValue {docs : List (Bytes × Doc)} {members : List (String × Json)} {value : Json}
      (hobject : Spells text docs members)
      (herror : LastMember (Doc.maxDepth - 1) docs "error" value) (hvalue : ∀ s, value ≠ .str s) :
      Forwards text "Credentials directory rejected the request" (some value)
  | errorless {docs : List (Bytes × Doc)} {members : List (String × Json)}
      (hobject : Spells text docs members)
      (herror : ∀ member ∈ docs, textOf? member.1 ≠ some "error") :
      Forwards text "Credentials directory rejected the request" (some (.obj members))
  | quoted {message : String} (h : Json.ofBytes? (utf8 text) = some (.str message)) :
      Forwards text message none
  | other {value : Json} (h : Json.ofBytes? (utf8 text) = some value)
      (hobject : ∀ members, value ≠ .obj members) (hvalue : ∀ s, value ≠ .str s) :
      Forwards text "Credentials directory rejected the request" (some value)
  | plain (h : Json.ofBytes? (utf8 text) = none) : Forwards text text none

namespace Problem

variable {text message : String} {details : Option Json}

theorem forwards_forwarded (text : String) :
    Forwards text (forwarded text).1 (forwarded text).2 := by
  unfold forwarded
  split
  · next members h =>
    obtain ⟨docs, hobject⟩ := ofBytes?_eq_obj_iff.mp h
    split
    · next message herror =>
      exact .errorText hobject ((Json.lookup_memberValues?_eq_some_iff hobject.read).mp herror)
    · next value hvalue herror =>
      exact .errorValue hobject ((Json.lookup_memberValues?_eq_some_iff hobject.read).mp herror)
        hvalue
    · next herror =>
      exact .errorless hobject ((Json.lookup_memberValues?_eq_none_iff hobject.read).mp herror)
  · next message h => exact .quoted h
  · next value hobject hvalue h =>
    exact .other h hobject hvalue
  · next h => exact .plain h

theorem forwarded_of_forwards (h : Forwards text message details) :
    forwarded text = (message, details) := by
  cases h with
  | errorText hobject herror =>
    have h := ofBytes?_eq_obj_iff.mpr ⟨_, hobject⟩
    have hlookup := (Json.lookup_memberValues?_eq_some_iff hobject.read).mpr herror
    simp only [forwarded, h, hlookup]
  | errorValue hobject herror hvalue =>
    have h := ofBytes?_eq_obj_iff.mpr ⟨_, hobject⟩
    have hlookup := (Json.lookup_memberValues?_eq_some_iff hobject.read).mpr herror
    simp only [forwarded, h, hlookup, rejectedMessage]
  | errorless hobject herror =>
    have h := ofBytes?_eq_obj_iff.mpr ⟨_, hobject⟩
    have hlookup := (Json.lookup_memberValues?_eq_none_iff hobject.read).mpr herror
    simp only [forwarded, h, hlookup, rejectedMessage]
  | quoted h => simp only [forwarded, h]
  | other h hobject hvalue =>
    simp only [forwarded, h, rejectedMessage]
  | plain h => simp only [forwarded, h]

end Problem

end Http

/-! ### Faults -/

namespace Http.Status

theorem ofCode?_code (s : Status) : ofCode? s.code = some s := by
  rw [ofCode?, dif_pos ⟨s.lower, s.upper⟩]

end Http.Status

namespace AuthError

/-- A status that tells of an error and has a standard reason phrase. -/
def Forwardable (code : Nat) : Prop :=
  code ∈ Http.Status.registered ∧ 400 ≤ code ∧ code < 600

theorem forwardedStatus_cases (code : Nat) :
    Forwardable code ∧ (forwardedStatus code).code = code ∨
      ¬Forwardable code ∧ forwardedStatus code = .badGateway := by
  have hcode {s : Http.Status} (h : Http.Status.ofCode? code = some s) : s.code = code := by
    unfold Http.Status.ofCode? at h
    split at h
    · rw [← Option.some.inj h]
    · simp at h
  have hforwardable (s : Http.Status) :
      (s.isRegistered && s.isError) = true ↔ Forwardable s.code := by
    simp [Http.Status.isRegistered, Http.Status.isError, Forwardable]
  unfold forwardedStatus
  split
  · next s hs =>
    rw [← hcode hs]
    split
    · next h => exact .inl ⟨(hforwardable s).mp h, rfl⟩
    · next h => exact .inr ⟨fun hcode => h ((hforwardable s).mpr hcode), rfl⟩
  · next hnone =>
    refine .inr ⟨fun h => ?_, rfl⟩
    obtain ⟨-, hlower, hupper⟩ := h
    rw [Http.Status.ofCode?, dif_pos ⟨by omega, by omega⟩] at hnone
    simp at hnone

/-- What is shown of an error that the directory answered with. -/
inductive ForwardedFrom (code : Nat) (body : Bytes) : String → Option Json → Prop
  | unreadable (h : ofUtf8? body = none) : ForwardedFrom code body
      ("Credentials directory request failed with status " ++ toString code) none
  | blank {text : String} (h : ofUtf8? body = some text) (hblank : ∀ c ∈ text.toList, isBlank c) :
      ForwardedFrom code body
        ("Credentials directory request failed with status " ++ toString code) none
  | text {text message : String} {details : Option Json} (h : ofUtf8? body = some text)
      (hblank : ∃ c ∈ text.toList, ¬isBlank c)
      (hforwards : Http.Forwards (Text.trim text) message details) :
      ForwardedFrom code body message details

variable {code : Nat} {body : Bytes} {message : String} {details : Option Json}

/-- A sentence that stands for a text is no JSON, so it is shown as it is. -/
theorem forwarded_of_stray {sentence : String} {b : UInt8} (hgap : Json.isGap b = false)
    (hstray : Json.Token.Stray b) (h : ∃ rest, utf8 sentence = b :: rest) :
    Http.Problem.forwarded sentence = (sentence, none) := by
  obtain ⟨rest, h⟩ := h
  apply Http.Problem.forwarded_of_forwards
  apply Http.Forwards.plain
  rw [Json.ofBytes?, Json.Doc.ofBytes?_eq_none]
  · rfl
  · intro b' rest' hdrop
    rw [h, List.dropWhile_cons, hgap, if_neg Bool.false_ne_true] at hdrop
    obtain ⟨rfl, -⟩ := List.cons.inj hdrop
    exact hstray

theorem forwarded_generic (code : Nat) :
    Http.Problem.forwarded ("Credentials directory request failed with status " ++ toString code) =
      ("Credentials directory request failed with status " ++ toString code, none) := by
  have hlead : utf8 "Credentials directory request failed with status " =
      0x43 :: utf8 "redentials directory request failed with status " := by decide +kernel
  apply forwarded_of_stray (show Json.isGap 0x43 = false by decide) ⟨by decide, by decide⟩
  rw [utf8_append, hlead]
  exact ⟨_, rfl⟩

theorem forwarded_unreadable :
    Http.Problem.forwarded "Invalid response from credentials directory" =
      ("Invalid response from credentials directory", none) :=
  forwarded_of_stray (show Json.isGap 0x49 = false by decide) ⟨by decide, by decide⟩
    ⟨utf8 "nvalid response from credentials directory", by decide +kernel⟩

theorem isBlank_iff {text : String} :
    Text.isBlank text = true ↔ ∀ c ∈ text.toList, isBlank c = true :=
  List.all_eq_true

theorem forwardedMessage_of_some {text : String} (h : ofUtf8? body = some text) :
    forwardedMessage code body =
      if Text.isBlank text then
        "Credentials directory request failed with status " ++ toString code
      else Text.trim text := by
  simp only [forwardedMessage, h]
  rfl

theorem forwardedMessage_of_none (h : ofUtf8? body = none) :
    forwardedMessage code body =
      "Credentials directory request failed with status " ++ toString code := by
  simp only [forwardedMessage, h]
  rfl

theorem forwardedFrom_forwarded (code : Nat) (body : Bytes) :
    ForwardedFrom code body (Http.Problem.forwarded (forwardedMessage code body)).1
      (Http.Problem.forwarded (forwardedMessage code body)).2 := by
  cases h : ofUtf8? body with
  | none =>
    rw [forwardedMessage_of_none h, forwarded_generic]
    exact .unreadable h
  | some text =>
    rw [forwardedMessage_of_some h]
    by_cases hblank : Text.isBlank text = true
    · rw [if_pos hblank, forwarded_generic]
      exact .blank h (isBlank_iff.mp hblank)
    · rw [if_neg hblank]
      refine .text h ?_ (Http.Problem.forwards_forwarded _)
      simpa [Text.isBlank] using hblank

theorem forwarded_of_forwardedFrom (h : ForwardedFrom code body message details) :
    Http.Problem.forwarded (forwardedMessage code body) = (message, details) := by
  cases h with
  | unreadable h => rw [forwardedMessage_of_none h, forwarded_generic]
  | blank h hblank =>
    rw [forwardedMessage_of_some h, if_pos (isBlank_iff.mpr hblank), forwarded_generic]
  | text h hblank hforwards =>
    obtain ⟨c, hc, hnot⟩ := hblank
    rw [forwardedMessage_of_some h, if_neg fun hall => hnot (isBlank_iff.mp hall c hc)]
    exact Http.Problem.forwarded_of_forwards hforwards

/-- The response that shows a fault of the directory. -/
def shown (fault : Directory.Fault) : Http.Response :=
  (Http.Problem.ofAuthError (ofFault fault)).response

/-- A response that shows an error: its status, which stands in its body too, and what is said of
it. -/
structure Shows (response : Http.Response) (status : Http.Status) (kind message : String)
    (details : Option Json) : Prop where
  status_eq : response.status = status
  isError : 400 ≤ status.code ∧ status.code < 600
  body_eq : ∃ code : Whole, code.value = status.code ∧ response.body =
    (Json.obj [("status_code", .num (.whole code)),
      ("data", .obj ([("message", .str message), ("kind", .str kind)] ++
        (details.map fun value => ("details", value)).toList))]).render

theorem shows_refused {status : Http.Status} {kind : String}
    (h : 400 ≤ status.code ∧ status.code < 600) :
    Shows (Http.Problem.refused status kind message details).response status kind message
      details where
  status_eq := rfl
  isError := h
  body_eq := by
    refine ⟨⟨status.code, by omega, by omega⟩, rfl, ?_⟩
    cases details <;> rfl

theorem shown_status (code : Nat) (body : Bytes) :
    shown (.status code body) = (Http.Problem.refused (forwardedStatus code) "DOWNSTREAM_ERROR"
      (Http.Problem.forwarded (forwardedMessage code body)).1
      (Http.Problem.forwarded (forwardedMessage code body)).2).response := by
  simp only [shown, ofFault, Http.Problem.ofAuthError, Http.Status.ofCode?_code, Option.getD_some,
    kind]

theorem isError_forwardedStatus (code : Nat) :
    400 ≤ (forwardedStatus code).code ∧ (forwardedStatus code).code < 600 := by
  rcases forwardedStatus_cases code with ⟨hforwardable, hcode⟩ | ⟨-, hstatus⟩
  · rw [hcode]
    exact hforwardable.2
  · rw [hstatus]
    decide

theorem shows_shown_status (h : ForwardedFrom code body message details) :
    Shows (shown (.status code body)) (forwardedStatus code) "DOWNSTREAM_ERROR" message
      details := by
  rw [shown_status, forwarded_of_forwardedFrom h]
  exact shows_refused (isError_forwardedStatus code)

theorem shows_shown_unavailable (reason : String) :
    Shows (shown (.unavailable reason)) .unavailable "SERVICE_UNAVAILABLE"
      "Credentials directory unavailable" none :=
  shows_refused (by decide)

theorem shows_shown_unreadable (reason : String) :
    Shows (shown (.unreadable reason)) .badGateway "DOWNSTREAM_ERROR"
      "Invalid response from credentials directory" none := by
  have hproblem : Http.Problem.ofAuthError (ofFault (.unreadable reason)) =
      .refused .badGateway "DOWNSTREAM_ERROR" "Invalid response from credentials directory"
        none := by
    simp only [ofFault, Http.Problem.ofAuthError, Http.Status.ofCode?_code, Option.getD_some, kind,
      forwarded_unreadable]
  rw [shown, hproblem]
  exact shows_refused (by decide)

theorem isError_shown (fault : Directory.Fault) :
    400 ≤ (shown fault).status.code ∧ (shown fault).status.code < 600 := by
  cases fault with
  | unavailable reason => exact (shows_shown_unavailable reason).isError
  | status code body =>
    have hshows := shows_shown_status (forwardedFrom_forwarded code body)
    rw [hshows.status_eq]
    exact hshows.isError
  | unreadable reason => exact (shows_shown_unreadable reason).isError

/-- **Faults of the directory are shown for what they are, and never as a success.** The status of
an error is kept where it can be forwarded, and what the directory sent with it is shown in exactly
one way. Why it was out of reach, or what was wrong with its reply, is not shown. -/
theorem faults_shown (fault : Directory.Fault) (code : Nat) (body : Bytes)
    (reason reason' : String) :
    (∃ status kind message details, Shows (shown fault) status kind message details) ∧
    (∃ status message details,
      Shows (shown (.status code body)) status "DOWNSTREAM_ERROR" message details ∧
      (Forwardable code ∧ status.code = code ∨ ¬Forwardable code ∧ status = .badGateway) ∧
      ForwardedFrom code body message details ∧
      ∀ message' details', ForwardedFrom code body message' details' →
        message' = message ∧ details' = details) ∧
    Shows (shown (.unavailable reason)) .unavailable "SERVICE_UNAVAILABLE"
      "Credentials directory unavailable" none ∧
    shown (.unavailable reason) = shown (.unavailable reason') ∧
    Shows (shown (.unreadable reason)) .badGateway "DOWNSTREAM_ERROR"
      "Invalid response from credentials directory" none ∧
    shown (.unreadable reason) = shown (.unreadable reason') := by
  refine ⟨?_, ?_, shows_shown_unavailable reason, rfl, shows_shown_unreadable reason, rfl⟩
  · cases fault with
    | unavailable reason => exact ⟨_, _, _, _, shows_shown_unavailable reason⟩
    | status code body =>
      exact ⟨_, _, _, _, shows_shown_status (forwardedFrom_forwarded code body)⟩
    | unreadable reason => exact ⟨_, _, _, _, shows_shown_unreadable reason⟩
  · have hforwarded := forwardedFrom_forwarded code body
    refine ⟨_, _, _, shows_shown_status hforwarded, forwardedStatus_cases code, hforwarded, ?_⟩
    intro message' details' h
    rw [forwarded_of_forwardedFrom h]
    exact ⟨rfl, rfl⟩

/-- An object that gives its error twice. -/
def errorTwice : Json := .obj [("error", .str "taken"), ("error", .null)]

def errorTwiceText : String := "\x7b\"error\":\"taken\",\"error\":null\x7d"

theorem forwardedFrom_errorTwice :
    ForwardedFrom 409 (utf8 errorTwiceText) "Credentials directory rejected the request"
      (some .null) := by
  have hrender : utf8 errorTwiceText = errorTwice.render := by decide +kernel
  have hobject : Http.Spells errorTwiceText
      [(Json.escape (utf8 "error"), (Json.str "taken").doc),
        (Json.escape (utf8 "error"), Json.null.doc)] [("error", .null)] := by
    refine ⟨?_, ?_⟩
    · rw [hrender]
      exact Json.Doc.ofBytes?_render ⟨trivial, trivial, trivial⟩
    · simp only [Json.Doc.memberValues?, Json.textOf?_escape, Json.doc, Json.Doc.value?,
        Option.map_some, Option.bind_eq_bind, Option.bind_some, Option.pure_def, Json.addMissing]
      rfl
  refine .text (ofUtf8?_utf8 errorTwiceText) ⟨'e', by decide, by decide⟩ ?_
  have htrim : Text.trim errorTwiceText = errorTwiceText := by decide
  rw [htrim]
  have hlast : Json.LastMember (Json.Doc.maxDepth - 1) [(Json.escape (utf8 "error"),
      (Json.str "taken").doc), (Json.escape (utf8 "error"), Json.null.doc)] "error" .null :=
    ⟨[_], _, _, [], rfl, Json.textOf?_escape "error", rfl, by simp⟩
  exact .errorValue hobject hlast (by simp)

/-- Of two errors the last is shown. -/
theorem last_error_shown :
    ∃ status, Shows (shown (.status 409 (utf8 errorTwiceText))) status "DOWNSTREAM_ERROR"
      "Credentials directory rejected the request" (some .null) ∧ status.code = 409 := by
  obtain ⟨-, ⟨status, message, details, hshows, hstatus, -, honly⟩, -⟩ :=
    faults_shown (.unavailable "") 409 (utf8 errorTwiceText) "" ""
  obtain ⟨rfl, rfl⟩ := honly _ _ forwardedFrom_errorTwice
  refine ⟨status, hshows, ?_⟩
  rcases hstatus with ⟨-, hcode⟩ | ⟨hnot, -⟩
  · exact hcode
  · exact absurd (show Forwardable 409 from ⟨by decide, by decide, by decide⟩) hnot

end AuthError

end TokenAuth
