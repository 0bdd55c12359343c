import TokenAuth.Json.Canonical
import TokenAuth.Json.Doc
import TokenAuth.Proofs.JsonToken

/-!
# JSON texts read back

Main statement: `ofBytes?_render`. The text of a value whose numbers are whole, and that does not
nest too deeply, reads back as its canonical form.

The reader is a machine on lexemes. `steps` runs it on a list of them: on the lexemes of a value it
hands the tree of that value to the container around it (`steps_tokens`), and on written lexemes it
does what the reader does on their bytes (`run_spell`).
-/

namespace TokenAuth.Json

/-! ### The tree of a value -/

mutual

/-- The tree that the text of a value spells. -/
def doc : Json → Doc
  | null => .null
  | bool b => .bool b
  | num n => .number (Numeral.ofNumber n)
  | str s => .text (escape (utf8 s))
  | arr items => .array (itemDocs items)
  | obj members => .object (memberDocs members)

def itemDocs : List Json → List Doc
  | [] => []
  | item :: items => item.doc :: itemDocs items

def memberDocs : List (String × Json) → List (Bytes × Doc)
  | [] => []
  | (key, value) :: members => (escape (utf8 key), value.doc) :: memberDocs members

end

mutual

/-- All numbers in a value are whole. -/
def FloatFree : Json → Prop
  | null | bool _ | str _ => True
  | num (.whole _) => True
  | num (.float _) => False
  | arr items => ItemsFloatFree items
  | obj members => MembersFloatFree members

def ItemsFloatFree : List Json → Prop
  | [] => True
  | item :: items => item.FloatFree ∧ ItemsFloatFree items

def MembersFloatFree : List (String × Json) → Prop
  | [] => True
  | (_, value) :: members => value.FloatFree ∧ MembersFloatFree members

end

mutual

/-- The number of containers that stand one inside the other. -/
def depth : Json → Nat
  | null | bool _ | num _ | str _ => 0
  | arr items => itemsDepth items + 1
  | obj members => membersDepth members + 1

def itemsDepth : List Json → Nat
  | [] => 0
  | item :: items => max item.depth (itemsDepth items)

def membersDepth : List (String × Json) → Nat
  | [] => 0
  | (_, value) :: members => max value.depth (membersDepth members)

end

/-! ### The machine on lexemes -/

/-- Where lexemes lead, one after the other. Nothing may follow a finished value. -/
def steps (frames : List Frame) (place : Place) : List Token → Progress
  | [] => .more frames place
  | token :: tokens =>
    match step frames place token with
    | .more frames place => steps frames place tokens
    | .done root => if tokens.isEmpty then .done root else .stuck
    | .stuck => .stuck

theorem steps_cons_of_more {frames frames' : List Frame} {place place' : Place} {token : Token}
    (h : step frames place token = .more frames' place') (tokens : List Token) :
    steps frames place (token :: tokens) = steps frames' place' tokens := by
  rw [steps, h]

theorem steps_singleton (frames : List Frame) (place : Place) (token : Token) :
    steps frames place [token] = step frames place token := by
  rw [steps]
  cases step frames place token <;> rfl

theorem steps_append (frames : List Frame) (place : Place) (ts us : List Token) :
    steps frames place (ts ++ us) =
      match steps frames place ts with
      | .more frames place => steps frames place us
      | .done root => if us.isEmpty then .done root else .stuck
      | .stuck => .stuck := by
  induction ts generalizing frames place with
  | nil => rfl
  | cons t ts ih =>
    rw [List.cons_append, steps, steps]
    cases step frames place t with
    | more frames place => exact ih frames place
    | stuck => rfl
    | done root => cases ts <;> cases us <;> rfl

/-- Lexemes that continue inside a container go on after a value was put into it. -/
theorem steps_append_of_more {frames frames' : List Frame} {place place' : Place}
    {ts : List Token} (h : steps frames place ts = .more frames' place') (us : List Token) :
    steps frames place (ts ++ us) = steps frames' place' us := by
  rw [steps_append, h]

/-- A value starts with a lexeme that closes nothing. -/
theorem exists_tokens_cons (value : Json) :
    ∃ t ts, value.tokens = t :: ts ∧
      ∀ frames, step frames .item t = step frames .value t := by
  cases value with
  | null | bool | num | str | arr | obj => exact ⟨_, _, by rw [tokens], fun _ => rfl⟩

theorem steps_item (frames : List Frame) (value : Json) (us : List Token) :
    steps frames .item (value.tokens ++ us) = steps frames .value (value.tokens ++ us) := by
  obtain ⟨t, ts, htokens, hstep⟩ := exists_tokens_cons value
  rw [htokens, List.cons_append, steps, steps, hstep]

theorem exists_itemTokens_append (item : Json) (items : List Json) (us : List Token) :
    ∃ vs, itemTokens (item :: items) ++ us = item.tokens ++ vs := by
  cases items with
  | nil => exact ⟨us, rfl⟩
  | cons next items => exact ⟨_, by rw [itemTokens, List.append_assoc]⟩

theorem step_key {place : Place} (hplace : place = .member ∨ place = .key) (key : String)
    (read : List (Bytes × Doc)) (frames : List Frame) :
    step (.object read none :: frames) place (textToken key) =
      .more (.object read (some (escape (utf8 key))) :: frames) .colon := by
  rcases hplace with rfl | rfl <;> rfl

mutual

/-- **The lexemes of a value make its tree.** -/
theorem steps_tokens : (value : Json) → (frames : List Frame) →
    steps frames .value value.tokens = put value.doc frames
  | .null, frames => steps_singleton frames .value _
  | .bool _, frames => steps_singleton frames .value _
  | .num _, frames => steps_singleton frames .value _
  | .str _, frames => steps_singleton frames .value _
  | .arr [], frames => by
    rw [tokens, steps_cons_of_more rfl]
    exact steps_singleton _ _ _
  | .arr (item :: items), frames => by
    have hitems := steps_itemTokens (item :: items) (by simp) [] frames
    obtain ⟨vs, hvs⟩ := exists_itemTokens_append item items [.closeArray]
    rw [tokens, steps_cons_of_more rfl, hvs, steps_item, ← hvs, hitems]
    rfl
  | .obj [], frames => by
    rw [tokens, steps_cons_of_more rfl]
    exact steps_singleton _ _ _
  | .obj (member :: members), frames => by
    have hmembers := steps_memberTokens (member :: members) (by simp) [] .member (by simp) frames
    rw [tokens, steps_cons_of_more rfl, hmembers]
    rfl

theorem steps_itemTokens : (items : List Json) → items ≠ [] → (read : List Doc) →
    (frames : List Frame) →
    steps (.array read :: frames) .value (itemTokens items ++ [.closeArray]) =
      put (.array (read.reverse ++ itemDocs items)) frames
  | [], hne, _, _ => absurd rfl hne
  | [item], _, read, frames => by
    have hitem := steps_tokens item (.array read :: frames)
    rw [itemTokens, steps_append_of_more hitem, steps_singleton]
    simp [step, closeArray, itemDocs]
  | item :: next :: items, _, read, frames => by
    have hitem := steps_tokens item (.array read :: frames)
    have hrest := steps_itemTokens (next :: items) (by simp) (item.doc :: read) frames
    rw [itemTokens, List.append_assoc, steps_append_of_more hitem, List.cons_append,
      steps_cons_of_more rfl, hrest]
    simp [itemDocs]

theorem steps_memberTokens : (members : List (String × Json)) → members ≠ [] →
    (read : List (Bytes × Doc)) → (place : Place) → (place = .member ∨ place = .key) →
    (frames : List Frame) →
    steps (.object read none :: frames) place (memberTokens members ++ [.closeObject]) =
      put (.object (read.reverse ++ memberDocs members)) frames
  | [], hne, _, _, _, _ => absurd rfl hne
  | [(key, value)], _, read, place, hplace, frames => by
    have hkey := step_key hplace key read frames
    have hvalue := steps_tokens value (.object read (some (escape (utf8 key))) :: frames)
    rw [memberTokens, List.cons_append, steps_cons_of_more hkey, List.cons_append,
      steps_cons_of_more rfl, steps_append_of_more hvalue, steps_singleton]
    simp [step, closeObject, memberDocs]
  | (key, value) :: next :: members, _, read, place, hplace, frames => by
    have hkey := step_key hplace key read frames
    have hvalue := steps_tokens value (.object read (some (escape (utf8 key))) :: frames)
    have hrest := steps_memberTokens (next :: members) (by simp)
      ((escape (utf8 key), value.doc) :: read) .key (by simp) frames
    rw [memberTokens, List.cons_append, steps_cons_of_more hkey, List.cons_append,
      steps_cons_of_more rfl, List.append_assoc, steps_append_of_more hvalue, List.cons_append,
      steps_cons_of_more rfl, hrest]
    simp [memberDocs]

end

/-! ### The machine on bytes -/

def spell (ts : List Token) : Bytes := ts.flatMap Token.render

theorem spell_cons (t : Token) (ts : List Token) : spell (t :: ts) = t.render ++ spell ts :=
  List.flatMap_cons

/-- Every lexeme is as it is written, before what follows it. -/
def AllWritten : List Token → Bytes → Prop
  | [], _ => True
  | t :: ts, rest => t.Written (spell ts ++ rest) ∧ AllWritten ts rest

/-- **On written lexemes the reader goes where the lexemes lead.** -/
theorem run_spell {frames : List Frame} {place : Place} {ts : List Token} {rest : Bytes}
    (hwritten : AllWritten ts rest) {root : Doc} (h : steps frames place ts = .done root) :
    run frames place (spell ts ++ rest) = .complete root rest := by
  induction ts generalizing frames place with
  | nil => simp [steps] at h
  | cons t ts ih =>
    have hnext := Token.next?_render hwritten.1
    rw [spell_cons, List.append_assoc, run]
    split
    · next hnone => simp [hnext] at hnone
    · next token after hsome =>
      rw [hnext, Option.some.injEq, Prod.mk.injEq] at hsome
      obtain ⟨rfl, rfl⟩ := hsome
      rw [steps] at h
      cases hstep : step frames place t with
      | more frames' place' =>
        rw [hstep] at h
        exact ih hwritten.2 h
      | stuck => simp [hstep] at h
      | done root' =>
        cases ts with
        | nil => simpa [hstep, spell] using h
        | cons u us => simp [hstep] at h

/-- What stands after a value in a text: its end, a comma, or the end of a container. -/
def AfterValue : List Token → Prop
  | [] => True
  | t :: _ => t = .comma ∨ t = .closeArray ∨ t = .closeObject

theorem ended_spell {us : List Token} (h : AfterValue us) : Numeral.Ended (spell us ++ []) := by
  cases us with
  | nil => simp [Numeral.Ended, spell]
  | cons u us =>
    rw [spell_cons]
    rcases h with rfl | rfl | rfl <;> simp [Numeral.Ended, Token.render] <;> decide

mutual

theorem allWritten_tokens : (value : Json) → value.FloatFree → (us : List Token) →
    AfterValue us → AllWritten us [] → AllWritten (value.tokens ++ us) []
  | .null, _, us, _, hus => ⟨.null _, hus⟩
  | .bool b, _, us, _, hus => ⟨.bool b _, hus⟩
  | .num (.whole n), _, us, hafter, hus => ⟨.whole n (ended_spell hafter), hus⟩
  | .str s, _, us, _, hus => ⟨.text (utf8 s) _, hus⟩
  | .arr items, hfree, us, hafter, hus => by
    have hitems := allWritten_itemTokens items hfree (.closeArray :: us) (by simp [AfterValue])
      ⟨.closeArray _, hus⟩
    simp only [tokens, List.cons_append, List.append_assoc, List.nil_append]
    exact ⟨.openArray _, hitems⟩
  | .obj members, hfree, us, hafter, hus => by
    have hmembers := allWritten_memberTokens members hfree (.closeObject :: us)
      (by simp [AfterValue]) ⟨.closeObject _, hus⟩
    simp only [tokens, List.cons_append, List.append_assoc, List.nil_append]
    exact ⟨.openObject _, hmembers⟩

theorem allWritten_itemTokens : (items : List Json) → ItemsFloatFree items →
    (us : List Token) → AfterValue us → AllWritten us [] → AllWritten (itemTokens items ++ us) []
  | [], _, us, _, hus => hus
  | [item], hfree, us, hafter, hus => allWritten_tokens item hfree.1 us hafter hus
  | item :: next :: items, hfree, us, hafter, hus => by
    have hrest := allWritten_itemTokens (next :: items) hfree.2 us hafter hus
    have hitem := allWritten_tokens item hfree.1 (.comma :: (itemTokens (next :: items) ++ us))
      (by simp [AfterValue]) ⟨.comma _, hrest⟩
    simpa [itemTokens] using hitem

theorem allWritten_memberTokens : (members : List (String × Json)) → MembersFloatFree members →
    (us : List Token) → AfterValue us → AllWritten us [] →
    AllWritten (memberTokens members ++ us) []
  | [], _, us, _, hus => hus
  | [(key, value)], hfree, us, hafter, hus => by
    have hvalue := allWritten_tokens value hfree.1 us hafter hus
    exact ⟨.text (utf8 key) _, .colon _, hvalue⟩
  | (key, value) :: next :: members, hfree, us, hafter, hus => by
    have hrest := allWritten_memberTokens (next :: members) hfree.2 us hafter hus
    have hvalue := allWritten_tokens value hfree.1
      (.comma :: (memberTokens (next :: members) ++ us)) (by simp [AfterValue]) ⟨.comma _, hrest⟩
    simp only [memberTokens, List.cons_append, List.append_assoc]
    exact ⟨.text (utf8 key) _, .colon _, hvalue⟩

end

/-- The text of a value without floats spells its tree. -/
theorem read_render {value : Json} (hfree : value.FloatFree) :
    read value.render = .complete value.doc [] := by
  have hwritten := allWritten_tokens value hfree [] trivial trivial
  rw [List.append_nil] at hwritten
  have hdone : steps [] .value value.tokens = .done value.doc := steps_tokens value []
  have hrun := run_spell hwritten hdone
  rw [List.append_nil] at hrun
  exact hrun

theorem Doc.ofBytes?_render {value : Json} (hfree : value.FloatFree) :
    Doc.ofBytes? value.render = some value.doc := by
  rw [Doc.ofBytes?, read_render hfree]
  rfl

/-! ### Trees read as values -/

mutual

theorem value?_doc : (value : Json) → value.FloatFree → (limit : Nat) → value.depth ≤ limit →
    value.doc.value? limit = some value.canonical
  | .null, _, _, _ => rfl
  | .bool _, _, _, _ => rfl
  | .num (.whole n), _, _, _ => by
    simp [doc, Doc.value?, Numeral.ofNumber, Numeral.number?_ofWhole, canonical]
  | .str s, _, _, _ => by simp [doc, Doc.value?, textOf?_escape, canonical]
  | .arr items, hfree, limit, hdepth => by
    obtain ⟨limit, rfl⟩ : ∃ n, limit = n + 1 := ⟨limit - 1, by simp only [depth] at hdepth; omega⟩
    have hitems := values?_itemDocs items hfree limit (by simpa [depth] using hdepth)
    simp [doc, Doc.value?, hitems, canonical]
  | .obj members, hfree, limit, hdepth => by
    obtain ⟨limit, rfl⟩ : ∃ n, limit = n + 1 := ⟨limit - 1, by simp only [depth] at hdepth; omega⟩
    have hmembers := memberValues?_memberDocs members hfree limit (by simpa [depth] using hdepth)
    simp [doc, Doc.value?, hmembers, canonical]

theorem values?_itemDocs : (items : List Json) → ItemsFloatFree items → (limit : Nat) →
    itemsDepth items ≤ limit → Doc.values? limit (itemDocs items) = some (canonicalItems items)
  | [], _, _, _ => rfl
  | item :: items, hfree, limit, hdepth => by
    simp only [itemsDepth, Nat.max_le] at hdepth
    simp [itemDocs, Doc.values?, value?_doc item hfree.1 limit hdepth.1,
      values?_itemDocs items hfree.2 limit hdepth.2, canonicalItems]

theorem memberValues?_memberDocs : (members : List (String × Json)) → MembersFloatFree members →
    (limit : Nat) → membersDepth members ≤ limit →
    Doc.memberValues? limit (memberDocs members) = some (canonicalMembers members)
  | [], _, _, _ => rfl
  | (key, value) :: members, hfree, limit, hdepth => by
    simp only [membersDepth, Nat.max_le] at hdepth
    simp [memberDocs, Doc.memberValues?, textOf?_escape, value?_doc value hfree.1 limit hdepth.1,
      memberValues?_memberDocs members hfree.2 limit hdepth.2, canonicalMembers]

end

/-- **Round trip.** The text of a value reads back as its canonical form. -/
theorem ofBytes?_render {value : Json} (hfree : value.FloatFree)
    (hdepth : value.depth ≤ Doc.maxDepth) : ofBytes? value.render = some value.canonical := by
  rw [ofBytes?, Doc.ofBytes?_render hfree]
  exact value?_doc value hfree Doc.maxDepth hdepth

/-! ### Bytes that start no value -/

namespace Token

/-- A byte that starts no lexeme. -/
def Stray (b : UInt8) : Prop :=
  Digits.ofByte? b = none ∧
    b ∉ [0x5B, 0x5D, 0x7B, 0x7D, 0x2C, 0x3A, 0x6E, 0x74, 0x66, 0x22, 0x2D]

theorem take?_of_stray {b : UInt8} (h : Stray b) (rest : Bytes) :
    Numeral.take? (b :: rest) = none := by
  obtain ⟨hdigit, hstart⟩ := h
  simp only [List.mem_cons, List.not_mem_nil, or_false, not_or] at hstart
  simp [Numeral.take?, Numeral.takeMinus, Numeral.takeWhole?, Digits.take, hstart, hdigit]

theorem next?_eq_none {bs : Bytes} (h : ∀ b rest, bs.dropWhile isGap = b :: rest → Stray b) :
    next? bs = none := by
  unfold next?
  split
  · rfl
  all_goals next heq => first
    | rw [take?_of_stray (h _ _ heq)]; rfl
    | exact absurd (h _ _ heq).2 (by decide)

end Token

theorem Doc.ofBytes?_eq_none {bs : Bytes}
    (h : ∀ b rest, bs.dropWhile isGap = b :: rest → Token.Stray b) : Doc.ofBytes? bs = none := by
  have hread : read bs = .cut [] := by
    rw [read, run]
    split
    · rfl
    · next token rest hsome => simp [Token.next?_eq_none h] at hsome
  rw [Doc.ofBytes?, hread]

end TokenAuth.Json
