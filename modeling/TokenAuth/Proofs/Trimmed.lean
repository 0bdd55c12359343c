import Mathlib.Data.List.TakeWhile
import TokenAuth.Proofs.Base64
import TokenAuth.Text.Blank

/-!
# Texts between blanks

Trimming leaves what stands between the blanks at the two ends of a text. A text of visible
characters of ASCII stays what it is.
-/

namespace TokenAuth

theorem ofAscii_append (bs cs : Bytes) : ofAscii (bs ++ cs) = ofAscii bs ++ ofAscii cs := by
  simp [ofAscii]

theorem ofAscii_utf8 {s : String} (h : ∀ b ∈ utf8 s, b.toNat < 0x80) : ofAscii (utf8 s) = s :=
  utf8_injective (utf8_ofAscii h)

namespace Text

/-- A list is another one between members that satisfy `p`, and none of these is at its own ends. -/
def StripsTo {α : Type} (p : α → Bool) (cs body : List α) : Prop :=
  (∃ before after, cs = before ++ body ++ after ∧ (∀ c ∈ before, p c = true) ∧
    ∀ c ∈ after, p c = true) ∧
  (∀ c ∈ body.head?, p c = false) ∧ ∀ c ∈ body.getLast?, p c = false

theorem head?_dropWhile_eq_false {α : Type} (p : α → Bool) (cs : List α) :
    ∀ c ∈ (cs.dropWhile p).head?, p c = false := by
  intro c hc
  have hnot := List.head?_dropWhile_not p cs
  rw [Option.mem_def.mp hc] at hnot
  exact Bool.eq_false_iff.mpr (by simpa using hnot)

theorem stripsTo_strip {α : Type} (p : α → Bool) (cs : List α) : StripsTo p cs (strip p cs) := by
  have hlast : ∀ c ∈ (strip p cs).getLast?, p c = false := by
    rw [strip, List.getLast?_reverse]
    exact head?_dropWhile_eq_false p _
  have hbody : cs.dropWhile p =
      strip p cs ++ ((cs.dropWhile p).reverse.takeWhile p).reverse := by
    rw [strip, ← List.reverse_append, List.takeWhile_append_dropWhile, List.reverse_reverse]
  refine ⟨⟨cs.takeWhile p, ((cs.dropWhile p).reverse.takeWhile p).reverse, ?_, ?_, ?_⟩, ?_, hlast⟩
  · rw [List.append_assoc, ← hbody, List.takeWhile_append_dropWhile]
  · exact fun c hc => List.mem_takeWhile_imp hc
  · exact fun c hc => List.mem_takeWhile_imp (List.mem_reverse.mp hc)
  · -- What begins the rest begins the list without its leading members.
    intro c hc
    refine head?_dropWhile_eq_false p cs c ?_
    rw [hbody, Option.mem_def, List.head?_append, Option.mem_def.mp hc]
    rfl

theorem StripsTo.strip_eq {α : Type} {p : α → Bool} {cs body : List α} (h : StripsTo p cs body) :
    strip p cs = body := by
  obtain ⟨⟨before, after, rfl, hbefore, hafter⟩, hfirst, hlast⟩ := h
  have hreverse : ∀ c ∈ after.reverse, p c = true := fun c hc => hafter c (List.mem_reverse.mp hc)
  have hkeep {l : List α} (hl : ∀ c ∈ l.head?, p c = false) : l.dropWhile p = l := by
    cases l with
    | nil => rfl
    | cons c l => rw [List.dropWhile_cons, hl c rfl, if_neg Bool.false_ne_true]
  rw [strip, List.append_assoc, List.dropWhile_append_of_pos hbefore]
  cases body with
  | nil =>
    rw [List.nil_append, List.dropWhile_eq_nil_iff.mpr hafter]
    rfl
  | cons c body =>
    have hstart : ∀ d ∈ (c :: body ++ after).head?, p d = false := hfirst
    rw [hkeep hstart, List.reverse_append, List.dropWhile_append_of_pos hreverse,
      hkeep (by rwa [List.head?_reverse]), List.reverse_reverse]

theorem isBlank_of_visible {b : UInt8} (h : 0x20 < b.toNat ∧ b.toNat < 0x7F) :
    TokenAuth.isBlank (Char.ofNat b.toNat) = false := by
  have hall : ∀ n < 0x7F, 0x20 < n → TokenAuth.isBlank (Char.ofNat n) = false := by decide
  exact hall _ h.2 h.1

theorem strip_eq_self {α : Type} {p : α → Bool} {cs : List α} (h : ∀ c ∈ cs, p c = false) :
    strip p cs = cs := by
  refine StripsTo.strip_eq
    ⟨⟨[], [], by simp, by simp, by simp⟩, fun c hc => h c ?_, fun c hc => h c ?_⟩
  · exact List.mem_of_mem_head? hc
  · exact List.mem_of_mem_getLast? hc

theorem trim_ofAscii {bs : Bytes} (h : ∀ b ∈ bs, 0x20 < b.toNat ∧ b.toNat < 0x7F) :
    trim (ofAscii bs) = ofAscii bs := by
  have hchars : ∀ c ∈ (ofAscii bs).toList, TokenAuth.isBlank c = false := by
    intro c hc
    rw [ofAscii, String.toList_ofList] at hc
    obtain ⟨b, hb, rfl⟩ := List.mem_map.mp hc
    exact isBlank_of_visible (h b hb)
  rw [trim, strip_eq_self hchars, String.ofList_toList]

theorem trim_of_visible {s : String} (h : ∀ b ∈ utf8 s, 0x20 < b.toNat ∧ b.toNat < 0x7F) :
    trim s = s := by
  have hascii : ofAscii (utf8 s) = s := ofAscii_utf8 fun b hb => by have := h b hb; omega
  rw [← hascii]
  exact trim_ofAscii h

/-- A text is another one between blanks, and has no blank at its own ends. -/
def TrimsTo (raw body : String) : Prop := StripsTo TokenAuth.isBlank raw.toList body.toList

theorem trimsTo_trim (raw : String) : TrimsTo raw (trim raw) := by
  rw [TrimsTo, trim, String.toList_ofList]
  exact stripsTo_strip _ _

/-- **Trimming leaves what stands between the blanks.** -/
theorem trim_eq_iff {raw body : String} : trim raw = body ↔ TrimsTo raw body := by
  constructor
  · rintro rfl
    exact trimsTo_trim raw
  · intro h
    rw [trim, h.strip_eq, String.ofList_toList]

theorem length_trim_le (raw : String) : (trim raw).length ≤ raw.length := by
  obtain ⟨⟨before, after, hraw, -⟩, -⟩ := trimsTo_trim raw
  rw [← String.length_toList, ← String.length_toList, hraw, List.length_append, List.length_append]
  omega

/-- Blanks at the end of a text are trimmed like those it has there. -/
theorem trim_append_blanks (raw : String) {blanks : String}
    (hblanks : ∀ c ∈ blanks.toList, TokenAuth.isBlank c = true) :
    trim (raw ++ blanks) = trim raw := by
  obtain ⟨⟨before, after, hraw, hbefore, hafter⟩, hends⟩ := trimsTo_trim raw
  refine trim_eq_iff.mpr ⟨⟨before, after ++ blanks.toList, ?_, hbefore, ?_⟩, hends⟩
  · rw [String.toList_append, hraw, List.append_assoc _ after]
  · intro c hc
    rcases List.mem_append.mp hc with hc | hc
    · exact hafter c hc
    · exact hblanks c hc

theorem trim_between {before text after : String}
    (hbefore : ∀ c ∈ before.toList, TokenAuth.isBlank c = true)
    (hafter : ∀ c ∈ after.toList, TokenAuth.isBlank c = true)
    (hvisible : ∀ b ∈ utf8 text, 0x20 < b.toNat ∧ b.toNat < 0x7F) :
    trim (before ++ text ++ after) = text := by
  have htext := trim_eq_iff.mp (trim_of_visible hvisible)
  refine trim_eq_iff.mpr ⟨⟨before.toList, after.toList, ?_, hbefore, hafter⟩, htext.2⟩
  rw [String.toList_append, String.toList_append]

theorem trim_eq_empty_iff {raw : String} :
    trim raw = "" ↔ ∀ c ∈ raw.toList, TokenAuth.isBlank c = true := by
  rw [trim_eq_iff, TrimsTo]
  constructor
  · rintro ⟨⟨before, after, hraw, hbefore, hafter⟩, -⟩ c hc
    rw [hraw, List.mem_append, List.mem_append] at hc
    rcases hc with (hc | hc) | hc
    · exact hbefore c hc
    · exact absurd hc List.not_mem_nil
    · exact hafter c hc
  · intro h
    exact ⟨⟨raw.toList, [], by simp, h, by simp⟩, by simp, by simp⟩

theorem afterLead?_append (lead s : String) : afterLead? lead (lead ++ s) = some s := by
  have hprefix : lead.toList.isPrefixOf (lead ++ s).toList = true := by
    rw [String.toList_append, List.isPrefixOf_iff_prefix]
    exact List.prefix_append _ _
  rw [afterLead?, if_pos hprefix, String.toList_append, ← String.length_toList, List.drop_left,
    String.ofList_toList]

theorem afterLead?_eq_some_iff {lead s rest : String} :
    afterLead? lead s = some rest ↔ s = lead ++ rest := by
  constructor
  · intro h
    rw [afterLead?] at h
    split at h
    · next hprefix =>
      obtain ⟨after, hafter⟩ := List.isPrefixOf_iff_prefix.mp hprefix
      obtain rfl : lead ++ String.ofList after = s := by
        rw [← String.toList_inj, ← hafter]
        simp
      rw [← hafter, ← String.length_toList, List.drop_left] at h
      rw [Option.some.inj h]
    · exact nomatch h
  · rintro rfl
    exact afterLead?_append lead rest

end Text

end TokenAuth
