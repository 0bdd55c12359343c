import TokenAuth.Account.Email
import TokenAuth.Proofs.Outcome
import TokenAuth.Proofs.Split
import TokenAuth.Proofs.Trimmed

/-!
# The grammar of addresses

A local part is a dot-atom or a quoted string, a domain a domain name or a bracketed literal. Each
check of an address decides its part of the grammar.
-/

namespace TokenAuth

open Outcome

/-- The parts between separators satisfy what no part with a separator does exactly if the list is
put together from such parts. -/
theorem Text.forall_mem_splitOn_iff {α : Type} [BEq α] [LawfulBEq α] {x : α} {cs : List α}
    {p : List α → Prop} (hp : ∀ part, p part → x ∉ part) :
    (∀ part ∈ splitOn (· == x) cs, p part) ↔
      ∃ parts, parts ≠ [] ∧ (∀ part ∈ parts, p part) ∧ cs = [x].intercalate parts := by
  constructor
  · intro h
    obtain ⟨hne, hcs, -⟩ := splitOn_eq_iff.mp (rfl : splitOn (· == x) cs = _)
    exact ⟨_, hne, h, hcs⟩
  · rintro ⟨parts, hne, h, rfl⟩
    rwa [splitOn_eq_iff.mpr ⟨hne, rfl, fun part hpart => hp part (h part hpart)⟩]

namespace Address

/-! ### Characters -/

/-- Below 0x80 the letters and digits are those of ASCII. -/
theorem isAlphanumeric_eq_isAlphanum {c : Char} (h : c.toNat < 0x80) :
    isAlphanumeric c = c.isAlphanum := by
  have hsplit : alphanumericRanges =
      [(0x30, 0x39), (0x41, 0x5A), (0x61, 0x7A)] ++ alphanumericRanges.drop 3 := rfl
  -- a check of the list: `∀ range ∈ _` may be decided by going through all pairs of words instead
  have hlater : (alphanumericRanges.drop 3).all (fun range => 0x80 ≤ range.1.toNat) = true := by
    decide +kernel
  have hnone : (alphanumericRanges.drop 3).any
      (fun range => range.1 ≤ c.val && c.val ≤ range.2) = false := by
    rw [List.any_eq_false]
    intro range hrange hin
    simp only [Bool.and_eq_true, decide_eq_true_eq, UInt32.le_iff_toNat_le, Char.toNat_val] at hin
    have hfirst := decide_eq_true_eq.mp (List.all_eq_true.mp hlater range hrange)
    omega
  rw [isAlphanumeric, hsplit, List.any_append, hnone, Bool.or_false]
  unfold Char.isAlphanum Char.isAlpha Char.isUpper Char.isLower Char.isDigit
  simp only [List.any_cons, List.any_nil, Bool.or_false]
  grind

/-- The blanks as ranges of code points. -/
def blankRanges : List (Nat × Nat) :=
  [(0x09, 0x0D), (0x20, 0x20), (0x85, 0x85), (0xA0, 0xA0), (0x1680, 0x1680), (0x2000, 0x200A),
   (0x2028, 0x2029), (0x202F, 0x202F), (0x205F, 0x205F), (0x3000, 0x3000)]

theorem exists_mem_blankRanges {c : Char} (h : TokenAuth.isBlank c = true) :
    ∃ blanks ∈ blankRanges, blanks.1 ≤ c.toNat ∧ c.toNat ≤ blanks.2 := by
  simp only [TokenAuth.isBlank, UInt32.le_iff_toNat_le, ← UInt32.toNat_inj, UInt32.reduceToNat,
    Char.toNat_val, Bool.or_eq_true, Bool.and_eq_true, decide_eq_true_eq, beq_iff_eq] at h
  simp only [blankRanges, List.mem_cons, List.not_mem_nil, or_false, exists_eq_or_imp,
    exists_eq_left]
  omega

theorem toNat_le_of_isBlank {c : Char} (h : TokenAuth.isBlank c = true) : c.toNat ≤ 0x3000 := by
  obtain ⟨blanks, hblanks, -, hle⟩ := exists_mem_blankRanges h
  have hall : ∀ blanks ∈ blankRanges, blanks.2 ≤ 0x3000 := by decide
  exact hle.trans (hall blanks hblanks)

theorem isBlank_of_isAlphanumeric {c : Char} (h : isAlphanumeric c = true) :
    TokenAuth.isBlank c = false := by
  -- most of the table lies beyond all blanks, which leaves few pairs of ranges to compare
  have hapart : alphanumericRanges.all (fun range => 0x3000 < range.1.toNat ∨
      ∀ blanks ∈ blankRanges, blanks.2 < range.1.toNat ∨ range.2.toNat < blanks.1) = true := by
    decide +kernel
  obtain ⟨range, hrange, hin⟩ := List.any_eq_true.mp h
  simp only [Bool.and_eq_true, decide_eq_true_eq, UInt32.le_iff_toNat_le, Char.toNat_val] at hin
  by_contra hblank
  rw [Bool.not_eq_false] at hblank
  have hle := toNat_le_of_isBlank hblank
  obtain ⟨blanks, hblanks, hwithin⟩ := exists_mem_blankRanges hblank
  rcases decide_eq_true_eq.mp (List.all_eq_true.mp hapart range hrange) with hbeyond | hbeside
  · omega
  · have hblanksBeside := hbeside blanks hblanks
    omega

theorem isBlank_of_isTwoByteLike {c : Char} (h : isTwoByteLike c = true) :
    TokenAuth.isBlank c = false := by
  simp only [isTwoByteLike, Bool.and_eq_true, decide_eq_true_eq] at h
  by_contra hblank
  have hle := toNat_le_of_isBlank (Bool.not_eq_false _ ▸ hblank)
  omega

/-- The marks that may stand in an atom. -/
def marks : List Char := "!#$%&'*+-/=?^_`{|}~".toList

theorem isAtomChar_eq (c : Char) :
    isAtomChar c = (isAlphanumeric c || marks.contains c || isTwoByteLike c) := rfl

theorem isBlank_of_mem_marks {c : Char} (h : c ∈ marks) : TokenAuth.isBlank c = false := by
  have hall : marks.all (fun c => !TokenAuth.isBlank c) = true := by decide
  exact (Bool.not_eq_true' _).mp (List.all_eq_true.mp hall c h)

theorem isBlank_of_isAtomChar {c : Char} (h : isAtomChar c = true) :
    TokenAuth.isBlank c = false := by
  simp only [isAtomChar_eq, Bool.or_eq_true, List.contains_iff_mem] at h
  rcases h with (hletter | hmark) | htwo
  · exact isBlank_of_isAlphanumeric hletter
  · exact isBlank_of_mem_marks hmark
  · exact isBlank_of_isTwoByteLike htwo

/-- The characters that have a meaning of their own in an address. -/
def specials : List Char := "()<>[]:;@\\,.\"".toList

theorem isAtomChar_of_mem_specials {c : Char} (h : c ∈ specials) : isAtomChar c = false := by
  have hascii : specials.all (fun c => c.toNat < 0x80) = true := by decide
  have hnone : specials.all (fun c => !(c.isAlphanum || marks.contains c || isTwoByteLike c)) =
      true := by
    decide
  rw [isAtomChar_eq,
    isAlphanumeric_eq_isAlphanum (decide_eq_true_eq.mp (List.all_eq_true.mp hascii c h))]
  exact (Bool.not_eq_true' _).mp (List.all_eq_true.mp hnone c h)

theorem ne_of_isAtomChar {c d : Char} (h : isAtomChar c = true) (hd : isAtomChar d = false) :
    c ≠ d := by
  rintro rfl
  rw [h] at hd
  exact nomatch hd

/-! ### Local parts -/

def Atom (cs : List Char) : Prop := cs ≠ [] ∧ ∀ c ∈ cs, isAtomChar c = true

/-- Atoms with dots between them. -/
def DotAtom (cs : List Char) : Prop :=
  ∃ atoms, atoms ≠ [] ∧ (∀ atom ∈ atoms, Atom atom) ∧ cs = ['.'].intercalate atoms

/-- What may stand between quotes: characters that stand for themselves, and visible ones after a
backslash. -/
inductive QuotedContent : List Char → Prop
  | nil : QuotedContent []
  | plain {c : Char} {cs : List Char} : isQuotedChar c = true → QuotedContent cs →
      QuotedContent (c :: cs)
  | escaped {c : Char} {cs : List Char} : isVisible c = true → QuotedContent cs →
      QuotedContent ('\\' :: c :: cs)

/-- Content between quotes. -/
def QuotedString (cs : List Char) : Prop :=
  ∃ content, content ≠ [] ∧ QuotedContent content ∧ cs = '"' :: (content ++ ['"'])

structure LocalPart (cs : List Char) : Prop where
  form : DotAtom cs ∨ QuotedString cs
  size : byteSize cs ≤ 64

/-! ### Domains -/

/-- A label of a domain name. -/
structure Label (cs : List Char) : Prop where
  atom : Atom cs
  first : ∀ c ∈ cs.head?, isAlphanumeric c = true
  last : ∀ c ∈ cs.getLast?, isAlphanumeric c = true
  size : byteSize cs ≤ 63

/-- Labels with dots between them. -/
def DomainName (cs : List Char) : Prop :=
  ∃ labels, labels ≠ [] ∧ (∀ label ∈ labels, Label label) ∧ cs = ['.'].intercalate labels

/-- Content between square brackets. -/
def Literal (cs : List Char) : Prop :=
  ∃ content, (∀ c ∈ content, isLiteralChar c = true) ∧ cs = '[' :: (content ++ [']'])

structure DomainPart (cs : List Char) : Prop where
  form : DomainName cs ∨ Literal cs
  size : byteSize cs ≤ 254

/-- A local part and a domain with an at sign between them, the last one. -/
def Bare (cs : List Char) : Prop :=
  ∃ name domain, cs = name ++ '@' :: domain ∧ '@' ∉ domain ∧ LocalPart name ∧ DomainPart domain

/-! ### What the checks decide -/

theorem require_eq_ok_iff {b : Bool} {fault : AddressFault} :
    require b fault = .ok () ↔ b = true := by
  cases b <;> simp [require]

theorem isAtom_iff {cs : List Char} : isAtom cs = true ↔ Atom cs := by
  simp [isAtom, Atom]

theorem Atom.not_mem {cs : List Char} {c : Char} (h : Atom cs) (hc : isAtomChar c = false) :
    c ∉ cs :=
  fun hmem => ne_of_isAtomChar (h.2 c hmem) hc rfl

theorem isDotAtom_iff {cs : List Char} : isDotAtom cs = true ↔ DotAtom cs := by
  have hdot : isAtomChar '.' = false := isAtomChar_of_mem_specials (by decide)
  rw [isDotAtom, List.all_eq_true, DotAtom]
  simp only [isAtom_iff]
  exact Text.forall_mem_splitOn_iff fun part h => h.not_mem hdot

theorem isQuotedContent_iff {cs : List Char} : isQuotedContent cs = true ↔ QuotedContent cs := by
  constructor
  · intro h
    induction cs using isQuotedContent.induct with
    | case1 => exact .nil
    | case2 c cs ih =>
      rw [isQuotedContent, Bool.and_eq_true] at h
      exact .escaped h.1 (ih h.2)
    | case3 c cs hnot ih =>
      rw [isQuotedContent.eq_3 c cs hnot, Bool.and_eq_true] at h
      exact .plain h.1 (ih h.2)
  · intro h
    induction h with
    | nil => rfl
    | @plain c cs hc _ ih =>
      -- a backslash does not stand for itself, so the case of an escaped character is not this one
      have hslash : c ≠ '\\' := by
        rintro rfl
        exact absurd hc (by decide)
      rw [isQuotedContent.eq_3 c cs fun d ds heq => absurd heq hslash, hc, ih]
      rfl
    | escaped hc _ ih =>
      rw [isQuotedContent, hc, ih]
      rfl

theorem between?_eq_some_iff {first last : Char} {cs content : List Char} :
    between? first last cs = some content ↔
      cs = first :: (content ++ [last]) ∨ first = last ∧ cs = [first] ∧ content = [] := by
  rw [between?]
  constructor
  · intro h
    split at h
    · next hends =>
      obtain rfl := Option.some.inj h
      cases cs with
      | nil => exact nomatch hends.1
      | cons c cs =>
        obtain rfl : c = first := Option.some.inj hends.1
        cases cs with
        | nil => exact .inr ⟨Option.some.inj hends.2, rfl, rfl⟩
        | cons d cs =>
          have hlast : (d :: cs).getLast? = some last := by
            rw [← hends.2, List.getLast?_cons_cons]
          exact .inl (congrArg (c :: ·) (List.dropLast_append_getLast? last hlast).symm)
    · exact nomatch h
  · rintro (rfl | ⟨rfl, rfl, rfl⟩)
    · have hlast : (first :: (content ++ [last])).getLast? = some last := by
        rw [← List.cons_append, List.getLast?_concat]
      rw [if_pos ⟨rfl, hlast⟩, List.drop_one, List.tail_cons, List.dropLast_concat]
    · exact if_pos ⟨rfl, rfl⟩

theorem between?_eq_none_of_head {first last : Char} {cs : List Char}
    (h : ∀ c ∈ cs.head?, c ≠ first) : between? first last cs = none :=
  if_neg fun hends => h first hends.1 rfl

theorem DotAtom.ne_nil {cs : List Char} (h : DotAtom cs) : cs ≠ [] := by
  obtain ⟨atoms, hne, hatoms, rfl⟩ := h
  exact Text.intercalate_ne_nil hne fun atom hatom => (hatoms atom hatom).1

theorem DotAtom.head? {cs : List Char} (h : DotAtom cs) : ∀ c ∈ cs.head?, isAtomChar c = true := by
  obtain ⟨atoms, -, hatoms, rfl⟩ := h
  intro c hc
  obtain ⟨atom, hatom, hhead⟩ :=
    Text.exists_mem_head?_intercalate (fun atom hatom => (hatoms atom hatom).1) c hc
  exact (hatoms atom hatom).2 c (List.mem_of_mem_head? hhead)

/-- **The check of a local part decides its grammar.** -/
theorem checkLocal_eq_ok_iff {cs : List Char} : checkLocal cs = .ok () ↔ LocalPart cs := by
  have hquote : isAtomChar '"' = false := isAtomChar_of_mem_specials (by decide)
  rw [checkLocal]
  constructor
  · intro h
    split at h
    · exact nomatch h
    split at h
    · exact nomatch h
    next hsize =>
    refine ⟨?_, Nat.le_of_not_lt hsize⟩
    split at h
    · next content hcontent =>
      split at h
      · exact nomatch h
      next hlength =>
      rw [require_eq_ok_iff, isQuotedContent_iff] at h
      rcases between?_eq_some_iff.mp hcontent with rfl | ⟨-, rfl, -⟩
      · refine .inr ⟨content, ?_, h, rfl⟩
        rintro rfl
        exact hlength (by decide)
      · exact absurd (by decide) hlength
    · exact .inl (isDotAtom_iff.mp (require_eq_ok_iff.mp h))
  · rintro ⟨hform, hsize⟩
    rcases hform with hatom | ⟨content, hne, hcontent, rfl⟩
    · have hnone : between? '"' '"' cs = none :=
        between?_eq_none_of_head fun c hc => ne_of_isAtomChar (hatom.head? c hc) hquote
      rw [if_neg (mt List.isEmpty_iff.mp hatom.ne_nil), if_neg (Nat.not_lt_of_le hsize), hnone]
      exact require_eq_ok_iff.mpr (isDotAtom_iff.mpr hatom)
    · have hlength : ¬('"' :: (content ++ ['"'])).length ≤ 2 := by
        have hpos := List.length_pos_iff.mpr hne
        rw [List.length_cons, List.length_append, List.length_singleton]
        omega
      rw [if_neg (by simp), if_neg (Nat.not_lt_of_le hsize), between?_eq_some_iff.mpr (.inl rfl)]
      simp only [hlength, if_false]
      exact require_eq_ok_iff.mpr (isQuotedContent_iff.mpr hcontent)

theorem checkLabel_eq_ok_iff {cs : List Char} : checkLabel cs = .ok () ↔ Label cs := by
  simp only [checkLabel, andThen_eq_ok_iff, require_eq_ok_iff, isAtom_iff, Bool.and_eq_true,
    decide_eq_true_eq]
  constructor
  · rintro ⟨-, ⟨hfirst, hlast⟩, hsize, hatom⟩
    refine ⟨hatom, fun c hc => ?_, fun c hc => ?_, hsize⟩
    · rwa [Option.mem_def.mp hc] at hfirst
    · rwa [Option.mem_def.mp hc] at hlast
  · rintro ⟨hatom, hfirst, hlast, hsize⟩
    refine ⟨by simpa using hatom.1, ⟨?_, ?_⟩, hsize, hatom⟩
    · rw [List.head?_eq_some_head hatom.1] at hfirst ⊢
      exact hfirst _ rfl
    · rw [List.getLast?_eq_some_getLast hatom.1] at hlast ⊢
      exact hlast _ rfl

theorem isAtomChar_of_isAlphanumeric {c : Char} (h : isAlphanumeric c = true) :
    isAtomChar c = true := by
  rw [isAtomChar, h]
  rfl

theorem DomainName.ne_nil {cs : List Char} (h : DomainName cs) : cs ≠ [] := by
  obtain ⟨labels, hne, hlabels, rfl⟩ := h
  exact Text.intercalate_ne_nil hne fun label hlabel => (hlabels label hlabel).atom.1

theorem DomainName.head? {cs : List Char} (h : DomainName cs) :
    ∀ c ∈ cs.head?, isAlphanumeric c = true := by
  obtain ⟨labels, -, hlabels, rfl⟩ := h
  intro c hc
  obtain ⟨label, hlabel, hhead⟩ :=
    Text.exists_mem_head?_intercalate (fun label hlabel => (hlabels label hlabel).atom.1) c hc
  exact (hlabels label hlabel).first c hhead

theorem DomainName.getLast? {cs : List Char} (h : DomainName cs) :
    ∀ c ∈ cs.getLast?, isAlphanumeric c = true := by
  obtain ⟨labels, -, hlabels, rfl⟩ := h
  intro c hc
  obtain ⟨label, hlabel, hlast⟩ :=
    Text.exists_mem_getLast?_intercalate (fun label hlabel => (hlabels label hlabel).atom.1) c hc
  exact (hlabels label hlabel).last c hlast

theorem forM_checkLabel_eq_ok_iff {cs : List Char} :
    (Text.splitOn (· == '.') cs).forM checkLabel = .ok () ↔ DomainName cs := by
  have hdot : isAtomChar '.' = false := isAtomChar_of_mem_specials (by decide)
  rw [forM_eq_ok_iff, DomainName]
  simp only [checkLabel_eq_ok_iff]
  exact Text.forall_mem_splitOn_iff fun label h => h.atom.not_mem hdot

/-- **The check of a domain decides its grammar.** -/
theorem checkDomain_eq_ok_iff {cs : List Char} : checkDomain cs = .ok () ↔ DomainPart cs := by
  have hbracket : isAtomChar '[' = false := isAtomChar_of_mem_specials (by decide)
  rw [checkDomain]
  constructor
  · intro h
    split at h
    · exact nomatch h
    split at h
    · exact nomatch h
    next hsize =>
    refine ⟨?_, Nat.le_of_not_lt hsize⟩
    split at h
    · next content hcontent =>
      rw [require_eq_ok_iff, List.all_eq_true] at h
      rcases between?_eq_some_iff.mp hcontent with rfl | ⟨hsame, -, -⟩
      · exact .inr ⟨content, h, rfl⟩
      · exact absurd hsame (by decide)
    · exact .inl (forM_checkLabel_eq_ok_iff.mp h)
  · rintro ⟨hform, hsize⟩
    rcases hform with hname | ⟨content, hcontent, rfl⟩
    · have hnone : between? '[' ']' cs = none :=
        between?_eq_none_of_head fun c hc =>
          ne_of_isAtomChar (isAtomChar_of_isAlphanumeric (hname.head? c hc)) hbracket
      rw [if_neg (mt List.isEmpty_iff.mp hname.ne_nil), if_neg (Nat.not_lt_of_le hsize), hnone]
      exact forM_checkLabel_eq_ok_iff.mpr hname
    · rw [if_neg (by simp), if_neg (Nat.not_lt_of_le hsize), between?_eq_some_iff.mpr (.inl rfl)]
      exact require_eq_ok_iff.mpr (List.all_eq_true.mpr hcontent)

end Address

end TokenAuth
