import Mathlib.Data.List.Infix
import TokenAuth.Text.Split

/-!
# Parts between separators

A list splits into the parts between its separators, and parts without separators that are put
together with separators between them are what the list splits into again. A list also splits at the
last place where a separator of one member or more stands.
-/

namespace TokenAuth.Text

variable {α : Type}

theorem splitOn_cons_of_sep {p : α → Bool} {c : α} (h : p c = true) (cs : List α) :
    splitOn p (c :: cs) = [] :: splitOn p cs := by
  rw [splitOn, if_pos h]

theorem splitOn_eq_singleton {p : α → Bool} {cs : List α} (h : ∀ c ∈ cs, p c = false) :
    splitOn p cs = [cs] := by
  induction cs with
  | nil => rfl
  | cons c cs ih =>
    have hrest := ih fun d hd => h d (List.mem_cons_of_mem _ hd)
    rw [splitOn, h c List.mem_cons_self, hrest, if_neg Bool.false_ne_true]

/-- What stands before the first separator is the first part. -/
theorem splitOn_append_cons {p : α → Bool} {before : List α} {x : α}
    (h : ∀ c ∈ before, p c = false) (hx : p x = true) (after : List α) :
    splitOn p (before ++ x :: after) = before :: splitOn p after := by
  induction before with
  | nil => exact splitOn_cons_of_sep hx after
  | cons c before ih =>
    have hrest := ih fun d hd => h d (List.mem_cons_of_mem _ hd)
    rw [List.cons_append, splitOn, h c List.mem_cons_self, hrest, if_neg Bool.false_ne_true]

theorem length_splitOn (p : α → Bool) (cs : List α) :
    (splitOn p cs).length = cs.countP p + 1 := by
  induction cs with
  | nil => rfl
  | cons c cs ih =>
    obtain ⟨first, parts, hsplit⟩ := List.exists_cons_of_ne_nil (splitOn_ne_nil p cs)
    rw [hsplit, List.length_cons] at ih
    cases hc : p c with
    | true => simp [splitOn, hc, hsplit, ih]
    | false => simp [splitOn, hc, hsplit, ih]

variable [BEq α] [LawfulBEq α] {x : α}

theorem splitOn_eq_singleton_iff {cs part : List α} :
    splitOn (· == x) cs = [part] ↔ cs = part ∧ x ∉ part := by
  constructor
  · intro h
    induction cs generalizing part with
    | nil =>
      obtain rfl : [] = part := by simpa [splitOn] using h
      simp
    | cons c cs ih =>
      rw [splitOn] at h
      split at h
      · exact absurd (List.cons.inj h).2 (splitOn_ne_nil _ _)
      · next hc =>
        obtain ⟨first, parts, hsplit⟩ := List.exists_cons_of_ne_nil (splitOn_ne_nil (· == x) cs)
        simp only [hsplit, List.cons.injEq] at h
        obtain ⟨rfl, rfl⟩ := h
        obtain ⟨rfl, hfirst⟩ := ih hsplit
        have hne : x ≠ c := fun heq => hc (beq_iff_eq.mpr heq.symm)
        exact ⟨rfl, by simp [hne, hfirst]⟩
  · rintro ⟨rfl, hx⟩
    apply splitOn_eq_singleton
    intro c hc
    exact beq_eq_false_iff_ne.mpr fun heq => hx (heq ▸ hc)

theorem splitOn_eq_cons_cons_iff {cs first second : List α} {parts : List (List α)} :
    splitOn (· == x) cs = first :: second :: parts ↔
      ∃ after, cs = first ++ x :: after ∧ x ∉ first ∧
        splitOn (· == x) after = second :: parts := by
  constructor
  · intro h
    induction cs generalizing first with
    | nil => simp [splitOn] at h
    | cons c cs ih =>
      rw [splitOn] at h
      split at h
      · next hc =>
        obtain ⟨rfl, hafter⟩ := List.cons.inj h
        exact ⟨cs, by rw [beq_iff_eq.mp hc]; rfl, List.not_mem_nil, hafter⟩
      · next hc =>
        obtain ⟨head, rest, hsplit⟩ := List.exists_cons_of_ne_nil (splitOn_ne_nil (· == x) cs)
        simp only [hsplit, List.cons.injEq] at h
        obtain ⟨rfl, rfl⟩ := h
        obtain ⟨after, rfl, hhead, hafter⟩ := ih hsplit
        have hne : x ≠ c := fun heq => hc (beq_iff_eq.mpr heq.symm)
        exact ⟨after, rfl, by simp [hne, hhead], hafter⟩
  · rintro ⟨after, rfl, hfirst, hafter⟩
    rw [splitOn_append_cons, hafter]
    · intro c hc
      exact beq_eq_false_iff_ne.mpr fun heq => hfirst (heq ▸ hc)
    · exact beq_self_eq_true x

/-- **Three parts** are a list with two separators in it. -/
theorem splitOn_eq_three_iff {cs a b c : List α} :
    splitOn (· == x) cs = [a, b, c] ↔
      cs = a ++ x :: (b ++ x :: c) ∧ x ∉ a ∧ x ∉ b ∧ x ∉ c := by
  simp only [splitOn_eq_cons_cons_iff, splitOn_eq_singleton_iff]
  constructor
  · rintro ⟨_, rfl, ha, _, rfl, hb, rfl, hc⟩
    exact ⟨rfl, ha, hb, hc⟩
  · rintro ⟨rfl, ha, hb, hc⟩
    exact ⟨_, rfl, ha, _, rfl, hb, rfl, hc⟩

/-- **Splitting is putting together undone.** The parts are those that give the list again with
separators between them, and that have none in them. -/
theorem splitOn_eq_iff {cs : List α} {parts : List (List α)} :
    splitOn (· == x) cs = parts ↔
      parts ≠ [] ∧ cs = [x].intercalate parts ∧ ∀ part ∈ parts, x ∉ part := by
  induction parts generalizing cs with
  | nil => simp [splitOn_ne_nil]
  | cons first parts ih =>
    cases parts with
    | nil => simp [splitOn_eq_singleton_iff]
    | cons second parts =>
      simp only [splitOn_eq_cons_cons_iff, ih, List.intercalate_cons_cons, List.append_assoc,
        List.singleton_append, ne_eq, reduceCtorEq, not_false_eq_true, true_and,
        List.forall_mem_cons]
      constructor
      · rintro ⟨after, rfl, hfirst, rfl, hparts⟩
        exact ⟨rfl, hfirst, hparts⟩
      · rintro ⟨rfl, hfirst, hparts⟩
        exact ⟨_, rfl, hfirst, rfl, hparts⟩

omit [BEq α] [LawfulBEq α] in
theorem not_mem_intercalate {c : α} (hc : c ≠ x) {parts : List (List α)}
    (h : ∀ part ∈ parts, c ∉ part) : c ∉ [x].intercalate parts := by
  induction parts with
  | nil => simp
  | cons first parts ih =>
    rw [List.forall_mem_cons] at h
    cases parts with
    | nil => simpa using h.1
    | cons second parts =>
      rw [List.intercalate_cons_cons]
      simp only [List.mem_append, List.mem_singleton, not_or]
      exact ⟨⟨h.1, hc⟩, ih h.2⟩

section Ends

omit [BEq α] [LawfulBEq α]

variable {parts : List (List α)}

theorem intercalate_ne_nil (h : parts ≠ []) (hne : ∀ part ∈ parts, part ≠ []) :
    [x].intercalate parts ≠ [] := by
  cases parts with
  | nil => exact absurd rfl h
  | cons first parts =>
    have hfirst := hne first List.mem_cons_self
    cases parts with
    | nil => simpa using hfirst
    | cons second parts => simp [List.intercalate_cons_cons]

/-- What begins the list begins a part. -/
theorem exists_mem_head?_intercalate (hne : ∀ part ∈ parts, part ≠ []) :
    ∀ c ∈ ([x].intercalate parts).head?, ∃ part ∈ parts, c ∈ part.head? := by
  cases parts with
  | nil => simp
  | cons first parts =>
    intro c hc
    refine ⟨first, List.mem_cons_self, ?_⟩
    cases parts with
    | nil => simpa using hc
    | cons second parts =>
      obtain ⟨d, rest, hfirst⟩ := List.exists_cons_of_ne_nil (hne first List.mem_cons_self)
      rw [List.intercalate_cons_cons, hfirst] at hc
      rw [hfirst]
      exact hc

/-- What ends the list ends a part. -/
theorem exists_mem_getLast?_intercalate (hne : ∀ part ∈ parts, part ≠ []) :
    ∀ c ∈ ([x].intercalate parts).getLast?, ∃ part ∈ parts, c ∈ part.getLast? := by
  induction parts with
  | nil => simp
  | cons first parts ih =>
    cases parts with
    | nil => simp
    | cons second parts =>
      intro c hc
      have hrest : [x].intercalate (second :: parts) ≠ [] :=
        intercalate_ne_nil (List.cons_ne_nil _ _) fun part hpart =>
          hne part (List.mem_cons_of_mem _ hpart)
      rw [List.intercalate_cons_cons, List.getLast?_append_of_ne_nil _ hrest] at hc
      obtain ⟨part, hpart, hlast⟩ := ih (fun part hpart => hne part (List.mem_cons_of_mem _ hpart))
        c hc
      exact ⟨part, List.mem_cons_of_mem _ hpart, hlast⟩

end Ends

/-! ### The last separator -/

variable {separator : List α}

theorem splitLast?_none_iff_absent (hne : separator ≠ []) {cs : List α} :
    splitLast? separator cs = none ↔ ¬separator <:+: cs := by
  induction cs with
  | nil => simp [splitLast?, hne]
  | cons c cs ih =>
    rw [List.infix_cons_iff, splitLast?]
    cases hsplit : splitLast? separator cs with
    | some parts =>
      have hstands : separator <:+: cs := by
        by_contra hnot
        rw [ih.mpr hnot] at hsplit
        exact nomatch hsplit
      simp [hstands]
    | none =>
      have hnot : ¬separator <:+: cs := ih.mp hsplit
      simp [hnot]

/-- A list splits at the last place where the separator stands. -/
theorem splitLast?_some_iff_last (hne : separator ≠ []) {cs before after : List α} :
    splitLast? separator cs = some (before, after) ↔
      cs = before ++ (separator ++ after) ∧ ¬separator <:+: (separator ++ after).tail := by
  induction cs generalizing before after with
  | nil => simp [splitLast?, hne]
  | cons c cs ih =>
    rw [splitLast?]
    -- Beyond the head of the list, where it stands is where it stands in the tail.
    have hlater {before : List α} (d : α) (hcons : c :: cs = d :: before ++ (separator ++ after)) :
        separator <:+: cs := by
      rw [(List.cons.inj hcons).2]
      exact ⟨before, after, List.append_assoc before separator after⟩
    cases hsplit : splitLast? separator cs with
    | some parts =>
      obtain ⟨b, a⟩ := parts
      obtain ⟨hcs, hnot⟩ := ih.mp hsplit
      simp only [Option.some.injEq, Prod.mk.injEq]
      constructor
      · rintro ⟨rfl, rfl⟩
        exact ⟨congrArg (c :: ·) hcs, hnot⟩
      · rintro ⟨hcons, hafter⟩
        cases before with
        | nil =>
          rw [List.nil_append] at hcons
          rw [← hcons, List.tail_cons, hcs] at hafter
          exact absurd ⟨b, a, List.append_assoc b separator a⟩ hafter
        | cons d before =>
          obtain ⟨rfl, hrest⟩ := List.cons.inj hcons
          have heq := ih.mpr ⟨hrest, hafter⟩
          rw [hsplit, Option.some.injEq, Prod.mk.injEq] at heq
          exact ⟨by rw [heq.1], heq.2⟩
    | none =>
      have hnone : ¬separator <:+: cs := (splitLast?_none_iff_absent hne).mp hsplit
      by_cases hprefix : separator <+: c :: cs
      · obtain ⟨rest, hrest⟩ := hprefix
        rw [← hrest, if_pos (List.isPrefixOf_iff_prefix.mpr (List.prefix_append _ _)),
          List.drop_left, Option.some.injEq, Prod.mk.injEq]
        constructor
        · rintro ⟨rfl, rfl⟩
          exact ⟨rfl, by rwa [hrest, List.tail_cons]⟩
        · rintro ⟨hcons, -⟩
          rw [hrest] at hcons
          cases before with
          | nil => exact ⟨rfl, List.append_cancel_left (hrest.trans hcons)⟩
          | cons d before => exact absurd (hlater d hcons) hnone
      · rw [if_neg (mt List.isPrefixOf_iff_prefix.mp hprefix)]
        simp only [reduceCtorEq, false_iff, not_and]
        intro hcons
        cases before with
        | nil => exact absurd ⟨after, hcons.symm⟩ hprefix
        | cons d before => exact absurd (hlater d hcons) hnone

theorem splitLast?_eq_none_iff {cs : List α} : splitLast? [x] cs = none ↔ x ∉ cs := by
  rw [splitLast?_none_iff_absent (List.cons_ne_nil x []), List.singleton_infix_iff]

/-- A list splits at the last place where a separator of one member stands. -/
theorem splitLast?_eq_some_iff {cs before after : List α} :
    splitLast? [x] cs = some (before, after) ↔ cs = before ++ x :: after ∧ x ∉ after := by
  rw [splitLast?_some_iff_last (List.cons_ne_nil x []), List.singleton_append, List.tail_cons,
    List.singleton_infix_iff]

/-- Two members that differ stand apart from their own second place. -/
theorem splitLast?_pair_iff {y : α} (hxy : x ≠ y) {cs before after : List α} :
    splitLast? [x, y] cs = some (before, after) ↔
      cs = before ++ x :: y :: after ∧ ¬[x, y] <:+: after := by
  rw [splitLast?_some_iff_last (List.cons_ne_nil x [y])]
  simp [List.infix_cons_iff, hxy]

/-! ### Parts that are not empty -/

/-- The parts between separators that are not empty. -/
def words (x : α) (cs : List α) : List (List α) :=
  (splitOn (· == x) cs).filter fun part => !part.isEmpty

theorem words_cons_self (x : α) (cs : List α) : words x (x :: cs) = words x cs := by
  simp [words, splitOn]

theorem words_replicate_append (n : Nat) (cs : List α) :
    words x (List.replicate n x ++ cs) = words x cs := by
  induction n with
  | zero => rfl
  | succ n ih => rw [List.replicate_succ, List.cons_append, words_cons_self, ih]

theorem words_of_not_mem {word : List α} (hne : word ≠ []) (hx : x ∉ word) :
    words x word = [word] := by
  rw [words, splitOn_eq_singleton_iff.mpr ⟨rfl, hx⟩]
  simp [hne]

theorem words_append_cons {word : List α} (hne : word ≠ []) (hx : x ∉ word) (after : List α) :
    words x (word ++ x :: after) = word :: words x after := by
  have hnone : ∀ c ∈ word, (c == x) = false := by
    intro c hc
    exact beq_eq_false_iff_ne.mpr fun heq => hx (heq ▸ hc)
  have hsplit : splitOn (· == x) (word ++ x :: after) = word :: splitOn (· == x) after :=
    splitOn_append_cons hnone (beq_self_eq_true x) after
  simp [words, hsplit, hne]

theorem words_eq_nil_iff {cs : List α} : words x cs = [] ↔ ∃ n, cs = List.replicate n x := by
  constructor
  · intro h
    induction cs with
    | nil => exact ⟨0, rfl⟩
    | cons c cs ih =>
      by_cases hc : c = x
      · subst hc
        rw [words_cons_self] at h
        obtain ⟨n, hn⟩ := ih h
        exact ⟨n + 1, by rw [hn, List.replicate_succ]⟩
      · obtain ⟨first, parts, hsplit⟩ := List.exists_cons_of_ne_nil (splitOn_ne_nil (· == x) cs)
        simp [words, splitOn, hc, hsplit] at h
  · rintro ⟨n, rfl⟩
    have h := words_replicate_append (x := x) n []
    rw [List.append_nil] at h
    rw [h]
    rfl

/-- A first part stands after separators, and at the end or before a separator. -/
theorem words_eq_cons_iff {cs word : List α} {rest : List (List α)} :
    words x cs = word :: rest ↔ word ≠ [] ∧ x ∉ word ∧ ∃ n,
      cs = List.replicate n x ++ word ∧ rest = [] ∨
        ∃ after, cs = List.replicate n x ++ word ++ x :: after ∧ words x after = rest := by
  constructor
  · intro h
    induction cs with
    | nil => exact nomatch h
    | cons c cs ih =>
      by_cases hc : c = x
      · subst hc
        rw [words_cons_self] at h
        obtain ⟨hne, hx, n, hform⟩ := ih h
        refine ⟨hne, hx, n + 1, ?_⟩
        simpa [List.replicate_succ] using hform
      · -- The list begins with a part that is not empty, so that is the first one.
        cases hsplit : splitOn (· == x) (c :: cs) with
        | nil => exact absurd hsplit (splitOn_ne_nil _ _)
        | cons first parts =>
          have hfirst : first ≠ [] := by
            rintro rfl
            obtain ⟨tail, more, htail⟩ := List.exists_cons_of_ne_nil (splitOn_ne_nil (· == x) cs)
            simp [splitOn, hc, htail] at hsplit
          have hword : first = word ∧ parts.filter (fun part => !part.isEmpty) = rest := by
            simpa [words, hsplit, hfirst] using h
          obtain ⟨rfl, rfl⟩ := hword
          cases parts with
          | nil =>
            obtain ⟨hcs, hx⟩ := splitOn_eq_singleton_iff.mp hsplit
            exact ⟨hfirst, hx, 0, .inl ⟨hcs, rfl⟩⟩
          | cons second parts =>
            obtain ⟨after, hcs, hx, hafter⟩ := splitOn_eq_cons_cons_iff.mp hsplit
            exact ⟨hfirst, hx, 0, .inr ⟨after, hcs, by rw [words, hafter]⟩⟩
  · rintro ⟨hne, hx, n, ⟨rfl, rfl⟩ | ⟨after, rfl, rfl⟩⟩
    · rw [words_replicate_append, words_of_not_mem hne hx]
    · rw [List.append_assoc, words_replicate_append, words_append_cons hne hx]

/-- **Three parts that are not empty** have separators between them, and may have more around
them. -/
theorem words_eq_three_iff {cs a b c : List α} :
    words x cs = [a, b, c] ↔ (a ≠ [] ∧ x ∉ a) ∧ (b ≠ [] ∧ x ∉ b) ∧ (c ≠ [] ∧ x ∉ c) ∧
      ∃ i j k l, cs = List.replicate i x ++ a ++ List.replicate (j + 1) x ++ b ++
        List.replicate (k + 1) x ++ c ++ List.replicate l x := by
  constructor
  · intro h
    obtain ⟨ha, hxa, i, ⟨-, hnil⟩ | ⟨second, rfl, hbc⟩⟩ := words_eq_cons_iff.mp h
    · exact nomatch hnil
    obtain ⟨hb, hxb, j, ⟨-, hnil⟩ | ⟨third, rfl, hlast⟩⟩ := words_eq_cons_iff.mp hbc
    · exact nomatch hnil
    obtain ⟨hc, hxc, k, ⟨rfl, -⟩ | ⟨after, rfl, hend⟩⟩ := words_eq_cons_iff.mp hlast
    · refine ⟨⟨ha, hxa⟩, ⟨hb, hxb⟩, ⟨hc, hxc⟩, i, j, k, 0, ?_⟩
      simp [List.replicate_succ]
    · obtain ⟨l, rfl⟩ := words_eq_nil_iff.mp hend
      refine ⟨⟨ha, hxa⟩, ⟨hb, hxb⟩, ⟨hc, hxc⟩, i, j, k, l + 1, ?_⟩
      simp [List.replicate_succ]
  · rintro ⟨⟨ha, hxa⟩, ⟨hb, hxb⟩, ⟨hc, hxc⟩, i, j, k, l, rfl⟩
    have hend : words x (c ++ List.replicate l x) = [c] := by
      cases l with
      | zero => rw [List.replicate_zero, List.append_nil, words_of_not_mem hc hxc]
      | succ l =>
        rw [List.replicate_succ, words_append_cons hc hxc, words_eq_nil_iff.mpr ⟨l, rfl⟩]
    simp only [List.append_assoc, List.replicate_succ, List.cons_append,
      words_replicate_append, words_append_cons ha hxa, words_append_cons hb hxb, hend]

end TokenAuth.Text
