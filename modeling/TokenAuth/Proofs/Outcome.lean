/-!
# Steps that may fail

When a computation that may fail succeeds, and with what: of two steps in order, of one whose error
is renamed, and of a list that is read item by item.
-/

namespace TokenAuth.Outcome

variable {ε ε' α β : Type}

theorem bind_eq_ok_iff {x : Except ε α} {f : α → Except ε β} {b : β} :
    (x >>= f) = .ok b ↔ ∃ a, x = .ok a ∧ f a = .ok b := by
  cases x <;> simp [Bind.bind, Except.bind]

theorem andThen_eq_ok_iff {x : Except ε Unit} {y : Except ε β} {b : β} :
    (x >>= fun _ => y) = .ok b ↔ x = .ok () ∧ y = .ok b := by
  cases x <;> simp [Bind.bind, Except.bind]

theorem bind_eq_error_iff {x : Except ε α} {f : α → Except ε β} {e : ε} :
    x >>= f = .error e ↔ x = .error e ∨ ∃ a, x = .ok a ∧ f a = .error e := by
  cases x <;> simp [bind, Except.bind]

theorem map_eq_ok_iff {x : Except ε α} {f : α → β} {b : β} :
    x.map f = .ok b ↔ ∃ a, x = .ok a ∧ f a = b := by
  cases x <;> simp [Except.map]

theorem map_eq_ok_iff_exists {ι : Type} {x : Except ε α} {f : α → β} {b : β} {p : ι → Prop}
    {form : ι → α} (hx : ∀ a, x = .ok a ↔ ∃ i, p i ∧ a = form i) :
    x.map f = .ok b ↔ ∃ i, p i ∧ b = f (form i) := by
  simp only [map_eq_ok_iff, hx]
  constructor
  · rintro ⟨_, ⟨i, hi, rfl⟩, rfl⟩
    exact ⟨i, hi, rfl⟩
  · rintro ⟨i, hi, rfl⟩
    exact ⟨_, ⟨i, hi, rfl⟩, rfl⟩

theorem mapError_ok (f : ε → ε') (a : α) : (.ok a : Except ε α).mapError f = .ok a :=
  rfl

theorem mapError_error (f : ε → ε') (e : ε) : (.error e : Except ε α).mapError f = .error (f e) :=
  rfl

theorem exists_of_isOk {x : Except ε α} (h : x.isOk = true) : ∃ a, x = .ok a := by
  cases x with
  | error e => exact nomatch h
  | ok a => exact ⟨a, rfl⟩

theorem mapError_eq_ok_iff {x : Except ε α} {f : ε → ε'} {a : α} :
    x.mapError f = .ok a ↔ x = .ok a := by
  cases x <;> simp [mapError_ok, mapError_error]

/-! ### Lists read item by item -/

theorem forM_eq_ok_iff {f : α → Except ε Unit} {as : List α} :
    as.forM f = .ok () ↔ ∀ a ∈ as, f a = .ok () := by
  induction as with
  | nil => exact iff_of_true rfl (by simp)
  | cons a as ih =>
    change (f a >>= fun _ => as.forM f) = .ok () ↔ _
    rw [andThen_eq_ok_iff, List.forall_mem_cons, ih]

section Some

variable {f : α → Option β} {as : List α} {bs : List β}

theorem mapM_cons_eq_some_iff {a : α} :
    (a :: as).mapM f = some bs ↔
      ∃ b rest, f a = some b ∧ as.mapM f = some rest ∧ bs = b :: rest := by
  simp only [List.mapM_cons, Option.bind_eq_bind, Option.bind_eq_some_iff, Option.pure_def,
    Option.some.injEq]
  constructor
  · rintro ⟨b, hb, rest, hrest, rfl⟩
    exact ⟨b, rest, hb, hrest, rfl⟩
  · rintro ⟨b, rest, hb, hrest, rfl⟩
    exact ⟨b, hb, rest, hrest, rfl⟩

theorem exists_mapM_iff : (∃ bs, as.mapM f = some bs) ↔ ∀ a ∈ as, ∃ b, f a = some b := by
  induction as with
  | nil => simp
  | cons a as ih =>
    rw [List.forall_mem_cons, ← ih]
    simp only [mapM_cons_eq_some_iff]
    constructor
    · rintro ⟨_, b, rest, hb, hrest, -⟩
      exact ⟨⟨b, hb⟩, rest, hrest⟩
    · rintro ⟨⟨b, hb⟩, rest, hrest⟩
      exact ⟨_, b, rest, hb, hrest, rfl⟩

theorem mem_of_mapM_eq_some (h : as.mapM f = some bs) {b : β} :
    b ∈ bs ↔ ∃ a ∈ as, f a = some b := by
  induction as generalizing bs with
  | nil =>
    obtain rfl : [] = bs := by simpa using h
    simp
  | cons a as ih =>
    obtain ⟨b', rest, hb', hrest, rfl⟩ := mapM_cons_eq_some_iff.mp h
    simp [ih hrest, hb', eq_comm]

/-- Items that are written in one way only make a list that is. -/
theorem mapM_eq_some_iff_map {write : β → α} (hf : ∀ a b, f a = some b ↔ a = write b) :
    as.mapM f = some bs ↔ as = bs.map write := by
  induction as generalizing bs with
  | nil => simp [eq_comm]
  | cons a as ih =>
    rw [mapM_cons_eq_some_iff]
    cases bs with
    | nil => simp
    | cons b bs => simp [hf, ih]

/-- Items that are left out by a test of their own are left out of what is read. -/
theorem mapM_filter {p : α → Bool} {q : β → Bool} (hf : ∀ a b, f a = some b → q b = p a)
    (h : as.mapM f = some bs) : (as.filter p).mapM f = some (bs.filter q) := by
  induction as generalizing bs with
  | nil =>
    obtain rfl : [] = bs := by simpa using h
    rfl
  | cons a as ih =>
    obtain ⟨b, rest, hb, hrest, rfl⟩ := mapM_cons_eq_some_iff.mp h
    rw [List.filter_cons, List.filter_cons, hf a b hb]
    split
    · exact mapM_cons_eq_some_iff.mpr ⟨b, _, hb, ih hrest, rfl⟩
    · exact ih hrest

end Some

theorem mapM_eq_ok_iff_map {f : α → Except ε β} {write : β → α} {p : β → Prop}
    (hf : ∀ a b, f a = .ok b ↔ p b ∧ a = write b) {as : List α} {bs : List β} :
    as.mapM f = .ok bs ↔ (∀ b ∈ bs, p b) ∧ as = bs.map write := by
  induction as generalizing bs with
  | nil =>
    have hnil : ([] : List α).mapM f = .ok [] := rfl
    rw [hnil]
    cases bs with
    | nil => simp
    | cons b bs => simp
  | cons a as ih =>
    rw [List.mapM_cons, bind_eq_ok_iff]
    simp only [bind_eq_ok_iff, hf, ih, pure, Except.pure, Except.ok.injEq]
    cases bs with
    | nil => simp
    | cons b bs =>
      simp only [List.cons.injEq, List.forall_mem_cons, List.map_cons]
      constructor
      · rintro ⟨_, ⟨hb, rfl⟩, _, ⟨hbs, rfl⟩, rfl, rfl⟩
        exact ⟨⟨hb, hbs⟩, rfl, rfl⟩
      · rintro ⟨⟨hb, hbs⟩, rfl, rfl⟩
        exact ⟨b, ⟨hb, rfl⟩, bs, ⟨hbs, rfl⟩, rfl, rfl⟩

end TokenAuth.Outcome
