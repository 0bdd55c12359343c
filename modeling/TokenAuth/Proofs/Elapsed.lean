import TokenAuth.Time.Date

/-!
# Spans added to instants

Where a positive span leads, counted in nanoseconds: to the second of the sum, as long as there is a
day for it. A leap second is counted as the second that it prolongs, so a span that starts in one
ends as if it had started a second earlier.
-/

namespace TokenAuth.Instant

/-- Nanoseconds since 1970 began. A leap second is counted as the second that it prolongs. -/
def unixNanos (t : Instant) : Int := t.seconds * 1000000000 + (t.nanos : Int) % 1000000000

def firstDay : Date := ⟨-262143, 1, 1, by decide, by decide, by decide, by decide⟩

def lastDay : Date := ⟨262142, 12, 31, by decide, by decide, by decide, by decide⟩

/-- A count of nanoseconds falls on a day that there is. -/
def InRange (nanos : Int) : Prop :=
  firstDay.toDays ≤ nanos / 86400000000000 ∧ nanos / 86400000000000 ≤ lastDay.toDays

instance (nanos : Int) : Decidable (InRange nanos) :=
  inferInstanceAs (Decidable (_ ∧ _))

theorem inRange_iff {nanos : Int} : InRange nanos ↔
    -8334601228800000000000 ≤ nanos ∧ nanos < 8210266876800000000000 := by
  have hfirst : firstDay.toDays = -96465292 := by decide
  have hlast : lastDay.toDays = 95026236 := by decide
  rw [InRange, hfirst, hlast]
  omega

theorem seconds_eq (t : Instant) : t.seconds = t.unixNanos / 1000000000 := by
  rw [unixNanos]
  omega

theorem carry_eq {seconds nanos : Int} (hnonneg : 0 ≤ nanos) (hlt : nanos < 2000000000) :
    carry seconds nanos =
      ((seconds * 1000000000 + nanos) / 1000000000, nanos % 1000000000) := by
  rw [carry, if_neg (by omega)]
  split
  · exact Prod.ext (by dsimp only; omega) (by dsimp only; omega)
  · exact Prod.ext (by dsimp only; omega) (by dsimp only; omega)

/-- What a positive span leads to: within a leap second, or to the sum of both counts. -/
theorem shifted_cases (t : Instant) {d : Span} (hd : 0 < d.nanoseconds) :
    (∃ nanos : Nat, t.shifted d = (t.seconds, (nanos : Int)) ∧ 1000000000 ≤ t.nanos ∧
        nanos < 2000000000 ∧ (t.unixNanos + d.nanoseconds) / 1000000000 = t.seconds) ∨
      t.shifted d = ((t.unixNanos + d.nanoseconds) / 1000000000,
        (t.unixNanos + d.nanoseconds) % 1000000000) := by
  have hlt := t.nanos_lt
  have hwhole : d.wholeSeconds = d.nanoseconds / 1000000000 :=
    Int.tdiv_eq_ediv_of_nonneg (Int.le_of_lt hd)
  have hrest : d.restNanoseconds = d.nanoseconds % 1000000000 :=
    Int.tmod_eq_emod_of_nonneg (Int.le_of_lt hd)
  simp only [shifted, hwhole, hrest, unixNanos]
  split
  · -- From a leap second the span leads on, or it ends before the second does.
    split
    · right
      rw [carry_eq (by omega) (by omega)]
      exact Prod.ext (by dsimp only; omega) (by dsimp only; omega)
    · left
      rw [if_neg (by omega)]
      refine ⟨t.nanos + (d.nanoseconds % 1000000000).toNat, Prod.ext rfl ?_, ?_, ?_, ?_⟩
      · dsimp only
        omega
      all_goals omega
  · right
    rw [carry_eq (by omega) (by omega)]
    exact Prod.ext (by dsimp only; omega) (by dsimp only; omega)

variable {t expiry : Instant} {d : Span}

theorem seconds_of_add? (h : t.add? d = some expiry) : expiry.seconds = (t.shifted d).1 := by
  rw [add?, ofParts?] at h
  split at h
  · rw [← Option.some.inj h]
  · exact nomatch h

/-- **A positive span leads to the second of the sum.** -/
theorem seconds_add? (hd : 0 < d.nanoseconds) (h : t.add? d = some expiry) :
    expiry.seconds = (t.unixNanos + d.nanoseconds) / 1000000000 := by
  rw [seconds_of_add? h]
  rcases shifted_cases t hd with ⟨nanos, hshifted, -, -, hsum⟩ | hshifted
  · rw [hshifted, hsum]
  · rw [hshifted]

theorem seconds_le_of_add? (hd : 0 < d.nanoseconds) (h : t.add? d = some expiry) :
    t.seconds ≤ expiry.seconds := by
  rw [seconds_add? hd h, t.seconds_eq]
  omega

theorem ofParts?_eq_none_iff {seconds : Int} {nanos : Nat} : ofParts? seconds nanos = none ↔
    ¬((-8334601228800 ≤ seconds ∧ seconds ≤ 8210266876799) ∧ nanos < 2000000000 ∧
      (1000000000 ≤ nanos → seconds % 60 = 59)) := by
  simp only [ofParts?, dite_eq_right_iff, reduceCtorEq, imp_false]

/-- **A positive span leads nowhere exactly if there is no day for the sum.** -/
theorem add?_eq_none_iff (hd : 0 < d.nanoseconds) :
    t.add? d = none ↔ ¬InRange (t.unixNanos + d.nanoseconds) := by
  have hlower := t.lower
  have hupper := t.upper
  rw [inRange_iff, add?, ofParts?_eq_none_iff]
  refine not_congr ?_
  rcases shifted_cases t hd with ⟨nanos, hshifted, hstarted, hbelow, hsum⟩ | hshifted
  · have hleap := t.leap hstarted
    rw [hshifted, Int.toNat_natCast]
    constructor
    · omega
    · exact fun _ => ⟨⟨hlower, hupper⟩, hbelow, fun _ => hleap⟩
  · rw [hshifted]
    dsimp only
    omega

theorem exists_add?_iff (hd : 0 < d.nanoseconds) :
    (∃ expiry, t.add? d = some expiry) ↔ InRange (t.unixNanos + d.nanoseconds) := by
  rw [← Option.isSome_iff_exists, Option.isSome_iff_ne_none, ne_eq, add?_eq_none_iff hd,
    Decidable.not_not]

end TokenAuth.Instant
