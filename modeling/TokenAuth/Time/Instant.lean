/-! Instants and the spans between them. -/

namespace TokenAuth

/-- A signed length of time, at most 2⁶³ − 1 milliseconds in magnitude. -/
structure Span where
  nanoseconds : Int
  lower : -9223372036854775807000000 ≤ nanoseconds
  upper : nanoseconds ≤ 9223372036854775807000000
deriving DecidableEq

namespace Span

def ofNanoseconds? (n : Int) : Option Span :=
  if h : -9223372036854775807000000 ≤ n ∧ n ≤ 9223372036854775807000000 then some ⟨n, h.1, h.2⟩
  else none

def ofMilliseconds? (n : Int) : Option Span := ofNanoseconds? (n * 1000000)

def ofSeconds? (n : Int) : Option Span := ofNanoseconds? (n * 1000000000)

def ofMinutes? (n : Int) : Option Span := ofSeconds? (60 * n)

def ofDays? (n : Int) : Option Span := ofSeconds? (86400 * n)

/-- Whole seconds, the rest cut off. -/
def wholeSeconds (d : Span) : Int := d.nanoseconds.tdiv 1000000000

/-- What is left beside whole seconds, with the sign of the span. -/
def restNanoseconds (d : Span) : Int := d.nanoseconds.tmod 1000000000

end Span

/-- A point in time: unix seconds, and nanoseconds into the second. A leap second is written as
the second billion of nanoseconds of the last second of a minute. -/
structure Instant where
  seconds : Int
  nanos : Nat
  lower : -8334601228800 ≤ seconds
  upper : seconds ≤ 8210266876799
  nanos_lt : nanos < 2000000000
  leap : 1000000000 ≤ nanos → seconds % 60 = 59
deriving DecidableEq

namespace Instant

def ofParts? (seconds : Int) (nanos : Nat) : Option Instant :=
  if h : (-8334601228800 ≤ seconds ∧ seconds ≤ 8210266876799) ∧ nanos < 2000000000 ∧
      (1000000000 ≤ nanos → seconds % 60 = 59) then
    some ⟨seconds, nanos, h.1.1, h.1.2, h.2.1, h.2.2⟩
  else none

/-- Brings nanoseconds that a sum carried over or under a second back into it. -/
def carry (seconds nanos : Int) : Int × Int :=
  if nanos < 0 then (seconds - 1, nanos + 1000000000)
  else if 1000000000 ≤ nanos then (seconds + 1, nanos - 1000000000)
  else (seconds, nanos)

/-- Seconds and nanoseconds after a span. A sum that leaves a leap second counts it with the
second before it when it goes on, and with the second after it when it goes back. -/
def shifted (t : Instant) (d : Span) : Int × Int :=
  let whole := d.wholeSeconds
  let rest := d.restNanoseconds
  let nanos : Int := t.nanos
  if 1000000000 ≤ nanos then
    if 0 < whole ∨ (0 < rest ∧ 2000000000 ≤ nanos + rest) then
      carry (t.seconds + whole) (nanos - 1000000000 + rest)
    else if whole < 0 then carry (t.seconds + 1 + whole) (nanos - 1000000000 + rest)
    else (t.seconds, nanos + rest)
  else carry (t.seconds + whole) (nanos + rest)

/-- The instant a span later, if it is in the range of instants. -/
def add? (t : Instant) (d : Span) : Option Instant :=
  ofParts? (t.shifted d).1 (t.shifted d).2.toNat

/-- Days since 1970-01-01. -/
def day (t : Instant) : Int := t.seconds / 86400

end Instant

end TokenAuth
