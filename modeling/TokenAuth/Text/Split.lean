/-! Cutting lists at separators. -/

namespace TokenAuth.Text

/-- The parts of a list between the members that satisfy `p`, one more than there are such
members. -/
def splitOn {α : Type} (p : α → Bool) : List α → List (List α)
  | [] => [[]]
  | c :: cs =>
    if p c then [] :: splitOn p cs
    else
      match splitOn p cs with
      | [] => [[c]]
      | part :: parts => (c :: part) :: parts

theorem splitOn_ne_nil {α : Type} (p : α → Bool) (cs : List α) : splitOn p cs ≠ [] := by
  cases cs with
  | nil => simp [splitOn]
  | cons c cs =>
    unfold splitOn
    split
    · simp
    · split <;> simp

/-- The parts before and after the last place where `separator` stands. -/
def splitLast? {α : Type} [BEq α] (separator : List α) : List α → Option (List α × List α)
  | [] => none
  | c :: cs =>
    match splitLast? separator cs with
    | some (before, after) => some (c :: before, after)
    | none =>
      if separator.isPrefixOf (c :: cs) then some ([], (c :: cs).drop separator.length) else none

end TokenAuth.Text
