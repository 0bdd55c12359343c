import TokenAuth.Json.Doc

/-! Whether a payload holds at an instant, for an issuer and for an audience. -/

namespace TokenAuth.Token

/-- A claim as the checks see it. One that is there and cannot be read is told from one that is
not. -/
inductive Seen (α : Type)
  | absent
  | unreadable
  | value (a : α)
deriving DecidableEq

namespace Seen

def ofOption {α : Type} : Option α → Seen α
  | some a => value a
  | none => unreadable

end Seen

/-- The claims that decide whether a payload is accepted. -/
structure Standing where
  expiry : Seen Nat
  issuers : Seen (List String)
  audiences : Seen (List String)

namespace Standing

def fieldNames : List String := ["exp", "nbf", "sub", "iss", "aud"]

/-- A time at or after 1970 to the nearest second. -/
def time? (doc : Json.Doc) : Option Nat :=
  match doc with
  | .number n =>
    match n.number? with
    | some (.whole w) => if 0 ≤ w.value then some w.value.toNat else none
    | some (.float bits) =>
      let x := Float.ofBits bits
      if x.isFinite && 0 ≤ x && x < 18446744073709551616 then some x.round.toUInt64.toNat else none
    | none => none
  | _ => none

/-- A container with members is no time and breaks the payload. -/
def isFilled : Json.Doc → Bool
  | .array items => !items.isEmpty
  | .object members => !members.isEmpty
  | _ => false

def isContainer : Json.Doc → Bool
  | .array _ => true
  | .object _ => true
  | _ => false

/-- One name, or a list of them. -/
def names? (doc : Json.Doc) : Option (List String) :=
  (doc.string?.map fun s => [s]).or (doc.items? Json.Doc.string?)

def seenNames : Option Json.Doc → Seen (List String)
  | none => .absent
  | some .null => .absent
  | some doc => .ofOption (names? doc)

def ofDoc? (doc : Json.Doc) : Option Standing := do
  let fields ← doc.recordFields? fieldNames
  let times := [fields.lookup "exp", fields.lookup "nbf"]
  if times.any (fun doc => doc.any isFilled) || (fields.lookup "sub").any isContainer then none
  else
    let expiry := match fields.lookup "exp" with
      | none => .absent
      | some doc => .ofOption (time? doc)
    return ⟨expiry, seenNames (fields.lookup "iss"), seenNames (fields.lookup "aud")⟩

end Standing

end TokenAuth.Token
