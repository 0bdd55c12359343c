/-! Byte strings, and texts as byte strings. -/

namespace TokenAuth

abbrev Bytes := List UInt8

/-- Sixteen bytes, such as one draw of random ones. -/
structure Bytes16 where
  toList : Bytes
  length_toList : toList.length = 16
deriving DecidableEq

namespace Bytes16

def ofList? (bs : Bytes) : Option Bytes16 :=
  if h : bs.length = 16 then some ⟨bs, h⟩ else none

end Bytes16

/-- The UTF-8 form of a text. -/
def utf8 (s : String) : Bytes := s.toByteArray.data.toList

/-- The text whose UTF-8 form is given, if there is one. -/
def ofUtf8? (bs : Bytes) : Option String := String.fromUTF8? ⟨bs.toArray⟩

theorem ofUtf8?_utf8 (s : String) : ofUtf8? (utf8 s) = some s := by
  have hvalid : (ByteArray.mk (utf8 s).toArray).IsValidUTF8 := s.isValidUTF8
  unfold ofUtf8? String.fromUTF8?
  rw [dif_pos hvalid]
  rfl

theorem utf8_injective {s t : String} (h : utf8 s = utf8 t) : s = t := by
  have hs := ofUtf8?_utf8 s
  rw [h, ofUtf8?_utf8 t] at hs
  exact (Option.some.inj hs).symm

theorem utf8_append (s t : String) : utf8 (s ++ t) = utf8 s ++ utf8 t := by
  simp [utf8]

theorem utf8_ofList (cs : List Char) :
    utf8 (String.ofList cs) = cs.flatMap String.utf8EncodeChar := by
  unfold utf8
  rw [String.toByteArray_ofList, List.utf8Encode]
  simp

/-- The text of bytes below 128. -/
def ofAscii (bs : Bytes) : String := String.ofList (bs.map fun b => Char.ofNat b.toNat)

theorem utf8_ofAscii {bs : Bytes} (h : ∀ b ∈ bs, b.toNat < 0x80) : utf8 (ofAscii bs) = bs := by
  rw [ofAscii, utf8_ofList]
  induction bs with
  | nil => rfl
  | cons b bs ih =>
    have hb := h b List.mem_cons_self
    have key : ∀ n < 0x80, String.utf8EncodeChar (Char.ofNat n) = [UInt8.ofNat n] := by
      decide +kernel
    rw [List.map_cons, List.flatMap_cons, ih fun b hb => h b (List.mem_cons_of_mem _ hb),
      key _ hb, UInt8.ofNat_toNat]
    rfl

end TokenAuth
