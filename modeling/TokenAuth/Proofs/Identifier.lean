import TokenAuth.Proofs.Split
import TokenAuth.Uuid

/-!
# Identifiers that are read back

An identifier is written as 36 characters in five groups, and a text of that length is read by its
groups, so what is read is what was written.
-/

namespace TokenAuth

theorem utf8ByteSize_of_narrow {cs : List Char} (h : ∀ c ∈ cs, c.utf8Size = 1) :
    (String.ofList cs).utf8ByteSize = cs.length := by
  induction cs with
  | nil => rfl
  | cons c cs ih =>
    have hrest := ih fun d hd => h d (List.mem_cons_of_mem _ hd)
    rw [String.ofList_cons, String.utf8ByteSize_append, String.utf8ByteSize_singleton, hrest,
      h c List.mem_cons_self, List.length_cons, Nat.add_comm]

namespace Hex

theorem length_encode (bs : Bytes) : (encode bs).length = 2 * bs.length := by
  induction bs with
  | nil => rfl
  | cons b bs ih =>
    have hstep : encode (b :: bs) = digit (b.toNat / 16) :: digit (b.toNat % 16) :: encode bs := rfl
    rw [hstep, List.length_cons, List.length_cons, ih, List.length_cons]
    omega

theorem digit_of_mem_encode {bs : Bytes} {b : UInt8} (h : b ∈ encode bs) :
    ∃ n < 16, b = digit n := by
  obtain ⟨a, -, hb⟩ := List.mem_flatMap.mp h
  have ha := a.toNat_lt
  simp only [List.mem_cons, List.not_mem_nil, or_false] at hb
  rcases hb with rfl | rfl
  · exact ⟨_, by omega, rfl⟩
  · exact ⟨_, by omega, rfl⟩

end Hex

namespace Uuid

/-- The hexadecimal digits of an identifier. -/
def digits (id : Uuid) : List Char := (Hex.encode id.bytes.toList).map fun b => Char.ofNat b.toNat

variable (id : Uuid)

theorem length_digits : id.digits.length = 32 := by
  rw [digits, List.length_map, Hex.length_encode, id.bytes.length_toList]

theorem forall_mem_digits {P : Char → Prop} (h : ∀ n < 16, P (Char.ofNat (Hex.digit n).toNat)) :
    ∀ c ∈ id.digits, P c := by
  intro c hc
  obtain ⟨b, hb, rfl⟩ := List.mem_map.mp hc
  obtain ⟨n, hn, rfl⟩ := Hex.digit_of_mem_encode hb
  exact h n hn

theorem ofDigits?_digits : ofDigits? id.digits = some id := by
  have hall : id.digits.all isHexDigit = true :=
    List.all_eq_true.mpr (id.forall_mem_digits (by decide))
  have hbytes : id.digits.map (fun c => UInt8.ofNat c.toNat) = Hex.encode id.bytes.toList := by
    have hback : ∀ n < 16, UInt8.ofNat (Char.ofNat (Hex.digit n).toNat).toNat = Hex.digit n := by
      decide
    have hsame : ∀ b ∈ Hex.encode id.bytes.toList, UInt8.ofNat (Char.ofNat b.toNat).toNat = b := by
      intro b hb
      obtain ⟨n, hn, rfl⟩ := Hex.digit_of_mem_encode hb
      exact hback n hn
    rw [digits, List.map_map]
    exact (List.map_congr_left hsame).trans (List.map_id _)
  rw [ofDigits?, if_pos hall, hbytes, Hex.decode?_encode, Option.bind_some, ofBytes?,
    Bytes16.ofList?, dif_pos id.bytes.length_toList]
  rfl

/-- The five groups of an identifier's digits. -/
def parts : List (List Char) :=
  [id.digits.take 8, (id.digits.drop 8).take 4, (id.digits.drop 12).take 4,
    (id.digits.drop 16).take 4, id.digits.drop 20]

theorem flatten_parts : id.parts.flatten = id.digits := by
  have hcut (cs : List Char) (m n : Nat) :
      (cs.drop m).take n ++ cs.drop (m + n) = cs.drop m := by
    rw [← List.drop_drop, List.take_append_drop]
  simp only [parts, List.flatten_cons, List.flatten_nil, List.append_nil]
  rw [hcut id.digits 16 4, hcut id.digits 12 4, hcut id.digits 8 4, List.take_append_drop]

theorem toList_text :
    id.text.toList = id.digits.take 8 ++ '-' :: ((id.digits.drop 8).take 4 ++ '-' ::
      ((id.digits.drop 12).take 4 ++ '-' :: ((id.digits.drop 16).take 4 ++ '-' ::
        id.digits.drop 20))) :=
  String.toList_ofList

theorem groups_text : groups id.text.toList = id.parts := by
  have hne : ∀ c ∈ id.digits, c ≠ '-' := id.forall_mem_digits (by decide)
  have hhyphen : '-' ∉ id.digits := fun h => hne '-' h rfl
  have htake (m n : Nat) : '-' ∉ (id.digits.drop m).take n :=
    fun h => hhyphen (List.mem_of_mem_drop (List.mem_of_mem_take h))
  simp only [groups, parts, Text.splitOn_eq_cons_cons_iff, Text.splitOn_eq_singleton_iff]
  exact ⟨_, id.toList_text, htake 0 8, _, rfl, htake 8 4, _, rfl, htake 12 4, _, rfl, htake 16 4,
    rfl, fun h => hhyphen (List.mem_of_mem_drop h)⟩

theorem ofGroups?_text : ofGroups? id.text.toList = some id := by
  have hlengths : id.parts.map List.length = groupLengths := by
    simp [parts, groupLengths, id.length_digits]
  rw [ofGroups?, groups_text, if_pos hlengths, flatten_parts, ofDigits?_digits]

theorem utf8ByteSize_text : id.text.utf8ByteSize = 36 := by
  have hdigits : ∀ c ∈ id.digits, c.utf8Size = 1 := id.forall_mem_digits (by decide)
  have htake (m n : Nat) : ∀ c ∈ (id.digits.drop m).take n, c.utf8Size = 1 :=
    fun c hc => hdigits c (List.mem_of_mem_drop (List.mem_of_mem_take hc))
  have hnarrow : ∀ c ∈ id.text.toList, c.utf8Size = 1 := by
    intro c hc
    simp only [toList_text, List.mem_append, List.mem_cons] at hc
    rcases hc with hc | rfl | hc | rfl | hc | rfl | hc | rfl | hc
    · exact htake 0 8 c hc
    · rfl
    · exact htake 8 4 c hc
    · rfl
    · exact htake 12 4 c hc
    · rfl
    · exact htake 16 4 c hc
    · rfl
    · exact hdigits c (List.mem_of_mem_drop hc)
  have hsize := utf8ByteSize_of_narrow hnarrow
  rw [String.ofList_toList] at hsize
  simp [hsize, toList_text, id.length_digits]

/-- **An identifier is read back.** -/
theorem read_text : read id.text = .ok id := by
  simp only [read, utf8ByteSize_text, if_true, ofGroups?_text, orFault]

end Uuid

end TokenAuth
