import TokenAuth.Base64
import TokenAuth.Proofs.Outcome

/-!
# Base64 texts read back

Main statement: `decode?_eq_some_iff`. In every alphabet, with or without padding, a text reads as
some bytes exactly if it is what those bytes are written as.
-/

namespace TokenAuth.Base64

open Outcome

namespace Alphabet

theorem symbol_ne_pad (alphabet : Alphabet) {n : Nat} (h : n < 64) :
    alphabet.symbol n ≠ pad := by
  revert n
  cases alphabet <;> decide

theorem symbol_visible (alphabet : Alphabet) {n : Nat} (h : n < 64) :
    0x20 < (alphabet.symbol n).toNat ∧ (alphabet.symbol n).toNat < 0x7F := by
  revert n
  cases alphabet <;> decide

theorem symbol_url_ne_dot {n : Nat} (h : n < 64) : url.symbol n ≠ 0x2E := by
  revert n
  decide

end Alphabet

theorem valueAt_symbol (alphabet : Alphabet) {n : Nat} (h : n < 64) (offset : Nat) :
    valueAt alphabet (alphabet.symbol n) offset = .ok n := by
  rw [valueAt, alphabet.value?_symbol h]

/-! ### The last group -/

theorem lastSymbols_pads (alphabet : Alphabet) (offset : Nat) {index : Nat} (hindex : 2 ≤ index)
    (padded count : Nat) :
    lastSymbols alphabet offset index padded (List.replicate count pad) =
      .ok ([], padded + count) := by
  induction count generalizing index padded with
  | zero => rfl
  | succ count ih =>
    rw [List.replicate_succ, lastSymbols, if_pos rfl, if_neg (by omega), ih (by omega)]
    congr 2
    omega

/-- Symbols are read with their values, and the padding after two or more of them is counted. -/
theorem lastSymbols_symbols (alphabet : Alphabet) (offset : Nat) {values : List Nat}
    (hvalues : ∀ n ∈ values, n < 64) {index count : Nat}
    (hcount : 0 < count → 2 ≤ index + values.length) :
    lastSymbols alphabet offset index 0
        (values.map alphabet.symbol ++ List.replicate count pad) =
      .ok (values.map fun n => (alphabet.symbol n, n), count) := by
  induction values generalizing index with
  | nil =>
    cases count with
    | zero => rfl
    | succ count =>
      have hindex : 2 ≤ index := by simpa using hcount (by omega)
      simpa using lastSymbols_pads alphabet offset hindex 0 (count + 1)
  | cons n values ih =>
    have hn : n < 64 := hvalues n List.mem_cons_self
    have hnext : 0 < count → 2 ≤ index + 1 + values.length := by
      intro h
      have hpads := hcount h
      simp only [List.length_cons] at hpads
      omega
    have hrest := ih (fun m hm => hvalues m (List.mem_cons_of_mem _ hm)) hnext
    rw [List.map_cons, List.cons_append, lastSymbols, if_neg (alphabet.symbol_ne_pad hn),
      if_neg (by omega), valueAt_symbol alphabet hn, hrest]
    rfl

/-- The symbols of a last group with the padding after them. -/
def lastGroup (alphabet : Alphabet) (padding : Padding) (values : List Nat) : Bytes :=
  values.map alphabet.symbol ++
    List.replicate (if padding = .full then 4 - values.length else 0) pad

theorem lastSymbols_lastGroup (alphabet : Alphabet) (padding : Padding) (offset : Nat)
    (values : List Nat) (hvalues : ∀ n ∈ values, n < 64) (hlength : 2 ≤ values.length) :
    lastSymbols alphabet offset 0 0 (lastGroup alphabet padding values) =
      .ok (values.map fun n => (alphabet.symbol n, n),
        if padding = .full then 4 - values.length else 0) := by
  apply lastSymbols_symbols alphabet offset hvalues
  omega

theorem decodeLast_two (alphabet : Alphabet) (padding : Padding) (offset : Nat) {x y : Nat}
    (hx : x < 64) (hy : y < 64) (hbits : y % 16 = 0) :
    decodeLast alphabet padding offset (lastGroup alphabet padding [x, y]) =
      .ok [UInt8.ofNat (4 * x + y / 16)] := by
  have hread := lastSymbols_lastGroup alphabet padding offset [x, y]
    (by simp [hx, hy]) (by simp)
  rw [decodeLast, hread]
  cases padding <;> simp [bind, Except.bind, hbits]

theorem decodeLast_three (alphabet : Alphabet) (padding : Padding) (offset : Nat) {x y z : Nat}
    (hx : x < 64) (hy : y < 64) (hz : z < 64) (hbits : z % 4 = 0) :
    decodeLast alphabet padding offset (lastGroup alphabet padding [x, y, z]) =
      .ok ((group x y z 0).take 2) := by
  have hread := lastSymbols_lastGroup alphabet padding offset [x, y, z]
    (by simp [hx, hy, hz]) (by simp)
  rw [decodeLast, hread]
  cases padding <;> simp [bind, Except.bind, hbits]

theorem decodeLast_four (alphabet : Alphabet) (padding : Padding) (offset : Nat) {x y z w : Nat}
    (hx : x < 64) (hy : y < 64) (hz : z < 64) (hw : w < 64) :
    decodeLast alphabet padding offset (lastGroup alphabet padding [x, y, z, w]) =
      .ok (group x y z w) := by
  have hread := lastSymbols_lastGroup alphabet padding offset [x, y, z, w]
    (by simp [hx, hy, hz, hw]) (by simp)
  rw [decodeLast, hread]
  cases padding <;> simp [bind, Except.bind]

/-! ### Bytes as symbol values -/

theorem ofNat_eq {a : UInt8} {n : Nat} (h : n % 256 = a.toNat) : UInt8.ofNat n = a := by
  apply UInt8.toNat_inj.mp
  rw [UInt8.toNat_ofNat', h]

theorem group_values (a b c : UInt8) :
    let n := 65536 * a.toNat + 256 * b.toNat + c.toNat
    group (n / 262144) (n / 4096 % 64) (n / 64 % 64) (n % 64) = [a, b, c] := by
  have ha := a.toNat_lt
  have hb := b.toNat_lt
  have hc := c.toNat_lt
  simp only [group]
  rw [ofNat_eq (a := a) (by omega), ofNat_eq (a := b) (by omega), ofNat_eq (a := c) (by omega)]

theorem group_values_two (a b : UInt8) :
    let n := 256 * a.toNat + b.toNat
    (group (n / 1024) (n / 16 % 64) (n % 16 * 4) 0).take 2 = [a, b] := by
  have ha := a.toNat_lt
  have hb := b.toNat_lt
  simp only [group, List.take_succ_cons, List.take_zero]
  rw [ofNat_eq (a := a) (by omega), ofNat_eq (a := b) (by omega)]

theorem ofNat_values_one (a : UInt8) :
    UInt8.ofNat (4 * (a.toNat / 4) + a.toNat % 4 * 16 / 16) = a := by
  have ha := a.toNat_lt
  exact ofNat_eq (by omega)

/-! ### Whole texts -/

theorem encode_eq_nil_iff (alphabet : Alphabet) (padding : Padding) {bs : Bytes} :
    encode alphabet padding bs = [] ↔ bs = [] := by
  match bs with
  | [] => simp [encode]
  | [_] => simp [encode]
  | [_, _] => simp [encode]
  | _ :: _ :: _ :: _ => simp [encode]

theorem decodeFrom_encode (alphabet : Alphabet) (padding : Padding) (offset : Nat) (bs : Bytes) :
    decodeFrom alphabet padding offset (encode alphabet padding bs) = .ok bs := by
  fun_induction encode alphabet padding bs generalizing offset with
  | case1 => rfl
  | case2 a n =>
    have ha := a.toNat_lt
    have hlast := decodeLast_two alphabet padding offset (x := n / 4) (y := n % 4 * 16)
      (by omega) (by omega) (by omega)
    rw [ofNat_values_one] at hlast
    cases padding <;> exact hlast
  | case3 a b n =>
    have ha := a.toNat_lt
    have hb := b.toNat_lt
    have hlast := decodeLast_three alphabet padding offset (x := n / 1024) (y := n / 16 % 64)
      (z := n % 16 * 4) (by omega) (by omega) (by omega) (by omega)
    rw [group_values_two] at hlast
    cases padding <;> exact hlast
  | case4 a b c rest n ih =>
    have ha := a.toNat_lt
    have hb := b.toNat_lt
    have hc := c.toNat_lt
    have hx : n / 262144 < 64 := by omega
    have hy : n / 4096 % 64 < 64 := by omega
    have hz : n / 64 % 64 < 64 := by omega
    have hw : n % 64 < 64 := by omega
    have hgroup : group (n / 262144) (n / 4096 % 64) (n / 64 % 64) (n % 64) = [a, b, c] :=
      group_values a b c
    by_cases hrest : rest = []
    · -- The last whole group is read as a last group, without padding.
      have hlast := decodeLast_four alphabet padding offset hx hy hz hw
      rw [hgroup] at hlast
      subst hrest
      cases padding <;> exact hlast
    · obtain ⟨e, tail, htail⟩ :=
        List.exists_cons_of_ne_nil (mt (encode_eq_nil_iff alphabet padding).mp hrest)
      have hmore := ih (offset + 4)
      rw [htail] at hmore ⊢
      rw [decodeFrom, valueAt_symbol alphabet hx, valueAt_symbol alphabet hy,
        valueAt_symbol alphabet hz, valueAt_symbol alphabet hw, hmore]
      simp only [bind, Except.bind, pure, Except.pure, hgroup, List.cons_append, List.nil_append]

theorem length_encode_mod (alphabet : Alphabet) (padding : Padding) (bs : Bytes) :
    (encode alphabet padding bs).length % 4 ≠ 1 := by
  fun_induction encode alphabet padding bs with
  | case1 => simp
  | case2 a n => cases padding <;> simp
  | case3 a b n => cases padding <;> simp
  | case4 a b c rest n ih =>
    simp only [List.length_cons]
    omega

theorem decode_encode (alphabet : Alphabet) (padding : Padding) (bs : Bytes) :
    decode alphabet padding (encode alphabet padding bs) = .ok bs := by
  have hmod := length_encode_mod alphabet padding bs
  have hfrom := decodeFrom_encode alphabet padding 0 bs
  rw [decode]
  split
  · rw [if_neg (fun h => hmod h.1)]
    exact hfrom
  · next hnone =>
    rw [List.getLast?_eq_none_iff, encode_eq_nil_iff] at hnone
    rw [hnone]

/-- **Round trip.** What is written in Base64 reads back as the bytes it was written from. -/
theorem decode?_encode (alphabet : Alphabet) (padding : Padding) (bs : Bytes) :
    decode? alphabet padding (encode alphabet padding bs) = some bs := by
  rw [decode?, decode_encode]
  rfl

/-! ### Nothing else is read -/

theorem valueAt_eq_ok {alphabet : Alphabet} {b : UInt8} {offset n : Nat}
    (h : valueAt alphabet b offset = .ok n) : n < 64 ∧ b = alphabet.symbol n := by
  rw [valueAt] at h
  split at h
  · next m hm =>
    have hmn : m = n := Except.ok.inj h
    obtain ⟨hlt, hsymbol⟩ := alphabet.symbol_of_value?_eq_some hm
    exact ⟨hmn ▸ hlt, hmn ▸ hsymbol.symm⟩
  · simp at h

theorem lastSymbols_eq_ok {alphabet : Alphabet} {offset index padded : Nat} {bs : Bytes}
    {symbols : List (UInt8 × Nat)} {count : Nat}
    (h : lastSymbols alphabet offset index padded bs = .ok (symbols, count)) :
    ∃ values : List Nat, (∀ n ∈ values, n < 64) ∧
      symbols = values.map (fun n => (alphabet.symbol n, n)) ∧
      bs = values.map alphabet.symbol ++ List.replicate (count - padded) pad ∧
      padded ≤ count ∧ (0 < padded → values = []) := by
  induction bs generalizing index padded symbols count with
  | nil =>
    obtain ⟨rfl, rfl⟩ := Prod.mk.inj (Except.ok.inj h)
    exact ⟨[], by simp, rfl, by simp, Nat.le_refl _, fun _ => rfl⟩
  | cons b rest ih =>
    rw [lastSymbols] at h
    split at h
    · next hpad =>
      split at h
      · simp at h
      · obtain ⟨values, -, hsymbols, hrest, hle, hnil⟩ := ih h
        -- After padding only padding is read.
        obtain rfl : values = [] := hnil (by omega)
        refine ⟨[], by simp, hsymbols, ?_, by omega, fun _ => rfl⟩
        rw [show count - padded = count - (padded + 1) + 1 by omega, List.replicate_succ, hpad,
          hrest]
        rfl
    · split at h
      · simp at h
      · next hpadded =>
        obtain ⟨n, hvalue, hread⟩ := bind_eq_ok_iff.mp h
        obtain ⟨⟨others, count'⟩, hothers, hend⟩ := bind_eq_ok_iff.mp hread
        obtain ⟨rfl, rfl⟩ := Prod.mk.inj (Except.ok.inj hend)
        obtain ⟨hlt, rfl⟩ := valueAt_eq_ok hvalue
        obtain ⟨values, hvalues, hsymbols, hrest, hle, -⟩ := ih hothers
        refine ⟨n :: values, ?_, by rw [hsymbols]; rfl, by rw [hrest]; rfl, hle,
          fun hpos => absurd hpos hpadded⟩
        exact List.forall_mem_cons.mpr ⟨hlt, hvalues⟩

/-- A last group that is read has two to four symbols and the padding they are written with. -/
theorem exists_lastGroup {alphabet : Alphabet} {padding : Padding} {offset : Nat} {bs out : Bytes}
    (h : decodeLast alphabet padding offset bs = .ok out) (hlength : bs.length ≤ 4) :
    ∃ values : List Nat, (∀ n ∈ values, n < 64) ∧ 2 ≤ values.length ∧ values.length ≤ 4 ∧
      bs = lastGroup alphabet padding values := by
  obtain ⟨⟨symbols, count⟩, hread, h⟩ := bind_eq_ok_iff.mp h
  obtain ⟨values, hvalues, rfl, hbs, -, -⟩ := lastSymbols_eq_ok hread
  have htotal : bs.length = values.length + count := by simp [hbs]
  simp only [List.length_map] at h
  split at h
  · exact nomatch h
  next hlow =>
  split at h
  · exact nomatch h
  next hfull =>
  split at h
  · exact nomatch h
  next hnone =>
  refine ⟨values, hvalues, by omega, by omega, ?_⟩
  rw [hbs, lastGroup]
  congr 2
  cases padding with
  | full =>
    simp only [true_and, ne_eq, Decidable.not_not] at hfull
    simp only [if_true]
    omega
  | none =>
    simp only [true_and] at hnone
    simp only [reduceCtorEq, if_false]
    omega

theorem toNat_ofNat_of_lt {n : Nat} (h : n < 256) : (UInt8.ofNat n).toNat = n := by
  rw [UInt8.toNat_ofNat', Nat.mod_eq_of_lt h]

theorem encode_two (alphabet : Alphabet) (padding : Padding) {x y : Nat} (hx : x < 64)
    (hy : y < 64) (hbits : y % 16 = 0) :
    encode alphabet padding [UInt8.ofNat (4 * x + y / 16)] = lastGroup alphabet padding [x, y] := by
  simp only [encode, toNat_ofNat_of_lt (show 4 * x + y / 16 < 256 by omega)]
  rw [show (4 * x + y / 16) / 4 = x by omega, show (4 * x + y / 16) % 4 * 16 = y by omega]
  cases padding <;> rfl

theorem encode_three (alphabet : Alphabet) (padding : Padding) {x y z : Nat} (hx : x < 64)
    (hy : y < 64) (hz : z < 64) (hbits : z % 4 = 0) :
    encode alphabet padding ((group x y z 0).take 2) = lastGroup alphabet padding [x, y, z] := by
  simp only [group, List.take_succ_cons, List.take_zero, encode,
    toNat_ofNat_of_lt (show 4 * x + y / 16 < 256 by omega),
    toNat_ofNat_of_lt (show 16 * (y % 16) + z / 4 < 256 by omega)]
  rw [show (256 * (4 * x + y / 16) + (16 * (y % 16) + z / 4)) / 1024 = x by omega,
    show (256 * (4 * x + y / 16) + (16 * (y % 16) + z / 4)) / 16 % 64 = y by omega,
    show (256 * (4 * x + y / 16) + (16 * (y % 16) + z / 4)) % 16 * 4 = z by omega]
  cases padding <;> rfl

theorem encode_group_append (alphabet : Alphabet) (padding : Padding) {x y z w : Nat}
    (hx : x < 64) (hy : y < 64) (hz : z < 64) (hw : w < 64) (rest : Bytes) :
    encode alphabet padding (group x y z w ++ rest) =
      [x, y, z, w].map alphabet.symbol ++ encode alphabet padding rest := by
  simp only [group, List.cons_append, List.nil_append, encode,
    toNat_ofNat_of_lt (show 4 * x + y / 16 < 256 by omega),
    toNat_ofNat_of_lt (show 16 * (y % 16) + z / 4 < 256 by omega),
    toNat_ofNat_of_lt (show 64 * (z % 4) + w < 256 by omega)]
  have hn : 65536 * (4 * x + y / 16) + 256 * (16 * (y % 16) + z / 4) + (64 * (z % 4) + w) =
      262144 * x + 4096 * y + 64 * z + w := by omega
  rw [hn, show (262144 * x + 4096 * y + 64 * z + w) / 262144 = x by omega,
    show (262144 * x + 4096 * y + 64 * z + w) / 4096 % 64 = y by omega,
    show (262144 * x + 4096 * y + 64 * z + w) / 64 % 64 = z by omega,
    show (262144 * x + 4096 * y + 64 * z + w) % 64 = w by omega]
  rfl

theorem encode_of_decodeLast {alphabet : Alphabet} {padding : Padding} {offset : Nat}
    {bs out : Bytes} (h : decodeLast alphabet padding offset bs = .ok out)
    (hlength : bs.length ≤ 4) : encode alphabet padding out = bs := by
  obtain ⟨values, hvalues, hlow, hhigh, rfl⟩ := exists_lastGroup h hlength
  have hread := lastSymbols_lastGroup alphabet padding offset values hvalues hlow
  match values, hlow, hhigh with
  | [x, y], _, _ =>
    have hx : x < 64 := hvalues x (by simp)
    have hy : y < 64 := hvalues y (by simp)
    by_cases hbits : y % 16 = 0
    · rw [decodeLast_two alphabet padding offset hx hy hbits] at h
      rw [← Except.ok.inj h, encode_two alphabet padding hx hy hbits]
    · rw [decodeLast, hread] at h
      cases padding <;> simp [bind, Except.bind, hbits] at h
  | [x, y, z], _, _ =>
    have hx : x < 64 := hvalues x (by simp)
    have hy : y < 64 := hvalues y (by simp)
    have hz : z < 64 := hvalues z (by simp)
    by_cases hbits : z % 4 = 0
    · rw [decodeLast_three alphabet padding offset hx hy hz hbits] at h
      rw [← Except.ok.inj h, encode_three alphabet padding hx hy hz hbits]
    · rw [decodeLast, hread] at h
      cases padding <;> simp [bind, Except.bind, hbits] at h
  | [x, y, z, w], _, _ =>
    have hx : x < 64 := hvalues x (by simp)
    have hy : y < 64 := hvalues y (by simp)
    have hz : z < 64 := hvalues z (by simp)
    have hw : w < 64 := hvalues w (by simp)
    rw [decodeLast_four alphabet padding offset hx hy hz hw] at h
    have hencode := encode_group_append alphabet padding hx hy hz hw []
    rw [List.append_nil] at hencode
    rw [← Except.ok.inj h, hencode]
    cases padding <;> rfl

theorem encode_of_decodeFrom {alphabet : Alphabet} {padding : Padding} {offset : Nat}
    {bs out : Bytes} (h : decodeFrom alphabet padding offset bs = .ok out) :
    encode alphabet padding out = bs := by
  fun_induction decodeFrom alphabet padding offset bs generalizing out with
  | case1 =>
    rw [← Except.ok.inj h]
    rfl
  | case2 offset a b c d e rest ih =>
    obtain ⟨x, ha, h₁⟩ := bind_eq_ok_iff.mp h
    obtain ⟨y, hb, h₂⟩ := bind_eq_ok_iff.mp h₁
    obtain ⟨z, hc, h₃⟩ := bind_eq_ok_iff.mp h₂
    obtain ⟨w, hd, h₄⟩ := bind_eq_ok_iff.mp h₃
    obtain ⟨bytes, hrest, hend⟩ := bind_eq_ok_iff.mp h₄
    obtain ⟨hx, rfl⟩ := valueAt_eq_ok ha
    obtain ⟨hy, rfl⟩ := valueAt_eq_ok hb
    obtain ⟨hz, rfl⟩ := valueAt_eq_ok hc
    obtain ⟨hw, rfl⟩ := valueAt_eq_ok hd
    rw [← Except.ok.inj hend, encode_group_append alphabet padding hx hy hz hw, ih hrest]
    rfl
  | case3 offset bs hne hfew =>
    apply encode_of_decodeLast h
    match bs with
    | [] | [_] | [_, _] | [_, _, _] | [_, _, _, _] => simp
    | a :: b :: c :: d :: e :: rest => exact absurd rfl (hfew a b c d e rest)

theorem encode_of_decode {alphabet : Alphabet} {padding : Padding} {bs out : Bytes}
    (h : decode alphabet padding bs = .ok out) : encode alphabet padding out = bs := by
  rw [decode] at h
  split at h
  · split at h
    · simp at h
    · exact encode_of_decodeFrom h
  · next hnone =>
    rw [List.getLast?_eq_none_iff] at hnone
    rw [← Except.ok.inj h, hnone]
    rfl

/-- **Reading accepts exactly what writing produces.** Every byte string has one Base64 text. -/
theorem decode_eq_ok_iff {alphabet : Alphabet} {padding : Padding} {bs out : Bytes} :
    decode alphabet padding bs = .ok out ↔ bs = encode alphabet padding out := by
  constructor
  · exact fun h => (encode_of_decode h).symm
  · rintro rfl
    exact decode_encode alphabet padding out

theorem decode?_eq_some_iff {alphabet : Alphabet} {padding : Padding} {bs out : Bytes} :
    decode? alphabet padding bs = some out ↔ bs = encode alphabet padding out := by
  rw [← decode_eq_ok_iff, decode?]
  cases decode alphabet padding bs <;> simp [Except.toOption]

theorem encode_injective (alphabet : Alphabet) (padding : Padding) {bs cs : Bytes}
    (h : encode alphabet padding bs = encode alphabet padding cs) : bs = cs := by
  have hbs := decode?_encode alphabet padding bs
  rw [h, decode?_encode] at hbs
  exact (Option.some.inj hbs).symm

/-- Every byte that is written is a symbol, or fills up the last group. -/
theorem mem_encode {alphabet : Alphabet} {padding : Padding} {bs : Bytes} {x : UInt8}
    (h : x ∈ encode alphabet padding bs) :
    (∃ n < 64, x = alphabet.symbol n) ∨ padding = .full ∧ x = pad := by
  fun_induction encode alphabet padding bs with
  | case1 => simp at h
  | case2 a n =>
    have ha := a.toNat_lt
    simp only [List.mem_append, List.mem_cons, List.not_mem_nil, or_false] at h
    rcases h with (rfl | rfl) | h
    · exact .inl ⟨_, by omega, rfl⟩
    · exact .inl ⟨_, by omega, rfl⟩
    · cases padding <;> simp_all
  | case3 a b n =>
    have ha := a.toNat_lt
    have hb := b.toNat_lt
    simp only [List.mem_append, List.mem_cons, List.not_mem_nil, or_false] at h
    rcases h with (rfl | rfl | rfl) | h
    · exact .inl ⟨_, by omega, rfl⟩
    · exact .inl ⟨_, by omega, rfl⟩
    · exact .inl ⟨_, by omega, rfl⟩
    · cases padding <;> simp_all
  | case4 a b c rest n ih =>
    have ha := a.toNat_lt
    have hb := b.toNat_lt
    have hc := c.toNat_lt
    simp only [List.mem_cons] at h
    rcases h with rfl | rfl | rfl | rfl | h
    · exact .inl ⟨_, by omega, rfl⟩
    · exact .inl ⟨_, by omega, rfl⟩
    · exact .inl ⟨_, by omega, rfl⟩
    · exact .inl ⟨_, by omega, rfl⟩
    · exact ih h

theorem mem_encode_none {alphabet : Alphabet} {bs : Bytes} {x : UInt8}
    (h : x ∈ encode alphabet .none bs) : ∃ n < 64, x = alphabet.symbol n :=
  (mem_encode h).resolve_right fun hpad => nomatch hpad.1

theorem visible_encode (alphabet : Alphabet) (padding : Padding) (bs : Bytes) :
    ∀ b ∈ encode alphabet padding bs, 0x20 < b.toNat ∧ b.toNat < 0x7F := by
  intro b hb
  rcases mem_encode hb with ⟨n, hn, rfl⟩ | ⟨-, rfl⟩
  · exact alphabet.symbol_visible hn
  · decide

/-! ### The text of what is written -/

theorem length_encode_none (alphabet : Alphabet) (bs : Bytes) :
    (encode alphabet .none bs).length = (4 * bs.length + 2) / 3 := by
  fun_induction encode alphabet .none bs with
  | case1 => rfl
  | case2 a n => simp
  | case3 a b n => simp
  | case4 a b c rest n ih => simp only [List.length_cons, ih]; omega

theorem utf8_ofAscii_encode (alphabet : Alphabet) (padding : Padding) (bs : Bytes) :
    utf8 (ofAscii (encode alphabet padding bs)) = encode alphabet padding bs := by
  apply utf8_ofAscii
  intro b hb
  have := visible_encode alphabet padding bs b hb
  omega

theorem symbol_of_mem_text {alphabet : Alphabet} {bs : Bytes} {c : Char}
    (h : c ∈ (ofAscii (encode alphabet .none bs)).toList) :
    ∃ n < 64, c = Char.ofNat (alphabet.symbol n).toNat := by
  rw [ofAscii, String.toList_ofList, List.mem_map] at h
  obtain ⟨b, hb, rfl⟩ := h
  obtain ⟨n, hn, rfl⟩ := mem_encode_none hb
  exact ⟨n, hn, rfl⟩

end TokenAuth.Base64
