import TokenAuth.Json.Canonical
import TokenAuth.Proofs.JsonReading

/-!
# Members in any order

An object is written with its members in some order and kept with them in key order. Main
statement: members written in any order are kept as the same members (`Members.ofList_of_perm`).
-/

namespace TokenAuth.Json

variable {members order : List (String × Json)}

theorem addMissing_perm {key : String} {value : Json} (hnew : key ∉ members.map Prod.fst) :
    (addMissing key value members).Perm ((key, value) :: members) := by
  induction members with
  | nil => exact .refl _
  | cons head rest ih =>
    obtain ⟨k, v⟩ := head
    rw [List.map_cons, List.mem_cons, not_or] at hnew
    obtain ⟨hne, hrest⟩ := hnew
    unfold addMissing
    split
    · exact .refl _
    · exact ((ih hrest).cons (k, v)).trans (.swap _ _ _)

/-- Members of distinct names with canonical values are only moved. -/
theorem canonicalMembers_perm (hnodup : (members.map Prod.fst).Nodup)
    (hvalues : ∀ m ∈ members, m.2.canonical = m.2) : (canonicalMembers members).Perm members := by
  induction members with
  | nil => exact .refl _
  | cons head rest ih =>
    obtain ⟨k, v⟩ := head
    rw [List.map_cons, List.nodup_cons] at hnodup
    have hrest := ih hnodup.2 fun m hm => hvalues m (List.mem_cons_of_mem _ hm)
    have hv : v.canonical = v := hvalues (k, v) List.mem_cons_self
    have hnew : k ∉ (canonicalMembers rest).map Prod.fst := by
      rw [(hrest.map Prod.fst).mem_iff]
      exact hnodup.1
    rw [canonicalMembers, hv]
    exact (addMissing_perm hnew).trans (hrest.cons _)

theorem eq_of_perm_of_keysIncrease (hperm : members.Perm order) (hmembers : KeysIncrease members)
    (horder : KeysIncrease order) : members = order := by
  refine hperm.eq_of_pairwise (fun a b _ _ hab hba => ?_) hmembers horder
  exact absurd (String.lt_trans hab hba) (String.lt_irrefl a.1)

/-- Members of distinct names are put in the same order however they stand. -/
theorem canonicalMembers_of_perm (hperm : order.Perm members)
    (hnodup : (members.map Prod.fst).Nodup) (hvalues : ∀ m ∈ members, m.2.canonical = m.2) :
    canonicalMembers order = canonicalMembers members := by
  have hnodup' : (order.map Prod.fst).Nodup := (hperm.map Prod.fst).nodup_iff.mpr hnodup
  have hvalues' : ∀ m ∈ order, m.2.canonical = m.2 := fun m hm => hvalues m (hperm.mem_iff.mp hm)
  have hsorted : (canonicalMembers order).Perm (canonicalMembers members) :=
    (canonicalMembers_perm hnodup' hvalues').trans
      (hperm.trans (canonicalMembers_perm hnodup hvalues).symm)
  exact eq_of_perm_of_keysIncrease hsorted (keysIncrease_canonicalMembers order)
    (keysIncrease_canonicalMembers members)

theorem KeysIncrease.filter (h : KeysIncrease members) (keep : String × Json → Bool) :
    KeysIncrease (members.filter keep) :=
  List.Pairwise.filter keep h

theorem KeysIncrease.nodup_keys (h : KeysIncrease members) : (members.map Prod.fst).Nodup := by
  refine List.pairwise_map.mpr (h.imp fun {a b} hlt heq => ?_)
  rw [heq] at hlt
  exact String.lt_irrefl b.1 hlt

/-! ### Members left out by their names -/

theorem filter_addMissing {key : String} {value : Json} (keep : String → Bool)
    (h : KeysIncrease members) :
    (addMissing key value members).filter (fun m => keep m.1) =
      if keep key then addMissing key value (members.filter fun m => keep m.1)
      else members.filter fun m => keep m.1 := by
  induction members with
  | nil => cases hkey : keep key <;> simp [addMissing, hkey]
  | cons head rest ih =>
    obtain ⟨k, v⟩ := head
    obtain ⟨hhead, hrest⟩ := List.pairwise_cons.mp h
    have ih := ih hrest
    rw [addMissing]
    split
    · next hlt =>
      have hall : ∀ m ∈ ((k, v) :: rest).filter fun m => keep m.1, key < m.1 := by
        intro m hm
        rcases List.mem_cons.mp (List.mem_filter.mp hm).1 with rfl | hm
        · exact hlt
        · exact String.lt_trans hlt (hhead m hm)
      rw [List.filter_cons, addMissing_of_forall_lt hall]
    · next hnlt =>
      split
      · next heq =>
        subst heq
        cases hkey : keep key <;>
          simp only [List.filter_cons, hkey, addMissing, if_neg hnlt, if_true, Bool.false_eq_true,
            if_false]
      · next hne =>
        rw [List.filter_cons, ih]
        cases hk : keep k <;> cases hkey : keep key <;> simp [hk, hnlt, hne, addMissing]

/-- Members may be left out before they are put in order or after it. -/
theorem canonicalMembers_filter (keep : String → Bool) (members : List (String × Json)) :
    canonicalMembers (members.filter fun m => keep m.1) =
      (canonicalMembers members).filter fun m => keep m.1 := by
  induction members with
  | nil => rfl
  | cons head rest ih =>
    obtain ⟨key, value⟩ := head
    rw [canonicalMembers, filter_addMissing keep (keysIncrease_canonicalMembers rest), ← ih,
      List.filter_cons]
    split
    · rw [canonicalMembers]
    · rfl

namespace Members

theorem keysIncrease_entries (members : Members) : KeysIncrease members.entries := by
  rw [← members.canonical_entries]
  exact keysIncrease_canonicalMembers members.entries

theorem canonical_of_mem_entries (members : Members) :
    ∀ m ∈ members.entries, m.2.canonical = m.2 := by
  rw [← members.canonical_entries]
  exact canonical_of_mem_canonicalMembers fun m _ => canonical_canonical m.2

/-- **Members written in any order are kept as the same members.** -/
theorem ofList_of_perm {members : Members} (h : order.Perm members.entries) :
    ofList order = members := by
  apply ext
  calc canonicalMembers order
    _ = canonicalMembers members.entries := canonicalMembers_of_perm h
      members.keysIncrease_entries.nodup_keys members.canonical_of_mem_entries
    _ = members.entries := members.canonical_entries

end Members

/-! ### What does not depend on the order -/

theorem membersFloatFree_iff_forall :
    MembersFloatFree members ↔ ∀ m ∈ members, m.2.FloatFree := by
  induction members with
  | nil => simp [MembersFloatFree]
  | cons member members ih => simp [MembersFloatFree, ih]

theorem membersDepth_le_iff {limit : Nat} :
    membersDepth members ≤ limit ↔ ∀ m ∈ members, m.2.depth ≤ limit := by
  induction members with
  | nil => simp [membersDepth]
  | cons member members ih => simp only [membersDepth, Nat.max_le, ih, List.forall_mem_cons]

theorem membersFloatFree_of_perm (h : order.Perm members) (hfree : MembersFloatFree members) :
    MembersFloatFree order :=
  membersFloatFree_iff_forall.mpr fun m hm =>
    membersFloatFree_iff_forall.mp hfree m (h.mem_iff.mp hm)

theorem membersDepth_of_perm (h : order.Perm members) :
    membersDepth order = membersDepth members := by
  apply Nat.le_antisymm
  · exact membersDepth_le_iff.mpr fun m hm =>
      membersDepth_le_iff.mp (Nat.le_refl _) m (h.mem_iff.mp hm)
  · exact membersDepth_le_iff.mpr fun m hm =>
      membersDepth_le_iff.mp (Nat.le_refl _) m (h.mem_iff.mpr hm)

end TokenAuth.Json
