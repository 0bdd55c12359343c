import TokenAuth.Json.Basic

/-!
Objects with their members in strict key order. Main statement: putting a value into that order
twice changes nothing more, so such members can be a type of their own.
-/

namespace TokenAuth.Json

/-- Every key is below all that follow it. -/
def KeysIncrease (members : List (String × Json)) : Prop :=
  members.Pairwise fun a b => a.1 < b.1

theorem mem_addMissing {key : String} {value : Json} {members : List (String × Json)}
    {m : String × Json} (h : m ∈ addMissing key value members) :
    m = (key, value) ∨ m ∈ members := by
  induction members with
  | nil => simpa [addMissing] using h
  | cons head rest ih =>
    obtain ⟨k, v⟩ := head
    unfold addMissing at h
    split at h
    · simpa using h
    · split at h
      · exact Or.inr h
      · rcases List.mem_cons.1 h with h | h
        · exact Or.inr (h ▸ List.mem_cons_self)
        · rcases ih h with h | h
          · exact Or.inl h
          · exact Or.inr (List.mem_cons_of_mem _ h)

theorem keysIncrease_addMissing {key : String} {value : Json} {members : List (String × Json)}
    (h : KeysIncrease members) : KeysIncrease (addMissing key value members) := by
  induction members with
  | nil => simp [addMissing, KeysIncrease]
  | cons head rest ih =>
    obtain ⟨k, v⟩ := head
    have hrest : KeysIncrease rest := (List.pairwise_cons.1 h).2
    have hk := (List.pairwise_cons.1 h).1
    unfold addMissing
    split
    · next hlt =>
      refine List.pairwise_cons.2 ⟨fun m hm => ?_, h⟩
      rcases List.mem_cons.1 hm with rfl | hm
      · exact hlt
      · exact String.lt_trans hlt (hk m hm)
    · split
      · exact h
      · next hlt hne =>
        refine List.pairwise_cons.2 ⟨fun m hm => ?_, ih hrest⟩
        rcases mem_addMissing hm with rfl | hm
        · refine Decidable.by_contra fun hnot => hne ?_
          exact String.le_antisymm (String.not_lt.1 hnot) (String.not_lt.1 hlt)
        · exact hk m hm

theorem addMissing_of_forall_lt {key : String} {value : Json} {members : List (String × Json)}
    (h : ∀ m ∈ members, key < m.1) : addMissing key value members = (key, value) :: members := by
  cases members with
  | nil => rfl
  | cons head rest =>
    obtain ⟨k, v⟩ := head
    rw [addMissing, if_pos (h (k, v) List.mem_cons_self)]

theorem keysIncrease_canonicalMembers (members : List (String × Json)) :
    KeysIncrease (canonicalMembers members) := by
  induction members with
  | nil => simp [canonicalMembers, KeysIncrease]
  | cons head rest ih =>
    rw [canonicalMembers]
    exact keysIncrease_addMissing ih

theorem canonicalMembers_of_keysIncrease {members : List (String × Json)}
    (hkeys : KeysIncrease members) (hvalues : ∀ m ∈ members, m.2.canonical = m.2) :
    canonicalMembers members = members := by
  induction members with
  | nil => rfl
  | cons head rest ih =>
    obtain ⟨k, v⟩ := head
    have hrest := ih (List.pairwise_cons.1 hkeys).2
      (fun m hm => hvalues m (List.mem_cons_of_mem _ hm))
    have hv : v.canonical = v := hvalues (k, v) List.mem_cons_self
    rw [canonicalMembers, hrest, hv, addMissing_of_forall_lt (List.pairwise_cons.1 hkeys).1]

theorem canonical_of_mem_canonicalMembers {members : List (String × Json)}
    (h : ∀ m ∈ members, m.2.canonical.canonical = m.2.canonical) :
    ∀ m ∈ canonicalMembers members, m.2.canonical = m.2 := by
  induction members with
  | nil => simp [canonicalMembers]
  | cons head rest ih =>
    obtain ⟨k, v⟩ := head
    intro m hm
    rw [canonicalMembers] at hm
    rcases mem_addMissing hm with rfl | hm
    · exact h (k, v) List.mem_cons_self
    · exact ih (fun m hm => h m (List.mem_cons_of_mem _ hm)) m hm

mutual

theorem canonical_canonical : (value : Json) → value.canonical.canonical = value.canonical
  | .null | .bool _ | .num _ | .str _ => rfl
  | .arr items => by simp only [canonical, canonicalItems_canonicalItems items]
  | .obj members => by
    simp only [canonical]
    rw [canonicalMembers_of_keysIncrease (keysIncrease_canonicalMembers members)
      (canonical_of_mem_canonicalMembers (canonical_canonical_of_mem members))]

theorem canonicalItems_canonicalItems :
    (items : List Json) → canonicalItems (canonicalItems items) = canonicalItems items
  | [] => rfl
  | item :: items => by
    simp only [canonicalItems, canonical_canonical item, canonicalItems_canonicalItems items]

theorem canonical_canonical_of_mem : (members : List (String × Json)) →
    ∀ m ∈ members, m.2.canonical.canonical = m.2.canonical
  | [] => by simp
  | (_, value) :: members => fun m hm => by
    rcases List.mem_cons.1 hm with rfl | hm
    · exact canonical_canonical value
    · exact canonical_canonical_of_mem members m hm

end

theorem canonicalMembers_canonicalMembers (members : List (String × Json)) :
    canonicalMembers (canonicalMembers members) = canonicalMembers members :=
  canonicalMembers_of_keysIncrease (keysIncrease_canonicalMembers members)
    (canonical_of_mem_canonicalMembers fun m _ => canonical_canonical m.2)

/-- The members of an object, each name once, in key order, the values canonical. -/
structure Members where
  entries : List (String × Json)
  canonical_entries : canonicalMembers entries = entries

namespace Members

def empty : Members := ⟨[], rfl⟩

/-- Of several members with one name the last stays. -/
def ofList (members : List (String × Json)) : Members :=
  ⟨canonicalMembers members, canonicalMembers_canonicalMembers members⟩

def get? (members : Members) (key : String) : Option Json := members.entries.lookup key

/-- The members with `key` given a new value. -/
def put (members : Members) (key : String) (value : Json) : Members :=
  ofList (members.entries ++ [(key, value)])

/-- The members that `keep` accepts by name. -/
def filter (members : Members) (keep : String → Bool) : Members :=
  ofList (members.entries.filter fun m => keep m.1)

theorem ext {a b : Members} (h : a.entries = b.entries) : a = b := by
  cases a; cases b; cases h; rfl

end Members

/-- An order in which members are written. It is not part of what they say. -/
structure Listing where
  list : Members → List (String × Json)
  perm : ∀ members, (list members).Perm members.entries

/-- Members in the order of their names. -/
def Listing.sorted : Listing := ⟨Members.entries, fun _ => .refl _⟩

end TokenAuth.Json
