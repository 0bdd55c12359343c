import Mathlib.Data.List.Nodup
import TokenAuth.Settings.Source

/-!
# Laying sources over each other

A source is laid over those before it entry by entry. At one member of one table of the settings,
what stands there in the end is what the source puts there by itself, or else what stood there
before (`Layer.laid_apply`), unless the source puts anything but a table in the place of that table
(`Layer.Keeps`): then nothing of those before it is left.
-/

namespace TokenAuth

namespace Setting

/-! ### Members of a table -/

def keys (members : Members) : List String := members.map Prod.fst

theorem keys_update (key : String) (f : Option Setting → Setting) (members : Members) :
    keys (update key f members) =
      if key ∈ keys members then keys members else keys members ++ [key] := by
  induction members with
  | nil => rfl
  | cons member rest ih =>
    obtain ⟨k, v⟩ := member
    by_cases h : k = key
    · simp [update, keys, h]
    · have hmem : key ∈ keys ((k, v) :: rest) ↔ key ∈ keys rest := by
        simp [keys, Ne.symm h]
      have hstep : keys (update key f ((k, v) :: rest)) = k :: keys (update key f rest) := by
        simp [update, keys, h]
      rw [hstep, ih, if_congr hmem rfl rfl]
      split <;> rfl

theorem mem_keys_update {key k : String} {f : Option Setting → Setting} {members : Members} :
    k ∈ keys (update key f members) ↔ k ∈ keys members ∨ k = key := by
  rw [keys_update]
  split
  · next hmem => exact ⟨.inl, fun h => h.elim id fun heq => heq ▸ hmem⟩
  · simp

theorem nodup_keys_update {members : Members} (h : (keys members).Nodup) (key : String)
    (f : Option Setting → Setting) : (keys (update key f members)).Nodup := by
  rw [keys_update]
  split
  · exact h
  · next hmem => simpa only [List.concat_eq_append] using h.concat hmem

theorem ne_nil_of_mem_keys {k : String} {members : Members} (h : k ∈ keys members) :
    members ≠ [] := by
  rintro rfl
  exact nomatch h

theorem mem_keys_ontoAll {k : String} {incoming : Members} : ∀ {members : Members},
    k ∈ keys (ontoAll incoming members) ↔
      k ∈ keys members ∨ k ∈ (keys incoming).map foldCase := by
  induction incoming with
  | nil => simp [ontoAll, keys]
  | cons member rest ih =>
    intro members
    obtain ⟨key, value⟩ := member
    rw [ontoAll, ih, mem_keys_update]
    simp only [keys, List.map_cons, List.mem_cons, or_assoc]

theorem nodup_keys_ontoAll {incoming : Members} : ∀ {members : Members},
    (keys members).Nodup → (keys (ontoAll incoming members)).Nodup := by
  induction incoming with
  | nil => exact fun h => by rwa [ontoAll]
  | cons member rest ih =>
    intro members h
    obtain ⟨key, value⟩ := member
    rw [ontoAll]
    exact ih (nodup_keys_update h _ _)

/-- A table lays its members over those of the table that was there. Without members it does
not even take the place of anything else. -/
theorem onto_table {incoming : Members} (h : incoming ≠ []) (origin : Option String)
    (old : Option Setting) :
    onto (table origin incoming) old =
      table (tableParts old).1 (ontoAll incoming (tableParts old).2) := by
  obtain ⟨member, rest, rfl⟩ := List.exists_cons_of_ne_nil h
  match old with
  | none => simp [onto, tableParts]
  | some (scalar o v) => simp [onto, tableParts]
  | some (list o items) => simp [onto, tableParts]
  | some (table o members) => simp [onto, tableParts]

theorem onto_table_nil_some (origin : Option String) (old : Setting) :
    onto (table origin []) (some old) = old := by
  cases old <;> simp [onto]

theorem assign_key (value : Setting) (name : String) (steps : List Step) (old : Option Setting) :
    assign value (.key name :: steps) old =
      table (tableParts old).1 (update (foldCase name) (assign value steps) (tableParts old).2) :=
  rfl

/-! ### Paths from a table -/

/-- The member of the table at the top that a name goes to, and the steps from there. -/
def pathParts (name : String) : String × List Step :=
  match Path.read? name with
  | some (.key head :: steps) => (foldCase head, steps)
  | _ => (foldCase name, [])

theorem exists_key_of_read? {name : String} {steps : List Step}
    (h : Path.read? name = some steps) : ∃ head rest, steps = .key head :: rest := by
  rw [Path.read?, Path.steps?] at h
  split at h
  · cases h
  · obtain ⟨rest, -, h⟩ := Option.bind_eq_some_iff.mp h
    exact ⟨_, rest, (Option.some.inj h).symm⟩

theorem put_eq_update (members : Members) (name : String) (value : Setting) :
    put members name value =
      update (pathParts name).1 (assign value (pathParts name).2) members := by
  unfold put pathParts
  match h : Path.read? name with
  | none => simp [assign, tableParts]
  | some steps =>
    obtain ⟨head, rest, rfl⟩ := exists_key_of_read? h
    simp [assign, tableParts]

/-! ### What one source does to one place -/

/-- What stands at a place when a source alone is there, beside what stands there when the source
is laid over `old`. -/
inductive Laid (old : Option Setting) : Option Setting → Option Setting → Prop
  | untouched : Laid old none old
  | empty : Laid old (some (table none [])) (some (old.getD (table none [])))
  | scalar (origin : Option String) (value : Scalar) :
      Laid old (some (.scalar origin value)) (some (.scalar origin value))
  | list (origin origin' : Option String) (items items' : List Setting) :
      Laid old (some (.list origin items)) (some (.list origin' items'))
  | table (origin origin' : Option String) {members members' : Members} (hne : members ≠ [])
      (hnodup : (keys members).Nodup) (hsub : keys members ⊆ keys members') :
      Laid old (some (.table origin members)) (some (.table origin' members'))

namespace Laid

variable {old alone full : Option Setting}

theorem keys_subset (h : Laid old alone full) :
    keys (tableParts alone).2 ⊆ keys (tableParts full).2 := by
  cases h with
  | table _ _ _ _ hsub => exact hsub
  | _ => exact List.nil_subset _

theorem nodup_keys (h : Laid old alone full) : (keys (tableParts alone).2).Nodup := by
  cases h with
  | table _ _ _ hnodup _ => exact hnodup
  | _ => exact List.nodup_nil

theorem onto (h : Laid old alone full) (value : Setting) :
    Laid old (some (Setting.onto value alone)) (some (Setting.onto value full)) := by
  match value with
  | .scalar origin v => simpa [Setting.onto] using .scalar origin v
  | .list origin items => simpa [Setting.onto] using .list origin origin items items
  | .table origin [] =>
    cases h with
    | untouched =>
      cases old with
      | none => simpa [Setting.onto, ontoAll] using .empty
      | some old => simpa only [onto_table_nil_some] using .empty
    | empty => simpa only [onto_table_nil_some] using .empty
    | scalar o v => simpa only [onto_table_nil_some] using .scalar o v
    | list o o' items items' => simpa only [onto_table_nil_some] using .list o o' items items'
    | table o o' hne hnodup hsub =>
      simpa only [onto_table_nil_some] using .table o o' hne hnodup hsub
  | .table origin (member :: rest) =>
    simp only [onto_table (List.cons_ne_nil member rest)]
    refine .table _ _ ?_ (nodup_keys_ontoAll h.nodup_keys) ?_
    · exact ne_nil_of_mem_keys (mem_keys_ontoAll.mpr (.inr List.mem_cons_self))
    · intro k hk
      exact mem_keys_ontoAll.mpr ((mem_keys_ontoAll.mp hk).imp_left (h.keys_subset ·))

theorem assign (h : Laid old alone full) (value : Setting) (steps : List Step) :
    Laid old (some (Setting.assign value steps alone))
      (some (Setting.assign value steps full)) := by
  match steps with
  | [] => exact h.onto value
  | .index n :: steps => exact .list _ _ _ _
  | .key name :: steps =>
    simp only [assign_key]
    refine .table _ _ ?_ (nodup_keys_update h.nodup_keys _ _) ?_
    · exact ne_nil_of_mem_keys (mem_keys_update.mpr (.inr rfl))
    · intro k hk
      exact mem_keys_update.mpr ((mem_keys_update.mp hk).imp_left (h.keys_subset ·))

/-- The same at a member of two tables, when one of their members is changed. -/
theorem lookup_update {name key : String} {a b : Members}
    (h : Laid old (a.lookup name) (b.lookup name)) (value : Setting) (steps : List Step) :
    Laid old ((update key (Setting.assign value steps) a).lookup name)
      ((update key (Setting.assign value steps) b).lookup name) := by
  by_cases hname : name = key
  · subst hname
    rw [lookup_update_self, lookup_update_self]
    exact h.assign value steps
  · rwa [lookup_update_of_ne hname, lookup_update_of_ne hname]

theorem lookup_ontoAll {name : String} {incoming : Members} : ∀ {a b : Members},
    Laid old (a.lookup name) (b.lookup name) →
      Laid old ((ontoAll incoming a).lookup name) ((ontoAll incoming b).lookup name) := by
  induction incoming with
  | nil => exact fun h => by simpa only [ontoAll] using h
  | cons member rest ih =>
    intro a b h
    obtain ⟨key, value⟩ := member
    simp only [ontoAll]
    exact ih (h.lookup_update value [])

end Laid

/-! ### What one source does to one member of a table -/

/-- What stands at a member of the table that a name at the top has. -/
def leaf? (head name : String) (members : Members) : Option Setting :=
  (tableParts (members.lookup head)).2.lookup name

/-- A value that is put some steps into a table leaves a table: it is put at a member, or it is a
table itself. -/
inductive LeavesTable : List Step → Setting → Prop
  | member (name : String) (steps : List Step) (value : Setting) :
      LeavesTable (.key name :: steps) value
  | table (origin : Option String) (members : Members) : LeavesTable [] (.table origin members)

instance : ∀ steps value, Decidable (LeavesTable steps value)
  | .key name :: steps, value => .isTrue (.member name steps value)
  | [], .table origin members => .isTrue (.table origin members)
  | [], .scalar _ _ => .isFalse fun h => nomatch h
  | [], .list _ _ => .isFalse fun h => nomatch h
  | .index _ :: _, _ => .isFalse fun h => nomatch h

theorem tableParts_onto_table (origin : Option String) (incoming : Members)
    (old : Option Setting) :
    (tableParts (some (onto (table origin incoming) old))).2 =
      ontoAll incoming (tableParts old).2 := by
  match incoming, old with
  | [], none => simp [onto, tableParts]
  | [], some old => simp [onto_table_nil_some, ontoAll]
  | member :: rest, old => rw [onto_table (List.cons_ne_nil member rest)]; rfl

theorem tableParts_assign_of_not_leavesTable {steps : List Step} {value : Setting}
    (h : ¬ LeavesTable steps value) (old : Option Setting) :
    (tableParts (some (assign value steps old))).2 = [] := by
  match steps, value with
  | .key name :: steps, value => exact absurd (.member name steps value) h
  | [], .table origin members => exact absurd (.table origin members) h
  | [], .scalar _ _ => simp [assign, onto, tableParts]
  | [], .list _ _ => simp [assign, onto, tableParts]
  | .index _ :: _, _ => rfl

theorem Laid.put {old : Option Setting} {head name : String} {a b : Members}
    (h : Laid old (leaf? head name a) (leaf? head name b)) {path : String} {value : Setting}
    (hkeeps : (pathParts path).1 = head → LeavesTable (pathParts path).2 value) :
    Laid old (leaf? head name (Setting.put a path value))
      (leaf? head name (Setting.put b path value)) := by
  rw [put_eq_update, put_eq_update]
  by_cases hhead : (pathParts path).1 = head
  · unfold leaf? at h ⊢
    rw [hhead, lookup_update_self, lookup_update_self]
    generalize (pathParts path).2 = steps at hkeeps
    cases hkeeps hhead with
    | member key steps => exact h.lookup_update value steps
    | table origin incoming =>
      simp only [Setting.assign, tableParts_onto_table]
      exact h.lookup_ontoAll
  · unfold leaf?
    rwa [lookup_update_of_ne (Ne.symm hhead), lookup_update_of_ne (Ne.symm hhead)]

theorem leaf?_put_of_not_leavesTable {head path : String} {value : Setting}
    (hhead : (pathParts path).1 = head) (h : ¬ LeavesTable (pathParts path).2 value)
    (name : String) (members : Members) : leaf? head name (put members path value) = none := by
  rw [leaf?, put_eq_update, hhead, lookup_update_self, tableParts_assign_of_not_leavesTable h]
  rfl

theorem lookup_put_member {head key path : String} (hpath : pathParts path = (head, [.key key]))
    (members : Members) (value : Setting) :
    (put members path value).lookup head =
      some (table (tableParts (members.lookup head)).1
        (update (foldCase key) (onto value) (tableParts (members.lookup head)).2)) := by
  rw [put_eq_update, hpath, lookup_update_self]
  rfl

/-- A table without members is no value: laid over one, it changes nothing. -/
def given? : Option Setting → Option Setting
  | some (table _ []) => none
  | place => place

end Setting

namespace Layer

open Setting

variable {layer : Layer} {head : String}

/-- Whatever the source puts at a name or into it, it leaves a table there. -/
def Keeps (layer : Layer) (head : String) : Prop :=
  ∀ entry ∈ layer, (pathParts entry.1).1 = head → LeavesTable (pathParts entry.1).2 entry.2

instance : Decidable (layer.Keeps head) :=
  inferInstanceAs (Decidable (∀ entry ∈ layer, _ → _))

/-- The value that a source by itself has for a member of the table at a name. -/
def value? (layer : Layer) (head name : String) : Option Setting :=
  given? (leaf? head name (layer.apply []))

/-- The sources that count for the table at a name, out of sources with the last one first: one that
puts anything but a table there leaves nothing of those before it. -/
def visible (head : String) : List Layer → List Layer
  | [] => []
  | source :: rest => if source.Keeps head then source :: visible head rest else [source]

theorem findSome?_visible_cons {α : Type} (source : Layer) (rest : List Layer)
    (value? : Layer → Option α) :
    (visible head (source :: rest)).findSome? value? =
      (value? source <|>
        if source.Keeps head then (visible head rest).findSome? value? else none) := by
  rw [visible]
  split <;> cases h : value? source <;> simp [h]

theorem apply_cons (members : Members) (path : String) (value : Setting) (rest : Layer) :
    apply members ((path, value) :: rest) = apply (put members path value) rest :=
  rfl

theorem keeps_nil (head : String) : Keeps [] head :=
  fun _ h => nomatch h

theorem keeps_cons_iff {path : String} {value : Setting} :
    Keeps ((path, value) :: layer) head ↔
      ((pathParts path).1 = head → LeavesTable (pathParts path).2 value) ∧ layer.Keeps head :=
  List.forall_mem_cons

theorem laid_foldl {old : Option Setting} {name : String} {a b : Members} :
    Laid old (leaf? head name a) (leaf? head name b) →
      Laid (if layer.Keeps head then old else none) (leaf? head name (layer.apply a))
        (leaf? head name (layer.apply b)) := by
  induction layer generalizing old a b with
  | nil =>
    intro h
    rwa [if_pos (keeps_nil head)]
  | cons entry rest ih =>
    intro h
    obtain ⟨path, value⟩ := entry
    rw [apply_cons, apply_cons, if_congr keeps_cons_iff rfl rfl]
    by_cases hentry : (pathParts path).1 = head → LeavesTable (pathParts path).2 value
    · rw [if_congr (and_iff_right hentry) rfl rfl]
      exact ih (h.put hentry)
    · obtain ⟨hhead, hleaves⟩ := Classical.not_imp.mp hentry
      -- Both places are gone with their tables, so nothing of what stood there is left.
      have hgone : Laid none (leaf? head name (put a path value))
          (leaf? head name (put b path value)) := by
        rw [leaf?_put_of_not_leavesTable hhead hleaves, leaf?_put_of_not_leavesTable hhead hleaves]
        exact .untouched
      rw [if_neg fun hboth => hentry hboth.1]
      simpa only [ite_self] using ih hgone

/-- **A source at one place.** Laid over other settings it leaves there what it puts there by
itself, or, if it has kept the table, what stood there. -/
theorem laid_apply (layer : Layer) (head name : String) (members : Members) :
    Laid (if layer.Keeps head then leaf? head name members else none)
      (leaf? head name (layer.apply [])) (leaf? head name (layer.apply members)) :=
  laid_foldl .untouched

end Layer

end TokenAuth
