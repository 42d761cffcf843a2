import Mathlib
import ScriptHost.Data.Fields

/-! Fields made of entries in any order: the names ascend, and each has the value of its last
entry. There is one list of fields like that. -/

namespace ScriptHost.Fields

variable {α : Type}

/-- Names strictly ascending, so that none stands twice. -/
abbrev Sorted (fields : Fields α) : Prop := fields.Pairwise fun before after => before.1 < after.1

theorem lookup_cons (key name : String) (value : α) (rest : Fields α) :
    List.lookup key ((name, value) :: rest) =
      if key = name then some value else List.lookup key rest := by
  by_cases same : key = name
  · simp [same]
  · have differs : (key == name) = false := by simpa using same
    simp [List.lookup, differs, same]

theorem get?_mapValues {β : Type} (f : α → β) (fields : Fields α) (name : String) :
    (fields.mapValues f).get? name = (fields.get? name).map f := by
  induction fields with
  | nil => rfl
  | cons entry rest ih =>
    rw [mapValues, List.map_cons, get?, lookup_cons, get?, lookup_cons]
    split
    · rfl
    · exact ih

theorem get?_insert (name key : String) (value : α) (fields : Fields α) :
    (insert name value fields).get? key = if key = name then some value else fields.get? key := by
  induction fields with
  | nil =>
    rw [insert, get?, lookup_cons]
    rfl
  | cons entry rest ih =>
    obtain ⟨other, old⟩ := entry
    simp only [get?] at ih ⊢
    rw [insert]
    split
    · rw [lookup_cons]
    split
    · rename_i same
      subst same
      simp only [lookup_cons]
      split <;> rfl
    · rename_i differs
      by_cases own : key = other
      · have apart : ¬ other = name := Ne.symm differs
        simp [own, apart]
      · simp [lookup_cons, own, ih]

/-- The fields of both; where both have a name, the value is that of the first. -/
def union (first second : Fields α) : Fields α :=
  first.foldr (fun entry fields => fields.insert entry.1 entry.2) second

theorem get?_union (first second : Fields α) (name : String) :
    (first.union second).get? name = (first.get? name).or (second.get? name) := by
  induction first with
  | nil => rfl
  | cons entry rest ih =>
    obtain ⟨other, value⟩ := entry
    rw [union, List.foldr_cons, get?_insert, get?.eq_def ((other, value) :: rest), lookup_cons]
    split
    · rfl
    · exact ih

theorem lookup_eq_none_of_lt {fields : Fields α} {key : String}
    (above : ∀ entry ∈ fields, key < entry.1) : fields.lookup key = none := by
  rw [List.lookup_eq_none_iff]
  intro entry member
  simpa using (above entry member).ne

theorem lookup_before {key name : String} {value : α} {rest : Fields α}
    (sorted : Sorted ((name, value) :: rest)) (before : key < name) :
    List.lookup key ((name, value) :: rest) = none := by
  refine lookup_eq_none_of_lt fun entry member => ?_
  rcases List.mem_cons.mp member with rfl | member
  · exact before
  · exact before.trans ((List.pairwise_cons.mp sorted).1 entry member)

theorem lookup_insertNew {fields : Fields α} (sorted : fields.Sorted) (name key : String)
    (value : α) : (insertNew name value fields).lookup key =
      if key = name then some ((fields.lookup name).getD value) else fields.lookup key := by
  induction fields with
  | nil => rw [insertNew, lookup_cons]; rfl
  | cons entry rest ih =>
    obtain ⟨other, old⟩ := entry
    obtain ⟨above, others⟩ := List.pairwise_cons.mp sorted
    rw [insertNew]
    split
    · rename_i before
      rw [lookup_cons, lookup_before sorted before]
      rfl
    split
    · rename_i same
      subst same
      by_cases own : key = name <;> simp [lookup_cons, own]
    · rename_i differs
      by_cases own : key = other
      · have apart : ¬ other = name := Ne.symm differs
        simp [own, apart]
      · simp [lookup_cons, own, differs, ih others]

theorem mem_insertNew {name : String} {value : α} {fields : Fields α} {entry : String × α}
    (member : entry ∈ insertNew name value fields) : entry.1 = name ∨ entry ∈ fields := by
  induction fields with
  | nil => exact .inl (by rw [List.mem_singleton.mp member])
  | cons first rest ih =>
    obtain ⟨other, old⟩ := first
    rw [insertNew] at member
    split at member
    · exact (List.mem_cons.mp member).imp_left fun same => by rw [same]
    split at member
    · exact .inr member
    · rcases List.mem_cons.mp member with rfl | member
      · exact .inr List.mem_cons_self
      · exact (ih member).imp_right (List.mem_cons_of_mem _)

theorem insertNew_sorted {fields : Fields α} (sorted : fields.Sorted) (name : String) (value : α) :
    (insertNew name value fields).Sorted := by
  induction fields with
  | nil => exact List.pairwise_singleton _ _
  | cons entry rest ih =>
    obtain ⟨other, old⟩ := entry
    obtain ⟨above, others⟩ := List.pairwise_cons.mp sorted
    rw [insertNew]
    split
    · rename_i before
      refine List.pairwise_cons.mpr ⟨fun entry member => ?_, sorted⟩
      rcases List.mem_cons.mp member with rfl | member
      · exact before
      · exact before.trans (above entry member)
    split
    · exact sorted
    · rename_i notBefore differs
      have after : other < name := lt_of_le_of_ne (not_lt.mp notBefore) (Ne.symm differs)
      refine List.pairwise_cons.mpr ⟨fun entry member => ?_, ih others⟩
      rcases mem_insertNew member with same | member
      · exact same ▸ after
      · exact above entry member

theorem ofList_sorted (entries : List (String × α)) : (ofList entries).Sorted := by
  induction entries with
  | nil => exact .nil
  | cons entry rest ih => exact insertNew_sorted ih entry.1 entry.2

/-- An entry is put among the fields, or is left out. -/
theorem insertNew_subperm (name : String) (value : α) (fields : Fields α) :
    (insertNew name value fields).Subperm ((name, value) :: fields) := by
  induction fields with
  | nil => exact .refl _
  | cons entry rest ih =>
    obtain ⟨key, old⟩ := entry
    rw [insertNew]
    split
    · exact .refl _
    split
    · exact .cons_self
    · exact ((List.subperm_cons (key, old)).mpr ih).trans (List.Perm.swap _ _ _).subperm

/-- Fields are some of the entries that they are made of, in an order of their own. -/
theorem ofList_subperm (entries : List (String × α)) : (ofList entries).Subperm entries := by
  induction entries with
  | nil => exact .refl _
  | cons entry rest ih =>
    exact (insertNew_subperm entry.1 entry.2 _).trans ((List.subperm_cons entry).mpr ih)

/-- Whatever is counted of fields, it is no more than what is counted of the entries. -/
theorem sum_map_le_of_subperm {fields entries : List (String × α)} (some : fields.Subperm entries)
    (count : String × α → Nat) : (fields.map count).sum ≤ (entries.map count).sum := by
  obtain ⟨kept, same, inside⟩ := some
  rw [← (same.map count).sum_eq]
  exact (inside.map count).sum_le_sum fun _ _ => Nat.zero_le _

/-- Of several entries of one name the last one counts. -/
theorem lookup_ofList (entries : List (String × α)) (key : String) :
    (ofList entries).lookup key = entries.reverse.lookup key := by
  induction entries with
  | nil => rfl
  | cons entry rest ih =>
    obtain ⟨name, value⟩ := entry
    show (insertNew name value (ofList rest)).lookup key = _
    rw [lookup_insertNew (ofList_sorted rest), List.reverse_cons, List.lookup_append, lookup_cons,
      ih]
    by_cases same : key = name
    · subst same
      rw [if_pos rfl, if_pos rfl, ih]
      cases rest.reverse.lookup key <;> rfl
    · rw [if_neg same, if_neg same]
      simp

/-- Sorted fields are told apart by what they hold under some name. -/
theorem eq_of_lookup_eq {first second : Fields α} (one : first.Sorted) (other : second.Sorted)
    (same : ∀ key, first.lookup key = second.lookup key) : first = second := by
  induction first generalizing second with
  | nil =>
    cases second with
    | nil => rfl
    | cons entry rest =>
      obtain ⟨name, value⟩ := entry
      simpa using same name
  | cons entry rest ih =>
    obtain ⟨name, value⟩ := entry
    obtain ⟨above, sorted⟩ := List.pairwise_cons.mp one
    cases second with
    | nil => simpa using same name
    | cons entry' rest' =>
      obtain ⟨name', value'⟩ := entry'
      obtain ⟨above', sorted'⟩ := List.pairwise_cons.mp other
      have names : name = name' := by
        by_contra differs
        rcases lt_or_gt_of_ne differs with before | after
        · simpa [lookup_before other before] using same name
        · simpa [lookup_before one after] using same name'
      subst names
      have values : value = value' := by simpa using same name
      have tails : rest = rest' := by
        refine ih sorted sorted' fun key => ?_
        by_cases own : key = name
        · rw [own, lookup_eq_none_of_lt above, lookup_eq_none_of_lt above']
        · simpa [lookup_cons, own] using same key
      rw [values, tails]

end ScriptHost.Fields
