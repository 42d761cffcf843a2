import ScriptHost.Proofs.Script.Growing
import ScriptHost.Proofs.Script.Unfolding

/-! What arrays and records have inside, when they are looked at from outside of the engine. An array
has its items in order. A record has its properties, though not in the order in which they came: those
that are indices are listed first. -/

namespace ScriptHost.Script

theorem mapM_eq_some {α β : Type} {f : α → Option β} {g : α → β} {items : List α}
    (each : ∀ a ∈ items, f a = some (g a)) : items.mapM f = some (items.map g) := by
  induction items with
  | nil => rfl
  | cons first rest ih =>
    rw [List.mapM_cons, each first List.mem_cons_self,
      ih fun a member => each a (List.mem_cons_of_mem _ member)]
    rfl

theorem lookup_of_mem {κ α : Type} [BEq κ] [LawfulBEq κ] {entries : List (κ × α)} {key : κ} {a : α}
    (once : (entries.map (·.1)).Nodup) (member : (key, a) ∈ entries) :
    entries.lookup key = some a := by
  induction entries with
  | nil => cases member
  | cons entry rest ih =>
    obtain ⟨other, b⟩ := entry
    obtain ⟨new, others⟩ := List.nodup_cons.mp once
    rcases List.mem_cons.mp member with same | inside
    · obtain ⟨rfl, rfl⟩ := Prod.mk.inj same
      exact List.lookup_cons_self
    · have apart : (key == other) = false := by
        have differ : key ≠ other := fun same =>
          new (List.mem_map.mpr ⟨(key, a), inside, same⟩)
        simpa using differ
      rw [List.lookup_cons, apart]
      exact ih others inside

/-- Keys with text, those that are indices taken out and put in front. -/
theorem perm_of_places {keys : List Key} {place : Key → Option Nat} {named symbolic : Key → Bool}
    (text : ∀ k ∈ keys, k.isText) (ofIndex : ∀ n, place (.index n) = some n)
    (ofName : ∀ s, place (.name s) = none) (indices : ∀ n, named (.index n) = false)
    (names : ∀ s, named (.name s) = true) (none : ∀ k, k.isText → symbolic k = false) :
    ((keys.filterMap place).map Key.index ++ keys.filter named ++ keys.filter symbolic).Perm keys := by
  have free : keys.filter symbolic = [] :=
    List.filter_eq_nil_iff.mpr fun k member => by simp [none k (text k member)]
  rw [free, List.append_nil]
  clear free
  induction keys with
  | nil => exact .nil
  | cons k rest ih =>
    have others := ih fun k member => text k (List.mem_cons_of_mem _ member)
    cases k with
    | index n =>
      rw [List.filterMap_cons_some (ofIndex n), List.filter_cons_of_neg (by simp [indices])]
      exact others.cons _
    | name s =>
      rw [List.filterMap_cons_none (ofName s), List.filter_cons_of_pos (names s)]
      exact List.perm_middle.trans (others.cons _)
    | symbol id => cases text _ List.mem_cons_self
    | hidden id => cases text _ List.mem_cons_self

theorem Key.string?_ofString (s : String) : (Key.ofString s).string? = some s := by
  unfold Key.string?
  rw [Key.text?_ofString]

namespace Heap

variable {h : Heap} {r : Ref}

theorem layout?_arrayOf {values : List Value} (known : h.objects[r]? = some (.arrayOf values))
    (short : values.length < sizeBound) : h.layout? r = some (.items values) := by
  have kind : h.kind r = .array values.toArray values.length false := by
    unfold Heap.kind
    rw [object_of_known known]
    rfl
  have each : ∀ i ∈ List.range values.length,
      h.settled? r (.ofNat i) = some (values.getD i .undefined) := by
    intro i member
    have inside := List.mem_range.mp member
    have key : Key.ofNat i = .index i := by
      have bound : sizeBound = Key.indexBound + 1 := by decide
      exact if_pos (by omega)
    have item : values.toArray[i]? = some values[i] := by simp [inside]
    have own : h.ownProperty r (.index i) = some (.plain values[i]) := by
      rw [ownProperty_item known rfl, item]
    have found : h.lookup r (.index i) = .property (.plain values[i]) := search_own known rfl own _
    have unset : Comp.unsetName h r (.index i) = false := by
      unfold Comp.unsetName
      rw [kind]
    unfold settled?
    rw [key, unset, found]
    simp [Property.value?, Property.plain, inside]
  have whole : (List.range values.length).map (fun i => values.getD i .undefined) = values := by
    refine List.ext_getElem (by simp) fun i less inside => ?_
    simp [inside]
  unfold layout?
  rw [kind]
  dsimp only
  rw [if_pos short, mapM_eq_some each, whole]
  rfl

/-- The name of a key, and what is read under it. -/
def entry (h : Heap) (r : Ref) (k : Key) : String × Value :=
  (k.string?.getD "", (h.settled? r k).getD .undefined)

section

variable {values : List (String × Value)} (known : h.objects[r]? = some (.recordOf values))
  (once : (values.map (·.1)).Nodup)

include once in
theorem find?_field {field : String × Value} (member : field ∈ values) :
    (Object.recordOf values).find? (Key.ofString field.1) = some (.plain field.2) := by
  rw [Object.find?_recordOf, lookup_of_mem once member]
  rfl

include known

theorem ownKeys_recordOf : (h.ownKeys r).Perm (values.map fun field => Key.ofString field.1) := by
  have text : ∀ k ∈ values.map fun field => Key.ofString field.1, k.isText := by
    intro k member
    obtain ⟨field, -, rfl⟩ := List.mem_map.mp member
    exact Key.isText_ofString field.1
  have keys : (h.object r).props.toList.map (·.1) = values.map fun field => Key.ofString field.1 := by
    rw [object_of_known known]
    simp [Object.recordOf]
  have kind : (h.object r).kind = .ordinary := by
    rw [object_of_known known]
    rfl
  unfold ownKeys
  dsimp only
  rw [kind, keys]
  simp only [List.nil_append, List.append_nil]
  refine ((((List.mergeSort_perm _ _).map Key.index).append_right _).append_right _).trans
    (perm_of_places text (fun _ => rfl) (fun _ => rfl) (fun _ => rfl) (fun _ => rfl) ?_)
  rintro (_ | _ | _ | _) text
  · rfl
  · rfl
  · cases text
  · cases text

include once

theorem settled?_field {field : String × Value} (member : field ∈ values) :
    h.settled? r (Key.ofString field.1) = some field.2 :=
  (settled?_own known rfl (find?_field once member)).trans rfl

theorem entry_field {field : String × Value} (member : field ∈ values) :
    h.entry r (Key.ofString field.1) = field := by
  unfold entry
  rw [Key.string?_ofString, settled?_field known once member]
  rfl

theorem listed_recordOf : (h.listed r).Perm (values.map fun field => Key.ofString field.1) := by
  have all := ((ownKeys_recordOf known).filter Key.isText).filter fun k =>
    (h.ownProperty r k).any (·.enumerable)
  refine all.trans (.of_eq ?_)
  rw [List.filter_filter]
  refine List.filter_eq_self.mpr fun k member => ?_
  obtain ⟨field, inside, rfl⟩ := List.mem_map.mp member
  rw [ownProperty_ordinary known rfl, find?_field once inside, Key.isText_ofString]
  rfl

theorem layout?_recordOf (short : values.length < sizeBound) :
    ∃ listed, h.layout? r = some (.fields listed) ∧ listed.Perm values := by
  have kind : h.kind r = .ordinary := by
    unfold Heap.kind
    rw [object_of_known known]
    rfl
  have size : (h.object r).props.size = values.length := by
    rw [object_of_known known]
    simp [Object.recordOf]
  have each : ∀ k ∈ h.listed r, (do return (← k.string?, ← h.settled? r k) : Option (String × Value)) =
      some (h.entry r k) := by
    intro k member
    obtain ⟨field, inside, rfl⟩ := List.mem_map.mp ((listed_recordOf known once).mem_iff.mp member)
    rw [Key.string?_ofString, settled?_field known once inside, entry_field known once inside]
    rfl
  have entries : (values.map fun field => Key.ofString field.1).map (h.entry r) = values := by
    rw [List.map_map]
    exact (List.map_congr_left fun field inside => entry_field known once inside).trans
      (List.map_id values)
  refine ⟨(h.listed r).map (h.entry r), ?_, ((listed_recordOf known once).map _).trans (.of_eq entries)⟩
  unfold layout?
  rw [kind]
  dsimp only
  rw [size, if_pos short, mapM_eq_some each]
  rfl

end

end Heap

end ScriptHost.Script
