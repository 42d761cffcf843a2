import ScriptHost.Proofs.Data.Fields
import ScriptHost.Scenario.Run

/-! Replacing references to saved values. What a pass does is said here by a relation, without the map of saved
values: what it puts in is not looked at again. So a second pass, with other saved values, finds the references
that the first one left and those that it put in. If it put in none, both passes together are one with the
saved values of both. -/

namespace ScriptHost

namespace Json

mutual

/-- The strings in a value. The names of members are not among them. -/
def texts : Json → List String
  | .string s => [s]
  | .array items => textsOfItems items
  | .object fields => textsOfFields fields
  | _ => []

def textsOfItems : List Json → List String
  | [] => []
  | item :: rest => item.texts ++ textsOfItems rest

def textsOfFields : List (String × Json) → List String
  | [] => []
  | (_, value) :: rest => value.texts ++ textsOfFields rest

end

end Json

namespace Scenario

open Json

/-! ### One pass -/

mutual

/-- The value with every string that is a dollar sign and a bound name replaced by what the name is bound
to. What is put in its place is not looked at again, and the names of members are left alone. -/
inductive Replaced (bound : String → Json → Prop) : Json → Json → Prop where
  | reference {name : String} {value : Json} (known : bound name value) :
      Replaced bound (.string ("$" ++ name)) value
  | text {s : String} (unknown : ∀ name value, s = "$" ++ name → ¬ bound name value) :
      Replaced bound (.string s) (.string s)
  | null : Replaced bound .null .null
  | bool (b : Bool) : Replaced bound (.bool b) (.bool b)
  | int (i : Int) : Replaced bound (.int i) (.int i)
  | float (d : Double) : Replaced bound (.float d) (.float d)
  | array {items results : List Json} (each : ReplacedItems bound items results) :
      Replaced bound (.array items) (.array results)
  | object {fields results : List (String × Json)} (each : ReplacedFields bound fields results) :
      Replaced bound (.object fields) (.object results)

inductive ReplacedItems (bound : String → Json → Prop) : List Json → List Json → Prop where
  | nil : ReplacedItems bound [] []
  | cons {item result : Json} {rest results : List Json} (first : Replaced bound item result)
      (others : ReplacedItems bound rest results) :
      ReplacedItems bound (item :: rest) (result :: results)

inductive ReplacedFields (bound : String → Json → Prop) :
    List (String × Json) → List (String × Json) → Prop where
  | nil : ReplacedFields bound [] []
  | cons {name : String} {value result : Json} {rest results : List (String × Json)}
      (first : Replaced bound value result) (others : ReplacedFields bound rest results) :
      ReplacedFields bound ((name, value) :: rest) ((name, result) :: results)

end

/-- Do the saved values say what the names are bound to? -/
def Shows (saved : Fields Json) (bound : String → Json → Prop) : Prop :=
  ∀ name value, bound name value ↔ saved.get? name = some value

theorem reference?_eq_some_iff {saved : Fields Json} {s : String} {value : Json} :
    reference? saved s = some value ↔ ∃ name, s = "$" ++ name ∧ saved.get? name = some value := by
  unfold reference?
  constructor
  · intro found
    split at found
    · rename_i name shape
      refine ⟨String.ofList name, ?_, found⟩
      rw [← String.toList_inj, shape]
      simp
    · cases found
  · rintro ⟨name, rfl, found⟩
    have shape : ("$" ++ name).toList = '$' :: name.toList := by
      rw [String.toList_append]
      rfl
    simpa only [shape, String.ofList_toList] using found

variable {saved : Fields Json} {bound : String → Json → Prop}

mutual

theorem replaced_iff (shows : Shows saved bound) : ∀ x y : Json,
    Replaced bound x y ↔ substitute saved x = y
  | .string s, y => by
    rw [substitute]
    constructor
    · rintro (known | unknown)
      · have found := reference?_eq_some_iff.mpr ⟨_, rfl, (shows _ _).mp known⟩
        rw [found]
        rfl
      · have missing : reference? saved s = none := by
          refine Option.eq_none_iff_forall_ne_some.mpr fun value found => ?_
          obtain ⟨name, same, held⟩ := reference?_eq_some_iff.mp found
          exact unknown name value same ((shows _ _).mpr held)
        rw [missing]
        rfl
    · rintro rfl
      cases found : reference? saved s with
      | some value =>
        obtain ⟨name, rfl, held⟩ := reference?_eq_some_iff.mp found
        exact .reference ((shows _ _).mpr held)
      | none =>
        refine .text fun name value same known => ?_
        have held := reference?_eq_some_iff.mpr ⟨name, same, (shows _ _).mp known⟩
        rw [found] at held
        cases held
  | .null, y | .bool _, y | .int _, y | .float _, y => by
    constructor
    · rintro ⟨⟩
      rfl
    · rintro rfl
      constructor
  | .array items, y => by
    rw [substitute]
    constructor
    · rintro ⟨⟩
      rename_i each
      rw [(replacedItems_iff shows items _).mp each]
    · rintro rfl
      exact .array ((replacedItems_iff shows items _).mpr rfl)
  | .object fields, y => by
    rw [substitute]
    constructor
    · rintro ⟨⟩
      rename_i each
      rw [(replacedFields_iff shows fields _).mp each]
    · rintro rfl
      exact .object ((replacedFields_iff shows fields _).mpr rfl)

theorem replacedItems_iff (shows : Shows saved bound) : ∀ items results : List Json,
    ReplacedItems bound items results ↔ substituteItems saved items = results
  | [], results => by
    rw [substituteItems]
    constructor
    · rintro ⟨⟩
      rfl
    · rintro rfl
      exact .nil
  | item :: rest, results => by
    rw [substituteItems]
    constructor
    · rintro ⟨⟩
      rename_i first others
      rw [(replaced_iff shows item _).mp first, (replacedItems_iff shows rest _).mp others]
    · rintro rfl
      exact .cons ((replaced_iff shows item _).mpr rfl) ((replacedItems_iff shows rest _).mpr rfl)

theorem replacedFields_iff (shows : Shows saved bound) : ∀ fields results : List (String × Json),
    ReplacedFields bound fields results ↔ substituteFields saved fields = results
  | [], results => by
    rw [substituteFields]
    constructor
    · rintro ⟨⟩
      rfl
    · rintro rfl
      exact .nil
  | (name, value) :: rest, results => by
    rw [substituteFields]
    constructor
    · rintro ⟨⟩
      rename_i first others
      rw [(replaced_iff shows value _).mp first, (replacedFields_iff shows rest _).mp others]
    · rintro rfl
      exact .cons ((replaced_iff shows value _).mpr rfl) ((replacedFields_iff shows rest _).mpr rfl)

end

/-! ### Nothing to replace -/

/-- The string is not a dollar sign and a saved name. -/
def Plain (saved : Fields Json) (s : String) : Prop :=
  ∀ name, s = "$" ++ name → saved.get? name = none

/-- No value saved in the one refers to a name of the other. -/
def Settled (first second : Fields Json) : Prop :=
  ∀ name value, first.get? name = some value → ∀ s ∈ value.texts, Plain second s

/-- No name is saved in both. -/
def Apart (first second : Fields Json) : Prop :=
  ∀ name, first.get? name = none ∨ second.get? name = none

variable {first second : Fields Json}

theorem reference?_eq_none_iff {s : String} : reference? saved s = none ↔ Plain saved s := by
  rw [Option.eq_none_iff_forall_ne_some]
  constructor
  · intro missing name same
    refine Option.eq_none_iff_forall_ne_some.mpr fun value held => missing value ?_
    exact reference?_eq_some_iff.mpr ⟨name, same, held⟩
  · intro plain value found
    obtain ⟨name, same, held⟩ := reference?_eq_some_iff.mp found
    rw [plain name same] at held
    cases held

theorem reference?_union (s : String) :
    reference? (first.union second) s = (reference? first s).or (reference? second s) := by
  unfold reference?
  split
  · exact Fields.get?_union first second _
  · rfl

mutual

theorem substitute_of_plain : ∀ v : Json, (∀ s ∈ v.texts, Plain saved s) → substitute saved v = v
  | .string s, plain => by
    rw [texts, List.forall_mem_singleton] at plain
    rw [substitute, reference?_eq_none_iff.mpr plain]
    rfl
  | .array items, plain => by rw [substitute, substituteItems_of_plain items plain]
  | .object fields, plain => by rw [substitute, substituteFields_of_plain fields plain]
  | .null, _ | .bool _, _ | .int _, _ | .float _, _ => rfl

theorem substituteItems_of_plain : ∀ items : List Json,
    (∀ s ∈ textsOfItems items, Plain saved s) → substituteItems saved items = items
  | [], _ => rfl
  | item :: rest, plain => by
    rw [textsOfItems, List.forall_mem_append] at plain
    rw [substituteItems, substitute_of_plain item plain.1, substituteItems_of_plain rest plain.2]

theorem substituteFields_of_plain : ∀ fields : List (String × Json),
    (∀ s ∈ textsOfFields fields, Plain saved s) → substituteFields saved fields = fields
  | [], _ => rfl
  | (name, value) :: rest, plain => by
    rw [textsOfFields, List.forall_mem_append] at plain
    rw [substituteFields, substitute_of_plain value plain.1, substituteFields_of_plain rest plain.2]

end

/-! ### Two passes -/

mutual

/-- Where a name is saved in both, the first pass has replaced it already. -/
theorem substitute_substitute (settled : Settled first second) : ∀ v : Json,
    substitute second (substitute first v) = substitute (first.union second) v
  | .string s => by
    rw [substitute, substitute, reference?_union]
    cases found : reference? first s with
    | none => rfl
    | some value =>
      obtain ⟨name, -, held⟩ := reference?_eq_some_iff.mp found
      exact substitute_of_plain value (settled name value held)
  | .array items => by
    rw [substitute, substitute, substitute, substituteItems_substituteItems settled items]
  | .object fields => by
    rw [substitute, substitute, substitute, substituteFields_substituteFields settled fields]
  | .null | .bool _ | .int _ | .float _ => rfl

theorem substituteItems_substituteItems (settled : Settled first second) : ∀ items : List Json,
    substituteItems second (substituteItems first items) = substituteItems (first.union second) items
  | [] => rfl
  | item :: rest => by
    rw [substituteItems, substituteItems, substituteItems, substitute_substitute settled item,
      substituteItems_substituteItems settled rest]

theorem substituteFields_substituteFields (settled : Settled first second) :
    ∀ fields : List (String × Json),
      substituteFields second (substituteFields first fields) =
        substituteFields (first.union second) fields
  | [] => rfl
  | (name, value) :: rest => by
    rw [substituteFields, substituteFields, substituteFields, substitute_substitute settled value,
      substituteFields_substituteFields settled rest]

end

/-- Only what the names stand for matters. -/
theorem substitute_congr (same : ∀ name, first.get? name = second.get? name) (v : Json) :
    substitute first v = substitute second v := by
  have shows : Shows second fun name value => first.get? name = some value :=
    fun name value => by rw [← same name]
  exact (replaced_iff (fun _ _ => Iff.rfl) v _).mp ((replaced_iff shows v _).mpr rfl)

theorem union_comm_of_apart (apart : Apart first second) (name : String) :
    (first.union second).get? name = (second.union first).get? name := by
  rw [Fields.get?_union, Fields.get?_union]
  rcases apart name with none | none <;> simp [none]

theorem substitute_idempotent (settled : Settled saved saved) (v : Json) :
    substitute saved (substitute saved v) = substitute saved v := by
  rw [substitute_substitute settled]
  exact substitute_congr (fun name => by rw [Fields.get?_union, Option.or_self]) v

/-- Two passes whose saved values have no name in common, the first of which puts in no reference to a name of
the second, are one pass with the values of both. A pass replaces just the strings that are a dollar sign and a
saved name, each by the value as it was saved, and leaves all else alone. Passing again changes nothing if no
saved value refers to a saved name. -/
theorem substitution_composes :
    (∀ first second : Fields Json, Apart first second → Settled first second → ∀ v : Json,
      substitute second (substitute first v) = substitute (first.union second) v ∧
      substitute (first.union second) v = substitute (second.union first) v) ∧
    (∀ (saved : Fields Json) (v result : Json),
      substitute saved v = result ↔ Replaced (fun name value => saved.get? name = some value) v result) ∧
    (∀ saved : Fields Json, Settled saved saved → ∀ v : Json,
      substitute saved (substitute saved v) = substitute saved v) := by
  refine ⟨fun first second apart settled v => ⟨substitute_substitute settled v, ?_⟩,
    fun saved v result => (replaced_iff (fun _ _ => Iff.rfl) v result).symm,
    fun saved settled v => substitute_idempotent settled v⟩
  exact substitute_congr (union_comm_of_apart apart) v

/-- What the first pass puts in has a reference to a name that is not saved, and what the second puts in has
one to a name of the first. Both stay, and so do a text that goes on after the name and a member's name. -/
theorem substitution_composes_nested :
    let first : Fields Json := [("a", .array [.string "$c"])]
    let second : Fields Json := [("b", .string "$a")]
    let v : Json := .object [("$a", .array [.string "$a", .string "$ab", .string "$b"])]
    Apart first second ∧ Settled first second ∧ Settled first first ∧
    substitute (first.union second) v =
      .object [("$a", .array [.array [.string "$c"], .string "$ab", .string "$a"])] ∧
    substitute second (substitute first v) = substitute (first.union second) v ∧
    substitute first (substitute first v) = substitute first v := by
  intro first second v
  have apart : Apart first second := by
    intro name
    by_cases same : name = "a"
    · exact .inr (by rw [same]; rfl)
    · exact .inl (by rw [Fields.get?, Fields.lookup_cons, if_neg same]; rfl)
  have settled (other : Fields Json) (unsaved : reference? other "$c" = none) : Settled first other := by
    intro name value held s member
    rw [Fields.get?, Fields.lookup_cons] at held
    split at held
    · cases held
      rw [List.mem_singleton.mp member]
      exact reference?_eq_none_iff.mp unsaved
    · cases held
  have forSecond := settled second rfl
  have forFirst := settled first rfl
  obtain ⟨composes, -, idempotent⟩ := substitution_composes
  exact ⟨apart, forSecond, forFirst, rfl, (composes first second apart forSecond v).1,
    idempotent first forFirst v⟩

end Scenario

end ScriptHost
