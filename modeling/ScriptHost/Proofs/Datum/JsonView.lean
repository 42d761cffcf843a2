import ScriptHost.Datum.Json
import ScriptHost.Proofs.Data.Fields
import ScriptHost.Proofs.Number.Nearest

/-! What the JSON view of data keeps. A datum comes back as it was unless something in it has no place in
JSON, is a number that reads back as an integer, or is an object that passes for a tagged value. -/

namespace ScriptHost

theorem Json.asNatural?_toNat (n : UInt64) : (Json.int n.toNat).asNatural? = some n.toNat := by
  have small : (n.toNat : Int) < UInt64.size := by exact_mod_cast n.toNat_lt
  rw [asNatural?, if_pos ⟨by omega, small⟩, Int.toNat_natCast]

/-- Only a NaN differs from itself. -/
theorem Double.numEq_self {d : Double} (finite : d.isFinite = true) : d.numEq d = true := by
  have number : d.isNaN = false := by
    rw [isFinite, bne_iff_ne] at finite
    simp [isNaN, finite]
  rw [numEq, number, beq_self_eq_true]
  rfl

namespace Datum

open Double

mutual

/-- The data in a datum, itself included. -/
def parts : Datum → List Datum
  | .array items => .array items :: partsOfItems items
  | .object fields => .object fields :: partsOfFields fields
  | other => [other]

def partsOfItems : List Datum → List Datum
  | [] => []
  | item :: rest => item.parts ++ partsOfItems rest

def partsOfFields : List (String × Datum) → List Datum
  | [] => []
  | (_, value) :: rest => value.parts ++ partsOfFields rest

end

/-- What the JSON view does not keep: `null` stands for the first two, a number is read as the integer that
it stands for, and an object with a marker is read as what the marker says. -/
inductive Lossy : Datum → Prop where
  | undefined : Lossy .undefined
  | notFinite {d : Double} (infinite : d.isFinite = false) : Lossy (.float d)
  | integral {d : Double} {i : Int} (whole : d.IsInteger i) : Lossy (.float d)
  | function {fields : Fields Datum} {i : Int64} (marked : fields.get? functionMarker = some (.int i))
      (natural : 0 ≤ i.toInt) : Lossy (.object fields)
  | bigInt (digits : String) : Lossy (.object [(bigIntMarker, .string digits)])

theorem lossy_float {d : Double} : (float d).Lossy ↔ d.isFinite = false ∨ ∃ i, d.IsInteger i := by
  constructor
  · intro lossy
    cases lossy with
    | notFinite infinite => exact .inl infinite
    | integral whole => exact .inr ⟨_, whole⟩
  · rintro (infinite | ⟨i, whole⟩)
    · exact .notFinite infinite
    · exact .integral whole

/-- Nothing in the datum is lossy. -/
def Lossless (v : Datum) : Prop := ∀ part ∈ v.parts, ¬ part.Lossy

theorem lossless_array {items : List Datum} :
    (array items).Lossless ↔ ∀ part ∈ partsOfItems items, ¬ part.Lossy := by
  have sound : ¬ (array items).Lossy := by
    intro lossy
    cases lossy
  rw [Lossless, parts, List.forall_mem_cons]
  exact and_iff_right sound

theorem lossless_object {fields : Fields Datum} : (object fields).Lossless ↔
    ¬ (object fields).Lossy ∧ ∀ part ∈ partsOfFields fields, ¬ part.Lossy := by
  rw [Lossless, parts, List.forall_mem_cons]

theorem lossless_leaf {v : Datum} (alone : v.parts = [v]) : v.Lossless ↔ ¬ v.Lossy := by
  rw [Lossless, alone, List.forall_mem_singleton]

/-- Is it of a kind that the JSON view always keeps? -/
def isKept : Datum → Bool
  | .undefined | .float _ | .array _ | .object _ => false
  | _ => true

theorem lossless_of_isKept {v : Datum} (kept : v.isKept = true) : v.Lossless := by
  have alone : v.parts = [v] := by cases v <;> first | rfl | cases kept
  rw [lossless_leaf alone]
  intro lossy
  cases lossy <;> cases kept

/-! ### Markers -/

theorem ofMarkers?_function {fields : Fields Json} {id : Nat}
    (marked : (fields.get? functionMarker).bind Json.asNatural? = some id) : ofMarkers? fields =
      some (.function ⟨UInt64.ofNat id, (fields.get? "name").bind Json.asString?⟩) := by
  simp only [ofMarkers?, marked]

theorem ofMarkers?_eq_none_iff {fields : Fields Json} : ofMarkers? fields = none ↔
    (fields.get? functionMarker).bind Json.asNatural? = none ∧
      ∀ digits, fields ≠ [(bigIntMarker, .string digits)] := by
  unfold ofMarkers?
  split
  · rename_i id marked
    simp [marked]
  · rename_i unmarked
    refine Iff.trans ?_ (and_iff_right unmarked).symm
    split
    · rename_i key digits
      split
      · rename_i marker
        subst marker
        simp
      · rename_i other
        simp [other]
    · rename_i other
      refine iff_of_true rfl fun digits single => ?_
      exact other _ _ single

/-- What the fields of an object mark is no object. -/
theorem ofMarkers?_eq_some {fields : Fields Json} {v : Datum} (marked : ofMarkers? fields = some v) :
    (∃ f, v = .function f) ∨ ∃ digits, v = .bigInt digits := by
  unfold ofMarkers? at marked
  split at marked
  · cases marked
    exact .inl ⟨_, rfl⟩
  · split at marked
    · split at marked
      · cases marked
        exact .inr ⟨_, rfl⟩
      · cases marked
    · cases marked

theorem toJsonFields_eq (fields : Fields Datum) : toJsonFields fields = fields.mapValues toJson := by
  induction fields with
  | nil => rfl
  | cons entry rest ih => rw [toJsonFields, ih, Fields.mapValues, Fields.mapValues, List.map_cons]

theorem ofJsonFields_eq (fields : Fields Json) : ofJsonFields fields = fields.mapValues ofJson := by
  induction fields with
  | nil => rfl
  | cons entry rest ih => rw [ofJsonFields, ih, Fields.mapValues, Fields.mapValues, List.map_cons]

/-- The JSON views that are natural numbers are those of integers. -/
theorem asNatural?_toJson_eq_none (v : Datum) :
    v.toJson.asNatural? = none ↔ ∀ i : Int64, v = .int i → ¬ 0 ≤ i.toInt := by
  cases v with
  | int i =>
    have upper := i.toInt_lt
    simp only [toJson, Json.asNatural?]
    split
    · rename_i natural
      exact iff_of_false (by simp) fun negative => negative i rfl natural.1
    · rename_i negative
      refine iff_of_true rfl fun j same natural => negative ?_
      cases same
      exact ⟨natural, upper.trans (by decide)⟩
  | float d =>
    refine iff_of_true ?_ (by simp)
    simp only [toJson, Json.ofDouble]
    split <;> rfl
  | _ => exact iff_of_true rfl (by simp)

/-- The JSON views that are strings are those of strings. -/
theorem eq_string_of_toJson {v : Datum} {s : String} (view : v.toJson = .string s) : v = .string s := by
  cases v with
  | string text =>
    cases view
    rfl
  | float d =>
    rw [toJson, Json.ofDouble] at view
    split at view <;> cases view
  | _ => cases view

theorem ofMarkers?_toJsonFields_eq_none {fields : Fields Datum} :
    ofMarkers? (toJsonFields fields) = none ↔ ¬ (object fields).Lossy := by
  rw [ofMarkers?_eq_none_iff, toJsonFields_eq, Fields.get?_mapValues]
  constructor
  · rintro ⟨unmarked, several⟩ lossy
    cases lossy with
    | function marked natural =>
      rw [marked, Option.map_some, Option.bind_some] at unmarked
      exact (asNatural?_toJson_eq_none _).mp unmarked _ rfl natural
    | bigInt digits => exact several digits rfl
  · intro sound
    constructor
    · cases held : fields.get? functionMarker with
      | none => rfl
      | some value =>
        refine (asNatural?_toJson_eq_none value).mpr fun i same natural => sound ?_
        exact .function (same ▸ held) natural
    · intro digits single
      obtain ⟨⟨key, value⟩, rfl, same⟩ := List.map_eq_singleton_iff.mp single
      obtain ⟨rfl, view⟩ := Prod.mk.inj same
      cases eq_string_of_toJson view
      exact sound (.bigInt digits)

/-! ### The way there and back -/

theorem ofJson_toJson_bigInt (digits : String) : ofJson (toJson (.bigInt digits)) = .bigInt digits := by
  have unmarked : Fields.get? [(bigIntMarker, Json.string digits)] functionMarker = none := rfl
  rw [toJson, ofJson, ofMarkers?, unmarked]
  rfl

theorem ofJson_toJson_function (f : FunctionHandle) : ofJson (toJson (.function f)) = .function f := by
  obtain ⟨id, name⟩ := f
  have marked (rest : Fields Json) :
      (Fields.get? ((functionMarker, Json.int id.toNat) :: rest) functionMarker).bind Json.asNatural? =
        some id.toNat := by
    rw [Fields.get?, Fields.lookup_cons, if_pos rfl, Option.bind_some, Json.asNatural?_toNat]
  rw [toJson, ofJson, ofMarkers?_function (marked _), UInt64.ofNat_toNat]
  cases name <;> rfl

/-- A number comes back unless it is not finite or reads as an integer. -/
theorem beq_ofJson_toJson_float (d : Double) :
    (ofJson (toJson (.float d))).beq (.float d) = true ↔ (float d).Lossless := by
  rw [lossless_leaf rfl, lossy_float, toJson, Json.ofDouble]
  cases finite : d.isFinite with
  | false => exact iff_of_false (by simp [ofJson, beq]) (by simp)
  | true =>
    rw [if_pos rfl, ofJson]
    obtain ⟨i, whole, read⟩ | ⟨broken, read⟩ := ofDouble_cases d
    · rw [read]
      exact iff_of_false (by simp [beq]) fun sound => sound (.inr ⟨i, whole⟩)
    · rw [read, beq, numEq_self finite]
      exact iff_of_true rfl (by simpa using broken)

mutual

theorem beq_ofJson_toJson (v : Datum) : (ofJson v.toJson).beq v = true ↔ v.Lossless := by
  cases v with
  | undefined => exact iff_of_false (by decide) fun sound => (lossless_leaf rfl).mp sound .undefined
  | null => exact iff_of_true rfl (lossless_of_isKept rfl)
  | bool b =>
    refine iff_of_true ?_ (lossless_of_isKept rfl)
    rw [toJson, ofJson, beq, beq_self_eq_true]
  | int i =>
    refine iff_of_true ?_ (lossless_of_isKept rfl)
    have signed : i.toInt < (Nat.pow 2 63 : Nat) := i.toInt_lt
    rw [toJson, ofJson, if_pos signed, Int64.ofInt_toInt, beq, beq_self_eq_true]
  | float d => exact beq_ofJson_toJson_float d
  | bigInt digits =>
    refine iff_of_true ?_ (lossless_of_isKept rfl)
    rw [ofJson_toJson_bigInt, beq, beq_self_eq_true]
  | string s =>
    refine iff_of_true ?_ (lossless_of_isKept rfl)
    rw [toJson, ofJson, beq, beq_self_eq_true]
  | array items =>
    rw [lossless_array, ← beqItems_ofJson_toJson items, toJson, ofJson, beq]
  | object fields =>
    rw [lossless_object, ← beqFields_ofJson_toJson fields, toJson, ofJson,
      ← ofMarkers?_toJsonFields_eq_none]
    cases marked : ofMarkers? (toJsonFields fields) with
    | none => simp [beq]
    | some tagged =>
      refine iff_of_false ?_ (by simp)
      obtain ⟨f, rfl⟩ | ⟨digits, rfl⟩ := ofMarkers?_eq_some marked <;> simp [beq]
  | function f =>
    refine iff_of_true ?_ (lossless_of_isKept rfl)
    rw [ofJson_toJson_function, beq, beq_self_eq_true]

theorem beqItems_ofJson_toJson (items : List Datum) :
    beqItems (ofJsonItems (toJsonItems items)) items = true ↔
      ∀ part ∈ partsOfItems items, ¬ part.Lossy := by
  cases items with
  | nil => simp [toJsonItems, ofJsonItems, beqItems, partsOfItems]
  | cons item rest =>
    rw [toJsonItems, ofJsonItems, beqItems, Bool.and_eq_true, beq_ofJson_toJson item,
      beqItems_ofJson_toJson rest, partsOfItems, List.forall_mem_append, Lossless]

theorem beqFields_ofJson_toJson (fields : Fields Datum) :
    beqFields (ofJsonFields (toJsonFields fields)) fields = true ↔
      ∀ part ∈ partsOfFields fields, ¬ part.Lossy := by
  cases fields with
  | nil => simp [toJsonFields, ofJsonFields, beqFields, partsOfFields]
  | cons entry rest =>
    obtain ⟨name, value⟩ := entry
    rw [toJsonFields, ofJsonFields, beqFields, beq_self_eq_true, Bool.true_and, Bool.and_eq_true,
      beq_ofJson_toJson value, beqFields_ofJson_toJson rest, partsOfFields,
      List.forall_mem_append, Lossless]

end

/-- A datum comes back from its JSON view just when it is lossless; functions and big integers, whatever
their names and digits, come back exactly. -/
theorem json_view_exact : (∀ v : Datum, (ofJson v.toJson == v) = true ↔ v.Lossless) ∧
    (∀ f : FunctionHandle, ofJson (toJson (.function f)) = .function f) ∧
    ∀ digits : String, ofJson (toJson (.bigInt digits)) = .bigInt digits :=
  ⟨beq_ofJson_toJson, ofJson_toJson_function, ofJson_toJson_bigInt⟩

end Datum

end ScriptHost
