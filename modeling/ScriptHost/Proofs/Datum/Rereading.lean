import ScriptHost.Proofs.Datum.JsonView

/-! What a host has sent once and got back it can send again, with one exception. The marker of a function
counts only if its id is written as an integer; an id that is written with a point or an exponent is read as
plain data, and the JSON view of these data writes the integer. -/

namespace ScriptHost

namespace Json

mutual

/-- The numbers are ones that JSON has. -/
def Proper : Json → Prop
  | .int i => -2 ^ 63 ≤ i ∧ i < 2 ^ 64
  | .float d => d.isFinite = true
  | .array items => ProperItems items
  | .object fields => ProperFields fields
  | _ => True

def ProperItems : List Json → Prop
  | [] => True
  | item :: rest => item.Proper ∧ ProperItems rest

def ProperFields : List (String × Json) → Prop
  | [] => True
  | (_, value) :: rest => value.Proper ∧ ProperFields rest

end

theorem ProperFields.of_get? {fields : Fields Json} (proper : ProperFields fields) {name : String}
    {value : Json} (held : fields.get? name = some value) : value.Proper := by
  induction fields with
  | nil => cases held
  | cons entry rest ih =>
    obtain ⟨key, first⟩ := entry
    rw [Fields.get?, Fields.lookup_cons] at held
    split at held
    · cases held
      exact proper.1
    · exact ih proper.2 held

end Json

namespace Datum

open Double

/-- Somewhere in the value, and not within a tagged one, the marker of a function comes with a natural
number that is not written as an integer. -/
inductive Disguised : Json → Prop where
  | marker {fields : Fields Json} {d : Double} {n : Nat}
      (held : fields.get? functionMarker = some (.float d)) (whole : d.IsInteger n) :
      Disguised (.object fields)
  | item {items : List Json} {item : Json} (member : item ∈ items) (inner : Disguised item) :
      Disguised (.array items)
  | field {fields : Fields Json} {entry : String × Json} (plain : ofMarkers? fields = none)
      (member : entry ∈ fields) (inner : Disguised entry.2) : Disguised (.object fields)

/-! ### What is read -/

/-- Data keep a finite number in a form that its JSON view keeps. -/
theorem lossless_ofDouble {d : Double} (finite : d.isFinite = true) : (ofDouble d).Lossless := by
  obtain ⟨i, -, read⟩ | ⟨broken, read⟩ := ofDouble_cases d
  · rw [read]
    exact lossless_of_isKept rfl
  · rw [read, lossless_leaf rfl, lossy_float, finite]
    simpa using broken

theorem lossless_tagged {fields : Fields Json} {v : Datum} (marked : ofMarkers? fields = some v) :
    v.Lossless := by
  obtain ⟨f, rfl⟩ | ⟨digits, rfl⟩ := ofMarkers?_eq_some marked
  · exact lossless_of_isKept rfl
  · exact lossless_of_isKept rfl

theorem ofDouble_eq_int {d : Double} {i : Int64} (kept : ofDouble d = .int i) : d.IsInteger i.toInt := by
  obtain ⟨k, whole, read⟩ | ⟨-, read⟩ := ofDouble_cases d
  · rw [read] at kept
    cases kept
    have safe := whole.safe
    rwa [Int64.toInt_ofInt_of_le (by omega) (by omega)]
  · rw [read] at kept
    cases kept

theorem asString?_ofDouble (d : Double) : (ofDouble d).asString? = none := by
  obtain ⟨i, -, read⟩ | ⟨-, read⟩ := ofDouble_cases d
  · rw [read]
    rfl
  · rw [read]
    rfl

/-- An object is read as one or as a tagged value. -/
theorem ofJson_object_compound (fields : Fields Json) :
    (ofJson (.object fields)).asInt? = none ∧ (ofJson (.object fields)).asString? = none := by
  rw [ofJson]
  cases marked : ofMarkers? fields with
  | none => exact ⟨rfl, rfl⟩
  | some tagged =>
    obtain ⟨f, rfl⟩ | ⟨digits, rfl⟩ := ofMarkers?_eq_some marked
    · exact ⟨rfl, rfl⟩
    · exact ⟨rfl, rfl⟩

/-- What is read as a natural number and is not written as one has a point or an exponent. -/
theorem ofJson_eq_natural {j : Json} (proper : j.Proper) {i : Int64} (read : ofJson j = .int i)
    (natural : 0 ≤ i.toInt) (unmarked : j.asNatural? = none) :
    ∃ d, j = .float d ∧ d.IsInteger i.toInt := by
  cases j with
  | int k =>
    exfalso
    obtain ⟨low, high⟩ : -2 ^ 63 ≤ k ∧ k < 2 ^ 64 := proper
    have negative : k < 0 := by
      by_contra positive
      rw [Json.asNatural?, if_pos ⟨by omega, high⟩] at unmarked
      cases unmarked
    rw [ofJson, if_pos (by omega)] at read
    cases read
    rw [Int64.toInt_ofInt_of_le low (by omega)] at natural
    omega
  | float d => exact ⟨d, rfl, ofDouble_eq_int read⟩
  | object fields =>
    have compound := (ofJson_object_compound fields).1
    rw [read] at compound
    cases compound
  | _ => simp [ofJson] at read

theorem eq_string_of_ofJson {j : Json} {s : String} (read : ofJson j = .string s) : j = .string s := by
  have text : (ofJson j).asString? = some s := by rw [read, asString?]
  cases j with
  | string other =>
    cases read
    rfl
  | int k =>
    rw [ofJson] at text
    split at text
    · cases text
    · rw [asString?_ofDouble] at text
      cases text
  | float d =>
    rw [ofJson, asString?_ofDouble] at text
    cases text
  | object fields =>
    rw [(ofJson_object_compound fields).2] at text
    cases text
  | _ => cases text

theorem lossy_ofJsonFields {fields : Fields Json} (proper : Json.ProperFields fields)
    (plain : ofMarkers? fields = none) : (object (ofJsonFields fields)).Lossy ↔
      ∃ (d : Double) (n : Nat), fields.get? functionMarker = some (.float d) ∧ d.IsInteger n := by
  obtain ⟨unmarked, several⟩ := ofMarkers?_eq_none_iff.mp plain
  rw [ofJsonFields_eq]
  constructor
  · intro lossy
    generalize read : fields.mapValues ofJson = data at lossy
    cases lossy with
    | @function _ i marked natural =>
      rw [← read, Fields.get?_mapValues] at marked
      obtain ⟨member, held, reads⟩ := Option.map_eq_some_iff.mp marked
      rw [held, Option.bind_some] at unmarked
      obtain ⟨d, rfl, whole⟩ := ofJson_eq_natural (proper.of_get? held) reads natural unmarked
      rw [← Int.toNat_of_nonneg natural] at whole
      exact ⟨d, _, held, whole⟩
    | bigInt digits =>
      obtain ⟨⟨key, member⟩, rfl, same⟩ := List.map_eq_singleton_iff.mp read
      obtain ⟨rfl, reads⟩ := Prod.mk.inj same
      cases eq_string_of_ofJson reads
      exact absurd rfl (several digits)
  · rintro ⟨d, n, held, whole⟩
    have safe := whole.safe
    have marked : (fields.mapValues ofJson).get? functionMarker = some (.int (Int64.ofInt n)) := by
      rw [Fields.get?_mapValues, held, Option.map_some, ofJson, ofDouble_of_isInteger whole]
    refine .function marked ?_
    rw [Int64.toInt_ofInt_of_le (by omega) (by omega)]
    exact Int.natCast_nonneg n

theorem plain_of_float {fields : Fields Json} {d : Double}
    (held : fields.get? functionMarker = some (.float d)) : ofMarkers? fields = none := by
  refine ofMarkers?_eq_none_iff.mpr ⟨by rw [held]; rfl, fun digits single => ?_⟩
  rw [single] at held
  cases held

theorem disguised_object {fields : Fields Json} : Disguised (.object fields) ↔
    ofMarkers? fields = none ∧
      ((∃ (d : Double) (n : Nat), fields.get? functionMarker = some (.float d) ∧ d.IsInteger n) ∨
        ∃ entry ∈ fields, Disguised entry.2) := by
  constructor
  · intro disguised
    cases disguised with
    | marker held whole => exact ⟨plain_of_float held, .inl ⟨_, _, held, whole⟩⟩
    | field plain member inner => exact ⟨plain, .inr ⟨_, member, inner⟩⟩
  · rintro ⟨plain, ⟨d, n, held, whole⟩ | ⟨entry, member, inner⟩⟩
    · exact .marker held whole
    · exact .field plain member inner

mutual

theorem lossless_ofJson (j : Json) (proper : j.Proper) : (ofJson j).Lossless ↔ ¬ Disguised j := by
  cases j with
  | null => exact iff_of_true (lossless_of_isKept rfl) nofun
  | bool b => exact iff_of_true (lossless_of_isKept rfl) nofun
  | string s => exact iff_of_true (lossless_of_isKept rfl) nofun
  | int i =>
    obtain ⟨low, high⟩ : -2 ^ 63 ≤ i ∧ i < 2 ^ 64 := proper
    refine iff_of_true ?_ nofun
    rw [ofJson]
    split
    · exact lossless_of_isKept rfl
    · exact lossless_ofDouble (isFinite_ofInt (by omega))
  | float d => exact iff_of_true (lossless_ofDouble proper) nofun
  | array items =>
    rw [ofJson, lossless_array, lossless_ofJsonItems items proper]
    constructor
    · intro sound disguised
      cases disguised with
      | item member inner => exact sound _ member inner
    · exact fun sound item member inner => sound (.item member inner)
  | object fields =>
    rw [ofJson, disguised_object]
    cases marked : ofMarkers? fields with
    | some tagged => exact iff_of_true (lossless_tagged marked) nofun
    | none =>
      rw [Option.getD_none, lossless_object, lossy_ofJsonFields proper marked,
        lossless_ofJsonFields fields proper]
      simp

theorem lossless_ofJsonItems (items : List Json) (proper : Json.ProperItems items) :
    (∀ part ∈ partsOfItems (ofJsonItems items), ¬ part.Lossy) ↔
      ∀ item ∈ items, ¬ Disguised item := by
  cases items with
  | nil => simp [ofJsonItems, partsOfItems]
  | cons item rest =>
    rw [ofJsonItems, partsOfItems, List.forall_mem_append, lossless_ofJsonItems rest proper.2,
      List.forall_mem_cons, ← lossless_ofJson item proper.1, Lossless]

theorem lossless_ofJsonFields (fields : Fields Json) (proper : Json.ProperFields fields) :
    (∀ part ∈ partsOfFields (ofJsonFields fields), ¬ part.Lossy) ↔
      ∀ entry ∈ fields, ¬ Disguised entry.2 := by
  cases fields with
  | nil => simp [ofJsonFields, partsOfFields]
  | cons entry rest =>
    obtain ⟨name, value⟩ := entry
    rw [ofJsonFields, partsOfFields, List.forall_mem_append, lossless_ofJsonFields rest proper.2,
      List.forall_mem_cons, ← lossless_ofJson value proper.1, Lossless]

end

/-- To read a JSON value, view what was read and read that gives the same again, unless an id of a
function is disguised in it. -/
theorem reread_iff {j : Json} (proper : j.Proper) :
    (ofJson (ofJson j).toJson == ofJson j) = true ↔ ¬ Disguised j :=
  (beq_ofJson_toJson (ofJson j)).trans (lossless_ofJson j proper)

theorem reread_iff_negative_id :
    (ofJson (ofJson (.array [.object [(functionMarker, .int (-3))]])).toJson ==
      ofJson (.array [.object [(functionMarker, .int (-3))]])) = true := by
  have proper : (Json.array [.object [(functionMarker, .int (-3))]]).Proper :=
    ⟨⟨⟨by decide, by decide⟩, trivial⟩, trivial⟩
  refine (reread_iff proper).mpr fun disguised => ?_
  cases disguised with
  | item member inner =>
    rw [List.mem_singleton.mp member, disguised_object] at inner
    obtain ⟨-, ⟨d, n, held, -⟩ | ⟨entry, member, inner⟩⟩ := inner
    · cases held
    · rw [List.mem_singleton.mp member] at inner
      cases inner

/-- The id `3.0` is read as a field of plain data, whose JSON view is a function. -/
theorem pointed_id_reread :
    let sent := Json.object [(functionMarker, .float ⟨0x4008000000000000⟩)]
    (ofJson sent == .object [(functionMarker, .int 3)]) = true ∧
      ofJson (ofJson sent).toJson = .function ⟨3, none⟩ ∧
      (ofJson (ofJson sent).toJson == ofJson sent) = false :=
  ⟨rfl, rfl, rfl⟩

end Datum

end ScriptHost
