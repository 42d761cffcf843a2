import ScriptHost.Proofs.Wire.Reading

/-! Every value has one canonical form, and that is what is written. Fields have to be in
order, as they are wherever data are made; lengths have to fit the width of a number, as they do
unless the bytes are too many for any limit. What a value is written as does not depend on the limit, which
only decides whether it is written at all, and it is read back as that value.

Data whose fields stand in any order, or more than once under a name, are written all the same, and
what is written is read as those data with their fields put in order. So an answer that was written can
always be read. -/

namespace ScriptHost

mutual

/-- The fields of every object stand in ascending order of their names. -/
def Datum.Ordered : Datum → Prop
  | .array items => Datum.OrderedItems items
  | .object fields => Wire.Ascending fields ∧ Datum.OrderedFields fields
  | _ => True

def Datum.OrderedItems : List Datum → Prop
  | [] => True
  | item :: rest => item.Ordered ∧ Datum.OrderedItems rest

def Datum.OrderedFields : List (String × Datum) → Prop
  | [] => True
  | (_, value) :: rest => value.Ordered ∧ Datum.OrderedFields rest

end

namespace Wire

variable {α β : Type}

/-- These bytes are of this form and no others are, unless they are too many. -/
def Only (form : List UInt8 → Prop) (bytes : List UInt8) : Prop :=
  bytes.length < 2 ^ 64 → ∀ other, form other ↔ other = bytes

theorem Only.congr {form same : List UInt8 → Prop} {bytes : List UInt8} (only : Only form bytes)
    (iff : ∀ bytes, same bytes ↔ form bytes) : Only same bytes :=
  fun small other => (iff other).trans (only small other)

theorem Only.both {first second : List UInt8 → Prop} {before after : List UInt8}
    (one : Only first before) (other : Only second after) :
    Only (Both first second) (before ++ after) := by
  intro small bytes
  rw [List.length_append] at small
  constructor
  · rintro ⟨_, _, rfl, head, tail⟩
    rw [(one (by omega) _).mp head, (other (by omega) _).mp tail]
  · rintro rfl
    exact ⟨before, after, rfl, (one (by omega) _).mpr rfl, (other (by omega) _).mpr rfl⟩

theorem only_number {n : Nat} (small : n < 2 ^ 64) : Only (Shortest n) (writeNat n) := by
  intro _ other
  rw [shortest_iff]
  exact and_iff_right small

theorem only_bool (b : Bool) : Only (BoolForm b) (write b) := fun _ _ => Iff.rfl

theorem only_double (d : Double) : Only (DoubleForm d) (write d) := by
  intro _ other
  constructor
  · rintro ⟨size, value⟩
    have same := littleEndian_ofLittleEndian other
    rw [size, value] at same
    exact same.symm
  · rintro rfl
    exact ⟨length_littleEndian 8 _, ofLittleEndian_littleEndian d.bits.toNat_lt⟩

theorem only_option [Wire α] {form : α → List UInt8 → Prop} (inner : ∀ a, Only (form a) (write a))
    (o : Option α) : Only (OptionForm form o) (write o) := by
  intro small other
  cases o with
  | none =>
    constructor
    · rintro ⟨⟩
      rfl
    · rintro rfl
      exact .none
  | some a =>
    have rest : (write a).length < 2 ^ 64 := Nat.lt_of_succ_lt small
    constructor
    · rintro (_ | formed)
      rw [(inner a rest _).mp formed]
      rfl
    · rintro rfl
      exact .some ((inner a rest _).mpr rfl)

theorem only_word (n : UInt64) : Only (WordForm .canonical n) (write n) := only_number n.toNat_lt

theorem only_int (i : Int64) :
    Only (Grammar.canonical.number (zigzag i.toInt)) (write i) := by
  have above := i.toInt_lt
  have below := i.le_toInt
  have small : zigzag i.toInt < 2 ^ 64 := by
    simp only [zigzag]
    split <;> omega
  show Only (Shortest _) (writeNat (fold i.toInt))
  rw [fold_eq_zigzag]
  exact only_number small

theorem only_text (s : String) : Only (TextForm .canonical s) (write s) := by
  intro small
  have size : s.toByteArray.size = (Utf8.encode s).length := by
    rw [encode_eq_toByteArray]
    rfl
  have fits : (Utf8.encode s).length < 2 ^ 64 := by
    simp only [write, List.length_append] at small
    omega
  rw [TextForm, size, ← encode_eq_toByteArray]
  exact (only_number fits).both (fun _ _ => Iff.rfl) small

theorem only_handle (f : FunctionHandle) : Only (HandleForm .canonical f) (write f) :=
  (only_word f.id).both (only_option only_text f.name)

/-- A datum is written as its tag, one byte, and its content. -/
theorem writeDatum_eq (x : Datum) :
    writeDatum x = writeNat (tagOf x) ++ (writeDatum x).tail := by
  cases x <;> rfl

theorem length_writeDatum_pos (x : Datum) : 0 < (writeDatum x).length := by
  cases x <;> exact Nat.succ_pos _

theorem length_le_writeItems (items : List Datum) : items.length ≤ (writeItems items).length := by
  induction items with
  | nil => exact Nat.le_refl 0
  | cons item rest ih =>
    have pos := length_writeDatum_pos item
    simp only [writeItems, List.length_cons, List.length_append]
    omega

theorem length_le_writeFields (fields : List (String × Datum)) :
    fields.length ≤ (writeFields fields).length := by
  induction fields with
  | nil => exact Nat.le_refl 0
  | cons field rest ih =>
    obtain ⟨name, value⟩ := field
    have pos := length_writeDatum_pos value
    simp only [writeFields, List.length_cons, List.length_append]
    omega

/-- A list is announced by its length, of which there is one shortest form. -/
theorem only_counted {count : Nat} {form : List UInt8 → Prop} {body : List UInt8}
    (only : Only form body) (le : count ≤ body.length) :
    Only (Both (Shortest count) form) (writeNat count ++ body) := by
  intro small
  have fits : count < 2 ^ 64 := by
    rw [List.length_append] at small
    omega
  exact (only_number fits).both only small

mutual

theorem only_datum : ∀ x : Datum, x.Ordered → Only (DatumForm .canonical x) (writeDatum x)
  | x, ordered => by
    have tag : Only (Shortest (tagOf x)) (writeNat (tagOf x)) := by
      have known := tagOf_lt x
      exact only_number (by omega)
    rw [writeDatum_eq]
    refine (tag.both (only_content x ordered)).congr fun bytes => ?_
    exact ⟨fun ⟨tag, content⟩ => ⟨_, _, rfl, tag, content⟩,
      fun ⟨_, _, same, tag, content⟩ => same ▸ .tagged tag content⟩

theorem only_content : ∀ x : Datum, x.Ordered →
    Only (ContentForm .canonical x) (writeDatum x).tail
  | .undefined, _ => fun _ _ => ⟨fun | .undefined => rfl, fun same => same ▸ .undefined⟩
  | .null, _ => fun _ _ => ⟨fun | .null => rfl, fun same => same ▸ .null⟩
  | .bool b, _ => (only_bool b).congr fun _ => ⟨fun | .bool body => body, .bool⟩
  | .int i, _ => (only_int i).congr fun _ => ⟨fun | .int body => body, .int⟩
  | .float d, _ => (only_double d).congr fun _ => ⟨fun | .float body => body, .float⟩
  | .bigInt s, _ => (only_text s).congr fun _ => ⟨fun | .bigInt body => body, .bigInt⟩
  | .string s, _ => (only_text s).congr fun _ => ⟨fun | .string body => body, .string⟩
  | .array items, ordered =>
    (only_counted (only_items items ordered) (length_le_writeItems items)).congr fun _ =>
      ⟨fun | .array size body => ⟨_, _, rfl, size, body⟩,
        fun ⟨_, _, same, size, body⟩ => same ▸ .array size body⟩
  | .object fields, ⟨ascending, ordered⟩ =>
    (only_counted (only_fields fields ordered) (length_le_writeFields fields)).congr fun _ =>
      ⟨fun | .object ⟨same, _⟩ size body => same ▸ ⟨_, _, rfl, size, body⟩,
        fun ⟨_, _, same, size, body⟩ => same ▸ .object ⟨rfl, ascending⟩ size body⟩
  | .function f, _ => (only_handle f).congr fun _ => ⟨fun | .function body => body, .function⟩

theorem only_items : ∀ items : List Datum, Datum.OrderedItems items →
    Only (ItemsForm .canonical items) (writeItems items)
  | [], _ => fun _ _ => ⟨fun | .nil => rfl, fun same => same ▸ .nil⟩
  | item :: rest, ⟨first, others⟩ =>
    ((only_datum item first).both (only_items rest others)).congr fun _ =>
      ⟨fun | .cons head tail => ⟨_, _, rfl, head, tail⟩,
        fun ⟨_, _, same, head, tail⟩ => same ▸ .cons head tail⟩

theorem only_fields : ∀ fields : List (String × Datum), Datum.OrderedFields fields →
    Only (EntriesForm .canonical fields) (writeFields fields)
  | [], _ => fun _ _ => ⟨fun | .nil => rfl, fun same => same ▸ .nil⟩
  | (name, value) :: rest, ⟨first, others⟩ => by
    have entry := (only_text name).both ((only_datum value first).both (only_fields rest others))
    rw [writeFields, List.append_assoc]
    exact entry.congr fun _ =>
      ⟨fun | .cons key body tail => ⟨_, _, rfl, key, _, _, rfl, body, tail⟩,
        fun ⟨_, _, same, key, _, _, inner, body, tail⟩ =>
          same ▸ inner ▸ .cons key body tail⟩

end

theorem only_target (target : FunctionRef) :
    Only (TargetForm .canonical target) (write target) := by
  cases target with
  | path path => exact (only_number (n := 0) (by decide)).both (only_text path)
  | retained id => exact (only_number (n := 1) (by decide)).both (only_word id)

theorem only_eval (r : EvalRequest) : Only (EvalForm .canonical r) (write r) := by
  have pieces := (only_text r.source).both ((only_option only_text r.fileName).both
    ((only_bool r.asModule).both (only_option only_bool r.strict)))
  simp only [← List.append_assoc] at pieces
  exact pieces

theorem only_call (r : CallRequest) (ordered : Datum.OrderedItems r.args) :
    Only (CallForm .canonical r) (write r) := by
  have pieces := (only_target r.function).both
    (only_counted (only_items r.args ordered) (length_le_writeItems r.args))
  simp only [← List.append_assoc] at pieces
  exact pieces

theorem only_assignment (a : GlobalAssignment) (ordered : a.value.Ordered) :
    Only (AssignmentForm .canonical a) (write a) :=
  (only_text a.name).both (only_datum a.value ordered)

theorem only_options (o : EngineOptions) : Only (OptionsForm .canonical o) (write o) := by
  have pieces := (only_option only_word o.memoryLimit).both
    ((only_option only_word o.stackLimit).both (only_option only_word o.timeout))
  simp only [← List.append_assoc] at pieces
  exact pieces

end Wire

end ScriptHost

/-! ### Reading back -/

namespace ScriptHost

theorem Fields.ofList_ascending (fields : List (String × Datum))
    (ascending : Wire.Ascending fields) : Fields.ofList fields = fields := by
  induction fields with
  | nil => rfl
  | cons field rest ih =>
    obtain ⟨first, others⟩ := List.pairwise_cons.mp ascending
    have tail : Fields.ofList rest = rest := ih others
    show Fields.insertNew field.1 field.2 (Fields.ofList rest) = field :: rest
    rw [tail]
    cases rest with
    | nil => rfl
    | cons next more => simp [Fields.insertNew, first next List.mem_cons_self]

namespace Wire

theorem canonical_readable : Grammar.canonical.Readable where
  number form := form.1
  listing := by
    rintro entries _ ⟨rfl, ascending⟩
    exact Fields.ofList_ascending entries ascending

end Wire

namespace Codec

open Wire

variable {α : Type} [Wire α]

/-- These bytes are the encoding: it succeeds within any limit that they respect, the format
allows no other bytes for the value, and they are decoded to it. -/
structure RoundTrips (form : α → List UInt8 → Prop) (x : α) (encoding : List UInt8) : Prop where
  succeeds : ∀ limit : UInt64,
    (∃ bytes, (Codec.mk limit.toNat).encode x = .ok bytes) ↔ encoding.length ≤ limit.toNat
  sound : ∀ (limit : UInt64) bytes, (Codec.mk limit.toNat).encode x = .ok bytes →
    bytes = encoding ∧ (∀ other, form x other ↔ other = encoding) ∧ decode encoding = .ok x

theorem encode_eq_ok (codec : Codec) (x : α) (bytes : List UInt8) :
    codec.encode x = .ok bytes ↔ bytes = Wire.write x ∧ (Wire.write x).length ≤ codec.limit := by
  unfold encode
  dsimp only
  split <;> simp [*, eq_comm]

theorem roundTrips {form : α → List UInt8 → Prop} {x : α} (only : Only (form x) (Wire.write x))
    (reads : ∀ {bytes}, form x bytes → Reads (Wire.read : Reader α) bytes x) :
    RoundTrips form x (Wire.write x) where
  succeeds limit := by simp [encode_eq_ok]
  sound limit bytes succeeded := by
    obtain ⟨same, fits⟩ := (encode_eq_ok _ x bytes).mp succeeded
    have unique := only (Nat.lt_of_le_of_lt fits limit.toNat_lt)
    have read : readAll (Wire.write x) = .ok x := readAll_eq (reads ((unique _).mpr rfl))
    exact ⟨same, unique, by simp [decode, read]⟩

end Codec

end ScriptHost

/-! ### Fields in any order -/

namespace ScriptHost

namespace Datum

mutual

/-- The datum with the fields of every object in order, the last of each name counting. -/
def tidied : Datum → Datum
  | .array items => .array (tidiedItems items)
  | .object fields => .object (Fields.ofList (tidiedFields fields))
  | x => x

def tidiedItems : List Datum → List Datum
  | [] => []
  | item :: rest => item.tidied :: tidiedItems rest

def tidiedFields : List (String × Datum) → List (String × Datum)
  | [] => []
  | (name, value) :: rest => (name, value.tidied) :: tidiedFields rest

end

theorem length_tidiedItems (items : List Datum) : (tidiedItems items).length = items.length := by
  induction items with
  | nil => rfl
  | cons item rest ih => exact congrArg (· + 1) ih

theorem length_tidiedFields (fields : List (String × Datum)) :
    (tidiedFields fields).length = fields.length := by
  induction fields with
  | nil => rfl
  | cons field rest ih => exact congrArg (· + 1) ih

end Datum

namespace Wire

/-- What is written of any data: entries stand for the fields that they are put in order to. -/
def Grammar.unordered : Grammar where
  number := Shortest
  listing entries fields := Fields.ofList entries = fields

theorem unordered_readable : Grammar.unordered.Readable where
  number form := form.1
  listing same := same

theorem tagOf_tidied (x : Datum) : tagOf x.tidied = tagOf x := by
  cases x <;> rfl

/-- A list of these bytes is announced by its length. -/
theorem shortest_count {count announced : Nat} {body : List UInt8} (same : announced = count)
    (le : count ≤ body.length) (small : (writeNat count ++ body).length < 2 ^ 64) :
    Shortest announced (writeNat count) := by
  rw [List.length_append] at small
  exact (shortest_iff _ _).mpr ⟨by omega, by rw [same]⟩

mutual

theorem form_writeDatum : ∀ x : Datum, (writeDatum x).length < 2 ^ 64 →
    DatumForm .unordered x.tidied (writeDatum x)
  | x, small => by
    rw [writeDatum_eq] at small ⊢
    have tag : Shortest (tagOf x.tidied) (writeNat (tagOf x)) := by
      have known := tagOf_lt x
      exact (shortest_iff _ _).mpr ⟨by rw [tagOf_tidied]; omega, by rw [tagOf_tidied]⟩
    refine .tagged tag (form_content x ?_)
    rw [List.length_append] at small
    omega

theorem form_content : ∀ x : Datum, (writeDatum x).tail.length < 2 ^ 64 →
    ContentForm .unordered x.tidied (writeDatum x).tail
  | .undefined, _ => .undefined
  | .null, _ => .null
  | .bool b, _ => .bool rfl
  | .int i, small => .int ((only_int i small _).mpr rfl)
  | .float d, small => .float ((only_double d small _).mpr rfl)
  | .bigInt s, small => .bigInt ((only_text s small _).mpr rfl)
  | .string s, small => .string ((only_text s small _).mpr rfl)
  | .array items, small => by
    have size := shortest_count (Datum.length_tidiedItems items) (length_le_writeItems items) small
    refine .array size (form_writeItems items ?_)
    simp only [writeDatum, List.tail_cons, List.length_append] at small
    omega
  | .object fields, small => by
    have size := shortest_count (Datum.length_tidiedFields fields) (length_le_writeFields fields) small
    refine .object rfl size (form_writeFields fields ?_)
    simp only [writeDatum, List.tail_cons, List.length_append] at small
    omega
  | .function f, small => .function ((only_handle f small _).mpr rfl)

theorem form_writeItems : ∀ items : List Datum, (writeItems items).length < 2 ^ 64 →
    ItemsForm .unordered (Datum.tidiedItems items) (writeItems items)
  | [], _ => .nil
  | item :: rest, small => by
    rw [writeItems, List.length_append] at small
    exact .cons (form_writeDatum item (by omega)) (form_writeItems rest (by omega))

theorem form_writeFields : ∀ fields : List (String × Datum), (writeFields fields).length < 2 ^ 64 →
    EntriesForm .unordered (Datum.tidiedFields fields) (writeFields fields)
  | [], _ => .nil
  | (name, value) :: rest, small => by
    rw [writeFields, List.length_append, List.length_append] at small
    rw [writeFields, List.append_assoc]
    exact .cons ((only_text name (by omega) _).mpr rfl) (form_writeDatum value (by omega))
      (form_writeFields rest (by omega))

end

end Wire

/-- What is written is read, whatever the order of the fields. -/
theorem Codec.decode_write {x : Datum} (small : (Wire.write x).length < 2 ^ 64) :
    decode (Wire.write x) = .ok x.tidied := by
  have read : Wire.readAll (Wire.write x) = .ok x.tidied :=
    Wire.readAll_eq (Wire.reads_datum Wire.unordered_readable (Wire.form_writeDatum x small))
  simp only [decode, read]

end ScriptHost
