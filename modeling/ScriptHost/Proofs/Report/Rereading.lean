import ScriptHost.Channel.Basic
import ScriptHost.Engine.Scripted
import ScriptHost.Proofs.Data.Fields

/-! Results read back from what is written of them. Every field of a record is written under its name or is left
out; if no name is used twice and what is written can be read, then each field is read from its own member, or
from none. What is left out is read as the value that it was left out for, so a result comes back as it was,
whatever its handle, error and timing. Only data that are null do not: they are written, and a null that is
written is read as no data. -/

namespace ScriptHost

namespace Json

variable {α : Type}

/-! ### Values -/

theorem eq_null_of_isNull {v : Json} (null : v.isNull = true) : v = .null := by
  cases v with
  | null => rfl
  | _ => cases null

theorem unsigned_toNat (n : UInt64) : Decoder.unsigned (.int n.toNat) = .ok n := by
  simp [Decoder.unsigned]

/-- What is no null is read as a value that is there. -/
theorem optional_eq_some {decode : Decoder α} {v : Json} {a : α} (present : v.isNull = false)
    (reads : decode v = .ok a) : Decoder.optional decode v = .ok (some a) := by
  cases v with
  | null => cases present
  | _ => simp only [Decoder.optional, reads, Except.map]

theorem string_eq (s : String) : Decoder.string (.string s) = .ok s := rfl

theorem any_eq (v : Json) : Decoder.any v = .ok v := rfl

theorem optional_any (v : Json) : Decoder.optional .any v = .ok (if v.isNull then none else some v) := by
  cases v <;> rfl

theorem fields_mapValues {decode : Decoder α} {encode : α → Json}
    (reads : ∀ a, decode (encode a) = .ok a) (fields : Fields α) :
    Decoder.fields decode (.object (fields.mapValues encode)) = .ok fields := by
  unfold Decoder.fields Fields.mapValues
  induction fields with
  | nil => rfl
  | cons entry rest ih =>
    simp only [List.map_cons, List.mapM_cons, ih, reads]
    rfl

/-! ### Records -/

/-- A field of a record and the value that is written for it, if any is. -/
abbrev Written := FieldSpec × Option Json

def entriesOf (fields : List Written) : List (String × Json) :=
  fields.filterMap fun (spec, value) => value.map fun value => (spec.name, value)

variable {fields : List Written}

theorem mem_entriesOf {name : String} {value : Json} :
    (name, value) ∈ entriesOf fields ↔ ∃ spec, (spec, some value) ∈ fields ∧ spec.name = name := by
  simp only [entriesOf, List.mem_filterMap, Option.map_eq_some_iff, Prod.mk.injEq, Prod.exists]
  constructor
  · rintro ⟨spec, _, member, _, rfl, rfl, rfl⟩
    exact ⟨spec, member, rfl⟩
  · rintro ⟨spec, member, rfl⟩
    exact ⟨spec, _, member, _, rfl, rfl, rfl⟩

/-- Under the name of a field stands what is written for the field. -/
theorem lookup_entriesOf (names : (fields.map fun field => field.1.name).Nodup) {field : Written}
    (member : field ∈ fields) :
    (Fields.ofList (entriesOf fields)).lookup field.1.name = field.2 := by
  obtain ⟨spec, value⟩ := field
  rw [Fields.lookup_ofList]
  cases found : (entriesOf fields).reverse.lookup spec.name with
  | some shown =>
    obtain ⟨before, after, shape, -⟩ := List.lookup_eq_some_iff.mp found
    have written : (spec.name, shown) ∈ entriesOf fields :=
      List.mem_reverse.mp (shape ▸ List.mem_append_right before List.mem_cons_self)
    obtain ⟨other, among, named⟩ := mem_entriesOf.mp written
    exact (Prod.mk.inj (List.inj_on_of_nodup_map names among member named)).2
  | none =>
    cases value with
    | none => rfl
    | some v =>
      have written : (spec.name, v) ∈ entriesOf fields := mem_entriesOf.mpr ⟨spec, member, rfl⟩
      have unnamed := List.lookup_eq_none_iff.mp found _ (List.mem_reverse.mpr written)
      simp at unnamed

@[simp] theorem required_name (name : String) (decode : Decoder α) :
    (FieldSpec.required name decode).name = name := rfl

@[simp] theorem defaulted_name (name : String) (decode : Decoder α) :
    (FieldSpec.defaulted name decode).name = name := rfl

/-- What is found fit for a field can be read. -/
theorem required_fits {name : String} {decode : Decoder α} {v : Json} :
    (FieldSpec.required name decode).fault? v = none ↔ ∃ a, decode v = .ok a := by
  simp only [FieldSpec.required]
  cases decode v <;> simp

theorem defaulted_fits {name : String} {decode : Decoder α} {v : Json} :
    (FieldSpec.defaulted name decode).fault? v = none ↔ ∃ a, decode v = .ok a :=
  @required_fits α name decode v

/-- A record is put together from what is written of it if every value fits its field. -/
theorem record_entriesOf (names : (fields.map fun field => field.1.name).Nodup)
    (fits : ∀ field ∈ fields, ∀ value, field.2 = some value → field.1.fault? value = none) :
    ∃ members : Members, (∀ field ∈ fields, members.lookup field.1.name = field.2) ∧
      ∀ (type : String) (build : Members → Except Mismatch α),
        Decoder.record type (fields.map Prod.fst) build (ofFields (entriesOf fields)) = build members := by
  refine ⟨Fields.ofList (entriesOf fields), fun field member => lookup_entriesOf names member,
    fun type build => ?_⟩
  rw [ofFields, Decoder.record]
  dsimp only
  split
  case h_1 fault later found =>
    have faulty : fault ∈ fault :: later := List.mem_cons_self
    rw [← found, List.mem_filterMap] at faulty
    obtain ⟨⟨name, value⟩, member, told⟩ := faulty
    obtain ⟨spec, written, named⟩ := mem_entriesOf.mp ((Fields.ofList_subperm _).subset member)
    obtain ⟨_, found, told⟩ := Option.bind_eq_some_iff.mp told
    obtain ⟨⟨own, held⟩, among, rfl⟩ := List.mem_map.mp (List.mem_of_find?_eq_some found)
    have same : own.name = name := by simpa using List.find?_some found
    obtain ⟨rfl, rfl⟩ := Prod.mk.inj (List.inj_on_of_nodup_map names among written (same.trans named.symm))
    rw [fits _ written value rfl] at told
    cases told
  case h_2 => rfl

variable {members : Members} {name : String} {decode : Decoder α}

theorem required_of_lookup {v : Json} {a : α} (held : members.lookup name = some v)
    (reads : decode v = .ok a) : members.required name decode = .ok a := by
  simp only [Members.required, held, reads]

/-- A field that is left out when it has its default. -/
theorem defaulted_of_lookup {omitted : Bool} {v : Json} {a default : α}
    (held : members.lookup name = if omitted then none else some v) (reads : decode v = .ok a)
    (absent : omitted = true → a = default) : members.defaulted name decode default = .ok a := by
  rw [Members.defaulted, held]
  cases omitted with
  | true =>
    rw [absent rfl]
    rfl
  | false => exact reads

/-- A field that is left out when it has no value. -/
theorem optional_of_lookup {encode : α → Json} {a : Option α}
    (held : members.lookup name = a.map encode) (present : ∀ a, (encode a).isNull = false)
    (reads : ∀ a, decode (encode a) = .ok a) : members.optional name decode = .ok a := by
  rw [Members.optional, Members.defaulted, held]
  cases a with
  | none => rfl
  | some a => exact optional_eq_some (present a) (reads a)

/-- A field of any value that is left out when it has none. A null is written, and read as none. -/
theorem optional_any_of_lookup {a : Option Json} (held : members.lookup name = a) :
    members.optional name .any = .ok (a.filter fun v => !v.isNull) := by
  rw [Members.optional, Members.defaulted, held]
  cases a with
  | none => rfl
  | some v => cases v <;> rfl

end Json

open Json

/-! ### Reports -/

theorem Status.ofJson?_toJson (s : Status) : ofJson? s.toJson = .ok s := by
  cases s <;> rfl

theorem ErrorCode.ofJson?_toJson (code : ErrorCode) : ofJson? code.toJson = .ok code := by
  cases code <;> rfl

namespace ErrorInfo

def written (info : ErrorInfo) : List Written :=
  [(.required "code" ErrorCode.ofJson?, some info.code.toJson),
   (.required "message" .string, some (.string info.message)),
   (.defaulted "details" .any, if info.details.isNull then none else some info.details)]

theorem toJson_eq (info : ErrorInfo) : info.toJson = .ofFields (entriesOf info.written) := by
  unfold toJson written
  split <;> rfl

theorem ofJson?_toJson (info : ErrorInfo) : ofJson? info.toJson = .ok info := by
  have names : (info.written.map fun field => field.1.name).Nodup := by simp [written]
  have fits : ∀ field ∈ info.written, ∀ value, field.2 = some value → field.1.fault? value = none := by
    simp only [written, List.forall_mem_cons, Option.some.injEq, forall_eq', required_fits, defaulted_fits]
    exact ⟨⟨_, info.code.ofJson?_toJson⟩, ⟨_, string_eq _⟩, fun v _ => ⟨_, any_eq v⟩, List.forall_mem_nil _⟩
  obtain ⟨members, held, read⟩ := record_entriesOf names fits
  simp only [written, List.forall_mem_cons, required_name, defaulted_name] at held
  obtain ⟨code, message, details, -⟩ := held
  rw [toJson_eq, ofJson?]
  refine (read _ _).trans ?_
  rw [required_of_lookup code info.code.ofJson?_toJson, required_of_lookup message (string_eq _),
    defaulted_of_lookup details (any_eq _) eq_null_of_isNull]
  rfl

end ErrorInfo

namespace Timing

def written (t : Timing) : List Written :=
  [(.required "total" .unsigned, some (.int t.total.toNat)),
   (.defaulted "steps" (.fields .unsigned),
    if t.steps.isEmpty then none else some (.object (t.steps.mapValues fun ms => .int ms.toNat)))]

theorem toJson_eq (t : Timing) : t.toJson = .ofFields (entriesOf t.written) := by
  unfold toJson written
  split <;> rfl

theorem ofJson?_toJson (t : Timing) : ofJson? t.toJson = .ok t := by
  have steps := fields_mapValues unsigned_toNat t.steps
  have names : (t.written.map fun field => field.1.name).Nodup := by simp [written]
  have fits : ∀ field ∈ t.written, ∀ value, field.2 = some value → field.1.fault? value = none := by
    simp only [written, List.forall_mem_cons, Option.some.injEq, forall_eq', Option.ite_none_left_eq_some,
      and_imp, required_fits, defaulted_fits]
    exact ⟨⟨_, unsigned_toNat _⟩, fun _ _ shown => ⟨_, shown ▸ steps⟩, List.forall_mem_nil _⟩
  obtain ⟨members, held, read⟩ := record_entriesOf names fits
  simp only [written, List.forall_mem_cons, required_name, defaulted_name] at held
  obtain ⟨total, rest, -⟩ := held
  rw [toJson_eq, ofJson?]
  refine (read _ _).trans ?_
  rw [required_of_lookup total (unsigned_toNat t.total),
    defaulted_of_lookup rest steps List.isEmpty_iff.mp]
  rfl

end Timing

namespace CallResult

def written (r : CallResult) : List Written :=
  [(.required "run_id" .string, some (.string r.runId)),
   (.required "method" .string, some (.string r.method)),
   (.defaulted "handle" (.optional .unsigned), r.handle.map fun h => .int h.toNat),
   (.required "status" Status.ofJson?, some r.status.toJson),
   (.required "error" (.optional ErrorInfo.ofJson?), r.error.map ErrorInfo.toJson),
   (.required "timing_ms" Timing.ofJson?, some r.timing.toJson),
   (.defaulted "data" (.optional .any), r.data)]

theorem toJson_eq (r : CallResult) : r.toJson = .ofFields (entriesOf r.written) := by
  unfold toJson written
  cases r.handle <;> cases r.error <;> cases r.data <;> rfl

theorem names_written (r : CallResult) : (r.written.map fun field => field.1.name).Nodup := by
  simp [written]

/-- Reading gives the result back, but with no data where they are null. -/
theorem ofJson?_toJson (r : CallResult) :
    ofJson? r.toJson = .ok { r with data := r.data.filter fun v => !v.isNull } := by
  have fits : ∀ field ∈ r.written, ∀ value, field.2 = some value → field.1.fault? value = none := by
    simp only [written, List.forall_mem_cons, Option.some.injEq, forall_eq', Option.map_eq_some_iff,
      forall_exists_index, and_imp, forall_apply_eq_imp_iff₂, required_fits, defaulted_fits]
    exact ⟨⟨_, string_eq _⟩, ⟨_, string_eq _⟩, fun h _ => ⟨_, optional_eq_some rfl (unsigned_toNat h)⟩,
      ⟨_, r.status.ofJson?_toJson⟩, fun info _ => ⟨_, optional_eq_some rfl info.ofJson?_toJson⟩,
      ⟨_, r.timing.ofJson?_toJson⟩, fun v _ => ⟨_, optional_any v⟩, List.forall_mem_nil _⟩
  obtain ⟨members, held, read⟩ := record_entriesOf r.names_written fits
  simp only [written, List.forall_mem_cons, required_name, defaulted_name] at held
  obtain ⟨runId, method, handle, status, error, timing, data, -⟩ := held
  rw [toJson_eq, ofJson?]
  refine (read _ _).trans ?_
  rw [required_of_lookup runId (string_eq _), required_of_lookup method (string_eq _),
    optional_of_lookup handle (fun _ => rfl) unsigned_toNat,
    required_of_lookup status r.status.ofJson?_toJson,
    optional_of_lookup error (fun _ => rfl) ErrorInfo.ofJson?_toJson,
    required_of_lookup timing r.timing.ofJson?_toJson, optional_any_of_lookup data]
  rfl

theorem filter_eq_self_iff (data : Option Json) :
    (data.filter fun v => !v.isNull) = data ↔ data ≠ some .null := by
  cases data with
  | none => simp
  | some v => cases v <;> simp [isNull]

/-- A result comes back from what is written of it, whatever its handle, status, error, timing and data are,
unless its data are null: then it comes back without data. What is written does tell null from no data. -/
theorem reread_keeps_all_but_null (r : CallResult) :
    ofJson? r.toJson = .ok { r with data := r.data.filter fun v => !v.isNull } ∧
    (ofJson? r.toJson = .ok r ↔ r.data ≠ some .null) ∧
    r.toJson.get? "data" = r.data := by
  refine ⟨r.ofJson?_toJson, ?_, ?_⟩
  · rw [ofJson?_toJson, Except.ok.injEq, ← filter_eq_self_iff]
    exact ⟨congrArg data, fun same => by rw [same]⟩
  · have member : (FieldSpec.defaulted "data" (.optional .any), r.data) ∈ r.written := by simp [written]
    rw [toJson_eq]
    exact lookup_entriesOf r.names_written member

/-- To set a global gives null, which is written, but does not come back. -/
theorem null_data_lost :
    let ch : Channel (ScriptedEngine.kind false) := .ofSettings {} ()
    let r := (ch.execute "1" ⟨"setGlobal", .object [("name", .string "v"), ("value", .int 1)]⟩).1
    r.status = .pass ∧ r.data = some .null ∧ ofJson? r.toJson ≠ .ok r := by
  intro ch r
  have passed : r.status = .pass := by decide +kernel
  have given : r.data.any isNull = true := by decide +kernel
  obtain ⟨v, held, isNull⟩ := (Option.any_eq_true _ _).mp given
  rw [eq_null_of_isNull isNull] at held
  refine ⟨passed, held, fun same => ?_⟩
  rw [ofJson?_toJson, Except.ok.injEq] at same
  exact (filter_eq_self_iff r.data).mp (congrArg data same) held

end CallResult

end ScriptHost
