import ScriptHost.Proofs.Text.Utf8
import ScriptHost.Proofs.Wire.Format

/-! Every form of a value is read as that value, whatever follows it. -/

namespace ScriptHost.Wire

variable {α β : Type} {g : Grammar}

/-- A grammar whose forms the readers understand. -/
structure Grammar.Readable (g : Grammar) : Prop where
  number {n bytes} : g.number n bytes → Varint n bytes
  listing {entries fields} : g.listing entries fields → Fields.ofList entries = fields

theorem Both.reads {first second : List UInt8 → Prop} {bytes : List UInt8} {reader : Reader α}
    {next : α → Reader β} {a : α} {b : β} (form : Both first second bytes)
    (head : ∀ {bytes}, first bytes → Reads reader bytes a)
    (tail : ∀ {bytes}, second bytes → Reads (next a) bytes b) :
    Reads (reader >>= next) bytes b := by
  obtain ⟨before, after, rfl, one, other⟩ := form
  exact (head one).bind (tail other)

theorem BoolForm.reads {b : Bool} {bytes : List UInt8} (form : BoolForm b bytes) :
    Reads (read : Reader Bool) bytes b := by
  subst form
  cases b <;> exact fun _ => rfl

theorem DoubleForm.reads {d : Double} {bytes : List UInt8} (form : DoubleForm d bytes) :
    Reads (read : Reader Double) bytes d := by
  obtain ⟨size, value⟩ := form
  have raw := reads_littleEndian bytes
  rw [size, value] at raw
  have bits := raw.map fun n => (⟨UInt64.ofNat n⟩ : Double)
  rwa [UInt64.ofNat_toNat] at bits

theorem OptionForm.reads [Wire α] {form : α → List UInt8 → Prop} {o : Option α}
    {bytes : List UInt8} (formed : OptionForm form o bytes)
    (inner : ∀ {a bytes}, form a bytes → Reads (read : Reader α) bytes a) :
    Reads (read : Reader (Option α)) bytes o := by
  cases formed with
  | none => exact fun _ => rfl
  | some formed =>
    intro rest
    have present := (inner formed).map Option.some
    exact present rest

theorem unfold_zigzag (i : Int) : unfold (zigzag i) = i := by
  simp only [unfold, zigzag]
  split <;> split <;> omega

theorem fold_eq_zigzag (i : Int) : fold i = zigzag i := by
  simp only [fold, zigzag]
  split <;> omega

theorem encode_eq_toByteArray (s : String) : Utf8.encode s = s.toByteArray.data.toList := by
  rw [← String.utf8Encode_toList, List.utf8Encode, List.toList_data_toByteArray]
  rfl

theorem reads_bytes (bytes : List UInt8) : Reads (readBytes bytes.length) bytes bytes := by
  intro rest
  simp [readBytes]

theorem readItems_cons (fuel count : Nat) (before : List Datum) :
    readItems (fuel + 1) (count + 1) before =
      readDatum fuel >>= fun item => readItems fuel count (item :: before) := by
  rw [readItems]

theorem readFields_cons (fuel count : Nat) (before : List (String × Datum)) :
    readFields (fuel + 1) (count + 1) before = (do
      let name ← read
      let value ← readDatum fuel
      readFields fuel count ((name, value) :: before)) := by
  rw [readFields]

section

variable (readable : g.Readable)
include readable

theorem WordForm.reads {n : UInt64} {bytes : List UInt8} (form : WordForm g n bytes) :
    Reads (read : Reader UInt64) bytes n := by
  have word := (readable.number form).reads.map UInt64.ofNat
  rwa [UInt64.ofNat_toNat] at word

theorem reads_int {i : Int64} {bytes : List UInt8} (form : g.number (zigzag i.toInt) bytes) :
    Reads (read : Reader Int64) bytes i := by
  have word := (readable.number form).reads.map fun n => Int64.ofInt (unfold n)
  rwa [unfold_zigzag, Int64.ofInt_toInt] at word

theorem TextForm.reads {s : String} {bytes : List UInt8} (form : TextForm g s bytes) :
    Reads (read : Reader String) bytes s := by
  refine Both.reads form (fun size => (readable.number size).reads) ?_
  rintro bytes rfl
  rw [← encode_eq_toByteArray]
  intro rest
  have size : s.toByteArray.size = (Utf8.encode s).length := by
    rw [encode_eq_toByteArray]
    rfl
  have raw := reads_bytes (Utf8.encode s) rest
  simp only [bind, StateT.bind, Except.bind, size, raw, Utf8.decode_encode]
  rfl

theorem HandleForm.reads {f : FunctionHandle} {bytes : List UInt8} (form : HandleForm g f bytes) :
    Reads (read : Reader FunctionHandle) bytes f := by
  refine Both.reads form (WordForm.reads readable) fun name => ?_
  exact (name.reads (TextForm.reads readable)).last (.pure f)

theorem reads_case {index count : Nat} {tag : List UInt8} (form : g.number index tag)
    (known : index < count) (few : count ≤ UInt32.size) : Reads (readCase count) tag index := by
  intro rest
  have number := (readable.number form).reads rest
  have small : ¬ UInt32.size ≤ index := by omega
  have named : ¬ count ≤ index := by omega
  simp only [readCase, bind, StateT.bind, Except.bind, number, if_neg small, if_neg named]
  rfl

theorem DatumForm.length_pos {x : Datum} {bytes : List UInt8} (form : DatumForm g x bytes) :
    0 < bytes.length := by
  obtain ⟨tag, -⟩ := form
  have pos := (readable.number tag).length_pos
  rw [List.length_append]
  omega

mutual

/-- Every value and every list has a byte of its own, so twice their number is fuel enough. -/
theorem DatumForm.reads {x : Datum} {bytes : List UInt8} : DatumForm g x bytes →
    ∀ fuel, 2 * bytes.length ≤ fuel → Reads (readDatum fuel) bytes x
  | form, 0, enough => by
    have pos := form.length_pos readable
    omega
  | .tagged tag content, fuel + 1, enough => by
    have pos := (readable.number tag).length_pos
    rw [List.length_append] at enough
    rw [readDatum]
    refine (reads_case readable tag (tagOf_lt x) (by decide)).bind ?_
    cases content with
    | undefined | null => exact .pure _
    | bool body => exact body.reads.map Datum.bool
    | int body => exact (reads_int readable body).map Datum.int
    | float body => exact body.reads.map Datum.float
    | bigInt body => exact (body.reads readable).map Datum.bigInt
    | string body => exact (body.reads readable).map Datum.string
    | array size body =>
      rw [List.length_append] at enough
      have items := body.reads fuel [] (by omega)
      exact (readable.number size).reads.bind (items.map Datum.array)
    | object listed size body =>
      rw [List.length_append] at enough
      have entries := body.reads fuel [] (by omega)
      rw [← readable.listing listed]
      exact (readable.number size).reads.bind
        (entries.map fun entries => Datum.object (Fields.ofList entries))
    | function body => exact (body.reads readable).map Datum.function
termination_by _ fuel => fuel

theorem ItemsForm.reads {items : List Datum} {bytes : List UInt8} : ItemsForm g items bytes →
    ∀ fuel before, 2 * bytes.length < fuel →
      Reads (readItems fuel items.length before) bytes (before.reverse ++ items)
  | .nil, fuel + 1, before, enough => by
    simpa [readItems] using Reads.pure before.reverse
  | @ItemsForm.cons _ item _ _ _ head tail, fuel + 1, before, enough => by
    have pos := head.length_pos readable
    rw [List.length_append] at enough
    rw [List.length_cons, readItems_cons]
    have first := head.reads fuel (by omega)
    have others := tail.reads fuel (item :: before) (by omega)
    rw [List.reverse_cons, List.append_assoc] at others
    exact first.bind others
termination_by _ fuel => fuel

theorem EntriesForm.reads {entries : List (String × Datum)} {bytes : List UInt8} :
    EntriesForm g entries bytes → ∀ fuel before, 2 * bytes.length < fuel →
      Reads (readFields fuel entries.length before) bytes (before.reverse ++ entries)
  | .nil, fuel + 1, before, enough => by
    simpa [readFields] using Reads.pure before.reverse
  | @EntriesForm.cons _ name x _ _ _ _ key value tail, fuel + 1, before, enough => by
    have pos := value.length_pos readable
    simp only [List.length_append] at enough
    rw [List.length_cons, readFields_cons]
    have first := value.reads fuel (by omega)
    have others := tail.reads fuel ((name, x) :: before) (by omega)
    rw [List.reverse_cons, List.append_assoc] at others
    exact (key.reads readable).bind (first.bind others)
termination_by _ fuel => fuel

end

theorem reads_datum {x : Datum} {bytes : List UInt8} (form : DatumForm g x bytes) :
    Reads (read : Reader Datum) bytes x := by
  intro rest
  have enough : 2 * bytes.length ≤ 2 * (bytes ++ rest).length + 2 := by
    rw [List.length_append]
    omega
  exact form.reads readable _ enough rest

theorem TargetForm.reads {target : FunctionRef} {bytes : List UInt8}
    (form : TargetForm g target bytes) : Reads (read : Reader FunctionRef) bytes target := by
  cases target with
  | path path =>
    refine Both.reads form (reads_case readable · (by decide) (by decide)) fun text => ?_
    exact (text.reads readable).map FunctionRef.path
  | retained id =>
    refine Both.reads form (reads_case readable · (by decide) (by decide)) fun word => ?_
    exact (word.reads readable).map FunctionRef.retained

theorem EvalForm.reads {r : EvalRequest} {bytes : List UInt8} (form : EvalForm g r bytes) :
    Reads (read : Reader EvalRequest) bytes r := by
  refine Both.reads form (TextForm.reads readable) fun form => ?_
  refine form.reads (fun name => name.reads (TextForm.reads readable)) fun form => ?_
  refine form.reads BoolForm.reads fun form => ?_
  exact (form.reads BoolForm.reads).last (.pure r)

theorem CallForm.reads {r : CallRequest} {bytes : List UInt8} (form : CallForm g r bytes) :
    Reads (read : Reader CallRequest) bytes r := by
  refine Both.reads form (TargetForm.reads readable) fun form => ?_
  refine form.reads (fun size => (readable.number size).reads) fun {body} items => ?_
  have args : Reads (fun bytes => readItems (2 * bytes.length + 2) r.args.length [] bytes)
      body r.args := by
    intro rest
    have enough : 2 * body.length < 2 * (body ++ rest).length + 2 := by
      rw [List.length_append]
      omega
    exact items.reads readable _ [] enough rest
  exact args.last (.pure r)

theorem AssignmentForm.reads {a : GlobalAssignment} {bytes : List UInt8}
    (form : AssignmentForm g a bytes) : Reads (read : Reader GlobalAssignment) bytes a := by
  refine Both.reads form (TextForm.reads readable) fun value => ?_
  exact (reads_datum readable value).last (.pure a)

theorem OptionsForm.reads {o : EngineOptions} {bytes : List UInt8} (form : OptionsForm g o bytes) :
    Reads (read : Reader EngineOptions) bytes o := by
  refine Both.reads form (fun word => word.reads (WordForm.reads readable)) fun form => ?_
  refine form.reads (fun word => word.reads (WordForm.reads readable)) fun word => ?_
  exact (word.reads (WordForm.reads readable)).last (.pure o)

end

theorem readAll_eq {α : Type} [Wire α] {x : α} {bytes : List UInt8}
    (reads : Reads (read : Reader α) bytes x) : readAll bytes = .ok x := by
  have whole := reads []
  rw [List.append_nil] at whole
  simp [readAll, whole]

end ScriptHost.Wire
