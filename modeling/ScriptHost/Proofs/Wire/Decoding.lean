import ScriptHost.Proofs.Data.Fields
import ScriptHost.Proofs.Wire.Reading

/-! Whatever a reader takes for a value is a form of that value in the tolerant grammar: numbers
may be longer than needed, and entries stand in any order. Decoding a datum ends on all bytes, whatever
lengths they announce, accepts the forms of the tolerant grammar and calls all else malformed. -/

namespace ScriptHost.Wire

variable {α β : Type}

/-- What the reader takes for a value is of the form. -/
def Takes (reader : Reader α) (form : α → List UInt8 → Prop) : Prop :=
  ∀ ⦃bytes a rest⦄, reader bytes = .ok (a, rest) → ∃ front, bytes = front ++ rest ∧ form a front

/-- A reader that took something in two steps. -/
theorem bind_eq_ok {reader : Reader α} {next : α → Reader β} {bytes rest : List UInt8} {b : β}
    (ran : (reader >>= next) bytes = .ok (b, rest)) :
    ∃ a mid, reader bytes = .ok (a, mid) ∧ next a mid = .ok (b, rest) := by
  rcases first : reader bytes with e | ⟨a, mid⟩
  · simp [bind, StateT.bind, first, Except.bind] at ran
  · refine ⟨a, mid, rfl, ?_⟩
    simpa [bind, StateT.bind, first, Except.bind] using ran

theorem pure_eq_ok {a b : α} {bytes rest : List UInt8}
    (ran : (pure a : Reader α) bytes = .ok (b, rest)) : a = b ∧ bytes = rest := by
  cases ran
  exact ⟨rfl, rfl⟩

theorem Takes.pure {form : α → List UInt8 → Prop} {a : α} (empty : form a []) :
    Takes (pure a) form := by
  intro bytes b rest ran
  obtain ⟨rfl, rfl⟩ := pure_eq_ok ran
  exact ⟨[], rfl, empty⟩

/-- What stands behind the first form completes it. -/
theorem Takes.bind {reader : Reader α} {next : α → Reader β} {first : α → List UInt8 → Prop}
    {form : β → List UInt8 → Prop} (head : Takes reader first)
    (tail : ∀ a before, first a before → Takes (next a) fun b after => form b (before ++ after)) :
    Takes (reader >>= next) form := by
  intro bytes b rest ran
  obtain ⟨a, _, taken, following⟩ := bind_eq_ok ran
  obtain ⟨before, rfl, one⟩ := head taken
  obtain ⟨after, rfl, whole⟩ := tail a before one following
  exact ⟨before ++ after, by rw [List.append_assoc], whole⟩

theorem Takes.map {reader : Reader α} {first : α → List UInt8 → Prop} {f : α → β}
    {form : β → List UInt8 → Prop} (head : Takes reader first)
    (fits : ∀ {a bytes}, first a bytes → form (f a) bytes) :
    Takes (reader >>= fun a => Pure.pure (f a)) form := by
  intro bytes b rest ran
  obtain ⟨a, _, taken, done⟩ := bind_eq_ok ran
  obtain ⟨rfl, rfl⟩ := pure_eq_ok done
  obtain ⟨front, same, formed⟩ := head taken
  exact ⟨front, same, fits formed⟩

theorem takes_byte : Takes readByte fun b bytes => bytes = [b] := by
  rintro (_ | ⟨first, others⟩) b rest ran
  · cases ran
  · cases ran
    exact ⟨[first], rfl, rfl⟩

theorem takes_littleEndian (width : Nat) :
    Takes (readLittleEndian width) fun n bytes =>
      bytes.length = width ∧ ofLittleEndian bytes = n := by
  induction width with
  | zero => exact .pure ⟨rfl, rfl⟩
  | succ width ih =>
    refine takes_byte.bind fun low _ single => ih.map fun {high bytes} ⟨size, value⟩ => ?_
    subst single
    exact ⟨congrArg Nat.succ size, by rw [← value]; rfl⟩

theorem takes_number : Takes readNat Varint := by
  intro bytes n rest ran
  obtain ⟨b, _, first, following⟩ := bind_eq_ok ran
  obtain ⟨_, rfl, rfl⟩ := takes_byte first
  split at following
  · obtain ⟨rfl, rfl⟩ := pure_eq_ok following
    exact ⟨[b], rfl, .one ‹_›⟩
  split at following
  · obtain ⟨body, rfl, size, rfl⟩ := takes_littleEndian 2 following
    exact ⟨b :: body, rfl, ‹b = 251› ▸ .two size⟩
  split at following
  · obtain ⟨body, rfl, size, rfl⟩ := takes_littleEndian 4 following
    exact ⟨b :: body, rfl, ‹b = 252› ▸ .four size⟩
  split at following
  · obtain ⟨body, rfl, size, rfl⟩ := takes_littleEndian 8 following
    exact ⟨b :: body, rfl, ‹b = 253› ▸ .eight size⟩
  split at following <;> cases following

theorem Varint.lt {n : Nat} {bytes : List UInt8} (form : Varint n bytes) : n < 2 ^ 64 := by
  obtain ⟨small, -⟩ | ⟨small, -⟩ | ⟨small, -⟩ | ⟨small, -⟩ := (varint_iff n bytes).mp form <;>
    omega

theorem takes_word : Takes (read : Reader UInt64) (WordForm .tolerant) := by
  refine takes_number.map fun {n bytes} form => ?_
  show Varint (UInt64.ofNat n).toNat bytes
  rwa [UInt64.toNat_ofNat_of_lt' form.lt]

theorem zigzag_unfold (n : Nat) : zigzag (unfold n) = n := by
  simp only [unfold, zigzag]
  split <;> split <;> omega

theorem takes_int :
    Takes (read : Reader Int64) fun i => Grammar.tolerant.number (zigzag i.toInt) := by
  refine takes_number.map fun {n bytes} form => ?_
  have small := form.lt
  have whole : (Int64.ofInt (unfold n)).toInt = unfold n := by
    refine Int64.toInt_ofInt_of_le ?_ ?_ <;> simp only [unfold] <;> split <;> omega
  show Varint _ bytes
  rwa [whole, zigzag_unfold]

theorem takes_bool : Takes (read : Reader Bool) BoolForm := by
  intro bytes b rest ran
  obtain ⟨byte, _, first, following⟩ := bind_eq_ok ran
  obtain ⟨_, rfl, rfl⟩ := takes_byte first
  split at following
  · obtain ⟨rfl, rfl⟩ := pure_eq_ok following
    exact ⟨[byte], rfl, by rw [‹byte = 0›]; rfl⟩
  split at following
  · obtain ⟨rfl, rfl⟩ := pure_eq_ok following
    exact ⟨[byte], rfl, by rw [‹byte = 1›]; rfl⟩
  · cases following

theorem takes_double : Takes (read : Reader Double) DoubleForm := by
  refine (takes_littleEndian 8).map fun {n bytes} form => ?_
  obtain ⟨size, rfl⟩ := form
  have small := ofLittleEndian_lt bytes
  rw [size] at small
  exact ⟨size, (UInt64.toNat_ofNat_of_lt' small).symm⟩

theorem takes_bytes (count : Nat) : Takes (readBytes count) fun taken bytes =>
    bytes = taken ∧ taken.length = count := by
  intro bytes taken rest ran
  simp only [readBytes, List.splitAt_eq] at ran
  split at ran
  · cases ran
  · rename_i enough
    cases ran
    refine ⟨bytes.take count, (List.take_append_drop count bytes).symm, rfl, ?_⟩
    rw [List.length_take] at enough ⊢
    omega

theorem takes_text : Takes (read : Reader String) (TextForm .tolerant) := by
  intro bytes s rest ran
  obtain ⟨count, _, counted, following⟩ := bind_eq_ok ran
  obtain ⟨size, rfl, number⟩ := takes_number counted
  obtain ⟨_, _, taken, checked⟩ := bind_eq_ok following
  obtain ⟨body, rfl, rfl, length⟩ := takes_bytes count taken
  rcases decoded : Utf8.decode body with fault | text
  · simp only [decoded] at checked
    cases checked
  · simp only [decoded] at checked
    obtain ⟨rfl, rfl⟩ := pure_eq_ok checked
    have same := (Utf8.decode_ok_iff body text).mp decoded
    rw [encode_eq_toByteArray] at same
    have whole : text.toByteArray.size = count := by
      rw [← length, same]
      rfl
    exact ⟨size ++ body, by rw [List.append_assoc], size, body, rfl, whole ▸ number, same⟩

theorem takes_option [Wire α] {form : α → List UInt8 → Prop}
    (inner : Takes (read : Reader α) form) :
    Takes (read : Reader (Option α)) (OptionForm form) := by
  intro bytes o rest ran
  obtain ⟨byte, _, first, following⟩ := bind_eq_ok ran
  obtain ⟨_, rfl, rfl⟩ := takes_byte first
  split at following
  · obtain ⟨rfl, rfl⟩ := pure_eq_ok following
    exact ⟨[byte], rfl, by rw [‹byte = 0›]; exact .none⟩
  split at following
  · obtain ⟨a, _, taken, done⟩ := bind_eq_ok following
    obtain ⟨rfl, rfl⟩ := pure_eq_ok done
    obtain ⟨front, rfl, formed⟩ := inner taken
    exact ⟨byte :: front, rfl, by rw [‹byte = 1›]; exact .some formed⟩
  · cases following

theorem takes_handle : Takes (read : Reader FunctionHandle) (HandleForm .tolerant) :=
  takes_word.bind fun _ before word =>
    (takes_option takes_text).map fun {_ after} known => ⟨before, after, rfl, word, known⟩

theorem takes_case (count : Nat) :
    Takes (readCase count) fun index bytes => Varint index bytes ∧ index < count := by
  intro bytes index rest ran
  obtain ⟨n, _, first, following⟩ := bind_eq_ok ran
  obtain ⟨front, rfl, number⟩ := takes_number first
  split at following
  · cases following
  split at following
  · cases following
  · obtain ⟨rfl, rfl⟩ := pure_eq_ok following
    exact ⟨front, rfl, number, by omega⟩

/-- The tag of a datum tells what is read behind it. -/
theorem takes_tagged {content : Nat → Reader Datum}
    (behind : ∀ index < 10, Takes (content index) fun x body =>
      tagOf x = index ∧ ContentForm .tolerant x body) :
    Takes (readCase 10 >>= content) (DatumForm .tolerant) := by
  refine (takes_case 10).bind fun index tag ⟨number, known⟩ => ?_
  intro bytes x rest ran
  obtain ⟨body, same, rfl, formed⟩ := behind index known ran
  exact ⟨body, same, .tagged number formed⟩

theorem tolerant_listing (entries : List (String × Datum)) :
    Grammar.tolerant.listing entries (Fields.ofList entries) :=
  ⟨Fields.ofList_sorted entries, Fields.lookup_ofList entries⟩

mutual

theorem takes_datum : ∀ fuel, Takes (readDatum fuel) (DatumForm .tolerant)
  | 0, bytes, x, rest, ran => by cases ran
  | fuel + 1, bytes, x, rest, ran => by
    rw [readDatum] at ran
    refine takes_tagged (fun index known => ?_) ran
    match index, known with
    | 0, _ => exact .pure ⟨rfl, .undefined⟩
    | 1, _ => exact .pure ⟨rfl, .null⟩
    | 2, _ => exact takes_bool.map fun body => ⟨rfl, .bool body⟩
    | 3, _ => exact takes_int.map fun body => ⟨rfl, .int body⟩
    | 4, _ => exact takes_double.map fun body => ⟨rfl, .float body⟩
    | 5, _ => exact takes_text.map fun body => ⟨rfl, .bigInt body⟩
    | 6, _ => exact takes_text.map fun body => ⟨rfl, .string body⟩
    | 7, _ =>
      refine takes_number.bind fun count size number => (takes_items fuel count []).map ?_
      rintro items body ⟨_, rfl, rfl, formed⟩
      exact ⟨rfl, .array number formed⟩
    | 8, _ =>
      refine takes_number.bind fun count size number => (takes_fields fuel count []).map ?_
      rintro entries body ⟨_, rfl, rfl, formed⟩
      exact ⟨rfl, .object (tolerant_listing _) number formed⟩
    | 9, _ => exact takes_handle.map fun body => ⟨rfl, .function body⟩

theorem takes_items : ∀ fuel count before, Takes (readItems fuel count before) fun items bytes =>
    ∃ more, items = before.reverse ++ more ∧ more.length = count ∧ ItemsForm .tolerant more bytes
  | 0, count, before, bytes, items, rest, ran => by cases ran
  | fuel + 1, 0, before, bytes, items, rest, ran => by
    rw [readItems] at ran
    obtain ⟨rfl, rfl⟩ := pure_eq_ok ran
    exact ⟨[], rfl, [], by rw [List.append_nil], rfl, .nil⟩
  | fuel + 1, count + 1, before, bytes, items, rest, ran => by
    rw [readItems_cons] at ran
    obtain ⟨item, _, first, following⟩ := bind_eq_ok ran
    obtain ⟨head, rfl, formed⟩ := takes_datum fuel first
    obtain ⟨tail, rfl, more, rfl, rfl, others⟩ := takes_items fuel count (item :: before) following
    refine ⟨head ++ tail, by rw [List.append_assoc], item :: more, ?_, rfl, .cons formed others⟩
    rw [List.reverse_cons, List.append_assoc]
    rfl

theorem takes_fields : ∀ fuel count before, Takes (readFields fuel count before)
    fun fields bytes => ∃ more, fields = before.reverse ++ more ∧ more.length = count ∧
      EntriesForm .tolerant more bytes
  | 0, count, before, bytes, fields, rest, ran => by cases ran
  | fuel + 1, 0, before, bytes, fields, rest, ran => by
    rw [readFields] at ran
    obtain ⟨rfl, rfl⟩ := pure_eq_ok ran
    exact ⟨[], rfl, [], by rw [List.append_nil], rfl, .nil⟩
  | fuel + 1, count + 1, before, bytes, fields, rest, ran => by
    rw [readFields_cons] at ran
    obtain ⟨name, _, first, following⟩ := bind_eq_ok ran
    obtain ⟨key, rfl, text⟩ := takes_text first
    obtain ⟨value, _, second, others⟩ := bind_eq_ok following
    obtain ⟨body, rfl, formed⟩ := takes_datum fuel second
    obtain ⟨tail, rfl, more, rfl, rfl, entries⟩ :=
      takes_fields fuel count ((name, value) :: before) others
    refine ⟨key ++ (body ++ tail), by simp only [List.append_assoc], (name, value) :: more, ?_, rfl,
      .cons text formed entries⟩
    rw [List.reverse_cons, List.append_assoc]
    rfl

end

end ScriptHost.Wire

/-! ### Decoding -/

namespace ScriptHost.Wire

variable {α β : Type}

theorem tolerant_readable : Grammar.tolerant.Readable where
  number form := form
  listing := by
    rintro entries fields ⟨ascending, last⟩
    refine Fields.eq_of_lookup_eq (Fields.ofList_sorted entries) ascending fun name => ?_
    rw [Fields.lookup_ofList, last]

/-- Two readers that agree on these bytes, and on what they leave. -/
theorem bind_congr_at {reader reader' : Reader α} {next next' : α → Reader β} {bytes : List UInt8}
    (first : reader bytes = reader' bytes)
    (rest : ∀ a rest, reader bytes = .ok (a, rest) → next a rest = next' a rest) :
    (reader >>= next) bytes = (reader' >>= next') bytes := by
  show StateT.bind reader next bytes = StateT.bind reader' next' bytes
  simp only [StateT.bind, ← first]
  rcases taken : reader bytes with e | ⟨a, left⟩
  · rfl
  · exact rest a left taken

mutual

/-- Each level of nesting takes a byte, and so does each item: the number of bytes bounds the
reading, and a larger bound changes nothing. -/
theorem readDatum_succ : ∀ fuel bytes, 2 * bytes.length < fuel →
    readDatum (fuel + 1) bytes = readDatum fuel bytes
  | fuel + 1, bytes, enough => by
    rw [readDatum, readDatum]
    refine bind_congr_at rfl fun index rest ran => ?_
    obtain ⟨tag, rfl, number, known⟩ := takes_case 10 ran
    have pos := number.length_pos
    rw [List.length_append] at enough
    match index, known with
    | 7, _ =>
      refine bind_congr_at rfl fun count rest ran => ?_
      obtain ⟨size, rfl, -⟩ := takes_number ran
      rw [List.length_append] at enough
      exact bind_congr_at (readItems_succ fuel count [] rest (by omega)) fun _ _ _ => rfl
    | 8, _ =>
      refine bind_congr_at rfl fun count rest ran => ?_
      obtain ⟨size, rfl, -⟩ := takes_number ran
      rw [List.length_append] at enough
      exact bind_congr_at (readFields_succ fuel count [] rest (by omega)) fun _ _ _ => rfl
    | 0, _ | 1, _ | 2, _ | 3, _ | 4, _ | 5, _ | 6, _ | 9, _ => rfl

theorem readItems_succ : ∀ fuel count before bytes, 2 * bytes.length + 1 < fuel →
    readItems (fuel + 1) count before bytes = readItems fuel count before bytes
  | fuel + 1, 0, before, bytes, enough => by rw [readItems, readItems]
  | fuel + 1, count + 1, before, bytes, enough => by
    rw [readItems_cons, readItems_cons]
    have same := readDatum_succ fuel bytes (by omega)
    refine bind_congr_at same fun item rest ran => ?_
    obtain ⟨front, rfl, form⟩ := takes_datum _ ran
    have pos := form.length_pos tolerant_readable
    rw [List.length_append] at enough
    exact readItems_succ fuel count (item :: before) rest (by omega)

theorem readFields_succ : ∀ fuel count before bytes, 2 * bytes.length + 1 < fuel →
    readFields (fuel + 1) count before bytes = readFields fuel count before bytes
  | fuel + 1, 0, before, bytes, enough => by rw [readFields, readFields]
  | fuel + 1, count + 1, before, bytes, enough => by
    rw [readFields_cons, readFields_cons]
    refine bind_congr_at rfl fun name rest ran => ?_
    obtain ⟨key, rfl, -⟩ := takes_text ran
    rw [List.length_append] at enough
    have same := readDatum_succ fuel rest (by omega)
    refine bind_congr_at same fun value rest ran => ?_
    obtain ⟨front, rfl, form⟩ := takes_datum _ ran
    have pos := form.length_pos tolerant_readable
    rw [List.length_append] at enough
    exact readFields_succ fuel count ((name, value) :: before) rest (by omega)

end

/-- What bounds the reading never ends it. -/
theorem readDatum_of_le {fuel : Nat} {bytes : List UInt8} (enough : 2 * bytes.length + 2 ≤ fuel) :
    readDatum fuel bytes = (read : Reader Datum) bytes := by
  induction fuel, enough using Nat.le_induction with
  | base => rfl
  | succ fuel enough ih => rw [readDatum_succ fuel bytes (by omega), ih]

end ScriptHost.Wire

namespace ScriptHost.Codec

open Wire

theorem readAll_eq_ok {α : Type} [Wire α] {bytes : List UInt8} {a : α}
    (ran : readAll bytes = .ok a) : (Wire.read : Reader α) bytes = .ok (a, []) := by
  unfold readAll at ran
  split at ran <;> cases ran
  assumption

theorem decode_datum_of_form {bytes : List UInt8} {x : Datum} (form : DatumForm .tolerant x bytes) :
    decode bytes = .ok x := by
  have ran : readAll bytes = .ok x := readAll_eq (reads_datum tolerant_readable form)
  simp [decode, ran]

theorem form_of_decode_datum {bytes : List UInt8} {x : Datum} (decoded : decode bytes = .ok x) :
    DatumForm .tolerant x bytes := by
  unfold decode at decoded
  split at decoded <;> cases decoded
  rename_i ran
  obtain ⟨front, whole, form⟩ := takes_datum _ (readAll_eq_ok ran)
  rw [List.append_nil] at whole
  exact whole ▸ form

/-- Bytes are decoded to a datum if and only if all of them are a form of it, canonical or not;
bytes of no such form are malformed. Reading ends by itself: from twice the number of bytes on,
no bound on its depth changes the result, whatever lengths the bytes announce. -/
theorem decode_datum_iff (bytes : List UInt8) :
    (∀ x : Datum, decode bytes = .ok x ↔ DatumForm .tolerant x bytes) ∧
    ((∃ x, DatumForm .tolerant x bytes) ∨
      ∃ reason, (decode bytes : Except CodecError Datum) = .error (.malformed reason)) ∧
    ∀ more, readDatum (2 * bytes.length + 2 + more) bytes = (read : Reader Datum) bytes := by
  refine ⟨fun x => ⟨form_of_decode_datum, decode_datum_of_form⟩, ?_, fun more => ?_⟩
  · rcases decoded : (decode bytes : Except CodecError Datum) with e | x
    · unfold decode at decoded
      split at decoded <;> cases decoded
      exact .inr ⟨_, rfl⟩
    · exact .inl ⟨x, form_of_decode_datum decoded⟩
  · exact readDatum_of_le (Nat.le_add_right _ _)

/-- A tag longer than needed, and a name that stands twice. -/
example : decode [251, 8, 0, 2, 1, 98, 1, 1, 98, 0] = .ok (Datum.object [("b", .undefined)]) := rfl

end ScriptHost.Codec
