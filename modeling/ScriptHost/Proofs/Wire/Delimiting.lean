import ScriptHost.Proofs.Wire.Requests
import ScriptHost.Proofs.Wire.Writing

/-! Where a value ends is known from its bytes alone. Readers go through the bytes once, so of bytes
that break off they make what they make of the whole, or they run out; and bytes behind a value are
left over. No payload that was cut or continued is taken for another value. -/

namespace ScriptHost.Wire

variable {α β : Type}

/-- The bytes end where more are needed. -/
def Fault.RunsOut : Fault → Prop
  | .endOfInput | .shortText => True
  | _ => False

/-- What is made of bytes that break off, beside what is made of them when these go on. -/
inductive Cut (more : List UInt8) :
    Except Fault (α × List UInt8) → Except Fault (α × List UInt8) → Prop where
  /-- They suffice, and more is left behind them. -/
  | enough {a : α} {rest : List UInt8} : Cut more (.ok (a, rest)) (.ok (a, rest ++ more))
  /-- They do not. -/
  | short {fault : Fault} {whole : Except Fault (α × List UInt8)} : fault.RunsOut →
      Cut more (.error fault) whole
  /-- They are wrong, however they go on. -/
  | wrong {fault : Fault} : Cut more (.error fault) (.error fault)

namespace Cut

variable {more rest : List UInt8} {a : α} {one : Except Fault (α × List UInt8)}

/-- Where the whole is a value, the bytes before the break are the same value, or run out. -/
theorem of_whole (cut : Cut more one (.ok (a, rest))) :
    (∃ left, one = .ok (a, left) ∧ rest = left ++ more) ∨
      ∃ fault : Fault, one = .error fault ∧ fault.RunsOut := by
  cases cut with
  | enough => exact .inl ⟨_, rfl, rfl⟩
  | short out => exact .inr ⟨_, rfl, out⟩

theorem of_front (cut : Cut more (.ok (a, rest)) one) : one = .ok (a, rest ++ more) := by
  cases cut
  rfl

end Cut

/-- The reader goes through the bytes once. -/
def Sequential (reader : Reader α) : Prop :=
  ∀ front more, Cut more (reader front) (reader (front ++ more))

namespace Sequential

theorem pure (a : α) : Sequential (pure a : Reader α) := fun _ _ => .enough

theorem throw (fault : Fault) : Sequential (throw fault : Reader α) := fun _ _ => .wrong

theorem bind {reader : Reader α} {next : α → Reader β} (first : Sequential reader)
    (rest : ∀ a, Sequential (next a)) : Sequential (reader >>= next) := by
  intro front more
  have cut := first front more
  show Cut more (StateT.bind reader next front) (StateT.bind reader next (front ++ more))
  unfold StateT.bind
  generalize reader front = one at cut
  generalize reader (front ++ more) = other at cut
  cases cut with
  | enough => exact rest _ _ more
  | short out => exact .short out
  | wrong => exact .wrong

theorem map {reader : Reader α} (first : Sequential reader) (f : α → β) :
    Sequential (reader >>= fun a => Pure.pure (f a)) :=
  first.bind fun _ => .pure _

end Sequential

/-! ### The parts of the format -/

theorem sequential_byte : Sequential readByte := by
  rintro (_ | ⟨b, rest⟩) more
  · exact .short trivial
  · exact .enough

theorem sequential_littleEndian (width : Nat) : Sequential (readLittleEndian width) := by
  induction width with
  | zero => exact .pure 0
  | succ width ih => exact sequential_byte.bind fun _ => ih.map _

theorem sequential_number : Sequential readNat := by
  refine sequential_byte.bind fun b => ?_
  split
  · exact .pure _
  split
  · exact sequential_littleEndian 2
  split
  · exact sequential_littleEndian 4
  split
  · exact sequential_littleEndian 8
  split
  · exact .throw _
  · exact .throw _

theorem sequential_word : Sequential (read : Reader UInt64) := sequential_number.map _

theorem sequential_int : Sequential (read : Reader Int64) := sequential_number.map _

theorem sequential_double : Sequential (read : Reader Double) := (sequential_littleEndian 8).map _

theorem sequential_bool : Sequential (read : Reader Bool) := by
  refine sequential_byte.bind fun b => ?_
  split
  · exact .pure _
  split
  · exact .pure _
  · exact .throw _

theorem readBytes_short {count : Nat} {bytes : List UInt8} (short : bytes.length < count) :
    readBytes count bytes = .error .shortText := by
  simp [readBytes, short]

theorem readBytes_fits {count : Nat} {bytes : List UInt8} (fits : count ≤ bytes.length) :
    readBytes count bytes = .ok (bytes.take count, bytes.drop count) := by
  simp [readBytes, fits]

/-- A text is longer than what is left of bytes that break off, or it is there as a whole. -/
theorem sequential_bytes (count : Nat) : Sequential (readBytes count) := by
  intro front more
  by_cases short : front.length < count
  · rw [readBytes_short short]
    exact .short trivial
  · have fits : count ≤ front.length := Nat.not_lt.mp short
    have inside : count ≤ (front ++ more).length := by
      rw [List.length_append]
      omega
    rw [readBytes_fits fits, readBytes_fits inside, List.take_append_of_le_length fits,
      List.drop_append_of_le_length fits]
    exact .enough

theorem sequential_text : Sequential (read : Reader String) := by
  refine sequential_number.bind fun count => (sequential_bytes count).bind fun bytes => ?_
  split
  · exact .pure _
  · exact .throw _

theorem sequential_option [Wire α] (inner : Sequential (read : Reader α)) :
    Sequential (read : Reader (Option α)) := by
  refine sequential_byte.bind fun b => ?_
  split
  · exact .pure _
  split
  · exact inner.map _
  · exact .throw _

theorem sequential_handle : Sequential (read : Reader FunctionHandle) :=
  sequential_word.bind fun _ => (sequential_option sequential_text).map _

theorem sequential_case (count : Nat) : Sequential (readCase count) := by
  refine sequential_number.bind fun index => ?_
  split
  · exact .throw _
  split
  · exact .throw _
  · exact .pure _

/-! ### Data -/

mutual

theorem sequential_readDatum : ∀ fuel, Sequential (readDatum fuel)
  | 0 => .throw _
  | fuel + 1 => by
    rw [readDatum]
    refine (sequential_case 10).bind fun index => ?_
    split
    · exact .pure _
    · exact .pure _
    · exact sequential_bool.map _
    · exact sequential_int.map _
    · exact sequential_double.map _
    · exact sequential_text.map _
    · exact sequential_text.map _
    · exact sequential_number.bind fun count => (sequential_readItems fuel count []).map _
    · exact sequential_number.bind fun count => (sequential_readFields fuel count []).map _
    · exact sequential_handle.map _

theorem sequential_readItems : ∀ fuel count before, Sequential (readItems fuel count before)
  | 0, _, _ => .throw _
  | _ + 1, 0, before => by
    rw [readItems]
    exact .pure _
  | fuel + 1, count + 1, before => by
    rw [readItems_cons]
    exact (sequential_readDatum fuel).bind fun item =>
      sequential_readItems fuel count (item :: before)

theorem sequential_readFields : ∀ fuel count before, Sequential (readFields fuel count before)
  | 0, _, _ => .throw _
  | _ + 1, 0, before => by
    rw [readFields]
    exact .pure _
  | fuel + 1, count + 1, before => by
    rw [readFields_cons]
    exact sequential_text.bind fun name => (sequential_readDatum fuel).bind fun value =>
      sequential_readFields fuel count ((name, value) :: before)

end

/-- The bound on the reading is larger for longer bytes, which changes nothing. -/
theorem Sequential.of_fuel (reads : Nat → Reader α) (each : ∀ fuel, Sequential (reads fuel))
    (stable : ∀ {fuel bytes}, 2 * bytes.length + 2 ≤ fuel →
      reads fuel bytes = reads (2 * bytes.length + 2) bytes) :
    Sequential fun bytes => reads (2 * bytes.length + 2) bytes := by
  intro front more
  have le : 2 * front.length + 2 ≤ 2 * (front ++ more).length + 2 := by
    rw [List.length_append]
    omega
  have cut := each (2 * (front ++ more).length + 2) front more
  rwa [stable le] at cut

theorem sequential_datum : Sequential (read : Reader Datum) :=
  .of_fuel _ sequential_readDatum readDatum_of_le

theorem readItems_of_le {fuel count : Nat} {before : List Datum} {bytes : List UInt8}
    (enough : 2 * bytes.length + 2 ≤ fuel) :
    readItems fuel count before bytes = readItems (2 * bytes.length + 2) count before bytes := by
  induction fuel, enough using Nat.le_induction with
  | base => rfl
  | succ fuel enough ih => rw [readItems_succ fuel count before bytes (by omega), ih]

theorem sequential_target : Sequential (read : Reader FunctionRef) := by
  refine (sequential_case 2).bind fun index => ?_
  split
  · exact sequential_text.map _
  · exact sequential_word.map _

theorem sequential_call : Sequential (read : Reader CallRequest) := by
  refine sequential_target.bind fun function => sequential_number.bind fun count => ?_
  have items : Sequential fun bytes => readItems (2 * bytes.length + 2) count [] bytes :=
    .of_fuel (fun fuel => readItems fuel count []) (fun fuel => sequential_readItems fuel count [])
      readItems_of_le
  exact items.map _

end ScriptHost.Wire

namespace ScriptHost.Codec

open Wire

/-- The bytes are of no use cut or continued: of every strict prefix it is found that it breaks off, and
of everything longer that bytes are left. -/
structure Delimited (α : Type) [Wire α] (encoding : List UInt8) : Prop where
  truncated : ∀ front more, encoding = front ++ more → more ≠ [] → ∃ fault : Fault, fault.RunsOut ∧
    (decode front : Except CodecError α) = .error (.malformed fault.message)
  overlong : ∀ more, more ≠ [] →
    (decode (encoding ++ more) : Except CodecError α) = .error (.malformed Fault.leftover.message)

variable {α : Type} [Wire α] {encoding : List UInt8} {x : α}

theorem read_of_decode (decoded : decode encoding = .ok x) :
    (Wire.read : Reader α) encoding = .ok (x, []) := by
  unfold decode at decoded
  split at decoded <;> cases decoded
  exact readAll_eq_ok ‹_›

theorem decode_of_read_error {fault : Fault} (failed : (Wire.read : Reader α) encoding = .error fault) :
    (decode encoding : Except CodecError α) = .error (.malformed fault.message) := by
  simp [decode, readAll, failed]

theorem decode_of_leftover {rest : List UInt8}
    (read : (Wire.read : Reader α) encoding = .ok (x, rest)) (left : rest ≠ []) :
    (decode encoding : Except CodecError α) = .error (.malformed Fault.leftover.message) := by
  obtain ⟨b, more, rfl⟩ := List.exists_cons_of_ne_nil left
  simp [decode, readAll, read]

/-- What a reader that goes through the bytes once takes as a whole is delimited. -/
theorem delimited (sequential : Sequential (Wire.read : Reader α)) (decoded : decode encoding = .ok x) :
    Delimited α encoding where
  truncated := by
    rintro front more rfl nonempty
    have cut := sequential front more
    rw [read_of_decode decoded] at cut
    rcases cut.of_whole with ⟨left, -, nothing⟩ | ⟨fault, failed, out⟩
    · exact absurd (List.append_eq_nil_iff.mp nothing.symm).2 nonempty
    · exact ⟨fault, out, decode_of_read_error failed⟩
  overlong more nonempty := by
    have cut := sequential encoding more
    rw [read_of_decode decoded] at cut
    exact decode_of_leftover cut.of_front nonempty

/-- The encodings of data and of calls are delimited: every payload that was cut is found to break off,
and of every payload that was continued bytes are left. -/
theorem self_delimiting :
    (∀ (x : Datum) (limit : UInt64) encoding, x.Ordered →
      (Codec.mk limit.toNat).encode x = .ok encoding → Delimited Datum encoding) ∧
    ∀ (r : CallRequest) (limit : UInt64) encoding, Datum.OrderedItems r.args →
      (Codec.mk limit.toNat).encode r = .ok encoding → Delimited CallRequest encoding := by
  constructor
  · intro x limit encoding ordered encoded
    have trips := roundTrips (only_datum x ordered) (reads_datum canonical_readable)
    obtain ⟨rfl, -, decoded⟩ := trips.sound limit encoding encoded
    exact delimited sequential_datum decoded
  · intro r limit encoding ordered encoded
    have trips := roundTrips (only_call r ordered) (CallForm.reads canonical_readable)
    obtain ⟨rfl, -, decoded⟩ := trips.sound limit encoding encoded
    exact delimited sequential_call decoded

/-- An object with a list inside, and a call with it for an argument. -/
theorem self_delimiting_nested :
    let x := Datum.object [("k", .array [.int 300, .string "\u00e9"])]
    (x.Ordered ∧ (Codec.mk 99).encode x = .ok [8, 1, 1, 107, 7, 2, 3, 251, 88, 2, 6, 2, 195, 169] ∧
      Delimited Datum [8, 1, 1, 107, 7, 2, 3, 251, 88, 2, 6, 2, 195, 169]) ∧
    Datum.OrderedItems [x] ∧ (Codec.mk 99).encode (CallRequest.mk (.retained 1) [x]) =
      .ok [1, 1, 1, 8, 1, 1, 107, 7, 2, 3, 251, 88, 2, 6, 2, 195, 169] ∧
    Delimited CallRequest [1, 1, 1, 8, 1, 1, 107, 7, 2, 3, 251, 88, 2, 6, 2, 195, 169] := by
  intro x
  have ordered : x.Ordered := by
    simp only [x, Datum.Ordered, Datum.OrderedFields, Datum.OrderedItems, Ascending, and_true,
      List.pairwise_cons]
    decide
  have value : (Codec.mk (99 : UInt64).toNat).encode x =
      .ok [8, 1, 1, 107, 7, 2, 3, 251, 88, 2, 6, 2, 195, 169] := rfl
  have call : (Codec.mk (99 : UInt64).toNat).encode (CallRequest.mk (.retained 1) [x]) =
      .ok [1, 1, 1, 8, 1, 1, 107, 7, 2, 3, 251, 88, 2, 6, 2, 195, 169] := rfl
  have arguments : Datum.OrderedItems [x] := ⟨ordered, trivial⟩
  exact ⟨⟨ordered, value, self_delimiting.1 x 99 _ ordered value⟩, arguments, call,
    self_delimiting.2 ⟨.retained 1, [x]⟩ 99 _ arguments call⟩

end ScriptHost.Codec
