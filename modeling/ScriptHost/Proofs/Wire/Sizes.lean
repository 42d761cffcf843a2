import ScriptHost.Proofs.Wire.Requests
import ScriptHost.Proofs.Wire.Writing

/-! How large values are that come out of a reader. Readers take forms that are longer than needed, and
entries of which only some count; but no form of a value is shorter than the one it is written in. So
what was read can be written again within the same limit, and it holds no more than its bytes have
room for. -/

namespace ScriptHost

namespace Datum

mutual

/-- The bytes of all texts in a datum: strings, digits, and the names of fields and functions. -/
def textBytes : Datum → Nat
  | .bigInt s | .string s => s.utf8ByteSize
  | .array items => textBytesOfItems items
  | .object fields => textBytesOfFields fields
  | .function f => f.name.elim 0 String.utf8ByteSize
  | _ => 0

def textBytesOfItems : List Datum → Nat
  | [] => 0
  | item :: rest => item.textBytes + textBytesOfItems rest

def textBytesOfFields : List (String × Datum) → Nat
  | [] => 0
  | (name, value) :: rest => name.utf8ByteSize + value.textBytes + textBytesOfFields rest

end

end Datum

namespace Wire

variable {α β : Type}

/-! ### What is written is never longer -/

/-- Nothing of the form is shorter. -/
def AtLeast (form : List UInt8 → Prop) (size : Nat) : Prop := ∀ ⦃bytes⦄, form bytes → size ≤ bytes.length

theorem AtLeast.both {first second : List UInt8 → Prop} {before after : List UInt8}
    (one : AtLeast first before.length) (other : AtLeast second after.length) :
    AtLeast (Both first second) (before ++ after).length := by
  rintro _ ⟨head, tail, rfl, formed, more⟩
  have least := one formed
  have most := other more
  simp only [List.length_append]
  omega

theorem atLeast_number (n : Nat) : AtLeast (Varint n) (writeNat n).length :=
  fun _ form => form.length_writeNat_le

theorem atLeast_bool (b : Bool) : AtLeast (BoolForm b) (write b).length := by
  rintro _ rfl
  exact Nat.le_refl _

theorem atLeast_double (d : Double) : AtLeast (DoubleForm d) (write d).length := by
  rintro bytes ⟨size, -⟩
  exact Nat.le_of_eq ((length_littleEndian 8 _).trans size.symm)

theorem atLeast_option [Wire α] {form : α → List UInt8 → Prop}
    (inner : ∀ a, AtLeast (form a) (write a).length) (o : Option α) :
    AtLeast (OptionForm form o) (write o).length := by
  rintro bytes (_ | formed)
  · exact Nat.le_refl _
  · exact Nat.succ_le_succ (inner _ formed)

theorem atLeast_word (n : UInt64) : AtLeast (WordForm .tolerant n) (write n).length :=
  atLeast_number n.toNat

theorem atLeast_int (i : Int64) :
    AtLeast (Grammar.tolerant.number (zigzag i.toInt)) (write i).length := by
  show AtLeast _ (writeNat (fold i.toInt)).length
  rw [fold_eq_zigzag]
  exact atLeast_number _

theorem atLeast_text (s : String) : AtLeast (TextForm .tolerant s) (write s).length := by
  have size : s.toByteArray.size = (Utf8.encode s).length := by
    rw [encode_eq_toByteArray]
    rfl
  rw [TextForm, size, ← encode_eq_toByteArray]
  refine (atLeast_number _).both ?_
  rintro _ rfl
  exact Nat.le_refl _

theorem atLeast_handle (f : FunctionHandle) : AtLeast (HandleForm .tolerant f) (write f).length :=
  (atLeast_word f.id).both (atLeast_option atLeast_text f.name)

theorem length_writeNat_mono {m n : Nat} (le : m ≤ n) : (writeNat m).length ≤ (writeNat n).length := by
  rw [length_writeNat, length_writeNat]
  simp only [UInt16.size, UInt32.size]
  repeat' split
  all_goals omega

theorem length_writeFields_eq_sum (fields : List (String × Datum)) : (writeFields fields).length =
    (fields.map fun field => (write field.1).length + (writeDatum field.2).length).sum := by
  induction fields with
  | nil => rfl
  | cons field rest ih =>
    obtain ⟨name, value⟩ := field
    simp only [writeFields, List.length_append, ih, List.map_cons, List.sum_cons]

/-- Entries of which some are left out are written in fewer bytes. -/
theorem length_writeFields_mono {fields entries : List (String × Datum)}
    (some : fields.Subperm entries) : (writeFields fields).length ≤ (writeFields entries).length := by
  rw [length_writeFields_eq_sum, length_writeFields_eq_sum]
  exact Fields.sum_map_le_of_subperm some _

mutual

/-- No form of a datum is shorter than what the datum is written as. -/
theorem DatumForm.length_le {x : Datum} {bytes : List UInt8} :
    DatumForm .tolerant x bytes → (writeDatum x).length ≤ bytes.length
  | .tagged tag content => by
    have first := atLeast_number _ tag
    have others := content.length_le
    rw [writeDatum_eq, List.length_append, List.length_append]
    omega

theorem ContentForm.length_le {x : Datum} {bytes : List UInt8} :
    ContentForm .tolerant x bytes → (writeDatum x).tail.length ≤ bytes.length
  | .undefined | .null => Nat.le_refl _
  | .bool body => atLeast_bool _ body
  | .int body => atLeast_int _ body
  | .float body => atLeast_double _ body
  | .bigInt body => atLeast_text _ body
  | .string body => atLeast_text _ body
  | .array size body => by
    have announced := atLeast_number _ size
    have items := body.length_le
    simp only [writeDatum, List.tail_cons, List.length_append]
    omega
  | @ContentForm.object _ entries _ _ _ listed size body => by
    -- The fields are those of the entries that count, so they are announced and written in less.
    obtain rfl := tolerant_readable.listing listed
    have some := Fields.ofList_subperm entries
    have announced := (length_writeNat_mono some.length_le).trans (atLeast_number _ size)
    have entries := (length_writeFields_mono some).trans body.length_le
    simp only [writeDatum, List.tail_cons, List.length_append]
    omega
  | .function body => atLeast_handle _ body

theorem ItemsForm.length_le {items : List Datum} {bytes : List UInt8} :
    ItemsForm .tolerant items bytes → (writeItems items).length ≤ bytes.length
  | .nil => Nat.le_refl _
  | .cons head tail => by
    have first := head.length_le
    have others := tail.length_le
    simp only [writeItems, List.length_append]
    omega

theorem EntriesForm.length_le {entries : List (String × Datum)} {bytes : List UInt8} :
    EntriesForm .tolerant entries bytes → (writeFields entries).length ≤ bytes.length
  | .nil => Nat.le_refl _
  | .cons key body tail => by
    have named := atLeast_text _ key
    have first := body.length_le
    have others := tail.length_le
    simp only [writeFields, List.length_append]
    omega

end

theorem atLeast_datum (x : Datum) : AtLeast (DatumForm .tolerant x) (write x).length :=
  fun _ form => form.length_le

theorem atLeast_target (target : FunctionRef) :
    AtLeast (TargetForm .tolerant target) (write target).length := by
  cases target with
  | path path => exact (atLeast_number 0).both (atLeast_text path)
  | retained id => exact (atLeast_number 1).both (atLeast_word id)

theorem atLeast_eval (r : EvalRequest) : AtLeast (EvalForm .tolerant r) (write r).length := by
  have pieces := (atLeast_text r.source).both ((atLeast_option atLeast_text r.fileName).both
    ((atLeast_bool r.asModule).both (atLeast_option atLeast_bool r.strict)))
  simp only [← List.append_assoc] at pieces
  exact pieces

theorem atLeast_call (r : CallRequest) : AtLeast (CallForm .tolerant r) (write r).length := by
  have items : AtLeast (ItemsForm .tolerant r.args) (writeItems r.args).length :=
    fun _ form => form.length_le
  have pieces := (atLeast_target r.function).both ((atLeast_number r.args.length).both items)
  simp only [← List.append_assoc] at pieces
  exact pieces

theorem atLeast_assignment (a : GlobalAssignment) :
    AtLeast (AssignmentForm .tolerant a) (write a).length :=
  (atLeast_text a.name).both (atLeast_datum a.value)

theorem atLeast_options (o : EngineOptions) : AtLeast (OptionsForm .tolerant o) (write o).length := by
  have word := atLeast_option atLeast_word
  have pieces := (word o.memoryLimit).both ((word o.stackLimit).both (word o.timeout))
  simp only [← List.append_assoc] at pieces
  exact pieces

/-! ### What is written has a byte for every value and every byte of text -/

theorem utf8ByteSize_lt_write (s : String) : s.utf8ByteSize < (write s).length := by
  have size : (Utf8.encode s).length = s.utf8ByteSize := by
    rw [encode_eq_toByteArray]
    rfl
  have counted : 0 < (writeNat (Utf8.encode s).length).length := by
    rw [length_writeNat]
    repeat' split
    all_goals decide
  show _ < (writeNat (Utf8.encode s).length ++ Utf8.encode s).length
  rw [List.length_append]
  omega

theorem utf8ByteSize_le_write_option (o : Option String) :
    o.elim 0 String.utf8ByteSize ≤ (write o).length := by
  cases o with
  | none => exact Nat.zero_le _
  | some s => exact (utf8ByteSize_lt_write s).le.trans (Nat.le_succ _)

mutual

/-- The tag of a datum pays for the datum, and its texts pay for themselves. -/
theorem load_le_writeDatum : ∀ x : Datum, x.nodes + x.textBytes ≤ (writeDatum x).length
  | .undefined | .null | .bool _ | .int _ | .float _ => Nat.succ_le_succ (Nat.zero_le _)
  | .bigInt s | .string s => by
    have text := utf8ByteSize_lt_write s
    simp only [Datum.nodes, Datum.textBytes, writeDatum, List.length_cons]
    omega
  | .array items => by
    have inside := load_le_writeItems items
    simp only [Datum.nodes, Datum.textBytes, writeDatum, List.length_cons, List.length_append]
    omega
  | .object fields => by
    have inside := load_le_writeFields fields
    simp only [Datum.nodes, Datum.textBytes, writeDatum, List.length_cons, List.length_append]
    omega
  | .function f => by
    have named := utf8ByteSize_le_write_option f.name
    show 1 + _ ≤ (9 :: (write f.id ++ write f.name)).length
    simp only [Datum.textBytes, List.length_cons, List.length_append]
    omega

theorem load_le_writeItems : ∀ items : List Datum,
    Datum.nodesOfItems items + Datum.textBytesOfItems items ≤ (writeItems items).length
  | [] => Nat.le_refl _
  | item :: rest => by
    have first := load_le_writeDatum item
    have others := load_le_writeItems rest
    simp only [Datum.nodesOfItems, Datum.textBytesOfItems, writeItems, List.length_append]
    omega

theorem load_le_writeFields : ∀ fields : List (String × Datum),
    Datum.nodesOfFields fields + Datum.textBytesOfFields fields ≤ (writeFields fields).length
  | [] => Nat.le_refl _
  | (name, value) :: rest => by
    have key := utf8ByteSize_lt_write name
    have first := load_le_writeDatum value
    have others := load_le_writeFields rest
    simp only [Datum.nodesOfFields, Datum.textBytesOfFields, writeFields, List.length_append]
    omega

end

end Wire

/-! ### Payloads -/

/-- The bytes of the texts that a request to evaluate has. -/
def EvalRequest.load (r : EvalRequest) : Nat :=
  r.source.utf8ByteSize + r.fileName.elim 0 String.utf8ByteSize

/-- The values that a call has among its arguments, and the bytes of all its texts. -/
def CallRequest.load (r : CallRequest) : Nat :=
  (match r.function with
    | .path path => path.utf8ByteSize
    | .retained _ => 0) + (Datum.nodesOfItems r.args + Datum.textBytesOfItems r.args)

def GlobalAssignment.load (a : GlobalAssignment) : Nat :=
  a.name.utf8ByteSize + (a.value.nodes + a.value.textBytes)

namespace Codec

open Wire

variable {α : Type} [Wire α]

/-- Bytes that are decoded to a value have room for all that it holds, and the value is encoded in no
more bytes than these, under any limit that they respect. -/
structure Compact (load : α → Nat) : Prop where
  shorter : ∀ {bytes} {x : α}, decode bytes = .ok x → (write x).length ≤ bytes.length
  returned : ∀ (limit : UInt64) {bytes} {x : α}, decode bytes = .ok x →
    bytes.length ≤ limit.toNat → (Codec.mk limit.toNat).encode x = .ok (write x)
  holds : ∀ {bytes} {x : α}, decode bytes = .ok x → load x ≤ bytes.length

theorem compact {load : α → Nat} {form : α → List UInt8 → Prop}
    (takes : Takes (read : Reader α) form) (least : ∀ x, AtLeast (form x) (write x).length)
    (pays : ∀ x, load x ≤ (write x).length) : Compact load := by
  have shorter {bytes : List UInt8} {x : α} (decoded : decode bytes = .ok x) :
      (write x).length ≤ bytes.length := by
    unfold decode at decoded
    split at decoded <;> cases decoded
    rename_i ran
    obtain ⟨front, whole, formed⟩ := takes (readAll_eq_ok ran)
    rw [List.append_nil] at whole
    exact whole ▸ least x formed
  refine ⟨shorter, fun limit bytes x decoded fits => ?_, fun decoded => (pays _).trans (shorter decoded)⟩
  exact (encode_eq_ok _ x _).mpr ⟨rfl, (shorter decoded).trans fits⟩

theorem load_le_write_eval (r : EvalRequest) : r.load ≤ (write r).length := by
  have text := utf8ByteSize_lt_write r.source
  have name := utf8ByteSize_le_write_option r.fileName
  show _ ≤ (write r.source ++ write r.fileName ++ write r.asModule ++ write r.strict).length
  simp only [EvalRequest.load, List.length_append]
  omega

theorem load_le_write_call (r : CallRequest) : r.load ≤ (write r).length := by
  obtain ⟨function, args⟩ := r
  have items := load_le_writeItems args
  show _ ≤ (write function ++ writeNat args.length ++ writeItems args).length
  simp only [CallRequest.load, List.length_append]
  cases function with
  | path path =>
    have text : path.utf8ByteSize ≤ (write (FunctionRef.path path)).length :=
      (utf8ByteSize_lt_write path).le.trans (Nat.le_succ _)
    dsimp only
    omega
  | retained id =>
    dsimp only
    omega

theorem load_le_write_assignment (a : GlobalAssignment) : a.load ≤ (write a).length := by
  have key := utf8ByteSize_lt_write a.name
  have value : _ ≤ (write a.value).length := load_le_writeDatum a.value
  show _ ≤ (write a.name ++ write a.value).length
  simp only [GlobalAssignment.load, List.length_append]
  omega

/-- A script can be sent back in no more bytes, in whichever of the two forms it came. -/
theorem script_returned {limit : UInt64} {bytes : List UInt8} {r : EvalRequest}
    (decoded : decodeEval bytes = .ok r) (fits : bytes.length ≤ limit.toNat) :
    ∃ back, (Codec.mk limit.toNat).encodeEval r = .ok back ∧ back.length ≤ bytes.length := by
  unfold encodeEval
  rcases decodeEval_eq_ok_iff.mp decoded with ⟨rest, rfl, form⟩ | ⟨-, text, bare⟩
  · have least := atLeast_eval r form
    rw [List.length_cons] at fits ⊢
    split
    · have room : (write r).length ≤ limit.toNat := by omega
      have written := (encode_eq_ok (Codec.mk limit.toNat) r _).mpr ⟨rfl, room⟩
      exact ⟨evalTag :: write r, by rw [written]; rfl, by rw [List.length_cons]; omega⟩
    -- Without options the text alone is sent, and the form has the text in it.
    · obtain ⟨before, after, rfl, ⟨size, body, rfl, -, rfl⟩, -⟩ := form
      refine ⟨_, rfl, ?_⟩
      rw [encode_eq_toByteArray]
      simp only [List.length_append]
      omega
  · have plain : r.hasOptions = false := by
      rw [bare]
      rfl
    rw [plain]
    exact ⟨_, rfl, by rw [← text]⟩

/-- Whatever bytes a payload was read from, it is written in no more of them, so it can be sent back
under any limit under which it came; and they have a byte for each value and for each byte of text in
it. -/
theorem payloads_compact :
    Compact (fun x : Datum => x.nodes + x.textBytes) ∧ Compact EvalRequest.load ∧
    Compact CallRequest.load ∧ Compact GlobalAssignment.load ∧
    Compact (fun _ : EngineOptions => 0) ∧ Compact (fun _ : UInt64 => 0) ∧
    ∀ (limit : UInt64) bytes r, decodeEval bytes = .ok r → bytes.length ≤ limit.toNat →
      ∃ back, (Codec.mk limit.toNat).encodeEval r = .ok back ∧ back.length ≤ bytes.length :=
  ⟨compact (fun _ _ _ ran => takes_datum _ ran) atLeast_datum load_le_writeDatum,
    compact takes_eval atLeast_eval load_le_write_eval,
    compact takes_call atLeast_call load_le_write_call,
    compact takes_assignment atLeast_assignment load_le_write_assignment,
    compact takes_options atLeast_options fun _ => Nat.zero_le _,
    compact takes_word atLeast_word fun _ => Nat.zero_le _,
    fun _ _ _ => script_returned⟩

/-- An object whose tag is longer than needed and one of whose names stands twice, and a text without
options in the form of a request. -/
theorem payloads_compact_longer :
    (decode [251, 8, 0, 2, 1, 98, 2, 1, 1, 98, 6, 1, 99] = .ok (Datum.object [("b", .string "c")]) ∧
      (Datum.object [("b", .string "c")]).nodes + (Datum.object [("b", .string "c")]).textBytes ≤
        [251, 8, 0, 2, 1, 98, 2, 1, 1, 98, 6, 1, 99].length ∧
      (Codec.mk 13).encode (Datum.object [("b", .string "c")]) = .ok [8, 1, 1, 98, 6, 1, 99]) ∧
    decodeEval [0, 1, 49, 0, 0, 0] = .ok { source := "1" } ∧
      ∃ back, (Codec.mk 6).encodeEval { source := "1" } = .ok back ∧ back.length ≤ 6 := by
  have object : decode [251, 8, 0, 2, 1, 98, 2, 1, 1, 98, 6, 1, 99] =
      .ok (Datum.object [("b", .string "c")]) := rfl
  have script : decodeEval [0, 1, 49, 0, 0, 0] = .ok { source := "1" } := rfl
  exact ⟨⟨object, payloads_compact.1.holds object, payloads_compact.1.returned 13 object (by decide)⟩,
    script, payloads_compact.2.2.2.2.2.2 6 _ _ script (by decide)⟩

end Codec

end ScriptHost
