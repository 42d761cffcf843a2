import ScriptHost.Proofs.Wire.Requests
import ScriptHost.Proofs.Wire.Writing

/-! Script payloads. Bare text and tagged requests share the bytes: what tells them apart is
whether the first one is the tag, which is also the byte of the NUL character. So a request is
read back from its payload unless it is bare text that begins with NUL; of such a text the rest
is read as a request, and never as the text: what stands behind the tag is shorter. -/

namespace ScriptHost.Codec

open Wire

theorem decode_of_encode {α : Type} [Wire α] {form : α → List UInt8 → Prop} {x : α}
    {encoding bytes : List UInt8} {limit : UInt64} (trips : RoundTrips form x encoding)
    (encoded : (Codec.mk limit.toNat).encode x = .ok bytes) : decode bytes = .ok x := by
  obtain ⟨rfl, -, decoded⟩ := trips.sound limit bytes encoded
  exact decoded

/-- No other character's first byte is zero. -/
theorem utf8EncodeChar_head (c : Char) : ∃ b rest, String.utf8EncodeChar c = b :: rest ∧
    (b = evalTag ↔ c = '\x00') := by
  have scalar : c.toNat < 0xD800 ∨ 0xDFFF < c.toNat ∧ c.toNat < 0x110000 := c.valid
  have zero : c = '\x00' ↔ c.toNat = 0 := by rw [← Char.toNat_inj]; rfl
  have tag (n : Nat) (small : n < 256) : UInt8.ofNat n = evalTag ↔ n = 0 := by
    rw [← UInt8.toNat_inj, UInt8.toNat_ofNat_of_lt' small]
    rfl
  rw [Utf8.utf8EncodeChar_eq, zero]
  split
  · exact ⟨_, _, rfl, tag _ (by omega)⟩
  split
  · exact ⟨_, _, rfl, (tag _ (by omega)).trans (by omega)⟩
  split
  · exact ⟨_, _, rfl, (tag _ (by omega)).trans (by omega)⟩
  · exact ⟨_, _, rfl, (tag _ (by omega)).trans (by omega)⟩

theorem decodeEval_encode {s : String} (plain : s.toList.head? ≠ some '\x00') :
    decodeEval (Utf8.encode s) = .ok ⟨s, none, false, none⟩ := by
  have text : decodeText (Utf8.encode s) = .ok s := by simp [decodeText, Utf8.decode_encode]
  cases bytes : Utf8.encode s with
  | nil => simp [decodeEval, ← bytes, text, bind, Except.bind, pure, Except.pure]
  | cons b rest =>
    have notTag : b ≠ evalTag := by
      rintro rfl
      cases chars : s.toList with
      | nil => simp [Utf8.encode, chars] at bytes
      | cons c cs =>
        obtain ⟨first, more, shape, iff⟩ := utf8EncodeChar_head c
        simp only [Utf8.encode, chars, List.flatMap_cons, shape, List.cons_append,
          List.cons.injEq] at bytes
        exact plain (by rw [chars, iff.mp bytes.1]; rfl)
    simp [decodeEval, notTag, ← bytes, text, bind, Except.bind, pure, Except.pure]

/-- Text that begins with NUL is taken for a tag and a request. -/
theorem decodeEval_encode_nul {s : String} {tail : List Char} (begins : s.toList = '\x00' :: tail) :
    decodeEval (Utf8.encode s) = decode (Utf8.encode (.ofList tail)) := by
  have bytes : Utf8.encode s = evalTag :: Utf8.encode (.ofList tail) := by
    simp only [Utf8.encode, begins, List.flatMap_cons, String.toList_ofList]
    rfl
  simp [bytes, decodeEval]

theorem decodeEval_encodeEval {r : EvalRequest} {limit : UInt64} {payload : List UInt8}
    (plain : r.hasOptions = false → r.source.toList.head? ≠ some '\x00')
    (encoded : (Codec.mk limit.toNat).encodeEval r = .ok payload) :
    decodeEval payload = .ok r := by
  unfold encodeEval at encoded
  split at encoded
  · rcases written : (Codec.mk limit.toNat).encode r with e | bytes
    · simp [written, Except.map] at encoded
    · obtain rfl : evalTag :: bytes = payload := by simpa [written, Except.map] using encoded
      have trips := roundTrips (only_eval r) (EvalForm.reads canonical_readable)
      simpa [decodeEval] using decode_of_encode trips written
  · rename_i bare
    obtain rfl : Utf8.encode r.source = payload := by simpa using encoded
    rw [decodeEval_encode (plain (by simpa using bare))]
    obtain ⟨source, fileName, asModule, strict⟩ := r
    simp_all [EvalRequest.hasOptions]

/-! ### Requests that come back -/

variable {limit : UInt64} {r : EvalRequest} {bytes payload : List UInt8}

theorem encodeEval_text (bare : r.hasOptions = false) (codec : Codec) :
    codec.encodeEval r = .ok (Utf8.encode r.source) := by
  unfold encodeEval
  rw [bare]
  rfl

/-- A request behind a tag does not have the tagged bytes for its text: they are more. -/
theorem not_form_of_tagged {rest : List UInt8} (text : Utf8.encode r.source = evalTag :: rest) :
    ¬ EvalForm .tolerant r rest := by
  rintro ⟨_, after, rfl, ⟨size, _, rfl, -, rfl⟩, -⟩
  rw [encode_eq_toByteArray] at text
  have lengths := congrArg List.length text
  simp only [List.length_cons, List.length_append] at lengths
  omega

/-- A request is read back from its payload if and only if it has an option or its text does not begin
with NUL. -/
theorem decodeEval_encodeEval_iff (encoded : (Codec.mk limit.toNat).encodeEval r = .ok payload) :
    decodeEval payload = .ok r ↔ r.hasOptions = true ∨ r.source.toList.head? ≠ some '\x00' := by
  constructor
  · intro decoded
    by_contra hidden
    obtain ⟨bare, begins⟩ := not_or.mp hidden
    rw [Bool.not_eq_true] at bare
    obtain ⟨tail, text⟩ := List.head?_eq_some_iff.mp (not_not.mp begins)
    have tagged : Utf8.encode r.source = evalTag :: Utf8.encode (.ofList tail) := by
      simp only [Utf8.encode, text, List.flatMap_cons, String.toList_ofList]
      rfl
    obtain rfl : Utf8.encode r.source = payload := by
      rw [encodeEval_text bare] at encoded
      exact Except.ok.inj encoded
    rcases decodeEval_eq_ok_iff.mp decoded with ⟨rest, split, form⟩ | ⟨untagged, -⟩
    · exact not_form_of_tagged split form
    · rw [tagged] at untagged
      exact untagged rfl
  · rintro (options | plain)
    · exact decodeEval_encodeEval (fun bare => absurd options (by rw [bare]; decide)) encoded
    · exact decodeEval_encodeEval (fun _ => plain) encoded

/-- Bytes that do not begin with the tag are read if they are a text, as that text without options. -/
theorem decodeEval_untagged (untagged : bytes.head? ≠ some evalTag) :
    decodeEval bytes = .ok r ↔
      bytes = r.source.toByteArray.data.toList ∧ r = { source := r.source } := by
  rw [decodeEval_eq_ok_iff, ← encode_eq_toByteArray]
  constructor
  · rintro (⟨rest, rfl, -⟩ | ⟨-, text, bare⟩)
    · exact absurd rfl untagged
    · exact ⟨text, bare⟩
  · rintro ⟨text, bare⟩
    exact .inr ⟨untagged, text, bare⟩

/-- The two forms of script payloads are told apart. A request comes back from its payload exactly if it
has an option or does not begin with NUL; bytes without the tag are read exactly if they are a text;
and so no two requests that come back have one payload, whatever the limits they were encoded under. -/
theorem script_forms_told_apart :
    (∀ (limit : UInt64) r payload, (Codec.mk limit.toNat).encodeEval r = .ok payload →
      (decodeEval payload = .ok r ↔
        r.hasOptions = true ∨ r.source.toList.head? ≠ some '\x00')) ∧
    (∀ bytes : List UInt8, bytes.head? ≠ some evalTag →
      ((∃ r, decodeEval bytes = .ok r) ↔ ∃ s : String, bytes = s.toByteArray.data.toList) ∧
      ∀ s : String, bytes = s.toByteArray.data.toList → decodeEval bytes = .ok { source := s }) ∧
    ∀ (limit limit' : UInt64) r r' payload,
      (r.hasOptions = true ∨ r.source.toList.head? ≠ some '\x00') →
      (r'.hasOptions = true ∨ r'.source.toList.head? ≠ some '\x00') →
      (Codec.mk limit.toNat).encodeEval r = .ok payload →
      (Codec.mk limit'.toNat).encodeEval r' = .ok payload → r = r' := by
  refine ⟨fun limit r payload => decodeEval_encodeEval_iff, fun bytes untagged => ?_, ?_⟩
  · have read (s : String) (text : bytes = s.toByteArray.data.toList) :
        decodeEval bytes = .ok { source := s } := (decodeEval_untagged untagged).mpr ⟨text, rfl⟩
    refine ⟨⟨?_, fun ⟨s, text⟩ => ⟨_, read s text⟩⟩, read⟩
    rintro ⟨r, decoded⟩
    exact ⟨r.source, ((decodeEval_untagged untagged).mp decoded).1⟩
  · intro limit limit' r r' payload told told' encoded encoded'
    have one := (decodeEval_encodeEval_iff encoded).mpr told
    have other := (decodeEval_encodeEval_iff encoded').mpr told'
    exact Except.ok.inj (one.symm.trans other)

/-- A text that begins with NUL and holds a request behind it, a request with an option, and two requests
that are told apart. -/
theorem script_forms_told_apart_nul :
    ((Codec.mk 9).encodeEval { source := "\x00\x011\x00\x00\x00" } = .ok [0, 1, 49, 0, 0, 0] ∧
      decodeEval [0, 1, 49, 0, 0, 0] ≠ .ok { source := "\x00\x011\x00\x00\x00" }) ∧
    decodeEval [0, 1, 49, 0, 1, 0] = .ok { source := "1", asModule := true } ∧
    ([0xC3, 0x28].head? ≠ some evalTag ∧ ¬ ∃ r, decodeEval [0xC3, 0x28] = .ok r) ∧
    (Codec.mk 9).encodeEval { source := "1" } ≠ .ok [0, 1, 49, 0, 1, 0] := by
  obtain ⟨comes_back, texts, apart⟩ := script_forms_told_apart
  have nul : (Codec.mk (9 : UInt64).toNat).encodeEval { source := "\x00\x011\x00\x00\x00" } =
      .ok [0, 1, 49, 0, 0, 0] := rfl
  have module : (Codec.mk (9 : UInt64).toNat).encodeEval { source := "1", asModule := true } =
      .ok [0, 1, 49, 0, 1, 0] := rfl
  have unread : (decodeEval [0xC3, 0x28]).toOption = none := rfl
  refine ⟨⟨nul, ?_⟩, (comes_back 9 _ _ module).mpr (.inl rfl), ⟨by decide, ?_⟩, ?_⟩
  · rw [Ne, comes_back 9 _ _ nul]
    decide
  · rintro ⟨r, decoded⟩
    obtain ⟨s, text⟩ := (texts [0xC3, 0x28] (by decide)).1.mp ⟨r, decoded⟩
    rw [(texts [0xC3, 0x28] (by decide)).2 s text] at unread
    cases unread
  · intro same
    cases apart 9 9 _ _ _ (.inr (by decide)) (.inl rfl) same module

end ScriptHost.Codec
