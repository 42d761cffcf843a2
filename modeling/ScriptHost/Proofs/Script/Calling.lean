import ScriptHost.Proofs.Script.Growing

/-! Calls of built-in functions that leave the heap alone. A call is a task of its own, so it takes from
the time that is left; while it is under way it stands among the calls that errors would show, and is gone
from there when it returns. The one call that copying a value in needs is that of the function that makes
big integers of digits. -/

namespace ScriptHost.Script

open Script.Comp

variable {h h' : Heap} {n : Nat} {r : Ref} {v : Value}

/-- The heap while a call is under way. -/
def Heap.entered (h : Heap) (a : Activation) : Heap :=
  { h with activations := a :: h.activations, depth := h.depth + 1 }

namespace Comp.Takes

variable {time : Option Nat} {a : Activation} {result : Result}

theorem attempt {c : Comp Result} (takes : Takes time c h n result h') :
    Takes time (attempt c) h (n + 2) (.ok result) h' := by
  intro k coroutines frames resumers tripped bound
  have ran := takes .done coroutines (.guard k :: frames) resumers tripped (bound + 1)
  have first : n + 2 + bound = (n + (bound + 1)) + 1 := by omega
  rw [first]
  exact ran

theorem checkDepth (room : h.depth < h.quota.calls) : Takes time checkDepth h 1 () h := by
  unfold Comp.checkDepth
  refine .after_read ?_
  rw [if_neg (by simpa using room)]
  exact .pure _ _

theorem within {body : Comp Result} (room : h.depth < h.quota.calls)
    (takes : Takes time body (h.entered a) n result (h.entered a)) :
    Takes time (within a body) h (n + 6) result h := by
  -- Whatever comes of the body, the calls and their depth are put back as they were.
  have guarded := attempt takes
  have restored : Takes time (Comp.restore ⟨h.activations, h.depth⟩) (h.entered a) 1 () h :=
    update _ _
  unfold Comp.within
  refine .cast ?_ ((checkDepth room).bind (.after_read ((update _ _).bind (guarded.bind
    (restored.bind (.pure _ _))))))
  omega

end Comp.Takes

namespace Comp.Lasts

variable {time : Option Nat}

/-- A task that goes straight on. It is begun unless the time is over. -/
theorem askValue {t : Task} {c : Comp Value} (performs : scripts.perform t = c.toProg)
    (awake : time ≠ some 0) (takes : Takes (time.map (· - 1)) c h n v h') :
    Lasts time (time.map (· - 1)) (askValue t) h (n + 2) v h' := by
  intro k coroutines frames resumers tripped bound
  obtain ⟨next, asked, given⟩ : ∃ next, Comp.askValue t k = .request t next ∧
      ∀ v, next (.value v) = k v := ⟨_, rfl, fun _ => rfl⟩
  -- The caller waits on the stack of frames until the task returns.
  have ran := takes (fun v => .done (.value v)) coroutines (.wait next :: frames) resumers tripped
    (bound + 1)
  have first : n + 2 + bound = (n + (bound + 1)) + 1 := by omega
  rw [asked, first, ← given v]
  have body : c (fun v => .done (.value v)) = scripts.perform t := performs.symm
  rw [body] at ran
  cases time with
  | none => exact ran
  | some left =>
    cases left with
    | zero => exact absurd rfl awake
    | succ left => exact ran

/-- A built-in function that leaves the heap alone is called. -/
theorem call {f : Native} {constructs : Bool} {maker : Object} {this : Value} {args : List Value}
    (known : h.objects[r]? = some maker) (native : maker.kind = .native f constructs)
    (shows : showsCall f) (room : h.depth < h.quota.calls) (awake : time ≠ some 0)
    (takes : ∀ a, Takes (time.map (· - 1)) (builtins f ⟨.object r, this, args, .undefined⟩)
      (h.entered a) n v (h.entered a)) :
    Lasts time (time.map (· - 1)) (Comp.call (.object r) this args) h (n + 10) v h := by
  refine askValue (n := n + 8) (c := performCall builtins (.object r) this args) rfl awake ?_
  have kind : h.kind r = .native f constructs := by
    unfold Heap.kind
    rw [Heap.object_of_known known, native]
  have body (a : Activation) : Takes (time.map (· - 1))
      (fun k => builtins f ⟨.object r, this, args, .undefined⟩ fun v => k (.value v))
      (h.entered a) n (Result.value v) (h.entered a) := fun k => takes a fun v => k (.value v)
  unfold performCall
  refine .cast (Nat.add_right_comm n 7 1) (.after_read ?_)
  rw [kind]
  dsimp only
  unfold callNative
  rw [if_pos shows]
  exact .after_read (.cast (Nat.add_zero _) ((Takes.within room (body _)).bind (.pure _ _)))

end Comp.Lasts

/-! ### Big integers -/

/-- The number that decimal digits stand for, with a minus in front or without. -/
def decimalValue (digits : String) : Int :=
  match digits.toList with
  | '-' :: rest => -(spelled rest : Int)
  | all => spelled all

theorem isSpace_of_isDigit {c : Char} (digit : c.isDigit) : isSpace c = false := by
  obtain ⟨low, high⟩ := range_of_isDigit digit
  unfold isSpace Text.isBlank
  generalize c.toNat = n at low high ⊢
  interval_cases n <;> decide

theorem digitsValue_eq {digits : List Char} (all : digits.all Char.isDigit) :
    digitsValue 10 digits = spelled digits := by
  unfold digitsValue spelled
  refine List.foldl_ext _ _ _ fun n c member => ?_
  have digit := List.all_eq_true.mp all c member
  have small : c.toNat - '0'.toNat < 10 := by
    have range := range_of_isDigit digit
    have zero : '0'.toNat = 48 := rfl
    omega
  unfold digitValue?
  simp only [digit, if_true, small, Option.getD_some]

theorem dropWhile_space {s : List Char} (bare : ∀ c ∈ s, isSpace c = false) :
    s.dropWhile isSpace = s := by
  cases s with
  | nil => rfl
  | cons c rest => rw [List.dropWhile_cons, bare c List.mem_cons_self, if_neg Bool.false_ne_true]

theorem trimSpace_eq {s : List Char} (bare : ∀ c ∈ s, isSpace c = false) : trimSpace s = s := by
  unfold trimSpace
  rw [dropWhile_space bare, dropWhile_space fun c member => bare c (List.mem_reverse.mp member),
    List.reverse_reverse]

/-- No digits announce another base. -/
theorem basePrefix?_digits {digits : List Char} (all : digits.all Char.isDigit) :
    basePrefix? digits = none := by
  unfold basePrefix?
  split
  · rename_i c rest
    have digit : c.isDigit := List.all_eq_true.mp all c (by simp)
    have other {letter : Char} (nondigit : letter.isDigit = false) : c ≠ letter := by
      rintro rfl
      rw [digit] at nondigit
      cases nondigit
    rw [if_neg (by simp [other]), if_neg (by simp [other]), if_neg (by simp [other])]
  · rfl

theorem textBigInt?_digits {digits : List Char} (written : digits ≠ [])
    (all : digits.all Char.isDigit) : textBigInt? digits = some (spelled digits : Int) := by
  have bare : ∀ c ∈ digits, isSpace c = false := fun c member =>
    isSpace_of_isDigit (List.all_eq_true.mp all c member)
  unfold textBigInt?
  dsimp only
  rw [trimSpace_eq bare, if_neg (by simpa using written), basePrefix?_digits all]
  dsimp only
  split
  · exact absurd (List.all_eq_true.mp all '-' List.mem_cons_self) (by decide)
  · exact absurd (List.all_eq_true.mp all '+' List.mem_cons_self) (by decide)
  · rw [if_neg (by simp [written, all]), digitsValue_eq all]
    simp

theorem textBigInt?_minus {digits : List Char} (written : digits ≠ [])
    (all : digits.all Char.isDigit) : textBigInt? ('-' :: digits) = some (-(spelled digits : Int)) := by
  have bare : ∀ c ∈ '-' :: digits, isSpace c = false := by
    intro c member
    rcases List.mem_cons.mp member with rfl | inside
    · decide
    · exact isSpace_of_isDigit (List.all_eq_true.mp all c inside)
  unfold textBigInt?
  dsimp only
  have base : basePrefix? ('-' :: digits) = none := rfl
  rw [trimSpace_eq bare, if_neg (by simp), base]
  have nonempty : (digits.isEmpty || !digits.all Char.isDigit) = false := by simp [written, all]
  simp only [nonempty, digitsValue_eq all, Bool.false_eq_true, if_false, if_true]

/-- Decimal digits are read as the number that they stand for. -/
theorem textBigInt?_decimal {digits : String} (decimal : Host.isDecimal digits) :
    textBigInt? digits.toList = some (decimalValue digits) := by
  unfold Host.isDecimal at decimal
  unfold decimalValue
  dsimp only at decimal
  split
  · rename_i rest text
    rw [text] at decimal ⊢
    obtain ⟨written, all⟩ : rest ≠ [] ∧ rest.all Char.isDigit := by simpa using decimal
    exact textBigInt?_minus written all
  · rename_i unsigned
    obtain ⟨written, all⟩ : digits.toList ≠ [] ∧ digits.toList.all Char.isDigit := by
      split at decimal
      · rename_i rest text
        exact absurd text (unsigned rest)
      · simpa using decimal
    exact textBigInt?_digits written all

/-- The function that makes big integers is called with digits. -/
theorem Comp.Lasts.bigInt {digits : String} {i : Int} {time : Option Nat} (standard : h.Standard)
    (room : h.depth < h.quota.calls) (awake : time ≠ some 0)
    (spells : textBigInt? digits.toList = some i) :
    ∃ f, h.settled? Intrinsic.global.ref "BigInt" = some (.object f) ∧ h.callable (.object f) ∧
      Lasts time (time.map (· - 1)) (Comp.call (.object f) .undefined [.text digits]) h 10 (.bigInt i)
        h := by
  obtain ⟨o, known, kind, -, -, p, f, maker, constructs, found, value, made, native⟩ :=
    standard.global
  refine ⟨f, ?_, ?_, ?_⟩
  · exact (Heap.settled?_own known kind found).trans value
  · have callable : h.isCallable f := by
      unfold Heap.isCallable Heap.kind
      rw [Heap.object_of_known made, native]
    exact callable
  · have given (a : Activation) : Takes (time.map (· - 1))
        (builtins (.primitive .bigInt) ⟨.object f, .undefined, [.text digits], .undefined⟩)
        (h.entered a) 0 (.bigInt i) (h.entered a) := by
      have ends : builtins (.primitive .bigInt) ⟨.object f, .undefined, [.text digits], .undefined⟩ =
          Pure.pure (.bigInt i) := by
        have read : bigIntOfPrimitive (.text digits) = Pure.pure i := by
          simp only [bigIntOfPrimitive, Value.text, spells]
        show (bigIntOfPrimitive (.text digits) >>= fun n => Pure.pure (Value.bigInt n)) = _
        rw [read]
        rfl
      rw [ends]
      exact .pure _ _
    exact .call made native rfl room awake given

end ScriptHost.Script
