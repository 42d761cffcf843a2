import ScriptHost.Proofs.Datum.Handles
import ScriptHost.Script.Exchange

/-! What engines refuse in data that are copied into them. A value may stand too deep, a big integer may be
written in something other than decimal digits, and the function of an id may not be kept. Copying goes
from the outside in and from left to right, so the first flaw in this order is the one that is told; there
is none exactly where nothing in the whole datum is amiss. -/

namespace ScriptHost.Datum

open Script Script.Host

/-! ### The parts that may be amiss -/

mutual

/-- How far below the root the lowest value is. -/
def depth : Datum → Nat
  | .array items => depthOfItems items
  | .object fields => depthOfFields fields
  | _ => 0

def depthOfItems : List Datum → Nat
  | [] => 0
  | item :: rest => max (item.depth + 1) (depthOfItems rest)

def depthOfFields : List (String × Datum) → Nat
  | [] => 0
  | (_, item) :: rest => max (item.depth + 1) (depthOfFields rest)

end

mutual

/-- The texts of the big integers in a datum, from left to right. -/
def bigInts : Datum → List String
  | .bigInt digits => [digits]
  | .array items => bigIntsOfItems items
  | .object fields => bigIntsOfFields fields
  | _ => []

def bigIntsOfItems : List Datum → List String
  | [] => []
  | item :: rest => item.bigInts ++ bigIntsOfItems rest

def bigIntsOfFields : List (String × Datum) → List String
  | [] => []
  | (_, item) :: rest => item.bigInts ++ bigIntsOfFields rest

end

/-- The text is decimal digits, at least one, with a minus in front or not. -/
def Decimal (text : String) : Prop :=
  ∃ digits, (text.toList = digits ∨ text.toList = '-' :: digits) ∧ digits ≠ [] ∧
    ∀ c ∈ digits, '0' ≤ c ∧ c ≤ '9'

theorem isDigit_iff (c : Char) : c.isDigit ↔ '0' ≤ c ∧ c ≤ '9' := by
  simp [Char.isDigit, Char.le_def]

theorem isDecimal_iff (text : String) : isDecimal text ↔ Decimal text := by
  have all (digits : List Char) : (!digits.isEmpty && digits.all Char.isDigit) = true ↔
      digits ≠ [] ∧ ∀ c ∈ digits, '0' ≤ c ∧ c ≤ '9' := by
    simp [isDigit_iff]
  unfold isDecimal Decimal
  dsimp only
  rw [all]
  constructor
  · intro decimal
    split at decimal
    · rename_i digits minus
      exact ⟨digits, .inr minus, decimal⟩
    · exact ⟨text.toList, .inl rfl, decimal⟩
  · rintro ⟨digits, written | written, decimal⟩
    · split
      · rename_i rest minus
        -- A minus is no digit, so none can stand in front of digits alone.
        have minus : '-' ∈ digits := by simp [← written, minus]
        exact absurd (decimal.2 '-' minus) (by decide)
      · rw [written]
        exact decimal
    · rw [written]
      exact decimal

/-- Everything in the datum can be copied into an engine that keeps these functions. -/
structure Importable (kept : UInt64 → Option Ref) (d : Datum) : Prop where
  level : d.depth ≤ maxDepth
  decimal : ∀ text ∈ d.bigInts, Decimal text
  known : ∀ id ∈ d.handles, (kept id).isSome

/-! ### The first flaw -/

/-- What is said of a value that stands too deep. -/
def levelFlaw? (depth : Nat) : Option String :=
  if maxDepth < depth then some ("argument nesting exceeds " ++ toString maxDepth ++ " levels") else none

/-- What is said of a big integer that is written in another way. -/
def digitsFlaw? (text : String) : Option String :=
  if isDecimal text then none else some ("\x60" ++ text ++ "\x60 is not a decimal BigInt")

/-- What is said of an id under which no function is kept. -/
def idFlaw? (kept : UInt64 → Option Ref) (id : UInt64) : Option String :=
  if (kept id).isSome then none else some ("unknown function id " ++ toString id.toNat)

mutual

/-- What is said of a datum that stands so deep and cannot be copied in. -/
def flaw? (kept : UInt64 → Option Ref) (depth : Nat) : Datum → Option String
  | .bigInt text => (levelFlaw? depth).or (digitsFlaw? text)
  | .function handle => (levelFlaw? depth).or (idFlaw? kept handle.id)
  | .array items => (levelFlaw? depth).or (flawOfItems kept (depth + 1) items)
  | .object fields => (levelFlaw? depth).or (flawOfFields kept (depth + 1) fields)
  | _ => levelFlaw? depth

def flawOfItems (kept : UInt64 → Option Ref) (depth : Nat) : List Datum → Option String
  | [] => none
  | item :: rest => (item.flaw? kept depth).or (flawOfItems kept depth rest)

def flawOfFields (kept : UInt64 → Option Ref) (depth : Nat) : List (String × Datum) → Option String
  | [] => none
  | (_, item) :: rest => (item.flaw? kept depth).or (flawOfFields kept depth rest)

end

variable {kept : UInt64 → Option Ref} {depth : Nat}

theorem levelFlaw?_eq_none_iff : levelFlaw? depth = none ↔ depth ≤ maxDepth := by
  unfold levelFlaw?
  split <;> simp <;> omega

theorem digitsFlaw?_eq_none_iff (text : String) : digitsFlaw? text = none ↔ isDecimal text := by
  unfold digitsFlaw?
  split <;> simp_all

theorem idFlaw?_eq_none_iff (id : UInt64) : idFlaw? kept id = none ↔ (kept id).isSome := by
  unfold idFlaw?
  split <;> simp_all

mutual

/-- There is no flaw where nothing is amiss. -/
theorem flaw?_eq_none_iff_parts (d : Datum) (depth : Nat) : d.flaw? kept depth = none ↔
    depth + d.depth ≤ maxDepth ∧ (∀ text ∈ d.bigInts, isDecimal text) ∧
      ∀ id ∈ d.handles, (kept id).isSome := by
  cases d with
  | bigInt text =>
    simp [flaw?, levelFlaw?_eq_none_iff, digitsFlaw?_eq_none_iff, Datum.depth, bigInts, handles]
  | function handle =>
    simp [flaw?, levelFlaw?_eq_none_iff, idFlaw?_eq_none_iff, Datum.depth, bigInts, handles]
  | array items =>
    rw [flaw?, Option.or_eq_none_iff, levelFlaw?_eq_none_iff]
    constructor
    · rintro ⟨within, none⟩
      exact (flawOfItems_eq_none_iff_parts items depth within).mp none
    · intro parts
      have within : depth ≤ maxDepth := Nat.le_trans (Nat.le_add_right _ _) parts.1
      exact ⟨within, (flawOfItems_eq_none_iff_parts items depth within).mpr parts⟩
  | object fields =>
    rw [flaw?, Option.or_eq_none_iff, levelFlaw?_eq_none_iff]
    constructor
    · rintro ⟨within, none⟩
      exact (flawOfFields_eq_none_iff_parts fields depth within).mp none
    · intro parts
      have within : depth ≤ maxDepth := Nat.le_trans (Nat.le_add_right _ _) parts.1
      exact ⟨within, (flawOfFields_eq_none_iff_parts fields depth within).mpr parts⟩
  | _ => simp [flaw?, levelFlaw?_eq_none_iff, Datum.depth, bigInts, handles]

theorem flawOfItems_eq_none_iff_parts (items : List Datum) (depth : Nat) (within : depth ≤ maxDepth) :
    flawOfItems kept (depth + 1) items = none ↔ depth + depthOfItems items ≤ maxDepth ∧
      (∀ text ∈ bigIntsOfItems items, isDecimal text) ∧
      ∀ id ∈ handlesOfItems items, (kept id).isSome := by
  cases items with
  | nil => simp [flawOfItems, depthOfItems, bigIntsOfItems, handlesOfItems, within]
  | cons item rest =>
    rw [flawOfItems, Option.or_eq_none_iff, flaw?_eq_none_iff_parts item (depth + 1),
      flawOfItems_eq_none_iff_parts rest depth within, depthOfItems, bigIntsOfItems, handlesOfItems,
      List.forall_mem_append, List.forall_mem_append]
    have levels : depth + max (item.depth + 1) (depthOfItems rest) ≤ maxDepth ↔
        depth + 1 + item.depth ≤ maxDepth ∧ depth + depthOfItems rest ≤ maxDepth := by omega
    tauto

theorem flawOfFields_eq_none_iff_parts (fields : List (String × Datum)) (depth : Nat)
    (within : depth ≤ maxDepth) :
    flawOfFields kept (depth + 1) fields = none ↔ depth + depthOfFields fields ≤ maxDepth ∧
      (∀ text ∈ bigIntsOfFields fields, isDecimal text) ∧
      ∀ id ∈ handlesOfFields fields, (kept id).isSome := by
  match fields with
  | [] => simp [flawOfFields, depthOfFields, bigIntsOfFields, handlesOfFields, within]
  | (name, item) :: rest =>
    rw [flawOfFields, Option.or_eq_none_iff, flaw?_eq_none_iff_parts item (depth + 1),
      flawOfFields_eq_none_iff_parts rest depth within, depthOfFields, bigIntsOfFields, handlesOfFields,
      List.forall_mem_append, List.forall_mem_append]
    have levels : depth + max (item.depth + 1) (depthOfFields rest) ≤ maxDepth ↔
        depth + 1 + item.depth ≤ maxDepth ∧ depth + depthOfFields rest ≤ maxDepth := by omega
    tauto

end

theorem flaw?_eq_none_iff (d : Datum) : d.flaw? kept 0 = none ↔ d.Importable kept := by
  rw [flaw?_eq_none_iff_parts, Nat.zero_add]
  simp only [isDecimal_iff]
  exact ⟨fun ⟨level, decimal, known⟩ => ⟨level, decimal, known⟩,
    fun importable => ⟨importable.level, importable.decimal, importable.known⟩⟩

theorem flawOfItems_eq_none_iff (items : List Datum) : flawOfItems kept 0 items = none ↔
    ∀ item ∈ items, item.Importable kept := by
  induction items with
  | nil => simp [flawOfItems]
  | cons item rest ih =>
    rw [flawOfItems, Option.or_eq_none_iff, flaw?_eq_none_iff, ih, List.forall_mem_cons]

end ScriptHost.Datum
