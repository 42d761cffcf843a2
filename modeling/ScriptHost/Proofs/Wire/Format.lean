import ScriptHost.Proofs.Wire.Varint
import ScriptHost.Wire.Codec

/-! The binary format as a grammar that mentions neither readers nor writers. Everything is
made of numbers: the tag of a case, the length of a list or a text, and integers, signed ones
folded onto the natural ones. A grammar says which forms a number may take and how the entries
of an object may be listed; the canonical one has shortest numbers and ascending entries. -/

namespace ScriptHost.Wire

variable {α β : Type}

structure Grammar where
  number : Nat → List UInt8 → Prop
  /-- These entries, in this order, stand for these fields. -/
  listing : List (String × Datum) → List (String × Datum) → Prop

/-- Names strictly ascending, so that none stands twice. -/
def Ascending (fields : List (String × Datum)) : Prop :=
  fields.Pairwise fun before after => before.1 < after.1

/-- What is written: no number longer than needed, fields in the order of their names. -/
def Grammar.canonical : Grammar where
  number := Shortest
  listing entries fields := entries = fields ∧ Ascending fields

/-- What is read: numbers in any of their forms, entries in any order. A name may stand more than
once and its last entry counts. -/
def Grammar.tolerant : Grammar where
  number := Varint
  listing entries fields :=
    Ascending fields ∧ ∀ name, fields.lookup name = entries.reverse.lookup name

/-- The number that stands for a signed one: 0, -1, 1, -2, 2 and so on in turn. -/
def zigzag (i : Int) : Nat := if 0 ≤ i then (2 * i).toNat else (-2 * i - 1).toNat

def BoolForm (b : Bool) (bytes : List UInt8) : Prop := bytes = [if b then 1 else 0]

def DoubleForm (d : Double) (bytes : List UInt8) : Prop :=
  bytes.length = 8 ∧ ofLittleEndian bytes = d.bits.toNat

inductive OptionForm (form : α → List UInt8 → Prop) : Option α → List UInt8 → Prop where
  | none : OptionForm form none [0]
  | some {a : α} {bytes : List UInt8} : form a bytes → OptionForm form (some a) (1 :: bytes)

/-- One form behind another. -/
def Both (first second : List UInt8 → Prop) (bytes : List UInt8) : Prop :=
  ∃ before after, bytes = before ++ after ∧ first before ∧ second after

/-- The tag of the case that a datum is of. -/
def tagOf : Datum → Nat
  | .undefined => 0
  | .null => 1
  | .bool _ => 2
  | .int _ => 3
  | .float _ => 4
  | .bigInt _ => 5
  | .string _ => 6
  | .array _ => 7
  | .object _ => 8
  | .function _ => 9

theorem tagOf_lt (x : Datum) : tagOf x < 10 := by
  cases x <;> simp [tagOf]

section

variable (g : Grammar)

def WordForm (n : UInt64) : List UInt8 → Prop := g.number n.toNat

def TextForm (s : String) : List UInt8 → Prop :=
  Both (g.number s.toByteArray.size) (· = s.toByteArray.data.toList)

def HandleForm (f : FunctionHandle) : List UInt8 → Prop :=
  Both (WordForm g f.id) (OptionForm (TextForm g) f.name)

mutual

inductive DatumForm : Datum → List UInt8 → Prop where
  | tagged {x tag body} : g.number (tagOf x) tag → ContentForm x body → DatumForm x (tag ++ body)

/-- What stands behind the tag. -/
inductive ContentForm : Datum → List UInt8 → Prop where
  | undefined : ContentForm .undefined []
  | null : ContentForm .null []
  | bool {b body} : BoolForm b body → ContentForm (.bool b) body
  | int {i body} : g.number (zigzag i.toInt) body → ContentForm (.int i) body
  | float {d body} : DoubleForm d body → ContentForm (.float d) body
  | bigInt {s body} : TextForm g s body → ContentForm (.bigInt s) body
  | string {s body} : TextForm g s body → ContentForm (.string s) body
  | array {items size body} : g.number items.length size → ItemsForm items body →
      ContentForm (.array items) (size ++ body)
  | object {entries fields size body} : g.listing entries fields →
      g.number entries.length size → EntriesForm entries body →
      ContentForm (.object fields) (size ++ body)
  | function {f body} : HandleForm g f body → ContentForm (.function f) body

inductive ItemsForm : List Datum → List UInt8 → Prop where
  | nil : ItemsForm [] []
  | cons {item rest head tail} : DatumForm item head → ItemsForm rest tail →
      ItemsForm (item :: rest) (head ++ tail)

inductive EntriesForm : List (String × Datum) → List UInt8 → Prop where
  | nil : EntriesForm [] []
  | cons {name value rest key body tail} : TextForm g name key → DatumForm value body →
      EntriesForm rest tail → EntriesForm ((name, value) :: rest) (key ++ (body ++ tail))

end

def TargetForm : FunctionRef → List UInt8 → Prop
  | .path path => Both (g.number 0) (TextForm g path)
  | .retained id => Both (g.number 1) (WordForm g id)

def EvalForm (r : EvalRequest) : List UInt8 → Prop :=
  Both (TextForm g r.source) (Both (OptionForm (TextForm g) r.fileName)
    (Both (BoolForm r.asModule) (OptionForm BoolForm r.strict)))

def CallForm (r : CallRequest) : List UInt8 → Prop :=
  Both (TargetForm g r.function) (Both (g.number r.args.length) (ItemsForm g r.args))

def AssignmentForm (a : GlobalAssignment) : List UInt8 → Prop :=
  Both (TextForm g a.name) (DatumForm g a.value)

def OptionsForm (o : EngineOptions) : List UInt8 → Prop :=
  Both (OptionForm (WordForm g) o.memoryLimit)
    (Both (OptionForm (WordForm g) o.stackLimit) (OptionForm (WordForm g) o.timeout))

end

end ScriptHost.Wire
