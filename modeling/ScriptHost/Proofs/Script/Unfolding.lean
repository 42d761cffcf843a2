import ScriptHost.Proofs.Script.Running

/-! The trees that values unfold into. A graph of objects can be shared and can be a circle: its tree has
an object once for each way that leads to it, so a circle has none. All of it is said of the heap alone,
and of graphs whose reading runs no code. -/

namespace ScriptHost.Script

theorem length_of_mapM {α β : Type} {f : α → Option β} {items : List α} {out : List β}
    (all : items.mapM f = some out) : out.length = items.length := by
  induction items generalizing out with
  | nil =>
    obtain rfl := Option.some.inj all
    rfl
  | cons item rest ih =>
    rw [List.mapM_cons] at all
    obtain ⟨first, -, others⟩ := Option.bind_eq_some_iff.mp all
    obtain ⟨more, each, ends⟩ := Option.bind_eq_some_iff.mp others
    obtain rfl := Option.some.inj ends
    rw [List.length_cons, List.length_cons, ih each]

/-! ### What an object has inside -/

/-- What an object has inside: the items of an array, the properties of a plain object that are
listed, or nothing but a name. -/
inductive Layout where
  | items (values : List Value)
  | fields (values : List (String × Value))
  | function (name : Option String)
deriving DecidableEq

namespace Layout

def values : Layout → List Value
  | items values => values
  | fields values => values.map (·.2)
  | function _ => []

/-- The names of the properties. -/
def names : Layout → List String
  | fields values => values.map (·.1)
  | items _ | function _ => []

end Layout

/-- The text of a key that a string can hold. -/
def Key.string? (k : Key) : Option String :=
  match k.text? with
  | some (.text s) => some s
  | _ => none

/-- The name of a function that is worth telling. -/
def Value.name? : Value → Option String
  | .string (.text s) => if s = "" then none else some s
  | _ => none

/-- What a value without anything inside is outside of the engine. -/
def Value.leaf? : Value → Option Datum
  | .undefined | .symbol _ => some .undefined
  | .null => some .null
  | .bool b => some (.bool b)
  | .number d => some (.ofDouble d)
  | .bigInt i => some (.bigInt (toString i))
  | .string (.text s) => some (.string s)
  | .string (.units _) | .object _ => none

/-- As many items an array can have, and as many properties an object. -/
def sizeBound : Nat := Nat.pow 2 32

namespace Heap

/-- What is inside an array, a plain object or a function, where reading it runs no code. A hole of an
array is read like anything else that is not there. -/
def layout? (h : Heap) (r : Ref) : Option Layout :=
  match h.kind r with
  | .array _ length _ =>
    if length < sizeBound then
      ((List.range length).mapM fun i => h.settled? r (.ofNat i)).map .items
    else none
  | .closure _ | .native .. | .bound .. => (h.settled? r "name").map fun v => .function v.name?
  | .ordinary =>
    if (h.object r).props.size < sizeBound then
      ((h.listed r).mapM fun k : Key => do return (← k.string?, ← h.settled? r k)).map .fields
    else none
  | _ => none

def layoutOf? (h : Heap) : Value → Option Layout
  | .object r => h.layout? r
  | _ => none

/-- The second value is inside the first. -/
def Leads (h : Heap) (v w : Value) : Prop := ∃ l ∈ h.layoutOf? v, w ∈ l.values

/-- Is the value a primitive with sound text, or an array, a plain object or a function? -/
def Sound (h : Heap) (v : Value) : Prop := v.leaf?.isSome ∨ (h.layoutOf? v).isSome

/-- All that a value leads to is sound. -/
def Plain (h : Heap) (v : Value) : Prop := ∀ w, Relation.ReflTransGen h.Leads v w → h.Sound w

/-- No property that a value leads to has a NUL in its name. -/
def NulFree (h : Heap) (v : Value) : Prop :=
  ∀ w, Relation.ReflTransGen h.Leads v w →
    ∀ l ∈ h.layoutOf? w, ∀ name ∈ l.names, '\x00' ∉ name.toList

/-- A list of values that has all that they lead to. -/
def Closed (h : Heap) (graph : List Value) : Prop :=
  ∀ v ∈ graph, h.Sound v ∧ ∀ l ∈ h.layoutOf? v, ∀ w ∈ l.values, w ∈ graph

instance (h : Heap) (graph : List Value) : Decidable (h.Closed graph) :=
  inferInstanceAs (Decidable (∀ v ∈ graph, (v.leaf?.isSome ∨ (h.layoutOf? v).isSome) ∧
    ∀ l ∈ h.layoutOf? v, ∀ w ∈ l.values, w ∈ graph))

variable {h : Heap} {graph : List Value} {v : Value}

theorem Closed.reaches (closed : h.Closed graph) (member : v ∈ graph) {w : Value}
    (way : Relation.ReflTransGen h.Leads v w) : w ∈ graph := by
  induction way with
  | refl => exact member
  | tail _ leads ih =>
    obtain ⟨l, known, inside⟩ := leads
    exact (closed _ ih).2 l known _ inside

theorem Closed.plain (closed : h.Closed graph) (member : v ∈ graph) : h.Plain v :=
  fun w way => (closed w (closed.reaches member way)).1

theorem Closed.nulFree (closed : h.Closed graph) (member : v ∈ graph)
    (clean : ∀ w ∈ graph, ∀ l ∈ h.layoutOf? w, ∀ name ∈ l.names, '\x00' ∉ name.toList) :
    h.NulFree v :=
  fun w way => clean w (closed.reaches member way)

end Heap

/-! ### Trees -/

inductive Tree where
  | leaf (d : Datum)
  | function (r : Ref) (name : Option String)
  | array (items : List Tree)
  | object (fields : List (String × Tree))

namespace Tree

mutual

/-- How far below the root the lowest node is. -/
def depth : Tree → Nat
  | leaf _ | function .. => 0
  | array items => depthOfItems items
  | object fields => depthOfFields fields

def depthOfItems : List Tree → Nat
  | [] => 0
  | t :: rest => max (t.depth + 1) (depthOfItems rest)

def depthOfFields : List (String × Tree) → Nat
  | [] => 0
  | (_, t) :: rest => max (t.depth + 1) (depthOfFields rest)

end

mutual

def nodes : Tree → Nat
  | leaf _ | function .. => 1
  | array items => 1 + nodesOfItems items
  | object fields => 1 + nodesOfFields fields

def nodesOfItems : List Tree → Nat
  | [] => 0
  | t :: rest => t.nodes + nodesOfItems rest

def nodesOfFields : List (String × Tree) → Nat
  | [] => 0
  | (_, t) :: rest => t.nodes + nodesOfFields rest

end

mutual

/-- The tree as the host has it. Each function is kept, where it occurs, under the next id that was
never given. -/
def handOver (retained : Retained) : Tree → Datum × Retained
  | leaf d => (d, retained)
  | function r name =>
    let id := retained.last + 1
    (.function ⟨UInt64.ofNat id, name⟩, ⟨id, (id, r) :: retained.functions⟩)
  | array items =>
    let (items, retained) := handOverItems retained items
    (.array items, retained)
  | object fields =>
    let (fields, retained) := handOverFields retained fields
    (.object (Fields.ofList fields), retained)

def handOverItems (retained : Retained) : List Tree → List Datum × Retained
  | [] => ([], retained)
  | t :: rest =>
    let (item, retained) := t.handOver retained
    let (items, retained) := handOverItems retained rest
    (item :: items, retained)

def handOverFields (retained : Retained) : List (String × Tree) → List (String × Datum) × Retained
  | [] => ([], retained)
  | (name, t) :: rest =>
    let (item, retained) := t.handOver retained
    let (fields, retained) := handOverFields retained rest
    ((name, item) :: fields, retained)

end

theorem nodes_pos (t : Tree) : 0 < t.nodes := by cases t <;> simp [nodes]

theorem length_le_nodesOfItems (items : List Tree) : items.length ≤ nodesOfItems items := by
  induction items with
  | nil => exact Nat.le_refl _
  | cons t rest ih =>
    have one := t.nodes_pos
    rw [List.length_cons, nodesOfItems]
    omega

end Tree

/-! ### Unfolding -/

mutual

/-- The value unfolds into the tree. -/
inductive Heap.Unfolds (h : Heap) : Value → Tree → Prop where
  | leaf {v : Value} {d : Datum} (bare : v.leaf? = some d) : Unfolds h v (.leaf d)
  | function {r : Ref} {name : Option String} (known : h.layout? r = some (.function name)) :
    Unfolds h (.object r) (.function r name)
  | array {r : Ref} {values : List Value} {items : List Tree}
    (known : h.layout? r = some (.items values)) (each : UnfoldsItems h values items) :
    Unfolds h (.object r) (.array items)
  | object {r : Ref} {values : List (String × Value)} {fields : List (String × Tree)}
    (known : h.layout? r = some (.fields values)) (each : UnfoldsFields h values fields) :
    Unfolds h (.object r) (.object fields)

inductive Heap.UnfoldsItems (h : Heap) : List Value → List Tree → Prop where
  | nil : UnfoldsItems h [] []
  | cons {v : Value} {t : Tree} {values : List Value} {items : List Tree}
    (first : Unfolds h v t) (rest : UnfoldsItems h values items) :
    UnfoldsItems h (v :: values) (t :: items)

inductive Heap.UnfoldsFields (h : Heap) : List (String × Value) → List (String × Tree) → Prop where
  | nil : UnfoldsFields h [] []
  | cons {name : String} {v : Value} {t : Tree} {values : List (String × Value)}
    {fields : List (String × Tree)} (first : Unfolds h v t) (rest : UnfoldsFields h values fields) :
    UnfoldsFields h ((name, v) :: values) ((name, t) :: fields)

end

namespace Heap

variable {h : Heap}

/-- The tree that a value unfolds into, if it has at most so many levels. -/
def treeOf? (h : Heap) : Nat → Value → Option Tree
  | 0, _ => none
  | levels + 1, .object r =>
    match h.layout? r with
    | some (.items values) => (values.mapM (h.treeOf? levels)).map .array
    | some (.fields values) =>
      (values.mapM fun field => (h.treeOf? levels field.2).map (field.1, ·)).map .object
    | some (.function name) => some (.function r name)
    | none => none
  | _ + 1, v => v.leaf?.map .leaf

theorem treeOf?_bare {v : Value} {d : Datum} (bare : v.leaf? = some d) (levels : Nat) :
    h.treeOf? (levels + 1) v = some (.leaf d) := by
  cases v with
  | object r => cases bare
  | _ => exact congrArg (Option.map Tree.leaf) bare

section

variable {levels : Nat} {values : List Value} {items : List Tree} {named : List (String × Value)}
  {fields : List (String × Tree)}

theorem mapM_treeOf?_items
    (ih : ∀ v t, h.treeOf? levels v = some t ↔ h.Unfolds v t ∧ t.depth < levels) :
    values.mapM (h.treeOf? levels) = some items ↔
      h.UnfoldsItems values items ∧ Tree.depthOfItems items < levels + 1 := by
  induction values generalizing items with
  | nil =>
    rw [List.mapM_nil]
    constructor
    · rintro ⟨⟩
      exact ⟨.nil, Nat.succ_pos _⟩
    · rintro ⟨⟨⟩, -⟩
      rfl
  | cons v rest more =>
    rw [List.mapM_cons]
    constructor
    · intro copied
      obtain ⟨t, one, others⟩ := Option.bind_eq_some_iff.mp copied
      obtain ⟨ts, all, ends⟩ := Option.bind_eq_some_iff.mp others
      obtain rfl := Option.some.inj ends
      obtain ⟨first, shallow⟩ := (ih v t).mp one
      obtain ⟨each, low⟩ := more.mp all
      exact ⟨.cons first each, max_lt (Nat.succ_lt_succ shallow) low⟩
    · rintro ⟨each, low⟩
      obtain _ | @⟨_, t, _, ts, first, each⟩ := each
      rw [Tree.depthOfItems, max_lt_iff] at low
      have one := (ih v t).mpr ⟨first, Nat.lt_of_succ_lt_succ low.1⟩
      have all := more.mpr ⟨each, low.2⟩
      rw [one, all]
      rfl

theorem mapM_treeOf?_fields
    (ih : ∀ v t, h.treeOf? levels v = some t ↔ h.Unfolds v t ∧ t.depth < levels) :
    named.mapM (fun field => (h.treeOf? levels field.2).map (field.1, ·)) = some fields ↔
      h.UnfoldsFields named fields ∧ Tree.depthOfFields fields < levels + 1 := by
  induction named generalizing fields with
  | nil =>
    rw [List.mapM_nil]
    constructor
    · rintro ⟨⟩
      exact ⟨.nil, Nat.succ_pos _⟩
    · rintro ⟨⟨⟩, -⟩
      rfl
  | cons field rest more =>
    obtain ⟨name, v⟩ := field
    rw [List.mapM_cons]
    constructor
    · intro copied
      obtain ⟨entry, named, others⟩ := Option.bind_eq_some_iff.mp copied
      obtain ⟨t, one, rfl⟩ := Option.map_eq_some_iff.mp named
      obtain ⟨ts, all, ends⟩ := Option.bind_eq_some_iff.mp others
      obtain rfl := Option.some.inj ends
      obtain ⟨first, shallow⟩ := (ih v t).mp one
      obtain ⟨each, low⟩ := more.mp all
      exact ⟨.cons first each, max_lt (Nat.succ_lt_succ shallow) low⟩
    · rintro ⟨each, low⟩
      obtain _ | @⟨_, _, t, _, ts, first, each⟩ := each
      rw [Tree.depthOfFields, max_lt_iff] at low
      have one := (ih v t).mpr ⟨first, Nat.lt_of_succ_lt_succ low.1⟩
      have all := more.mpr ⟨each, low.2⟩
      dsimp only
      rw [one, all]
      rfl

end

/-- A value unfolds into a tree of few levels exactly if going down so many levels gives it. -/
theorem treeOf?_eq_some_iff {levels : Nat} {v : Value} {t : Tree} :
    h.treeOf? levels v = some t ↔ h.Unfolds v t ∧ t.depth < levels := by
  induction levels generalizing v t with
  | zero => exact ⟨nofun, fun ⟨_, low⟩ => absurd low (Nat.not_lt_zero _)⟩
  | succ levels ih =>
    -- The lists inside of arrays and objects are one level further down.
    have items {values : List Value} {ts : List Tree} :=
      @mapM_treeOf?_items h levels values ts fun v t => ih (v := v) (t := t)
    have fields {values : List (String × Value)} {ts : List (String × Tree)} :=
      @mapM_treeOf?_fields h levels values ts fun v t => ih (v := v) (t := t)
    constructor
    · intro copied
      cases v with
      | object r =>
        unfold treeOf? at copied
        split at copied
        · rename_i values known
          obtain ⟨ts, all, rfl⟩ := Option.map_eq_some_iff.mp copied
          exact ⟨.array known (items.mp all).1, (items.mp all).2⟩
        · rename_i values known
          obtain ⟨ts, all, rfl⟩ := Option.map_eq_some_iff.mp copied
          exact ⟨.object known (fields.mp all).1, (fields.mp all).2⟩
        · rename_i name known
          obtain rfl := Option.some.inj copied
          exact ⟨.function known, Nat.succ_pos _⟩
        · cases copied
      | _ =>
        obtain ⟨d, bare, rfl⟩ := Option.map_eq_some_iff.mp copied
        exact ⟨.leaf bare, Nat.succ_pos _⟩
    · rintro ⟨unfolds, low⟩
      cases unfolds with
      | leaf bare => exact treeOf?_bare bare levels
      | function known => simp only [treeOf?, known]
      | array known each =>
        simp only [treeOf?, known, items.mpr ⟨each, low⟩, Option.map_some]
      | object known each =>
        simp only [treeOf?, known, fields.mpr ⟨each, low⟩, Option.map_some]

end Heap

end ScriptHost.Script
