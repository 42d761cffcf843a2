import ScriptHost.Proofs.Data.Fields
import ScriptHost.Proofs.Number.Integers
import ScriptHost.Proofs.Number.Nearest
import ScriptHost.Proofs.Script.Importing
import ScriptHost.Proofs.Script.Layouts

/-! The canonical form of a datum is what a copy of it inside of an engine looks like from outside.
Engines have one kind of numbers and big integers without spelling; all else stays what it is. The
tree that a copy unfolds into is that of the canonical form, but for the order of the fields, which
are put in order when they are handed over. -/

namespace ScriptHost

theorem Fields.ofList_perm {α : Type} {fields entries : List (String × α)}
    (sorted : Fields.Sorted fields) (perm : entries.Perm fields) : Fields.ofList entries = fields := by
  have once : (fields.map (·.1)).Nodup := List.pairwise_map.mpr (sorted.imp fun before => before.ne)
  have same : entries.reverse.Perm fields := (List.reverse_perm entries).trans perm
  refine eq_of_lookup_eq (ofList_sorted entries) sorted fun key => ?_
  rw [lookup_ofList]
  by_cases named : key ∈ fields.map (·.1)
  · obtain ⟨⟨_, a⟩, member, rfl⟩ := List.mem_map.mp named
    rw [Script.lookup_of_mem once member,
      Script.lookup_of_mem ((same.map _).nodup_iff.mpr once) (same.mem_iff.mpr member)]
  · have missing {rest : List (String × α)} (absent : key ∉ rest.map (·.1)) : rest.lookup key = none := by
      refine List.lookup_eq_none_iff.mpr fun entry member => ?_
      have differ : key ≠ entry.1 := fun equal => absent (List.mem_map.mpr ⟨entry, member, equal.symm⟩)
      simpa using differ
    rw [missing named, missing fun inside => named ((same.map _).mem_iff.mp inside)]

namespace Datum

mutual

/-- What comes back of a datum that is copied into an engine and out again. Integers of more than 53 bits
become the doubles nearest to them, doubles that are integers of at most 53 bits become integers, and
big integers are written in the shortest way. -/
def canon : Datum → Datum
  | .int i => if i.toInt.natAbs ≤ maxSafeInteger then .int i else .float (Double.ofInt i.toInt)
  | .float d => .ofDouble d
  | .bigInt digits => .bigInt (toString (Script.decimalValue digits))
  | .array items => .array (canonItems items)
  | .object fields => .object (canonFields fields)
  | d => d

def canonItems : List Datum → List Datum
  | [] => []
  | item :: rest => item.canon :: canonItems rest

def canonFields : List (String × Datum) → List (String × Datum)
  | [] => []
  | (name, item) :: rest => (name, item.canon) :: canonFields rest

end

theorem log2_lt (i : Int64) : i.toInt.natAbs.log2 < 1000 := by
  rcases Nat.eq_zero_or_pos i.toInt.natAbs with zero | positive
  · rw [zero]
    decide
  · have low := i.le_toInt
    have high := i.toInt_lt
    exact (Nat.log2_lt positive.ne').mpr (by omega)

/-- Where an integer becomes a double, no other double is nearer to it. -/
theorem canon_int_nearest {i : Int64} {d : Double} (held : (Datum.int i).canon = .float d)
    (other : Double) : |d.value - i.toInt| ≤ |other.value - i.toInt| := by
  unfold canon at held
  split at held
  · cases held
  · obtain rfl := Datum.float.inj held
    exact Double.ofInt_nearest (log2_lt i) other

theorem canonFields_eq_map (fields : List (String × Datum)) :
    canonFields fields = fields.map fun field => (field.1, field.2.canon) := by
  induction fields with
  | nil => rfl
  | cons field rest ih => rw [canonFields, ih, List.map_cons]

theorem canonFields_ascending {fields : List (String × Datum)} (ascending : Wire.Ascending fields) :
    Fields.Sorted (canonFields fields) := by
  rw [canonFields_eq_map]
  exact List.pairwise_map.mpr ascending

section

variable {fields other : List (String × Datum)} (perm : fields.Perm other)

include perm

theorem depthOfFields_perm : depthOfFields fields = depthOfFields other := by
  induction perm with
  | nil => rfl
  | cons field _ ih => rw [depthOfFields, depthOfFields, ih]
  | swap first second rest => exact Nat.max_left_comm _ _ _
  | trans _ _ first second => exact first.trans second

theorem nodesOfFields_perm : nodesOfFields fields = nodesOfFields other := by
  induction perm with
  | nil => rfl
  | cons field _ ih => rw [nodesOfFields, nodesOfFields, ih]
  | swap first second rest => exact Nat.add_left_comm _ _ _
  | trans _ _ first second => exact first.trans second

theorem mem_namesOfFields_perm (name : String) :
    name ∈ namesOfFields fields ↔ name ∈ namesOfFields other := by
  induction perm with
  | nil => rfl
  | cons field _ ih => simp only [namesOfFields, List.mem_cons, List.mem_append, ih]
  | swap first second rest =>
    simp only [namesOfFields, List.mem_cons, List.mem_append]
    tauto
  | trans _ _ first second => exact first.trans second

end

end Datum

namespace Script

/-! ### The names in a tree -/

namespace Tree

mutual

def names : Tree → List String
  | leaf _ | function .. => []
  | array items => namesOfItems items
  | object fields => namesOfFields fields

def namesOfItems : List Tree → List String
  | [] => []
  | t :: rest => t.names ++ namesOfItems rest

def namesOfFields : List (String × Tree) → List String
  | [] => []
  | (name, t) :: rest => name :: (t.names ++ namesOfFields rest)

end

/-- The tree is the datum's: as deep and as large, with its names, and handed over as its canonical
form. -/
structure Shows (t : Tree) (d : Datum) : Prop where
  depth : t.depth = d.depth
  nodes : t.nodes = d.nodes
  names : ∀ name, name ∈ t.names → name ∈ d.names
  handOver : ∀ retained, t.handOver retained = (d.canon, retained)

structure ShowsItems (ts : List Tree) (items : List Datum) : Prop where
  depth : depthOfItems ts = Datum.depthOfItems items
  nodes : nodesOfItems ts = Datum.nodesOfItems items
  names : ∀ name, name ∈ namesOfItems ts → name ∈ Datum.namesOfItems items
  handOver : ∀ retained, handOverItems retained ts = (Datum.canonItems items, retained)

structure ShowsFields (ts : List (String × Tree)) (fields : List (String × Datum)) : Prop where
  depth : depthOfFields ts = Datum.depthOfFields fields
  nodes : nodesOfFields ts = Datum.nodesOfFields fields
  names : ∀ name, name ∈ namesOfFields ts → name ∈ Datum.namesOfFields fields
  handOver : ∀ retained, handOverFields retained ts = (Datum.canonFields fields, retained)

theorem ShowsItems.nil : ShowsItems [] [] := ⟨rfl, rfl, fun _ member => member, fun _ => rfl⟩

theorem ShowsFields.nil : ShowsFields [] [] := ⟨rfl, rfl, fun _ member => member, fun _ => rfl⟩

theorem Shows.leaf {d : Datum} {v : Value} (bare : d.value? = some v) : (leaf d.canon).Shows d := by
  cases d with
  | array items => cases bare
  | object fields => cases bare
  | function handle => cases bare
  | _ => exact ⟨rfl, rfl, fun _ member => member, fun _ => rfl⟩

variable {t : Tree} {d : Datum} {ts : List Tree} {items : List Datum} {fts : List (String × Tree)}
  {fields : List (String × Datum)}

theorem ShowsItems.cons (first : t.Shows d) (rest : ShowsItems ts items) :
    ShowsItems (t :: ts) (d :: items) where
  depth := by rw [depthOfItems, Datum.depthOfItems, first.depth, rest.depth]
  nodes := by rw [nodesOfItems, Datum.nodesOfItems, first.nodes, rest.nodes]
  names name member := List.mem_append.mpr
    ((List.mem_append.mp member).imp (first.names name) (rest.names name))
  handOver retained := by
    simp only [handOverItems, first.handOver, rest.handOver, Datum.canonItems]

theorem ShowsFields.cons (name : String) (first : t.Shows d) (rest : ShowsFields fts fields) :
    ShowsFields ((name, t) :: fts) ((name, d) :: fields) where
  depth := by rw [depthOfFields, Datum.depthOfFields, first.depth, rest.depth]
  nodes := by rw [nodesOfFields, Datum.nodesOfFields, first.nodes, rest.nodes]
  names other member := by
    rcases List.mem_cons.mp member with same | inside
    · exact List.mem_cons.mpr (.inl same)
    · exact List.mem_cons_of_mem _ (List.mem_append.mpr
        ((List.mem_append.mp inside).imp (first.names other) (rest.names other)))
  handOver retained := by
    simp only [handOverFields, first.handOver, rest.handOver, Datum.canonFields]

theorem ShowsItems.array (shows : ShowsItems ts items) : (array ts).Shows (.array items) where
  depth := shows.depth
  nodes := congrArg (1 + ·) shows.nodes
  names := shows.names
  handOver retained := by simp only [Tree.handOver, shows.handOver, Datum.canon]

/-- The fields are handed over in order, whatever the order in which they were listed. -/
theorem ShowsFields.object {listed : List (String × Datum)} (shows : ShowsFields fts listed)
    (perm : listed.Perm fields) (ascending : Wire.Ascending fields) :
    (object fts).Shows (.object fields) where
  depth := shows.depth.trans (Datum.depthOfFields_perm perm)
  nodes := congrArg (1 + ·) (shows.nodes.trans (Datum.nodesOfFields_perm perm))
  names name member := (Datum.mem_namesOfFields_perm perm name).mp (shows.names name member)
  handOver retained := by
    have same : (Datum.canonFields listed).Perm (Datum.canonFields fields) := by
      rw [Datum.canonFields_eq_map, Datum.canonFields_eq_map]
      exact perm.map _
    simp only [Tree.handOver, shows.handOver, Datum.canon,
      Fields.ofList_perm (Datum.canonFields_ascending ascending) same]

end Tree

/-! ### The tree of a copy -/

namespace Heap

variable {h : Heap} {low : Ref} {calls : Nat}

/-- The value unfolds into the datum's tree. -/
def Copies (h : Heap) (v : Value) (d : Datum) : Prop := ∃ t, h.Unfolds v t ∧ t.Shows d

theorem unfoldsItems_of_copies {values : List Value} {items : List Datum}
    (copies : List.Forall₂ h.Copies values items) :
    ∃ ts, h.UnfoldsItems values ts ∧ Tree.ShowsItems ts items := by
  induction copies with
  | nil => exact ⟨[], .nil, .nil⟩
  | cons first _ ih =>
    obtain ⟨t, unfolds, shows⟩ := first
    obtain ⟨ts, each, others⟩ := ih
    exact ⟨t :: ts, .cons unfolds each, .cons shows others⟩

/-- The two fields have one name, and one is a copy of the other. -/
def CopiesField (h : Heap) (value : String × Value) (field : String × Datum) : Prop :=
  value.1 = field.1 ∧ h.Copies value.2 field.2

theorem names_of_copies {values : List (String × Value)} {fields : List (String × Datum)}
    (copies : List.Forall₂ h.CopiesField values fields) : values.map (·.1) = fields.map (·.1) := by
  induction copies with
  | nil => rfl
  | cons first _ ih => rw [List.map_cons, List.map_cons, first.1, ih]

theorem unfoldsFields_of_copies {values : List (String × Value)} {fields : List (String × Datum)}
    (copies : List.Forall₂ h.CopiesField values fields) :
    ∃ ts, h.UnfoldsFields values ts ∧ Tree.ShowsFields ts fields := by
  induction copies with
  | nil => exact ⟨[], .nil, .nil⟩
  | @cons value field _ _ first _ ih =>
    obtain ⟨name, v⟩ := value
    obtain ⟨other, d⟩ := field
    obtain ⟨same, t, unfolds, shows⟩ := first
    obtain rfl : name = other := same
    obtain ⟨ts, each, others⟩ := ih
    exact ⟨(name, t) :: ts, .cons unfolds each, .cons name shows others⟩

theorem leaf?_of_value? {d : Datum} {v : Value} (bare : d.value? = some v) :
    v.leaf? = some d.canon := by
  cases d with
  | int i =>
    obtain rfl := Option.some.inj bare
    show some (Datum.ofDouble (Double.ofInt i.toInt)) = _
    rw [Datum.ofDouble_ofInt (Datum.log2_lt i), Int64.ofInt_toInt]
    rfl
  | array items => cases bare
  | object fields => cases bare
  | function handle => cases bare
  | _ =>
    obtain rfl := Option.some.inj bare
    rfl

mutual

theorem Represents.copies (d : Datum) {v : Value} (copy : h.Represents low d v)
    (portable : d.Portable calls) (ordered : d.Ordered) : h.Copies v d := by
  cases copy with
  | leaf bare => exact ⟨.leaf d.canon, .leaf (leaf?_of_value? bare), .leaf bare⟩
  | @array items values r _ known each =>
    obtain ⟨short, portable⟩ := portable
    have inside := RepresentsItems.copies items each portable ordered
    obtain ⟨ts, unfolds, shows⟩ := unfoldsItems_of_copies inside
    have layout := layout?_arrayOf known (inside.length_eq ▸ short)
    exact ⟨.array ts, .array layout unfolds, shows.array⟩
  | @object fields values r _ known each =>
    obtain ⟨short, portable⟩ := portable
    obtain ⟨ascending, ordered⟩ := ordered
    have inside := RepresentsFields.copies fields each portable ordered
    have once : (values.map (·.1)).Nodup := by
      rw [names_of_copies inside]
      exact List.pairwise_map.mpr (ascending.imp fun before => before.ne)
    obtain ⟨listed, layout, perm⟩ := layout?_recordOf known once (inside.length_eq ▸ short)
    obtain ⟨other, copies, same⟩ := List.perm_comp_forall₂ perm inside
    obtain ⟨ts, unfolds, shows⟩ := unfoldsFields_of_copies copies
    exact ⟨.object ts, .object layout unfolds, shows.object same ascending⟩
  | function known => exact portable.elim

theorem RepresentsItems.copies (items : List Datum) {values : List Value}
    (copy : h.RepresentsItems low items values) (portable : Datum.PortableItems calls items)
    (ordered : Datum.OrderedItems items) : List.Forall₂ h.Copies values items := by
  cases copy with
  | nil => exact .nil
  | @cons d v rest values first others =>
    exact .cons (Represents.copies d first portable.1 ordered.1)
      (RepresentsItems.copies rest others portable.2 ordered.2)

theorem RepresentsFields.copies (fields : List (String × Datum)) {values : List (String × Value)}
    (copy : h.RepresentsFields low fields values) (portable : Datum.PortableFields calls fields)
    (ordered : Datum.OrderedFields fields) : List.Forall₂ h.CopiesField values fields := by
  cases copy with
  | nil => exact .nil
  | @cons name d v rest values first others =>
    exact .cons ⟨rfl, Represents.copies d first portable.2.1 ordered.1⟩
      (RepresentsFields.copies rest others portable.2.2 ordered.2)

end

/-! ### What unfolds is plain -/

section

variable {v w : Value} {t : Tree}

theorem UnfoldsItems.of_mem {values : List Value} {ts : List Tree} (each : h.UnfoldsItems values ts)
    (member : w ∈ values) :
    ∃ u, h.Unfolds w u ∧ ∀ name ∈ u.names, name ∈ Tree.namesOfItems ts := by
  induction values generalizing ts with
  | nil => cases member
  | cons first rest ih =>
    cases each with
    | cons unfolds others =>
      rcases List.mem_cons.mp member with rfl | inside
      · exact ⟨_, unfolds, fun name known => List.mem_append_left _ known⟩
      · obtain ⟨u, unfolds, names⟩ := ih others inside
        exact ⟨u, unfolds, fun name known => List.mem_append_right _ (names name known)⟩

theorem UnfoldsFields.of_mem {values : List (String × Value)} {ts : List (String × Tree)}
    (each : h.UnfoldsFields values ts) (member : w ∈ values.map (·.2)) :
    ∃ u, h.Unfolds w u ∧ ∀ name ∈ u.names, name ∈ Tree.namesOfFields ts := by
  induction values generalizing ts with
  | nil => cases member
  | cons first rest ih =>
    cases each with
    | cons unfolds others =>
      rcases List.mem_cons.mp member with rfl | inside
      · exact ⟨_, unfolds, fun name known =>
          List.mem_cons_of_mem _ (List.mem_append_left _ known)⟩
      · obtain ⟨u, unfolds, names⟩ := ih others inside
        exact ⟨u, unfolds, fun name known =>
          List.mem_cons_of_mem _ (List.mem_append_right _ (names name known))⟩

theorem UnfoldsFields.names {values : List (String × Value)} {ts : List (String × Tree)}
    (each : h.UnfoldsFields values ts) :
    ∀ name ∈ values.map (·.1), name ∈ Tree.namesOfFields ts := by
  induction values generalizing ts with
  | nil => exact fun _ member => absurd member List.not_mem_nil
  | cons first rest ih =>
    cases each with
    | cons unfolds others =>
      intro name member
      rcases List.mem_cons.mp member with rfl | inside
      · exact List.mem_cons_self
      · exact List.mem_cons_of_mem _ (List.mem_append_right _ (ih others name inside))

theorem Unfolds.sound (unfolds : h.Unfolds v t) : h.Sound v := by
  cases unfolds with
  | leaf bare => exact .inl (Option.isSome_iff_exists.mpr ⟨_, bare⟩)
  | function known => exact .inr (Option.isSome_iff_exists.mpr ⟨_, known⟩)
  | array known _ => exact .inr (Option.isSome_iff_exists.mpr ⟨_, known⟩)
  | object known _ => exact .inr (Option.isSome_iff_exists.mpr ⟨_, known⟩)

/-- The names of a layout are names of the tree, and what is inside unfolds too. -/
theorem Unfolds.inside (unfolds : h.Unfolds v t) {l : Layout} (layout : l ∈ h.layoutOf? v) :
    (∀ name ∈ l.names, name ∈ t.names) ∧
      ∀ w ∈ l.values, ∃ u, h.Unfolds w u ∧ ∀ name ∈ u.names, name ∈ t.names := by
  cases unfolds with
  | leaf bare =>
    cases v with
    | object r => cases bare
    | _ => cases layout
  | function known =>
    obtain rfl := Option.some.inj (known.symm.trans layout)
    exact ⟨fun _ member => absurd member List.not_mem_nil, fun _ member => absurd member List.not_mem_nil⟩
  | array known each =>
    obtain rfl := Option.some.inj (known.symm.trans layout)
    exact ⟨fun _ member => absurd member List.not_mem_nil, fun w member => each.of_mem member⟩
  | object known each =>
    obtain rfl := Option.some.inj (known.symm.trans layout)
    exact ⟨each.names, fun w member => each.of_mem member⟩

theorem Unfolds.reaches (unfolds : h.Unfolds v t) (way : Relation.ReflTransGen h.Leads v w) :
    ∃ u, h.Unfolds w u ∧ ∀ name ∈ u.names, name ∈ t.names := by
  induction way with
  | refl => exact ⟨t, unfolds, fun _ member => member⟩
  | tail _ leads ih =>
    obtain ⟨u, unfolds, names⟩ := ih
    obtain ⟨l, layout, member⟩ := leads
    obtain ⟨u', unfolds', names'⟩ := (unfolds.inside layout).2 _ member
    exact ⟨u', unfolds', fun name known => names name (names' name known)⟩

theorem Unfolds.plain (unfolds : h.Unfolds v t) : h.Plain v := by
  intro w way
  obtain ⟨u, unfolds, -⟩ := unfolds.reaches way
  exact unfolds.sound

theorem Unfolds.nulFree (unfolds : h.Unfolds v t) (clean : ∀ name ∈ t.names, '\x00' ∉ name.toList) :
    h.NulFree v := by
  intro w way l layout name member
  obtain ⟨u, unfolds, names⟩ := unfolds.reaches way
  exact clean name (names name ((unfolds.inside layout).1 name member))

end

end Heap

end Script

end ScriptHost
