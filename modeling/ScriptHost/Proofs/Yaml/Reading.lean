import Mathlib
import ScriptHost.Yaml.Decode

/-! What readings of YAML nodes give when they succeed. A reading counts how often it follows names of
nodes and knows where it is; what it gives depends on neither. So what a node stands for is said here of
the node alone: its text, its items, its entries, and the JSON value that it shows. -/

namespace ScriptHost.Yaml

variable {α β : Type}

/-! ### Readings -/

/-- The reading may succeed, and gives this when it does. -/
def Gives (m : Read α) (a : α) : Prop := ∃ before after, m.run before = .ok (a, after)

@[simp] theorem gives_pure {a b : α} : Gives (pure a) b ↔ a = b := by
  constructor
  · rintro ⟨before, after, ran⟩
    cases ran
    rfl
  · rintro rfl
    exact ⟨0, 0, rfl⟩

@[simp] theorem not_gives_throw {p : Problem} {a : α} : ¬ Gives (throw p) a := by
  rintro ⟨before, after, ran⟩
  cases ran

@[simp] theorem not_gives_fail {s : Spot} {m : Json.Mismatch} {a : α} : ¬ Gives (s.fail m) a :=
  not_gives_throw

theorem gives_bind {m : Read α} {f : α → Read β} {b : β} (given : Gives (m >>= f) b) :
    ∃ a, Gives m a ∧ Gives (f a) b := by
  obtain ⟨before, after, ran⟩ := given
  rw [StateT.run_bind] at ran
  cases first : m.run before with
  | error p =>
    rw [first] at ran
    cases ran
  | ok result =>
    rw [first] at ran
    exact ⟨result.1, ⟨before, result.2, first⟩, result.2, after, ran⟩

/-- A reading that stops under a condition goes on without it. -/
theorem gives_unless {condition : Prop} [Decidable condition] {stop : Read α} {rest : α → Read β}
    {a : α} {b : β} (stops : ∀ a, ¬ Gives stop a)
    (given : Gives (if condition then stop >>= rest else rest a) b) : ¬ condition ∧ Gives (rest a) b := by
  split at given
  · obtain ⟨a, stopped, -⟩ := gives_bind given
    exact absurd stopped (stops a)
  · exact ⟨by assumption, given⟩

theorem gives_mapM {f : α → Read β} {xs : List α} {ys : List β} (given : Gives (xs.mapM f) ys) :
    List.Forall₂ (fun x y => Gives (f x) y) xs ys := by
  induction xs generalizing ys with
  | nil =>
    rw [List.mapM_nil, gives_pure] at given
    subst given
    exact .nil
  | cons x rest ih =>
    rw [List.mapM_cons] at given
    obtain ⟨y, first, given⟩ := gives_bind given
    obtain ⟨others, later, given⟩ := gives_bind given
    rw [gives_pure] at given
    subst given
    exact .cons first (ih later)

/-- Items are often read with their numbers, which only tell where they are. -/
theorem gives_mapM_zipIdx {f : α × Nat → Read β} {xs : List α} {ys : List β} {start : Nat}
    (given : Gives ((xs.zipIdx start).mapM f) ys) :
    List.Forall₂ (fun x y => ∃ i, Gives (f (x, i)) y) xs ys := by
  have each := gives_mapM given
  clear given
  induction xs generalizing start ys with
  | nil =>
    cases each
    exact .nil
  | cons x rest ih =>
    rw [List.zipIdx_cons] at each
    cases each with
    | cons first others => exact .cons ⟨start, first⟩ (ih others)

/-! ### Nodes -/

theorem schemaTag_inj {name other : String} : schemaTag name = schemaTag other ↔ name = other := by
  unfold schemaTag
  exact String.append_right_inj _

def taggedAtom? (tag text : String) : Option Atom :=
  if tag == schemaTag "bool" then (boolWord? text).map .bool
  else if tag == schemaTag "int" then (strictInt? text.toList).map .int
  else if tag == schemaTag "float" then (strictFloat? text).map .float
  else if tag == schemaTag "null" then if isNullWord text then some .null else none
  else some (.text text)

/-- What a scalar without a tag of the text's own stands for, if its text is one for its tag. -/
def scalarAtom? (tag : Option String) (text : String) (style : ScalarStyle) : Option Atom :=
  match tag with
  | some tag => taggedAtom? tag text
  | none => some (if style == .plain then strictAtom text else .text text)

def Atom.json : Atom → Json
  | .null => .null
  | .bool b => .bool b
  | .int i => .int i
  | .float d => .ofDouble d
  | .text s => .string s

namespace Node

/-- The node itself, if this is another name for it. -/
def target : Node → Node
  | .alias (some n) => n
  | n => n

def text (n : Node) : String :=
  match n.target with
  | .scalar _ text _ => text
  | _ => ""

def items (n : Node) : List Node :=
  match n.target with
  | .sequence _ items => items
  | _ => []

def entries (n : Node) : List (Node × Node) :=
  match n.target with
  | .mapping _ entries => entries
  | _ => []

/-- Is it a null, as a plain word, with nothing written, or with the tag for it? -/
def isNull (n : Node) : Bool :=
  match n.target with
  | .scalar none text .plain => text.isEmpty || isNullWord text
  | .scalar (some tag) text .plain => tag == schemaTag "null" && isNullWord text
  | _ => false

mutual

/-- The JSON value that a node shows. Keys are taken as text; of equal ones the last counts. -/
def json : Node → Json
  | .scalar tag text style => ((scalarAtom? tag text style).map Atom.json).getD .null
  | .sequence _ items => .array (jsonItems items)
  | .mapping _ entries => .ofFields (jsonEntries entries)
  | .alias (some n) => n.json
  | .alias none | .cut => .null

def jsonItems : List Node → List Json
  | [] => []
  | item :: rest => item.json :: jsonItems rest

def jsonEntries : List (Node × Node) → List (String × Json)
  | [] => []
  | (key, value) :: rest => (key.text, value.json) :: jsonEntries rest

end

theorem json_target (n : Node) : n.target.json = n.json := by
  unfold target
  split
  · rw [json]
  · rfl

/-- A null shows a null. -/
theorem json_of_isNull {n : Node} (isNull : n.isNull = true) : n.json = .null := by
  rw [← json_target]
  unfold Node.isNull at isNull
  split at isNull
  · rename_i text shape
    rw [shape, json]
    simp [scalarAtom?, strictAtom, isNull, Atom.json]
  · rename_i tag text shape
    simp only [Bool.and_eq_true, beq_iff_eq] at isNull
    obtain ⟨rfl, word⟩ := isNull
    rw [shape, json]
    have known : scalarAtom? (some (schemaTag "null")) text .plain = some .null := by
      simp [scalarAtom?, taggedAtom?, schemaTag_inj, word]
    rw [known]
    rfl
  · cases isNull

end Node

/-! ### What readings of nodes give -/

variable {s : Spot} {n m : Node} {expected : String}

theorem gives_follow (given : Gives (follow s n) m) : m = n.target := by
  unfold follow at given
  split at given
  · rename_i named
    obtain ⟨jumps, -, given⟩ := gives_bind given
    obtain ⟨-, given⟩ := gives_unless (a := ()) (fun _ => not_gives_throw) given
    obtain ⟨_, -, given⟩ := gives_bind given
    cases named with
    | some node => exact (gives_pure.mp given).symm
    | none => exact absurd given not_gives_throw
  · exact absurd given not_gives_throw
  · rename_i other _
    rw [← gives_pure.mp given]
    cases n with
    | «alias» named => exact absurd rfl (other named)
    | _ => rfl

/-- A reading that follows a name goes on with the node that is named. -/
theorem gives_followed {rest : Node → Read α} {a : α} (given : Gives (follow s n >>= rest) a) :
    Gives (rest n.target) a := by
  obtain ⟨m, followed, given⟩ := gives_bind given
  obtain rfl := gives_follow followed
  exact given

theorem not_gives_refuse {a : α} : ¬ Gives (refuse s expected n) a := by
  intro given
  unfold refuse at given
  split at given
  · obtain ⟨atom, -, given⟩ := gives_bind given
    exact not_gives_fail given
  · exact not_gives_fail given
  · exact not_gives_fail given
  · exact not_gives_throw given

theorem gives_readText {text : String} (given : Gives (readText s expected n) text) : text = n.text := by
  replace given := gives_followed given
  unfold Node.text
  generalize n.target = m at given ⊢
  cases m with
  | scalar tag text style => exact (gives_pure.mp given).symm
  | _ => exact absurd given not_gives_refuse

theorem gives_readItems {items : List Node} (given : Gives (readItems s expected n) items) :
    items = n.items := by
  replace given := gives_followed given
  unfold Node.items
  generalize n.target = m at given ⊢
  cases m with
  | sequence tag items => exact (gives_pure.mp given).symm
  | _ =>
    dsimp only at given
    split at given
    · exact (gives_pure.mp given).symm
    · exact absurd given not_gives_refuse

theorem gives_readEntries {entries : List (Node × Node)}
    (given : Gives (readEntries s expected n) entries) : entries = n.entries := by
  replace given := gives_followed given
  unfold Node.entries
  generalize n.target = m at given ⊢
  cases m with
  | mapping tag entries => exact (gives_pure.mp given).symm
  | _ =>
    dsimp only at given
    split at given
    · exact (gives_pure.mp given).symm
    · exact absurd given not_gives_refuse

theorem gives_isPresent {present : Bool} (given : Gives (isPresent s n) present) :
    present = !n.isNull := by
  replace given := gives_followed given
  unfold Node.isNull
  generalize n.target = m at given ⊢
  cases m with
  | scalar tag text style =>
    dsimp only at given
    by_cases plain : style = .plain
    · subst plain
      cases tag with
      | none => simpa [eq_comm] using given
      | some tag =>
        rw [if_neg (by decide)] at given
        dsimp only at given ⊢
        split at given
        · rename_i known
          split at given
          · rename_i word
            simp [known, word, ← gives_pure.mp given]
          · exact absurd given not_gives_fail
        · rename_i other
          simp [other, ← gives_pure.mp given]
    · have other : (style != .plain) = true := by simpa using plain
      rw [if_pos other, gives_pure] at given
      cases style with
      | plain => exact absurd rfl plain
      | _ => cases tag <;> exact given.symm
  | _ => exact (gives_pure.mp given).symm

/-- A value that need not be there is absent if a null is written for it. -/
theorem gives_readOptional {read : Node → Read α} {value : Option α}
    (given : Gives (readOptional s read n) value) :
    if n.isNull then value = none else ∃ a, value = some a ∧ Gives (read n) a := by
  obtain ⟨present, told, given⟩ := gives_bind given
  obtain rfl := gives_isPresent told
  cases isNull : n.isNull <;> simp only [isNull, Bool.not_true, Bool.not_false, Bool.false_eq_true,
    ↓reduceIte] at given ⊢
  · obtain ⟨a, read, given⟩ := gives_bind given
    exact ⟨a, (gives_pure.mp given).symm, read⟩
  · exact (gives_pure.mp given).symm

/-! ### JSON values -/

theorem ownTag?_isSome {tag : String} (own : tag.startsWith "!") : (ownTag? (some tag)).isSome := by
  rw [String.startsWith_string_iff] at own
  obtain ⟨rest, shape⟩ := own
  cases rest with
  | nil =>
    have single : tag.toList = ['!'] := shape.symm
    simp [ownTag?, single]
  | cons c rest =>
    have longer : tag.toList = '!' :: c :: rest := shape.symm
    simp [ownTag?, longer]

theorem gives_taggedAtom {tag text : String} {a : Atom} (given : Gives (taggedAtom s tag text) a) :
    taggedAtom? tag text = some a := by
  unfold taggedAtom at given
  unfold taggedAtom?
  repeat' split at given
  all_goals simp_all

theorem gives_atomOf {tag : Option String} {text : String} {style : ScalarStyle} {a : Atom}
    (foreign : ¬ (ownTag? tag).isSome) (given : Gives (atomOf s tag text style) a) :
    scalarAtom? tag text style = some a := by
  cases tag with
  | none => exact congrArg some (gives_pure.mp given)
  | some tag =>
    have other : ¬ (style == .plain && tag.startsWith "!") = true := fun own =>
      foreign (ownTag?_isSome (Bool.and_eq_true_iff.mp own).2)
    rw [atomOf, if_neg other] at given
    exact gives_taggedAtom given

theorem gives_scalarJson {tag : Option String} {text : String} {style : ScalarStyle} {value : Json}
    (given : Gives (readJson.scalarJson s tag text style) value) :
    value = (Node.scalar tag text style).json := by
  unfold readJson.scalarJson at given
  obtain ⟨foreign, given⟩ := gives_unless (a := ()) (fun _ => not_gives_fail) given
  obtain ⟨atom, told, given⟩ := gives_bind given
  rw [Node.json, gives_atomOf foreign told]
  cases atom with
  | int i =>
    dsimp only [jsonInt] at given
    split at given
    · exact (gives_pure.mp given).symm
    · exact absurd given not_gives_throw
  | _ => exact (gives_pure.mp given).symm

theorem Node.jsonItems_eq_map (items : List Node) : jsonItems items = items.map json := by
  induction items with
  | nil => rfl
  | cons item rest ih => rw [jsonItems, ih, List.map_cons]

theorem Node.jsonEntries_eq_map (entries : List (Node × Node)) :
    jsonEntries entries = entries.map fun entry => (entry.1.text, entry.2.json) := by
  induction entries with
  | nil => rfl
  | cons entry rest ih => rw [jsonEntries, ih, List.map_cons]

theorem map_eq_map_of_forall₂ {γ : Type} {f : α → γ} {g : β → γ} {xs : List α} {ys : List β}
    (each : List.Forall₂ (fun x y => g y = f x) xs ys) : ys.map g = xs.map f := by
  induction each with
  | nil => rfl
  | cons first _ ih => rw [List.map_cons, List.map_cons, first, ih]

/-- A JSON value that is read is the one that the node shows. -/
theorem gives_readJson {levels : Nat} {value : Json} (given : Gives (readJson levels s n) value) :
    value = n.json := by
  induction levels generalizing s n value with
  | zero =>
    replace given := gives_followed given
    rw [← Node.json_target]
    generalize n.target = m at given ⊢
    cases m with
    | scalar tag text style => exact gives_scalarJson given
    | _ => exact absurd given not_gives_throw
  | succ levels ih =>
    replace given := gives_followed given
    rw [← Node.json_target]
    generalize n.target = m at given ⊢
    cases m with
    | scalar tag text style => exact gives_scalarJson given
    | sequence tag items =>
      obtain ⟨-, given⟩ := gives_unless (a := ()) (fun _ => not_gives_fail) given
      obtain ⟨values, read, given⟩ := gives_bind given
      have each : List.Forall₂ (fun item value => id value = Node.json item) items values :=
        (gives_mapM_zipIdx read).imp fun item value ⟨_, read⟩ => ih read
      rw [← gives_pure.mp given, Node.json, Node.jsonItems_eq_map, ← map_eq_map_of_forall₂ each,
        List.map_id]
    | mapping tag entries =>
      obtain ⟨-, given⟩ := gives_unless (a := ()) (fun _ => not_gives_fail) given
      obtain ⟨members, read, given⟩ := gives_bind given
      have each : List.Forall₂ (fun entry member => id member = (entry.1.text, entry.2.json))
          entries members := by
        refine (gives_mapM read).imp fun entry member read => ?_
        obtain ⟨name, told, read⟩ := gives_bind read
        obtain ⟨value, shown, read⟩ := gives_bind read
        rw [← gives_pure.mp read, gives_readText told, ih shown, id]
      rw [← gives_pure.mp given, Node.json, Node.jsonEntries_eq_map, ← map_eq_map_of_forall₂ each,
        List.map_id]
    | _ => exact absurd given not_gives_throw

end ScriptHost.Yaml
