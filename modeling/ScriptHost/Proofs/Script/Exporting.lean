import ScriptHost.Proofs.Number.Comparing
import ScriptHost.Proofs.Script.Prospects

/-! Copying values out of an engine. A value of a graph whose reading runs no code is copied if it
unfolds into a tree that is no deeper than allowed and has no more nodes than are left; the copy is that
tree, and anything else is refused with a range error. -/

namespace ScriptHost.Script.Host

variable {α β : Type} {m : Host α} {f : α → Host β} {s u : Session} {a : α} {h : Heap}
  {retained : Retained} {r : Ref} {k : Key} {v : Value}

/-! ### Reading what an object has inside -/

theorem after_get_settled (holds : s.Holds h retained) (settled : h.settled? r k = some v) :
    after (demand (Comp.get r k)) s = (.ok v, s.left s.heap) := by
  rw [← holds.settled?] at settled
  exact after_demand (.get settled) (by decide)

theorem after_textOf_name (holds : s.Holds h retained) (settled : h.settled? r "name" = some v) :
    ∃ name, after (textOf r "name" false) s = (.ok name, s.left s.heap) ∧
      name.filter (· != "") = v.name? := by
  rw [← holds.settled?] at settled
  have read : after (value (Comp.get r "name")) s = (.ok (.ok v), s.left s.heap) :=
    after_value (.get settled) (by decide)
  unfold textOf
  rw [after_bind_ok read]
  cases v with
  | string text =>
    cases text with
    | text t =>
      refine ⟨some t, rfl, ?_⟩
      by_cases empty : t = "" <;> simp [Value.name?, empty]
    | units u => exact ⟨none, rfl, rfl⟩
  | _ => exact ⟨none, rfl, rfl⟩

/-- What is known of an object with a layout. -/
theorem known_of_layout? {l : Layout} (known : h.layout? r = some l) :
    match l with
    | .items values => shape h r = .array ∧ ∃ items length fixed,
        h.kind r = .array items length fixed ∧ length < sizeBound ∧
        (List.range length).mapM (fun i => h.settled? r (.ofNat i)) = some values
    | .fields values => shape h r = .object ∧ h.kind r = .ordinary ∧
        (h.object r).props.size < sizeBound ∧ (h.listed r).mapM (fun k : Key => do
          return (← k.string?, ← h.settled? r k)) = some values
    | .function name => shape h r = .function ∧ ∃ v, h.settled? r "name" = some v ∧
        v.name? = name := by
  have counts : shape h r = if Comp.isArrayRef h (h.objects.size + 1) r then .array
      else if h.isCallable r then .function
      else if isErrorObject h r then .error
      else .object := rfl
  unfold Heap.isCallable isErrorObject at counts
  rw [Comp.isArrayRef] at counts
  unfold Heap.layout? at known
  split at known <;> rename_i kind
  · rw [kind] at counts
    split at known
    · rename_i small
      obtain ⟨values, all, rfl⟩ := Option.map_eq_some_iff.mp known
      exact ⟨counts, _, _, _, kind, small, all⟩
    · cases known
  · rw [kind] at counts
    obtain ⟨v, name, rfl⟩ := Option.map_eq_some_iff.mp known
    exact ⟨counts, v, name, rfl⟩
  · rw [kind] at counts
    obtain ⟨v, name, rfl⟩ := Option.map_eq_some_iff.mp known
    exact ⟨counts, v, name, rfl⟩
  · rw [kind] at counts
    obtain ⟨v, name, rfl⟩ := Option.map_eq_some_iff.mp known
    exact ⟨counts, v, name, rfl⟩
  · rw [kind] at counts
    split at known
    · rename_i small
      obtain ⟨values, all, rfl⟩ := Option.map_eq_some_iff.mp known
      exact ⟨counts, kind, small, all⟩
    · cases known
  · cases known

theorem shape_holds (holds : s.Holds h retained) {l : Layout} (known : h.layout? r = some l) :
    shape s.heap r = shape h r := by
  have mine := known_of_layout? ((holds.layout? r).trans known)
  have other := known_of_layout? known
  cases l <;> exact mine.1.trans other.1.symm

theorem settled?_length {items : Array Value} {length : Nat} {fixed : Bool}
    (kind : h.kind r = .array items length fixed) :
    h.settled? r "length" = some (.nat length) := by
  have key : Key.ofString "length" = .name (.text "length") := by decide
  have own : h.ownProperty r (.name (.text "length")) =
      some ⟨.data (.nat length) !fixed, false, false⟩ := by
    unfold Heap.ownProperty
    dsimp only
    rw [show (h.object r).kind = .array items length fixed from kind]
    rfl
  have unset : Comp.unsetName h r (.name (.text "length")) = false := by
    unfold Comp.unsetName
    rw [kind]
  have proxy : h.isProxy r = false := by
    unfold Heap.isProxy
    rw [kind]
  have found : h.lookup r (.name (.text "length")) =
      .property ⟨.data (.nat length) !fixed, false, false⟩ := by
    unfold Heap.lookup Heap.search
    rw [proxy, own]
    rfl
  unfold Heap.settled?
  rw [key, unset, found]
  rfl

theorem after_exportLength (holds : s.Holds h retained) (few : s.nodesLeft < UInt64.size)
    {values : List Value} (known : h.layout? r = some (.items values)) :
    after (exportLength r) s = (.ok values.length, s.left s.heap) ∨
      s.nodesLeft < values.length ∧ Refused (exportLength r) s := by
  obtain ⟨-, items, length, fixed, kind, small, all⟩ := known_of_layout? known
  have size : values.length = length := by rw [length_of_mapM all, List.length_range]
  have read := after_get_settled holds (settled?_length kind)
  have bounds : sizeBound = 2 ^ 32 := rfl
  have short : length.log2 ≤ 52 := by
    rcases Nat.eq_zero_or_pos length with rfl | some
    · decide
    · exact Nat.le_of_lt_succ ((Nat.log2_lt some.ne').mpr (by omega))
  have wide : s.nodesLeft.log2 < 1000 := by
    rcases Nat.eq_zero_or_pos s.nodesLeft with none | some
    · rw [none]
      decide
    · have bound : s.nodesLeft.log2 < 64 := (Nat.log2_lt some.ne').mpr few
      omega
  have finite : (Double.ofNat length).isFinite := Double.isFinite_ofRatio (by omega) false
  have whole : (Double.ofNat length).truncate.toNat = length := by
    rw [Double.truncate_ofNat (by omega)]
    rfl
  have unfolded : after (exportLength r) s = after (do
      if (Double.ofNat s.nodesLeft).toFloat < (Double.ofNat length).toFloat then
        rangeError ("array of length " ++ Datum.displayLayout.render (Double.ofNat length)
          ++ " has too many values to copy out of the engine")
      return if (Double.ofNat length).isFinite then (Double.ofNat length).truncate.toNat else 0)
      (s.left s.heap) := by
    unfold exportLength
    rw [after_bind_ok read]
    dsimp only [Value.nat]
    rw [after_bind, after_get]
    dsimp only
    rw [show (s.left s.heap).nodesLeft = s.nodesLeft from rfl]
  rw [finite, if_pos rfl, whole, ← size] at unfolded
  by_cases above : (Double.ofNat s.nodesLeft).toFloat < (Double.ofNat length).toFloat
  · refine .inr ⟨?_, ?_⟩
    · by_contra more
      exact Double.not_lt_ofNat short wide (by omega) above
    · rw [size, if_pos above] at unfolded
      exact ⟨_, _, unfolded⟩
  · rw [size, if_neg above] at unfolded
    exact .inl (size ▸ unfolded)

theorem length_ownKeys_le (ordinary : h.kind r = .ordinary) :
    (h.ownKeys r).length ≤ 3 * (h.object r).props.size := by
  have kind : (h.object r).kind = .ordinary := ordinary
  unfold Heap.ownKeys
  dsimp only
  rw [kind]
  simp only [List.nil_append, List.append_nil, List.length_append, List.length_map,
    List.length_mergeSort]
  refine (Nat.add_le_add (Nat.add_le_add (List.length_filterMap_le _ _) (List.length_filter_le _ _))
    (List.length_filter_le _ _)).trans ?_
  rw [List.length_map, Array.length_toList]
  omega

theorem after_exportKeys (holds : s.Holds h retained) {values : List (String × Value)}
    (known : h.layout? r = some (.fields values)) :
    after (exportKeys r) s = (.ok (h.listed r), s.left s.heap) := by
  obtain ⟨-, kind, few, -⟩ := known_of_layout? ((holds.layout? r).trans known)
  have proxy : s.heap.isProxy r = false := by
    unfold Heap.isProxy
    rw [kind]
  have set (k : Key) : Comp.unsetName s.heap r k = false := by
    unfold Comp.unsetName
    rw [kind]
  have short : ((s.heap.ownKeys r).filter Key.isText).length + 1 < stepBound := by
    have most := (List.length_filter_le Key.isText _).trans (length_ownKeys_le kind)
    have bound : 3 * sizeBound + 1 < stepBound := by decide
    omega
  have ran : after (exec (Comp.enumerableKeys r fun ks => .done (.keys ks))) s =
      (.ok (.ok (.keys (s.heap.listed r))), s.left s.heap) :=
    after_exec (.enumerableKeys proxy set) rfl short
  unfold exportKeys
  rw [after_bind_ok ran, ← holds.listed]
  rfl

/-! ### Copying -/

/-- What is to come of copying a value: its tree, at the price of its nodes. -/
def prospect (retained : Retained) (tree? : Option Tree) : Prospect Datum :=
  tree?.map fun t => ((t.handOver retained).1, (t.handOver retained).2, t.nodes)

/-- Copying the value gives its tree, if it has one that can be paid, and is refused otherwise. -/
def Copies (h : Heap) (copy : Value → Host Datum) (tree? : Value → Option Tree) (v : Value) : Prop :=
  ∀ s retained, s.Holds h retained → s.nodesLeft < UInt64.size →
    Meets h (copy v) s (prospect retained (tree? v))

section

variable {copy : Value → Host Datum} {tree? : Value → Option Tree}

theorem copyItems_meets {values : List Value} (each : ∀ v ∈ values, Copies h copy tree? v)
    {index : Nat} (found : List Datum)
    (read : (List.range' index values.length).mapM (fun i => h.settled? r (.ofNat i)) = some values)
    (holds : s.Holds h retained) (few : s.nodesLeft < UInt64.size) :
    Meets h (copyItems copy r values.length index found) s ((values.mapM tree?).map fun ts =>
      (found.reverse ++ (Tree.handOverItems retained ts).1, (Tree.handOverItems retained ts).2,
        Tree.nodesOfItems ts)) := by
  induction values generalizing index found s retained with
  | nil =>
    have ends := Meets.pure holds found.reverse
    simpa [Tree.handOverItems, Tree.nodesOfItems, copyItems] using ends
  | cons v rest ih =>
    rw [List.length_cons, List.range'_succ, List.mapM_cons] at read
    obtain ⟨w, settled, others⟩ := Option.bind_eq_some_iff.mp read
    obtain ⟨values, reads, ends⟩ := Option.bind_eq_some_iff.mp others
    obtain ⟨rfl, rfl⟩ := List.cons.inj (Option.some.inj ends)
    have untouched : (s.left s.heap).nodesLeft = s.nodesLeft := rfl
    have first := each w List.mem_cons_self (s.left s.heap) retained holds.left few
    rw [List.length_cons, copyItems]
    -- The rest is copied from where this item leaves the session: the graph is what it was, and no
    -- more nodes are left.
    refine .free (after_get_settled holds settled) untouched ?_
    refine .cast ?_ (first.bind _ fun item kept cost u _ holds paid =>
      ih (fun v member => each v (List.mem_cons_of_mem _ member)) (item :: found) reads holds
        (by omega))
    rw [List.mapM_cons]
    cases tree? w with
    | none => rfl
    | some t => cases values.mapM tree? <;> simp [prospect, Tree.handOverItems, Tree.nodesOfItems]

theorem after_exportKey {name : String} (text : k.string? = some name)
    (clean : '\x00' ∉ name.toList) (s : Session) : after (exportKey k) s = (.ok name, s) := by
  have whole : name.toList.takeWhile (· != '\x00') = name.toList := by
    rw [List.takeWhile_eq_self_iff]
    intro c member
    have other : c ≠ '\x00' := fun same => clean (same ▸ member)
    simpa using other
  have known : k.text? = some (.text name) := by
    unfold Key.string? at text
    split at text
    · rename_i known
      rw [known, Option.some.inj text]
    · cases text
  have read : after (exportText (k.text?.getD {})) s = (.ok name, s) := by
    rw [known]
    rfl
  unfold exportKey
  rw [after_bind_ok read, whole, String.ofList_toList]
  rfl

theorem copyFields_meets {keys : List Key} {values : List (String × Value)}
    (each : ∀ field ∈ values, Copies h copy tree? field.2)
    (clean : ∀ name ∈ values.map (·.1), '\x00' ∉ name.toList) (found : List (String × Datum))
    (read : keys.mapM (fun k => do return (← k.string?, ← h.settled? r k)) = some values)
    (holds : s.Holds h retained) (few : s.nodesLeft < UInt64.size) :
    Meets h (copyFields copy r keys found) s
      ((values.mapM fun field => (tree? field.2).map (field.1, ·)).map fun ts =>
        (found.reverse ++ (Tree.handOverFields retained ts).1, (Tree.handOverFields retained ts).2,
          Tree.nodesOfFields ts)) := by
  induction keys generalizing values found s retained with
  | nil =>
    obtain rfl := Option.some.inj read
    have ends := Meets.pure holds found.reverse
    simpa [Tree.handOverFields, Tree.nodesOfFields, copyFields] using ends
  | cons k rest ih =>
    rw [List.mapM_cons] at read
    obtain ⟨field, one, others⟩ := Option.bind_eq_some_iff.mp read
    obtain ⟨more, reads, ends⟩ := Option.bind_eq_some_iff.mp others
    obtain rfl := Option.some.inj ends
    obtain ⟨name, text, valued⟩ := Option.bind_eq_some_iff.mp one
    obtain ⟨v, settled, ends⟩ := Option.bind_eq_some_iff.mp valued
    obtain rfl := Option.some.inj ends
    have untouched : (s.left s.heap).nodesLeft = s.nodesLeft := rfl
    have first := each (name, v) List.mem_cons_self (s.left s.heap) retained holds.left few
    rw [copyFields]
    refine .free (after_exportKey text (clean _ List.mem_cons_self) s) rfl ?_
    refine .free (after_get_settled holds settled) untouched ?_
    refine .cast ?_ (first.bind _ fun item kept cost u _ holds paid =>
      ih (fun v member => each v (List.mem_cons_of_mem _ member))
        (fun v member => clean v (List.mem_cons_of_mem _ member)) ((name, item) :: found) reads holds
        (by omega))
    rw [List.mapM_cons]
    dsimp only
    cases tree? v with
    | none => rfl
    | some t =>
      cases more.mapM fun field => (tree? field.2).map (field.1, ·) <;>
        simp [prospect, Tree.handOverFields, Tree.nodesOfFields]

end

/-- One of the values that are left is taken, if there is one. -/
theorem takeNode_meets (holds : s.Holds h retained) :
    Meets h takeNode s (some ((), retained, 1)) := by
  unfold Meets
  dsimp only
  by_cases none : s.nodesLeft = 0
  · rw [if_neg (by omega)]
    unfold takeNode
    refine .later (after_get s) ?_
    rw [if_pos none]
    exact .first (.rangeError _ _) _
  · rw [if_pos (by omega)]
    refine ⟨{ s with nodesLeft := s.nodesLeft - 1 }, ?_, holds, Nat.sub_add_cancel (by omega)⟩
    unfold takeNode
    rw [after_bind_ok (after_get s), if_neg none]
    rfl

theorem copyOut_bare {d : Datum} (bare : v.leaf? = some d) (levels : Nat) :
    copyOut (levels + 1) v = takeNode >>= fun _ => pure d := by
  cases v with
  | string text =>
    cases text with
    | text t =>
      obtain rfl := Option.some.inj bare
      rfl
    | units u => cases bare
  | object r => cases bare
  | _ =>
    obtain rfl := Option.some.inj bare
    rfl

theorem after_retain (holds : s.Holds h retained) (r : Ref) :
    ∃ u, after (retain r) s = (.ok (retained.last + 1), u) ∧
      u.Holds h ⟨retained.last + 1, (retained.last + 1, r) :: retained.functions⟩ ∧
      u.nodesLeft = s.nodesLeft := by
  have kept := holds.retained_eq
  obtain ⟨activations, depth, same⟩ := holds
  refine ⟨{ s with heap := { s.heap with
    retained := ⟨retained.last + 1, (retained.last + 1, r) :: retained.functions⟩ } }, ?_,
    ⟨activations, depth, ?_⟩, rfl⟩
  · rw [← kept]
    rfl
  · rw [same]
    rfl

/-- Copying an object, once its node is paid. -/
def copyObject (levels : Nat) (r : Ref) : Host Datum := do
  match ← look (shape · r) with
  | .array =>
    let n ← exportLength r
    return .array (← copyItems (copyOut levels) r n 0 [])
  | .function =>
    let name := (← textOf r "name" false).filter (· != "")
    return .function ⟨UInt64.ofNat (← retain r), name⟩
  | .object =>
    let fields ← copyFields (copyOut levels) r (← exportKeys r) []
    return .object (Fields.ofList fields)
  | .error =>
    let fields ← copyFields (copyOut levels) r (← exportKeys r) []
    return .object (← addTexts r ["name", "message", "stack"] (Fields.ofList fields))

theorem copyOut_object (levels : Nat) (r : Ref) :
    copyOut (levels + 1) (.object r) = takeNode >>= fun _ => copyObject levels r := rfl

/-- What is to come once the node of the root is paid. -/
def prospectInside (retained : Retained) (tree? : Option Tree) : Prospect Datum :=
  tree?.map fun t => ((t.handOver retained).1, (t.handOver retained).2, t.nodes - 1)

theorem copyObject_meets {levels : Nat} {l : Layout} (known : h.layout? r = some l)
    (inside : ∀ w ∈ l.values, Copies h (copyOut levels) (h.treeOf? levels) w)
    (clean : ∀ name ∈ l.names, '\x00' ∉ name.toList)
    (holds : s.Holds h retained) (few : s.nodesLeft < UInt64.size) :
    Meets h (copyObject levels r) s (prospectInside retained (h.treeOf? (levels + 1) (.object r))) := by
  have counted := known_of_layout? known
  have looked : after (look (shape · r)) s = (.ok (shape h r), s) := by
    rw [after_look, shape_holds holds known]
  unfold copyObject Heap.treeOf?
  refine .free looked rfl ?_
  rw [known]
  have untouched : (s.left s.heap).nodesLeft = s.nodesLeft := rfl
  cases l with
  | items values =>
    obtain ⟨shape, items, length, fixed, -, -, read⟩ := counted
    have size := length_of_mapM read
    rw [List.length_range] at size
    rw [List.range_eq_range', ← size] at read
    rw [shape]
    rcases after_exportLength holds few known with ran | ⟨dear, refused⟩
    · have each : ∀ w ∈ values, Copies h (copyOut levels) (h.treeOf? levels) w := inside
      refine .free ran untouched (.cast ?_ (copyItems_meets each [] read holds.left few).map)
      simp only [prospectInside, Option.map_map]
      congr 1
      funext ts
      simp [Tree.handOver, Tree.nodes]
    -- Refused for its length alone, before an item is read; so many items could not be paid either.
    · refine .of_refused (refused.first _) fun d kept cost same => ?_
      obtain ⟨t, whole, same⟩ := Option.map_eq_some_iff.mp same
      obtain ⟨ts, all, rfl⟩ := Option.map_eq_some_iff.mp whole
      have most := Tree.length_le_nodesOfItems ts
      rw [length_of_mapM all] at most
      simp only [Tree.nodes, Prod.mk.injEq] at same
      omega
  | fields values =>
    obtain ⟨shape, -, -, read⟩ := counted
    rw [shape]
    refine .free (after_exportKeys holds known) untouched (.cast ?_
      (copyFields_meets (fun field member => inside _ (List.mem_map_of_mem member))
        clean [] read holds.left few).map)
    simp only [prospectInside, Option.map_map]
    congr 1
    funext ts
    simp [Tree.handOver, Tree.nodes]
  | function name =>
    obtain ⟨shape, v, settled, named⟩ := counted
    rw [shape]
    obtain ⟨text, read, told⟩ := after_textOf_name holds settled
    obtain ⟨u, keeping, kept, paid⟩ := after_retain holds.left r
    refine .free read untouched (.free keeping paid ?_)
    rw [told, named]
    exact .pure kept _

theorem copyOut_copies {levels : Nat} (plain : h.Plain v) (clean : h.NulFree v) :
    Copies h (copyOut levels) (h.treeOf? levels) v := by
  -- By the levels that are left: in a cyclic graph nothing else becomes less.
  induction levels generalizing v with
  | zero =>
    intro s retained holds few
    exact Refused.rangeError _ s
  | succ levels ih =>
    intro s retained holds few
    have paid (next : Host Datum) (tree? : Option Tree)
        (meets : ∀ u, u.Holds h retained → u.nodesLeft < UInt64.size →
          Meets h next u (prospectInside retained tree?)) :
        Meets h (takeNode >>= fun _ => next) s (prospect retained tree?) := by
      refine .cast ?_ ((takeNode_meets holds).bind (fun _ _ => prospectInside retained tree?)
        fun _ kept cost u same held cheap => ?_)
      · cases tree? with
        | none => rfl
        | some t =>
          have some := t.nodes_pos
          simp [prospect, prospectInside]
          omega
      · simp only [Option.some.injEq, Prod.mk.injEq] at same
        obtain ⟨-, rfl, rfl⟩ := same
        exact meets u held (by omega)
    have sound := plain v .refl
    cases v with
    | object r =>
      obtain ⟨l, known⟩ := Option.isSome_iff_exists.mp (sound.resolve_left (by simp [Value.leaf?]))
      have leads {w : Value} (member : w ∈ l.values) : h.Leads (.object r) w := ⟨l, known, member⟩
      rw [copyOut_object]
      refine paid _ _ fun u holds few => copyObject_meets known (fun w member => ?_)
        (clean _ .refl l known) holds few
      exact ih (fun x way => plain x (.head (leads member) way))
        (fun x way => clean x (.head (leads member) way))
    | _ =>
      obtain ⟨d, bare⟩ := Option.isSome_iff_exists.mp (sound.resolve_right nofun)
      rw [copyOut_bare bare, Heap.treeOf?_bare bare]
      exact paid _ _ fun u holds few => .pure holds d

/-- The value unfolds into the tree, and that is not too deep and not too large to be copied. -/
structure Fits (limits : EngineLimits) (h : Heap) (v : Value) (t : Tree) : Prop where
  unfolds : h.Unfolds v t
  shallow : t.depth ≤ maxDepth
  few : t.nodes ≤ limits.allowance

section

variable {limits : EngineLimits} (full : s.nodesLeft = limits.allowance) (plain : s.heap.Plain v)
  (clean : s.heap.NulFree v)

include full plain clean

theorem exportValue_meets : Meets s.heap (exportValue v) s
    (prospect s.heap.retained (s.heap.treeOf? (maxDepth + 1) v)) :=
  copyOut_copies plain clean s s.heap.retained (.self s) (full ▸ limits.allowance_lt)

/-- A value that fits is copied as its tree. -/
theorem exportValue_fits {t : Tree} (fits : Fits limits s.heap v t) : ∃ u,
    after (exportValue v) s = (.ok (t.handOver s.heap.retained).1, u) ∧
      u.Holds s.heap (t.handOver s.heap.retained).2 := by
  obtain ⟨unfolds, shallow, few⟩ := fits
  have meets := exportValue_meets full plain clean
  rw [Heap.treeOf?_eq_some_iff.mpr ⟨unfolds, Nat.lt_succ_of_le shallow⟩] at meets
  unfold Meets prospect at meets
  dsimp only [Option.map_some] at meets
  rw [if_pos (full ▸ few)] at meets
  obtain ⟨u, ran, holds, -⟩ := meets
  exact ⟨u, ran, holds⟩

end

/-- A value whose reading runs no code is copied exactly if it unfolds into a tree that fits, and the copy
is that tree. -/
theorem exportValue_exact {limits : EngineLimits} (full : s.nodesLeft = limits.allowance)
    (plain : s.heap.Plain v) (clean : s.heap.NulFree v) :
    (∀ t, Fits limits s.heap v t → ∃ u,
      after (exportValue v) s = (.ok (t.handOver s.heap.retained).1, u) ∧
        u.Holds s.heap (t.handOver s.heap.retained).2) ∧
    ((¬ ∃ t, Fits limits s.heap v t) → Refused (exportValue v) s) := by
  refine ⟨fun t fits => exportValue_fits full plain clean fits, fun unfit => ?_⟩
  have meets := exportValue_meets full plain clean
  cases found : s.heap.treeOf? (maxDepth + 1) v with
  | none =>
    rw [found] at meets
    exact meets
  | some t =>
    obtain ⟨unfolds, low⟩ := Heap.treeOf?_eq_some_iff.mp found
    rw [found] at meets
    unfold Meets prospect at meets
    dsimp only [Option.map_some] at meets
    rw [if_neg fun few => unfit ⟨t, unfolds, Nat.le_of_lt_succ low, full ▸ few⟩] at meets
    exact meets

/-- An array with two holes and, twice, an object with a function and a text. -/
def shared : Session where
  heap := { Realm.bare with
    objects := Realm.bare.objects ++ #[
      { kind := .array #[.object (Intrinsic.count + 1), .object (Intrinsic.count + 1)] 4 false
        proto := some Intrinsic.arrayPrototype.ref },
      { kind := .ordinary, proto := some Intrinsic.objectPrototype.ref
        props := #[("f", .plain (.object Intrinsic.arrayValues.ref)), ("b", .plain (.text "x"))] }] }
  coroutines := #[]
  nodesLeft := 9

def sharedGraph : List Value :=
  [.object Intrinsic.count, .object (Intrinsic.count + 1), .object Intrinsic.arrayValues.ref,
    .text "x", .undefined]

def sharedTree : Tree :=
  let twice := Tree.object [("f", .function Intrinsic.arrayValues.ref none), ("b", .leaf (.string "x"))]
  .array [twice, twice, .leaf .undefined, .leaf .undefined]

theorem sharedTree_unfolds : shared.heap.Unfolds (.object Intrinsic.count) sharedTree := by
  have list : shared.heap.layout? Intrinsic.count = some (.items
      [.object (Intrinsic.count + 1), .object (Intrinsic.count + 1), .undefined, .undefined]) := by
    decide +kernel
  have plain : shared.heap.layout? (Intrinsic.count + 1) = some (.fields
      [("f", .object Intrinsic.arrayValues.ref), ("b", .text "x")]) := by decide +kernel
  have function : shared.heap.layout? Intrinsic.arrayValues.ref = some (.function none) := by
    decide +kernel
  have twice := Heap.Unfolds.object plain
    (.cons (.function function) (.cons (t := .leaf (.string "x")) (.leaf rfl) .nil))
  exact .array list (.cons twice (.cons twice (.cons (.leaf rfl) (.cons (.leaf rfl) .nil))))

/-- What is shared is copied twice, and each of the two functions has an id of its own. -/
theorem exportValue_exact_shared :
    Fits { nodes := 9 } shared.heap (.object Intrinsic.count) sharedTree ∧
    ∃ u, after (exportValue (.object Intrinsic.count)) shared =
        (.ok (sharedTree.handOver shared.heap.retained).1, u) ∧
      u.Holds shared.heap (sharedTree.handOver shared.heap.retained).2 := by
  have closed : shared.heap.Closed sharedGraph := by decide +kernel
  have member : Value.object Intrinsic.count ∈ sharedGraph := List.mem_cons_self
  have fits : Fits { nodes := 9 } shared.heap (.object Intrinsic.count) sharedTree :=
    ⟨sharedTree_unfolds, by decide +kernel, by decide +kernel⟩
  exact ⟨fits, (exportValue_exact (by decide +kernel) (closed.plain member)
    (closed.nulFree member (by decide +kernel))).1 _ fits⟩

/-- An object with a NUL in the name of its property. -/
def severed : Session where
  heap := (Realm.bare.allocate {
    kind := .ordinary, proto := some Intrinsic.objectPrototype.ref
    props := #[(.name (.text "a\x00b"), .plain .null)] }).2
  coroutines := #[]
  nodesLeft := 9

/-- The names of the fields of a result. -/
def names : Except EngineError Datum → List String
  | .ok (.object fields) => fields.map (·.1)
  | _ => []

/-- A name is cut at a NUL, so the copy is not the tree. -/
theorem name_cut_at_nul : severed.heap.Plain (.object Intrinsic.count) ∧
    Fits { nodes := 9 } severed.heap (.object Intrinsic.count) (.object [("a\x00b", .leaf .null)]) ∧
    names (after (exportValue (.object Intrinsic.count)) severed).1 = ["a"] ∧
    (after (exportValue (.object Intrinsic.count)) severed).1 ≠
      .ok ((Tree.object [("a\x00b", .leaf .null)]).handOver severed.heap.retained).1 := by
  have cut : names (after (exportValue (.object Intrinsic.count)) severed).1 = ["a"] := by
    decide +kernel
  have closed : severed.heap.Closed [.object Intrinsic.count, .null] := by decide +kernel
  have plain : severed.heap.layout? Intrinsic.count = some (.fields [("a\x00b", .null)]) := by
    decide +kernel
  refine ⟨closed.plain List.mem_cons_self, ⟨?_, by decide +kernel, by decide +kernel⟩, cut,
    fun same => ?_⟩
  · exact .object plain (.cons (.leaf rfl) .nil)
  · rw [same] at cut
    revert cut
    decide +kernel

end ScriptHost.Script.Host
