import ScriptHost.Proofs.Script.Calling
import ScriptHost.Proofs.Script.Flaws
import ScriptHost.Proofs.Script.Prospects
import ScriptHost.Proofs.Wire.Writing

/-! Copying data into an engine. Each array and each object inside of a datum becomes an object of the
engine that is new and is filled before anything else is done with it. So while one is filled, what was
made before stays as it is, and in the end the heap holds a copy of the whole datum; what that takes of
the memory is known beforehand. At the first flaw of the datum the copying ends, and what has been made
by then is out of reach: to all that was there before, nothing has happened. -/

namespace ScriptHost

namespace Datum

mutual

/-- The memory that a copy of the datum takes: there is a price for each array and each object, and for
each item and each field. -/
def room : Datum → Nat
  | .array items => 64 + roomOfItems items
  | .object fields => 64 + roomOfFields fields
  | _ => 0

def roomOfItems : List Datum → Nat
  | [] => 0
  | item :: rest => item.room + (32 + roomOfItems rest)

def roomOfFields : List (String × Datum) → Nat
  | [] => 0
  | (_, item) :: rest => item.room + (32 + roomOfFields rest)

end

/-- The memory that copies of all these data take. -/
def roomOfAll (ds : List Datum) : Nat := (ds.map room).sum

mutual

/-- The names of all fields, at whatever depth. -/
def names : Datum → List String
  | .array items => namesOfItems items
  | .object fields => namesOfFields fields
  | _ => []

def namesOfItems : List Datum → List String
  | [] => []
  | item :: rest => item.names ++ namesOfItems rest

def namesOfFields : List (String × Datum) → List String
  | [] => []
  | (name, item) :: rest => name :: (item.names ++ namesOfFields rest)

end

mutual

/-- No array in the datum has more items than arrays of engines can have. -/
def Short : Datum → Prop
  | .array items => items.length < Script.sizeBound ∧ ShortItems items
  | .object fields => ShortFields fields
  | _ => True

def ShortItems : List Datum → Prop
  | [] => True
  | item :: rest => item.Short ∧ ShortItems rest

def ShortFields : List (String × Datum) → Prop
  | [] => True
  | (_, item) :: rest => item.Short ∧ ShortFields rest

end

/-- The datum is as data are made everywhere, its arrays are not longer than those of engines, and no field
has the name that engines keep for prototypes. -/
structure Usual (d : Datum) : Prop where
  ordered : d.Ordered
  short : d.Short
  unnamed : "__proto__" ∉ d.names

/-- The value that a datum without anything inside becomes. -/
def value? : Datum → Option Script.Value
  | .undefined => some .undefined
  | .null => some .null
  | .bool b => some (.bool b)
  | .int i => some (.number (Double.ofInt i.toInt))
  | .float d => some (.number d)
  | .bigInt digits => some (.bigInt (Script.decimalValue digits))
  | .string s => some (.string (.text s))
  | .array _ | .object _ | .function _ => none

mutual

/-- Nothing in the datum means something to an engine that it does not mean outside: there are no
functions, big integers are written in decimal digits, and no field has the name that engines keep for
prototypes. Arrays and objects are not larger than engines have them, and where there is a big integer,
the one call that makes it is possible. -/
def Portable (calls : Nat) : Datum → Prop
  | .bigInt digits => Script.Host.isDecimal digits ∧ 0 < calls
  | .array items => items.length < Script.sizeBound ∧ PortableItems calls items
  | .object fields => fields.length < Script.sizeBound ∧ PortableFields calls fields
  | .function _ => False
  | _ => True

def PortableItems (calls : Nat) : List Datum → Prop
  | [] => True
  | item :: rest => item.Portable calls ∧ PortableItems calls rest

def PortableFields (calls : Nat) : List (String × Datum) → Prop
  | [] => True
  | (name, item) :: rest => name ≠ "__proto__" ∧ item.Portable calls ∧ PortableFields calls rest

end

mutual

/-- What means nothing special to an engine is copied there without a flaw, as far as it is not too deep:
for this there are no functions, and no name for prototypes. -/
theorem Portable.plain {calls : Nat} (d : Datum) (portable : d.Portable calls) :
    d.Short ∧ "__proto__" ∉ d.names ∧ d.handles = [] ∧
      ∀ text ∈ d.bigInts, Script.Host.isDecimal text ∧ 0 < calls := by
  cases d with
  | bigInt text =>
    simp only [Portable] at portable
    simpa [Short, names, handles, bigInts] using portable
  | array items =>
    obtain ⟨short, portable⟩ := portable
    obtain ⟨inside, rest⟩ := PortableItems.plain items portable
    exact ⟨⟨short, inside⟩, rest⟩
  | object fields => exact PortableFields.plain fields portable.2
  | function handle => exact portable.elim
  | _ => simp [Short, names, handles, bigInts]

theorem PortableItems.plain {calls : Nat} (items : List Datum) (portable : PortableItems calls items) :
    ShortItems items ∧ "__proto__" ∉ namesOfItems items ∧ handlesOfItems items = [] ∧
      ∀ text ∈ bigIntsOfItems items, Script.Host.isDecimal text ∧ 0 < calls := by
  cases items with
  | nil => simp [ShortItems, namesOfItems, handlesOfItems, bigIntsOfItems]
  | cons item rest =>
    obtain ⟨short, usual, bare, decimal⟩ := Portable.plain item portable.1
    obtain ⟨shorts, usuals, bares, decimals⟩ := PortableItems.plain rest portable.2
    refine ⟨⟨short, shorts⟩, ?_, ?_, List.forall_mem_append.mpr ⟨decimal, decimals⟩⟩
    · simp [namesOfItems, usual, usuals]
    · simp [handlesOfItems, bare, bares]

theorem PortableFields.plain {calls : Nat} (fields : List (String × Datum))
    (portable : PortableFields calls fields) :
    ShortFields fields ∧ "__proto__" ∉ namesOfFields fields ∧ handlesOfFields fields = [] ∧
      ∀ text ∈ bigIntsOfFields fields, Script.Host.isDecimal text ∧ 0 < calls := by
  match fields with
  | [] => simp [ShortFields, namesOfFields, handlesOfFields, bigIntsOfFields]
  | (name, item) :: rest =>
    obtain ⟨other, portable, portables⟩ := portable
    obtain ⟨short, usual, bare, decimal⟩ := Portable.plain item portable
    obtain ⟨shorts, usuals, bares, decimals⟩ := PortableFields.plain rest portables
    refine ⟨⟨short, shorts⟩, ?_, ?_, List.forall_mem_append.mpr ⟨decimal, decimals⟩⟩
    · simp [namesOfFields, usual, usuals, Ne.symm other]
    · simp [handlesOfFields, bare, bares]

end

end Datum

namespace Script

/-- The function that is kept under an id. -/
def Heap.kept? (h : Heap) (id : UInt64) : Option Ref := h.retained.functions.lookup id.toNat

theorem Heap.Grows.kept?_eq {h h' : Heap} {changed : List Ref} {n : Nat} (grows : h.Grows changed n h') :
    h'.kept? = h.kept? := by
  unfold kept?
  rw [grows.rest]

/-! ### Copies inside of an engine -/

mutual

/-- The value is a copy of the datum that shares nothing with the objects before `low` but the functions
that are kept. -/
inductive Heap.Represents (h : Heap) (low : Ref) : Datum → Value → Prop where
  | leaf {d : Datum} {v : Value} (bare : d.value? = some v) : Represents h low d v
  | array {items : List Datum} {values : List Value} {r : Ref} (above : low ≤ r)
    (known : h.objects[r]? = some (.arrayOf values)) (each : RepresentsItems h low items values) :
    Represents h low (.array items) (.object r)
  | object {fields : List (String × Datum)} {values : List (String × Value)} {r : Ref}
    (above : low ≤ r) (known : h.objects[r]? = some (.recordOf values))
    (each : RepresentsFields h low fields values) : Represents h low (.object fields) (.object r)
  | function {handle : FunctionHandle} {f : Ref} (known : h.kept? handle.id = some f) :
    Represents h low (.function handle) (.object f)

inductive Heap.RepresentsItems (h : Heap) (low : Ref) : List Datum → List Value → Prop where
  | nil : RepresentsItems h low [] []
  | cons {d : Datum} {v : Value} {items : List Datum} {values : List Value}
    (first : Represents h low d v) (rest : RepresentsItems h low items values) :
    RepresentsItems h low (d :: items) (v :: values)

inductive Heap.RepresentsFields (h : Heap) (low : Ref) :
    List (String × Datum) → List (String × Value) → Prop where
  | nil : RepresentsFields h low [] []
  | cons {name : String} {d : Datum} {v : Value} {fields : List (String × Datum)}
    {values : List (String × Value)} (first : Represents h low d v)
    (rest : RepresentsFields h low fields values) :
    RepresentsFields h low ((name, d) :: fields) ((name, v) :: values)

end

section

variable {h h' : Heap} {low low' : Ref}

mutual

/-- A copy is not touched by a change to other objects. -/
theorem Heap.Represents.kept {d : Datum} {v : Value} (copy : h.Represents low d v) (lower : low' ≤ low)
    (kept : ∀ r ≥ low, ∀ o : Object, h.objects[r]? = some o → h'.objects[r]? = some o)
    (same : h'.kept? = h.kept?) : h'.Represents low' d v :=
  match copy with
  | .leaf bare => .leaf bare
  | .array above known each =>
    .array (Nat.le_trans lower above) (kept _ above _ known) (each.kept lower kept same)
  | .object above known each =>
    .object (Nat.le_trans lower above) (kept _ above _ known) (each.kept lower kept same)
  | .function known => .function (same ▸ known)

theorem Heap.RepresentsItems.kept {items : List Datum} {values : List Value}
    (copies : h.RepresentsItems low items values) (lower : low' ≤ low)
    (kept : ∀ r ≥ low, ∀ o : Object, h.objects[r]? = some o → h'.objects[r]? = some o)
    (same : h'.kept? = h.kept?) : h'.RepresentsItems low' items values :=
  match copies with
  | .nil => .nil
  | .cons first rest => .cons (first.kept lower kept same) (rest.kept lower kept same)

theorem Heap.RepresentsFields.kept {fields : List (String × Datum)} {values : List (String × Value)}
    (copies : h.RepresentsFields low fields values) (lower : low' ≤ low)
    (kept : ∀ r ≥ low, ∀ o : Object, h.objects[r]? = some o → h'.objects[r]? = some o)
    (same : h'.kept? = h.kept?) : h'.RepresentsFields low' fields values :=
  match copies with
  | .nil => .nil
  | .cons first rest => .cons (first.kept lower kept same) (rest.kept lower kept same)

end

/-- A copy stays what it is while an object from before it changes. -/
theorem Heap.Represents.grown {d : Datum} {v : Value} {r : Ref} {n : Nat} (copy : h.Represents low d v)
    (lower : low' ≤ low) (before : r < low) (grows : h.Grows [r] n h') : h'.Represents low' d v := by
  refine copy.kept lower (fun x above o known => grows.others x ?_ o known) grows.kept?_eq
  rw [List.mem_singleton]
  exact Nat.ne_of_gt (Nat.lt_of_lt_of_le before above)

end

/-- The session with another heap, so many tasks later. -/
def Session.later (s : Session) (h : Heap) (tasks : Nat) : Session :=
  { s with heap := h, time := s.time.map (· - tasks) }

theorem Session.later_self (s : Session) : s.later s.heap 0 = s := by
  obtain ⟨heap, coroutines, time, tripped, nodesLeft⟩ := s
  simp [Session.later]

theorem Session.later_later (s : Session) (h h' : Heap) (n k : Nat) :
    (s.later h n).later h' k = s.later h' (n + k) := by
  simp [Session.later, Function.comp_def, Nat.sub_sub]

namespace Host

variable {α β : Type} {m : Host α} {f : α → Host β} {s : Session} {changed : List Ref}
  {n k tasks more : Nat} {flaw other : Option String} {holds : α → Heap → Prop}

/-! ### Actions that make the heap grow -/

/-- If there is a flaw, the action is refused for it, and otherwise it ends well, and what it gives holds
of the heap that it leaves. The heap has grown, at this price or below it; of the time so many tasks are
gone; and nothing else of the session has changed. -/
def Admits (m : Host α) (s : Session) (changed : List Ref) (cost tasks : Nat) (flaw : Option String)
    (holds : α → Heap → Prop) : Prop :=
  match flaw with
  | none => ∃ a h, after m s = (.ok a, s.later h tasks) ∧ s.heap.Grows changed cost h ∧ holds a h
  | some reason => ∃ h spent begun, after m s = (.error (.invalidArgument reason), s.later h begun) ∧
      s.heap.Grows changed spent h ∧ spent ≤ cost ∧ begun ≤ tasks

namespace Admits

/-- Something is looked up. -/
theorem found {a : α} (ran : after m s = (.ok a, s)) (done : holds a s.heap) :
    Admits m s changed 0 0 none holds := by
  refine ⟨a, s.heap, ?_, .refl _ _, done⟩
  rw [Session.later_self]
  exact ran

theorem pure (a : α) (done : holds a s.heap) : Admits (pure a) s changed 0 0 none holds :=
  .found rfl done

theorem refused {reason : String} (ran : after m s = (.error (.invalidArgument reason), s)) :
    Admits m s changed n tasks (some reason) holds := by
  refine ⟨s.heap, 0, 0, ?_, .refl _ _, Nat.zero_le _, Nat.zero_le _⟩
  rw [Session.later_self]
  exact ran

/-- What comes second is done if the first part has no flaw. -/
theorem bind {ends : β → Heap → Prop} (first : Admits m s changed n tasks flaw holds)
    (rest : ∀ a h, s.heap.Grows changed n h → holds a h →
      Admits (f a) (s.later h tasks) changed k more other ends) :
    Admits (m >>= f) s changed (n + k) (tasks + more) (flaw.or other) ends := by
  cases flaw with
  | some reason =>
    obtain ⟨h, spent, begun, ran, grows, cheap, few⟩ := first
    refine ⟨h, spent, begun, ?_, grows, by omega, by omega⟩
    rw [after_bind, ran]
  | none =>
    obtain ⟨a, h, ran, grows, held⟩ := first
    have rest := rest a h grows held
    cases other with
    | some reason =>
      obtain ⟨h', spent, begun, ended, more, cheap, few⟩ := rest
      refine ⟨h', n + spent, tasks + begun, ?_, grows.trans more, by omega, by omega⟩
      rw [after_bind_ok ran, ended, Session.later_later]
    | none =>
      obtain ⟨b, h', ended, more, done⟩ := rest
      refine ⟨b, h', ?_, grows.trans more, done⟩
      rw [after_bind_ok ran, ended, Session.later_later]

theorem mono {others : List Ref} {weaker : α → Heap → Prop}
    (admits : Admits m s changed n tasks flaw holds)
    (grows : ∀ h spent, s.heap.Grows changed spent h → s.heap.Grows others spent h)
    (follows : ∀ a h, s.heap.Grows changed n h → holds a h → weaker a h) :
    Admits m s others n tasks flaw weaker := by
  cases flaw with
  | some reason =>
    obtain ⟨h, spent, begun, ran, grown, bounds⟩ := admits
    exact ⟨h, spent, begun, ran, grows h spent grown, bounds⟩
  | none =>
    obtain ⟨a, h, ran, grown, held⟩ := admits
    exact ⟨a, h, ran, grows h n grown, follows a h grown held⟩

theorem cast (price : n = k) (duration : tasks = more) (reason : flaw = other)
    (admits : Admits m s changed n tasks flaw holds) : Admits m s changed k more other holds := by
  subst price duration reason
  exact admits

end Admits

/-- The engine stands still and can take copies of this size: the built-in objects are those of `base`,
the memory suffices, and where big integers are to be made, so many calls are possible. -/
structure Ready (base : Heap) (s : Session) (room tasks : Nat) : Prop where
  still : s.heap.activations = [] ∧ s.heap.depth = 0
  standard : base.Standard
  kept : base.Kept s.heap
  affords : s.heap.Affords room
  callable : 0 < tasks → 0 < s.heap.quota.calls
  timely : ∀ left ∈ s.time, tasks ≤ left

namespace Ready

variable {base h : Heap} {r : Ref}

theorem mono (ready : Ready base s n tasks) (cheap : k ≤ n) (few : more ≤ tasks) :
    Ready base s k more where
  still := ready.still
  standard := ready.standard
  kept := ready.kept
  affords := ready.affords.mono cheap
  callable some := ready.callable (Nat.lt_of_lt_of_le some few)
  timely left limited := Nat.le_trans few (ready.timely left limited)

theorem grown (ready : Ready base s (n + k) (tasks + more)) (grows : s.heap.Grows changed n h)
    (new : ∀ r ∈ changed, base.objects.size ≤ r) : Ready base (s.later h tasks) k more where
  still := by
    show h.activations = [] ∧ h.depth = 0
    rw [grows.rest]
    exact ready.still
  standard := ready.standard
  kept r o known := by
    have old : r < base.objects.size := (Array.getElem?_eq_some_iff.mp known).1
    exact grows.others r (fun member => Nat.not_lt.mpr (new r member) old) o (ready.kept r o known)
  affords := ready.affords.grown grows
  callable some := by
    show 0 < h.quota.calls
    rw [grows.quota]
    exact ready.callable (Nat.lt_of_lt_of_le some (Nat.le_add_left _ _))
  timely left limited := by
    obtain ⟨before, had, rfl⟩ := Option.mem_map.mp limited
    have enough := ready.timely before had
    omega

/-- The session's own heap has the built-in objects too. -/
theorem own (ready : Ready base s n tasks) : s.heap.Standard := ready.standard.kept ready.kept

theorem size_le (ready : Ready base s n tasks) : base.objects.size ≤ s.heap.objects.size := by
  by_contra less
  have last : base.objects.size - 1 < base.objects.size := by omega
  have known := ready.kept _ _ (Array.getElem?_eq_getElem last)
  have inside := (Array.getElem?_eq_some_iff.mp known).1
  omega

/-- The session as a computation leaves it. -/
theorem left_eq (ready : Ready base s n tasks) (grows : s.heap.Grows changed k h) (more : Nat) :
    { s.left h with time := s.time.map (· - more) } = s.later h more := by
  obtain ⟨idle, top⟩ := ready.still
  unfold Session.left Session.later
  rw [grows.rest]
  simp only [idle, top]

theorem ask {c : Comp Value} {v : Value} (ready : Ready base s n tasks)
    (lasts : c.Lasts s.time (s.time.map (· - more)) s.heap k v h) (short : k < stepBound) {cost : Nat}
    (grows : s.heap.Grows changed cost h) :
    Admits (Host.demand c) s changed cost more none fun a h' => a = v ∧ h' = h := by
  refine ⟨v, h, ?_, grows, rfl, rfl⟩
  rw [after_demand_lasts lasts short, ready.left_eq grows]

theorem demand {c : Comp Value} {v : Value} (ready : Ready base s n tasks)
    (takes : c.Takes s.time s.heap k v h) (short : k < stepBound) {cost : Nat}
    (grows : s.heap.Grows changed cost h) :
    Admits (demand c) s changed cost 0 none fun a h' => a = v ∧ h' = h := by
  refine ready.ask ?_ short grows
  have still : s.time.map (· - 0) = s.time := by simp
  rw [still]
  exact takes.lasts

/-- A new object is made. -/
theorem newObject {make : Comp Value} {o : Object} (ready : Ready base s 64 tasks)
    (takes : make.Takes s.time s.heap k (.object s.heap.objects.size)
      ((s.heap.spent 64).allocate o).2)
    (short : k < stepBound) : Admits (newObject make) s [] 64 0 none fun r h =>
      r = s.heap.objects.size ∧ h.objects[r]? = some o := by
  have grows : s.heap.Grows [] 64 ((s.heap.spent 64).allocate o).2 :=
    (s.heap.grows_spent 64).trans (Heap.grows_allocate _ o)
  refine .cast (Nat.add_zero 64) (Nat.add_zero 0) rfl ((ready.demand takes short grows).bind ?_)
  rintro _ h - ⟨rfl, rfl⟩
  exact .pure _ ⟨rfl, (s.heap.spent 64).allocate_known o⟩

/-- A new object is made and filled. To what was there before, this changes nothing. -/
theorem filled {make : Comp Value} {o : Object} (fill : Ref → Host PUnit) (flaw : Option String)
    {whole : Heap → Prop}
    (ready : Ready base s (64 + n) tasks)
    (takes : make.Takes s.time s.heap k (.object s.heap.objects.size)
      ((s.heap.spent 64).allocate o).2)
    (short : k < stepBound)
    (fills : ∀ h, s.heap.Grows [] 64 h → h.objects[s.heap.objects.size]? = some o →
      Ready base (s.later h 0) n tasks →
      Admits (fill s.heap.objects.size) (s.later h 0) [s.heap.objects.size] n tasks flaw
        fun _ h' => whole h') :
    Admits (do
      let r ← Host.newObject make
      fill r
      return Value.object r) s [] (64 + n) tasks flaw fun v h =>
        v = .object s.heap.objects.size ∧ whole h := by
  have made := (ready.mono (Nat.le_add_right _ _) (Nat.le_refl _)).newObject takes short
  -- The object changes while it is filled, but it is new; so nothing changes for those before it.
  have filled : Admits (do
      let r ← Host.newObject make
      fill r
      return Value.object r) s [s.heap.objects.size] (64 + (n + 0)) (0 + (tasks + 0))
        ((none : Option String).or (flaw.or none)) fun v h =>
          v = .object s.heap.objects.size ∧ whole h := by
    refine (made.mono (fun _ _ grows => grows.mono _) fun _ _ grows held => And.intro grows held).bind ?_
    rintro _ h - ⟨grows, rfl, known⟩
    refine (fills h grows known ?_).bind ?_
    · exact (ready.mono (Nat.le_refl _) (Nat.le_of_eq (Nat.zero_add _))).grown grows
        (List.forall_mem_nil _)
    · rintro _ h' - complete
      exact .pure _ ⟨rfl, complete⟩
  refine .cast rfl (Nat.zero_add _) (by simp) (filled.mono (fun _ _ grows => ?_) fun _ _ _ held => held)
  exact grows.new (Nat.le_refl _)

/-- A property is added to an object. -/
theorem set {k : Key} {v : Value} (ready : Ready base s 32 tasks)
    (plan : Comp.setPlan s.heap r k = .add) :
    Admits (discard (Host.demand do
      Comp.set r k v
      return .undefined)) s [r] 32 0 none fun _ h => h = (s.heap.spent 32).addOwn r k v := by
  have takes : (do
      Comp.set r k v
      return Value.undefined : Comp Value).Takes s.time s.heap 3 .undefined
        ((s.heap.spent 32).addOwn r k v) :=
    .cast (Nat.add_zero 3) ((Comp.Takes.set plan ready.affords).bind (.pure _ _))
  obtain ⟨a, h, ran, grows, -, rfl⟩ :=
    ready.demand takes (by decide) (s.heap.grows_addOwn r k v)
  have mapped := after_map (Function.const Value PUnit.unit) (Host.demand do
    Comp.set r k v
    return .undefined) s
  rw [ran] at mapped
  exact ⟨⟨⟩, _, mapped, grows, rfl⟩

end Ready

/-! ### Copying in -/

variable {base : Heap}

theorem checkLevel_admits (depth : Nat) (s : Session) :
    Admits (checkLevel depth) s [] 0 0 (Datum.levelFlaw? depth) fun _ h => h = s.heap := by
  unfold checkLevel Datum.levelFlaw?
  split
  · exact .refused rfl
  · exact .pure _ rfl

theorem copyBigInt_admits (text : String) (ready : Ready base s 0 1) :
    Admits (copyBigInt text) s [] 0 1 (Datum.digitsFlaw? text) fun v _ =>
      v = .bigInt (decimalValue text) := by
  unfold copyBigInt Datum.digitsFlaw?
  dsimp only
  by_cases decimal : isDecimal text
  · obtain ⟨-, top⟩ := ready.still
    have room : s.heap.depth < s.heap.quota.calls := by
      rw [top]
      exact ready.callable Nat.one_pos
    have awake : s.time ≠ some 0 := by
      intro spent
      exact absurd (ready.timely 0 spent) (by decide)
    obtain ⟨f, found, function, called⟩ :=
      Comp.Lasts.bigInt ready.own room awake (textBigInt?_decimal decimal)
    rw [if_pos decimal, if_pos decimal]
    refine .cast (Nat.add_zero 0) (Nat.zero_add 1) rfl
      ((ready.demand (.get found) (by decide) (.refl _ [])).bind ?_)
    rintro _ _ - ⟨rfl, rfl⟩
    rw [Session.later_self]
    have looked : Admits (look (·.callable (.object f))) s [] 0 0 none fun yes h =>
        yes = true ∧ h = s.heap := .found (after_look _ s) ⟨function, rfl⟩
    refine .cast (Nat.add_zero 0) (Nat.zero_add 1) rfl (looked.bind ?_)
    rintro _ _ - ⟨rfl, rfl⟩
    rw [Session.later_self, if_pos rfl]
    exact (ready.ask called (by decide) (.refl _ _)).mono (fun _ _ grows => grows)
      fun v h _ same => same.1
  · rw [if_neg decimal, if_neg decimal]
    exact .refused rfl

theorem restore_admits (id : UInt64) (s : Session) :
    Admits (restore id.toNat) s [] 0 0 (Datum.idFlaw? s.heap.kept? id) fun f h =>
      h = s.heap ∧ h.kept? id = some f := by
  have looked := after_restore id.toNat s
  unfold Datum.idFlaw?
  cases found : s.heap.kept? id with
  | none =>
    rw [show s.heap.retained.functions.lookup id.toNat = none from found] at looked
    exact .refused looked
  | some f =>
    rw [show s.heap.retained.functions.lookup id.toNat = some f from found] at looked
    exact .found looked ⟨rfl, found⟩

/-- No name stands twice where the names ascend. -/
theorem names_nodup {fields : List (String × Datum)} (ascending : Wire.Ascending fields) :
    (([] : List (String × Value)).map (·.1) ++ fields.map (·.1)).Nodup := by
  rw [List.map_nil, List.nil_append]
  exact List.pairwise_map.mpr (ascending.imp fun before => before.ne)

mutual

/-- A datum without a field for the prototype is copied, or refused for its first flaw. -/
theorem copyIn_admits (d : Datum) (depth : Nat) {s : Session}
    (ready : Ready base s d.room d.bigInts.length) (short : d.Short) (usual : "__proto__" ∉ d.names)
    (ordered : d.Ordered) :
    Admits (copyIn depth d) s [] d.room d.bigInts.length (d.flaw? s.heap.kept? depth) fun v h =>
      h.Represents s.heap.objects.size d v := by
  have level := checkLevel_admits depth s
  unfold copyIn
  cases d with
  | bigInt text =>
    refine .cast (Nat.zero_add _) (Nat.zero_add _) rfl (level.bind ?_)
    rintro _ _ - rfl
    rw [Session.later_self]
    refine (copyBigInt_admits text ready).mono (fun _ _ grows => grows) ?_
    rintro _ h - rfl
    exact .leaf rfl
  | array items =>
    refine .cast (Nat.zero_add _) (Nat.zero_add _) rfl (level.bind ?_)
    rintro _ _ - rfl
    rw [Session.later_self]
    have filled := ready.filled (putItems depth · 0 items)
      (Datum.flawOfItems s.heap.kept? (depth + 1) items)
      (.newArray (ready.affords.mono (Nat.le_add_right _ _))) (by decide) fun h grows known ready' => by
        rw [← grows.kept?_eq]
        exact putItems_admits items depth [] ready' ready.size_le known short.2 usual ordered
          (by simpa using short.1)
    refine filled.mono (fun _ _ grows => grows) ?_
    rintro _ h - ⟨rfl, values, known, each⟩
    exact .array (Nat.le_refl _) known (each.kept (Nat.le_succ _) (fun _ _ _ same => same) rfl)
  | object fields =>
    refine .cast (Nat.zero_add _) (Nat.zero_add _) rfl (level.bind ?_)
    rintro _ _ - rfl
    rw [Session.later_self]
    have filled := ready.filled (putFields depth · fields)
      (Datum.flawOfFields s.heap.kept? (depth + 1) fields)
      (.newPlain (ready.affords.mono (Nat.le_add_right _ _))) (by decide) fun h grows known ready' => by
        rw [← grows.kept?_eq]
        exact putFields_admits fields depth [] ready' ready.size_le known short usual ordered.2
          (names_nodup ordered.1)
    refine filled.mono (fun _ _ grows => grows) ?_
    rintro _ h - ⟨rfl, values, known, each⟩
    exact .object (Nat.le_refl _) known (each.kept (Nat.le_succ _) (fun _ _ _ same => same) rfl)
  | function handle =>
    refine .cast (Nat.zero_add _) (Nat.zero_add _) rfl (level.bind ?_)
    rintro _ _ - rfl
    rw [Session.later_self]
    refine .cast (Nat.zero_add _) (Nat.zero_add _) (Option.or_none) ((restore_admits handle.id s).bind ?_)
    rintro f h - ⟨rfl, known⟩
    exact .pure _ (.function known)
  | _ =>
    refine .cast (Nat.zero_add _) (Nat.zero_add _) (Option.or_none) (level.bind ?_)
    rintro _ _ - rfl
    exact .pure _ (.leaf rfl)

theorem putItems_admits (items : List Datum) (depth : Nat) {s : Session} {r : Ref} (done : List Value)
    (ready : Ready base s (Datum.roomOfItems items) (Datum.bigIntsOfItems items).length)
    (new : base.objects.size ≤ r) (old : s.heap.objects[r]? = some (.arrayOf done))
    (short : Datum.ShortItems items) (usual : "__proto__" ∉ Datum.namesOfItems items)
    (ordered : Datum.OrderedItems items) (few : done.length + items.length < sizeBound) :
    Admits (putItems depth r done.length items) s [r] (Datum.roomOfItems items)
      (Datum.bigIntsOfItems items).length (Datum.flawOfItems s.heap.kept? (depth + 1) items) fun _ h =>
        ∃ values, h.objects[r]? = some (.arrayOf (done ++ values)) ∧
          h.RepresentsItems (r + 1) items values := by
  cases items with
  | nil =>
    unfold putItems
    exact .pure _ ⟨[], by rw [List.append_nil]; exact old, .nil⟩
  | cons item rest =>
    rw [Datum.namesOfItems, List.mem_append, not_or] at usual
    rw [List.length_cons] at few
    have calls : (Datum.bigIntsOfItems (item :: rest)).length =
        item.bigInts.length + (Datum.bigIntsOfItems rest).length := List.length_append
    rw [calls] at ready
    have fresh : ∀ x ∈ [r], base.objects.size ≤ x := by simpa using new
    have child : Admits (copyIn (depth + 1) item) s [r] item.room item.bigInts.length
        (item.flaw? s.heap.kept? (depth + 1)) fun v h =>
          s.heap.Grows [] item.room h ∧ h.Represents s.heap.objects.size item v := by
      have alone := ready.mono (Nat.le_add_right _ _) (Nat.le_add_right _ _)
      exact (copyIn_admits item (depth + 1) alone short.1 usual.1 ordered.1).mono
        (fun _ _ grows => grows.mono [r]) fun _ _ grows copy => ⟨grows, copy⟩
    -- The item is copied first, which leaves the array as far as it is filled; then it is added to it.
    unfold putItems
    refine .cast rfl calls.symm rfl (child.bind ?_)
    rintro v h - ⟨grows, copy⟩
    have atRest := ready.grown grows (List.forall_mem_nil _)
    have known := grows.kept r _ old
    have key : Key.ofNat done.length = .index done.length := by
      have bound : sizeBound = Key.indexBound + 1 := by decide
      exact if_pos (by omega)
    have plan : Comp.setPlan h r (.ofNat done.length) = .add := by
      rw [key]
      exact Heap.setPlan_eq_add known ⟨rfl, .inr ⟨_, _, _, rfl, rfl⟩⟩
        (Heap.ownProperty_beyond known (Nat.le_refl _))
        (.inl (atRest.own.lookup_item known (Nat.le_refl _)))
    refine .cast rfl (Nat.zero_add _) rfl
      (((atRest.mono (Nat.le_add_right _ _) (Nat.le_refl _)).set plan).bind ?_)
    rintro - h' grown added
    have ready := (atRest.mono (Nat.le_refl _) (Nat.le_of_eq (Nat.zero_add _))).grown grown fresh
    have known : h'.objects[r]? = some (.arrayOf (done ++ [v])) := by
      rw [added, key]
      exact Heap.addOwn_item (h := h.spent 32) known v
    have others := putItems_admits rest depth (done ++ [v]) ready new known short.2 usual.2 ordered.2
      (by rw [List.length_append, List.length_singleton]; omega)
    rw [List.length_append, List.length_singleton] at others
    have kept : h'.kept? = s.heap.kept? := grown.kept?_eq.trans grows.kept?_eq
    refine .cast rfl rfl (by rw [← kept]; rfl) (others.mono (fun _ _ grows => grows) ?_)
    rintro - h'' grownMore ⟨values, known, each⟩
    have inside := (Array.getElem?_eq_some_iff.mp old).1
    exact ⟨v :: values, by simpa using known, .cons (copy.grown inside inside (grown.trans grownMore)) each⟩

theorem putFields_admits (fields : List (String × Datum)) (depth : Nat) {s : Session} {r : Ref}
    (done : List (String × Value))
    (ready : Ready base s (Datum.roomOfFields fields) (Datum.bigIntsOfFields fields).length)
    (new : base.objects.size ≤ r) (old : s.heap.objects[r]? = some (.recordOf done))
    (short : Datum.ShortFields fields) (usual : "__proto__" ∉ Datum.namesOfFields fields)
    (ordered : Datum.OrderedFields fields) (once : (done.map (·.1) ++ fields.map (·.1)).Nodup) :
    Admits (putFields depth r fields) s [r] (Datum.roomOfFields fields)
      (Datum.bigIntsOfFields fields).length (Datum.flawOfFields s.heap.kept? (depth + 1) fields)
      fun _ h => ∃ values, h.objects[r]? = some (.recordOf (done ++ values)) ∧
        h.RepresentsFields (r + 1) fields values := by
  match fields with
  | [] =>
    unfold putFields
    exact .pure _ ⟨[], by rw [List.append_nil]; exact old, .nil⟩
  | (name, item) :: rest =>
    rw [Datum.namesOfFields, List.mem_cons, List.mem_append, not_or, not_or] at usual
    have calls : (Datum.bigIntsOfFields ((name, item) :: rest)).length =
        item.bigInts.length + (Datum.bigIntsOfFields rest).length := List.length_append
    rw [calls] at ready
    have fresh : ∀ x ∈ [r], base.objects.size ≤ x := by simpa using new
    have child : Admits (copyIn (depth + 1) item) s [r] item.room item.bigInts.length
        (item.flaw? s.heap.kept? (depth + 1)) fun v h =>
          s.heap.Grows [] item.room h ∧ h.Represents s.heap.objects.size item v := by
      have alone := ready.mono (Nat.le_add_right _ _) (Nat.le_add_right _ _)
      exact (copyIn_admits item (depth + 1) alone short.1 usual.2.1 ordered.1).mono
        (fun _ _ grows => grows.mono [r]) fun _ _ grows copy => ⟨grows, copy⟩
    unfold putFields
    refine .cast rfl calls.symm rfl (child.bind ?_)
    rintro v h - ⟨grows, copy⟩
    have atRest := ready.grown grows (List.forall_mem_nil _)
    have known := grows.kept r _ old
    -- Only a name that the object has not got yet is added as a new property.
    have missing : name ∉ done.map (·.1) := by
      intro member
      exact (List.nodup_append.mp once).2.2 name member name List.mem_cons_self rfl
    have plan : Comp.setPlan h r (Key.ofString name) = .add :=
      Heap.setPlan_eq_add known ⟨rfl, .inl rfl⟩ (Heap.ownProperty_new known missing)
        (atRest.own.lookup_field known missing (Ne.symm usual.1))
    refine .cast rfl (Nat.zero_add _) rfl
      (((atRest.mono (Nat.le_add_right _ _) (Nat.le_refl _)).set plan).bind ?_)
    rintro - h' grown added
    have ready := (atRest.mono (Nat.le_refl _) (Nat.le_of_eq (Nat.zero_add _))).grown grown fresh
    have known : h'.objects[r]? = some (.recordOf (done ++ [(name, v)])) := by
      rw [added]
      exact Heap.addOwn_field (h := h.spent 32) known name v
    have others := putFields_admits rest depth (done ++ [(name, v)]) ready new known short.2 usual.2.2
      ordered.2 (by simpa using once)
    have kept : h'.kept? = s.heap.kept? := grown.kept?_eq.trans grows.kept?_eq
    refine .cast rfl rfl (by rw [← kept]; rfl) (others.mono (fun _ _ grows => grows) ?_)
    rintro - h'' grownMore ⟨values, known, each⟩
    have inside := (Array.getElem?_eq_some_iff.mp old).1
    exact ⟨(name, v) :: values, by simpa using known,
      .cons (copy.grown inside inside (grown.trans grownMore)) each⟩

end

/-- Data are copied one after another, until one is refused. -/
theorem copyArguments_admits (args : List Datum) {s : Session}
    (ready : Ready base s (Datum.roomOfAll args) (Datum.bigIntsOfItems args).length)
    (usual : ∀ arg ∈ args, arg.Usual) :
    Admits (args.mapM (copyIn 0)) s [] (Datum.roomOfAll args) (Datum.bigIntsOfItems args).length
      (Datum.flawOfItems s.heap.kept? 0 args) fun values h =>
        h.RepresentsItems s.heap.objects.size args values := by
  induction args generalizing s with
  | nil => exact .pure _ .nil
  | cons arg rest ih =>
    obtain ⟨usual, others⟩ := List.forall_mem_cons.mp usual
    have room : Datum.roomOfAll (arg :: rest) = arg.room + Datum.roomOfAll rest := List.sum_cons
    have calls : (Datum.bigIntsOfItems (arg :: rest)).length =
        arg.bigInts.length + (Datum.bigIntsOfItems rest).length := List.length_append
    rw [room, calls] at ready
    have alone := ready.mono (Nat.le_add_right _ _) (Nat.le_add_right _ _)
    have first := copyIn_admits arg 0 alone usual.short usual.unnamed usual.ordered
    rw [List.mapM_cons]
    refine .cast room.symm calls.symm rfl (first.bind ?_)
    intro v h grows copy
    have more := ih (ready.grown grows (List.forall_mem_nil _)) others
    have kept : (s.later h arg.bigInts.length).heap.kept? = s.heap.kept? := grows.kept?_eq
    rw [← kept]
    refine .cast (Nat.add_zero _) (Nat.add_zero _) Option.or_none (more.bind ?_)
    intro values h' grown copies
    have first := copy.kept (Nat.le_refl _) (fun r _ o known => grown.kept r o known) grown.kept?_eq
    have rest := copies.kept grows.larger (fun _ _ _ known => known) rfl
    exact .pure _ (.cons first rest)

end Host

end Script

end ScriptHost
