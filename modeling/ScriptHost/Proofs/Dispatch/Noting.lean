import ScriptHost.Proofs.Dispatch.Retiring
import ScriptHost.Proofs.Dispatch.Typed

/-! Which limits engines are made with. Any kind of engines can be made to note, for each creation, the
handle and the limits it was asked for; nothing else changes, so that what holds of the notes holds of
the creations of the kind itself. An operation notes at most one creation, and the engines of the table
have the limits that are in the notes under their handles. -/

namespace ScriptHost

/-- Engines that have their limits with them, and a plan that notes every creation. -/
abbrev EngineKind.noting (K : EngineKind) : EngineKind where
  Engine := K.Engine × EngineLimits
  Plan := K.Plan × List (Nat × EngineLimits)
  name := K.name
  create handle limits plan :=
    ((K.create handle limits plan.1).1.map (·, limits), (K.create handle limits plan.1).2.1,
      ((K.create handle limits plan.1).2.2, plan.2 ++ [(handle, limits)]))
  run command engine :=
    ((K.run command engine.1).1, (K.run command engine.1).2.1, (K.run command engine.1).2.2, engine.2)
  farewell engine := K.farewell engine.1
  panicsOnDrop engine := K.panicsOnDrop engine.1

variable {K : EngineKind}

/-- The worker without the limits of its engine. -/
def Worker.forget (w : Worker K.noting) : Worker K where
  handle := w.handle
  engine := w.engine.map Prod.fst
  accepting := w.accepting
  failed := w.failed

namespace Dispatcher

open Dispatch Worker

/-- The creations noted so far, with their handles. -/
def notes (d : Dispatcher K.noting) : List (Nat × EngineLimits) := d.plan.2

/-- The dispatcher without the notes. -/
def forget (d : Dispatcher K.noting) : Dispatcher K where
  limits := d.limits
  settings := d.settings
  engines := d.engines.map fun entry => (entry.1, entry.2.forget)
  next := d.next
  default := d.default
  plan := d.plan.1
  created := d.created
  dropped := d.dropped
  log := d.log

variable {d : Dispatcher K.noting}

@[simp] theorem limits_forget : d.forget.limits = d.limits := rfl

@[simp] theorem settings_forget : d.forget.settings = d.settings := rfl

@[simp] theorem codec_forget : d.forget.codec = d.codec := rfl

/-! ### Noting changes nothing -/

theorem run_forget (command : Command) (w : Worker K.noting) :
    Worker.run command w.forget =
      ((Worker.run command w).1, (Worker.run command w).2.1, (Worker.run command w).2.2.forget) := by
  obtain ⟨handle, engine, accepting, failed⟩ := w
  cases accepting with
  | false => rfl
  | true =>
    cases engine with
    | none => rfl
    | some engine =>
      obtain ⟨engine, limits⟩ := engine
      rcases ran : K.run command engine with ⟨outcome, log, after⟩
      simp only [Worker.run, Worker.forget, Option.map_some, ran]
      rcases outcome.caught "engine" with (_ | _ | _ | _) | _ <;> rfl

theorem spawn_forget (handle : Nat) (limits : EngineLimits) (stack : UInt64) (plan : K.noting.Plan) :
    Worker.spawn (K := K) handle limits stack plan.1 =
      ((Worker.spawn (K := K.noting) handle limits stack plan).1.map Worker.forget,
        (Worker.spawn (K := K.noting) handle limits stack plan).2.1,
        (Worker.spawn (K := K.noting) handle limits stack plan).2.2.1) := by
  unfold Worker.spawn
  split
  · rfl
  · rcases created : K.create handle limits plan.1 with ⟨_ | _ | _, log, rest⟩ <;>
      simp only [created] <;>
      rfl

theorem worker?_forget (handle : Nat) :
    d.forget.worker? handle = (d.worker? handle).map Worker.forget := by
  simp only [worker?, forget]
  induction d.engines with
  | nil => rfl
  | cons entry rest ih =>
    by_cases same : handle = entry.1
    · simp [List.lookup, same]
    · have differs : (handle == entry.1) = false := by simpa using same
      simpa [List.lookup, differs] using ih

theorem dismissed_forget (handle : Nat) : (d.dismissed handle).forget = d.forget.dismissed handle := by
  simp only [dismissed, remove, forget, List.filter_map, Function.comp_def]
  rfl

theorem update_forget (w : Worker K.noting) : (d.update w).forget = d.forget.update w.forget := by
  simp only [update, forget, List.map_map]
  congr 1
  refine List.map_congr_left fun entry _ => ?_
  show (_, _) = if entry.1 = w.handle then _ else _
  by_cases same : entry.1 = w.handle <;> simp [same, Worker.forget]

theorem made_forget (limits : EngineLimits) :
    d.forget.made limits = ((d.made limits).1.map Worker.forget, (d.made limits).2.forget) := by
  have spawned : Worker.spawn d.forget.next limits d.forget.settings.workerStack d.forget.plan = _ :=
    spawn_forget d.next limits d.settings.workerStack d.plan
  unfold made
  rw [spawned]
  rcases Worker.spawn d.next limits d.settings.workerStack d.plan with ⟨_ | worker, log, plan⟩
  · rfl
  · simp [Except.map, joined, attempted, forget]

theorem resolved_forget (handle : Option Nat) :
    d.forget.resolved handle = ((d.resolved handle).1.map Worker.forget, (d.resolved handle).2.forget) := by
  have made := made_forget (d := d) d.limits
  unfold resolved
  cases handle with
  | some handle =>
    simp only [worker?_forget]
    cases d.worker? handle <;> rfl
  | none =>
    have found : d.forget.default.bind d.forget.worker? =
        (d.default.bind d.worker?).map Worker.forget := by
      show d.default.bind _ = _
      cases d.default with
      | none => rfl
      | some handle => exact worker?_forget handle
    simp only [found, settings_forget, limits_forget, made]
    by_cases allowed : d.settings.defaultEngine
    · simp only [allowed, ↓reduceIte]
      cases d.default.bind d.worker? with
      | some worker => rfl
      | none =>
        rcases d.made d.limits with ⟨_ | worker, after⟩ <;> rfl
    · simp only [allowed, Bool.false_eq_true, ↓reduceIte]
      rfl

theorem carried_forget (command : Command) (w : Worker K.noting) :
    d.forget.carried command w.forget =
      ((d.carried command w).1, (d.carried command w).2.forget) := by
  unfold carried
  rw [run_forget]
  rcases Worker.run command w with ⟨(_ | _ | _ | _) | _, log, after⟩ <;>
    first
    | exact congrArg (Prod.mk _) (dismissed_forget w.handle).symm
    | exact congrArg (Prod.mk _) (update_forget after).symm

theorem answered_forget (handle : Option Nat) (request : Request) :
    d.forget.answered handle request =
      ((d.answered handle request).1, (d.answered handle request).2.forget) := by
  unfold answered
  cases request with
  | create options =>
    simp only [limits_forget, made_forget]
    rcases d.made (d.limits.withOptions options) with ⟨_ | worker, after⟩ <;> rfl
  | dispose =>
    cases handle with
    | none => rfl
    | some handle =>
      simp only [worker?_forget]
      cases d.worker? handle with
      | none => rfl
      | some worker => exact congrArg (Prod.mk _) (dismissed_forget handle).symm
  | command command =>
    simp only [resolved_forget]
    rcases d.resolved handle with ⟨_ | worker, after⟩
    · rfl
    · exact carried_forget command worker

theorem respond_forget (op : Operation) :
    d.forget.respond op = ((d.respond op).1, (d.respond op).2.forget) := by
  unfold respond
  rw [codec_forget]
  cases admitted d.codec op with
  | error e => rfl
  | ok request => exact answered_forget op.handle request

/-- An operation does without the notes what it does with them. -/
theorem dispatch_forget {plain : Dispatcher K} (consistent : d.Consistent)
    (consistent' : plain.Consistent) (same : plain.unlogged = d.unlogged.forget) (op : Operation) :
    (exec (dispatch op) plain).1 = (exec (dispatch op) d).1 ∧
      (exec (dispatch op) plain).2.unlogged = (exec (dispatch op) d).2.unlogged.forget := by
  have effects : effect (dispatch op) plain =
      ((effect (dispatch op) d).1, (effect (dispatch op) d).2.forget) := by
    rw [effect_dispatch consistent', effect_dispatch consistent, same, respond_forget]
  exact Prod.mk.inj effects

/-! ### What is noted -/

/-- The three ways in which making an engine ends: there is no thread for it and nothing is asked of the
kind; or the kind is asked with these limits, and gives an engine or does not. -/
theorem made_noting_cases (limits : EngineLimits) (d : Dispatcher K.noting) :
    (∃ e, d.made limits = (.error e, d.attempted d.plan)) ∨
    (∃ e rest, d.made limits = (.error e, d.attempted (rest, d.notes ++ [(d.next, limits)]))) ∨
    (∃ engine rest, d.made limits = (.ok (.live d.next (engine, limits)),
      d.joined (.live d.next (engine, limits)) (rest, d.notes ++ [(d.next, limits)]))) := by
  unfold made Worker.spawn
  by_cases ceiling : Worker.stackCeiling ≤ d.settings.workerStack.toNat
  · simp only [ceiling, ↓reduceIte]
    exact .inl ⟨_, rfl⟩
  · rcases created : K.create d.next limits d.plan.1 with ⟨outcome, log, rest⟩
    simp only [ceiling, ↓reduceIte, created]
    cases outcome with
    | value engine => exact .inr (.inr ⟨engine, rest, rfl⟩)
    | error e => exact .inr (.inl ⟨_, rest, rfl⟩)
    | panicked p => exact .inr (.inl ⟨_, rest, rfl⟩)

/-- At most one creation was noted, and with these limits. -/
inductive Enters (limits : EngineLimits) (before after : Dispatcher K.noting) : Prop where
  | nothing (same : after.notes = before.notes)
  | creation (noted : after.notes = before.notes ++ [(before.next, limits)])

theorem Enters.imp {limits : EngineLimits} {before after after' : Dispatcher K.noting}
    (enters : Enters limits before after) (same : after'.notes = after.notes) :
    Enters limits before after' := by
  cases enters with
  | nothing unchanged => exact .nothing (same.trans unchanged)
  | creation noted => exact .creation (same.trans noted)

/-- Every engine that was made is in the notes, once, and has the limits that are there. -/
structure Booked (d : Dispatcher K.noting) : Prop where
  below : ∀ note ∈ d.notes, note.1 < d.next
  once : (d.notes.map Prod.fst).Pairwise (· < ·)
  created : ∀ handle ∈ d.created, ∃ limits, (handle, limits) ∈ d.notes
  engines : ∀ handle engine limits,
    (handle, .live handle (engine, limits)) ∈ d.engines → (handle, limits) ∈ d.notes

theorem made_enters (limits : EngineLimits) : Enters limits d (d.made limits).2 := by
  obtain ⟨e, made⟩ | ⟨e, rest, made⟩ | ⟨engine, rest, made⟩ := made_noting_cases limits d <;> rw [made]
  · exact .nothing rfl
  · exact .creation rfl
  · exact .creation rfl

theorem resolved_enters (handle : Option Nat) : Enters d.limits d (d.resolved handle).2 := by
  have made := made_enters (d := d) d.limits
  unfold resolved
  cases handle with
  | some handle => cases found : d.worker? handle <;> simpa only [found] using .nothing rfl
  | none =>
    by_cases allowed : d.settings.defaultEngine
    · simp only [allowed, ↓reduceIte]
      cases d.default.bind d.worker? with
      | some worker => exact .nothing rfl
      | none =>
        rcases shape : d.made d.limits with ⟨e | worker, after⟩
        · rwa [shape] at made
        · rw [shape] at made
          exact made.imp rfl
    · simpa only [allowed, Bool.false_eq_true, ↓reduceIte] using .nothing rfl

theorem notes_carried (command : Command) (w : Worker K.noting) :
    (d.carried command w).2.notes = d.notes := by
  unfold carried
  split <;> rfl

theorem Booked.creation {before after : Dispatcher K.noting} {limits : EngineLimits}
    (booked : before.Booked) (next : after.next = before.next + 1)
    (noted : after.notes = before.notes ++ [(before.next, limits)])
    (created : after.created = before.created ∨ after.created = before.next :: before.created)
    (engines : ∀ handle engine given, (handle, .live handle (engine, given)) ∈ after.engines →
      (handle, .live handle (engine, given)) ∈ before.engines ∨ handle = before.next ∧ given = limits) :
    after.Booked where
  below note member := by
    rw [noted, List.mem_append, List.mem_singleton] at member
    obtain member | rfl := member
    · have below := booked.below note member
      omega
    · dsimp only
      omega
  once := by
    rw [noted, List.map_append, List.pairwise_append]
    refine ⟨booked.once, List.pairwise_singleton _ _, ?_⟩
    intro handle member later isNext
    obtain ⟨note, earlier, rfl⟩ := List.mem_map.mp member
    cases List.mem_singleton.mp isNext
    exact booked.below note earlier
  created handle member := by
    rw [noted]
    have earlier (member : handle ∈ before.created) :
        ∃ given, (handle, given) ∈ before.notes ++ [(before.next, limits)] := by
      obtain ⟨given, member⟩ := booked.created handle member
      exact ⟨given, List.mem_append_left _ member⟩
    obtain same | joined := created
    · exact earlier (same ▸ member)
    · rw [joined, List.mem_cons] at member
      obtain rfl | member := member
      · exact ⟨limits, by simp⟩
      · exact earlier member
  engines handle engine given member := by
    rw [noted]
    obtain member | ⟨rfl, rfl⟩ := engines handle engine given member
    · exact List.mem_append_left _ (booked.engines handle engine given member)
    · simp

theorem Booked.same {before after : Dispatcher K.noting} (booked : before.Booked)
    (next : before.next ≤ after.next) (noted : after.notes = before.notes)
    (created : after.created = before.created)
    (engines : ∀ handle engine limits, (handle, .live handle (engine, limits)) ∈ after.engines →
      (handle, limits) ∈ before.notes) : after.Booked where
  below note member := Nat.lt_of_lt_of_le (booked.below note (noted ▸ member)) next
  once := noted ▸ booked.once
  created := by
    rw [noted, created]
    exact booked.created
  engines := by
    rw [noted]
    exact engines

theorem Booked.made (booked : d.Booked) (limits : EngineLimits) : (d.made limits).2.Booked := by
  obtain ⟨e, made⟩ | ⟨e, rest, made⟩ | ⟨engine, rest, made⟩ := made_noting_cases limits d <;> rw [made]
  · exact booked.same (Nat.le_succ _) rfl rfl booked.engines
  · exact booked.creation rfl rfl (.inl rfl) fun _ _ _ => .inl
  · refine booked.creation rfl rfl (.inr rfl) fun handle other given member => ?_
    rcases List.mem_append.mp member with member | new
    · exact .inl member
    · cases List.mem_singleton.mp new
      exact .inr ⟨rfl, rfl⟩

theorem Booked.dismissed (booked : d.Booked) (handle : Nat) : (d.dismissed handle).Booked :=
  booked.same (Nat.le_refl _) rfl rfl fun key engine limits member =>
    booked.engines key engine limits (List.mem_filter.mp member).1

theorem Booked.update (booked : d.Booked) {handle : Nat} {limits : EngineLimits}
    (own : (handle, limits) ∈ d.notes) (engine : K.Engine) :
    (d.update (.live handle (engine, limits))).Booked := by
  refine booked.same (Nat.le_refl _) rfl rfl fun key other given member => ?_
  obtain ⟨entry, before, same⟩ := List.mem_map.mp member
  split at same
  · cases same
    exact own
  · exact booked.engines key other given (same ▸ before)

theorem Booked.resolved (booked : d.Booked) (handle : Option Nat) : (d.resolved handle).2.Booked := by
  have made := booked.made d.limits
  unfold Dispatcher.resolved
  cases handle with
  | some handle => cases found : d.worker? handle <;> simpa only [found] using booked
  | none =>
    by_cases allowed : d.settings.defaultEngine
    · simp only [allowed, ↓reduceIte]
      cases d.default.bind d.worker? with
      | some worker => exact booked
      | none =>
        rcases shape : d.made d.limits with ⟨e | worker, after⟩
        · rwa [shape] at made
        · rw [shape] at made
          exact made.same (Nat.le_refl _) rfl rfl made.engines
    · simpa only [allowed, Bool.false_eq_true, ↓reduceIte] using booked

theorem Booked.carried (booked : d.Booked) (command : Command) {handle : Nat} {engine : K.Engine}
    {limits : EngineLimits} (own : (handle, limits) ∈ d.notes) :
    (d.carried command (.live handle (engine, limits))).2.Booked := by
  rw [carried_live]
  split
  · exact booked.dismissed handle
  · exact booked.dismissed handle
  · exact booked.update own (engineAfter command engine)

theorem Booked.answered (consistent : d.Consistent) (booked : d.Booked) (handle : Option Nat)
    (request : Request) : (d.answered handle request).2.Booked := by
  unfold Dispatcher.answered
  cases request with
  | create options =>
    have made := booked.made (d.limits.withOptions options)
    rcases shape : d.made (d.limits.withOptions options) with ⟨_ | worker, after⟩ <;>
      simpa only [shape] using made
  | dispose =>
    cases handle with
    | none => exact booked
    | some handle =>
      cases found : d.worker? handle with
      | none => simpa only [found] using booked
      | some worker => simpa only [found] using booked.dismissed handle
  | command command =>
    have found := booked.resolved handle
    rcases shape : d.resolved handle with ⟨_ | worker, after⟩
    · simpa only [shape] using found
    · obtain ⟨⟨engine, limits⟩, live, finds⟩ := resolved_finds consistent shape
      rw [shape] at found
      have member := mem_of_worker? finds.active
      have own := found.engines _ _ _ member
      rw [live]
      simpa only [shape] using found.carried command own

theorem Booked.dispatch (consistent : d.Consistent) (booked : d.Booked) (op : Operation) :
    (exec (dispatch op) d).2.Booked := by
  have unlogged : d.unlogged.Booked := ⟨booked.below, booked.once, booked.created, booked.engines⟩
  have answered : (d.unlogged.respond op).2.Booked := by
    unfold respond
    cases admitted d.unlogged.codec op with
    | error e => exact unlogged
    | ok request =>
      exact unlogged.answered (consistent_unlogged.mpr consistent) op.handle request
  rw [← effect_dispatch consistent op] at answered
  exact ⟨answered.below, answered.once, answered.created, answered.engines⟩

/-- The limits of an engine that is made for a request. -/
def limitsFor (configured : EngineLimits) : Request → EngineLimits
  | .create options => configured.withOptions options
  | .dispose | .command _ => configured

theorem answered_enters (handle : Option Nat) (request : Request) :
    Enters (limitsFor d.limits request) d (d.answered handle request).2 := by
  unfold answered
  cases request with
  | create options =>
    have made := made_enters (d := d) (d.limits.withOptions options)
    rcases shape : d.made (d.limits.withOptions options) with ⟨_ | worker, after⟩ <;>
      simpa only [limitsFor, shape] using made
  | dispose =>
    cases handle with
    | none => exact .nothing rfl
    | some handle => cases found : d.worker? handle <;> simpa only [found] using .nothing rfl
  | command command =>
    have resolved := resolved_enters (d := d) handle
    rcases shape : d.resolved handle with ⟨_ | worker, after⟩
    · simpa only [limitsFor, shape] using resolved
    · rw [shape] at resolved
      exact resolved.imp (notes_carried command worker)

/-- An operation notes nothing if it is not admitted, and otherwise one creation at most. -/
theorem dispatch_enters (consistent : d.Consistent) (op : Operation) :
    (exec (dispatch op) d).2.notes = d.notes ∨ ∃ request, admitted d.codec op = .ok request ∧
      Enters (limitsFor d.limits request) d (exec (dispatch op) d).2 := by
  have noted : (exec (dispatch op) d).2.notes = (d.unlogged.respond op).2.notes := by
    rw [← effect_dispatch consistent op]
    rfl
  unfold respond at noted
  cases asked : admitted d.codec op with
  | error e =>
    simp only [unlogged_codec, asked] at noted
    exact .inl noted
  | ok request =>
    simp only [unlogged_codec, asked] at noted
    have enters : Enters (limitsFor d.limits request) d (d.unlogged.answered op.handle request).2 := by
      cases answered_enters (d := d.unlogged) op.handle request with
      | nothing same => exact .nothing same
      | creation noted => exact .creation noted
    exact .inr ⟨request, rfl, enters.imp noted⟩

end Dispatcher

end ScriptHost
