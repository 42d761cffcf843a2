import ScriptHost.Proofs.Dispatch.Changes

/-! Engines are neither lost nor dropped twice. Between operations every engine that was made
either stands in the table or has been dropped, once; and when the dispatcher goes, all that stand
in the table are dropped with it. It does not matter by which way an engine goes: it may have been
disposed of, ended by a fatal result or a panic, or have called itself terminated. -/

namespace ScriptHost

variable {K : EngineKind}

namespace Dispatcher

open Dispatch
open scoped List

variable {d : Dispatcher K}

/-- The engines made so far are those dropped and those in the table. -/
def Balanced (d : Dispatcher K) : Prop := d.created.Perm (d.dropped ++ d.activeHandles)

@[simp] theorem balanced_unlogged : d.unlogged.Balanced ↔ d.Balanced := Iff.rfl

theorem Consistent.active_nodup (consistent : d.Consistent) : d.activeHandles.Nodup :=
  consistent.active_ordered.imp Nat.ne_of_lt

theorem Consistent.created_nodup (consistent : d.Consistent) : d.created.Nodup :=
  consistent.created_ordered.imp Nat.ne_of_gt

theorem Balanced.joined (balanced : d.Balanced) (engine : K.Engine) (plan : K.Plan) :
    (d.joined (.live d.next engine) plan).Balanced := by
  show (d.next :: d.created).Perm (d.dropped ++ (d.joined _ plan).activeHandles)
  rw [activeHandles_joined, ← List.append_assoc]
  exact (balanced.cons d.next).trans (List.perm_append_singleton _ _).symm

theorem Balanced.dismissed (consistent : d.Consistent) (balanced : d.Balanced) {handle : Nat}
    (active : handle ∈ d.activeHandles) : (d.dismissed handle).Balanced := by
  have others : (d.dismissed handle).activeHandles = d.activeHandles.erase handle := by
    rw [consistent.active_nodup.erase_eq_filter]
    exact activeHandles_remove handle
  show d.created.Perm (handle :: d.dropped ++ (d.dismissed handle).activeHandles)
  rw [others]
  calc d.created
    _ ~ d.dropped ++ d.activeHandles := balanced
    _ ~ d.dropped ++ handle :: d.activeHandles.erase handle :=
        (List.perm_cons_erase active).append_left _
    _ ~ handle :: d.dropped ++ d.activeHandles.erase handle := List.perm_middle

theorem Balanced.update (balanced : d.Balanced) (handle : Nat) (engine : K.Engine) :
    (d.update (.live handle engine)).Balanced := by
  unfold Balanced
  rw [activeHandles_update]
  exact balanced

theorem Balanced.made (balanced : d.Balanced) (limits : EngineLimits) :
    (d.made limits).2.Balanced := by
  obtain ⟨e, plan, shape⟩ | ⟨engine, plan, shape⟩ := made_cases limits d <;> rw [shape]
  · exact balanced
  · exact balanced.joined engine plan

theorem Balanced.carried (consistent : d.Consistent) (balanced : d.Balanced) (command : Command)
    {handle : Nat} (active : handle ∈ d.activeHandles) (engine : K.Engine) :
    (d.carried command (.live handle engine)).2.Balanced := by
  obtain ⟨e, shape⟩ | ⟨answer, final, shape⟩ := carried_cases command handle engine d <;> rw [shape]
  · exact balanced.dismissed consistent active
  · exact balanced.update handle final

theorem Balanced.answered (consistent : d.Consistent) (balanced : d.Balanced)
    (handle : Option Nat) (request : Request) : (d.answered handle request).2.Balanced := by
  unfold Dispatcher.answered
  cases request with
  | create options =>
    have made := balanced.made (d.limits.withOptions options)
    rcases shape : d.made (d.limits.withOptions options) with ⟨e | worker, after⟩ <;>
      simpa only [shape] using made
  | dispose =>
    cases handle with
    | none => exact balanced
    | some handle =>
      cases found : d.worker? handle with
      | none => simpa only [found] using balanced
      | some worker =>
        have active : handle ∈ d.activeHandles := by
          rw [← worker?_isSome_iff, found]
          rfl
        simpa only [found] using balanced.dismissed consistent active
  | command command =>
    obtain ⟨e, shape⟩ | ⟨key, engine, member, shape⟩ | ⟨e, plan, -, shape⟩ |
        ⟨engine, plan, -, shape⟩ := resolved_cases consistent handle <;> simp only [shape]
    · exact balanced
    · exact balanced.carried consistent command (List.mem_map_of_mem member) engine
    · exact balanced
    · -- The default engine is made for the command, which may be its last one.
      have joined := consistent.joined engine plan
      have active : d.next ∈ (d.joined (.live d.next engine) plan).activeHandles := by
        simp [activeHandles_joined]
      exact Balanced.carried (joined.withDefault active) (balanced.joined engine plan) command
        active engine

theorem Balanced.dispatch (consistent : d.Consistent) (balanced : d.Balanced) (op : Operation) :
    (exec (dispatch op) d).2.Balanced := by
  have responded : (d.unlogged.respond op).2.Balanced := by
    unfold respond
    cases admitted d.unlogged.codec op with
    | error e => exact balanced
    | ok request => exact Balanced.answered (consistent_unlogged.mpr consistent) balanced op.handle request
  rw [← effect_dispatch consistent op] at responded
  exact responded

theorem Balanced.after (consistent : d.Consistent) (balanced : d.Balanced) (ops : List Operation) :
    (d.after ops).Balanced := by
  induction ops generalizing d with
  | nil => exact balanced
  | cons op rest ih => exact ih (dispatch_consistent consistent op) (balanced.dispatch consistent op)

theorem Reachable.balanced (reachable : d.Reachable) : d.Balanced := by
  obtain ⟨settings, plan, ops, rfl⟩ := reachable
  exact Balanced.after (ofSettings_consistent settings plan) (List.Perm.refl []) ops

/-- When the dispatcher goes, the engines of the table are dropped in their order. -/
theorem disposeAll_live (consistent : d.Consistent) :
    d.disposeAll.dropped = d.activeHandles.reverse ++ d.dropped ∧
      d.disposeAll.created = d.created := by
  have live := consistent.live
  clear consistent
  unfold disposeAll activeHandles
  -- The table stays as it is while its engines are dropped one after another.
  generalize d.engines = entries at live ⊢
  induction entries generalizing d with
  | nil => exact ⟨rfl, rfl⟩
  | cons entry rest ih =>
    obtain ⟨handle, worker⟩ := entry
    obtain ⟨engine, rfl⟩ : ∃ engine, worker = .live handle engine := live _ List.mem_cons_self
    obtain ⟨dropped, created⟩ := ih (d := { d.record ((Worker.live handle engine).dispose.1 ++
      [⟨.debug, logTarget, "engine disposed with dispatcher", [("engine", toString handle)]⟩]) with
        dropped := handle :: d.dropped }) fun entry member => live entry (.tail _ member)
    refine ⟨?_, created⟩
    rw [List.map_cons, List.reverse_cons, List.append_assoc]
    exact dropped

/-- What holds between operations: each engine that was made is active or has been dropped once,
and not both. -/
structure Conserved (d : Dispatcher K) : Prop where
  counted : d.created.length = d.dropped.length + d.activeHandles.length
  made_once : d.created.Nodup
  dropped_once : d.dropped.Nodup
  dropped_iff : ∀ handle, handle ∈ d.dropped ↔ handle ∈ d.created ∧ handle ∉ d.activeHandles
  active_made : ∀ handle ∈ d.activeHandles, handle ∈ d.created ∧
    ∃ engine, d.worker? handle = some (.live handle engine)

theorem Balanced.conserved (consistent : d.Consistent) (balanced : d.Balanced) : d.Conserved := by
  have apart : (d.dropped ++ d.activeHandles).Nodup := balanced.nodup consistent.created_nodup
  obtain ⟨once, -, disjoint⟩ := List.nodup_append.mp apart
  refine ⟨?_, consistent.created_nodup, once, fun handle => ?_, fun handle active => ?_⟩
  · rw [balanced.length_eq, List.length_append]
  · rw [balanced.mem_iff, List.mem_append]
    constructor
    · exact fun gone => ⟨.inl gone, fun active => disjoint handle gone handle active rfl⟩
    · exact fun ⟨made, inactive⟩ => made.resolve_right inactive
  · exact ⟨consistent.active_created handle active, live_of_active consistent active⟩

/-- Nothing of the dispatcher is left: each engine that was made has been dropped once. -/
structure Released (before after : Dispatcher K) : Prop where
  created : after.created = before.created
  dropped_once : after.dropped.Nodup
  dropped_iff : ∀ handle, handle ∈ after.dropped ↔ handle ∈ before.created
  inactive : after.activeHandles = []

theorem Balanced.released (consistent : d.Consistent) (balanced : d.Balanced) :
    d.Released d.disposeAll := by
  obtain ⟨dropped, created⟩ := disposeAll_live consistent
  have all : d.disposeAll.dropped ~ d.created := by
    rw [dropped]
    calc d.activeHandles.reverse ++ d.dropped
      _ ~ d.activeHandles ++ d.dropped := d.activeHandles.reverse_perm.append_right _
      _ ~ d.dropped ++ d.activeHandles := List.perm_append_comm
      _ ~ d.created := balanced.symm
  exact ⟨created, all.symm.nodup consistent.created_nodup, fun _ => all.mem_iff, rfl⟩

/-- Whatever the engines do, and however many operations follow one another: each engine that was
made is in the table or has been dropped, and once the dispatcher is gone each of them has been
dropped exactly once. -/
theorem engines_conserved (settings : Settings) (plan : K.Plan) (ops : List Operation) :
    ((ofSettings settings plan : Dispatcher K).after ops).Conserved ∧
      ((ofSettings settings plan : Dispatcher K).after ops).Released
        ((ofSettings settings plan).after ops).disposeAll := by
  have consistent : ((ofSettings settings plan : Dispatcher K).after ops).Consistent :=
    after_consistent (ofSettings_consistent settings plan) ops
  have balanced : ((ofSettings settings plan : Dispatcher K).after ops).Balanced :=
    Balanced.after (ofSettings_consistent settings plan) (List.Perm.refl []) ops
  exact ⟨balanced.conserved consistent, balanced.released consistent⟩

end Dispatcher

end ScriptHost
