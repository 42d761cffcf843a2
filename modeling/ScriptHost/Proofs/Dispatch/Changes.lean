import ScriptHost.Proofs.Dispatch.Respond

/-! Whatever an operation does to the dispatcher is a sequence of a few small changes: an
attempt to make an engine, an engine that joins the table, one that leaves it, one that
becomes the default, and the new state of one after a command. What each change keeps,
every run of operations keeps. -/

namespace ScriptHost

variable {K : EngineKind}

namespace Dispatcher

open Dispatch

variable {d : Dispatcher K}

/-- The changes that operations are made of, the log left aside. -/
inductive Change : Dispatcher K → Dispatcher K → Prop where
  | attempt (d : Dispatcher K) (plan : K.Plan) : Change d (d.attempted plan)
  | join (d : Dispatcher K) (engine : K.Engine) (plan : K.Plan) :
      Change d (d.joined (.live d.next engine) plan)
  | elect (d : Dispatcher K) {handle : Nat} (active : handle ∈ d.activeHandles) :
      Change d { d with default := some handle }
  | dismiss (d : Dispatcher K) (handle : Nat) : Change d (d.dismissed handle)
  | update (d : Dispatcher K) (handle : Nat) (engine : K.Engine) :
      Change d (d.update (.live handle engine))

abbrev Changes : Dispatcher K → Dispatcher K → Prop := Relation.ReflTransGen Change

theorem Change.consistent {before after : Dispatcher K} (change : Change before after)
    (consistent : before.Consistent) : after.Consistent := by
  cases change with
  | attempt plan => exact consistent.attempted plan
  | join engine plan => exact consistent.joined engine plan
  | elect active => exact consistent.withDefault active
  | dismiss handle => exact consistent.dismissed handle
  | update handle engine => exact consistent.update handle engine

theorem made_changes (limits : EngineLimits) (d : Dispatcher K) :
    Changes d (d.made limits).2 := by
  obtain ⟨e, plan, shape⟩ | ⟨engine, plan, shape⟩ := made_cases limits d <;> rw [shape]
  · exact .single (.attempt d plan)
  · exact .single (.join d engine plan)

theorem resolved_changes (consistent : d.Consistent) (handle : Option Nat) :
    Changes d (d.resolved handle).2 := by
  obtain ⟨e, shape⟩ | ⟨key, engine, -, shape⟩ | ⟨e, plan, -, shape⟩ | ⟨engine, plan, -, shape⟩ :=
    resolved_cases consistent handle <;> rw [shape]
  · exact .single (.attempt d plan)
  · refine .tail (.single (.join d engine plan)) (.elect _ ?_)
    simp [activeHandles_joined]

theorem carried_cases (command : Command) (handle : Nat) (engine : K.Engine) (d : Dispatcher K) :
    (∃ e, d.carried command (.live handle engine) = (.error e, d.dismissed handle)) ∨
    (∃ answer final, d.carried command (.live handle engine) =
      (answer, d.update (.live handle final))) := by
  unfold carried
  rcases ran : Worker.run command (.live handle engine) with ⟨result, log, next⟩
  split
  · exact .inl ⟨_, rfl⟩
  · exact .inl ⟨_, rfl⟩
  · rename_i notFatal _ shape
    simp only [Prod.mk.injEq] at shape
    obtain ⟨rfl, rfl, rfl⟩ := shape
    obtain ⟨reason, rfl⟩ | ⟨final, rfl⟩ := Worker.run_live_next ran
    · exact absurd rfl (notFatal reason)
    · exact .inr ⟨_, final, rfl⟩

theorem answered_changes (consistent : d.Consistent) (handle : Option Nat) (request : Request) :
    Changes d (d.answered handle request).2 := by
  unfold answered
  cases request with
  | create options =>
    have changes := made_changes (d.limits.withOptions options) d
    rcases ran : d.made (d.limits.withOptions options) with ⟨e | worker, after⟩ <;>
      simpa only [ran] using changes
  | dispose =>
    cases handle with
    | none => exact .refl
    | some handle =>
      cases found : d.worker? handle with
      | none => simpa only [found] using .refl
      | some worker => simpa only [found] using .single (.dismiss d handle)
  | command command =>
    have changes := resolved_changes consistent handle
    rcases ran : d.resolved handle with ⟨e | worker, after⟩
    · simpa only [ran] using changes
    · obtain ⟨key, engine, rfl⟩ := resolved_live consistent ran
      simp only [ran] at changes ⊢
      obtain ⟨e, shape⟩ | ⟨answer, final, shape⟩ := carried_cases command key engine after <;>
        rw [shape]
      · exact changes.tail (.dismiss after key)
      · exact changes.tail (.update after key final)

theorem respond_changes (consistent : d.Consistent) (op : Operation) :
    Changes d (d.respond op).2 := by
  unfold respond
  cases admitted d.codec op with
  | error e => exact .refl
  | ok request => exact answered_changes consistent op.handle request

theorem Changes.consistent {before after : Dispatcher K} (changes : Changes before after)
    (consistent : before.Consistent) : after.Consistent := by
  induction changes with
  | refl => exact consistent
  | tail _ change ih => exact change.consistent ih

/-- What operations can do to the handles: they give new ones, and only new ones become
active. -/
structure Advance (before after : Dispatcher K) : Prop where
  next_le : before.next ≤ after.next
  created_suffix : before.created <:+ after.created
  active_new : ∀ handle ∈ after.activeHandles, handle ∈ before.activeHandles ∨ before.next ≤ handle

theorem Advance.refl (d : Dispatcher K) : Advance d d :=
  ⟨Nat.le_refl _, List.suffix_rfl, fun _ => .inl⟩

theorem Advance.trans {first second third : Dispatcher K} (a : Advance first second)
    (b : Advance second third) : Advance first third where
  next_le := Nat.le_trans a.next_le b.next_le
  created_suffix := a.created_suffix.trans b.created_suffix
  active_new handle active := by
    rcases b.active_new handle active with active | later
    · exact a.active_new handle active
    · exact .inr (Nat.le_trans a.next_le later)

theorem Change.advance {before after : Dispatcher K} (change : Change before after) :
    Advance before after := by
  cases change with
  | attempt plan => exact ⟨Nat.le_succ _, List.suffix_rfl, fun _ => .inl⟩
  | join engine plan =>
    refine ⟨Nat.le_succ _, List.suffix_cons _ _, fun handle active => ?_⟩
    rw [activeHandles_joined, List.mem_append, List.mem_singleton] at active
    exact active.imp_right fun isNext => Nat.le_of_eq isNext.symm
  | elect active => exact ⟨Nat.le_refl _, List.suffix_rfl, fun _ => .inl⟩
  | dismiss handle =>
    refine ⟨Nat.le_refl _, List.suffix_rfl, fun other active => .inl ?_⟩
    have kept : other ∈ (before.remove handle).activeHandles := active
    rw [activeHandles_remove] at kept
    exact (List.mem_filter.mp kept).1
  | update handle engine =>
    refine ⟨Nat.le_refl _, List.suffix_rfl, fun other active => .inl ?_⟩
    rwa [activeHandles_update] at active

theorem Changes.advance {before after : Dispatcher K} (changes : Changes before after) :
    Advance before after := by
  induction changes with
  | refl => exact .refl _
  | tail _ change ih => exact ih.trans change.advance

/-- The state after operations dispatched one after another. -/
def after (ops : List Operation) (d : Dispatcher K) : Dispatcher K :=
  ops.foldl (fun d op => ((dispatch op).run d).2) d

theorem dispatch_changes (consistent : d.Consistent) (op : Operation) :
    Changes d.unlogged (exec (dispatch op) d).2.unlogged := by
  have changes := respond_changes (consistent_unlogged.mpr consistent) op
  rw [← effect_dispatch consistent op] at changes
  exact changes

theorem dispatch_consistent (consistent : d.Consistent) (op : Operation) :
    (exec (dispatch op) d).2.Consistent :=
  consistent_unlogged.mp
    ((dispatch_changes consistent op).consistent (consistent_unlogged.mpr consistent))

theorem dispatch_advance (consistent : d.Consistent) (op : Operation) :
    Advance d (exec (dispatch op) d).2 := by
  obtain ⟨le, suffix, new⟩ := (dispatch_changes consistent op).advance
  exact ⟨le, suffix, new⟩

theorem after_consistent (consistent : d.Consistent) (ops : List Operation) :
    (d.after ops).Consistent := by
  induction ops generalizing d with
  | nil => exact consistent
  | cons op rest ih => exact ih (dispatch_consistent consistent op)

theorem after_advance (consistent : d.Consistent) (ops : List Operation) :
    Advance d (d.after ops) := by
  induction ops generalizing d with
  | nil => exact .refl d
  | cons op rest ih =>
    exact (dispatch_advance consistent op).trans (ih (dispatch_consistent consistent op))

theorem ofSettings_consistent (settings : Settings) (plan : K.Plan) :
    (ofSettings settings plan).Consistent where
  next_pos := Nat.one_pos
  created_below _ member := absurd member List.not_mem_nil
  created_ordered := .nil
  active_created _ member := absurd member List.not_mem_nil
  active_ordered := .nil
  live _ member := absurd member List.not_mem_nil
  default_active _ isDefault := by cases isDefault

/-- States that operations dispatched one after another lead to. -/
def Reachable (d : Dispatcher K) : Prop :=
  ∃ settings plan ops, (ofSettings settings plan).after ops = d

theorem Reachable.consistent (reachable : d.Reachable) : d.Consistent := by
  obtain ⟨settings, plan, ops, rfl⟩ := reachable
  exact after_consistent (ofSettings_consistent settings plan) ops

end Dispatcher

end ScriptHost
