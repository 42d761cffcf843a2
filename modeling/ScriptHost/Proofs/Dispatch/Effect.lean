import Mathlib
import ScriptHost.Dispatch.Dispatcher

/-! What an operation does to a dispatcher, the log left aside: a plain function from the
state before to the answer and the state after. The log says what happened and decides
nothing, so what an operation answers and leaves behind is stated without it. -/

namespace ScriptHost

variable {K : EngineKind} {α β : Type}

namespace Dispatcher

/-- The state without what was logged. -/
def unlogged (d : Dispatcher K) : Dispatcher K := { d with log := [] }

@[simp] theorem unlogged_record (d : Dispatcher K) (records : List Log.Record) :
    (d.record records).unlogged = d.unlogged := rfl

@[simp] theorem unlogged_unlogged (d : Dispatcher K) : d.unlogged.unlogged = d.unlogged := rfl

@[simp] theorem unlogged_engines (d : Dispatcher K) : d.unlogged.engines = d.engines := rfl

@[simp] theorem unlogged_next (d : Dispatcher K) : d.unlogged.next = d.next := rfl

@[simp] theorem unlogged_default (d : Dispatcher K) : d.unlogged.default = d.default := rfl

@[simp] theorem unlogged_created (d : Dispatcher K) : d.unlogged.created = d.created := rfl

@[simp] theorem unlogged_settings (d : Dispatcher K) : d.unlogged.settings = d.settings := rfl

@[simp] theorem unlogged_limits (d : Dispatcher K) : d.unlogged.limits = d.limits := rfl

@[simp] theorem unlogged_plan (d : Dispatcher K) : d.unlogged.plan = d.plan := rfl

@[simp] theorem unlogged_codec (d : Dispatcher K) : d.unlogged.codec = d.codec := rfl

@[simp] theorem unlogged_worker? (d : Dispatcher K) (handle : Nat) :
    d.unlogged.worker? handle = d.worker? handle := rfl

@[simp] theorem unlogged_activeHandles (d : Dispatcher K) :
    d.unlogged.activeHandles = d.activeHandles := rfl

end Dispatcher

namespace Dispatch

/-- The answer and the final state. -/
def exec (m : Dispatch K α) (d : Dispatcher K) : Except DispatchError α × Dispatcher K := m.run d

@[simp] theorem exec_pure (a : α) (d : Dispatcher K) : exec (pure a) d = (.ok a, d) := rfl

@[simp] theorem exec_throw (e : DispatchError) (d : Dispatcher K) :
    exec (throw e : Dispatch K α) d = (.error e, d) := rfl

@[simp] theorem exec_get (d : Dispatcher K) : exec get d = (.ok d, d) := rfl

@[simp] theorem exec_set (before after : Dispatcher K) :
    exec (set after) before = (.ok ⟨⟩, after) := rfl

@[simp] theorem exec_modify (f : Dispatcher K → Dispatcher K) (d : Dispatcher K) :
    exec (modify f) d = (.ok ⟨⟩, f d) := rfl

@[simp] theorem exec_bind (m : Dispatch K α) (f : α → Dispatch K β) (d : Dispatcher K) :
    exec (m >>= f) d = match exec m d with
      | (.ok a, after) => exec (f a) after
      | (.error e, after) => (.error e, after) := by
  show StateT.bind m (ExceptT.bindCont f) d = _
  simp only [exec, ExceptT.run, StateT.bind]
  rcases m d with ⟨_ | _, _⟩ <;> rfl

@[simp] theorem exec_tryCatch (m : Dispatch K α) (f : DispatchError → Dispatch K α)
    (d : Dispatcher K) :
    exec (tryCatch m f) d = match exec m d with
      | (.ok a, after) => (.ok a, after)
      | (.error e, after) => exec (f e) after := by
  simp only [exec, tryCatch, tryCatchThe, MonadExceptOf.tryCatch, ExceptT.tryCatch, ExceptT.run,
    ExceptT.mk, bind, StateT.bind]
  rcases m d with ⟨_ | _, _⟩ <;> rfl

/-- The answer, and the final state without its log. -/
def effect (m : Dispatch K α) (d : Dispatcher K) : Except DispatchError α × Dispatcher K :=
  ((exec m d).1, (exec m d).2.unlogged)

theorem effect_of_exec {m : Dispatch K α} {d after : Dispatcher K} {answer : Except DispatchError α}
    (ran : exec m d = (answer, after)) : effect m d = (answer, after.unlogged) := by
  simp [effect, ran]

/-- Steps after one another have their effects after one another, if the later ones do
not depend on the log. -/
theorem effect_bind {m : Dispatch K α} {f : α → Dispatch K β} {d : Dispatcher K}
    (next : α → Dispatcher K → Except DispatchError β × Dispatcher K)
    (follows : ∀ a after, effect m d = (.ok a, after.unlogged) →
      effect (f a) after = next a after.unlogged) :
    effect (m >>= f) d = match effect m d with
      | (.ok a, after) => next a after
      | (.error e, after) => (.error e, after) := by
  rcases ran : exec m d with ⟨_ | a, after⟩
  · simp [effect, ran]
  · have started : effect m d = (.ok a, after.unlogged) := effect_of_exec ran
    rw [started]
    show effect (m >>= f) d = next a after.unlogged
    rw [← follows a after started]
    simp [effect, ran]

end Dispatch

end ScriptHost
