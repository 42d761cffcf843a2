import Mathlib.Algebra.Ring.Nat
import ScriptHost.Script.Machine

/-! The clock of the machine. Time passes when a task is begun and at no other step, and a machine whose
time is over begins none: what happens then takes the task's place, and a new period starts. So at every
point of a run what is left of the time and the tasks begun so far come to the time that there was at
the start, and to one more period for each time it was over. A machine without a limit never gets
one. -/

namespace ScriptHost.Script

/-- The machine after a step. -/
def Progress.machine : Progress → Machine
  | on m | ended _ m => m

namespace Machine

variable {i : Interpreter} {m : Machine}

/-- Is a task to be begun next? -/
def asks (m : Machine) : Bool :=
  match m.prog with
  | .request .. | .become _ => true
  | _ => false

/-- Is one to be begun when the time is over? -/
def isOverdue (m : Machine) : Bool := m.asks && m.time == some 0

def begins (m : Machine) : Bool := m.asks && m.time != some 0

/-- The time after the next step. -/
def timeLeft (m : Machine) : Option Nat :=
  if m.isOverdue then some grace
  else if m.begins then m.time.map (· - 1)
  else m.time

theorem step_time (i : Interpreter) (m : Machine) : (m.step i).machine.time = m.timeLeft := by
  obtain ⟨prog, heap, coroutines, frames, resumers, time, tripped⟩ := m
  cases prog with
  | done | fail => rcases frames with _ | ⟨_ | _, _⟩ <;> rcases resumers with _ | _ <;> rfl
  | act | guarded | spawn => rfl
  | request | become => rcases time with _ | _ | _ <;> rfl
  | resume =>
    simp only [step]
    split <;> rfl
  | suspend => rcases resumers with _ | _ <;> rfl

/-- When the time is over, what happens then takes the place of the task. -/
theorem step_of_isOverdue (overdue : m.isOverdue) :
    m.step i = .on { m with prog := i.interrupt, time := some grace, tripped := true } := by
  obtain ⟨prog, heap, coroutines, frames, resumers, time, tripped⟩ := m
  obtain ⟨asks, spent⟩ := Bool.and_eq_true_iff.mp overdue
  obtain rfl : time = some 0 := eq_of_beq spent
  cases prog with
  | request | become => rfl
  | _ => cases asks

/-! ### Runs -/

/-- The machines that a run goes through, as long as it makes steps. -/
def passes (i : Interpreter) : Nat → Machine → List Machine
  | 0, _ => []
  | bound + 1, m => m :: match m.step i with
    | .on m => passes i bound m
    | .ended .. => []

/-- The clock goes on from each machine to the next. -/
def Elapses : Option Nat → List Machine → Option Nat → Prop
  | time, [], final => final = time
  | time, m :: rest, final => m.time = time ∧ Elapses m.timeLeft rest final

theorem Elapses.append {time middle final : Option Nat} {before after : List Machine}
    (first : Elapses time before middle) (second : Elapses middle after final) :
    Elapses time (before ++ after) final := by
  induction before generalizing time with
  | nil => exact first ▸ second
  | cons m rest ih => exact ⟨first.1, ih first.2⟩

theorem elapses_passes (i : Interpreter) (bound : Nat) (m : Machine) :
    Elapses m.time (passes i bound m) (run i bound m).2.time := by
  induction bound generalizing m with
  | zero => rfl
  | succ bound ih =>
    refine ⟨rfl, ?_⟩
    have time := step_time i m
    unfold run
    cases stepped : m.step i with
    | on next =>
      rw [stepped] at time
      exact time ▸ ih next
    | ended r last =>
      rw [stepped] at time
      exact time

/-- How many tasks were begun at these machines. -/
def begun (ms : List Machine) : Nat := ms.countP begins

/-- How often the time was over. -/
def interruptions (ms : List Machine) : Nat := ms.countP isOverdue

theorem timeLeft_none (unlimited : m.time = none) : m.timeLeft = none := by
  simp [timeLeft, isOverdue, unlimited]

/-- A step takes from the time what it begins, and adds what an interruption gives. -/
theorem timeLeft_some {left : Nat} (limited : m.time = some left) : ∃ next, m.timeLeft = some next ∧
    next + (if m.begins then 1 else 0) = left + (if m.isOverdue then grace else 0) := by
  cases left with
  | zero => cases asks : m.asks <;> simp [timeLeft, isOverdue, begins, asks, limited]
  | succ left => cases asks : m.asks <;> simp [timeLeft, isOverdue, begins, asks, limited]

theorem Elapses.unlimited {ms : List Machine} {final : Option Nat} (elapses : Elapses none ms final) :
    (∀ m ∈ ms, m.time = none) ∧ final = none := by
  induction ms with
  | nil => exact ⟨by simp, elapses⟩
  | cons m rest ih =>
    obtain ⟨now, later⟩ := elapses
    rw [timeLeft_none now] at later
    obtain ⟨all, last⟩ := ih later
    exact ⟨List.forall_mem_cons.mpr ⟨now, all⟩, last⟩

/-- What is left and what was begun come to the time that there was, and a period for each
interruption. -/
theorem Elapses.remaining {start : Nat} {before later : List Machine} {final : Option Nat}
    (elapses : Elapses (some start) (before ++ m :: later) final) : ∃ left, m.time = some left ∧
      left + begun before = start + grace * interruptions before := by
  induction before generalizing start with
  | nil => exact ⟨start, elapses.1, rfl⟩
  | cons first rest ih =>
    obtain ⟨now, later⟩ := elapses
    obtain ⟨next, after, paid⟩ := timeLeft_some now
    rw [after] at later
    obtain ⟨left, time, sum⟩ := ih later
    refine ⟨left, time, ?_⟩
    simp only [begun, interruptions, List.countP_cons, Nat.mul_add, mul_ite, mul_one, mul_zero]
      at sum ⊢
    omega

end Machine

end ScriptHost.Script
