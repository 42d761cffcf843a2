import ScriptHost.Proofs.Worker.Awaits

/-! Calls of a worker come back: as long as one is under way somebody can take a step, and every
step leaves less to be done. -/

namespace ScriptHost

variable {K : EngineKind}

/-- Is the call under way? -/
@[simp] def RunStage.busy : RunStage → Bool
  | .idle | .returned _ => false
  | _ => true

@[simp] def DisposeStage.busy : DisposeStage → Bool
  | .idle | .returned => false
  | _ => true

/-- How many steps are left at most, those of the thread for the job among them. -/
def RunStage.rank : RunStage → Nat
  | .idle => 9
  | .entered _ => 8
  | .looking _ => 7
  | .sending _ => 6
  | .waiting => 1
  | .returned _ => 0

def DisposeStage.rank : DisposeStage → Nat
  | .idle => 12
  | .entered => 11
  | .looking => 10
  | .sending => 9
  | .waiting => 4
  | .leaving => 3
  | .reaching => 2
  | .joining => 1
  | .returned => 0

def Thread.rank : Thread K → Nat
  | .working .. => 7
  | .judging .. => 6
  | .answering .. => 5
  | .receiving _ => 4
  | .leaving .. => 3
  | .discarding .. => 2
  | .parting _ => 1
  | .ended => 0

/-- Whose call begins here. -/
@[simp] def Event.beginner? : Event → Option Nat
  | .called caller _ | .disposing caller => some caller
  | _ => none

/-- A sum over places, when one of them has changed. -/
theorem sum_update {α : Type} (rank : α → Nat) {stages : Nat → α} {stage : α} {places : Finset Nat}
    {place : Nat} (member : place ∈ places) :
    ∑ x ∈ places, rank (Function.update stages place stage x) + rank (stages place) =
      ∑ x ∈ places, rank (stages x) + rank stage := by
  have others : ∑ x ∈ places.erase place, rank (Function.update stages place stage x) =
      ∑ x ∈ places.erase place, rank (stages x) := by
    refine Finset.sum_congr rfl fun x other => ?_
    rw [Function.update_of_ne (Finset.ne_of_mem_erase other)]
  rw [← Finset.add_sum_erase places _ member, ← Finset.add_sum_erase places _ member, others,
    Function.update_self]
  omega

namespace Worker

variable {s s' : Shared K} {event : Event}

/-- A step can be taken by somebody who is under way. -/
def Moves (s : Shared K) : Prop := ∃ event s', Step s event s' ∧ event.begins = false

/-- The thread stands still only at the end, or while there is nothing to do. -/
theorem thread_moves (s : Shared K) :
    Moves s ∨ s.queue = [] ∧ (∃ engine, s.state = .receiving engine) ∨ s.state = .ended := by
  cases place : s.state with
  | receiving engine =>
    cases shape : s.queue with
    | nil => exact .inr (.inl ⟨rfl, engine, rfl⟩)
    | cons job rest =>
      cases job with
      | run caller command => exact .inl ⟨_, _, .receive place shape, rfl⟩
      | dispose caller => exact .inl ⟨_, _, .receiveDispose place shape, rfl⟩
  | working => exact .inl ⟨_, _, .execute place, rfl⟩
  | judging => exact .inl ⟨_, _, .judge place, rfl⟩
  | answering => exact .inl ⟨_, _, .answer place, rfl⟩
  | leaving => exact .inl ⟨_, _, .close place, rfl⟩
  | discarding =>
    cases shape : s.queue with
    | nil => exact .inl ⟨_, _, .drop place shape, rfl⟩
    | cons job rest => exact .inl ⟨_, _, .discard place shape, rfl⟩
  | parting disposer =>
    cases disposer with
    | none => exact .inl ⟨_, _, .part place, rfl⟩
    | some caller => exact .inl ⟨_, _, .acknowledge place, rfl⟩
  | ended => exact .inr (.inr rfl)

/-- Where the thread stands still, nobody's job is in the queue or in its hands. -/
structure Still (s : Shared K) : Prop where
  queue : s.queue = []
  caller : s.state.caller? = none
  disposer : s.state.disposer? = none
  past : s.state.past = true → s.state = .ended

theorem Awaits.still (awaits : Awaits s) : Moves s ∨ Still s := by
  rcases thread_moves s with moves | ⟨empty, engine, place⟩ | place
  · exact .inl moves
  · exact .inr ⟨empty, by simp [place], by simp [place], by simp [place]⟩
  · exact .inr ⟨awaits.drained (by simp [place]), by simp [place], by simp [place], fun _ => place⟩

variable {caller : Nat}

/-- Whoever waits for the thread is told, once it stands still. -/
theorem Awaits.told (awaits : Awaits s) (still : Still s) (stage : s.disposals caller = .waiting) :
    s.acknowledged caller ≠ .pending := by
  intro silent
  rcases awaits.end_ caller stage silent with queued | held
  · rw [still.queue] at queued
    cases queued
  · rw [still.disposer] at held
    cases held

theorem Awaits.moves_dispose (awaits : Awaits s) (still : Still s)
    (has : (s.disposals caller).holdsSender = true) : Moves s := by
  cases stage : s.disposals caller with
  | looking =>
    cases held : s.sender with
    | true => exact ⟨_, _, .disposeTake stage held, rfl⟩
    | false => exact ⟨_, _, .disposeLate stage held, rfl⟩
  | sending =>
    cases held : s.receiver with
    | true => exact ⟨_, _, .disposeSend stage held, rfl⟩
    | false => exact ⟨_, _, .disposeUnsent stage held, rfl⟩
  | waiting => exact ⟨_, _, .disposeDone stage (awaits.told still stage), rfl⟩
  | _ => simp [stage] at has

theorem moves_look (s : Shared K) {command : Command} (stage : s.runs caller = .looking command) :
    Moves s := by
  cases held : s.sender with
  | true => exact ⟨_, _, .clone stage held, rfl⟩
  | false => exact ⟨_, _, .turnedAway stage held, rfl⟩

/-- Whoever has the lock on the sender can go on. -/
theorem Awaits.moves_locked (locks : Locks s) (awaits : Awaits s) (still : Still s) :
    Moves s ∨ s.senderLock = none := by
  cases held : s.senderLock with
  | none => exact .inr rfl
  | some party =>
    cases party with
    | runner caller =>
      have has := (locks.runner caller).mpr held
      cases stage : s.runs caller with
      | looking command => exact .inl (moves_look s stage)
      | _ => simp [stage] at has
    | disposer caller =>
      exact .inl (awaits.moves_dispose still ((locks.disposer caller).mpr held))

/-- Whoever has the lock on the thread can go on: the thread is at its end. -/
theorem Awaits.moves_joining (awaits : Awaits s) (still : Still s)
    (has : (s.disposals caller).holdsThread = true) : Moves s := by
  cases stage : s.disposals caller with
  | reaching =>
    cases held : s.thread with
    | true => exact ⟨_, _, .join stage held, rfl⟩
    | false => exact ⟨_, _, .joinLate stage held, rfl⟩
  | joining =>
    have ended := still.past (awaits.left caller (by simp [stage]))
    exact ⟨_, _, .joined stage ended, rfl⟩
  | _ => simp [stage] at has

theorem Awaits.moves_run (awaits : Awaits s) (still : Still s) (free : s.senderLock = none)
    (busy : (s.runs caller).busy = true) : Moves s := by
  cases stage : s.runs caller with
  | entered command => exact ⟨_, _, .look stage free, rfl⟩
  | looking command => exact moves_look s stage
  | sending command =>
    cases held : s.receiver with
    | true => exact ⟨_, _, .send stage held, rfl⟩
    | false => exact ⟨_, _, .unsent stage held, rfl⟩
  | waiting =>
    cases reply : s.replies caller with
    | pending =>
      rcases awaits.reply caller stage reply with queued | held
      · simp [still.queue, Job.runners] at queued
      · rw [still.caller] at held
        cases held
    | full result => exact ⟨_, _, .take stage reply, rfl⟩
    | closed => exact ⟨_, _, .miss stage reply, rfl⟩
  | _ => simp [stage] at busy

/-- As long as a call is under way, a step can be taken. -/
theorem Awaits.moves (locks : Locks s) (awaits : Awaits s)
    (busy : (s.runs caller).busy = true ∨ (s.disposals caller).busy = true) : Moves s := by
  rcases awaits.still with moves | still
  · exact moves
  rcases awaits.moves_locked locks still with moves | free
  · exact moves
  rcases busy with busy | busy
  · exact awaits.moves_run still free busy
  cases stage : s.disposals caller with
  | entered => exact ⟨_, _, .disposeLook stage free, rfl⟩
  | looking | sending | waiting =>
    have has : (s.disposals caller).holdsSender = true := by rw [stage]; rfl
    exact awaits.moves_dispose still has
  | leaving =>
    cases held : s.threadLock with
    | none => exact ⟨_, _, .reach stage held, rfl⟩
    | some other => exact awaits.moves_joining still ((locks.thread other).mpr held)
  | reaching | joining =>
    have has : (s.disposals caller).holdsThread = true := by rw [stage]; rfl
    exact awaits.moves_joining still has
  | _ => simp [stage] at busy

/-- How many steps are left at most, if only these callers call. -/
def Shared.rest (callers : Finset Nat) (s : Shared K) : Nat :=
  ∑ x ∈ callers, (s.runs x).rank + ∑ x ∈ callers, (s.disposals x).rank + 4 * s.queue.length +
    s.state.rank

theorem rest_start (callers : Finset Nat) (engine : K.Engine) :
    (Shared.start engine).rest callers = 21 * callers.card + 4 := by
  simp [Shared.rest, Shared.start, RunStage.rank, DisposeStage.rank, Thread.rank]
  omega

/-- A call of `run` moves on, with this many more jobs in the queue. -/
theorem rest_run {callers : Finset Nat} {caller k : Nat} {before stage : RunStage}
    (runs : s'.runs = Function.update s.runs caller stage) (disposals : s'.disposals = s.disposals)
    (state : s'.state = s.state) (queue : s'.queue.length = s.queue.length + k)
    (member : caller ∈ callers) (held : s.runs caller = before)
    (lower : stage.rank + (4 * k + 1) ≤ before.rank) : s'.rest callers < s.rest callers := by
  have moved := @sum_update _ RunStage.rank s.runs stage _ _ member
  rw [held] at moved
  rw [Shared.rest, Shared.rest, runs, disposals, state, queue]
  omega

theorem rest_dispose {callers : Finset Nat} {caller k : Nat} {before stage : DisposeStage}
    (runs : s'.runs = s.runs) (disposals : s'.disposals = Function.update s.disposals caller stage)
    (state : s'.state = s.state) (queue : s'.queue.length = s.queue.length + k)
    (member : caller ∈ callers) (held : s.disposals caller = before)
    (lower : stage.rank + (4 * k + 1) ≤ before.rank) : s'.rest callers < s.rest callers := by
  have moved := @sum_update _ DisposeStage.rank s.disposals stage _ _ member
  rw [held] at moved
  rw [Shared.rest, Shared.rest, runs, disposals, state, queue]
  omega

/-- Every step leaves less to be done. -/
theorem Step.rest_lt {callers : Finset Nat} (step : Step s event s')
    (runners : ∀ caller, s.runs caller ≠ .idle → caller ∈ callers)
    (disposers : ∀ caller, s.disposals caller ≠ .idle → caller ∈ callers)
    (beginners : ∀ caller, event.beginner? = some caller → caller ∈ callers) :
    s'.rest callers < s.rest callers := by
  have runner {caller : Nat} {stage : RunStage} (held : s.runs caller = stage)
      (busy : stage ≠ .idle) : caller ∈ callers := runners caller (held ▸ busy)
  have disposer {caller : Nat} {stage : DisposeStage} (held : s.disposals caller = stage)
      (busy : stage ≠ .idle) : caller ∈ callers := disposers caller (held ▸ busy)
  cases step with
  | @call caller command stage =>
    exact rest_run (k := 0) rfl rfl rfl rfl (beginners caller rfl) stage (Nat.le_refl _)
  | @dispose caller stage =>
    exact rest_dispose (k := 0) rfl rfl rfl rfl (beginners caller rfl) stage (Nat.le_refl _)
  | look stage | clone stage | turnedAway stage | unsent stage | take stage | miss stage =>
    exact rest_run (k := 0) rfl rfl rfl rfl (runner stage (by simp)) stage (by simp [RunStage.rank])
  | disposeLook stage | disposeTake stage | disposeLate stage | disposeUnsent stage
  | disposeDone stage | reach stage | join stage | joinLate stage | joined stage =>
    exact rest_dispose (k := 0) rfl rfl rfl rfl (disposer stage (by simp)) stage
      (by simp [DisposeStage.rank])
  | @send caller command stage =>
    exact rest_run (k := 1) rfl rfl rfl (by simp) (runner stage (by simp)) stage (Nat.le_refl _)
  | @disposeSend caller stage =>
    exact rest_dispose (k := 1) rfl rfl rfl (by simp) (disposer stage (by simp)) stage
      (Nat.le_refl _)
  | receive place shape | receiveDispose place shape =>
    simp only [Shared.rest, place, shape, Thread.rank, List.length_cons]
    omega
  | starve place | execute place | judge place | close place | drop place | part place
  | acknowledge place =>
    simp only [Shared.rest, Shared.acknowledge, place, Thread.rank]
    omega
  | @answer engine caller result place =>
    cases fatal result <;> simp [Shared.rest, place, Thread.rank]
  | discard place shape =>
    simp only [Shared.rest, Shared.closing_runs, Shared.closing_disposals, Shared.closing_state,
      shape, List.length_cons]
    omega

/-- A call begins when it is said to. -/
theorem Step.runs_idle (step : Step s event s') (caller : Nat) :
    s'.runs caller = .idle ↔ s.runs caller = .idle ∧ ∀ command, event ≠ .called caller command := by
  cases step with
  | @call other command stage =>
    by_cases same : caller = other
    · simp [same]
    · simp [same, Ne.symm same]
  | @look other command stage | @clone other command stage | @turnedAway other command stage
  | @send other command stage | @unsent other command stage | @take other command stage
  | @miss other stage =>
    by_cases same : caller = other
    · simp [same, stage]
    · simp [same]
  | _ => simp

theorem Step.disposals_idle (step : Step s event s') (caller : Nat) :
    s'.disposals caller = .idle ↔ s.disposals caller = .idle ∧ event ≠ .disposing caller := by
  cases step with
  | @dispose other stage =>
    by_cases same : caller = other
    · simp [same]
    · simp [same, Ne.symm same]
  | @disposeLook other stage | @disposeTake other stage | @disposeLate other stage
  | @disposeSend other stage | @disposeUnsent other stage | @disposeDone other stage
  | @reach other stage | @join other stage | @joinLate other stage | @joined other stage =>
    by_cases same : caller = other
    · simp [same, stage]
    · simp [same]
  | _ => simp

theorem Run.awaits {engine : K.Engine} {trace : List Event} (run : Run (.start engine) trace s) :
    Locks s ∧ Awaits s := by
  induction run with
  | nil => exact ⟨.start engine, .start engine⟩
  | snoc run step ih => exact ⟨ih.1.step step, ih.2.step ih.1 step⟩

end Worker

end ScriptHost
