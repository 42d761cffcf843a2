import ScriptHost.Proofs.Worker.Step

/-! Commands are carried out in the order in which they were queued, each on the engine as the
one before left it, until a result is fatal or the next job is a disposal.

Every call of `run` comes back once: with the result of its own command, or without one
if its command was turned away or dropped, and then it is not carried out later either. -/

namespace ScriptHost

variable {K : EngineKind}

namespace Worker

/-- The results of commands after one another, and the engine after them. -/
def replay (engine : K.Engine) : List Command → List (Except EngineError Datum) × K.Engine
  | [] => ([], engine)
  | command :: rest =>
    let (results, final) := replay (engineAfter command engine) rest
    (resultOf command engine :: results, final)

theorem replay_snoc (engine : K.Engine) (commands : List Command) (command : Command) :
    replay engine (commands ++ [command]) =
      ((replay engine commands).1 ++ [resultOf command (replay engine commands).2],
        engineAfter command (replay engine commands).2) := by
  induction commands generalizing engine with
  | nil => rfl
  | cons first rest ih => simp only [List.cons_append, replay, ih]

/-- No result is fatal. -/
def Unbroken (xs : List Execution) : Prop := ∀ x ∈ xs, fatal x.result = false

/-- What the place of the thread says about the jobs that were received, the commands that were
carried out and the jobs that were dropped. -/
def Stands (engine : K.Engine) (received : List Job) (done : List Execution)
    (dropped : List Job) : Thread K → Prop
  | .receiving e =>
    received = done.map Execution.job ∧ e = (replay engine (done.map Execution.command)).2 ∧
      Unbroken done ∧ dropped = []
  | .working e caller command =>
    received = done.map Execution.job ++ [.run caller command] ∧
      e = (replay engine (done.map Execution.command)).2 ∧ Unbroken done ∧ dropped = []
  | .judging e caller result | .answering e caller result =>
    received = done.map Execution.job ∧ e = (replay engine (done.map Execution.command)).2 ∧
      (∃ before command, done = before ++ [⟨caller, command, result⟩] ∧ Unbroken before) ∧
      dropped = []
  | .leaving e disposer =>
    received = done.map Execution.job ++ disposer.toList.map Job.dispose ∧
      e = (replay engine (done.map Execution.command)).2 ∧ Unbroken done.dropLast ∧ dropped = []
  | .discarding e disposer =>
    received = done.map Execution.job ++ disposer.toList.map Job.dispose ∧
      e = (replay engine (done.map Execution.command)).2 ∧ Unbroken done.dropLast
  | .parting disposer =>
    received = done.map Execution.job ++ disposer.toList.map Job.dispose ∧ Unbroken done.dropLast
  | .ended =>
    (∃ disposer : Option Nat, received =
      done.map Execution.job ++ disposer.toList.map Job.dispose) ∧ Unbroken done.dropLast

/-- Jobs are received in the order in which they were queued, and what the engine did is what it
does when the received commands are run after one another. -/
structure InOrder (engine : K.Engine) (trace : List Event) (s : Shared K) : Prop where
  fifo : sent trace = received trace ++ discarded trace ++ s.queue
  results : (executed trace).map Execution.result =
    (replay engine ((executed trace).map Execution.command)).1
  stands : Stands engine (received trace) (executed trace) (discarded trace) s.state

variable {engine : K.Engine} {trace : List Event} {s s' : Shared K} {event : Event}

theorem InOrder.start (engine : K.Engine) : InOrder engine [] (.start engine) where
  fifo := rfl
  results := rfl
  stands := ⟨rfl, rfl, fun _ member => absurd member List.not_mem_nil, rfl⟩

theorem Unbroken.dropLast {xs : List Execution} (unbroken : Unbroken xs) : Unbroken xs.dropLast :=
  fun x member => unbroken x (List.dropLast_subset _ member)

theorem Unbroken.snoc {xs : List Execution} {x : Execution} (unbroken : Unbroken xs)
    (alive : fatal x.result = false) : Unbroken (xs ++ [x]) := by
  intro y member
  rcases List.mem_append.mp member with member | member
  · exact unbroken y member
  · rw [List.mem_singleton.mp member]
    exact alive

theorem InOrder.step (inOrder : InOrder engine trace s) (step : Step s event s') :
    InOrder engine (trace ++ [event]) s' := by
  obtain ⟨fifo, results, stands⟩ := inOrder
  cases step with
  | call | look | clone | turnedAway | unsent | take | miss | dispose | disposeLook | disposeTake
  | disposeLate | disposeUnsent | disposeDone | reach | join | joinLate | joined =>
    exact ⟨by simpa using fifo, by simpa using results, by simpa using stands⟩
  | send stage held | disposeSend stage held =>
    refine ⟨?_, by simpa using results, by simpa using stands⟩
    simp only [sent_snoc, received_snoc, discarded_snoc, fifo]
    simp
  | receive place shape =>
    rw [place] at stands
    obtain ⟨received, current, unbroken, dropped⟩ := stands
    exact ⟨by simp [fifo, shape, dropped], by simpa using results,
      by simpa [Stands, received] using ⟨current, unbroken, dropped⟩⟩
  | receiveDispose place shape =>
    rw [place] at stands
    obtain ⟨received, current, unbroken, dropped⟩ := stands
    exact ⟨by simp [fifo, shape, dropped], by simpa using results,
      by simpa [Stands, received] using ⟨current, unbroken.dropLast, dropped⟩⟩
  | starve place shape =>
    rw [place] at stands
    obtain ⟨received, current, unbroken, dropped⟩ := stands
    exact ⟨by simpa using fifo, by simpa using results,
      by simpa [Stands, received] using ⟨current, unbroken.dropLast, dropped⟩⟩
  | execute place =>
    rw [place] at stands
    obtain ⟨received, current, unbroken, dropped⟩ := stands
    refine ⟨by simpa using fifo, by simp [results, replay_snoc, current], ?_⟩
    refine ⟨by simp [received, Execution.job], by simp [replay_snoc, current], ?_,
      by simpa using dropped⟩
    exact ⟨executed trace, _, executed_snoc trace _, unbroken⟩
  | judge place =>
    rw [place] at stands
    exact ⟨by simpa using fifo, by simpa using results, by simpa [Stands] using stands⟩
  | answer place =>
    rw [place] at stands
    obtain ⟨received, current, ⟨before, command, last, unbroken⟩, dropped⟩ := stands
    refine ⟨by simpa using fifo, by simpa using results, ?_⟩
    dsimp only
    split
    · refine ⟨by simpa using received, by simpa using current, ?_, by simpa using dropped⟩
      simpa [last] using unbroken
    · rename_i alive
      refine ⟨by simpa using received, by simpa using current, ?_, by simpa using dropped⟩
      simpa [last] using unbroken.snoc (Bool.not_eq_true _ ▸ alive)
  | close place =>
    rw [place] at stands
    obtain ⟨received, current, unbroken, dropped⟩ := stands
    exact ⟨by simpa using fifo, by simpa using results,
      by simpa [Stands] using ⟨received, current, unbroken⟩⟩
  | discard place shape =>
    rw [place] at stands
    exact ⟨by simp [fifo, shape], by simpa using results, by simpa [Stands, place] using stands⟩
  | drop place =>
    rw [place] at stands
    obtain ⟨received, current, unbroken⟩ := stands
    exact ⟨by simpa using fifo, by simpa using results,
      by simpa [Stands] using ⟨received, unbroken⟩⟩
  | part place | acknowledge place =>
    rw [place] at stands
    obtain ⟨received, unbroken⟩ := stands
    exact ⟨by simpa using fifo, by simpa using results,
      by simpa [Stands] using ⟨⟨_, received⟩, unbroken⟩⟩

end Worker

end ScriptHost

/-! ### The calls and their answers -/

namespace ScriptHost

variable {K : EngineKind}

open Job

/-- Whose call of `run` an event belongs to. -/
def Event.runner? : Event → Option Nat
  | .called caller _ | .returned caller _ => some caller
  | .sent job => job.runner?
  | _ => none

namespace Worker

/-- The command was carried out with this result. -/
def Carried (trace : List Event) (caller : Nat) (result : Except EngineError Datum) : Prop :=
  ∃ x ∈ executed trace, x.caller = caller ∧ x.result = result

/-- What was sent is gone, or nothing was. -/
def Lost (trace : List Event) (caller : Nat) : Prop :=
  caller ∈ runners (discarded trace) ∨ caller ∉ runners (sent trace)

/-- What the stage of a call says about what happened to it so far. -/
def CallStands (trace : List Event) (caller : Nat) : RunStage → Prop
  | .idle =>
    caller ∉ (calls trace).map Prod.fst ∧ caller ∉ runners (sent trace) ∧
      caller ∉ (returns trace).map Prod.fst
  | .entered command | .looking command | .sending command =>
    (caller, command) ∈ calls trace ∧ caller ∉ runners (sent trace) ∧
      caller ∉ (returns trace).map Prod.fst
  | .waiting => caller ∉ (returns trace).map Prod.fst
  | .returned result => (caller, result) ∈ returns trace

/-- The accounts of all calls of `run`. -/
structure Accounts (trace : List Event) (s : Shared K) : Prop where
  stages : ∀ caller, CallStands trace caller (s.runs caller)
  called_once : ((calls trace).map Prod.fst).Nodup
  sent_once : (runners (sent trace)).Nodup
  returned_once : ((returns trace).map Prod.fst).Nodup
  own : ∀ caller command, .run caller command ∈ sent trace → (caller, command) ∈ calls trace
  full : ∀ caller result, s.replies caller = .full result → Carried trace caller result
  closed : ∀ caller, s.replies caller = .closed → caller ∈ runners (discarded trace)
  fate : ∀ caller result, (caller, result) ∈ returns trace →
    Carried trace caller result ∨ result = .error .terminated ∧ Lost trace caller

variable {trace : List Event} {s s' : Shared K} {event : Event} {caller : Nat}

theorem Accounts.start (engine : K.Engine) : Accounts [] (.start engine) where
  stages _ := ⟨List.not_mem_nil, List.not_mem_nil, List.not_mem_nil⟩
  called_once := .nil
  sent_once := .nil
  returned_once := .nil
  own _ _ member := absurd member List.not_mem_nil
  full _ _ full := by cases full
  closed _ closed := by cases closed
  fate _ _ member := absurd member List.not_mem_nil

theorem CallStands.other {stage : RunStage} (stands : CallStands trace caller stage)
    (other : event.runner? ≠ some caller) : CallStands (trace ++ [event]) caller stage := by
  cases stage <;> cases event <;> simp_all [CallStands, Event.runner?, eq_comm]

theorem Accounts.at {stage : RunStage} (accounts : Accounts trace s)
    (held : s.runs caller = stage) : CallStands trace caller stage :=
  held ▸ accounts.stages caller

/-- The stages of all calls, when one has moved on. -/
theorem Accounts.moved {stage : RunStage} (accounts : Accounts trace s)
    (own : CallStands trace caller stage) (other : Nat) :
    CallStands trace other (Function.update s.runs caller stage other) :=
  (Function.forall_update_iff s.runs (CallStands trace)).mpr
    ⟨own, fun other _ => accounts.stages other⟩ other

/-- The stages of all calls, when one has moved on and been seen to. -/
theorem Accounts.seen {stage : RunStage} (accounts : Accounts trace s)
    (runner : event.runner? = some caller) (own : CallStands (trace ++ [event]) caller stage)
    (other : Nat) :
    CallStands (trace ++ [event]) other (Function.update s.runs caller stage other) :=
  (Function.forall_update_iff s.runs (CallStands (trace ++ [event]))).mpr
    ⟨own, fun other differs => (accounts.stages other).other (by simpa [runner] using differs.symm)⟩
    other

theorem nodup_snoc {xs : List Nat} {x : Nat} (once : xs.Nodup) (fresh : x ∉ xs) :
    (xs ++ [x]).Nodup := by
  rw [List.nodup_append]
  refine ⟨once, by simp, fun y member z single same => ?_⟩
  rw [List.mem_singleton.mp single] at same
  exact fresh (same ▸ member)

theorem Carried.later {result : Except EngineError Datum} (carried : Carried trace caller result)
    (event : Event) : Carried (trace ++ [event]) caller result := by
  obtain ⟨x, member, shape⟩ := carried
  exact ⟨x, by simp [member], shape⟩

theorem Lost.later (lost : Lost trace caller) (other : event.runner? ≠ some caller) :
    Lost (trace ++ [event]) caller := by
  rcases lost with gone | unsent
  · exact .inl (by simp [gone])
  · refine .inr ?_
    cases event <;> simp_all [Event.runner?, eq_comm]

/-- Events of no call of `run`. -/
theorem Accounts.aside (accounts : Accounts trace s) (unseen : event.runner? = none)
    (stages : ∀ caller, CallStands trace caller (s'.runs caller))
    (full : ∀ caller result, s'.replies caller = .full result → Carried trace caller result)
    (closed : ∀ caller, s'.replies caller = .closed →
      caller ∈ runners (discarded (trace ++ [event]))) :
    Accounts (trace ++ [event]) s' := by
  have others (caller : Nat) : event.runner? ≠ some caller := by simp [unseen]
  have called : calls (trace ++ [event]) = calls trace := by
    cases event <;> simp_all [Event.runner?]
  have returned : returns (trace ++ [event]) = returns trace := by
    cases event <;> simp_all [Event.runner?]
  have sent : runners (sent (trace ++ [event])) = runners (sent trace) := by
    cases event <;> simp_all [Event.runner?]
  refine ⟨fun caller => (stages caller).other (others caller), ?_, ?_, ?_, ?_,
    fun caller result held => (full caller result held).later event, closed, ?_⟩
  · rw [called]
    exact accounts.called_once
  · rw [sent]
    exact accounts.sent_once
  · rw [returned]
    exact accounts.returned_once
  · intro caller command queued
    rw [called]
    apply accounts.own
    cases event <;> simp_all [Event.runner?]
    rcases queued with queued | rfl
    · exact queued
    · cases unseen
  · intro caller result gave
    rw [returned] at gave
    rcases accounts.fate caller result gave with carried | ⟨none, lost⟩
    · exact .inl (carried.later event)
    · exact .inr ⟨none, lost.later (others caller)⟩

/-- A call that comes back, with a result or without one. -/
theorem Accounts.give {result : Except EngineError Datum} (accounts : Accounts trace s)
    (fresh : caller ∉ (returns trace).map Prod.fst)
    (fate : Carried trace caller result ∨ result = .error .terminated ∧ Lost trace caller)
    (runs : s'.runs = Function.update s.runs caller (.returned result))
    (replies : s'.replies = s.replies) :
    Accounts (trace ++ [.returned caller result]) s' := by
  refine ⟨?_, by simpa using accounts.called_once, by simpa using accounts.sent_once, ?_, ?_, ?_,
    ?_, ?_⟩
  · rw [runs]
    exact accounts.seen rfl (by simp [CallStands])
  · rw [returns_snoc, Event.returned?, Option.toList_some, List.map_append, List.map_singleton]
    exact nodup_snoc accounts.returned_once fresh
  · intro other command queued
    simpa using accounts.own other command (by simpa using queued)
  · intro other held full
    exact (accounts.full other held (by rwa [← replies])).later _
  · intro other closed
    have dropped := accounts.closed other (by rwa [← replies])
    simpa using dropped
  · intro other held gave
    simp only [returns_snoc, Event.returned?, Option.toList_some, List.mem_append,
      List.mem_singleton, Prod.mk.injEq] at gave
    have kept : ∀ c, Lost trace c → Lost (trace ++ [.returned caller result]) c := by
      intro c lost
      simpa [Lost] using lost
    rcases gave with gave | ⟨rfl, rfl⟩
    · exact (accounts.fate other held gave).imp (Carried.later · _) (And.imp_right (kept other))
    · exact fate.imp (Carried.later · _) (And.imp_right (kept other))

theorem Accounts.step {engine : K.Engine} (accounts : Accounts trace s)
    (inOrder : InOrder engine trace s) (step : Step s event s') :
    Accounts (trace ++ [event]) s' := by
  cases step with
  | dispose | disposeLook | disposeTake | disposeLate | disposeSend | disposeUnsent | disposeDone
  | reach | join | joinLate | joined | receive | receiveDispose | starve | execute | judge | close
  | drop | part | acknowledge =>
    exact accounts.aside rfl accounts.stages accounts.full (by simpa using accounts.closed)
  | call command stage =>
    obtain ⟨uncalled, unsent, unreturned⟩ := accounts.at stage
    refine ⟨?_, ?_, by simpa using accounts.sent_once, by simpa using accounts.returned_once, ?_,
      ?_, by simpa using accounts.closed, ?_⟩
    · refine accounts.seen rfl ?_
      simpa [CallStands] using ⟨unsent, by simpa using unreturned⟩
    · rw [calls_snoc, Event.call?, Option.toList_some, List.map_append, List.map_singleton]
      exact nodup_snoc accounts.called_once uncalled
    · intro other given queued
      simpa using .inl (accounts.own other given (by simpa using queued))
    · intro other result full
      exact (accounts.full other result full).later _
    · intro other result gave
      have kept := accounts.fate other result (by simpa using gave)
      exact kept.imp (Carried.later · _) (And.imp_right fun lost => by simpa [Lost] using lost)
  | look stage _ | clone stage _ =>
    have moved := accounts.at stage
    exact accounts.aside rfl (accounts.moved moved) accounts.full (by simpa using accounts.closed)
  | turnedAway stage gone | unsent stage gone =>
    obtain ⟨-, unsent, unreturned⟩ := accounts.at stage
    exact accounts.give unreturned (.inr ⟨rfl, .inr unsent⟩) rfl rfl
  | send stage held =>
    obtain ⟨called, unsent, unreturned⟩ := accounts.at stage
    refine ⟨?_, by simpa using accounts.called_once, ?_, by simpa using accounts.returned_once, ?_,
      ?_, by simpa using accounts.closed, ?_⟩
    · refine accounts.seen rfl ?_
      simpa [CallStands] using unreturned
    · simpa using nodup_snoc accounts.sent_once unsent
    · intro other command queued
      simp only [sent_snoc, Event.sent?, Option.toList_some, List.mem_append, List.mem_singleton,
        Job.run.injEq] at queued
      suffices own : (other, command) ∈ calls trace by simpa using own
      rcases queued with queued | ⟨rfl, rfl⟩
      · exact accounts.own other command queued
      · exact called
    · intro other result full
      exact (accounts.full other result full).later _
    · intro other result gave
      have gave : (other, result) ∈ returns trace := by simpa using gave
      refine (accounts.fate other result gave).imp (Carried.later · _)
        (And.imp_right fun lost => ?_)
      refine lost.later fun same => unreturned ?_
      cases same
      exact List.mem_map_of_mem gave
  | take stage held =>
    exact accounts.give (accounts.at stage) (.inl (accounts.full _ _ held)) rfl rfl
  | miss stage closed =>
    exact accounts.give (accounts.at stage) (.inr ⟨rfl, .inl (accounts.closed _ closed)⟩) rfl rfl
  | @answer _ caller result place =>
    have stands := inOrder.stands
    rw [place] at stands
    obtain ⟨-, -, ⟨before, command, last, -⟩, -⟩ := stands
    have carried : Carried trace caller result :=
      ⟨⟨caller, command, result⟩, by simp [last], rfl, rfl⟩
    refine accounts.aside rfl accounts.stages ?_ ?_
    · intro other given full
      by_cases same : other = caller
      · subst same
        simp only [Shared.replied, Function.update_self, Reply.full.injEq] at full
        exact full ▸ carried
      · simp only [Shared.replied, Function.update_of_ne same] at full
        exact accounts.full other given full
    · intro other closed
      by_cases same : other = caller
      · simp [same] at closed
      · simp only [Shared.replied, Function.update_of_ne same] at closed
        simpa using accounts.closed other closed
  | @discard _ _ job _ place shape =>
    refine accounts.aside rfl (by simpa using accounts.stages) ?_ ?_
    · intro other result full
      apply accounts.full
      cases job with
      | dispose disposer => exact full
      | run caller command =>
        by_cases same : other = caller
        · simp [Shared.closing, same] at full
        · simpa [Shared.closing, Function.update_of_ne same] using full
    · intro other closed
      cases job with
      | dispose disposer => simpa using accounts.closed other closed
      | run caller command =>
        by_cases same : other = caller
        · simp [same]
        · simp only [Shared.closing, Shared.replied, Function.update_of_ne same] at closed
          simpa using .inl (accounts.closed other closed)

end Worker

end ScriptHost
