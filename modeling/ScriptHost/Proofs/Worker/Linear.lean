import ScriptHost.Engine.Scripted
import ScriptHost.Proofs.Worker.Answers
import ScriptHost.Proofs.Worker.Solo

/-! A worker is linear: however its callers and its thread take turns, what happens is what
happens when a prefix of the queue is carried out one command after another.

As long as nobody disposes of a worker, a fatal result is the only thing that ends its
thread, and it is known before any command goes without an answer. -/

namespace ScriptHost

variable {K : EngineKind}

open Job

/-- Engines of this kind do not say that they are gone; their workers do. -/
def EngineKind.NeverTerminated (K : EngineKind) : Prop :=
  ∀ command engine, (K.run command engine).1 ≠ .error .terminated

theorem EngineKind.NeverTerminated.resultOf (never : K.NeverTerminated) (command : Command)
    (engine : K.Engine) : Worker.resultOf command engine ≠ .error .terminated := by
  have given := never command engine
  simp only [Worker.resultOf]
  cases outcome : (K.run command engine).1 with
  | value a => simp [Outcome.caught]
  | error e => simpa [Outcome.caught, outcome] using given
  | panicked p => simp [Outcome.caught]

def Thread.engine? : Thread K → Option K.Engine
  | .receiving e | .working e _ _ | .judging e _ _ | .answering e _ _ | .leaving e _
  | .discarding e _ => some e
  | .parting _ | .ended => none

namespace Worker

/-- The history of a worker, told by what its engine did. -/
structure Linear (engine : K.Engine) (trace : List Event) (s : Shared K) : Prop where
  /-- What was carried out stands at the front of the queue. -/
  order : (executed trace).map Execution.job <+: sent trace
  results : (executed trace).map Execution.result =
    (replay engine ((executed trace).map Execution.command)).1
  state : ∀ e, s.state.engine? = some e →
    e = (replay engine ((executed trace).map Execution.command)).2
  after_fatal : ∀ before x after, executed trace = before ++ x :: after →
    fatal x.result → after = []
  after_dispose : ∀ before caller after, sent trace = before ++ .dispose caller :: after →
    (executed trace).map Execution.job <+: before
  /-- Calls come back once. -/
  once : ((returns trace).map Prod.fst).Nodup
  /-- Each call has one command, and it is that which is carried out. -/
  called_once : ((calls trace).map Prod.fst).Nodup
  own_command : ∀ x ∈ executed trace, (x.caller, x.command) ∈ calls trace
  own_result : ∀ x ∈ executed trace, ∀ result, (x.caller, result) ∈ returns trace →
    result = x.result
  terminated_iff : ∀ caller result, (caller, result) ∈ returns trace →
    (result = .error .terminated ↔ ∀ x ∈ executed trace, x.caller ≠ caller)

variable {engine : K.Engine} {trace : List Event} {s : Shared K} {caller : Nat}

theorem Run.invariants (run : Run (.start engine) trace s) :
    InOrder engine trace s ∧ Accounts trace s := by
  induction run with
  | nil => exact ⟨.start engine, .start engine⟩
  | snoc _ step ih => exact ⟨ih.1.step step, ih.2.step ih.1 step⟩

/-- What was received and is not in the thread's hands was carried out. -/
theorem InOrder.executed_prefix (inOrder : InOrder engine trace s) :
    (executed trace).map Execution.job <+: received trace := by
  have stands := inOrder.stands
  cases held : s.state <;> rw [held] at stands
  case ended =>
    obtain ⟨⟨disposer, received⟩, -⟩ := stands
    exact received ▸ List.prefix_append _ _
  case receiving | judging | answering => exact stands.1 ▸ List.prefix_rfl
  all_goals exact stands.1 ▸ List.prefix_append _ _

theorem InOrder.executed_prefix_sent (inOrder : InOrder engine trace s) :
    (executed trace).map Execution.job <+: sent trace := by
  rw [inOrder.fifo, List.append_assoc]
  exact inOrder.executed_prefix.trans (List.prefix_append _ _)

theorem InOrder.unbroken (inOrder : InOrder engine trace s) :
    Unbroken (executed trace).dropLast := by
  have stands := inOrder.stands
  cases held : s.state <;> rw [held] at stands
  case receiving => exact stands.2.2.1.dropLast
  case working => exact stands.2.2.1.dropLast
  case judging | answering =>
    obtain ⟨-, -, ⟨before, command, last, unbroken⟩, -⟩ := stands
    simpa [last] using unbroken
  case leaving => exact stands.2.2.1
  case discarding => exact stands.2.2
  case parting | ended => exact stands.2

theorem InOrder.engine_eq (inOrder : InOrder engine trace s) {e : K.Engine}
    (held : s.state.engine? = some e) :
    e = (replay engine ((executed trace).map Execution.command)).2 := by
  have stands := inOrder.stands
  cases place : s.state <;> rw [place] at stands held <;> cases held <;> exact stands.2.1

theorem runners_jobs (xs : List Execution) :
    runners (xs.map Execution.job) = xs.map Execution.caller := by
  simp [runners, List.filterMap_map, Function.comp_def, Execution.job]

/-- No command is carried out twice. -/
theorem executed_once (inOrder : InOrder engine trace s) (accounts : Accounts trace s) :
    ((executed trace).map Execution.caller).Nodup := by
  rw [← runners_jobs]
  exact accounts.sent_once.sublist (inOrder.executed_prefix_sent.sublist.filterMap _)

/-- A command that was dropped or never sent is not carried out. -/
theorem Lost.unexecuted (inOrder : InOrder engine trace s) (accounts : Accounts trace s)
    (lost : Lost trace caller) : ∀ x ∈ executed trace, x.caller ≠ caller := by
  rintro x member rfl
  have done : x.caller ∈ runners (received trace) := by
    have held : x.caller ∈ runners ((executed trace).map Execution.job) := by
      rw [runners_jobs]
      exact List.mem_map_of_mem member
    exact (inOrder.executed_prefix.sublist.filterMap _).subset held
  have once := accounts.sent_once
  rw [inOrder.fifo, List.append_assoc, runners_append, runners_append] at once
  rcases lost with gone | unsent
  · have apart := (List.nodup_append.mp once).2.2 _ done x.caller
    exact apart (List.mem_append_left _ gone) rfl
  · apply unsent
    rw [inOrder.fifo, List.append_assoc, runners_append]
    exact List.mem_append_left _ done

theorem mem_replay {commands : List Command} {result : Except EngineError Datum}
    (member : result ∈ (replay engine commands).1) :
    ∃ command, ∃ e : K.Engine, result = resultOf command e := by
  induction commands generalizing engine with
  | nil => cases member
  | cons command rest ih =>
    rcases List.mem_cons.mp member with rfl | later
    · exact ⟨command, engine, rfl⟩
    · exact ih later

/-- No command is answered with the loss of the engine. -/
theorem InOrder.alive (inOrder : InOrder engine trace s) (never : K.NeverTerminated) :
    ∀ x ∈ executed trace, x.result ≠ .error .terminated := by
  intro x member
  have held : x.result ∈ (executed trace).map Execution.result := List.mem_map_of_mem member
  rw [inOrder.results] at held
  obtain ⟨command, e, same⟩ := mem_replay held
  rw [same]
  exact never.resultOf command e

theorem eq_of_caller {xs : List Execution} (once : (xs.map Execution.caller).Nodup)
    {x y : Execution} (first : x ∈ xs) (second : y ∈ xs) (same : x.caller = y.caller) : x = y :=
  List.inj_on_of_nodup_map once first second same

theorem fatal_last {xs before after : List Execution} {x : Execution}
    (unbroken : Unbroken xs.dropLast) (shape : xs = before ++ x :: after)
    (ends : fatal x.result = true) : after = [] := by
  rcases List.eq_nil_or_concat after with rfl | ⟨rest, last, rfl⟩
  · rfl
  · have split : xs = (before ++ x :: rest) ++ [last] := by
      rw [shape]
      simp
    have kept : x ∈ xs.dropLast := by
      rw [split, List.dropLast_concat]
      simp
    rw [unbroken x kept] at ends
    cases ends

/-- Jobs carried out are runs, so they stand before the first disposal. -/
theorem prefix_before_dispose {xs : List Execution} {jobs before after : List Job}
    (front : xs.map Execution.job <+: jobs) (shape : jobs = before ++ .dispose caller :: after) :
    xs.map Execution.job <+: before := by
  have other : before ++ [.dispose caller] <+: jobs := by
    rw [shape]
    exact ⟨after, by simp⟩
  have unrun : .dispose caller ∉ xs.map Execution.job := by
    simp [Execution.job]
  rcases List.prefix_or_prefix_of_prefix front other with le | ge
  · rcases List.prefix_concat_iff.mp le with same | le
    · exact absurd (by simp [same]) unrun
    · exact le
  · exact absurd (ge.subset (by simp)) unrun

/-- However callers and thread take turns, a worker carries out a prefix of its queue, one
command after another, and answers every call accordingly. -/
theorem run_linear (never : K.NeverTerminated) (run : Run (.start engine) trace s) :
    Linear engine trace s := by
  obtain ⟨inOrder, accounts⟩ := run.invariants
  have once := executed_once inOrder accounts
  have own_result : ∀ x ∈ executed trace, ∀ result, (x.caller, result) ∈ returns trace →
      result = x.result := by
    intro x member result gave
    rcases accounts.fate x.caller result gave with ⟨y, held, same, rfl⟩ | ⟨-, lost⟩
    · rw [eq_of_caller once held member same]
    · exact absurd rfl (lost.unexecuted inOrder accounts x member)
  exact {
    order := inOrder.executed_prefix_sent
    results := inOrder.results
    state := fun e held => inOrder.engine_eq held
    after_fatal := fun before x after shape ends => fatal_last inOrder.unbroken shape ends
    after_dispose := fun before caller after shape =>
      prefix_before_dispose inOrder.executed_prefix_sent shape
    once := accounts.returned_once
    called_once := accounts.called_once
    own_command := fun x member =>
      accounts.own _ _ (inOrder.executed_prefix_sent.subset (List.mem_map_of_mem member))
    own_result := own_result
    terminated_iff := fun caller result gave => by
      constructor
      · rintro rfl x member rfl
        exact inOrder.alive never x member (own_result x member _ gave).symm
      · intro unexecuted
        rcases accounts.fate caller result gave with ⟨x, member, same, -⟩ | ⟨rfl, -⟩
        · exact absurd same (unexecuted x member)
        · rfl }

/-- The scripted engine never says that it is gone. -/
theorem scripted_neverTerminated (failing : Bool) :
    (ScriptedEngine.kind failing).NeverTerminated := by
  intro command e
  show (ScriptedEngine.run command e).1 ≠ _
  cases command with
  | eval request =>
    simp only [ScriptedEngine.run, ScriptedEngine.eval]
    split
    all_goals first | split | skip
    all_goals simp [ScriptedEngine.count]
  | call request =>
    unfold ScriptedEngine.run
    split <;> simp_all
  | setGlobal | getGlobal | release | runJobs => simp [ScriptedEngine.run]

/-- A command that counts, sent to an engine that counts. -/
theorem run_linear_counting : ∃ trace s,
    (0, .ok (.int 1)) ∈ returns trace ∧
      Linear (K := ScriptedEngine.kind false) (ScriptedEngine.mk 1 0 []) trace s := by
  have rests : Rests (K := ScriptedEngine.kind false) _ (.start (ScriptedEngine.mk 1 0 [])) :=
    rests_start 1 _
  have idle : (Shared.start (K := ScriptedEngine.kind false) (ScriptedEngine.mk 1 0 [])).runs 0 =
      .idle := rfl
  obtain ⟨trace, s, ⟨⟨next, first, rest⟩, -⟩, gave, -⟩ :=
    solo_run rests idle (.eval { source := "count" })
  have run := (Run.nil.snoc first).append rest
  exact ⟨_, s, run.invariants.2.at gave, run_linear (scripted_neverTerminated false) run⟩

end Worker

end ScriptHost

/-! ### Workers that nobody disposes of -/

namespace ScriptHost

variable {K : EngineKind}

namespace Worker

/-- Does the thread go on after what it is doing? -/
def Looping : Thread K → Prop
  | .receiving _ | .working .. | .judging .. => True
  | .answering _ _ result => fatal result = false
  | _ => False

/-- What holds while nobody disposes of the worker. -/
structure Undisposed (trace : List Event) (s : Shared K) : Prop where
  sender : s.sender = true
  idle : ∀ caller, s.disposals caller = .idle
  unsent : ∀ caller, .dispose caller ∉ sent trace
  looping : s.failed = false → Looping s.state
  receiver : s.failed = false → s.receiver = true
  kept : s.failed = false → discarded trace = []
  answered : s.failed = false → ∀ caller, (caller, .error .terminated) ∉ returns trace

variable {engine : K.Engine} {trace : List Event} {s s' : Shared K} {event : Event} {caller : Nat}

theorem Undisposed.start (engine : K.Engine) : Undisposed [] (.start engine) where
  sender := rfl
  idle _ := rfl
  unsent _ := List.not_mem_nil
  looping _ := trivial
  receiver _ := rfl
  kept _ := rfl
  answered _ _ := List.not_mem_nil

/-- A worker that failed stays so. -/
theorem Step.failed_mono (step : Step s event s') (failed : s.failed = true) :
    s'.failed = true := by
  cases step
  case discard job _ _ _ => cases job <;> exact failed
  case judge => simp [failed]
  all_goals exact failed

theorem Undisposed.step (never : K.NeverTerminated) (undisposed : Undisposed trace s)
    (inOrder : InOrder engine trace s) (accounts : Accounts trace s) (step : Step s event s')
    (other : ∀ caller, event ≠ .disposing caller) : Undisposed (trace ++ [event]) s' := by
  obtain ⟨sender, idle, unsent, looping, receiver, kept, answered⟩ := undisposed
  have stuck {caller : Nat} {stage : DisposeStage} (held : s.disposals caller = stage)
      (moved : stage ≠ .idle) : False := moved (held ▸ idle caller)
  have ended (out : ¬ Looping s.state) : s.failed = true := by
    cases failed : s.failed with
    | true => rfl
    | false => exact absurd (looping failed) out
  have done {P : Prop} (failed : s.failed = true) (alive : s.failed = false) : P := by
    rw [failed] at alive
    cases alive
  cases step with
  | dispose => exact absurd rfl (other _)
  | disposeLook stage | disposeTake stage | disposeLate stage | disposeSend stage
  | disposeUnsent stage | disposeDone stage | reach stage | join stage | joinLate stage
  | joined stage => exact (stuck stage (by simp)).elim
  | call | look | clone =>
    exact ⟨sender, idle, by simpa using unsent, looping, receiver, by simpa using kept,
      by simpa using answered⟩
  | turnedAway stage gone =>
    rw [sender] at gone
    cases gone
  | send stage held =>
    exact ⟨sender, idle, by simpa using unsent, looping, receiver, by simpa using kept,
      by simpa using answered⟩
  | unsent stage gone =>
    have failed : s.failed = true := by
      cases failed : s.failed with
      | true => rfl
      | false => simp [receiver failed] at gone
    exact ⟨sender, idle, by simpa using unsent, looping, receiver, done failed, done failed⟩
  | take stage held =>
    obtain ⟨x, member, -, same⟩ := accounts.full _ _ held
    have alive := inOrder.alive never x member
    refine ⟨sender, idle, by simpa using unsent, looping, receiver, by simpa using kept, ?_⟩
    intro unfailed caller gave
    simp only [returns_snoc, Event.returned?, Option.toList_some, List.mem_append,
      List.mem_singleton, Prod.mk.injEq] at gave
    rcases gave with gave | ⟨-, rfl⟩
    · exact answered unfailed caller gave
    · exact alive same
  | miss stage closed =>
    have failed : s.failed = true := by
      cases failed : s.failed with
      | true => rfl
      | false => simpa [kept failed, Job.runners] using accounts.closed _ closed
    exact ⟨sender, idle, by simpa using unsent, looping, receiver, done failed, done failed⟩
  | receive place shape =>
    exact ⟨sender, idle, by simpa using unsent, fun _ => trivial, receiver, by simpa using kept,
      by simpa using answered⟩
  | @receiveDispose _ disposer _ place shape =>
    have queued : .dispose disposer ∈ sent trace := by
      rw [inOrder.fifo, shape]
      simp
    exact absurd queued (unsent disposer)
  | starve place shape gone =>
    rw [gone.1] at sender
    cases sender
  | execute place =>
    exact ⟨sender, idle, by simpa using unsent, fun _ => trivial, receiver, by simpa using kept,
      by simpa using answered⟩
  | judge place =>
    refine ⟨sender, idle, by simpa using unsent, ?_, ?_, ?_, ?_⟩ <;> intro alive <;>
      obtain ⟨unfailed, spared⟩ := Bool.or_eq_false_iff.mp alive
    · exact spared
    · exact receiver unfailed
    · simpa using kept unfailed
    · simpa using answered unfailed
  | answer place =>
    refine ⟨sender, idle, by simpa using unsent, ?_, receiver, by simpa using kept,
      by simpa using answered⟩
    intro unfailed
    have spared := looping unfailed
    rw [place] at spared
    simp only [Looping] at spared
    simp [spared, Looping]
  | close place | drop place | part place | acknowledge place =>
    have failed := ended (by simp [place, Looping])
    exact ⟨sender, idle, by simpa using unsent, done failed, done failed, done failed, done failed⟩
  | @discard _ _ job _ place shape =>
    have failed := ended (by simp [place, Looping])
    have kept : (s.closing job).failed = true := by cases job <;> exact failed
    refine ⟨?_, by simpa using idle, by simpa using unsent, ?_, ?_, ?_, ?_⟩
    · cases job <;> exact sender
    all_goals
      intro alive
      simp [kept] at alive

/-- A command that came back without an answer found the engine broken, or somebody had
disposed of it. -/
theorem Run.failed_of_terminated (never : K.NeverTerminated) (run : Run (.start engine) trace s)
    (undisposed : ∀ caller, .disposing caller ∉ trace)
    (gave : (caller, .error .terminated) ∈ returns trace) : s.failed = true := by
  have held : Undisposed trace s := by
    clear gave
    induction run with
    | nil => exact .start engine
    | snoc run step ih =>
      obtain ⟨inOrder, accounts⟩ := run.invariants
      refine (ih fun caller seen => undisposed caller (by simp [seen])).step never inOrder accounts
        step fun caller same => undisposed caller ?_
      simp [same]
  cases failed : s.failed with
  | true => rfl
  | false => exact absurd gave (held.answered failed caller)

end Worker

end ScriptHost
