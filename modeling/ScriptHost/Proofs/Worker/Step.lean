import Mathlib
import ScriptHost.Worker.Basic

/-! One worker with any number of callers at once. A caller of `run` takes a sender, sends its
command and waits for the reply; a caller of `dispose` takes the sender away for good, sends its
wish behind whatever waits, and joins the thread. The thread receives one job after another
until a result is fatal or somebody disposes of it; then it drops the receiver, whatever is left
in the queue and the engine. Every step takes one lock, uses one channel or runs one command,
and anyone who can take a step may be the next to do so. -/

namespace ScriptHost

/-- What is sent to the thread, by the caller of this number. -/
inductive Job where
  | run (caller : Nat) (command : Command)
  | dispose (caller : Nat)

/-- The channel on which a caller waits. It is closed when the job that holds its other end is
dropped unanswered. -/
inductive Reply (α : Type) where
  | pending
  | full (a : α)
  | closed

/-- How far a call of `run` is. -/
inductive RunStage where
  | idle
  /-- Waits for the lock on the sender. -/
  | entered (command : Command)
  /-- Has the lock. -/
  | looking (command : Command)
  /-- Has a sender of its own and gave the lock back. -/
  | sending (command : Command)
  | waiting
  | returned (result : Except EngineError Datum)

/-- How far a call of `dispose` is. -/
inductive DisposeStage where
  | idle
  /-- Waits for the lock on the sender. -/
  | entered
  /-- Has the lock. -/
  | looking
  /-- Took the sender away. The lock is kept from here to the reply. -/
  | sending
  | waiting
  /-- Gave the lock back and waits for the one on the thread. -/
  | leaving
  /-- Has the lock. -/
  | reaching
  /-- Took the thread away and waits for its end, the lock still in hand. -/
  | joining
  | returned

inductive Party where
  | runner (caller : Nat)
  | disposer (caller : Nat)

/-- Where the thread of a worker is. The engine is the thread's own. -/
inductive Thread (K : EngineKind) where
  | receiving (engine : K.Engine)
  | working (engine : K.Engine) (caller : Nat) (command : Command)
  /-- Has a result that nobody knows of yet. -/
  | judging (engine : K.Engine) (caller : Nat) (result : Except EngineError Datum)
  /-- Has set the flag if the result is fatal. -/
  | answering (engine : K.Engine) (caller : Nat) (result : Except EngineError Datum)
  /-- Is out of the loop; whoever disposed of it, if anyone, waits for a reply. -/
  | leaving (engine : K.Engine) (disposer : Option Nat)
  /-- Drops what is left in the queue. -/
  | discarding (engine : K.Engine) (disposer : Option Nat)
  /-- Has dropped the engine. -/
  | parting (disposer : Option Nat)
  | ended

/-- A command that the engine carried out, the caller who sent it, and the result. -/
structure Execution where
  caller : Nat
  command : Command
  result : Except EngineError Datum

def Execution.job (x : Execution) : Job := .run x.caller x.command

/-- What can be seen of a step. Taking a lock and the like cannot. -/
inductive Event where
  | called (caller : Nat) (command : Command)
  | disposing (caller : Nat)
  | sent (job : Job)
  | received (job : Job)
  | executed (x : Execution)
  | discarded (job : Job)
  | dropped
  | returned (caller : Nat) (result : Except EngineError Datum)
  | disposed (caller : Nat)
  | quiet

/-- Does a call begin here? That is for those who have the worker to say. -/
def Event.begins : Event → Bool
  | .called .. | .disposing _ => true
  | _ => false

/-- Does the result end the engine? -/
def fatal : Except EngineError Datum → Bool
  | .error e => e.isFatal
  | .ok _ => false

namespace Job

@[simp] def runner? : Job → Option Nat
  | run caller _ => some caller
  | dispose _ => none

/-- Those whose commands are among the jobs. -/
def runners (jobs : List Job) : List Nat := jobs.filterMap runner?

@[simp] theorem runners_append (jobs more : List Job) :
    runners (jobs ++ more) = runners jobs ++ runners more := List.filterMap_append

@[simp] theorem runners_singleton (job : Job) : runners [job] = job.runner?.toList := by
  cases job <;> rfl

end Job

namespace Event

@[simp] def call? : Event → Option (Nat × Command)
  | called caller command => some (caller, command)
  | _ => none

@[simp] def sent? : Event → Option Job
  | sent job => some job
  | _ => none

@[simp] def received? : Event → Option Job
  | received job => some job
  | _ => none

@[simp] def executed? : Event → Option Execution
  | executed x => some x
  | _ => none

@[simp] def discarded? : Event → Option Job
  | discarded job => some job
  | _ => none

@[simp] def returned? : Event → Option (Nat × Except EngineError Datum)
  | returned caller result => some (caller, result)
  | _ => none

end Event

section

variable (trace : List Event)

/-- The calls of `run`, each with its command. -/
def calls : List (Nat × Command) := trace.filterMap Event.call?

/-- The jobs in the order in which they were queued. -/
def sent : List Job := trace.filterMap Event.sent?

def received : List Job := trace.filterMap Event.received?

def executed : List Execution := trace.filterMap Event.executed?

def discarded : List Job := trace.filterMap Event.discarded?

/-- What calls of `run` gave back. -/
def returns : List (Nat × Except EngineError Datum) := trace.filterMap Event.returned?

variable (event : Event)

@[simp] theorem calls_snoc : calls (trace ++ [event]) = calls trace ++ event.call?.toList := by
  cases event <;> simp [calls]

@[simp] theorem sent_snoc : sent (trace ++ [event]) = sent trace ++ event.sent?.toList := by
  cases event <;> simp [sent]

@[simp] theorem received_snoc :
    received (trace ++ [event]) = received trace ++ event.received?.toList := by
  cases event <;> simp [received]

@[simp] theorem executed_snoc :
    executed (trace ++ [event]) = executed trace ++ event.executed?.toList := by
  cases event <;> simp [executed]

@[simp] theorem discarded_snoc :
    discarded (trace ++ [event]) = discarded trace ++ event.discarded?.toList := by
  cases event <;> simp [discarded]

@[simp] theorem returns_snoc :
    returns (trace ++ [event]) = returns trace ++ event.returned?.toList := by
  cases event <;> simp [returns]

end

namespace Worker

/-- What the callers and the thread of a worker share, and how far each of them is. -/
structure Shared (K : EngineKind) where
  /-- Is there a sender to be had? -/
  sender : Bool := true
  senderLock : Option Party := none
  /-- Is there a thread to be joined? -/
  thread : Bool := true
  threadLock : Option Nat := none
  failed : Bool := false
  /-- Does the thread still hold the receiver? -/
  receiver : Bool := true
  queue : List Job := []
  replies : Nat → Reply (Except EngineError Datum) := fun _ => .pending
  acknowledged : Nat → Reply Unit := fun _ => .pending
  runs : Nat → RunStage := fun _ => .idle
  disposals : Nat → DisposeStage := fun _ => .idle
  state : Thread K

variable {K : EngineKind}

/-- A worker whose engine was just made. -/
def Shared.start (engine : K.Engine) : Shared K where
  state := .receiving engine

/-- The result of a command, a panic being fatal. -/
def resultOf (command : Command) (engine : K.Engine) : Except EngineError Datum :=
  (K.run command engine).1.caught "engine"

/-- The engine after a command. -/
def engineAfter (command : Command) (engine : K.Engine) : K.Engine := (K.run command engine).2.2

namespace Shared

@[simp] def runAt (caller : Nat) (stage : RunStage) (s : Shared K) : Shared K :=
  { s with runs := Function.update s.runs caller stage }

@[simp] def disposalAt (caller : Nat) (stage : DisposeStage) (s : Shared K) : Shared K :=
  { s with disposals := Function.update s.disposals caller stage }

@[simp] def replied (caller : Nat) (reply : Reply (Except EngineError Datum)) (s : Shared K) :
    Shared K :=
  { s with replies := Function.update s.replies caller reply }

@[simp] def acknowledge (caller : Nat) (reply : Reply Unit) (s : Shared K) : Shared K :=
  { s with acknowledged := Function.update s.acknowledged caller reply }

/-- A job that is dropped closes the channel it holds. -/
def closing : Job → Shared K → Shared K
  | .run caller _, s => s.replied caller .closed
  | .dispose caller, s => s.acknowledge caller .closed

@[simp] theorem closing_state (job : Job) (s : Shared K) : (s.closing job).state = s.state := by
  cases job <;> rfl

@[simp] theorem closing_runs (job : Job) (s : Shared K) : (s.closing job).runs = s.runs := by
  cases job <;> rfl

@[simp] theorem closing_disposals (job : Job) (s : Shared K) :
    (s.closing job).disposals = s.disposals := by
  cases job <;> rfl

/-- Does no caller hold a sender, nor can one be had? -/
def Unsent (s : Shared K) : Prop :=
  s.sender = false ∧
  (∀ caller, s.runs caller ≠ .waiting ∧ ∀ command, s.runs caller ≠ .sending command) ∧
  ∀ caller, s.disposals caller ≠ .sending ∧ s.disposals caller ≠ .waiting

end Shared

/-- One step of one caller or of the thread. -/
inductive Step : Shared K → Event → Shared K → Prop where
  | call {s caller} (command) : s.runs caller = .idle →
      Step s (.called caller command) (s.runAt caller (.entered command))
  | look {s caller command} : s.runs caller = .entered command → s.senderLock = none →
      Step s .quiet { s.runAt caller (.looking command) with senderLock := some (.runner caller) }
  | clone {s caller command} : s.runs caller = .looking command → s.sender = true →
      Step s .quiet { s.runAt caller (.sending command) with senderLock := none }
  | turnedAway {s caller command} : s.runs caller = .looking command → s.sender = false →
      Step s (.returned caller (.error .terminated))
        { s.runAt caller (.returned (.error .terminated)) with senderLock := none }
  | send {s caller command} : s.runs caller = .sending command → s.receiver = true →
      Step s (.sent (.run caller command))
        { s.runAt caller .waiting with queue := s.queue ++ [.run caller command] }
  | unsent {s caller command} : s.runs caller = .sending command → s.receiver = false →
      Step s (.returned caller (.error .terminated))
        (s.runAt caller (.returned (.error .terminated)))
  | take {s caller result} : s.runs caller = .waiting → s.replies caller = .full result →
      Step s (.returned caller result) (s.runAt caller (.returned result))
  | miss {s caller} : s.runs caller = .waiting → s.replies caller = .closed →
      Step s (.returned caller (.error .terminated))
        (s.runAt caller (.returned (.error .terminated)))
  | dispose {s caller} : s.disposals caller = .idle →
      Step s (.disposing caller) (s.disposalAt caller .entered)
  | disposeLook {s caller} : s.disposals caller = .entered → s.senderLock = none →
      Step s .quiet { s.disposalAt caller .looking with senderLock := some (.disposer caller) }
  | disposeTake {s caller} : s.disposals caller = .looking → s.sender = true →
      Step s .quiet { s.disposalAt caller .sending with sender := false }
  | disposeLate {s caller} : s.disposals caller = .looking → s.sender = false →
      Step s .quiet { s.disposalAt caller .leaving with senderLock := none }
  | disposeSend {s caller} : s.disposals caller = .sending → s.receiver = true →
      Step s (.sent (.dispose caller))
        { s.disposalAt caller .waiting with queue := s.queue ++ [.dispose caller] }
  | disposeUnsent {s caller} : s.disposals caller = .sending → s.receiver = false →
      Step s .quiet { s.disposalAt caller .leaving with senderLock := none }
  | disposeDone {s caller} : s.disposals caller = .waiting → s.acknowledged caller ≠ .pending →
      Step s .quiet { s.disposalAt caller .leaving with senderLock := none }
  | reach {s caller} : s.disposals caller = .leaving → s.threadLock = none →
      Step s .quiet { s.disposalAt caller .reaching with threadLock := some caller }
  | join {s caller} : s.disposals caller = .reaching → s.thread = true →
      Step s .quiet { s.disposalAt caller .joining with thread := false }
  | joinLate {s caller} : s.disposals caller = .reaching → s.thread = false →
      Step s (.disposed caller) { s.disposalAt caller .returned with threadLock := none }
  | joined {s caller} : s.disposals caller = .joining → s.state = .ended →
      Step s (.disposed caller) { s.disposalAt caller .returned with threadLock := none }
  | receive {s engine caller command rest} : s.state = .receiving engine →
      s.queue = .run caller command :: rest →
      Step s (.received (.run caller command))
        { s with queue := rest, state := .working engine caller command }
  | receiveDispose {s engine caller rest} : s.state = .receiving engine →
      s.queue = .dispose caller :: rest →
      Step s (.received (.dispose caller))
        { s with queue := rest, state := .leaving engine (some caller) }
  | starve {s engine} : s.state = .receiving engine → s.queue = [] → s.Unsent →
      Step s .quiet { s with state := .leaving engine none }
  | execute {s engine caller command} : s.state = .working engine caller command →
      Step s (.executed ⟨caller, command, resultOf command engine⟩)
        { s with state := .judging (engineAfter command engine) caller (resultOf command engine) }
  | judge {s engine caller result} : s.state = .judging engine caller result →
      Step s .quiet { s with
        failed := s.failed || fatal result, state := .answering engine caller result }
  | answer {s engine caller result} : s.state = .answering engine caller result →
      Step s .quiet { s.replied caller (.full result) with
        state := if fatal result then .leaving engine none else .receiving engine }
  | close {s engine disposer} : s.state = .leaving engine disposer →
      Step s .quiet { s with receiver := false, state := .discarding engine disposer }
  | discard {s engine disposer job rest} : s.state = .discarding engine disposer →
      s.queue = job :: rest →
      Step s (.discarded job) { s.closing job with queue := rest }
  | drop {s engine disposer} : s.state = .discarding engine disposer → s.queue = [] →
      Step s .dropped { s with state := .parting disposer }
  | part {s} : s.state = .parting none → Step s .quiet { s with state := .ended }
  | acknowledge {s caller} : s.state = .parting (some caller) →
      Step s .quiet { s.acknowledge caller (.full ()) with state := .ended }

/-- Steps after one another, and what was seen of them. -/
inductive Run (start : Shared K) : List Event → Shared K → Prop where
  | nil : Run start [] start
  | snoc {trace event s s'} : Run start trace s → Step s event s' →
      Run start (trace ++ [event]) s'

theorem Run.append {s middle s' : Shared K} {trace more : List Event} (run : Run s trace middle)
    (rest : Run middle more s') : Run s (trace ++ more) s' := by
  induction rest with
  | nil => simpa using run
  | snoc _ step ih => simpa using ih.snoc step

end Worker

end ScriptHost
