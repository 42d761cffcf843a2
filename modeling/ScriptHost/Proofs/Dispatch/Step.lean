import ScriptHost.Proofs.Dispatch.Respond
import ScriptHost.Proofs.Worker.Step

/-! A dispatcher with any number of operations in progress at once. The table of engines is
looked at and changed in one piece. The lock on the default handle is held while the default
engine is made. Whoever takes an engine out of the table also disposes of it, and that may take
as long as the commands queued before. What a worker does is as in the steps of one worker;
every other step belongs to one call, and the calls take turns in any order. -/

namespace ScriptHost

/-- Why a handle leaves the table. -/
inductive Reason where
  /-- `disposeEngine` was asked for. -/
  | asked
  /-- The result of a command was fatal. -/
  | fatal (message : String)
  /-- A command was not carried out. -/
  | unanswered

/-- Whom an engine is made for. -/
inductive Purpose where
  | create
  /-- A command that came without a handle. The lock on the default handle is held. -/
  | default (command : Command)

/-- How far an operation is. -/
inductive Stage where
  | idle
  | asked (op : Operation)
  /-- Has the lock on the default handle. -/
  | choosing (command : Command)
  | spawning (purpose : Purpose) (limits : EngineLimits)
  /-- Has taken a handle for the engine to be made. -/
  | making (purpose : Purpose) (limits : EngineLimits) (handle : Nat)
  /-- Has made the engine. -/
  | made (purpose : Purpose) (handle : Nat)
  /-- `createEngine` has put the engine into the table. -/
  | created (handle : Nat)
  /-- The default engine is in the table and not yet known as such. -/
  | naming (handle : Nat) (command : Command)
  | named (handle : Nat) (command : Command)
  /-- Has found the engine for a command. -/
  | found (handle : Nat) (command : Command)
  | running (handle : Nat)
  | retiring (handle : Nat) (reason : Reason)
  /-- Has taken the engine out of the table. -/
  | removed (handle : Nat) (reason : Reason)
  /-- The handle is no longer that of the default engine. -/
  | cleared (handle : Nat) (reason : Reason)
  | disposing (handle : Nat) (reason : Reason)
  | returned

/-- What can be seen of a step. -/
inductive Sight where
  | dispatched (call : Nat) (op : Operation)
  /-- The engine for a command was found. -/
  | found (call handle : Nat)
  | removed (call handle : Nat)
  /-- Something happened at the worker of this engine. -/
  | inside (handle : Nat) (event : Event)
  | answered (call : Nat) (answer : Except DispatchError (List UInt8))
  | quiet

namespace Sight

@[simp] def dispatched? : Sight → Option (Nat × Operation)
  | dispatched call op => some (call, op)
  | _ => none

@[simp] def found? : Sight → Option (Nat × Nat)
  | found call handle => some (call, handle)
  | _ => none

@[simp] def removed? : Sight → Option (Nat × Nat)
  | removed call handle => some (call, handle)
  | _ => none

@[simp] def inside? (handle : Nat) : Sight → Option Event
  | inside other event => if other = handle then some event else none
  | _ => none

@[simp] def answered? : Sight → Option (Nat × Except DispatchError (List UInt8))
  | answered call answer => some (call, answer)
  | _ => none

end Sight

section

variable (trace : List Sight)

def dispatches : List (Nat × Operation) := trace.filterMap Sight.dispatched?

/-- Which commands found which engine. -/
def finds : List (Nat × Nat) := trace.filterMap Sight.found?

/-- Which calls took which engine out of the table. -/
def removals : List (Nat × Nat) := trace.filterMap Sight.removed?

/-- What happened at one worker. -/
def history (handle : Nat) : List Event := trace.filterMap (Sight.inside? handle)

def answers : List (Nat × Except DispatchError (List UInt8)) := trace.filterMap Sight.answered?

variable (sight : Sight)

@[simp] theorem dispatches_snoc :
    dispatches (trace ++ [sight]) = dispatches trace ++ sight.dispatched?.toList := by
  cases sight <;> simp [dispatches]

@[simp] theorem finds_snoc : finds (trace ++ [sight]) = finds trace ++ sight.found?.toList := by
  cases sight <;> simp [finds]

@[simp] theorem removals_snoc :
    removals (trace ++ [sight]) = removals trace ++ sight.removed?.toList := by
  cases sight <;> simp [removals]

@[simp] theorem history_snoc (handle : Nat) :
    history (trace ++ [sight]) handle = history trace handle ++ (sight.inside? handle).toList := by
  cases sight with
  | inside other event => by_cases same : other = handle <;> simp [history, same]
  | _ => simp [history]

@[simp] theorem answers_snoc :
    answers (trace ++ [sight]) = answers trace ++ sight.answered?.toList := by
  cases sight <;> simp [answers]

end

namespace Dispatcher

/-- What operations share, and how far each of them is. -/
structure Shared (K : EngineKind) where
  limits : EngineLimits
  settings : DispatcherSettings
  plan : K.Plan
  /-- The handle for the next creation. -/
  next : Nat := 1
  /-- The handles of the active engines. -/
  table : List Nat := []
  default : Option Nat := none
  /-- Who has the lock on the default handle. -/
  lock : Option Nat := none
  workers : Nat → Option (Worker.Shared K) := fun _ => none
  stages : Nat → Stage := fun _ => .idle

variable {K : EngineKind}

namespace Shared

def codec (s : Shared K) : Codec := ⟨s.settings.maxPayload.toNat⟩

def start (settings : Settings) (plan : K.Plan) : Shared K where
  limits := settings.engine
  settings := settings.dispatcher
  plan := plan

@[simp] def stageAt (call : Nat) (stage : Stage) (s : Shared K) : Shared K :=
  { s with stages := Function.update s.stages call stage }

@[simp] def workerAt (handle : Nat) (worker : Worker.Shared K) (s : Shared K) : Shared K :=
  { s with workers := Function.update s.workers handle (some worker) }

@[simp] def without (handle : Nat) (s : Shared K) : Shared K :=
  { s with table := s.table.filter (· != handle) }

end Shared

/-- What a call says that wanted to retire an engine that was out of the table already. -/
def lateAnswer (handle : Nat) : Reason → Except DispatchError (List UInt8)
  | .fatal message => .error (.engineFatal message)
  | .asked | .unanswered => .error (notActive handle)

/-- What a call says that took an engine out of the table and disposed of it. -/
def finalAnswer (codec : Codec) (failed : Bool) (handle : Nat) :
    Reason → Except DispatchError (List UInt8)
  | .asked => reported codec (.ok .undefined)
  | .fatal message => .error (.engineFatal message)
  | .unanswered => .error (if failed then notActive handle else stopped)

/-- One step of one call or of one worker. -/
inductive Step : Shared K → Sight → Shared K → Prop where
  | dispatch {s call} (op) : s.stages call = .idle →
      Step s (.dispatched call op) (s.stageAt call (.asked op))
  | reject {s call op e} : s.stages call = .asked op → admitted s.codec op = .error e →
      Step s (.answered call (.error e)) (s.stageAt call .returned)
  | create {s call op options} : s.stages call = .asked op →
      admitted s.codec op = .ok (.create options) →
      Step s .quiet (s.stageAt call (.spawning .create (s.limits.withOptions options)))
  | disposeNothing {s call op} : s.stages call = .asked op →
      admitted s.codec op = .ok .dispose → op.handle = none →
      Step s (.answered call (.error (.invalidArgument "disposeEngine requires a handle")))
        (s.stageAt call .returned)
  | disposeMissing {s call op handle} : s.stages call = .asked op →
      admitted s.codec op = .ok .dispose → op.handle = some handle → handle ∉ s.table →
      Step s (.answered call (.error (notActive handle))) (s.stageAt call .returned)
  | dispose {s call op handle} : s.stages call = .asked op →
      admitted s.codec op = .ok .dispose → op.handle = some handle → handle ∈ s.table →
      Step s (.removed call handle) ((s.without handle).stageAt call (.removed handle .asked))
  | missing {s call op command handle} : s.stages call = .asked op →
      admitted s.codec op = .ok (.command command) → op.handle = some handle →
      handle ∉ s.table →
      Step s (.answered call (.error (notActive handle))) (s.stageAt call .returned)
  | find {s call op command handle} : s.stages call = .asked op →
      admitted s.codec op = .ok (.command command) → op.handle = some handle →
      handle ∈ s.table →
      Step s (.found call handle) (s.stageAt call (.found handle command))
  | noDefault {s call op command} : s.stages call = .asked op →
      admitted s.codec op = .ok (.command command) → op.handle = none →
      s.settings.defaultEngine = false →
      Step s (.answered call (.error (.invalidHandle "operation requires an engine handle")))
        (s.stageAt call .returned)
  | choose {s call op command} : s.stages call = .asked op →
      admitted s.codec op = .ok (.command command) → op.handle = none →
      s.settings.defaultEngine = true → s.lock = none →
      Step s .quiet { s.stageAt call (.choosing command) with lock := some call }
  | chosen {s call command handle} : s.stages call = .choosing command →
      s.default = some handle → handle ∈ s.table →
      Step s (.found call handle) { s.stageAt call (.found handle command) with lock := none }
  | unchosen {s call command} : s.stages call = .choosing command →
      (∀ handle, s.default = some handle → handle ∉ s.table) →
      Step s .quiet (s.stageAt call (.spawning (.default command) s.limits))
  | number {s call purpose limits} : s.stages call = .spawning purpose limits →
      Step s .quiet { s.stageAt call (.making purpose limits s.next) with next := s.next + 1 }
  | unmade {s call purpose limits handle e log plan} :
      s.stages call = .making purpose limits handle →
      Worker.spawn handle limits s.settings.workerStack s.plan = (.error e, log, plan) →
      Step s (.answered call (.error (.ofEngine e)))
        { s.stageAt call .returned with
          plan := plan
          lock := match purpose with
            | .create => s.lock
            | .default _ => none }
  | make {s call purpose limits handle worker engine log plan} :
      s.stages call = .making purpose limits handle →
      Worker.spawn handle limits s.settings.workerStack s.plan = (.ok worker, log, plan) →
      worker.engine = some engine →
      Step s .quiet
        { (s.workerAt handle (.start engine)).stageAt call (.made purpose handle) with
          plan := plan }
  | insert {s call handle} : s.stages call = .made .create handle →
      Step s .quiet { s.stageAt call (.created handle) with table := s.table ++ [handle] }
  | tell {s call handle} : s.stages call = .created handle →
      Step s (.answered call (reported s.codec (.ok (.int (Int64.ofNat handle)))))
        (s.stageAt call .returned)
  | insertDefault {s call handle command} : s.stages call = .made (.default command) handle →
      Step s .quiet { s.stageAt call (.naming handle command) with table := s.table ++ [handle] }
  | name {s call handle command} : s.stages call = .naming handle command →
      Step s .quiet { s.stageAt call (.named handle command) with default := some handle }
  | named {s call handle command} : s.stages call = .named handle command → handle ∈ s.table →
      Step s (.found call handle) { s.stageAt call (.found handle command) with lock := none }
  | unnamed {s call handle command} : s.stages call = .named handle command → handle ∉ s.table →
      Step s (.answered call (.error (notActive handle)))
        { s.stageAt call .returned with lock := none }
  | run {s call handle command worker next} : s.stages call = .found handle command →
      s.workers handle = some worker → Worker.Step worker (.called call command) next →
      Step s (.inside handle (.called call command))
        ((s.workerAt handle next).stageAt call (.running handle))
  | work {s handle event worker next} : s.workers handle = some worker →
      Worker.Step worker event next → event.begins = false →
      Step s (.inside handle event) (s.workerAt handle next)
  | answer {s call handle worker result} : s.stages call = .running handle →
      s.workers handle = some worker → worker.runs call = .returned result →
      fatal result = false → result ≠ .error .terminated →
      Step s (.answered call (reported s.codec result)) (s.stageAt call .returned)
  | fatal {s call handle worker message} : s.stages call = .running handle →
      s.workers handle = some worker →
      worker.runs call = .returned (.error (.fatal message)) →
      Step s .quiet (s.stageAt call (.retiring handle (.fatal message)))
  | unanswered {s call handle worker} : s.stages call = .running handle →
      s.workers handle = some worker → worker.runs call = .returned (.error .terminated) →
      Step s .quiet (s.stageAt call (.retiring handle .unanswered))
  | retire {s call handle reason} : s.stages call = .retiring handle reason →
      handle ∈ s.table →
      Step s (.removed call handle) ((s.without handle).stageAt call (.removed handle reason))
  | retired {s call handle reason} : s.stages call = .retiring handle reason →
      handle ∉ s.table →
      Step s (.answered call (lateAnswer handle reason)) (s.stageAt call .returned)
  | clear {s call handle reason} : s.stages call = .removed handle reason → s.lock = none →
      Step s .quiet { s.stageAt call (.cleared handle reason) with
        default := if s.default = some handle then none else s.default }
  | letGo {s call handle reason worker next} : s.stages call = .cleared handle reason →
      s.workers handle = some worker → Worker.Step worker (.disposing call) next →
      Step s (.inside handle (.disposing call))
        ((s.workerAt handle next).stageAt call (.disposing handle reason))
  | gone {s call handle reason worker} : s.stages call = .disposing handle reason →
      s.workers handle = some worker → worker.disposals call = .returned →
      Step s (.answered call (finalAnswer s.codec worker.failed handle reason))
        (s.stageAt call .returned)

theorem Step.settings {s s' : Shared K} {sight : Sight} (step : Step s sight s') :
    s'.settings = s.settings := by
  cases step <;> rfl

theorem Step.codec {s s' : Shared K} {sight : Sight} (step : Step s sight s') :
    s'.codec = s.codec := by
  rw [Shared.codec, step.settings]
  rfl

/-- Steps after one another, and what was seen of them. -/
inductive Run (start : Shared K) : List Sight → Shared K → Prop where
  | nil : Run start [] start
  | snoc {trace sight s s'} : Run start trace s → Step s sight s' →
      Run start (trace ++ [sight]) s'

end Dispatcher

end ScriptHost
