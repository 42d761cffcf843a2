import ScriptHost.Proofs.Dispatch.Progress

/-! The dispatcher with every lock taken and every message passed in a step of its own. A call
that looks at the table takes the lock on it first. A call that clears the default handle takes
the lock on that one, which is not to be had while somebody makes the default engine. An engine
is made on a thread of its own: the call waits for what the thread says, and for its end if there
is no engine. Whoever lets go of a worker last disposes of it once more. -/

namespace ScriptHost

variable {K : EngineKind}

/-- What a call has to have before it can go on. -/
inductive Need where
  | nothing
  /-- The lock on the table. -/
  | table
  /-- The lock on the default handle, for one look at it. -/
  | default
  /-- What the thread of a new engine says. -/
  | thread

namespace Stage

open Dispatcher in
/-- A call with no handle has the lock on the default handle from when it begins to choose until
it has a worker, so it does not need it in between. -/
def need (codec : Codec) (default : Option Nat) : Stage → Need
  | asked op => match admitted codec op with
    | .ok .dispose | .ok (.command _) => if op.handle.isSome then .table else .nothing
    | _ => .nothing
  | choosing _ => if default.isSome then .table else .nothing
  | making .. => .thread
  | made .. | named .. | retiring .. => .table
  | removed .. => .default
  | _ => .nothing

/-- The worker that the call keeps alive. -/
@[simp] def owned? : Stage → Option Nat
  | found handle _ | running handle | retiring handle _ | removed handle _ | cleared handle _
  | disposing handle _ => some handle
  | _ => none

end Stage

/-- The lock on the default handle once there is no engine to be named. -/
def Purpose.lockAfter (lock : Option Nat) : Purpose → Option Nat
  | .create => lock
  | .default _ => none

/-- How far the thread of a new engine is, and the call that waits for it. -/
inductive Birth where
  | unborn
  /-- The thread makes the engine. -/
  | creating
  /-- There is an engine, and nobody was told. -/
  | fresh
  | announced
  /-- The call knows. -/
  | heard
  /-- There is no engine, and nobody was told. -/
  | failing (e : EngineError)
  /-- The call was told; does it know, and is the thread at its end? -/
  | failed (e : EngineError) (heard ended : Bool)

namespace Birth

/-- Is there no engine? -/
@[simp] def early : Birth → Bool
  | fresh | announced | heard => false
  | _ => true

end Birth

/-- What a call that has its answer still has to let go of. -/
inductive Leaving where
  | nothing
  | owning (handle : Nat)
  /-- Nobody else had the worker, and it is disposed of under a number that no call has. -/
  | dropping (handle agent : Nat)

namespace Dispatcher

/-- What operations share when they have to wait for one another at every lock. -/
structure Contended (K : EngineKind) where
  base : Shared K
  /-- Who has the lock on the table. -/
  tableLock : Option Nat := none
  /-- Who has the lock on the default handle, if it is not kept until there is an engine. -/
  clearing : Option Nat := none
  births : Nat → Birth := fun _ => .unborn
  leaving : Nat → Leaving := fun _ => .nothing

namespace Contended

def start (settings : Settings) (plan : K.Plan) : Contended K where
  base := .start settings plan

def need (s : Contended K) (call : Nat) : Need :=
  (s.base.stages call).need s.base.codec s.base.default

/-- Does the call keep the worker of this handle alive? -/
def Owns (s : Contended K) (call handle : Nat) : Prop :=
  (s.base.stages call).owned? = some handle ∨ s.leaving call = .owning handle

/-- The call has its engine announced to it, if it made one. -/
def Heard (s : Contended K) (call : Nat) : Prop :=
  ∀ purpose handle, s.base.stages call = .made purpose handle → s.births handle = .heard

@[simp] def birthAt (handle : Nat) (birth : Birth) (s : Contended K) : Contended K :=
  { s with births := Function.update s.births handle birth }

@[simp] def leavingAt (call : Nat) (leaving : Leaving) (s : Contended K) : Contended K :=
  { s with leaving := Function.update s.leaving call leaving }

/-- What a call has to let go of when it goes from one stage to another. -/
def leftAt (before : Stage) : Stage → Leaving
  | .returned => before.owned?.elim .nothing .owning
  | _ => .nothing

/-- The call has gone on. -/
@[simp] def moved (call : Nat) (base : Shared K) (s : Contended K) : Contended K :=
  { s with
    base := base
    leaving := Function.update s.leaving call (leftAt (s.base.stages call) (base.stages call)) }

/-- One step of one call or of one thread. -/
inductive Step : Contended K → Sight → Contended K → Prop where
  | lockTable {s call} : s.need call = .table → s.Heard call → s.tableLock = none →
      Step s .quiet { s with tableLock := some call }
  | underTable {s call sight base} : s.tableLock = some call → Dispatcher.Step s.base sight base →
      base.stages call ≠ s.base.stages call →
      Step s sight { s.moved call base with tableLock := none }
  | lockDefault {s call} : s.need call = .default → s.base.lock = none → s.clearing = none →
      Step s .quiet { s with clearing := some call }
  | underDefault {s call sight base} : s.clearing = some call → Dispatcher.Step s.base sight base →
      base.stages call ≠ s.base.stages call →
      Step s sight { s.moved call base with clearing := none }
  | move {s call sight base} : s.need call = .nothing → Dispatcher.Step s.base sight base →
      base.stages call ≠ s.base.stages call →
      (∀ command, base.stages call = .choosing command → s.clearing = none) →
      Step s sight (s.moved call base)
  | work {s sight base} : Dispatcher.Step s.base sight base → base.stages = s.base.stages →
      Step s sight { s with base := base }
  | unstarted {s call purpose limits handle sight base} :
      s.base.stages call = .making purpose limits handle → s.births handle = .unborn →
      Worker.stackCeiling ≤ s.base.settings.workerStack.toNat →
      Dispatcher.Step s.base sight base → base.stages call = .returned →
      Step s sight (s.moved call base)
  | start {s call purpose limits handle} : s.base.stages call = .making purpose limits handle →
      s.births handle = .unborn → s.base.settings.workerStack.toNat < Worker.stackCeiling →
      Step s .quiet (s.birthAt handle .creating)
  | create {s call purpose limits handle sight base} :
      s.base.stages call = .making purpose limits handle → s.births handle = .creating →
      Dispatcher.Step s.base sight base → base.stages call = .made purpose handle →
      Step s sight ((s.moved call base).birthAt handle .fresh)
  | miscarry {s call purpose limits handle e log plan} :
      s.base.stages call = .making purpose limits handle → s.births handle = .creating →
      Worker.spawn handle limits s.base.settings.workerStack s.base.plan = (.error e, log, plan) →
      Step s .quiet { s.birthAt handle (.failing e) with base := { s.base with plan := plan } }
  | announce {s handle} : s.births handle = .fresh → Step s .quiet (s.birthAt handle .announced)
  | hear {s call purpose handle} : s.base.stages call = .made purpose handle →
      s.births handle = .announced → Step s .quiet (s.birthAt handle .heard)
  | announceFailure {s handle e} : s.births handle = .failing e →
      Step s .quiet (s.birthAt handle (.failed e false false))
  | learn {s call purpose limits handle e ended} :
      s.base.stages call = .making purpose limits handle →
      s.births handle = .failed e false ended →
      Step s .quiet (s.birthAt handle (.failed e true ended))
  | finish {s handle e heard} : s.births handle = .failed e heard false →
      Step s .quiet (s.birthAt handle (.failed e heard true))
  | bury {s call purpose limits handle e} :
      s.base.stages call = .making purpose limits handle → s.births handle = .failed e true true →
      Step s (.answered call (.error (.ofEngine e)))
        (s.moved call
          { s.base.stageAt call .returned with lock := purpose.lockAfter s.base.lock })
  | release {s call handle} : s.leaving call = .owning handle →
      (handle ∈ s.base.table ∨ ∃ other, other ≠ call ∧ s.Owns other handle) →
      Step s .quiet (s.leavingAt call .nothing)
  | dropLast {s call handle agent worker next} : s.leaving call = .owning handle →
      handle ∉ s.base.table → (∀ other, other ≠ call → ¬ s.Owns other handle) →
      s.base.stages agent = .idle → s.base.workers handle = some worker →
      Worker.Step worker (.disposing agent) next →
      Step s (.inside handle (.disposing agent))
        { s.leavingAt call (.dropping handle agent) with
          base := (s.base.workerAt handle next).stageAt agent .returned }
  | dropped {s call handle agent worker} : s.leaving call = .dropping handle agent →
      s.base.workers handle = some worker → worker.disposals agent = .returned →
      Step s .quiet (s.leavingAt call .nothing)

/-- Steps after one another, and what was seen of them. -/
inductive Run (start : Contended K) : List Sight → Contended K → Prop where
  | nil : Run start [] start
  | snoc {trace sight s s'} : Run start trace s → Step s sight s' →
      Run start (trace ++ [sight]) s'

/-- Is the call under way? -/
def Unfinished (s : Contended K) (call : Nat) : Prop :=
  (s.base.stages call).busy = true ∨ s.leaving call ≠ .nothing

/-- A step can be taken that is not the beginning of an operation. -/
def Moves (s : Contended K) : Prop := ∃ sight s', Step s sight s' ∧ sight.dispatched? = none

end Contended

end Dispatcher

end ScriptHost
