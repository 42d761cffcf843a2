import ScriptHost.Script.Task

/-! The machine that carries out computations. It keeps what waits for the part under way,
the coroutines that stand still, and how much of the time of a command is left. One step
does one node of a computation, so a run is its steps up to a bound. -/

namespace ScriptHost.Script

/-- What waits for the end of a part. -/
inductive Frame where
  | wait (k : Result → Prog)
  | guard (k : Except Fault Result → Prog)

/-- A coroutine that stands still. -/
structure Parked where
  resume : Signal → Prog
  frames : List Frame

/-- What waits for a coroutine to stop. -/
structure Resumer where
  coroutine : Nat
  k : Stop → Prog
  frames : List Frame

structure Machine where
  prog : Prog
  heap : Heap
  coroutines : Array (Option Parked)
  frames : List Frame := []
  resumers : List Resumer := []
  /-- How many tasks may still be begun; none is no limit. -/
  time : Option Nat := none
  /-- Has the time of the command been over? -/
  tripped : Bool := false

/-- What the machine is to do with tasks, and what happens when its time is over. -/
structure Interpreter where
  perform : Task → Prog
  interrupt : Prog

/-- How a run ends. -/
inductive Verdict where
  | finished (r : Except Fault Result)
  /-- The bound of the run was reached. -/
  | unfinished

inductive Progress where
  | on (m : Machine)
  | ended (r : Except Fault Result) (m : Machine)

namespace Machine

/-- Once the time is over, this many more tasks may be begun before it is looked at again. -/
def grace : Nat := 10000

def step (i : Interpreter) : Machine → Progress
  | ⟨prog, heap, coroutines, frames, resumers, time, tripped⟩ =>
    match prog with
    | .done r =>
      match frames with
      | .wait k :: frames => .on ⟨k r, heap, coroutines, frames, resumers, time, tripped⟩
      | .guard k :: frames => .on ⟨k (.ok r), heap, coroutines, frames, resumers, time, tripped⟩
      | [] =>
        match resumers with
        | ⟨_, k, frames⟩ :: resumers =>
          .on ⟨k (.finished r), heap, coroutines, frames, resumers, time, tripped⟩
        | [] => .ended (.ok r) ⟨.done r, heap, coroutines, [], [], time, tripped⟩
    | .fail f =>
      match frames with
      | .wait _ :: frames => .on ⟨.fail f, heap, coroutines, frames, resumers, time, tripped⟩
      | .guard k :: frames => .on ⟨k (.error f), heap, coroutines, frames, resumers, time, tripped⟩
      | [] =>
        match resumers with
        | ⟨_, k, frames⟩ :: resumers =>
          .on ⟨k (.failed f), heap, coroutines, frames, resumers, time, tripped⟩
        | [] => .ended (.error f) ⟨.fail f, heap, coroutines, [], [], time, tripped⟩
    | .act f =>
      let (heap, prog) := f heap
      .on ⟨prog, heap, coroutines, frames, resumers, time, tripped⟩
    | .request t k =>
      match time with
      | some 0 => .on ⟨i.interrupt, heap, coroutines, frames, resumers, some grace, true⟩
      | some (left + 1) =>
        .on ⟨i.perform t, heap, coroutines, .wait k :: frames, resumers, some left, tripped⟩
      | none => .on ⟨i.perform t, heap, coroutines, .wait k :: frames, resumers, none, tripped⟩
    | .become t =>
      match time with
      | some 0 => .on ⟨i.interrupt, heap, coroutines, frames, resumers, some grace, true⟩
      | some (left + 1) => .on ⟨i.perform t, heap, coroutines, frames, resumers, some left, tripped⟩
      | none => .on ⟨i.perform t, heap, coroutines, frames, resumers, none, tripped⟩
    | .guarded body k => .on ⟨body, heap, coroutines, .guard k :: frames, resumers, time, tripped⟩
    | .spawn body k =>
      let id := coroutines.size
      .on ⟨k id, heap, coroutines.push (some ⟨body, []⟩), frames, resumers, time, tripped⟩
    | .resume id signal k =>
      match coroutines.getD id none with
      | some parked =>
        .on ⟨parked.resume signal, heap, coroutines.setIfInBounds id none, parked.frames,
          ⟨id, k, frames⟩ :: resumers, time, tripped⟩
      | none => .on ⟨k (.finished (.value .undefined)), heap, coroutines, frames, resumers, time, tripped⟩
    | .suspend stop k =>
      match resumers with
      | ⟨id, k', outer⟩ :: resumers =>
        .on ⟨k' stop, heap, coroutines.setIfInBounds id (some ⟨k, frames⟩), outer, resumers, time, tripped⟩
      | [] => .on ⟨k (.next .undefined), heap, coroutines, frames, [], time, tripped⟩

/-- Steps until the computation is over, at most `bound` of them. -/
def run (i : Interpreter) : Nat → Machine → Verdict × Machine
  | 0, m => (.unfinished, m)
  | bound + 1, m =>
    match m.step i with
    | .on m => run i bound m
    | .ended r m => (.finished r, m)

end Machine

end ScriptHost.Script
