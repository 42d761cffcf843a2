import ScriptHost.Proofs.Worker.Step

/-! Who has the locks of a worker, and what those wait for who wait. Nobody waits for somebody
who waits in turn: the lock on the sender is kept only while the thread comes to its end, and the
thread needs no lock.

Those who wait for the thread of a worker wait for a job of theirs that is in the queue or in the
hands of the thread, or for the end of the thread once it has left its loop. -/

namespace ScriptHost

variable {K : EngineKind} {α β : Type}

/-- The lock is in the hands of whoever is at a stage that has it. -/
def Held (holds : α → Bool) (tag : Nat → β) (stages : Nat → α) (lock : Option β) : Prop :=
  ∀ caller, holds (stages caller) = true ↔ lock = some (tag caller)

section

variable {holds : α → Bool} {tag : Nat → β} {stages : Nat → α} {lock : Option β} {caller : Nat}
  {stage : α}

theorem Held.kept (held : Held holds tag stages lock)
    (same : holds stage = holds (stages caller)) :
    Held holds tag (Function.update stages caller stage) lock := by
  intro other
  by_cases own : other = caller
  · rw [own, Function.update_self, same]
    exact held caller
  · rw [Function.update_of_ne own]
    exact held other

theorem Held.free (held : Held holds tag stages none) (other : Nat) :
    holds (stages other) = false := by
  have given := held other
  simpa using given

theorem Held.taken (held : Held holds tag stages none) (injective : Function.Injective tag)
    (takes : holds stage = true) :
    Held holds tag (Function.update stages caller stage) (some (tag caller)) := by
  intro other
  by_cases own : other = caller
  · rw [own, Function.update_self]
    exact ⟨fun _ => rfl, fun _ => takes⟩
  · rw [Function.update_of_ne own, held.free other, Option.some.injEq]
    exact ⟨fun absent => absurd absent Bool.false_ne_true,
      fun same => absurd (injective same).symm own⟩

theorem Held.released (held : Held holds tag stages lock) (injective : Function.Injective tag)
    (has : holds (stages caller) = true) (gives : holds stage = false) :
    Held holds tag (Function.update stages caller stage) none := by
  intro other
  by_cases own : other = caller
  · rw [own, Function.update_self, gives]
    simp
  · rw [Function.update_of_ne own, held other, (held caller).mp has, Option.some.injEq]
    exact ⟨fun same => absurd (injective same).symm own, fun absent => by cases absent⟩

/-- The lock is in hands of another kind. -/
theorem Held.elsewhere (held : Held holds tag stages none) {holder : β}
    (foreign : ∀ other, holder ≠ tag other) : Held holds tag stages (some holder) := by
  intro other
  rw [held.free other, Option.some.injEq]
  exact ⟨fun absent => absurd absent Bool.false_ne_true, fun same => absurd same (foreign other)⟩

/-- Hands of another kind have given the lock back. -/
theorem Held.back (held : Held holds tag stages lock) {holder : β} (was : lock = some holder)
    (foreign : ∀ other, holder ≠ tag other) : Held holds tag stages none := by
  intro other
  rw [held other, was, Option.some.injEq]
  exact ⟨fun same => absurd same (foreign other), fun absent => by cases absent⟩

end

/-- Has the call the lock on the sender? -/
@[simp] def RunStage.holds : RunStage → Bool
  | .looking _ => true
  | _ => false

@[simp] def DisposeStage.holdsSender : DisposeStage → Bool
  | .looking | .sending | .waiting => true
  | _ => false

@[simp] def DisposeStage.holdsThread : DisposeStage → Bool
  | .reaching | .joining => true
  | _ => false

namespace Worker

/-- The locks of a worker are where the stages say. -/
structure Locks (s : Shared K) : Prop where
  runner : Held RunStage.holds Party.runner s.runs s.senderLock
  disposer : Held DisposeStage.holdsSender Party.disposer s.disposals s.senderLock
  thread : Held DisposeStage.holdsThread id s.disposals s.threadLock

variable {s s' : Shared K} {event : Event}

theorem Locks.start (engine : K.Engine) : Locks (.start engine) where
  runner _ := by simp [Shared.start]
  disposer _ := by simp [Shared.start]
  thread _ := by simp [Shared.start]

theorem runner_injective : Function.Injective Party.runner := fun _ _ same => by simpa using same

theorem disposer_injective : Function.Injective Party.disposer :=
  fun _ _ same => by simpa using same

theorem Locks.step (locks : Locks s) (step : Step s event s') : Locks s' := by
  obtain ⟨runner, disposer, thread⟩ := locks
  cases step with
  | look stage free =>
    rw [free] at runner disposer
    exact ⟨runner.taken runner_injective rfl, disposer.elsewhere (by simp), thread⟩
  | @clone caller command stage | @turnedAway caller command stage =>
    have has := (runner caller).mp (by simp [stage])
    exact ⟨runner.released runner_injective (by simp [stage]) rfl,
      disposer.back has (by simp), thread⟩
  | disposeLook stage free =>
    rw [free] at runner disposer
    exact ⟨runner.elsewhere (by simp), disposer.taken disposer_injective rfl,
      thread.kept (by simp [stage])⟩
  | @disposeLate caller stage | @disposeUnsent caller stage | @disposeDone caller stage =>
    have has := (disposer caller).mp (by simp [stage])
    exact ⟨runner.back has (by simp), disposer.released disposer_injective (by simp [stage]) rfl,
      thread.kept (by simp [stage])⟩
  | reach stage free =>
    rw [free] at thread
    exact ⟨runner, disposer.kept (by simp [stage]), thread.taken Function.injective_id rfl⟩
  | joinLate stage | joined stage =>
    exact ⟨runner, disposer.kept (by simp [stage]),
      thread.released Function.injective_id (by simp [stage]) rfl⟩
  | call command stage | send stage | unsent stage | take stage | miss stage =>
    exact ⟨runner.kept (by simp [stage]), disposer, thread⟩
  | dispose stage | disposeTake stage | disposeSend stage | join stage =>
    exact ⟨runner, disposer.kept (by simp [stage]), thread.kept (by simp [stage])⟩
  | @discard _ _ job => cases job <;> exact ⟨runner, disposer, thread⟩
  | receive | receiveDispose | starve | execute | judge | answer | close | drop | part
  | acknowledge => exact ⟨runner, disposer, thread⟩

end Worker

end ScriptHost

/-! ### Waiting for the thread -/

namespace ScriptHost

variable {K : EngineKind}

namespace Thread

/-- The caller whose command is in the hands of the thread. -/
@[simp] def caller? : Thread K → Option Nat
  | .working _ caller _ | .judging _ caller _ | .answering _ caller _ => some caller
  | _ => none

/-- The caller to be told that the engine is gone. -/
@[simp] def disposer? : Thread K → Option Nat
  | .leaving _ disposer | .discarding _ disposer | .parting disposer => disposer
  | _ => none

/-- Is the thread out of its loop? -/
@[simp] def past : Thread K → Bool
  | .leaving .. | .discarding .. | .parting _ | .ended => true
  | _ => false

/-- Has the thread dropped the receiver? -/
@[simp] def closed : Thread K → Bool
  | .discarding .. | .parting _ | .ended => true
  | _ => false

/-- Has the thread dropped what was in the queue? -/
@[simp] def drained : Thread K → Bool
  | .parting _ | .ended => true
  | _ => false

end Thread

/-- Has the call come to the thread handle? -/
@[simp] def DisposeStage.left : DisposeStage → Bool
  | .leaving | .reaching | .joining | .returned => true
  | _ => false

/-- Does the call have the sender, to itself? -/
@[simp] def DisposeStage.tookSender : DisposeStage → Bool
  | .sending | .waiting => true
  | _ => false

namespace Worker

/-- What those wait for who wait for the thread. -/
structure Awaits (s : Shared K) : Prop where
  reply : ∀ caller, s.runs caller = .waiting → s.replies caller = .pending →
    caller ∈ Job.runners s.queue ∨ s.state.caller? = some caller
  end_ : ∀ caller, s.disposals caller = .waiting → s.acknowledged caller = .pending →
    .dispose caller ∈ s.queue ∨ s.state.disposer? = some caller
  receiver : s.receiver = !s.state.closed
  drained : s.state.drained = true → s.queue = []
  acknowledged : ∀ caller, s.acknowledged caller ≠ .pending → s.state.past = true
  sender : s.sender = false → s.state.past = true ∨ ∃ caller, (s.disposals caller).tookSender = true
  left : ∀ caller, (s.disposals caller).left = true → s.state.past = true

variable {s s' : Shared K} {event : Event}

theorem Awaits.start (engine : K.Engine) : Awaits (.start engine) where
  reply _ held := by cases held
  end_ _ held := by cases held
  receiver := rfl
  drained held := by cases held
  acknowledged _ held := absurd rfl held
  sender held := by cases held
  left _ held := by cases held

/-- Steps of callers who send nothing. -/
theorem Awaits.moved (awaits : Awaits s) (queue : s'.queue = s.queue) (state : s'.state = s.state)
    (replies : s'.replies = s.replies) (acknowledged : s'.acknowledged = s.acknowledged)
    (receiver : s'.receiver = s.receiver)
    (runs : ∀ caller, s'.runs caller = .waiting → s.runs caller = .waiting)
    (disposals : ∀ caller, s'.disposals caller = .waiting → s.disposals caller = .waiting)
    (sender : s'.sender = false →
      s.state.past = true ∨ ∃ caller, (s'.disposals caller).tookSender = true)
    (left : ∀ caller, (s'.disposals caller).left = true → s.state.past = true) : Awaits s' := by
  constructor
  · rw [queue, state, replies]
    exact fun caller waits => awaits.reply caller (runs caller waits)
  · rw [queue, state, acknowledged]
    exact fun caller waits => awaits.end_ caller (disposals caller waits)
  · rw [receiver, state]
    exact awaits.receiver
  · rw [queue, state]
    exact awaits.drained
  · rw [acknowledged, state]
    exact awaits.acknowledged
  · rwa [state]
  · rwa [state]

/-- Steps of the thread. -/
theorem Awaits.thread (awaits : Awaits s) (runs : s'.runs = s.runs)
    (disposals : s'.disposals = s.disposals) (sender : s'.sender = s.sender)
    (past : s.state.past = true → s'.state.past = true)
    (reply : ∀ caller, s.runs caller = .waiting → s'.replies caller = .pending →
      caller ∈ Job.runners s'.queue ∨ s'.state.caller? = some caller)
    (end_ : ∀ caller, s.disposals caller = .waiting → s'.acknowledged caller = .pending →
      .dispose caller ∈ s'.queue ∨ s'.state.disposer? = some caller)
    (receiver : s'.receiver = !s'.state.closed)
    (drained : s'.state.drained = true → s'.queue = [])
    (acknowledged : ∀ caller, s'.acknowledged caller ≠ .pending → s'.state.past = true) :
    Awaits s' := by
  refine ⟨runs ▸ reply, disposals ▸ end_, receiver, drained, acknowledged, ?_, ?_⟩
  · intro gone
    rw [disposals]
    exact (awaits.sender (sender ▸ gone)).imp_left past
  · intro caller left
    exact past (awaits.left caller (disposals ▸ left))

/-- Steps of the thread that bring nobody an answer. -/
theorem Awaits.onward (awaits : Awaits s) {state : Thread K} {receiver failed : Bool}
    (caller : state.caller? = s.state.caller?) (disposer : state.disposer? = s.state.disposer?)
    (past : s.state.past = true → state.past = true) (closed : receiver = !state.closed)
    (drained : state.drained = true → s.queue = []) :
    Awaits { s with state := state, receiver := receiver, failed := failed } := by
  refine awaits.thread rfl rfl rfl past ?_ ?_ closed drained
    fun other told => past (awaits.acknowledged other told)
  · intro other waits silent
    exact (awaits.reply other waits silent).imp_right caller.trans
  · intro other waits silent
    exact (awaits.end_ other waits silent).imp_right disposer.trans

theorem took_other {stages : Nat → DisposeStage} {caller : Nat} {stage : DisposeStage}
    (idle : (stages caller).tookSender = false)
    (took : ∃ caller, (stages caller).tookSender = true) :
    ∃ other, (Function.update stages caller stage other).tookSender = true := by
  obtain ⟨other, took⟩ := took
  have differs : other ≠ caller := by
    rintro rfl
    rw [idle] at took
    cases took
  exact ⟨other, by rwa [Function.update_of_ne differs]⟩

/-- Only one can have the sender to itself, and it keeps the lock. -/
theorem Awaits.past_of_late (locks : Locks s) (awaits : Awaits s) {caller : Nat}
    (stage : s.disposals caller = .looking) (gone : s.sender = false) : s.state.past = true := by
  rcases awaits.sender gone with past | ⟨other, took⟩
  · exact past
  have own := (locks.disposer caller).mp (by simp [stage])
  have theirs := (locks.disposer other).mp (by cases held : s.disposals other <;> simp_all)
  have same : caller = other := by simpa using own.symm.trans theirs
  rw [← same, stage] at took
  cases took

theorem back_of_update {α : Type} {stages : Nat → α} {caller : Nat} {stage target : α}
    (moves : stage ≠ target) (other : Nat)
    (reached : Function.update stages caller stage other = target) : stages other = target := by
  by_cases same : other = caller
  · rw [same, Function.update_self] at reached
    exact absurd reached moves
  · rwa [Function.update_of_ne same] at reached

theorem Awaits.left_moved {caller : Nat} {stage : DisposeStage} (awaits : Awaits s)
    (own : stage.left = true → s.state.past = true) (other : Nat) :
    (Function.update s.disposals caller stage other).left = true → s.state.past = true :=
  (Function.forall_update_iff s.disposals
    (fun _ stage => stage.left = true → s.state.past = true)).mpr
      ⟨own, fun other _ => awaits.left other⟩ other

theorem Awaits.past_of_closed (awaits : Awaits s) (closed : s.receiver = false) :
    s.state.past = true := by
  have given := awaits.receiver
  cases held : s.state <;> simp_all

theorem Awaits.undrained (awaits : Awaits s) (held : s.receiver = true) :
    s.state.drained = false := by
  have given := awaits.receiver
  cases place : s.state <;> simp_all

theorem Awaits.step (locks : Locks s) (awaits : Awaits s) (step : Step s event s') : Awaits s' := by
  cases step with
  | call | look | clone | turnedAway | unsent | take | miss =>
    exact awaits.moved rfl rfl rfl rfl rfl (back_of_update (by simp)) (fun _ waits => waits)
      awaits.sender awaits.left
  | dispose stage | disposeLook stage =>
    exact awaits.moved rfl rfl rfl rfl rfl (fun _ waits => waits) (back_of_update (by simp))
      (fun gone => (awaits.sender gone).imp_right (took_other (by simp [stage])))
      (awaits.left_moved (by simp))
  | @disposeTake caller stage =>
    exact awaits.moved rfl rfl rfl rfl rfl (fun _ waits => waits) (back_of_update (by simp))
      (fun _ => .inr ⟨caller, by simp⟩) (awaits.left_moved (by simp))
  | disposeLate stage gone =>
    have past := awaits.past_of_late locks stage gone
    exact awaits.moved rfl rfl rfl rfl rfl (fun _ waits => waits) (back_of_update (by simp))
      (fun _ => .inl past) (awaits.left_moved fun _ => past)
  | disposeUnsent stage closed =>
    have past := awaits.past_of_closed closed
    exact awaits.moved rfl rfl rfl rfl rfl (fun _ waits => waits) (back_of_update (by simp))
      (fun _ => .inl past) (awaits.left_moved fun _ => past)
  | @disposeDone caller stage told =>
    have past := awaits.acknowledged caller told
    exact awaits.moved rfl rfl rfl rfl rfl (fun _ waits => waits) (back_of_update (by simp))
      (fun _ => .inl past) (awaits.left_moved fun _ => past)
  | @reach caller stage | @join caller stage | @joinLate caller stage | @joined caller stage =>
    have past := awaits.left caller (by simp [stage])
    exact awaits.moved rfl rfl rfl rfl rfl (fun _ waits => waits) (back_of_update (by simp))
      (fun _ => .inl past) (awaits.left_moved fun _ => past)
  | @send caller command stage held =>
    have undrained := awaits.undrained held
    obtain ⟨reply, end_, receiver, drained, acknowledged, sender, left⟩ := awaits
    refine ⟨?_, ?_, receiver, ?_, acknowledged, sender, left⟩
    · intro other waits silent
      by_cases same : other = caller
      · simp [same]
      · have waits : s.runs other = .waiting := by simpa [same] using waits
        exact (reply other waits silent).imp_left (by simp +contextual)
    · intro other waits silent
      exact (end_ other waits silent).imp_left (by simp +contextual)
    · exact fun ended => absurd (undrained.symm.trans ended) Bool.false_ne_true
  | @disposeSend caller stage held =>
    have undrained := awaits.undrained held
    have taken : (s.disposals caller).tookSender = true := by simp [stage]
    refine ⟨?_, ?_, awaits.receiver, ?_, awaits.acknowledged, ?_, awaits.left_moved (by simp)⟩
    · intro other waits silent
      simpa using awaits.reply other waits silent
    · intro other waits silent
      by_cases same : other = caller
      · simp [same]
      · have waits : s.disposals other = .waiting := by simpa [same] using waits
        exact (awaits.end_ other waits silent).imp_left (by simp +contextual)
    · exact fun ended => absurd (undrained.symm.trans ended) Bool.false_ne_true
    · exact fun _ => .inr ⟨caller, by simp⟩
  | @receive engine caller command rest place shape =>
    refine awaits.thread rfl rfl rfl (by simp [place]) ?_ ?_ (by simp [place, awaits.receiver])
      (by simp) fun other told => ?_
    · intro other waits silent
      have given := awaits.reply other waits silent
      simpa [shape, place, Job.runners, eq_comm, or_comm] using given
    · intro other waits silent
      have given := awaits.end_ other waits silent
      simpa [shape, place] using given
    · have given := awaits.acknowledged other told
      simp [place] at given
  | @receiveDispose engine caller rest place shape =>
    refine awaits.thread rfl rfl rfl (by simp) ?_ ?_ (by simp [place, awaits.receiver]) (by simp)
      fun _ _ => rfl
    · intro other waits silent
      have given := awaits.reply other waits silent
      simpa [shape, place, Job.runners] using given
    · intro other waits silent
      have given := awaits.end_ other waits silent
      simpa [shape, place, eq_comm, or_comm] using given
  | starve place | execute place | judge place =>
    exact awaits.onward (by simp [place]) (by simp [place]) (by simp [place])
      (by simp [place, awaits.receiver]) (by simp)
  | @answer engine caller result place =>
    refine awaits.thread rfl rfl rfl (by simp [place]) ?_ ?_ ?_ ?_ fun other told => ?_
    · intro other waits silent
      have differs : other ≠ caller := by
        rintro rfl
        simp at silent
      have given := awaits.reply other waits (by simpa [differs] using silent)
      simp only [place, Thread.caller?, Option.some.injEq, differs.symm, or_false] at given
      exact .inl given
    · intro other waits silent
      have given := awaits.end_ other waits silent
      simp only [place, Thread.disposer?, reduceCtorEq, or_false] at given
      exact .inl given
    · cases fatal result <;> simp [place, awaits.receiver]
    · cases fatal result <;> simp
    · have given := awaits.acknowledged other told
      simp [place] at given
  | close place =>
    exact awaits.onward (by simp [place]) (by simp [place]) (by simp) rfl (by simp)
  | @discard engine disposer job rest place shape =>
    have receiver := awaits.receiver
    rw [place] at receiver
    cases job with
    | run caller command =>
      refine awaits.thread rfl rfl rfl (fun past => past) ?_ ?_
        (by simp [Shared.closing, place, receiver]) (by simp [place]) fun _ _ => by simp [place]
      · intro other waits silent
        have differs : other ≠ caller := by
          rintro rfl
          simp [Shared.closing] at silent
        have given := awaits.reply other waits (by simpa [Shared.closing, differs] using silent)
        simpa [shape, place, Job.runners, differs] using given
      · intro other waits silent
        simpa [shape, place] using awaits.end_ other waits silent
    | dispose caller =>
      refine awaits.thread rfl rfl rfl (fun past => past) ?_ ?_
        (by simp [Shared.closing, place, receiver]) (by simp [place]) fun _ _ => by simp [place]
      · intro other waits silent
        simpa [shape, place, Job.runners] using awaits.reply other waits silent
      · intro other waits silent
        have differs : other ≠ caller := by
          rintro rfl
          simp [Shared.closing] at silent
        have given := awaits.end_ other waits (by simpa [Shared.closing, differs] using silent)
        simpa [shape, place, differs] using given
  | drop place shape =>
    exact awaits.onward (by simp [place]) (by simp [place]) (by simp)
      (by simp [place, awaits.receiver]) fun _ => shape
  | part place =>
    have empty := awaits.drained (by simp [place])
    exact awaits.onward (by simp [place]) (by simp [place]) (by simp)
      (by simp [place, awaits.receiver]) fun _ => empty
  | @acknowledge caller place =>
    have empty := awaits.drained (by simp [place])
    refine awaits.thread rfl rfl rfl (by simp) ?_ ?_ ?_ (fun _ => empty) fun _ _ => rfl
    · intro other waits silent
      simpa [place] using awaits.reply other waits silent
    · intro other waits silent
      have differs : other ≠ caller := by
        rintro rfl
        simp at silent
      simpa [place, differs.symm] using awaits.end_ other waits (by simpa [differs] using silent)
    · simp [place, awaits.receiver]

end Worker

end ScriptHost
