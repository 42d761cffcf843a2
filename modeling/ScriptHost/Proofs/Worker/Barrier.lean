import ScriptHost.Proofs.Worker.Awaits
import ScriptHost.Proofs.Worker.Linear

/-! A call of `dispose` comes back to nobody before the engine is gone. One call takes the sender away and
one takes the thread; all others wait for the lock of whoever did, so they find either gone only after
the thread has come to its end. The thread in turn leaves its loop for a disposal, after everything that
was queued before, or for a fatal result. -/

namespace ScriptHost

variable {K : EngineKind}

/-- Does something happen to a job or to the engine? -/
@[simp] def Event.works : Event → Bool
  | .sent _ | .received _ | .executed _ | .discarded _ | .dropped => true
  | _ => false

namespace Job

@[simp] def disposer? : Job → Option Nat
  | run .. => none
  | dispose caller => some caller

/-- Those whose disposals are among the jobs. -/
def disposers (jobs : List Job) : List Nat := jobs.filterMap disposer?

@[simp] theorem disposers_append (jobs more : List Job) :
    disposers (jobs ++ more) = disposers jobs ++ disposers more := List.filterMap_append

@[simp] theorem disposers_cons (job : Job) (rest : List Job) :
    disposers (job :: rest) = job.disposer?.toList ++ disposers rest := by
  cases job <;> rfl

@[simp] theorem disposers_nil : disposers [] = [] := rfl

end Job

/-- Only one has a lock. -/
theorem Held.unique {α β : Type} {holds : α → Bool} {tag : Nat → β} {stages : Nat → α}
    {lock : Option β} (held : Held holds tag stages lock)
    (injective : Function.Injective tag) {one other : Nat} (first : holds (stages one) = true)
    (second : holds (stages other) = true) : one = other :=
  injective (Option.some.inj (((held one).mp first).symm.trans ((held other).mp second)))

namespace Worker

open Job

variable {engine : K.Engine} {trace before after : List Event} {s s' : Shared K} {event : Event}
  {caller : Nat}

/-! ### Who has the sender and the thread -/

/-- What the stage of a call of `dispose` says: once it has looked for the sender nobody finds one, and
once it has looked for the thread this is at its end, or the call itself waits for that. -/
def DisposalStands (s : Shared K) : DisposeStage → Prop
  | .idle | .entered | .looking => True
  | .sending | .waiting | .leaving | .reaching => s.sender = false
  | .joining => s.sender = false ∧ s.thread = false
  | .returned => s.sender = false ∧ s.thread = false ∧ s.state = .ended

/-- The sender and the thread are each taken once, and nobody passes whoever took them. -/
structure Disposing (trace : List Event) (s : Shared K) : Prop where
  stages : ∀ caller, DisposalStands s (s.disposals caller)
  /-- While the sender can be had, or somebody is about to use it, no disposal has been queued. -/
  unsent : s.sender = true ∨ (∃ caller, s.disposals caller = .sending) → disposers (sent trace) = []
  one : (disposers (sent trace)).length ≤ 1
  thread : s.thread = false → s.state = .ended ∨ ∃ caller, s.disposals caller = .joining

theorem Disposing.start (engine : K.Engine) : Disposing [] (.start engine) where
  stages _ := trivial
  unsent _ := rfl
  one := Nat.zero_le _
  thread held := by cases held

theorem Disposing.at {stage : DisposeStage} (disposing : Disposing trace s)
    (held : s.disposals caller = stage) : DisposalStands s stage :=
  held ▸ disposing.stages caller

/-- What was taken stays taken. -/
theorem DisposalStands.later {stage : DisposeStage} (stands : DisposalStands s stage)
    (sender : s.sender = false → s'.sender = false) (thread : s.thread = false → s'.thread = false)
    (ended : s.state = .ended → s'.state = .ended) : DisposalStands s' stage := by
  cases stage with
  | idle | entered | looking => trivial
  | sending | waiting | leaving | reaching => exact sender stands
  | joining => exact ⟨sender stands.1, thread stands.2⟩
  | returned => exact ⟨sender stands.1, thread stands.2.1, ended stands.2.2⟩

/-- Steps in which nobody's disposal goes on. -/
theorem Disposing.aside (disposing : Disposing trace s) (disposals : s'.disposals = s.disposals)
    (sender : s'.sender = s.sender) (thread : s'.thread = s.thread)
    (ended : s.state = .ended → s'.state = .ended)
    (queued : disposers (sent (trace ++ [event])) = disposers (sent trace)) :
    Disposing (trace ++ [event]) s' where
  stages caller := by
    rw [disposals]
    exact (disposing.stages caller).later sender.trans thread.trans ended
  unsent := by
    rw [disposals, sender, queued]
    exact disposing.unsent
  one := queued ▸ disposing.one
  thread gone := by
    rw [disposals]
    exact (disposing.thread (thread ▸ gone)).imp_left ended

/-- The stages of all disposals, when one of them has gone on. -/
theorem Disposing.stages_moved {stage : DisposeStage} (disposing : Disposing trace s)
    (own : DisposalStands s' stage) (sender : s.sender = false → s'.sender = false)
    (thread : s.thread = false → s'.thread = false) (ended : s.state = .ended → s'.state = .ended)
    (other : Nat) : DisposalStands s' (Function.update s.disposals caller stage other) :=
  (Function.forall_update_iff s.disposals (fun _ => DisposalStands s')).mpr
    ⟨own, fun other _ => (disposing.stages other).later sender thread ended⟩ other

/-- Whoever waits for the thread goes on waiting while somebody else goes on. -/
theorem Disposing.thread_moved {stage : DisposeStage} (disposing : Disposing trace s)
    (gone : s.thread = false) (joined : s.disposals caller = .joining → s.state = .ended) :
    s.state = .ended ∨ ∃ other, Function.update s.disposals caller stage other = .joining := by
  rcases disposing.thread gone with ended | ⟨other, joins⟩
  · exact .inl ended
  by_cases same : other = caller
  · exact .inl (joined (same ▸ joins))
  · exact .inr ⟨other, by rwa [Function.update_of_ne same]⟩

/-- Steps in which a disposal goes on without the sender or the thread being taken. -/
theorem Disposing.moved {stage : DisposeStage} (disposing : Disposing trace s)
    (disposals : s'.disposals = Function.update s.disposals caller stage)
    (sender : s'.sender = s.sender) (thread : s'.thread = s.thread) (state : s'.state = s.state)
    (queued : disposers (sent (trace ++ [event])) = disposers (sent trace))
    (own : DisposalStands s stage) (idle : stage ≠ .sending)
    (joined : s.disposals caller = .joining → s.state = .ended) : Disposing (trace ++ [event]) s' where
  stages := by
    rw [disposals]
    exact disposing.stages_moved (own.later sender.trans thread.trans state.trans) sender.trans
      thread.trans state.trans
  unsent := by
    rw [disposals, sender, queued]
    exact fun held => disposing.unsent (held.imp_right fun ⟨other, sends⟩ =>
      ⟨other, back_of_update idle other sends⟩)
  one := queued ▸ disposing.one
  thread gone := by
    rw [disposals, state]
    exact disposing.thread_moved (thread ▸ gone) joined

theorem Disposing.step (locks : Locks s) (disposing : Disposing trace s) (step : Step s event s') :
    Disposing (trace ++ [event]) s' := by
  cases step with
  | call | look | clone | turnedAway | unsent | take | miss | send =>
    exact disposing.aside rfl rfl rfl id (by simp)
  | receive place | receiveDispose place | starve place | execute place | judge place | answer place
  | close place | drop place =>
    exact disposing.aside rfl rfl rfl (by simp [place]) (by simp)
  | @discard _ _ job _ place =>
    cases job <;> exact disposing.aside rfl rfl rfl (by simp [Shared.closing, place]) (by simp)
  | part | acknowledge => exact disposing.aside rfl rfl rfl (fun _ => rfl) (by simp)
  | dispose stage | disposeLook stage =>
    exact disposing.moved rfl rfl rfl rfl (by simp) trivial (by simp) (by simp [stage])
  | disposeLate stage gone =>
    exact disposing.moved rfl rfl rfl rfl (by simp) gone (by simp) (by simp [stage])
  | disposeUnsent stage | disposeDone stage | reach stage =>
    have gone : s.sender = false := disposing.at stage
    exact disposing.moved rfl rfl rfl rfl (by simp) gone (by simp) (by simp [stage])
  | joined stage ended =>
    obtain ⟨sender, thread⟩ := disposing.at stage
    exact disposing.moved rfl rfl rfl rfl (by simp) ⟨sender, thread, ended⟩ (by simp) fun _ => ended
  | @joinLate caller stage gone =>
    -- Whoever waits for the thread still has its lock, and that is in other hands.
    have ended : s.state = .ended := by
      refine (disposing.thread gone).resolve_right fun joining => ?_
      obtain ⟨other, joins⟩ := joining
      have same : caller = other :=
        Held.unique locks.thread Function.injective_id (by simp [stage]) (by simp [joins])
      rw [← same, stage] at joins
      cases joins
    exact disposing.moved rfl rfl rfl rfl (by simp) ⟨disposing.at stage, gone, ended⟩ (by simp)
      (by simp [stage])
  | @disposeTake caller stage held =>
    have none : disposers (sent trace) = [] := disposing.unsent (.inl held)
    exact ⟨disposing.stages_moved rfl (fun _ => rfl) id id, fun _ => by simpa using none,
      by simp [none], fun gone => disposing.thread_moved gone (by simp [stage])⟩
  | @disposeSend caller stage held =>
    have none : disposers (sent trace) = [] := disposing.unsent (.inr ⟨caller, stage⟩)
    have gone : s.sender = false := disposing.at stage
    refine ⟨disposing.stages_moved gone id id id, ?_, by simp [none],
      fun gone => disposing.thread_moved gone (by simp [stage])⟩
    -- Nobody else is about to send: that would take the same lock.
    rintro (had | ⟨other, sends⟩)
    · exact absurd (gone.symm.trans had) Bool.false_ne_true
    · have before := back_of_update (by simp) other sends
      have same : caller = other :=
        Held.unique locks.disposer disposer_injective (by simp [stage]) (by simp [before])
      subst same
      simp at sends
  | @join caller stage held =>
    have gone : s.sender = false := disposing.at stage
    refine ⟨disposing.stages_moved ⟨gone, rfl⟩ id (fun _ => rfl) id, ?_,
      by simpa using disposing.one, fun _ => .inr ⟨caller, by simp⟩⟩
    rintro (had | ⟨other, sends⟩)
    · exact absurd (gone.symm.trans had) Bool.false_ne_true
    · simpa using disposing.unsent (.inr ⟨other, back_of_update (by simp) other sends⟩)

/-! ### When and why the engine goes -/

/-- The engine was dropped once, and nothing was carried out after that. -/
def DroppedOnce (trace : List Event) : Prop :=
  ∃ before after, trace = before ++ .dropped :: after ∧ .dropped ∉ before ∧ .dropped ∉ after ∧
    executed after = []

/-- The thread is out of its loop because somebody disposed of it, or because of a fatal result. -/
def Reasoned (trace : List Event) : Prop :=
  disposers (received trace) ≠ [] ∨ ∃ x, (executed trace).getLast? = some x ∧ fatal x.result = true

/-- The engine is there as long as the thread has it. -/
structure Departing (trace : List Event) (s : Shared K) : Prop where
  kept : s.state.engine?.isSome → .dropped ∉ trace
  gone : s.state.engine? = none → DroppedOnce trace
  reasoned : s.state.past = true → Reasoned trace

theorem Departing.start (engine : K.Engine) : Departing [] (.start engine) where
  kept _ := List.not_mem_nil
  gone held := by cases held
  reasoned held := by cases held

theorem executed_aside (idle : event.executed? = none) :
    executed (trace ++ [event]) = executed trace := by
  rw [executed_snoc, idle, Option.toList_none, List.append_nil]

theorem DroppedOnce.later (once : DroppedOnce trace) (other : event ≠ .dropped)
    (idle : event.executed? = none) : DroppedOnce (trace ++ [event]) := by
  obtain ⟨before, after, rfl, first, rest, quiet⟩ := once
  exact ⟨before, after ++ [event], by simp, first, by simpa using ⟨rest, other.symm⟩,
    (executed_aside idle).trans quiet⟩

theorem Reasoned.later (reasoned : Reasoned trace) (idle : event.executed? = none) :
    Reasoned (trace ++ [event]) := by
  unfold Reasoned
  rw [executed_aside idle]
  refine reasoned.imp_left fun some => ?_
  simp [some]

/-- Steps in which the engine is neither used nor dropped, and the thread does not leave its loop. -/
theorem Departing.aside (departing : Departing trace s)
    (engine : s'.state.engine?.isSome = s.state.engine?.isSome) (past : s'.state.past = s.state.past)
    (other : event ≠ .dropped) (idle : event.executed? = none) : Departing (trace ++ [event]) s' where
  kept held := by
    rw [engine] at held
    simpa using ⟨departing.kept held, other.symm⟩
  gone absent := by
    have before : s.state.engine? = none := by
      rw [absent] at engine
      simpa using engine.symm
    exact (departing.gone before).later other idle
  reasoned held := (departing.reasoned (past ▸ held)).later idle

/-- Steps with which the thread leaves its loop. -/
theorem Departing.left (departing : Departing trace s) (has : s.state.engine?.isSome)
    (keeps : s'.state.engine?.isSome) (other : event ≠ .dropped)
    (reasoned : Reasoned (trace ++ [event])) : Departing (trace ++ [event]) s' where
  kept _ := by simpa using ⟨departing.kept has, other.symm⟩
  gone absent := by
    rw [absent] at keeps
    cases keeps
  reasoned _ := reasoned

theorem Departing.step (awaits : Awaits s) (inOrder : InOrder engine trace s)
    (departing : Departing trace s) (step : Step s event s') : Departing (trace ++ [event]) s' := by
  cases step with
  | call | look | clone | turnedAway | unsent | take | miss | send | dispose | disposeLook | disposeTake
  | disposeLate | disposeSend | disposeUnsent | disposeDone | reach | join | joinLate | joined =>
    exact departing.aside rfl rfl (by simp) rfl
  | receive place | judge place | close place | part place | acknowledge place =>
    exact departing.aside (by simp [place, Thread.engine?]) (by simp [place]) (by simp) rfl
  | @discard _ _ job => cases job <;> exact departing.aside rfl rfl (by simp) rfl
  | receiveDispose place =>
    exact departing.left (by simp [place, Thread.engine?]) (by simp [Thread.engine?]) (by simp)
      (.inl (by simp))
  | starve place empty unsent =>
    -- The thread is never left alone: whoever took the sender away sends a disposal.
    rcases awaits.sender unsent.1 with past | ⟨caller, took⟩
    · simp [place] at past
    · obtain ⟨sending, waiting⟩ := unsent.2.2 caller
      cases stage : s.disposals caller <;> simp_all
  | execute place =>
    have has : s.state.engine?.isSome := by simp [place, Thread.engine?]
    exact ⟨fun _ => by simpa using departing.kept has, by simp [Thread.engine?], by simp⟩
  | @answer _ caller result place =>
    have has : s.state.engine?.isSome := by simp [place, Thread.engine?]
    have stands := inOrder.stands
    rw [place] at stands
    obtain ⟨-, -, ⟨before, command, last, -⟩, -⟩ := stands
    cases ends : fatal result with
    | true =>
      have final : (executed trace).getLast? = some ⟨caller, command, result⟩ := by
        rw [last, List.getLast?_concat]
      exact departing.left has (by simp [Thread.engine?]) (by simp)
        (.inr ⟨_, by simpa using final, ends⟩)
    | false =>
      exact departing.aside (by simp [place, Thread.engine?]) (by simp [place]) (by simp) rfl
  | drop place =>
    have has : s.state.engine?.isSome := by simp [place, Thread.engine?]
    exact ⟨by simp [Thread.engine?], fun _ => ⟨trace, [], rfl, departing.kept has, by simp, rfl⟩,
      fun _ => (departing.reasoned (by simp [place])).later rfl⟩

/-! ### What was queued before a disposal -/

/-- Of these jobs every command was carried out, or an earlier one was fatal. -/
def Flushed (jobs : List Job) (done : List Execution) : Prop :=
  ∀ earlier caller command later, jobs = earlier ++ .run caller command :: later →
    (∃ x ∈ done, x.job = .run caller command) ∨ ∃ x ∈ done, x.job ∈ earlier ∧ fatal x.result = true

theorem disposers_executed (xs : List Execution) : disposers (xs.map Execution.job) = [] := by
  induction xs with
  | nil => rfl
  | cons x rest ih => simpa [Execution.job] using ih

/-- A job that is not among the first ones stands behind all of them. -/
theorem prefix_before {front jobs earlier later : List Job} {job : Job} (leads : front <+: jobs)
    (shape : jobs = earlier ++ job :: later) (behind : job ∉ front) : front <+: earlier := by
  have own : earlier ++ [job] <+: jobs := ⟨later, by simp [shape]⟩
  rcases List.prefix_or_prefix_of_prefix leads own with le | ge
  · rcases List.prefix_concat_iff.mp le with same | le
    · exact absurd (by simp [same]) behind
    · exact le
  · exact absurd (ge.subset (by simp)) behind

/-- Where the thread has come to its end, everything in front of a disposal was carried out, or as much of
it as there is up to a fatal result. -/
theorem InOrder.flushed (inOrder : InOrder engine trace s) (departing : Departing trace s)
    (one : (disposers (sent trace)).length ≤ 1) (ended : s.state = .ended) {jobs rest : List Job}
    (shape : sent trace = jobs ++ .dispose caller :: rest) : Flushed jobs (executed trace) := by
  intro earlier owner command later split
  have front := prefix_before_dispose inOrder.executed_prefix_sent shape
  by_cases done : .run owner command ∈ (executed trace).map Execution.job
  · obtain ⟨x, member, same⟩ := List.mem_map.mp done
    exact .inl ⟨x, member, same⟩
  have before := prefix_before front split done
  rcases departing.reasoned (by simp [ended]) with received | ⟨x, last, ends⟩
  · -- The one disposal that was queued was received; a command in front of it would have been, too.
    obtain ⟨behind, rfl⟩ := before
    have stands := inOrder.stands
    rw [ended] at stands
    obtain ⟨⟨disposer, shown⟩, -⟩ := stands
    cases disposer with
    | none => simp [shown, disposers_executed] at received
    | some disposer =>
      have whole := shape.symm.trans inOrder.fifo
      simp only [shown, split, List.append_assoc, Option.toList_some, List.map_singleton,
        List.append_cancel_left_eq] at whole
      cases behind with
      | nil => simp at whole
      | cons job others =>
        obtain ⟨rfl, -⟩ := List.cons.inj whole
        simp only [shape, split, disposers_append, disposers_cons, disposer?, List.length_append,
          Option.toList_some, List.length_singleton] at one
        omega
  · have member : x ∈ executed trace := List.mem_of_getLast? last
    exact .inr ⟨x, member, before.subset (List.mem_map_of_mem member), ends⟩

/-! ### After the end -/

/-- The thread has come to its end and nobody finds a sender or the thread. -/
structure AtEnd (s : Shared K) : Prop where
  sender : s.sender = false
  thread : s.thread = false
  state : s.state = .ended
  receiver : s.receiver = false
  queue : s.queue = []

/-- Nothing but the stages of calls and the locks differs. -/
def Unmoved (s s' : Shared K) : Prop :=
  s' = { s with runs := s'.runs, disposals := s'.disposals, senderLock := s'.senderLock
                threadLock := s'.threadLock }

theorem AtEnd.step (atEnd : AtEnd s) (step : Step s event s') : AtEnd s' ∧ Unmoved s s' ∧ event.works = false := by
  obtain ⟨sender, thread, state, receiver, queue⟩ := atEnd
  cases step with
  | call | look | turnedAway | unsent | take | miss | dispose | disposeLook | disposeLate | disposeUnsent
  | disposeDone | reach | joinLate | joined => exact ⟨⟨sender, thread, state, receiver, queue⟩, rfl, rfl⟩
  | clone _ held | disposeTake _ held =>
    rw [sender] at held
    cases held
  | send _ held | disposeSend _ held =>
    rw [receiver] at held
    cases held
  | join _ held =>
    rw [thread] at held
    cases held
  | receive place | receiveDispose place | starve place | execute place | judge place | answer place
  | close place | discard place | drop place | part place | acknowledge place =>
    rw [state] at place
    cases place

theorem AtEnd.run (atEnd : AtEnd s) (run : Run s trace s') :
    AtEnd s' ∧ Unmoved s s' ∧ ∀ event ∈ trace, event.works = false := by
  induction run with
  | nil => exact ⟨atEnd, rfl, List.forall_mem_nil _⟩
  | snoc _ step ih =>
    obtain ⟨atEnd, unmoved, idle⟩ := ih
    obtain ⟨atEnd, moved, aside⟩ := atEnd.step step
    refine ⟨atEnd, ?_, by simpa [or_imp, forall_and] using ⟨idle, aside⟩⟩
    unfold Unmoved at unmoved moved ⊢
    rw [unmoved] at moved
    exact moved

/-! ### Calls that come back -/

theorem Run.guards (run : Run (.start engine) trace s) :
    Locks s ∧ Awaits s ∧ Disposing trace s ∧ Departing trace s := by
  induction run with
  | nil => exact ⟨.start engine, .start engine, .start engine, .start engine⟩
  | snoc run step ih =>
    obtain ⟨locks, awaits, disposing, departing⟩ := ih
    exact ⟨locks.step step, awaits.step locks step, disposing.step locks step,
      departing.step awaits run.invariants.1 step⟩

/-- A run to an event and from there on. -/
theorem Run.split (run : Run s (before ++ event :: after) s') :
    ∃ t u, Run s before t ∧ Step t event u ∧ Run u after s' := by
  induction after using List.reverseRecOn generalizing s' with
  | nil =>
    generalize whole : before ++ [event] = trace at run
    cases run with
    | nil => simp at whole
    | snoc run step =>
      obtain ⟨rfl, same⟩ := List.append_inj' whole rfl
      obtain ⟨rfl, -⟩ := List.cons.inj same
      exact ⟨_, _, run, step, .nil⟩
  | append_singleton after last ih =>
    generalize whole : before ++ event :: (after ++ [last]) = trace at run
    cases run with
    | nil => simp at whole
    | snoc run step =>
      rw [← List.cons_append, ← List.append_assoc] at whole
      obtain ⟨rfl, same⟩ := List.append_inj' whole rfl
      obtain ⟨rfl, -⟩ := List.cons.inj same
      obtain ⟨t, u, first, own, rest⟩ := ih run
      exact ⟨t, u, first, own, rest.snoc step⟩

/-- When a call of `dispose` comes back, the thread has come to its end. -/
theorem Step.atEnd_of_disposed (step : Step s (.disposed caller) s') (locks : Locks s) (awaits : Awaits s)
    (disposing : Disposing trace s) : AtEnd s' := by
  have returned : s'.disposals caller = .returned := by cases step <;> simp
  obtain ⟨sender, thread, ended⟩ := (disposing.step locks step).at returned
  have awaits := awaits.step locks step
  exact ⟨sender, thread, ended, by simpa [ended] using awaits.receiver, awaits.drained (by simp [ended])⟩

/-- A call that has come back was seen to. -/
theorem Run.disposed_of_returned (run : Run (.start engine) trace s)
    (returned : s.disposals caller = .returned) : .disposed caller ∈ trace := by
  induction run with
  | nil => cases returned
  | @snoc trace event s s' run step ih =>
    by_cases before : s.disposals caller = .returned
    · exact List.mem_append_left _ (ih before)
    have own {other : Nat} {stage : DisposeStage} (idle : stage ≠ .returned)
        (moved : Function.update s.disposals other stage caller = .returned) : False :=
      before (back_of_update idle caller moved)
    cases step with
    | dispose | disposeLook | disposeTake | disposeLate | disposeSend | disposeUnsent | disposeDone | reach
    | join => exact (own (by simp) returned).elim
    | @joinLate other | @joined other =>
      by_cases same : caller = other
      · simp [same]
      · exact absurd (by simpa [same] using returned) before
    | discard => exact absurd (by simpa using returned) before
    | _ => exact absurd returned before

/-- What holds of the events before and after a call of `dispose` comes back. -/
structure Barrier (before after : List Event) : Prop where
  /-- The engine has been dropped, once, and by then everything that was queued before a disposal had been
  carried out, unless a result was fatal. -/
  dropped : ∃ first second, before = first ++ .dropped :: second ∧ .dropped ∉ first ∧
    .dropped ∉ second ++ after ∧ ∀ jobs caller rest,
      sent before = jobs ++ .dispose caller :: rest → Flushed jobs (executed first)
  /-- From then on nothing happens to jobs or to the engine. -/
  idle : ∀ event ∈ after, event.works = false

/-- However its callers and its thread take turns: when a call of `dispose` comes back, to whichever caller,
the engine has been dropped, once, after all that was queued before the disposal, unless a result was
fatal. Whatever calls there are after that, they leave the worker as it is. -/
theorem dispose_barrier (run : Run (.start engine) trace s)
    (split : trace = before ++ .disposed caller :: after) :
    Barrier before after ∧
    ∃ returned, Run (.start engine) (before ++ [.disposed caller]) returned ∧ AtEnd returned ∧
      Run returned after s ∧ Unmoved returned s := by
  subst split
  obtain ⟨waiting, returned, run, step, rest⟩ := run.split
  obtain ⟨locks, awaits, disposing, departing⟩ := run.guards
  have atEnd := step.atEnd_of_disposed locks awaits disposing
  obtain ⟨-, unmoved, idle⟩ := atEnd.run rest
  have ended : waiting.state = .ended := by
    have state := atEnd.state
    cases step <;> exact state
  obtain ⟨first, second, rfl, kept, once, quiet⟩ := departing.gone (by simp [ended, Thread.engine?])
  have same : executed (first ++ .dropped :: second) = executed first := by
    simpa [executed] using quiet
  refine ⟨⟨⟨first, second, rfl, kept, ?_, fun jobs disposer others queued => ?_⟩, idle⟩,
    returned, run.snoc step, atEnd, rest, unmoved⟩
  · rw [List.mem_append]
    rintro (inside | later)
    · exact once inside
    · exact absurd (idle _ later) (by simp)
  · exact same ▸ run.invariants.1.flushed departing disposing.one ended queued

/-- An engine that has counted is disposed of. -/
theorem dispose_barrier_counting : ∃ before after, ∃ s : Shared (ScriptedEngine.kind false),
    Run (.start (ScriptedEngine.mk 1 0 [])) (before ++ .disposed 0 :: after) s ∧
      (0, .ok (.int 1)) ∈ returns (before ++ .disposed 0 :: after) ∧ Barrier before after := by
  have rests : Rests (K := ScriptedEngine.kind false) _ (.start (ScriptedEngine.mk 1 0 [])) :=
    rests_start 1 _
  have fresh : (Shared.start (K := ScriptedEngine.kind false) (ScriptedEngine.mk 1 0 [])).runs 0 = .idle :=
    rfl
  obtain ⟨counting, middle, ⟨⟨next, first, rest⟩, -⟩, gave, idle, rests⟩ :=
    solo_run rests fresh (.eval { source := "count" })
  have still : middle.disposals 0 = .idle := by
    rw [idle]
    rfl
  obtain ⟨leaving, s, ⟨⟨next', first', rest'⟩, -⟩, returned, -⟩ := solo_dispose rests still
  have counted := (Run.nil.snoc first).append rest
  have run := (counted.snoc first').append rest'
  obtain ⟨before, after, shape⟩ := List.append_of_mem (run.disposed_of_returned returned)
  have answered : (0, .ok (.int 1)) ∈ returns ([] ++ [.called 0 _] ++ counting) :=
    counted.invariants.2.at gave
  refine ⟨before, after, s, shape ▸ run, ?_, (dispose_barrier run shape).1⟩
  rw [← shape]
  simp only [returns, List.filterMap_append, List.mem_append] at answered ⊢
  exact .inl (.inl answered)

end Worker

end ScriptHost
