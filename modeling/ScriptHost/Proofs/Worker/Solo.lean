import ScriptHost.Proofs.Worker.Step

/-! A call that has a worker to itself does what the worker does when calls follow one another:
the steps it takes lead from a worker at rest to the worker at rest that `Worker.run` and
`Worker.dispose` describe. -/

namespace ScriptHost

variable {K : EngineKind}

namespace Worker

/-- No call is under way, and the rest is as this worker has it. -/
structure Rests (w : Worker K) (s : Shared K) : Prop where
  sender : s.sender = w.accepting
  thread : s.thread = w.accepting
  senderLock : s.senderLock = none
  threadLock : s.threadLock = none
  failed : s.failed = w.failed
  queue : s.queue = []
  live : ∀ e, w.engine = some e → s.state = .receiving e ∧ s.receiver = true ∧ w.accepting = true
  gone : w.engine = none → s.state = .ended ∧ s.receiver = false

variable {w : Worker K} {s : Shared K} {caller : Nat}

theorem rests_start (handle : Nat) (engine : K.Engine) :
    Rests { handle := handle, engine := some engine } (.start engine) where
  sender := rfl
  thread := rfl
  senderLock := rfl
  threadLock := rfl
  failed := rfl
  queue := rfl
  live _ same := ⟨congrArg Thread.receiving (Option.some.inj same), rfl, rfl⟩
  gone none := by cases none

/-- A command on a worker that has its engine. -/
theorem run_engine {e : K.Engine} (accepting : w.accepting = true) (engine : w.engine = some e)
    (command : Command) : (w.run command).1 = resultOf command e ∧
      (w.run command).2.2 = if fatal (resultOf command e) then
        { w with engine := none, failed := true }
      else { w with engine := some (engineAfter command e) } := by
  unfold run resultOf engineAfter
  rw [accepting, engine]
  dsimp only
  split
  · rename_i reason ended
    simp [ended, fatal, EngineError.isFatal]
  · rename_i alive
    have spared : fatal ((K.run command e).1.caught "engine") = false := by
      cases result : (K.run command e).1.caught "engine" with
      | ok value => rfl
      | error error =>
        cases error with
        | fatal reason => exact absurd result (alive reason)
        | exception thrown => rfl
        | invalidArgument reason => rfl
        | terminated => rfl
    simp [spared]

theorem run_refused (refused : w.accepting = false ∨ w.engine = none) (command : Command) :
    w.run command = (.error .terminated, [], w) := by
  rcases refused with refused | refused
  · simp [run, refused]
  · cases accepting : w.accepting <;> simp [run, refused, accepting]

/-- The steps of one call to its end, from the one with which it begins, and nobody else's. -/
def Alone (first : Event) (s : Shared K) (trace : List Event) (s' : Shared K) : Prop :=
  (∃ next, Step s first next ∧ Run next trace s') ∧ ∀ event ∈ trace, event.begins = false

/-- An uninterrupted `run` is `Worker.run`. -/
theorem solo_run (rests : Rests w s) (idle : s.runs caller = .idle) (command : Command) :
    ∃ trace s', Alone (.called caller command) s trace s' ∧
      s'.runs caller = .returned (w.run command).1 ∧ s'.disposals = s.disposals ∧
      Rests (w.run command).2.2 s' := by
  obtain ⟨sender, thread, senderLock, threadLock, failed, queue, live, gone⟩ := rests
  have called := Step.call command idle
  have looking := Run.nil.snoc (@Step.look _ (s.runAt caller (.entered command)) caller command
    (by simp) senderLock)
  rcases held : w.accepting with _ | _
  · have away := looking.snoc (@Step.turnedAway _ _ caller command (by simp) (sender.trans held))
    have result : w.run command = (.error .terminated, [], w) := run_refused (.inl held) command
    rw [result]
    exact ⟨_, _, ⟨⟨_, called, away⟩, by simp [Event.begins]⟩, by simp, rfl,
      sender, thread, rfl, threadLock, failed, queue, live, gone⟩
  have sending := looking.snoc (@Step.clone _ _ caller command (by simp) (sender.trans held))
  cases engine : w.engine with
  | none =>
    obtain ⟨ended, closed⟩ := gone engine
    have away := sending.snoc (@Step.unsent _ _ caller command (by simp) closed)
    have result : w.run command = (.error .terminated, [], w) := run_refused (.inr engine) command
    rw [result]
    exact ⟨_, _, ⟨⟨_, called, away⟩, by simp [Event.begins]⟩, by simp, rfl,
      sender, thread, rfl, threadLock, failed, queue, live, gone⟩
  | some e =>
    obtain ⟨receiving, receiver, -⟩ := live e engine
    have waiting := sending.snoc (@Step.send _ _ caller command (by simp) receiver)
    have working := waiting.snoc (@Step.receive _ _ e caller command [] receiving (by simp [queue]))
    have judging := working.snoc (@Step.execute _ _ e caller command rfl)
    have answering := judging.snoc (@Step.judge _ _ _ caller _ rfl)
    have answered := answering.snoc (@Step.answer _ _ _ caller _ rfl)
    have returned := answered.snoc (@Step.take _ _ caller (resultOf command e) (by simp) (by simp))
    obtain ⟨result, next⟩ := run_engine held engine command
    rw [result, next]
    cases ends : fatal (resultOf command e) with
    | false =>
      refine ⟨_, _, ⟨⟨_, called, returned⟩, by simp [Event.begins]⟩, by simp, rfl,
        sender, thread, rfl, threadLock, ?_, rfl, ?_, ?_⟩
      · simp [failed, ends]
      · simp [ends, held, receiver]
      · simp
    | true =>
      have closing := returned.snoc (@Step.close _ _ (engineAfter command e) none (by simp [ends]))
      have dropping := closing.snoc (@Step.drop _ _ _ none rfl rfl)
      have ended := dropping.snoc (@Step.part _ _ rfl)
      refine ⟨_, _, ⟨⟨_, called, ended⟩, by simp [Event.begins]⟩, by simp, rfl,
        sender, thread, rfl, threadLock, ?_, rfl, ?_, ?_⟩
      · simp [ends]
      · simp
      · simp

/-- An uninterrupted `dispose` is `Worker.dispose`: it drops the engine if there is one. -/
theorem solo_dispose (rests : Rests w s) (idle : s.disposals caller = .idle) :
    ∃ trace s', Alone (.disposing caller) s trace s' ∧ s'.disposals caller = .returned ∧
      (.dropped ∈ trace ↔ w.engine.isSome) ∧ Rests w.dispose.2 s' := by
  obtain ⟨sender, thread, senderLock, threadLock, failed, queue, live, gone⟩ := rests
  have called := Step.dispose idle
  have looking := Run.nil.snoc (@Step.disposeLook _ (s.disposalAt caller .entered) caller (by simp)
    senderLock)
  rcases held : w.accepting with _ | _
  · have leaving := looking.snoc (@Step.disposeLate _ _ caller (by simp) (sender.trans held))
    have reaching := leaving.snoc (@Step.reach _ _ caller (by simp) threadLock)
    have returned := reaching.snoc (@Step.joinLate _ _ caller (by simp) (thread.trans held))
    cases engine : w.engine with
    | some e => exact absurd (live e engine).2.2 (by simp [held])
    | none =>
      obtain ⟨ended, closed⟩ := gone engine
      exact ⟨_, _, ⟨⟨_, called, returned⟩, by simp [Event.begins]⟩, by simp, by simp,
        sender.trans held, thread.trans held, rfl, rfl, failed, queue, by simp [dispose],
        fun _ => ⟨ended, closed⟩⟩
  have taking := looking.snoc (@Step.disposeTake _ _ caller (by simp) (sender.trans held))
  cases engine : w.engine with
  | none =>
    obtain ⟨ended, closed⟩ := gone engine
    have leaving := taking.snoc (@Step.disposeUnsent _ _ caller (by simp) closed)
    have reaching := leaving.snoc (@Step.reach _ _ caller (by simp) threadLock)
    have joining := reaching.snoc (@Step.join _ _ caller (by simp) (thread.trans held))
    have returned := joining.snoc (@Step.joined _ _ caller (by simp) ended)
    exact ⟨_, _, ⟨⟨_, called, returned⟩, by simp [Event.begins]⟩, by simp, by simp,
      rfl, rfl, rfl, rfl, failed, queue, by simp [dispose], fun _ => ⟨ended, closed⟩⟩
  | some e =>
    obtain ⟨receiving, receiver, -⟩ := live e engine
    have waiting := taking.snoc (@Step.disposeSend _ _ caller (by simp) receiver)
    have received := waiting.snoc
      (@Step.receiveDispose _ _ e caller [] receiving (by simp [queue]))
    have closing := received.snoc (@Step.close _ _ e (some caller) rfl)
    have dropping := closing.snoc (@Step.drop _ _ e (some caller) rfl rfl)
    have ended := dropping.snoc (@Step.acknowledge _ _ caller rfl)
    have leaving := ended.snoc (@Step.disposeDone _ _ caller (by simp) (by simp))
    have reaching := leaving.snoc (@Step.reach _ _ caller (by simp) threadLock)
    have joining := reaching.snoc (@Step.join _ _ caller (by simp) (thread.trans held))
    have returned := joining.snoc (@Step.joined _ _ caller (by simp) rfl)
    exact ⟨_, _, ⟨⟨_, called, returned⟩, by simp [Event.begins]⟩, by simp, by simp,
      rfl, rfl, rfl, rfl, failed, rfl, by simp [dispose], fun _ => ⟨rfl, rfl⟩⟩

end Worker

end ScriptHost
