import ScriptHost.Proofs.Dispatch.Disposals

/-! Every step keeps each call where its stage says it is, and every answer says what it has
to. -/

namespace ScriptHost

variable {K : EngineKind}

namespace Dispatcher

/-- The calls so far: where they are, and what those say that were answered. -/
structure Conduct (codec : Codec) (trace : List Sight) (s : Shared K) : Prop where
  stages : ∀ call, StageOk codec trace call (s.stages call)
  settled : ∀ call answer, (call, answer) ∈ answers trace →
    s.stages call = .returned ∧ Settled codec trace call answer
  dispatched_once : ((dispatches trace).map Prod.fst).Nodup

variable {codec : Codec} {trace : List Sight} {s s' : Shared K} {sight : Sight}
  {call handle : Nat}

theorem Conduct.start (codec : Codec) (settings : Settings) (plan : K.Plan) :
    Conduct codec [] (.start settings plan) where
  stages _ := ⟨List.not_mem_nil, List.not_mem_nil, List.not_mem_nil, fun _ => List.not_mem_nil⟩
  settled _ _ member := absurd member List.not_mem_nil
  dispatched_once := .nil

theorem Conduct.at {stage : Stage} (conduct : Conduct codec trace s)
    (held : s.stages call = stage) : StageOk codec trace call stage :=
  held ▸ conduct.stages call

/-- One call moves on, unanswered so far. -/
theorem Conduct.moved {stage : Stage} (conduct : Conduct codec trace s)
    (stages : s'.stages = Function.update s.stages call stage)
    (unanswered : s.stages call ≠ .returned) (own : StageOk codec (trace ++ [sight]) call stage)
    (elsewhere : ∀ other, other ≠ call → sight.call? ≠ some other)
    (silent : sight.answered? = none) (begun : sight.dispatched? = none) :
    Conduct codec (trace ++ [sight]) s' := by
  refine ⟨?_, ?_, ?_⟩
  · rw [stages]
    exact (Function.forall_update_iff s.stages (StageOk codec (trace ++ [sight]))).mpr
      ⟨own, fun other differs => (conduct.stages other).other (elsewhere other differs)⟩
  · intro other answer member
    rw [answers_snoc, silent, Option.toList_none, List.append_nil] at member
    obtain ⟨ended, settled⟩ := conduct.settled other answer member
    have differs : other ≠ call := by
      rintro rfl
      exact unanswered ended
    rw [stages, Function.update_of_ne differs]
    exact ⟨ended, settled.other (elsewhere other differs)⟩
  · rw [dispatches_snoc, begun, Option.toList_none, List.append_nil]
    exact conduct.dispatched_once

/-- One call moves on and nobody sees it. -/
theorem Conduct.quiet {stage : Stage} (conduct : Conduct codec trace s)
    (stages : s'.stages = Function.update s.stages call stage)
    (unanswered : s.stages call ≠ .returned) (own : StageOk codec trace call stage) :
    Conduct codec (trace ++ [.quiet]) s' :=
  conduct.moved stages unanswered (own.other (by simp [Sight.call?])) (by simp [Sight.call?])
    rfl rfl

theorem settled_answered (other : Nat) (answer said : Except DispatchError (List UInt8)) :
    Settled codec (trace ++ [.answered call said]) other answer ↔
      Settled codec trace other answer := by
  simp [Settled, Meets, Fate, Uncalled, OnlyAt]

/-- One call is answered. -/
theorem Conduct.answer {answer : Except DispatchError (List UInt8)}
    (conduct : Conduct codec trace s)
    (stages : s'.stages = Function.update s.stages call .returned)
    (settled : Settled codec trace call answer) :
    Conduct codec (trace ++ [.answered call answer]) s' := by
  refine ⟨?_, ?_, by simpa using conduct.dispatched_once⟩
  · rw [stages]
    exact (Function.forall_update_iff s.stages
      (StageOk codec (trace ++ [.answered call answer]))).mpr
        ⟨show StageOk _ _ _ .returned from trivial, fun other differs =>
          (conduct.stages other).other (by simpa [Sight.call?] using differs.symm)⟩
  · intro other said member
    rw [settled_answered, stages]
    simp only [answers_snoc, Sight.answered?, Option.toList_some, List.mem_append,
      List.mem_singleton, Prod.mk.injEq] at member
    rcases member with member | ⟨rfl, rfl⟩
    · obtain ⟨ended, held⟩ := conduct.settled other said member
      refine ⟨?_, held⟩
      by_cases same : other = call
      · rw [same, Function.update_self]
      · rw [Function.update_of_ne same, ended]
    · exact ⟨Function.update_self _ _ _, settled⟩

/-- A worker at which something happened, and what happened there from the start. -/
theorem Histories.run (histories : Histories trace s) (seen : history trace handle ≠ []) :
    ∃ engine : K.Engine, ∃ worker, s.workers handle = some worker ∧
      Worker.Run (.start engine) (history trace handle) worker := by
  cases held : s.workers handle with
  | none => exact absurd (histories.unmade handle held) seen
  | some worker =>
    obtain ⟨engine, -, run⟩ := histories.runs handle worker held
    exact ⟨engine, worker, rfl, run⟩

/-- A command that was given to a worker and came back from there with a result was carried
out. -/
theorem Ran.carried {command : Command} {result : Except EngineError Datum}
    (never : K.NeverTerminated) (histories : Histories trace s)
    (ran : Ran codec trace call handle command)
    (gave : (call, result) ∈ returns (history trace handle)) (kept : result ≠ .error .terminated) :
    ∃ x ∈ executed (history trace handle),
      x.caller = call ∧ x.command = command ∧ x.result = result := by
  have seen : history trace handle ≠ [] := by
    intro empty
    rw [empty] at gave
    cases gave
  obtain ⟨engine, worker, -, run⟩ := histories.run seen
  have linear := Worker.run_linear never run
  have some : ∃ x ∈ executed (history trace handle), x.caller = call := by
    have some := mt (linear.terminated_iff call result gave).mpr kept
    simpa using some
  obtain ⟨x, member, rfl⟩ := some
  have own := List.inj_on_of_nodup_map linear.called_once (linear.own_command x member) ran.2.1 rfl
  exact ⟨x, member, rfl, (Prod.mk.inj own).2, (linear.own_result x member result gave).symm⟩

/-- The answer to a command is the answer for the engine it was for. -/
theorem Ran.settled {command : Command} {answer : Except DispatchError (List UInt8)}
    (ran : Ran codec trace call handle command)
    (fate : Fate codec trace call handle command answer) : Settled codec trace call answer := by
  obtain ⟨⟨asks, only⟩, -⟩ := ran
  have target {named : Option Nat} (asks : Asks codec trace call named (.command command))
      (own : ∀ other, named = some other → other = handle) : Settled codec trace call answer := by
    obtain ⟨op, asked, accepted, rfl⟩ := asks
    refine ⟨op, asked, ?_⟩
    simp only [Meets, accepted]
    rintro other (named | found)
    · exact own other named ▸ fate
    · exact only other found ▸ fate
  rcases asks with asks | asks
  · exact target asks fun other same => (Option.some.inj same).symm
  · exact target asks fun other same => by cases same

/-- A command for which no engine was found by default has no engine to answer for. -/
theorem settled_without (codec : Codec) {command : Command}
    (answer : Except DispatchError (List UInt8))
    (asks : Asks codec trace call none (.command command)) (unheard : Unheard trace call) :
    Settled codec trace call answer := by
  obtain ⟨op, asked, accepted, named⟩ := asks
  refine ⟨op, asked, ?_⟩
  simp only [Meets, accepted, named]
  rintro handle (same | found)
  · cases same
  · exact absurd (List.mem_map_of_mem found) unheard.2.1

theorem settled_create {handle : Option Nat} {options : EngineOptions}
    (answer : Except DispatchError (List UInt8))
    (asks : Asks codec trace call handle (.create options)) : Settled codec trace call answer := by
  obtain ⟨op, asked, accepted, -⟩ := asks
  exact ⟨op, asked, by simp [Meets, accepted]⟩

/-- A command for an engine that is not active was given to no worker. -/
theorem settled_missing {command : Command}
    (asks : Asks codec trace call (some handle) (.command command)) (unheard : Unheard trace call) :
    Settled codec trace call (.error (notActive handle)) := by
  obtain ⟨op, asked, accepted, named⟩ := asks
  refine ⟨op, asked, ?_⟩
  simp only [Meets, accepted, named, Option.some.injEq]
  rintro other (rfl | found)
  · exact .inr ⟨rfl, .inl unheard.2.2⟩
  · exact absurd (List.mem_map_of_mem found) unheard.2.1

theorem settled_dispose {answer : Except DispatchError (List UInt8)}
    (asks : Asks codec trace call (some handle) .dispose)
    (said : answer = .error (notActive handle) ∨
      (call, handle) ∈ removals trace ∧ answer = reported codec (.ok .undefined)) :
    Settled codec trace call answer := by
  obtain ⟨op, asked, accepted, named⟩ := asks
  refine ⟨op, asked, ?_⟩
  simp only [Meets, accepted, named, Option.some.injEq]
  rintro other rfl
  exact said

/-- A command that was given to a worker and came back from there without an answer. -/
theorem Ran.lost {command : Command} (ran : Ran codec trace call handle command)
    (gave : (call, .error .terminated) ∈ returns (history trace handle)) :
    Settled codec trace call (.error (notActive handle)) :=
  ran.settled (.inr ⟨rfl, .inr ⟨ran.2.2, gave⟩⟩)

/-- The stage of a call that has just found its engine. -/
theorem Seeks.found {command : Command}
    (asks : Asks codec trace call (some handle) (.command command) ∨
      Asks codec trace call none (.command command)) (unheard : Unheard trace call) :
    StageOk codec (trace ++ [.found call handle]) call (.found handle command) := by
  refine ⟨⟨asks.imp (Asks.later · _) (Asks.later · _), ?_⟩, ?_, ?_⟩
  · intro other found
    simp only [finds_snoc, Sight.found?, Option.toList_some, List.mem_append, List.mem_singleton,
      Prod.mk.injEq, true_and] at found
    rcases found with found | same
    · exact absurd (List.mem_map_of_mem found) unheard.2.1
    · exact same
  · simpa [Unanswered] using unheard.1
  · simpa [Uncalled] using unheard.2.2

theorem Conduct.found {command : Command} (conduct : Conduct codec trace s)
    (stages : s'.stages = Function.update s.stages call (.found handle command))
    (unanswered : s.stages call ≠ .returned)
    (asks : Asks codec trace call (some handle) (.command command) ∨
      Asks codec trace call none (.command command)) (unheard : Unheard trace call) :
    Conduct codec (trace ++ [.found call handle]) s' :=
  conduct.moved stages unanswered (Seeks.found asks unheard)
    (fun other differs => by simpa [Sight.call?] using differs.symm) rfl rfl

/-- A call takes an engine out of the table. -/
theorem Conduct.remove {reason : Reason} (conduct : Conduct codec trace s)
    (stages : s'.stages = Function.update s.stages call (.removed handle reason))
    (running : s.stages call ≠ .returned) (cause : Cause codec trace call handle reason)
    (unanswered : Unanswered trace call) : Conduct codec (trace ++ [.removed call handle]) s' := by
  have elsewhere (other : Nat) : (Sight.removed call handle).call? ≠ some other := by
    simp [Sight.call?]
  exact conduct.moved stages running
    ⟨cause.other (elsewhere call), unanswered.other (elsewhere call), by simp⟩
    (fun other _ => elsewhere other) rfl rfl

theorem Conduct.dispatch {op : Operation} (conduct : Conduct codec trace s)
    (idle : s.stages call = .idle)
    (stages : s'.stages = Function.update s.stages call (.asked op)) :
    Conduct codec (trace ++ [.dispatched call op]) s' := by
  have elsewhere (other : Nat) (differs : other ≠ call) :
      (Sight.dispatched call op).call? ≠ some other := by
    simpa [Sight.call?] using differs.symm
  obtain ⟨undispatched, unheard⟩ := conduct.at idle
  refine ⟨?_, ?_, ?_⟩
  · rw [stages]
    have own : StageOk codec (trace ++ [.dispatched call op]) call (.asked op) :=
      ⟨by simp, by simpa [Unheard, Unanswered, Uncalled] using unheard⟩
    exact (Function.forall_update_iff s.stages
      (StageOk codec (trace ++ [.dispatched call op]))).mpr
        ⟨own, fun other differs => (conduct.stages other).other (elsewhere other differs)⟩
  · intro other answer member
    obtain ⟨ended, settled⟩ := conduct.settled other answer (by simpa using member)
    have differs : other ≠ call := by
      rintro rfl
      rw [idle] at ended
      cases ended
    rw [stages, Function.update_of_ne differs]
    exact ⟨ended, settled.other (elsewhere other differs)⟩
  · rw [dispatches_snoc, Sight.dispatched?, Option.toList_some, List.map_append, List.map_singleton]
    exact Worker.nodup_snoc conduct.dispatched_once undispatched

/-- A worker takes a step of its own. -/
theorem Conduct.work {event : Event} (conduct : Conduct codec trace s)
    (stages : s'.stages = s.stages) (inner : event.begins = false) :
    Conduct codec (trace ++ [.inside handle event]) s' := by
  have elsewhere (call : Nat) : (Sight.inside handle event).call? ≠ some call := by
    cases event <;> simp_all [Sight.call?, Event.begins]
  refine ⟨?_, ?_, by simpa using conduct.dispatched_once⟩
  · intro call
    rw [stages]
    exact (conduct.stages call).other (elsewhere call)
  · intro call answer member
    obtain ⟨ended, settled⟩ := conduct.settled call answer (by simpa using member)
    rw [stages]
    exact ⟨ended, settled.other (elsewhere call)⟩

/-- What the stage of a call of `run` says is in the history of the worker. -/
theorem Histories.returned {worker : Worker.Shared K} {result : Except EngineError Datum}
    (histories : Histories trace s) (held : s.workers handle = some worker)
    (back : worker.runs call = .returned result) :
    (call, result) ∈ returns (history trace handle) := by
  obtain ⟨engine, -, run⟩ := histories.runs handle worker held
  exact run.invariants.2.at back

/-- The answer to a command that came back from the worker with a result. -/
theorem Ran.given {command : Command} {result : Except EngineError Datum}
    (never : K.NeverTerminated) (histories : Histories trace s)
    (ran : Ran codec trace call handle command)
    (gave : (call, result) ∈ returns (history trace handle)) (kept : result ≠ .error .terminated) :
    Settled codec trace call (reported codec result) := by
  obtain ⟨x, member, own, same, shape⟩ := ran.carried never histories gave kept
  exact ran.settled (.inl ⟨x, member, own, same, by rw [shape]⟩)

/-- A command is given to the worker. -/
theorem Seeks.ran {command : Command} (seeks : Seeks codec trace call handle command)
    (uncalled : Uncalled trace call) :
    Ran codec (trace ++ [.inside handle (.called call command)]) call handle command := by
  obtain ⟨asks, only⟩ := seeks
  refine ⟨⟨asks.imp (Asks.later · _) (Asks.later · _), fun other found => only other ?_⟩, ?_, ?_⟩
  · simpa using found
  · simp
  · intro other member
    by_cases same : handle = other
    · exact same.symm
    · exact absurd (by simpa [same] using member) (uncalled other)

theorem Conduct.step (never : K.NeverTerminated) (codec_eq : s.codec = codec)
    (histories : Histories trace s) (disposals : Disposals trace s)
    (conduct : Conduct codec trace s) (step : Step s sight s') :
    Conduct codec (trace ++ [sight]) s' := by
  subst codec_eq
  cases step with
  | dispatch op stage => exact conduct.dispatch stage rfl
  | reject stage asked =>
    obtain ⟨member, unheard⟩ := conduct.at stage
    exact conduct.answer rfl ⟨_, member, by simp [Meets, asked]⟩
  | create stage asked =>
    obtain ⟨member, unheard⟩ := conduct.at stage
    exact conduct.quiet rfl (by simp [stage]) ⟨⟨_, _, _, member, asked, rfl⟩, unheard⟩
  | disposeNothing stage asked named =>
    obtain ⟨member, unheard⟩ := conduct.at stage
    exact conduct.answer rfl ⟨_, member, by simp [Meets, asked, named]⟩
  | disposeMissing stage asked named gone =>
    obtain ⟨member, unheard⟩ := conduct.at stage
    exact conduct.answer rfl (settled_dispose ⟨_, member, asked, named⟩ (.inl rfl))
  | dispose stage asked named held =>
    obtain ⟨member, unheard⟩ := conduct.at stage
    exact conduct.remove rfl (by simp [stage]) ⟨_, member, asked, named⟩ unheard.1
  | missing stage asked named gone =>
    obtain ⟨member, unheard⟩ := conduct.at stage
    exact conduct.answer rfl (settled_missing ⟨_, member, asked, named⟩ unheard)
  | find stage asked named held =>
    obtain ⟨member, unheard⟩ := conduct.at stage
    exact conduct.found rfl (by simp [stage]) (.inl ⟨_, member, asked, named⟩) unheard
  | noDefault stage asked named off =>
    obtain ⟨member, unheard⟩ := conduct.at stage
    exact conduct.answer rfl (settled_without _ _ ⟨_, member, asked, named⟩ unheard)
  | choose stage asked named on free =>
    obtain ⟨member, unheard⟩ := conduct.at stage
    exact conduct.quiet rfl (by simp [stage]) ⟨⟨_, member, asked, named⟩, unheard⟩
  | chosen stage set held | named stage held =>
    obtain ⟨asks, unheard⟩ := conduct.at stage
    exact conduct.found rfl (by simp [stage]) (.inr asks) unheard
  | unchosen stage unset =>
    have ok := conduct.at stage
    exact conduct.quiet rfl (by simp [stage]) ok
  | number stage | make stage =>
    have ok := conduct.at stage
    exact conduct.quiet rfl (by simp [stage]) ok
  | insert stage | insertDefault stage | name stage =>
    have ok := conduct.at stage
    exact conduct.quiet rfl (by simp [stage]) ok
  | @unmade call purpose limits handle e log plan stage failed =>
    obtain ⟨asks, unheard⟩ := conduct.at stage
    cases purpose with
    | create =>
      obtain ⟨named, options, asks⟩ := asks
      exact conduct.answer rfl (settled_create _ asks)
    | default command => exact conduct.answer rfl (settled_without _ _ asks unheard)
  | tell stage =>
    obtain ⟨⟨named, options, asks⟩, unheard⟩ := conduct.at stage
    exact conduct.answer rfl (settled_create _ asks)
  | unnamed stage gone =>
    obtain ⟨asks, unheard⟩ := conduct.at stage
    exact conduct.answer rfl (settled_without _ _ asks unheard)
  | run stage held moved =>
    obtain ⟨seeks, unanswered, uncalled⟩ := conduct.at stage
    refine conduct.moved rfl (by simp [stage])
      ⟨⟨_, seeks.ran uncalled⟩, by simpa [Unanswered] using unanswered⟩
      (fun other differs => by simpa [Sight.call?] using differs.symm) rfl rfl
  | work held moved inner => exact conduct.work rfl inner
  | answer stage held back alive kept =>
    obtain ⟨⟨command, ran⟩, -⟩ := conduct.at stage
    exact conduct.answer rfl (ran.given never histories (histories.returned held back) kept)
  | fatal stage held back | unanswered stage held back =>
    obtain ⟨ran, unanswered⟩ := conduct.at stage
    exact conduct.quiet rfl (by simp [stage]) ⟨⟨ran, histories.returned held back⟩, unanswered⟩
  | retire stage held =>
    obtain ⟨cause, unanswered⟩ := conduct.at stage
    exact conduct.remove rfl (by simp [stage]) cause unanswered
  | @retired call handle reason stage gone =>
    obtain ⟨cause, -⟩ := conduct.at stage
    cases reason with
    | asked => exact conduct.answer rfl (settled_dispose cause (.inl rfl))
    | fatal message =>
      obtain ⟨⟨command, ran⟩, gave⟩ := cause
      exact conduct.answer rfl (ran.given never histories gave (by simp))
    | unanswered =>
      obtain ⟨⟨command, ran⟩, gave⟩ := cause
      exact conduct.answer rfl (ran.lost gave)
  | clear stage free =>
    have ok := conduct.at stage
    exact conduct.quiet rfl (by simp [stage]) ok
  | letGo stage held moved =>
    obtain ⟨cause, unanswered, took⟩ := conduct.at stage
    refine conduct.moved rfl (by simp [stage])
      ⟨cause.other (by simp [Sight.call?]), unanswered.other (by simp [Sight.call?]),
        by simp [took]⟩
      (by simp [Sight.call?]) rfl rfl
  | @gone call handle reason worker stage held back =>
    obtain ⟨cause, -, took⟩ := conduct.at stage
    cases reason with
    | asked => exact conduct.answer rfl (settled_dispose cause (.inr ⟨took, rfl⟩))
    | fatal message =>
      obtain ⟨⟨command, ran⟩, gave⟩ := cause
      exact conduct.answer rfl (ran.given never histories gave (by simp))
    | unanswered =>
      obtain ⟨⟨command, ran⟩, gave⟩ := cause
      have failed := disposals.failed call handle worker (by simp [stage]) held
      rw [finalAnswer, failed, if_pos rfl]
      exact conduct.answer rfl (ran.lost gave)

end Dispatcher

end ScriptHost
