import ScriptHost.Engine.Scripted
import ScriptHost.Proofs.Dispatch.Defaults

/-! The default engine that commands without a handle share. At any moment there is one in the table at most,
another is made only when it has left the table, and between operations the default handle is that of an
engine in the table. -/

namespace ScriptHost

variable {K : EngineKind}

namespace Dispatcher

variable {s s' : Shared K} {trace : List Sight} {states : List (Shared K)} {sight : Sight}
  {call handle : Nat}

/-- Which engines commands have found: the one they name, or one that was made as a default one. -/
structure Finders (trace : List Sight) (states : List (Shared K)) (s : Shared K) : Prop where
  asked : ∀ call op, s.stages call = .asked op → (call, op) ∈ dispatches trace
  once : ((dispatches trace).map Prod.fst).Nodup
  found : ∀ call handle, (call, handle) ∈ finds trace →
    (∃ op, (call, op) ∈ dispatches trace ∧ op.handle = some handle) ∨
      MadeAsDefault states handle ∧ (handle ∈ s.table ∨ handle ∈ removed trace)

theorem Finders.start (settings : Settings) (plan : K.Plan) :
    Finders [] [.start settings plan] (.start settings plan : Shared K) where
  asked _ _ held := by cases held
  once := .nil
  found _ _ member := absurd member List.not_mem_nil

theorem Step.asked_before (step : Step s sight s') {op : Operation}
    (held : s'.stages call = .asked op) :
    s.stages call = .asked op ∨ sight = .dispatched call op := by
  cases step with
  | work => exact .inl held
  | @dispatch other op' stage =>
    by_cases same : call = other
    · exact .inr (by simp_all)
    · exact .inl (by simpa [same] using held)
  | _ stage =>
    simp only [Shared.stageAt, Function.update_apply] at held
    split at held
    · cases held
    · exact .inl held

/-- An engine in the table stays there until it is taken out. -/
theorem Step.stays (step : Step s sight s') (active : handle ∈ s.table) :
    handle ∈ s'.table ∨ sight.removed?.map Prod.snd = some handle := by
  cases step with
  | @dispose call op place stage asked named held | @retire call place reason stage held =>
    by_cases same : handle = place
    · exact .inr (by simp [same])
    · exact .inl (by simp [active, same])
  | insert | insertDefault => exact .inl (by simp [active])
  | _ => exact .inl active

theorem Finders.step (placed : Placed trace s) (defaults : Defaults trace states s)
    (finders : Finders trace states s) (step : Step s sight s') :
    Finders (trace ++ [sight]) (states ++ [s']) s' := by
  have known (call handle : Nat) (member : (call, handle) ∈ finds trace) :
      (∃ op, (call, op) ∈ dispatches (trace ++ [sight]) ∧ op.handle = some handle) ∨
        MadeAsDefault (states ++ [s']) handle ∧
          (handle ∈ s'.table ∨ handle ∈ removed (trace ++ [sight])) := by
    rcases finders.found call handle member with ⟨op, asked, named⟩ | ⟨made, active | gone⟩
    · exact .inl ⟨op, by simp [asked], named⟩
    · refine .inr ⟨madeAsDefault_later made s', (step.stays active).imp_right fun leaves => ?_⟩
      rw [removed_snoc, leaves]
      simp
    · exact .inr ⟨madeAsDefault_later made s', .inr (by simp [removed_snoc, gone])⟩
  refine ⟨?_, ?_, ?_⟩
  · intro call op held
    rcases step.asked_before held with before | rfl
    · simp [finders.asked call op before]
    · simp
  · cases step with
    | @dispatch call op stage =>
      have fresh := (placed.begun call).mp stage
      rw [dispatches_snoc, Sight.dispatched?, Option.toList_some, List.map_append, List.map_singleton]
      exact Worker.nodup_snoc finders.once fresh
    | _ => simpa using finders.once
  · intro call handle member
    rw [finds_snoc, List.mem_append, Option.mem_toList] at member
    rcases member with earlier | now
    · exact known call handle earlier
    · cases step with
      | find stage asked named active =>
        cases now
        exact .inl ⟨_, by simp [finders.asked _ _ stage], named⟩
      | chosen stage isDefault active =>
        cases now
        obtain ⟨made, -⟩ := defaults.regarded _ (.inl isDefault)
        exact .inr ⟨madeAsDefault_later made _, .inl active⟩
      | named stage active =>
        cases now
        exact .inr ⟨madeAsDefault_later (defaults.named _ _ _ stage) _, .inl active⟩
      | _ => cases now

theorem Course.defaults {settings : Settings} {plan : K.Plan}
    (course : Course (.start settings plan) trace states s) :
    Defaults trace states s ∧ Finders trace states s := by
  induction course with
  | nil => exact ⟨.start settings plan, .start settings plan⟩
  | snoc course step ih =>
    obtain ⟨defaults, finders⟩ := ih
    have placed := course.run.placed
    exact ⟨defaults.step placed.handles placed.places step, finders.step placed defaults step⟩

/-- What there is to say of default engines, at any moment and however operations take turns. -/
structure OneDefault (trace : List Sight) (states : List (Shared K)) (s : Shared K) : Prop where
  /-- Of the engines made as default ones there is at most one in the table. -/
  one : ∀ handle ∈ s.table, ∀ other ∈ s.table,
    MadeAsDefault states handle → MadeAsDefault states other → handle = other
  /-- While one is made, no earlier one is in the table, nor is the one known as the default. -/
  renewed : ∀ call command limits handle, s.stages call = .making (.default command) limits handle →
    (∀ other ∈ s.table, ¬ MadeAsDefault states other) ∧
      ∀ other, s.default = some other → other ∉ s.table
  /-- Commands without a handle find an engine made as a default one. -/
  found : ∀ call op handle, (call, op) ∈ dispatches trace → op.handle = none →
    (call, handle) ∈ finds trace → MadeAsDefault states handle
  /-- Two of them share it, unless one of their engines has left the table. -/
  shared : ∀ call op handle call' op' handle',
    (call, op) ∈ dispatches trace → op.handle = none → (call, handle) ∈ finds trace →
    (call', op') ∈ dispatches trace → op'.handle = none → (call', handle') ∈ finds trace →
    handle = handle' ∨ handle ∈ removed trace ∨ handle' ∈ removed trace
  /-- When no operation is in progress, the default engine is in the table. -/
  settled : (∀ call, (s.stages call).busy = false) → ∀ handle, s.default = some handle → handle ∈ s.table

theorem Finders.unnamed (finders : Finders trace states s) {op : Operation}
    (asked : (call, op) ∈ dispatches trace) (bare : op.handle = none)
    (found : (call, handle) ∈ finds trace) :
    MadeAsDefault states handle ∧ (handle ∈ s.table ∨ handle ∈ removed trace) := by
  refine (finders.found call handle found).resolve_left ?_
  rintro ⟨other, again, named⟩
  have same := List.inj_on_of_nodup_map finders.once asked again rfl
  cases (Prod.mk.inj same).2
  rw [bare] at named
  cases named

theorem Defaults.one (defaults : Defaults trace states s) {other : Nat}
    (active : handle ∈ s.table) (active' : other ∈ s.table) (made : MadeAsDefault states handle)
    (made' : MadeAsDefault states other) : handle = other := by
  have named {call place : Nat} (names : (s.stages call).naming? = some place) {another : Nat}
      (active : another ∈ s.table) (made : MadeAsDefault states another) : place = another := by
    obtain ⟨renews, own⟩ := Stage.renews_of_naming names
    exact Option.some.inj (own.symm.trans (defaults.sole call renews another active made))
  rcases defaults.kept handle active made with isDefault | ⟨call, names⟩
  · rcases defaults.kept other active' made' with isDefault' | ⟨call, names⟩
    · exact Option.some.inj (isDefault.symm.trans isDefault')
    · exact (named names active made).symm
  · exact named names active' made'

/-- However operations take turns, one default engine at a time is in the table, and commands without a
handle share it. -/
theorem one_default_of_course {settings : Settings} {plan : K.Plan}
    (course : Course (.start settings plan) trace states s) : OneDefault trace states s := by
  obtain ⟨defaults, finders⟩ := course.defaults
  refine ⟨?_, ?_, ?_, ?_, ?_⟩
  · intro handle active other active' made made'
    exact defaults.one active active' made made'
  · intro call command limits handle held
    have absent : ∀ other ∈ s.table, ¬ MadeAsDefault states other := by
      intro other active made
      have found := defaults.sole call (by rw [held]; rfl) other active made
      rw [held] at found
      cases found
    exact ⟨absent, fun other isDefault active =>
      absent other active (defaults.regarded other (.inl isDefault)).1⟩
  · intro call op handle asked bare found
    exact (finders.unnamed asked bare found).1
  · intro call op handle call' op' handle' asked bare found asked' bare' found'
    obtain ⟨made, active | gone⟩ := finders.unnamed asked bare found
    · obtain ⟨made', active' | gone'⟩ := finders.unnamed asked' bare' found'
      · exact .inl (defaults.one active active' made made')
      · exact .inr (.inr gone')
    · exact .inr (.inl gone)
  · intro quiet handle isDefault
    refine (defaults.regarded handle (.inl isDefault)).2.resolve_right ?_
    rintro ⟨call, waits⟩
    have idle := quiet call
    cases stage : s.stages call <;> simp_all

/-- A default engine that is disposed of by its guessed handle, before it is known as such. The next
command without a handle makes another, and the one after that shares it. -/
theorem one_default_of_course_guessed : ∃ trace states, ∃ s : Shared (ScriptedEngine.kind false),
    Course (.start {} ()) trace states s ∧ OneDefault trace states s ∧
      answers trace = [(0, .error (notActive 1))] ∧ finds trace = [(2, 2), (3, 2)] ∧
      s.default = some 2 := by
  have start : Course (.start {} () : Shared (ScriptedEngine.kind false)) [] _ _ := .nil
  have guessed := start
    |>.snoc (@Step.dispatch _ _ 0 { name := "executePendingJobs" } rfl)
    |>.snoc (@Step.choose _ _ 0 _ _ rfl rfl rfl rfl rfl)
    |>.snoc (@Step.unchosen _ _ 0 _ rfl (by intro handle held; cases held))
    |>.snoc (@Step.number _ _ 0 _ _ rfl)
    |>.snoc (@Step.make _ _ 0 _ _ _ _ _ _ _ rfl rfl rfl)
    |>.snoc (@Step.insertDefault _ _ 0 _ _ rfl)
    |>.snoc (@Step.dispatch _ _ 1 { name := "disposeEngine", handle := some 1 } rfl)
    |>.snoc (@Step.dispose _ _ 1 _ _ rfl rfl rfl (by decide))
    |>.snoc (@Step.name _ _ 0 _ _ rfl)
    |>.snoc (@Step.unnamed _ _ 0 _ _ rfl (by decide))
    |>.snoc (@Step.clear _ _ 1 _ _ rfl rfl)
  have renewed := guessed
    |>.snoc (@Step.dispatch _ _ 2 { name := "executePendingJobs" } rfl)
    |>.snoc (@Step.choose _ _ 2 _ _ rfl rfl rfl rfl rfl)
    |>.snoc (@Step.unchosen _ _ 2 _ rfl (by intro handle held; cases held))
    |>.snoc (@Step.number _ _ 2 _ _ rfl)
    |>.snoc (@Step.make _ _ 2 _ _ _ _ _ _ _ rfl rfl rfl)
    |>.snoc (@Step.insertDefault _ _ 2 _ _ rfl)
    |>.snoc (@Step.name _ _ 2 _ _ rfl)
    |>.snoc (@Step.named _ _ 2 _ _ rfl (by decide))
  have shared := renewed
    |>.snoc (@Step.dispatch _ _ 3 { name := "executePendingJobs" } rfl)
    |>.snoc (@Step.choose _ _ 3 _ _ rfl rfl rfl rfl rfl)
    |>.snoc (@Step.chosen _ _ 3 _ _ rfl rfl (by decide))
  exact ⟨_, _, _, shared, one_default_of_course shared, rfl, rfl, rfl⟩

end Dispatcher

end ScriptHost
