import ScriptHost.Proofs.Dispatch.Progress

/-! Default engines where operations are in progress at once. The lock on the default handle is held from the
moment at which a command finds no default engine until the one made for it is known as such. In between
others may take that engine out of the table already, as handles can be guessed. So an engine made as the
default one is in the table only as long as it is regarded as that, by the default handle or by the call
that made it; and while a call makes one, no other is in the table. -/

namespace ScriptHost

variable {K : EngineKind}

namespace Stage

/-- Is the call making a default engine that is not told to anyone yet? -/
@[simp] def renews : Stage → Bool
  | .spawning (.default _) _ | .making (.default _) _ _ | .made (.default _) _ | .naming .. | .named .. => true
  | _ => false

/-- The default engine that the call has made and not yet put into the table. -/
@[simp] def newDefault? : Stage → Option Nat
  | .made (.default _) handle => some handle
  | _ => none

/-- The default engine that the call has put into the table and not yet made known as such. -/
@[simp] def naming? : Stage → Option Nat
  | .naming handle _ => some handle
  | _ => none

/-- The engine that the call has taken out of the table, whether it was the default one or not. -/
@[simp] def uncleared? : Stage → Option Nat
  | .removed handle _ => some handle
  | _ => none

theorem holds_of_renews {stage : Stage} (renews : stage.renews = true) : stage.holds = true := by
  unfold Stage.renews at renews
  split at renews <;> first | rfl | cases renews

theorem renews_of_naming {stage : Stage} {handle : Nat} (names : stage.naming? = some handle) :
    stage.renews = true ∧ stage.engine? = some handle := by
  cases stage <;> simp_all

theorem pending_of_newDefault {stage : Stage} {handle : Nat}
    (new : stage.newDefault? = some handle) : stage.pending? = some handle := by
  unfold Stage.newDefault? at new
  split at new
  · exact new
  · cases new

end Stage

namespace Dispatcher

/-- A run and the states that it goes through, the last one last. -/
inductive Course (start : Shared K) : List Sight → List (Shared K) → Shared K → Prop where
  | nil : Course start [] [start] start
  | snoc {trace states sight s s'} : Course start trace states s → Step s sight s' →
      Course start (trace ++ [sight]) (states ++ [s']) s'

/-- In one of these states the engine had just been made, for a command that came without a handle. -/
def MadeAsDefault (states : List (Shared K)) (handle : Nat) : Prop :=
  ∃ s ∈ states, ∃ call, (s.stages call).newDefault? = some handle

/-- The handle is that of the default engine, or it is about to be. -/
def Shared.Regards (s : Shared K) (handle : Nat) : Prop :=
  s.default = some handle ∨ ∃ call, (s.stages call).naming? = some handle

variable {first s s' : Shared K} {trace : List Sight} {states : List (Shared K)} {sight : Sight}
  {call handle : Nat} {stage : Stage}

theorem Course.run (course : Course first trace states s) : Run first trace s := by
  induction course with
  | nil => exact .nil
  | snoc _ step ih => exact ih.snoc step

/-- Every run goes through states. -/
theorem Run.course (run : Run first trace s) : ∃ states, Course first trace states s := by
  induction run with
  | nil => exact ⟨_, .nil⟩
  | snoc _ step ih =>
    obtain ⟨states, course⟩ := ih
    exact ⟨_, course.snoc step⟩

theorem madeAsDefault_snoc : MadeAsDefault (states ++ [s]) handle ↔
    MadeAsDefault states handle ∨ ∃ call, (s.stages call).newDefault? = some handle := by
  simp [MadeAsDefault, or_and_right, exists_or]

/-- Where the engines are that were made as default ones, and who regards them as that. -/
structure Defaults (trace : List Sight) (states : List (Shared K)) (s : Shared K) : Prop where
  made : ∀ call handle, (s.stages call).newDefault? = some handle → MadeAsDefault states handle
  place : ∀ handle, MadeAsDefault states handle → handle ∈ s.table ∨ handle ∈ removed trace ∨
    ∃ call, (s.stages call).newDefault? = some handle
  kept : ∀ handle ∈ s.table, MadeAsDefault states handle → s.Regards handle
  /-- Who has taken out an engine that is still regarded as the default one has yet to say so. -/
  regarded : ∀ handle, s.Regards handle → MadeAsDefault states handle ∧
    (handle ∈ s.table ∨ ∃ call, (s.stages call).uncleared? = some handle)
  sole : ∀ call, (s.stages call).renews = true → ∀ handle ∈ s.table, MadeAsDefault states handle →
    (s.stages call).engine? = some handle
  named : ∀ call handle command, s.stages call = .named handle command → MadeAsDefault states handle
  gone : ∀ call handle, (s.stages call).uncleared? = some handle → handle ∈ removed trace

theorem Defaults.start (settings : Settings) (plan : K.Plan) :
    Defaults [] [.start settings plan] (.start settings plan : Shared K) where
  made _ _ new := by cases new
  place _ made := by simp [MadeAsDefault, Shared.start] at made
  kept _ member := absurd member List.not_mem_nil
  regarded _ regards := by simp [Shared.Regards, Shared.start] at regards
  sole _ renews := by cases renews
  named _ _ _ held := by cases held
  gone _ _ held := by cases held

theorem exists_update (shows : Stage → Option Nat) (same : shows stage = shows (s.stages call)) :
    (∃ other, shows (Function.update s.stages call stage other) = some handle) ↔
      ∃ other, shows (s.stages other) = some handle := by
  refine exists_congr fun other => ?_
  by_cases own : other = call
  · rw [own, Function.update_self, same]
  · rw [Function.update_of_ne own]

theorem madeAsDefault_later (made : MadeAsDefault states handle) (s : Shared K) :
    MadeAsDefault (states ++ [s]) handle :=
  madeAsDefault_snoc.mpr (.inl made)

/-- In a step that makes no default engine, those made before are all there are. -/
theorem Defaults.earlier (defaults : Defaults trace states s)
    (stages : s'.stages = Function.update s.stages call stage)
    (made : MadeAsDefault (states ++ [s']) handle) :
    MadeAsDefault states handle ∨ stage.newDefault? = some handle := by
  rw [madeAsDefault_snoc, stages] at made
  rcases made with made | ⟨other, new⟩
  · exact .inl made
  · by_cases own : other = call
    · rw [own, Function.update_self] at new
      exact .inr new
    · rw [Function.update_of_ne own] at new
      exact .inl (defaults.made other handle new)

/-- Steps of a call that leave the default handle alone and at most put an engine into the table that
was not made as a default one. -/
theorem Defaults.moved (defaults : Defaults trace states s) (table : ∀ handle ∈ s.table, handle ∈ s'.table)
    (inside : ∀ handle ∈ s'.table, MadeAsDefault states handle → handle ∈ s.table)
    (isDefault : s'.default = s.default) (same : removed (trace ++ [sight]) = removed trace)
    (stages : s'.stages = Function.update s.stages call stage)
    (none : (s.stages call).newDefault? = none)
    (new : ∀ handle, stage.newDefault? = some handle → handle ∉ s'.table)
    (naming : stage.naming? = (s.stages call).naming?)
    (uncleared : stage.uncleared? = (s.stages call).uncleared?)
    (unnamed : ∀ handle command, stage ≠ .named handle command)
    (sole : stage.renews = true → ∀ handle ∈ s.table, MadeAsDefault states handle →
      stage.engine? = some handle) : Defaults (trace ++ [sight]) (states ++ [s']) s' := by
  have older {handle : Nat} (member : handle ∈ s'.table)
      (made : MadeAsDefault (states ++ [s']) handle) : MadeAsDefault states handle ∧ handle ∈ s.table := by
    have made := (defaults.earlier stages made).resolve_right fun fresh => new handle fresh member
    exact ⟨made, inside handle member made⟩
  have regards {handle : Nat} : s'.Regards handle ↔ s.Regards handle := by
    rw [Shared.Regards, Shared.Regards, isDefault, stages, exists_update Stage.naming? naming]
  have waits {handle : Nat} : (∃ call, (s'.stages call).uncleared? = some handle) ↔
      ∃ call, (s.stages call).uncleared? = some handle := by
    rw [stages, exists_update Stage.uncleared? uncleared]
  refine ⟨fun other handle fresh => madeAsDefault_snoc.mpr (.inr ⟨other, fresh⟩), ?_, ?_, ?_, ?_, ?_, ?_⟩
  · intro handle made
    rw [same]
    rcases madeAsDefault_snoc.mp made with made | fresh
    · refine (defaults.place handle made).imp (table handle) (Or.imp_right ?_)
      rintro ⟨other, held⟩
      have differs : other ≠ call := by
        rintro rfl
        rw [none] at held
        cases held
      exact ⟨other, by rwa [stages, Function.update_of_ne differs]⟩
    · exact .inr (.inr fresh)
  · intro handle member made
    obtain ⟨made, member⟩ := older member made
    exact regards.mpr (defaults.kept handle member made)
  · intro handle held
    obtain ⟨made, place⟩ := defaults.regarded handle (regards.mp held)
    exact ⟨madeAsDefault_later made s', place.imp (table handle) waits.mpr⟩
  · rw [stages]
    refine (Function.forall_update_iff s.stages (fun _ stage => stage.renews = true →
      ∀ handle ∈ s'.table, MadeAsDefault (states ++ [s']) handle →
        stage.engine? = some handle)).mpr ⟨?_, ?_⟩
    · intro renews handle member made
      exact sole renews handle (older member made).2 (older member made).1
    · intro other _ renews handle member made
      exact defaults.sole other renews handle (older member made).2 (older member made).1
  · rw [stages]
    refine (Function.forall_update_iff s.stages (fun _ stage => ∀ handle command,
      stage = .named handle command → MadeAsDefault (states ++ [s']) handle)).mpr ⟨?_, ?_⟩
    · exact fun handle command held => absurd held (unnamed handle command)
    · exact fun other _ handle command held =>
        madeAsDefault_later (defaults.named other handle command held) s'
  · intro other handle held
    obtain ⟨_, held⟩ := waits.mp ⟨other, held⟩
    rw [same]
    exact defaults.gone _ handle held

/-- An engine that somebody asked for is not made as a default one. -/
theorem Defaults.not_made (handles : Handles trace s) (defaults : Defaults trace states s)
    (held : s.stages call = .made .create handle) : ¬ MadeAsDefault states handle := by
  have pends : (s.stages call).pending? = some handle := by rw [held]; rfl
  obtain ⟨-, absent, unremoved⟩ := handles.pending call handle pends
  intro made
  rcases defaults.place handle made with member | gone | ⟨other, new⟩
  · exact absent member
  · exact unremoved gone
  · have same := handles.pending_once other call handle (Stage.pending_of_newDefault new) pends
    rw [same, held] at new
    cases new

/-- A default engine enters the table. -/
theorem Defaults.insert (places : Places s) (defaults : Defaults trace states s) {command : Command}
    (held : s.stages call = .made (.default command) handle)
    (table : s'.table = s.table ++ [handle]) (isDefault : s'.default = s.default)
    (stages : s'.stages = Function.update s.stages call (.naming handle command)) :
    Defaults (trace ++ [.quiet]) (states ++ [s']) s' := by
  have made : MadeAsDefault states handle := defaults.made call handle (by rw [held]; rfl)
  have older {other : Nat} (made : MadeAsDefault (states ++ [s']) other) :
      MadeAsDefault states other := (defaults.earlier stages made).resolve_right (by simp)
  -- The lock keeps other calls from making a default engine, and there is none yet in the table.
  have alone {other : Nat} (renews : (s.stages other).renews = true) : other = call := by
    have has := (places.lock other).mp (Stage.holds_of_renews renews)
    rw [(places.lock call).mp (by rw [held]; rfl)] at has
    exact (Option.some.inj has).symm
  have own {other : Nat} (member : other ∈ s'.table) (made : MadeAsDefault states other) :
      other = handle := by
    rw [table, List.mem_append, List.mem_singleton] at member
    rcases member with member | same
    · have same := defaults.sole call (by rw [held]; rfl) other member made
      rw [held] at same
      exact (Option.some.inj same).symm
    · exact same
  have waits {other : Nat} : (∃ call, (s'.stages call).uncleared? = some other) ↔
      ∃ call, (s.stages call).uncleared? = some other := by
    rw [stages, exists_update Stage.uncleared? (by simp [held])]
  have active : handle ∈ s'.table := by simp [table]
  refine ⟨fun other handle fresh => madeAsDefault_snoc.mpr (.inr ⟨other, fresh⟩), ?_, ?_, ?_, ?_, ?_, ?_⟩
  · intro other made
    rcases defaults.place other (older made) with member | gone | ⟨maker, new⟩
    · exact .inl (by simp [table, member])
    · exact .inr (.inl (by simpa using gone))
    · by_cases same : maker = call
      · rw [same, held] at new
        exact .inl (Option.some.inj new ▸ active)
      · exact .inr (.inr ⟨maker, by rwa [stages, Function.update_of_ne same]⟩)
  · intro other member made
    rw [own member (older made)]
    exact .inr ⟨call, by simp [stages]⟩
  · rintro other (isDefault' | ⟨namer, names⟩)
    · obtain ⟨made, place⟩ := defaults.regarded other (.inl (isDefault ▸ isDefault'))
      exact ⟨madeAsDefault_later made s', place.imp (by simp +contextual [table]) waits.mpr⟩
    · by_cases same : namer = call
      · rw [same, stages, Function.update_self] at names
        cases names
        exact ⟨madeAsDefault_later made s', .inl active⟩
      · rw [stages, Function.update_of_ne same] at names
        exact absurd (alone (Stage.renews_of_naming names).1) same
  · intro other renews place member made
    have same : other = call := by
      by_contra differs
      rw [stages, Function.update_of_ne differs] at renews
      exact differs (alone renews)
    rw [same, stages, Function.update_self, own member (older made)]
    rfl
  · intro other place command' named
    have differs : other ≠ call := by
      rintro rfl
      simp [stages] at named
    rw [stages, Function.update_of_ne differs] at named
    exact madeAsDefault_later (defaults.named other place command' named) s'
  · intro other place held
    obtain ⟨_, held⟩ := waits.mp ⟨other, held⟩
    simpa using defaults.gone _ place held

/-- The default engine that a call has made becomes known as such. -/
theorem Defaults.name (defaults : Defaults trace states s) {command : Command}
    (held : s.stages call = .naming handle command) (table : s'.table = s.table)
    (isDefault : s'.default = some handle)
    (stages : s'.stages = Function.update s.stages call (.named handle command)) :
    Defaults (trace ++ [.quiet]) (states ++ [s']) s' := by
  obtain ⟨made, place⟩ := defaults.regarded handle (.inr ⟨call, by rw [held]; rfl⟩)
  have older {other : Nat} (made : MadeAsDefault (states ++ [s']) other) :
      MadeAsDefault states other := (defaults.earlier stages made).resolve_right (by simp)
  have waits {other : Nat} : (∃ call, (s'.stages call).uncleared? = some other) ↔
      ∃ call, (s.stages call).uncleared? = some other := by
    rw [stages, exists_update Stage.uncleared? (by simp [held])]
  refine ⟨fun other handle fresh => madeAsDefault_snoc.mpr (.inr ⟨other, fresh⟩), ?_, ?_, ?_, ?_, ?_, ?_⟩
  · intro other made
    rw [table, stages, exists_update Stage.newDefault? (by simp [held])]
    simpa using defaults.place other (older made)
  · intro other member made
    rw [table] at member
    have same := defaults.sole call (by rw [held]; rfl) other member (older made)
    rw [held] at same
    exact .inl (isDefault.trans same)
  · rintro other (isDefault' | ⟨namer, names⟩)
    · cases isDefault.symm.trans isDefault'
      exact ⟨madeAsDefault_later made s', place.imp (table ▸ ·) waits.mpr⟩
    · have differs : namer ≠ call := by
        rintro rfl
        simp [stages] at names
      rw [stages, Function.update_of_ne differs] at names
      obtain ⟨made, place⟩ := defaults.regarded other (.inr ⟨namer, names⟩)
      exact ⟨madeAsDefault_later made s', place.imp (table ▸ ·) waits.mpr⟩
  · rw [stages, table]
    refine (Function.forall_update_iff s.stages (fun _ stage => stage.renews = true →
      ∀ handle ∈ s.table, MadeAsDefault (states ++ [s']) handle →
        stage.engine? = some handle)).mpr ⟨?_, ?_⟩
    · intro _ other member made
      have same := defaults.sole call (by rw [held]; rfl) other member (older made)
      rwa [held] at same
    · intro other _ renews place member made
      exact defaults.sole other renews place member (older made)
  · rw [stages]
    refine (Function.forall_update_iff s.stages (fun _ stage => ∀ handle command,
      stage = .named handle command → MadeAsDefault (states ++ [s']) handle)).mpr ⟨?_, ?_⟩
    · rintro _ _ ⟨⟩
      exact madeAsDefault_later made s'
    · exact fun other _ handle command held =>
        madeAsDefault_later (defaults.named other handle command held) s'
  · intro other place held
    obtain ⟨_, held⟩ := waits.mp ⟨other, held⟩
    simpa using defaults.gone _ place held

/-- An engine leaves the table. If it was regarded as the default one, it is until the call says so. -/
theorem Defaults.remove {reason : Reason} (defaults : Defaults trace states s)
    (renews : (s.stages call).renews = false) (uncleared : (s.stages call).uncleared? = none)
    (table : s'.table = s.table.filter (· != handle)) (isDefault : s'.default = s.default)
    (stages : s'.stages = Function.update s.stages call (.removed handle reason)) :
    Defaults (trace ++ [.removed call handle]) (states ++ [s']) s' := by
  have naming : (s.stages call).naming? = none := by
    cases stage : s.stages call <;> simp_all
  have new : (s.stages call).newDefault? = none := by
    unfold Stage.newDefault?
    split
    · simp_all
    · rfl
  have older {other : Nat} (made : MadeAsDefault (states ++ [s']) other) :
      MadeAsDefault states other := (defaults.earlier stages made).resolve_right (by simp)
  have inside {other : Nat} (member : other ∈ s'.table) : other ∈ s.table :=
    (List.mem_filter.mp (table ▸ member)).1
  have regards {other : Nat} : s'.Regards other ↔ s.Regards other := by
    rw [Shared.Regards, Shared.Regards, isDefault, stages, exists_update Stage.naming? (by rw [naming]; rfl)]
  have waits {other place : Nat} (held : (s.stages other).uncleared? = some place) :
      (s'.stages other).uncleared? = some place := by
    have differs : other ≠ call := by
      rintro rfl
      rw [uncleared] at held
      cases held
    rwa [stages, Function.update_of_ne differs]
  have own : (s'.stages call).uncleared? = some handle := by simp [stages]
  refine ⟨fun other handle fresh => madeAsDefault_snoc.mpr (.inr ⟨other, fresh⟩), ?_, ?_, ?_, ?_, ?_, ?_⟩
  · intro other made
    rw [stages, exists_update Stage.newDefault? (by rw [new]; rfl), removed_snoc]
    rcases defaults.place other (older made) with member | gone | maker
    · by_cases same : other = handle
      · exact .inr (.inl (by simp [same]))
      · exact .inl (by simp [table, member, same])
    · exact .inr (.inl (List.mem_append_left _ gone))
    · exact .inr (.inr maker)
  · intro other member made
    exact regards.mpr (defaults.kept other (inside member) (older made))
  · intro other held
    obtain ⟨made, place⟩ := defaults.regarded other (regards.mp held)
    refine ⟨madeAsDefault_later made s', ?_⟩
    rcases place with member | ⟨remover, held⟩
    · by_cases same : other = handle
      · exact .inr ⟨call, same ▸ own⟩
      · exact .inl (by simp [table, member, same])
    · exact .inr ⟨remover, waits held⟩
  · rw [stages]
    refine (Function.forall_update_iff s.stages (fun _ stage => stage.renews = true →
      ∀ handle ∈ s'.table, MadeAsDefault (states ++ [s']) handle →
        stage.engine? = some handle)).mpr ⟨by simp, ?_⟩
    exact fun other _ renews place member made =>
      defaults.sole other renews place (inside member) (older made)
  · rw [stages]
    refine (Function.forall_update_iff s.stages (fun _ stage => ∀ handle command,
      stage = .named handle command → MadeAsDefault (states ++ [s']) handle)).mpr ⟨by simp, ?_⟩
    exact fun other _ handle command held =>
      madeAsDefault_later (defaults.named other handle command held) s'
  · intro other place held
    rw [removed_snoc]
    by_cases same : other = call
    · rw [same, own] at held
      exact List.mem_append_right _ (by simpa using held.symm)
    · rw [stages, Function.update_of_ne same] at held
      exact List.mem_append_left _ (defaults.gone other place held)

/-- An engine that has left the table is no longer the default one. -/
theorem Defaults.clear {reason : Reason} (handles : Handles trace s) (places : Places s)
    (defaults : Defaults trace states s) (held : s.stages call = .removed handle reason)
    (free : s.lock = none) (table : s'.table = s.table)
    (isDefault : s'.default = if s.default = some handle then none else s.default)
    (stages : s'.stages = Function.update s.stages call (.cleared handle reason)) :
    Defaults (trace ++ [.quiet]) (states ++ [s']) s' := by
  have older {other : Nat} (made : MadeAsDefault (states ++ [s']) other) :
      MadeAsDefault states other := (defaults.earlier stages made).resolve_right (by simp)
  have gone : handle ∈ removed trace := defaults.gone call handle (by rw [held]; rfl)
  have unnamed (other place : Nat) : (s.stages other).naming? ≠ some place := by
    intro names
    have has := (places.lock other).mp (Stage.holds_of_renews (Stage.renews_of_naming names).1)
    rw [free] at has
    cases has
  have regards {other : Nat} (held : s'.Regards other) : s.default = some other ∧ other ≠ handle := by
    rcases held with isDefault' | ⟨namer, names⟩
    · rw [isDefault] at isDefault'
      split at isDefault'
      · cases isDefault'
      · rename_i differs
        exact ⟨isDefault', fun same => differs (same ▸ isDefault')⟩
    · rw [stages] at names
      obtain ⟨namer, names⟩ := (exists_update Stage.naming? (by simp [held])).mp ⟨namer, names⟩
      exact absurd names (unnamed namer other)
  have waits {other place : Nat} (differs : place ≠ handle)
      (waiting : (s.stages other).uncleared? = some place) :
      (s'.stages other).uncleared? = some place := by
    have differs : other ≠ call := by
      rintro rfl
      rw [held] at waiting
      exact differs (Option.some.inj waiting).symm
    rwa [stages, Function.update_of_ne differs]
  refine ⟨fun other handle fresh => madeAsDefault_snoc.mpr (.inr ⟨other, fresh⟩), ?_, ?_, ?_, ?_, ?_, ?_⟩
  · intro other made
    rw [table, stages, exists_update Stage.newDefault? (by simp [held])]
    simpa using defaults.place other (older made)
  · intro other member made
    rw [table] at member
    have differs : other ≠ handle := by
      rintro rfl
      exact (handles.table other member).2 gone
    rcases defaults.kept other member (older made) with isOld | ⟨namer, names⟩
    · exact .inl (by simp [isDefault, isOld, differs])
    · exact absurd names (unnamed namer other)
  · intro other held
    obtain ⟨isOld, differs⟩ := regards held
    obtain ⟨made, place⟩ := defaults.regarded other (.inl isOld)
    refine ⟨madeAsDefault_later made s', place.imp (table ▸ ·) ?_⟩
    rintro ⟨remover, waiting⟩
    exact ⟨remover, waits differs waiting⟩
  · rw [stages, table]
    refine (Function.forall_update_iff s.stages (fun _ stage => stage.renews = true →
      ∀ handle ∈ s.table, MadeAsDefault (states ++ [s']) handle →
        stage.engine? = some handle)).mpr ⟨by simp, ?_⟩
    exact fun other _ renews place member made => defaults.sole other renews place member (older made)
  · rw [stages]
    refine (Function.forall_update_iff s.stages (fun _ stage => ∀ handle command,
      stage = .named handle command → MadeAsDefault (states ++ [s']) handle)).mpr ⟨by simp, ?_⟩
    exact fun other _ handle command held =>
      madeAsDefault_later (defaults.named other handle command held) s'
  · rw [stages]
    refine (Function.forall_update_iff s.stages (fun _ stage => ∀ handle,
      stage.uncleared? = some handle → handle ∈ removed (trace ++ [.quiet]))).mpr ⟨?_, ?_⟩
    · rintro place ⟨⟩
    · exact fun other _ place waiting => by simpa using defaults.gone other place waiting

/-- Steps in which no engine enters or leaves the table, and no default engine is made or named. -/
theorem Defaults.same (defaults : Defaults trace states s) (table : s'.table = s.table)
    (isDefault : s'.default = s.default) (same : removed (trace ++ [sight]) = removed trace)
    (stages : s'.stages = Function.update s.stages call stage)
    (before : (s.stages call).newDefault? = none ∧ (s.stages call).naming? = none ∧
      (s.stages call).uncleared? = none)
    (after : stage.newDefault? = none ∧ stage.naming? = none ∧ stage.uncleared? = none)
    (unnamed : ∀ handle command, stage ≠ .named handle command)
    (sole : stage.renews = true → ∀ handle ∈ s.table, MadeAsDefault states handle →
      stage.engine? = some handle) : Defaults (trace ++ [sight]) (states ++ [s']) s' := by
  refine defaults.moved (table ▸ fun _ => id) (table ▸ fun _ member _ => member) isDefault same stages
    before.1 ?_ (after.2.1.trans before.2.1.symm) (after.2.2.trans before.2.2.symm) unnamed sole
  intro handle new
  rw [after.1] at new
  cases new

/-- Steps of a worker. -/
theorem Defaults.worked (defaults : Defaults trace states s) (table : s'.table = s.table)
    (isDefault : s'.default = s.default) (same : removed (trace ++ [sight]) = removed trace)
    (stages : s'.stages = s.stages) : Defaults (trace ++ [sight]) (states ++ [s']) s' := by
  have older {handle : Nat} : MadeAsDefault (states ++ [s']) handle ↔ MadeAsDefault states handle := by
    rw [madeAsDefault_snoc, stages]
    refine or_iff_left_of_imp ?_
    rintro ⟨other, new⟩
    exact defaults.made other handle new
  have regards {handle : Nat} : s'.Regards handle ↔ s.Regards handle := by
    rw [Shared.Regards, Shared.Regards, isDefault, stages]
  constructor <;> simp only [older, regards, table, stages, same]
  · exact defaults.made
  · exact defaults.place
  · exact defaults.kept
  · exact defaults.regarded
  · exact defaults.sole
  · exact defaults.named
  · exact defaults.gone

/-- A command that finds no default engine in the table finds none that was made as one. -/
theorem Defaults.none_chosen (places : Places s) (defaults : Defaults trace states s)
    {command : Command} (held : s.stages call = .choosing command)
    (unset : ∀ handle, s.default = some handle → handle ∉ s.table) (member : handle ∈ s.table) :
    ¬ MadeAsDefault states handle := by
  intro made
  rcases defaults.kept handle member made with isDefault | ⟨namer, names⟩
  · exact unset handle isDefault member
  · have has := (places.lock namer).mp (Stage.holds_of_renews (Stage.renews_of_naming names).1)
    rw [(places.lock call).mp (by rw [held]; rfl)] at has
    cases Option.some.inj has
    rw [held] at names
    cases names

theorem Defaults.step (handles : Handles trace s) (places : Places s)
    (defaults : Defaults trace states s) (step : Step s sight s') :
    Defaults (trace ++ [sight]) (states ++ [s']) s' := by
  cases step with
  | work => exact defaults.worked rfl rfl (by simp) rfl
  | dispose stage asked named active =>
    exact defaults.remove (by simp [stage]) (by simp [stage]) rfl rfl rfl
  | retire stage active =>
    exact defaults.remove (by simp [stage]) (by simp [stage]) rfl rfl rfl
  | clear stage free => exact defaults.clear handles places stage free rfl rfl rfl
  | name stage => exact defaults.name stage rfl rfl rfl
  | insertDefault stage => exact defaults.insert places stage rfl rfl rfl
  | @insert call handle stage =>
    refine defaults.moved (by simp +contextual) ?_ rfl (by simp) rfl (by simp [stage]) (by simp)
      (by simp [stage]) (by simp [stage]) (by simp) (by simp)
    intro other member made
    rcases List.mem_append.mp member with member | same
    · exact member
    · exact absurd (List.mem_singleton.mp same ▸ made) (defaults.not_made handles stage)
  | @make call purpose limits handle worker engine log plan stage spawned held =>
    have pends : (s.stages call).pending? = some handle := by rw [stage]; rfl
    have absent := (handles.pending call handle pends).2.1
    refine defaults.moved (fun _ => id) (fun _ member _ => member) rfl (by simp) rfl (by simp [stage])
      ?_ (by simp [stage]) (by simp [stage]) (by simp) ?_
    · intro other new
      have same : some handle = some other := Stage.pending_of_newDefault new
      exact Option.some.inj same ▸ absent
    · intro renews other member made
      have before : (s.stages call).renews = true := by
        cases purpose with
        | create => cases renews
        | default command => rw [stage]; rfl
      have found := defaults.sole call before other member made
      rw [stage] at found
      cases found
  | unchosen stage unset =>
    refine defaults.same rfl rfl (by simp) rfl (by simp [stage]) (by simp) (by simp) ?_
    intro _ other member made
    exact absurd made (defaults.none_chosen places stage unset member)
  | @number call purpose limits stage =>
    refine defaults.same rfl rfl (by simp) rfl (by simp [stage]) (by simp) (by simp) ?_
    intro renews other member made
    have before : (s.stages call).renews = true := by
      cases purpose with
      | create => cases renews
      | default command => rw [stage]; rfl
    have found := defaults.sole call before other member made
    rw [stage] at found
    cases found
  | dispatch op stage =>
    exact defaults.same rfl rfl (by simp) rfl (by simp [stage]) (by simp) (by simp) (by simp)
  | _ stage =>
    exact defaults.same rfl rfl (by simp) rfl (by simp [stage]) (by simp) (by simp) (by simp)

end Dispatcher

end ScriptHost
