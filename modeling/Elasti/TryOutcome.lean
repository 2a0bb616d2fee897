import Elasti.BreakerLimits
import Elasti.Throttler

/- What one call of Try returns against what its resolve returned. The calls of resolve, the
   word of the readiness check and the looks at the context are recorded beside the call. -/
namespace TryOutcome
open GuardedRuns ThreadPool ThrottlerSemaphore ThrottlerBreaker ResolverThrottler

/-- A call of Try with its history, which no step reads: what resolve has returned, what the
    readiness check that has just been made reported, and whether the context was done at the
    look that followed a resolve that returned nil. -/
structure Traced where
  call : Call
  resolved : List (Option String)
  report : Option Bool
  late : Bool

def resolvedAfter (l : Traced) : Answer → List (Option String)
  | .resolved err => l.resolved ++ [err]
  | _ => l.resolved

def reportAfter (t : Throttler) (l : Traced) (a : Answer) : Option Bool :=
  -- the check begins with the load, may ask the API, and ends after the timer is armed. Only the
  -- end of the context leaves its word standing; every other step of the call drops it.
  match l.call.pc, a with
  | _, .done _ => l.report
  | .thunk .load, .go => t.serviceReadyMap (mapKey l.call.host.ns l.call.host.targetService)
  | .thunk .check, .active isPodActive => some isPodActive
  | .thunk .store, .go | .thunk .arm, .go => l.report
  | _, _ => none

def lateAfter (l : Traced) (a : Answer) : Bool :=
  match l.call.pc, a with
  | .thunk .poll, .go => l.late || (l.resolved = [none] && l.call.ctx.isSome)
  | _, _ => l.late

def tracedStep (t : Throttler) (l : Traced) (a : Answer) : Option (Throttler × Traced) :=
  (tryStep t l.call a).map fun r =>
    (r.1, ⟨r.2, resolvedAfter l a, reportAfter t l a, lateAfter l a⟩)

abbrev TracedTries := Pool Throttler Traced

def tracedTriesStep : TracedTries → Move → Option TracedTries := step tracedStep fire

def tracedTries (p : BreakerParams) (hosts : List Host) : TracedTries :=
  ⟨newThrottler p, hosts.map fun host => ⟨newCall host, [], none, false⟩⟩

theorem tracedStep_erases (s : Throttler) (l : Traced) (a : Answer) (t : Throttler) (m : Traced)
    (ran : tracedStep s l a = some (t, m)) : tryStep s l.call a = some (t, m.call) := by
  obtain ⟨⟨u, next⟩, inner, same⟩ := Option.map_eq_some_iff.mp ran
  cases same
  exact inner

theorem untraced_reach {p : BreakerParams} {hosts : List Host} {c : TracedTries}
    (reach : Reach tracedTriesStep Unguarded (tracedTries p hosts) c) :
    Reach triesStep Unguarded (tries p hosts) ⟨c.shared, c.threads.map Traced.call⟩ := by
  have start : (tracedTries p hosts).threads.map Traced.call = (tries p hosts).threads := by
    simp [tracedTries, tries, Function.comp_def]
  have erased := reach_erase Traced.call tracedStep_erases reach
  rw [start] at erased
  exact erased

def role (l : Call) : SemaphoreRuns.Goroutine :=
  match l.pc with
  | .maybe pc => BreakerLimits.role pc
  | .thunk _ => .holding
  | .decLoad .panicked | .decStore .panicked _ | .returned .panicked => .panicked
  | .incLoad | .incStore _ | .decLoad _ | .decStore _ _ | .returned _ => .idle

theorem role_resume (l : Call) (pc : MaybePc) : role (resume l pc) = BreakerLimits.role pc := by
  cases pc with
  | returned out =>
    cases out with
    | done =>
      simp only [resume]
      split
      · rfl
      · unfold role afterLoop
        cases l.tryErr <;> rfl
    | queueFull | cancelled | unpaired => rfl
  | tryLoad | tryCas | acquiring | thunk | releasing | slotLoad | slotCas => rfl

theorem tryStep_role {t u : Throttler} {l m : Call} {a : Answer}
    (ran : tryStep t l a = some (u, m)) :
    (u.breaker.sem = t.breaker.sem ∧ role m = role l) ∨
      ∃ b, SemaphoreRuns.exec t.breaker.sem (role l) b = some (u.breaker.sem, role m) := by
  cases tryStep_cases ran with
  | contextDone err => exact .inl ⟨rfl, rfl⟩
  | incLoad size before | incStore size before =>
    left
    simp [role, before, enterMaybe, BreakerLimits.role, storeQueueSize]
  | maybe pc ch _ _ _ before inner =>
    obtain ⟨⟨b, next⟩, moved, same⟩ := Option.map_eq_some_iff.mp inner
    cases same
    have here : role l = BreakerLimits.role pc := by simp [role, before]
    rw [role_resume, here]
    exact BreakerLimits.maybe_role moved
  | thunk pc _ _ _ before inner =>
    obtain ⟨breaker, -, -, after⟩ := thunkStep_spec inner
    have here : role l = .holding := by simp [role, before]
    rw [here, breaker]
    rcases after with ⟨next, after⟩ | after
    · exact .inl ⟨rfl, by simp [role, after]⟩
    · exact .inr ⟨.go, by simp [role, after, BreakerLimits.role, SemaphoreRuns.exec]⟩
  | decLoad ending size before =>
    left
    cases ending <;> simp [role, before]
  | decStore ending size before =>
    left
    cases ending <;> simp [role, before, storeQueueSize]

theorem never_panicked {p : BreakerParams} {hosts : List Host} {c : Tries}
    (reach : Reach triesStep Unguarded (tries p hosts) c) :
    ∀ l ∈ c.threads, role l ≠ .panicked := by
  have seen : Reach SemaphoreRuns.semStep Unguarded
      (SemaphoreRuns.start p.maxConcurrency p.initialCapacity hosts.length)
      ⟨c.shared.breaker.sem, c.threads.map role⟩ := by
    have begin : (⟨(newThrottler p).breaker.sem, (hosts.map newCall).map role⟩ :
        SemaphoreRuns.Goroutines) =
        SemaphoreRuns.start p.maxConcurrency p.initialCapacity hosts.length := by
      simp [newThrottler, newBreaker, SemaphoreRuns.start, role, newCall, Function.comp_def]
    rw [← begin]
    exact reach_project (fun t : Throttler => t.breaker.sem) role
      (fun _ _ _ _ _ ran => tryStep_role ran)
      (fun s e t fired => by
        obtain ⟨key, -, rfl⟩ := Option.map_eq_some_iff.mp fired
        rfl) reach
  intro l member panicked
  have paired := (SemaphoreRuns.packed_reach seen).paired
  exact paired (panicked ▸ List.mem_map_of_mem member)

def Served (l : Traced) : Prop := l.resolved = [none] ∧ l.late = false

def Decided (l : Traced) : Prop :=
  l.call.reenqueue = false → (l.call.tryErr = none ↔ Served l)

def beforeThunk : MaybePc → Bool
  | .tryLoad | .tryCas _ | .acquiring _ | .thunk => true
  | .slotLoad out | .slotCas out _ | .returned out => out = .queueFull || out = .cancelled
  | .releasing _ => false

def Stage (l : Traced) : TryPc → Prop
  | .incLoad | .incStore _ | .thunk .sleep => l.call.reenqueue = true
  | .maybe pc =>
    if beforeThunk pc then l.call.reenqueue = true ∧ l.call.tryErr = none else Decided l
  | .thunk .load | .thunk .check => l.call.reenqueue = true ∧ l.call.tryErr = none
  | .thunk .store | .thunk .arm | .thunk .resolve =>
    (l.call.reenqueue = true ∧ l.call.tryErr = none) ∧ l.report = some true
  | .thunk .poll => Decided l ∧ l.late = false
  | .decLoad ending | .decStore ending _ | .returned ending =>
    ending ≠ .panicked → (ending = .nil ↔ Served l)

/-- As long as the loop goes on resolve has not been called, and it is called once. -/
structure Sound (l : Traced) : Prop where
  uncalled : l.call.reenqueue = true → l.resolved = []
  once : l.resolved.length ≤ 1
  lateOnly : l.late = true → l.resolved = [none]
  stage : Stage l l.call.pc

theorem Sound.unserved {l : Traced} (sound : Sound l) (again : l.call.reenqueue = true) :
    ¬ Served l := by
  intro served
  have none_called := sound.uncalled again
  rw [served.1] at none_called
  contradiction

theorem Sound.intime {l : Traced} (sound : Sound l) (again : l.call.reenqueue = true) :
    l.late = false := by
  by_contra late
  have called := sound.lateOnly (by simpa using late)
  rw [sound.uncalled again] at called
  contradiction

theorem Sound.moved {l m : Traced} (sound : Sound l) (resolved : m.resolved = l.resolved)
    (late : m.late = l.late) (again : m.call.reenqueue = l.call.reenqueue)
    (stage : Stage m m.call.pc) : Sound m := by
  constructor
  · rw [again, resolved]
    exact sound.uncalled
  · rw [resolved]
    exact sound.once
  · rw [late, resolved]
    exact sound.lateOnly
  · exact stage

theorem decided_again {l : Traced} (again : l.call.reenqueue = true) : Decided l := by
  intro ended
  rw [again] at ended
  contradiction

theorem afterLoop_nil_iff (c : Call) : afterLoop c = .nil ↔ c.tryErr = none := by
  unfold afterLoop
  cases c.tryErr <;> simp

theorem sound_resume {l : Traced} {pc : MaybePc} (sound : Sound l)
    (entering : beforeThunk pc = true → l.call.reenqueue = true ∧ l.call.tryErr = none)
    (leaving : beforeThunk pc = false → Decided l) (report : Option Bool) :
    Sound { l with call := resume l.call pc, report := report } := by
  -- a Maybe that has not come to its thunk finds a call that goes on and has no error; one that
  -- has finds a call whose outcome is decided
  cases pc with
  | thunk => exact sound.moved rfl rfl rfl (entering rfl)
  | returned out =>
    cases out with
    | done =>
      cases again : l.call.reenqueue with
      | true =>
        have same : resume l.call (.returned .done) = enterMaybe l.call := by simp [resume, again]
        rw [same]
        exact sound.moved rfl rfl rfl ⟨again, rfl⟩
      | false =>
        have same : resume l.call (.returned .done) =
            { l.call with pc := .decLoad (afterLoop l.call) } := by simp [resume, again]
        rw [same]
        refine sound.moved rfl rfl rfl ?_
        intro _
        rw [afterLoop_nil_iff]
        exact leaving rfl again
    | queueFull | cancelled =>
      refine sound.moved rfl rfl rfl ?_
      intro _
      have unserved := sound.unserved (entering rfl).1
      constructor
      · intro impossible
        contradiction
      · intro served
        exact absurd served unserved
    | unpaired =>
      refine sound.moved rfl rfl rfl ?_
      intro impossible
      contradiction
  | tryLoad | tryCas | acquiring => exact sound.moved rfl rfl rfl (entering rfl)
  | releasing rpc => exact sound.moved rfl rfl rfl (leaving rfl)
  | slotLoad | slotCas =>
    refine sound.moved rfl rfl rfl ?_
    simp only [Stage, resume]
    split
    · rename_i early
      exact entering early
    · rename_i late
      exact leaving (by simpa using late)

theorem maybe_beforeThunk {b c : Breaker} {pc next : MaybePc} {ch : Choice}
    (ran : maybe b pc ch = some (c, next)) (early : beforeThunk next = true) :
    beforeThunk pc = true := by
  cases pc with
  | tryLoad | tryCas | acquiring | thunk => rfl
  | releasing rpc =>
    cases ch <;> cases ran
    cases status : (release b.sem rpc).2 <;> (rw [status] at early; cases early)
  | slotLoad out =>
    cases ch <;> cases ran
    exact early
  | slotCas out cur =>
    cases ch <;> simp only [maybe, releaseInFlightSlot, reduceCtorEq] at ran
    split at ran <;> cases ran <;> exact early
  | returned out => cases ch <;> cases ran

theorem sound_maybe {t u : Throttler} {l : Traced} {m : Call} {pc : MaybePc} {ch : Choice}
    (sound : Sound l) (before : l.call.pc = .maybe pc)
    (ran : maybeStep t l.call pc ch = some (u, m)) (report : Option Bool) :
    Sound { l with call := m, report := report } := by
  obtain ⟨⟨b, next⟩, moved, same⟩ := Option.map_eq_some_iff.mp ran
  cases same
  have stage := sound.stage
  rw [before] at stage
  simp only [Stage] at stage
  apply sound_resume sound
  · intro early
    rw [if_pos (maybe_beforeThunk moved early)] at stage
    exact stage
  · intro late
    split at stage
    · exact decided_again stage.1
    · exact stage

theorem late_kept {l : Traced} {a : Answer} (elsewhere : l.call.pc ≠ .thunk .poll) :
    lateAfter l a = l.late := by
  unfold lateAfter
  split
  · contradiction
  · rfl

theorem sound_resolve {l : Traced} {m : Call} {err : Option String} {report : Option Bool}
    (sound : Sound l) (again : l.call.reenqueue = true) (ended : m.reenqueue = false)
    (after : m.pc = .thunk .poll) (error : m.tryErr = none ↔ err = none) :
    Sound ⟨m, l.resolved ++ [err], report, l.late⟩ := by
  have none_called := sound.uncalled again
  have intime := sound.intime again
  constructor
  · intro more
    rw [ended] at more
    contradiction
  · simp [none_called]
  · intro late
    rw [intime] at late
    contradiction
  · simp only [after, Stage, Decided, Served, none_called, intime]
    simpa [ended] using error

theorem sound_late {l : Traced} {m : Call} {report : Option Bool} (sound : Sound l)
    (ended : m.reenqueue = false) (error : m.tryErr ≠ none)
    (after : m.pc = .maybe (.releasing .load)) :
    Sound ⟨m, l.resolved, report, l.late || (l.resolved = [none] : Bool)⟩ := by
  constructor
  · intro more
    rw [ended] at more
    contradiction
  · exact sound.once
  · intro late
    simp only [Bool.or_eq_true, decide_eq_true_eq] at late
    rcases late with before | now
    · exact sound.lateOnly before
    · exact now
  · simp only [after, Stage, beforeThunk, Decided, Served]
    intro _
    constructor
    · intro fine
      exact absurd fine error
    · rintro ⟨called, never⟩
      simp [called] at never

theorem sound_poll {t u : Throttler} {l : Traced} {m : Call} {a : Answer} (sound : Sound l)
    (before : l.call.pc = .thunk .poll) (ran : thunkStep t l.call .poll a = some (u, m)) :
    Sound ⟨m, resolvedAfter l a, reportAfter t l a, lateAfter l a⟩ := by
  have stage := sound.stage
  rw [before] at stage
  cases a <;> simp only [thunkStep, reduceCtorEq] at ran
  split at ran
  · rename_i err done
    cases ran
    have late : lateAfter l .go = (l.late || (l.resolved = [none] : Bool)) := by
      simp [lateAfter, before, done]
    rw [late]
    exact sound_late sound rfl (by simp [leaveThunk]) rfl
  · rename_i running
    have late : lateAfter l .go = l.late := by simp [lateAfter, before, running]
    rw [late]
    split at ran
    · rename_i again
      cases ran
      exact sound.moved rfl rfl rfl again
    · cases ran
      exact sound.moved rfl rfl rfl stage.1

theorem sound_thunk {t u : Throttler} {l : Traced} {m : Call} {pc : ThunkPc} {a : Answer}
    (sound : Sound l) (before : l.call.pc = .thunk pc)
    (ran : thunkStep t l.call pc a = some (u, m)) :
    Sound ⟨m, resolvedAfter l a, reportAfter t l a, lateAfter l a⟩ := by
  by_cases polls : pc = .poll
  · subst polls
    exact sound_poll sound before ran
  have late : lateAfter l a = l.late := late_kept (by simp [before, polls])
  have stage := sound.stage
  rw [before] at stage
  cases pc with
  | load =>
    cases a <;> simp only [thunkStep, reduceCtorEq] at ran
    split at ran
    · rename_i found
      cases ran
      exact sound.moved rfl late rfl ⟨stage, by simp [reportAfter, before, found]⟩
    · cases ran
      exact sound.moved rfl late rfl ⟨decided_again stage.1, late.trans (sound.intime stage.1)⟩
    · cases ran
      exact sound.moved rfl late rfl stage
  | check =>
    have intime := late.trans (sound.intime stage.1)
    cases a <;> simp only [thunkStep, reduceCtorEq] at ran
    · rename_i isPodActive
      cases isPodActive <;> cases ran
      · exact sound.moved rfl late rfl ⟨decided_again stage.1, intime⟩
      · exact sound.moved rfl late rfl ⟨stage, by simp [reportAfter, before]⟩
    · cases ran
      exact sound.moved rfl late rfl ⟨decided_again stage.1, intime⟩
  | store | arm =>
    cases a <;> simp only [thunkStep, reduceCtorEq] at ran
    cases ran
    exact sound.moved rfl late rfl ⟨stage.1, by simpa [reportAfter, before] using stage.2⟩
  | resolve =>
    cases a <;> simp only [thunkStep, reduceCtorEq] at ran
    rename_i err
    rw [late]
    cases err <;> cases ran
    · exact sound_resolve sound stage.1.1 rfl rfl (by simp [stage.1.2])
    · exact sound_resolve sound stage.1.1 rfl rfl (by simp)
  | poll => contradiction
  | sleep =>
    cases a <;> simp only [thunkStep, reduceCtorEq] at ran
    cases ran
    exact sound.moved rfl late rfl (decided_again stage)

theorem resolved_kept {t : Throttler} {l : Traced} {a : Answer} {r : Throttler × Call}
    {pc : MaybePc} (before : l.call.pc = .maybe pc) (ran : tryStep t l.call a = some r) :
    resolvedAfter l a = l.resolved := by
  cases a with
  | resolved err => simp [tryStep, before] at ran
  | go | cancel | done | active | fail => rfl

theorem sound_step {t u : Throttler} {l m : Traced} {a : Answer} (sound : Sound l)
    (ran : tracedStep t l a = some (u, m)) : Sound m := by
  obtain ⟨⟨v, next⟩, inner, same⟩ := Option.map_eq_some_iff.mp ran
  cases same
  have stage := sound.stage
  cases tryStep_cases inner with
  | contextDone err =>
    have late : lateAfter l (.done err) = l.late := by
      unfold lateAfter
      split
      · contradiction
      · rfl
    have report : reportAfter t l (.done err) = l.report := by simp [reportAfter]
    rw [late, report]
    exact sound.moved rfl rfl rfl stage
  | incLoad size before =>
    rw [before] at stage
    exact sound.moved rfl (late_kept (by simp [before])) rfl stage
  | incStore size before =>
    rw [before] at stage
    exact sound.moved rfl (late_kept (by simp [before])) rfl ⟨stage, rfl⟩
  | maybe pc ch _ _ _ before moved =>
    have late : lateAfter l a = l.late := late_kept (by simp [before])
    rw [late, resolved_kept before inner]
    exact sound_maybe sound before moved _
  | thunk pc _ _ _ before moved => exact sound_thunk sound before moved
  | decLoad ending size before | decStore ending size before =>
    have late : lateAfter l .go = l.late := late_kept (by simp [before])
    rw [before] at stage
    rw [late]
    exact sound.moved rfl rfl rfl stage

theorem sound_reach {p : BreakerParams} {hosts : List Host} {c : TracedTries}
    (reach : Reach tracedTriesStep Unguarded (tracedTries p hosts) c) :
    ∀ l ∈ c.threads, Sound l := by
  have start : ∀ l ∈ (tracedTries p hosts).threads, Sound l := by
    intro l member
    obtain ⟨host, -, rfl⟩ := List.mem_map.mp member
    exact ⟨fun _ => rfl, Nat.zero_le 1, fun impossible => by contradiction, rfl⟩
  have inv : True ∧ ∀ l ∈ c.threads, Sound l := by
    apply reach_modular (G := fun _ => True) (T := fun _ l => Sound l) _ _ _ trivial start reach
    · intro c i a l s m _ each _ here ran
      exact ⟨trivial, sound_step (each l (List.mem_of_getElem? here)) ran⟩
    · intro c i a l s m j n _ each _ _ _ _ at_j
      exact each n (List.mem_of_getElem? at_j)
    · intro c e s _ each _ _
      exact ⟨trivial, each⟩
  exact inv.2

/-- One call of Try calls resolve at most once, and only right after a readiness check that
    reported the target active. A call that has returned has returned nil if and only if
    resolve was called and returned nil, exactly when its context was not done at the look
    after such a resolve. -/
theorem try_outcome_iff (p : BreakerParams) (hosts : List Host) (c : TracedTries)
    (reach : Reach tracedTriesStep Unguarded (tracedTries p hosts) c) (l : Traced)
    (member : l ∈ c.threads) :
    l.resolved.length ≤ 1 ∧ (l.call.pc = .thunk .resolve → l.report = some true) ∧
      ∀ ending, l.call.pc = .returned ending →
        ((ending = .nil ↔ l.resolved = [none]) ↔ l.late = false) := by
  have sound := sound_reach reach l member
  have stage := sound.stage
  refine ⟨sound.once, ?_, ?_⟩
  · intro before
    rw [before] at stage
    exact stage.2
  · intro ending ended
    rw [ended] at stage
    have fine : ending ≠ .panicked := by
      rintro rfl
      exact never_panicked (untraced_reach reach) l.call (List.mem_map_of_mem member)
        (by simp [role, ended])
    rw [stage fine]
    cases late : l.late with
    | false => simp [Served, late]
    | true => simp [Served, late, sound.lateOnly late]

def untilResolve : List Move := goes 0 7 ++ [.thread 0 (.active true)] ++ goes 0 2

def resolveToReturn : List Move := .thread 0 (.resolved none) :: goes 0 8

theorem served_call_returns_nil :
    ∃ c l, Reach tracedTriesStep Unguarded (tracedTries ⟨1, 1, 1⟩ [web]) c ∧ l ∈ c.threads ∧
      l.call.pc = .returned .nil ∧ l.late = false ∧
      ((Ending.nil = .nil ↔ l.resolved = [none]) ↔ l.late = false) := by
  have reach : Reach tracedTriesStep Unguarded (tracedTries ⟨1, 1, 1⟩ [web]) _ :=
    reach_of_run (untilResolve ++ resolveToReturn) rfl
  have outcome := try_outcome_iff ⟨1, 1, 1⟩ [web] _ reach _ List.mem_cons_self
  exact ⟨_, _, reach, List.mem_cons_self, rfl, rfl, outcome.2.2 .nil rfl⟩

/-- The context ends while a slow resolve is at work; resolve returns nil, and Try an error. -/
theorem late_context_fails_served_call :
    ∃ c, Reach tracedTriesStep Unguarded (tracedTries ⟨1, 1, 1⟩ [web]) c ∧
      ∃ l ∈ c.threads, l.resolved = [none] ∧ l.call.pc = .returned
        (.err (.thunk "context done error: context deadline exceeded")) := by
  exact reaches_of_run
    (untilResolve ++ [.thread 0 (.done .deadlineExceeded)] ++ resolveToReturn) (by decide +kernel)

end TryOutcome
