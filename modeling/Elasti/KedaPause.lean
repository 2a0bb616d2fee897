import Elasti.Cluster

/- Every scaling run first patches the ScaledObject and then scales the target, and only
   the second step is under a mutex. The pair agrees at the end when no run of the other
   direction patches in between, and when the observed replicas do not mislead Scale. -/
namespace KedaPause
open GuardedRuns ThreadPool V1Alpha1 ScaleTarget ScalingRuns SwitchModes Cluster

def resizing : Run → Option (Bool × ResizePc)
  | .tick (.toZero _ pc) => some (true, pc)
  | .tick (.fromZero (.resize pc)) | .notify (.scaleUp (.resize pc)) => some (false, pc)
  | _ => none

def desired (spec : ElastiServiceSpec) (paused : Bool) : Int :=
  if paused then 0 else minReplicas spec

def pending : ResizePc → Bool
  | .scale .lock | .scale (.get _) | .scale .update => true
  | _ => false

def reading : ResizePc → Bool
  | .scale (.get _) => true
  | _ => false

def between (paused : Bool) (l : Run) : Bool :=
  (resizing l).any fun r => r.1 == paused && pending r.2

def pastPatch (l : Run) : Bool := (resizing l).any fun r => r.2 ≠ .keda

def succeeds : Answer → Bool
  | .fail _ => false
  | _ => true

/-- No call fails; no patch lands while a run of the other direction is between its patch
    and its Scale; and where Scale finds nothing to do, the requested count is zero exactly
    if the desired one is. -/
def Orderly (sys : System) (c : Runs) : Move → Prop
  | .thread i (.scaling a) =>
    succeeds a ∧ ∀ l ∈ c.threads[i]?, ∀ r ∈ resizing l,
      (r.2 = .keda → c.threads.countP (between !r.1) = 0) ∧
      (reading r.2 = true → ∀ t ∈ c.shared.scaling.target,
        noScaleRequired t (desired sys.spec r.1) = true →
          (desired sys.spec r.1 = 0 ↔ t.specReplicas = 0))
  | _ => True

def Agree (s : Scaling) : Prop :=
  ∀ a ∈ s.scaledObject, ∀ t ∈ s.target, (PausedAtZero a ↔ t.specReplicas = 0)

instance (sys : System) (c : Runs) (e : Move) : Decidable (Orderly sys c e) := by
  unfold Orderly
  split <;> infer_instance

instance (s : Scaling) : Decidable (Agree s) := by
  unfold Agree
  infer_instance

theorem desired_zero_iff (spec : ElastiServiceSpec) (paused : Bool) :
    desired spec paused = 0 ↔ paused = true := by
  have positive := minReplicas_positive spec
  cases paused with
  | true => simp [desired]
  | false =>
    simp only [desired, Bool.false_eq_true, ↓reduceIte, iff_false]
    omega

theorem pausedAtZero_patch (paused : Bool) (a : Annotations) :
    PausedAtZero (updateKedaScaledObjectPausedState paused a) ↔ paused = true := by
  cases paused <;> simp [updateKedaScaledObjectPausedState, PausedAtZero]

inductive Turn (paused : Bool) (desired : Int) (s : Scaling) :
    ResizePc → Scaling → ResizePc → Prop where
  | patch (t : Scaling) (a : Annotations)
      (patched : t.scaledObject = some (updateKedaScaledObjectPausedState paused a)) :
      Turn paused desired s .keda t (.scale .lock)
  | stay (pc : ResizePc) (t : Scaling) (next : ResizePc) (later : pc ≠ .keda)
      (kept : pending next = pending pc) (object : t.scaledObject = s.scaledObject) (target : t.target = s.target) :
      Turn paused desired s pc t next
  | quiet (j : Nat) (current : Scale) (found : s.target = some current)
      (enough : noScaleRequired current desired = true) :
      Turn paused desired s (.scale (.get j)) s (.scale (.unlock .notRequired))
  | write (t : Scaling) (written : Scale) (object : t.scaledObject = s.scaledObject)
      (target : t.target = some written) (count : written.specReplicas = desired) :
      Turn paused desired s (.scale .update) t (.scale (.unlock .scaled))

theorem resizeEffect_turn [Apimachinery] {spec : ElastiServiceSpec} {paused : Bool} {desired : Int}
    {s t : Scaling} {pc next : ResizePc} {a : Answer} (parses : afterKeda spec = .scale .lock)
    (success : succeeds a = true)
    (effect : ResizeEffect spec paused desired s pc a t next) : Turn paused desired s pc t next := by
  cases effect with
  | patch a found =>
    rw [parses]
    exact .patch _ a rfl
  | unpatched err => cases success
  | scale pc a t status effect =>
    cases effect with
    | lock free => exact .stay _ _ _ nofun rfl rfl rfl
    | quiet i current found enough => exact .quiet i current found enough
    | differs i => exact .stay _ _ _ nofun rfl rfl rfl
    | again i err => cases success
    | unread i err truth => cases success
    | write current found => exact .write _ _ rfl rfl rfl
    | refused err truth => cases success
    | unlock ret => cases ret <;> exact .stay _ _ _ nofun rfl rfl rfl

theorem effect_resizing [Apimachinery] {sys : System} {c d : State} {l m : Run} {a : Label}
    (keda : usesKeda sys.spec = true) (kind : ∀ pc, l ≠ .finalizer pc)
    (effect : Effect sys c l a d m) :
    (∃ paused pc b next, resizing l = some (paused, pc) ∧ resizing m = some (paused, next) ∧
      a = .scaling b ∧
      ResizeEffect sys.spec paused (desired sys.spec paused) c.scaling pc b d.scaling next) ∨
    (pastPatch m = false ∧ ∀ paused, between paused l = false ∧ between paused m = false) ∧
      d.scaling.scaledObject = c.scaling.scaledObject ∧ d.scaling.target = c.scaling.target := by
  have start : resize sys.spec = .keda := by simp [resize, keda]
  cases effect with
  | tick pc a t next effect =>
    cases effect with
    | toZero listed pc a t next effect => exact .inl ⟨true, pc, a, next, rfl, rfl, rfl, effect⟩
    | fromZero pc a t next effect =>
      cases effect with
      | resize pc a t next effect => exact .inl ⟨false, pc, a, next, rfl, rfl, rfl, effect⟩
      | stamp => exact .inr ⟨⟨rfl, fun _ => ⟨rfl, rfl⟩⟩, rfl, rfl⟩
      | record now => exact .inr ⟨by simp [pastPatch, between, resizing, start, pending], rfl, rfl⟩
      | unrecorded now err =>
        exact .inr ⟨by simp [pastPatch, between, resizing, start, pending], rfl, rfl⟩
    | listed => exact .inr ⟨⟨rfl, fun _ => ⟨rfl, rfl⟩⟩, rfl, rfl⟩
    | skip pc a early =>
      cases pc with
      | list | calculate | cooldown | skipped => exact .inr ⟨⟨rfl, fun _ => ⟨rfl, rfl⟩⟩, rfl, rfl⟩
      | toZero | fromZero => cases early
    | down listed a => exact .inr ⟨⟨rfl, fun _ => ⟨rfl, rfl⟩⟩, rfl, rfl⟩
    | up listed a => exact .inr ⟨⟨rfl, fun _ => ⟨rfl, rfl⟩⟩, rfl, rfl⟩
    | met listed met => exact .inr ⟨by simp [pastPatch, between, resizing, start, pending], rfl, rfl⟩
  | lookup next idle =>
    rcases idle with rfl | rfl <;> exact .inr ⟨⟨rfl, fun _ => ⟨rfl, rfl⟩⟩, rfl, rfl⟩
  | scaleUp pc a t next effect =>
    cases effect with
    | resize pc a t next effect => exact .inl ⟨false, pc, a, next, rfl, rfl, rfl, effect⟩
    | stamp => exact .inr ⟨⟨rfl, fun _ => ⟨rfl, rfl⟩⟩, rfl, rfl⟩
    | record now => exact .inr ⟨by simp [pastPatch, between, resizing, start, pending], rfl, rfl⟩
    | unrecorded now err =>
      exact .inr ⟨by simp [pastPatch, between, resizing, start, pending], rfl, rfl⟩
  | switchMode mode pc a r next effect => exact .inr ⟨⟨rfl, fun _ => ⟨rfl, rfl⟩⟩, rfl, rfl⟩
  | resolver pc a r next effect => exact .inr ⟨⟨rfl, fun _ => ⟨rfl, rfl⟩⟩, rfl, rfl⟩
  | reconcile pc a directory next => exact .inr ⟨⟨rfl, fun _ => ⟨rfl, rfl⟩⟩, rfl, rfl⟩
  | finalizer pc a d next effect => exact absurd rfl (kind pc)

/-- The runs between their patch and their Scale all go one way, the ScaledObject is as
    they patched it, and when there are none but some have got past them the two objects
    agree. -/
structure Tied (c : Runs) : Prop where
  patched : ∀ paused, 0 < c.threads.countP (between paused) →
    ∀ a ∈ c.shared.scaling.scaledObject, (PausedAtZero a ↔ paused = true)
  oneWay : ∀ paused, 0 < c.threads.countP (between paused) →
    c.threads.countP (between !paused) = 0
  agree : (∃ l ∈ c.threads, pastPatch l = true) →
    (∀ paused, c.threads.countP (between paused) = 0) → Agree c.shared.scaling
  kinds : ∀ pc, .finalizer pc ∉ c.threads

theorem between_iff {l : Run} {b paused : Bool} {pc : ResizePc}
    (here : resizing l = some (b, pc)) : between paused l = (b == paused && pending pc) := by
  simp [between, here]

theorem tied_kept {c : Runs} {i : Nat} {l m : Run} {d : State} (tied : Tied c)
    (here : c.threads[i]? = some l) (same : ∀ paused, between paused m = between paused l)
    (older : pastPatch m = true → pastPatch l = true) (kind : ∀ pc, m ≠ .finalizer pc)
    (object : d.scaling.scaledObject = c.shared.scaling.scaledObject)
    (target : d.scaling.target = c.shared.scaling.target) : Tied ⟨d, c.threads.set i m⟩ := by
  have counts : ∀ paused, (c.threads.set i m).countP (between paused) =
      c.threads.countP (between paused) := by
    intro paused
    have moved := count_set (m := m) (between paused) here
    rw [same paused] at moved
    omega
  constructor
  · intro paused some_between
    rw [counts] at some_between
    rw [object]
    exact tied.patched paused some_between
  · intro paused some_between
    rw [counts] at some_between ⊢
    exact tied.oneWay paused some_between
  · rintro ⟨o, member, past⟩ none_between
    unfold Agree
    rw [object, target]
    apply tied.agree
    · rcases List.mem_or_eq_of_mem_set member with other | rfl
      · exact ⟨o, other, past⟩
      · exact ⟨l, List.mem_of_getElem? here, older past⟩
    intro paused
    rw [← counts]
    exact none_between paused
  · intro pc
    exact not_member_set (tied.kinds pc) (kind pc)

theorem resizing_not_finalizer {m : Run} {r : Bool × ResizePc} (after : resizing m = some r)
    (pc : FinalizerPc) : m ≠ .finalizer pc := by
  intro same
  subst same
  cases after

theorem tied_patch {c : Runs} {i : Nat} {l m : Run} {d : State} {paused : Bool}
    {a : Annotations} (tied : Tied c) (here : c.threads[i]? = some l)
    (before : resizing l = some (paused, .keda)) (after : resizing m = some (paused, .scale .lock))
    (patched : d.scaling.scaledObject = some (updateKedaScaledObjectPausedState paused a))
    (alone : c.threads.countP (between !paused) = 0) : Tied ⟨d, c.threads.set i m⟩ := by
  have joined : (c.threads.set i m).countP (between paused) =
      c.threads.countP (between paused) + 1 := by
    have moved := count_set (m := m) (between paused) here
    simpa [between_iff before, between_iff after, pending] using moved
  have other : (c.threads.set i m).countP (between !paused) = 0 := by
    have moved := count_set (m := m) (between !paused) here
    simpa [between_iff before, between_iff after, pending, alone] using moved
  have only : ∀ p, 0 < (c.threads.set i m).countP (between p) → p = paused := by
    intro p some_between
    by_contra differs
    rw [Bool.eq_not_of_ne differs, other] at some_between
    omega
  constructor
  · intro p some_between found at_object
    cases only p some_between
    rw [patched] at at_object
    cases at_object
    exact pausedAtZero_patch paused a
  · intro p some_between
    cases only p some_between
    exact other
  · intro _ none_between
    have none_here : (c.threads.set i m).countP (between paused) = 0 := none_between paused
    omega
  · intro pc
    exact not_member_set (tied.kinds pc) (resizing_not_finalizer after pc)

theorem tied_settle {c : Runs} {i : Nat} {l m : Run} {d : State} {paused : Bool}
    {pc next : ResizePc} {u : Scale} (tied : Tied c) (here : c.threads[i]? = some l)
    (before : resizing l = some (paused, pc)) (after : resizing m = some (paused, next))
    (was : pending pc = true) (is : pending next = false)
    (object : d.scaling.scaledObject = c.shared.scaling.scaledObject)
    (target : d.scaling.target = some u) (right : u.specReplicas = 0 ↔ paused = true) :
    Tied ⟨d, c.threads.set i m⟩ := by
  have fewer : ∀ p, (c.threads.set i m).countP (between p) ≤ c.threads.countP (between p) := by
    intro p
    have moved := count_set (m := m) (between p) here
    simp only [between_iff after, is, Bool.and_false, Bool.false_eq_true, ↓reduceIte] at moved
    omega
  have held : 0 < c.threads.countP (between paused) := by
    apply List.countP_pos_iff.mpr
    exact ⟨l, List.mem_of_getElem? here, by simp [between_iff before, was]⟩
  constructor
  · intro p some_between
    rw [object]
    exact tied.patched p (lt_of_lt_of_le some_between (fewer p))
  · intro p some_between
    have none_before := tied.oneWay p (lt_of_lt_of_le some_between (fewer p))
    have after_le := fewer !p
    rw [none_before] at after_le
    exact Nat.le_zero.mp after_le
  · intro _ _ a at_object t at_target
    rw [object] at at_object
    rw [target] at at_target
    cases at_target
    rw [tied.patched paused held a at_object, right]
  · intro pc
    exact not_member_set (tied.kinds pc) (resizing_not_finalizer after pc)

theorem tied_step [Apimachinery] {sys : System} {c : Runs} {i : Nat} {a : Label} {l m : Run}
    {d : State} (keda : usesKeda sys.spec = true) (parses : afterKeda sys.spec = .scale .lock)
    (tied : Tied c) (meets : Orderly sys c (.thread i a)) (here : c.threads[i]? = some l)
    (effect : Effect sys c.shared l a d m) : Tied ⟨d, c.threads.set i m⟩ := by
  have kind : ∀ pc, l ≠ .finalizer pc := by
    intro pc same
    exact tied.kinds pc (same ▸ List.mem_of_getElem? here)
  rcases effect_resizing keda kind effect with
    ⟨paused, pc, b, next, before, after, rfl, inner⟩ | ⟨⟨early, outside⟩, object, target⟩
  · obtain ⟨success, orders⟩ := meets
    obtain ⟨alone, truth⟩ := orders l here (paused, pc) before
    generalize same : d.scaling = t at inner
    cases resizeEffect_turn parses success inner with
    | patch t a patched => exact tied_patch tied here before after (same ▸ patched) (alone rfl)
    | stay pc t next later kept object target =>
      apply tied_kept tied here
      · intro p
        rw [between_iff before, between_iff after, kept]
      · intro _
        simp [pastPatch, before, later]
      · intro q is_finalizer
        subst is_finalizer
        cases after
      · rw [same, object]
      · rw [same, target]
    | quiet j current found enough =>
      apply tied_settle tied here before after rfl rfl
      · rw [same]
      · rw [same]
        exact found
      · rw [← truth rfl current found enough, desired_zero_iff]
    | write t written object target count =>
      apply tied_settle tied here before after rfl rfl
      · rw [same, object]
      · rw [same, target]
      · rw [count, desired_zero_iff]
  · apply tied_kept tied here ?_ ?_ ?_ object target
    · intro p
      rw [(outside p).1, (outside p).2]
    · intro past
      rw [early] at past
      cases past
    · intro q is_finalizer
      subst is_finalizer
      cases effect
      exact absurd rfl (kind _)

theorem tied_world {c : Runs} {e : World} {d : State} (tied : Tied c)
    (moved : world c.shared e = some d) : Tied ⟨d, c.threads⟩ := by
  obtain ⟨objects, targets⟩ := world_objects moved
  constructor
  · intro paused some_between a at_object
    exact tied.patched paused some_between a (objects a at_object)
  · exact tied.oneWay
  · intro past none_between a at_object t at_target
    obtain ⟨u, found, same⟩ := targets t at_target
    rw [same]
    exact tied.agree past none_between a (objects a at_object) u found
  · exact tied.kinds

theorem tied_reach [Apimachinery] {sys : System} {start c : Runs} (keda : usesKeda sys.spec = true)
    (parses : afterKeda sys.spec = .scale .lock) (tied : Tied start)
    (reach : Reach (clusterStep sys) (Orderly sys) start c) : Tied c := by
  apply reach_invariant Tied tied ?_ reach
  intro c e d tied meets move
  cases e with
  | thread i a =>
    obtain ⟨l, s, m, here, ran, rfl⟩ := step_thread move
    exact tied_step keda parses tied meets here (exec_effect ran)
  | world e =>
    obtain ⟨s, moved, rfl⟩ := step_world move
    exact tied_world tied moved

theorem none_between {c : Runs} (idle : ∀ l ∈ c.threads, ∀ paused, between paused l = false)
    (paused : Bool) : c.threads.countP (between paused) = 0 := by
  rw [List.countP_eq_zero]
  intro l member
  simp [idle l member paused]

theorem initial_outside {sys : System} {l : Run} (initial : Initial sys l) :
    pastPatch l = false ∧ ∀ paused, between paused l = false := by
  cases l <;> cases initial <;> exact ⟨rfl, fun _ => rfl⟩

theorem finished_outside {l : Run} (done : finished l = true) (paused : Bool) :
    between paused l = false := by
  unfold finished at done
  split at done <;> first | rfl | (cases paused <;> rfl) | contradiction

/-- Once the runs have finished, the ScaledObject is paused at zero exactly if the target's
    requested count is zero. -/
theorem paused_iff_scaled_to_zero [Apimachinery] (sys : System) (start c : Runs)
    (keda : usesKeda sys.spec = true) (parses : afterKeda sys.spec = .scale .lock)
    (initial : ∀ l ∈ start.threads, Initial sys l)
    (kinds : ∀ pc, .finalizer pc ∉ start.threads)
    (reach : Reach (clusterStep sys) (Orderly sys) start c)
    (done : ∀ l ∈ c.threads, finished l = true)
    (ran : ∃ l ∈ c.threads, pastPatch l = true) : Agree c.shared.scaling := by
  have nobody := none_between fun l member => (initial_outside (initial l member)).2
  have tied : Tied start := by
    constructor
    · intro paused some_between
      rw [nobody] at some_between
      omega
    · intro paused some_between
      exact nobody _
    · rintro ⟨l, member, past⟩
      rw [(initial_outside (initial l member)).1] at past
      cases past
    · exact kinds
  exact (tied_reach keda parses tied reach).agree ran
    (none_between fun l member => finished_outside (done l member))

def threeRuns : Runs := ⟨oneReplica, [.tick .list, .notify .lookup, .notify .lookup]⟩

def notified (i n : Nat) : List Move := List.replicate n (.thread i (.scaling .ok))

def downThenUp : List Move :=
  .thread 0 (.scaling .ok) :: notified 1 3 ++ tickAfterList 0 ++ .world (.observe 0) ::
    notified 1 1 ++ notified 2 4 ++ notified 1 4 ++ .world (.observe 1) :: notified 2 3

theorem three_runs_agree :
    ∃ c, Reach (clusterStep scaledByKeda) (Orderly scaledByKeda) threeRuns c ∧
      (∀ l ∈ c.threads, finished l = true) ∧ c.shared.scaling.target = some ⟨1, 1⟩ ∧
      Agree c.shared.scaling := by
  have ends : ∃ c, Reach (clusterStep scaledByKeda) (Orderly scaledByKeda) threeRuns c ∧
      (∀ l ∈ c.threads, finished l = true) ∧ (∃ l ∈ c.threads, pastPatch l = true) ∧
      c.shared.scaling.target = some ⟨1, 1⟩ :=
    ⟨_, reach_of_guardedRun downThenUp rfl, by decide +kernel⟩
  obtain ⟨c, reach, done, ran, target⟩ := ends
  exact ⟨c, reach, done, target, paused_iff_scaled_to_zero scaledByKeda threeRuns c rfl rfl
    (by decide) (by simp [threeRuns]) reach done ran⟩

/-- A scale-up unpauses, a tick that listed before it pauses and scales to zero, and then the
    scale-up scales: the target is requested to run while KEDA holds it at zero. -/
theorem patches_crossed :
    ∃ c, Reach (clusterStep scaledByKeda) Unguarded ⟨oneReplica, [.tick .list, .notify .lookup]⟩ c ∧
      (∀ l ∈ c.threads, finished l = true) ∧ c.shared.scaling.target = some ⟨1, 0⟩ ∧
      c.shared.scaling.scaledObject = some ⟨some "true", some "0"⟩ ∧ ¬ Agree c.shared.scaling := by
  exact reaches_of_run (.thread 0 (.scaling .ok) :: notified 1 4 ++ tickAfterList 0 ++
    .world (.observe 0) :: notified 1 4) (by decide +kernel)

end KedaPause
