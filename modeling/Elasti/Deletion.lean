import Elasti.Cluster

/- What the finalizer restores before the ElastiService goes, against ticks that listed it
   earlier and share no lock with the finalizer: the ScaledObject unpaused, and the target
   at its minimum. A notification or a scale-up of a tick only helps. -/
namespace CRDDeletion
open GuardedRuns ThreadPool V1Alpha1 ScaleTarget ScalingRuns SwitchModes RoutingRuns Cluster

def NotPaused (a : Annotations) : Prop := a.paused ≠ some "true" ∧ a.pausedReplicas = none

instance (a : Annotations) : Decidable (NotPaused a) := by
  unfold NotPaused
  infer_instance

def kedaDone : KedaStatus → Bool
  | .finished none => true
  | _ => false

def unpaused : FinalizerPc → Bool
  | .cleanup _ _ keda => kedaDone keda
  | .scale errs _ | .removeCRD errs => errs.keda.isNone
  | .removeFinalizer | .removed => true
  | _ => false

def restored : FinalizerPc → Bool
  | .scale _ (.unlock (.failed err)) => err.isNotFound
  | .scale _ (.unlock _) => true
  | .removeCRD errs => errs.scale.isNone
  | .removeFinalizer | .removed => true
  | _ => false

def pausing : Run → Bool
  | .tick (.toZero _ .keda) => true
  | _ => false

def zeroing : Run → Bool
  | .tick (.toZero _ (.scale .update)) => true
  | _ => false

def readingTarget : FinalizerPc → Bool
  | .scale _ (.get _) => true
  | _ => false

/-- No tick pauses after a finalizer has unpaused, no tick updates to zero after a finalizer
    has scaled, and where the finalizer's Scale finds nothing to do the requested count is
    at the minimum already. -/
def Undisturbed (sys : System) (c : Runs) : Move → Prop
  | .thread i (.scaling .ok) =>
    ∀ l ∈ c.threads[i]?,
      (pausing l = true → ∀ n ∈ c.threads, finalizing unpaused n = false) ∧
      (zeroing l = true → ∀ n ∈ c.threads, finalizing restored n = false)
  | .thread i (.finalizer (.next .ok)) =>
    ∀ l ∈ c.threads[i]?, finalizing readingTarget l = true → ∀ t ∈ c.shared.scaling.target,
      noScaleRequired t (minReplicas sys.spec) = true → minReplicas sys.spec ≤ t.specReplicas
  | _ => True

instance (sys : System) (c : Runs) (e : Move) : Decidable (Undisturbed sys c e) :=
  match e with
  | .thread i (.scaling .ok) => by
    dsimp only [Undisturbed]
    infer_instance
  | .thread i (.finalizer (.next .ok)) => by
    dsimp only [Undisturbed]
    infer_instance
  | .thread _ (.scaling (.fail _)) | .thread _ (.scaling (.direction _)) => .isTrue trivial
  | .thread _ (.finalizer (.next (.fail _))) | .thread _ (.finalizer (.next (.direction _)))
  | .thread _ (.finalizer (.slice _)) | .thread _ (.finalizer (.privateService _))
  | .thread _ (.finalizer (.keda _)) | .thread _ (.routing _) | .world _ => .isTrue trivial

def Unpaused (s : Scaling) : Prop := ∀ a ∈ s.scaledObject, NotPaused a

def AtMinimum (sys : System) (s : Scaling) : Prop :=
  ∀ t ∈ s.target, minReplicas sys.spec ≤ t.specReplicas

theorem notPaused_patch (a : Annotations) :
    NotPaused (updateKedaScaledObjectPausedState false a) := by
  simp [updateKedaScaledObjectPausedState, NotPaused]

theorem scaleEffect_object {desired : Int} {s t : Scaling} {pc : ScalePc} {a : Answer}
    {status : ScaleStatus} (effect : ScaleEffect desired s pc a t status) :
    t.scaledObject = s.scaledObject := by
  cases effect <;> rfl

theorem scaleEffect_target {desired : Int} {s t : Scaling} {pc : ScalePc} {a : Answer}
    {status : ScaleStatus} (effect : ScaleEffect desired s pc a t status) :
    t.target = s.target ∨
      pc = .update ∧ a = .ok ∧ ∃ u, t.target = some u ∧ u.specReplicas = desired := by
  cases effect with
  | write current found => exact .inr ⟨rfl, rfl, _, rfl, rfl⟩
  | _ => exact .inl rfl

theorem scaleUpEffect_unpaused [Apimachinery] {spec : ElastiServiceSpec} {s t : Scaling}
    {pc next : ScaleUpPc}
    {a : Answer} (effect : ScaleUpEffect spec s pc a t next) (before : Unpaused s) : Unpaused t := by
  cases effect with
  | resize pc a t next effect =>
    cases effect with
    | patch b found =>
      intro a member
      cases member
      exact notPaused_patch b
    | unpatched err => exact before
    | scale pc a t status effect =>
      unfold Unpaused
      rw [scaleEffect_object effect]
      exact before
  | _ => exact before

theorem effect_unpaused [Apimachinery] {sys : System} {c d : State} {l m : Run} {a : Label}
    (effect : Effect sys c l a d m) (other : pausing l = true → a ≠ .scaling .ok)
    (before : Unpaused c.scaling) : Unpaused d.scaling := by
  cases effect with
  | tick pc a t next effect =>
    cases effect with
    | toZero listed pc a t next effect =>
      cases effect with
      | patch b found => exact absurd rfl (other rfl)
      | unpatched err => exact before
      | scale pc a t status effect =>
        unfold Unpaused
        rw [scaleEffect_object effect]
        exact before
    | fromZero pc a t next effect => exact scaleUpEffect_unpaused effect before
    | _ => exact before
  | scaleUp pc a t next effect => exact scaleUpEffect_unpaused effect before
  | finalizer pc a d next effect =>
    cases effect with
    | unpause slice priv b =>
      intro a member
      cases member
      exact notPaused_patch b
    | scale errs pc a t status effect =>
      unfold Unpaused
      rw [scaleEffect_object effect]
      exact before
    | _ => exact before
  | _ => exact before

theorem scaleEffect_atMinimum {sys : System} {desired : Int} {s t : Scaling} {pc : ScalePc}
    {a : Answer} {status : ScaleStatus} (effect : ScaleEffect desired s pc a t status)
    (enough : pc = .update → a = .ok → minReplicas sys.spec ≤ desired)
    (before : AtMinimum sys s) : AtMinimum sys t := by
  intro u member
  rcases scaleEffect_target effect with same | ⟨last, answer, v, target, count⟩
  · rw [same] at member
    exact before u member
  · rw [target] at member
    cases member
    rw [count]
    exact enough last answer

section Restored
variable [Apimachinery]

theorem scaleUpEffect_atMinimum {sys : System} {s t : Scaling} {pc next : ScaleUpPc} {a : Answer}
    (effect : ScaleUpEffect sys.spec s pc a t next) (before : AtMinimum sys s) :
    AtMinimum sys t := by
  cases effect with
  | resize pc a t next effect =>
    cases effect with
    | scale pc a t status effect =>
      exact scaleEffect_atMinimum effect (fun _ _ => le_refl _) before
    | _ => exact before
  | _ => exact before

theorem effect_atMinimum {sys : System} {c d : State} {l m : Run} {a : Label}
    (effect : Effect sys c l a d m) (other : zeroing l = true → a ≠ .scaling .ok)
    (before : AtMinimum sys c.scaling) : AtMinimum sys d.scaling := by
  cases effect with
  | tick pc a t next effect =>
    cases effect with
    | toZero listed pc a t next effect =>
      cases effect with
      | scale pc a t status effect =>
        apply scaleEffect_atMinimum effect ?_ before
        intro last answer
        subst last answer
        exact absurd rfl (other rfl)
      | _ => exact before
    | fromZero pc a t next effect => exact scaleUpEffect_atMinimum effect before
    | _ => exact before
  | scaleUp pc a t next effect => exact scaleUpEffect_atMinimum effect before
  | finalizer pc a d next effect =>
    cases effect with
    | scale errs pc a t status effect =>
      exact scaleEffect_atMinimum effect (fun _ _ => le_refl _) before
    | _ => exact before
  | _ => exact before

theorem unpaused_step {spec : ElastiServiceSpec} {c d : State} {pc next : FinalizerPc}
    {a : FinalizerAnswer} (keda : usesKeda spec = true)
    (effect : FinalizerEffect spec c pc a d next) (after : unpaused next = true) :
    unpaused pc = true ∨ Unpaused d.scaling := by
  cases effect with
  | slice pc priv keda a object status effect => exact .inl after
  | privateService slice pc keda a object status effect => exact .inl after
  | unpause slice priv b =>
    right
    intro a member
    cases member
    exact notPaused_patch b
  | unpatched slice priv err truth =>
    right
    intro a member
    by_cases gone : err.kind = .notFound
    · rw [truth gone] at member
      cases member
    · simp [unpaused, kedaDone, ignoreNotFound, gone] at after
  | restore slice priv keda =>
    left
    cases keda with
    | none => rfl
    | some err =>
      unfold afterCleanup at after
      dsimp only at after
      split at after <;> cases after
  | scale errs pc a t status effect =>
    left
    cases status with
    | running pc => exact after
    | returned ret => cases ret <;> exact after
  | removeCRD errs =>
    left
    by_cases nil : errs.isNil = true
    · obtain ⟨-, -, none, -⟩ := (isNil_iff errs).mp nil
      simp [unpaused, none]
    · simp [nil, unpaused] at after
  | removeFinalizer => exact .inl rfl
  | unremoved err => cases after
  | requeue => simp [finalizeCRD, keda, unpaused, kedaDone] at after

theorem restored_step {sys : System} {c d : State} {pc next : FinalizerPc}
    {a : FinalizerAnswer} (effect : FinalizerEffect sys.spec c pc a d next)
    (truth : a = .next .ok → readingTarget pc = true → ∀ t ∈ c.scaling.target,
      noScaleRequired t (minReplicas sys.spec) = true → minReplicas sys.spec ≤ t.specReplicas)
    (after : restored next = true) : restored pc = true ∨ AtMinimum sys d.scaling := by
  cases effect with
  | restore slice priv keda =>
    unfold afterCleanup at after
    dsimp only at after
    split at after <;> cases after
  | scale errs pc a t status effect =>
    cases effect with
    | quiet i current found enough =>
      right
      intro t member
      exact truth rfl rfl t member (by cases found.symm.trans member; exact enough)
    | write current found =>
      right
      intro t member
      cases member
      exact le_refl _
    | unread i err gone =>
      right
      intro t member
      rw [gone (by simpa [restored, afterRestore, ScaleErr.isNotFound] using after)] at member
      cases member
    | refused err gone =>
      right
      intro t member
      rw [gone (by simpa [restored, afterRestore, ScaleErr.isNotFound] using after)] at member
      cases member
    | unlock ret =>
      left
      cases ret with
      | failed err =>
        by_cases gone : err.isNotFound = true
        · exact gone
        · simp [restored, afterRestore, gone] at after
      | scaled => rfl
      | notRequired => rfl
    | lock free => cases after
    | differs i => cases after
    | again i err => cases after
  | removeCRD errs =>
    left
    by_cases nil : errs.isNil = true
    · obtain ⟨-, -, -, none⟩ := (isNil_iff errs).mp nil
      simp [restored, none]
    · simp [nil, restored] at after
  | removeFinalizer => exact .inl rfl
  | unremoved err => cases after
  | requeue => cases after
  | _ => cases after

theorem unpaused_reach {sys : System} {start c : Runs} (keda : usesKeda sys.spec = true)
    (initial : ∀ l ∈ start.threads, Initial sys l)
    (reach : Reach (clusterStep sys) (Undisturbed sys) start c) :
    ∀ l ∈ c.threads, finalizing unpaused l = true → Unpaused c.shared.scaling := by
  apply finalizer_establishes (P := fun c => Unpaused c.scaling) ?_ ?_ ?_ ?_ initial reach
  · intro c i a pc d next meets here effect after
    exact unpaused_step keda effect after
  · intro c i a l d m meets here effect n member past before
    apply effect_unpaused effect ?_ before
    intro pauses answer
    subst answer
    have none_past := (meets l here).1 pauses n member
    rw [none_past] at past
    contradiction
  · intro c e d moved before a member
    exact before a ((world_objects moved).1 a member)
  · simp [finalizeCRD, keda, unpaused, kedaDone]

theorem restored_reach {sys : System} {start c : Runs}
    (initial : ∀ l ∈ start.threads, Initial sys l)
    (reach : Reach (clusterStep sys) (Undisturbed sys) start c) :
    ∀ l ∈ c.threads, finalizing restored l = true → AtMinimum sys c.shared.scaling := by
  apply finalizer_establishes (P := fun c => AtMinimum sys c.scaling) ?_ ?_ ?_ ?_ initial reach
  · intro c i a pc d next meets here effect after
    apply restored_step effect ?_ after
    intro answer reads
    subst answer
    exact meets _ here reads
  · intro c i a l d m meets here effect n member past before
    apply effect_atMinimum effect ?_ before
    intro zeroes answer
    subst answer
    have none_past := (meets l here).2 zeroes n member
    rw [none_past] at past
    contradiction
  · intro c e d moved before t member
    obtain ⟨u, found, same⟩ := (world_objects moved).2 t member
    rw [same]
    exact before u found
  · rfl

/-- Once a finalizer has removed itself, the ScaledObject of an ElastiService with KEDA is
    not paused and the target's requested count is at least its minimum. -/
theorem deletion_restores (sys : System) (start c : Runs)
    (initial : ∀ l ∈ start.threads, Initial sys l)
    (reach : Reach (clusterStep sys) (Undisturbed sys) start c)
    (gone : .finalizer .removed ∈ c.threads) :
    (usesKeda sys.spec = true → ∀ a ∈ c.shared.scaling.scaledObject, NotPaused a) ∧
      ∀ t ∈ c.shared.scaling.target, max 1 sys.spec.minTargetReplicas ≤ t.specReplicas := by
  constructor
  · intro keda
    exact unpaused_reach keda initial reach _ gone rfl
  · rw [← minReplicas_eq_max]
    exact restored_reach initial reach _ gone rfl

end Restored

def cleanups (i : Nat) : List Move :=
  [.thread i (.finalizer (.slice (.seen false))), .thread i (.finalizer (.privateService (.seen false))),
    .thread i (.finalizer (.keda .ok))]

def ticks (n : Nat) : List Move := List.replicate n (.thread 0 (.scaling .ok))

def tickDuringCleanup : List Move :=
  ticks 1 ++ .thread 0 (.scaling (.direction .scaleDown)) ::
    .thread 1 (.finalizer (.slice (.seen false))) :: ticks 2 ++
    .thread 1 (.finalizer (.privateService (.seen false))) :: ticks 2 ++
    .thread 1 (.finalizer (.keda .ok)) :: ticks 2 ++ .world (.observe 0) ::
    List.replicate 7 (.thread 1 (.finalizer (.next .ok)))

theorem finalizer_after_tick :
    ∃ c, Reach (clusterStep scaledByKeda) (Undisturbed scaledByKeda)
        ⟨oneReplica, [.tick .list, .finalizer (finalizeCRD scaledByKeda.spec)]⟩ c ∧
      .finalizer .removed ∈ c.threads ∧ c.shared.scaling.target = some ⟨1, 0⟩ ∧
      (usesKeda scaledByKeda.spec = true → ∀ a ∈ c.shared.scaling.scaledObject, NotPaused a) ∧
      ∀ t ∈ c.shared.scaling.target,
        max 1 scaledByKeda.spec.minTargetReplicas ≤ t.specReplicas := by
  have ends : ∃ c, Reach (clusterStep scaledByKeda) (Undisturbed scaledByKeda)
      ⟨oneReplica, [.tick .list, .finalizer (finalizeCRD scaledByKeda.spec)]⟩ c ∧
      .finalizer .removed ∈ c.threads ∧ c.shared.scaling.target = some ⟨1, 0⟩ :=
    reaches_of_guardedRun tickDuringCleanup (by decide +kernel)
  obtain ⟨c, reach, gone, target⟩ := ends
  exact ⟨c, reach, gone, target, deletion_restores scaledByKeda _ c (by decide) reach gone⟩

/-- A tick that listed the ElastiService before the finalizer ran pauses and scales to zero
    after it. -/
theorem tick_outlives_finalizer :
    ∃ c, Reach (clusterStep scaledByKeda) Unguarded
        ⟨oneReplica, [.tick .list, .finalizer (finalizeCRD scaledByKeda.spec)]⟩ c ∧
      (∀ l ∈ c.threads, finished l = true) ∧ c.shared.scaling.present = false ∧
      c.shared.scaling.scaledObject = some ⟨some "true", some "0"⟩ ∧
      c.shared.scaling.target = some ⟨0, 1⟩ := by
  exact reaches_of_run (.thread 0 (.scaling .ok) :: cleanups 1 ++
      List.replicate 6 (.thread 1 (.finalizer (.next .ok))) ++ tickAfterList 0) (by decide +kernel)

end CRDDeletion
