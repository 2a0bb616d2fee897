import Elasti.Cluster

/- The finalizer and switchMode hold different locks, and the slice to the resolver has no
   owner. What the finalizer deletes stays deleted when nothing creates the slice behind its
   back. A private service that is created late belongs to the ElastiService, and is
   collected with it. -/
namespace SliceCleanup
open GuardedRuns ThreadPool ResolverSlice SwitchModes RoutingRuns Cluster
open V1Alpha1 (Apimachinery)

def deleted : DeleteStatus → Bool
  | .returned none => true
  | _ => false

def sliceGone : FinalizerPc → Bool
  | .cleanup slice _ _ => deleted slice
  | .scale errs _ | .removeCRD errs => errs.slice.isNone
  | .removeFinalizer | .removed => true
  | _ => false

def creating : Run → Bool
  | .switchMode _ (.slice _ (.write false _)) | .resolver (.slice _ (.write false _)) => true
  | _ => false

/-- The finalizer's read of the slice shows what is stored, and no create lands after a
    finalizer is done with the slice in its pass. -/
def NoLateCreate (c : Runs) : Move → Prop
  | .thread i (.routing .ok) =>
    ∀ l ∈ c.threads[i]?, creating l = true → ∀ n ∈ c.threads, finalizing sliceGone n = false
  | .thread _ (.finalizer (.slice (.seen found))) =>
    found = c.shared.routes.routing.slice.isSome
  | _ => True

instance (c : Runs) (e : Move) : Decidable (NoLateCreate c e) := by
  unfold NoLateCreate
  split <;> infer_instance

def NoSlice (c : State) : Prop := c.routes.routing.slice = none

def Owned (sys : System) (c : State) : Prop :=
  ∀ p ∈ c.routes.routing.privateService, p.owner = some sys.uid

theorem deleteEffect_none {α : Type} {object after : Option α} {pc : DeletePc} {a : RouteAnswer}
    {status : DeleteStatus} (effect : DeleteEffect object pc a after status)
    (before : object = none) : after = none := by
  cases effect <;> first | exact before | rfl

theorem deleteEffect_member {α : Type} {object after : Option α} {pc : DeletePc} {a : RouteAnswer}
    {status : DeleteStatus} (effect : DeleteEffect object pc a after status) {x : α}
    (member : x ∈ after) : x ∈ object := by
  cases effect <;> first | exact member | cases member

theorem sliceEffect_none {config : ResolverConfig} {service : Service}
    {stored after : Option EndpointSlice} {pc : SlicePc} {a : RouteAnswer} {status : SliceStatus}
    (effect : SliceEffect config service stored pc a after status)
    (other : ∀ slice, pc = .write false slice → a ≠ .ok) (before : stored = none) :
    after = none := by
  cases effect with
  | written found slice same =>
    subst before
    simp only [Option.isSome_none] at same
    subst same
    exact absurd rfl (other slice rfl)
  | _ => exact before

theorem effect_noSlice [Apimachinery] {sys : System} {c d : State} {l m : Run} {a : Label}
    (effect : Effect sys c l a d m) (other : creating l = true → a ≠ .routing .ok)
    (before : NoSlice c) : NoSlice d := by
  cases effect with
  | switchMode mode pc a r next effect =>
    cases effect with
    | delete pc a object status effect => exact deleteEffect_none effect before
    | slice service pc a object status effect =>
      apply sliceEffect_none effect ?_ before
      intro slice last answer
      subst last answer
      exact other rfl rfl
    | _ => exact before
  | resolver pc a r next effect =>
    cases effect with
    | slice service pc a object status effect =>
      apply sliceEffect_none effect ?_ before
      intro slice last answer
      subst last answer
      exact other rfl rfl
    | _ => exact before
  | finalizer pc a d next effect =>
    cases effect with
    | slice pc priv keda a object status effect => exact deleteEffect_none effect before
    | _ => exact before
  | _ => exact before

theorem effect_owned [Apimachinery] {sys : System} {c d : State} {l m : Run} {a : Label}
    (effect : Effect sys c l a d m) (before : Owned sys c) : Owned sys d := by
  cases effect with
  | switchMode mode pc a r next effect =>
    cases effect with
    | privateCreated service =>
      intro p member
      cases member
      rfl
    | _ => exact before
  | resolver pc a r next effect => cases effect <;> exact before
  | finalizer pc a d next effect =>
    cases effect with
    | privateService slice pc keda a object status effect =>
      intro p member
      exact before p (deleteEffect_member effect member)
    | _ => exact before
  | _ => exact before

theorem sliceGone_step [Apimachinery] {sys : System} {c d : State} {pc next : FinalizerPc}
    {a : FinalizerAnswer} (effect : FinalizerEffect sys.spec c pc a d next)
    (truth : ∀ found, a = .slice (.seen found) → found = c.routes.routing.slice.isSome)
    (after : sliceGone next = true) : sliceGone pc = true ∨ NoSlice d := by
  cases effect with
  | slice pc priv keda a object status effect =>
    cases effect with
    | absent =>
      have stored : c.routes.routing.slice = none := by simpa using (truth false rfl).symm
      exact .inr stored
    | deleted => exact .inr rfl
    | found => cases after
    | unread text => cases after
    | refused text => cases after
  | privateService slice pc keda a object status effect => exact .inl after
  | unpause slice priv b => exact .inl after
  | unpatched slice priv err truth => exact .inl after
  | restore slice priv keda =>
    left
    cases slice with
    | none => rfl
    | some err =>
      unfold afterCleanup at after
      dsimp only at after
      split at after <;> cases after
  | scale errs pc a t status effect =>
    left
    cases status with
    | running pc => exact after
    | returned ret => cases ret <;> exact after
  | removeCRD errs =>
    left
    by_cases nil : errs.isNil = true
    · obtain ⟨none, -, -, -⟩ := (isNil_iff errs).mp nil
      simp [sliceGone, none]
    · simp [nil, sliceGone] at after
  | removeFinalizer => exact .inl rfl
  | unremoved err => cases after
  | requeue => cases after

/-- Once a finalizer has removed itself, the slice to the resolver is gone and a private
    service that is left is owned by the ElastiService, so that it is collected. -/
theorem deletion_leaves_no_slice [Apimachinery] (sys : System) (start c : Runs)
    (initial : ∀ l ∈ start.threads, Initial sys l)
    (owned : ∀ p ∈ start.shared.routes.routing.privateService, p.owner = some sys.uid)
    (reach : Reach (clusterStep sys) NoLateCreate start c)
    (gone : .finalizer .removed ∈ c.threads) :
    c.shared.routes.routing.slice = none ∧
      ∀ p ∈ c.shared.routes.routing.privateService, p.owner = some sys.uid := by
  constructor
  · have cleared : ∀ l ∈ c.threads, finalizing sliceGone l = true → NoSlice c.shared := by
      apply finalizer_establishes (P := NoSlice) ?_ ?_ ?_ ?_ initial reach
      · intro c i a pc d next meets here effect after
        apply sliceGone_step effect ?_ after
        intro found answer
        subst answer
        exact meets
      · intro c i a l d m meets here effect n member past before
        apply effect_noSlice effect ?_ before
        intro creates answer
        subst answer
        have none_past := meets l here creates n member
        rw [none_past] at past
        contradiction
      · intro c e d moved before
        cases e <;> cases moved <;> exact before
      · rfl
    exact cleared _ gone rfl
  · apply reach_invariant (fun c : Runs => Owned sys c.shared) owned ?_ reach
    intro c e d before meets move
    cases e with
    | thread i a =>
      obtain ⟨l, s, m, here, ran, rfl⟩ := step_thread move
      exact effect_owned (exec_effect ran) before
    | world e =>
      obtain ⟨s, moved, rfl⟩ := step_world move
      cases e <;> cases moved <;> exact before

def cart : Service := ⟨"shop", "cart", ["http"]⟩

def cartSlice : EndpointSlice := ⟨"shop", "cart", "IPv4", [("http", 8012)], [["10.0.0.7"]]⟩

def restOfPass (i : Nat) : List Move :=
  [.thread i (.finalizer (.privateService (.seen true))),
    .thread i (.finalizer (.privateService .ok)), .thread i (.finalizer (.keda .ok)),
    .thread i (.finalizer (.next .ok)), .thread i (.finalizer (.next .ok)),
    .thread i (.finalizer (.next .ok)), .thread i (.finalizer (.next .ok)),
    .thread i (.finalizer (.next .ok)), .thread i (.finalizer (.next .ok))]

def switchUntilCreate : List Move :=
  [.thread 0 (.routing .ok), .thread 0 (.routing .ok), .thread 0 (.routing (.service cart)),
    .thread 0 (.routing (.seen false)), .thread 0 (.routing .ok),
    .thread 0 (.routing (.slices [resolverPod])), .thread 0 (.routing (.seen false))]

def switchDuringCleanup : List Move :=
  .thread 1 (.finalizer (.privateService (.seen false))) :: switchUntilCreate ++
    [.thread 0 (.routing .ok), .thread 1 (.finalizer (.keda .ok)),
      .thread 1 (.finalizer (.slice (.seen true))), .thread 0 (.routing .ok),
      .thread 1 (.finalizer (.slice .ok)), .thread 0 (.routing .ok), .thread 0 (.routing .ok),
      .thread 0 (.routing .ok)] ++ List.replicate 6 (.thread 1 (.finalizer (.next .ok)))

theorem finalizer_after_switch :
    ∃ c, Reach (clusterStep scaledByKeda) NoLateCreate
        ⟨oneReplica, [.switchMode .proxy .lock, .finalizer (finalizeCRD scaledByKeda.spec)]⟩ c ∧
      .finalizer .removed ∈ c.threads ∧ c.shared.routes.lastSwitch = some .proxy ∧
      c.shared.routes.routing.slice = none ∧
      ∀ p ∈ c.shared.routes.routing.privateService, p.owner = some scaledByKeda.uid := by
  have ends : ∃ c, Reach (clusterStep scaledByKeda) NoLateCreate
      ⟨oneReplica, [.switchMode .proxy .lock, .finalizer (finalizeCRD scaledByKeda.spec)]⟩ c ∧
      .finalizer .removed ∈ c.threads ∧ c.shared.routes.lastSwitch = some .proxy :=
    reaches_of_guardedRun switchDuringCleanup (by decide +kernel)
  obtain ⟨c, reach, gone, switched⟩ := ends
  exact ⟨c, reach, gone, switched,
    deletion_leaves_no_slice scaledByKeda _ c (by decide) (by decide) reach gone⟩

def createAndReturn : List Move :=
  [.thread 0 (.routing .ok), .thread 0 (.routing .ok), .thread 0 (.routing (.fail "not found")),
    .thread 0 (.routing .ok)]

/-- switchMode reads that there is no slice, the finalizer runs from its first call to its
    last, and switchMode creates the slice. -/
theorem slice_created_after_deletion :
    ∃ c, Reach (clusterStep scaledByKeda) Unguarded
        ⟨oneReplica, [.switchMode .proxy .lock, .finalizer (finalizeCRD scaledByKeda.spec)]⟩ c ∧
      (∀ l ∈ c.threads, finished l = true) ∧ c.shared.scaling.present = false ∧
      c.shared.routes.routing.slice = some cartSlice := by
  exact reaches_of_run (switchUntilCreate ++
    .thread 1 (.finalizer (.slice (.seen false))) :: restOfPass 1 ++ createAndReturn)
    (by decide +kernel)

end SliceCleanup
