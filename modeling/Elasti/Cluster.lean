import Elasti.RoutingRuns
import Elasti.ScalingRuns

/- One ElastiService and everything that acts on it: the poll loop, the notifications of
   the resolver, the mode switches, the handling of resolver changes, Reconcile and the
   finalizer, interleaved call by call. The world around them moves the clock, the observed
   replicas and the objects that others own. -/
namespace Cluster
open GuardedRuns ThreadPool V1Alpha1 ScaleTarget ScalingRuns ResolverSlice SwitchModes RoutingRuns

structure State where
  scaling : Scaling
  routes : Routes
  deriving DecidableEq, Repr

/-- What stays fixed in a run: the spec, the resolver's configuration and the object's UID. -/
structure System where
  spec : ElastiServiceSpec
  config : ResolverConfig
  uid : String

inductive NotifyPc where
  | lookup
  | scaleUp (pc : ScaleUpPc)
  | notFound
  deriving DecidableEq, Repr

/-- scaleTargetForService. -/
def notifyStep [Apimachinery] (spec : ElastiServiceSpec) (c : State) :
    NotifyPc → Answer → Option (State × NotifyPc)
  | .lookup, .ok => some (c, if c.routes.directory.isSome then .scaleUp .stamp else .notFound)
  | .scaleUp pc, a =>
    (scaleUpStep spec c.scaling pc a).map fun r => ({ c with scaling := r.1 }, .scaleUp r.2)
  | _, _ => none

inductive KedaStatus where
  | pending
  | finished (err : Option ApiErr)
  deriving DecidableEq, Repr

structure FinalizeErrs where
  slice : Option DeleteErr
  privateService : Option DeleteErr
  keda : Option ApiErr
  scale : Option ScaleErr
  deriving DecidableEq, Repr

def FinalizeErrs.isNil (errs : FinalizeErrs) : Bool :=
  errs.slice.isNone && errs.privateService.isNone && errs.keda.isNone && errs.scale.isNone

theorem isNil_iff (errs : FinalizeErrs) :
    errs.isNil = true ↔ errs.slice = none ∧ errs.privateService = none ∧ errs.keda = none ∧
      errs.scale = none := by
  simp [FinalizeErrs.isNil, and_assoc]

inductive FinalizerPc where
  | cleanup (slice privateService : DeleteStatus) (keda : KedaStatus)
  | scale (errs : FinalizeErrs) (pc : ScalePc)
  | removeCRD (errs : FinalizeErrs)
  | removeFinalizer
  | failed
  | removed
  deriving DecidableEq, Repr

/-- The cleanups run in goroutines of their own, so an answer says whose call it is for. -/
inductive FinalizerAnswer where
  | slice (a : RouteAnswer)
  | privateService (a : RouteAnswer)
  | keda (a : Answer)
  | next (a : Answer)
  deriving DecidableEq, Repr

def finalizeCRD (spec : ElastiServiceSpec) : FinalizerPc :=
  .cleanup (.running .get) (.running .get) (if usesKeda spec then .pending else .finished none)

def ignoreNotFound (err : ApiErr) : Option ApiErr :=
  if err.kind = .notFound then none else some err

def afterCleanup [Apimachinery] (spec : ElastiServiceSpec) (errs : FinalizeErrs) : FinalizerPc :=
  -- ScaleToMinReplicas starts once every cleanup has returned
  let ref := getScaleTargetRef spec
  match apiVersionStrToGVK ref.apiVersion ref.kind with
  | .ok _ => .scale errs .lock
  | .error text => .removeCRD { errs with scale := some (.apiVersion text) }

def afterRestore (errs : FinalizeErrs) : ScaleStatus → FinalizerPc
  | .running pc => .scale errs pc
  | .returned (.failed err) =>
    .removeCRD { errs with scale := if err.isNotFound then none else some err }
  | .returned _ => .removeCRD errs

def setPrivate (s : Routes) (p : Option PrivateService) : Routes :=
  { s with routing := { s.routing with privateService := p } }

/-- finalizeCRDIfDeleted. A pass that fails is requeued. -/
def finalizerStep [Apimachinery] (spec : ElastiServiceSpec) (c : State) :
    FinalizerPc → FinalizerAnswer → Option (State × FinalizerPc)
  | .cleanup (.running pc) priv keda, .slice a =>
    (deleteStep c.routes.routing.slice pc a).map fun r =>
      ({ c with routes := setSlice c.routes r.1 }, .cleanup r.2 priv keda)
  | .cleanup slice (.running pc) keda, .privateService a =>
    (deleteStep c.routes.routing.privateService pc a).map fun r =>
      ({ c with routes := setPrivate c.routes r.1 }, .cleanup slice r.2 keda)
  | .cleanup slice priv .pending, .keda .ok =>
    c.scaling.scaledObject.map fun a =>
      ({ c with scaling :=
          { c.scaling with scaledObject := some (updateKedaScaledObjectPausedState false a) } },
        .cleanup slice priv (.finished none))
  | .cleanup slice priv .pending, .keda (.fail err) =>
    if truthful c.scaling.scaledObject err then
      some (c, .cleanup slice priv (.finished (ignoreNotFound err)))
    else none
  | .cleanup (.returned slice) (.returned priv) (.finished keda), .next .ok =>
    some (c, afterCleanup spec ⟨slice, priv, keda, none⟩)
  | .scale errs pc, .next a =>
    (scaleStep (minReplicas spec) c.scaling pc a).map fun r =>
      ({ c with scaling := r.1 }, afterRestore errs r.2)
  | .removeCRD errs, .next .ok =>
    some ({ c with routes := { c.routes with directory := none } },
      if errs.isNil then .removeFinalizer else .failed)
  | .removeFinalizer, .next .ok =>
    some ({ c with scaling := { c.scaling with present := false } }, .removed)
  | .removeFinalizer, .next (.fail _) => some (c, .failed)
  | .failed, .next .ok => some (c, finalizeCRD spec)
  | _, _ => none

inductive Run where
  | tick (pc : TickPc)
  | notify (pc : NotifyPc)
  | switchMode (mode : Mode) (pc : SwitchPc)
  | resolver (pc : ResolverPc)
  | reconcile (pc : ReconcilePc)
  | finalizer (pc : FinalizerPc)
  deriving DecidableEq, Repr

inductive Label where
  | scaling (a : Answer)
  | routing (a : RouteAnswer)
  | finalizer (a : FinalizerAnswer)
  deriving DecidableEq, Repr

def exec [Apimachinery] (sys : System) (c : State) : Run → Label → Option (State × Run)
  | .tick pc, .scaling a =>
    (tickStep sys.spec c.scaling pc a).map fun r => ({ c with scaling := r.1 }, .tick r.2)
  | .notify pc, .scaling a => (notifyStep sys.spec c pc a).map fun r => (r.1, .notify r.2)
  | .switchMode mode pc, .routing a =>
    (switchStep sys.config sys.uid c.scaling.present mode c.routes pc a).map fun r =>
      ({ c with routes := r.1 }, .switchMode mode r.2)
  | .resolver pc, .routing a =>
    (resolverStep sys.config c.routes pc a).map fun r => ({ c with routes := r.1 }, .resolver r.2)
  | .reconcile pc, .routing a =>
    (reconcileStep c.routes pc a).map fun r => ({ c with routes := r.1 }, .reconcile r.2)
  | .finalizer pc, .finalizer a =>
    (finalizerStep sys.spec c pc a).map fun r => (r.1, .finalizer r.2)
  | _, _ => none

inductive World where
  | advance (time : Nat)
  | observe (replicas : Int)
  | deleteTarget
  | deleteScaledObject
  deriving DecidableEq, Repr

def world (c : State) : World → Option State
  | .advance time => some { c with scaling := { c.scaling with now := c.scaling.now + time } }
  | .observe replicas =>
    some { c with scaling := { c.scaling with
      target := c.scaling.target.map fun t => { t with statusReplicas := replicas } } }
  | .deleteTarget => some { c with scaling := { c.scaling with target := none } }
  | .deleteScaledObject => some { c with scaling := { c.scaling with scaledObject := none } }

abbrev Runs := Pool State Run

abbrev Move := Event Label World

def clusterStep [Apimachinery] (sys : System) : Runs → Move → Option Runs := step (exec sys) world

def Initial (sys : System) : Run → Prop
  | .tick pc => pc = .list
  | .notify pc => pc = .lookup
  | .switchMode _ pc => pc = .lock
  | .resolver pc => pc = .range
  | .reconcile pc => pc = .getCRD
  | .finalizer pc => pc = finalizeCRD sys.spec

instance (sys : System) (l : Run) : Decidable (Initial sys l) := by
  unfold Initial
  split <;> infer_instance

def finished : Run → Bool
  | .tick .skipped | .tick (.toZero _ (.returned _)) | .tick (.fromZero (.resize (.returned _))) => true
  | .notify .notFound | .notify (.scaleUp (.resize (.returned _))) => true
  | .switchMode _ (.returned _) => true
  | .resolver .finished | .reconcile .returned | .finalizer .removed => true
  | _ => false

def finalizing (p : FinalizerPc → Bool) : Run → Bool
  | .finalizer pc => p pc
  | _ => false

inductive FinalizerEffect [Apimachinery] (spec : ElastiServiceSpec) (c : State) :
    FinalizerPc → FinalizerAnswer → State → FinalizerPc → Prop where
  | slice (pc : DeletePc) (priv : DeleteStatus) (keda : KedaStatus) (a : RouteAnswer)
      (object : Option EndpointSlice) (status : DeleteStatus)
      (effect : DeleteEffect c.routes.routing.slice pc a object status) :
      FinalizerEffect spec c (.cleanup (.running pc) priv keda) (.slice a)
        { c with routes := setSlice c.routes object } (.cleanup status priv keda)
  | privateService (slice : DeleteStatus) (pc : DeletePc) (keda : KedaStatus) (a : RouteAnswer)
      (object : Option PrivateService) (status : DeleteStatus)
      (effect : DeleteEffect c.routes.routing.privateService pc a object status) :
      FinalizerEffect spec c (.cleanup slice (.running pc) keda) (.privateService a)
        { c with routes := setPrivate c.routes object } (.cleanup slice status keda)
  | unpause (slice priv : DeleteStatus) (a : Annotations) :
      FinalizerEffect spec c (.cleanup slice priv .pending) (.keda .ok)
        { c with scaling :=
          { c.scaling with scaledObject := some (updateKedaScaledObjectPausedState false a) } }
        (.cleanup slice priv (.finished none))
  | unpatched (slice priv : DeleteStatus) (err : ApiErr)
      (truth : err.kind = .notFound → c.scaling.scaledObject = none) :
      FinalizerEffect spec c (.cleanup slice priv .pending) (.keda (.fail err)) c
        (.cleanup slice priv (.finished (ignoreNotFound err)))
  | restore (slice priv : Option DeleteErr) (keda : Option ApiErr) :
      FinalizerEffect spec c (.cleanup (.returned slice) (.returned priv) (.finished keda))
        (.next .ok) c (afterCleanup spec ⟨slice, priv, keda, none⟩)
  | scale (errs : FinalizeErrs) (pc : ScalePc) (a : Answer) (t : Scaling) (status : ScaleStatus)
      (effect : ScaleEffect (minReplicas spec) c.scaling pc a t status) :
      FinalizerEffect spec c (.scale errs pc) (.next a) { c with scaling := t }
        (afterRestore errs status)
  | removeCRD (errs : FinalizeErrs) :
      FinalizerEffect spec c (.removeCRD errs) (.next .ok)
        { c with routes := { c.routes with directory := none } }
        (if errs.isNil then .removeFinalizer else .failed)
  | removeFinalizer :
      FinalizerEffect spec c .removeFinalizer (.next .ok)
        { c with scaling := { c.scaling with present := false } } .removed
  | unremoved (err : ApiErr) :
      FinalizerEffect spec c .removeFinalizer (.next (.fail err)) c .failed
  | requeue : FinalizerEffect spec c .failed (.next .ok) c (finalizeCRD spec)

theorem finalizerStep_effect [Apimachinery] {spec : ElastiServiceSpec} {c d : State}
    {pc next : FinalizerPc}
    {a : FinalizerAnswer} (ran : finalizerStep spec c pc a = some (d, next)) :
    FinalizerEffect spec c pc a d next := by
  unfold finalizerStep at ran
  split at ran
  · obtain ⟨⟨object, status⟩, inner, same⟩ := Option.map_eq_some_iff.mp ran
    cases same
    exact .slice _ _ _ _ object status (deleteStep_effect inner)
  · obtain ⟨⟨object, status⟩, inner, same⟩ := Option.map_eq_some_iff.mp ran
    cases same
    exact .privateService _ _ _ _ object status (deleteStep_effect inner)
  · obtain ⟨a, -, same⟩ := Option.map_eq_some_iff.mp ran
    cases same
    exact .unpause _ _ a
  · split at ran
    · rename_i truth
      cases ran
      exact .unpatched _ _ _ ((truthful_iff _ _).mp truth)
    · simp at ran
  · cases ran
    exact .restore _ _ _
  · obtain ⟨⟨t, status⟩, inner, same⟩ := Option.map_eq_some_iff.mp ran
    cases same
    exact .scale _ _ _ t status (scaleStep_effect inner)
  · cases ran
    exact .removeCRD _
  · cases ran
    exact .removeFinalizer
  · cases ran
    exact .unremoved _
  · cases ran
    exact .requeue
  · simp at ran

inductive Effect [Apimachinery] (sys : System) (c : State) : Run → Label → State → Run → Prop where
  | tick (pc : TickPc) (a : Answer) (t : Scaling) (next : TickPc)
      (effect : TickEffect sys.spec c.scaling pc a t next) :
      Effect sys c (.tick pc) (.scaling a) { c with scaling := t } (.tick next)
  | lookup (next : NotifyPc) (idle : next = .scaleUp .stamp ∨ next = .notFound) :
      Effect sys c (.notify .lookup) (.scaling .ok) c (.notify next)
  | scaleUp (pc : ScaleUpPc) (a : Answer) (t : Scaling) (next : ScaleUpPc)
      (effect : ScaleUpEffect sys.spec c.scaling pc a t next) :
      Effect sys c (.notify (.scaleUp pc)) (.scaling a) { c with scaling := t }
        (.notify (.scaleUp next))
  | switchMode (mode : Mode) (pc : SwitchPc) (a : RouteAnswer) (r : Routes) (next : SwitchPc)
      (effect : SwitchEffect sys.config sys.uid mode c.routes pc a r next) :
      Effect sys c (.switchMode mode pc) (.routing a) { c with routes := r }
        (.switchMode mode next)
  | resolver (pc : ResolverPc) (a : RouteAnswer) (r : Routes) (next : ResolverPc)
      (effect : ResolverEffect sys.config c.routes pc a r next) :
      Effect sys c (.resolver pc) (.routing a) { c with routes := r } (.resolver next)
  | reconcile (pc : ReconcilePc) (a : RouteAnswer) (directory : Option (Option Mode))
      (next : ReconcilePc) :
      Effect sys c (.reconcile pc) (.routing a)
        { c with routes := { c.routes with directory := directory } } (.reconcile next)
  | finalizer (pc : FinalizerPc) (a : FinalizerAnswer) (d : State) (next : FinalizerPc)
      (effect : FinalizerEffect sys.spec c pc a d next) :
      Effect sys c (.finalizer pc) (.finalizer a) d (.finalizer next)

theorem notifyStep_effect [Apimachinery] {sys : System} {c d : State} {pc next : NotifyPc}
    {a : Answer} (ran : notifyStep sys.spec c pc a = some (d, next)) :
    Effect sys c (.notify pc) (.scaling a) d (.notify next) := by
  cases pc with
  | lookup =>
    cases a <;> simp only [notifyStep, reduceCtorEq] at ran
    cases ran
    apply Effect.lookup
    split
    · exact .inl rfl
    · exact .inr rfl
  | scaleUp pc =>
    obtain ⟨⟨t, after⟩, inner, same⟩ := Option.map_eq_some_iff.mp ran
    cases same
    exact .scaleUp pc a t after (scaleUpStep_effect inner)
  | notFound => cases a <;> simp [notifyStep] at ran

theorem exec_effect [Apimachinery] {sys : System} {c d : State} {l m : Run} {a : Label}
    (ran : exec sys c l a = some (d, m)) : Effect sys c l a d m := by
  unfold exec at ran
  split at ran
  · obtain ⟨⟨t, next⟩, inner, same⟩ := Option.map_eq_some_iff.mp ran
    cases same
    exact .tick _ _ t next (tickStep_effect inner)
  · obtain ⟨⟨e, next⟩, inner, same⟩ := Option.map_eq_some_iff.mp ran
    cases same
    exact notifyStep_effect inner
  · obtain ⟨⟨r, next⟩, inner, same⟩ := Option.map_eq_some_iff.mp ran
    cases same
    exact .switchMode _ _ _ r next (switchStep_effect inner)
  · obtain ⟨⟨r, next⟩, inner, same⟩ := Option.map_eq_some_iff.mp ran
    cases same
    exact .resolver _ _ r next (resolverStep_effect inner)
  · obtain ⟨⟨r, next⟩, inner, same⟩ := Option.map_eq_some_iff.mp ran
    cases same
    obtain ⟨directory, rfl⟩ := reconcileStep_directory inner
    exact .reconcile _ _ directory next
  · obtain ⟨⟨e, next⟩, inner, same⟩ := Option.map_eq_some_iff.mp ran
    cases same
    exact .finalizer _ _ e next (finalizerStep_effect inner)
  · simp at ran

theorem world_objects {c d : State} {e : World} (moved : world c e = some d) :
    (∀ a ∈ d.scaling.scaledObject, a ∈ c.scaling.scaledObject) ∧
      ∀ t ∈ d.scaling.target, ∃ u ∈ c.scaling.target, t.specReplicas = u.specReplicas := by
  cases e with
  | observe replicas =>
    cases moved
    constructor
    · intro a member
      exact member
    · intro t member
      obtain ⟨u, found, same⟩ := Option.map_eq_some_iff.mp member
      exact ⟨u, found, same ▸ rfl⟩
  | advance time =>
    cases moved
    exact ⟨fun _ member => member, fun t member => ⟨t, member, rfl⟩⟩
  | deleteTarget =>
    cases moved
    constructor
    · intro a member
      exact member
    · intro t member
      cases member
  | deleteScaledObject =>
    cases moved
    constructor
    · intro a member
      cases member
    · intro t member
      exact ⟨t, member, rfl⟩

theorem initial_finalizing {sys : System} {p : FinalizerPc → Bool} {l : Run}
    (first : p (finalizeCRD sys.spec) = false) (initial : Initial sys l) :
    finalizing p l = false := by
  cases l with
  | finalizer pc =>
    have begun : pc = finalizeCRD sys.spec := initial
    subst begun
    exact first
  | _ => rfl

/-- What a finalizer brings about at some point of its pass holds from then on, when its own
    step to that point establishes it and every step taken while a finalizer is past the
    point keeps it. -/
theorem finalizer_establishes [Apimachinery] {sys : System} {ok : Runs → Move → Prop}
    {p : FinalizerPc → Bool} {P : State → Prop}
    (own : ∀ (c : Runs) i a pc d next, ok c (.thread i (.finalizer a)) →
      c.threads[i]? = some (.finalizer pc) → FinalizerEffect sys.spec c.shared pc a d next →
      p next = true → p pc = true ∨ P d)
    (keep : ∀ (c : Runs) i a l d m, ok c (.thread i a) → c.threads[i]? = some l →
      Effect sys c.shared l a d m → ∀ n ∈ c.threads, finalizing p n = true → P c.shared → P d)
    (outside : ∀ c e d, world c e = some d → P c → P d)
    (first : p (finalizeCRD sys.spec) = false)
    {start c : Runs} (initial : ∀ l ∈ start.threads, Initial sys l)
    (reach : Reach (clusterStep sys) ok start c) :
    ∀ l ∈ c.threads, finalizing p l = true → P c.shared := by
  have inv : True ∧ ∀ l ∈ c.threads, finalizing p l = true → P c.shared := by
    apply reach_modular (G := fun _ => True) (T := fun c l => finalizing p l = true → P c)
      ?_ ?_ ?_ trivial ?_ reach
    · intro c i a l d m _ held meets here ran
      have effect := exec_effect ran
      have member := List.mem_of_getElem? here
      constructor
      · trivial
      · intro after
        cases effect with
        | finalizer pc a d next inner =>
          rcases own c i a pc d next meets here inner after with before | now
          · exact keep c i _ _ d _ meets here (.finalizer pc a d next inner) _ member before
              (held _ member before)
          · exact now
        | _ => cases after
    · intro c i a l d m j n _ held meets here ran away at_j after
      have member := List.mem_of_getElem? at_j
      exact keep c i a l d m meets here (exec_effect ran) n member after (held n member after)
    · intro c e d _ held meets moved
      exact ⟨trivial, fun n member after => outside c.shared e d moved (held n member after)⟩
    · intro l member after
      rw [initial_finalizing first (initial l member)] at after
      contradiction
  exact inv.2

def scaledByKeda : System :=
  ⟨⟨⟨"apps/v1", "Deployment", "cart"⟩, "cart", 1, 60, some ⟨"keda", "cart-scaler"⟩⟩,
    oneNamespace, "uid"⟩

def oneReplica : State :=
  ⟨⟨second * 100, true, none, [], some ⟨none, none⟩, some ⟨1, 1⟩, false⟩,
    ⟨⟨some .serve, none, none⟩, some (some .serve), false, some .serve⟩⟩

def tickAfterList (i : Nat) : List Move :=
  .thread i (.scaling (.direction .scaleDown)) :: List.replicate 6 (.thread i (.scaling .ok))

end Cluster
