import Elasti.ScaleDecision

/- One pass of checkAndScale over one ElastiService, taken as a whole at one instant: the
   decision, the cooldown, and the two objects the pass changes one after the other. A call
   that fails leaves its object as it was. -/
namespace ScaleToZero
open V1Alpha1 ScaleTarget ScalingRuns ScaleDecision

structure Listed where
  ns : String
  spec : ElastiServiceSpec
  policy : Policy
  lastScaledUpTime : Option Int

structure Objects where
  lastScaledUpTime : Option Int
  scaledObject : Option Annotations
  target : Option Scale
  deriving DecidableEq, Repr

structure Failures where
  status : Option ApiErr
  patch : Option ApiErr
  scale : Answers

def patched (f : Failures) (paused : Bool) (o : Objects) : Except ApiErr Objects :=
  match f.patch, o.scaledObject with
  | some err, _ => .error err
  | none, none => .error missing
  | none, some a =>
    .ok { o with scaledObject := some (updateKedaScaledObjectPausedState paused a) }

def scaleTarget [Apimachinery] (f : Failures) (es : Listed) (desired : Int) (o : Objects) :
    Objects × Option ScaleErr :=
  -- the API version is only parsed here, after the patch
  let ref := getScaleTargetRef es.spec
  match apiVersionStrToGVK ref.apiVersion ref.kind with
  | .error text => (o, some (.apiVersion text))
  | .ok gvk =>
    let returned := scale f.scale ⟨es.ns, gvk, ref.name⟩ o.target desired
    ({ o with target := returned.object }, returned.err)

def resizeTarget [Apimachinery] (f : Failures) (es : Listed) (paused : Bool) (desired : Int)
    (o : Objects) : Objects × Option ResizeErr :=
  match if usesKeda es.spec then patched f paused o else .ok o with
  | .error err => (o, some (.keda err))
  | .ok o =>
    let (o, err) := scaleTarget f es desired o
    (o, err.map .scale)

inductive ToZero where
  | skipped
  | ended (err : Option ResizeErr)
  deriving DecidableEq, Repr

def handleScaleToZero [Apimachinery] (f : Failures) (now : Int) (es : Listed) (o : Objects) :
    Objects × ToZero :=
  if cooldownMet es.spec es.lastScaledUpTime now then
    let (o, err) := resizeTarget f es true 0 o
    (o, .ended err)
  else (o, .skipped)

def handleScaleFromZero [Apimachinery] (f : Failures) (now : Int) (es : Listed) (o : Objects) :
    Objects × Option ResizeErr :=
  -- a status patch that fails is only logged
  let o := if f.status.isNone then { o with lastScaledUpTime := some now } else o
  resizeTarget f es false (minReplicas es.spec) o

def toZeroErrText (es : Listed) (t : Target) : ResizeErr → String
  | .keda err => "failed to update Keda ScaledObject for service " ++ es.spec.service ++
      ": failed to patch ScaledObject: " ++ err.text
  | .scale (.apiVersion text) => (ScaleErr.apiVersion text).text t
  | .scale err => "failed to scale target to zero: " ++ err.text t

def fromZeroErrText (es : Listed) (t : Target) : ResizeErr → String
  | .keda err => "failed to update Keda ScaledObject for service " ++ es.spec.service ++
      " in namespace " ++ es.ns ++ ": failed to patch ScaledObject: " ++ err.text
  | .scale err => "failed to scale target from zero: " ++ err.text t

inductive Pass where
  | undecided (text : String)
  | noScale
  | fromZero (err : Option ResizeErr)
  | toZero (outcome : ToZero)
  deriving DecidableEq, Repr

def checkAndScale [Apimachinery] (lib : Library) (f : Failures) (now : Int) (es : Listed)
    (o : Objects) : Objects × Pass :=
  match calculateScaleDirection lib (resolveCooldownPeriod es.spec) now es.policy with
  | .error text => (o, .undecided text)
  | .ok .noScale => (o, .noScale)
  | .ok .scaleUp =>
    let (o, err) := handleScaleFromZero f now es o
    (o, .fromZero err)
  | .ok .scaleDown =>
    let (o, outcome) := handleScaleToZero f now es o
    (o, .toZero outcome)

def GetsScaleToZero [Apimachinery] (lib : Library) (f : Failures) (now : Int) (es : Listed)
    (o : Objects) : Prop :=
  ∃ err, (checkAndScale lib f now es o).2 = .toZero (.ended err)

def Elapsed (seconds now : Int) (es : Listed) : Prop :=
  es.policy.creationTimestamp + second * seconds ≤ now ∧
    ∀ last ∈ es.lastScaledUpTime, last + second * seconds ≤ now

theorem cooldownMet_iff (spec : ElastiServiceSpec) (listed : Option Int) (now : Int) :
    cooldownMet spec listed now = true ↔
      ∀ last ∈ listed, last + resolveCooldownPeriod spec ≤ now := by
  cases listed with
  | none => simp [cooldownMet]
  | some last =>
    simp only [cooldownMet, decide_eq_true_eq, Option.mem_some_iff, forall_eq']
    omega

theorem handleScaleToZero_ended_iff [Apimachinery] (f : Failures) (now : Int) (es : Listed)
    (o : Objects) : (∃ err, (handleScaleToZero f now es o).2 = .ended err) ↔
      cooldownMet es.spec es.lastScaledUpTime now = true := by
  unfold handleScaleToZero
  split
  · rename_i met
    exact ⟨fun _ => met, fun _ => ⟨_, rfl⟩⟩
  · rename_i unmet
    simp [unmet]

theorem getsScaleToZero_iff [Apimachinery] (lib : Library) (f : Failures) (now : Int) (es : Listed)
    (o : Objects) :
    GetsScaleToZero lib f now es o ↔
      MayScaleDown lib (resolveCooldownPeriod es.spec) now es.policy ∧
        cooldownMet es.spec es.lastScaledUpTime now = true := by
  rw [← calculate_scaleDown, ← handleScaleToZero_ended_iff f now es o]
  unfold GetsScaleToZero checkAndScale
  split
  · rename_i text decided
    simp [decided]
  · rename_i decided
    simp [decided]
  · rename_i decided
    simp [decided]
  · rename_i decided
    simp [decided]

theorem resolveCooldownPeriod_seconds (spec : ElastiServiceSpec) :
    resolveCooldownPeriod spec =
      second * (if spec.cooldownPeriod = 0 then 900 else spec.cooldownPeriod) := by
  unfold resolveCooldownPeriod defaultCooldownPeriod second
  split <;> split <;> omega

theorem Elapsed.shorter {less more now : Int} {es : Listed} (le : less ≤ more)
    (elapsed : Elapsed more now es) : Elapsed less now es := by
  have scaled : second * less ≤ second * more := by
    unfold second
    omega
  obtain ⟨creation, last⟩ := elapsed
  refine ⟨by omega, fun time member => ?_⟩
  have := last time member
  omega

theorem idle_getsScaleToZero_iff [Apimachinery] (lib : Library) (f : Failures) (now : Int)
    (es : Listed) (o : Objects) (no_period : es.policy.enabledPeriod = none)
    (idle : ∀ t ∈ es.policy.triggers, HealthyAndIdle t) :
    GetsScaleToZero lib f now es o ↔ es.policy.triggers ≠ [] ∧
      Elapsed (if es.spec.cooldownPeriod = 0 then 900 else es.spec.cooldownPeriod) now es := by
  rw [getsScaleToZero_iff, cooldownMet_iff, resolveCooldownPeriod_seconds]
  constructor
  · rintro ⟨may, met⟩
    exact ⟨may.some_trigger, may.old, met⟩
  · rintro ⟨some_trigger, old, met⟩
    refine ⟨⟨some_trigger, old, ?_, idle⟩, met⟩
    simp [no_period]

/-- An idle ElastiService past its configured cooldown is brought to zero exactly if it has a
    trigger and, with a configured cooldown of zero, the default cooldown is over as well.
    Before that the pass leaves it alone. -/
theorem scale_to_zero_as_configured_iff [Apimachinery] (lib : Library) (f : Failures) (now : Int)
    (es : Listed) (o : Objects) (no_period : es.policy.enabledPeriod = none)
    (idle : ∀ t ∈ es.policy.triggers, HealthyAndIdle t) :
    (GetsScaleToZero lib f now es o ↔ Elapsed es.spec.cooldownPeriod now es) ↔
      (Elapsed es.spec.cooldownPeriod now es →
        es.policy.triggers ≠ [] ∧ (es.spec.cooldownPeriod = 0 → Elapsed 900 now es)) := by
  rw [idle_getsScaleToZero_iff lib f now es o no_period idle]
  by_cases disabled : es.spec.cooldownPeriod = 0
  · have default : Elapsed 900 now es → Elapsed 0 now es := Elapsed.shorter (by decide)
    simp only [disabled, if_true, forall_const]
    exact ⟨Iff.mpr, fun reached => ⟨fun gets => default gets.2, reached⟩⟩
  · simp only [disabled, if_false, false_imp_iff, and_true]
    exact ⟨fun same elapsed => (same.mpr elapsed).1,
      fun some_trigger => ⟨And.right, fun elapsed => ⟨some_trigger elapsed, elapsed⟩⟩⟩

def idleScaler : Scaler := ⟨.ok true, .ok true⟩

def library : Library := ⟨fun _ => .ok 1, fun _ => "", fun _ _ => .ok true⟩

def noFailure : Failures := ⟨none, none, allSucceed⟩

def cart (cooldownPeriod : Int) (autoscaler : Option AutoscalerSpec) : Listed :=
  ⟨"shop", ⟨⟨"apps/v1", "Deployment", "cart"⟩, "cart", 1, cooldownPeriod, autoscaler⟩,
    ⟨0, [⟨"prometheus", .ok idleScaler⟩], none⟩, none⟩

def running : Objects := ⟨none, some ⟨none, none⟩, some ⟨2, 2⟩⟩

theorem cart_idle (cooldownPeriod : Int) (autoscaler : Option AutoscalerSpec) :
    ∀ t ∈ (cart cooldownPeriod autoscaler).policy.triggers, HealthyAndIdle t := by
  intro t member
  rw [List.mem_singleton.mp member]
  exact ⟨idleScaler, rfl, rfl, rfl⟩

theorem cart_scaled_after_a_minute :
    GetsScaleToZero library noFailure (second * 60) (cart 60 none) running ↔
      Elapsed 60 (second * 60) (cart 60 none) := by
  refine (scale_to_zero_as_configured_iff library noFailure (second * 60) (cart 60 none) running
    rfl (cart_idle 60 none)).mpr fun _ => ⟨by simp [cart], ?_⟩
  intro disabled
  exact absurd disabled (by decide)

/-- A cooldown of 0 is documented to disable the cooldown. A minute after its creation the
    service still waits. -/
theorem disabled_cooldown_waits :
    Elapsed 0 (second * 60) (cart 0 none) ∧
      checkAndScale library noFailure (second * 60) (cart 0 none) running = (running, .noScale) := by
  refine ⟨⟨by decide, by simp [cart]⟩, rfl⟩

def Unchanged (before after : Objects) : Prop :=
  after.scaledObject = before.scaledObject ∧
    after.target.map Scale.specReplicas = before.target.map Scale.specReplicas

theorem scale_failed {answers : Answers} {t : Target} {object : Option Scale} {desired : Int}
    {err : ScaleErr} (failed : (scale answers t object desired).err = some err) :
    (scale answers t object desired).object = object := by
  unfold scale at failed ⊢
  cases got : getLoop answers object 1 0 with
  | error err => rfl
  | ok current =>
    simp only [got] at failed ⊢
    by_cases enough : noScaleRequired current desired = true
    · simp [enough] at failed
    · cases update : answers.update with
      | some err => simp [enough]
      | none => simp [enough, update] at failed

theorem scale_nil_iff (answers : Answers) (t : Target) (object : Option Scale) (desired : Int) :
    (scale answers t object desired).err = none ↔
      ∃ current, getLoop answers object 1 0 = .ok current ∧
        (noScaleRequired current desired = true ∨ answers.update = none) := by
  unfold scale
  cases got : getLoop answers object 1 0 with
  | error err => simp
  | ok current =>
    by_cases enough : noScaleRequired current desired = true
    · simp [enough]
    · cases update : answers.update <;> simp [enough]

theorem getLoop_ok_iff (answers : Answers) (object : Option Scale) (current : Scale) :
    getLoop answers object 1 0 = .ok current ↔
      object = some current ∧ (answers.get 0 = none ∨
        ∃ err ∈ answers.get 0, err.kind = .noMatch ∧ answers.get 1 = none) := by
  constructor
  · intro got
    obtain rfl := getLoop_ok got
    refine ⟨rfl, ?_⟩
    cases first : answers.get 0 with
    | none => exact .inl rfl
    | some err =>
      by_cases unknown : err.kind = .noMatch
      · cases second : answers.get 1 with
        | none => exact .inr ⟨err, rfl, unknown, rfl⟩
        | some again => simp [getLoop, getScale, first, second, unknown] at got
      · simp [getLoop, getScale, first, unknown] at got
  · rintro ⟨rfl, first | ⟨err, first, unknown, second⟩⟩
    · simp [getLoop, getScale, first]
    · simp [getLoop, getScale, Option.mem_def.mp first, second, unknown]

/-- Scale reads the target, at the second attempt if the first meets an unknown kind, and the
    update is accepted unless no replica is observed. -/
structure ScaleGoesThrough [Apimachinery] (f : Failures) (es : Listed) (o : Objects) : Prop where
  version : ∃ gvk, apiVersionStrToGVK (getScaleTargetRef es.spec).apiVersion
    (getScaleTargetRef es.spec).kind = .ok gvk
  read : f.scale.get 0 = none ∨
    ∃ err ∈ f.scale.get 0, err.kind = .noMatch ∧ f.scale.get 1 = none
  update : ∃ current ∈ o.target, current.statusReplicas = 0 ∨ f.scale.update = none

section Target
variable [Apimachinery] {f : Failures} {es : Listed} {desired : Int} {o : Objects}

theorem scaleTarget_unparsed {text : String}
    (version : apiVersionStrToGVK (getScaleTargetRef es.spec).apiVersion
      (getScaleTargetRef es.spec).kind = .error text) :
    scaleTarget f es desired o = (o, some (.apiVersion text)) := by
  simp only [scaleTarget, version]

theorem scaleTarget_parsed (f : Failures) (desired : Int) (o : Objects) {gvk : GroupVersionKind}
    (version : apiVersionStrToGVK (getScaleTargetRef es.spec).apiVersion
      (getScaleTargetRef es.spec).kind = .ok gvk) :
    ∃ t, scaleTarget f es desired o =
      ({ o with target := (scale f.scale t o.target desired).object },
        (scale f.scale t o.target desired).err) := by
  simp only [scaleTarget, version]
  exact ⟨_, rfl⟩

theorem scaleTarget_nil_iff : (scaleTarget f es 0 o).2 = none ↔ ScaleGoesThrough f es o := by
  cases version : apiVersionStrToGVK (getScaleTargetRef es.spec).apiVersion
      (getScaleTargetRef es.spec).kind with
  | error text =>
    rw [scaleTarget_unparsed version]
    refine ⟨fun nil => by simp at nil, fun through => ?_⟩
    obtain ⟨gvk, parsed⟩ := through.version
    simp [version] at parsed
  | ok gvk =>
    obtain ⟨t, parsed⟩ := scaleTarget_parsed f 0 o version
    simp only [parsed, scale_nil_iff, getLoop_ok_iff]
    constructor
    · rintro ⟨current, ⟨found, read⟩, update⟩
      exact ⟨⟨gvk, version⟩, read, current, found, by simpa [noScaleRequired] using update⟩
    · rintro ⟨_, read, current, found, update⟩
      exact ⟨current, ⟨found, read⟩, by simpa [noScaleRequired] using update⟩

theorem scaleTarget_failed (failed : (scaleTarget f es desired o).2 ≠ none) :
    (scaleTarget f es desired o).1 = o := by
  cases version : apiVersionStrToGVK (getScaleTargetRef es.spec).apiVersion
      (getScaleTargetRef es.spec).kind with
  | error text => rw [scaleTarget_unparsed version]
  | ok gvk =>
    obtain ⟨t, parsed⟩ := scaleTarget_parsed f desired o version
    rw [parsed] at failed ⊢
    obtain ⟨err, some_err⟩ := Option.ne_none_iff_exists'.mp failed
    simp only [scale_failed some_err]

theorem scaleTarget_nil (nil : (scaleTarget f es 0 o).2 = none) :
    ∃ current, o.target = some current ∧ (scaleTarget f es 0 o).1.target =
      some (if current.statusReplicas = 0 then current else { current with specReplicas := 0 }) := by
  obtain ⟨⟨gvk, version⟩, _, current, found, _⟩ := scaleTarget_nil_iff.mp nil
  obtain ⟨t, parsed⟩ := scaleTarget_parsed f 0 o version
  rw [parsed, Option.mem_def.mp found] at nil
  refine ⟨current, found, ?_⟩
  rw [parsed, Option.mem_def.mp found, scale_nil nil]
  simp [noScaleRequired]

end Target

theorem patched_keeps {f : Failures} {paused : Bool} {o after : Objects}
    (ok : patched f paused o = .ok after) :
    f.patch = none ∧ ∃ a, o.scaledObject = some a ∧
      after = { o with scaledObject := some (updateKedaScaledObjectPausedState paused a) } := by
  unfold patched at ok
  cases fails : f.patch with
  | some err => simp [fails] at ok
  | none =>
    cases object : o.scaledObject with
    | none => simp [fails, object] at ok
    | some a =>
      simp only [fails, object, Except.ok.injEq] at ok
      exact ⟨rfl, a, rfl, ok.symm⟩

theorem resizeTarget_nil [Apimachinery] {f : Failures} {es : Listed} {paused : Bool} {o : Objects}
    (nil : (resizeTarget f es paused 0 o).2 = none) :
    ∃ current, o.target = some current ∧ (resizeTarget f es paused 0 o).1.target =
      some (if current.statusReplicas = 0 then current else { current with specReplicas := 0 }) := by
  unfold resizeTarget at nil ⊢
  cases first : (if usesKeda es.spec then patched f paused o else .ok o) with
  | error err => simp [first] at nil
  | ok after =>
    simp only [first, Option.map_eq_none_iff] at nil ⊢
    have same : after.target = o.target := by
      split at first
      · obtain ⟨_, a, _, rfl⟩ := patched_keeps first
        rfl
      · cases first
        rfl
    rw [← same]
    exact scaleTarget_nil nil

theorem checkAndScale_requests_zero [Apimachinery] {lib : Library} {f : Failures} {now : Int}
    {es : Listed}
    {o after : Objects} (ended : checkAndScale lib f now es o = (after, .toZero (.ended none))) :
    ∃ current, o.target = some current ∧ after.target =
      some (if current.statusReplicas = 0 then current else { current with specReplicas := 0 }) := by
  unfold checkAndScale at ended
  split at ended
  · simp at ended
  · simp at ended
  · simp at ended
  · have resized : resizeTarget f es true 0 o = (after, none) := by
      unfold handleScaleToZero at ended
      by_cases met : cooldownMet es.spec es.lastScaledUpTime now = true
      · simpa [met, Prod.ext_iff] using ended
      · simp [met] at ended
    have requested := resizeTarget_nil (congrArg Prod.snd resized)
    rwa [resized] at requested

def Pauses (f : Failures) (o : Objects) : Prop :=
  f.patch = none ∧ ∃ a ∈ o.scaledObject, ¬ PausedAtZero a

theorem pause_same_iff (a : Annotations) :
    updateKedaScaledObjectPausedState true a = a ↔ PausedAtZero a := by
  cases a
  simp [updateKedaScaledObjectPausedState, PausedAtZero, eq_comm]

theorem resizeTarget_unchanged_iff [Apimachinery] (f : Failures) (es : Listed) (o : Objects) :
    ((resizeTarget f es true 0 o).2 ≠ none → Unchanged o (resizeTarget f es true 0 o).1) ↔
      (usesKeda es.spec = true → Pauses f o → ScaleGoesThrough f es o) := by
  have quiet : ∀ p : Objects, (scaleTarget f es 0 p).2.map ResizeErr.scale ≠ none →
      (scaleTarget f es 0 p).1 = p := by
    intro p failed
    exact scaleTarget_failed (by simpa using failed)
  unfold resizeTarget
  cases keda : usesKeda es.spec with
  | false =>
    simp only [Bool.false_eq_true, if_false, false_imp_iff, iff_true]
    intro failed
    rw [quiet o failed]
    exact ⟨rfl, rfl⟩
  | true =>
    simp only [if_true, forall_const]
    cases patch : patched f true o with
    | error err =>
      refine iff_of_true (fun _ => ⟨rfl, rfl⟩) ?_
      rintro ⟨no_fault, a, found, _⟩
      simp [patched, no_fault, Option.mem_def.mp found] at patch
    | ok after =>
      obtain ⟨no_fault, a, found, paused⟩ := patched_keeps patch
      have same : ScaleGoesThrough f es after ↔ ScaleGoesThrough f es o := by
        subst paused
        exact ⟨fun h => ⟨h.version, h.read, h.update⟩, fun h => ⟨h.version, h.read, h.update⟩⟩
      have kept : Unchanged o after ↔ PausedAtZero a := by
        simp [Unchanged, paused, found, pause_same_iff]
      rw [← same, ← scaleTarget_nil_iff]
      simp only [Pauses, no_fault, found, Option.mem_some_iff, exists_eq_left', true_and]
      by_cases nil : (scaleTarget f es 0 after).2 = none
      · simp [nil]
      · have failed : (scaleTarget f es 0 after).2.map ResizeErr.scale ≠ none := by
          simpa using nil
        simp only [quiet after failed, ne_eq, failed, not_false_eq_true, forall_const, nil,
          imp_false, not_not, kept]

/-- A handleScaleToZero that fails leaves both objects as they were, exactly if it is within
    the cooldown, or no ScaledObject is paused by it, or nothing fails after the pause. -/
theorem failed_scale_to_zero_unchanged_iff [Apimachinery] (f : Failures) (now : Int) (es : Listed)
    (o : Objects) :
    (∀ err, (handleScaleToZero f now es o).2 = .ended (some err) →
        Unchanged o (handleScaleToZero f now es o).1) ↔
      ((∀ last ∈ es.lastScaledUpTime, last + resolveCooldownPeriod es.spec ≤ now) →
        usesKeda es.spec = true → Pauses f o → ScaleGoesThrough f es o) := by
  rw [← cooldownMet_iff]
  unfold handleScaleToZero
  split
  · rename_i met
    simp only [met, forall_const, ToZero.ended.injEq]
    rw [← resizeTarget_unchanged_iff, Option.ne_none_iff_exists']
    exact ⟨fun unchanged ⟨err, failed⟩ => unchanged err failed,
      fun unchanged err failed => unchanged ⟨err, failed⟩⟩
  · rename_i unmet
    simp [unmet]

/-- The scale subresource cannot be read. The target keeps its two replicas, and its
    ScaledObject stays paused at zero. -/
theorem failed_scale_leaves_pause :
    handleScaleToZero { noFailure with scale := ⟨fun _ => some ⟨.other, "timeout"⟩, none⟩ }
        (second * 60) (cart 60 (some ⟨"keda", "cart-so"⟩)) running =
      ({ running with scaledObject := some ⟨some "true", some "0"⟩ },
        .ended (some (.scale (.get ⟨.other, "timeout"⟩)))) ∧
    running.target = some ⟨2, 2⟩ ∧ running.scaledObject = some ⟨none, none⟩ := by
  refine ⟨rfl, rfl, rfl⟩

section Steps
open GuardedRuns
variable {s t : Scaling} {f : Failures}

def objects (s : Scaling) : Objects := ⟨s.lastScaledUpTime, s.scaledObject, s.target⟩

/-- No other run is in Scale, and the failures are ones that the API server can answer with. -/
structure Alone (f : Failures) (s : Scaling) : Prop where
  free : s.scaleLock = false
  patch : ∀ err ∈ f.patch, truthful s.scaledObject err = true
  scale : Truthful f.scale s.target

/-- Where the stepped pass ends when the whole one returns so. -/
def ended (listed : Option Int) : Pass → TickPc
  | .undecided _ | .noScale | .toZero .skipped => .skipped
  | .fromZero err => .fromZero (.resize (.returned err))
  | .toZero (.ended err) => .toZero listed (.returned err)

theorem patched_truthful (alone : Alone f s) {paused : Bool} {err : ApiErr}
    (failed : patched f paused (objects s) = .error err) :
    truthful s.scaledObject err = true := by
  unfold patched at failed
  cases fails : f.patch with
  | some found =>
    simp only [fails, Except.error.injEq] at failed
    subst failed
    exact alone.patch found fails
  | none =>
    cases object : s.scaledObject with
    | none => simp [truthful]
    | some a => simp [fails, objects, object] at failed

theorem afterScale_told (r : Returned) :
    afterScale (.returned (told r)) = .returned (r.err.map .scale) := by
  cases failed : r.err with
  | none => cases scaled : r.scaled <;> simp [told, failed, scaled, afterScale]
  | some err => simp [told, failed, afterScale]

variable [Apimachinery]

def ResizeReach (spec : ElastiServiceSpec) (paused : Bool) (desired : Int) :
    Scaling × ResizePc → Scaling × ResizePc → Prop :=
  Reach (fun c a => resizeStep spec paused desired c.1 c.2 a) Unguarded

def TickReach (spec : ElastiServiceSpec) : Scaling × TickPc → Scaling × TickPc → Prop :=
  Reach (fun c a => tickStep spec c.1 c.2 a) Unguarded

theorem scale_reach (spec : ElastiServiceSpec) (paused : Bool) {desired : Int} {answers : Answers}
    {pc : ScalePc} {ret : ScaleRet} (solo : Solo answers desired s pc t ret) :
    ResizeReach spec paused desired (s, .scale pc) (t, afterScale (.returned ret)) := by
  induction solo with
  | @last s t pc ret move =>
    refine Reach.next .refl trivial (a := soloAnswer answers s.target pc) ?_
    simp only [resizeStep, move, Option.map_some]
  | @next s t u pc p ret move rest ih =>
    refine reach_append (Reach.next .refl trivial (a := soloAnswer answers s.target pc) ?_) ih
    simp only [resizeStep, move, Option.map_some, afterScale]

theorem afterKeda_reach (alone : Alone f s) (es : Listed) (paused : Bool) (desired : Int) :
    ∃ t, objects t = (scaleTarget f es desired (objects s)).1 ∧
      ResizeReach es.spec paused desired (s, afterKeda es.spec)
        (t, .returned ((scaleTarget f es desired (objects s)).2.map .scale)) := by
  simp only [afterKeda, scaleTarget]
  cases apiVersionStrToGVK (getScaleTargetRef es.spec).apiVersion
      (getScaleTargetRef es.spec).kind with
  | error text => exact ⟨s, rfl, .refl⟩
  | ok gvk =>
    have solo : Solo f.scale desired s .lock _ _ :=
      solo_scale alone.scale alone.free ⟨es.ns, gvk, (getScaleTargetRef es.spec).name⟩
    have ran := scale_reach es.spec paused solo
    rw [afterScale_told] at ran
    exact ⟨_, rfl, ran⟩

/-- Run by itself, the stepped patch and Scale are the ones of a single caller. -/
theorem resize_reach (alone : Alone f s) (es : Listed) (paused : Bool) (desired : Int) :
    ∃ t, objects t = (resizeTarget f es paused desired (objects s)).1 ∧
      ResizeReach es.spec paused desired (s, resize es.spec)
        (t, .returned (resizeTarget f es paused desired (objects s)).2) := by
  unfold resize resizeTarget
  cases usesKeda es.spec with
  | false => exact afterKeda_reach alone es paused desired
  | true =>
    simp only [if_true]
    cases patch : patched f paused (objects s) with
    | error err =>
      have honest := patched_truthful alone patch
      refine ⟨s, rfl, Reach.next .refl trivial (a := .fail err) ?_⟩
      simp [resizeStep, honest]
    | ok after =>
      obtain ⟨no_fault, a, found, rfl⟩ := patched_keeps patch
      have kept : Alone f { s with
          scaledObject := some (updateKedaScaledObjectPausedState paused a) } :=
        ⟨alone.free, by simp [no_fault], alone.scale⟩
      obtain ⟨t, same, ran⟩ := afterKeda_reach kept es paused desired
      have sent : resizeStep es.spec paused desired s .keda .ok =
          some ({ s with scaledObject := some (updateKedaScaledObjectPausedState paused a) },
            afterKeda es.spec) := by
        have found : s.scaledObject = some a := found
        simp only [resizeStep, found]
      exact ⟨t, same, reach_append (.next .refl trivial sent) ran⟩

theorem toZero_reach (listed : Option Int) {pc next : ResizePc} {spec : ElastiServiceSpec}
    (ran : ResizeReach spec true 0 (s, pc) (t, next)) :
    TickReach spec (s, .toZero listed pc) (t, .toZero listed next) := by
  refine reach_lift (fun c : Scaling × ResizePc => (c.1, TickPc.toZero listed c.2)) ?_ ran
  intro c a d move
  simp only [tickStep, move, Option.map_some]

theorem fromZero_reach {pc next : ResizePc} {spec : ElastiServiceSpec}
    (ran : ResizeReach spec false (minReplicas spec) (s, pc) (t, next)) :
    TickReach spec (s, .fromZero (.resize pc)) (t, .fromZero (.resize next)) := by
  refine reach_lift (fun c : Scaling × ResizePc => (c.1, TickPc.fromZero (.resize c.2))) ?_ ran
  intro c a d move
  simp only [tickStep, scaleUpStep, move, Option.map_some]

theorem handleScaleToZero_reach (alone : Alone f s) (es : Listed) :
    ∃ t, objects t = (handleScaleToZero f s.now es (objects s)).1 ∧
      TickReach es.spec (s, .cooldown es.lastScaledUpTime)
        (t, ended es.lastScaledUpTime (.toZero (handleScaleToZero f s.now es (objects s)).2)) := by
  unfold handleScaleToZero
  split
  · rename_i met
    obtain ⟨t, same, ran⟩ := resize_reach alone es true 0
    refine ⟨t, same, reach_append (.next .refl trivial (a := .ok) ?_) (toZero_reach _ ran)⟩
    simp [tickStep, met]
  · rename_i unmet
    refine ⟨s, rfl, .next .refl trivial (a := .ok) ?_⟩
    simp [tickStep, unmet, ended]

theorem handleScaleFromZero_reach (alone : Alone f s) (present : s.present = true) (es : Listed) :
    ∃ t, objects t = (handleScaleFromZero f s.now es (objects s)).1 ∧
      TickReach es.spec (s, .fromZero .stamp)
        (t, .fromZero (.resize (.returned (handleScaleFromZero f s.now es (objects s)).2))) := by
  have stamped : TickReach es.spec (s, .fromZero .stamp) (s, .fromZero (.record s.now)) :=
    .next .refl trivial (a := .ok) rfl
  unfold handleScaleFromZero
  cases fails : f.status with
  | some err =>
    obtain ⟨t, same, ran⟩ := resize_reach alone es false (minReplicas es.spec)
    refine ⟨t, same, reach_append (.next stamped trivial (a := .fail err) ?_) (fromZero_reach ran)⟩
    simp [tickStep, scaleUpStep]
  | none =>
    have kept : Alone f { s with
        lastScaledUpTime := some s.now, recorded := s.now :: s.recorded } :=
      ⟨alone.free, alone.patch, alone.scale⟩
    obtain ⟨t, same, ran⟩ := resize_reach kept es false (minReplicas es.spec)
    refine ⟨t, same, reach_append (.next stamped trivial (a := .ok) ?_) (fromZero_reach ran)⟩
    simp [tickStep, scaleUpStep, present]

/-- Run by itself, the stepped pass of the poll loop is the pass taken as a whole. -/
theorem checkAndScale_reach (lib : Library) (alone : Alone f s) (present : s.present = true)
    {es : Listed} (listed : es.lastScaledUpTime = s.lastScaledUpTime) :
    ∃ t, objects t = (checkAndScale lib f s.now es (objects s)).1 ∧
      TickReach es.spec (s, .list)
        (t, ended es.lastScaledUpTime (checkAndScale lib f s.now es (objects s)).2) := by
  have read : TickReach es.spec (s, .list) (s, .calculate es.lastScaledUpTime) := by
    refine .next .refl trivial (a := .ok) ?_
    simp [tickStep, present, listed]
  unfold checkAndScale
  cases calculateScaleDirection lib (resolveCooldownPeriod es.spec) s.now es.policy with
  | error text => exact ⟨s, rfl, .next read trivial (a := .fail ⟨.other, text⟩) rfl⟩
  | ok direction =>
    cases direction with
    | noScale => exact ⟨s, rfl, .next read trivial (a := .direction .noScale) rfl⟩
    | scaleUp =>
      obtain ⟨t, same, ran⟩ := handleScaleFromZero_reach alone present es
      exact ⟨t, same, reach_append (.next read trivial (a := .direction .scaleUp) rfl) ran⟩
    | scaleDown =>
      obtain ⟨t, same, ran⟩ := handleScaleToZero_reach alone es
      exact ⟨t, same, reach_append (.next read trivial (a := .direction .scaleDown) rfl) ran⟩

end Steps

end ScaleToZero
