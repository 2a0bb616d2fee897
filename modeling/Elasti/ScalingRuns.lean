import Elasti.ScaleTarget
import Elasti.ThreadPool

/- The runs that scale one target, one API call at a time: Scale under its mutex, the KEDA
   patch before it, the record of a scale-up, and the pass of the poll loop over one
   ElastiService. Each run's local state is its next API call and what it has read. -/
namespace ScalingRuns
open GuardedRuns ThreadPool V1Alpha1 ScaleTarget

structure Annotations where
  paused : Option String
  pausedReplicas : Option String
  deriving DecidableEq, Repr

/-- The API objects and the mutex the runs share. The recorded times are all the values
    status.lastScaledUpTime has had, a history no run reads. -/
structure Scaling where
  now : Int
  present : Bool
  lastScaledUpTime : Option Int
  recorded : List Int
  scaledObject : Option Annotations
  target : Option Scale
  scaleLock : Bool
  deriving DecidableEq, Repr

inductive ScaleDirection where
  | scaleUp
  | scaleDown
  | noScale
  deriving DecidableEq, Repr

inductive Answer where
  | ok
  | fail (err : ApiErr)
  | direction (d : ScaleDirection)
  deriving DecidableEq, Repr

def updateKedaScaledObjectPausedState (paused : Bool) (_ : Annotations) : Annotations :=
  -- a merge patch with null removes the annotation
  if paused then ⟨some "true", some "0"⟩ else ⟨some "false", none⟩

def PausedAtZero (a : Annotations) : Prop :=
  a.paused = some "true" ∧ a.pausedReplicas = some "0"

instance (a : Annotations) : Decidable (PausedAtZero a) := by
  unfold PausedAtZero
  infer_instance

/-- A call that changes or reads an object succeeds only if the object is there, and
    answers not found only if it is not. -/
def truthful {α : Type} (object : Option α) (err : ApiErr) : Bool :=
  err.kind ≠ .notFound || object.isNone

inductive ScaleRet where
  | scaled
  | notRequired
  | failed (err : ScaleErr)
  deriving DecidableEq, Repr

inductive ScalePc where
  | lock
  | get (i : Nat)
  | update
  | unlock (ret : ScaleRet)
  deriving DecidableEq, Repr

inductive ScaleStatus where
  | running (pc : ScalePc)
  | returned (ret : ScaleRet)
  deriving DecidableEq, Repr

def scaleStep (desired : Int) (s : Scaling) : ScalePc → Answer → Option (Scaling × ScaleStatus)
  | .lock, .ok =>
    if s.scaleLock then none else some ({ s with scaleLock := true }, .running (.get 0))
  | .get _, .ok =>
    match s.target with
    | none => none
    | some current =>
      if noScaleRequired current desired then some (s, .running (.unlock .notRequired))
      else some (s, .running .update)
  | .get i, .fail err =>
    if truthful s.target err then
      if err.kind = .noMatch ∧ i + 1 < 2 then some (s, .running (.get (i + 1)))
      else some (s, .running (.unlock (.failed (.get err))))
    else none
  | .update, .ok =>
    match s.target with
    | none => none
    | some current =>
      some ({ s with target := some { current with specReplicas := desired } },
        .running (.unlock .scaled))
  | .update, .fail err =>
    if truthful s.target err then some (s, .running (.unlock (.failed (.update err)))) else none
  | .unlock ret, .ok => some ({ s with scaleLock := false }, .returned ret)
  | _, _ => none

inductive ResizeErr where
  | keda (err : ApiErr)
  | scale (err : ScaleErr)
  deriving DecidableEq, Repr

inductive ResizePc where
  | keda
  | scale (pc : ScalePc)
  | returned (err : Option ResizeErr)
  deriving DecidableEq, Repr

def afterKeda [Apimachinery] (spec : ElastiServiceSpec) : ResizePc :=
  -- the API version is parsed between the KEDA patch and Scale
  let ref := getScaleTargetRef spec
  match apiVersionStrToGVK ref.apiVersion ref.kind with
  | .ok _ => .scale .lock
  | .error text => .returned (some (.scale (.apiVersion text)))

def resize [Apimachinery] (spec : ElastiServiceSpec) : ResizePc :=
  if usesKeda spec then .keda else afterKeda spec

def afterScale : ScaleStatus → ResizePc
  | .running pc => .scale pc
  | .returned (.failed err) => .returned (some (.scale err))
  | .returned _ => .returned none

/-- The patch and the Scale call that end handleScaleToZero, handleScaleFromZero and
    scaleTargetForService. -/
def resizeStep [Apimachinery] (spec : ElastiServiceSpec) (paused : Bool) (desired : Int)
    (s : Scaling) : ResizePc → Answer → Option (Scaling × ResizePc)
  | .keda, .ok =>
    match s.scaledObject with
    | none => none
    | some a => some ({ s with scaledObject := some (updateKedaScaledObjectPausedState paused a) },
        afterKeda spec)
  | .keda, .fail err =>
    if truthful s.scaledObject err then some (s, .returned (some (.keda err))) else none
  | .scale pc, a => (scaleStep desired s pc a).map fun r => (r.1, afterScale r.2)
  | _, _ => none

inductive ScaleUpPc where
  | stamp
  | record (now : Int)
  | resize (pc : ResizePc)
  deriving DecidableEq, Repr

/-- handleScaleFromZero, and scaleTargetForService after its lookup. The time is taken
    before the patch is sent; a patch that fails is only logged. -/
def scaleUpStep [Apimachinery] (spec : ElastiServiceSpec) (s : Scaling) :
    ScaleUpPc → Answer → Option (Scaling × ScaleUpPc)
  | .stamp, .ok => some (s, .record s.now)
  | .record now, .ok =>
    if s.present then
      some ({ s with lastScaledUpTime := some now, recorded := now :: s.recorded },
        .resize (resize spec))
    else none
  | .record _, .fail _ => some (s, .resize (resize spec))
  | .resize pc, a =>
    (resizeStep spec false (minReplicas spec) s pc a).map fun r => (r.1, .resize r.2)
  | _, _ => none

inductive TickPc where
  | list
  | calculate (listed : Option Int)
  | cooldown (listed : Option Int)
  | toZero (listed : Option Int) (pc : ResizePc)
  | fromZero (pc : ScaleUpPc)
  | skipped
  deriving DecidableEq, Repr

def cooldownMet (spec : ElastiServiceSpec) (listed : Option Int) (now : Int) : Bool :=
  match listed with
  | none => true
  | some last => ¬ now - last < resolveCooldownPeriod spec

/-- One pass of checkAndScale over the ElastiService. The trigger evaluation answers with
    the direction it arrives at. -/
def tickStep [Apimachinery] (spec : ElastiServiceSpec) (s : Scaling) :
    TickPc → Answer → Option (Scaling × TickPc)
  | .list, .ok => some (s, if s.present then .calculate s.lastScaledUpTime else .skipped)
  | .list, .fail _ => some (s, .skipped)
  | .calculate listed, .direction .scaleDown => some (s, .cooldown listed)
  | .calculate _, .direction .scaleUp => some (s, .fromZero .stamp)
  | .calculate _, .direction .noScale => some (s, .skipped)
  | .calculate _, .fail _ => some (s, .skipped)
  | .cooldown listed, .ok =>
    some (s, if cooldownMet spec listed s.now then .toZero listed (resize spec) else .skipped)
  | .toZero listed pc, a =>
    (resizeStep spec true 0 s pc a).map fun r => (r.1, .toZero listed r.2)
  | .fromZero pc, a => (scaleUpStep spec s pc a).map fun r => (r.1, .fromZero r.2)
  | _, _ => none

theorem truthful_iff {α : Type} (object : Option α) (err : ApiErr) :
    truthful object err = true ↔ (err.kind = .notFound → object = none) := by
  cases object <;> simp [truthful]

inductive ScaleEffect (desired : Int) (s : Scaling) :
    ScalePc → Answer → Scaling → ScaleStatus → Prop where
  | lock (free : s.scaleLock = false) :
      ScaleEffect desired s .lock .ok { s with scaleLock := true } (.running (.get 0))
  | quiet (i : Nat) (current : Scale) (found : s.target = some current)
      (enough : noScaleRequired current desired = true) :
      ScaleEffect desired s (.get i) .ok s (.running (.unlock .notRequired))
  | differs (i : Nat) : ScaleEffect desired s (.get i) .ok s (.running .update)
  | again (i : Nat) (err : ApiErr) :
      ScaleEffect desired s (.get i) (.fail err) s (.running (.get (i + 1)))
  | unread (i : Nat) (err : ApiErr) (truth : err.kind = .notFound → s.target = none) :
      ScaleEffect desired s (.get i) (.fail err) s (.running (.unlock (.failed (.get err))))
  | write (current : Scale) (found : s.target = some current) :
      ScaleEffect desired s .update .ok
        { s with target := some { current with specReplicas := desired } }
        (.running (.unlock .scaled))
  | refused (err : ApiErr) (truth : err.kind = .notFound → s.target = none) :
      ScaleEffect desired s .update (.fail err) s (.running (.unlock (.failed (.update err))))
  | unlock (ret : ScaleRet) :
      ScaleEffect desired s (.unlock ret) .ok { s with scaleLock := false } (.returned ret)

theorem scaleStep_effect {desired : Int} {s t : Scaling} {pc : ScalePc} {a : Answer}
    {status : ScaleStatus} (ran : scaleStep desired s pc a = some (t, status)) :
    ScaleEffect desired s pc a t status := by
  cases pc with
  | lock =>
    cases a <;> simp only [scaleStep, reduceCtorEq] at ran
    split at ran
    · simp at ran
    · rename_i free
      cases ran
      exact .lock (by simpa using free)
  | get i =>
    cases a <;> simp only [scaleStep, reduceCtorEq] at ran
    · split at ran
      · simp at ran
      · rename_i current found
        split at ran
        · rename_i enough
          cases ran
          exact .quiet i current found enough
        · cases ran
          exact .differs i
    · split at ran
      · rename_i truth
        split at ran
        · cases ran
          exact .again i _
        · cases ran
          exact .unread i _ ((truthful_iff _ _).mp truth)
      · simp at ran
  | update =>
    cases a <;> simp only [scaleStep, reduceCtorEq] at ran
    · split at ran
      · simp at ran
      · rename_i current found
        cases ran
        exact .write current found
    · split at ran
      · rename_i truth
        cases ran
        exact .refused _ ((truthful_iff _ _).mp truth)
      · simp at ran
  | unlock ret =>
    cases a <;> simp only [scaleStep, reduceCtorEq] at ran
    cases ran
    exact .unlock ret

inductive ResizeEffect [Apimachinery] (spec : ElastiServiceSpec) (paused : Bool) (desired : Int)
    (s : Scaling) : ResizePc → Answer → Scaling → ResizePc → Prop where
  | patch (a : Annotations) (found : s.scaledObject = some a) :
      ResizeEffect spec paused desired s .keda .ok
        { s with scaledObject := some (updateKedaScaledObjectPausedState paused a) } (afterKeda spec)
  | unpatched (err : ApiErr) :
      ResizeEffect spec paused desired s .keda (.fail err) s (.returned (some (.keda err)))
  | scale (pc : ScalePc) (a : Answer) (t : Scaling) (status : ScaleStatus)
      (effect : ScaleEffect desired s pc a t status) :
      ResizeEffect spec paused desired s (.scale pc) a t (afterScale status)

theorem resizeStep_effect [Apimachinery] {spec : ElastiServiceSpec} {paused : Bool} {desired : Int}
    {s t : Scaling} {pc next : ResizePc} {a : Answer}
    (ran : resizeStep spec paused desired s pc a = some (t, next)) :
    ResizeEffect spec paused desired s pc a t next := by
  cases pc with
  | keda =>
    cases a <;> simp only [resizeStep, reduceCtorEq] at ran
    · split at ran
      · simp at ran
      · rename_i a found
        cases ran
        exact .patch a found
    · split at ran
      · cases ran
        exact .unpatched _
      · simp at ran
  | scale pc =>
    obtain ⟨⟨u, status⟩, inner, same⟩ := Option.map_eq_some_iff.mp ran
    cases same
    exact .scale pc a u status (scaleStep_effect inner)
  | returned err => cases a <;> simp [resizeStep] at ran

inductive ScaleUpEffect [Apimachinery] (spec : ElastiServiceSpec) (s : Scaling) :
    ScaleUpPc → Answer → Scaling → ScaleUpPc → Prop where
  | stamp : ScaleUpEffect spec s .stamp .ok s (.record s.now)
  | record (now : Int) :
      ScaleUpEffect spec s (.record now) .ok
        { s with lastScaledUpTime := some now, recorded := now :: s.recorded }
        (.resize (resize spec))
  | unrecorded (now : Int) (err : ApiErr) :
      ScaleUpEffect spec s (.record now) (.fail err) s (.resize (resize spec))
  | resize (pc : ResizePc) (a : Answer) (t : Scaling) (next : ResizePc)
      (effect : ResizeEffect spec false (minReplicas spec) s pc a t next) :
      ScaleUpEffect spec s (.resize pc) a t (.resize next)

theorem scaleUpStep_effect [Apimachinery] {spec : ElastiServiceSpec} {s t : Scaling}
    {pc next : ScaleUpPc} {a : Answer} (ran : scaleUpStep spec s pc a = some (t, next)) :
    ScaleUpEffect spec s pc a t next := by
  cases pc with
  | stamp =>
    cases a <;> simp only [scaleUpStep, reduceCtorEq] at ran
    cases ran
    exact .stamp
  | record now =>
    cases a <;> simp only [scaleUpStep, reduceCtorEq] at ran
    · split at ran
      · cases ran
        exact .record now
      · simp at ran
    · cases ran
      exact .unrecorded now _
  | resize pc =>
    obtain ⟨⟨u, after⟩, inner, same⟩ := Option.map_eq_some_iff.mp ran
    cases same
    exact .resize pc a u after (resizeStep_effect inner)

def deciding : TickPc → Bool
  | .list | .calculate _ | .cooldown _ => true
  | _ => false

inductive TickEffect [Apimachinery] (spec : ElastiServiceSpec) (s : Scaling) :
    TickPc → Answer → Scaling → TickPc → Prop where
  | listed : TickEffect spec s .list .ok s (.calculate s.lastScaledUpTime)
  | skip (pc : TickPc) (a : Answer) (early : deciding pc = true) : TickEffect spec s pc a s .skipped
  | down (listed : Option Int) (a : Answer) :
      TickEffect spec s (.calculate listed) a s (.cooldown listed)
  | up (listed : Option Int) (a : Answer) :
      TickEffect spec s (.calculate listed) a s (.fromZero .stamp)
  | met (listed : Option Int) (met : cooldownMet spec listed s.now = true) :
      TickEffect spec s (.cooldown listed) .ok s (.toZero listed (resize spec))
  | toZero (listed : Option Int) (pc : ResizePc) (a : Answer) (t : Scaling) (next : ResizePc)
      (effect : ResizeEffect spec true 0 s pc a t next) :
      TickEffect spec s (.toZero listed pc) a t (.toZero listed next)
  | fromZero (pc : ScaleUpPc) (a : Answer) (t : Scaling) (next : ScaleUpPc)
      (effect : ScaleUpEffect spec s pc a t next) :
      TickEffect spec s (.fromZero pc) a t (.fromZero next)

theorem tickStep_effect [Apimachinery] {spec : ElastiServiceSpec} {s t : Scaling} {pc next : TickPc}
    {a : Answer} (ran : tickStep spec s pc a = some (t, next)) :
    TickEffect spec s pc a t next := by
  cases pc with
  | list =>
    cases a <;> simp only [tickStep, reduceCtorEq] at ran
    · split at ran <;> cases ran
      · exact .listed
      · exact .skip _ _ rfl
    · cases ran
      exact .skip _ _ rfl
  | calculate listed =>
    cases a with
    | ok => simp [tickStep] at ran
    | fail err =>
      cases ran
      exact .skip _ _ rfl
    | direction d =>
      cases d <;> cases ran
      · exact .up listed _
      · exact .down listed _
      · exact .skip _ _ rfl
  | cooldown listed =>
    cases a <;> simp only [tickStep, reduceCtorEq] at ran
    split at ran <;> cases ran
    · rename_i met
      exact .met listed met
    · exact .skip _ _ rfl
  | toZero listed pc =>
    obtain ⟨⟨u, after⟩, inner, same⟩ := Option.map_eq_some_iff.mp ran
    cases same
    exact .toZero listed pc a u after (resizeStep_effect inner)
  | fromZero pc =>
    obtain ⟨⟨u, after⟩, inner, same⟩ := Option.map_eq_some_iff.mp ran
    cases same
    exact .fromZero pc a u after (scaleUpStep_effect inner)
  | skipped => cases a <;> simp [tickStep] at ran

section Solo
variable (answers : Answers) (desired : Int)

def soloAnswer (object : Option Scale) : ScalePc → Answer
  | .get i =>
    match getScale answers object i with
    | .ok _ => .ok
    | .error err => .fail err
  | .update =>
    match answers.update with
    | none => .ok
    | some err => .fail err
  | .lock | .unlock _ => .ok

inductive Solo : Scaling → ScalePc → Scaling → ScaleRet → Prop where
  | last {s t : Scaling} {pc : ScalePc} {ret : ScaleRet}
      (move : scaleStep desired s pc (soloAnswer answers s.target pc) = some (t, .returned ret)) :
      Solo s pc t ret
  | next {s t u : Scaling} {pc p : ScalePc} {ret : ScaleRet}
      (move : scaleStep desired s pc (soloAnswer answers s.target pc) = some (t, .running p))
      (rest : Solo t p u ret) : Solo s pc u ret

def Truthful (object : Option Scale) : Prop :=
  (∀ i, ∀ err ∈ answers.get i, truthful object err = true) ∧
    ∀ err ∈ answers.update, truthful object err = true

def told (r : Returned) : ScaleRet :=
  match r.err with
  | some err => .failed err
  | none => if r.scaled then .scaled else .notRequired

variable {answers desired}

theorem solo_unlock {s t : Scaling} {pc : ScalePc} {ret : ScaleRet}
    (move : scaleStep desired s pc (soloAnswer answers s.target pc) =
      some (t, .running (.unlock ret))) :
    Solo answers desired s pc { t with scaleLock := false } ret := by
  apply Solo.next move
  apply Solo.last
  rfl

theorem getScale_truthful {object : Option Scale} (truth : Truthful answers object) {i : Nat}
    {err : ApiErr} (failed : getScale answers object i = .error err) :
    truthful object err = true := by
  unfold getScale at failed
  cases answered : answers.get i with
  | some found =>
    simp only [answered, Except.error.injEq] at failed
    subst failed
    exact truth.1 i found answered
  | none =>
    cases object with
    | none => simp [truthful]
    | some current => simp [answered] at failed

theorem solo_get_error {s : Scaling} (truth : Truthful answers s.target) {left i : Nat}
    (attempts : i + left = 1) {err : ApiErr}
    (failed : getLoop answers s.target left i = .error err) :
    Solo answers desired s (.get i) { s with scaleLock := false } (.failed (.get err)) := by
  induction left generalizing i with
  | zero =>
    have got : getScale answers s.target i = .error err := failed
    have honest := getScale_truthful truth got
    have last : ¬ i + 1 < 2 := by omega
    apply solo_unlock
    simp [scaleStep, soloAnswer, got, honest, last]
  | succ left ih =>
    cases got : getScale answers s.target i with
    | ok current => simp [getLoop, got] at failed
    | error found =>
      have honest := getScale_truthful truth got
      simp only [getLoop, got] at failed
      by_cases unknown : found.kind = .noMatch
      · rw [if_pos unknown] at failed
        have again : i + 1 < 2 := by omega
        apply Solo.next (t := s) (p := .get (i + 1))
        · simp [scaleStep, soloAnswer, got, honest, unknown, again]
        · exact ih (by omega) failed
      · rw [if_neg unknown] at failed
        cases failed
        apply solo_unlock
        simp [scaleStep, soloAnswer, got, honest, unknown]

theorem solo_get_ok {s t : Scaling} {ret : ScaleRet} (truth : Truthful answers s.target)
    {left i : Nat} (attempts : i + left = 1) {current : Scale}
    (read : getLoop answers s.target left i = .ok current)
    (rest : ∀ j, getScale answers s.target j = .ok current → Solo answers desired s (.get j) t ret) :
    Solo answers desired s (.get i) t ret := by
  induction left generalizing i with
  | zero => exact rest i read
  | succ left ih =>
    cases got : getScale answers s.target i with
    | ok found =>
      simp only [getLoop, got] at read
      exact rest i (got.trans read)
    | error found =>
      have honest := getScale_truthful truth got
      simp only [getLoop, got] at read
      by_cases unknown : found.kind = .noMatch
      · rw [if_pos unknown] at read
        have again : i + 1 < 2 := by omega
        apply Solo.next (t := s) (p := .get (i + 1))
        · simp [scaleStep, soloAnswer, got, honest, unknown, again]
        · exact ih (by omega) read
      · rw [if_neg unknown] at read
        cases read

theorem solo_read {s : Scaling} (truth : Truthful answers s.target) {current : Scale} {i : Nat}
    (got : getScale answers s.target i = .ok current)
    (read : getLoop answers s.target 1 0 = .ok current) (t : Target) :
    Solo answers desired s (.get i)
      { s with target := (scale answers t s.target desired).object, scaleLock := false }
      (told (scale answers t s.target desired)) := by
  have found := getScale_ok got
  have answer : soloAnswer answers s.target (.get i) = .ok := by simp only [soloAnswer, got]
  unfold scale
  rw [read]
  by_cases quiet : noScaleRequired current desired = true
  · simp only [quiet, if_true, told]
    apply solo_unlock
    rw [answer]
    simp [scaleStep, found, quiet]
  · apply Solo.next (t := s) (p := .update)
    · rw [answer]
      simp [scaleStep, found, quiet]
    · cases update : answers.update with
      | none =>
        have sent : soloAnswer answers s.target .update = .ok := by simp only [soloAnswer, update]
        simp only [quiet, told]
        apply solo_unlock (t := { s with target := some { current with specReplicas := desired } })
        rw [sent]
        simp [scaleStep, found]
      | some err =>
        have sent : soloAnswer answers s.target .update = .fail err := by
          simp only [soloAnswer, update]
        have honest := truth.2 err update
        simp only [quiet, told]
        apply solo_unlock
        rw [sent]
        simp [scaleStep, honest]

/-- Run by itself, the stepped Scale is the one of a single caller. -/
theorem solo_scale {s : Scaling} (truth : Truthful answers s.target)
    (free : s.scaleLock = false) (t : Target) :
    Solo answers desired s .lock
      { s with target := (scale answers t s.target desired).object }
      (told (scale answers t s.target desired)) := by
  have unlocked : ∀ object, { s with target := object } =
      { { s with scaleLock := true } with target := object, scaleLock := false } := by
    intro object
    rw [← free]
  apply Solo.next (t := { s with scaleLock := true }) (p := .get 0)
  · simp [scaleStep, soloAnswer, free]
  · rw [unlocked]
    cases read : getLoop answers s.target 1 0 with
    | error err =>
      simp only [scale, read, told]
      exact solo_get_error (s := { s with scaleLock := true }) truth rfl read
    | ok current =>
      apply solo_get_ok (s := { s with scaleLock := true }) truth rfl read
      intro j got
      exact solo_read (s := { s with scaleLock := true }) truth got read t

theorem solo_scaleToMinReplicas [Apimachinery] {s : Scaling} (truth : Truthful answers s.target)
    (free : s.scaleLock = false) (ns : String) (spec : ElastiServiceSpec) :
    (∃ err, afterKeda spec = .returned (some (.scale err)) ∧
      scaleToMinReplicas answers ns spec s.target = ⟨false, some err, s.target, []⟩) ∨
    (afterKeda spec = .scale .lock ∧
      Solo answers (minReplicas spec) s .lock
        { s with target := (scaleToMinReplicas answers ns spec s.target).object }
        (told (scaleToMinReplicas answers ns spec s.target))) := by
  simp only [afterKeda, scaleToMinReplicas]
  cases apiVersionStrToGVK (getScaleTargetRef spec).apiVersion (getScaleTargetRef spec).kind with
  | error text => exact .inl ⟨.apiVersion text, rfl, rfl⟩
  | ok gvk => exact .inr ⟨rfl, solo_scale truth free ⟨ns, gvk, (getScaleTargetRef spec).name⟩⟩

end Solo

end ScalingRuns
