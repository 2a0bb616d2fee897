import Elasti.ElastiService

/- ScaleHandler.Scale, run by one caller. The API server's answers are inputs: which Get
   attempts fail, and whether the Update does. -/
namespace ScaleTarget
open V1Alpha1

inductive ErrKind where
  | noMatch
  | notFound
  | other
  deriving DecidableEq, Repr

structure ApiErr where
  kind : ErrKind
  text : String
  deriving DecidableEq, Repr

structure Scale where
  specReplicas : Int
  statusReplicas : Int
  deriving DecidableEq, Repr

structure Target where
  ns : String
  gvk : GroupVersionKind
  name : String

inductive ScaleErr where
  | apiVersion (text : String)
  | get (err : ApiErr)
  | update (err : ApiErr)
  deriving DecidableEq, Repr

def ScaleErr.text (t : Target) : ScaleErr → String
  | .apiVersion text => "failed to parse API version: " ++ text
  | .get err => s!"failed to get scale for {t.gvk.kind}/{t.name} ({t.ns}): {err.text}"
  | .update err => s!"failed to update scale for {t.gvk.kind}/{t.name} ({t.ns}): {err.text}"

def ScaleErr.isNotFound : ScaleErr → Bool
  | .apiVersion _ => false
  | .get err | .update err => err.kind = .notFound

structure Event where
  type : String
  reason : String
  message : String
  deriving DecidableEq, Repr

structure Answers where
  get : Nat → Option ApiErr
  update : Option ApiErr

structure Returned where
  scaled : Bool
  err : Option ScaleErr
  object : Option Scale
  events : List Event

def missing : ApiErr := ⟨.notFound, "not found"⟩

def getScale (answers : Answers) (object : Option Scale) (i : Nat) : Except ApiErr Scale :=
  match answers.get i with
  | some err => .error err
  | none => object.elim (.error missing) .ok

def getLoop (answers : Answers) (object : Option Scale) : Nat → Nat → Except ApiErr Scale
  -- the first argument is the number of attempts left after this one. Only an unknown kind is
  -- worth another attempt, with the RESTMapper reset.
  | 0, i => getScale answers object i
  | left + 1, i =>
    match getScale answers object i with
    | .ok current => .ok current
    | .error err => if err.kind = .noMatch then getLoop answers object left (i + 1) else .error err

def noScaleRequired (current : Scale) (desired : Int) : Bool :=
  -- both early returns read the observed count, not the requested one
  current.statusReplicas = desired || (desired > 0 && current.statusReplicas > desired)

def scale (answers : Answers) (t : Target) (object : Option Scale) (desired : Int) : Returned :=
  match getLoop answers object 1 0 with
  | .error err => ⟨false, some (.get err), object,
      [⟨"Error", "FailedToScale",
        s!"Failed to scale to {desired} replicas for {t.gvk.kind}/{t.name}: {err.text}"⟩]⟩
  | .ok current =>
    if noScaleRequired current desired then ⟨false, none, object, []⟩
    else
      match answers.update with
      | some err => ⟨false, some (.update err), object,
          [⟨"Warning", "FailedToScale",
            s!"Failed to scale {desired} replicas for {t.gvk.kind}/{t.name}: {err.text}"⟩]⟩
      | none => ⟨true, none, some { current with specReplicas := desired },
          [⟨"Normal", "SuccessToScale",
            s!"Successfully scaled {desired} replicas for {t.gvk.kind}/{t.name}"⟩]⟩

def scaleToMinReplicas [Apimachinery] (answers : Answers) (ns : String) (spec : ElastiServiceSpec)
    (object : Option Scale) : Returned :=
  let ref := getScaleTargetRef spec
  match apiVersionStrToGVK ref.apiVersion ref.kind with
  | .error text => ⟨false, some (.apiVersion text), object, []⟩
  | .ok gvk => scale answers ⟨ns, gvk, ref.name⟩ object (minReplicas spec)

theorem getScale_ok {answers : Answers} {object : Option Scale} {i : Nat} {current : Scale}
    (got : getScale answers object i = .ok current) : object = some current := by
  unfold getScale at got
  split at got
  · simp at got
  · cases object with
    | none => simp at got
    | some found => simpa using got

theorem getLoop_ok {answers : Answers} {object : Option Scale} {left i : Nat} {current : Scale}
    (got : getLoop answers object left i = .ok current) : object = some current := by
  induction left generalizing i with
  | zero => exact getScale_ok got
  | succ left ih =>
    simp only [getLoop] at got
    split at got
    · rename_i first
      exact getScale_ok (first.trans got)
    · split at got
      · exact ih got
      · simp at got

theorem scale_nil {answers : Answers} {t : Target} {current : Scale} {desired : Int}
    (nil : (scale answers t (some current) desired).err = none) :
    (scale answers t (some current) desired).object =
      some (if noScaleRequired current desired then current
        else { current with specReplicas := desired }) := by
  unfold scale at nil ⊢
  cases got : getLoop answers (some current) 1 0 with
  | error err => simp [got] at nil
  | ok read =>
    have same := getLoop_ok got
    cases same
    simp only [got] at nil ⊢
    split
    · rfl
    · rename_i required
      cases update : answers.update with
      | some err => simp [required, update] at nil
      | none => rfl

def requested (s d : Int) : Int := if d = 0 then 0 else max s d

/-- Whatever the API server answers, a nil error means the requested count is right. -/
def ScaleMeets (s p d : Int) : Prop :=
  ∀ answers t, (scale answers t (some ⟨s, p⟩) d).err = none →
    ∃ after, (scale answers t (some ⟨s, p⟩) d).object = some after ∧
      after.specReplicas = requested s d

/-- The requested and the observed count lie on the same side of the desired one. -/
def Settled (s p d : Int) : Prop :=
  (d = 0 → p = 0 → s = 0) ∧ (0 < d → (d ≤ p → d ≤ s) ∧ (p < d → s ≤ d))

instance (s p d : Int) : Decidable (Settled s p d) := by
  unfold Settled
  infer_instance

theorem noScaleRequired_iff (s p d : Int) :
    noScaleRequired ⟨s, p⟩ d = true ↔ p = d ∨ (0 < d ∧ d < p) := by
  simp [noScaleRequired]

theorem requested_iff_settled (s p d : Int) (valid : 0 ≤ d) :
    (if noScaleRequired ⟨s, p⟩ d then s else d) = requested s d ↔ Settled s p d := by
  unfold Settled requested
  simp only [noScaleRequired_iff, max_def]
  by_cases quiet : p = d ∨ (0 < d ∧ d < p)
  · rw [if_pos quiet]
    split_ifs <;> omega
  · rw [if_neg quiet]
    split_ifs <;> omega

def allSucceed : Answers := ⟨fun _ => none, none⟩

theorem scale_allSucceed_nil (t : Target) (current : Scale) (desired : Int) :
    (scale allSucceed t (some current) desired).err = none := by
  have got : getLoop allSucceed (some current) 1 0 = .ok current := rfl
  unfold scale
  simp only [got]
  split <;> rfl

theorem scale_meets_iff_settled (s p d : Int) (valid : 0 ≤ d) :
    ScaleMeets s p d ↔ Settled s p d := by
  rw [← requested_iff_settled s p d valid]
  constructor
  · intro meets
    have nil := scale_allSucceed_nil ⟨"", ⟨"", "", ""⟩, ""⟩ ⟨s, p⟩ d
    obtain ⟨after, object, right⟩ := meets allSucceed ⟨"", ⟨"", "", ""⟩, ""⟩ nil
    rw [scale_nil nil, Option.some.injEq] at object
    subst object
    rw [← right]
    split <;> rfl
  · intro right answers t nil
    refine ⟨_, scale_nil nil, ?_⟩
    rw [← right]
    split <;> rfl

theorem scale_one_to_two_meets : Settled 1 1 2 ∧ ScaleMeets 1 1 2 := by
  have settled : Settled 1 1 2 := by decide
  exact ⟨settled, (scale_meets_iff_settled 1 1 2 (by decide)).mpr settled⟩

/-- A pod that is still terminating after a scale to zero hides the request for zero. -/
theorem scale_up_ignored_while_terminating : ¬ ScaleMeets 0 1 1 := by
  intro meets
  obtain ⟨after, object, right⟩ := meets allSucceed ⟨"shop", ⟨"apps", "v1", "Deployment"⟩, "cart"⟩ rfl
  have unchanged : some (Scale.mk 0 1) = some after := object
  cases unchanged
  revert right
  decide

end ScaleTarget
