import Elasti.Segments
import Mathlib

/- The ElastiService API type and the pure readings of its spec. Strings stand for admitted
   Kubernetes names, so lower-casing is the ASCII one. -/
namespace V1Alpha1

structure ScaleTargetRef where
  apiVersion : String
  kind : String
  name : String
  deriving DecidableEq, Repr

structure AutoscalerSpec where
  type : String
  name : String
  deriving DecidableEq, Repr

structure ElastiServiceSpec where
  scaleTargetRef : ScaleTargetRef
  service : String
  minTargetReplicas : Int
  cooldownPeriod : Int
  autoscaler : Option AutoscalerSpec
  deriving DecidableEq, Repr

/-- What the operator reads of the object itself: deleting says that a deletion timestamp is
    set, finalizer that the operator's finalizer is among its finalizers. -/
structure ElastiService where
  ns : String
  name : String
  deleting : Bool
  finalizer : Bool
  spec : ElastiServiceSpec
  deriving DecidableEq, Repr

def getScaleTargetRef (spec : ElastiServiceSpec) : ScaleTargetRef :=
  -- older resources name the plural resource where a kind is due
  match spec.scaleTargetRef.kind with
  | "deployments" => { spec.scaleTargetRef with kind := "Deployment" }
  | "rollouts" => { spec.scaleTargetRef with kind := "Rollout" }
  | _ => spec.scaleTargetRef

def getSpec (spec : ElastiServiceSpec) : ElastiServiceSpec :=
  { spec with scaleTargetRef := getScaleTargetRef spec }

theorem getScaleTargetRef_getSpec (spec : ElastiServiceSpec) :
    getScaleTargetRef (getSpec spec) = getScaleTargetRef spec := by
  by_cases deployments : spec.scaleTargetRef.kind = "deployments"
  · simp [getSpec, getScaleTargetRef, deployments]
  · by_cases rollouts : spec.scaleTargetRef.kind = "rollouts"
    · simp [getSpec, getScaleTargetRef, rollouts]
    · simp [getSpec, getScaleTargetRef]

def second : Int := 1000000000

def defaultCooldownPeriod : Int := second * 900

def resolveCooldownPeriod (spec : ElastiServiceSpec) : Int :=
  if second * spec.cooldownPeriod = 0 then defaultCooldownPeriod else second * spec.cooldownPeriod

def toLower (s : String) : String := String.ofList (s.toList.map Char.toLower)

def kindToResource (kind : String) : String :=
  -- a kind that ends in s is taken for the plural resource it may be
  let k := toLower kind
  if ['s'].isSuffixOf k.toList then k else k ++ "s"

def usesKeda (spec : ElastiServiceSpec) : Bool :=
  match spec.autoscaler with
  | none => false
  | some autoscaler => toLower autoscaler.type = "keda"

structure GroupVersionKind where
  group : String
  version : String
  kind : String
  deriving DecidableEq, Repr

/-- What the operator takes from apimachinery: ParseGroupVersion, with the text of its error,
    and NamespacedName.String, with how far its texts tell names and namespaces apart. -/
class Apimachinery where
  parseGroupVersion : String → Except String (String × String)
  namespacedName : String → String → String
  name_eq {ns a b : String} (same : namespacedName ns a = namespacedName ns b) : a = b
  ns_eq {ns other name : String} (same : namespacedName ns name = namespacedName other name) :
    ns = other
  slashless_eq {ns other a b : String} (plain : '/' ∉ ns.toList) (plainOther : '/' ∉ other.toList)
    (same : namespacedName ns a = namespacedName other b) : ns = other

export Apimachinery (parseGroupVersion namespacedName)

def apiVersionStrToGVK [Apimachinery] (apiVersion kind : String) : Except String GroupVersionKind :=
  match parseGroupVersion apiVersion with
  | .ok (group, version) => .ok ⟨group, version, kind⟩
  | .error text => .error ("failed to parse API version: " ++ text)

def minReplicas (spec : ElastiServiceSpec) : Int :=
  if spec.minTargetReplicas < 1 then 1 else spec.minTargetReplicas

theorem minReplicas_eq_max (spec : ElastiServiceSpec) :
    minReplicas spec = max 1 spec.minTargetReplicas := by
  unfold minReplicas
  split <;> omega

theorem minReplicas_positive (spec : ElastiServiceSpec) : 0 < minReplicas spec := by
  rw [minReplicas_eq_max]
  omega

def scaleKey (ns : String) (ref : ScaleTargetRef) : String :=
  ns ++ "/" ++ ref.kind ++ "/" ++ ref.name

/-- The poll loop and the finalizer normalise the spec before they pass it on, the server
    does not. All three lock the same mutex. -/
theorem scaleKey_normalised (ns : String) (spec : ElastiServiceSpec) :
    scaleKey ns (getScaleTargetRef (getSpec spec)) = scaleKey ns (getScaleTargetRef spec) := by
  rw [getScaleTargetRef_getSpec]

instance : Apimachinery where
  parseGroupVersion gv :=
    if gv = "" ∨ gv = "/" then .ok ("", "")
    else
      match gv.toList.splitOn '/' with
      | [version] => .ok ("", String.ofList version)
      | [group, version] => .ok (String.ofList group, String.ofList version)
      | _ => .error ("unexpected GroupVersion string: " ++ gv)
  namespacedName ns name := ns ++ "/" ++ name
  name_eq {ns a b} same := by
    rw [← String.toList_inj] at same ⊢
    simpa using same
  ns_eq {ns other name} same := by
    rw [← String.toList_inj] at same ⊢
    simpa using same
  slashless_eq {ns other a b} plain plainOther same := by
    have parts := congrArg (fun s => s.toList.splitOn '/') same
    simp only [String.toList_append, List.append_assoc] at parts
    change (ns.toList ++ '/' :: a.toList).splitOn '/' =
      (other.toList ++ '/' :: b.toList).splitOn '/' at parts
    rw [Segments.segments_cons plain, Segments.segments_cons plainOther] at parts
    exact String.toList_inj.mp (List.cons.inj parts).1

end V1Alpha1
