import Elasti.Modes
import Elasti.Reconciler
import Elasti.LabelSelector

/- The informer on a scale target: what handleScaleTargetRefChanges reads from the object it is
   given, the pods it counts as ready, and the mode it switches to. The object, the pods that
   the cache lists and the failing API calls are inputs of each update. -/
namespace TargetReady
open GuardedRuns ResolverSlice SwitchModes Unstructured LabelSelectors
open Reconciler (Request)

structure PodCondition where
  type : String
  status : String
  deriving DecidableEq, Repr

structure Pod where
  ns : String
  labels : Labels
  deletionTimestamp : Option String
  conditions : List PodCondition
  deriving DecidableEq, Repr

/-- What the informer hands over, the pods behind the cached client, the error of listing
    them, and what the switch of the mode meets. An object that is no unstructured one has
    no entries. -/
structure Update (F : Type) where
  object : Option (List (String × Value F))
  pods : List Pod
  podList : Option String
  faults : Faults
  service : Service
  slices : List EndpointSlice

section
variable {F : Type}

structure UpdateObjInfo (F : Type) where
  specReplicas : Int
  statusReplicas : Int
  selector : Option (List (String × Value F))
  ns : String
  name : String

inductive InfoErr (F : Type) where
  | notUnstructured
  | replicas (err : AccessErr F)
  | selector (err : AccessErr F)

def InfoErr.text (formatFloat : F → String) : InfoErr F → String
  | .notUnstructured => "failed to convert ScaleTargetRef to unstructured"
  | .replicas err => "failed to get replicas from spec, " ++ err.text formatFloat
  | .selector err => "failed to get selector from spec, " ++ err.text formatFloat

def getUpdateObjInfo (object : Option (List (String × Value F))) (req : Request) :
    Except (InfoErr F) (UpdateObjInfo F) :=
  -- a field that is not found ends the reading without an error, and what is not read yet stays
  -- zero
  match object with
  | none => .error .notUnstructured
  | some entries =>
    match nestedInt64 (.map entries) ["spec", "replicas"] with
    | .error err => .error (.replicas err)
    | .ok none => .ok ⟨0, 0, none, req.ns, req.name⟩
    | .ok (some specReplicas) =>
      match nestedInt64 (.map entries) ["status", "replicas"] with
      | .error err => .error (.replicas err)
      | .ok none => .ok ⟨specReplicas, 0, none, req.ns, req.name⟩
      | .ok (some statusReplicas) =>
        match nestedMap (.map entries) ["spec", "selector"] with
        | .error err => .error (.selector err)
        | .ok none => .ok ⟨specReplicas, statusReplicas, none, req.ns, req.name⟩
        | .ok (some selector) => .ok ⟨specReplicas, statusReplicas, some selector, req.ns, req.name⟩

inductive StatusErr where
  | convert (text : String)
  | selector (err : SelectorErr)
  | list (text : String)
  deriving DecidableEq, Repr

def StatusErr.text (selectorText : SelectorErr → String) : StatusErr → String
  | .convert text => "failed to convert selector map to LabelSelector, " ++ text
  | .selector err => "failed to convert label selector to selector, " ++ selectorText err
  | .list text => "failed to list pods for label selector, " ++ text

def inNamespace (ns : String) (pod : Pod) : Bool := ns == "" || pod.ns == ns

def listPods (ns : String) (selector : List Requirement) (pods : List Pod) : List Pod :=
  pods.filter fun pod => inNamespace ns pod && selectorMatches selector pod.labels

def readyCondition (condition : PodCondition) : Bool :=
  condition.type == "Ready" && condition.status == "True"

def anyReady : List Pod → Bool
  -- the loop over the pods. It ends at the first ready one.
  | [] => false
  | pod :: rest =>
    if pod.deletionTimestamp.isSome then anyReady rest
    else if pod.conditions.any readyCondition then true
    else anyReady rest

def isTargetReady (pods : List Pod) (podList : Option String) (obj : UpdateObjInfo F) :
    Except StatusErr Bool :=
  if obj.specReplicas ≤ 0 ∨ obj.statusReplicas ≤ 0 then .ok false
  else
    match obj.selector with
    | none => .ok false
    | some entries =>
      match fromUnstructured entries with
      | .error text => .error (.convert text)
      | .ok labelSelector =>
        match labelSelectorAsSelector labelSelector with
        | .error err => .error (.selector err)
        | .ok selector =>
          match podList with
          | some text => .error (.list text)
          | none => .ok (anyReady (listPods obj.ns selector pods))

inductive HandleErr (F : Type) where
  | scale (err : InfoErr F)
  | ready (err : StatusErr)
  | switch (mode : Mode) (err : SwitchErr)

def HandleErr.text (formatFloat : F → String) (selectorText : SelectorErr → String) :
    HandleErr F → String
  | .scale err => "failed to get scale for target resource: " ++ err.text formatFloat
  | .ready err => "failed to get target ready status: " ++ err.text selectorText
  | .switch .proxy err => "failed to switch to proxy mode: " ++ err.text
  | .switch .serve err => "failed to switch to serve mode: " ++ err.text

def verdict (req : Request) (u : Update F) : Except (HandleErr F) Bool :=
  match getUpdateObjInfo u.object req with
  | .error err => .error (.scale err)
  | .ok updatedObj =>
    match isTargetReady u.pods u.podList updatedObj with
    | .error err => .error (.ready err)
    | .ok ready => .ok ready

def Update.call (u : Update F) (mode : Mode) : Call := ⟨mode, u.faults, u.service, u.slices⟩

def switched (mode : Mode) : Outcome SwitchErr → Outcome (HandleErr F)
  | .done => .done
  | .failed err => .failed (.switch mode err)
  | .panicked => .panicked

def HasReadyPod (ns : String) (selector : LabelSelector) (pods : List Pod) : Prop :=
  ∃ pod ∈ pods, inNamespace ns pod = true ∧ Selects selector pod.labels ∧
    pod.deletionTimestamp = none ∧ ⟨"Ready", "True"⟩ ∈ pod.conditions

/-- The object gives the number of replicas asked for and the number there is, both positive,
    and a selector that can be used; the pods can be listed, and it picks a ready one. -/
structure ReadyBy (req : Request) (u : Update F) (entries asked : List (String × Value F))
    (replicas current : Int) (selector : LabelSelector) : Prop where
  object : u.object = some entries
  specReplicas : At (.map entries) ["spec", "replicas"] (.int64 replicas)
  wanted : 0 < replicas
  statusReplicas : At (.map entries) ["status", "replicas"] (.int64 current)
  running : 0 < current
  selected : At (.map entries) ["spec", "selector"] (.map asked)
  converted : fromUnstructured asked = .ok selector
  usable : ∃ requirements, labelSelectorAsSelector selector = .ok requirements
  listed : u.podList = none
  pod : HasReadyPod req.ns selector u.pods

def Ready (req : Request) (u : Update F) : Prop :=
  ∃ entries asked replicas current selector, ReadyBy req u entries asked replicas current selector

structure Workload where
  replicas : Option Int
  currentReplicas : Int
  selector : LabelSelector
  deriving DecidableEq, Repr

/-- An object as the API server keeps it for a workload. No replicas in the status and an
    empty part of the selector are left out. -/
structure Stored (w : Workload) (entries : List (String × Value F)) : Prop where
  spec : nestedFieldNoCopy [] (.map entries) ["spec", "replicas"] = .ok (w.replicas.map .int64)
  status : nestedFieldNoCopy [] (.map entries) ["status", "replicas"] =
    .ok (if w.currentReplicas = 0 then none else some (.int64 w.currentReplicas))
  selector : nestedFieldNoCopy [] (.map entries) ["spec", "selector"] =
    .ok (some (.map (toUnstructured w.selector)))

def quiet : Faults := ⟨none, none, none, none, none, none, none, none, none, none⟩

def cartRequest : Request := ⟨"shop", "cart-elasti"⟩

end

section
variable {F : Type} (config : ResolverConfig) (uid : String) (req : Request)

def Agrees (u later : Update F) : Prop :=
  (∃ err, verdict req later = .error err) ∨ (Ready req later ↔ Ready req u)

end

end TargetReady
