import Elasti.Reconciler
import Elasti.Segments

/- The keys of the informer map. Add derives a key from its request, watchScaleTargetRef from
   the parts it has; StopForCRD selects keys by how they start. -/
namespace InformerKeys
open V1Alpha1 InformerManager Segments
open Reconciler (Request targetKey)

structure KeyParams where
  ns : String
  crdName : String
  resourceType : String
  resourceName : String
  deriving DecidableEq, Repr

def getKey (param : KeyParams) : String :=
  joinKey param.crdName param.ns param.resourceType param.resourceName

def Plain (s : String) : Prop := toLower s = s ∧ '/' ∉ s.toList

instance (s : String) : Decidable (Plain s) := inferInstanceAs (Decidable (_ ∧ _))

structure PlainRequest (req : RequestWatch) : Prop where
  crdName : Plain req.crdName
  ns : Plain req.ns
  resource : Plain req.resource
  name : Plain req.name

theorem getKey_request (req : RequestWatch) :
    getKey ⟨req.ns, req.crdName, req.resource, req.name⟩ = getKeyFromRequestWatch req := by
  rw [getKey, getKeyFromRequestWatch]

theorem joinKey_plain {crdName ns resource name : String} (crd : toLower crdName = crdName)
    (own : toLower ns = ns) (type : toLower resource = resource) (target : toLower name = name) :
    (joinKey crdName ns resource name).toList =
      crdName.toList ++ '/' :: (ns.toList ++ '/' :: (resource.toList ++ '/' :: name.toList)) := by
  simp [joinKey, crd, own, type, target]

theorem key_segments {req : RequestWatch} (plain : PlainRequest req) :
    (getKeyFromRequestWatch req).toList.splitOn '/' =
      [req.crdName.toList, req.ns.toList, req.resource.toList, req.name.toList] := by
  rw [getKeyFromRequestWatch,
    joinKey_plain plain.crdName.1 plain.ns.1 plain.resource.1 plain.name.1,
    segments_cons plain.crdName.2, segments_cons plain.ns.2, segments_cons plain.resource.2,
    List.splitOn_eq_singleton plain.name.2]

theorem key_injective {a b : RequestWatch} (plain_a : PlainRequest a) (plain_b : PlainRequest b)
    (same : getKeyFromRequestWatch a = getKeyFromRequestWatch b) : a = b := by
  have parts := key_segments plain_a
  rw [same, key_segments plain_b] at parts
  obtain ⟨_, _, _, _⟩ := a
  obtain ⟨_, _, _, _⟩ := b
  simp only [List.cons.injEq, String.toList_inj, and_true] at parts
  obtain ⟨rfl, rfl, rfl, rfl⟩ := parts
  rfl

theorem belongsTo_iff {crdName ns : String} {req : RequestWatch} (name : Plain crdName)
    (own : Plain ns) (plain : PlainRequest req) :
    belongsTo crdName ns (getKeyFromRequestWatch req) = true ↔
      req.crdName = crdName ∧ req.ns = ns := by
  have start : (toLower crdName ++ "/" ++ toLower ns ++ "/").toList =
      (crdName.toList ++ '/' :: ns.toList) ++ ['/'] := by
    simp [name.1, own.1]
  have front : (crdName.toList ++ '/' :: ns.toList).splitOn '/' = [crdName.toList, ns.toList] := by
    rw [segments_cons name.2, List.splitOn_eq_singleton own.2]
  have longer : crdName.toList ++ '/' :: ns.toList ≠ (getKeyFromRequestWatch req).toList := by
    intro same
    have parts := key_segments plain
    rw [← same, front] at parts
    simp at parts
  rw [belongsTo, start, List.isPrefixOf_iff_prefix, closed_prefix_iff, front, key_segments plain]
  constructor
  · rintro ⟨starts, _⟩
    obtain ⟨same_name, behind⟩ := List.cons_prefix_cons.mp starts
    obtain ⟨same_ns, _⟩ := List.cons_prefix_cons.mp behind
    exact ⟨String.toList_inj.mp same_name.symm, String.toList_inj.mp same_ns.symm⟩
  · rintro ⟨rfl, rfl⟩
    exact ⟨List.prefix_append _ [req.resource.toList, req.name.toList], longer⟩

/-- The older spellings of a kind name the same resource as the kind does. -/
theorem getScaleTargetRef_resource (spec : ElastiServiceSpec) :
    kindToResource (getScaleTargetRef spec).kind = kindToResource spec.scaleTargetRef.kind ∧
      (getScaleTargetRef spec).name = spec.scaleTargetRef.name := by
  by_cases deployments : spec.scaleTargetRef.kind = "deployments"
  · simp only [getScaleTargetRef, deployments]
    decide
  · by_cases rollouts : spec.scaleTargetRef.kind = "rollouts"
    · simp only [getScaleTargetRef, rollouts]
      decide
    · simp [getScaleTargetRef]

theorem targetKey_getKey (req : Request) (ref : ScaleTargetRef) :
    targetKey req ref = getKey ⟨req.ns, req.name, kindToResource ref.kind, ref.name⟩ := by
  rw [targetKey, getKey]

theorem targetKey_normalised (req : Request) (spec : ElastiServiceSpec) :
    targetKey req (getScaleTargetRef spec) = targetKey req spec.scaleTargetRef := by
  obtain ⟨resource, name⟩ := getScaleTargetRef_resource spec
  rw [targetKey, resource, name, targetKey]

end InformerKeys
