import Elasti.ScaleToZero
import Elasti.WatchScope

/- A tick of the poll loop with the passes it consists of: the functions that checkAndScale calls
   for an item are those of ScaleToZero, over the objects of every ElastiService. A target and a
   ScaledObject are taken to belong to one ElastiService. -/
namespace TickPasses
open V1Alpha1 ScaleTarget ScalingRuns ScaleDecision ScaleToZero
open WatchScope (Item Handler Tick Action Cluster visitItem logErr namespaceInScope namespaceAll
  watchNamespaces listNamespaces listed did_did)

abbrev Key := String × String

variable {α : Type}

def itemKey (item : Item α) : Key := (item.ns, item.name)

/-- What the calls of one tick find. A converted item keeps its namespace and name. -/
structure Calls (α : Type) where
  lib : Library
  fromUnstructured : Item α → Except String ElastiService
  policy : ElastiService → Policy
  lastScaledUpTime : ElastiService → Option Int
  failures : ElastiService → Failures
  instant : ElastiService → Int
  named : ∀ item es, fromUnstructured item = .ok es → (es.ns, es.name) = itemKey item

def ToZero.err : ToZero → Option ResizeErr
  | .skipped => none
  | .ended err => err

def scaled [Apimachinery] (es : ElastiService) : Target :=
  let ref := getScaleTargetRef es.spec
  ⟨es.ns, (apiVersionStrToGVK ref.apiVersion ref.kind).toOption.getD ⟨"", "", ref.kind⟩, ref.name⟩

namespace Calls
variable [Apimachinery] (c : Calls α)

def read (es : ElastiService) : Listed := ⟨es.ns, es.spec, c.policy es, c.lastScaledUpTime es⟩

def pass (es : ElastiService) (o : Objects) : Objects × Pass :=
  checkAndScale c.lib (c.failures es) (c.instant es) (c.read es) o

def after (item : Item α) (o : Objects) : Objects :=
  match c.fromUnstructured item with
  | .error _ => o
  | .ok es => (c.pass es o).1

def passActions (es : ElastiService) : Pass → List (Action α)
  | .undecided text => [.log "failed to calculate scale direction" text]
  | .noScale => []
  | .fromZero err => .handleScaleFromZero es ::
      logErr "failed to scale target from zero" (err.map (fromZeroErrText (c.read es) (scaled es)))
  | .toZero outcome => .handleScaleToZero es ::
      logErr "failed to scale target to zero"
        ((ToZero.err outcome).map (toZeroErrText (c.read es) (scaled es)))

def actions (item : Item α) (o : Objects) : List (Action α) :=
  match c.fromUnstructured item with
  | .error err => [.visit item, .log "failed to convert unstructured to ElastiService" err]
  | .ok es => .visit item :: .calculateScaleDirection (resolveCooldownPeriod es.spec) es ::
      c.passActions es (c.pass es o).2

end Calls

def cartService (ns : String) : Item ElastiServiceSpec := ⟨ns, "cart", (cart 60 none).spec⟩

end TickPasses
