import Elasti.ElastiService
import Elasti.GoJsonCodec
import Elasti.ProbeRules

/- The whole ElastiServiceSpec and the JSON it travels as. The operator writes it with Marshal,
   the resolver reads it with Unmarshal; the API server has admitted it, so the machine integers
   are in range and the metadata of a trigger is a JSON value of bounded nesting. -/
namespace SpecText
open GoJson GoJsonText GoJsonCodec
open ProbeRules (ProbeResponse ProbeResponsePathMatch NamedMatch ProbeResponseRule)

structure EnabledPeriod where
  schedule : String
  duration : String
  deriving DecidableEq, Repr

structure ScaleTrigger where
  type : String
  metadata : Option Json

structure ElastiServiceSpec extends V1Alpha1.ElastiServiceSpec where
  probeResponse : List ProbeResponseRule
  triggers : List ScaleTrigger
  enabledPeriod : Option EnabledPeriod

def scaleTargetRef : Codec V1Alpha1.ScaleTargetRef :=
  Codec.record "v1alpha1.ScaleTargetRef" ⟨"", "", ""⟩
    [always "apiVersion" Codec.string (·.apiVersion) (fun x s => { s with apiVersion := x })
        (fun _ => rfl),
      always "kind" Codec.string (·.kind) (fun x s => { s with kind := x }) (fun _ => rfl),
      always "name" Codec.string (·.name) (fun x s => { s with name := x }) (fun _ => rfl)]
    (by decide +kernel) (fun _ => ⟨rfl, rfl, rfl, rfl⟩)

def autoscalerSpec : Codec V1Alpha1.AutoscalerSpec :=
  Codec.record "v1alpha1.AutoscalerSpec" ⟨"", ""⟩
    [always "type" Codec.string (·.type) (fun x s => { s with type := x }) (fun _ => rfl),
      always "name" Codec.string (·.name) (fun x s => { s with name := x }) (fun _ => rfl)]
    (by decide +kernel) (fun _ => ⟨rfl, rfl, rfl⟩)

def enabledPeriod : Codec EnabledPeriod :=
  Codec.record "v1alpha1.EnabledPeriod" ⟨"", ""⟩
    [omitString "schedule" (·.schedule) (fun x s => { s with schedule := x }) (fun _ => rfl),
      omitString "duration" (·.duration) (fun x s => { s with duration := x }) (fun _ => rfl)]
    (by decide +kernel) (fun _ => ⟨rfl, rfl, rfl⟩)

def scaleTrigger : Codec ScaleTrigger :=
  Codec.record "v1alpha1.ScaleTrigger" ⟨"", none⟩
    [always "type" Codec.string (·.type) (fun x s => { s with type := x }) (fun _ => rfl),
      omitRaw "metadata" (·.metadata) (fun x s => { s with metadata := x }) (fun _ => rfl)]
    (by decide +kernel) (fun _ => ⟨rfl, rfl, rfl⟩)

def probeResponsePathMatch : Codec ProbeResponsePathMatch :=
  Codec.record "v1alpha1.ProbeResponsePathMatch" ⟨[], []⟩
    [omitChars "type" (·.type) (fun x s => { s with type := x }) (fun _ => rfl),
      omitChars "value" (·.value) (fun x s => { s with value := x }) (fun _ => rfl)]
    (by decide +kernel) (fun _ => ⟨rfl, rfl, rfl⟩)

def namedMatch (type : String) : Codec NamedMatch :=
  Codec.record type ⟨[], [], []⟩
    [always "name" Codec.chars (·.name) (fun x s => { s with name := x }) (fun _ => rfl),
      omitChars "type" (·.type) (fun x s => { s with type := x }) (fun _ => rfl),
      always "value" Codec.chars (·.value) (fun x s => { s with value := x }) (fun _ => rfl)]
    (by decide +kernel) (fun _ => ⟨rfl, rfl, rfl, rfl⟩)

def probeResponse : Codec ProbeResponse :=
  Codec.record "v1alpha1.ProbeResponse" ⟨0, []⟩
    [always "status" (Codec.integer "int" 64) (·.status) (fun x s => { s with status := x })
        (fun _ => rfl),
      always "body" Codec.chars (·.body) (fun x s => { s with body := x }) (fun _ => rfl)]
    (by decide +kernel) (fun _ => ⟨rfl, rfl, rfl⟩)

def probeResponseRule : Codec ProbeResponseRule :=
  Codec.record "v1alpha1.ProbeResponseRule" ⟨none, [], [], none, ⟨0, []⟩⟩
    [omitNil "path" probeResponsePathMatch (fun _ null => nomatch null) (·.path)
        (fun x s => { s with path := x }) (fun _ => rfl),
      omitEmpty "headers" "[]v1alpha1.ProbeResponseHeaderMatch"
        (namedMatch "v1alpha1.ProbeResponseHeaderMatch") (·.headers)
        (fun x s => { s with headers := x }) (fun _ => rfl),
      omitEmpty "queryParams" "[]v1alpha1.ProbeResponseQueryParamMatch"
        (namedMatch "v1alpha1.ProbeResponseQueryParamMatch") (·.queryParams)
        (fun x s => { s with queryParams := x }) (fun _ => rfl),
      omitNil "method" Codec.chars (fun _ null => nomatch null) (·.method)
        (fun x s => { s with method := x }) (fun _ => rfl),
      always "response" probeResponse (·.response) (fun x s => { s with response := x })
        (fun _ => rfl)]
    (by decide +kernel) (fun _ => ⟨rfl, rfl, rfl, rfl, rfl, rfl⟩)

def elastiServiceSpec : Codec ElastiServiceSpec :=
  Codec.record "v1alpha1.ElastiServiceSpec"
    { scaleTargetRef := ⟨"", "", ""⟩, service := "", minTargetReplicas := 0, cooldownPeriod := 0,
      autoscaler := none, probeResponse := [], triggers := [], enabledPeriod := none }
    [always "scaleTargetRef" scaleTargetRef (·.scaleTargetRef)
        (fun x s => { s with scaleTargetRef := x }) (fun _ => rfl),
      always "service" Codec.string (·.service) (fun x s => { s with service := x }) (fun _ => rfl),
      omitEmpty "probeResponse" "[]v1alpha1.ProbeResponseRule" probeResponseRule (·.probeResponse)
        (fun x s => { s with probeResponse := x }) (fun _ => rfl),
      omitInt32 "minTargetReplicas" (·.minTargetReplicas)
        (fun x s => { s with minTargetReplicas := x }) (fun _ => rfl),
      omitInt32 "cooldownPeriod" (·.cooldownPeriod) (fun x s => { s with cooldownPeriod := x })
        (fun _ => rfl),
      omitEmpty "triggers" "[]v1alpha1.ScaleTrigger" scaleTrigger (·.triggers)
        (fun x s => { s with triggers := x }) (fun _ => rfl),
      omitNil "autoscaler" autoscalerSpec (fun _ null => nomatch null) (·.autoscaler)
        (fun x s => { s with autoscaler := x }) (fun _ => rfl),
      omitNil "enabledPeriod" enabledPeriod (fun _ null => nomatch null) (·.enabledPeriod)
        (fun x s => { s with enabledPeriod := x }) (fun _ => rfl)]
    (by decide +kernel) (fun _ => ⟨rfl, rfl, rfl, rfl, rfl, rfl, rfl, rfl, rfl⟩)

def marshal (spec : ElastiServiceSpec) : List Char := render (elastiServiceSpec.encode spec)

def unmarshal (text : List Char) : Option ElastiServiceSpec :=
  match parse text with
  | none => none
  | some j =>
    match elastiServiceSpec.decoder.run j elastiServiceSpec.zero with
    | (spec, none) => some spec
    | (_, some _) => none

/-- The brackets that the metadata of a trigger may open inside of what holds it. -/
def metadataDepth : Nat := maxNestingDepth - 6

def int32 (n : Int) : Prop := -2 ^ 31 ≤ n ∧ n < 2 ^ 31

instance (n : Int) : Decidable (int32 n) := inferInstanceAs (Decidable (_ ∧ _))

structure Admitted (spec : ElastiServiceSpec) : Prop where
  minTargetReplicas : int32 spec.minTargetReplicas
  cooldownPeriod : int32 spec.cooldownPeriod
  status : ∀ rule ∈ spec.probeResponse,
    -2 ^ 63 ≤ rule.response.status ∧ rule.response.status < 2 ^ 63
  metadata : ∀ trigger ∈ spec.triggers, ∀ j ∈ trigger.metadata, fits j metadataDepth = true

theorem scaleTargetRef_good (depth : Nat) (ref : V1Alpha1.ScaleTargetRef) :
    scaleTargetRef.Good (depth + 1) ref := by
  intro m listed
  simp only [List.mem_cons, List.not_mem_nil, or_false] at listed
  rcases listed with rfl | rfl | rfl <;> exact fun _ => trivial

theorem autoscalerSpec_good (depth : Nat) (autoscaler : V1Alpha1.AutoscalerSpec) :
    autoscalerSpec.Good (depth + 1) autoscaler := by
  intro m listed
  simp only [List.mem_cons, List.not_mem_nil, or_false] at listed
  rcases listed with rfl | rfl <;> exact fun _ => trivial

theorem enabledPeriod_good (depth : Nat) (period : EnabledPeriod) :
    enabledPeriod.Good (depth + 1) period := by
  intro m listed
  simp only [List.mem_cons, List.not_mem_nil, or_false] at listed
  rcases listed with rfl | rfl <;> exact fun _ => trivial

theorem probeResponsePathMatch_good (depth : Nat) (path : ProbeResponsePathMatch) :
    probeResponsePathMatch.Good (depth + 1) path := by
  intro m listed
  simp only [List.mem_cons, List.not_mem_nil, or_false] at listed
  rcases listed with rfl | rfl <;> exact fun _ => trivial

theorem namedMatch_good (depth : Nat) (type : String) (rule : NamedMatch) :
    (namedMatch type).Good (depth + 1) rule := by
  intro m listed
  simp only [List.mem_cons, List.not_mem_nil, or_false] at listed
  rcases listed with rfl | rfl | rfl <;> exact fun _ => trivial

theorem probeResponse_good {response : ProbeResponse} (depth : Nat)
    (range : -2 ^ 63 ≤ response.status ∧ response.status < 2 ^ 63) :
    probeResponse.Good (depth + 1) response := by
  intro m listed
  simp only [List.mem_cons, List.not_mem_nil, or_false] at listed
  rcases listed with rfl | rfl
  · exact fun _ => range
  · exact fun _ => trivial

theorem probeResponseRule_good {rule : ProbeResponseRule} (depth : Nat)
    (range : -2 ^ 63 ≤ rule.response.status ∧ rule.response.status < 2 ^ 63) :
    probeResponseRule.Good (depth + 3) rule := by
  intro m listed
  simp only [List.mem_cons, List.not_mem_nil, or_false] at listed
  rcases listed with rfl | rfl | rfl | rfl | rfl
  · exact fun _ => Codec.good_pointer fun path _ => probeResponsePathMatch_good (depth + 1) path
  · exact fun _ header _ => namedMatch_good depth _ header
  · exact fun _ param _ => namedMatch_good depth _ param
  · exact fun _ => Codec.good_pointer fun _ _ => trivial
  · exact fun _ => probeResponse_good (depth + 1) range

theorem scaleTrigger_good {trigger : ScaleTrigger} {depth : Nat}
    (metadata : ∀ j ∈ trigger.metadata, fits j depth = true) :
    scaleTrigger.Good (depth + 1) trigger := by
  intro m listed
  simp only [List.mem_cons, List.not_mem_nil, or_false] at listed
  rcases listed with rfl | rfl
  · exact fun _ => trivial
  · intro present
    cases held : trigger.metadata with
    | none => simp [held] at present
    | some j => exact ⟨j, held, metadata j held⟩

theorem elastiServiceSpec_good {spec : ElastiServiceSpec} (admitted : Admitted spec) :
    elastiServiceSpec.Good (metadataDepth + 3) spec := by
  intro m listed
  simp only [List.mem_cons, List.not_mem_nil, or_false] at listed
  rcases listed with rfl | rfl | rfl | rfl | rfl | rfl | rfl | rfl
  · exact fun _ => scaleTargetRef_good _ _
  · exact fun _ => trivial
  · exact fun _ rule member => probeResponseRule_good _ (admitted.status rule member)
  · exact fun _ => admitted.minTargetReplicas
  · exact fun _ => admitted.cooldownPeriod
  · exact fun _ trigger member => scaleTrigger_good (admitted.metadata trigger member)
  · exact fun _ => Codec.good_pointer fun autoscaler _ => autoscalerSpec_good _ autoscaler
  · exact fun _ => Codec.good_pointer fun period _ => enabledPeriod_good _ period

theorem marshal_unmarshal {spec : ElastiServiceSpec} (admitted : Admitted spec) :
    unmarshal (marshal spec) = some spec := by
  have good := elastiServiceSpec_good admitted
  have fit : fits (elastiServiceSpec.encode spec) maxNestingDepth = true :=
    fits_mono (elastiServiceSpec.fits_encode good) (by decide)
  rw [unmarshal, marshal, parse_render fit]
  simp only [elastiServiceSpec.read_back good]

end SpecText
