import Elasti.ScaleDecision
import Elasti.ScalerVerdict

/- The decision of a tick down to the answers of Prometheus. Each trigger asks for the uptime of
   Prometheus and then for its own metric, and all of them decode into the one package variable,
   which is passed from query to query here. -/
namespace PromDecision
open GoJson PrometheusQuery ScalerVerdict ScalingRuns
open ScaleDecision (EnabledPeriod)

def defaultUptimeFilter : String := "container=\"prometheus\""

def uptimeQuery (filter : String) (seconds : Int) : String :=
  "min_over_time((max(up\x7b" ++ filter ++ "\x7d) or vector(0))[" ++ toString seconds ++ "s:])"

def ceilSeconds (duration : Int) : Int := -((-duration) / 1000000000)

/-- A scaler that NewPrometheusScaler has made, with what the HTTP client makes of the two
    requests that it sends in a tick. -/
structure Asker where
  s : ThresholdScaler
  uptimeFilter : String
  uptimeTime : String
  uptimeAnswer : Request → Except String Response
  time : String
  answer : Request → Except String Response

def Asker.metric (a : Asker) : Asked := ⟨a.s, a.time, a.answer⟩

def Asker.uptime (cooldownPeriod : Int) (a : Asker) : Query :=
  let uptimeFilter := if a.uptimeFilter = "" then defaultUptimeFilter else a.uptimeFilter
  ⟨a.s.scaler, uptimeQuery uptimeFilter (ceilSeconds cooldownPeriod), a.uptimeTime, a.uptimeAnswer⟩

structure PromTrigger where
  type : String
  newPrometheusScaler : Except String Asker

structure PromPolicy where
  creationTimestamp : Int
  triggers : List PromTrigger
  enabledPeriod : Option EnabledPeriod

inductive Decided where
  | returned (direction : Except String ScaleDirection)
  | panicked (text : String)

def createScalerForTrigger (t : PromTrigger) : Except String Asker :=
  if t.type = "prometheus" then
    match t.newPrometheusScaler with
    | .error text => .error ("failed to create scaler: " ++ text)
    | .ok scaler => .ok scaler
  else .error ("unsupported trigger type: " ++ t.type)

section Decision
variable (lib : Library) (clock : ScaleDecision.Library) (quote : String → String)
  (cooldownPeriod : Int)

def isHealthy (a : Asker) (old : PromQueryResponse) : PromQueryResponse × Verdict :=
  let (response, returned) := executePromQuery lib (a.uptime cooldownPeriod) old
  match returned with
  | .error err => (response, .answered false (some err))
  | .panicked text => (response, .panicked text)
  | .value metricValue => (response, .answered (metricValue = .finite 1) none)

/-- The loop's body: what it returns, or that it goes on to the next trigger. -/
def checkTrigger (t : PromTrigger) (old : PromQueryResponse) : PromQueryResponse × Option Decided :=
  match createScalerForTrigger t with
  | .error text => (old, some (.returned (.error ("failed to create scaler: " ++ text))))
  | .ok scaler =>
    match isHealthy lib cooldownPeriod scaler old with
    | (response, .panicked text) => (response, some (.panicked text))
    | (response, .answered _ (some _)) =>
      (response, some (.returned (.error ("scaler: " ++ t.type ++ ", cooldownPeriod: " ++
        clock.durationString cooldownPeriod ++ ", is not healthy"))))
    | (response, .answered false none) => (response, some (.returned (.ok .noScale)))
    | (response, .answered true none) =>
      match shouldScaleToZero lib scaler.metric response with
      | (response, .panicked text) => (response, some (.panicked text))
      | (response, .answered _ (some err)) =>
        (response, some (.returned (.error ("failed to check scaler: " ++
          verdictErrText quote scaler.metric err))))
      | (response, .answered false none) => (response, some (.returned (.ok .scaleUp)))
      | (response, .answered true none) => (response, none)

def checkTriggers : List PromTrigger → PromQueryResponse → PromQueryResponse × Decided
  | [], old => (old, .returned (.ok .scaleDown))
  | t :: rest, old =>
    match checkTrigger lib clock quote cooldownPeriod t old with
    | (response, some decided) => (response, decided)
    | (response, none) => checkTriggers rest response

def calculateScaleDirection (now : Int) (es : PromPolicy) (old : PromQueryResponse) :
    PromQueryResponse × Decided :=
  if es.triggers.isEmpty then (old, .returned (.error "no triggers found"))
  else if now < es.creationTimestamp + cooldownPeriod then (old, .returned (.ok .noScale))
  else
    match es.enabledPeriod with
    | none => checkTriggers lib clock quote cooldownPeriod es.triggers old
    | some period =>
      match ScaleDecision.isInEnabledPeriod clock period with
      | .error _ => (old, .returned (.ok .scaleUp))
      | .ok false => (old, .returned (.ok .scaleUp))
      | .ok true => checkTriggers lib clock quote cooldownPeriod es.triggers old

def answerOf : Verdict → Except String Bool
  | .answered scale none => .ok scale
  | .answered _ (some err) => .error (err.text quote)
  | .panicked text => .error text

def scalerOf (a : Asker) : ScaleDecision.Scaler where
  isHealthy := answerOf quote (isHealthy lib cooldownPeriod a zeroResponse).2
  shouldScaleToZero := answerOf quote (shouldScaleToZero lib a.metric zeroResponse).2

def triggerOf (t : PromTrigger) : ScaleDecision.ScaleTrigger :=
  ⟨t.type, t.newPrometheusScaler.map (scalerOf lib quote cooldownPeriod)⟩

def policyOf (es : PromPolicy) : ScaleDecision.Policy :=
  ⟨es.creationTimestamp, es.triggers.map (triggerOf lib quote cooldownPeriod), es.enabledPeriod⟩

def OwnResults (q : Query) : Prop :=
  ∀ body, fetch lib q = .ok body → (responseDecoder lib).error body = none → SelfContained lib body

structure OwnAnswers (a : Asker) : Prop where
  uptime : OwnResults lib (a.uptime cooldownPeriod)
  metric : OwnResults lib a.metric.query

def Sampled (q : Query) (r : ℚ) : Prop :=
  ∃ text, CarriesSample lib q (.string text) ∧ lib.parseFloat text = .ok (.finite r)

end Decision

section Sample
variable {lib : Library} {q : Query}

theorem ownResults_same (own : OwnResults lib q) (old : PromQueryResponse) :
    (executePromQuery lib q old).2 = (executePromQuery lib q zeroResponse).2 := by
  cases fetched : fetch lib q with
  | error err => simp only [executePromQuery, fetched]
  | ok body =>
    cases error : (responseDecoder lib).error body with
    | some err => simp only [executePromQuery, fetched, (responseDecoder lib).run_error, error]
    | none => exact result_of_selfContained lib fetched error (own body fetched error) _ _

theorem readValue_value {s : PrometheusScaler} {items : List (Any Float64)} {v : Float64}
    (read : readValue lib s items = .value v) :
    (∃ time rest, items = time :: .nil :: rest ∧ v = .finite (-1)) ∨
      ∃ time text rest, items = time :: .string text :: rest ∧ lib.parseFloat text = .ok v ∧
        ∀ negative, v ≠ .inf negative := by
  cases items with
  | nil => cases read
  | cons time rest =>
    cases rest with
    | nil => cases read
    | cons sample rest =>
      cases sample with
      | nil =>
        cases read
        exact .inl ⟨time, rest, rfl, rfl⟩
      | string text =>
        refine .inr ⟨time, text, rest, rfl, ?_⟩
        simp only [readValue] at read
        split at read
        · cases read
        · cases read
        · rename_i parsed finite
          cases read
          exact ⟨finite, parsed⟩
      | bool b => cases read
      | float64 f => cases read
      | slice items => cases read
      | map entries => cases read

theorem value_sampled (own : OwnResults lib q) {old : PromQueryResponse} {v : Float64}
    (returned : (executePromQuery lib q old).2 = .value v) :
    v = .finite (-1) ∨ ((∀ negative, v ≠ .inf negative) ∧
      ∃ text, CarriesSample lib q (.string text) ∧ lib.parseFloat text = .ok v) := by
  cases fetched : fetch lib q with
  | error err =>
    simp only [executePromQuery, fetched] at returned
    cases returned
  | ok body =>
    cases clean : (responseDecoder lib).error body with
    | some err =>
      simp only [executePromQuery, fetched, (responseDecoder lib).run_error, clean] at returned
      cases returned
    | none =>
      rw [executePromQuery_result lib fetched clean] at returned
      obtain ⟨counted, valued⟩ := own body fetched clean
      obtain ⟨n, count⟩ := Option.isSome_iff_exists.mp counted
      rw [count, Option.getD_some] at returned
      split at returned
      · cases returned
      · split at returned
        · rename_i one
          rw [one] at count
          obtain ⟨items, given⟩ := Option.isSome_iff_exists.mp (valued count)
          rw [given, Option.getD_some] at returned
          rcases readValue_value returned with ⟨-, -, -, null⟩ | ⟨time, text, rest, rfl, parsed, finite⟩
          · exact .inl null
          · exact .inr ⟨finite, text, ⟨body, time, rest, fetched, clean, count, given⟩, parsed⟩
        · cases returned

theorem sampled_value {r : ℚ} (sampled : Sampled lib q r) (old : PromQueryResponse) :
    (executePromQuery lib q old).2 = .value (.finite r) := by
  obtain ⟨text, carries, parsed⟩ := sampled
  obtain ⟨time, rest, returned⟩ := executePromQuery_sample carries old
  simp only [readValue, parsed] at returned
  exact returned

theorem isHealthy_iff {cooldownPeriod : Int} {a : Asker}
    (own : OwnResults lib (a.uptime cooldownPeriod)) (old : PromQueryResponse) :
    (isHealthy lib cooldownPeriod a old).2 = .answered true none ↔
      Sampled lib (a.uptime cooldownPeriod) 1 := by
  constructor
  · intro healthy
    cases returned : (executePromQuery lib (a.uptime cooldownPeriod) old).2 with
    | error err => simp [isHealthy, returned] at healthy
    | panicked text => simp [isHealthy, returned] at healthy
    | value v =>
      simp only [isHealthy, returned, Verdict.answered.injEq, decide_eq_true_eq, and_true] at healthy
      subst healthy
      rcases value_sampled own returned with null | ⟨-, text, carries, parsed⟩
      · exact absurd (Float64.finite.inj null) (by norm_num)
      · exact ⟨text, carries, parsed⟩
  · intro sampled
    simp [isHealthy, sampled_value sampled old]

theorem shouldScaleToZero_iff {a : Asked} (own : OwnResults lib a.query) (old : PromQueryResponse) :
    (shouldScaleToZero lib a old).2 = .answered true none ↔
      ∃ r, Sampled lib a.query r ∧ r ≠ -1 ∧ r < a.s.threshold := by
  constructor
  · intro idle
    cases returned : (executePromQuery lib a.query old).2 with
    | error err => simp [shouldScaleToZero, returned, judge] at idle
    | panicked text => simp [shouldScaleToZero, returned, judge] at idle
    | value v =>
      simp only [shouldScaleToZero, returned, judge] at idle
      split at idle
      · simp at idle
      · rename_i other
        rcases value_sampled own returned with null | ⟨finite, text, carries, parsed⟩
        · exact absurd null other
        · cases v with
          | nan => simp [lessThan] at idle
          | inf negative => exact absurd rfl (finite negative)
          | finite r =>
            have below : r < a.s.threshold := by simpa [lessThan] using idle
            have marked : r ≠ -1 := fun same => other (by rw [same])
            exact ⟨r, ⟨text, carries, parsed⟩, marked, below⟩
  · rintro ⟨r, sampled, other, below⟩
    simp [shouldScaleToZero, sampled_value sampled old, judge, other, lessThan, below]

theorem isHealthy_same {cooldownPeriod : Int} {a : Asker}
    (own : OwnResults lib (a.uptime cooldownPeriod)) (old : PromQueryResponse) :
    (isHealthy lib cooldownPeriod a old).2 = (isHealthy lib cooldownPeriod a zeroResponse).2 := by
  have same := ownResults_same own old
  simp only [isHealthy]
  rw [same]
  cases (executePromQuery lib (a.uptime cooldownPeriod) zeroResponse).2 <;> rfl

theorem shouldScaleToZero_same {a : Asked} (own : OwnResults lib a.query)
    (old : PromQueryResponse) :
    (shouldScaleToZero lib a old).2 = (shouldScaleToZero lib a zeroResponse).2 := by
  simp only [shouldScaleToZero]
  rw [ownResults_same own old]

end Sample

/-- The same decision, or none on both sides; a panic stands for an error. -/
inductive Agrees : Option Decided → Option (Except String ScaleDirection) → Prop where
  | next : Agrees none none
  | same (d : ScaleDirection) : Agrees (some (.returned (.ok d))) (some (.ok d))
  | failed (text other : String) : Agrees (some (.returned (.error text))) (some (.error other))
  | panicked (text other : String) : Agrees (some (.panicked text)) (some (.error other))

section Refinement
variable {lib : Library} (clock : ScaleDecision.Library) (quote : String → String)
  {cooldownPeriod : Int}

def TriggersOwn (lib : Library) (cooldownPeriod : Int) (triggers : List PromTrigger) : Prop :=
  ∀ t ∈ triggers, ∀ a, t.newPrometheusScaler = .ok a → OwnAnswers lib cooldownPeriod a

theorem createScalerForTrigger_view (t : PromTrigger) :
    ScaleDecision.createScalerForTrigger (triggerOf lib quote cooldownPeriod t) =
      (createScalerForTrigger t).map (scalerOf lib quote cooldownPeriod) := by
  unfold ScaleDecision.createScalerForTrigger createScalerForTrigger triggerOf
  dsimp only
  split
  · cases t.newPrometheusScaler <;> rfl
  · rfl

theorem createScalerForTrigger_ok {t : PromTrigger} {a : Asker}
    (created : createScalerForTrigger t = .ok a) :
    t.type = "prometheus" ∧ t.newPrometheusScaler = .ok a := by
  unfold createScalerForTrigger at created
  split at created
  · rename_i type
    split at created
    · cases created
    · rename_i made
      cases created
      exact ⟨type, made⟩
  · cases created

theorem checkTrigger_agrees {t : PromTrigger}
    (own : ∀ a, t.newPrometheusScaler = .ok a → OwnAnswers lib cooldownPeriod a)
    (old : PromQueryResponse) :
    Agrees (checkTrigger lib clock quote cooldownPeriod t old).2
      (ScaleDecision.checkTrigger clock cooldownPeriod (triggerOf lib quote cooldownPeriod t)) := by
  unfold checkTrigger ScaleDecision.checkTrigger
  rw [createScalerForTrigger_view]
  cases created : createScalerForTrigger t with
  | error text => exact .failed _ _
  | ok a =>
    have answers := own a (createScalerForTrigger_ok created).2
    have health := isHealthy_same answers.uptime old
    simp only [Except.map, scalerOf]
    rw [← health]
    rcases isHealthy lib cooldownPeriod a old with ⟨response, verdict⟩
    cases verdict with
    | panicked text => exact .panicked _ _
    | answered scale err =>
      cases err with
      | some err => exact .failed _ _
      | none =>
        cases scale with
        | false => exact .same _
        | true =>
          have metric := shouldScaleToZero_same answers.metric response
          simp only [answerOf]
          rw [← metric]
          rcases shouldScaleToZero lib a.metric response with ⟨after, verdict⟩
          cases verdict with
          | panicked text => exact .panicked _ _
          | answered scale err =>
            cases err with
            | some err => exact .failed _ _
            | none =>
              cases scale with
              | false => exact .same _
              | true => exact .next

/-- The loop over the triggers decides as the loop over their answers does, whatever the queries
    before have left in the package variable. -/
theorem checkTriggers_refines (d : ScaleDirection) (triggers : List PromTrigger)
    (own : TriggersOwn lib cooldownPeriod triggers) (old : PromQueryResponse) :
    (checkTriggers lib clock quote cooldownPeriod triggers old).2 = .returned (.ok d) ↔
      ScaleDecision.checkTriggers clock cooldownPeriod
        (triggers.map (triggerOf lib quote cooldownPeriod)) = .ok d := by
  induction triggers generalizing old with
  | nil => simp [checkTriggers, ScaleDecision.checkTriggers]
  | cons t rest ih =>
    have agrees := checkTrigger_agrees clock quote (own t List.mem_cons_self) old
    rw [checkTriggers, List.map_cons, ScaleDecision.checkTriggers]
    generalize checkTrigger lib clock quote cooldownPeriod t old = checked at agrees ⊢
    generalize ScaleDecision.checkTrigger clock cooldownPeriod
      (triggerOf lib quote cooldownPeriod t) = answered at agrees ⊢
    obtain ⟨response, decided⟩ := checked
    dsimp only at agrees
    cases agrees with
    | next => exact ih (fun u member => own u (List.mem_cons_of_mem t member)) response
    | same d => simp
    | failed text other => simp
    | panicked text other => simp

theorem calculateScaleDirection_refines (d : ScaleDirection) (now : Int) {es : PromPolicy}
    (own : TriggersOwn lib cooldownPeriod es.triggers) (old : PromQueryResponse) :
    (calculateScaleDirection lib clock quote cooldownPeriod now es old).2 = .returned (.ok d) ↔
      ScaleDecision.calculateScaleDirection clock cooldownPeriod now
        (policyOf lib quote cooldownPeriod es) = .ok d := by
  have loop := checkTriggers_refines clock quote d es.triggers own old
  have empty : (es.triggers.map (triggerOf lib quote cooldownPeriod)).isEmpty = es.triggers.isEmpty := by
    cases es.triggers <;> rfl
  simp only [calculateScaleDirection, ScaleDecision.calculateScaleDirection, policyOf, empty]
  by_cases none_there : es.triggers.isEmpty = true
  · simp [none_there]
  · by_cases recent : now < es.creationTimestamp + cooldownPeriod
    · simp [none_there, recent]
    · simp only [none_there, recent, Bool.false_eq_true, if_false]
      cases es.enabledPeriod with
      | none => exact loop
      | some period =>
        cases inside : ScaleDecision.isInEnabledPeriod clock period with
        | error text => simp [inside]
        | ok enabled =>
          cases enabled with
          | false => simp [inside]
          | true =>
            simp only [inside]
            exact loop

def ShownIdle (lib : Library) (cooldownPeriod : Int) (t : PromTrigger) : Prop :=
  t.type = "prometheus" ∧ ∃ a, t.newPrometheusScaler = .ok a ∧
    Sampled lib (a.uptime cooldownPeriod) 1 ∧
    ∃ r, Sampled lib a.metric.query r ∧ r ≠ -1 ∧ r < a.s.threshold

theorem answerOf_true {v : Verdict} : answerOf quote v = .ok true ↔ v = .answered true none := by
  cases v with
  | panicked text => simp [answerOf]
  | answered scale err => cases err <;> simp [answerOf]

theorem healthyAndIdle_iff {t : PromTrigger}
    (own : ∀ a, t.newPrometheusScaler = .ok a → OwnAnswers lib cooldownPeriod a) :
    ScaleDecision.HealthyAndIdle (triggerOf lib quote cooldownPeriod t) ↔
      ShownIdle lib cooldownPeriod t := by
  unfold ScaleDecision.HealthyAndIdle
  rw [createScalerForTrigger_view]
  constructor
  · rintro ⟨scaler, created, health, idle⟩
    cases made : createScalerForTrigger t with
    | error text =>
      rw [made] at created
      cases created
    | ok a =>
      rw [made] at created
      cases created
      obtain ⟨type, new⟩ := createScalerForTrigger_ok made
      have answers := own a new
      exact ⟨type, a, new, (isHealthy_iff answers.uptime _).mp ((answerOf_true quote).mp health),
        (shouldScaleToZero_iff answers.metric _).mp ((answerOf_true quote).mp idle)⟩
  · rintro ⟨type, a, new, up, metric⟩
    have answers := own a new
    have made : createScalerForTrigger t = .ok a := by
      simp only [createScalerForTrigger, type, new, if_true]
    refine ⟨scalerOf lib quote cooldownPeriod a, by rw [made]; rfl, ?_, ?_⟩
    · exact (answerOf_true quote).mpr ((isHealthy_iff answers.uptime _).mpr up)
    · exact (answerOf_true quote).mpr ((shouldScaleToZero_iff answers.metric _).mpr metric)

/-- Whatever earlier ticks have left in the package variable, as long as the responses of this
    tick give their own results: the decision is to scale down exactly if there are triggers,
    the cooldown since the creation is over, the enabled period allows it, and the responses
    of every trigger show Prometheus up and a metric below the threshold other than -1. -/
theorem scaleDown_by_samples (now : Int) {es : PromPolicy}
    (own : TriggersOwn lib cooldownPeriod es.triggers) (old : PromQueryResponse) :
    (calculateScaleDirection lib clock quote cooldownPeriod now es old).2 =
        .returned (.ok .scaleDown) ↔
      es.triggers ≠ [] ∧ es.creationTimestamp + cooldownPeriod ≤ now ∧
        (∀ period ∈ es.enabledPeriod, ScaleDecision.isInEnabledPeriod clock period = .ok true) ∧
        ∀ t ∈ es.triggers, ShownIdle lib cooldownPeriod t := by
  rw [calculateScaleDirection_refines clock quote .scaleDown now own old,
    ScaleDecision.calculate_scaleDown]
  have triggers : (∀ t ∈ (policyOf lib quote cooldownPeriod es).triggers,
      ScaleDecision.HealthyAndIdle t) ↔ ∀ t ∈ es.triggers, ShownIdle lib cooldownPeriod t := by
    simp only [policyOf, List.forall_mem_map]
    exact forall₂_congr fun t member => healthyAndIdle_iff quote (own t member)
  constructor
  · rintro ⟨some_trigger, old, inside, idle⟩
    refine ⟨fun none => some_trigger ?_, old, inside, triggers.mp idle⟩
    simp [policyOf, none]
  · rintro ⟨some_trigger, old, inside, idle⟩
    refine ⟨fun none => some_trigger ?_, old, inside, triggers.mpr idle⟩
    simpa [policyOf] using none

end Refinement

def sampleBody (text : String) : Json :=
  .obj [("data", .obj [("result", .arr [.obj [("value", .arr [.null, .str text])]])])]

theorem sampleBody_carried (lib : Library) (q : Query) (text : String)
    (fetched : fetch lib q = .ok (sampleBody text)) :
    OwnResults lib q ∧ CarriesSample lib q (.string text) := by
  have count : givenCount (sampleBody text) = some 1 := rfl
  have value : givenValue lib (sampleBody text) = some [.nil, .string text] := rfl
  have metric : (foldName "metric" == foldName "value") = false := by decide
  have resultType : (foldName "resultType" == foldName "result") = false := by decide
  have status : (foldName "status" == foldName "data") = false := by decide
  have clean : (responseDecoder lib).error (sampleBody text) = none := by
    simp [sampleBody, responseDecoder, dataDecoder, resultDecoder, elementDecoder, valueDecoder,
      struct, slice, any, field, membersError, itemsError, lookup, valueInterface, metric,
      resultType, status]
  refine ⟨?_, sampleBody text, .nil, [], fetched, clean, count, value⟩
  intro body same _
  cases fetched.symm.trans same
  exact ⟨by rw [count]; rfl, fun _ => by rw [value]; rfl⟩

def quiet : Asker where
  s := ⟨⟨⟨"http://prometheus:9090", "rate", []⟩, "", [], []⟩, 5, by
    simpa using Rounding.binary64_int (n := 5) (by decide)⟩
  uptimeFilter := ""
  uptimeTime := "2025-01-01T00:00:00Z"
  uptimeAnswer := fun _ => .ok ⟨200, "200 OK", .ok (sampleBody "1")⟩
  time := "2025-01-01T00:00:01Z"
  answer := fun _ => .ok ⟨200, "200 OK", .ok (sampleBody "1")⟩

def quietPolicy : PromPolicy := ⟨0, [⟨"prometheus", .ok quiet⟩], none⟩

theorem quiet_scales_down :
    (calculateScaleDirection oneAndFive ScaleDecision.noPeriods id (15 * V1Alpha1.second)
      (20 * V1Alpha1.second) quietPolicy (afterHistory oneAndFive [upQuery fiveSample])).2 =
        .returned (.ok .scaleDown) := by
  obtain ⟨ownUptime, carriesUptime⟩ := sampleBody_carried oneAndFive
    (quiet.uptime (15 * V1Alpha1.second)) "1" rfl
  obtain ⟨ownMetric, carriesMetric⟩ := sampleBody_carried oneAndFive
    quiet.metric.query "1" rfl
  have own : TriggersOwn oneAndFive (15 * V1Alpha1.second) quietPolicy.triggers := by
    intro t member a made
    rw [List.mem_singleton.mp member] at made
    cases made
    exact ⟨ownUptime, ownMetric⟩
  refine (scaleDown_by_samples ScaleDecision.noPeriods id (20 * V1Alpha1.second) own _).mpr
    ⟨by simp [quietPolicy], by decide, by simp [quietPolicy], ?_⟩
  intro t member
  rw [List.mem_singleton.mp member]
  exact ⟨rfl, quiet, rfl, ⟨"1", carriesUptime, rfl⟩, 1, ⟨"1", carriesMetric, rfl⟩, by norm_num,
    by norm_num [quiet, Asker.metric]⟩

end PromDecision
