import Elasti.Prometheus
import Elasti.Rounding

/- The two verdicts of the Prometheus scaler. A sample that is null travels to them as the
   number -1, next to the numbers that samples hold. -/
namespace ScalerVerdict
open PrometheusQuery Rounding GoJson

structure ThresholdScaler where
  scaler : PrometheusScaler
  threshold : ℚ
  float : threshold ∈ binary64

structure Asked where
  s : ThresholdScaler
  time : String
  answer : Request → Except String Response

def Asked.query (a : Asked) : Query := ⟨a.s.scaler, a.s.scaler.metadata.query, a.time, a.answer⟩

def lessThan (threshold : ℚ) : Float64 → Bool
  | .nan => false
  | .inf negative => negative
  | .finite v => v < threshold

def atLeast (threshold : ℚ) : Float64 → Bool
  | .nan => false
  | .inf negative => !negative
  | .finite v => threshold ≤ v

inductive Verdict where
  | answered (scale : Bool) (err : Option QueryErr)
  | panicked (text : String)
  deriving DecidableEq, Repr

def verdictErrText (quote : String → String) (a : Asked) (err : QueryErr) : String :=
  "failed to execute prometheus query " ++ a.s.scaler.metadata.query ++ ": " ++ err.text quote

/-- The body the two functions share: what they answer without a value, and how they compare
    one. -/
def judge (unavailable : Bool) (compare : Float64 → Bool) : Returned → Verdict
  | .error err => .answered unavailable (some err)
  | .panicked text => .panicked text
  | .value metricValue =>
    if metricValue = .finite (-1) then .answered unavailable none
    else .answered (compare metricValue) none

def shouldScaleToZero (lib : Library) (a : Asked) (old : PromQueryResponse) :
    PromQueryResponse × Verdict :=
  let (response, returned) := executePromQuery lib a.query old
  (response, judge false (lessThan a.s.threshold) returned)

def shouldScaleFromZero (lib : Library) (a : Asked) (old : PromQueryResponse) :
    PromQueryResponse × Verdict :=
  let (response, returned) := executePromQuery lib a.query old
  (response, judge true (atLeast a.s.threshold) returned)

def Verdict.Yes (verdict : Verdict) : Prop := ∃ err, verdict = .answered true err

/-- ParseFloat on the text of a number: a nearest float64, or an error if the number is out of
    range. -/
def ReadsAs (lib : Library) (text : String) (v : ℚ) : Prop :=
  if |v| < overflow then ∃ r, lib.parseFloat text = .ok (.finite r) ∧ Nearest binary64 v r
  else ∃ err, lib.parseFloat text = .error err

def CarriesSample (lib : Library) (q : Query) (sample : Any Float64) : Prop :=
  ∃ body time rest, fetch lib q = .ok body ∧ (responseDecoder lib).error body = none ∧
    givenCount body = some 1 ∧ givenValue lib body = some (time :: sample :: rest)

theorem executePromQuery_sample {lib : Library} {q : Query} {sample : Any Float64}
    (carries : CarriesSample lib q sample) (old : PromQueryResponse) :
    ∃ time rest, (executePromQuery lib q old).2 =
      readValue lib q.scaler (time :: sample :: rest) := by
  obtain ⟨body, time, rest, fetched, clean, count, value⟩ := carries
  exact ⟨time, rest, by simp [executePromQuery_result lib fetched clean, count, value]⟩

section Sample
variable {lib : Library} {a : Asked} {text : String} (old : PromQueryResponse)
  (carries : CarriesSample lib a.query (.string text))

include carries in
theorem unread_verdicts {err : String} (parse : lib.parseFloat text = .error err) :
    ¬ (shouldScaleToZero lib a old).2.Yes ∧ (shouldScaleFromZero lib a old).2.Yes := by
  obtain ⟨time, rest, returned⟩ := executePromQuery_sample carries old
  simp only [readValue, parse] at returned
  simp [shouldScaleToZero, shouldScaleFromZero, returned, judge, Verdict.Yes]

include carries in
theorem read_verdicts {r : ℚ} (parse : lib.parseFloat text = .ok (.finite r)) :
    ((shouldScaleToZero lib a old).2.Yes ↔ r ≠ -1 ∧ r < a.s.threshold) ∧
      ((shouldScaleFromZero lib a old).2.Yes ↔ r = -1 ∨ a.s.threshold ≤ r) := by
  obtain ⟨time, rest, returned⟩ := executePromQuery_sample carries old
  simp only [readValue, parse] at returned
  by_cases marker : r = -1
  · simp [shouldScaleToZero, shouldScaleFromZero, returned, judge, Verdict.Yes, marker]
  · simp [shouldScaleToZero, shouldScaleFromZero, returned, judge, Verdict.Yes, marker, lessThan,
      atLeast]

end Sample

theorem null_verdicts {lib : Library} {a : Asked} (old : PromQueryResponse)
    (carries : CarriesSample lib a.query .nil) :
    (shouldScaleToZero lib a old).2 = .answered false none ∧
      (shouldScaleFromZero lib a old).2 = .answered true none := by
  obtain ⟨time, rest, returned⟩ := executePromQuery_sample carries old
  simp only [readValue] at returned
  simp [shouldScaleToZero, shouldScaleFromZero, returned, judge]

def RightVerdicts (lib : Library) (a : Asked) (old : PromQueryResponse) (v : ℚ) : Prop :=
  ((shouldScaleToZero lib a old).2.Yes ↔ v < a.s.threshold) ∧
    ((shouldScaleFromZero lib a old).2.Yes ↔ a.s.threshold ≤ v)

theorem rightVerdicts_rounded {lib : Library} {a : Asked} {text : String} {v : ℚ}
    (old : PromQueryResponse) (carries : CarriesSample lib a.query (.string text))
    (reads : ReadsAs lib text v) :
    RightVerdicts lib a old v ↔ a.s.threshold ≤ v ∨ (|v| < overflow ∧
      ∀ r, lib.parseFloat text = .ok (.finite r) → r ≠ -1 ∧ r ≠ a.s.threshold) := by
  unfold ReadsAs at reads
  unfold RightVerdicts
  split at reads
  · rename_i in_range
    obtain ⟨r, parse, near⟩ := reads
    obtain ⟨to_zero, from_zero⟩ := read_verdicts old carries parse
    have less := nearest_lt_iff near a.s.float
    rw [to_zero, from_zero, ← not_lt (a := r), less]
    simp only [parse, Except.ok.injEq, Float64.finite.injEq, forall_eq', in_range, true_and]
    -- only below the threshold does the reading matter
    by_cases below : v < a.s.threshold
    · by_cases marker : r = -1
      · simp [below, marker]
      · by_cases same : r = a.s.threshold <;> simp [below, marker, same]
    · simp [below, not_lt.mp below]
  · rename_i out_of_range
    obtain ⟨err, parse⟩ := reads
    obtain ⟨to_zero, from_zero⟩ := unread_verdicts old carries parse
    simp only [to_zero, from_zero, out_of_range, false_iff, true_iff, false_and, or_false, not_lt,
      and_self]

/-- A sample's verdicts are right exactly if it is at or above the threshold, or is read as a
    float64 other than the threshold and the marker -1. A sample that is itself a float64 is
    judged rightly at or above the threshold, and below it unless it is -1. -/
theorem verdicts_right_iff (lib : Library) (a : Asked) (old : PromQueryResponse) (text : String)
    (v : ℚ) (carries : CarriesSample lib a.query (.string text)) (reads : ReadsAs lib text v) :
    (RightVerdicts lib a old v ↔ a.s.threshold ≤ v ∨ (|v| < overflow ∧
      ∀ r, lib.parseFloat text = .ok (.finite r) → r ≠ -1 ∧ r ≠ a.s.threshold)) ∧
    (v ∈ binary64 → (RightVerdicts lib a old v ↔ a.s.threshold ≤ v ∨ v ≠ -1)) := by
  have rounded := rightVerdicts_rounded old carries reads
  refine ⟨rounded, fun float => ?_⟩
  have in_range := binary64_lt_overflow float
  rw [ReadsAs, if_pos in_range] at reads
  obtain ⟨r, parse, near⟩ := reads
  obtain rfl := nearest_self near float
  rw [rounded]
  by_cases above : a.s.threshold ≤ r
  · simp [above]
  · have other : r ≠ a.s.threshold := fun same => above same.ge
    simp [above, in_range, parse, other]

def minusOne : Library where
  parseFloat
    | "-1" => .ok (.finite (-1))
    | "0" => .ok (.finite 0)
    | _ => .error "invalid syntax"
  parseURL := fun _ => .ok prometheusURL

def askedAbout (text : String) : Asked where
  s := ⟨⟨⟨"http://prometheus:9090", "up", []⟩, "", [], []⟩, 1, by
    simpa using binary64_int (n := 1) (by decide)⟩
  time := "2025-01-01T00:00:00Z"
  answer := fun _ => .ok ⟨200, "200 OK", .ok (.obj [("data", .obj [("result",
    .arr [.obj [("value", .arr [.null, .str text])]])])])⟩

theorem askedAbout_carries (text : String) :
    CarriesSample minusOne (askedAbout text).query (.string text) := by
  refine ⟨_, .nil, [], rfl, ?_, rfl, rfl⟩
  have metric : (foldName "metric" == foldName "value") = false := by decide
  have resultType : (foldName "resultType" == foldName "result") = false := by decide
  have status : (foldName "status" == foldName "data") = false := by decide
  simp [responseDecoder, dataDecoder, resultDecoder, elementDecoder, valueDecoder, struct, slice,
    any, field, membersError, itemsError, lookup, valueInterface, metric, resultType, status]

theorem zero_sample_judged : RightVerdicts minusOne (askedAbout "0") zeroResponse 0 := by
  have float : (0 : ℚ) ∈ binary64 := by simpa using binary64_int (n := 0) (by decide)
  have near : Nearest binary64 (0 : ℚ) 0 := ⟨float, fun y _ => by simp⟩
  have reads : ReadsAs minusOne "0" 0 := by
    rw [ReadsAs, if_pos (binary64_lt_overflow float)]
    exact ⟨0, rfl, near⟩
  have judged := verdicts_right_iff minusOne (askedAbout "0") zeroResponse "0" 0
    (askedAbout_carries "0") reads
  exact (judged.2 float).mpr (.inr (by norm_num))

/-- The number -1 is below the threshold 1, and is answered as unavailable. -/
theorem minus_one_sample_misjudged :
    (shouldScaleToZero minusOne (askedAbout "-1") zeroResponse).2 = .answered false none ∧
      (shouldScaleFromZero minusOne (askedAbout "-1") zeroResponse).2 = .answered true none ∧
      (askedAbout "-1").s.threshold = 1 ∧ minusOne.parseFloat "-1" = .ok (.finite (-1)) := by
  refine ⟨by decide, by decide, rfl, rfl⟩

end ScalerVerdict
