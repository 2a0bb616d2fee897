import Elasti.GoJson
import Elasti.GoStrings
import Elasti.GoURL

/- The query of the Prometheus scaler. Every scaler decodes its responses into one package
   variable, so a query starts from what the queries before it have left there. -/
namespace PrometheusQuery
open GoJson
open GoStrings (hexDigit upperhex)
open GoURL (URL hostname)

/-- A float64 up to the sign of zero. -/
inductive Float64 where
  | nan
  | inf (negative : Bool)
  | finite (value : ℚ)
  deriving DecidableEq, Repr

structure Library where
  parseFloat : String → Except String Float64
  parseURL : String → Except String URL

structure QueryResult where
  metric : List (String × String)
  value : Slice (Any Float64)

structure QueryData where
  resultType : String
  result : Slice QueryResult

structure PromQueryResponse where
  status : String
  data : QueryData

def zeroResult : QueryResult := ⟨[], Slice.nil⟩

def zeroResponse : PromQueryResponse := ⟨"", ⟨"", Slice.nil⟩⟩

section Decoding
variable (lib : Library)

def valueType : String := "[]interface \x7b\x7d"

def elementType : String :=
  structType [("Metric", "map[string]string", "metric"), ("Value", valueType, "value")]

def dataType : String :=
  structType [("ResultType", "string", "resultType"), ("Result", "[]" ++ elementType, "result")]

def responseType : String :=
  structType [("Status", "string", "status"), ("Data", dataType, "data")]

def valueDecoder : Decoder (Slice (Any Float64)) :=
  slice valueType Any.nil (any lib.parseFloat)

def elementDecoder : Decoder QueryResult :=
  struct elementType [
    field "metric" QueryResult.metric (fun x s => { s with metric := x }) stringMap,
    field "value" QueryResult.value (fun x s => { s with value := x }) (valueDecoder lib)]

def resultDecoder : Decoder (Slice QueryResult) :=
  slice ("[]" ++ elementType) zeroResult (elementDecoder lib)

def dataDecoder : Decoder QueryData :=
  struct dataType [
    field "resultType" QueryData.resultType (fun x s => { s with resultType := x }) string,
    field "result" QueryData.result (fun x s => { s with result := x }) (resultDecoder lib)]

def responseDecoder : Decoder PromQueryResponse :=
  struct responseType [
    field "status" PromQueryResponse.status (fun x s => { s with status := x }) string,
    field "data" PromQueryResponse.data (fun x s => { s with data := x }) (dataDecoder lib)]

end Decoding

structure PrometheusMetadata where
  serverAddress : String
  query : String
  headers : List (String × String)
  deriving DecidableEq, Repr

structure PrometheusScaler where
  metadata : PrometheusMetadata
  defaultServerAddress : String
  defaultHeaders : List (String × String)
  allowedServerAddresses : List String
  deriving DecidableEq, Repr

inductive QueryErr where
  | notConfigured
  | badAddress (serverAddress text : String)
  | notAllowed (serverAddress : String)
  | request (text : String)
  | execute (text : String)
  | status (text : String)
  | decode (text : String)
  | emptyResult (query : String)
  | multipleResults (query : String)
  | emptyValue (query : String)
  | fewValues (query : String)
  | parse (text : String)
  | infinite (negative : Bool)
  deriving DecidableEq, Repr

def QueryErr.text (quote : String → String) : QueryErr → String
  | .notConfigured => "prometheus serverAddress not configured"
  | .badAddress address text => "failed to parse serverAddress " ++ quote address ++ ": " ++ text
  | .notAllowed address => "serverAddress " ++ quote address ++ " is not in the allowed list"
  | .request text => "failed to create HTTP request: " ++ text
  | .execute text => "failed to execute HTTP request: " ++ text
  | .status text => "unexpected HTTP status: " ++ text
  | .decode text => "failed to decode Prometheus response: " ++ text
  | .emptyResult query => "prometheus query " ++ query ++
      ", result is empty, prometheus metrics 'prometheus' target may be lost"
  | .multipleResults query => "prometheus query " ++ query ++ " returned multiple elements"
  | .emptyValue query => "prometheus query " ++ query ++
      ", value list in result is empty, prometheus metrics 'prometheus' target may be lost"
  | .fewValues query => "prometheus query " ++ query ++ " didn't return enough values"
  | .parse text => "failed to parse metric value: " ++ text
  | .infinite negative => "prometheus query returns " ++ (if negative then "-Inf" else "+Inf")

inductive Returned where
  | value (v : Float64)
  | error (err : QueryErr)
  | panicked (text : String)
  deriving DecidableEq, Repr

def unreserved (b : UInt8) : Bool :=
  (0x61 ≤ b && b ≤ 0x7a) || (0x41 ≤ b && b ≤ 0x5a) || (0x30 ≤ b && b ≤ 0x39) ||
    b == 0x2d || b == 0x5f || b == 0x2e || b == 0x7e

def escapeByte (b : UInt8) : List Char :=
  if b == 0x20 then ['+']
  else if unreserved b then [Char.ofNat b.toNat]
  else ['%', hexDigit upperhex (b.toNat / 16), hexDigit upperhex (b.toNat % 16)]

def urlQueryEscape (query : List UInt8) : List Char := query.flatMap escapeByte

def queryEscape (query : List UInt8) : List Char :=
  (urlQueryEscape query).flatMap fun c => if c = '+' then ['%', '2', '0'] else [c]

def getServerAddress (s : PrometheusScaler) : Except QueryErr String :=
  if s.metadata.serverAddress ≠ "" then .ok s.metadata.serverAddress
  else if s.defaultServerAddress = "" then .error .notConfigured
  else .ok s.defaultServerAddress

def validateServerAddress (lib : Library) (s : PrometheusScaler) (serverAddress : String) :
    Option QueryErr :=
  if serverAddress = s.defaultServerAddress ∨ s.allowedServerAddresses = [] then none
  else
    match lib.parseURL serverAddress with
    | .error text => some (.badAddress serverAddress text)
    | .ok u =>
      if s.allowedServerAddresses.any fun allowed => 
          allowed == String.ofList (hostname u.host) || allowed == String.ofList u.host
      then none
      else some (.notAllowed serverAddress)

structure Request where
  url : String
  headers : List (String × String)
  deriving DecidableEq, Repr

/-- The body is what the decoder's scan makes of it: its first JSON value or a text. -/
structure Response where
  statusCode : Nat
  status : String
  body : Except String Json

/-- One call of executePromQuery, with the time it puts into the URL and what the HTTP client
    makes of its request. -/
structure Query where
  scaler : PrometheusScaler
  query : String
  time : String
  answer : Request → Except String Response

def queryRequest (q : Query) (serverAddress : String) : Request where
  url := serverAddress ++ "/api/v1/query?query=" ++
    String.ofList (queryEscape q.query.toUTF8.toList) ++ "&time=" ++ q.time
  headers := q.scaler.defaultHeaders ++ q.scaler.metadata.headers

section Query
variable (lib : Library)

def prepare (q : Query) : Except QueryErr Request :=
  match getServerAddress q.scaler with
  | .error err => .error err
  | .ok serverAddress =>
    match validateServerAddress lib q.scaler serverAddress with
    | some err => .error err
    | none =>
      match lib.parseURL (queryRequest q serverAddress).url with
      | .error text => .error (.request text)
      | .ok _ => .ok (queryRequest q serverAddress)

def fetch (q : Query) : Except QueryErr Json :=
  match prepare lib q with
  | .error err => .error err
  | .ok request =>
    match q.answer request with
    | .error text => .error (.execute text)
    | .ok resp =>
      if resp.statusCode ≠ 200 then .error (.status resp.status)
      else
        match resp.body with
        | .error text => .error (.decode text)
        | .ok body => .ok body

def readValue (s : PrometheusScaler) : List (Any Float64) → Returned
  -- the checks on the value name the query of the metadata, whichever query was run
  | [] => .error (.emptyValue s.metadata.query)
  | [_] => .error (.fewValues s.metadata.query)
  | _ :: .nil :: _ => .value (.finite (-1))
  | _ :: .string text :: _ =>
    match lib.parseFloat text with
    | .error err => .error (.parse err)
    | .ok (.inf negative) => .error (.infinite negative)
    | .ok v => .value v
  | _ :: val :: _ =>
    .panicked ("interface conversion: interface \x7b\x7d is " ++ val.typeName ++ ", not string")

def readResponse (q : Query) (response : PromQueryResponse) : Returned :=
  match response.data.result.items with
  | [] => .error (.emptyResult q.query)
  | [r] => readValue lib q.scaler r.value.items
  | _ :: _ :: _ => .error (.multipleResults q.query)

def executePromQuery (q : Query) (promQueryResponse : PromQueryResponse) :
    PromQueryResponse × Returned :=
  match fetch lib q with
  | .error err => (promQueryResponse, .error err)
  | .ok body =>
    let decoded := (responseDecoder lib).run body promQueryResponse
    match decoded.2 with
    | some err => (decoded.1, .error (.decode err.text))
    | none => (decoded.1, readResponse lib q decoded.1)

def afterHistory (history : List Query) : PromQueryResponse :=
  history.foldl (fun response q => (executePromQuery lib q response).1) zeroResponse

def HistoryIndependent (q : Query) : Prop :=
  ∀ h₁ h₂ : List Query, (executePromQuery lib q (afterHistory lib h₁)).2 =
    (executePromQuery lib q (afterHistory lib h₂)).2

def givenCount : Json → Option Nat :=
  atMember "data" (atMember "result" lengthWrite)

def givenValue : Json → Option (List (Any Float64)) :=
  atMember "data" (atMember "result" (atHead [] (atMember "value" (valuesWrite lib.parseFloat))))

/-- The response gives the number of results and, if that is one, the value of the result. -/
def SelfContained (body : Json) : Prop :=
  (givenCount body).isSome ∧ (givenCount body = some 1 → (givenValue lib body).isSome)

end Query

section Decoding
variable (lib : Library)

def firstValue (response : PromQueryResponse) : List (Any Float64) :=
  (response.data.result.cells.headD zeroResult).value.items

theorem element_observes_value :
    Observes (elementDecoder lib) (fun r => r.value.items)
      (atMember "value" (valuesWrite lib.parseFloat)) := by
  refine second_field_observes elementType ?_ ?_ ?_
  · show foldName "metric" ≠ foldName "value"
    decide
  · exact field_untouched "metric" stringMap (fun _ _ => rfl)
  · exact field_observes "value" (fun _ _ => rfl) (slice_observes_items lib.parseFloat valueType)

theorem response_observes {β : Type} {obs : Slice QueryResult → β} {writes : Json → Option β}
    (inner : Observes (resultDecoder lib) obs writes) :
    Observes (responseDecoder lib) (fun response => obs response.data.result)
      (atMember "data" (atMember "result" writes)) := by
  have data : Observes (dataDecoder lib) (fun d => obs d.result) (atMember "result" writes) := by
    refine second_field_observes dataType ?_ ?_ ?_
    · show foldName "resultType" ≠ foldName "result"
      decide
    · exact field_untouched "resultType" string (fun _ _ => rfl)
    · exact field_observes "result" (fun _ _ => rfl) inner
  refine second_field_observes responseType ?_ ?_ ?_
  · show foldName "status" ≠ foldName "data"
    decide
  · exact field_untouched "status" string (fun _ _ => rfl)
  · exact field_observes "data" (fun _ _ => rfl) data

theorem decoded_count {body : Json} (clean : (responseDecoder lib).error body = none)
    (old : PromQueryResponse) :
    ((responseDecoder lib).run body old).1.data.result.len =
      (givenCount body).getD old.data.result.len :=
  response_observes lib (slice_observes_len _ zeroResult (elementDecoder lib)) body old clean

theorem decoded_value {body : Json} (clean : (responseDecoder lib).error body = none)
    (old : PromQueryResponse) :
    firstValue ((responseDecoder lib).run body old).1 =
      (givenValue lib body).getD (firstValue old) :=
  response_observes lib (slice_observes_head _ zeroResult (element_observes_value lib))
    body old clean

end Decoding

section Query
variable (lib : Library)

theorem readResponse_spec (q : Query) (response : PromQueryResponse) :
    readResponse lib q response =
      if response.data.result.len = 0 then .error (.emptyResult q.query)
      else if response.data.result.len = 1 then readValue lib q.scaler (firstValue response)
      else .error (.multipleResults q.query) := by
  obtain ⟨status, resultType, cells, len, bound⟩ := response
  rcases len with _ | _ | n
  · rfl
  · cases cells with
    | nil => exact absurd bound (by decide)
    | cons r rest => rfl
  · cases cells with
    | nil => exact absurd bound (by simp)
    | cons r rest =>
      cases rest with
      | nil => exact absurd bound (by simp)
      | cons next rest => rfl

theorem executePromQuery_clean {q : Query} {body : Json} (fetched : fetch lib q = .ok body)
    (clean : (responseDecoder lib).error body = none) (old : PromQueryResponse) :
    executePromQuery lib q old = (((responseDecoder lib).run body old).1,
      readResponse lib q ((responseDecoder lib).run body old).1) := by
  have noError : ((responseDecoder lib).run body old).2 = none := by
    rw [(responseDecoder lib).run_error, clean]
  simp only [executePromQuery, fetched, noError]

theorem executePromQuery_result {q : Query} {body : Json} (fetched : fetch lib q = .ok body)
    (clean : (responseDecoder lib).error body = none) (old : PromQueryResponse) :
    (executePromQuery lib q old).2 =
      if (givenCount body).getD old.data.result.len = 0 then .error (.emptyResult q.query)
      else if (givenCount body).getD old.data.result.len = 1 then
        readValue lib q.scaler ((givenValue lib body).getD (firstValue old))
      else .error (.multipleResults q.query) := by
  rw [executePromQuery_clean lib fetched clean, readResponse_spec, decoded_count lib clean,
    decoded_value lib clean]

def twoNulls : Json :=
  .obj [("data", .obj [("result", .arr [.obj [("value", .arr [.null, .null])]])])]

def probe (q : Query) : Query :=
  { q with answer := fun _ => .ok ⟨200, "200 OK", .ok twoNulls⟩ }

theorem fetch_probe {q : Query} {body : Json} (fetched : fetch lib q = .ok body) :
    fetch lib (probe q) = .ok twoNulls := by
  have same : prepare lib (probe q) = prepare lib q := rfl
  cases prepared : prepare lib q with
  | error err => simp only [fetch, prepared, reduceCtorEq] at fetched
  | ok request =>
    rw [prepared] at same
    simp only [fetch, same]
    rfl

theorem twoNulls_clean : (responseDecoder lib).error twoNulls = none := by
  have metric : (foldName "metric" == foldName "value") = false := by decide
  have resultType : (foldName "resultType" == foldName "result") = false := by decide
  have status : (foldName "status" == foldName "data") = false := by decide
  simp [responseDecoder, dataDecoder, resultDecoder, elementDecoder, valueDecoder, twoNulls,
    struct, slice, any, field, membersError, itemsError, lookup, valueInterface, metric,
    resultType, status]

theorem twoNulls_value : givenValue lib twoNulls = some [.nil, .nil] := by
  simp [givenValue, twoNulls, atMember, membersWrite, atHead, valuesWrite, valueInterface]

theorem after_probe {q : Query} {body : Json} (fetched : fetch lib q = .ok body) :
    (afterHistory lib [probe q]).data.result.len = 1 ∧
      firstValue (afterHistory lib [probe q]) = [.nil, .nil] := by
  have clean := twoNulls_clean lib
  have count : givenCount twoNulls = some 1 := by decide
  have left : afterHistory lib [probe q] = ((responseDecoder lib).run twoNulls zeroResponse).1 := by
    simp only [afterHistory, List.foldl_cons, List.foldl_nil,
      executePromQuery_clean lib (fetch_probe lib fetched) clean]
  rw [left, decoded_count lib clean, decoded_value lib clean, count, twoNulls_value]
  exact ⟨rfl, rfl⟩

theorem readValue_ne_emptyResult (s : PrometheusScaler) (value : List (Any Float64))
    (query : String) : readValue lib s value ≠ .error (.emptyResult query) := by
  fun_cases readValue lib s value <;> simp

theorem selfContained_of_independent {q : Query} {body : Json}
    (fetched : fetch lib q = .ok body) (clean : (responseDecoder lib).error body = none)
    (independent : HistoryIndependent lib q) : SelfContained lib body := by
  obtain ⟨one, nulls⟩ := after_probe lib fetched
  have same := independent [] [probe q]
  rw [executePromQuery_result lib fetched clean, executePromQuery_result lib fetched clean,
    one, nulls] at same
  cases count : givenCount body with
  | none =>
    -- the first query of all finds no result, the one after the probe finds one
    rw [count] at same
    have clash : Returned.error (.emptyResult q.query) =
        readValue lib q.scaler ((givenValue lib body).getD [.nil, .nil]) := same
    exact absurd clash.symm (readValue_ne_emptyResult lib q.scaler _ q.query)
  | some n =>
    refine ⟨by rw [count]; rfl, ?_⟩
    intro single
    cases value : givenValue lib body with
    | some given => rfl
    | none =>
      rw [single, value] at same
      have clash : Returned.error (.emptyValue q.scaler.metadata.query) =
        Returned.value (.finite (-1)) := same
      cases clash

theorem result_of_selfContained {q : Query} {body : Json} (fetched : fetch lib q = .ok body)
    (clean : (responseDecoder lib).error body = none) (contained : SelfContained lib body)
    (g₁ g₂ : PromQueryResponse) :
    (executePromQuery lib q g₁).2 = (executePromQuery lib q g₂).2 := by
  rw [executePromQuery_result lib fetched clean, executePromQuery_result lib fetched clean]
  obtain ⟨counted, valued⟩ := contained
  obtain ⟨n, count⟩ := Option.isSome_iff_exists.mp counted
  simp only [count, Option.getD_some]
  by_cases one : n = 1
  · obtain ⟨value, given⟩ := Option.isSome_iff_exists.mp (valued (by rw [count, one]))
    simp only [given, Option.getD_some]
  · simp only [if_neg one]

theorem history_independent_iff (q : Query) :
    HistoryIndependent lib q ↔
      ∀ body, fetch lib q = .ok body → (responseDecoder lib).error body = none →
        SelfContained lib body := by
  constructor
  · intro independent body fetched clean
    exact selfContained_of_independent lib fetched clean independent
  · intro contained h₁ h₂
    cases fetched : fetch lib q with
    | error err => simp only [executePromQuery, fetched]
    | ok body =>
      cases error : (responseDecoder lib).error body with
      | some err =>
        simp only [executePromQuery, fetched, (responseDecoder lib).run_error, error]
      | none => exact result_of_selfContained lib fetched error (contained body fetched error) _ _

end Query

section Leak

def prometheusURL : URL where
  scheme := "http".toList
  rootless := []
  authority := some "prometheus:9090".toList
  host := "prometheus:9090".toList
  path := []
  rawQuery := []
  forceQuery := false
  fragment := []

def oneAndFive : Library where
  parseFloat
    | "1" => .ok (.finite 1)
    | "5" => .ok (.finite 5)
    | _ => .error "invalid syntax"
  parseURL := fun _ => .ok prometheusURL

def upQuery (body : Json) : Query where
  scaler := ⟨⟨"http://prometheus:9090", "up", []⟩, "", [], []⟩
  query := "up"
  time := "2025-01-01T00:00:00Z"
  answer := fun _ => .ok ⟨200, "200 OK", .ok body⟩

def fiveSample : Json :=
  .obj [("status", .str "success"), ("data", .obj [("resultType", .str "vector"),
    ("result", .arr [.obj [("metric", .obj []), ("value", .arr [.num "1", .str "5"])]])])]

def errorBody : Json := .obj [("status", .str "error"), ("error", .str "query timed out")]

theorem earlier_value_returned : ¬ HistoryIndependent oneAndFive (upQuery errorBody) := by
  intro independent
  have same := independent [] [upQuery fiveSample]
  have first : (executePromQuery oneAndFive (upQuery errorBody) (afterHistory oneAndFive [])).2 =
      .error (.emptyResult "up") := by decide
  have second : (executePromQuery oneAndFive (upQuery errorBody)
      (afterHistory oneAndFive [upQuery fiveSample])).2 = .value (.finite 5) := by decide
  rw [first, second] at same
  cases same

end Leak

section Panic
variable (lib : Library)

def nilOrString : Any Float64 → Bool
  | .nil | .string _ => true
  | .bool _ | .float64 _ | .slice _ | .map _ => false

def Returns (r : Returned) : Prop := ∀ text, r ≠ .panicked text

theorem readValue_returns_iff (s : PrometheusScaler) (value : List (Any Float64)) :
    Returns (readValue lib s value) ↔ ∀ v ∈ value[1]?, nilOrString v = true := by
  cases value with
  | nil => simp [Returns, readValue]
  | cons first rest =>
    cases rest with
    | nil => simp [Returns, readValue]
    | cons val rest =>
      cases val with
      | string text =>
        simp only [readValue, Returns]
        split <;> simp [nilOrString]
      | nil => simp [Returns, readValue, nilOrString]
      | bool b => simp [Returns, readValue, nilOrString]
      | float64 f => simp [Returns, readValue, nilOrString]
      | slice items => simp [Returns, readValue, nilOrString]
      | map entries => simp [Returns, readValue, nilOrString]

/-- The query returns exactly if a response that decodes and leaves one result has null or a
    string, or nothing, at the second place of its sample. What the response does not give is
    what the earlier responses have left. -/
theorem executePromQuery_returns_iff (q : Query) (old : PromQueryResponse) :
    Returns (executePromQuery lib q old).2 ↔
      ∀ body, fetch lib q = .ok body → (responseDecoder lib).error body = none →
        (givenCount body).getD old.data.result.len = 1 →
        ∀ v ∈ ((givenValue lib body).getD (firstValue old))[1]?, nilOrString v = true := by
  cases fetched : fetch lib q with
  | error err => simp [executePromQuery, fetched, Returns]
  | ok body =>
    simp only [Except.ok.injEq, forall_eq']
    cases error : (responseDecoder lib).error body with
    | some err =>
      simp [executePromQuery, fetched, (responseDecoder lib).run_error, error, Returns]
    | none =>
      rw [executePromQuery_result lib fetched error]
      by_cases one : (givenCount body).getD old.data.result.len = 1
      · simp only [one, Nat.one_ne_zero, if_false, if_true, forall_const]
        exact readValue_returns_iff lib q.scaler _
      · simp only [one, if_false, false_implies, implies_true, iff_true]
        split <;> simp [Returns]

def numberSample : Json :=
  .obj [("data", .obj [("result", .arr [.obj [("value", .arr [.num "1", .num "5"])]])])]

/-- A sample whose value is a number in place of a string. -/
theorem number_sample_panics :
    (executePromQuery oneAndFive (upQuery numberSample) zeroResponse).2 =
      .panicked "interface conversion: interface \x7b\x7d is float64, not string" := by
  decide

end Panic

end PrometheusQuery
