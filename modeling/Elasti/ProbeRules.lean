import Elasti.GoHeader
import Elasti.GoStrings
import Elasti.ProbePath

/- The probe rules of an ElastiService. The resolver tries them in order; what a rule asks of a
   request is said once more below without the loops, the early returns and the two ways of
   giving up on a matcher. -/
namespace ProbeRules
open GoHeader ProbePath
open GoStrings (trimSpace trimSpace_trimSpace)

structure ProbeResponse where
  status : Int
  body : List Char
  deriving DecidableEq, Repr

structure ProbeResponsePathMatch where
  type : List Char
  value : List Char
  deriving DecidableEq, Repr

structure NamedMatch where
  name : List Char
  type : List Char
  value : List Char
  deriving DecidableEq, Repr

abbrev ProbeResponseHeaderMatch := NamedMatch

abbrev ProbeResponseQueryParamMatch := NamedMatch

structure ProbeResponseRule where
  path : Option ProbeResponsePathMatch
  headers : List ProbeResponseHeaderMatch
  queryParams : List ProbeResponseQueryParamMatch
  method : Option (List Char)
  response : ProbeResponse
  deriving DecidableEq, Repr

structure Request where
  method : List Char
  path : List Char
  header : Header
  query : List Char → List (List Char)

/-- Regular expressions, the runes that are equal under case folding, each by one of them, and
    the probe rules of a spec. -/
structure Library where
  compile : List Char → Except String (List Char → Bool)
  foldRune : Char → Char
  unmarshal : List UInt8 → Except String (List ProbeResponseRule)

inductive MatchType where
  | pathPrefix
  | exact
  | regularExpression
  deriving DecidableEq, Repr

def MatchType.text : MatchType → List Char
  | .pathPrefix => "PathPrefix".toList
  | .exact => "Exact".toList
  | .regularExpression => "RegularExpression".toList

section Rules
variable (lib : Library)

def equalFold (s t : List Char) : Bool := s.map lib.foldRune == t.map lib.foldRune

def methodMatchesProbeResponse (ruleMethod : Option (List Char)) (requestMethod : List Char) :
    Bool :=
  match ruleMethod with
  | none => true
  | some method =>
    if trimSpace method = [] then true else equalFold lib (trimSpace method) requestMethod

def canonicalPathMatchType (t : List Char) : MatchType :=
  let ts := trimSpace t
  if ts = [] ∨ equalFold lib ts MatchType.pathPrefix.text then .pathPrefix
  else if equalFold lib ts MatchType.exact.text then .exact
  else if equalFold lib ts MatchType.regularExpression.text then .regularExpression
  else .pathPrefix

def normalizeProbePathMatch : Option ProbeResponsePathMatch → ProbeResponsePathMatch
  | none => ⟨MatchType.pathPrefix.text, slash⟩
  | some p =>
    let trimmed := trimSpace p.type
    let typ := if trimmed = [] then MatchType.pathPrefix.text else trimmed
    let val := if canonicalPathMatchType lib typ = .pathPrefix ∧ p.value = [] then slash else p.value
    ⟨typ, val⟩

def pathMatches (reqPath : List Char) (p : Option ProbeResponsePathMatch) : Except String Bool :=
  let pm := normalizeProbePathMatch lib p
  match canonicalPathMatchType lib pm.type with
  | .exact => .ok (reqPath == pm.value)
  | .regularExpression =>
    match lib.compile pm.value with
    | .error err => .error ("probeResponse path regex invalid: " ++ err)
    | .ok re => .ok (re reqPath)
  | .pathPrefix => .ok (pathPrefix reqPath pm.value)

def someValueMatches (rule : NamedMatch) (values : List (List Char)) : Except String Bool :=
  if values.length = 0 then .ok false
  else
    let typ := trimSpace rule.type
    if typ = [] ∨ equalFold lib typ MatchType.exact.text then .ok (values.any (· == rule.value))
    else if equalFold lib typ MatchType.regularExpression.text then
      match lib.compile rule.value with
      | .error err => .error err
      | .ok re => .ok (values.any re)
    else .ok (values.any (· == rule.value))

def headerValueMatches (rule : ProbeResponseHeaderMatch) (h : Header) : Except String Bool :=
  let key := canonicalMIMEHeaderKey (trimSpace rule.name)
  match someValueMatches lib rule (GoHeader.values h key) with
  | .error err => .error ("probeResponse header regex invalid: " ++ err ++ ": header: " ++
      String.ofList rule.name ++ ", pattern: " ++ String.ofList rule.value)
  | .ok found => .ok found

def queryParamValueMatches (rule : ProbeResponseQueryParamMatch)
    (q : List Char → List (List Char)) : Bool :=
  match someValueMatches lib rule (q rule.name) with
  | .error _ => false
  | .ok found => found

def headersMatch (h : Header) : List ProbeResponseHeaderMatch → Except String Bool
  | [] => .ok true
  | rule :: rules =>
    if trimSpace rule.name = [] then .error "header name is empty"
    else
      match headerValueMatches lib rule h with
      | .error err => .error err
      | .ok false => .ok false
      | .ok true => headersMatch h rules

def queryParamsMatch (q : List Char → List (List Char)) : List ProbeResponseQueryParamMatch → Bool
  | [] => true
  | rule :: rules =>
    if trimSpace rule.name = [] then false
    else if !queryParamValueMatches lib rule q then false
    else queryParamsMatch q rules

abbrev Answer := List Char × Int × Bool

def noMatch : Answer := ([], 0, false)

def statusOK : Int := 200

def answerOf (response : ProbeResponse) : Answer :=
  (response.body, if response.status = 0 then statusOK else response.status, true)

def matchRules (req : Request) : List ProbeResponseRule → Answer
  | [] => noMatch
  | r :: rules =>
    if !methodMatchesProbeResponse lib r.method req.method then matchRules req rules
    else
      match pathMatches lib req.path r.path with
      | .error _ => matchRules req rules
      | .ok false => matchRules req rules
      | .ok true =>
        match headersMatch lib req.header r.headers with
        | .error _ => matchRules req rules
        | .ok false => matchRules req rules
        | .ok true =>
          if !queryParamsMatch lib req.query r.queryParams then matchRules req rules
          else answerOf r.response

def matchProbeResponseFromSpec (specJSON : List UInt8) (req : Option Request) : Answer :=
  match req with
  | none => noMatch
  | some req =>
    if specJSON.length = 0 then noMatch
    else
      match lib.unmarshal specJSON with
      | .error _ => noMatch
      | .ok rules => matchRules lib req rules

def hasType (type : List Char) (t : MatchType) : Bool := equalFold lib (trimSpace type) t.text

def MethodHolds (ruleMethod : Option (List Char)) (requestMethod : List Char) : Prop :=
  ∀ method ∈ ruleMethod, trimSpace method ≠ [] → equalFold lib (trimSpace method) requestMethod = true

def RegexMatches (pattern text : List Char) : Prop :=
  ∃ re, lib.compile pattern = .ok re ∧ re text = true

def PathHolds (p : Option ProbeResponsePathMatch) (path : List Char) : Prop :=
  match p with
  | none => pathPrefix path slash = true
  | some p =>
    if hasType lib p.type .exact then path = p.value
    else if hasType lib p.type .regularExpression then RegexMatches lib p.value path
    else pathPrefix path p.value = true

def Satisfies (rule : NamedMatch) (value : List Char) : Prop :=
  if hasType lib rule.type .regularExpression then RegexMatches lib rule.value value
  else value = rule.value

def MatcherHolds (rule : NamedMatch) (values : List (List Char)) : Prop :=
  trimSpace rule.name ≠ [] ∧ ∃ value ∈ values, Satisfies lib rule value

structure Holds (req : Request) (r : ProbeResponseRule) : Prop where
  method : MethodHolds lib r.method req.method
  path : PathHolds lib r.path req.path
  headers : ∀ rule ∈ r.headers,
    MatcherHolds lib rule (GoHeader.values req.header (trimSpace rule.name))
  queryParams : ∀ rule ∈ r.queryParams, MatcherHolds lib rule (req.query rule.name)

def BadPattern (type pattern : List Char) : Prop :=
  hasType lib type .regularExpression = true ∧ ∃ err, lib.compile pattern = .error err

/-- One of the matchers of the rule has a blank name or a regular expression that does not
    compile. -/
def Faulty (r : ProbeResponseRule) : Prop :=
  (∃ p ∈ r.path, BadPattern lib p.type p.value) ∨
    ∃ rule ∈ r.headers ++ r.queryParams,
      trimSpace rule.name = [] ∨ BadPattern lib rule.type rule.value

theorem equalFold_refl (s : List Char) : equalFold lib s s = true := beq_self_eq_true _

variable {lib}

theorem equalFold_length {s t : List Char} (same : equalFold lib s t = true) :
    s.length = t.length := by
  simpa using congrArg List.length (beq_iff_eq.mp same)

theorem hasType_other {type : List Char} {t u : MatchType} (has : hasType lib type t = true)
    (differs : u ≠ t) : hasType lib type u = false := by
  by_contra both
  have same : t.text.length = u.text.length :=
    (equalFold_length has).symm.trans (equalFold_length (Bool.eq_true_of_not_eq_false both))
  cases t <;> cases u <;> first | exact differs rfl | exact absurd same (by decide)

theorem hasType_not_blank {type : List Char} {t : MatchType} (has : hasType lib type t = true) :
    trimSpace type ≠ [] := by
  intro blank
  have nothing := equalFold_length has
  rw [blank] at nothing
  cases t <;> exact absurd nothing (by decide)

theorem methodMatches_iff {ruleMethod : Option (List Char)} {requestMethod : List Char} :
    methodMatchesProbeResponse lib ruleMethod requestMethod = true ↔
      MethodHolds lib ruleMethod requestMethod := by
  cases ruleMethod with
  | none => simp [methodMatchesProbeResponse, MethodHolds]
  | some method =>
    by_cases blank : trimSpace method = []
    · simp [methodMatchesProbeResponse, MethodHolds, blank]
    · simp [methodMatchesProbeResponse, MethodHolds, blank]

theorem canonicalPathMatchType_of {type : List Char} {t : MatchType}
    (has : hasType lib type t = true) : canonicalPathMatchType lib type = t := by
  have other {u : MatchType} (differs : u ≠ t) : equalFold lib (trimSpace type) u.text = false :=
    hasType_other has differs
  have own : equalFold lib (trimSpace type) t.text = true := has
  have text := hasType_not_blank has
  cases t with
  | pathPrefix => simp [canonicalPathMatchType, own]
  | exact => simp [canonicalPathMatchType, text, own, @other .pathPrefix (by decide)]
  | regularExpression =>
    simp [canonicalPathMatchType, text, own, @other .pathPrefix (by decide),
      @other .exact (by decide)]

theorem canonicalPathMatchType_else {type : List Char} (notExact : hasType lib type .exact = false)
    (notRegex : hasType lib type .regularExpression = false) :
    canonicalPathMatchType lib type = .pathPrefix := by
  have exact_text : equalFold lib (trimSpace type) MatchType.exact.text = false := notExact
  have regex_text : equalFold lib (trimSpace type) MatchType.regularExpression.text = false := notRegex
  simp [canonicalPathMatchType, exact_text, regex_text]

theorem pathPrefix_named : hasType lib MatchType.pathPrefix.text .pathPrefix = true := by
  have trimmed : trimSpace MatchType.pathPrefix.text = MatchType.pathPrefix.text := by decide
  rw [hasType, trimmed]
  exact equalFold_refl lib _

theorem canonicalPathMatchType_normalized (lib : Library) (p : ProbeResponsePathMatch) :
    canonicalPathMatchType lib (normalizeProbePathMatch lib (some p)).type =
      canonicalPathMatchType lib p.type := by
  -- a blank type stands for a prefix, and what is trimmed once is trimmed
  by_cases blank : trimSpace p.type = []
  · have left : canonicalPathMatchType lib p.type = .pathPrefix := by
      simp [canonicalPathMatchType, blank]
    simp only [normalizeProbePathMatch, blank, if_true, left]
    exact canonicalPathMatchType_of pathPrefix_named
  · simp only [normalizeProbePathMatch, blank, if_false, canonicalPathMatchType, trimSpace_trimSpace]

theorem pathPrefix_empty (path : List Char) : pathPrefix path [] = pathPrefix path slash := by
  simp [pathPrefix]

theorem pathMatches_some (reqPath : List Char) (p : ProbeResponsePathMatch) :
    pathMatches lib reqPath (some p) =
      match canonicalPathMatchType lib p.type with
      | .exact => .ok (reqPath == p.value)
      | .regularExpression =>
        match lib.compile p.value with
        | .error err => .error ("probeResponse path regex invalid: " ++ err)
        | .ok re => .ok (re reqPath)
      | .pathPrefix => .ok (pathPrefix reqPath p.value) := by
  -- an empty prefix is replaced by the slash, which matches no other path
  have type := canonicalPathMatchType_normalized lib p
  have value : (normalizeProbePathMatch lib (some p)).value =
      if canonicalPathMatchType lib p.type = .pathPrefix ∧ p.value = [] then slash else p.value := by
    rw [← type]
    rfl
  rw [pathMatches]
  simp only [type, value]
  cases canonicalPathMatchType lib p.type with
  | exact => simp
  | regularExpression => simp
  | pathPrefix =>
    by_cases empty : p.value = []
    · simp [empty, pathPrefix_empty]
    · simp [empty]

theorem pathMatches_iff {reqPath : List Char} {p : Option ProbeResponsePathMatch} :
    pathMatches lib reqPath p = .ok true ↔ PathHolds lib p reqPath := by
  cases p with
  | none =>
    have named : canonicalPathMatchType lib MatchType.pathPrefix.text = .pathPrefix :=
      canonicalPathMatchType_of pathPrefix_named
    simp [pathMatches, normalizeProbePathMatch, named, PathHolds]
  | some p =>
    rw [pathMatches_some, PathHolds]
    cases exactly : hasType lib p.type .exact with
    | true => simp [canonicalPathMatchType_of exactly]
    | false =>
      cases regex : hasType lib p.type .regularExpression with
      | true =>
        cases compiled : lib.compile p.value with
        | error err => simp [canonicalPathMatchType_of regex, RegexMatches, compiled]
        | ok re => simp [canonicalPathMatchType_of regex, RegexMatches, compiled]
      | false => simp [canonicalPathMatchType_else exactly regex]

theorem someValueMatches_eq {rule : NamedMatch} {values : List (List Char)}
    (some_value : values ≠ []) : someValueMatches lib rule values =
      if hasType lib rule.type .regularExpression then
        match lib.compile rule.value with
        | .error err => .error err
        | .ok re => .ok (values.any re)
      else .ok (values.any (· == rule.value)) := by
  -- a type that is blank, Exact or unknown compares, and only RegularExpression compiles
  have length : ¬ values.length = 0 := fun none => some_value (List.length_eq_zero_iff.mp none)
  rw [someValueMatches, if_neg length]
  cases regex : hasType lib rule.type .regularExpression with
  | true =>
    have text := hasType_not_blank regex
    have notExact : equalFold lib (trimSpace rule.type) MatchType.exact.text = false :=
      hasType_other (u := .exact) regex (by decide)
    have own : equalFold lib (trimSpace rule.type) MatchType.regularExpression.text = true := regex
    simp [text, notExact, own]
  | false =>
    have other : equalFold lib (trimSpace rule.type) MatchType.regularExpression.text = false := regex
    simp [other]

theorem someValueMatches_iff {rule : NamedMatch} {values : List (List Char)} :
    someValueMatches lib rule values = .ok true ↔ ∃ value ∈ values, Satisfies lib rule value := by
  by_cases nothing : values = []
  · simp [someValueMatches, nothing]
  · rw [someValueMatches_eq nothing]
    cases regex : hasType lib rule.type .regularExpression with
    | false => simp [Satisfies, regex]
    | true =>
      cases compiled : lib.compile rule.value with
      | error err => simp [Satisfies, regex, RegexMatches, compiled]
      | ok re => simp [Satisfies, regex, RegexMatches, compiled]

theorem headerValueMatches_iff {rule : ProbeResponseHeaderMatch} {h : Header} :
    headerValueMatches lib rule h = .ok true ↔
      ∃ value ∈ GoHeader.values h (trimSpace rule.name), Satisfies lib rule value := by
  rw [← someValueMatches_iff, headerValueMatches]
  simp only [values_canonical]
  cases someValueMatches lib rule (GoHeader.values h (trimSpace rule.name)) with
  | error err => simp
  | ok found => simp

theorem queryParamValueMatches_iff {rule : ProbeResponseQueryParamMatch}
    {q : List Char → List (List Char)} :
    queryParamValueMatches lib rule q = true ↔
      ∃ value ∈ q rule.name, Satisfies lib rule value := by
  rw [← someValueMatches_iff, queryParamValueMatches]
  cases someValueMatches lib rule (q rule.name) with
  | error err => simp
  | ok found => simp

theorem headersMatch_iff {h : Header} {rules : List ProbeResponseHeaderMatch} :
    headersMatch lib h rules = .ok true ↔
      ∀ rule ∈ rules, MatcherHolds lib rule (GoHeader.values h (trimSpace rule.name)) := by
  induction rules with
  | nil => simp [headersMatch]
  | cons rule rules ih =>
    rw [List.forall_mem_cons, ← ih, MatcherHolds, ← headerValueMatches_iff, headersMatch]
    by_cases blank : trimSpace rule.name = []
    · simp [blank]
    · rw [if_neg blank]
      cases headerValueMatches lib rule h with
      | error err => simp
      | ok found => cases found <;> simp [blank]

theorem queryParamsMatch_iff {q : List Char → List (List Char)}
    {rules : List ProbeResponseQueryParamMatch} :
    queryParamsMatch lib q rules = true ↔
      ∀ rule ∈ rules, MatcherHolds lib rule (q rule.name) := by
  induction rules with
  | nil => simp [queryParamsMatch]
  | cons rule rules ih =>
    rw [List.forall_mem_cons, ← ih, MatcherHolds, ← queryParamValueMatches_iff, queryParamsMatch]
    by_cases blank : trimSpace rule.name = []
    · simp [blank]
    · rw [if_neg blank]
      cases queryParamValueMatches lib rule q <;> simp [blank]

theorem matchRules_holds {req : Request} {r : ProbeResponseRule} (holds : Holds lib req r)
    (rules : List ProbeResponseRule) : matchRules lib req (r :: rules) = answerOf r.response := by
  simp [matchRules, methodMatches_iff.mpr holds.method, pathMatches_iff.mpr holds.path,
    headersMatch_iff.mpr holds.headers, queryParamsMatch_iff.mpr holds.queryParams]

theorem matchRules_skips {req : Request} {r : ProbeResponseRule} (fails : ¬ Holds lib req r)
    (rules : List ProbeResponseRule) : matchRules lib req (r :: rules) = matchRules lib req rules := by
  -- however a rule fails, by an error or by a plain no, the loop goes on
  rw [matchRules]
  cases method : methodMatchesProbeResponse lib r.method req.method with
  | false => rfl
  | true =>
    rcases path : pathMatches lib req.path r.path with err | ⟨⟨⟩⟩
    · rfl
    · rfl
    · rcases headers : headersMatch lib req.header r.headers with err | ⟨⟨⟩⟩
      · rfl
      · rfl
      · cases query : queryParamsMatch lib req.query r.queryParams with
        | false => rfl
        | true =>
          exact absurd ⟨methodMatches_iff.mp method, pathMatches_iff.mp path,
            headersMatch_iff.mp headers, queryParamsMatch_iff.mp query⟩ fails

theorem matchRules_passes {req : Request} {before : List ProbeResponseRule}
    (fail : ∀ p ∈ before, ¬ Holds lib req p) (rules : List ProbeResponseRule) :
    matchRules lib req (before ++ rules) = matchRules lib req rules := by
  induction before with
  | nil => rfl
  | cons p before ih =>
    obtain ⟨first, rest⟩ := List.forall_mem_cons.mp fail
    rw [List.cons_append, matchRules_skips first]
    exact ih rest

theorem matchRules_without {req : Request} {r : ProbeResponseRule} (fails : ¬ Holds lib req r)
    (before rules : List ProbeResponseRule) :
    matchRules lib req (before ++ r :: rules) = matchRules lib req (before ++ rules) := by
  induction before with
  | nil => exact matchRules_skips fails rules
  | cons p before ih =>
    by_cases holds : Holds lib req p
    · rw [List.cons_append, List.cons_append, matchRules_holds holds, matchRules_holds holds]
    · rw [List.cons_append, List.cons_append, matchRules_skips holds, matchRules_skips holds]
      exact ih

theorem BadPattern.never_matches {type pattern : List Char} (bad : BadPattern lib type pattern)
    (text : List Char) : ¬ RegexMatches lib pattern text := by
  rintro ⟨re, compiled, _⟩
  obtain ⟨_, err, failed⟩ := bad
  rw [failed] at compiled
  cases compiled

theorem matcher_never_holds {rule : NamedMatch}
    (bad : trimSpace rule.name = [] ∨ BadPattern lib rule.type rule.value)
    (values : List (List Char)) : ¬ MatcherHolds lib rule values := by
  rintro ⟨named, value, _, satisfied⟩
  rcases bad with blank | pattern
  · exact named blank
  · rw [Satisfies, if_pos pattern.1] at satisfied
    exact pattern.never_matches value satisfied

theorem faulty_never_holds {r : ProbeResponseRule} (faulty : Faulty lib r) (req : Request) :
    ¬ Holds lib req r := by
  intro holds
  rcases faulty with ⟨p, given, bad⟩ | ⟨rule, member, bad⟩
  · have path := holds.path
    have notExact : hasType lib p.type .exact = false := hasType_other bad.1 (by decide)
    rw [Option.mem_def.mp given, PathHolds, notExact, bad.1] at path
    exact bad.never_matches req.path path
  · rcases List.mem_append.mp member with header | param
    · exact matcher_never_holds bad _ (holds.headers rule header)
    · exact matcher_never_holds bad _ (holds.queryParams rule param)

/-- The first rule that holds answers, and a rule with a faulty matcher is as good as absent. -/
theorem first_rule_answers {specJSON : List UInt8} {rules : List ProbeResponseRule}
    (some_spec : specJSON ≠ []) (decoded : lib.unmarshal specJSON = .ok rules) (req : Request) :
    (∀ before r after, rules = before ++ r :: after → (∀ p ∈ before, ¬ Holds lib req p) →
        Holds lib req r →
        matchProbeResponseFromSpec lib specJSON (some req) =
          (r.response.body, if r.response.status = 0 then 200 else r.response.status, true)) ∧
      ((∀ r ∈ rules, ¬ Holds lib req r) →
        matchProbeResponseFromSpec lib specJSON (some req) = noMatch) ∧
      ∀ before r after, rules = before ++ r :: after → Faulty lib r →
        ¬ Holds lib req r ∧
          matchProbeResponseFromSpec lib specJSON (some req) =
            matchRules lib req (before ++ after) := by
  have length : ¬ specJSON.length = 0 := fun none => some_spec (List.length_eq_zero_iff.mp none)
  have loop : matchProbeResponseFromSpec lib specJSON (some req) = matchRules lib req rules := by
    simp [matchProbeResponseFromSpec, length, decoded]
  rw [loop]
  refine ⟨?_, ?_, ?_⟩
  · rintro before r after rfl earlier holds
    rw [matchRules_passes earlier, matchRules_holds holds]
    rfl
  · intro fail
    have passed := matchRules_passes fail []
    rwa [List.append_nil] at passed
  · rintro before r after rfl faulty
    have never := faulty_never_holds faulty req
    exact ⟨never, matchRules_without never before after⟩

end Rules

def broken : ProbeResponseRule :=
  ⟨none, [⟨['X'], MatchType.regularExpression.text, ['(']⟩], [], none, ⟨200, ['a']⟩⟩

def ready : ProbeResponseRule := ⟨none, [⟨['x'], [], ['1']⟩], [], some ['g', 'e', 't'], ⟨0, ['b']⟩⟩

def rulesJSON : List UInt8 :=
  ("\x7b\"probeResponse\":[" ++
    "\x7b\"headers\":[\x7b\"name\":\"X\",\"type\":\"RegularExpression\",\"value\":\"(\"\x7d]," ++
      "\"response\":\x7b\"status\":200,\"body\":\"a\"\x7d\x7d," ++
    "\x7b\"headers\":[\x7b\"name\":\"x\",\"value\":\"1\"\x7d],\"method\":\"get\"," ++
      "\"response\":\x7b\"status\":0,\"body\":\"b\"\x7d\x7d]\x7d").toList.map
    fun c => UInt8.ofNat c.toNat

def sample : Library where
  compile pattern := if pattern = ['('] then .error "missing closing )" else .ok (· == pattern)
  foldRune := Char.toLower
  unmarshal text :=
    if text = rulesJSON then .ok [broken, ready] else .error "unexpected end of JSON input"

def probeRequest : Request where
  method := ['G', 'E', 'T']
  path := slash
  header key := if key = ['X'] then [['1']] else []
  query _ := []

theorem broken_rule_passed_over :
    matchProbeResponseFromSpec sample rulesJSON (some probeRequest) = (['b'], 200, true) := by
  have answers := @first_rule_answers sample rulesJSON [broken, ready] (by decide +kernel)
    (by simp [sample]) probeRequest
  have never := (answers.2.2 [] broken [ready] rfl (.inr ⟨_, List.mem_cons_self,
    .inr ⟨by decide, _, rfl⟩⟩)).1
  refine answers.1 [broken] ready [] rfl (by simpa using never) ⟨?_, ?_, ?_, ?_⟩
  · exact methodMatches_iff.mp (by decide)
  · exact pathMatches_iff.mp (by decide)
  · exact headersMatch_iff.mp (by decide)
  · exact queryParamsMatch_iff.mp (by decide)

end ProbeRules
