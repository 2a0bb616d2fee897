import Elasti.HostTarget
import Elasti.ProxyTarget
import Elasti.TryOutcome

/- The response statuses that handleAnyRequest writes. The response goes through every function
   of the source that may touch it; a panic keeps what was written before it. What the others
   do (the host manager, the probe rules, the throttler, the backend) is given by what they do
   to this request. -/
namespace ResponseOnce
open GoURL HostExtraction

structure GoErr where
  text : String
  deadline : Bool
  deriving DecidableEq, Repr

def GoErr.wrap (start : String) (err : GoErr) : GoErr := { err with text := start ++ err.text }

inductive PanicValue where
  | error (err : GoErr)
  | other (typeName : String)
  deriving DecidableEq, Repr

/-- The server's response. A status is started once; the codes of later calls are logged as
    superfluous. -/
structure Response where
  contentType : Option String
  connection : Option String
  informational : List Nat
  status : Option Nat
  superfluous : List Nat
  written : List String
  deriving DecidableEq, Repr

def Response.writeHeader (r : Response) (code : Nat) : Except PanicValue Response :=
  if r.status.isSome then .ok { r with superfluous := r.superfluous ++ [code] }
  else if code < 100 ∨ 999 < code then .error (.other "string")
  else if code ≤ 199 ∧ code ≠ 101 then .ok { r with informational := r.informational ++ [code] }
  else .ok { r with status := some code }

def Response.write (r : Response) (text : String) : Response :=
  { r with status := some (r.status.getD 200), written := r.written ++ [text] }

/-- writer.go's responseWriter, around the response of the server. -/
structure ResponseWriter extends Response where
  statusCode : Nat
  body : List String
  deriving DecidableEq, Repr

def newResponseWriter : ResponseWriter := ⟨⟨none, none, [], none, [], []⟩, 0, []⟩

structure Ran (α : Type) where
  result : Except PanicValue α
  w : ResponseWriter

def Ran.andThen {α β : Type} (r : Ran α) (next : α → ResponseWriter → Ran β) : Ran β :=
  match r.result with
  | .error value => ⟨.error value, r.w⟩
  | .ok a => next a r.w

namespace ResponseWriter

def writeHeader (w : ResponseWriter) (code : Nat) : Ran Unit :=
  match w.toResponse.writeHeader code with
  | .error value => ⟨.error value, { w with statusCode := code }⟩
  | .ok r => ⟨.ok (), { w with toResponse := r, statusCode := code }⟩

def write (w : ResponseWriter) (text : String) : Ran Unit :=
  ⟨.ok (), { w with toResponse := w.toResponse.write text, body := w.body ++ [text] }⟩

def setContentType (w : ResponseWriter) (value : String) : ResponseWriter :=
  { w with contentType := some value }

def setConnection (w : ResponseWriter) (value : String) : ResponseWriter :=
  { w with connection := some value }

def httpError (w : ResponseWriter) (text : String) (code : Nat) : Ran Unit :=
  ((w.setContentType "text/plain; charset=utf-8").writeHeader code).andThen fun _ w =>
    w.write (text ++ "\n")

end ResponseWriter

structure Interim where
  code : Nat
  contentType : Option String
  informational : 100 ≤ code ∧ code ≤ 199 ∧ code ≠ 101

structure Answer where
  status : Nat
  contentType : Option String
  terminal : ¬ (100 ≤ status ∧ status ≤ 199)

inductive BodyCopy where
  | done
  | fails
  | panics (value : PanicValue)

/-- What the transport comes to: an error (a switch of protocols ends in one as well, since the
    writer cannot be hijacked), a response, or a panic before there is one. -/
inductive Outcome where
  | fails (err : String)
  | answers (answer : Answer) (copy : BodyCopy)
  | panics (value : PanicValue)

structure Probe where
  status : Nat
  body : String
  listed : status ∈ [0, 200, 204, 400, 401, 403, 404, 500, 502, 503, 504]

/-- What Try does with the function it is to call: it returns an error without a call, or calls
    it once, in the attempt of this number, and then finds the context done or not. -/
inductive Throttled where
  | turnedAway (err : GoErr)
  | resolves (count : Nat) (late : Bool)

structure Env where
  host : Except ExtractErr HostTarget.Host
  probe : Option Probe
  isHead : Bool
  requestURI : List Char
  writeErr : Option GoErr
  throttled : Throttled
  interims : List Interim
  outcome : Outcome
  hub : Bool
  serverContext : Bool

def abortHandler : GoErr := ⟨"net/http: abort Handler", false⟩

def nilDereference : GoErr :=
  ⟨"runtime error: invalid memory address or nil pointer dereference", false⟩

def notAnError (typeName : String) : GoErr :=
  ⟨"interface conversion: " ++ typeName ++ " is not error: missing method Error", false⟩

def contextDone : GoErr := ⟨"thunk error: context done error: context deadline exceeded", true⟩

def serverError : Nat := 500

def requestTimeout : Nat := 408

def badGateway : Nat := 502

section Handler
variable (rules : Rules)

def got1xxResponse (w : ResponseWriter) (interim : Interim) : ResponseWriter :=
  -- the trace of the reverse proxy: an informational response is passed on with its headers,
  -- which are taken back afterwards
  let sent := ({ w with contentType := interim.contentType.or w.contentType } :
    ResponseWriter).writeHeader interim.code
  { sent.w with contentType := none, connection := none }

def errorHandler (w : ResponseWriter) : Ran Unit :=
  -- no type: nothing has been written yet
  if w.contentType.getD "" = "" then
    ((w.setContentType "text/plain; charset=utf-8").writeHeader badGateway).andThen fun _ w =>
      w.write "Bad Gateway"
  else ⟨.ok (), w⟩

/-- ReverseProxy.ServeHTTP, as far as it touches the response. -/
def serveHTTP (env : Env) (w : ResponseWriter) : Ran Unit :=
  let w := env.interims.foldl got1xxResponse w
  match env.outcome with
  | .fails _ => errorHandler w
  | .panics value => ⟨.error value, w⟩
  | .answers answer copy =>
    let answered := ({ w with contentType := answer.contentType.or w.contentType } :
      ResponseWriter).writeHeader answer.status
    answered.andThen fun _ w =>
      match copy with
      | .done => ⟨.ok (), w⟩
      | .fails => if env.serverContext then ⟨.error (.error abortHandler), w⟩ else ⟨.ok (), w⟩
      | .panics value => ⟨.error value, w⟩

def recovered (r : Ran (Option GoErr)) : Ran (Option GoErr) :=
  match r.result with
  | .ok _ => r
  | .error (.error err) => ⟨.ok (some (err.wrap "panic in ProxyRequest: ")), r.w⟩
  -- the assertion r.(error) fails and panics in turn
  | .error (.other typeName) => ⟨.error (.error (notAnError typeName)), r.w⟩

def proxyRequest (env : Env) (host : HostTarget.Host) (w : ResponseWriter) : Ran (Option GoErr) :=
  recovered <|
    match ProxyTarget.proxyURL rules host.targetHost env.requestURI with
    | .error text => ⟨.ok (some ⟨text, false⟩), w⟩
    | .ok _ => (serveHTTP env w).andThen fun _ w => ⟨.ok none, w⟩

def resolve (env : Env) (host : HostTarget.Host) (_ : Nat) (w : ResponseWriter) :
    Ran (Option GoErr) :=
  (proxyRequest rules env host (w.setConnection "close")).andThen fun err w =>
    match err with
    | none => ⟨.ok none, w⟩
    -- CaptureException is called on the hub, which may be nil
    | some err => if env.hub then ⟨.ok (some err), w⟩ else ⟨.error (.error nilDereference), w⟩

def tryWith (t : Throttled) (resolve : Nat → ResponseWriter → Ran (Option GoErr))
    (w : ResponseWriter) : Ran (Option GoErr) :=
  -- Try, as one caller sees it: the context has a deadline and nothing else ends it
  match t with
  | .turnedAway err => ⟨.ok (some err), w⟩
  | .resolves count late =>
    (resolve count w).andThen fun err w =>
      ⟨.ok (if late then some contextDone else err.map (GoErr.wrap "thunk error: resolve error: ")), w⟩

def respondProbeResponse (probe : Probe) (isHead : Bool) (w : ResponseWriter) : Ran Unit :=
  (w.writeHeader (if probe.status = 0 then 200 else probe.status)).andThen fun _ w =>
    if isHead then ⟨.ok (), w⟩ else w.write probe.body

def respondTrafficSwitched (w : ResponseWriter) : Ran Unit :=
  (((w.setConnection "close").setContentType "application/json").writeHeader
    requestTimeout).andThen fun _ w => w.write "\x7b\"error\": \"traffic is switched\"\x7d"

def respondTryError (err : GoErr) (w : ResponseWriter) : Ran Unit :=
  if err.deadline then w.httpError "request timeout" requestTimeout else w.writeHeader serverError

def afterTry (tryErr : Option GoErr) (w : ResponseWriter) : Ran (Option GoErr) :=
  match tryErr with
  | none => ⟨.ok none, w⟩
  | some err =>
    (respondTryError err w).andThen fun _ w => ⟨.ok (some (err.wrap "throttler try error: ")), w⟩

def handleAnyRequest (env : Env) (w : ResponseWriter) : Ran (Option GoErr) :=
  match env.host with
  | .error err =>
    (w.httpError "Error getting host" serverError).andThen fun _ w =>
      ⟨.ok (some ⟨"error getting host: " ++ err.text, false⟩), w⟩
  | .ok host =>
    match env.probe with
    | some probe => (respondProbeResponse probe env.isHead w).andThen fun _ w => ⟨.ok none, w⟩
    | none =>
      if host.trafficAllowed = false then
        (respondTrafficSwitched w).andThen fun _ w =>
          match env.writeErr with
          | some err => ⟨.ok (some ((err.wrap "Write: ").wrap "error writing response: ")), w⟩
          | none => ⟨.ok (some ⟨"traffic not allowed by resolver", false⟩), w⟩
      else
        (tryWith env.throttled (resolve rules env host) w).andThen afterTry

end Handler

def Throttled.calls : Throttled → Nat
  | .turnedAway _ => 0
  | .resolves _ _ => 1

section Try
open GuardedRuns ThreadPool ThrottlerBreaker TryOutcome

/-- Every call of Try that returns, among any number of others, has done one of the two. -/
theorem try_as_throttled {p : BreakerParams} {hosts : List ResolverThrottler.Host}
    {c : TracedTries} (reach : Reach tracedTriesStep Unguarded (tracedTries p hosts) c)
    {l : Traced} (member : l ∈ c.threads) {ending : ResolverThrottler.Ending}
    (returned : l.call.pc = .returned ending) :
    ∃ t : Throttled, t.calls = l.resolved.length ∧
      ∀ (resolve : Nat → ResponseWriter → Ran (Option GoErr)) (w : ResponseWriter)
        (err : Option GoErr), (∀ count, (resolve count w).result = .ok err) →
        (∀ recorded ∈ l.resolved, recorded.isSome = err.isSome) →
        ((tryWith t resolve w).result = .ok none ↔ ending = .nil) := by
  have sound := sound_reach reach l member
  have quiet : ending ≠ .panicked := by
    intro panicked
    apply never_panicked (untraced_reach reach) l.call (List.mem_map_of_mem member)
    simp [role, returned, panicked]
  have served : ending = .nil ↔ Served l := by
    have stage := sound.stage
    rw [returned] at stage
    exact stage quiet
  rw [served, Served]
  rcases Nat.le_one_iff_eq_zero_or_eq_one.mp sound.once with no_call | one_call
  · rw [List.eq_nil_of_length_eq_zero no_call]
    exact ⟨.turnedAway contextDone, rfl, fun _ _ _ _ _ => by simp [tryWith]⟩
  · obtain ⟨recorded, called⟩ := List.length_eq_one_iff.mp one_call
    rw [called]
    refine ⟨.resolves l.call.tryCount (recorded.isNone && l.late), rfl, ?_⟩
    intro resolve w err result same
    have kind := same recorded (by simp)
    have run := result l.call.tryCount
    cases recorded with
    | none =>
      have nothing : err = none := by simpa using kind
      subst nothing
      rw [tryWith, Ran.andThen, run]
      cases l.late <;> simp
    | some text =>
      obtain ⟨e, rfl⟩ := Option.isSome_iff_exists.mp kind.symm
      rw [tryWith, Ran.andThen, run]
      simp

end Try

def OneStatus (w : ResponseWriter) : Prop := w.status.isSome = true ∧ w.superfluous = []

def Unstarted (w : ResponseWriter) : Prop := w.status = none ∧ w.superfluous = []

section Writing
variable {w : ResponseWriter} {code : Nat}

theorem Unstarted.not_some (unstarted : Unstarted w) : w.status.isSome = false := by
  rw [unstarted.1]
  rfl

theorem Unstarted.not_one (unstarted : Unstarted w) : ¬ OneStatus w := by
  intro one
  have started := one.1
  rw [unstarted.not_some] at started
  contradiction

theorem writeHeader_unstarted (unstarted : Unstarted w) (final : 200 ≤ code ∧ code ≤ 999) :
    w.writeHeader code = ⟨.ok (), { w with status := some code, statusCode := code }⟩ := by
  have valid : ¬ (code < 100 ∨ 999 < code) := by omega
  have terminal : ¬ (code ≤ 199 ∧ code ≠ 101) := by omega
  simp [ResponseWriter.writeHeader, Response.writeHeader, unstarted.not_some, valid, terminal]

theorem writeHeader_invalid (unstarted : Unstarted w) (invalid : code < 100 ∨ 999 < code) :
    w.writeHeader code = ⟨.error (.other "string"), { w with statusCode := code }⟩ := by
  simp [ResponseWriter.writeHeader, Response.writeHeader, unstarted.not_some, invalid]

theorem writeHeader_informational (unstarted : Unstarted w) (interim : Interim) :
    Unstarted (w.writeHeader interim.code).w := by
  obtain ⟨least, most, other⟩ := interim.informational
  have valid : ¬ (interim.code < 100 ∨ 999 < interim.code) := by omega
  have here : interim.code ≤ 199 ∧ interim.code ≠ 101 := ⟨most, other⟩
  have sent : w.writeHeader interim.code = ⟨.ok (), { w with
      informational := w.informational ++ [interim.code], statusCode := interim.code }⟩ := by
    simp [ResponseWriter.writeHeader, Response.writeHeader, unstarted.not_some, valid, here]
  rw [sent]
  exact unstarted

theorem writeHeader_started (started : w.status.isSome = true) (code : Nat) :
    w.writeHeader code =
      ⟨.ok (), { w with superfluous := w.superfluous ++ [code], statusCode := code }⟩ := by
  simp [ResponseWriter.writeHeader, Response.writeHeader, started]

end Writing

def Doubled (w : ResponseWriter) : Prop := w.status.isSome = true ∧ w.superfluous ≠ []

theorem Doubled.not_one {w : ResponseWriter} (doubled : Doubled w) : ¬ OneStatus w :=
  fun one => doubled.2 one.2

/-- A function that writes a status: the one status of a response that has not been started, one
    too many of a response that has. -/
structure Answers (respond : ResponseWriter → Ran Unit) : Prop where
  first : ∀ w, Unstarted w → (respond w).result = .ok () ∧ OneStatus (respond w).w
  again : ∀ w, OneStatus w → (respond w).result = .ok () ∧ Doubled (respond w).w

theorem answers_writeHeader {code : Nat} (final : 200 ≤ code ∧ code ≤ 999) :
    Answers fun w => w.writeHeader code := by
  constructor
  · intro w unstarted
    rw [writeHeader_unstarted unstarted final]
    exact ⟨rfl, rfl, unstarted.2⟩
  · intro w one
    rw [writeHeader_started one.1]
    exact ⟨rfl, one.1, by simp⟩

theorem andThen_ok {α β : Type} {r : Ran α} {a : α} (fine : r.result = .ok a)
    (next : α → ResponseWriter → Ran β) : r.andThen next = next a r.w := by
  rw [Ran.andThen, fine]

theorem andThen_error {α β : Type} {r : Ran α} {value : PanicValue}
    (failed : r.result = .error value) (next : α → ResponseWriter → Ran β) :
    r.andThen next = ⟨.error value, r.w⟩ := by
  rw [Ran.andThen, failed]

structure Quiet (after : ResponseWriter → Ran Unit) : Prop where
  result : ∀ w, (after w).result = .ok ()
  status : ∀ w, w.status.isSome = true → (after w).w.status.isSome = true
  superfluous : ∀ w, (after w).w.superfluous = w.superfluous

theorem quiet_write (text : String) : Quiet fun w => w.write text :=
  ⟨fun _ => rfl, fun _ _ => rfl, fun _ => rfl⟩

theorem Answers.around {respond after : ResponseWriter → Ran Unit} (answers : Answers respond)
    (quiet : Quiet after) (prepare : ResponseWriter → ResponseWriter)
    (status : ∀ w, (prepare w).status = w.status)
    (superfluous : ∀ w, (prepare w).superfluous = w.superfluous) :
    Answers fun w => (respond (prepare w)).andThen fun _ w => after w := by
  constructor
  · intro w unstarted
    have ready : Unstarted (prepare w) := ⟨(status w).trans unstarted.1, (superfluous w).trans unstarted.2⟩
    obtain ⟨fine, one⟩ := answers.first _ ready
    rw [andThen_ok fine]
    exact ⟨quiet.result _, quiet.status _ one.1, (quiet.superfluous _).trans one.2⟩
  · intro w one
    have ready : OneStatus (prepare w) :=
      ⟨(congrArg Option.isSome (status w)).trans one.1, (superfluous w).trans one.2⟩
    obtain ⟨fine, doubled⟩ := answers.again _ ready
    rw [andThen_ok fine]
    exact ⟨quiet.result _, quiet.status _ doubled.1, by rw [quiet.superfluous]; exact doubled.2⟩

theorem Answers.alone {respond : ResponseWriter → Ran Unit} (answers : Answers respond)
    {w : ResponseWriter} (unstarted : Unstarted w) {α : Type} {next : Unit → ResponseWriter → Ran α}
    (returns : ∀ w, (next () w).w = w) : OneStatus ((respond w).andThen next).w := by
  obtain ⟨fine, one⟩ := answers.first w unstarted
  rw [andThen_ok fine, returns]
  exact one

theorem answers_httpError (text : String) {code : Nat} (final : 200 ≤ code ∧ code ≤ 999) :
    Answers fun w => w.httpError text code :=
  (answers_writeHeader final).around (quiet_write (text ++ "\n"))
    (fun w => w.setContentType "text/plain; charset=utf-8") (fun _ => rfl) fun _ => rfl

theorem answers_trafficSwitched : Answers respondTrafficSwitched :=
  (answers_writeHeader (show 200 ≤ requestTimeout ∧ requestTimeout ≤ 999 by decide)).around
    (quiet_write _)
    (fun w => (w.setConnection "close").setContentType "application/json")
    (fun _ => rfl) fun _ => rfl

theorem answers_tryError (err : GoErr) : Answers (respondTryError err) := by
  unfold respondTryError
  cases err.deadline with
  | true => exact answers_httpError "request timeout" (by decide)
  | false => exact answers_writeHeader (by decide)

theorem answers_probe (probe : Probe) (isHead : Bool) :
    Answers (respondProbeResponse probe isHead) := by
  have final : 200 ≤ (if probe.status = 0 then 200 else probe.status) ∧
      (if probe.status = 0 then 200 else probe.status) ≤ 999 := by
    have listed := probe.listed
    simp only [List.mem_cons, List.not_mem_nil, or_false] at listed
    split <;> omega
  have quiet : Quiet fun w => if isHead then ⟨.ok (), w⟩ else w.write probe.body := by
    cases isHead with
    | true => exact ⟨fun _ => rfl, fun _ started => started, fun _ => rfl⟩
    | false => exact quiet_write probe.body
  exact (answers_writeHeader final).around quiet (fun w => w) (fun _ => rfl) fun _ => rfl

/-- What becomes of a request that is passed on: a response is started, and perhaps cut off by a
    panic, or a panic or an error comes before. -/
inductive Course where
  | answered (cut : Option PanicValue)
  | unanswered (value : PanicValue)
  deriving DecidableEq, Repr

def cutOff (serverContext : Bool) : BodyCopy → Option PanicValue
  | .done => none
  | .fails => if serverContext then some (.error abortHandler) else none
  | .panics value => some value

def servedCourse (env : Env) : Course :=
  match env.outcome with
  | .fails _ => .answered none
  | .panics value => .unanswered value
  | .answers answer copy =>
    if answer.status < 100 ∨ 999 < answer.status then .unanswered (.other "string")
    else .answered (cutOff env.serverContext copy)

def course (rules : Rules) (env : Env) (host : HostTarget.Host) : Course :=
  match ProxyTarget.proxyURL rules host.targetHost env.requestURI with
  | .error text => .unanswered (.error ⟨text, false⟩)
  | .ok _ => servedCourse env

def Served (r : Ran Unit) : Course → Prop
  | .answered none => r.result = .ok () ∧ OneStatus r.w
  | .answered (some value) => r.result = .error value ∧ OneStatus r.w
  | .unanswered value => r.result = .error value ∧ Unstarted r.w

def Proxied (r : Ran (Option GoErr)) : Course → Prop
  | .answered none => r.result = .ok none ∧ OneStatus r.w
  | .answered (some (.error _)) => (∃ err, r.result = .ok (some err)) ∧ OneStatus r.w
  | .answered (some (.other _)) => (∃ value, r.result = .error value) ∧ OneStatus r.w
  | .unanswered (.error _) => (∃ err, r.result = .ok (some err)) ∧ Unstarted r.w
  | .unanswered (.other _) => (∃ value, r.result = .error value) ∧ Unstarted r.w

structure Blank (w : ResponseWriter) : Prop where
  unstarted : Unstarted w
  untyped : w.contentType = none

theorem blank_interims {w : ResponseWriter} (blank : Blank w) (interims : List Interim) :
    Blank (interims.foldl got1xxResponse w) := by
  induction interims generalizing w with
  | nil => exact blank
  | cons interim interims ih =>
    apply ih
    have typed : Unstarted ({ w with contentType := interim.contentType.or w.contentType } :
        ResponseWriter) := blank.unstarted
    exact ⟨writeHeader_informational typed interim, rfl⟩

theorem serveHTTP_served (env : Env) {w : ResponseWriter} (blank : Blank w) :
    Served (serveHTTP env w) (servedCourse env) := by
  have ready := blank_interims blank env.interims
  unfold serveHTTP servedCourse
  dsimp only
  cases env.outcome with
  | fails err =>
    have answers := (answers_writeHeader (show 200 ≤ badGateway ∧ badGateway ≤ 999 by decide)).around
      (quiet_write "Bad Gateway") (fun w => w.setContentType "text/plain; charset=utf-8")
      (fun _ => rfl) fun _ => rfl
    simp only [errorHandler, ready.untyped, Option.getD_none, if_true]
    exact answers.first _ ready.unstarted
  | panics value => exact ⟨rfl, ready.unstarted⟩
  | answers answer copy =>
    dsimp only
    have typed : Unstarted ({ env.interims.foldl got1xxResponse w with
        contentType := answer.contentType.or (env.interims.foldl got1xxResponse w).contentType } :
          ResponseWriter) := ready.unstarted
    by_cases invalid : answer.status < 100 ∨ 999 < answer.status
    · rw [if_pos invalid, writeHeader_invalid typed invalid]
      exact ⟨rfl, typed⟩
    · have final : 200 ≤ answer.status ∧ answer.status ≤ 999 := by
        have terminal := answer.terminal
        omega
      obtain ⟨fine, one⟩ := (answers_writeHeader final).first _ typed
      rw [if_neg invalid, andThen_ok fine]
      cases copy with
      | done => exact ⟨rfl, one⟩
      | fails => cases env.serverContext <;> exact ⟨rfl, one⟩
      | panics value => exact ⟨rfl, one⟩

theorem recovered_proxied {r : Ran Unit} {c : Course} (served : Served r c) :
    Proxied (recovered (r.andThen fun _ w => ⟨.ok none, w⟩)) c := by
  cases c with
  | answered cut =>
    cases cut with
    | none =>
      rw [andThen_ok served.1]
      exact ⟨rfl, served.2⟩
    | some value =>
      rw [andThen_error served.1]
      cases value with
      | error err => exact ⟨⟨_, rfl⟩, served.2⟩
      | other typeName => exact ⟨⟨_, rfl⟩, served.2⟩
  | unanswered value =>
    rw [andThen_error served.1]
    cases value with
    | error err => exact ⟨⟨_, rfl⟩, served.2⟩
    | other typeName => exact ⟨⟨_, rfl⟩, served.2⟩

section Request
variable (rules : Rules) (env : Env) (host : HostTarget.Host) {w : ResponseWriter}

theorem proxyRequest_proxied (blank : Blank w) :
    Proxied (proxyRequest rules env host w) (course rules env host) := by
  unfold proxyRequest course
  cases ProxyTarget.proxyURL rules host.targetHost env.requestURI with
  | error text => exact ⟨⟨_, rfl⟩, blank.unstarted⟩
  | ok u => exact recovered_proxied (serveHTTP_served env blank)

/-- A request that is passed on is answered once if the response goes out whole and the deadline
    is not over then, if an error comes before any response and can be reported, or if what cuts
    the response off gets out of the handler. -/
def AnsweredOnce (hub late : Bool) : Course → Prop
  | .answered none => late = false
  | .answered (some (.error _)) => hub = false
  | .answered (some (.other _)) => True
  | .unanswered (.error _) => hub = true
  | .unanswered (.other _) => False

theorem afterTry_one (err : GoErr) (unstarted : Unstarted w) :
    OneStatus (afterTry (some err) w).w := by
  exact (answers_tryError err).alone unstarted fun _ => rfl

theorem afterTry_doubled (err : GoErr) (one : OneStatus w) : Doubled (afterTry (some err) w).w := by
  obtain ⟨fine, doubled⟩ := (answers_tryError err).again w one
  rw [afterTry, andThen_ok fine]
  exact doubled

section PassedOn
variable (count : Nat) (late : Bool) (w)

abbrev proxiedRun : Ran (Option GoErr) := proxyRequest rules env host (w.setConnection "close")

abbrev passedOn : Ran (Option GoErr) :=
  (tryWith (.resolves count late) (resolve rules env host) w).andThen afterTry

theorem passedOn_nil (returned : (proxiedRun rules env host w).result = .ok none) :
    passedOn rules env host w count late =
      afterTry (if late then some contextDone else none) (proxiedRun rules env host w).w := by
  simp only [passedOn, tryWith, resolve, andThen_ok returned]
  cases late <;> rfl

theorem passedOn_error {err : GoErr} (hub : env.hub = true)
    (returned : (proxiedRun rules env host w).result = .ok (some err)) :
    ∃ tryErr, passedOn rules env host w count late =
      afterTry (some tryErr) (proxiedRun rules env host w).w := by
  simp only [passedOn, tryWith, resolve, andThen_ok returned, hub]
  cases late with
  | true => exact ⟨contextDone, rfl⟩
  | false => exact ⟨_, rfl⟩

theorem passedOn_no_hub {err : GoErr} (hub : env.hub = false)
    (returned : (proxiedRun rules env host w).result = .ok (some err)) :
    (passedOn rules env host w count late).w = (proxiedRun rules env host w).w := by
  simp only [passedOn, tryWith, resolve, andThen_ok returned, hub]
  rfl

theorem passedOn_panic {value : PanicValue}
    (panicked : (proxiedRun rules env host w).result = .error value) :
    (passedOn rules env host w count late).w = (proxiedRun rules env host w).w := by
  simp only [passedOn, tryWith, resolve, andThen_error panicked]
  rfl

end PassedOn

theorem passed_on_iff (blank : Blank w) (count : Nat) (late : Bool) :
    OneStatus (passedOn rules env host w count late).w ↔
      AnsweredOnce env.hub late (course rules env host) := by
  have ready : Blank (w.setConnection "close") := ⟨blank.unstarted, blank.untyped⟩
  have proxied := proxyRequest_proxied rules env host ready
  cases here : course rules env host with
  | answered cut =>
    rw [here] at proxied
    cases cut with
    | none =>
      rw [passedOn_nil rules env host w count late proxied.1]
      cases late with
      | true => simpa [AnsweredOnce] using (afterTry_doubled contextDone proxied.2).not_one
      | false => simpa [AnsweredOnce, afterTry] using proxied.2
    | some value =>
      cases value with
      | error err =>
        obtain ⟨⟨returned, result⟩, one⟩ := proxied
        cases hub : env.hub with
        | true =>
          obtain ⟨tryErr, same⟩ := passedOn_error rules env host w count late hub result
          rw [same]
          simpa [AnsweredOnce] using (afterTry_doubled tryErr one).not_one
        | false =>
          rw [passedOn_no_hub rules env host w count late hub result]
          simpa [AnsweredOnce] using one
      | other typeName =>
        obtain ⟨⟨escaped, result⟩, one⟩ := proxied
        rw [passedOn_panic rules env host w count late result]
        simpa [AnsweredOnce] using one
  | unanswered value =>
    rw [here] at proxied
    cases value with
    | error err =>
      obtain ⟨⟨returned, result⟩, unstarted⟩ := proxied
      cases hub : env.hub with
      | true =>
        obtain ⟨tryErr, same⟩ := passedOn_error rules env host w count late hub result
        rw [same]
        simpa [AnsweredOnce] using afterTry_one tryErr unstarted
      | false =>
        rw [passedOn_no_hub rules env host w count late hub result]
        simpa [AnsweredOnce] using unstarted.not_one
    | other typeName =>
      obtain ⟨⟨escaped, result⟩, unstarted⟩ := proxied
      rw [passedOn_panic rules env host w count late result]
      simpa [AnsweredOnce] using unstarted.not_one

def PassedOn (late : Bool) : Prop :=
  env.host = .ok host ∧ env.probe = none ∧ host.trafficAllowed = true ∧
    ∃ count, env.throttled = .resolves count late

theorem handle_passedOn {late : Bool} (passed : PassedOn env host late) (w : ResponseWriter) :
    ∃ count, handleAnyRequest rules env w = passedOn rules env host w count late := by
  obtain ⟨found, unmatched, allowed, count, resolves⟩ := passed
  refine ⟨count, ?_⟩
  simp [handleAnyRequest, passedOn, found, unmatched, allowed, resolves]

theorem handle_elsewhere (away : ∀ host late, ¬ PassedOn env host late) (unstarted : Unstarted w) :
    OneStatus (handleAnyRequest rules env w).w := by
  unfold handleAnyRequest
  cases found : env.host with
  | error err => exact (answers_httpError _ (by decide)).alone unstarted fun _ => rfl
  | ok host =>
    cases matched : env.probe with
    | some probe => exact (answers_probe probe env.isHead).alone unstarted fun _ => rfl
    | none =>
      dsimp only
      by_cases switched : host.trafficAllowed = false
      · rw [if_pos switched]
        refine answers_trafficSwitched.alone unstarted fun w => ?_
        cases env.writeErr <;> rfl
      · rw [if_neg switched]
        cases throttled : env.throttled with
        | turnedAway err => exact afterTry_one err unstarted
        | resolves count late =>
          exact absurd ⟨found, matched, by simpa using switched, count, throttled⟩ (away host late)

end Request

/-- Exactly one status is written for every request that is not passed on to the backend, and for
    one that is if its course lets it be answered once. -/
theorem one_status_iff (rules : Rules) (env : Env) :
    OneStatus (handleAnyRequest rules env newResponseWriter).w ↔
      ∀ host late, PassedOn env host late → AnsweredOnce env.hub late (course rules env host) := by
  have blank : Blank newResponseWriter := ⟨⟨rfl, rfl⟩, rfl⟩
  constructor
  · intro one host late passed
    obtain ⟨count, same⟩ := handle_passedOn rules env host passed newResponseWriter
    rw [same] at one
    exact (passed_on_iff rules env host blank count late).mp one
  · intro once
    by_cases some_passed : ∃ host late, PassedOn env host late
    · obtain ⟨host, late, passed⟩ := some_passed
      obtain ⟨count, same⟩ := handle_passedOn rules env host passed newResponseWriter
      rw [same]
      exact (passed_on_iff rules env host blank count late).mpr (once host late passed)
    · refine handle_elsewhere rules env (fun host late passed => ?_) blank.unstarted
      exact some_passed ⟨host, late, passed⟩

def shopRequest (outcome : Outcome) (late : Bool) : Env :=
  { host := .ok ⟨⟨true, false⟩, [], [], [], [], [], ['h', 't', 't', 'p', ':', '/', '/', 'b']⟩
    probe := none
    isHead := false
    requestURI := ['/']
    writeErr := none
    throttled := .resolves 1 late
    interims := []
    outcome := outcome
    hub := true
    serverContext := true }

def okAnswer : Answer := ⟨200, none, by decide⟩

def earlyHints : Interim := ⟨103, some "text/html", by decide⟩

def healthProbe : Probe := ⟨0, "alive", by decide⟩

def hintedRequest : Env :=
  { shopRequest (.answers okAnswer .done) false with interims := [earlyHints] }

def probedRequest : Env :=
  { shopRequest (.answers okAnswer .fails) false with probe := some healthProbe }

/-- Early hints go before the backend's one status. A probe that matches is answered in the
    backend's stead, which would have broken off. -/
theorem one_status_written :
    OneStatus (handleAnyRequest lenient hintedRequest newResponseWriter).w ∧
    (handleAnyRequest lenient hintedRequest newResponseWriter).w.informational = [103] ∧
    OneStatus (handleAnyRequest lenient probedRequest newResponseWriter).w ∧
    (handleAnyRequest lenient probedRequest newResponseWriter).w.written = ["alive"] := by
  refine ⟨(one_status_iff _ _).mpr ?_, by decide +kernel,
    (one_status_iff _ _).mpr ?_, by decide +kernel⟩
  · rintro host late ⟨found, -, -, count, throttled⟩
    have inTime : false = late := (Throttled.resolves.inj throttled).2
    have answered : course lenient hintedRequest host = .answered none := by
      rw [← Except.ok.inj found]
      decide +kernel
    rw [answered, ← inTime]
    rfl
  · rintro host late ⟨-, unmatched, -⟩
    exact absurd unmatched (Option.some_ne_none healthProbe)

/-- The backend breaks off inside the body, or the deadline is over when it has answered: in both
    cases a second status is written behind the first. Without a hub an error that comes before
    the response leaves none. -/
theorem second_status_written :
    (handleAnyRequest lenient (shopRequest (.answers okAnswer .fails) false)
      newResponseWriter).w.superfluous = [500] ∧
    (handleAnyRequest lenient (shopRequest (.answers okAnswer .done) true)
      newResponseWriter).w.superfluous = [408] ∧
    (handleAnyRequest lenient
      { shopRequest (.panics (.error nilDereference)) false with hub := false }
      newResponseWriter).w.status = none := by
  decide +kernel

end ResponseOnce
