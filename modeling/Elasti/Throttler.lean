import Elasti.Breaker

/- Throttler.Try as goroutines over the breaker and the throttler's two maps. Every load and
   store of a map, every operation of the breaker and every call out is one step; sleeping
   and waiting take any time. -/
namespace ResolverThrottler
open GuardedRuns ThreadPool ThrottlerSemaphore ThrottlerBreaker

/-- What Try reads of a host. The host manager cuts the namespace and the service out of the
    request's host with a pattern of letters, digits and hyphens. -/
structure Host where
  ns : String
  sourceService : String
  targetService : String
  nsPlain : '/' ∉ ns.toList
  sourcePlain : '/' ∉ sourceService.toList
  deriving DecidableEq

def mapKey (ns service : String) : String := ns ++ "/" ++ service

theorem mapKey_injective (h : Host) (ns service : String) :
    mapKey h.ns h.sourceService = mapKey ns service ↔ h.ns = ns ∧ h.sourceService = service := by
  unfold mapKey
  rw [← String.toList_inj, ← String.toList_inj, ← String.toList_inj]
  simp only [String.toList_append, List.append_assoc]
  have cut : h.ns.toList ++ '/' :: h.sourceService.toList = ns.toList ++ '/' :: service.toList ↔
      h.ns.toList = ns.toList ∧ '/' = '/' ∧ h.sourceService.toList = service.toList :=
    List.append_cons_inj_of_notMem h.nsPlain h.sourcePlain
  simpa using cut

structure Throttler where
  breaker : Breaker
  serviceReadyMap : String → Option Bool
  queueSizeMap : String → Option Int
  armed : List String

def newThrottler (p : BreakerParams) : Throttler :=
  ⟨newBreaker p, fun _ => none, fun _ => none, []⟩

def getQueueSize (t : Throttler) (ns service : String) : Int :=
  (t.queueSizeMap (mapKey ns service)).getD 0

inductive ContextErr where
  | deadlineExceeded
  | canceled
  deriving DecidableEq, Repr

def ContextErr.text : ContextErr → String
  | .deadlineExceeded => "context deadline exceeded"
  | .canceled => "context canceled"

inductive TryErr where
  | queueFull
  | acquire (err : Option ContextErr)
  | thunk (text : String)
  deriving DecidableEq, Repr

def TryErr.text : TryErr → String
  | .queueFull => "breaker error: request queue is full! This request is dropped"
  | .acquire err => "breaker error: acquire: " ++ (err.map ContextErr.text).getD "%!w(<nil>)"
  | .thunk text => "thunk error: " ++ text

inductive Ending where
  | nil
  | err (e : TryErr)
  | panicked
  deriving DecidableEq, Repr

/-- checkIfServiceReady, the call of resolve, the look at the context and the sleep. -/
inductive ThunkPc where
  | load
  | check
  | store
  | arm
  | resolve
  | poll
  | sleep
  deriving DecidableEq, Repr

inductive TryPc where
  | incLoad
  | incStore (size : Int)
  | maybe (pc : MaybePc)
  | thunk (pc : ThunkPc)
  | decLoad (ending : Ending)
  | decStore (ending : Ending) (size : Int)
  | returned (ending : Ending)
  deriving DecidableEq, Repr

/-- One call of Try. The field ran is a ghost: a thunk of the call has begun. -/
structure Call where
  host : Host
  tryCount : Nat
  reenqueue : Bool
  tryErr : Option String
  callbacks : Nat
  ctx : Option ContextErr
  ran : Bool
  pc : TryPc

def newCall (host : Host) : Call := ⟨host, 1, true, none, 0, none, false, .incLoad⟩

/-- What a step is answered: the Done branch of acquire's select, the end of the context,
    the answer of CheckIfServiceEndpointSliceActive, the answer of resolve. -/
inductive Answer where
  | go
  | cancel
  | done (err : ContextErr)
  | active (isPodActive : Bool)
  | fail (text : String)
  | resolved (err : Option String)
  deriving DecidableEq, Repr

def enterMaybe (c : Call) : Call := { c with tryErr := none, pc := .maybe .tryLoad }

def afterLoop (c : Call) : Ending :=
  match c.tryErr with
  | none => .nil
  | some text => .err (.thunk text)

def resume (c : Call) : MaybePc → Call
  | .thunk => { c with ran := true, pc := .thunk .load }
  | .returned .done =>
    if c.reenqueue then enterMaybe c else { c with pc := .decLoad (afterLoop c) }
  | .returned .queueFull => { c with pc := .decLoad (.err .queueFull) }
  | .returned .cancelled => { c with pc := .decLoad (.err (.acquire c.ctx)) }
  | .returned .unpaired => { c with pc := .decLoad .panicked }
  | pc => { c with pc := .maybe pc }

def notReady (c : Call) (text : String) : Call :=
  -- the error branch of the thunk, which also starts tryErrCallback
  { c with tryErr := some text, callbacks := c.callbacks + 1, pc := .thunk .poll }

def noActiveEndpoints (h : Host) : String :=
  s!"no active endpoints found for namespace: {h.ns} service: {h.targetService}"

def leaveThunk (c : Call) : Call := { c with pc := .maybe (.releasing .load) }

def thunkStep (t : Throttler) (c : Call) : ThunkPc → Answer → Option (Throttler × Call)
  | .load, .go =>
    match t.serviceReadyMap (mapKey c.host.ns c.host.targetService) with
    | some true => some (t, { c with pc := .thunk .resolve })
    | some false => some (t, { c with pc := .thunk .poll })
    | none => some (t, { c with pc := .thunk .check })
  | .check, .fail text => some (t, notReady c ("unable to get target active endpoints: " ++ text))
  | .check, .active false => some (t, notReady c (noActiveEndpoints c.host))
  | .check, .active true => some (t, { c with pc := .thunk .store })
  | .store, .go =>
    some ({ t with serviceReadyMap :=
      Function.update t.serviceReadyMap (mapKey c.host.ns c.host.targetService) (some true) },
      { c with pc := .thunk .arm })
  | .arm, .go =>
    some ({ t with armed := t.armed ++ [mapKey c.host.ns c.host.targetService] },
      { c with pc := .thunk .resolve })
  | .resolve, .resolved none => some (t, { c with reenqueue := false, pc := .thunk .poll })
  | .resolve, .resolved (some err) =>
    some (t, { c with
      tryErr := some ("resolve error: " ++ err), reenqueue := false, pc := .thunk .poll })
  | .poll, .go =>
    match c.ctx with
    | some err =>
      some (t, leaveThunk { c with
        tryErr := some ("context done error: " ++ err.text), reenqueue := false })
    | none =>
      if c.reenqueue then some (t, { c with tryCount := c.tryCount + 1, pc := .thunk .sleep })
      else some (t, leaveThunk c)
  | .sleep, .go => some (t, leaveThunk c)
  | _, _ => none

theorem thunkStep_spec {t u : Throttler} {l m : Call} {pc : ThunkPc} {a : Answer}
    (ran : thunkStep t l pc a = some (u, m)) :
    u.breaker = t.breaker ∧ u.queueSizeMap = t.queueSizeMap ∧ m.host = l.host ∧
      ((∃ next, m.pc = .thunk next) ∨ m.pc = .maybe (.releasing .load)) := by
  unfold thunkStep at ran
  split at ran
  all_goals try split at ran
  all_goals try split at ran
  all_goals cases ran
  all_goals simp [notReady, leaveThunk]

def storeQueueSize (t : Throttler) (h : Host) (size : Int) : Throttler :=
  { t with queueSizeMap :=
    Function.update t.queueSizeMap (mapKey h.ns h.sourceService) (some size) }

def maybeStep (t : Throttler) (c : Call) (pc : MaybePc) (ch : Choice) :
    Option (Throttler × Call) :=
  (maybe t.breaker pc ch).map fun r => ({ t with breaker := r.1 }, resume c r.2)

def tryStep (t : Throttler) (c : Call) (a : Answer) : Option (Throttler × Call) :=
  match c.pc, a with
  | .returned _, _ => none
  | _, .done err => if c.ctx = none then some (t, { c with ctx := some err }) else none
  | .incLoad, .go =>
    some (t, { c with pc := .incStore (getQueueSize t c.host.ns c.host.sourceService) })
  | .incStore size, .go => some (storeQueueSize t c.host (size + 1), enterMaybe c)
  | .maybe pc, .go => maybeStep t c pc .go
  | .maybe pc, .cancel => if c.ctx.isSome then maybeStep t c pc .cancel else none
  | .thunk pc, a => thunkStep t c pc a
  | .decLoad ending, .go =>
    some (t, { c with
      pc := .decStore ending (getQueueSize t c.host.ns c.host.sourceService) })
  | .decStore ending size, .go =>
    some (storeQueueSize t c.host (size - 1), { c with pc := .returned ending })
  | _, _ => none

/-- What one step of Try is, with the place the call is at. -/
inductive TryEffect (t : Throttler) (l : Call) : Answer → Throttler → Call → Prop where
  | contextDone (err : ContextErr) : TryEffect t l (.done err) t { l with ctx := some err }
  | incLoad (size : Int) (before : l.pc = .incLoad) :
      TryEffect t l .go t { l with pc := .incStore size }
  | incStore (size : Int) (before : l.pc = .incStore size) :
      TryEffect t l .go (storeQueueSize t l.host (size + 1)) (enterMaybe l)
  | maybe (pc : MaybePc) (ch : Choice) (a : Answer) (u : Throttler) (m : Call)
      (before : l.pc = .maybe pc) (ran : maybeStep t l pc ch = some (u, m)) : TryEffect t l a u m
  | thunk (pc : ThunkPc) (a : Answer) (u : Throttler) (m : Call) (before : l.pc = .thunk pc)
      (ran : thunkStep t l pc a = some (u, m)) : TryEffect t l a u m
  | decLoad (ending : Ending) (size : Int) (before : l.pc = .decLoad ending) :
      TryEffect t l .go t { l with pc := .decStore ending size }
  | decStore (ending : Ending) (size : Int) (before : l.pc = .decStore ending size) :
      TryEffect t l .go (storeQueueSize t l.host (size - 1)) { l with pc := .returned ending }

theorem tryStep_cases {t u : Throttler} {l m : Call} {a : Answer}
    (ran : tryStep t l a = some (u, m)) : TryEffect t l a u m := by
  unfold tryStep at ran
  split at ran
  · cases ran
  · split at ran <;> cases ran
    exact .contextDone _
  · rename_i before
    cases ran
    exact .incLoad _ before
  · rename_i size before
    cases ran
    exact .incStore size before
  · rename_i pc before
    exact .maybe pc .go _ u m before ran
  · rename_i pc before
    split at ran
    · exact .maybe pc .cancel _ u m before ran
    · cases ran
  · rename_i pc before _
    exact .thunk pc _ u m before ran
  · rename_i ending before
    cases ran
    exact .decLoad ending _ before
  · rename_i ending size before
    cases ran
    exact .decStore ending size before
  · cases ran

def fire (t : Throttler) (k : Nat) : Option Throttler :=
  t.armed[k]?.map fun key =>
    { t with
      serviceReadyMap := Function.update t.serviceReadyMap key none, armed := t.armed.eraseIdx k }

abbrev Tries := Pool Throttler Call

abbrev Move := Event Answer Nat

def triesStep : Tries → Move → Option Tries := step tryStep fire

def tries (p : BreakerParams) (hosts : List Host) : Tries := ⟨newThrottler p, hosts.map newCall⟩

def web : Host := ⟨"shop", "web", "web-pvt", by decide, by decide⟩

def goes (i n : Nat) : List Move := List.replicate n (.thread i .go)

end ResolverThrottler
