import Elasti.GuardedRuns
import Elasti.ResolverSlice

/- switchMode and what it calls, one call after another. Reads answer with the stored
   object; which API calls fail, and with what text, is an input of each call. -/
namespace SwitchModes
open GuardedRuns ResolverSlice

inductive Mode where
  | serve
  | proxy
  deriving DecidableEq, Repr

structure PrivateService where
  owner : Option String
  deriving DecidableEq, Repr

structure Routing where
  mode : Option Mode
  slice : Option EndpointSlice
  privateService : Option PrivateService
  deriving DecidableEq, Repr

structure Faults where
  crdGet : Option String
  sliceGet : Option String
  sliceDelete : Option String
  serviceGet : Option String
  privateGet : Option String
  privateCreate : Option String
  resolverList : Option String
  sliceWrite : Option String
  watch : Option String
  statusGet : Option String
  deriving DecidableEq, Repr

inductive DeleteErr where
  | get (text : String)
  | delete (text : String)
  deriving DecidableEq, Repr

def DeleteErr.text (object : String) : DeleteErr → String
  | .get text => "failed to get " ++ object ++ ": " ++ text
  | .delete text => "failed to delete " ++ object ++ ": " ++ text

inductive SwitchErr where
  | crd (text : String)
  | serve (err : DeleteErr)
  | service (text : String)
  | privateService (text : String)
  | slice (err : SliceErr)
  | watch (text : String)
  deriving DecidableEq, Repr

def SwitchErr.text : SwitchErr → String
  | .crd text => "failed to get CRD: failed to get ElastiService: " ++ text
  | .serve err => "failed to delete endpointslice to resolver: " ++ err.text "endpointslice"
  | .service text => "failed to get target service: " ++ text
  | .privateService text =>
    "failed to check and create private service: checkAndCreatePrivateService: " ++ text
  | .slice err => "failed to create or update endpointslice to resolver: " ++ err.text ++ " "
  | .watch text => "failed to add watch on public service: " ++ text

inductive Outcome (ε : Type) where
  | done
  | failed (err : ε)
  | panicked
  deriving DecidableEq, Repr

/-- What one call meets: the requested mode, the failures, the service it reads and the
    EndpointSlices the cache lists. -/
structure Call where
  mode : Mode
  faults : Faults
  service : Service
  slices : List EndpointSlice
  deriving DecidableEq, Repr

def deleteEndpointsliceToResolver (f : Faults) (s : Routing) : Routing × Option DeleteErr :=
  match f.sliceGet, s.slice, f.sliceDelete with
  | some text, _, _ => (s, some (.get text))
  | none, none, _ => (s, none)
  | none, some _, some text => (s, some (.delete text))
  | none, some _, none => ({ s with slice := none }, none)

def alreadyExists : String := "already exists"

def checkAndCreatePrivateService (uid : String) (f : Faults) (s : Routing) :
    Routing × Option String :=
  -- a failed read is only logged, and the code goes on to create
  match f.privateGet, s.privateService, f.privateCreate with
  | none, some _, _ => (s, none)
  | some _, some _, _ => (s, some alreadyExists)
  | _, none, some text => (s, some text)
  | _, none, none => ({ s with privateService := some ⟨some uid⟩ }, none)

def createOrUpdateEndpointsliceToResolver (config : ResolverConfig) (call : Call) (s : Routing) :
    Routing × Outcome SliceErr :=
  -- the slice is updated if it was read, and created otherwise
  match call.faults.resolverList with
  | some text => (s, .failed (.list text))
  | none =>
    match getIPsForResolver config call.slices with
    | .error err => (s, .failed err)
    | .ok ips =>
      match call.faults.sliceGet with
      | some text => (s, .failed (.get text))
      | none =>
        match newEndpointSlice config call.service ips with
        | none => (s, .panicked)
        | some slice =>
          match call.faults.sliceWrite with
          | some text => (s, .failed (.write text))
          | none => ({ s with slice := some slice }, .done)

def enableProxyMode (config : ResolverConfig) (uid : String) (call : Call) (s : Routing) :
    Routing × Outcome SwitchErr :=
  match call.faults.serviceGet with
  | some text => (s, .failed (.service text))
  | none =>
    match checkAndCreatePrivateService uid call.faults s with
    | (s, some text) => (s, .failed (.privateService text))
    | (s, none) =>
      match createOrUpdateEndpointsliceToResolver config call s with
      | (s, .failed err) => (s, .failed (.slice err))
      | (s, .panicked) => (s, .panicked)
      | (s, .done) =>
        match call.faults.watch with
        | some text => (s, .failed (.watch text))
        | none => (s, .done)

def enableServeMode (f : Faults) (s : Routing) : Routing × Outcome SwitchErr :=
  match deleteEndpointsliceToResolver f s with
  | (s, some err) => (s, .failed (.serve err))
  | (s, none) => (s, .done)

def enable (config : ResolverConfig) (uid : String) (call : Call) (s : Routing) :
    Routing × Outcome SwitchErr :=
  match call.mode with
  | .serve => enableServeMode call.faults s
  | .proxy => enableProxyMode config uid call s

def updateCRDStatus (f : Faults) (mode : Mode) (s : Routing) : Routing :=
  match f.statusGet with
  | some _ => s
  | none => { s with mode := some mode }

/-- The status update is deferred before the switch on the mode: it runs whatever the
    outcome is, also while a panic unwinds. -/
def switchMode (config : ResolverConfig) (uid : String) (call : Call) (s : Routing) :
    Routing × Outcome SwitchErr :=
  match call.faults.crdGet with
  | some text => (s, .failed (.crd text))
  | none =>
    (updateCRDStatus call.faults call.mode (enable config uid call s).1,
      (enable config uid call s).2)

structure Calls where
  routing : Routing
  last : Outcome SwitchErr
  modeBefore : Option Mode
  deriving DecidableEq, Repr

def first (s : Routing) : Calls := ⟨s, .done, s.mode⟩

def callStep (config : ResolverConfig) (uid : String) (c : Calls) (call : Call) : Option Calls :=
  some ⟨(switchMode config uid call c.routing).1, (switchMode config uid call c.routing).2,
    c.routing.mode⟩

def ModeMatchesSlice (s : Routing) : Prop :=
  (s.mode = some .proxy → s.slice ≠ none) ∧ (s.mode = some .serve → s.slice = none)

def Consistent (c : Calls) : Prop :=
  ModeMatchesSlice c.routing ∧ ∀ err, c.last = .failed err → c.routing.mode = c.modeBefore

instance (s : Routing) : Decidable (ModeMatchesSlice s) := by
  unfold ModeMatchesSlice
  infer_instance

def serveFails (f : Faults) (s : Routing) : Bool :=
  f.sliceGet.isSome || (s.slice.isSome && f.sliceDelete.isSome)

def privateFails (f : Faults) (s : Routing) : Bool :=
  if s.privateService.isSome then f.privateGet.isSome else f.privateCreate.isSome

def noResolverAddress (config : ResolverConfig) (slices : List EndpointSlice) : Bool :=
  (listed config slices).all fun slice => slice.endpoints.flatten.isEmpty

def proxyStops (config : ResolverConfig) (call : Call) (s : Routing) : Bool :=
  call.faults.serviceGet.isSome || privateFails call.faults s ||
    call.faults.resolverList.isSome || noResolverAddress config call.slices ||
    call.faults.sliceGet.isSome

/-- When the status can be written, a switch to serve that fails must find the status at
    serve already; when it cannot, the slice must not go while the status stays at proxy. -/
def ServeOk (f : Faults) (s : Routing) : Prop :=
  match f.statusGet with
  | none => serveFails f s = true → s.mode = some .serve
  | some _ => serveFails f s = false → s.mode ≠ some .proxy

/-- When the status can be written, a switch to proxy that fails must find the status at
    proxy already, and a service without ports needs its slice there; when it cannot, the
    slice must not be written while the status stays at serve. -/
def ProxyOk (config : ResolverConfig) (call : Call) (s : Routing) : Prop :=
  match call.faults.statusGet with
  | none =>
    if proxyStops config call s then s.mode = some .proxy
    else if call.service.ports = [] then s.slice ≠ none
    else call.faults.sliceWrite ≠ none ∨ call.faults.watch ≠ none → s.mode = some .proxy
  | some _ =>
    proxyStops config call s = false → call.service.ports ≠ [] →
      call.faults.sliceWrite = none → s.mode ≠ some .serve

def CallOk (config : ResolverConfig) (c : Calls) (call : Call) : Prop :=
  call.faults.crdGet = none →
    match call.mode with
    | .serve => ServeOk call.faults c.routing
    | .proxy => ProxyOk config call c.routing

instance (f : Faults) (s : Routing) : Decidable (ServeOk f s) := by
  unfold ServeOk
  split <;> infer_instance

instance (config : ResolverConfig) (call : Call) (s : Routing) :
    Decidable (ProxyOk config call s) := by
  unfold ProxyOk
  split
  · split
    · infer_instance
    · split <;> infer_instance
  · infer_instance

instance (config : ResolverConfig) (c : Calls) (call : Call) : Decidable (CallOk config c call) := by
  unfold CallOk
  cases call.mode <;> infer_instance

structure Keeps (s t : Routing) : Prop where
  mode : t.mode = s.mode
  slice : t.slice = s.slice

theorem enableServeMode_spec (f : Faults) (s : Routing) :
    if serveFails f s then ∃ err, enableServeMode f s = (s, .failed err)
    else enableServeMode f s = ({ s with slice := none }, .done) := by
  unfold enableServeMode deleteEndpointsliceToResolver serveFails
  obtain ⟨mode, slice, privateService⟩ := s
  cases get : f.sliceGet with
  | some text => simp
  | none =>
    cases slice with
    | none => simp
    | some slice => cases delete : f.sliceDelete <;> simp

theorem checkAndCreatePrivateService_spec (uid : String) (f : Faults) (s : Routing) :
    if privateFails f s then ∃ text, checkAndCreatePrivateService uid f s = (s, some text)
    else ∃ t, checkAndCreatePrivateService uid f s = (t, none) ∧ Keeps s t := by
  unfold checkAndCreatePrivateService privateFails
  obtain ⟨mode, slice, privateService⟩ := s
  cases privateService with
  | some found =>
    cases get : f.privateGet with
    | none => exact ⟨_, rfl, rfl, rfl⟩
    | some text => exact ⟨_, rfl⟩
  | none =>
    cases create : f.privateCreate with
    | none => cases f.privateGet <;> exact ⟨_, rfl, rfl, rfl⟩
    | some text => cases f.privateGet <;> exact ⟨_, rfl⟩

theorem getIPsForResolver_error (config : ResolverConfig) (slices : List EndpointSlice)
    (none_listed : noResolverAddress config slices = true) :
    getIPsForResolver config slices = .error .noResolverPodFound := by
  have nil : ((listed config slices).flatMap fun slice => slice.endpoints.flatten) = [] := by
    rw [List.flatMap_eq_nil_iff]
    intro slice member
    have empty := List.all_eq_true.mp none_listed slice member
    exact List.isEmpty_iff.mp empty
  unfold getIPsForResolver
  rw [nil]

theorem getIPsForResolver_ok (config : ResolverConfig) (slices : List EndpointSlice)
    (some_listed : noResolverAddress config slices = false) :
    ∃ ips, getIPsForResolver config slices = .ok ips := by
  unfold getIPsForResolver
  split
  · rename_i nil
    rw [List.flatMap_eq_nil_iff] at nil
    have none_listed : noResolverAddress config slices = true :=
      List.all_eq_true.mpr fun slice member => List.isEmpty_iff.mpr (nil slice member)
    rw [none_listed] at some_listed
    contradiction
  · exact ⟨_, rfl⟩

/-- The ways enableProxyMode can end, with the inputs each of them needs. -/
inductive ProxyEffect (config : ResolverConfig) (call : Call) (s : Routing) :
    Routing × Outcome SwitchErr → Prop where
  | stopped (t : Routing) (err : SwitchErr) (keeps : Keeps s t)
      (stops : proxyStops config call s = true) : ProxyEffect config call s (t, .failed err)
  | panicked (t : Routing) (keeps : Keeps s t) (goes : proxyStops config call s = false)
      (noPort : call.service.ports = []) : ProxyEffect config call s (t, .panicked)
  | unwritten (t : Routing) (err : SwitchErr) (keeps : Keeps s t)
      (goes : proxyStops config call s = false) (port : call.service.ports ≠ [])
      (refused : call.faults.sliceWrite ≠ none) : ProxyEffect config call s (t, .failed err)
  | unwatched (t : Routing) (err : SwitchErr) (mode : t.mode = s.mode) (slice : t.slice ≠ none)
      (goes : proxyStops config call s = false) (port : call.service.ports ≠ [])
      (written : call.faults.sliceWrite = none) (refused : call.faults.watch ≠ none) :
      ProxyEffect config call s (t, .failed err)
  | enabled (t : Routing) (mode : t.mode = s.mode) (slice : t.slice ≠ none)
      (goes : proxyStops config call s = false) (port : call.service.ports ≠ [])
      (written : call.faults.sliceWrite = none) (watched : call.faults.watch = none) :
      ProxyEffect config call s (t, .done)

theorem enableProxyMode_effect (config : ResolverConfig) (uid : String) (call : Call)
    (s : Routing) : ProxyEffect config call s (enableProxyMode config uid call s) := by
  unfold enableProxyMode
  cases service : call.faults.serviceGet with
  | some text => exact .stopped s _ ⟨rfl, rfl⟩ (by simp [proxyStops, service])
  | none =>
    have spec := checkAndCreatePrivateService_spec uid call.faults s
    cases blocked : privateFails call.faults s with
    | true =>
      simp only [blocked, ↓reduceIte] at spec
      obtain ⟨text, created⟩ := spec
      simp only [created]
      exact .stopped s _ ⟨rfl, rfl⟩ (by simp [proxyStops, blocked])
    | false =>
      simp only [blocked, Bool.false_eq_true, ↓reduceIte] at spec
      obtain ⟨t, created, keeps⟩ := spec
      simp only [created, createOrUpdateEndpointsliceToResolver]
      cases list : call.faults.resolverList with
      | some text => exact .stopped t _ keeps (by simp [proxyStops, list])
      | none =>
        cases address : noResolverAddress config call.slices with
        | true =>
          simp only [getIPsForResolver_error config call.slices address]
          exact .stopped t _ keeps (by simp [proxyStops, address])
        | false =>
          obtain ⟨ips, found⟩ := getIPsForResolver_ok config call.slices address
          simp only [found]
          cases get : call.faults.sliceGet with
          | some text => exact .stopped t _ keeps (by simp [proxyStops, get])
          | none =>
            have goes : proxyStops config call s = false := by
              simp [proxyStops, service, blocked, list, address, get]
            unfold newEndpointSlice
            cases ports : call.service.ports with
            | nil => exact .panicked t keeps goes ports
            | cons port rest =>
              have port : call.service.ports ≠ [] := by simp [ports]
              cases write : call.faults.sliceWrite with
              | some text => exact .unwritten t _ keeps goes port (by simp [write])
              | none =>
                cases watch : call.faults.watch with
                | some text =>
                  exact .unwatched _ _ keeps.mode (by simp) goes port write (by simp [watch])
                | none => exact .enabled _ keeps.mode (by simp) goes port write watch

theorem consistent_written {f : Faults} {t : Routing} {m : Mode} {out : Outcome SwitchErr}
    {before : Option Mode} (written : f.statusGet = none) :
    Consistent ⟨updateCRDStatus f m t, out, before⟩ ↔
      (m = .proxy → t.slice ≠ none) ∧ (m = .serve → t.slice = none) ∧
        ∀ err, out = .failed err → before = some m := by
  simp only [Consistent, ModeMatchesSlice, updateCRDStatus, written, Option.some.injEq, and_assoc,
    eq_comm (b := before)]

theorem consistent_unwritten {f : Faults} {s t : Routing} {m : Mode} {out : Outcome SwitchErr}
    {text : String} (unread : f.statusGet = some text) (same : t.mode = s.mode) :
    Consistent ⟨updateCRDStatus f m t, out, s.mode⟩ ↔
      (s.mode = some .proxy → t.slice ≠ none) ∧ (s.mode = some .serve → t.slice = none) := by
  simp only [Consistent, ModeMatchesSlice, updateCRDStatus, unread, same]
  tauto

theorem serve_exact (f : Faults) (s : Routing) (good : ModeMatchesSlice s) :
    Consistent ⟨updateCRDStatus f .serve (enableServeMode f s).1, (enableServeMode f s).2, s.mode⟩ ↔
      ServeOk f s := by
  obtain ⟨proxyKnown, serveKnown⟩ := good
  have spec := enableServeMode_spec f s
  unfold ServeOk
  cases fails : serveFails f s with
  | true =>
    simp only [fails, ↓reduceIte] at spec
    obtain ⟨err, enabled⟩ := spec
    rw [enabled]
    cases status : f.statusGet with
    | none =>
      rw [consistent_written status]
      simp only [reduceCtorEq, false_implies, true_and, forall_const, Outcome.failed.injEq]
      constructor
      · intro both
        exact both.2 err rfl
      · intro already
        exact ⟨serveKnown already, fun _ _ => already⟩
    | some text =>
      rw [consistent_unwritten status rfl]
      simp only [reduceCtorEq, false_implies, iff_true]
      exact ⟨proxyKnown, serveKnown⟩
  | false =>
    simp only [fails, Bool.false_eq_true, ↓reduceIte] at spec
    rw [spec]
    cases status : f.statusGet with
    | none =>
      rw [consistent_written status]
      simp
    | some text =>
      have unwritten : Consistent ⟨updateCRDStatus f .serve { s with slice := none }, .done, s.mode⟩ ↔
          _ := consistent_unwritten (s := s) status rfl
      rw [unwritten]
      simp

theorem proxy_exact (config : ResolverConfig) (uid : String) (call : Call) (s : Routing)
    (good : ModeMatchesSlice s) :
    Consistent ⟨updateCRDStatus call.faults .proxy (enableProxyMode config uid call s).1,
        (enableProxyMode config uid call s).2, s.mode⟩ ↔ ProxyOk config call s := by
  obtain ⟨proxyKnown, serveKnown⟩ := good
  have effect := enableProxyMode_effect config uid call s
  generalize enableProxyMode config uid call s = result at effect
  unfold ProxyOk
  cases status : call.faults.statusGet with
  | none =>
    rw [consistent_written status]
    cases effect with
    | stopped t err keeps stops => simpa [stops, keeps.slice] using proxyKnown
    | panicked t keeps goes noPort => simp [goes, noPort, keeps.slice]
    | unwritten t err keeps goes port refused =>
      simpa [goes, port, refused, keeps.slice] using proxyKnown
    | unwatched t err mode slice goes port written refused =>
      simp [goes, port, refused, slice]
    | enabled t mode slice goes port written watched => simp [goes, port, written, watched, slice]
  | some text =>
    cases effect with
    | stopped t err keeps stops =>
      rw [consistent_unwritten status keeps.mode, keeps.slice]
      simpa [stops] using ⟨proxyKnown, serveKnown⟩
    | panicked t keeps goes noPort =>
      rw [consistent_unwritten status keeps.mode, keeps.slice]
      simpa [noPort] using ⟨proxyKnown, serveKnown⟩
    | unwritten t err keeps goes port refused =>
      rw [consistent_unwritten status keeps.mode, keeps.slice]
      simpa [refused] using ⟨proxyKnown, serveKnown⟩
    | unwatched t err mode slice goes port written refused =>
      rw [consistent_unwritten status mode]
      simp [goes, port, written, slice]
    | enabled t mode slice goes port written watched =>
      rw [consistent_unwritten status mode]
      simp [goes, port, written, slice]

def quietCall (mode : Mode) (slices : List EndpointSlice) : Call :=
  ⟨mode, ⟨none, none, none, none, none, none, none, none, none, none⟩,
    ⟨"shop", "cart", ["http"]⟩, slices⟩

def oneNamespace : ResolverConfig := ⟨"elasti", "elasti-resolver-service", 8012, ["elasti", "shop"]⟩

def resolverPod : EndpointSlice :=
  ⟨"elasti", "elasti-resolver-service", "IPv4", [("proxy", 8012)], [["10.0.0.7"]]⟩

theorem consistent_exact (config : ResolverConfig) (uid : String) (c : Calls) (call : Call)
    (d : Calls) (good : Consistent c) (move : callStep config uid c call = some d) :
    Consistent d ↔ CallOk config c call := by
  cases move
  unfold switchMode CallOk
  cases crd : call.faults.crdGet with
  | some text => simp [Consistent, good.1]
  | none =>
    cases mode : call.mode with
    | serve => simpa [enable, mode] using serve_exact call.faults c.routing good.1
    | proxy => simpa [enable, mode] using proxy_exact config uid call c.routing good.1

theorem run_total (config : ResolverConfig) (uid : String) (c : Calls) (calls : List Call) :
    ∃ d, run (callStep config uid) c calls = some d := by
  induction calls generalizing c with
  | nil => exact ⟨c, rfl⟩
  | cons call calls ih => exact ih _

/-- The mode and the slice agree between all calls, and no failed call changes the mode,
    exactly if every call meets its condition. -/
theorem mode_matches_slice_iff (config : ResolverConfig) (uid : String) (start : Routing)
    (agree : ModeMatchesSlice start) (calls : List Call) :
    Always (callStep config uid) Consistent (first start) calls ↔
      Meets (callStep config uid) (CallOk config) (first start) calls := by
  obtain ⟨last, done⟩ := run_total config uid (first start) calls
  have good : Consistent (first start) := ⟨agree, fun _ _ => rfl⟩
  have keep : ∀ c call d, True → callStep config uid c call = some d → True :=
    fun _ _ _ known _ => known
  exact always_iff_meets keep
    (fun c call d _ here move => consistent_exact config uid c call d here move)
    calls trivial good done

theorem proxy_then_serve :
    Meets (callStep oneNamespace "uid") (CallOk oneNamespace) (first ⟨some .serve, none, none⟩)
        [quietCall .proxy [resolverPod], quietCall .serve []] ∧
      Always (callStep oneNamespace "uid") Consistent (first ⟨some .serve, none, none⟩)
        [quietCall .proxy [resolverPod], quietCall .serve []] := by
  have meets : Meets (callStep oneNamespace "uid") (CallOk oneNamespace)
      (first ⟨some .serve, none, none⟩) [quietCall .proxy [resolverPod], quietCall .serve []] :=
    meets_of_guardedRun _ rfl
  exact ⟨meets, (mode_matches_slice_iff oneNamespace "uid" ⟨some .serve, none, none⟩
    (by decide) _).mpr meets⟩

/-- With no resolver pod listed the switch to proxy returns an error after its private
    service is created, and the deferred update still sets the mode. -/
theorem failed_switch_sets_proxy :
    ∃ c, run (callStep oneNamespace "uid") (first ⟨some .serve, none, none⟩)
        [quietCall .proxy []] = some c ∧
      c.last = .failed (.slice .noResolverPodFound) ∧ c.modeBefore = some .serve ∧
      c.routing.mode = some .proxy ∧ c.routing.slice = none ∧ ¬ Consistent c := by
  refine ⟨⟨⟨some .proxy, none, some ⟨some "uid"⟩⟩, .failed (.slice .noResolverPodFound),
    some .serve⟩, by decide, rfl, rfl, rfl, rfl, ?_⟩
  intro consistent
  exact absurd rfl (consistent.1.1 rfl)

end SwitchModes
