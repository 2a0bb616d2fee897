import Elasti.Modes

/- The runs that move a service between its own endpoints and the resolver, one API call
   at a time: switchMode under its mutex, handleResolverChanges, and the part of Reconcile
   that fills the directory. Reads go through the manager's cache, so what a read shows is
   part of its answer and need not be what is stored. -/
namespace RoutingRuns
open GuardedRuns ResolverSlice SwitchModes

/-- The directory holds the mode of the last copied status. The last switch is the mode of
    the switchMode that took the mutex last; no run reads it. -/
structure Routes where
  routing : Routing
  directory : Option (Option Mode)
  switchLock : Bool
  lastSwitch : Option Mode
  deriving DecidableEq, Repr

inductive RouteAnswer where
  | ok
  | fail (text : String)
  | seen (found : Bool)
  | service (found : Service)
  | slices (found : List EndpointSlice)
  | mode (found : Option Mode)
  deriving DecidableEq, Repr

inductive DeletePc where
  | get
  | delete
  deriving DecidableEq, Repr

inductive DeleteStatus where
  | running (pc : DeletePc)
  | returned (err : Option DeleteErr)
  deriving DecidableEq, Repr

/-- deleteEndpointsliceToResolver and deletePrivateService, on their objects. -/
def deleteStep {α : Type} (object : Option α) :
    DeletePc → RouteAnswer → Option (Option α × DeleteStatus)
  | .get, .seen true => some (object, .running .delete)
  | .get, .seen false => some (object, .returned none)
  | .get, .fail text => some (object, .returned (some (.get text)))
  | .delete, .ok => object.map fun _ => (none, .returned none)
  | .delete, .fail text => some (object, .returned (some (.delete text)))
  | _, _ => none

inductive SlicePc where
  | list
  | get (ips : List String)
  | write (found : Bool) (slice : EndpointSlice)
  deriving DecidableEq, Repr

inductive SliceStatus where
  | running (pc : SlicePc)
  | returned (out : Outcome SliceErr)
  deriving DecidableEq, Repr

/-- createOrUpdateEndpointsliceToResolver. An update needs the object there, a create needs
    it gone. -/
def sliceStep (config : ResolverConfig) (service : Service) (stored : Option EndpointSlice) :
    SlicePc → RouteAnswer → Option (Option EndpointSlice × SliceStatus)
  | .list, .slices found =>
    match getIPsForResolver config found with
    | .error err => some (stored, .returned (.failed err))
    | .ok ips => some (stored, .running (.get ips))
  | .list, .fail text => some (stored, .returned (.failed (.list text)))
  | .get ips, .seen found =>
    match newEndpointSlice config service ips with
    | none => some (stored, .returned .panicked)
    | some slice => some (stored, .running (.write found slice))
  | .get _, .fail text => some (stored, .returned (.failed (.get text)))
  | .write found slice, .ok =>
    if stored.isSome = found then some (some slice, .returned .done) else none
  | .write _ _, .fail text => some (stored, .returned (.failed (.write text)))
  | _, _ => none

inductive SwitchPc where
  | lock
  | getCRD
  | serve (pc : DeletePc)
  | service
  | privateGet (service : Service)
  | privateCreate (service : Service)
  | slice (service : Service) (pc : SlicePc)
  | watch
  | statusGet (out : Outcome SwitchErr)
  | statusPatch (out : Outcome SwitchErr)
  | unlock (out : Outcome SwitchErr)
  | returned (out : Outcome SwitchErr)
  deriving DecidableEq, Repr

def afterDelete : DeleteStatus → SwitchPc
  | .running pc => .serve pc
  | .returned (some err) => .statusGet (.failed (.serve err))
  | .returned none => .statusGet .done

def afterSlice (service : Service) : SliceStatus → SwitchPc
  | .running pc => .slice service pc
  | .returned (.failed err) => .statusGet (.failed (.slice err))
  | .returned .panicked => .statusGet .panicked
  | .returned .done => .watch

def setSlice (s : Routes) (slice : Option EndpointSlice) : Routes :=
  { s with routing := { s.routing with slice := slice } }

def switchStep (config : ResolverConfig) (uid : String) (present : Bool) (mode : Mode)
    (s : Routes) : SwitchPc → RouteAnswer → Option (Routes × SwitchPc)
  | .lock, .ok =>
    if s.switchLock then none
    else some ({ s with switchLock := true, lastSwitch := some mode }, .getCRD)
  | .getCRD, .ok =>
    match mode with
    | .serve => some (s, .serve .get)
    | .proxy => some (s, .service)
  | .getCRD, .fail text => some (s, .unlock (.failed (.crd text)))
  | .serve pc, a => (deleteStep s.routing.slice pc a).map fun r => (setSlice s r.1, afterDelete r.2)
  | .service, .service found => some (s, .privateGet found)
  | .service, .fail text => some (s, .statusGet (.failed (.service text)))
  | .privateGet service, .seen true => some (s, .slice service .list)
  | .privateGet service, .seen false => some (s, .privateCreate service)
  | .privateGet service, .fail _ => some (s, .privateCreate service)
  | .privateCreate service, .ok =>
    match s.routing.privateService with
    | some _ => none
    | none => some ({ s with routing := { s.routing with privateService := some ⟨some uid⟩ } },
        .slice service .list)
  | .privateCreate _, .fail text => some (s, .statusGet (.failed (.privateService text)))
  | .slice service pc, a =>
    (sliceStep config service s.routing.slice pc a).map fun r =>
      (setSlice s r.1, afterSlice service r.2)
  | .watch, .ok => some (s, .statusGet .done)
  | .watch, .fail text => some (s, .statusGet (.failed (.watch text)))
  | .statusGet out, .ok => some (s, .statusPatch out)
  | .statusGet out, .fail _ => some (s, .unlock out)
  | .statusPatch out, .ok =>
    if present then some ({ s with routing := { s.routing with mode := some mode } }, .unlock out)
    else none
  | .statusPatch out, .fail _ => some (s, .unlock out)
  | .unlock out, .ok => some ({ s with switchLock := false }, .returned out)
  | _, _ => none

inductive ResolverPc where
  | range
  | service
  | slice (service : Service) (pc : SlicePc)
  | finished
  deriving DecidableEq, Repr

def afterResolverSlice (service : Service) : SliceStatus → ResolverPc
  | .running pc => .slice service pc
  | .returned _ => .finished

/-- handleResolverChanges at the directory entry of the service. It takes no lock, and an
    error is only logged. -/
def resolverStep (config : ResolverConfig) (s : Routes) :
    ResolverPc → RouteAnswer → Option (Routes × ResolverPc)
  | .range, .ok =>
    some (s, if s.directory = some (some .proxy) then .service else .finished)
  | .service, .service found => some (s, .slice found .list)
  | .service, .fail _ => some (s, .finished)
  | .slice service pc, a =>
    (sliceStep config service s.routing.slice pc a).map fun r =>
      (setSlice s r.1, afterResolverSlice service r.2)
  | _, _ => none

inductive ReconcilePc where
  | getCRD
  | addCRD (mode : Option Mode)
  | returned
  deriving DecidableEq, Repr

def reconcileStep (s : Routes) : ReconcilePc → RouteAnswer → Option (Routes × ReconcilePc)
  -- the status that goes into the directory is that of the copy read at the start
  | .getCRD, .mode found => some (s, .addCRD found)
  | .getCRD, .fail _ => some (s, .returned)
  | .addCRD mode, .ok => some ({ s with directory := some mode }, .returned)
  | .addCRD _, .fail _ => some (s, .returned)
  | _, _ => none

inductive DeleteEffect {α : Type} (object : Option α) :
    DeletePc → RouteAnswer → Option α → DeleteStatus → Prop where
  | found : DeleteEffect object .get (.seen true) object (.running .delete)
  | absent : DeleteEffect object .get (.seen false) object (.returned none)
  | unread (text : String) :
      DeleteEffect object .get (.fail text) object (.returned (some (.get text)))
  | deleted : DeleteEffect object .delete .ok none (.returned none)
  | refused (text : String) :
      DeleteEffect object .delete (.fail text) object (.returned (some (.delete text)))

theorem deleteStep_effect {α : Type} {object after : Option α} {pc : DeletePc} {a : RouteAnswer}
    {status : DeleteStatus} (ran : deleteStep object pc a = some (after, status)) :
    DeleteEffect object pc a after status := by
  unfold deleteStep at ran
  split at ran
  · cases ran
    exact .found
  · cases ran
    exact .absent
  · cases ran
    exact .unread _
  · obtain ⟨_, -, same⟩ := Option.map_eq_some_iff.mp ran
    cases same
    exact .deleted
  · cases ran
    exact .refused _
  · simp at ran

inductive SliceEffect (config : ResolverConfig) (service : Service)
    (stored : Option EndpointSlice) :
    SlicePc → RouteAnswer → Option EndpointSlice → SliceStatus → Prop where
  | noAddress (found : List EndpointSlice) (err : SliceErr)
      (empty : getIPsForResolver config found = .error err) :
      SliceEffect config service stored .list (.slices found) stored (.returned (.failed err))
  | listed (found : List EndpointSlice) (ips : List String) :
      SliceEffect config service stored .list (.slices found) stored (.running (.get ips))
  | unlisted (text : String) :
      SliceEffect config service stored .list (.fail text) stored (.returned (.failed (.list text)))
  | noPort (ips : List String) (found : Bool) (empty : newEndpointSlice config service ips = none) :
      SliceEffect config service stored (.get ips) (.seen found) stored (.returned .panicked)
  | read (ips : List String) (found : Bool) (slice : EndpointSlice) :
      SliceEffect config service stored (.get ips) (.seen found) stored
        (.running (.write found slice))
  | unread (ips : List String) (text : String) :
      SliceEffect config service stored (.get ips) (.fail text) stored
        (.returned (.failed (.get text)))
  | written (found : Bool) (slice : EndpointSlice) (same : stored.isSome = found) :
      SliceEffect config service stored (.write found slice) .ok (some slice) (.returned .done)
  | refused (found : Bool) (slice : EndpointSlice) (text : String) :
      SliceEffect config service stored (.write found slice) (.fail text) stored
        (.returned (.failed (.write text)))

theorem sliceStep_effect {config : ResolverConfig} {service : Service}
    {stored after : Option EndpointSlice} {pc : SlicePc} {a : RouteAnswer} {status : SliceStatus}
    (ran : sliceStep config service stored pc a = some (after, status)) :
    SliceEffect config service stored pc a after status := by
  unfold sliceStep at ran
  split at ran
  · split at ran
    · rename_i empty
      cases ran
      exact .noAddress _ _ empty
    · cases ran
      exact .listed _ _
  · cases ran
    exact .unlisted _
  · split at ran
    · rename_i empty
      cases ran
      exact .noPort _ _ empty
    · cases ran
      exact .read _ _ _
  · cases ran
    exact .unread _ _
  · split at ran
    · rename_i same
      cases ran
      exact .written _ _ same
    · simp at ran
  · cases ran
    exact .refused _ _ _
  · simp at ran

inductive SwitchEffect (config : ResolverConfig) (uid : String) (mode : Mode) (s : Routes) :
    SwitchPc → RouteAnswer → Routes → SwitchPc → Prop where
  | lock (free : s.switchLock = false) :
      SwitchEffect config uid mode s .lock .ok
        { s with switchLock := true, lastSwitch := some mode } .getCRD
  | serve (asked : mode = .serve) : SwitchEffect config uid mode s .getCRD .ok s (.serve .get)
  | proxy (asked : mode = .proxy) : SwitchEffect config uid mode s .getCRD .ok s .service
  | noCRD (text : String) :
      SwitchEffect config uid mode s .getCRD (.fail text) s (.unlock (.failed (.crd text)))
  | delete (pc : DeletePc) (a : RouteAnswer) (object : Option EndpointSlice)
      (status : DeleteStatus) (effect : DeleteEffect s.routing.slice pc a object status) :
      SwitchEffect config uid mode s (.serve pc) a (setSlice s object) (afterDelete status)
  | service (found : Service) :
      SwitchEffect config uid mode s .service (.service found) s (.privateGet found)
  | noService (text : String) :
      SwitchEffect config uid mode s .service (.fail text) s (.statusGet (.failed (.service text)))
  | privateFound (service : Service) :
      SwitchEffect config uid mode s (.privateGet service) (.seen true) s (.slice service .list)
  | privateMissing (service : Service) (a : RouteAnswer) :
      SwitchEffect config uid mode s (.privateGet service) a s (.privateCreate service)
  | privateCreated (service : Service) :
      SwitchEffect config uid mode s (.privateCreate service) .ok
        { s with routing := { s.routing with privateService := some ⟨some uid⟩ } }
        (.slice service .list)
  | privateRefused (service : Service) (text : String) :
      SwitchEffect config uid mode s (.privateCreate service) (.fail text) s
        (.statusGet (.failed (.privateService text)))
  | slice (service : Service) (pc : SlicePc) (a : RouteAnswer) (object : Option EndpointSlice)
      (status : SliceStatus) (effect : SliceEffect config service s.routing.slice pc a object status) :
      SwitchEffect config uid mode s (.slice service pc) a (setSlice s object)
        (afterSlice service status)
  | watched : SwitchEffect config uid mode s .watch .ok s (.statusGet .done)
  | unwatched (text : String) :
      SwitchEffect config uid mode s .watch (.fail text) s (.statusGet (.failed (.watch text)))
  | statusRead (out : Outcome SwitchErr) :
      SwitchEffect config uid mode s (.statusGet out) .ok s (.statusPatch out)
  | statusUnread (out : Outcome SwitchErr) (text : String) :
      SwitchEffect config uid mode s (.statusGet out) (.fail text) s (.unlock out)
  | patched (out : Outcome SwitchErr) :
      SwitchEffect config uid mode s (.statusPatch out) .ok
        { s with routing := { s.routing with mode := some mode } } (.unlock out)
  | unpatched (out : Outcome SwitchErr) (text : String) :
      SwitchEffect config uid mode s (.statusPatch out) (.fail text) s (.unlock out)
  | unlock (out : Outcome SwitchErr) :
      SwitchEffect config uid mode s (.unlock out) .ok { s with switchLock := false } (.returned out)

theorem switchStep_effect {config : ResolverConfig} {uid : String} {present : Bool} {mode : Mode}
    {s r : Routes} {pc next : SwitchPc} {a : RouteAnswer}
    (ran : switchStep config uid present mode s pc a = some (r, next)) :
    SwitchEffect config uid mode s pc a r next := by
  unfold switchStep at ran
  split at ran
  · split at ran
    · simp at ran
    · rename_i free
      cases ran
      exact .lock (by simpa using free)
  · split at ran <;> cases ran
    · exact .serve rfl
    · exact .proxy rfl
  · cases ran
    exact .noCRD _
  · obtain ⟨⟨object, status⟩, inner, same⟩ := Option.map_eq_some_iff.mp ran
    cases same
    exact .delete _ _ object status (deleteStep_effect inner)
  · cases ran
    exact .service _
  · cases ran
    exact .noService _
  · cases ran
    exact .privateFound _
  · cases ran
    exact .privateMissing _ _
  · cases ran
    exact .privateMissing _ _
  · split at ran
    · simp at ran
    · cases ran
      exact .privateCreated _
  · cases ran
    exact .privateRefused _ _
  · obtain ⟨⟨object, status⟩, inner, same⟩ := Option.map_eq_some_iff.mp ran
    cases same
    exact .slice _ _ _ object status (sliceStep_effect inner)
  · cases ran
    exact .watched
  · cases ran
    exact .unwatched _
  · cases ran
    exact .statusRead _
  · cases ran
    exact .statusUnread _ _
  · split at ran
    · cases ran
      exact .patched _
    · simp at ran
  · cases ran
    exact .unpatched _ _
  · cases ran
    exact .unlock _
  · simp at ran

inductive ResolverEffect (config : ResolverConfig) (s : Routes) :
    ResolverPc → RouteAnswer → Routes → ResolverPc → Prop where
  | managed (proxied : s.directory = some (some .proxy)) :
      ResolverEffect config s .range .ok s .service
  | skipped : ResolverEffect config s .range .ok s .finished
  | service (found : Service) :
      ResolverEffect config s .service (.service found) s (.slice found .list)
  | noService (text : String) : ResolverEffect config s .service (.fail text) s .finished
  | slice (service : Service) (pc : SlicePc) (a : RouteAnswer) (object : Option EndpointSlice)
      (status : SliceStatus) (effect : SliceEffect config service s.routing.slice pc a object status) :
      ResolverEffect config s (.slice service pc) a (setSlice s object)
        (afterResolverSlice service status)

theorem resolverStep_effect {config : ResolverConfig} {s r : Routes} {pc next : ResolverPc}
    {a : RouteAnswer} (ran : resolverStep config s pc a = some (r, next)) :
    ResolverEffect config s pc a r next := by
  unfold resolverStep at ran
  split at ran
  · by_cases proxied : s.directory = some (some .proxy)
    · simp only [proxied, ↓reduceIte, Option.some.injEq, Prod.mk.injEq] at ran
      obtain ⟨rfl, rfl⟩ := ran
      exact .managed proxied
    · simp only [proxied, ↓reduceIte, Option.some.injEq, Prod.mk.injEq] at ran
      obtain ⟨rfl, rfl⟩ := ran
      exact .skipped
  · cases ran
    exact .service _
  · cases ran
    exact .noService _
  · obtain ⟨⟨object, status⟩, inner, same⟩ := Option.map_eq_some_iff.mp ran
    cases same
    exact .slice _ _ _ object status (sliceStep_effect inner)
  · simp at ran

theorem reconcileStep_directory {s r : Routes} {pc next : ReconcilePc} {a : RouteAnswer}
    (ran : reconcileStep s pc a = some (r, next)) :
    ∃ directory, r = { s with directory := directory } := by
  unfold reconcileStep at ran
  split at ran
  · cases ran
    exact ⟨_, rfl⟩
  · cases ran
    exact ⟨_, rfl⟩
  · cases ran
    exact ⟨_, rfl⟩
  · cases ran
    exact ⟨_, rfl⟩
  · simp at ran

section Solo
variable (config : ResolverConfig) (uid : String) (call : Call)

def reply (fault : Option String) (answer : RouteAnswer) : RouteAnswer :=
  match fault with
  | some text => .fail text
  | none => answer

def soloAnswer (s : Routing) : SwitchPc → RouteAnswer
  | .getCRD => reply call.faults.crdGet .ok
  | .serve .get => reply call.faults.sliceGet (.seen s.slice.isSome)
  | .serve .delete => reply call.faults.sliceDelete .ok
  | .service => reply call.faults.serviceGet (.service call.service)
  | .privateGet _ => reply call.faults.privateGet (.seen s.privateService.isSome)
  | .privateCreate _ =>
    if s.privateService.isSome then .fail alreadyExists else reply call.faults.privateCreate .ok
  | .slice _ .list => reply call.faults.resolverList (.slices call.slices)
  | .slice _ (.get _) => reply call.faults.sliceGet (.seen s.slice.isSome)
  | .slice _ (.write _ _) => reply call.faults.sliceWrite .ok
  | .watch => reply call.faults.watch .ok
  | .statusGet _ => reply call.faults.statusGet .ok
  | .lock | .statusPatch _ | .unlock _ | .returned _ => .ok

/-- The steps of one call from a point of it to its return. Each step is a function of the
    state, so there is one such run at most. -/
inductive Solo : Routes → SwitchPc → Routes → Outcome SwitchErr → Prop where
  | stop (s : Routes) (out : Outcome SwitchErr) : Solo s (.returned out) s out
  | next {s t u : Routes} {pc p : SwitchPc} {out : Outcome SwitchErr}
      (move : switchStep config uid true call.mode s pc (soloAnswer call s.routing pc) =
        some (t, p)) (rest : Solo t p u out) : Solo s pc u out

def settled (s : Routes) (routing : Routing) : Routes :=
  { s with routing := routing, switchLock := false }

theorem solo_status (s : Routes) (out : Outcome SwitchErr) :
    Solo config uid call s (.statusGet out)
      (settled s (updateCRDStatus call.faults call.mode s.routing)) out := by
  cases status : call.faults.statusGet with
  | some text =>
    apply Solo.next (t := s) (p := .unlock out)
    · simp [switchStep, soloAnswer, reply, status]
    · apply Solo.next rfl
      simp only [updateCRDStatus, status]
      exact .stop _ out
  | none =>
    apply Solo.next (t := s) (p := .statusPatch out)
    · simp [switchStep, soloAnswer, reply, status]
    · apply Solo.next rfl
      apply Solo.next rfl
      simp only [updateCRDStatus, status]
      exact .stop _ out

theorem solo_last {s : Routes} {r : Routing} {pc : SwitchPc} {out : Outcome SwitchErr}
    (move : switchStep config uid true call.mode s pc (soloAnswer call s.routing pc) =
      some ({ s with routing := r }, .statusGet out)) :
    Solo config uid call s pc (settled s (updateCRDStatus call.faults call.mode r)) out :=
  .next move (solo_status config uid call { s with routing := r } out)

theorem solo_serve (s : Routes) :
    Solo config uid call s (.serve .get)
      (settled s (updateCRDStatus call.faults call.mode (enableServeMode call.faults s.routing).1))
      (enableServeMode call.faults s.routing).2 := by
  obtain ⟨⟨mode, slice, privateService⟩, directory, switchLock, lastSwitch⟩ := s
  unfold enableServeMode deleteEndpointsliceToResolver
  cases get : call.faults.sliceGet with
  | some text =>
    apply solo_last
    simp [switchStep, soloAnswer, reply, get, deleteStep, afterDelete, setSlice]
  | none =>
    cases slice with
    | none =>
      apply solo_last
      simp [switchStep, soloAnswer, reply, get, deleteStep, afterDelete, setSlice]
    | some slice =>
      apply Solo.next (p := .serve .delete)
      · simp [switchStep, soloAnswer, reply, get, deleteStep, afterDelete, setSlice]
        rfl
      · cases delete : call.faults.sliceDelete <;>
          · apply solo_last
            simp [switchStep, soloAnswer, reply, delete, deleteStep, afterDelete, setSlice]

theorem solo_watch (s : Routes) :
    Solo config uid call s .watch (settled s (updateCRDStatus call.faults call.mode s.routing))
      (match call.faults.watch with
        | some text => .failed (.watch text)
        | none => .done) := by
  cases watch : call.faults.watch <;>
    · apply solo_last
      simp [switchStep, soloAnswer, reply, watch]

theorem solo_slice (s : Routes) :
    Solo config uid call s (.slice call.service .list)
      (settled s (updateCRDStatus call.faults call.mode
        (createOrUpdateEndpointsliceToResolver config call s.routing).1))
      (match (createOrUpdateEndpointsliceToResolver config call s.routing).2, call.faults.watch with
        | .failed err, _ => .failed (.slice err)
        | .panicked, _ => .panicked
        | .done, some text => .failed (.watch text)
        | .done, none => .done) := by
  obtain ⟨⟨mode, slice, privateService⟩, directory, switchLock, lastSwitch⟩ := s
  unfold createOrUpdateEndpointsliceToResolver
  cases list : call.faults.resolverList with
  | some text =>
    apply solo_last
    simp [switchStep, soloAnswer, reply, list, sliceStep, afterSlice, setSlice]
  | none =>
    cases ips : getIPsForResolver config call.slices with
    | error err =>
      apply solo_last
      simp [switchStep, soloAnswer, reply, list, sliceStep, afterSlice, setSlice, ips]
    | ok ips' =>
      apply Solo.next (p := .slice call.service (.get ips'))
      · simp [switchStep, soloAnswer, reply, list, sliceStep, afterSlice, setSlice, ips]
        rfl
      · cases get : call.faults.sliceGet with
        | some text =>
          apply solo_last
          simp [switchStep, soloAnswer, reply, get, sliceStep, afterSlice, setSlice]
        | none =>
          cases new : newEndpointSlice config call.service ips' with
          | none =>
            apply solo_last
            simp [switchStep, soloAnswer, reply, get, sliceStep, afterSlice, setSlice, new]
          | some written =>
            apply Solo.next (p := .slice call.service (.write slice.isSome written))
            · simp [switchStep, soloAnswer, reply, get, sliceStep, afterSlice, setSlice, new]
              rfl
            · cases write : call.faults.sliceWrite with
              | some text =>
                apply solo_last
                simp [switchStep, soloAnswer, reply, write, sliceStep, afterSlice, setSlice, new]
              | none =>
                apply Solo.next (p := .watch)
                · simp [switchStep, soloAnswer, reply, write, sliceStep, afterSlice, setSlice]
                  rfl
                · have rest := solo_watch config uid call
                    ⟨⟨mode, some written, privateService⟩, directory, switchLock, lastSwitch⟩
                  cases watch : call.faults.watch <;> simpa [settled, watch, new] using rest

theorem solo_created (s : Routes) {r : Routing}
    (created : checkAndCreatePrivateService uid call.faults s.routing = (r, none))
    (read : call.faults.serviceGet = none) :
    Solo config uid call { s with routing := r } (.slice call.service .list)
      (settled s (updateCRDStatus call.faults call.mode (enableProxyMode config uid call s.routing).1))
      (enableProxyMode config uid call s.routing).2 := by
  have rest := solo_slice config uid call { s with routing := r }
  simp only [enableProxyMode, read, created] at rest ⊢
  generalize createOrUpdateEndpointsliceToResolver config call r = result at rest ⊢
  obtain ⟨t, out⟩ := result
  cases out with
  | failed err => exact rest
  | panicked => exact rest
  | done => cases watch : call.faults.watch <;> simpa [settled, watch] using rest

theorem solo_proxy (s : Routes) :
    Solo config uid call s .service
      (settled s (updateCRDStatus call.faults call.mode (enableProxyMode config uid call s.routing).1))
      (enableProxyMode config uid call s.routing).2 := by
  cases service : call.faults.serviceGet with
  | some text =>
    simp only [enableProxyMode, service]
    apply solo_last
    simp [switchStep, soloAnswer, reply, service]
  | none =>
    apply Solo.next (p := .privateGet call.service)
    · simp [switchStep, soloAnswer, reply, service]
      rfl
    obtain ⟨⟨mode, slice, privateService⟩, directory, switchLock, lastSwitch⟩ := s
    cases privateService with
    | some found =>
      cases get : call.faults.privateGet with
      | none =>
        apply Solo.next (p := .slice call.service .list)
        · simp [switchStep, soloAnswer, reply, get]
          rfl
        · apply solo_created config uid call
            ⟨⟨mode, slice, some found⟩, directory, switchLock, lastSwitch⟩ ?_ service
          simp [checkAndCreatePrivateService, get]
      | some text =>
        -- the unread private service is created again, and the API server refuses
        apply Solo.next (p := .privateCreate call.service)
        · simp [switchStep, soloAnswer, reply, get]
          rfl
        · simp only [enableProxyMode, service, checkAndCreatePrivateService, get]
          apply solo_last
          simp [switchStep, soloAnswer]
    | none =>
      apply Solo.next (p := .privateCreate call.service)
      · cases get : call.faults.privateGet <;> simp [switchStep, soloAnswer, reply, get] <;> rfl
      · cases create : call.faults.privateCreate with
        | some text =>
          have refused : checkAndCreatePrivateService uid call.faults ⟨mode, slice, none⟩ =
              (⟨mode, slice, none⟩, some text) := by
            cases get : call.faults.privateGet <;> simp [checkAndCreatePrivateService, get, create]
          simp only [enableProxyMode, service, refused]
          apply solo_last
          simp [switchStep, soloAnswer, reply, create]
        | none =>
          apply Solo.next (p := .slice call.service .list)
          · simp [switchStep, soloAnswer, reply, create]
            rfl
          · apply solo_created config uid call
              ⟨⟨mode, slice, none⟩, directory, switchLock, lastSwitch⟩ ?_ service
            cases get : call.faults.privateGet <;> simp [checkAndCreatePrivateService, get, create]

/-- Run by itself, the stepped switchMode is the one of the sequence of calls. -/
theorem solo_switchMode (s : Routes) (free : s.switchLock = false) :
    Solo config uid call s .lock
      { s with
        routing := (switchMode config uid call s.routing).1
        lastSwitch := some call.mode }
      (switchMode config uid call s.routing).2 := by
  apply Solo.next (p := .getCRD)
  · simp [switchStep, soloAnswer, free]
    rfl
  unfold switchMode
  cases crd : call.faults.crdGet with
  | some text =>
    apply Solo.next (p := .unlock (.failed (.crd text)))
    · simp [switchStep, soloAnswer, reply, crd]
      rfl
    · apply Solo.next (p := .returned (.failed (.crd text))) rfl
      rw [← free]
      exact .stop _ _
  | none =>
    simp only [enable]
    cases mode : call.mode with
    | serve =>
      apply Solo.next (p := .serve .get)
      · simp [switchStep, soloAnswer, reply, crd, mode]
        rfl
      · have rest := solo_serve config uid call { s with switchLock := true, lastSwitch := some .serve }
        simpa [settled, mode, free] using rest
    | proxy =>
      apply Solo.next (p := .service)
      · simp [switchStep, soloAnswer, reply, crd, mode]
        rfl
      · have rest := solo_proxy config uid call { s with switchLock := true, lastSwitch := some .proxy }
        simpa [settled, mode, free] using rest

end Solo

end RoutingRuns
