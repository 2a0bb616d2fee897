import Elasti.Modes
import Elasti.HostTarget

/- The private copy of a public service: made when the service is first put behind the resolver,
   and kept in step with it by the informer on the public service. The hash in its name is any
   function; R stands for the fields that are copied and never looked at. -/
namespace PrivateMirror
open GuardedRuns HostTarget

inductive IntOrString where
  | int (n : Int)
  | string (s : String)
  deriving DecidableEq, Repr

structure ServicePort where
  name : String
  protocol : String
  appProtocol : Option String
  port : Int
  targetPort : IntOrString
  nodePort : Int
  deriving DecidableEq, Repr

structure ServiceSpec where
  ports : List ServicePort
  selector : List (String × String)
  clusterIP : String
  clusterIPs : List String
  deriving DecidableEq, Repr

structure OwnerReference where
  name : String
  uid : String
  controller : Bool
  blockOwnerDeletion : Bool
  deriving DecidableEq, Repr

structure Service (R : Type) where
  name : List Char
  ns : String
  resourceVersion : String
  ownerReferences : List OwnerReference
  spec : ServiceSpec
  rest : R
  deriving DecidableEq, Repr

structure ElastiService where
  ns : String
  name : String
  uid : String
  deriving DecidableEq, Repr

def controllerReference (es : ElastiService) : OwnerReference := ⟨es.name, es.uid, true, true⟩

/-- A namespaced owner owns what is in its namespace. An object without owners gets the
    reference; whether the scheme knows the owner's kind is an input. -/
def setControllerReference {R : Type} (es : ElastiService) (scheme : Option String)
    (object : Service R) : Except String (Service R) :=
  if es.ns ≠ "" ∧ object.ns = "" then
    .error ("cluster-scoped resource must not have a namespace-scoped owner, owner's namespace " ++
      es.ns)
  else if es.ns ≠ "" ∧ es.ns ≠ object.ns then
    .error ("cross-namespace owner references are disallowed, owner's namespace " ++ es.ns ++
      ", obj's namespace " ++ object.ns)
  else
    match scheme with
    | some text => .error text
    | none => .ok { object with
        ownerReferences := object.ownerReferences ++ [controllerReference es] }

/-- The API server gives the addresses and the node ports of what it stores, and its resource
    version. It leaves the rest as it is sent. -/
structure Stored {R : Type} (sent stored : Service R) : Prop where
  name : stored.name = sent.name
  ns : stored.ns = sent.ns
  ownerReferences : stored.ownerReferences = sent.ownerReferences
  selector : stored.spec.selector = sent.spec.selector
  ports : stored.spec.ports.map (fun port => { port with nodePort := 0 }) =
    sent.spec.ports.map fun port => { port with nodePort := 0 }
  rest : stored.rest = sent.rest

structure Server (R : Type) where
  store : Option (Service R) → Service R → Service R
  stores : ∀ old sent, Stored sent (store old sent)

structure CreateFaults where
  get : Option String
  scheme : Option String
  create : Option String
  deriving DecidableEq, Repr

structure SyncFaults where
  convert : Option String
  get : Option String
  update : Option String
  deriving DecidableEq, Repr

section
variable {R : Type} (hashed : List Char → List Char) (server : Server R)

def clearNodePort (port : ServicePort) : ServicePort := { port with nodePort := 0 }

def privateCopy (publicSVC : Service R) : Service R :=
  { publicSVC with
    name := getPrivateServiceName hashed publicSVC.name
    resourceVersion := ""
    ownerReferences := []
    spec := { publicSVC.spec with
      ports := publicSVC.spec.ports.map clearNodePort
      clusterIP := ""
      clusterIPs := [] } }

def checkAndCreatePrivateService (es : ElastiService) (f : CreateFaults) (publicSVC : Service R)
    (stored : Option (Service R)) : Option (Service R) × Option String :=
  -- a failed read is only logged, and the code goes on to create
  match f.get, stored with
  | none, some _ => (stored, none)
  | _, _ =>
    match setControllerReference es f.scheme (privateCopy hashed publicSVC) with
    | .error text => (stored, some ("checkAndCreatePrivateService: " ++ text))
    | .ok privateSVC =>
      match stored, f.create with
      | some _, _ => (stored, some ("checkAndCreatePrivateService: " ++ SwitchModes.alreadyExists))
      | none, some text => (none, some ("checkAndCreatePrivateService: " ++ text))
      | none, none => (some (server.store none privateSVC), none)

def handlePublicServiceChanges (serviceName : List Char) (f : SyncFaults) (publicSVC : Service R)
    (stored : Option (Service R)) : Option (Service R) × Option String :=
  -- the object that is delivered is converted first. Only the selector and the ports are copied.
  match f.convert with
  | some text =>
    (stored, some ("failed to convert unstructured to service: UnstructuredToResource: " ++ text))
  | none =>
    if publicSVC.name ≠ serviceName then
      (stored, some "public service is not same as mentioned in CRD; informer misconfigured")
    else
      match f.get, stored with
      | some text, _ => (stored, some ("failed to get private service: " ++ text))
      | none, none => (none, some ("private service not found: Service \"" ++
          String.ofList (getPrivateServiceName hashed publicSVC.name) ++ "\" not found"))
      | none, some privateSVC =>
        match f.update with
        | some text => (stored, some ("failed to update private service: " ++ text))
        | none => (some (server.store stored { privateSVC with
            spec := { privateSVC.spec with
              selector := publicSVC.spec.selector
              ports := publicSVC.spec.ports.map clearNodePort } }), none)

/-- The versions of the public service in their order, the first of them that the informer may
    still deliver, and the private service. -/
structure World (R : Type) where
  versions : List (Service R)
  delivered : Nat
  privateSVC : Option (Service R)
  deriving DecidableEq, Repr

/-- The public service is changed; the private one is created from the version that a cache
    shows, which may be an old one; the informer delivers a version, and never an older one
    than before; the private service is deleted. -/
inductive Event (R : Type) where
  | change (publicSVC : Service R)
  | create (seen : Nat) (f : CreateFaults)
  | deliver (version : Nat) (f : SyncFaults)
  | delete
  deriving DecidableEq, Repr

variable (es : ElastiService) (service : List Char)

def step (w : World R) : Event R → Option (World R)
  | .change publicSVC =>
    if publicSVC.name = service ∧ publicSVC.ns = es.ns then
      some { w with versions := w.versions ++ [publicSVC] }
    else none
  | .create seen f =>
    match w.versions[seen]? with
    | none => none
    | some publicSVC => some { w with
        privateSVC := (checkAndCreatePrivateService hashed server es f publicSVC w.privateSVC).1 }
  | .deliver version f =>
    if w.delivered ≤ version then
      match w.versions[version]? with
      | none => none
      | some publicSVC => some { w with
          delivered := version
          privateSVC := (handlePublicServiceChanges hashed server service f publicSVC w.privateSVC).1 }
    else none
  | .delete => some { w with privateSVC := none }

def first (publicSVC : Service R) : World R := ⟨[publicSVC], 0, none⟩

structure Mirrors (p v : Service R) : Prop where
  selector : p.spec.selector = v.spec.selector
  ports : p.spec.ports.map clearNodePort = v.spec.ports.map clearNodePort

structure Owned (p : Service R) : Prop where
  name : p.name = getPrivateServiceName hashed service
  ns : p.ns = es.ns
  ownerReferences : p.ownerReferences = [controllerReference es]

structure Inv (w : World R) : Prop where
  named : ∀ v ∈ w.versions, v.name = service ∧ v.ns = es.ns
  copied : ∀ p ∈ w.privateSVC, Owned hashed es service p ∧ ∃ v ∈ w.versions, Mirrors p v

variable {es service}

theorem setControllerReference_ok {scheme : Option String} {object owned : Service R}
    (set : setControllerReference es scheme object = .ok owned) :
    owned = { object with ownerReferences := object.ownerReferences ++ [controllerReference es] } := by
  unfold setControllerReference at set
  split at set
  · cases set
  · split at set
    · cases set
    · split at set
      · cases set
      · cases set
        rfl

theorem clear_twice (ports : List ServicePort) :
    (ports.map clearNodePort).map clearNodePort = ports.map clearNodePort := by
  rw [List.map_map]
  rfl

theorem created_copy {scheme : Option String} {publicSVC privateSVC : Service R}
    (named : publicSVC.name = service ∧ publicSVC.ns = es.ns)
    (set : setControllerReference es scheme (privateCopy hashed publicSVC) = .ok privateSVC) :
    Owned hashed es service (server.store none privateSVC) ∧
      Mirrors (server.store none privateSVC) publicSVC := by
  have made := setControllerReference_ok set
  have kept := server.stores none privateSVC
  obtain ⟨rfl, placed⟩ := named
  refine ⟨⟨?_, ?_, ?_⟩, ?_, ?_⟩
  · rw [kept.name, made, privateCopy]
  · rw [kept.ns, made, privateCopy, placed]
  · rw [kept.ownerReferences, made, privateCopy, List.nil_append]
  · rw [kept.selector, made, privateCopy]
  · have ports : privateSVC.spec.ports = publicSVC.spec.ports.map clearNodePort := by
      rw [made, privateCopy]
    exact kept.ports.trans (by rw [ports]; exact clear_twice _)

theorem create_cases (f : CreateFaults) {publicSVC : Service R}
    (named : publicSVC.name = service ∧ publicSVC.ns = es.ns) (stored : Option (Service R)) :
    (checkAndCreatePrivateService hashed server es f publicSVC stored).1 = stored ∨
      (stored = none ∧ ∃ p,
        (checkAndCreatePrivateService hashed server es f publicSVC stored).1 = some p ∧
          Owned hashed es service p ∧ Mirrors p publicSVC) := by
  unfold checkAndCreatePrivateService
  split
  · exact .inl rfl
  · split
    · exact .inl rfl
    · rename_i privateSVC set
      split
      · exact .inl rfl
      · exact .inl rfl
      · exact .inr ⟨rfl, _, rfl, created_copy hashed server named set⟩

theorem sync_cases (serviceName : List Char) (f : SyncFaults) (publicSVC : Service R)
    (stored : Option (Service R)) :
    ((handlePublicServiceChanges hashed server serviceName f publicSVC stored).1 = stored ∧
      (handlePublicServiceChanges hashed server serviceName f publicSVC stored).2 ≠ none) ∨
    ∃ old p, stored = some old ∧
      (handlePublicServiceChanges hashed server serviceName f publicSVC stored).1 = some p ∧
      Mirrors p publicSVC ∧ p.name = old.name ∧ p.ns = old.ns ∧
      p.ownerReferences = old.ownerReferences := by
  unfold handlePublicServiceChanges
  split
  · exact .inl ⟨rfl, nofun⟩
  · split
    · exact .inl ⟨rfl, nofun⟩
    · split
      · exact .inl ⟨rfl, nofun⟩
      · exact .inl ⟨rfl, nofun⟩
      · rename_i old _
        split
        · exact .inl ⟨rfl, nofun⟩
        · have kept := server.stores (some old) { old with
            spec := { old.spec with
              selector := publicSVC.spec.selector
              ports := publicSVC.spec.ports.map clearNodePort } }
          exact .inr ⟨old, _, rfl, rfl, ⟨kept.selector, kept.ports.trans (clear_twice _)⟩,
            kept.name, kept.ns, kept.ownerReferences⟩

theorem inv_step {w t : World R} {e : Event R} (inv : Inv hashed es service w)
    (move : step hashed server es service w e = some t) : Inv hashed es service t := by
  cases e with
  | change publicSVC =>
    simp only [step] at move
    split at move
    · rename_i named
      cases move
      refine ⟨?_, ?_⟩
      · intro v listed
        rcases List.mem_append.mp listed with old | new
        · exact inv.named v old
        · rw [List.mem_singleton.mp new]
          exact named
      · intro p held
        obtain ⟨owned, v, listed, mirrors⟩ := inv.copied p held
        exact ⟨owned, v, List.mem_append_left _ listed, mirrors⟩
    · cases move
  | create seen f =>
    simp only [step] at move
    split at move
    · cases move
    · rename_i publicSVC found
      cases move
      have listed := List.mem_of_getElem? found
      refine ⟨inv.named, ?_⟩
      rcases create_cases hashed server f (inv.named _ listed) w.privateSVC with same | ⟨_, p, made, owned, mirrors⟩
      · simp only [same]
        exact inv.copied
      · intro q held
        simp only [made, Option.mem_def, Option.some.injEq] at held
        exact held ▸ ⟨owned, publicSVC, listed, mirrors⟩
  | deliver version f =>
    simp only [step] at move
    split at move
    · split at move
      · cases move
      · rename_i publicSVC found
        cases move
        have listed := List.mem_of_getElem? found
        refine ⟨inv.named, ?_⟩
        rcases sync_cases hashed server service f publicSVC w.privateSVC with
          ⟨same, _⟩ | ⟨old, p, was, made, mirrors, name, ns, ownerReferences⟩
        · simp only [same]
          exact inv.copied
        · obtain ⟨owned, _⟩ := inv.copied old was
          intro q held
          simp only [made, Option.mem_def, Option.some.injEq] at held
          exact held ▸ ⟨⟨name.trans owned.name, ns.trans owned.ns,
            ownerReferences.trans owned.ownerReferences⟩, publicSVC, listed, mirrors⟩
    · cases move
  | delete =>
    cases move
    refine ⟨inv.named, ?_⟩
    intro p held
    cases held

def plainServer : Server Unit where
  store _ sent := { sent with resourceVersion := "7", spec := { sent.spec with clusterIP := "10.0.0.9" } }
  stores _ _ := ⟨rfl, rfl, rfl, rfl, rfl, rfl⟩

def cartElasti : ElastiService := ⟨"shop", "cart-elasti", "uid"⟩

def cartService : List Char := ['c', 'a', 'r', 't']

def cartVersion (selector : List (String × String)) (port nodePort : Int) : Service Unit :=
  ⟨cartService, "shop", "1", [], ⟨[⟨"http", "TCP", none, port, .int 8080, nodePort⟩], selector,
    "10.0.0.1", ["10.0.0.1"]⟩, ()⟩

def oldCart : Service Unit := cartVersion [("app", "cart")] 80 30080

def newCart : Service Unit := cartVersion [("app", "cart"), ("track", "stable")] 81 30080

def noHash (_ : List Char) : List Char := []

theorem create_keeps (f : CreateFaults) (publicSVC p : Service R) :
    (checkAndCreatePrivateService hashed server es f publicSVC (some p)).1 = some p := by
  unfold checkAndCreatePrivateService
  split
  · rfl
  · split
    · rfl
    · rfl

def controllerOf (p : Service R) : SwitchModes.PrivateService :=
  ⟨(p.ownerReferences.find? OwnerReference.controller).map OwnerReference.uid⟩

theorem setControllerReference_placed (object : Service R) (placed : object.ns = es.ns) :
    setControllerReference es none object =
      .ok { object with ownerReferences := object.ownerReferences ++ [controllerReference es] } := by
  unfold setControllerReference
  rw [if_neg fun both => both.1 (placed.symm.trans both.2), if_neg fun both => both.2 placed.symm]

theorem copy_controller (publicSVC : Service R) (es : ElastiService) :
    controllerOf (server.store none { privateCopy hashed publicSVC with
      ownerReferences := (privateCopy hashed publicSVC).ownerReferences ++ [controllerReference es] }) =
        ⟨some es.uid⟩ := by
  rw [controllerOf, (server.stores none _).ownerReferences]
  rfl

/-- The creation that the switches of the mode know is this one, with all but the owner of the
    private service left out. -/
theorem create_refines {f : CreateFaults} {publicSVC : Service R} {stored : Option (Service R)}
    {faults : SwitchModes.Faults} {s : SwitchModes.Routing} (placed : publicSVC.ns = es.ns)
    (known : f.scheme = none) (get : faults.privateGet = f.get)
    (create : faults.privateCreate = f.create) (same : s.privateService = stored.map controllerOf) :
    (SwitchModes.checkAndCreatePrivateService es.uid faults s).1.privateService =
        (checkAndCreatePrivateService hashed server es f publicSVC stored).1.map controllerOf ∧
      (checkAndCreatePrivateService hashed server es f publicSVC stored).2 =
        (SwitchModes.checkAndCreatePrivateService es.uid faults s).2.map
          ("checkAndCreatePrivateService: " ++ ·) := by
  have copied := setControllerReference_placed (privateCopy hashed publicSVC) placed
  have created := copy_controller hashed server publicSVC es
  unfold checkAndCreatePrivateService SwitchModes.checkAndCreatePrivateService
  rw [get, create, same, known, copied]
  cases f.get with
  | some text =>
    cases stored with
    | some p => exact ⟨same, rfl⟩
    | none =>
      cases f.create with
      | some text => exact ⟨same, rfl⟩
      | none =>
        exact ⟨congrArg some created.symm, rfl⟩
  | none =>
    cases stored with
    | some p => exact ⟨same, rfl⟩
    | none =>
      cases f.create with
      | some text => exact ⟨same, rfl⟩
      | none =>
        exact ⟨congrArg some created.symm, rfl⟩

def Event.quiet : Event R → Bool
  | .create _ _ | .deliver _ _ => true
  | .change _ | .delete => false

structure Settled (publicSVC : Service R) (w : World R) : Prop where
  newest : w.versions.getLast? = some publicSVC
  caughtUp : w.versions.length ≤ w.delivered + 1
  mirrors : ∃ p, w.privateSVC = some p ∧ Mirrors p publicSVC

theorem settled_step {publicSVC : Service R} {w t : World R} {e : Event R}
    (settled : Settled publicSVC w) (quiet : e.quiet = true)
    (move : step hashed server es service w e = some t) : Settled publicSVC t := by
  obtain ⟨newest, caughtUp, p, held, mirrors⟩ := settled
  cases e with
  | change _ => cases quiet
  | delete => cases quiet
  | create seen f =>
    simp only [step] at move
    split at move
    · cases move
    · rename_i found _
      cases move
      refine ⟨newest, caughtUp, p, ?_, mirrors⟩
      simp only [held, create_keeps hashed server f found p]
  | deliver version f =>
    simp only [step] at move
    split at move
    · rename_i later
      split at move
      · cases move
      · rename_i delivered found
        cases move
        obtain ⟨inside, _⟩ := List.getElem?_eq_some_iff.mp found
        -- no version is left to deliver but the newest, once more
        have again : version = w.versions.length - 1 := by omega
        rw [again, ← List.getLast?_eq_getElem?, newest] at found
        cases found
        refine ⟨newest, by simp only; omega, ?_⟩
        rcases sync_cases hashed server service f publicSVC w.privateSVC with
          ⟨same, _⟩ | ⟨_, q, _, made, now, _⟩
        · exact ⟨p, same.trans held, mirrors⟩
        · exact ⟨q, made, now⟩
    · cases move

/-- Once the newest version is handled without an error the private service mirrors the public
    one, and it does so until the public service is changed or the private one deleted. -/
theorem mirror_settles {publicSVC : Service R} {f : SyncFaults} {version : Nat}
    {w mid t : World R} {events : List (Event R)}
    (newest : version + 1 = w.versions.length) (shown : w.versions[version]? = some publicSVC)
    (handled : (handlePublicServiceChanges hashed server service f publicSVC w.privateSVC).2 = none)
    (delivered : step hashed server es service w (.deliver version f) = some mid)
    (quiet : ∀ e ∈ events, e.quiet = true)
    (ran : run (step hashed server es service) mid events = some t) :
    ∃ p, t.privateSVC = some p ∧ Mirrors p publicSVC ∧ t.versions.getLast? = some publicSVC := by
  have start : Settled publicSVC mid := by
    simp only [step, shown] at delivered
    split at delivered
    · cases delivered
      have last : version = w.versions.length - 1 := by omega
      refine ⟨?_, ?_, ?_⟩
      · rw [List.getLast?_eq_getElem?, ← last, shown]
      · simp only
        omega
      · rcases sync_cases hashed server service f publicSVC w.privateSVC with
          ⟨_, failed⟩ | ⟨_, p, _, made, mirrors, _⟩
        · exact absurd handled failed
        · exact ⟨p, made, mirrors⟩
    · cases delivered
  clear newest shown handled delivered
  induction events generalizing mid with
  | nil =>
    cases ran
    obtain ⟨p, held, mirrors⟩ := start.mirrors
    exact ⟨p, held, mirrors, start.newest⟩
  | cons e events ih =>
    obtain ⟨next, move, rest⟩ := run_cons_some ran
    exact ih (fun later listed => quiet later (List.mem_cons_of_mem e listed)) rest
      (settled_step hashed server start (quiet e List.mem_cons_self) move)

def oldPrivate : Option (Service Unit) :=
  (checkAndCreatePrivateService noHash plainServer cartElasti ⟨none, none, none⟩ oldCart none).1

def newPrivate : Option (Service Unit) :=
  (handlePublicServiceChanges noHash plainServer cartService ⟨none, none, none⟩ newCart oldPrivate).1

theorem cart_mirror_settles :
    ∃ t, run (step noHash plainServer cartElasti cartService) (first oldCart)
        [.create 0 ⟨none, none, none⟩, .change newCart] = some ⟨[oldCart, newCart], 0, oldPrivate⟩ ∧
      step noHash plainServer cartElasti cartService ⟨[oldCart, newCart], 0, oldPrivate⟩
        (.deliver 1 ⟨none, none, none⟩) = some ⟨[oldCart, newCart], 1, newPrivate⟩ ∧
      run (step noHash plainServer cartElasti cartService) ⟨[oldCart, newCart], 1, newPrivate⟩
        [.create 0 ⟨some "timeout", none, none⟩, .deliver 1 ⟨none, none, some "conflict"⟩] = some t ∧
      ∃ p, t.privateSVC = some p ∧ Mirrors p newCart ∧ t.versions.getLast? = some newCart := by
  have delivered : step noHash plainServer cartElasti cartService ⟨[oldCart, newCart], 0, oldPrivate⟩
      (.deliver 1 ⟨none, none, none⟩) = some ⟨[oldCart, newCart], 1, newPrivate⟩ := rfl
  have ran : run (step noHash plainServer cartElasti cartService) ⟨[oldCart, newCart], 1, newPrivate⟩
      [.create 0 ⟨some "timeout", none, none⟩, .deliver 1 ⟨none, none, some "conflict"⟩] = some _ :=
    rfl
  exact ⟨_, rfl, delivered, ran, mirror_settles noHash plainServer rfl rfl rfl delivered
    (by decide) ran⟩

end

end PrivateMirror
