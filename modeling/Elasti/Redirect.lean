import Elasti.Cluster

/- switchMode owns the slice to the resolver, under its mutex. handleResolverChanges writes
   it too, without the mutex, on the word of the directory's copy of the mode. The slice
   follows the last switch when that copy is not behind a switch to serve, and when no
   switch to serve starts while a handler that trusted it is at work. -/
namespace ResolverRedirect
open GuardedRuns ThreadPool ResolverSlice SwitchModes RoutingRuns Cluster
open V1Alpha1 (Apimachinery)

def holding : Run → Bool
  | .switchMode _ .lock | .switchMode _ (.returned _) => false
  | .switchMode _ _ => true
  | _ => false

def handling : Run → Bool
  | .resolver .service | .resolver (.slice _ _) => true
  | _ => false

def failed : RouteAnswer → Bool
  | .fail _ => true
  | _ => false

/-- The read before a deletion shows what is stored, a service has a port and the resolver
    an address, and a switch to serve starts only when no handler is at work. -/
def SwitchOk (config : ResolverConfig) (c : Runs) (mode : Mode) : SwitchPc → RouteAnswer → Prop
  | .lock, _ => mode = .serve → ∀ n ∈ c.threads, handling n = false
  | .serve .get, .seen found => found = c.shared.routes.routing.slice.isSome
  | .service, .service found => found.ports ≠ []
  | .slice _ .list, .slices found => noResolverAddress config found = false
  | _, _ => True

instance (config : ResolverConfig) (c : Runs) (mode : Mode) (pc : SwitchPc) (a : RouteAnswer) :
    Decidable (SwitchOk config c mode pc a) := by
  unfold SwitchOk
  split <;> infer_instance

/-- A handler finds proxy in the directory only if the last switch was not to serve. -/
def RunOk (sys : System) (c : Runs) (a : RouteAnswer) : Run → Prop
  | .switchMode mode pc => SwitchOk sys.config c mode pc a
  | .resolver .range =>
    c.shared.routes.directory = some (some .proxy) → c.shared.routes.lastSwitch ≠ some .serve
  | _ => True

instance (sys : System) (c : Runs) (a : RouteAnswer) (l : Run) : Decidable (RunOk sys c a l) :=
  match l with
  | .switchMode mode pc => inferInstanceAs (Decidable (SwitchOk sys.config c mode pc a))
  | .resolver .range => by
    dsimp only [RunOk]
    infer_instance
  | .resolver .service | .resolver (.slice _ _) | .resolver .finished => .isTrue trivial
  | .tick _ | .notify _ | .reconcile _ | .finalizer _ => .isTrue trivial

def Current (sys : System) (c : Runs) : Move → Prop
  | .thread i (.routing a) => failed a = false ∧ ∀ l ∈ c.threads[i]?, RunOk sys c a l
  | _ => True

instance (sys : System) (c : Runs) (e : Move) : Decidable (Current sys c e) := by
  unfold Current
  split <;> infer_instance

/-- What a switchMode inside the mutex knows, point by point. -/
def Phase (s : Routes) (mode : Mode) : SwitchPc → Prop
  | .lock | .returned _ => True
  | .getCRD => s.lastSwitch = some mode
  | .serve _ => s.lastSwitch = some mode ∧ mode = .serve
  | .service => s.lastSwitch = some mode ∧ mode = .proxy
  | .privateGet service | .privateCreate service | .slice service _ =>
    s.lastSwitch = some mode ∧ mode = .proxy ∧ service.ports ≠ []
  | .watch => s.lastSwitch = some mode ∧ mode = .proxy ∧ s.routing.slice ≠ none
  | .statusGet _ | .statusPatch _ | .unlock _ =>
    s.lastSwitch = some mode ∧ (s.routing.slice ≠ none ↔ mode = .proxy)

theorem phase_outside {s : Routes} {mode : Mode} {pc : SwitchPc}
    (outside : holding (.switchMode mode pc) = false) : Phase s mode pc := by
  cases pc <;> trivial

theorem phase_kept {s r : Routes} {mode : Mode} {pc : SwitchPc}
    (last : r.lastSwitch = s.lastSwitch)
    (slice : r.routing.slice = s.routing.slice ∨
      r.routing.slice ≠ none ∧ s.lastSwitch ≠ some .serve)
    (before : Phase s mode pc) : Phase r mode pc := by
  rcases slice with same | ⟨filled, notServe⟩
  · have equal : Phase r mode pc = Phase s mode pc := by
      cases pc <;> simp only [Phase, last, same]
    rw [equal]
    exact before
  · cases pc with
    | watch =>
      obtain ⟨mine, asked, -⟩ := before
      exact ⟨last.trans mine, asked, filled⟩
    | statusGet out | statusPatch out | unlock out =>
      obtain ⟨mine, -⟩ := before
      have asked : mode = .proxy := by
        cases mode with
        | serve => exact absurd mine notServe
        | proxy => rfl
      exact ⟨last.trans mine, fun _ => asked, fun _ => filled⟩
    | lock => trivial
    | returned out => trivial
    | _ => simpa only [Phase, last] using before

theorem newEndpointSlice_some {config : ResolverConfig} {service : Service} {ips : List String}
    (port : service.ports ≠ []) : newEndpointSlice config service ips ≠ none := by
  unfold newEndpointSlice
  cases ports : service.ports with
  | nil => exact absurd ports port
  | cons first rest => simp

theorem phase_step {sys : System} {c : Runs} {mode : Mode} {r : Routes} {pc next : SwitchPc}
    {a : RouteAnswer} (effect : SwitchEffect sys.config sys.uid mode c.shared.routes pc a r next)
    (inside : holding (.switchMode mode pc) = true) (success : failed a = false)
    (ok : SwitchOk sys.config c mode pc a) (before : Phase c.shared.routes mode pc) :
    Phase r mode next := by
  cases effect with
  | lock free => cases inside
  | serve asked => exact ⟨before, asked⟩
  | proxy asked => exact ⟨before, asked⟩
  | delete pc a object status effect =>
    obtain ⟨mine, asked⟩ := before
    cases effect with
    | found => exact ⟨mine, asked⟩
    | absent =>
      have none_stored : c.shared.routes.routing.slice = none := by simpa using ok.symm
      exact ⟨mine, by simp [setSlice, none_stored, asked]⟩
    | deleted => exact ⟨mine, by simp [setSlice, asked]⟩
    | unread text => cases success
    | refused text => cases success
  | service found =>
    obtain ⟨mine, asked⟩ := before
    exact ⟨mine, asked, ok⟩
  | privateFound service => exact before
  | privateMissing service a => exact before
  | privateCreated service => exact before
  | slice service pc a object status effect =>
    obtain ⟨mine, asked, port⟩ := before
    cases effect with
    | noAddress found err empty =>
      obtain ⟨ips, listed⟩ := getIPsForResolver_ok sys.config found ok
      rw [empty] at listed
      cases listed
    | listed found ips => exact ⟨mine, asked, port⟩
    | noPort ips found empty => exact absurd empty (newEndpointSlice_some port)
    | read ips found slice => exact ⟨mine, asked, port⟩
    | written found slice same => exact ⟨mine, asked, by simp [setSlice]⟩
    | unlisted text => cases success
    | unread ips text => cases success
    | refused found slice text => cases success
  | watched =>
    obtain ⟨mine, asked, filled⟩ := before
    exact ⟨mine, fun _ => asked, fun _ => filled⟩
  | statusRead out => exact before
  | patched out => exact before
  | unlock out => trivial
  | noCRD text => cases success
  | noService text => cases success
  | privateRefused service text => cases success
  | unwatched text => cases success
  | statusUnread out text => cases success
  | unpatched out text => cases success

theorem switchEffect_frame {config : ResolverConfig} {uid : String} {mode : Mode} {s r : Routes}
    {pc next : SwitchPc} {a : RouteAnswer} (effect : SwitchEffect config uid mode s pc a r next)
    (inside : holding (.switchMode mode pc) = true)
    (stays : holding (.switchMode mode next) = true) :
    r.switchLock = s.switchLock ∧ r.lastSwitch = s.lastSwitch := by
  cases effect with
  | lock free => cases inside
  | unlock out => cases stays
  | _ => exact ⟨rfl, rfl⟩

structure Routed (c : Runs) : Prop where
  kinds : ∀ pc, .finalizer pc ∉ c.threads
  mutex : Mutex c.shared.routes.switchLock holding c.threads
  phases : ∀ mode pc, .switchMode mode pc ∈ c.threads → Phase c.shared.routes mode pc
  handlers : c.shared.routes.lastSwitch = some .serve → ∀ n ∈ c.threads, handling n = false
  follows : c.shared.routes.switchLock = false → ∀ mode, c.shared.routes.lastSwitch = some mode →
    (c.shared.routes.routing.slice ≠ none ↔ mode = .proxy)

theorem handlers_set {c : Runs} {i : Nat} {m : Run}
    (before : ∀ n ∈ c.threads, handling n = false) (idle : handling m = false) :
    ∀ n ∈ c.threads.set i m, handling n = false := by
  intro n member
  rcases set_member member with rfl | ⟨j, -, at_j⟩
  · exact idle
  · exact before n (List.mem_of_getElem? at_j)

theorem routed_outside {c : Runs} {i : Nat} {l m : Run} {d : State} (routed : Routed c)
    (here : c.threads[i]? = some l) (before : holding l = false) (after : holding m = false)
    (kind : ∀ pc, m ≠ .finalizer pc)
    (busy : handling m = true → c.shared.routes.lastSwitch ≠ some .serve)
    (lock : d.routes.switchLock = c.shared.routes.switchLock)
    (last : d.routes.lastSwitch = c.shared.routes.lastSwitch)
    (slice : d.routes.routing.slice = c.shared.routes.routing.slice ∨
      d.routes.routing.slice ≠ none ∧ c.shared.routes.lastSwitch ≠ some .serve) :
    Routed ⟨d, c.threads.set i m⟩ := by
  constructor
  · exact fun pc => not_member_set (routed.kinds pc) (kind pc)
  · show Mutex d.routes.switchLock holding (c.threads.set i m)
    rw [lock]
    exact routed.mutex.keep here (after.trans before.symm)
  · intro mode pc member
    rcases set_member member with same | ⟨j, -, at_j⟩
    · exact phase_outside (same ▸ after)
    · exact phase_kept last slice (routed.phases mode pc (List.mem_of_getElem? at_j))
  · intro served
    have served : c.shared.routes.lastSwitch = some .serve := last ▸ served
    apply handlers_set (routed.handlers served)
    by_contra works
    exact busy (by simpa using works) served
  · intro free mode switched
    have switched : c.shared.routes.lastSwitch = some mode := last ▸ switched
    rcases slice with same | ⟨filled, notServe⟩
    · rw [same]
      exact routed.follows (lock ▸ free) mode switched
    · constructor
      · intro _
        cases mode with
        | serve => exact absurd switched notServe
        | proxy => rfl
      · intro _
        exact filled

theorem routed_lock {c : Runs} {i : Nat} {mode : Mode} {d : State} (routed : Routed c)
    (here : c.threads[i]? = some (.switchMode mode .lock))
    (free : c.shared.routes.switchLock = false)
    (nobody : mode = .serve → ∀ n ∈ c.threads, handling n = false)
    (lock : d.routes.switchLock = true) (last : d.routes.lastSwitch = some mode) :
    Routed ⟨d, c.threads.set i (.switchMode mode .getCRD)⟩ := by
  have idle : ∀ n ∈ c.threads, holding n = false := routed.mutex.free free
  constructor
  · exact fun pc => not_member_set (routed.kinds pc) (by simp)
  · show Mutex d.routes.switchLock holding _
    rw [lock]
    have mutex := routed.mutex
    rw [free] at mutex
    exact mutex.take here rfl
  · intro other pc member
    rcases set_member member with same | ⟨j, -, at_j⟩
    · cases same
      exact last
    · exact phase_outside (idle _ (List.mem_of_getElem? at_j))
  · intro served
    have asked : mode = .serve := by
      rw [last] at served
      exact Option.some.inj served
    exact handlers_set (nobody asked) rfl
  · intro unlocked
    rw [lock] at unlocked
    contradiction

theorem routed_inside {c : Runs} {i : Nat} {mode : Mode} {pc next : SwitchPc} {d : State}
    (routed : Routed c) (here : c.threads[i]? = some (.switchMode mode pc))
    (inside : holding (.switchMode mode pc) = true)
    (stays : holding (.switchMode mode next) = true)
    (lock : d.routes.switchLock = c.shared.routes.switchLock)
    (last : d.routes.lastSwitch = c.shared.routes.lastSwitch)
    (phase : Phase d.routes mode next) : Routed ⟨d, c.threads.set i (.switchMode mode next)⟩ := by
  constructor
  · exact fun pc => not_member_set (routed.kinds pc) (by simp)
  · show Mutex d.routes.switchLock holding _
    rw [lock]
    exact routed.mutex.keep here (stays.trans inside.symm)
  · intro other at_pc member
    rcases set_member member with same | ⟨j, away, at_j⟩
    · cases same
      exact phase
    · exact phase_outside (routed.mutex.alone here inside away at_j)
  · intro served
    exact handlers_set (routed.handlers (last ▸ served)) rfl
  · intro unlocked
    have nobody := routed.mutex.free (lock ▸ unlocked) _ (List.mem_of_getElem? here)
    rw [inside] at nobody
    contradiction

theorem routed_unlock {c : Runs} {i : Nat} {mode : Mode} {out : Outcome SwitchErr} {d : State}
    (routed : Routed c) (here : c.threads[i]? = some (.switchMode mode (.unlock out)))
    (lock : d.routes.switchLock = false)
    (last : d.routes.lastSwitch = c.shared.routes.lastSwitch)
    (slice : d.routes.routing.slice = c.shared.routes.routing.slice) :
    Routed ⟨d, c.threads.set i (.switchMode mode (.returned out))⟩ := by
  obtain ⟨mine, follows⟩ := routed.phases mode _ (List.mem_of_getElem? here)
  constructor
  · exact fun pc => not_member_set (routed.kinds pc) (by simp)
  · show Mutex d.routes.switchLock holding _
    rw [lock]
    exact routed.mutex.drop here rfl rfl
  · intro other at_pc member
    rcases set_member member with same | ⟨j, away, at_j⟩
    · cases same
      trivial
    · exact phase_outside (routed.mutex.alone here rfl away at_j)
  · intro served
    exact handlers_set (routed.handlers (last ▸ served)) rfl
  · intro _ other switched
    have same : mode = other := Option.some.inj (mine.symm.trans (last ▸ switched))
    rw [slice, ← same]
    exact follows

theorem routed_switch {sys : System} {c : Runs} {i : Nat} {mode : Mode} {pc next : SwitchPc}
    {a : RouteAnswer} {r : Routes} {d : State} (routed : Routed c)
    (meets : Current sys c (.thread i (.routing a)))
    (here : c.threads[i]? = some (.switchMode mode pc)) (routes : d.routes = r)
    (effect : SwitchEffect sys.config sys.uid mode c.shared.routes pc a r next) :
    Routed ⟨d, c.threads.set i (.switchMode mode next)⟩ := by
  obtain ⟨success, runs⟩ := meets
  have ok : SwitchOk sys.config c mode pc a := runs _ here
  have phase := routed.phases mode pc (List.mem_of_getElem? here)
  subst routes
  cases inside : holding (.switchMode mode pc) with
  | false =>
    generalize after : d.routes = r at effect
    cases effect with
    | lock free => exact routed_lock routed here free ok (by rw [after]) (by rw [after])
    | _ => cases inside
  | true =>
    cases stays : holding (.switchMode mode next) with
    | true =>
      obtain ⟨lock, last⟩ := switchEffect_frame effect inside stays
      exact routed_inside routed here inside stays lock last
        (phase_step effect inside success ok phase)
    | false =>
      generalize after : d.routes = r at effect
      cases effect with
      | unlock out => exact routed_unlock routed here (by rw [after]) (by rw [after]) (by rw [after])
      | delete pc a object status effect => cases effect <;> cases stays
      | slice service pc a object status effect => cases effect <;> cases stays
      | _ => cases stays

theorem sliceEffect_filled {config : ResolverConfig} {service : Service}
    {stored after : Option EndpointSlice} {pc : SlicePc} {a : RouteAnswer} {status : SliceStatus}
    (effect : SliceEffect config service stored pc a after status) :
    after = stored ∨ after ≠ none := by
  cases effect with
  | written found slice same => exact .inr (by simp)
  | _ => exact .inl rfl

theorem routed_resolver {sys : System} {c : Runs} {i : Nat} {pc next : ResolverPc}
    {a : RouteAnswer} {r : Routes} (routed : Routed c)
    (meets : Current sys c (.thread i (.routing a)))
    (here : c.threads[i]? = some (.resolver pc))
    (effect : ResolverEffect sys.config c.shared.routes pc a r next) :
    Routed ⟨{ c.shared with routes := r }, c.threads.set i (.resolver next)⟩ := by
  have member := List.mem_of_getElem? here
  cases effect with
  | managed proxied =>
    have notServe : c.shared.routes.lastSwitch ≠ some .serve := meets.2 _ here proxied
    exact routed_outside routed here rfl rfl (by simp) (fun _ => notServe) rfl rfl (.inl rfl)
  | skipped => exact routed_outside routed here rfl rfl (by simp) (by simp [handling]) rfl rfl (.inl rfl)
  | service found =>
    have notServe : c.shared.routes.lastSwitch ≠ some .serve := by
      intro served
      exact absurd (routed.handlers served _ member) (by simp [handling])
    exact routed_outside routed here rfl rfl (by simp) (fun _ => notServe) rfl rfl (.inl rfl)
  | noService text =>
    exact routed_outside routed here rfl rfl (by simp) (by simp [handling]) rfl rfl (.inl rfl)
  | slice service pc a object status effect =>
    have notServe : c.shared.routes.lastSwitch ≠ some .serve := by
      intro served
      exact absurd (routed.handlers served _ member) (by simp [handling])
    have slice : object = c.shared.routes.routing.slice ∨
        object ≠ none ∧ c.shared.routes.lastSwitch ≠ some .serve := by
      rcases sliceEffect_filled effect with same | filled
      · exact .inl same
      · exact .inr ⟨filled, notServe⟩
    exact routed_outside routed here rfl rfl (by simp) (fun _ => notServe) rfl rfl slice

theorem routed_step [Apimachinery] {sys : System} {c : Runs} {i : Nat} {a : Label} {l m : Run}
    {d : State}
    (routed : Routed c) (meets : Current sys c (.thread i a)) (here : c.threads[i]? = some l)
    (effect : Effect sys c.shared l a d m) : Routed ⟨d, c.threads.set i m⟩ := by
  cases effect with
  | switchMode mode pc a r next effect => exact routed_switch routed meets here rfl effect
  | resolver pc a r next effect => exact routed_resolver routed meets here effect
  | finalizer pc a d next effect => exact absurd (List.mem_of_getElem? here) (routed.kinds pc)
  | _ => exact routed_outside routed here rfl rfl (by simp) (by simp [handling]) rfl rfl (.inl rfl)

theorem routed_world {c : Runs} {e : World} {d : State} (routed : Routed c)
    (moved : world c.shared e = some d) : Routed ⟨d, c.threads⟩ := by
  have same : d.routes = c.shared.routes := by cases e <;> cases moved <;> rfl
  constructor
  · exact routed.kinds
  · exact same ▸ routed.mutex
  · exact same ▸ routed.phases
  · exact same ▸ routed.handlers
  · exact same ▸ routed.follows

theorem initial_outside {sys : System} {l : Run} (initial : Initial sys l) :
    holding l = false ∧ handling l = false := by
  cases l <;> cases initial <;> exact ⟨rfl, rfl⟩

structure Fresh (sys : System) (c : Runs) : Prop where
  initial : ∀ l ∈ c.threads, Initial sys l
  kinds : ∀ pc, .finalizer pc ∉ c.threads
  free : c.shared.routes.switchLock = false
  follows : ∀ mode, c.shared.routes.lastSwitch = some mode →
    (c.shared.routes.routing.slice ≠ none ↔ mode = .proxy)

theorem routed_start {sys : System} {c : Runs} (fresh : Fresh sys c) : Routed c := by
  have outside := fun l member => initial_outside (fresh.initial l member)
  constructor
  · exact fresh.kinds
  · constructor
    · intro _ n member
      exact (outside n member).1
    · intro locked
      rw [fresh.free] at locked
      contradiction
    · intro i j l n at_i _ first _
      rw [(outside l (List.mem_of_getElem? at_i)).1] at first
      contradiction
  · intro mode pc member
    exact phase_outside (outside _ member).1
  · intro _ n member
    exact (outside n member).2
  · intro _
    exact fresh.follows

theorem routed_reach [Apimachinery] {sys : System} {start c : Runs} (fresh : Fresh sys start)
    (reach : Reach (clusterStep sys) (Current sys) start c) : Routed c := by
  apply reach_invariant Routed (routed_start fresh) ?_ reach
  intro c e d routed meets move
  cases e with
  | thread i a =>
    obtain ⟨l, s, m, here, ran, rfl⟩ := step_thread move
    exact routed_step routed meets here (exec_effect ran)
  | world e =>
    obtain ⟨s, moved, rfl⟩ := step_world move
    exact routed_world routed moved

theorem finished_outside {l : Run} (done : finished l = true) : holding l = false := by
  unfold finished at done
  split at done <;> first | rfl | contradiction

/-- Once the runs have finished, the slice exists exactly if the last switch was to proxy;
    and no handler ever creates it after a switch to serve. -/
theorem slice_follows_last_switch [Apimachinery] (sys : System) (start c : Runs)
    (fresh : Fresh sys start) (reach : Reach (clusterStep sys) (Current sys) start c) :
    ((∀ l ∈ c.threads, finished l = true) → ∀ mode, c.shared.routes.lastSwitch = some mode →
      (c.shared.routes.routing.slice ≠ none ↔ mode = .proxy)) ∧
    (∀ service slice, .resolver (.slice service (.write false slice)) ∈ c.threads →
      c.shared.routes.lastSwitch ≠ some .serve) := by
  have routed := routed_reach fresh reach
  constructor
  · intro done
    apply routed.follows
    by_contra locked
    obtain ⟨n, member, holder⟩ := routed.mutex.taken (by simpa using locked)
    rw [finished_outside (done n member)] at holder
    contradiction
  · intro service slice member served
    exact absurd (routed.handlers served _ member) (by simp [handling])

def cart : Service := ⟨"shop", "cart", ["http"]⟩

def succeed (i n : Nat) : List Move := List.replicate n (.thread i (.routing .ok))

def switchToProxy (i : Nat) : List Move :=
  .thread i (.routing .ok) :: .thread i (.routing .ok) :: .thread i (.routing (.service cart)) ::
    .thread i (.routing (.seen false)) :: .thread i (.routing .ok) ::
    .thread i (.routing (.slices [resolverPod])) :: .thread i (.routing (.seen false)) :: succeed i 5

def switchToServe (i : Nat) : List Move :=
  .thread i (.routing .ok) :: .thread i (.routing .ok) :: .thread i (.routing (.seen true)) ::
    succeed i 4

def copyProxy (i : Nat) : List Move :=
  [.thread i (.routing (.mode (some .proxy))), .thread i (.routing .ok)]

def handleChange (i : Nat) : List Move :=
  [.thread i (.routing .ok), .thread i (.routing (.service cart)),
    .thread i (.routing (.slices [resolverPod])), .thread i (.routing (.seen false)),
    .thread i (.routing .ok)]

def refreshSlice (i : Nat) : List Move :=
  [.thread i (.routing .ok), .thread i (.routing (.service cart)),
    .thread i (.routing (.slices [resolverPod])), .thread i (.routing (.seen true)),
    .thread i (.routing .ok)]

def fourRuns : Runs :=
  ⟨oneReplica, [.switchMode .proxy .lock, .reconcile .getCRD, .switchMode .serve .lock,
    .resolver .range]⟩

def proxyThenServe : List Move :=
  (switchToProxy 0).dropLast ++ .thread 1 (.routing (.mode (some .proxy))) ::
    .thread 0 (.routing .ok) :: .thread 1 (.routing .ok) :: refreshSlice 3 ++ switchToServe 2

theorem proxied_then_served :
    ∃ c, Reach (clusterStep scaledByKeda) (Current scaledByKeda) fourRuns c ∧
      (∀ l ∈ c.threads, finished l = true) ∧ c.shared.routes.lastSwitch = some .serve ∧
      c.shared.routes.routing.slice = none ∧
      (∀ mode, c.shared.routes.lastSwitch = some mode →
        (c.shared.routes.routing.slice ≠ none ↔ mode = .proxy)) ∧
      (∀ service slice, .resolver (.slice service (.write false slice)) ∈ c.threads →
        c.shared.routes.lastSwitch ≠ some .serve) := by
  have ends : ∃ c, Reach (clusterStep scaledByKeda) (Current scaledByKeda) fourRuns c ∧
      (∀ l ∈ c.threads, finished l = true) ∧ c.shared.routes.lastSwitch = some .serve ∧
      c.shared.routes.routing.slice = none :=
    reaches_of_guardedRun proxyThenServe (by decide +kernel)
  obtain ⟨c, reach, done, last, gone⟩ := ends
  have fresh : Fresh scaledByKeda fourRuns :=
    ⟨by decide, by simp [fourRuns], rfl, by simp [fourRuns, oneReplica]⟩
  obtain ⟨follows, quiet⟩ := slice_follows_last_switch scaledByKeda fourRuns c fresh reach
  exact ⟨c, reach, done, last, gone, follows done, quiet⟩

/-- The service is switched to proxy and copied into the directory, then switched to serve;
    before the next Reconcile a resolver change creates the slice again. -/
theorem stale_directory_recreates_slice :
    ∃ c, Reach (clusterStep scaledByKeda) Unguarded fourRuns c ∧
      (∀ l ∈ c.threads, finished l = true) ∧ c.shared.routes.lastSwitch = some .serve ∧
      c.shared.routes.routing.mode = some .serve ∧ c.shared.routes.routing.slice ≠ none := by
  exact reaches_of_run (switchToProxy 0 ++ copyProxy 1 ++ switchToServe 2 ++ handleChange 3)
    (by decide +kernel)

end ResolverRedirect
