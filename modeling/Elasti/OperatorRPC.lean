import Elasti.KeyedRuns

/- The resolver's notifications to the operator. A call that finds a mutex stored for its
   service returns at once; the one that stored it posts, and a timer takes the mutex out of
   the map again. Every operation of the map and of a mutex is one step. -/
namespace OperatorRPC
open KeyedRuns ThreadPool

structure Target where
  ns : String
  svc : String
  deriving DecidableEq, Repr

structure RequestCount where
  count : Nat
  svc : String
  ns : String
  deriving DecidableEq, Repr

/-- What serviceRPCLocks holds for one service, as the number of the call that made the
    mutex, and which of the mutexes made for the service are locked. -/
structure Slot where
  stored : Option Nat
  locked : Nat → Bool

inductive Pc where
  | getMutex
  | taken
  | lock
  | post
  | arm
  | timer
  | unlock (mutex : Nat)
  | delete
  | finished
  | fatal
  deriving DecidableEq, Repr

structure Call where
  id : Nat
  target : Target
  posted : Option RequestCount
  label : Option String
  pc : Pc
  deriving DecidableEq, Repr

inductive Answer where
  | go
  | marshalFailed (text : String)
  | requestFailed (text : String)
  | sendFailed (text : String)
  | status (code : Nat)
  deriving DecidableEq, Repr

def requestBody (t : Target) : RequestCount := ⟨1, t.svc, t.ns⟩

def statusLabel (code : Nat) : String := if code = 200 then "" else toString code

def sendIncomingRequestInfo (s : Slot) (l : Call) (a : Answer) : Option (Slot × Call) :=
  match l.pc, a with
  | .getMutex, .go =>
    match s.stored with
    | some _ => some (s, { l with pc := .taken })
    | none => some ({ s with stored := some l.id }, { l with pc := .lock })
  | .lock, .go =>
    if s.locked l.id then none
    else some ({ s with locked := Function.update s.locked l.id true }, { l with pc := .post })
  | .post, .marshalFailed text => some (s, { l with label := some text, pc := .arm })
  | .post, .requestFailed text => some (s, { l with label := some text, pc := .arm })
  | .post, .sendFailed text =>
    some (s, { l with posted := some (requestBody l.target), label := some text, pc := .arm })
  | .post, .status code =>
    some (s, { l with
      posted := some (requestBody l.target), label := some (statusLabel code), pc := .arm })
  | .arm, .go => some (s, { l with pc := .timer })
  | .timer, .go =>
    match s.stored with
    | none => some (s, { l with pc := .finished })
    | some mutex => some (s, { l with pc := .unlock mutex })
  | .unlock mutex, .go =>
    -- fatal error: sync: unlock of unlocked mutex
    if s.locked mutex then
      some ({ s with locked := Function.update s.locked mutex false }, { l with pc := .delete })
    else some (s, { l with pc := .fatal })
  | .delete, .go => some ({ s with stored := none }, { l with pc := .finished })
  | _, _ => none

/-- Both functions are called with the service name alone. -/
def lockKey (l : Call) : String := l.target.svc

abbrev Client := Store String Slot Call

def newCall (id : Nat) (t : Target) : Call := ⟨id, t, none, none, .getMutex⟩

def newClient (targets : List Target) : Client :=
  ⟨fun _ => ⟨none, fun _ => false⟩, targets.mapIdx newCall⟩

abbrev History := List (Nat × Answer)

def runHistory (targets : List Target) (history : History) : Client :=
  replay lockKey sendIncomingRequestInfo (newClient targets) history

def without (targets : List Target) (b : Target) (history : History) : History :=
  history.filter fun e => targets[e.1]? != some b

def posts (c : Client) (i : Nat) : Bool := c.threads[i]?.any fun l => l.posted.isSome

theorem keepsTarget {s t : Slot} {l m : Call} {a : Answer}
    (ran : sendIncomingRequestInfo s l a = some (t, m)) : m.target = l.target := by
  unfold sendIncomingRequestInfo at ran
  split at ran
  all_goals try split at ran
  all_goals cases ran
  all_goals rfl

theorem keepsKey : KeepsKey lockKey sendIncomingRequestInfo := by
  intro s l a t m ran
  rw [lockKey, lockKey, keepsTarget ran]

/-- Whether a call for the first target posts is the same without the calls for the second. -/
def Unaffected (a b : Target) : Prop :=
  ∀ (targets : List Target) (history : History) (i : Nat), targets[i]? = some a →
    posts (runHistory targets history) i =
      posts (runHistory targets (without targets b history)) i

theorem newClient_target {targets : List Target} {i : Nat} {l : Call}
    (here : (newClient targets).threads[i]? = some l) : targets[i]? = some l.target := by
  simp only [newClient, List.getElem?_mapIdx, Option.map_eq_some_iff] at here
  obtain ⟨t, found, rfl⟩ := here
  exact found

theorem posts_elsewhere {a b : Target} (services : a.svc ≠ b.svc) : Unaffected a b := by
  intro targets history i mine
  have others : ∀ e ∈ history, (targets[e.1]? != some b) = false →
      ∀ l, (newClient targets).threads[e.1]? = some l → lockKey l ≠ a.svc := by
    intro e _ dropped l here same
    have target := newClient_target here
    simp only [bne_eq_false_iff_eq] at dropped
    rw [dropped, Option.some.injEq] at target
    subst target
    exact services same.symm
  have agree := replay_filter keepsKey (fun e => targets[e.1]? != some b) history
    (agree_refl lockKey a.svc (newClient targets)) others
  have key := replay_kept lockKey lockKey keepsKey history (newClient targets) i
  have first : (newClient targets).threads[i]? = some (newCall i a) := by
    simp [newClient, mine]
  rw [first] at key
  obtain ⟨l, here, at_key⟩ := Option.map_eq_some_iff.mp key
  have there := (agree.threads i l at_key).mp here
  simp only [posts, runHistory, without]
  rw [here, there]

def suppressing : History := [(0, .go), (1, .go), (1, .go), (1, .status 200)]

theorem posts_suppressed {a b : Target} (different : a ≠ b) (same : a.svc = b.svc) :
    ¬ Unaffected a b := by
  obtain ⟨first, svc⟩ := a
  obtain ⟨second, svc'⟩ := b
  subst same
  have namespaces : first ≠ second := by
    intro same
    exact different (by rw [same])
  intro unaffected
  have equal := unaffected [⟨second, svc⟩, ⟨first, svc⟩] suppressing 1 rfl
  simp [posts, runHistory, without, suppressing, replay, attempt, newClient, atKey,
    sendIncomingRequestInfo, newCall, lockKey, namespaces] at equal

/-- Calls for one target never decide whether calls for another post, exactly if the two
    have different service names: the namespace does not enter into the key. -/
theorem unaffected_iff (a b : Target) (different : a ≠ b) : Unaffected a b ↔ a.svc ≠ b.svc := by
  constructor
  · intro unaffected same
    exact posts_suppressed different same unaffected
  · exact posts_elsewhere

theorem other_service_unaffected : Unaffected ⟨"shop", "web"⟩ ⟨"shop", "blog"⟩ :=
  (unaffected_iff _ _ (by decide)).mpr (by decide)

/-- Traffic for the web service of one namespace silences the web service of another. -/
theorem other_namespace_suppresses :
    posts (runHistory [⟨"blog", "web"⟩, ⟨"shop", "web"⟩] suppressing) 1 = false ∧
      posts (runHistory [⟨"blog", "web"⟩, ⟨"shop", "web"⟩]
        (without [⟨"blog", "web"⟩, ⟨"shop", "web"⟩] ⟨"blog", "web"⟩ suppressing)) 1 = true := by
  decide

end OperatorRPC
