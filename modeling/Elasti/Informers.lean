import Elasti.ElastiService
import Elasti.ThreadPool

/- The informer manager. A stop channel is a number; the map holds the channel of each key,
   and a channel remembers how often it was closed, since closing it twice panics. Every
   load, store and delete of the map and every close is one step. -/
namespace InformerManager
open GuardedRuns ThreadPool V1Alpha1

structure RequestWatch where
  crdName : String
  ns : String
  resource : String
  name : String
  deriving DecidableEq, Repr

def joinKey (crdName ns resource name : String) : String :=
  toLower crdName ++ "/" ++ toLower ns ++ "/" ++ toLower resource ++ "/" ++ toLower name

def getKeyFromRequestWatch (req : RequestWatch) : String :=
  joinKey req.crdName req.ns req.resource req.name

structure Manager where
  informers : String → Option Nat
  closes : Nat → Nat
  next : Nat

def newManager : Manager := ⟨fun _ => none, fun _ => 0, 0⟩

def Manager.close (m : Manager) (ch : Nat) : Manager :=
  { m with closes := Function.update m.closes ch (m.closes ch + 1) }

def Manager.store (m : Manager) (key : String) (ch : Nat) : Manager :=
  { m with informers := Function.update m.informers key (some ch) }

def Manager.delete (m : Manager) (key : String) : Manager :=
  { m with informers := Function.update m.informers key none }

/-- How a call is answered. A sync ends well, by its timeout, or because its stop channel is
    closed; a visit is the next key of a Range; a worker is a goroutine of StopForCRD. -/
inductive Answer where
  | ok
  | fail (text : String)
  | timeout
  | cut
  | visit (key : String)
  | worker (j : Nat)
  deriving DecidableEq, Repr

inductive StopPc where
  | load
  | close (ch : Nat)
  | delete
  | returned (err : Option String)
  deriving DecidableEq, Repr

def stopInformer (m : Manager) (key : String) : StopPc → Option (Manager × StopPc)
  | .load =>
    match m.informers key with
    | none => some (m, .returned (some ("informer not found, already stopped for key: " ++ key)))
    | some ch => some (m, .close ch)
  | .close ch => some (m.close ch, .delete)
  | .delete => some (m.delete key, .returned none)
  | .returned _ => none

inductive AddPc where
  | load
  | verify
  | enable
  | store (ch : Nat)
  | sync (ch : Nat)
  | close (ch : Nat)
  | delete
  | returned (err : Option String)
  deriving DecidableEq, Repr

def targetNotFound (req : RequestWatch) (text : String) : String :=
  s!"target not found: resource doesn't exist: {text} | resource name: {req.name} | resource type: {req.resource} | resource namespace: {req.ns}"

/-- Add and enableInformer. The channel is in the map before the sync is waited for. -/
def add (m : Manager) (req : RequestWatch) : AddPc → Answer → Option (Manager × AddPc)
  | .load, .ok =>
    some (m, if (m.informers (getKeyFromRequestWatch req)).isSome then .returned none else .verify)
  | .verify, .ok => some (m, .enable)
  | .verify, .fail text => some (m, .returned (some (targetNotFound req text)))
  | .enable, .ok => some ({ m with next := m.next + 1 }, .store m.next)
  | .enable, .fail text =>
    some (m, .returned (some ("failed to enable to informer: enableInformer: " ++ text)))
  | .store ch, .ok => some (m.store (getKeyFromRequestWatch req) ch, .sync ch)
  | .sync _, .ok => some (m, .returned none)
  | .sync ch, .timeout => some (m, .close ch)
  | .sync ch, .cut => if 0 < m.closes ch then some (m, .close ch) else none
  | .close ch, .ok => some (m.close ch, .delete)
  | .delete, .ok =>
    some (m.delete (getKeyFromRequestWatch req),
      .returned (some "failed to enable to informer: failed to sync informer within timeout"))
  | _, _ => none

abbrev Worker := String × StopPc

inductive StopForCRDPc where
  | ranging (visited : List String) (workers : List Worker)
  | waiting (workers : List Worker)
  | returned
  deriving DecidableEq, Repr

def belongsTo (crdName ns key : String) : Bool :=
  (toLower crdName ++ "/" ++ toLower ns ++ "/").toList.isPrefixOf key.toList

def stopWorker (m : Manager) (workers : List Worker) (j : Nat) : Option (Manager × List Worker) :=
  match workers[j]? with
  | none => none
  | some w => (stopInformer m w.1 w.2).map fun r => (r.1, workers.set j (w.1, r.2))

def workerDone (w : Worker) : Bool :=
  match w.2 with
  | .returned _ => true
  | _ => false

/-- StopForCRD. The Range visits keys that are in the map when it comes to them, none of
    them twice, and the workers run alongside. -/
def stopForCRD (m : Manager) (crdName ns : String) :
    StopForCRDPc → Answer → Option (Manager × StopForCRDPc)
  | .ranging visited workers, .visit key =>
    if (m.informers key).isSome ∧ key ∉ visited then
      some (m, .ranging (key :: visited)
        (if belongsTo crdName ns key then workers ++ [(key, .load)] else workers))
    else none
  | .ranging visited workers, .worker j =>
    (stopWorker m workers j).map fun r => (r.1, .ranging visited r.2)
  | .ranging _ workers, .ok => some (m, .waiting workers)
  | .waiting workers, .worker j => (stopWorker m workers j).map fun r => (r.1, .waiting r.2)
  | .waiting workers, .ok => if workers.all workerDone then some (m, .returned) else none
  | _, _ => none

inductive Call where
  | add (req : RequestWatch) (pc : AddPc)
  | stopInformer (key : String) (pc : StopPc)
  | stopForCRD (crdName ns : String) (pc : StopForCRDPc)
  deriving DecidableEq, Repr

def exec (m : Manager) : Call → Answer → Option (Manager × Call)
  | .add req pc, a => (add m req pc a).map fun r => (r.1, .add req r.2)
  | .stopInformer key pc, .ok => (stopInformer m key pc).map fun r => (r.1, .stopInformer key r.2)
  | .stopForCRD crdName ns pc, a =>
    (stopForCRD m crdName ns pc a).map fun r => (r.1, .stopForCRD crdName ns r.2)
  | _, _ => none

def outside (_ : Manager) (e : Empty) : Option Manager := e.elim

abbrev Calls := Pool Manager Call

abbrev Move := Event Answer Empty

def callStep : Calls → Move → Option Calls := step exec outside

/-- Where a call stands: it has made a channel and not stored it, has decided to close it, or
    is between such a decision on a key and its delete of the key. -/
inductive Stage where
  | storing (ch : Nat)
  | closing (ch : Nat)
  | stopping (key : String)
  deriving DecidableEq, Repr

def stopStages (key : String) : StopPc → List Stage
  | .close ch => [.closing ch, .stopping key]
  | .delete => [.stopping key]
  | .load | .returned _ => []

def workerStages (workers : List Worker) : List Stage :=
  workers.flatMap fun w => stopStages w.1 w.2

def stages : Call → List Stage
  | .add _ (.store ch) => [.storing ch]
  | .add req (.close ch) => [.closing ch, .stopping (getKeyFromRequestWatch req)]
  | .add req .delete => [.stopping (getKeyFromRequestWatch req)]
  | .add _ _ => []
  | .stopInformer key pc => stopStages key pc
  | .stopForCRD _ _ (.ranging _ workers) | .stopForCRD _ _ (.waiting workers) => workerStages workers
  | .stopForCRD _ _ .returned => []

def total (calls : List Call) (st : Stage) : Nat := (calls.map fun l => (stages l).count st).sum

def loads (m : Manager) (w : Worker) : Option (String × Nat) :=
  match w.2 with
  | .load => (m.informers w.1).map fun ch => (w.1, ch)
  | _ => none

def decides (m : Manager) : Call → Answer → Option (String × Nat)
  | .add req (.sync ch), .timeout | .add req (.sync ch), .cut =>
    some (getKeyFromRequestWatch req, ch)
  | .stopInformer key pc, .ok => loads m (key, pc)
  | .stopForCRD _ _ (.ranging _ workers), .worker j
  | .stopForCRD _ _ (.waiting workers), .worker j => workers[j]?.bind (loads m)
  | _, _ => none

/-- A call decides to close a channel only while the map holds that channel under the call's
    key and no other call is between such a decision and its delete of the key. -/
def OneAtATime (c : Calls) : Move → Prop
  | .thread i a =>
    ∀ l ∈ c.threads[i]?, ∀ r ∈ decides c.shared l a,
      c.shared.informers r.1 = some r.2 ∧ total c.threads (.stopping r.1) = 0
  | .world _ => True

instance (c : Calls) (e : Move) : Decidable (OneAtATime c e) := by
  unfold OneAtATime
  split <;> infer_instance

inductive Effect (m : Manager) :
    Option (String × Nat) → List Stage → List Stage → Manager → Prop where
  | quiet : Effect m none [] [] m
  | enable : Effect m none [] [.storing m.next] { m with next := m.next + 1 }
  | store (key : String) (ch : Nat) : Effect m none [.storing ch] [] (m.store key ch)
  | decide (key : String) (ch : Nat) :
      Effect m (some (key, ch)) [] [.closing ch, .stopping key] m
  | close (ch : Nat) : Effect m none [.closing ch] [] (m.close ch)
  | delete (key : String) : Effect m none [.stopping key] [] (m.delete key)

def Moves (before lost gained after : List Stage) : Prop :=
  ∀ st, after.count st + lost.count st = before.count st + gained.count st

theorem moves_refl (before : List Stage) : Moves before [] [] before := by
  intro st
  rfl

theorem moves_swap (lost gained : List Stage) : Moves lost lost gained gained := by
  intro st
  exact Nat.add_comm _ _

theorem stopInformer_effect {m n : Manager} {key : String} {pc next : StopPc}
    (ran : stopInformer m key pc = some (n, next)) :
    ∃ lost gained, Effect m (loads m (key, pc)) lost gained n ∧
      Moves (stopStages key pc) lost gained (stopStages key next) := by
  cases pc with
  | load =>
    simp only [stopInformer] at ran
    cases found : m.informers key with
    | none =>
      rw [found] at ran
      cases ran
      simp only [loads, found, Option.map_none]
      exact ⟨_, _, .quiet, moves_refl _⟩
    | some ch =>
      rw [found] at ran
      cases ran
      simp only [loads, found, Option.map_some]
      exact ⟨_, _, .decide key ch, moves_swap _ _⟩
  | close ch =>
    cases ran
    refine ⟨_, _, .close ch, ?_⟩
    intro st
    simp only [stopStages, List.count_cons, List.count_nil]
    omega
  | delete =>
    cases ran
    exact ⟨_, _, .delete key, moves_swap _ _⟩
  | returned err => cases ran

theorem count_workerStages (workers : List Worker) (st : Stage) :
    (workerStages workers).count st =
      (workers.map fun w => (stopStages w.1 w.2).count st).sum :=
  List.count_flatMap

theorem stopWorker_effect {m n : Manager} {workers after : List Worker} {j : Nat}
    (ran : stopWorker m workers j = some (n, after)) :
    ∃ lost gained, Effect m (workers[j]?.bind (loads m)) lost gained n ∧
      Moves (workerStages workers) lost gained (workerStages after) := by
  unfold stopWorker at ran
  split at ran
  · simp at ran
  · rename_i w found
    obtain ⟨key, before⟩ := w
    obtain ⟨⟨u, pc⟩, inner, same⟩ := Option.map_eq_some_iff.mp ran
    cases same
    obtain ⟨lost, gained, effect, moves⟩ := stopInformer_effect inner
    rw [found, Option.bind_some]
    refine ⟨lost, gained, effect, ?_⟩
    intro st
    have own := moves st
    have moved := sum_set (m := (key, pc)) (fun w : Worker => (stopStages w.1 w.2).count st) found
    rw [count_workerStages, count_workerStages]
    dsimp only at own moved ⊢
    omega

theorem add_effect {m n : Manager} {req : RequestWatch} {pc next : AddPc} {a : Answer}
    (ran : add m req pc a = some (n, next)) :
    ∃ lost gained, Effect m (decides m (.add req pc) a) lost gained n ∧
      Moves (stages (.add req pc)) lost gained (stages (.add req next)) := by
  unfold add at ran
  split at ran
  · cases ran
    split <;> exact ⟨_, _, .quiet, moves_refl _⟩
  · cases ran
    exact ⟨_, _, .quiet, moves_refl _⟩
  · cases ran
    exact ⟨_, _, .quiet, moves_refl _⟩
  · cases ran
    exact ⟨_, _, .enable, moves_swap _ _⟩
  · cases ran
    exact ⟨_, _, .quiet, moves_refl _⟩
  · cases ran
    exact ⟨_, _, .store _ _, moves_swap _ _⟩
  · cases ran
    exact ⟨_, _, .quiet, moves_refl _⟩
  · cases ran
    exact ⟨_, _, .decide _ _, moves_swap _ _⟩
  · split at ran
    · cases ran
      exact ⟨_, _, .decide _ _, moves_swap _ _⟩
    · simp at ran
  · cases ran
    refine ⟨_, _, .close _, ?_⟩
    intro st
    simp only [stages, List.count_cons, List.count_nil]
    omega
  · cases ran
    exact ⟨_, _, .delete _, moves_swap _ _⟩
  · simp at ran

theorem visit_stages (crdName ns key : String) (workers : List Worker) :
    workerStages (if belongsTo crdName ns key then workers ++ [(key, .load)] else workers) =
      workerStages workers := by
  split <;> simp [workerStages, stopStages]

theorem done_stages {workers : List Worker} (done : workers.all workerDone = true) :
    workerStages workers = [] := by
  unfold workerStages
  rw [List.flatMap_eq_nil_iff]
  intro w member
  obtain ⟨key, pc⟩ := w
  have returned := List.all_eq_true.mp done _ member
  cases pc with
  | returned err => rfl
  | _ => cases returned

theorem stopForCRD_effect {m n : Manager} {crdName ns : String} {pc next : StopForCRDPc}
    {a : Answer} (ran : stopForCRD m crdName ns pc a = some (n, next)) :
    ∃ lost gained, Effect m (decides m (.stopForCRD crdName ns pc) a) lost gained n ∧
      Moves (stages (.stopForCRD crdName ns pc)) lost gained
        (stages (.stopForCRD crdName ns next)) := by
  unfold stopForCRD at ran
  split at ran
  · split at ran
    · cases ran
      simp only [stages, visit_stages]
      exact ⟨_, _, .quiet, moves_refl _⟩
    · simp at ran
  · obtain ⟨⟨u, after⟩, inner, same⟩ := Option.map_eq_some_iff.mp ran
    cases same
    exact stopWorker_effect inner
  · cases ran
    exact ⟨_, _, .quiet, moves_refl _⟩
  · obtain ⟨⟨u, after⟩, inner, same⟩ := Option.map_eq_some_iff.mp ran
    cases same
    exact stopWorker_effect inner
  · split at ran
    · rename_i done
      cases ran
      simp only [stages, done_stages done]
      exact ⟨_, _, .quiet, moves_refl _⟩
    · simp at ran
  · simp at ran

theorem exec_effect {m n : Manager} {l k : Call} {a : Answer} (ran : exec m l a = some (n, k)) :
    ∃ lost gained, Effect m (decides m l a) lost gained n ∧
      Moves (stages l) lost gained (stages k) := by
  unfold exec at ran
  split at ran
  · obtain ⟨⟨u, next⟩, inner, same⟩ := Option.map_eq_some_iff.mp ran
    cases same
    exact add_effect inner
  · obtain ⟨⟨u, next⟩, inner, same⟩ := Option.map_eq_some_iff.mp ran
    cases same
    exact stopInformer_effect inner
  · obtain ⟨⟨u, next⟩, inner, same⟩ := Option.map_eq_some_iff.mp ran
    cases same
    exact stopForCRD_effect inner
  · simp at ran

theorem close_closes (m : Manager) (ch d : Nat) :
    (m.close ch).closes d = m.closes d + if ch = d then 1 else 0 := by
  by_cases same : ch = d
  · subst same
    simp [Manager.close]
  · have other : d ≠ ch := fun equal => same equal.symm
    simp [Manager.close, Function.update_of_ne other, same]

/-- Of the channels and keys: a channel that is not stored yet is known to its Add only, a
    channel in the map that is closed or about to be has a call at work on its key, and no
    channel is closed, or about to be, twice. -/
structure Sound (m : Manager) (n : Stage → Nat) : Prop where
  fresh : ∀ ch, m.next ≤ ch → n (.storing ch) = 0 ∧ m.closes ch + n (.closing ch) = 0 ∧
    ∀ key, m.informers key ≠ some ch
  unstored : ∀ ch, 0 < n (.storing ch) → n (.storing ch) = 1 ∧
    m.closes ch + n (.closing ch) = 0 ∧ ∀ key, m.informers key ≠ some ch
  oneKey : ∀ k₁ k₂ ch, m.informers k₁ = some ch → m.informers k₂ = some ch → k₁ = k₂
  busy : ∀ key ch, m.informers key = some ch → 0 < m.closes ch + n (.closing ch) →
    0 < n (.stopping key)
  once : ∀ ch, m.closes ch + n (.closing ch) ≤ 1

theorem store_held {m : Manager} {key q : String} {ch d : Nat}
    (held : (m.store key ch).informers q = some d) :
    (q = key ∧ d = ch) ∨ m.informers q = some d := by
  simp only [Manager.store, Function.update_apply] at held
  split at held
  · rename_i same
    exact .inl ⟨same, (Option.some.inj held).symm⟩
  · exact .inr held

theorem store_absent {m : Manager} {ch d : Nat} (other : ch ≠ d)
    (absent : ∀ q, m.informers q ≠ some d) (key q : String) :
    (m.store key ch).informers q ≠ some d := by
  intro held
  rcases store_held held with ⟨-, same⟩ | old
  · exact other same.symm
  · exact absent q old

section Sound
variable {m : Manager} {n k : Stage → Nat} (sound : Sound m n)
include sound

theorem sound_enable (flow : ∀ st, k st = n st + [Stage.storing m.next].count st) :
    Sound { m with next := m.next + 1 } k := by
  have storing : ∀ ch, k (.storing ch) = n (.storing ch) + if m.next = ch then 1 else 0 := by
    intro ch
    simpa [List.count_singleton] using flow (.storing ch)
  have closing : ∀ ch, k (.closing ch) = n (.closing ch) := by
    intro ch
    simpa using flow (.closing ch)
  have stopping : ∀ key, k (.stopping key) = n (.stopping key) := by
    intro key
    simpa using flow (.stopping key)
  constructor
  · intro ch above
    have later : m.next + 1 ≤ ch := above
    obtain ⟨none_storing, unclosed, absent⟩ := sound.fresh ch (by omega)
    rw [storing, closing, if_neg (by omega)]
    exact ⟨by omega, unclosed, absent⟩
  · intro ch some_storing
    rw [storing] at some_storing ⊢
    rw [closing]
    by_cases new : m.next = ch
    · obtain ⟨none_storing, unclosed, absent⟩ := sound.fresh ch (by omega)
      rw [if_pos new]
      exact ⟨by omega, unclosed, absent⟩
    · rw [if_neg new] at some_storing ⊢
      exact sound.unstored ch some_storing
  · exact sound.oneKey
  · intro key ch held
    rw [closing, stopping]
    exact sound.busy key ch held
  · intro ch
    rw [closing]
    exact sound.once ch

theorem sound_store {key : String} {ch : Nat}
    (flow : ∀ st, k st + [Stage.storing ch].count st = n st) : Sound (m.store key ch) k := by
  have storing : ∀ d, k (.storing d) + (if ch = d then 1 else 0) = n (.storing d) := by
    intro d
    simpa [List.count_singleton] using flow (.storing d)
  have closing : ∀ d, k (.closing d) = n (.closing d) := by
    intro d
    simpa using flow (.closing d)
  have stopping : ∀ key, k (.stopping key) = n (.stopping key) := by
    intro key
    simpa using flow (.stopping key)
  -- the channel is its Add's alone until this step
  have mine := storing ch
  rw [if_pos rfl] at mine
  obtain ⟨single, unclosed, absent⟩ := sound.unstored ch (by omega)
  constructor
  · intro d above
    have below : ch ≠ d := by
      intro equal
      subst equal
      have none_storing := (sound.fresh ch above).1
      omega
    obtain ⟨none_storing, unclosed, absent⟩ := sound.fresh d above
    have here := storing d
    rw [if_neg below] at here
    exact ⟨by omega, by rw [closing]; exact unclosed, store_absent below absent key⟩
  · intro d some_storing
    have here := storing d
    have other : ch ≠ d := by
      intro equal
      subst equal
      omega
    rw [if_neg other] at here
    obtain ⟨single, unclosed, absent⟩ := sound.unstored d (by omega)
    exact ⟨by omega, by rw [closing]; exact unclosed, store_absent other absent key⟩
  · intro q r d at_q at_r
    rcases store_held at_q with ⟨left, same⟩ | old
    · rcases store_held at_r with ⟨right, -⟩ | older
      · rw [left, right]
      · exact absurd (same ▸ older) (absent r)
    · rcases store_held at_r with ⟨-, same⟩ | older
      · exact absurd (same ▸ old) (absent q)
      · exact sound.oneKey q r d old older
  · intro q d held closed
    rw [closing] at closed
    rw [stopping]
    rcases store_held held with ⟨-, same⟩ | old
    · subst same
      have zero : m.closes d + n (.closing d) = 0 := unclosed
      have some_closed : 0 < m.closes d + n (.closing d) := closed
      omega
    · exact sound.busy q d old closed
  · intro d
    rw [closing]
    exact sound.once d

theorem sound_decide {key : String} {ch : Nat} (held : m.informers key = some ch)
    (idle : n (.stopping key) = 0)
    (flow : ∀ st, k st = n st + [Stage.closing ch, Stage.stopping key].count st) : Sound m k := by
  have storing : ∀ d, k (.storing d) = n (.storing d) := by
    intro d
    simpa using flow (.storing d)
  have closing : ∀ d, k (.closing d) = n (.closing d) + if ch = d then 1 else 0 := by
    intro d
    simpa [List.count_cons] using flow (.closing d)
  have stopping : ∀ q, k (.stopping q) = n (.stopping q) + if key = q then 1 else 0 := by
    intro q
    simpa [List.count_cons] using flow (.stopping q)
  -- a channel in the map with nobody at work on its key is open and undecided
  have untouched : m.closes ch + n (.closing ch) = 0 := by
    by_contra touched
    have working := sound.busy key ch held (by omega)
    omega
  constructor
  · intro d above
    obtain ⟨none_storing, unclosed, absent⟩ := sound.fresh d above
    have other : ch ≠ d := by
      intro equal
      subst equal
      exact absent key held
    rw [storing, closing, if_neg other]
    exact ⟨none_storing, unclosed, absent⟩
  · intro d some_storing
    rw [storing] at some_storing ⊢
    obtain ⟨single, unclosed, absent⟩ := sound.unstored d some_storing
    have other : ch ≠ d := by
      intro equal
      subst equal
      exact absent key held
    rw [closing, if_neg other]
    exact ⟨single, unclosed, absent⟩
  · exact sound.oneKey
  · intro q d at_q closed
    rw [closing] at closed
    rw [stopping]
    by_cases same : ch = d
    · subst same
      rw [if_pos (sound.oneKey key q ch held at_q)]
      omega
    · rw [if_neg same] at closed
      have working := sound.busy q d at_q closed
      omega
  · intro d
    rw [closing]
    by_cases same : ch = d
    · subst same
      rw [if_pos rfl]
      omega
    · rw [if_neg same]
      exact sound.once d

theorem sound_close {ch : Nat} (flow : ∀ st, k st + [Stage.closing ch].count st = n st) :
    Sound (m.close ch) k := by
  have storing : ∀ d, k (.storing d) = n (.storing d) := by
    intro d
    simpa using flow (.storing d)
  have stopping : ∀ q, k (.stopping q) = n (.stopping q) := by
    intro q
    simpa using flow (.stopping q)
  have both : ∀ d, (m.close ch).closes d + k (.closing d) = m.closes d + n (.closing d) := by
    intro d
    have moved : k (.closing d) + (if ch = d then 1 else 0) = n (.closing d) := by
      simpa [List.count_singleton] using flow (.closing d)
    rw [close_closes]
    omega
  constructor
  · intro d above
    rw [storing, both]
    exact sound.fresh d above
  · intro d some_storing
    rw [storing] at some_storing ⊢
    rw [both]
    exact sound.unstored d some_storing
  · exact sound.oneKey
  · intro q d at_q
    rw [both, stopping]
    exact sound.busy q d at_q
  · intro d
    rw [both]
    exact sound.once d

theorem sound_delete {key : String} (flow : ∀ st, k st + [Stage.stopping key].count st = n st) :
    Sound (m.delete key) k := by
  have storing : ∀ d, k (.storing d) = n (.storing d) := by
    intro d
    simpa using flow (.storing d)
  have closing : ∀ d, k (.closing d) = n (.closing d) := by
    intro d
    simpa using flow (.closing d)
  have kept : ∀ q d, (m.delete key).informers q = some d → q ≠ key ∧ m.informers q = some d := by
    intro q d held
    by_cases same : q = key
    · subst same
      simp [Manager.delete] at held
    · simp only [Manager.delete, Function.update_of_ne same] at held
      exact ⟨same, held⟩
  constructor
  · intro d above
    rw [storing, closing]
    obtain ⟨none_storing, unclosed, absent⟩ := sound.fresh d above
    exact ⟨none_storing, unclosed, fun q held => absent q (kept q d held).2⟩
  · intro d some_storing
    rw [storing] at some_storing ⊢
    rw [closing]
    obtain ⟨single, unclosed, absent⟩ := sound.unstored d some_storing
    exact ⟨single, unclosed, fun q held => absent q (kept q d held).2⟩
  · intro q r d at_q at_r
    exact sound.oneKey q r d (kept q d at_q).2 (kept r d at_r).2
  · intro q d at_q closed
    obtain ⟨other, held⟩ := kept q d at_q
    rw [closing] at closed
    have same : k (.stopping q) = n (.stopping q) := by
      simpa [List.count_singleton, other.symm] using flow (.stopping q)
    rw [same]
    exact sound.busy q d held closed
  · intro d
    rw [closing]
    exact sound.once d

theorem sound_effect {decided : Option (String × Nat)} {lost gained : List Stage} {m' : Manager}
    (effect : Effect m decided lost gained m')
    (meets : ∀ r ∈ decided, m.informers r.1 = some r.2 ∧ n (.stopping r.1) = 0)
    (flow : ∀ st, k st + lost.count st = n st + gained.count st) : Sound m' k := by
  cases effect with
  | quiet =>
    have same : k = n := funext flow
    rw [same]
    exact sound
  | enable => exact sound_enable sound flow
  | store key ch => exact sound_store sound flow
  | decide key ch =>
    obtain ⟨held, idle⟩ := meets (key, ch) rfl
    exact sound_decide sound held idle flow
  | close ch => exact sound_close sound flow
  | delete key => exact sound_delete sound flow

end Sound

theorem sound_step (c : Calls) (e : Move) (d : Calls) (sound : Sound c.shared (total c.threads))
    (meets : OneAtATime c e) (move : callStep c e = some d) :
    Sound d.shared (total d.threads) := by
  cases e with
  | thread i a =>
    obtain ⟨l, m, k, here, ran, rfl⟩ := step_thread move
    obtain ⟨lost, gained, effect, moves⟩ := exec_effect ran
    apply sound_effect sound effect (meets l here)
    intro st
    have own := moves st
    have moved := sum_set (m := k) (fun l => (stages l).count st) here
    unfold total
    dsimp only at moved ⊢
    omega
  | world e => exact e.elim

def fresh : Call → Bool
  | .add _ .load | .stopInformer _ .load | .stopForCRD _ _ (.ranging [] []) => true
  | _ => false

theorem fresh_stages {l : Call} (begun : fresh l = true) : stages l = [] := by
  unfold fresh at begun
  split at begun <;> first | rfl | contradiction

theorem sound_start {calls : List Call} (begun : ∀ l ∈ calls, fresh l = true) :
    Sound newManager (total calls) := by
  have none_at : ∀ st, total calls st = 0 := by
    intro st
    unfold total
    rw [List.sum_eq_zero_iff]
    intro x member
    obtain ⟨l, found, rfl⟩ := List.mem_map.mp member
    rw [fresh_stages (begun l found)]
    rfl
  constructor <;> simp [none_at, newManager]

/-- Calls on a manager without informers close no stop channel twice, when a call decides to
    close one only while the map holds it and nobody else is at work on its key. -/
theorem closed_at_most_once (calls : List Call) (begun : ∀ l ∈ calls, fresh l = true)
    (c : Calls) (reach : Reach callStep OneAtATime ⟨newManager, calls⟩ c) (ch : Nat) :
    c.shared.closes ch ≤ 1 := by
  have start : Sound newManager (total calls) := sound_start begun
  have sound := reach_invariant (fun c : Calls => Sound c.shared (total c.threads)) start
    sound_step reach
  have once := sound.once ch
  omega

def cartService : RequestWatch := ⟨"cart-es", "shop", "services", "cart"⟩

def untilSync : List Move := List.replicate 4 (.thread 0 .ok)

def stopThenCut : List Move :=
  [.thread 1 (.visit "cart-es/shop/services/cart"), .thread 1 (.worker 0), .thread 1 (.worker 0),
    .thread 0 .cut, .thread 0 .ok]

def addAndStop : List Call :=
  [.add cartService .load, .stopForCRD "cart-es" "shop" (.ranging [] [])]

def stopAfterSync : List Move :=
  untilSync ++ [.thread 1 (.visit "cart-es/shop/services/cart"), .thread 1 (.worker 0),
    .thread 0 .ok, .thread 1 (.worker 0), .thread 1 .ok, .thread 1 (.worker 0), .thread 1 .ok]

theorem stop_after_sync_closes_once :
    ∃ c, Reach callStep OneAtATime ⟨newManager, addAndStop⟩ c ∧
      c.threads = [.add cartService (.returned none), .stopForCRD "cart-es" "shop" .returned] ∧
      c.shared.closes 0 = 1 ∧ ∀ ch, c.shared.closes ch ≤ 1 := by
  have ends : ∃ c, Reach callStep OneAtATime ⟨newManager, addAndStop⟩ c ∧
      c.threads = [.add cartService (.returned none), .stopForCRD "cart-es" "shop" .returned] ∧
      c.shared.closes 0 = 1 := reaches_of_guardedRun stopAfterSync (by decide +kernel)
  obtain ⟨c, reach, returned, closed⟩ := ends
  exact ⟨c, reach, returned, closed, closed_at_most_once addAndStop (by decide) c reach⟩

/-- StopForCRD closes the channel of an Add that waits for its sync; the wait ends because of
    it, and Add closes the channel again. -/
theorem stop_during_sync_closes_twice :
    ∃ c, Reach callStep Unguarded ⟨newManager, addAndStop⟩ c ∧ c.shared.closes 0 = 2 := by
  exact reaches_of_run (untilSync ++ stopThenCut) (by decide +kernel)

end InformerManager
