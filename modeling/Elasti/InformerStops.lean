import Elasti.InformerKeys
import Elasti.ThreadPool

/- StopForCRD on the registered informers. Its range starts a goroutine for every key; the ones
   whose key starts right derive it once more from the request and stop the informer under that,
   all at the same time. No other call runs. -/
namespace InformerStops
open GuardedRuns ThreadPool InformerKeys SecondaryIndex
open InformerManager (getKeyFromRequestWatch belongsTo)
open V1Alpha1 (ElastiServiceSpec ScaleTargetRef getScaleTargetRef kindToResource)
open Reconciler (Request TargetWatch targetKey targetRequest)

structure Info where
  req : TargetWatch
  stopCh : Nat
  deriving DecidableEq, Repr

def Info.key (info : Info) : String := getKeyFromRequestWatch info.req.toRequestWatch

/-- The stop channels are numbers, handed out in order; closing one twice panics. -/
structure Manager where
  informers : AList fun _ : String => Info
  closed : List Nat
  next : Nat

def newManager : Manager := ⟨∅, [], 0⟩

def add (m : Manager) (req : TargetWatch) : Manager :=
  let key := getKeyFromRequestWatch req.toRequestWatch
  match m.informers.lookup key with
  | some _ => m
  | none => ⟨m.informers.insert key ⟨req, m.next⟩, m.closed, m.next + 1⟩

inductive WorkerPc where
  | check
  | load
  | close (ch : Nat)
  | delete
  | done (err : Option String)
  | panicked
  deriving DecidableEq, Repr

def WorkerPc.isDone : WorkerPc → Bool
  | .done _ => true
  | _ => false

structure Worker where
  key : String
  info : Info
  pc : WorkerPc
  deriving DecidableEq, Repr

inductive Phase where
  | ranging
  | waiting
  | returned
  deriving DecidableEq, Repr

structure Stopping where
  manager : Manager
  workers : List Worker
  phase : Phase

inductive Move where
  | visit (key : String)
  | rangeEnds
  | worker (j : Nat)
  | wait

section StopForCRD
variable (crdName ns : String)

def workerStep (m : Manager) (w : Worker) : Option (Manager × WorkerPc) :=
  match w.pc with
  | .check => some (m, if belongsTo crdName ns w.key then .load else .done none)
  | .load =>
    match m.informers.lookup w.info.key with
    | none => some (m, .done (some ("informer not found, already stopped for key: " ++ w.info.key)))
    | some found => some (m, .close found.stopCh)
  | .close ch =>
    if ch ∈ m.closed then some (m, .panicked)
    else some ({ m with closed := ch :: m.closed }, .delete)
  | .delete => some ({ m with informers := m.informers.erase w.info.key }, .done none)
  | .done _ => none
  | .panicked => none

def visited (s : Stopping) : List String := s.workers.map Worker.key

/-- The range visits each key of the map once, and ends when none is left. -/
def step (s : Stopping) : Move → Option Stopping
  | .visit key =>
    match s.phase, s.manager.informers.lookup key with
    | .ranging, some info =>
      if key ∈ visited s then none
      else some { s with workers := s.workers ++ [⟨key, info, .check⟩] }
    | _, _ => none
  | .rangeEnds =>
    if s.phase = .ranging ∧ ∀ key ∈ s.manager.informers.keys, key ∈ visited s then
      some { s with phase := .waiting }
    else none
  | .worker j =>
    match s.workers[j]? with
    | none => none
    | some w =>
      (workerStep crdName ns s.manager w).map fun r =>
        { s with manager := r.1, workers := s.workers.set j { w with pc := r.2 } }
  | .wait =>
    if s.phase = .waiting ∧ ∀ w ∈ s.workers, w.pc.isDone then some { s with phase := .returned }
    else none

end StopForCRD

def begin (m : Manager) : Stopping := ⟨m, [], .ranging⟩

structure Registered (m : Manager) : Prop where
  keyed : ∀ key info, m.informers.lookup key = some info → key = info.key
  plain : ∀ key info, m.informers.lookup key = some info → PlainRequest info.req.toRequestWatch
  running : ∀ key info, m.informers.lookup key = some info → info.stopCh ∉ m.closed
  apart : ∀ key key' info info', m.informers.lookup key = some info →
    m.informers.lookup key' = some info' → info.stopCh = info'.stopCh → key = key'
  below : ∀ key info, m.informers.lookup key = some info → info.stopCh < m.next
  spent : ∀ ch ∈ m.closed, ch < m.next

theorem registered_new : Registered newManager := by
  constructor
  all_goals intros
  all_goals simp_all [newManager]

theorem add_cases (m : Manager) (req : TargetWatch) :
    (∃ info, m.informers.lookup (getKeyFromRequestWatch req.toRequestWatch) = some info) ∧
        add m req = m ∨
      m.informers.lookup (getKeyFromRequestWatch req.toRequestWatch) = none ∧
        add m req = ⟨m.informers.insert (getKeyFromRequestWatch req.toRequestWatch) ⟨req, m.next⟩,
          m.closed, m.next + 1⟩ := by
  cases found : m.informers.lookup (getKeyFromRequestWatch req.toRequestWatch) with
  | some info => exact .inl ⟨⟨info, rfl⟩, by simp [add, found]⟩
  | none => exact .inr ⟨rfl, by simp [add, found]⟩

theorem registered_add {m : Manager} (registered : Registered m) {req : TargetWatch}
    (plain : PlainRequest req.toRequestWatch) : Registered (add m req) := by
  rcases add_cases m req with ⟨_, same⟩ | ⟨_, added⟩
  · rw [same]
    exact registered
  · rw [added]
    -- an entry of the new map is the new one, or was there before
    have entry {key : String} {info : Info}
        (found : (m.informers.insert (getKeyFromRequestWatch req.toRequestWatch)
          ⟨req, m.next⟩).lookup key = some info) :
        key = getKeyFromRequestWatch req.toRequestWatch ∧ info = ⟨req, m.next⟩ ∨
          m.informers.lookup key = some info := by
      rw [lookup_insert_ite] at found
      split at found
      · rename_i same
        cases found
        exact .inl ⟨same, rfl⟩
      · exact .inr found
    constructor
    · intro key info found
      rcases entry found with ⟨same, rfl⟩ | before
      · exact same
      · exact registered.keyed key info before
    · intro key info found
      rcases entry found with ⟨_, rfl⟩ | before
      · exact plain
      · exact registered.plain key info before
    · intro key info found
      rcases entry found with ⟨_, rfl⟩ | before
      · exact fun closed => Nat.lt_irrefl _ (registered.spent m.next closed)
      · exact registered.running key info before
    · intro key key' info info' found found' same
      rcases entry found with ⟨here, rfl⟩ | before
      · rcases entry found' with ⟨there, rfl⟩ | before'
        · rw [here, there]
        · exact absurd same (Nat.ne_of_gt (registered.below key' info' before'))
      · rcases entry found' with ⟨there, rfl⟩ | before'
        · exact absurd same (Nat.ne_of_lt (registered.below key info before))
        · exact registered.apart key key' info info' before before' same
    · intro key info found
      rcases entry found with ⟨_, rfl⟩ | before
      · exact Nat.lt_succ_self m.next
      · exact Nat.lt_succ_of_lt (registered.below key info before)
    · intro ch closed
      exact Nat.lt_succ_of_lt (registered.spent ch closed)

section Runs
variable (crdName ns : String)

def Closed (w : Worker) : Prop :=
  belongsTo crdName ns w.key = true ∧ (w.pc = .delete ∨ w.pc.isDone = true)

def Gone (w : Worker) : Prop := belongsTo crdName ns w.key = true ∧ w.pc.isDone = true

def Staged (w : Worker) : Prop :=
  match w.pc with
  | .check => True
  | .load | .delete => belongsTo crdName ns w.key = true
  | .close ch => belongsTo crdName ns w.key = true ∧ ch = w.info.stopCh
  | .done err => err = none
  | .panicked => False

/-- How the state of a run stands to the map it began with: each goroutine has done to its own
    informer what its place in the code says, and nothing else was done. -/
structure Traced (m : Manager) (s : Stopping) : Prop where
  once : (visited s).Nodup
  captured : ∀ w ∈ s.workers, m.informers.lookup w.key = some w.info
  staged : ∀ w ∈ s.workers, Staged crdName ns w
  entries : ∀ key info, s.manager.informers.lookup key = some info ↔
    m.informers.lookup key = some info ∧ ¬ ∃ w ∈ s.workers, w.key = key ∧ Gone crdName ns w
  channels : ∀ ch, ch ∈ s.manager.closed ↔
    ch ∈ m.closed ∨ ∃ w ∈ s.workers, Closed crdName ns w ∧ w.info.stopCh = ch
  ranged : s.phase ≠ .ranging → ∀ key info, m.informers.lookup key = some info → key ∈ visited s
  ended : s.phase = .returned → ∀ w ∈ s.workers, w.pc.isDone = true
  counter : s.manager.next = m.next

theorem traced_begin (m : Manager) : Traced crdName ns m (begin m) := by
  constructor
  · exact List.nodup_nil
  · intro w member
    cases member
  · intro w member
    cases member
  · intro key info
    simp [begin]
  · intro ch
    simp [begin]
  · intro ended
    exact absurd rfl ended
  · intro ended
    cases ended
  · rfl

inductive Effect (m : Manager) (w : Worker) : Manager → WorkerPc → Prop where
  | passes (other : belongsTo crdName ns w.key = false) (at_pc : w.pc = .check) :
      Effect m w m (.done none)
  | selects (own : belongsTo crdName ns w.key = true) (at_pc : w.pc = .check) : Effect m w m .load
  | loads (own : belongsTo crdName ns w.key = true) (at_pc : w.pc = .load) :
      Effect m w m (.close w.info.stopCh)
  | closes (own : belongsTo crdName ns w.key = true) (at_pc : w.pc = .close w.info.stopCh) :
      Effect m w { m with closed := w.info.stopCh :: m.closed } .delete
  | deletes (own : belongsTo crdName ns w.key = true) (at_pc : w.pc = .delete) :
      Effect m w { m with informers := m.informers.erase w.key } (.done none)

variable {crdName ns}

theorem Traced.same_worker {m : Manager} {s : Stopping} (traced : Traced crdName ns m s)
    {v w : Worker} (first : v ∈ s.workers) (second : w ∈ s.workers) (same : v.key = w.key) :
    v = w := List.inj_on_of_nodup_map traced.once first second same

theorem Traced.entry {m : Manager} {s : Stopping} (traced : Traced crdName ns m s) {w : Worker}
    (member : w ∈ s.workers) (busy : w.pc.isDone = false) :
    s.manager.informers.lookup w.key = some w.info := by
  rw [traced.entries]
  refine ⟨traced.captured w member, ?_⟩
  rintro ⟨v, other, same, _, ended⟩
  rw [traced.same_worker other member same, busy] at ended
  cases ended

theorem workerStep_effect {m : Manager} {s : Stopping} (registered : Registered m)
    (traced : Traced crdName ns m s) {w : Worker} (member : w ∈ s.workers) {n : Manager}
    {pc : WorkerPc} (ran : workerStep crdName ns s.manager w = some (n, pc)) :
    Effect crdName ns s.manager w n pc := by
  have entry := traced.captured w member
  have key : w.info.key = w.key := (registered.keyed w.key w.info entry).symm
  have staged := traced.staged w member
  rw [workerStep] at ran
  rw [Staged] at staged
  cases at_pc : w.pc with
  | check =>
    rw [at_pc] at ran
    cases own : belongsTo crdName ns w.key with
    | true =>
      simp only [own, if_true] at ran
      cases ran
      exact .selects own at_pc
    | false =>
      simp only [own, Bool.false_eq_true, if_false] at ran
      cases ran
      exact .passes own at_pc
  | load =>
    rw [at_pc] at ran staged
    have here : s.manager.informers.lookup w.info.key = some w.info := by
      rw [key]
      exact traced.entry member (by rw [at_pc]; rfl)
    simp only [here] at ran
    cases ran
    exact .loads staged at_pc
  | close ch =>
    rw [at_pc] at ran staged
    obtain ⟨own, rfl⟩ := staged
    -- nobody else has its channel
    have open_channel : w.info.stopCh ∉ s.manager.closed := by
      rw [traced.channels]
      rintro (before | ⟨v, other, ⟨_, stage⟩, same⟩)
      · exact registered.running w.key w.info entry before
      · have again := registered.apart v.key w.key v.info w.info (traced.captured v other) entry same
        rw [traced.same_worker other member again, at_pc] at stage
        rcases stage with deleting | ended
        · cases deleting
        · cases ended
    simp only [open_channel, if_false] at ran
    cases ran
    exact .closes own at_pc
  | delete =>
    rw [at_pc] at ran staged
    simp only [key] at ran
    cases ran
    exact .deletes staged at_pc
  | done err =>
    rw [at_pc] at ran
    cases ran
  | panicked =>
    rw [at_pc] at ran
    cases ran

theorem Effect.not_done {m n : Manager} {w : Worker} {pc : WorkerPc}
    (effect : Effect crdName ns m w n pc) : w.pc.isDone = false := by
  cases effect <;> rename_i at_pc <;> rw [at_pc] <;> rfl

theorem Effect.staged {m n : Manager} {w : Worker} {pc : WorkerPc}
    (effect : Effect crdName ns m w n pc) : Staged crdName ns { w with pc := pc } := by
  cases effect with
  | passes other at_pc => rfl
  | selects own at_pc => exact own
  | loads own at_pc => exact ⟨own, rfl⟩
  | closes own at_pc => exact own
  | deletes own at_pc => rfl

theorem Effect.counter {m n : Manager} {w : Worker} {pc : WorkerPc}
    (effect : Effect crdName ns m w n pc) : n.next = m.next := by
  cases effect <;> rfl

theorem Effect.entries {m n : Manager} {w : Worker} {pc : WorkerPc}
    (effect : Effect crdName ns m w n pc) :
    n.informers = m.informers ∧ ¬ Gone crdName ns { w with pc := pc } ∨
      n.informers = m.informers.erase w.key ∧ Gone crdName ns { w with pc := pc } := by
  cases effect with
  | passes other at_pc => exact .inl ⟨rfl, fun gone => Bool.false_ne_true (other.symm.trans gone.1)⟩
  | selects own at_pc => exact .inl ⟨rfl, fun gone => by cases gone.2⟩
  | loads own at_pc => exact .inl ⟨rfl, fun gone => by cases gone.2⟩
  | closes own at_pc => exact .inl ⟨rfl, fun gone => by cases gone.2⟩
  | deletes own at_pc => exact .inr ⟨rfl, own, rfl⟩

theorem Effect.channels {m n : Manager} {w : Worker} {pc : WorkerPc}
    (effect : Effect crdName ns m w n pc) :
    n.closed = m.closed ∧ (Closed crdName ns { w with pc := pc } ↔ Closed crdName ns w) ∨
      n.closed = w.info.stopCh :: m.closed ∧ Closed crdName ns { w with pc := pc } ∧
        ¬ Closed crdName ns w := by
  cases effect with
  | passes other at_pc => exact .inl ⟨rfl, by simp [Closed, other]⟩
  | selects own at_pc => exact .inl ⟨rfl, by simp [Closed, at_pc, WorkerPc.isDone]⟩
  | loads own at_pc => exact .inl ⟨rfl, by simp [Closed, at_pc, WorkerPc.isDone]⟩
  | closes own at_pc => exact .inr ⟨rfl, ⟨own, .inl rfl⟩, by simp [Closed, at_pc, WorkerPc.isDone]⟩
  | deletes own at_pc => exact .inl ⟨rfl, by simp [Closed, at_pc, WorkerPc.isDone]⟩

theorem visited_set {workers : List Worker} {j : Nat} {w : Worker} (here : workers[j]? = some w)
    (pc : WorkerPc) :
    (workers.set j { w with pc := pc }).map Worker.key = workers.map Worker.key := by
  apply List.ext_getElem?
  intro k
  rw [List.getElem?_map, List.getElem?_map, List.getElem?_set]
  by_cases same : j = k
  · obtain ⟨bound, _⟩ := List.getElem?_eq_some_iff.mp here
    rw [if_pos same, if_pos bound, ← same, here]
    rfl
  · rw [if_neg same]

theorem traced_worker {m : Manager} {s : Stopping} (traced : Traced crdName ns m s) {j : Nat}
    {w : Worker} (here : s.workers[j]? = some w) {n : Manager} {pc : WorkerPc}
    (effect : Effect crdName ns s.manager w n pc) :
    Traced crdName ns m
      { s with manager := n, workers := s.workers.set j { w with pc := pc } } := by
  have member : w ∈ s.workers := List.mem_of_getElem? here
  have same : visited { s with manager := n, workers := s.workers.set j { w with pc := pc } } =
      visited s := visited_set here pc
  constructor
  · rw [same]
    exact traced.once
  · intro v found
    rcases set_member found with rfl | ⟨k, _, there⟩
    · exact traced.captured w member
    · exact traced.captured v (List.mem_of_getElem? there)
  · intro v found
    rcases set_member found with rfl | ⟨k, _, there⟩
    · exact effect.staged
    · exact traced.staged v (List.mem_of_getElem? there)
  · intro key info
    have idle : ¬ (w.key = key ∧ Gone crdName ns w) := by
      rintro ⟨_, _, ended⟩
      rw [effect.not_done] at ended
      cases ended
    rw [exists_set_new here idle]
    have before := traced.entries key info
    rcases effect.entries with ⟨kept, not_gone⟩ | ⟨erased, gone⟩
    · rw [kept, before]
      simp [not_gone]
    · rw [erased, lookup_erase_ite]
      by_cases own : key = w.key
      · simp [own, gone]
      · rw [if_neg own, before]
        simp [Ne.symm own]
  · intro ch
    have before := traced.channels ch
    rcases effect.channels with ⟨kept, stage⟩ | ⟨closed, now, not_yet⟩
    · rw [exists_set_same here (by simp [stage]), kept, before]
    · rw [exists_set_new here (fun both => not_yet both.1), closed, List.mem_cons, before]
      simp only [now, true_and, eq_comm]
      exact or_left_comm
  · intro ranged
    rw [same]
    exact traced.ranged ranged
  · intro returned
    have ended := traced.ended returned w member
    rw [effect.not_done] at ended
    cases ended
  · exact effect.counter.trans traced.counter

theorem traced_visit {m : Manager} {s : Stopping} (traced : Traced crdName ns m s)
    (ranging : s.phase = .ranging) {key : String} {info : Info}
    (found : s.manager.informers.lookup key = some info) (fresh : key ∉ visited s) :
    Traced crdName ns m { s with workers := s.workers ++ [⟨key, info, .check⟩] } := by
  have not_gone : ¬ Gone crdName ns ⟨key, info, .check⟩ := fun gone => by cases gone.2
  have not_closed : ¬ Closed crdName ns ⟨key, info, .check⟩ := by
    rintro ⟨_, deleting | ended⟩
    · cases deleting
    · cases ended
  constructor
  · have longer : visited { s with workers := s.workers ++ [⟨key, info, .check⟩] } =
        visited s ++ [key] := by simp [visited]
    rw [longer, List.nodup_append]
    refine ⟨traced.once, List.nodup_singleton key, ?_⟩
    intro k member k' last
    rw [List.mem_singleton.mp last]
    rintro rfl
    exact fresh member
  · intro w member
    rcases List.mem_append.mp member with before | last
    · exact traced.captured w before
    · rw [List.mem_singleton.mp last]
      exact ((traced.entries key info).mp found).1
  · intro w member
    rcases List.mem_append.mp member with before | last
    · exact traced.staged w before
    · rw [List.mem_singleton.mp last]
      trivial
  · intro k i
    rw [traced.entries]
    simp [not_gone, or_and_right, exists_or]
  · intro ch
    rw [traced.channels]
    simp [not_closed, or_and_right, exists_or]
  · intro ended
    exact absurd ranging ended
  · intro returned
    rw [ranging] at returned
    cases returned
  · exact traced.counter

theorem traced_rangeEnds {m : Manager} {s : Stopping} (traced : Traced crdName ns m s)
    (all : ∀ key ∈ s.manager.informers.keys, key ∈ visited s) :
    Traced crdName ns m { s with phase := .waiting } := by
  refine { traced with ranged := ?_, ended := ?_ }
  · intro _ key info entry
    by_cases gone : ∃ w ∈ s.workers, w.key = key ∧ Gone crdName ns w
    · obtain ⟨w, member, rfl, _⟩ := gone
      exact List.mem_map_of_mem member
    · have here := (traced.entries key info).mpr ⟨entry, gone⟩
      exact all key (AList.lookup_isSome.mp (by rw [here]; rfl))
  · intro returned
    cases returned

theorem traced_wait {m : Manager} {s : Stopping} (traced : Traced crdName ns m s)
    (waiting : s.phase = .waiting) (idle : ∀ w ∈ s.workers, w.pc.isDone = true) :
    Traced crdName ns m { s with phase := .returned } :=
  { traced with
    ranged := fun _ => traced.ranged (by rw [waiting]; decide)
    ended := fun _ => idle }

theorem Traced.count {m : Manager} {s : Stopping} (traced : Traced crdName ns m s) :
    s.workers.length ≤ m.informers.keys.length := by
  have inside : visited s ⊆ m.informers.keys := by
    intro key member
    obtain ⟨w, worker, rfl⟩ := List.mem_map.mp member
    exact AList.lookup_isSome.mp (by rw [traced.captured w worker]; rfl)
  have fits := traced.once.length_le_of_subset inside
  rwa [visited, List.length_map] at fits

def remaining : WorkerPc → Nat
  | .check => 4
  | .load => 3
  | .close _ => 2
  | .delete => 1
  | .done _ => 0
  | .panicked => 0

def phaseWeight : Phase → Nat
  | .ranging => 2
  | .waiting => 1
  | .returned => 0

def weight (m : Manager) (s : Stopping) : Nat :=
  5 * (m.informers.keys.length - s.workers.length) +
    (s.workers.map fun w => remaining w.pc).sum + phaseWeight s.phase

theorem Effect.lighter {m n : Manager} {w : Worker} {pc : WorkerPc}
    (effect : Effect crdName ns m w n pc) : remaining pc < remaining w.pc := by
  cases effect <;> rename_i at_pc <;> rw [at_pc] <;> simp only [remaining] <;> omega

theorem step_cases {s t : Stopping} {a : Move} (move : step crdName ns s a = some t) :
    (∃ key info, s.phase = .ranging ∧ s.manager.informers.lookup key = some info ∧
        key ∉ visited s ∧ t = { s with workers := s.workers ++ [⟨key, info, .check⟩] }) ∨
      (s.phase = .ranging ∧ (∀ key ∈ s.manager.informers.keys, key ∈ visited s) ∧
        t = { s with phase := .waiting }) ∨
      (∃ j w n pc, s.workers[j]? = some w ∧ workerStep crdName ns s.manager w = some (n, pc) ∧
        t = { s with manager := n, workers := s.workers.set j { w with pc := pc } }) ∨
      (s.phase = .waiting ∧ (∀ w ∈ s.workers, w.pc.isDone = true) ∧
        t = { s with phase := .returned }) := by
  cases a with
  | visit key =>
    simp only [step] at move
    split at move
    · rename_i info ranging found
      split at move
      · cases move
      · rename_i fresh
        cases move
        exact .inl ⟨key, info, ranging, found, fresh, rfl⟩
    · cases move
  | rangeEnds =>
    simp only [step] at move
    split at move
    · rename_i all
      cases move
      exact .inr (.inl ⟨all.1, all.2, rfl⟩)
    · cases move
  | worker j =>
    simp only [step] at move
    split at move
    · cases move
    · rename_i w here
      obtain ⟨⟨n, pc⟩, ran, rfl⟩ := Option.map_eq_some_iff.mp move
      exact .inr (.inr (.inl ⟨j, w, n, pc, here, ran, rfl⟩))
  | wait =>
    simp only [step] at move
    split at move
    · rename_i idle
      cases move
      exact .inr (.inr (.inr ⟨idle.1, idle.2, rfl⟩))
    · cases move

theorem traced_step {m : Manager} (registered : Registered m) (s : Stopping) (a : Move)
    (t : Stopping) (traced : Traced crdName ns m s) (move : step crdName ns s a = some t) :
    Traced crdName ns m t ∧ weight m t < weight m s := by
  rcases step_cases move with ⟨key, info, ranging, found, fresh, rfl⟩ | ⟨ranging, all, rfl⟩ |
    ⟨j, w, n, pc, here, ran, rfl⟩ | ⟨waiting, idle, rfl⟩
  · have after := traced_visit traced ranging found fresh
    have room := after.count
    refine ⟨after, ?_⟩
    simp only [List.length_append, List.length_singleton] at room
    simp only [weight, List.length_append, List.length_singleton, List.map_append, List.map_cons,
      List.map_nil, List.sum_append, List.sum_cons, List.sum_nil, remaining]
    omega
  · refine ⟨traced_rangeEnds traced all, ?_⟩
    simp only [weight, ranging, phaseWeight]
    omega
  · have effect := workerStep_effect registered traced (List.mem_of_getElem? here) ran
    have lighter := effect.lighter
    have sum := sum_set (m := { w with pc := pc }) (fun w => remaining w.pc) here
    refine ⟨traced_worker traced here effect, ?_⟩
    simp only [weight, List.length_set]
    dsimp only at sum
    omega
  · refine ⟨traced_wait traced waiting idle, ?_⟩
    simp only [weight, waiting, phaseWeight]
    omega

theorem Traced.no_panic {m : Manager} {s : Stopping} (traced : Traced crdName ns m s) {w : Worker}
    (member : w ∈ s.workers) : w.pc ≠ .panicked := by
  intro panicked
  have staged := traced.staged w member
  rw [Staged, panicked] at staged
  exact staged

theorem workerStep_moves (crdName ns : String) (m : Manager) {w : Worker}
    (busy : w.pc.isDone ≠ true)
    (running : w.pc ≠ .panicked) : ∃ r, workerStep crdName ns m w = some r := by
  rw [workerStep]
  cases at_pc : w.pc with
  | check => exact ⟨_, rfl⟩
  | load =>
    dsimp only
    split
    · exact ⟨_, rfl⟩
    · exact ⟨_, rfl⟩
  | close ch =>
    dsimp only
    split
    · exact ⟨_, rfl⟩
    · exact ⟨_, rfl⟩
  | delete => exact ⟨_, rfl⟩
  | done err =>
    rw [at_pc] at busy
    exact absurd rfl busy
  | panicked => exact absurd at_pc running

theorem progress {m : Manager} {s : Stopping} (traced : Traced crdName ns m s)
    (unfinished : s.phase ≠ .returned) : ∃ a t, step crdName ns s a = some t := by
  -- until StopForCRD has returned, something of it can move
  cases phase : s.phase with
  | ranging =>
    by_cases all : ∀ key ∈ s.manager.informers.keys, key ∈ visited s
    · exact ⟨.rangeEnds, { s with phase := .waiting }, if_pos ⟨phase, all⟩⟩
    · push Not at all
      obtain ⟨key, present, fresh⟩ := all
      obtain ⟨info, found⟩ := Option.isSome_iff_exists.mp (AList.lookup_isSome.mpr present)
      refine ⟨.visit key, { s with workers := s.workers ++ [⟨key, info, .check⟩] }, ?_⟩
      simp [step, phase, found, fresh]
  | waiting =>
    by_cases idle : ∀ w ∈ s.workers, w.pc.isDone = true
    · exact ⟨.wait, { s with phase := .returned }, if_pos ⟨phase, idle⟩⟩
    · push Not at idle
      obtain ⟨w, member, busy⟩ := idle
      obtain ⟨j, here⟩ := List.mem_iff_getElem?.mp member
      obtain ⟨r, ran⟩ := workerStep_moves crdName ns s.manager busy (traced.no_panic member)
      exact ⟨.worker j, _, by simp only [step, here, ran, Option.map_some]; rfl⟩
  | returned => exact absurd phase unfinished

theorem Traced.lookup {m : Manager} {s : Stopping} (traced : Traced crdName ns m s)
    (returned : s.phase = .returned) (key : String) :
    s.manager.informers.lookup key =
      if belongsTo crdName ns key then none else m.informers.lookup key := by
  apply Option.ext
  intro info
  rw [traced.entries]
  split
  · rename_i own
    simp only [reduceCtorEq, iff_false, not_and, not_not]
    intro entry
    have seen := traced.ranged (by rw [returned]; decide) key info entry
    obtain ⟨w, member, rfl⟩ := List.mem_map.mp seen
    exact ⟨w, member, rfl, own, traced.ended returned w member⟩
  · rename_i other
    constructor
    · exact fun both => both.1
    · intro entry
      refine ⟨entry, ?_⟩
      rintro ⟨w, _, rfl, own, _⟩
      exact other own

theorem Traced.closed {m : Manager} {s : Stopping} (traced : Traced crdName ns m s)
    (returned : s.phase = .returned) (ch : Nat) :
    ch ∈ s.manager.closed ↔ ch ∈ m.closed ∨
      ∃ key info, m.informers.lookup key = some info ∧ belongsTo crdName ns key = true ∧
        info.stopCh = ch := by
  rw [traced.channels]
  refine or_congr_right ⟨?_, ?_⟩
  · rintro ⟨w, member, ⟨own, _⟩, same⟩
    exact ⟨w.key, w.info, traced.captured w member, own, same⟩
  · rintro ⟨key, info, entry, own, same⟩
    have seen := traced.ranged (by rw [returned]; decide) key info entry
    obtain ⟨w, member, rfl⟩ := List.mem_map.mp seen
    have mine := (traced.captured w member).symm.trans entry
    cases mine
    exact ⟨w, member, ⟨own, .inr (traced.ended returned w member)⟩, same⟩

end Runs

section Returned
variable {crdName ns : String} {m : Manager} {moves : List Move} {s : Stopping}

theorem run_traced (registered : Registered m)
    (ran : run (step crdName ns) (begin m) moves = some s) :
    Traced crdName ns m s ∧ moves.length ≤ 5 * m.informers.keys.length + 2 := by
  obtain ⟨traced, within⟩ := run_bounded (Traced crdName ns m) (weight m)
    (traced_step registered) moves (traced_begin crdName ns m) ran
  have whole : weight m (begin m) = 5 * m.informers.keys.length + 2 := rfl
  exact ⟨traced, by omega⟩

theorem registered_returned (registered : Registered m)
    (ran : run (step crdName ns) (begin m) moves = some s) (returned : s.phase = .returned) :
    Registered s.manager := by
  obtain ⟨traced, _⟩ := run_traced registered ran
  have entry {key : String} {info : Info} (found : s.manager.informers.lookup key = some info) :
      m.informers.lookup key = some info := ((traced.entries key info).mp found).1
  constructor
  · exact fun key info found => registered.keyed key info (entry found)
  · exact fun key info found => registered.plain key info (entry found)
  · intro key info found closed
    rcases (traced.closed returned info.stopCh).mp closed with before |
      ⟨key', info', there, own, same⟩
    · exact registered.running key info (entry found) before
    · cases registered.apart key' key info' info there (entry found) same
      rw [traced.lookup returned, if_pos own] at found
      cases found
  · exact fun key key' info info' found found' =>
      registered.apart key key' info info' (entry found) (entry found')
  · intro key info found
    rw [traced.counter]
    exact registered.below key info (entry found)
  · intro ch closed
    rw [traced.counter]
    rcases (traced.closed returned ch).mp closed with before | ⟨key, info, there, _, rfl⟩
    · exact registered.spent ch before
    · exact registered.below key info there

end Returned

/-- The managers that Add and StopForCRD lead to, for plain requests. -/
inductive Served : Manager → Prop where
  | new : Served newManager
  | added {m : Manager} {req : TargetWatch} (served : Served m)
      (plain : PlainRequest req.toRequestWatch) : Served (add m req)
  | stopped {m : Manager} {crdName ns : String} {moves : List Move} {s : Stopping}
      (served : Served m) (ran : run (step crdName ns) (begin m) moves = some s)
      (returned : s.phase = .returned) : Served s.manager

theorem served_registered {m : Manager} (served : Served m) : Registered m := by
  induction served with
  | new => exact registered_new
  | added _ plain ih => exact registered_add ih plain
  | stopped _ ran returned ih => exact registered_returned ih ran returned

def SameRequests (m : Manager) (r : Reconciler.Informers) : Prop :=
  ∀ key, r.lookup key = (m.informers.lookup key).map Info.req

theorem sameRequests_add {m : Manager} {r : Reconciler.Informers} (same : SameRequests m r)
    (req : TargetWatch) : SameRequests (add m req) (Reconciler.add req .ok r).1 := by
  have here := same (getKeyFromRequestWatch req.toRequestWatch)
  rcases add_cases m req with ⟨⟨info, found⟩, kept⟩ | ⟨absent, added⟩
  · rw [found] at here
    simp only [Reconciler.add, here, kept, Option.map_some]
    exact same
  · rw [absent] at here
    simp only [Reconciler.add, here, added, Option.map_none]
    intro key
    simp only [lookup_insert_ite]
    split
    · rfl
    · exact same key

/-- However its goroutines are scheduled, StopForCRD comes to what the reconciler takes it for. -/
theorem sameRequests_stopForCRD {m : Manager} {r : Reconciler.Informers} (registered : Registered m)
    (same : SameRequests m r) {crdName ns : String} {moves : List Move} {s : Stopping}
    (ran : run (step crdName ns) (begin m) moves = some s) (returned : s.phase = .returned) :
    SameRequests s.manager (Reconciler.stopForCRD crdName ns r) := by
  obtain ⟨traced, _⟩ := run_traced registered ran
  intro key
  rw [Reconciler.stopForCRD_lookup, traced.lookup returned]
  split
  · rfl
  · exact same key

section StepModel
open Reconciler (stopForCRDStep)

def sharedOf (m : Manager) : InformerManager.Manager where
  informers key := (m.informers.lookup key).map Info.stopCh
  closes ch := m.closed.count ch
  next := m.next

def pcOf : WorkerPc → InformerManager.StopPc
  | .check | .load => .load
  | .close ch => .close ch
  | .delete => .delete
  | .done err => .returned err
  -- no goroutine comes to this
  | .panicked => .returned none

variable (crdName ns : String)

def workersOf (workers : List Worker) : List InformerManager.Worker :=
  (workers.filter fun w => belongsTo crdName ns w.key).map fun w => (w.key, pcOf w.pc)

def callOf (s : Stopping) : InformerManager.StopForCRDPc :=
  match s.phase with
  | .ranging => .ranging (visited s).reverse (workersOf crdName ns s.workers)
  | .waiting => .waiting (workersOf crdName ns s.workers)
  | .returned => .returned

def stepModel (s : Stopping) : InformerManager.Manager × InformerManager.StopForCRDPc :=
  (sharedOf s.manager, callOf crdName ns s)

theorem sharedOf_close (m : Manager) (ch : Nat) :
    sharedOf { m with closed := ch :: m.closed } = (sharedOf m).close ch := by
  unfold sharedOf InformerManager.Manager.close
  congr 1
  funext c
  by_cases same : c = ch
  · rw [same, Function.update_self, List.count_cons_self]
  · rw [Function.update_of_ne same, List.count_cons_of_ne (Ne.symm same)]

theorem sharedOf_delete (m : Manager) (key : String) :
    sharedOf { m with informers := m.informers.erase key } = (sharedOf m).delete key := by
  unfold sharedOf InformerManager.Manager.delete
  congr 1
  funext k
  by_cases same : k = key
  · rw [same, Function.update_self, lookup_erase_ite, if_pos rfl, Option.map_none]
  · rw [Function.update_of_ne same, lookup_erase_ite, if_neg same]

theorem sharedOf_insert (m : Manager) (key : String) (req : TargetWatch) :
    sharedOf ⟨m.informers.insert key ⟨req, m.next⟩, m.closed, m.next + 1⟩ =
      { sharedOf m with next := m.next + 1 }.store key m.next := by
  unfold sharedOf InformerManager.Manager.store
  congr 1
  funext k
  by_cases same : k = key
  · rw [same, Function.update_self, lookup_insert_ite, if_pos rfl, Option.map_some]
  · rw [Function.update_of_ne same, lookup_insert_ite, if_neg same]

theorem add_steps (m : Manager) (req : TargetWatch) :
    Reach (fun c a => InformerManager.add c.1 req.toRequestWatch c.2 a) Unguarded
      (sharedOf m, .load) (sharedOf (add m req), .returned none) := by
  rcases add_cases m req with ⟨⟨info, found⟩, kept⟩ | ⟨absent, added⟩
  · rw [kept]
    refine reach_of_run [.ok] ?_
    simp [run, InformerManager.add, sharedOf, found]
  · rw [added, sharedOf_insert]
    refine reach_of_run [.ok, .ok, .ok, .ok, .ok] ?_
    simp [run, InformerManager.add, sharedOf, absent]

theorem workersOf_append (before after : List Worker) :
    workersOf crdName ns (before ++ after) =
      workersOf crdName ns before ++ workersOf crdName ns after := by
  simp [workersOf]

theorem workersOf_own {w : Worker} (own : belongsTo crdName ns w.key = true) (after : List Worker) :
    workersOf crdName ns (w :: after) = (w.key, pcOf w.pc) :: workersOf crdName ns after := by
  simp [workersOf, own]

theorem workersOf_other {w : Worker} (other : belongsTo crdName ns w.key = false)
    (after : List Worker) : workersOf crdName ns (w :: after) = workersOf crdName ns after := by
  simp [workersOf, other]

theorem workers_split {workers : List Worker} {j : Nat} {w : Worker} (here : workers[j]? = some w)
    (pc : WorkerPc) : ∃ before after, workers = before ++ w :: after ∧
      workers.set j { w with pc := pc } = before ++ { w with pc := pc } :: after := by
  obtain ⟨bound, rfl⟩ := List.getElem?_eq_some_iff.mp here
  refine ⟨workers.take j, workers.drop (j + 1), by simp, ?_⟩
  rw [List.set_eq_take_append_cons_drop, if_pos bound]

theorem workersOf_set {workers : List Worker} {j : Nat} {w : Worker} (here : workers[j]? = some w)
    {pc : WorkerPc} (unseen : belongsTo crdName ns w.key = true → pcOf pc = pcOf w.pc) :
    workersOf crdName ns (workers.set j { w with pc := pc }) = workersOf crdName ns workers := by
  obtain ⟨before, after, whole, changed⟩ := workers_split here pc
  rw [changed, whole, workersOf_append, workersOf_append]
  cases own : belongsTo crdName ns w.key with
  | true =>
    rw [workersOf_own crdName ns own, workersOf_own crdName ns (w := { w with pc := pc }) own]
    simp only [unseen own]
  | false =>
    rw [workersOf_other crdName ns own, workersOf_other crdName ns (w := { w with pc := pc }) own]

theorem worker_simulated {s : Stopping} {j : Nat} {w : Worker} (here : s.workers[j]? = some w)
    (own : belongsTo crdName ns w.key = true) (active : s.phase ≠ .returned) {n : Manager}
    {pc : WorkerPc} (moved : InformerManager.stopInformer (sharedOf s.manager) w.key (pcOf w.pc) =
      some (sharedOf n, pcOf pc)) :
    Reach (stopForCRDStep crdName ns) Unguarded (stepModel crdName ns s)
      (stepModel crdName ns
        { s with manager := n, workers := s.workers.set j { w with pc := pc } }) := by
  obtain ⟨before, after, whole, changed⟩ := workers_split here pc
  have old : workersOf crdName ns s.workers = workersOf crdName ns before ++
      (w.key, pcOf w.pc) :: workersOf crdName ns after := by
    rw [whole, workersOf_append, workersOf_own crdName ns own]
  have new : workersOf crdName ns (s.workers.set j { w with pc := pc }) =
      workersOf crdName ns before ++ (w.key, pcOf pc) :: workersOf crdName ns after := by
    rw [changed, workersOf_append, workersOf_own crdName ns (w := { w with pc := pc }) own]
  have stopped : InformerManager.stopWorker (sharedOf s.manager) (workersOf crdName ns s.workers)
      (workersOf crdName ns before).length =
        some (sharedOf n, workersOf crdName ns (s.workers.set j { w with pc := pc })) := by
    simp [InformerManager.stopWorker, old, new, moved]
  refine .next .refl trivial (a := .worker (workersOf crdName ns before).length) ?_
  cases phase : s.phase with
  | ranging =>
    simp only [stopForCRDStep, stepModel, callOf, phase, InformerManager.stopForCRD, stopped,
      Option.map_some, visited, visited_set here pc]
  | waiting =>
    simp only [stopForCRDStep, stepModel, callOf, phase, InformerManager.stopForCRD, stopped,
      Option.map_some]
  | returned => exact absurd phase active

variable {crdName ns}

theorem stepModel_unseen {s : Stopping} {j : Nat} {w : Worker} (here : s.workers[j]? = some w)
    {pc : WorkerPc} (unseen : belongsTo crdName ns w.key = true → pcOf pc = pcOf w.pc) :
    stepModel crdName ns { s with workers := s.workers.set j { w with pc := pc } } =
      stepModel crdName ns s := by
  simp only [stepModel, callOf, visited, visited_set here pc, workersOf_set crdName ns here unseen]

/-- Each step is one of the step model, but for the check of a goroutine, which the range makes
    itself there. -/
theorem step_simulated {m : Manager} (registered : Registered m) (s : Stopping) (a : Move)
    (t : Stopping) (traced : Traced crdName ns m s) (move : step crdName ns s a = some t) :
    Reach (stopForCRDStep crdName ns) Unguarded (stepModel crdName ns s)
      (stepModel crdName ns t) := by
  rcases step_cases move with ⟨key, info, ranging, found, fresh, rfl⟩ | ⟨ranging, all, rfl⟩ |
    ⟨j, w, n, pc, here, ran, rfl⟩ | ⟨waiting, idle, rfl⟩
  · refine .next .refl trivial (a := .visit key) ?_
    have new : key ∉ (visited s).reverse := fun seen => fresh (List.mem_reverse.mp seen)
    have shown : ((sharedOf s.manager).informers key).isSome = true := by simp [sharedOf, found]
    simp only [stopForCRDStep, stepModel, callOf, ranging, workersOf_append]
    rw [InformerManager.stopForCRD, if_pos ⟨shown, new⟩]
    cases own : belongsTo crdName ns key with
    | true => simp [workersOf, own, pcOf, visited]
    | false => simp [workersOf, own, visited]
  · refine .next .refl trivial (a := .ok) ?_
    simp only [stopForCRDStep, stepModel, callOf, ranging, InformerManager.stopForCRD]
  · have member := List.mem_of_getElem? here
    have effect := workerStep_effect registered traced member ran
    have entry := traced.entry member effect.not_done
    have active : s.phase ≠ .returned := by
      intro returned
      have ended := traced.ended returned w member
      rw [effect.not_done] at ended
      cases ended
    cases effect with
    | passes other at_pc =>
      rw [stepModel_unseen here fun own => absurd (other.symm.trans own) Bool.false_ne_true]
      exact .refl
    | selects own at_pc =>
      rw [stepModel_unseen here fun _ => by rw [at_pc]; rfl]
      exact .refl
    | loads own at_pc =>
      refine worker_simulated crdName ns here own active ?_
      simp [at_pc, pcOf, InformerManager.stopInformer, sharedOf, entry]
    | closes own at_pc =>
      refine worker_simulated crdName ns here own active ?_
      rw [at_pc, sharedOf_close]
      rfl
    | deletes own at_pc =>
      refine worker_simulated crdName ns here own active ?_
      rw [at_pc, sharedOf_delete]
      rfl
  · refine .next .refl trivial (a := .ok) ?_
    have finished : (workersOf crdName ns s.workers).all InformerManager.workerDone = true := by
      rw [List.all_eq_true]
      intro x member
      obtain ⟨w, selected, rfl⟩ := List.mem_map.mp member
      have ended := idle w (List.mem_filter.mp selected).1
      cases at_pc : w.pc with
      | done err => rfl
      | _ =>
        rw [at_pc] at ended
        cases ended
    simp only [stopForCRDStep, stepModel, callOf, waiting, InformerManager.stopForCRD, finished,
      if_true]

/-- Every run of StopForCRD here is one of the step model, alone. -/
theorem stopForCRD_simulated {m : Manager} (registered : Registered m) {moves : List Move}
    {s : Stopping} (ran : run (step crdName ns) (begin m) moves = some s) :
    Reach (stopForCRDStep crdName ns) Unguarded (sharedOf m, .ranging [] [])
      (stepModel crdName ns s) :=
  run_simulates (Traced crdName ns m) (stepModel crdName ns)
    (fun s a t traced move => ⟨(traced_step registered s a t traced move).1,
      step_simulated registered s a t traced move⟩) moves (traced_begin crdName ns m) ran

end StepModel

/-- Of the informers registered for the CRD each is stopped and removed; the others run on. -/
structure StoppedExactly (crdName ns : String) (m n : Manager) : Prop where
  stopped : ∀ key info, m.informers.lookup key = some info →
    info.req.crdName = crdName ∧ info.req.ns = ns →
      n.informers.lookup key = none ∧ info.stopCh ∈ n.closed
  running : ∀ key info, m.informers.lookup key = some info →
    ¬ (info.req.crdName = crdName ∧ info.req.ns = ns) →
      n.informers.lookup key = some info ∧ info.stopCh ∉ n.closed
  added : ∀ key info, n.informers.lookup key = some info → m.informers.lookup key = some info

theorem stopped_exactly {m : Manager} (registered : Registered m) {crdName ns : String}
    (name : Plain crdName) (own : Plain ns) {s : Stopping} (traced : Traced crdName ns m s)
    (returned : s.phase = .returned) : StoppedExactly crdName ns m s.manager := by
  have selects {key : String} {info : Info} (entry : m.informers.lookup key = some info) :
      belongsTo crdName ns key = true ↔ info.req.crdName = crdName ∧ info.req.ns = ns := by
    rw [registered.keyed key info entry]
    exact belongsTo_iff name own (registered.plain key info entry)
  constructor
  · intro key info entry mine
    have selected := (selects entry).mpr mine
    constructor
    · rw [traced.lookup returned, if_pos selected]
    · exact (traced.closed returned _).mpr (.inr ⟨key, info, entry, selected, rfl⟩)
  · intro key info entry other
    have passed : ¬ belongsTo crdName ns key = true := fun selected => other ((selects entry).mp selected)
    constructor
    · rw [traced.lookup returned, if_neg passed]
      exact entry
    · intro closed
      rcases (traced.closed returned _).mp closed with before | ⟨key', info', there, selected, same⟩
      · exact registered.running key info entry before
      · cases registered.apart key' key info' info there entry same
        exact passed selected
  · exact fun key info found => ((traced.entries key info).mp found).1

theorem add_lookup (m : Manager) (req : TargetWatch) :
    (add m req).informers.lookup (getKeyFromRequestWatch req.toRequestWatch) ≠ none ∧
      ∀ key, key ≠ getKeyFromRequestWatch req.toRequestWatch →
        (add m req).informers.lookup key = m.informers.lookup key := by
  rcases add_cases m req with ⟨⟨info, found⟩, kept⟩ | ⟨_, added⟩
  · rw [kept, found]
    exact ⟨Option.some_ne_none info, fun _ _ => rfl⟩
  · rw [added]
    constructor
    · rw [lookup_insert_ite, if_pos rfl]
      exact Option.some_ne_none _
    · intro key other
      rw [lookup_insert_ite, if_neg other]

theorem stopForCRD_stops_own {m : Manager} (registered : Registered m) {crdName ns : String}
    (name : Plain crdName) (own : Plain ns) :
    (∀ moves s, run (step crdName ns) (begin m) moves = some s →
      moves.length ≤ 5 * m.informers.keys.length + 2 ∧
        (∀ w ∈ s.workers, w.pc ≠ .panicked) ∧
        (s.phase ≠ .returned → ∃ move t, step crdName ns s move = some t) ∧
        (s.phase = .returned → StoppedExactly crdName ns m s.manager)) ∧
      (∀ a b, PlainRequest a → PlainRequest b → a ≠ b →
        getKeyFromRequestWatch a ≠ getKeyFromRequestWatch b) ∧
      (∀ req, getKey ⟨req.ns, req.crdName, req.resource, req.name⟩ = getKeyFromRequestWatch req) ∧
      ∀ (n : Manager) (req : Request) (spec : ElastiServiceSpec) (gv : String × String),
        let previous := getKey ⟨req.ns, req.name, kindToResource spec.scaleTargetRef.kind,
          spec.scaleTargetRef.name⟩
        let after := add n (targetRequest req spec.scaleTargetRef gv)
        targetKey req spec.scaleTargetRef = previous ∧
          targetKey req (getScaleTargetRef spec) = previous ∧
          after.informers.lookup previous ≠ none ∧
          ∀ key, key ≠ previous → after.informers.lookup key = n.informers.lookup key := by
  refine ⟨?_, ?_, getKey_request, ?_⟩
  · intro moves s ran
    obtain ⟨traced, within⟩ := run_traced registered ran
    exact ⟨within, fun w => traced.no_panic, progress traced,
      stopped_exactly registered name own traced⟩
  · intro a b plain_a plain_b apart same
    exact apart (key_injective plain_a plain_b same)
  · intro n req spec gv
    dsimp only
    rw [← targetKey_getKey]
    refine ⟨rfl, targetKey_normalised req spec, ?_⟩
    rw [← Reconciler.targetRequest_key req spec.scaleTargetRef gv]
    exact add_lookup n (targetRequest req spec.scaleTargetRef gv)

def webInformers : Manager :=
  add (add newManager ⟨⟨"web", "shop", "deployments", "web"⟩, "apps", "v1"⟩)
    ⟨⟨"web", "shop-2", "deployments", "web"⟩, "apps", "v1"⟩

def stopWeb : List Move :=
  [.visit "web/shop-2/deployments/web", .visit "web/shop/deployments/web", .worker 1, .worker 0,
    .rangeEnds, .worker 1, .worker 1, .worker 1, .wait]

theorem web_informer_stopped :
    ∃ s, run (step "web" "shop") (begin webInformers) stopWeb = some s ∧
      s.phase = .returned ∧ s.manager.informers.keys = ["web/shop-2/deployments/web"] ∧
        StoppedExactly "web" "shop" webInformers s.manager := by
  have web : Plain "web" := by decide
  have deployments : Plain "deployments" := by decide
  have plain (ns : String) (own : Plain ns) : PlainRequest ⟨"web", ns, "deployments", "web"⟩ :=
    ⟨web, own, deployments, web⟩
  have registered : Registered webInformers :=
    registered_add (registered_add registered_new (plain "shop" (by decide)))
      (plain "shop-2" (by decide))
  have ran : (run (step "web" "shop") (begin webInformers) stopWeb).map
      (fun s => (s.phase, s.manager.informers.keys)) =
        some (.returned, ["web/shop-2/deployments/web"]) := by decide +kernel
  obtain ⟨s, done, shape⟩ := Option.map_eq_some_iff.mp ran
  obtain ⟨returned, left⟩ := Prod.mk.inj shape
  have stops := @stopForCRD_stops_own webInformers registered "web" "shop" web (by decide)
  exact ⟨s, done, returned, left, (stops.1 stopWeb s done).2.2.2 returned⟩

end InformerStops
