import Elasti.Informers

/- The informers that calls of the manager start, and what one step of a call does to them. An
   Add remembers, beside what the code keeps, the channel of the informer it has started. -/
namespace InformerLeaks
open GuardedRuns ThreadPool InformerManager

/-- A call with the channel of the informer it has started. -/
structure Maker where
  call : Call
  made : Option Nat
  deriving DecidableEq, Repr

def madeAfter (m : Manager) (l : Maker) (a : Answer) : Option Nat :=
  match l.call, a with
  | .add _ .enable, .ok => some m.next
  | _, _ => l.made

def makerStep (m : Manager) (l : Maker) (a : Answer) : Option (Manager × Maker) :=
  (exec m l.call a).map fun r => (r.1, ⟨r.2, madeAfter m l a⟩)

abbrev Makers := Pool Manager Maker

def makersStep : Makers → Move → Option Makers := step makerStep outside

def makers (calls : List Call) : Makers := ⟨newManager, calls.map fun l => ⟨l, none⟩⟩

def addKey : Call → Option String
  | .add req _ => some (getKeyFromRequestWatch req)
  | _ => none

theorem makerStep_erases (m : Manager) (l : Maker) (a : Answer) (n : Manager) (k : Maker)
    (ran : makerStep m l a = some (n, k)) : exec m l.call a = some (n, k.call) := by
  obtain ⟨⟨u, call⟩, inner, same⟩ := Option.map_eq_some_iff.mp ran
  cases same
  exact inner

theorem calls_reach {calls : List Call} {ok : Makers → Move → Prop} {c : Makers}
    (reach : Reach makersStep ok (makers calls) c) :
    Reach callStep Unguarded ⟨newManager, calls⟩ ⟨c.shared, c.threads.map Maker.call⟩ := by
  have start : (makers calls).threads.map Maker.call = calls := by
    simp [makers, Function.comp_def]
  have erased := reach_erase Maker.call makerStep_erases reach
  rw [start] at erased
  exact erased

def starts : Call → Answer → Option String
  | .add req .enable, .ok => some (getKeyFromRequestWatch req)
  | _, _ => none

def stores : Call → Answer → Option String
  | .add req (.store _), .ok => some (getKeyFromRequestWatch req)
  | _, _ => none

def adding : Call → Option String
  | .add _ .load | .add _ (.returned _) => none
  | .add req _ => some (getKeyFromRequestWatch req)
  | _ => none

def unstarted : AddPc → Bool
  | .load | .verify | .enable => true
  | _ => false

def stopPending (w : Worker) : List (String × Option Nat) :=
  match w.2 with
  | .close ch => [(w.1, some ch)]
  | .delete => [(w.1, none)]
  | _ => []

def workersPending (workers : List Worker) : List (String × Option Nat) :=
  workers.flatMap stopPending

/-- The keys whose entries a call has decided to delete and has not deleted, each with the
    channel it closes first, unless that is done. -/
def pending : Call → List (String × Option Nat)
  | .add req (.close ch) => [(getKeyFromRequestWatch req, some ch)]
  | .add req .delete => [(getKeyFromRequestWatch req, none)]
  | .add _ _ => []
  | .stopInformer key pc => stopPending (key, pc)
  | .stopForCRD _ _ (.ranging _ workers) | .stopForCRD _ _ (.waiting workers) =>
    workersPending workers
  | .stopForCRD _ _ .returned => []

/-- What a stop does, with what is pending before and after. -/
inductive StopEffect (m : Manager) (known later : List (String × Option Nat)) : Manager → Prop where
  | look (found : ∀ p ∈ later, p ∈ known ∨
      ∃ key ch, p = (key, some ch) ∧ m.informers key = some ch) : StopEffect m known later m
  | close (key : String) (ch : Nat) (mine : (key, some ch) ∈ known)
      (rest : ∀ p ∈ later, p ∈ known ∨ p = (key, none)) : StopEffect m known later (m.close ch)
  | delete (key : String) (mine : (key, none) ∈ known) (rest : later ⊆ known) :
      StopEffect m known later (m.delete key)

/-- What a step does, by the call that takes it. -/
inductive Effect (m : Manager) : Call → Answer → Manager → Call → Prop where
  | early (req : RequestWatch) (pc next : AddPc) (a : Answer) (before : unstarted pc = true)
      (after : unstarted next = true ∨ ∃ err, next = .returned err)
      (still : starts (.add req pc) a = none) : Effect m (.add req pc) a m (.add req next)
  | enable (req : RequestWatch) :
      Effect m (.add req .enable) .ok { m with next := m.next + 1 } (.add req (.store m.next))
  | store (req : RequestWatch) (ch : Nat) :
      Effect m (.add req (.store ch)) .ok (m.store (getKeyFromRequestWatch req) ch)
        (.add req (.sync ch))
  | synced (req : RequestWatch) (ch : Nat) :
      Effect m (.add req (.sync ch)) .ok m (.add req (.returned none))
  | unsynced (req : RequestWatch) (ch : Nat) (a : Answer) :
      Effect m (.add req (.sync ch)) a m (.add req (.close ch))
  | close (req : RequestWatch) (ch : Nat) :
      Effect m (.add req (.close ch)) .ok (m.close ch) (.add req .delete)
  | delete (req : RequestWatch) (text : String) :
      Effect m (.add req .delete) .ok (m.delete (getKeyFromRequestWatch req))
        (.add req (.returned (some text)))
  | stop (l k : Call) (a : Answer) (n : Manager) (before : addKey l = none)
      (after : addKey k = none) (effect : StopEffect m (pending l) (pending k) n) :
      Effect m l a n k

theorem add_effect {m n : Manager} {req : RequestWatch} {pc next : AddPc} {a : Answer}
    (ran : add m req pc a = some (n, next)) : Effect m (.add req pc) a n (.add req next) := by
  unfold add at ran
  split at ran
  · cases ran
    refine .early req .load _ .ok rfl ?_ rfl
    split
    · exact .inr ⟨none, rfl⟩
    · exact .inl rfl
  · cases ran
    exact .early req .verify .enable .ok rfl (.inl rfl) rfl
  · cases ran
    exact .early req .verify _ _ rfl (.inr ⟨_, rfl⟩) rfl
  · cases ran
    exact .enable req
  · cases ran
    exact .early req .enable _ _ rfl (.inr ⟨_, rfl⟩) rfl
  · cases ran
    exact .store req _
  · cases ran
    exact .synced req _
  · cases ran
    exact .unsynced req _ _
  · split at ran
    · cases ran
      exact .unsynced req _ _
    · cases ran
  · cases ran
    exact .close req _
  · cases ran
    exact .delete req _
  · cases ran

theorem stopInformer_effect {m n : Manager} {key : String} {pc next : StopPc}
    (ran : stopInformer m key pc = some (n, next)) :
    StopEffect m (stopPending (key, pc)) (stopPending (key, next)) n := by
  cases pc with
  | load =>
    simp only [stopInformer] at ran
    split at ran
    · cases ran
      exact .look (by simp [stopPending])
    · rename_i ch found
      cases ran
      refine .look ?_
      intro p member
      rw [List.mem_singleton.mp member]
      exact .inr ⟨key, ch, rfl, found⟩
  | close ch =>
    cases ran
    exact .close key ch (List.mem_singleton.mpr rfl) fun p member => .inr (List.mem_singleton.mp member)
  | delete =>
    cases ran
    exact .delete key (List.mem_singleton.mpr rfl) (List.nil_subset _)
  | returned err => cases ran

theorem mem_workersPending {workers : List Worker} {j : Nat} {w : Worker}
    {p : String × Option Nat} (here : workers[j]? = some w) (mine : p ∈ stopPending w) :
    p ∈ workersPending workers :=
  List.mem_flatMap.mpr ⟨w, List.mem_of_getElem? here, mine⟩

theorem workersPending_set {workers : List Worker} {j : Nat} {w : Worker}
    {p : String × Option Nat} (member : p ∈ workersPending (workers.set j w)) :
    p ∈ stopPending w ∨ p ∈ workersPending workers := by
  obtain ⟨v, at_v, mine⟩ := List.mem_flatMap.mp member
  rcases List.mem_or_eq_of_mem_set at_v with old | same
  · exact .inr (List.mem_flatMap.mpr ⟨v, old, mine⟩)
  · exact .inl (same ▸ mine)

theorem stopWorker_effect {m n : Manager} {workers after : List Worker} {j : Nat}
    (ran : stopWorker m workers j = some (n, after)) :
    StopEffect m (workersPending workers) (workersPending after) n := by
  unfold stopWorker at ran
  split at ran
  · cases ran
  · rename_i w here
    obtain ⟨⟨u, pc⟩, inner, same⟩ := Option.map_eq_some_iff.mp ran
    cases same
    cases stopInformer_effect inner with
    | look found =>
      refine .look ?_
      intro p member
      rcases workersPending_set member with mine | other
      · exact (found p mine).imp (mem_workersPending here) id
      · exact .inl other
    | close key ch mine rest =>
      refine .close key ch (mem_workersPending here mine) ?_
      intro p member
      rcases workersPending_set member with own | other
      · exact (rest p own).imp (mem_workersPending here) id
      · exact .inl other
    | delete key mine rest =>
      refine .delete key (mem_workersPending here mine) ?_
      intro p member
      rcases workersPending_set member with own | other
      · exact mem_workersPending here (rest own)
      · exact other

theorem stopForCRD_effect {m n : Manager} {crdName ns : String} {pc next : StopForCRDPc}
    {a : Answer} (ran : stopForCRD m crdName ns pc a = some (n, next)) :
    StopEffect m (pending (.stopForCRD crdName ns pc)) (pending (.stopForCRD crdName ns next)) n := by
  unfold stopForCRD at ran
  split at ran
  · split at ran
    · cases ran
      refine .look ?_
      intro p member
      left
      simp only [pending, workersPending] at member ⊢
      split at member
      · simpa [stopPending] using member
      · exact member
    · cases ran
  · obtain ⟨⟨u, after⟩, inner, same⟩ := Option.map_eq_some_iff.mp ran
    cases same
    exact stopWorker_effect inner
  · cases ran
    exact .look fun p member => .inl member
  · obtain ⟨⟨u, after⟩, inner, same⟩ := Option.map_eq_some_iff.mp ran
    cases same
    exact stopWorker_effect inner
  · split at ran
    · cases ran
      exact .look (by simp [pending])
    · cases ran
  · cases ran

theorem exec_effect {m n : Manager} {l k : Call} {a : Answer} (ran : exec m l a = some (n, k)) :
    Effect m l a n k := by
  unfold exec at ran
  split at ran
  · obtain ⟨⟨u, next⟩, inner, same⟩ := Option.map_eq_some_iff.mp ran
    cases same
    exact add_effect inner
  · obtain ⟨⟨u, next⟩, inner, same⟩ := Option.map_eq_some_iff.mp ran
    cases same
    exact .stop _ _ _ _ rfl rfl (stopInformer_effect inner)
  · obtain ⟨⟨u, next⟩, inner, same⟩ := Option.map_eq_some_iff.mp ran
    cases same
    exact .stop _ _ _ _ rfl rfl (stopForCRD_effect inner)
  · cases ran

def published : Call → Bool
  | .add _ (.sync _) | .add _ (.close _) | .add _ .delete | .add _ (.returned _) => true
  | _ => false

section Effect
variable {m n : Manager} {l k : Call} {a : Answer}

theorem effect_addKey (effect : Effect m l a n k) : addKey k = addKey l := by
  cases effect with
  | stop _ _ _ _ before after => rw [before, after]
  | _ => rfl

theorem effect_published (effect : Effect m l a n k) (stored : published l = true) :
    published k = true := by
  cases effect with
  | early req pc next _ before => cases pc <;> cases before <;> cases stored
  | enable | store => cases stored
  | stop _ _ _ _ before =>
    cases l with
    | add => cases before
    | _ => cases stored
  | _ => rfl

theorem effect_next (effect : Effect m l a n k) : m.next ≤ n.next := by
  cases effect with
  | enable => exact Nat.le_succ _
  | stop _ _ _ _ _ _ effect => cases effect <;> exact le_rfl
  | _ => exact le_rfl

theorem effect_closes (effect : Effect m l a n k) (ch : Nat) :
    n.closes ch = m.closes ch ∨
      (∃ key, (key, some ch) ∈ pending l) ∧ n.closes ch = m.closes ch + 1 := by
  have once (key : String) (d : Nat) (mine : (key, some d) ∈ pending l) :
      (m.close d).closes ch = m.closes ch ∨
        (∃ key, (key, some ch) ∈ pending l) ∧ (m.close d).closes ch = m.closes ch + 1 := by
    rw [close_closes]
    split
    · rename_i same
      exact .inr ⟨⟨key, same ▸ mine⟩, rfl⟩
    · exact .inl rfl
  cases effect with
  | close req d => exact once _ d (List.mem_singleton.mpr rfl)
  | stop _ _ _ _ _ _ effect =>
    cases effect with
    | close key d mine => exact once key d mine
    | _ => exact .inl rfl
  | _ => exact .inl rfl

theorem still_closed (effect : Effect m l a n k) {ch : Nat} (closed : m.closes ch ≠ 0) :
    n.closes ch ≠ 0 := by
  rcases effect_closes effect ch with same | ⟨-, more⟩ <;> omega

theorem delete_held {key q : String} {ch : Nat} (held : (m.delete key).informers q = some ch) :
    q ≠ key ∧ m.informers q = some ch := by
  simp only [Manager.delete, Function.update_apply] at held
  split at held
  · cases held
  · rename_i other
    exact ⟨other, held⟩

theorem effect_informers (effect : Effect m l a n k) {key : String} {ch : Nat}
    (held : n.informers key = some ch) :
    m.informers key = some ch ∨
      ∃ req, l = .add req (.store ch) ∧ k = .add req (.sync ch) ∧
        key = getKeyFromRequestWatch req := by
  cases effect with
  | store req d =>
    rcases store_held held with ⟨here, rfl⟩ | old
    · exact .inr ⟨req, rfl, rfl, here⟩
    · exact .inl old
  | delete => exact .inl (delete_held held).2
  | stop _ _ _ _ _ _ effect =>
    cases effect with
    | delete => exact .inl (delete_held held).2
    | _ => exact .inl held
  | _ => exact .inl held

theorem effect_pending (effect : Effect m l a n k) {p : String × Option Nat}
    (mine : p ∈ pending k) :
    p ∈ pending l ∨
      (∃ key ch, p = (key, some ch) ∧ (m.informers key = some ch ∨
        ∃ req, l = .add req (.sync ch) ∧ key = getKeyFromRequestWatch req)) ∨
      ∃ key ch, p = (key, none) ∧ (key, some ch) ∈ pending l ∧ n = m.close ch := by
  cases effect with
  | early req pc next _ _ after =>
    rcases after with still | ⟨err, rfl⟩
    · cases next with
      | close | delete => cases still
      | _ => cases mine
    · cases mine
  | unsynced req ch =>
    rw [List.mem_singleton.mp mine]
    exact .inr (.inl ⟨_, ch, rfl, .inr ⟨req, rfl, rfl⟩⟩)
  | close req ch =>
    rw [List.mem_singleton.mp mine]
    exact .inr (.inr ⟨_, ch, rfl, List.mem_singleton.mpr rfl, rfl⟩)
  | stop _ _ _ _ _ _ effect =>
    cases effect with
    | look found =>
      rcases found p mine with old | ⟨key, ch, same, held⟩
      · exact .inl old
      · exact .inr (.inl ⟨key, ch, same, .inl held⟩)
    | close key ch known rest =>
      rcases rest p mine with old | same
      · exact .inl old
      · exact .inr (.inr ⟨key, ch, same, known, rfl⟩)
    | delete _ _ rest => exact .inl (rest mine)
  | _ => cases mine

end Effect

theorem madeAfter_same {m : Manager} {l : Maker} {a : Answer} (still : starts l.call a = none) :
    madeAfter m l a = l.made := by
  unfold madeAfter
  split
  · rename_i at_enable
    rw [at_enable] at still
    cases still
  · rfl

theorem starts_published {l : Call} (a : Answer) (stored : published l = true) :
    starts l a = none := by
  unfold starts
  split
  · cases stored
  · rfl

theorem starts_stop {l : Call} (a : Answer) (stop : addKey l = none) : starts l a = none := by
  unfold starts
  split
  · cases stop
  · rfl

theorem madeAfter_new {m : Manager} {l : Maker} {a : Answer} {key : String}
    (begun : starts l.call a = some key) :
    madeAfter m l a = some m.next ∧ addKey l.call = some key := by
  unfold starts at begun
  split at begun
  · rename_i at_enable
    constructor
    · unfold madeAfter
      rw [at_enable]
    · rw [at_enable]
      exact begun
  · cases begun

theorem effect_starts {m n : Manager} {l k : Call} {a : Answer} {key : String}
    (effect : Effect m l a n k) (begun : starts l a = some key) :
    n = { m with next := m.next + 1 } ∧ ∃ req, k = .add req (.store m.next) := by
  cases effect with
  | early _ _ _ _ _ _ still =>
    rw [still] at begun
    cases begun
  | enable req => exact ⟨rfl, req, rfl⟩
  | stop _ _ _ _ stopping =>
    rw [starts_stop a stopping] at begun
    cases begun
  | _ => cases begun

theorem effect_fails {m n : Manager} {l : Call} {a : Answer} {req : RequestWatch} {text : String}
    (effect : Effect m l a n (.add req (.returned (some text)))) :
    (∃ pc, l = .add req pc ∧ unstarted pc = true ∧ starts l a = none) ∨
      l = .add req .delete ∧ a = .ok ∧ n = m.delete (getKeyFromRequestWatch req) := by
  cases effect with
  | early _ pc _ _ first _ still => exact .inl ⟨pc, rfl, first, still⟩
  | delete => exact .inr ⟨rfl, rfl, rfl⟩
  | stop _ _ _ _ _ stopped => cases stopped

theorem effect_entry {m n : Manager} {l k : Call} {a : Answer} (effect : Effect m l a n k)
    {key : String} {ch : Nat} (held : m.informers key = some ch) :
    n.informers key = some ch ∨ (key, none) ∈ pending l ∨
      ∃ req d, l = .add req (.store d) ∧ key = getKeyFromRequestWatch req := by
  have deleted (q : String) (mine : (q, none) ∈ pending l) :
      (m.delete q).informers key = some ch ∨ (key, none) ∈ pending l := by
    by_cases same : key = q
    · exact .inr (same ▸ mine)
    · left
      simpa [Manager.delete, Function.update_of_ne same] using held
  cases effect with
  | store req d =>
    by_cases same : key = getKeyFromRequestWatch req
    · exact .inr (.inr ⟨req, d, rfl, same⟩)
    · left
      simpa [Manager.store, Function.update_of_ne same] using held
  | delete req => exact (deleted _ (List.mem_singleton.mpr rfl)).imp id .inl
  | stop _ _ _ _ _ _ effect =>
    cases effect with
    | delete q mine => exact (deleted q mine).imp id .inl
    | _ => exact .inl held
  | _ => exact .inl held

theorem effect_store {m n : Manager} {req : RequestWatch} {ch : Nat} {k : Call} {a : Answer}
    (effect : Effect m (.add req (.store ch)) a n k) :
    a = .ok ∧ n = m.store (getKeyFromRequestWatch req) ch ∧ k = .add req (.sync ch) := by
  cases effect with
  | early _ _ _ _ first => cases first
  | store => exact ⟨rfl, rfl, rfl⟩
  | stop _ _ _ _ before => cases before

theorem effect_at_store {m n : Manager} {req : RequestWatch} {ch : Nat} {l : Call} {a : Answer}
    (effect : Effect m l a n (.add req (.store ch))) :
    starts l a = some (getKeyFromRequestWatch req) := by
  cases effect with
  | early _ _ _ _ _ after =>
    rcases after with still | ⟨err, impossible⟩
    · cases still
    · cases impossible
  | enable => rfl
  | stop _ _ _ _ _ stopped => cases stopped

theorem effect_at_sync {m n : Manager} {req : RequestWatch} {ch : Nat} {l : Call} {a : Answer}
    (effect : Effect m l a n (.add req (.sync ch))) : l = .add req (.store ch) := by
  cases effect with
  | early _ _ _ _ _ after =>
    rcases after with still | ⟨err, impossible⟩
    · cases still
    · cases impossible
  | store => rfl
  | stop _ _ _ _ _ stopped => cases stopped

def started : Call → Option String
  | .add req (.store _) | .add req (.sync _) | .add req (.close _) | .add req .delete =>
    some (getKeyFromRequestWatch req)
  | _ => none

theorem started_adding {l : Call} {key : String} (begun : started l = some key) :
    adding l = some key := by
  unfold started at begun
  split at begun
  any_goals exact begun
  cases begun

theorem effect_started {m n : Manager} {l k : Call} {a : Answer} (effect : Effect m l a n k)
    {key : String} (begun : started k = some key) :
    started l = some key ∨ starts l a = some key := by
  cases effect with
  | early req pc next _ _ after =>
    rcases after with still | ⟨err, rfl⟩
    · cases next with
      | load | verify | enable => cases begun
      | _ => cases still
    · cases begun
  | enable => exact .inr begun
  | synced | delete => cases begun
  | stop _ _ _ _ _ after =>
    cases k with
    | add => cases after
    | _ => cases begun
  | _ => exact .inl begun

theorem makersStep_effect {c d : Makers} {i : Nat} {a : Answer}
    (move : makersStep c (.thread i a) = some d) :
    ∃ l n k, c.threads[i]? = some l ∧ Effect c.shared l.call a n k ∧
      d = ⟨n, c.threads.set i ⟨k, madeAfter c.shared l a⟩⟩ := by
  obtain ⟨l, n, o, here, ran, rfl⟩ := step_thread move
  obtain ⟨⟨u, k⟩, inner, same⟩ := Option.map_eq_some_iff.mp ran
  cases same
  exact ⟨l, _, k, here, exec_effect inner, rfl⟩

end InformerLeaks
