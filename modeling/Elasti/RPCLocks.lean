import Elasti.OperatorRPC

/- Who owns the mutex that serviceRPCLocks holds for a service. The call that stored it owns
   it until its release timer has deleted it again; the timer looks the mutex up by the
   service's name. -/
namespace RPCLocks
open KeyedRuns ThreadPool OperatorRPC

def running : Pc → Bool
  | .lock | .post | .arm => true
  | _ => false

def releasing : Pc → Bool
  | .timer | .unlock _ | .delete => true
  | _ => false

def owns (pc : Pc) : Bool := running pc || releasing pc

inductive Effect (s : Slot) (l : Call) : Slot → Pc → Prop where
  | taken (mutex : Nat) (before : l.pc = .getMutex) (found : s.stored = some mutex) :
      Effect s l s .taken
  | store (before : l.pc = .getMutex) (absent : s.stored = none) :
      Effect s l { s with stored := some l.id } .lock
  | lock (before : l.pc = .lock) (free : s.locked l.id = false) :
      Effect s l { s with locked := Function.update s.locked l.id true } .post
  | post (before : l.pc = .post) : Effect s l s .arm
  | arm (before : l.pc = .arm) : Effect s l s .timer
  | gone (before : l.pc = .timer) (absent : s.stored = none) : Effect s l s .finished
  | load (mutex : Nat) (before : l.pc = .timer) (found : s.stored = some mutex) :
      Effect s l s (.unlock mutex)
  | unlock (mutex : Nat) (before : l.pc = .unlock mutex) (locked : s.locked mutex = true) :
      Effect s l { s with locked := Function.update s.locked mutex false } .delete
  | fatal (mutex : Nat) (before : l.pc = .unlock mutex) (unlocked : s.locked mutex = false) :
      Effect s l s .fatal
  | delete (before : l.pc = .delete) : Effect s l { s with stored := none } .finished

theorem send_effect {s t : Slot} {l m : Call} {a : Answer}
    (ran : sendIncomingRequestInfo s l a = some (t, m)) :
    m.id = l.id ∧ m.target = l.target ∧ Effect s l t m.pc := by
  unfold sendIncomingRequestInfo at ran
  split at ran
  · rename_i before
    split at ran
    · rename_i mutex found
      cases ran
      exact ⟨rfl, rfl, .taken mutex before found⟩
    · rename_i absent
      cases ran
      exact ⟨rfl, rfl, .store before absent⟩
  · rename_i before
    split at ran
    · cases ran
    · rename_i free
      cases ran
      exact ⟨rfl, rfl, .lock before (by simpa using free)⟩
  · rename_i before
    cases ran
    exact ⟨rfl, rfl, .post before⟩
  · rename_i before
    cases ran
    exact ⟨rfl, rfl, .post before⟩
  · rename_i before
    cases ran
    exact ⟨rfl, rfl, .post before⟩
  · rename_i before
    cases ran
    exact ⟨rfl, rfl, .post before⟩
  · rename_i before
    cases ran
    exact ⟨rfl, rfl, .arm before⟩
  · rename_i before
    split at ran
    · rename_i absent
      cases ran
      exact ⟨rfl, rfl, .gone before absent⟩
    · rename_i mutex found
      cases ran
      exact ⟨rfl, rfl, .load mutex before found⟩
  · rename_i mutex before
    split at ran
    · rename_i locked
      cases ran
      exact ⟨rfl, rfl, .unlock mutex before locked⟩
    · rename_i unlocked
      cases ran
      exact ⟨rfl, rfl, .fatal mutex before (by simpa using unlocked)⟩
  · rename_i before
    cases ran
    exact ⟨rfl, rfl, .delete before⟩
  · cases ran

/-- What the slot of its service is to a call, by where the call is: its own mutex is stored
    from the store to the delete, and locked from the lock to the unlock. -/
def Standing (s : Slot) (id : Nat) : Pc → Prop
  | .getMutex => s.locked id = false
  | .lock => s.stored = some id ∧ s.locked id = false
  | .post | .arm | .timer => s.stored = some id ∧ s.locked id = true
  | .unlock mutex => mutex = id ∧ s.stored = some id ∧ s.locked id = true
  | .delete => s.stored = some id
  | .taken | .finished => True
  | .fatal => False

theorem standing_own {s t : Slot} {l : Call} {pc : Pc} (effect : Effect s l t pc)
    (mine : Standing s l.id l.pc) : Standing t l.id pc := by
  cases effect with
  | taken mutex before found => trivial
  | store before absent =>
    rw [before] at mine
    exact ⟨rfl, mine⟩
  | lock before free =>
    rw [before] at mine
    exact ⟨mine.1, Function.update_self _ _ _⟩
  | post before | arm before =>
    rw [before] at mine
    exact mine
  | gone before absent => trivial
  | load mutex before found =>
    rw [before] at mine
    rw [mine.1] at found
    exact ⟨(Option.some.inj found).symm, mine⟩
  | unlock mutex before locked =>
    rw [before] at mine
    exact mine.2.1
  | fatal mutex before unlocked =>
    rw [before] at mine
    obtain ⟨rfl, -, locked⟩ := mine
    rw [unlocked] at locked
    contradiction
  | delete before => trivial

theorem standing_stored {s : Slot} {id : Nat} {pc : Pc} (mine : Standing s id pc)
    (owner : owns pc = true) : s.stored = some id := by
  cases pc with
  | lock | post | arm | timer => exact mine.1
  | unlock mutex => exact mine.2.1
  | delete => exact mine
  | getMutex | taken | finished | fatal => contradiction

theorem standing_kept {s t : Slot} {id : Nat} {pc : Pc} (other : Standing s id pc)
    (stored : s.stored = some id → t.stored = some id) (locked : t.locked id = s.locked id) :
    Standing t id pc := by
  cases pc with
  | getMutex => exact locked.trans other
  | lock | post | arm | timer => exact ⟨stored other.1, locked.trans other.2⟩
  | unlock mutex => exact ⟨other.1, stored other.2.1, locked.trans other.2.2⟩
  | delete => exact stored other
  | taken | finished => trivial
  | fatal => exact other

theorem standing_other {s t : Slot} {l : Call} {pc next : Pc} {id : Nat}
    (effect : Effect s l t next) (mine : Standing s l.id l.pc) (other : Standing s id pc)
    (apart : id ≠ l.id) : Standing t id pc := by
  cases effect with
  | store before absent =>
    refine standing_kept other ?_ rfl
    intro found
    rw [absent] at found
    contradiction
  | lock before free =>
    exact standing_kept other (fun found => found) (Function.update_of_ne apart _ _)
  | unlock mutex before locked =>
    rw [before] at mine
    obtain ⟨rfl, -, -⟩ := mine
    exact standing_kept other (fun found => found) (Function.update_of_ne apart _ _)
  | delete before =>
    rw [before] at mine
    refine standing_kept other ?_ rfl
    intro found
    have stored : s.stored = some l.id := mine
    rw [stored] at found
    exact absurd (Option.some.inj found).symm apart
  | taken | post | arm | gone | load | fatal => exact other

theorem effect_stored {s t : Slot} {l : Call} {next : Pc} {k : Nat} (effect : Effect s l t next)
    (mine : Standing s l.id l.pc) (owner : s.stored = some l.id → owns l.pc = true)
    (found : t.stored = some k) :
    (k = l.id ∧ owns next = true) ∨ (k ≠ l.id ∧ s.stored = some k) := by
  have kept : s.stored = some l.id → t.stored = s.stored → k = l.id := by
    intro stored same
    rw [same, stored] at found
    exact (Option.some.inj found).symm
  cases effect with
  | taken mutex before =>
    right
    refine ⟨?_, found⟩
    intro same
    have impossible := owner (same ▸ found)
    rw [before] at impossible
    contradiction
  | store before absent => exact .inl ⟨(Option.some.inj found).symm, rfl⟩
  | lock before | post before | arm before | load _ before =>
    rw [before] at mine
    exact .inl ⟨kept mine.1 rfl, rfl⟩
  | unlock mutex before locked =>
    rw [before] at mine
    exact .inl ⟨kept mine.2.1 rfl, rfl⟩
  | gone before absent =>
    rw [absent] at found
    contradiction
  | fatal mutex before unlocked =>
    rw [before] at mine
    obtain ⟨rfl, -, locked⟩ := mine
    rw [unlocked] at locked
    contradiction
  | delete before => contradiction

structure Owned (c : Client) : Prop where
  placed : ∀ (i : Nat) l, c.threads[i]? = some l → l.id = i
  standing : ∀ l ∈ c.threads, Standing (c.shared (lockKey l)) l.id l.pc
  present : ∀ svc k, (c.shared svc).stored = some k →
    ∃ l, c.threads[k]? = some l ∧ lockKey l = svc ∧ owns l.pc = true

theorem owned_start (targets : List Target) : Owned (newClient targets) := by
  constructor
  · intro i l here
    simp only [newClient, List.getElem?_mapIdx, Option.map_eq_some_iff] at here
    obtain ⟨t, -, rfl⟩ := here
    rfl
  · intro l member
    simp only [newClient, List.mem_mapIdx] at member
    obtain ⟨i, _, rfl⟩ := member
    rfl
  · intro svc k found
    contradiction

section Step
variable {c : Client} {i : Nat} {l m : Call} {a : Answer} {t : Slot} (owned : Owned c)
  (here : c.threads[i]? = some l)
  (ran : sendIncomingRequestInfo (c.shared (lockKey l)) l a = some (t, m))
include owned here ran

theorem standing_step (n : Call) (member : n ∈ c.threads.set i m) :
    Standing (Function.update c.shared (lockKey l) t (lockKey n)) n.id n.pc := by
  obtain ⟨sameId, -, effect⟩ := send_effect ran
  have mine := owned.standing l (List.mem_of_getElem? here)
  rcases set_member member with rfl | ⟨j, away, at_j⟩
  · rw [keepsKey _ _ _ _ _ ran, Function.update_self, sameId]
    exact standing_own effect mine
  · have other := owned.standing n (List.mem_of_getElem? at_j)
    by_cases same : lockKey n = lockKey l
    · rw [same] at other ⊢
      rw [Function.update_self]
      apply standing_other effect mine other
      rw [owned.placed j n at_j, owned.placed i l here]
      exact away
    · rw [Function.update_of_ne same]
      exact other

theorem present_step (svc : String) (k : Nat)
    (found : (Function.update c.shared (lockKey l) t svc).stored = some k) :
    ∃ n, (c.threads.set i m)[k]? = some n ∧ lockKey n = svc ∧ owns n.pc = true := by
  obtain ⟨-, -, effect⟩ := send_effect ran
  have mine := owned.standing l (List.mem_of_getElem? here)
  have place := owned.placed i l here
  -- an owner at another place stays
  have stays : k ≠ i → (c.shared svc).stored = some k →
      ∃ n, (c.threads.set i m)[k]? = some n ∧ lockKey n = svc ∧ owns n.pc = true := by
    intro away stored
    rw [List.getElem?_set_ne (Ne.symm away)]
    exact owned.present svc k stored
  by_cases same : svc = lockKey l
  · subst same
    rw [Function.update_self] at found
    have owner : (c.shared (lockKey l)).stored = some l.id → owns l.pc = true := by
      intro stored
      obtain ⟨n, at_n, -, holds⟩ := owned.present _ _ stored
      rw [place, here] at at_n
      cases at_n
      exact holds
    rcases effect_stored effect mine owner found with ⟨mover, holds⟩ | ⟨away, stored⟩
    · obtain ⟨bound, -⟩ := List.getElem?_eq_some_iff.mp here
      exact ⟨m, by simp [mover, place, bound], keepsKey _ _ _ _ _ ran, holds⟩
    · exact stays (place ▸ away) stored
  · rw [Function.update_of_ne same] at found
    apply stays _ found
    intro mover
    obtain ⟨n, at_n, at_key, -⟩ := owned.present svc k found
    rw [mover, here] at at_n
    cases at_n
    exact same at_key.symm

theorem owned_step : Owned ⟨Function.update c.shared (lockKey l) t, c.threads.set i m⟩ := by
  constructor
  · intro j n at_j
    rcases set_at at_j with ⟨rfl, rfl⟩ | ⟨-, before⟩
    · rw [(send_effect ran).1]
      exact owned.placed _ l here
    · exact owned.placed j n before
  · exact standing_step owned here ran
  · exact present_step owned here ran

end Step

theorem owned_always (targets : List Target) (history : History) :
    Owned (runHistory targets history) :=
  replay_invariant Owned (fun _ _ _ _ _ _ owned here ran => owned_step owned here ran) history
    (owned_start targets)

structure Exclusive (c : Client) (svc : String) : Prop where
  owner : ∀ k, (c.shared svc).stored = some k →
    ∃ l, c.threads[k]? = some l ∧ lockKey l = svc ∧ (running l.pc ∨ releasing l.pc)
  only : ∀ k j n, (c.shared svc).stored = some k → c.threads[j]? = some n →
    lockKey n = svc → (running n.pc ∨ releasing n.pc) → j = k
  posting : ∀ (i j : Nat) l n, c.threads[i]? = some l → c.threads[j]? = some n →
    lockKey l = svc → lockKey n = svc → l.pc = .post → n.pc = .post → i = j
  unlocking : ∀ l ∈ c.threads, lockKey l = svc → l.pc ≠ .fatal ∧
    ∀ mutex, l.pc = .unlock mutex → mutex = l.id ∧ (c.shared svc).locked mutex = true

theorem Owned.stored {c : Client} {i : Nat} {l : Call} (owned : Owned c)
    (here : c.threads[i]? = some l) (owner : owns l.pc = true) :
    (c.shared (lockKey l)).stored = some i := by
  rw [← owned.placed i l here]
  exact standing_stored (owned.standing l (List.mem_of_getElem? here)) owner

/-- A stored mutex has one owner, the call that stored it: it is running, or its one release
    is pending. One call of a service posts at a time, and every Unlock meets the calling
    timer's own mutex, locked. -/
theorem locks_exclusive (targets : List Target) (history : History) (svc : String) :
    Exclusive (runHistory targets history) svc := by
  have owned := owned_always targets history
  constructor
  · intro k found
    obtain ⟨l, here, at_key, holds⟩ := owned.present svc k found
    exact ⟨l, here, at_key, by simpa [owns] using holds⟩
  · intro k j n found at_j at_key holds
    subst at_key
    have stored := owned.stored at_j (by simpa [owns] using holds)
    rw [stored] at found
    exact Option.some.inj found
  · intro i j l n at_i at_j key_l key_n first second
    subst key_l
    have mine := owned.stored at_i (by rw [first]; rfl)
    have other := owned.stored at_j (by rw [second]; rfl)
    rw [key_n, mine] at other
    exact Option.some.inj other
  · intro l member at_key
    subst at_key
    have mine := owned.standing l member
    constructor
    · intro fatal
      rw [fatal] at mine
      exact mine
    · intro mutex before
      rw [before] at mine
      exact ⟨mine.1, mine.1 ▸ mine.2.2⟩

end RPCLocks
