import Elasti.Breaker
import Elasti.SemaphoreRuns

/- How many calls the breaker lets in, and how many thunks run at once. Seen through its
   semaphore, a call of Maybe is one goroutine that acquires and releases. -/
namespace BreakerLimits
open GuardedRuns ThreadPool ThrottlerSemaphore ThrottlerBreaker SemaphoreRuns

def role : MaybePc → Goroutine
  | .acquiring pc => .acquiring pc
  | .thunk => .holding
  | .releasing pc => .releasing pc
  | .slotLoad .unpaired | .slotCas .unpaired _ | .returned .unpaired => .panicked
  | .tryLoad | .tryCas _ | .slotLoad _ | .slotCas _ _ | .returned _ => .idle

theorem role_afterAcquire (status : AcquireStatus) :
    role (ThrottlerBreaker.afterAcquire status) = SemaphoreRuns.afterAcquire status := by
  cases status <;> rfl

theorem role_afterRelease (status : ReleaseStatus) :
    role (ThrottlerBreaker.afterRelease status) = SemaphoreRuns.afterRelease status := by
  cases status <;> rfl

theorem maybe_role {b t : Breaker} {pc next : MaybePc} {ch : Choice}
    (ran : maybe b pc ch = some (t, next)) :
    (t.sem = b.sem ∧ role next = role pc) ∨
      ∃ a, exec b.sem (role pc) a = some (t.sem, role next) := by
  cases pc with
  | tryLoad =>
    cases ch <;> simp only [maybe, tryAcquireInFlightSlot, reduceCtorEq] at ran
    split at ran <;> cases ran <;> exact .inl ⟨rfl, rfl⟩
  | tryCas cur =>
    cases ch <;> simp only [maybe, tryAcquireInFlightSlot, reduceCtorEq] at ran
    split at ran <;> cases ran
    · exact .inr ⟨.go, rfl⟩
    · exact .inl ⟨rfl, rfl⟩
  | acquiring apc =>
    obtain ⟨⟨sem, status⟩, inner, same⟩ := Option.map_eq_some_iff.mp ran
    cases same
    right
    refine ⟨ch, ?_⟩
    rw [role_afterAcquire]
    simp only [role, exec, inner, Option.map_some]
  | thunk =>
    cases ch <;> cases ran
    exact .inr ⟨.go, rfl⟩
  | releasing rpc =>
    cases ch <;> cases ran
    right
    refine ⟨.go, ?_⟩
    rw [role_afterRelease]
    simp only [role, exec]
  | slotLoad out =>
    cases ch <;> cases ran
    cases out <;> exact .inl ⟨rfl, rfl⟩
  | slotCas out cur =>
    cases ch <;> simp only [maybe, releaseInFlightSlot, reduceCtorEq] at ran
    split at ran <;> cases ran <;> cases out <;> exact .inl ⟨rfl, rfl⟩
  | returned out => cases ch <;> cases ran

def roles (c : Calls) : Goroutines := ⟨c.shared.sem, c.threads.map role⟩

theorem roles_reach {p : BreakerParams} {n : Nat} {d : Calls}
    (reach : Reach callStep Unguarded (calls p n) d) :
    Reach semStep Unguarded (start p.maxConcurrency p.initialCapacity n) (roles d) := by
  have begin : roles (calls p n) = start p.maxConcurrency p.initialCapacity n := by
    simp [roles, calls, newBreaker, start, role]
  rw [← begin]
  exact reach_project Breaker.sem role (fun _ _ _ _ _ ran => maybe_role ran)
    (fun _ e => e.elim) reach

theorem totalSlots_kept {b t : Breaker} {pc next : MaybePc} (effect : Effect b pc t next) :
    t.totalSlots = b.totalSlots := by
  cases effect <;> rfl

theorem bounded_reach {p : BreakerParams} {n : Nat} {d : Calls}
    (reach : Reach callStep Unguarded (calls p n) d) :
    Bounded d ∧ d.shared.totalSlots = (newBreaker p).totalSlots := by
  apply reach_invariant (fun c => Bounded c ∧ c.shared.totalSlots = (newBreaker p).totalSlots)
    ⟨bounded_start p n, rfl⟩ ?_ reach
  intro c e d inv _ move
  obtain ⟨bounded, slots⟩ := inv
  refine ⟨bounded_step c e d bounded move, ?_⟩
  obtain ⟨i, pc, b, next, -, rfl, effect, -, -⟩ := callStep_effect move
  exact (totalSlots_kept effect).trans slots

/-- However the calls interleave, at most totalSlots of them are between their admission
    and their return, and the counter stays between zero and totalSlots. -/
theorem admitted_within_slots (p : BreakerParams) (n : Nat)
    (slots : 0 ≤ (newBreaker p).totalSlots) (d : Calls)
    (reach : Reach callStep Unguarded (calls p n) d) :
    admittedCalls d ≤ (newBreaker p).totalSlots ∧ 0 ≤ d.shared.inFlight ∧
      d.shared.inFlight ≤ (newBreaker p).totalSlots := by
  obtain ⟨bounded, same⟩ := bounded_reach reach
  have above := bounded.above
  have below := bounded.below
  rw [same] at below
  omega

theorem two_slots_two_admitted :
    ∃ d, Reach callStep Unguarded (calls ⟨1, 1, 1⟩ 3) d ∧ admittedCalls d = 2 ∧
      d.threads[2]? = some (.returned .queueFull) ∧ admittedCalls d ≤ (2 : Int) := by
  have reach : Reach callStep Unguarded (calls ⟨1, 1, 1⟩ 3)
      ⟨⟨2, 2, ⟨4294967296, 1, 1, 0, 0⟩⟩,
        [.acquiring .load, .acquiring .load, .returned .queueFull]⟩ :=
    reach_of_run [.thread 0 .go, .thread 0 .go, .thread 1 .go, .thread 1 .go, .thread 2 .go] rfl
  have bounds := admitted_within_slots ⟨1, 1, 1⟩ 3 (by decide) _ reach
  exact ⟨_, reach, rfl, rfl, bounds.1⟩

def executing : MaybePc → Bool
  | .thunk => true
  | _ => false

def executingCalls (c : Calls) : Nat := c.threads.countP executing

theorem executing_le_admitted (c : Calls) : executingCalls c ≤ admittedCalls c := by
  apply List.countP_mono_left
  intro pc _ runs
  cases pc <;> simp_all [executing, admitted]

theorem executing_le_holders (c : Calls) : executingCalls c ≤ holders (roles c) := by
  unfold executingCalls holders roles
  rw [List.countP_map]
  apply List.countP_mono_left
  intro pc _ runs
  cases pc <;> simp_all [executing, role, holds]

theorem executing_le {p : BreakerParams} {n : Nat} {d : Calls}
    (reach : Reach callStep Unguarded (calls p n) d) :
    executingCalls d ≤ min (p.initialCapacity % 2 ^ 32) (max 0 (newBreaker p).totalSlots) := by
  obtain ⟨bounded, same⟩ := bounded_reach reach
  have above := bounded.above
  have below := bounded.below
  have capacity := (packed_reach (roles_reach reach)).within
  have inside := executing_le_admitted d
  have holding := executing_le_holders d
  rw [same] at below
  omega

theorem enter {p : BreakerParams} {n i : Nat} {c : Calls}
    (reach : Reach callStep Unguarded (calls p n) c) (here : c.threads[i]? = some .tryLoad)
    (slot : ¬ c.shared.inFlight ≥ c.shared.totalSlots)
    (place : ¬ (unpack c.shared.sem.state).2 ≥ (unpack c.shared.sem.state).1) :
    ∃ d, Reach callStep Unguarded (calls p n) d ∧ d.threads = c.threads.set i .thunk ∧
      d.shared.inFlight = int64 (c.shared.inFlight + 1) := by
  obtain ⟨bound, -⟩ := List.getElem?_eq_some_iff.mp here
  have again : ∀ pc : MaybePc, (c.threads.set i pc)[i]? = some pc := by
    intro pc
    simp [bound]
  have loaded := reach_thread (m := .tryCas c.shared.inFlight) .go reach here
    (by simp only [maybe, tryAcquireInFlightSlot, if_neg slot]; rfl)
  have admitted := reach_thread .go loaded (again _)
    (by simp only [maybe, tryAcquireInFlightSlot, if_true]; rfl)
  rw [List.set_set] at admitted
  have seen := reach_thread (m := .acquiring (.cas c.shared.sem.state)) .go admitted (again _)
    (by simp only [maybe, acquire, if_neg place]; rfl)
  rw [List.set_set] at seen
  have entered := reach_thread (m := .thunk) .go seen (again _)
    (by simp only [maybe, acquire, if_true]; rfl)
  rw [List.set_set] at entered
  exact ⟨_, entered, rfl, rfl⟩

def inThunks (k rest : Nat) : List MaybePc :=
  List.replicate k .thunk ++ List.replicate rest .tryLoad

theorem enter_threads (k rest : Nat) :
    (inThunks k (rest + 1)).set k .thunk = inThunks (k + 1) rest := by
  unfold inThunks
  rw [List.set_append_right _ _ (by simp), List.length_replicate, Nat.sub_self,
    List.replicate_succ, List.set_cons_zero, List.replicate_succ', List.append_assoc]
  rfl

theorem fill (p : BreakerParams) (k rest : Nat)
    (fits : (k : Int) ≤ min (p.initialCapacity % 2 ^ 32) (max 0 (newBreaker p).totalSlots)) :
    ∃ d, Reach callStep Unguarded (calls p (k + rest)) d ∧ d.threads = inThunks k rest ∧
      d.shared.inFlight = k := by
  induction k generalizing rest with
  | zero => exact ⟨_, .refl, by simp [inThunks, calls], rfl⟩
  | succ k ih =>
    obtain ⟨c, reach, threads, counter⟩ := ih (rest + 1) (by omega)
    obtain ⟨bounded, slots⟩ := bounded_reach reach
    have top := bounded.top
    obtain ⟨high, low⟩ := packed_unpack (by omega) (packed_reach (roles_reach reach))
    have held : holders (roles c) = k := by
      simp [holders, roles, threads, inThunks, List.countP_replicate, role, holds]
    have here : c.threads[k]? = some .tryLoad := by
      rw [threads, inThunks, List.getElem?_append_right (by simp)]
      simp
    have place : ¬ (unpack c.shared.sem.state).2 ≥ (unpack c.shared.sem.state).1 := by
      rw [ge_iff_le, UInt64.le_iff_toNat_le]
      simp only [roles] at high low held
      omega
    obtain ⟨d, reach, after, next⟩ := enter reach here (by omega) place
    rw [Nat.add_right_comm k 1 rest, Nat.add_assoc]
    refine ⟨d, reach, ?_, ?_⟩
    · rw [after, threads, enter_threads]
    · rw [next, counter, int64_id (by omega) (by omega)]
      rfl

/-- At most maxConcurrency thunks run at once, whatever the interleaving, exactly if the
    semaphore's capacity or the number of slots is no larger. The capacity is the low half
    of initialCapacity, and maxConcurrency does not enter into it. -/
theorem thunks_bounded_iff (p : BreakerParams) :
    (∀ n d, Reach callStep Unguarded (calls p n) d → executingCalls d ≤ p.maxConcurrency) ↔
      min (p.initialCapacity % 2 ^ 32) (max 0 (newBreaker p).totalSlots) ≤ p.maxConcurrency := by
  constructor
  · intro bounded
    obtain ⟨k, same⟩ := Int.eq_ofNat_of_zero_le
      (show 0 ≤ min (p.initialCapacity % 2 ^ 32) (max 0 (newBreaker p).totalSlots) by omega)
    obtain ⟨d, reach, threads, -⟩ := fill p k 0 (by omega)
    have most := bounded _ d reach
    have count : executingCalls d = k := by
      simp [executingCalls, threads, inThunks, List.countP_replicate, executing]
    omega
  · intro small n d reach
    have most := executing_le reach
    omega

/-- The resolver's own defaults: a queue of 100, at most 10 at once, capacity 100. -/
def defaults : BreakerParams := ⟨100, 10, 100⟩

def runsThunk (i : Nat) : List (Event Choice Empty) := List.replicate 4 (.thread i .go)

theorem defaults_run_eleven_thunks :
    ∃ d, Reach callStep Unguarded (calls defaults 11) d ∧
      executingCalls d = 11 ∧ defaults.maxConcurrency = 10 := by
  exact reaches_of_run ((List.range 11).flatMap runsThunk) (by decide +kernel)

end BreakerLimits
