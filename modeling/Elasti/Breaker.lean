import Elasti.Semaphore

/- Breaker.Maybe as goroutines that share one counter and one semaphore. A goroutine's
   local state is the next atomic operation of its call, with the values it has loaded. -/
namespace ThrottlerBreaker
open GuardedRuns ThreadPool ThrottlerSemaphore

structure BreakerParams where
  queueDepth : Int
  maxConcurrency : Int
  initialCapacity : Int

def int64 (x : Int) : Int := x.bmod (2 ^ 64)

structure Breaker where
  inFlight : Int
  totalSlots : Int
  sem : Sem

def newBreaker (p : BreakerParams) : Breaker :=
  ⟨0, int64 (p.queueDepth + p.maxConcurrency), newSemaphore p.maxConcurrency p.initialCapacity⟩

inductive Outcome where
  | done
  | queueFull
  | cancelled
  | unpaired
  deriving DecidableEq, Repr

inductive MaybePc where
  | tryLoad
  | tryCas (cur : Int)
  | acquiring (pc : AcquirePc)
  | thunk
  | releasing (pc : ReleasePc)
  | slotLoad (out : Outcome)
  | slotCas (out : Outcome) (cur : Int)
  | returned (out : Outcome)
  deriving DecidableEq, Repr

def tryAcquireInFlightSlot (b : Breaker) : Option Int → Breaker × MaybePc
  | none => if b.inFlight ≥ b.totalSlots then (b, .returned .queueFull)
    else (b, .tryCas b.inFlight)
  | some cur => if b.inFlight = cur then ({ b with inFlight := int64 (cur + 1) }, .acquiring .load)
    else (b, .tryLoad)

/-- One atomic operation of releaseInFlightSlot. The loop body returns after its first
    compare-and-swap, whether or not that swapped. -/
def releaseInFlightSlot (b : Breaker) (out : Outcome) : Option Int → Breaker × MaybePc
  | none => (b, .slotCas out b.inFlight)
  | some cur => if b.inFlight = cur then ({ b with inFlight := int64 (cur - 1) }, .returned out)
    else (b, .returned out)

def afterAcquire : AcquireStatus → MaybePc
  | .running pc => .acquiring pc
  | .acquired => .thunk
  | .cancelled => .slotLoad .cancelled

def afterRelease : ReleaseStatus → MaybePc
  | .running pc => .releasing pc
  | .released => .slotLoad .done
  | .unpaired => .slotLoad .unpaired

def maybe (b : Breaker) : MaybePc → Choice → Option (Breaker × MaybePc)
  -- deferred calls run in the order release, releaseInFlightSlot
  | .tryLoad, .go => some (tryAcquireInFlightSlot b none)
  | .tryCas cur, .go => some (tryAcquireInFlightSlot b (some cur))
  | .acquiring pc, c =>
    (acquire b.sem pc c).map fun r => ({ b with sem := r.1 }, afterAcquire r.2)
  | .thunk, .go => some (b, .releasing .load)
  | .releasing pc, .go =>
    some ({ b with sem := (release b.sem pc).1 }, afterRelease (release b.sem pc).2)
  | .slotLoad out, .go => some (releaseInFlightSlot b out none)
  | .slotCas out cur, .go => some (releaseInFlightSlot b out (some cur))
  | _, _ => none

def outside (_ : Breaker) (e : Empty) : Option Breaker := e.elim

abbrev Calls := Pool Breaker MaybePc

def calls (p : BreakerParams) (n : Nat) : Calls := ⟨newBreaker p, List.replicate n .tryLoad⟩

def admitted : MaybePc → Bool
  | .acquiring _ | .thunk | .releasing _ | .slotLoad _ | .slotCas _ _ => true
  | .tryLoad | .tryCas _ | .returned _ => false

def admittedCalls (c : Calls) : Nat := c.threads.countP admitted

def callStep : Calls → Event Choice Empty → Option Calls := step maybe outside

/-- The step is the compare-and-swap of a releaseInFlightSlot whose loaded value is no
    longer the counter's. -/
def staleRelease (c : Calls) : Event Choice Empty → Bool
  | .thread i .go =>
    match c.threads[i]? with
    | some (.slotCas _ cur) => c.shared.inFlight != cur
    | _ => false
  | _ => false

def CountsAdmitted (c : Calls) : Prop := c.shared.inFlight = admittedCalls c

instance (c : Calls) : Decidable (CountsAdmitted c) := by
  unfold CountsAdmitted
  infer_instance

inductive Effect (b : Breaker) : MaybePc → Breaker → MaybePc → Prop where
  | acquired (cur : Int) (same : b.inFlight = cur) :
      Effect b (.tryCas cur) { b with inFlight := int64 (cur + 1) } (.acquiring .load)
  | free (out : Outcome) (cur : Int) (same : b.inFlight = cur) :
      Effect b (.slotCas out cur) { b with inFlight := int64 (cur - 1) } (.returned out)
  | lost (out : Outcome) (cur : Int) (stale : b.inFlight ≠ cur) :
      Effect b (.slotCas out cur) b (.returned out)
  | neutral (pc next : MaybePc) (sem : Sem) (notLast : ∀ out cur, pc ≠ .slotCas out cur)
      (kept : admitted next = admitted pc)
      (below : ∀ cur, next = .tryCas cur → cur < b.totalSlots) :
      Effect b pc { b with sem := sem } next

theorem maybe_effect {b b' : Breaker} {pc pc' : MaybePc} {ch : Choice}
    (ran : maybe b pc ch = some (b', pc')) : Effect b pc b' pc' := by
  cases pc with
  | tryLoad =>
    cases ch <;> simp only [maybe, tryAcquireInFlightSlot, reduceCtorEq] at ran
    split at ran
    · cases ran
      exact .neutral _ _ b.sem (by simp) rfl (by simp)
    · cases ran
      exact .neutral _ _ b.sem (by simp) rfl (by intro cur same; cases same; omega)
  | tryCas cur =>
    cases ch <;> simp only [maybe, tryAcquireInFlightSlot, reduceCtorEq] at ran
    split at ran
    · rename_i same
      cases ran
      exact .acquired cur same
    · cases ran
      exact .neutral _ _ b.sem (by simp) rfl (by simp)
  | acquiring apc =>
    simp only [maybe] at ran
    obtain ⟨⟨sem, status⟩, -, same⟩ := Option.map_eq_some_iff.mp ran
    cases same
    apply Effect.neutral _ _ sem (by simp)
    · cases status <;> rfl
    · cases status <;> simp [afterAcquire]
  | thunk =>
    cases ch <;> simp only [maybe, reduceCtorEq] at ran
    cases ran
    exact .neutral _ _ b.sem (by simp) rfl (by simp)
  | releasing rpc =>
    cases ch <;> simp only [maybe, reduceCtorEq] at ran
    cases ran
    apply Effect.neutral _ _ _ (by simp)
    · cases (release b.sem rpc).2 <;> rfl
    · cases (release b.sem rpc).2 <;> simp [afterRelease]
  | slotLoad out =>
    cases ch <;> simp only [maybe, releaseInFlightSlot, reduceCtorEq] at ran
    cases ran
    exact .neutral _ _ b.sem (by simp) rfl (by simp)
  | slotCas out cur =>
    cases ch <;> simp only [maybe, releaseInFlightSlot, reduceCtorEq] at ran
    split at ran
    · rename_i same
      cases ran
      exact .free out cur same
    · rename_i stale
      cases ran
      exact .lost out cur stale
  | returned out => cases ch <;> simp [maybe] at ran

theorem callStep_effect {c d : Calls} {e : Event Choice Empty} (move : callStep c e = some d) :
    ∃ i pc b next, c.threads[i]? = some pc ∧ d = ⟨b, c.threads.set i next⟩ ∧
      Effect c.shared pc b next ∧
      (∀ out cur, pc = .slotCas out cur → staleRelease c e = (c.shared.inFlight != cur)) ∧
      ((∀ out cur, pc ≠ .slotCas out cur) → staleRelease c e = false) := by
  cases e with
  | thread i ch =>
    obtain ⟨pc, b, next, here, ran, same⟩ := step_thread move
    refine ⟨i, pc, b, next, here, same, maybe_effect ran, ?_, ?_⟩
    · intro out cur last
      subst last
      cases ch with
      | go => simp [staleRelease, here]
      | cancel => simp [maybe] at ran
    · intro notLast
      cases ch with
      | go =>
        simp only [staleRelease, here]
        split
        · rename_i out cur last
          exact absurd (Option.some.inj last) (notLast out cur)
        · rfl
      | cancel => rfl
  | world e => exact e.elim

theorem int64_id {x : Int} (low : -2 ^ 63 ≤ x) (high : x < 2 ^ 63) : int64 x = x := by
  unfold int64
  exact Int.bmod_eq_of_le (by omega) (by omega)

structure Bounded (c : Calls) : Prop where
  above : admittedCalls c ≤ c.shared.inFlight
  below : c.shared.inFlight ≤ max 0 c.shared.totalSlots
  top : c.shared.totalSlots < 2 ^ 63
  loaded : ∀ cur, .tryCas cur ∈ c.threads → cur < c.shared.totalSlots

theorem bounded_start (p : BreakerParams) (n : Nat) : Bounded (calls p n) := by
  have idle : admittedCalls (calls p n) = 0 := by
    simp [admittedCalls, calls, List.countP_replicate, admitted]
  have top : (calls p n).shared.totalSlots < 2 ^ 63 := by
    have wrap := @Int.bmod_lt (p.queueDepth + p.maxConcurrency) (2 ^ 64) (by norm_num)
    simp only [calls, newBreaker, int64]
    omega
  exact ⟨by rw [idle]; simp [calls, newBreaker], by simp [calls, newBreaker], top,
    by simp [calls, List.mem_replicate]⟩

theorem others_loaded {c : Calls} {i : Nat} {next : MaybePc} (inv : Bounded c)
    (fresh : ∀ cur, next = .tryCas cur → cur < c.shared.totalSlots) :
    ∀ cur, MaybePc.tryCas cur ∈ c.threads.set i next → cur < c.shared.totalSlots := by
  intro cur found
  rcases set_member found with same | ⟨j, -, at_j⟩
  · exact fresh cur same.symm
  · exact inv.loaded cur (List.mem_of_getElem? at_j)

theorem excess_step {c d : Calls} {e : Event Choice Empty} (inv : Bounded c)
    (move : callStep c e = some d) :
    d.shared.inFlight - admittedCalls d =
      c.shared.inFlight - admittedCalls c + (staleRelease c e).toNat := by
  obtain ⟨i, pc, b, next, here, rfl, effect, last, notLast⟩ := callStep_effect move
  have moved := count_set (m := next) admitted here
  have member : pc ∈ c.threads := List.mem_of_getElem? here
  obtain ⟨above, below, top, loaded⟩ := inv
  unfold admittedCalls at *
  cases effect with
  | acquired cur same =>
    have room := loaded cur member
    rw [notLast (by simp), int64_id (by omega) (by omega)]
    simp [admitted] at moved ⊢
    omega
  | free out cur same =>
    rw [last out cur rfl]
    simp [admitted] at moved
    rw [int64_id (by omega) (by omega)]
    simp [same]
    omega
  | lost out cur stale =>
    rw [last out cur rfl, bne_iff_ne.mpr stale]
    simp [admitted] at moved
    simp
    omega
  | neutral _ _ sem never kept fresh =>
    rw [notLast never]
    rw [kept] at moved
    simp
    omega

theorem bounded_step (c : Calls) (e : Event Choice Empty) (d : Calls) (inv : Bounded c)
    (move : callStep c e = some d) : Bounded d := by
  have small := inv.above
  have below := inv.below
  have top := inv.top
  have above : admittedCalls d ≤ d.shared.inFlight := by
    have excess := excess_step inv move
    omega
  obtain ⟨i, pc, b, next, here, rfl, effect, -, -⟩ := callStep_effect move
  cases effect with
  | acquired cur same =>
    have room := inv.loaded cur (List.mem_of_getElem? here)
    have counter : int64 (cur + 1) ≤ max 0 c.shared.totalSlots := by
      rw [int64_id (by omega) (by omega)]
      omega
    exact ⟨above, counter, top, others_loaded inv (by simp)⟩
  | free out cur same =>
    have counter : int64 (cur - 1) ≤ max 0 c.shared.totalSlots := by
      rw [int64_id (by omega) (by omega)]
      omega
    exact ⟨above, counter, top, others_loaded inv (by simp)⟩
  | lost out cur stale => exact ⟨above, below, top, others_loaded inv (by simp)⟩
  | neutral _ _ sem never kept fresh => exact ⟨above, below, top, others_loaded inv fresh⟩

theorem countsAdmitted_exact (c : Calls) (e : Event Choice Empty) (d : Calls) (inv : Bounded c)
    (good : CountsAdmitted c) (move : callStep c e = some d) :
    CountsAdmitted d ↔ staleRelease c e = false := by
  have excess := excess_step inv move
  unfold CountsAdmitted at *
  cases stale : staleRelease c e with
  | true => simp only [stale, Bool.toNat_true, reduceCtorEq, iff_false] at excess ⊢; omega
  | false => simp only [stale, Bool.toNat_false, iff_true] at excess ⊢; omega

/-- The counter equals the number of admitted calls throughout a run, and so is zero
    whenever no call is in progress, exactly if no release of the run is stale. -/
theorem inFlight_counts_admitted_iff (p : BreakerParams) (n : Nat)
    (events : List (Event Choice Empty)) (final : Calls)
    (done : run callStep (calls p n) events = some final) :
    Always callStep CountsAdmitted (calls p n) events ↔
      Meets callStep (fun c e => staleRelease c e = false) (calls p n) events := by
  have start : CountsAdmitted (calls p n) := by
    simp [CountsAdmitted, admittedCalls, calls, newBreaker, List.countP_replicate, admitted]
  exact always_iff_meets bounded_step countsAdmitted_exact events (bounded_start p n) start done

def callGoes (i n : Nat) : List (Event Choice Empty) := List.replicate n (.thread i .go)

def sideBySide : List (Event Choice Empty) :=
  callGoes 0 1 ++ callGoes 1 1 ++ callGoes 0 1 ++ callGoes 1 3 ++ callGoes 0 6 ++ callGoes 1 6 ++
    callGoes 0 2 ++ callGoes 1 2

theorem two_calls_count :
    (∃ final, run callStep (calls ⟨1, 1, 1⟩ 2) sideBySide = some final ∧
      final.threads = [.returned .done, .returned .done]) ∧
    Meets callStep (fun c e => staleRelease c e = false) (calls ⟨1, 1, 1⟩ 2) sideBySide ∧
    Always callStep CountsAdmitted (calls ⟨1, 1, 1⟩ 2) sideBySide := by
  have meets : Meets callStep (fun c e => staleRelease c e = false) (calls ⟨1, 1, 1⟩ 2)
      sideBySide := meets_of_guardedRun sideBySide rfl
  have counts := (inFlight_counts_admitted_iff ⟨1, 1, 1⟩ 2 sideBySide _ rfl).mpr meets
  exact ⟨⟨_, rfl, rfl⟩, meets, counts⟩

def bothRelease : List (Event Choice Empty) :=
  [.thread 0 .go, .thread 1 .go, .thread 0 .go, .thread 1 .go]

/-- Two releases that load the same value: the second compare-and-swap fails, both calls
    return, and one slot is gone. -/
theorem two_releases_leak_slot :
    ∃ c, Reach callStep Unguarded (calls ⟨1, 1, 1⟩ 2) c ∧
      c.threads = [.returned .done, .returned .done] ∧ c.shared.inFlight = 1 ∧
      ¬ CountsAdmitted c := by
  exact reaches_of_run (callGoes 0 8 ++ callGoes 1 8 ++ bothRelease)
    (by decide +kernel)

end ThrottlerBreaker
