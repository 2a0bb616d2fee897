import Elasti.Throttler

/- Whether a request that was let into the breaker once is ever turned away. A call that
   tries again gives its slot back first, so between two tries it has none. -/
namespace RetrySlots
open GuardedRuns ThreadPool ThrottlerSemaphore ThrottlerBreaker ResolverThrottler

def inside (l : Call) : Bool :=
  match l.pc with
  | .maybe pc => admitted pc
  | .thunk _ => true
  | _ => false

def owed (l : Call) : Bool :=
  match l.pc with
  | .maybe .tryLoad | .maybe (.tryCas _) => l.ran
  | _ => false

def refuses : MaybePc → Bool
  | .slotLoad .queueFull | .slotCas .queueFull _ | .returned .queueFull => true
  | _ => false

def unserved (l : Call) : Bool :=
  match l.pc with
  | .incLoad | .incStore _ => true
  | .maybe pc => refuses pc
  | .thunk _ => false
  | .decLoad ending | .decStore ending _ | .returned ending => ending = .err .queueFull

/-- No call that was let in before, and whose context is not done, has ended with
    ErrRequestQueueFull. -/
def Kept (c : Tries) : Prop :=
  ∀ l ∈ c.threads, l.ran = true → l.ctx = none → l.pc ≠ .returned (.err .queueFull)

instance (c : Tries) : Decidable (Kept c) := by
  unfold Kept
  infer_instance

/-- The step takes up a slot for good: the admission of a call that had none of its thunks
    run yet, and the slot release of a retrying call that loses its compare-and-swap. -/
def spends (b : Breaker) (l : Call) : Bool :=
  match l.pc with
  | .maybe (.tryCas cur) => !l.ran && b.inFlight == cur
  | .maybe (.slotCas .done cur) => l.ran && l.reenqueue && b.inFlight != cur
  | _ => false

/-- A slot is taken up for good only while there are more free ones than calls that have
    been let in before and are between two tries. -/
def KeepsRoom (c : Tries) : Move → Prop
  | .thread i _ =>
    ∀ l ∈ c.threads[i]?, spends c.shared.breaker l = true →
      c.shared.breaker.inFlight + c.threads.countP owed < c.shared.breaker.totalSlots
  | .world _ => True

instance (c : Tries) (e : Move) : Decidable (KeepsRoom c e) := by
  unfold KeepsRoom
  split <;> infer_instance

inductive Effect (b : Breaker) (l : Call) : Breaker → Call → Prop where
  | enter (cur : Int) (before : l.pc = .maybe (.tryCas cur)) (same : b.inFlight = cur) :
      Effect b l { b with inFlight := int64 (cur + 1) } { l with pc := .maybe (.acquiring .load) }
  | leave (out : Outcome) (cur : Int) (before : l.pc = .maybe (.slotCas out cur))
      (same : b.inFlight = cur) :
      Effect b l { b with inFlight := int64 (cur - 1) } (resume l (.returned out))
  | slip (out : Outcome) (cur : Int) (before : l.pc = .maybe (.slotCas out cur))
      (stale : b.inFlight ≠ cur) : Effect b l b (resume l (.returned out))
  | begin (size : Int) (before : l.pc = .incStore size) : Effect b l b (enterMaybe l)
  | full (before : l.pc = .maybe .tryLoad) (none : b.inFlight ≥ b.totalSlots) :
      Effect b l b { l with pc := .decLoad (.err .queueFull) }
  | neutral (sem : Sem) (m : Call) (sameInside : inside m = inside l) (sameOwed : owed m = owed l)
      (away : unserved m = true → unserved l = true ∧ m.ran = l.ran)
      (seen : ∀ cur, m.pc = .maybe (.tryCas cur) → l.pc = .maybe (.tryCas cur) ∨ cur < b.totalSlots) :
      Effect b l { b with sem := sem } m

theorem resume_inside (l : Call) {pc : MaybePc} (yes : admitted pc = true) :
    inside (resume l pc) = true ∧ owed (resume l pc) = false ∧
      ∀ cur, (resume l pc).pc ≠ .maybe (.tryCas cur) := by
  cases pc <;> simp_all [resume, inside, owed, admitted]

theorem afterLoop_served (l : Call) : afterLoop l ≠ .err .queueFull := by
  unfold afterLoop
  split <;> simp

theorem resume_unserved (l : Call) (pc : MaybePc) :
    unserved (resume l pc) = refuses pc ∧ (refuses pc = true → (resume l pc).ran = l.ran) := by
  cases pc with
  | returned out =>
    cases out with
    | done =>
      simp only [resume]
      split
      · simp [unserved, enterMaybe, refuses]
      · simp [unserved, refuses, afterLoop_served]
    | queueFull | cancelled | unpaired => simp [resume, unserved, refuses]
  | tryLoad | tryCas | acquiring | thunk | releasing | slotLoad | slotCas =>
    simp [resume, unserved, refuses]

theorem maybe_refuses {b c : Breaker} {pc next : MaybePc} {ch : Choice}
    (ran : maybe b pc ch = some (c, next)) (no : refuses next = true) :
    pc = .tryLoad ∨ refuses pc = true := by
  cases pc with
  | tryLoad => exact .inl rfl
  | tryCas cur =>
    cases ch <;> simp only [maybe, tryAcquireInFlightSlot, reduceCtorEq] at ran
    split at ran <;> cases ran <;> cases no
  | acquiring apc =>
    obtain ⟨⟨sem, status⟩, -, same⟩ := Option.map_eq_some_iff.mp ran
    cases same
    cases status <;> cases no
  | thunk =>
    cases ch <;> cases ran
    cases no
  | releasing rpc =>
    cases ch <;> cases ran
    cases status : (release b.sem rpc).2 <;> (rw [status] at no; cases no)
  | slotLoad out =>
    cases ch <;> cases ran
    cases out <;> first | exact .inr rfl | cases no
  | slotCas out cur =>
    cases ch <;> simp only [maybe, releaseInFlightSlot, reduceCtorEq] at ran
    split at ran <;> cases ran <;> cases out <;> first | exact .inr rfl | cases no
  | returned out => cases ch <;> cases ran

theorem tryLoad_effect {t u : Throttler} {l m : Call} {ch : Choice}
    (before : l.pc = .maybe .tryLoad) (ran : maybeStep t l .tryLoad ch = some (u, m)) :
    Effect t.breaker l u.breaker m := by
  cases ch with
  | cancel => cases ran
  | go =>
    simp only [maybeStep, maybe, tryAcquireInFlightSlot, Option.map_some] at ran
    split at ran
    · rename_i none
      cases ran
      exact .full before none
    · rename_i room
      cases ran
      refine .neutral t.breaker.sem _ ?_ ?_ ?_ ?_
      · simp [resume, inside, before, admitted]
      · simp [resume, owed, before]
      · simp [resume, unserved, refuses]
      · intro cur same
        simp only [resume, TryPc.maybe.injEq, MaybePc.tryCas.injEq] at same
        omega

theorem tryCas_effect {t u : Throttler} {l m : Call} {cur : Int} {ch : Choice}
    (before : l.pc = .maybe (.tryCas cur)) (ran : maybeStep t l (.tryCas cur) ch = some (u, m)) :
    Effect t.breaker l u.breaker m := by
  cases ch with
  | cancel => cases ran
  | go =>
    simp only [maybeStep, maybe, tryAcquireInFlightSlot, Option.map_some] at ran
    split at ran
    · rename_i same
      cases ran
      exact .enter cur before same
    · cases ran
      refine .neutral t.breaker.sem _ ?_ ?_ ?_ ?_
      · simp [resume, inside, before, admitted]
      · simp [resume, owed, before]
      · simp [resume, unserved, refuses]
      · simp [resume]

theorem maybeStep_effect {t u : Throttler} {l m : Call} {pc : MaybePc} {ch : Choice}
    (before : l.pc = .maybe pc) (ran : maybeStep t l pc ch = some (u, m)) :
    Effect t.breaker l u.breaker m := by
  cases here : admitted pc with
  | false =>
    cases pc with
    | tryLoad => exact tryLoad_effect before ran
    | tryCas cur => exact tryCas_effect before ran
    | returned out => cases ch <;> cases ran
    | acquiring | thunk | releasing | slotLoad | slotCas => cases here
  | true =>
    obtain ⟨⟨b, next⟩, inner, same⟩ := Option.map_eq_some_iff.mp ran
    cases same
    cases maybe_effect inner with
    | acquired cur same => exact .enter cur before same
    | free out cur same => exact .leave out cur before same
    | lost out cur stale => exact .slip out cur before stale
    | neutral _ _ sem notLast kept below =>
      obtain ⟨stays, notOwed, elsewhere⟩ := resume_inside l (kept.trans here)
      have slot : inside l = true := by
        rw [inside, before]
        exact here
      have outdoors : owed l = false := by
        cases pc <;> simp_all [owed, admitted]
      refine .neutral sem _ (stays.trans slot.symm) (notOwed.trans outdoors.symm) ?_ ?_
      · intro no
        rw [(resume_unserved l next).1] at no
        rcases maybe_refuses inner no with rfl | refused
        · cases here
        · exact ⟨by rw [unserved, before]; exact refused, (resume_unserved l next).2 no⟩
      · intro cur same
        exact absurd same (elsewhere cur)

theorem thunkStep_effect {t u : Throttler} {l m : Call} {pc : ThunkPc} {a : Answer}
    (before : l.pc = .thunk pc) (ran : thunkStep t l pc a = some (u, m)) :
    Effect t.breaker l u.breaker m := by
  obtain ⟨same, -, -, after⟩ := thunkStep_spec ran
  rw [same]
  refine .neutral t.breaker.sem m ?_ ?_ ?_ ?_
  all_goals rcases after with ⟨next, after⟩ | after
  all_goals simp [inside, owed, unserved, refuses, before, after, admitted]

theorem tryStep_effect {t u : Throttler} {l m : Call} {a : Answer}
    (ran : tryStep t l a = some (u, m)) : Effect t.breaker l u.breaker m := by
  cases tryStep_cases ran with
  | contextDone err =>
    exact .neutral t.breaker.sem _ rfl rfl (fun away => ⟨away, rfl⟩) (fun _ before => .inl before)
  | incLoad size before =>
    exact .neutral t.breaker.sem _ (by simp [inside, before]) (by simp [owed, before])
      (by simp [unserved, before]) (by simp)
  | incStore size before => exact .begin size before
  | maybe pc ch _ _ _ before ran => exact maybeStep_effect before ran
  | thunk pc _ _ _ before ran => exact thunkStep_effect before ran
  | decLoad ending size before | decStore ending size before =>
    exact .neutral t.breaker.sem _ (by simp [inside, before]) (by simp [owed, before])
      (by simp [unserved, before]) (by simp)

structure Room (c : Tries) : Prop where
  above : c.threads.countP inside ≤ c.shared.breaker.inFlight
  room : c.shared.breaker.inFlight + c.threads.countP owed ≤ max 0 c.shared.breaker.totalSlots
  top : c.shared.breaker.totalSlots < 2 ^ 63
  loaded : ∀ l ∈ c.threads, ∀ cur, l.pc = .maybe (.tryCas cur) →
    cur < c.shared.breaker.totalSlots
  unrun : ∀ l ∈ c.threads, unserved l = true → l.ran = false

theorem room_start (p : BreakerParams) (hosts : List Host) : Room (tries p hosts) := by
  have noneInside : (tries p hosts).threads.countP inside = 0 := by
    simp [tries, List.countP_eq_zero, newCall, inside]
  have noneOwed : (tries p hosts).threads.countP owed = 0 := by
    simp [tries, List.countP_eq_zero, newCall, owed]
  have top := (bounded_start p 0).top
  constructor
  · rw [noneInside]
    exact Int.le_refl 0
  · rw [noneOwed]
    exact le_max_left 0 _
  · exact top
  · simp [tries, newCall]
  · simp [tries, newCall]

theorem room_set {c : Tries} {i : Nat} {l m : Call} {t : Throttler} (inv : Room c)
    (here : c.threads[i]? = some l)
    (total : t.breaker.totalSlots = c.shared.breaker.totalSlots)
    (above : c.threads.countP inside + (inside m).toNat ≤
      t.breaker.inFlight + (inside l).toNat)
    (room : t.breaker.inFlight + c.threads.countP owed + (owed m).toNat ≤
      max 0 c.shared.breaker.totalSlots + (owed l).toNat)
    (loaded : ∀ cur, m.pc = .maybe (.tryCas cur) → cur < c.shared.breaker.totalSlots)
    (unrun : unserved m = true → m.ran = false) : Room ⟨t, c.threads.set i m⟩ := by
  have slots := count_set_toNat inside m here
  have debts := count_set_toNat owed m here
  constructor
  · dsimp only
    omega
  · dsimp only
    omega
  · exact total ▸ inv.top
  · intro n found cur before
    rw [total]
    rcases List.mem_or_eq_of_mem_set found with old | rfl
    · exact inv.loaded n old cur before
    · exact loaded cur before
  · intro n found
    rcases List.mem_or_eq_of_mem_set found with old | rfl
    · exact inv.unrun n old
    · exact unrun

theorem owed_returned (l : Call) (out : Outcome) :
    owed (resume l (.returned out)) = (decide (out = .done) && l.ran && l.reenqueue) := by
  cases out with
  | done =>
    cases again : l.reenqueue <;> simp [resume, owed, enterMaybe, again]
  | queueFull | cancelled | unpaired => simp [resume, owed]

theorem inside_returned (l : Call) (out : Outcome) :
    inside (resume l (.returned out)) = false ∧
      ∀ cur, (resume l (.returned out)).pc ≠ .maybe (.tryCas cur) := by
  cases out with
  | done =>
    cases again : l.reenqueue <;> simp [resume, inside, enterMaybe, again, admitted]
  | queueFull | cancelled | unpaired => simp [resume, inside]

theorem room_returned {c : Tries} {i : Nat} {l : Call} {t : Throttler} {out : Outcome} {cur : Int}
    (inv : Room c) (here : c.threads[i]? = some l) (before : l.pc = .maybe (.slotCas out cur))
    (total : t.breaker.totalSlots = c.shared.breaker.totalSlots)
    (low : c.shared.breaker.inFlight ≤ t.breaker.inFlight + 1)
    (room : t.breaker.inFlight + c.threads.countP owed +
      (decide (out = .done) && l.ran && l.reenqueue).toNat ≤
        max 0 c.shared.breaker.totalSlots) :
    Room ⟨t, c.threads.set i (resume l (.returned out))⟩ := by
  have above := inv.above
  have slot : inside l = true := by simp [inside, before, admitted]
  have free : owed l = false := by simp [owed, before]
  obtain ⟨gone, elsewhere⟩ := inside_returned l out
  obtain ⟨same, sameRan⟩ := resume_unserved l (.returned out)
  apply room_set inv here total
  · rw [gone, slot]
    simp only [Bool.toNat_true, Bool.toNat_false]
    omega
  · rw [owed_returned, free]
    simpa using room
  · intro cur at_cas
    exact absurd at_cas (elsewhere cur)
  · intro no
    rw [same] at no
    have refused : unserved l = true := by
      cases out <;> simp_all [unserved, refuses]
    rw [sameRan no]
    exact inv.unrun l (List.mem_of_getElem? here) refused

section
variable {c : Tries} {i : Nat} {l : Call} {t : Throttler} (inv : Room c)
  (here : c.threads[i]? = some l)
include inv here

theorem room_enter {cur : Int} (before : l.pc = .maybe (.tryCas cur))
    (same : c.shared.breaker.inFlight = cur)
    (next : t.breaker = { c.shared.breaker with inFlight := int64 (cur + 1) })
    (keeps : spends c.shared.breaker l = true →
      c.shared.breaker.inFlight + c.threads.countP owed < c.shared.breaker.totalSlots) :
    Room ⟨t, c.threads.set i { l with pc := .maybe (.acquiring .load) }⟩ := by
  -- a first admission is what the condition speaks of; a later one pays its own debt
  have above := inv.above
  have room := inv.room
  have top := inv.top
  have below := inv.loaded l (List.mem_of_getElem? here) cur before
  have counted : int64 (cur + 1) = cur + 1 := int64_id (by omega) (by omega)
  apply room_set inv here (by rw [next])
  · simp only [next, counted, inside, before, admitted, Bool.toNat_true, Bool.toNat_false]
    omega
  · simp only [next, counted, before, owed]
    cases served : l.ran
    · have := keeps (by simp [spends, before, same, served])
      simp only [Bool.toNat_false]
      omega
    · simp only [Bool.toNat_true, Bool.toNat_false]
      omega
  · simp
  · simp [unserved, refuses]

theorem room_leave {out : Outcome} {cur : Int} (before : l.pc = .maybe (.slotCas out cur))
    (same : c.shared.breaker.inFlight = cur)
    (next : t.breaker = { c.shared.breaker with inFlight := int64 (cur - 1) }) :
    Room ⟨t, c.threads.set i (resume l (.returned out))⟩ := by
  have above := inv.above
  have room := inv.room
  have top := inv.top
  have mine : 0 < c.threads.countP inside :=
    List.countP_pos_iff.mpr ⟨l, List.mem_of_getElem? here, by simp [inside, before, admitted]⟩
  have counted : int64 (cur - 1) = cur - 1 := int64_id (by omega) (by omega)
  have small := Bool.toNat_le (decide (out = .done) && l.ran && l.reenqueue)
  apply room_returned inv here before (by rw [next])
  · simp only [next, counted]
    omega
  · simp only [next, counted]
    omega

theorem room_slip {out : Outcome} {cur : Int} (before : l.pc = .maybe (.slotCas out cur))
    (stale : c.shared.breaker.inFlight ≠ cur) (next : t.breaker = c.shared.breaker)
    (keeps : spends c.shared.breaker l = true →
      c.shared.breaker.inFlight + c.threads.countP owed < c.shared.breaker.totalSlots) :
    Room ⟨t, c.threads.set i (resume l (.returned out))⟩ := by
  -- a release that loses its swap keeps the slot: a call that tries again needs another
  have room := inv.room
  apply room_returned inv here before (by rw [next])
  · rw [next]
    omega
  · rw [next]
    cases again : decide (out = .done) && l.ran && l.reenqueue
    · simpa using room
    · have := keeps (by simp_all [spends])
      simp only [Bool.toNat_true]
      omega

theorem room_full (before : l.pc = .maybe .tryLoad)
    (none : c.shared.breaker.inFlight ≥ c.shared.breaker.totalSlots)
    (next : t.breaker = c.shared.breaker) :
    Room ⟨t, c.threads.set i { l with pc := .decLoad (.err .queueFull) }⟩ := by
  -- a call that finds no slot has never had one, since one was kept for each that had
  have above := inv.above
  have room := inv.room
  have young : l.ran = false := by
    by_contra served
    have debt : 0 < c.threads.countP owed :=
      List.countP_pos_iff.mpr ⟨l, List.mem_of_getElem? here, by simpa [owed, before] using served⟩
    omega
  apply room_set inv here (by rw [next])
  · rw [next]
    simpa [inside, before, admitted] using above
  · rw [next]
    simpa [owed, before, young] using room
  · simp
  · intro _
    exact young

end

theorem room_effect {c : Tries} {i : Nat} {l m : Call} {t : Throttler} (inv : Room c)
    (here : c.threads[i]? = some l)
    (keeps : spends c.shared.breaker l = true →
      c.shared.breaker.inFlight + c.threads.countP owed < c.shared.breaker.totalSlots)
    (effect : Effect c.shared.breaker l t.breaker m) : Room ⟨t, c.threads.set i m⟩ := by
  have member : l ∈ c.threads := List.mem_of_getElem? here
  have above := inv.above
  have room := inv.room
  generalize next : t.breaker = b at effect
  cases effect with
  | enter cur before same => exact room_enter inv here before same next keeps
  | leave out cur before same => exact room_leave inv here before same next
  | slip out cur before stale => exact room_slip inv here before stale next keeps
  | full before none => exact room_full inv here before none next
  | begin size before =>
    have young := inv.unrun l member (by simp [unserved, before])
    apply room_set inv here (by rw [next])
    · rw [next]
      simpa [inside, enterMaybe, before, admitted] using above
    · rw [next]
      simpa [owed, enterMaybe, before, young] using room
    · simp [enterMaybe]
    · simp [unserved, enterMaybe, refuses]
  | neutral sem m sameInside sameOwed away seen =>
    apply room_set inv here (by rw [next])
    · rw [next, sameInside]
      simpa using above
    · rw [next, sameOwed]
      simpa using room
    · intro cur at_cas
      rcases seen cur at_cas with before | below
      · exact inv.loaded l member cur before
      · exact below
    · intro no
      obtain ⟨before, sameRan⟩ := away no
      rw [sameRan]
      exact inv.unrun l member before

theorem room_step (c : Tries) (e : Move) (d : Tries) (inv : Room c) (keeps : KeepsRoom c e)
    (move : triesStep c e = some d) : Room d := by
  cases e with
  | world k =>
    obtain ⟨t, ran, rfl⟩ := step_world move
    obtain ⟨key, -, rfl⟩ := Option.map_eq_some_iff.mp ran
    exact ⟨inv.above, inv.room, inv.top, inv.loaded, inv.unrun⟩
  | thread i a =>
    obtain ⟨l, t, m, here, ran, rfl⟩ := step_thread move
    exact room_effect inv here (keeps l here) (tryStep_effect ran)

/-- In every run that keeps room for the calls between two tries, a call once let in is not
    turned away later. -/
theorem accepted_kept (p : BreakerParams) (hosts : List Host) (d : Tries)
    (reach : Reach triesStep KeepsRoom (tries p hosts) d) : Kept d := by
  have inv : Room d := reach_invariant Room (room_start p hosts) room_step reach
  intro l member ran _ ended
  have unrun := inv.unrun l member (by simp [unserved, ended])
  rw [ran] at unrun
  contradiction

def firstTry (i : Nat) : List Move := goes i 7 ++ .thread i (.active false) :: goes i 7

def secondTry (i : Nat) : List Move :=
  goes i 5 ++ .thread i (.active true) :: goes i 2 ++ .thread i (.resolved none) :: goes i 8

theorem retry_served_with_room :
    ∃ d, Reach triesStep KeepsRoom (tries ⟨1, 1, 1⟩ [web, web]) d ∧
      d.threads.map (fun l => (l.ran, l.pc)) =
        [(true, .returned .nil), (false, .maybe (.acquiring .load))] ∧ Kept d := by
  have reach : Reach triesStep KeepsRoom (tries ⟨1, 1, 1⟩ [web, web]) _ :=
    reach_of_guardedRun (firstTry 0 ++ goes 1 4 ++ secondTry 0) rfl
  exact ⟨_, reach, rfl, accepted_kept ⟨1, 1, 1⟩ [web, web] _ reach⟩

/-- One slot. While the first call is between two tries the second takes it, and the first
    ends with ErrRequestQueueFull. -/
theorem retry_turned_away :
    ∃ d, Reach triesStep Unguarded (tries ⟨0, 1, 1⟩ [web, web]) d ∧
      d.threads.map (fun l => (l.ran, l.ctx, l.pc)) =
        [(true, none, .returned (.err .queueFull)), (false, none, .maybe (.acquiring .load))] ∧
      ¬ Kept d := by
  exact reaches_of_run (firstTry 0 ++ goes 1 4 ++ goes 0 3) (by decide +kernel)

end RetrySlots
