import Elasti.ThreadPool

/- The traffic switch of one cached host. A call of ScheduleDisableTrafficForHost goes on as
   its grace timer, the timer's callback, the re-enable timer and that timer's callback.
   Every read and write of a field of the host and every start of a timer is one step; a
   pending timer fires at any time. -/
namespace HostManager
open GuardedRuns ThreadPool

/-- The map keeps one pointer for the host's name and nothing deletes it, so a Load finds
    this record and a Store changes nothing. -/
structure Host where
  trafficAllowed : Bool
  trafficDisableScheduled : Bool
  deriving DecidableEq, Repr

inductive SchedulePc where
  | readScheduled
  | setScheduled
  | startTimer
  deriving DecidableEq, Repr

inductive DisablePc where
  | readAllowed
  | setAllowed
  | startTimer
  deriving DecidableEq, Repr

inductive EnablePc where
  | readAllowed
  | setAllowed
  deriving DecidableEq, Repr

inductive Pc where
  | schedule (pc : SchedulePc)
  | graceTimer
  | clearScheduled
  | disable (pc : DisablePc)
  | reEnableTimer
  | enable (pc : EnablePc)
  | returned
  deriving DecidableEq, Repr

def scheduleDisableTrafficForHost (h : Host) : SchedulePc → Host × Pc
  | .readScheduled =>
    (h, if h.trafficDisableScheduled then .returned else .schedule .setScheduled)
  | .setScheduled => ({ h with trafficDisableScheduled := true }, .schedule .startTimer)
  | .startTimer => (h, .graceTimer)

def disableTrafficForHost (h : Host) : DisablePc → Host × Pc
  | .readAllowed => (h, if h.trafficAllowed then .disable .setAllowed else .returned)
  | .setAllowed => ({ h with trafficAllowed := false }, .disable .startTimer)
  | .startTimer => (h, .reEnableTimer)

def enableTrafficForHost (h : Host) : EnablePc → Host × Pc
  | .readAllowed => (h, if h.trafficAllowed then .returned else .enable .setAllowed)
  | .setAllowed => ({ h with trafficAllowed := true }, .returned)

def exec (h : Host) : Pc → Unit → Option (Host × Pc)
  | .schedule pc, _ => some (scheduleDisableTrafficForHost h pc)
  | .graceTimer, _ => some (h, .clearScheduled)
  | .clearScheduled, _ => some ({ h with trafficDisableScheduled := false }, .disable .readAllowed)
  | .disable pc, _ => some (disableTrafficForHost h pc)
  | .reEnableTimer, _ => some (h, .enable .readAllowed)
  | .enable pc, _ => some (enableTrafficForHost h pc)
  | .returned, _ => none

def outside (_ : Host) (e : Empty) : Option Host := e.elim

abbrev Traffic := Pool Host Pc

abbrev Move := Event Unit Empty

def trafficStep : Traffic → Move → Option Traffic := step exec outside

def cached (requests : Nat) : Traffic :=
  ⟨⟨true, false⟩, List.replicate requests (.schedule .readScheduled)⟩

/-- A re-enable timer is pending, a disable callback is about to start one, or a re-enable
    callback is about to allow traffic. -/
def ReEnables (l : Pc) : Prop :=
  l = .reEnableTimer ∨ l = .disable .startTimer ∨ ∃ pc, l = .enable pc

def stepsToEnable : Pc → Nat
  | .disable .startTimer => 4
  | .reEnableTimer => 3
  | .enable .readAllowed => 2
  | .enable .setAllowed => 1
  | _ => 0

theorem reEnables_iff (l : Pc) : ReEnables l ↔ 0 < stepsToEnable l := by
  unfold ReEnables
  cases l with
  | disable pc => cases pc <;> simp [stepsToEnable]
  | enable pc => cases pc <;> simp [stepsToEnable]
  | schedule pc => simp [stepsToEnable]
  | graceTimer | clearScheduled | reEnableTimer | returned => simp [stepsToEnable]

theorem exec_disallows {h k : Host} {l m : Pc} {a : Unit} (ran : exec h l a = some (k, m))
    (on : h.trafficAllowed = true) (off : k.trafficAllowed = false) : ReEnables m := by
  cases l with
  | disable pc =>
    cases pc with
    | setAllowed =>
      cases ran
      exact .inr (.inl rfl)
    | readAllowed | startTimer =>
      cases ran
      rw [on] at off
      contradiction
  | enable pc => cases pc <;> cases ran <;> simp [on] at off
  | schedule pc => cases pc <;> cases ran <;> simp [on] at off
  | graceTimer | clearScheduled | reEnableTimer =>
    cases ran
    rw [on] at off
    contradiction
  | returned => cases ran

theorem exec_nearer {h k : Host} {l m : Pc} {a : Unit} (ran : exec h l a = some (k, m))
    (off : h.trafficAllowed = false) (still : k.trafficAllowed = false) (mine : ReEnables l) :
    ReEnables m ∧ stepsToEnable m + 1 = stepsToEnable l := by
  rcases mine with rfl | rfl | ⟨pc, rfl⟩
  · cases ran
    exact ⟨.inr (.inr ⟨_, rfl⟩), rfl⟩
  · cases ran
    exact ⟨.inl rfl, rfl⟩
  · cases pc with
    | readAllowed =>
      simp only [exec, enableTrafficForHost, off, Option.some.injEq, Prod.mk.injEq] at ran
      obtain ⟨-, rfl⟩ := ran
      exact ⟨.inr (.inr ⟨_, rfl⟩), rfl⟩
    | setAllowed =>
      cases ran
      contradiction

def Disallowed (c : Traffic) : Prop := c.shared.trafficAllowed = false

def mover : Move → Nat
  | .thread i _ => i
  | .world e => e.elim

/-- The call lets traffic in again: while a run keeps it out the call can move, and it has
    moved three times at most. -/
def ComesBack (c : Traffic) (i : Nat) : Prop :=
  ∀ moves d, run trafficStep c moves = some d → Always trafficStep Disallowed c moves →
    (trafficStep d (.thread i ())).isSome ∧ (moves.map mover).count i ≤ 3

theorem step_nearer {c d : Traffic} {e : Move} {i : Nat} {l : Pc}
    (move : trafficStep c e = some d) (off : Disallowed c) (still : Disallowed d)
    (here : c.threads[i]? = some l) (mine : ReEnables l) :
    ∃ m, d.threads[i]? = some m ∧ ReEnables m ∧
      stepsToEnable m + [mover e].count i = stepsToEnable l := by
  cases e with
  | thread j a =>
    obtain ⟨n, h, m, found, ran, rfl⟩ := step_thread move
    by_cases same : j = i
    · subst same
      rw [here] at found
      cases found
      obtain ⟨later, nearer⟩ := exec_nearer ran off still mine
      obtain ⟨bound, -⟩ := List.getElem?_eq_some_iff.mp here
      refine ⟨m, by simp [bound], later, ?_⟩
      rw [← nearer]
      simp [mover]
    · refine ⟨l, ?_, mine, ?_⟩
      · rw [List.getElem?_set_ne same]
        exact here
      · simp [mover, same]
  | world e => exact e.elim

theorem run_nearer {moves : List Move} {c d : Traffic} {i : Nat} {l : Pc}
    (done : run trafficStep c moves = some d) (off : Always trafficStep Disallowed c moves)
    (here : c.threads[i]? = some l) (mine : ReEnables l) :
    ∃ m, d.threads[i]? = some m ∧ ReEnables m ∧
      stepsToEnable m + (moves.map mover).count i = stepsToEnable l := by
  induction moves generalizing c l with
  | nil =>
    cases done
    exact ⟨l, here, mine, rfl⟩
  | cons e moves ih =>
    obtain ⟨u, move, rest⟩ := run_cons_some done
    obtain ⟨now, later⟩ := (always_cons move).mp off
    obtain ⟨m, at_i, again, first⟩ := step_nearer move now (later 0 u rfl) here mine
    obtain ⟨n, at_end, last, more⟩ := ih rest later at_i again
    refine ⟨n, at_end, last, ?_⟩
    rw [List.map_cons, List.count_cons]
    rw [List.count_singleton] at first
    omega

theorem comesBack {c : Traffic} {i : Nat} {l : Pc} (here : c.threads[i]? = some l)
    (mine : ReEnables l) : ComesBack c i := by
  intro moves d done off
  obtain ⟨m, at_i, again, steps⟩ := run_nearer done off here mine
  have left := (reEnables_iff m).mp again
  have most : stepsToEnable l ≤ 4 := by
    unfold stepsToEnable
    split <;> omega
  constructor
  · rcases again with rfl | rfl | ⟨pc, rfl⟩ <;> simp [trafficStep, step, at_i, exec]
  · omega

def SomeReEnables (c : Traffic) : Prop := Disallowed c → ∃ l ∈ c.threads, ReEnables l

theorem someReEnables_step (c : Traffic) (e : Move) (d : Traffic) (inv : SomeReEnables c)
    (move : trafficStep c e = some d) : SomeReEnables d := by
  intro still
  by_cases off : Disallowed c
  · obtain ⟨l, member, mine⟩ := inv off
    obtain ⟨i, here⟩ := List.mem_iff_getElem?.mp member
    obtain ⟨m, at_i, again, -⟩ := step_nearer move off still here mine
    exact ⟨m, List.mem_of_getElem? at_i, again⟩
  · cases e with
    | thread i a =>
      obtain ⟨l, h, m, here, ran, rfl⟩ := step_thread move
      have on : c.shared.trafficAllowed = true := by simpa [Disallowed] using off
      exact ⟨m, set_here here, exec_disallows ran on still⟩
    | world e => exact e.elim

/-- Whenever traffic is not allowed, a call is on its way to allow it again, and a run that
    lets this call move cannot keep traffic out. -/
theorem disallowed_comes_back (requests : Nat) (c : Traffic)
    (reach : Reach trafficStep Unguarded (cached requests) c)
    (off : c.shared.trafficAllowed = false) :
    ∃ i l, c.threads[i]? = some l ∧ ReEnables l ∧ ComesBack c i := by
  have start : SomeReEnables (cached requests) := by
    intro off
    contradiction
  have inv := reach_invariant SomeReEnables start
    (fun c e d inv _ move => someReEnables_step c e d inv move) reach
  obtain ⟨l, member, mine⟩ := inv off
  obtain ⟨i, here⟩ := List.mem_iff_getElem?.mp member
  exact ⟨i, l, here, mine, comesBack here mine⟩

def goes (i n : Nat) : List Move := List.replicate n (.thread i ())

theorem first_disallow_comes_back : ∃ c, Reach trafficStep Unguarded (cached 1) c ∧
    c.shared.trafficAllowed = false ∧
      ∃ i l, c.threads[i]? = some l ∧ ReEnables l ∧ ComesBack c i := by
  have reach : Reach trafficStep Unguarded (cached 1) _ := reach_of_run (goes 0 7) rfl
  exact ⟨_, reach, rfl, disallowed_comes_back 1 _ reach rfl⟩

def FreshSchedules (c : Traffic) : Move → Prop
  | .thread i _ => c.threads[i]? = some (.schedule .setScheduled) →
      c.shared.trafficDisableScheduled = false
  | .world _ => True

instance (c : Traffic) (e : Move) : Decidable (FreshSchedules c e) := by
  unfold FreshSchedules
  split <;> infer_instance

def pending (l : Pc) : Bool := l = .graceTimer

def scheduled : Pc → Bool
  | .schedule .startTimer | .graceTimer | .clearScheduled => true
  | _ => false

def CountsScheduled (c : Traffic) : Prop :=
  c.threads.countP scheduled = c.shared.trafficDisableScheduled.toNat

theorem exec_scheduled {h k : Host} {l m : Pc} {a : Unit} (ran : exec h l a = some (k, m))
    (fresh : l = .schedule .setScheduled → h.trafficDisableScheduled = false)
    (set : l = .clearScheduled → h.trafficDisableScheduled = true) :
    (scheduled m).toNat + h.trafficDisableScheduled.toNat =
      (scheduled l).toNat + k.trafficDisableScheduled.toNat := by
  cases l with
  | schedule pc =>
    cases pc with
    | readScheduled =>
      cases ran
      cases h.trafficDisableScheduled <;> rfl
    | setScheduled =>
      cases ran
      rw [fresh rfl]
      rfl
    | startTimer =>
      cases ran
      rfl
  | clearScheduled =>
    cases ran
    rw [set rfl]
    rfl
  | disable pc =>
    cases pc with
    | readAllowed =>
      cases ran
      cases h.trafficAllowed <;> rfl
    | setAllowed | startTimer =>
      cases ran
      rfl
  | enable pc =>
    cases pc with
    | readAllowed =>
      cases ran
      cases h.trafficAllowed <;> rfl
    | setAllowed =>
      cases ran
      rfl
  | graceTimer | reEnableTimer =>
    cases ran
    rfl
  | returned => cases ran

theorem countsScheduled_step (c : Traffic) (e : Move) (d : Traffic) (inv : CountsScheduled c)
    (meets : FreshSchedules c e) (move : trafficStep c e = some d) : CountsScheduled d := by
  cases e with
  | thread i a =>
    obtain ⟨l, h, m, here, ran, rfl⟩ := step_thread move
    -- the call that clears the field is one the field counts
    have set : l = .clearScheduled → c.shared.trafficDisableScheduled = true := by
      intro same
      subst same
      have counted : 0 < c.threads.countP scheduled :=
        List.countP_pos_iff.mpr ⟨_, List.mem_of_getElem? here, rfl⟩
      rw [inv] at counted
      simpa [Nat.pos_iff_ne_zero] using counted
    have own := exec_scheduled ran (fun same => meets (same ▸ here)) set
    have moved := count_set_toNat scheduled m here
    unfold CountsScheduled at inv ⊢
    dsimp only
    omega
  | world e => exact e.elim

/-- One grace timer is pending at most, when no call sets TrafficDisableScheduled while it is
    set. -/
theorem one_grace_timer (requests : Nat) (c : Traffic)
    (reach : Reach trafficStep FreshSchedules (cached requests) c) :
    c.threads.countP pending ≤ 1 := by
  have start : CountsScheduled (cached requests) := by
    simp [CountsScheduled, cached, List.countP_replicate, scheduled]
  have counts := reach_invariant CountsScheduled start countsScheduled_step reach
  have fewer : c.threads.countP pending ≤ c.threads.countP scheduled := by
    apply List.countP_mono_left
    intro l _ waits
    rw [of_decide_eq_true waits]
    rfl
  have atMost := Bool.toNat_le c.shared.trafficDisableScheduled
  unfold CountsScheduled at counts
  omega

theorem second_request_schedules_nothing :
    ∃ c, Reach trafficStep FreshSchedules (cached 2) c ∧
      c.threads = [.graceTimer, .returned] ∧ c.threads.countP pending ≤ 1 := by
  have reach : Reach trafficStep FreshSchedules (cached 2) _ :=
    reach_of_guardedRun (goes 0 3 ++ goes 1 1) rfl
  exact ⟨_, reach, rfl, one_grace_timer 2 _ reach⟩

/-- Two requests finish together: both read the field before either sets it. -/
theorem two_grace_timers :
    ∃ c, Reach trafficStep Unguarded (cached 2) c ∧ c.threads.countP pending = 2 := by
  exact reaches_of_run (goes 0 1 ++ goes 1 3 ++ goes 0 2) (by decide +kernel)

end HostManager
