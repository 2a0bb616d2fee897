import Elasti.Throttler

/- The throttler's memory of services that were ready. An answer is kept until a timer deletes
   it, and calls that find it skip the look at the cluster; so it has to be backed by a look that
   some call made, and by a timer that some call arms. -/
namespace ReadyCache
open GuardedRuns ThreadPool ThrottlerBreaker ResolverThrottler

/-- An endpoint's ready condition; an omitted one counts as true. -/
structure Endpoint where
  ready : Option Bool
  deriving DecidableEq, Repr

structure EndpointSlice where
  endpoints : List Endpoint
  deriving DecidableEq, Repr

def checkIfServiceEndpointSliceActive : Except String (List EndpointSlice) → Answer
  | .error text => .fail ("CheckIfServiceEndpointSliceActive - GET: " ++ text)
  | .ok slices => .active (slices.any fun slice => slice.endpoints.any fun e => e.ready.getD true)

structure Observed where
  move : Move
  listed : Except String (List EndpointSlice)

def Observed.truthful (o : Observed) : Prop :=
  ∀ i active, o.move = .thread i (.active active) →
    checkIfServiceEndpointSliceActive o.listed = .active active

theorem active_ready {listed : Except String (List EndpointSlice)}
    (active : checkIfServiceEndpointSliceActive listed = .active true) :
    ∃ slices, listed = .ok slices ∧ ∃ slice ∈ slices, ∃ e ∈ slice.endpoints, e.ready ≠ some false := by
  cases listed with
  | error text => cases active
  | ok slices =>
    simp only [checkIfServiceEndpointSliceActive, Answer.active.injEq, List.any_eq_true] at active
    obtain ⟨slice, listed, e, member, ready⟩ := active
    refine ⟨slices, rfl, slice, listed, e, member, ?_⟩
    intro unready
    rw [unready] at ready
    cases ready

def targetKey (h : Host) : String := mapKey h.ns h.targetService

def confirmed (l : Call) : Bool :=
  l.pc = .thunk .store ∨ l.pc = .thunk .arm ∨ l.pc = .thunk .resolve

def arming (l : Call) : Bool := l.pc = .thunk .arm

/-- What a step of Try can do to the memory of ready services and to where the call is. -/
structure Spec (t : Throttler) (l : Call) (a : Answer) (u : Throttler) (m : Call) : Prop where
  host : m.host = l.host
  memory :
    (u.serviceReadyMap = t.serviceReadyMap ∧ u.armed = t.armed ∧ (arming l = true → arming m = true)) ∨
    (u.serviceReadyMap = Function.update t.serviceReadyMap (targetKey l.host) (some true) ∧
      u.armed = t.armed ∧ confirmed l = true ∧ arming l = false ∧ arming m = true) ∨
    (u.serviceReadyMap = t.serviceReadyMap ∧ u.armed = t.armed ++ [targetKey l.host])
  confirms : confirmed m = true → confirmed l = true ∨
    (∃ b, t.serviceReadyMap (targetKey l.host) = some b) ∨ a = .active true

theorem resume_spec (l : Call) (pc : MaybePc) :
    (resume l pc).host = l.host ∧ confirmed (resume l pc) = false := by
  cases pc with
  | returned out =>
    cases out with
    | done =>
      rw [resume]
      split <;> simp [enterMaybe, confirmed]
    | _ => simp [resume, confirmed]
  | _ => simp [resume, confirmed]

theorem thunkStep_memory {t u : Throttler} {l m : Call} {pc : ThunkPc} {a : Answer}
    (before : l.pc = .thunk pc) (ran : thunkStep t l pc a = some (u, m)) : Spec t l a u m := by
  unfold thunkStep at ran
  split at ran
  case h_1 =>
    split at ran
    all_goals
      rename_i present
      cases ran
    · exact ⟨rfl, .inl ⟨rfl, rfl, by simp [arming, before]⟩, fun _ => .inr (.inl ⟨_, present⟩)⟩
    · exact ⟨rfl, .inl ⟨rfl, rfl, by simp [arming, before]⟩, by simp [confirmed]⟩
    · exact ⟨rfl, .inl ⟨rfl, rfl, by simp [arming, before]⟩, by simp [confirmed]⟩
  all_goals try split at ran
  all_goals try split at ran
  all_goals cases ran
  all_goals
    constructor
    · rfl
    · first
        | exact .inl ⟨rfl, rfl, by simp [arming, before]⟩
        | exact .inr (.inl ⟨rfl, rfl, by simp [confirmed, before], by simp [arming, before],
            by simp [arming]⟩)
        | exact .inr (.inr ⟨rfl, rfl⟩)
    · first
        | exact fun _ => .inr (.inr rfl)
        | simp [confirmed, notReady, leaveThunk, before]

theorem tryStep_spec {t u : Throttler} {l m : Call} {a : Answer}
    (ran : tryStep t l a = some (u, m)) : Spec t l a u m := by
  cases tryStep_cases ran with
  | contextDone err => exact ⟨rfl, .inl ⟨rfl, rfl, fun was => was⟩, fun was => .inl was⟩
  | incLoad size before =>
    exact ⟨rfl, .inl ⟨rfl, rfl, by simp [arming, before]⟩, by simp [confirmed]⟩
  | incStore size before =>
    exact ⟨rfl, .inl ⟨rfl, rfl, by simp [arming, before]⟩, by simp [confirmed, enterMaybe]⟩
  | maybe pc ch a u m before ran =>
    obtain ⟨⟨b, next⟩, moved, same⟩ := Option.map_eq_some_iff.mp ran
    cases same
    obtain ⟨host, unconfirmed⟩ := resume_spec l next
    exact ⟨host, .inl ⟨rfl, rfl, by simp [arming, before]⟩, by simp [unconfirmed]⟩
  | thunk pc a u m before ran => exact thunkStep_memory before ran
  | decLoad ending size before =>
    exact ⟨rfl, .inl ⟨rfl, rfl, by simp [arming, before]⟩, by simp [confirmed]⟩
  | decStore ending size before =>
    exact ⟨rfl, .inl ⟨rfl, rfl, by simp [arming, before]⟩, by simp [confirmed]⟩

/-- Every remembered answer is a yes, and a timer that will delete it is armed or about to be. -/
def Backed (c : Tries) : Prop :=
  ∀ key b, c.shared.serviceReadyMap key = some b →
    b = true ∧ (key ∈ c.shared.armed ∨ ∃ n ∈ c.threads, arming n = true ∧ targetKey n.host = key)

theorem backed_thread {c : Tries} {i : Nat} {a : Answer} {l m : Call} {u : Throttler}
    (backed : Backed c) (here : c.threads[i]? = some l) (ran : tryStep c.shared l a = some (u, m)) :
    Backed ⟨u, c.threads.set i m⟩ := by
  have spec := tryStep_spec ran
  have mover := set_here (m := m) here
  intro key b held
  rcases spec.memory with ⟨ready, armed, arms⟩ | ⟨ready, armed, -, unarmed, arms⟩ | ⟨ready, armed⟩
  · -- nothing is stored; the mover keeps backing what it backs
    simp only [ready] at held
    obtain ⟨yes, timer | ⟨n, member, arming_n, own⟩⟩ := backed key b held
    · exact ⟨yes, .inl (by simpa only [armed] using timer)⟩
    · refine ⟨yes, .inr ?_⟩
      rcases mover_or_stays (m := m) here member with rfl | stays
      · exact ⟨m, mover, arms arming_n, by rw [spec.host]; exact own⟩
      · exact ⟨n, stays, arming_n, own⟩
  · by_cases own : key = targetKey l.host
    · subst own
      simp only [ready, Function.update_self, Option.some.injEq] at held
      exact ⟨held.symm, .inr ⟨m, mover, arms, by rw [spec.host]⟩⟩
    · simp only [ready, Function.update_of_ne own] at held
      obtain ⟨yes, timer | ⟨n, member, arming_n, at_key⟩⟩ := backed key b held
      · exact ⟨yes, .inl (by simpa only [armed] using timer)⟩
      · refine ⟨yes, .inr ?_⟩
        rcases mover_or_stays (m := m) here member with rfl | stays
        · rw [unarmed] at arming_n
          cases arming_n
        · exact ⟨n, stays, arming_n, at_key⟩
  · simp only [ready] at held
    obtain ⟨yes, timer | ⟨n, member, arming_n, own⟩⟩ := backed key b held
    · exact ⟨yes, .inl (by simp only [armed]; exact List.mem_append_left _ timer)⟩
    · rcases mover_or_stays (m := m) here member with rfl | stays
      · refine ⟨yes, .inl ?_⟩
        simp only [armed, ← own]
        exact List.mem_append_right _ (List.mem_singleton_self _)
      · exact ⟨yes, .inr ⟨n, stays, arming_n, own⟩⟩

theorem mem_eraseIdx_of_ne {keys : List String} {key fired : String} {k : Nat}
    (at_k : keys[k]? = some fired) (other : key ≠ fired) (member : key ∈ keys) :
    key ∈ keys.eraseIdx k := by
  rw [List.mem_eraseIdx_iff_getElem?]
  obtain ⟨j, at_j⟩ := List.mem_iff_getElem?.mp member
  refine ⟨j, ?_, at_j⟩
  rintro rfl
  exact other (Option.some.inj (at_j.symm.trans at_k))

theorem backed_fire {c : Tries} {k : Nat} {u : Throttler} (backed : Backed c)
    (fired : fire c.shared k = some u) : Backed ⟨u, c.threads⟩ := by
  obtain ⟨key, at_k, rfl⟩ := Option.map_eq_some_iff.mp fired
  intro other b held
  by_cases same : other = key
  · simp [same] at held
  · simp only [Function.update_of_ne same] at held
    obtain ⟨yes, timer | arms⟩ := backed other b held
    · exact ⟨yes, .inl (mem_eraseIdx_of_ne at_k same timer)⟩
    · exact ⟨yes, .inr arms⟩

/-- In every state that any number of calls can reach, with timers that fire at any time: what
    the throttler remembers of a service is that it was ready, never that it was not, and a
    timer is armed for it, or a call is just about to arm one. -/
theorem remembered_until_timer (p : BreakerParams) (hosts : List Host) (c : Tries)
    (reach : Reach triesStep Unguarded (tries p hosts) c) (key : String) (b : Bool)
    (remembered : c.shared.serviceReadyMap key = some b) :
    b = true ∧ (key ∈ c.shared.armed ∨ ∃ n ∈ c.threads, arming n = true ∧ targetKey n.host = key) := by
  have backed : Backed c := by
    apply reach_invariant Backed ?_ ?_ reach
    · intro key b held
      cases held
    · intro c e d backed _ move
      cases e with
      | thread i a =>
        obtain ⟨l, s, m, here, ran, rfl⟩ := step_thread move
        exact backed_thread backed here ran
      | world k =>
        obtain ⟨s, fired, rfl⟩ := step_world move
        exact backed_fire backed fired
  exact backed key b remembered

theorem web_remembered :
    ∃ c, Reach triesStep Unguarded (tries ⟨1, 1, 1⟩ [web]) c ∧
      c.shared.serviceReadyMap "shop/web-pvt" = some true ∧
      ("shop/web-pvt" ∈ c.shared.armed ∨
        ∃ n ∈ c.threads, arming n = true ∧ targetKey n.host = "shop/web-pvt") := by
  have reach : Reach triesStep Unguarded (tries ⟨1, 1, 1⟩ [web]) _ :=
    reach_of_run (goes 0 7 ++ [.thread 0 (.active true)] ++ goes 0 2) rfl
  exact ⟨_, reach, rfl,
    (remembered_until_timer ⟨1, 1, 1⟩ [web] _ reach "shop/web-pvt" true rfl).2⟩

def Seen (hosts : List Host) (moves : List Move) (key : String) : Prop :=
  ∃ (j : Nat) (h : Host), Event.thread j (.active true) ∈ moves ∧ hosts[j]? = some h ∧
    targetKey h = key

theorem Seen.more {hosts : List Host} {moves : List Move} {key : String}
    (seen : Seen hosts moves key) (move : Move) : Seen hosts (moves ++ [move]) key := by
  obtain ⟨j, h, told, at_j, own⟩ := seen
  exact ⟨j, h, List.mem_append_left _ told, at_j, own⟩

structure Confirmed (hosts : List Host) (moves : List Move) (c : Tries) : Prop where
  places : ∀ i : Nat, c.threads[i]?.map Call.host = hosts[i]?
  memory : ∀ key b, c.shared.serviceReadyMap key = some b → Seen hosts moves key
  calls : ∀ n ∈ c.threads, confirmed n = true → Seen hosts moves (targetKey n.host)

theorem confirmed_start (p : BreakerParams) (hosts : List Host) :
    Confirmed hosts [] (tries p hosts) where
  places := by
    intro i
    simp only [tries, List.getElem?_map, Option.map_map]
    cases hosts[i]? <;> rfl
  memory := by
    intro key b held
    cases held
  calls := by
    intro n member yes
    obtain ⟨h, -, rfl⟩ := List.mem_map.mp member
    cases yes

theorem confirmed_thread {hosts : List Host} {moves : List Move} {c : Tries} {i : Nat} {a : Answer}
    {l m : Call} {u : Throttler} (inv : Confirmed hosts moves c) (here : c.threads[i]? = some l)
    (ran : tryStep c.shared l a = some (u, m)) :
    Confirmed hosts (moves ++ [.thread i a]) ⟨u, c.threads.set i m⟩ := by
  have spec := tryStep_spec ran
  have own : hosts[i]? = some l.host := by rw [← inv.places i, here]; rfl
  constructor
  · intro j
    rw [← inv.places j]
    by_cases same : i = j
    · subst same
      obtain ⟨bound, -⟩ := List.getElem?_eq_some_iff.mp here
      rw [List.getElem?_set_self bound, here, Option.map_some, Option.map_some, spec.host]
    · rw [List.getElem?_set_ne same]
  · intro key b held
    rcases spec.memory with ⟨ready, -, -⟩ | ⟨ready, -, was, -, -⟩ | ⟨ready, -⟩
    · exact (inv.memory key b (by simpa only [ready] using held)).more _
    · by_cases same : key = targetKey l.host
      · subst same
        exact (inv.calls l (List.mem_of_getElem? here) was).more _
      · simp only [ready, Function.update_of_ne same] at held
        exact (inv.memory key b held).more _
    · exact (inv.memory key b (by simpa only [ready] using held)).more _
  · intro n member yes
    rcases set_member member with rfl | ⟨j, -, at_j⟩
    · rw [spec.host]
      rcases spec.confirms yes with was | ⟨b, present⟩ | told
      · exact (inv.calls l (List.mem_of_getElem? here) was).more _
      · exact (inv.memory _ b present).more _
      · subst told
        exact ⟨i, l.host, List.mem_append_right _ (List.mem_singleton_self _), own, rfl⟩
    · exact (inv.calls n (List.mem_of_getElem? at_j) yes).more _

theorem confirmed_fire {hosts : List Host} {moves : List Move} {c : Tries} {k : Nat} {u : Throttler}
    (inv : Confirmed hosts moves c) (fired : fire c.shared k = some u) :
    Confirmed hosts (moves ++ [.world k]) ⟨u, c.threads⟩ := by
  obtain ⟨key, -, rfl⟩ := Option.map_eq_some_iff.mp fired
  refine ⟨inv.places, ?_, fun n member yes => (inv.calls n member yes).more _⟩
  intro other b held
  by_cases same : other = key
  · simp [same] at held
  · simp only [Function.update_of_ne same] at held
    exact (inv.memory other b held).more _

theorem confirmed_run (p : BreakerParams) (hosts : List Host) (moves : List Move) {c : Tries}
    (done : run triesStep (tries p hosts) moves = some c) : Confirmed hosts moves c := by
  apply run_invariant (Confirmed hosts) (confirmed_start p hosts) ?_ moves done
  intro moves c e d inv move
  cases e with
  | thread i a =>
    obtain ⟨l, s, m, here, ran, rfl⟩ := step_thread move
    exact confirmed_thread inv here ran
  | world k =>
    obtain ⟨s, fired, rfl⟩ := step_world move
    exact confirmed_fire inv fired

/-- In every run of any number of calls: a request is only passed on to its target after some
    call for the same target, maybe another one, was listed a slice with an endpoint that is not
    marked unready. -/
theorem passed_on_after_active (p : BreakerParams) (hosts : List Host) (log : List Observed)
    (truthful : ∀ o ∈ log, o.truthful) (c : Tries)
    (done : run triesStep (tries p hosts) (log.map Observed.move) = some c) (n : Call)
    (member : n ∈ c.threads) (resolving : n.pc = .thunk .resolve) :
    ∃ o ∈ log, ∃ (j : Nat) (h : Host), o.move = .thread j (.active true) ∧ hosts[j]? = some h ∧
      targetKey h = targetKey n.host ∧
      ∃ slices, o.listed = .ok slices ∧
        ∃ slice ∈ slices, ∃ e ∈ slice.endpoints, e.ready ≠ some false := by
  have yes : confirmed n = true := by simp [confirmed, resolving]
  obtain ⟨j, h, told, at_j, own⟩ :=
    (confirmed_run p hosts (log.map Observed.move) done).calls n member yes
  obtain ⟨o, listed, move⟩ := List.mem_map.mp told
  exact ⟨o, listed, j, h, move, at_j, own, active_ready (truthful o listed j true move)⟩

def readySlice : EndpointSlice := ⟨[⟨some false⟩, ⟨none⟩]⟩

def untilPassedOn : List Observed :=
  (goes 0 7 ++ [Event.thread 0 (Answer.active true)] ++ goes 0 2).map fun move => ⟨move, .ok [readySlice]⟩

theorem untilPassedOn_truthful : ∀ o ∈ untilPassedOn, o.truthful := by
  intro o listed i active check
  obtain ⟨move, member, rfl⟩ := List.mem_map.mp listed
  have answers : ∀ e ∈ goes 0 7 ++ [Event.thread 0 (Answer.active true)] ++ goes 0 2,
      e = .thread 0 .go ∨ e = .thread 0 (.active true) := by
    intro e member
    simpa [goes, or_comm, or_assoc] using member
  rcases answers move member with rfl | rfl
  · cases check
  · cases check
    rfl

theorem web_passed_on :
    ∃ c, run triesStep (tries ⟨1, 1, 1⟩ [web]) (untilPassedOn.map Observed.move) = some c ∧
      ∃ n ∈ c.threads, n.pc = .thunk .resolve ∧
        ∃ o ∈ untilPassedOn, ∃ (j : Nat) (h : Host), o.move = .thread j (.active true) ∧
          [web][j]? = some h ∧ targetKey h = targetKey n.host ∧
          ∃ slices, o.listed = .ok slices ∧
            ∃ slice ∈ slices, ∃ e ∈ slice.endpoints, e.ready ≠ some false := by
  have done : run triesStep (tries ⟨1, 1, 1⟩ [web]) (untilPassedOn.map Observed.move) = some _ := rfl
  exact ⟨_, done, _, List.mem_cons_self, rfl,
    passed_on_after_active ⟨1, 1, 1⟩ [web] untilPassedOn untilPassedOn_truthful _ done _
      List.mem_cons_self rfl⟩

end ReadyCache
