import Elasti.ThreadPool

/- The dialer of the proxy's transport. A dial that times out or is refused is tried again until
   the steps of its backoff are used up. Each call works on its own copy of the backoff. -/
namespace DialBackoff
open GuardedRuns ThreadPool

structure DialError where
  text : String
  isTimeout : Bool
  isConnRefused : Bool
  deriving DecidableEq, Repr

/-- wait.Backoff. Durations are in nanoseconds; the two floats are only read by Step. -/
structure Backoff (F : Type) where
  duration : Int
  factor : F
  jitter : F
  steps : Int
  cap : Int

/-- Backoff.Step, which draws a number for its jitter: a duration and the backoff it leaves.
    While steps are left it takes at least one of them, and exactly one if there is no cap. -/
class Wait (F : Type) where
  step : F → Backoff F → Int × Backoff F
  steps_lt {b : Backoff F} (left : ¬ b.steps < 1) (drawn : F) : (step drawn b).2.steps < b.steps
  steps_uncapped {b : Backoff F} (left : ¬ b.steps < 1) (uncapped : ¬ 0 < b.cap) (drawn : F) :
    (step drawn b).2.steps = b.steps - 1 ∧ (step drawn b).2.cap = b.cap

structure Call (Conn F : Type) where
  address : String
  tlsConf : Bool
  dialContext : Nat → Int → Except DialError Conn
  dialTLS : Nat → Int → Except DialError Conn
  drawn : Nat → F
  elapsed : String

variable {Conn F : Type} [Wait F]

def Call.dial (call : Call Conn F) (attempt : Nat) (timeout : Int) : Except DialError Conn :=
  if call.tlsConf then call.dialTLS attempt timeout else call.dialContext attempt timeout

inductive Returned (Conn : Type) where
  | conn (c : Conn)
  | failed (err : DialError)
  | timedOut (address elapsed : String)

def Returned.text : Returned Conn → Option String
  | .conn _ => none
  | .failed err => some ("dialBackOffHelper: " ++ err.text)
  | .timedOut address elapsed =>
    some ("timed out dialing " ++ address ++ " after " ++ elapsed ++ "s")

structure Loop (F : Type) where
  attempt : Nat
  timeout : Int
  bo : Backoff F

def start (bo : Backoff F) : Loop F := ⟨0, bo.duration, bo⟩

def Loop.next (s : Loop F) (call : Call Conn F) : Loop F :=
  let stepped := Wait.step (call.drawn s.attempt) s.bo
  ⟨s.attempt + 1, stepped.1, stepped.2⟩

def iteration (call : Call Conn F) (s : Loop F) : Returned Conn ⊕ Loop F :=
  match call.dial s.attempt s.timeout with
  | .ok c => .inl (.conn c)
  | .error err =>
    if err.isTimeout || err.isConnRefused then
      if s.bo.steps < 1 then .inl (.timedOut call.address call.elapsed)
      else .inr (s.next call)
    else .inl (.failed err)

theorem iteration_again {call : Call Conn F} {s t : Loop F} (again : iteration call s = .inr t) :
    ¬ s.bo.steps < 1 ∧ t = s.next call := by
  unfold iteration at again
  split at again
  · cases again
  · split at again
    · split at again
      · cases again
      · rename_i left
        exact ⟨left, (Sum.inr.inj again).symm⟩
    · cases again

def loop (call : Call Conn F) (s : Loop F) : Returned Conn × Loop F :=
  match _again : iteration call s with
  | .inl r => (r, s)
  | .inr t => loop call t
termination_by s.bo.steps.toNat
decreasing_by
  obtain ⟨left, rfl⟩ := iteration_again _again
  have fewer := Wait.steps_lt left (call.drawn s.attempt)
  simp only [Loop.next]
  omega

structure Report (Conn F : Type) where
  returned : Returned Conn
  attempts : Nat
  left : Backoff F

def dialBackOffHelper (call : Call Conn F) (bo : Backoff F) : Report Conn F :=
  let ended := loop call (start bo)
  ⟨ended.1, ended.2.attempt + 1, ended.2.bo⟩

structure Dialer (F : Type) where
  backoffConfig : Backoff F

def newBackoffDialer (backoffConfig : Backoff F) : Dialer F := ⟨backoffConfig⟩

def plain (call : Call Conn F) : Call Conn F := { call with tlsConf := false }

def Dialer.dial (d : Dialer F) (call : Call Conn F) : Report Conn F × Dialer F :=
  -- the helper is passed a copy, so what it leaves of it is lost
  (dialBackOffHelper (plain call) d.backoffConfig, d)

def Dialer.dials (d : Dialer F) : List (Call Conn F) → List (Report Conn F) × Dialer F
  | [] => ([], d)
  | call :: calls =>
    let first := d.dial call
    let rest := first.2.dials calls
    (first.1 :: rest.1, rest.2)

theorem loop_returns {call : Call Conn F} {s : Loop F} {r : Returned Conn}
    (returns : iteration call s = .inl r) : loop call s = (r, s) := by
  rw [loop]
  split
  · rename_i result same
    rw [returns] at same
    cases same
    rfl
  · rename_i t same
    rw [returns] at same
    cases same

theorem loop_goes_on {call : Call Conn F} {s t : Loop F} (again : iteration call s = .inr t) :
    loop call s = loop call t := by
  rw [loop]
  split
  · rename_i result same
    rw [again] at same
    cases same
  · rename_i u same
    rw [again] at same
    cases same
    rfl

def Transient : Except DialError Conn → Prop
  | .ok _ => False
  | .error err => (err.isTimeout || err.isConnRefused) = true

def reached (call : Call Conn F) (bo : Backoff F) : Nat → Loop F
  | 0 => start bo
  | i + 1 => (reached call bo i).next call

def outcome (call : Call Conn F) (bo : Backoff F) (i : Nat) : Except DialError Conn :=
  call.dial i (reached call bo i).timeout

/-- What a budget of k retries comes to, for the outcomes of the attempts. -/
structure Budget (k : Nat) (outcome : Nat → Except DialError Conn) (report : Report Conn F) :
    Prop where
  bounded : report.attempts ≤ k + 1
  connects : ∀ i c, i ≤ k → (∀ j < i, Transient (outcome j)) → outcome i = .ok c →
    report.returned = .conn c ∧ report.attempts = i + 1
  fails : ∀ i err, i ≤ k → (∀ j < i, Transient (outcome j)) → outcome i = .error err →
    ¬ Transient (outcome i) → report.returned = .failed err ∧ report.attempts = i + 1
  gives_up : (∃ address elapsed, report.returned = .timedOut address elapsed) ↔
    ∀ i ≤ k, Transient (outcome i)

section Budget
variable {call : Call Conn F} {bo : Backoff F} {k i : Nat}

theorem reached_attempt (call : Call Conn F) (bo : Backoff F) (i : Nat) :
    (reached call bo i).attempt = i := by
  induction i with
  | zero => rfl
  | succ i ih =>
    have next : (reached call bo (i + 1)).attempt = (reached call bo i).attempt + 1 := rfl
    rw [next, ih]

theorem iteration_conn {c : Conn} (ends : outcome call bo i = .ok c) :
    iteration call (reached call bo i) = .inl (.conn c) := by
  rw [iteration, reached_attempt, ← outcome, ends]

theorem iteration_failed {err : DialError} (ends : outcome call bo i = .error err)
    (final : ¬ Transient (outcome call bo i)) :
    iteration call (reached call bo i) = .inl (.failed err) := by
  rw [ends] at final
  rw [iteration, reached_attempt, ← outcome, ends]
  exact if_neg final

theorem iteration_transient (transient : Transient (outcome call bo i)) :
    iteration call (reached call bo i) =
      if (reached call bo i).bo.steps < 1 then .inl (.timedOut call.address call.elapsed)
      else .inr (reached call bo (i + 1)) := by
  rw [iteration, reached_attempt, ← outcome]
  cases ends : outcome call bo i with
  | ok c =>
    rw [ends] at transient
    exact transient.elim
  | error err =>
    rw [ends] at transient
    exact if_pos transient

theorem reached_steps (call : Call Conn F) (steps : bo.steps = k) (uncapped : ¬ 0 < bo.cap)
    (within : i ≤ k) :
    (reached call bo i).bo.steps = k - i ∧ (reached call bo i).bo.cap = bo.cap := by
  induction i with
  | zero => exact ⟨by simpa [reached, start] using steps, rfl⟩
  | succ i ih =>
    obtain ⟨left, cap⟩ := ih (Nat.le_of_succ_le within)
    have some_left : ¬ (reached call bo i).bo.steps < 1 := by omega
    obtain ⟨fewer, same⟩ := Wait.steps_uncapped some_left (by rw [cap]; exact uncapped)
      (call.drawn (reached call bo i).attempt)
    have next : (reached call bo (i + 1)).bo =
        (Wait.step (call.drawn (reached call bo i).attempt) (reached call bo i).bo).2 := rfl
    rw [next, fewer, same]
    exact ⟨by omega, cap⟩

theorem loop_reaches (steps : bo.steps = k) (uncapped : ¬ 0 < bo.cap) (within : i ≤ k)
    (earlier : ∀ j < i, Transient (outcome call bo j)) :
    loop call (start bo) = loop call (reached call bo i) := by
  induction i with
  | zero => rfl
  | succ i ih =>
    have left := (reached_steps call steps uncapped (Nat.le_of_succ_le within)).1
    have again := iteration_transient (earlier i (Nat.lt_succ_self i))
    rw [if_neg (by omega)] at again
    rw [ih (Nat.le_of_succ_le within) fun j before => earlier j (Nat.lt_succ_of_lt before)]
    exact loop_goes_on again

theorem helper_returns (steps : bo.steps = k) (uncapped : ¬ 0 < bo.cap) (within : i ≤ k)
    (earlier : ∀ j < i, Transient (outcome call bo j)) {r : Returned Conn}
    (returns : iteration call (reached call bo i) = .inl r) :
    dialBackOffHelper call bo = ⟨r, i + 1, (reached call bo i).bo⟩ := by
  rw [dialBackOffHelper, loop_reaches steps uncapped within earlier, loop_returns returns]
  simp only [reached_attempt]

theorem all_or_first {P : Nat → Prop} (k : Nat) :
    (∀ i ≤ k, P i) ∨ ∃ i ≤ k, ¬ P i ∧ ∀ j < i, P j := by
  classical
  by_cases all : ∀ i ≤ k, P i
  · exact .inl all
  · right
    have some_fails : ∃ i, i ≤ k ∧ ¬ P i := by simpa using all
    refine ⟨Nat.find some_fails, (Nat.find_spec some_fails).1, (Nat.find_spec some_fails).2, ?_⟩
    intro j before
    by_contra fails
    have within := (before.le).trans (Nat.find_spec some_fails).1
    exact Nat.find_min some_fails before ⟨within, fails⟩

theorem helper_budget (steps : bo.steps = k) (uncapped : ¬ 0 < bo.cap) (call : Call Conn F) :
    Budget k (outcome call bo) (dialBackOffHelper call bo) := by
  have connects : ∀ i c, i ≤ k → (∀ j < i, Transient (outcome call bo j)) →
      outcome call bo i = .ok c →
      (dialBackOffHelper call bo).returned = .conn c ∧
        (dialBackOffHelper call bo).attempts = i + 1 := by
    intro i c within earlier ends
    rw [helper_returns steps uncapped within earlier (iteration_conn ends)]
    exact ⟨rfl, rfl⟩
  have fails : ∀ i err, i ≤ k → (∀ j < i, Transient (outcome call bo j)) →
      outcome call bo i = .error err → ¬ Transient (outcome call bo i) →
      (dialBackOffHelper call bo).returned = .failed err ∧
        (dialBackOffHelper call bo).attempts = i + 1 := by
    intro i err within earlier ends final
    rw [helper_returns steps uncapped within earlier (iteration_failed ends final)]
    exact ⟨rfl, rfl⟩
  rcases all_or_first (P := fun i => Transient (outcome call bo i)) k with all | ⟨i, within, final, earlier⟩
  · -- the last attempt finds no step left
    have spent := (reached_steps call steps uncapped (Nat.le_refl k)).1
    have last := iteration_transient (all k (Nat.le_refl k))
    rw [if_pos (by omega)] at last
    have ended := helper_returns steps uncapped (Nat.le_refl k)
      (fun j before => all j before.le) last
    refine ⟨?_, connects, fails, fun _ => all, fun _ => ?_⟩
    · rw [ended]
    · rw [ended]
      exact ⟨_, _, rfl⟩
  · -- the first other outcome is returned
    have never : ¬ ∀ i ≤ k, Transient (outcome call bo i) := fun all => final (all i within)
    cases ends : outcome call bo i with
    | ok c =>
      obtain ⟨returned, attempts⟩ := connects i c within earlier ends
      refine ⟨by omega, connects, fails, ?_, fun all => absurd all never⟩
      rintro ⟨address, elapsed, other⟩
      rw [returned] at other
      cases other
    | error err =>
      obtain ⟨returned, attempts⟩ := fails i err within earlier ends final
      refine ⟨by omega, connects, fails, ?_, fun all => absurd all never⟩
      rintro ⟨address, elapsed, other⟩
      rw [returned] at other
      cases other

end Budget

theorem dials_report (d : Dialer F) (calls : List (Call Conn F)) :
    d.dials calls = (calls.map fun call => dialBackOffHelper (plain call) d.backoffConfig, d) := by
  induction calls with
  | nil => rfl
  | cons call calls ih =>
    have rest : d.dials (call :: calls) =
        ((d.dial call).1 :: ((d.dial call).2.dials calls).1, ((d.dial call).2.dials calls).2) := rfl
    have same : (d.dial call).2 = d := rfl
    rw [rest, same, ih]
    rfl

/-- Every dial has the whole budget, and so has every one of a sequence of dials through one
    dialer. -/
theorem dials_have_full_budget {bo : Backoff F} {k : Nat} (steps : bo.steps = k)
    (uncapped : ¬ 0 < bo.cap) :
    (∀ call : Call Conn F, Budget k (outcome call bo) (dialBackOffHelper call bo)) ∧
      ∀ (calls : List (Call Conn F)) (n : Nat) (call : Call Conn F), calls[n]? = some call →
        ∃ report, ((newBackoffDialer bo).dials calls).1[n]? = some report ∧
          Budget k (outcome (plain call) bo) report := by
  refine ⟨helper_budget steps uncapped, ?_⟩
  intro calls n call given
  refine ⟨dialBackOffHelper (plain call) bo, ?_, helper_budget steps uncapped (plain call)⟩
  rw [dials_report, List.getElem?_map, given]
  rfl

section Template

instance : Wait ℚ where
  step drawn b :=
    let shown := if 0 < b.jitter then b.duration + ⌊drawn * b.jitter * b.duration⌋ else b.duration
    let grown := if b.factor = 0 then b.duration else ⌊b.factor * b.duration⌋
    if b.steps < 1 then (shown, { b with steps := 0 })
    else if 0 < b.cap ∧ b.cap < grown then (shown, { b with duration := b.cap, steps := 0 })
    else (shown, { b with duration := grown, steps := b.steps - 1 })
  steps_lt {b} left drawn := by
    dsimp only
    rw [if_neg left]
    generalize (if b.factor = 0 then b.duration else ⌊b.factor * b.duration⌋) = grown
    split
    · dsimp only
      omega
    · dsimp only
      omega
  steps_uncapped {b} left uncapped drawn := by
    dsimp only
    rw [if_neg left, if_neg fun capped => uncapped capped.1]
    exact ⟨rfl, rfl⟩

def backOffTemplate : Backoff ℚ := ⟨50000000, 7 / 5, 1 / 10, 15, 0⟩

def refusedTwice : Call Nat ℚ where
  address := "web:80"
  tlsConf := false
  dialContext attempt _ := if attempt < 2 then .error ⟨"connection refused", false, true⟩ else .ok 7
  dialTLS _ _ := .ok 0
  drawn _ := 1 / 2
  elapsed := "0.10"

theorem third_attempt_connects :
    ∃ first second, ((newBackoffDialer backOffTemplate).dials [refusedTwice, refusedTwice]).1 =
        [first, second] ∧ first.attempts = 3 ∧ second.returned = .conn 7 ∧ second.attempts = 3 := by
  obtain ⟨-, budgets⟩ := @dials_have_full_budget Nat ℚ _ backOffTemplate 15 rfl (by decide)
  have budget := budgets [refusedTwice, refusedTwice]
  have connects {report : Report Nat ℚ}
      (own : Budget 15 (outcome (plain refusedTwice) backOffTemplate) report) :
      report.returned = .conn 7 ∧ report.attempts = 3 := by
    refine own.connects 2 7 (by decide) ?_ rfl
    intro j before
    have refused : outcome (plain refusedTwice) backOffTemplate j =
        .error ⟨"connection refused", false, true⟩ := if_pos before
    rw [refused]
    rfl
  obtain ⟨first, here, own⟩ := budget 0 refusedTwice rfl
  obtain ⟨second, there, other⟩ := budget 1 refusedTwice rfl
  refine ⟨first, second, ?_, (connects own).2, connects other⟩
  rw [dials_report] at here there ⊢
  cases here
  cases there
  rfl

end Template

inductive Stage (Conn F : Type) where
  | waiting (call : Call Conn F)
  | dialing (call : Call Conn F) (s : Loop F)
  | returned (call : Call Conn F) (report : Report Conn F)

def exec (d : Dialer F) : Stage Conn F → Unit → Option (Dialer F × Stage Conn F)
  | .waiting call, _ => some (d, .dialing call (start d.backoffConfig))
  | .dialing call s, _ =>
    match iteration (plain call) s with
    | .inl r => some (d, .returned call ⟨r, s.attempt + 1, s.bo⟩)
    | .inr t => some (d, .dialing call t)
  | .returned _ _, _ => none

def dialStep : Pool (Dialer F) (Stage Conn F) → Event Unit Empty → Option (Pool (Dialer F) (Stage Conn F)) :=
  step exec fun _ e => e.elim

def OnItsOwn (bo : Backoff F) : Stage Conn F → Prop
  | .waiting _ => True
  | .dialing call s => loop (plain call) s = loop (plain call) (start bo)
  | .returned call report => report = dialBackOffHelper (plain call) bo

theorem exec_onItsOwn {d e : Dialer F} {l m : Stage Conn F} (own : OnItsOwn d.backoffConfig l)
    (ran : exec d l () = some (e, m)) : e = d ∧ OnItsOwn d.backoffConfig m := by
  cases l with
  | waiting call =>
    cases ran
    exact ⟨rfl, rfl⟩
  | dialing call s =>
    simp only [exec] at ran
    cases went : iteration (plain call) s with
    | inl r =>
      rw [went] at ran
      cases ran
      have whole : loop (plain call) (start d.backoffConfig) = (r, s) :=
        own.symm.trans (loop_returns went)
      refine ⟨rfl, ?_⟩
      rw [OnItsOwn, dialBackOffHelper, whole]
    | inr t =>
      rw [went] at ran
      cases ran
      exact ⟨rfl, (loop_goes_on went).symm.trans own⟩
  | returned call report => cases ran

/-- However the dials through one dialer interleave, each of them reports what it would report
    alone. -/
theorem interleaved_dials {bo : Backoff F} {calls : List (Call Conn F)}
    {c : Pool (Dialer F) (Stage Conn F)}
    (reach : Reach dialStep Unguarded ⟨newBackoffDialer bo, calls.map .waiting⟩ c) :
    c.shared = newBackoffDialer bo ∧ ∀ l ∈ c.threads, OnItsOwn bo l := by
  refine reach_invariant (fun c => c.shared = newBackoffDialer bo ∧ ∀ l ∈ c.threads, OnItsOwn bo l)
    ⟨rfl, ?_⟩ ?_ reach
  · intro l member
    obtain ⟨call, _, rfl⟩ := List.mem_map.mp member
    trivial
  · rintro c (⟨i, a⟩ | e) d ⟨same, own⟩ _ move
    · obtain ⟨l, e, m, here, ran, rfl⟩ := step_thread move
      rw [same] at ran
      have kept := exec_onItsOwn (d := newBackoffDialer bo)
        (own l (List.mem_of_getElem? here)) ran
      refine ⟨kept.1, ?_⟩
      intro n member
      rcases set_member member with rfl | ⟨j, _, stays⟩
      · exact kept.2
      · exact own n (List.mem_of_getElem? stays)
    · exact e.elim

theorem interleaved_dials_have_full_budget {bo : Backoff F} {k : Nat} (steps : bo.steps = k)
    (uncapped : ¬ 0 < bo.cap) {calls : List (Call Conn F)} {c : Pool (Dialer F) (Stage Conn F)}
    (reach : Reach dialStep Unguarded ⟨newBackoffDialer bo, calls.map .waiting⟩ c)
    {call : Call Conn F} {report : Report Conn F} (ended : .returned call report ∈ c.threads) :
    Budget k (outcome (plain call) bo) report := by
  have own : report = dialBackOffHelper (plain call) bo := (interleaved_dials reach).2 _ ended
  rw [own]
  exact helper_budget steps uncapped (plain call)

end DialBackoff
