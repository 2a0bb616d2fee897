import Elasti.ScaleDecision

/- cronutil: whether an instant lies in a window that a cron schedule opens. Instants are
   counted in nanoseconds from the zero time, durations are int64 nanoseconds. Of the cron
   library only what Next promises is used. -/
namespace Cronutil
open ScaleDecision

def zeroTime : Int := 0

def day : Int := 24 * 3600 * 1000000000

def int64 (n : Int) : Int := n.bmod (2 ^ 64)

/-- A parsed schedule. Next answers with the least activation after an instant, and with the
    zero time when there is none. -/
structure Schedule where
  Activation : Int → Prop
  next : Int → Int
  next_spec : ∀ x,
    (next x ≠ zeroTime ∧ x < next x ∧ Activation (next x) ∧
      ∀ t, Activation t → x < t → next x ≤ t) ∨
    (next x = zeroTime ∧ ∀ t, Activation t → t ≤ x)

/-- The loop of findLastTriggerTime. The first argument bounds its rounds. -/
def findLoop (schedule : Schedule) (now : Int) : Nat → Int → Int → Option Int
  | 0, _, _ => none
  | rounds + 1, lastTrigger, triggerTime =>
    if triggerTime ≤ now ∧ triggerTime ≠ zeroTime then
      findLoop schedule now rounds triggerTime (schedule.next triggerTime)
    else some lastTrigger

def findLastTriggerTime (rounds : Nat) (schedule : Schedule) (now lookbackWindow : Int) :
    Option Int :=
  findLoop schedule now rounds zeroTime (schedule.next (now - lookbackWindow))

abbrev Parser := String → Except String Schedule

def parseCronSchedule (parse : Parser) (schedule : String) : Except String Schedule :=
  if schedule = "" then .error "cron schedule cannot be empty"
  else
    match parse schedule with
    | .error text => .error ("invalid cron expression '" ++ schedule ++ "': " ++ text)
    | .ok parsed => .ok parsed

def inWindow (rounds : Nat) (schedule : Schedule) (duration now : Int) : Option Bool :=
  (findLastTriggerTime rounds schedule now (int64 (duration + day))).map fun lastTrigger =>
    if lastTrigger = zeroTime then false else now < lastTrigger + duration

def isInEnabledPeriodAt (parse : Parser) (rounds : Nat) (schedule : String)
    (duration now : Int) : Option (Except String Bool) :=
  match parseCronSchedule parse schedule with
  | .error text => some (.error ("failed to parse cron schedule: " ++ text))
  | .ok parsed => (inWindow rounds parsed duration now).map .ok

def LastTrigger (schedule : Schedule) (earliest now last : Int) : Prop :=
  (last = zeroTime ∧ ∀ t, schedule.Activation t → t ≤ now → t ≤ earliest) ∨
  (last ≠ zeroTime ∧ schedule.Activation last ∧ last ≤ now ∧
    ∀ t, schedule.Activation t → t ≤ now → t ≤ last)

/-- The round's two variables: nothing was found yet after the earliest instant, or the last
    trigger was, and the loop stands right after it. -/
def Standing (schedule : Schedule) (earliest now last stand : Int) : Prop :=
  (last = zeroTime ∧ stand = earliest) ∨
  (last ≠ zeroTime ∧ schedule.Activation last ∧ last ≤ now ∧ stand = last)

theorem Standing.ends {schedule : Schedule} {earliest now last stand : Int}
    (standing : Standing schedule earliest now last stand)
    (nothing : ∀ t, schedule.Activation t → t ≤ now → t ≤ stand) :
    LastTrigger schedule earliest now last := by
  rcases standing with ⟨zero, rfl⟩ | ⟨found, active, past, rfl⟩
  · exact .inl ⟨zero, nothing⟩
  · exact .inr ⟨found, active, past, nothing⟩

theorem findLoop_ends (schedule : Schedule) {earliest now : Int} (rounds : Nat) :
    ∀ {last stand : Int}, Standing schedule earliest now last stand →
      (now - stand).toNat < rounds →
      ∃ found, findLoop schedule now rounds last (schedule.next stand) = some found ∧
        LastTrigger schedule earliest now found := by
  -- each round moves the standing point forward, so the loop ends, and what it ends with is the
  -- last trigger
  induction rounds with
  | zero =>
    intro last stand _ enough
    omega
  | succ rounds ih =>
    intro last stand standing enough
    simp only [findLoop]
    split
    · rename_i goes
      obtain ⟨past, nonzero⟩ := goes
      rcases schedule.next_spec stand with ⟨_, forward, active, _⟩ | ⟨zero, _⟩
      · exact ih (.inr ⟨nonzero, active, past, rfl⟩) (by omega)
      · exact absurd zero nonzero
    · rename_i stops
      refine ⟨last, rfl, standing.ends ?_⟩
      intro t active past
      rcases schedule.next_spec stand with ⟨nonzero, _, _, least⟩ | ⟨_, none_later⟩
      · by_contra later
        have := least t active (by omega)
        exact stops ⟨by omega, nonzero⟩
      · exact none_later t active

def InSomeWindow (schedule : Schedule) (duration now : Int) : Prop :=
  ∃ t, schedule.Activation t ∧ t ≤ now ∧ now < t + duration

theorem lastTrigger_window {schedule : Schedule} {earliest now last duration : Int}
    (found : LastTrigger schedule earliest now last) (far : earliest ≤ now - duration) :
    (if last = zeroTime then false else decide (now < last + duration)) = true ↔
      InSomeWindow schedule duration now := by
  -- only the last trigger matters: the windows of earlier ones close sooner, and a window still
  -- open was opened after the lookback point
  rcases found with ⟨zero, nothing⟩ | ⟨nonzero, active, past, latest⟩
  · simp only [zero, if_true, Bool.false_eq_true, false_iff]
    rintro ⟨t, active, past, inside⟩
    have := nothing t active past
    omega
  · simp only [nonzero, if_false, decide_eq_true_eq]
    constructor
    · intro inside
      exact ⟨last, active, past, inside⟩
    · rintro ⟨t, active, past, inside⟩
      have := latest t active past
      omega

theorem int64_range {n : Int} (low : 0 ≤ n) (high : n < 2 ^ 63) : int64 n = n := by
  unfold int64
  apply Int.bmod_eq_of_le <;> norm_num at * <;> omega

def enoughRounds (duration : Int) : Nat := (duration + day).toNat + 1

theorem findLastTriggerTime_ends (schedule : Schedule) (now lookbackWindow : Int) (rounds : Nat)
    (enough : lookbackWindow.toNat < rounds) :
    ∃ last, findLastTriggerTime rounds schedule now lookbackWindow = some last ∧
      LastTrigger schedule (now - lookbackWindow) now last :=
  findLoop_ends schedule rounds (.inl ⟨rfl, rfl⟩) (by omega)

theorem inWindow_iff (schedule : Schedule) (duration now : Int) (rounds : Nat)
    (positive : 0 < duration) (in_range : duration + day < 2 ^ 63)
    (enough : enoughRounds duration ≤ rounds) :
    ∃ answer, inWindow rounds schedule duration now = some answer ∧
      (answer = true ↔ InSomeWindow schedule duration now) := by
  have window : int64 (duration + day) = duration + day :=
    int64_range (by unfold day; omega) in_range
  obtain ⟨last, found, spec⟩ := findLastTriggerTime_ends schedule now (duration + day) rounds
    (by unfold enoughRounds at enough; omega)
  refine ⟨_, by rw [inWindow, window, found]; rfl, lastTrigger_window spec ?_⟩
  unfold day
  omega

/-- For every schedule that parses, both functions end, and the answer is whether some window
    is open. -/
theorem enabled_period_is_window (parse : Parser) (schedule : String) (parsed : Schedule)
    (duration now : Int) (parses : parseCronSchedule parse schedule = .ok parsed)
    (positive : 0 < duration) (in_range : duration + day < 2 ^ 63) :
    ∃ bound, ∀ rounds, bound ≤ rounds →
      (∃ last, findLastTriggerTime rounds parsed now (int64 (duration + day)) = some last) ∧
      ∃ answer, isInEnabledPeriodAt parse rounds schedule duration now = some (.ok answer) ∧
        (answer = true ↔ InSomeWindow parsed duration now) := by
  refine ⟨enoughRounds duration, fun rounds enough => ?_⟩
  obtain ⟨answer, computed, iff⟩ := inWindow_iff parsed duration now rounds positive in_range enough
  constructor
  · obtain ⟨last, found, _⟩ := Option.map_eq_some_iff.mp computed
    exact ⟨last, found⟩
  · refine ⟨answer, ?_, iff⟩
    simp [isInEnabledPeriodAt, parses, computed]

def hour : Int := 3600 * 1000000000

def hourly : Schedule where
  Activation t := 0 < t ∧ t % hour = 0
  next x := if x < 0 then hour else (x / hour + 1) * hour
  next_spec x := by
    left
    unfold hour zeroTime
    split
    · refine ⟨by omega, by omega, by omega, ?_⟩
      intro t active _
      omega
    · refine ⟨by omega, by omega, by omega, ?_⟩
      intro t active _
      omega

def halfPastTwo : Int := 739000 * day + 5 * hour / 2

theorem hourly_half_past :
    0 < halfPastTwo - (hour / 2 + 1 + day) ∧
    InSomeWindow hourly (hour / 2 + 1) halfPastTwo ∧
    ∃ bound, ∀ rounds, bound ≤ rounds →
      (∃ last, findLastTriggerTime rounds hourly halfPastTwo
        (int64 (hour / 2 + 1 + day)) = some last) ∧
      ∃ answer, isInEnabledPeriodAt (fun _ => .ok hourly) rounds "0 * * * *" (hour / 2 + 1)
          halfPastTwo = some (.ok answer) ∧
        (answer = true ↔ InSomeWindow hourly (hour / 2 + 1) halfPastTwo) := by
  have open_window : InSomeWindow hourly (hour / 2 + 1) halfPastTwo :=
    ⟨739000 * day + 2 * hour, by simp only [hourly, hour, day]; decide, by decide, by decide⟩
  refine ⟨by decide, open_window, ?_⟩
  exact enabled_period_is_window (fun _ => .ok hourly) "0 * * * *" hourly (hour / 2 + 1)
    halfPastTwo rfl (by decide) (by decide)

def isInEnabledPeriodNow (parse : Parser) (now : Int) (schedule : String) (duration : Int) :
    Except String Bool :=
  (isInEnabledPeriodAt parse (enoughRounds duration) schedule duration now).getD (.ok false)

theorem validated_positive {lib : Library} {text : String} {duration : Int}
    (valid : validateDuration lib text = .ok duration) : 0 < duration := by
  unfold validateDuration at valid
  by_cases empty : text = ""
  · rw [if_pos empty] at valid
    contradiction
  · rw [if_neg empty] at valid
    cases parsed : lib.parseDuration text with
    | error err =>
      rw [parsed] at valid
      contradiction
    | ok d =>
      simp only [parsed] at valid
      split at valid
      · contradiction
      · rw [← Except.ok.inj valid]
        omega

section Decision
variable {parse : Parser} {now : Int} {lib : Library} {period : EnabledPeriod}
  {duration : Int} {parsed : Schedule}
  (cron : lib.isInEnabledPeriod = isInEnabledPeriodNow parse now)
  (valid : validateDuration lib (if period.duration = "" then "24h" else period.duration) =
    .ok duration)
  (parses : parseCronSchedule parse
    (if period.schedule = "" then "0 0 * * *" else period.schedule) = .ok parsed)
  (in_range : duration + day < 2 ^ 63)

include cron valid parses in_range in
theorem enabledPeriod_iff :
    isInEnabledPeriod lib period = .ok true ↔ InSomeWindow parsed duration now := by
  obtain ⟨answer, computed, iff⟩ := inWindow_iff parsed duration now (enoughRounds duration)
    (validated_positive valid) in_range le_rfl
  rw [← iff]
  simp [isInEnabledPeriod, valid, cron, isInEnabledPeriodNow, isInEnabledPeriodAt, parses, computed]

include cron valid parses in_range in
theorem closed_window_keeps {es : Policy} (cooldownPeriod : Int)
    (configured : es.enabledPeriod = some period)
    (closed : ¬ InSomeWindow parsed duration now) :
    calculateScaleDirection lib cooldownPeriod now es ≠ .ok .scaleDown := by
  rw [Ne, calculate_scaleDown]
  intro may
  have inside := may.inside period configured
  exact closed ((enabledPeriod_iff cron valid parses in_range).mp inside)

end Decision

end Cronutil
