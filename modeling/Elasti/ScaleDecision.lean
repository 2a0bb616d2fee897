import Elasti.ScalingRuns

/- calculateScaleDirection: the checks before the triggers, and the loop over them that stops
   at the first trigger that does not allow a scale-down. -/
namespace ScaleDecision
open ScalingRuns

structure EnabledPeriod where
  schedule : String
  duration : String
  deriving DecidableEq, Repr

structure Scaler where
  isHealthy : Except String Bool
  shouldScaleToZero : Except String Bool

structure ScaleTrigger where
  type : String
  newPrometheusScaler : Except String Scaler

structure Policy where
  creationTimestamp : Int
  triggers : List ScaleTrigger
  enabledPeriod : Option EnabledPeriod

structure Library where
  parseDuration : String → Except String Int
  durationString : Int → String
  isInEnabledPeriod : String → Int → Except String Bool

section Decision
variable (lib : Library)

def validateDuration (duration : String) : Except String Int :=
  if duration = "" then .error "duration cannot be empty"
  else
    match lib.parseDuration duration with
    | .error text => .error ("invalid duration '" ++ duration ++ "': " ++ text)
    | .ok d => if d ≤ 0 then .error ("duration must be positive, got: " ++ duration) else .ok d

def isInEnabledPeriod (p : EnabledPeriod) : Except String Bool :=
  let schedule := if p.schedule = "" then "0 0 * * *" else p.schedule
  let durationStr := if p.duration = "" then "24h" else p.duration
  match validateDuration lib durationStr with
  | .error text => .error ("invalid duration: " ++ text)
  | .ok duration =>
    match lib.isInEnabledPeriod schedule duration with
    | .error text => .error ("failed to check enabled period: " ++ text)
    | .ok enabled => .ok enabled

def createScalerForTrigger (t : ScaleTrigger) : Except String Scaler :=
  if t.type = "prometheus" then
    match t.newPrometheusScaler with
    | .error text => .error ("failed to create scaler: " ++ text)
    | .ok scaler => .ok scaler
  else .error ("unsupported trigger type: " ++ t.type)

variable (cooldownPeriod : Int)

def checkTrigger (t : ScaleTrigger) : Option (Except String ScaleDirection) :=
  match createScalerForTrigger t with
  | .error text => some (.error ("failed to create scaler: " ++ text))
  | .ok scaler =>
    match scaler.isHealthy with
    | .error _ => some (.error ("scaler: " ++ t.type ++ ", cooldownPeriod: " ++
        lib.durationString cooldownPeriod ++ ", is not healthy"))
    | .ok false => some (.ok .noScale)
    | .ok true =>
      match scaler.shouldScaleToZero with
      | .error text => some (.error ("failed to check scaler: " ++ text))
      | .ok false => some (.ok .scaleUp)
      | .ok true => none

def checkTriggers : List ScaleTrigger → Except String ScaleDirection
  | [] => .ok .scaleDown
  | t :: rest =>
    match checkTrigger lib cooldownPeriod t with
    | some returned => returned
    | none => checkTriggers rest

def calculateScaleDirection (now : Int) (es : Policy) : Except String ScaleDirection :=
  if es.triggers.isEmpty then .error "no triggers found"
  else if now < es.creationTimestamp + cooldownPeriod then .ok .noScale
  else
    match es.enabledPeriod with
    | none => checkTriggers lib cooldownPeriod es.triggers
    | some period =>
      match isInEnabledPeriod lib period with
      | .error _ => .ok .scaleUp
      | .ok false => .ok .scaleUp
      | .ok true => checkTriggers lib cooldownPeriod es.triggers

end Decision

def HealthyAndIdle (t : ScaleTrigger) : Prop :=
  ∃ scaler, createScalerForTrigger t = .ok scaler ∧ scaler.isHealthy = .ok true ∧
    scaler.shouldScaleToZero = .ok true

def Due (lib : Library) (cooldownPeriod now : Int) (es : Policy) : Prop :=
  es.creationTimestamp + cooldownPeriod ≤ now ∧
    ∀ period ∈ es.enabledPeriod, isInEnabledPeriod lib period = .ok true

/-- There are triggers, the cooldown since the creation is over, the enabled period is absent
    or contains the present, and every trigger is healthy and idle. -/
structure MayScaleDown (lib : Library) (cooldownPeriod now : Int) (es : Policy) : Prop where
  some_trigger : es.triggers ≠ []
  old : es.creationTimestamp + cooldownPeriod ≤ now
  inside : ∀ period ∈ es.enabledPeriod, isInEnabledPeriod lib period = .ok true
  idle : ∀ t ∈ es.triggers, HealthyAndIdle t

section
variable (lib : Library) (cooldownPeriod : Int)

theorem checkTrigger_none_iff (t : ScaleTrigger) :
    checkTrigger lib cooldownPeriod t = none ↔ HealthyAndIdle t := by
  unfold checkTrigger HealthyAndIdle
  cases created : createScalerForTrigger t with
  | error text => simp
  | ok scaler =>
    simp only [Except.ok.injEq, exists_eq_left']
    cases health : scaler.isHealthy with
    | error text => simp
    | ok healthy =>
      cases healthy with
      | false => simp
      | true =>
        cases answer : scaler.shouldScaleToZero with
        | error text => simp
        | ok idle => cases idle <;> simp

theorem checkTrigger_not_scaleDown (t : ScaleTrigger) :
    checkTrigger lib cooldownPeriod t ≠ some (.ok .scaleDown) := by
  unfold checkTrigger
  split
  · simp
  · split
    · simp
    · simp
    · split <;> simp

theorem checkTriggers_scaleDown_iff (triggers : List ScaleTrigger) :
    checkTriggers lib cooldownPeriod triggers = .ok .scaleDown ↔
      ∀ t ∈ triggers, HealthyAndIdle t := by
  induction triggers with
  | nil => simp [checkTriggers]
  | cons t rest ih =>
    rw [List.forall_mem_cons, ← checkTrigger_none_iff lib cooldownPeriod t, ← ih]
    cases stopped : checkTrigger lib cooldownPeriod t with
    | none => simp [checkTriggers, stopped]
    | some returned =>
      have other := checkTrigger_not_scaleDown lib cooldownPeriod t
      rw [stopped] at other
      simp only [checkTriggers, stopped]
      constructor
      · intro down
        exact absurd (congrArg some down) other
      · rintro ⟨impossible, -⟩
        contradiction

theorem calculate_early {now : Int} {es : Policy} (early : ¬ Due lib cooldownPeriod now es) :
    ∃ d, d ≠ .scaleDown ∧ ∀ triggers, triggers ≠ [] →
      calculateScaleDirection lib cooldownPeriod now { es with triggers := triggers } = .ok d := by
  -- before the triggers are looked at the decision does not depend on them, and is never a
  -- scale-down
  unfold Due at early
  by_cases recent : now < es.creationTimestamp + cooldownPeriod
  · refine ⟨.noScale, by decide, ?_⟩
    intro triggers some_trigger
    simp [calculateScaleDirection, some_trigger, recent]
  · refine ⟨.scaleUp, by decide, ?_⟩
    intro triggers some_trigger
    cases period : es.enabledPeriod with
    | none => simp [period, not_lt.mp recent] at early
    | some p =>
      simp only [period, Option.mem_some_iff, forall_eq', not_lt.mp recent, true_and] at early
      simp only [calculateScaleDirection, List.isEmpty_iff, some_trigger, recent, if_false]
      split
      · rfl
      · rfl
      · rename_i inside
        exact absurd inside early

theorem calculate_due {now : Int} {es : Policy} (due : Due lib cooldownPeriod now es)
    (triggers : List ScaleTrigger) (some_trigger : triggers ≠ []) :
    calculateScaleDirection lib cooldownPeriod now { es with triggers := triggers } =
      checkTriggers lib cooldownPeriod triggers := by
  obtain ⟨old, inside⟩ := due
  simp only [calculateScaleDirection, List.isEmpty_iff, some_trigger, not_lt.mpr old, if_false]
  cases period : es.enabledPeriod with
  | none => rfl
  | some p => simp only [inside p (by rw [period]; rfl)]

theorem calculate_scaleDown (now : Int) (es : Policy) :
    calculateScaleDirection lib cooldownPeriod now es = .ok .scaleDown ↔
      MayScaleDown lib cooldownPeriod now es := by
  by_cases none_there : es.triggers = []
  · constructor
    · intro down
      simp [calculateScaleDirection, none_there] at down
    · intro conditions
      exact absurd none_there conditions.some_trigger
  · by_cases due : Due lib cooldownPeriod now es
    · rw [calculate_due lib cooldownPeriod due es.triggers none_there, checkTriggers_scaleDown_iff]
      constructor
      · intro idle
        exact ⟨none_there, due.1, due.2, idle⟩
      · intro conditions
        exact conditions.idle
    · obtain ⟨d, other, decided⟩ := calculate_early lib cooldownPeriod due
      rw [decided es.triggers none_there]
      constructor
      · intro down
        exact absurd (Except.ok.inj down) other
      · intro conditions
        exact absurd ⟨conditions.old, conditions.inside⟩ due

/-- The decision is to scale down exactly under the four conditions; otherwise it is to scale
    up, to leave the target alone, or an error. -/
theorem scaleDown_iff (now : Int) (es : Policy) :
    (calculateScaleDirection lib cooldownPeriod now es = .ok .scaleDown ↔
      MayScaleDown lib cooldownPeriod now es) ∧
    (¬ MayScaleDown lib cooldownPeriod now es →
      calculateScaleDirection lib cooldownPeriod now es = .ok .scaleUp ∨
      calculateScaleDirection lib cooldownPeriod now es = .ok .noScale ∨
      ∃ text, calculateScaleDirection lib cooldownPeriod now es = .error text) := by
  have down := calculate_scaleDown lib cooldownPeriod now es
  refine ⟨down, ?_⟩
  intro unmet
  rw [← down] at unmet
  cases returned : calculateScaleDirection lib cooldownPeriod now es with
  | error text => exact .inr (.inr ⟨text, rfl⟩)
  | ok d =>
    cases d with
    | scaleUp => exact .inl rfl
    | noScale => exact .inr (.inl rfl)
    | scaleDown => exact absurd returned unmet

def OrderFree (now : Int) (es : Policy) : Prop :=
  ∀ triggers, triggers.Perm es.triggers →
    (calculateScaleDirection lib cooldownPeriod now { es with triggers := triggers }).toOption =
      (calculateScaleDirection lib cooldownPeriod now es).toOption

def OneKindOfStop (triggers : List ScaleTrigger) : Prop :=
  ∀ t ∈ triggers, ∀ u ∈ triggers, ∀ r ∈ checkTrigger lib cooldownPeriod t,
    ∀ q ∈ checkTrigger lib cooldownPeriod u, r.toOption = q.toOption

theorem checkTriggers_cases (triggers : List ScaleTrigger) :
    (∃ t ∈ triggers, ∃ r ∈ checkTrigger lib cooldownPeriod t,
      checkTriggers lib cooldownPeriod triggers = r) ∨
    ((∀ t ∈ triggers, checkTrigger lib cooldownPeriod t = none) ∧
      checkTriggers lib cooldownPeriod triggers = .ok .scaleDown) := by
  induction triggers with
  | nil => simp [checkTriggers]
  | cons t rest ih =>
    cases stopped : checkTrigger lib cooldownPeriod t with
    | some r => exact .inl ⟨t, List.mem_cons_self, r, stopped, by simp [checkTriggers, stopped]⟩
    | none =>
      have on : checkTriggers lib cooldownPeriod (t :: rest) =
          checkTriggers lib cooldownPeriod rest := by simp [checkTriggers, stopped]
      rw [on]
      rcases ih with ⟨u, member, r, at_u, same⟩ | ⟨through, down⟩
      · exact .inl ⟨u, List.mem_cons_of_mem t member, r, at_u, same⟩
      · exact .inr ⟨List.forall_mem_cons.mpr ⟨stopped, through⟩, down⟩

theorem stop_first {triggers : List ScaleTrigger} {t : ScaleTrigger}
    {r : Except String ScaleDirection} (member : t ∈ triggers)
    (stops : r ∈ checkTrigger lib cooldownPeriod t) :
    ∃ order, order.Perm triggers ∧ checkTriggers lib cooldownPeriod order = r := by
  obtain ⟨before, after, rfl⟩ := List.append_of_mem member
  refine ⟨t :: (before ++ after), List.perm_middle.symm, ?_⟩
  have found : checkTrigger lib cooldownPeriod t = some r := stops
  simp only [checkTriggers, found]

theorem oneKind_permuted {triggers order : List ScaleTrigger} (perm : order.Perm triggers)
    (same : OneKindOfStop lib cooldownPeriod triggers) :
    (checkTriggers lib cooldownPeriod order).toOption =
      (checkTriggers lib cooldownPeriod triggers).toOption := by
  rcases checkTriggers_cases lib cooldownPeriod order with
    ⟨t, at_t, r, stops, first⟩ | ⟨through, down⟩
  · rcases checkTriggers_cases lib cooldownPeriod triggers with
      ⟨u, at_u, q, ends, second⟩ | ⟨all, -⟩
    · rw [first, second]
      exact same t (perm.mem_iff.mp at_t) u at_u r stops q ends
    · have goes_on := all t (perm.mem_iff.mp at_t)
      rw [goes_on] at stops
      contradiction
  · have all : ∀ t ∈ triggers, HealthyAndIdle t := by
      intro t at_t
      exact (checkTrigger_none_iff lib cooldownPeriod t).mp (through t (perm.mem_iff.mpr at_t))
    rw [down, (checkTriggers_scaleDown_iff lib cooldownPeriod triggers).mpr all]

theorem orderFree_nil {now : Int} {es : Policy} (none_there : es.triggers = []) :
    OrderFree lib cooldownPeriod now es := by
  intro order perm
  rw [none_there, List.perm_nil] at perm
  rw [perm, ← none_there]

theorem order_nonempty {triggers order : List ScaleTrigger} (perm : order.Perm triggers)
    (some_trigger : triggers ≠ []) : order ≠ [] := by
  intro empty
  subst empty
  exact some_trigger (List.nil_perm.mp perm)

theorem MayScaleDown.permuted {now : Int} {es : Policy} {order triggers : List ScaleTrigger}
    (conditions : MayScaleDown lib cooldownPeriod now { es with triggers := triggers })
    (perm : order.Perm triggers) :
    MayScaleDown lib cooldownPeriod now { es with triggers := order } := by
  constructor
  · exact order_nonempty perm conditions.some_trigger
  · exact conditions.old
  · exact conditions.inside
  · intro t member
    exact conditions.idle t (perm.mem_iff.mp member)

theorem orderFree_due {now : Int} {es : Policy} (due : Due lib cooldownPeriod now es)
    (some_trigger : es.triggers ≠ []) :
    OrderFree lib cooldownPeriod now es ↔ OneKindOfStop lib cooldownPeriod es.triggers := by
  have decided : ∀ order, order.Perm es.triggers →
      calculateScaleDirection lib cooldownPeriod now { es with triggers := order } =
        checkTriggers lib cooldownPeriod order := by
    intro order perm
    exact calculate_due lib cooldownPeriod due order (order_nonempty perm some_trigger)
  constructor
  · intro free t at_t u at_u r stops q ends
    obtain ⟨first, perm, at_first⟩ := stop_first lib cooldownPeriod at_t stops
    obtain ⟨second, perm', at_second⟩ := stop_first lib cooldownPeriod at_u ends
    have left := free first perm
    have right := free second perm'
    rw [decided first perm, at_first] at left
    rw [decided second perm', at_second] at right
    rw [left, right]
  · intro same order perm
    rw [decided order perm, decided es.triggers (List.Perm.refl _)]
    exact oneKind_permuted lib cooldownPeriod perm same

theorem orderFree_early {now : Int} {es : Policy} (early : ¬ Due lib cooldownPeriod now es)
    (some_trigger : es.triggers ≠ []) : OrderFree lib cooldownPeriod now es := by
  obtain ⟨d, -, decided⟩ := calculate_early lib cooldownPeriod early
  intro order perm
  rw [decided order (order_nonempty perm some_trigger), decided es.triggers some_trigger]

/-- Whether to scale down does not depend on the order of the triggers. The decision as a
    whole does not exactly if it is made before the triggers are looked at, or all triggers
    that are not healthy and idle end the loop in one way. -/
theorem orderFree_iff (now : Int) (es : Policy) :
    (∀ order, order.Perm es.triggers →
      (calculateScaleDirection lib cooldownPeriod now { es with triggers := order } =
          .ok .scaleDown ↔
        calculateScaleDirection lib cooldownPeriod now es = .ok .scaleDown)) ∧
    (OrderFree lib cooldownPeriod now es ↔
      ¬ Due lib cooldownPeriod now es ∨ OneKindOfStop lib cooldownPeriod es.triggers) := by
  constructor
  · intro order perm
    rw [calculate_scaleDown, calculate_scaleDown]
    constructor
    · intro conditions
      exact conditions.permuted lib cooldownPeriod perm.symm
    · intro conditions
      exact conditions.permuted lib cooldownPeriod perm
  · by_cases none_there : es.triggers = []
    · have free : OrderFree lib cooldownPeriod now es := orderFree_nil lib cooldownPeriod none_there
      simp [free, OneKindOfStop, none_there]
    · by_cases due : Due lib cooldownPeriod now es
      · rw [orderFree_due lib cooldownPeriod due none_there]
        simp [due]
      · simp [due, orderFree_early lib cooldownPeriod due none_there]

end

def unhealthy : ScaleTrigger := ⟨"prometheus", .ok ⟨.ok false, .ok true⟩⟩

def active : ScaleTrigger := ⟨"prometheus", .ok ⟨.ok true, .ok false⟩⟩

def noPeriods : Library := ⟨fun _ => .ok 1, fun _ => "15m0s", fun _ _ => .ok true⟩

/-- A trigger that is not healthy hides an active one behind it. -/
theorem unhealthy_hides_active :
    [unhealthy, active].Perm [active, unhealthy] ∧
      calculateScaleDirection noPeriods 900 1000 ⟨0, [active, unhealthy], none⟩ = .ok .scaleUp ∧
      calculateScaleDirection noPeriods 900 1000 ⟨0, [unhealthy, active], none⟩ =
        .ok .noScale := by
  refine ⟨.swap _ _ _, ?_⟩
  simp [calculateScaleDirection, checkTriggers, checkTrigger, createScalerForTrigger, active,
    unhealthy]

end ScaleDecision
