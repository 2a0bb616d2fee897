import Elasti.Cluster

/- The poll loop checks the cooldown against the time it listed, long before its update.
   The times recorded since then, and times that were recorded out of order, are what can
   bring a target to zero within its cooldown. -/
namespace ScalingCooldown
open GuardedRuns ThreadPool V1Alpha1 ScaleTarget ScalingRuns SwitchModes Cluster

def recording : Run → Option Int
  | .tick (.fromZero (.record now)) | .notify (.scaleUp (.record now)) => some now
  | _ => none

def zeroing : Run → Option (Option Int)
  | .tick (.toZero listed (.scale .update)) => some listed
  | _ => none

/-- Scale-up times are stored in the order in which they were taken, and the stored time is
    still the listed one when the update to zero takes effect. -/
def RecordsCurrent (c : Runs) : Move → Prop
  | .thread i (.scaling .ok) =>
    ∀ l ∈ c.threads[i]?,
      (∀ now ∈ recording l, ∀ last ∈ c.shared.scaling.lastScaledUpTime, last ≤ now) ∧
      (∀ listed ∈ zeroing l, c.shared.scaling.lastScaledUpTime = listed)
  | _ => True

instance (c : Runs) (e : Move) : Decidable (RecordsCurrent c e) := by
  unfold RecordsCurrent
  split <;> infer_instance

structure SameRecords (s t : Scaling) : Prop where
  now : t.now = s.now
  last : t.lastScaledUpTime = s.lastScaledUpTime
  recorded : t.recorded = s.recorded

structure Recorded (s t : Scaling) (time : Int) : Prop where
  now : t.now = s.now
  last : t.lastScaledUpTime = some time
  recorded : t.recorded = time :: s.recorded

section Records
variable [Apimachinery]

theorem resizeEffect_records {spec : ElastiServiceSpec} {paused : Bool} {desired : Int}
    {s t : Scaling} {pc next : ResizePc} {a : Answer}
    (effect : ResizeEffect spec paused desired s pc a t next) : SameRecords s t := by
  cases effect with
  | patch a found => exact ⟨rfl, rfl, rfl⟩
  | unpatched err => exact ⟨rfl, rfl, rfl⟩
  | scale pc a t status effect => cases effect <;> exact ⟨rfl, rfl, rfl⟩

theorem scaleUpEffect_records {spec : ElastiServiceSpec} {s t : Scaling} {pc next : ScaleUpPc}
    {a : Answer} (effect : ScaleUpEffect spec s pc a t next) :
    SameRecords s t ∨ ∃ now, pc = .record now ∧ a = .ok ∧ Recorded s t now := by
  cases effect with
  | stamp => exact .inl ⟨rfl, rfl, rfl⟩
  | record now => exact .inr ⟨now, rfl, rfl, rfl, rfl, rfl⟩
  | unrecorded now err => exact .inl ⟨rfl, rfl, rfl⟩
  | resize pc a t next effect => exact .inl (resizeEffect_records effect)

theorem finalizerEffect_records {spec : ElastiServiceSpec} {c d : State} {pc next : FinalizerPc}
    {a : FinalizerAnswer} (effect : FinalizerEffect spec c pc a d next) :
    SameRecords c.scaling d.scaling := by
  cases effect with
  | scale errs pc a t status effect => cases effect <;> exact ⟨rfl, rfl, rfl⟩
  | _ => exact ⟨rfl, rfl, rfl⟩

theorem effect_records {sys : System} {c d : State} {l m : Run} {a : Label}
    (effect : Effect sys c l a d m) :
    SameRecords c.scaling d.scaling ∨
      ∃ now, recording l = some now ∧ a = .scaling .ok ∧ Recorded c.scaling d.scaling now := by
  cases effect with
  | tick pc a t next effect =>
    cases effect with
    | toZero listed pc a t next effect => exact .inl (resizeEffect_records effect)
    | fromZero pc a t next effect =>
      rcases scaleUpEffect_records effect with same | ⟨now, here, answer, recorded⟩
      · exact .inl same
      · subst here answer
        exact .inr ⟨now, rfl, rfl, recorded⟩
    | _ => exact .inl ⟨rfl, rfl, rfl⟩
  | scaleUp pc a t next effect =>
    rcases scaleUpEffect_records effect with same | ⟨now, here, answer, recorded⟩
    · exact .inl same
    · subst here answer
      exact .inr ⟨now, rfl, rfl, recorded⟩
  | finalizer pc a d next effect => exact .inl (finalizerEffect_records effect)
  | _ => exact .inl ⟨rfl, rfl, rfl⟩

theorem effect_now {sys : System} {c d : State} {l m : Run} {a : Label}
    (effect : Effect sys c l a d m) : d.scaling.now = c.scaling.now := by
  rcases effect_records effect with same | ⟨now, -, -, recorded⟩
  · exact same.now
  · exact recorded.now

def LastLatest (c : State) : Prop :=
  ∀ t ∈ c.scaling.recorded, ∃ last, c.scaling.lastScaledUpTime = some last ∧ t ≤ last

def ListedOld (sys : System) (c : State) (l : Run) : Prop :=
  ∀ last pc, l = .tick (.toZero (some last) pc) →
    last + resolveCooldownPeriod sys.spec ≤ c.scaling.now

theorem lastLatest_step {sys : System} {c : Runs} {i : Nat} {a : Label} {l m : Run} {d : State}
    (latest : LastLatest c.shared) (meets : RecordsCurrent c (.thread i a))
    (here : c.threads[i]? = some l) (effect : Effect sys c.shared l a d m) : LastLatest d := by
  intro t member
  rcases effect_records effect with same | ⟨now, sending, answer, recorded⟩
  · rw [same.recorded] at member
    rw [same.last]
    exact latest t member
  · subst answer
    rw [recorded.recorded] at member
    rw [recorded.last]
    rcases List.mem_cons.mp member with new | old
    · exact ⟨now, rfl, new.le⟩
    · obtain ⟨last, stored, below⟩ := latest t old
      have ordered := (meets l here).1 now sending last stored
      exact ⟨now, rfl, by omega⟩

theorem listedOld_step {sys : System} {c d : State} {l m : Run} {a : Label}
    (old : ListedOld sys c l) (effect : Effect sys c l a d m) : ListedOld sys d m := by
  intro last pc reached
  rw [effect_now effect]
  cases effect with
  | tick before a t next effect =>
    cases reached
    cases effect with
    | met listed met =>
      have due : ¬ c.scaling.now - last < resolveCooldownPeriod sys.spec := by
        simpa [cooldownMet] using met
      omega
    | toZero listed inner a t next effect => exact old last inner rfl
  | _ => cases reached

end Records

theorem world_records {c d : State} {e : World} (moved : world c e = some d) :
    d.scaling.recorded = c.scaling.recorded ∧
      d.scaling.lastScaledUpTime = c.scaling.lastScaledUpTime ∧ c.scaling.now ≤ d.scaling.now := by
  cases e <;> cases moved <;> simp

structure Fresh (sys : System) (c : Runs) : Prop where
  recorded : c.shared.scaling.recorded = c.shared.scaling.lastScaledUpTime.toList
  initial : ∀ l ∈ c.threads, Initial sys l

theorem cooldown_invariant [Apimachinery] {sys : System} {start c : Runs} (fresh : Fresh sys start)
    (reach : Reach (clusterStep sys) RecordsCurrent start c) :
    LastLatest c.shared ∧ ∀ l ∈ c.threads, ListedOld sys c.shared l := by
  apply reach_modular ?_ ?_ ?_ ?_ ?_ reach
  · intro c i a l d m latest listed meets here ran
    have effect := exec_effect ran
    exact ⟨lastLatest_step latest meets here effect,
      listedOld_step (listed l (List.mem_of_getElem? here)) effect⟩
  · intro c i a l d m j n latest listed meets here ran away at_j last pc reached
    rw [effect_now (exec_effect ran)]
    exact listed n (List.mem_of_getElem? at_j) last pc reached
  · intro c e d latest listed meets moved
    obtain ⟨recorded, last, later⟩ := world_records moved
    constructor
    · intro t member
      rw [recorded] at member
      rw [last]
      exact latest t member
    · intro n member last pc reached
      have before := listed n member last pc reached
      omega
  · intro t member
    rw [fresh.recorded, Option.mem_toList] at member
    exact ⟨t, member, le_refl t⟩
  · intro l member last pc reached
    subst reached
    have begun := fresh.initial _ member
    cases begun

/-- When scale-up times are stored in order and a tick's update to zero finds the time it
    listed still stored, every time recorded before the update is a cooldown old. -/
theorem no_scale_to_zero_within_cooldown [Apimachinery] (sys : System) (start c d : Runs) (i : Nat)
    (listed : Option Int) (fresh : Fresh sys start)
    (reach : Reach (clusterStep sys) RecordsCurrent start c)
    (here : c.threads[i]? = some (.tick (.toZero listed (.scale .update))))
    (meets : RecordsCurrent c (.thread i (.scaling .ok)))
    (move : clusterStep sys c (.thread i (.scaling .ok)) = some d) :
    ∀ t ∈ d.shared.scaling.recorded,
      t + resolveCooldownPeriod sys.spec ≤ d.shared.scaling.now := by
  obtain ⟨latest, old⟩ := cooldown_invariant fresh reach
  obtain ⟨l, e, m, found, ran, rfl⟩ := step_thread move
  rw [here] at found
  cases found
  have effect := exec_effect ran
  intro t member
  rcases effect_records effect with same | ⟨now, sending, -, -⟩
  · rw [same.recorded] at member
    rw [same.now]
    obtain ⟨last, stored, below⟩ := latest t member
    have unchanged := (meets _ here).2 listed rfl
    rw [stored] at unchanged
    subst unchanged
    have due := old _ (List.mem_of_getElem? here) last _ rfl
    omega
  · cases sending

def minute : System :=
  ⟨⟨⟨"apps/v1", "Deployment", "cart"⟩, "cart", 1, 60, none⟩, oneNamespace, "uid"⟩

def serving (now : Int) (last : Option Int) : State :=
  ⟨⟨now, true, last, last.toList, none, some ⟨1, 1⟩, false⟩,
    ⟨⟨some .serve, none, none⟩, some (some .serve), false, some .serve⟩⟩

def tickToUpdate (i : Nat) : List Move :=
  [.thread i (.scaling .ok), .thread i (.scaling (.direction .scaleDown)), .thread i (.scaling .ok),
    .thread i (.scaling .ok), .thread i (.scaling .ok)]

def tickAfterNotification : List Move :=
  List.replicate 3 (.thread 1 (.scaling .ok)) ++ .world (.advance 60000000000) ::
    .thread 0 (.scaling .ok) :: .thread 1 (.scaling .ok) ::
    .thread 0 (.scaling (.direction .scaleDown)) :: List.replicate 2 (.thread 1 (.scaling .ok)) ++
    List.replicate 3 (.thread 0 (.scaling .ok))

theorem tick_after_notification :
    ∃ c d, Reach (clusterStep minute) RecordsCurrent
        ⟨serving (second * 100) none, [.tick .list, .notify .lookup]⟩ c ∧
      clusterStep minute c (.thread 0 (.scaling .ok)) = some d ∧
      d.shared.scaling.target = some ⟨0, 1⟩ ∧ d.shared.scaling.recorded = [second * 100] ∧
      ∀ t ∈ d.shared.scaling.recorded,
        t + resolveCooldownPeriod minute.spec ≤ d.shared.scaling.now := by
  have reach : Reach (clusterStep minute) RecordsCurrent
      ⟨serving (second * 100) none, [.tick .list, .notify .lookup]⟩ _ :=
    reach_of_guardedRun tickAfterNotification rfl
  refine ⟨_, _, reach, rfl, rfl, rfl, ?_⟩
  exact no_scale_to_zero_within_cooldown minute _ _ _ 0 (some (second * 100)) ⟨rfl, by decide⟩ reach
    rfl (by decide) rfl

/-- A notification between the list and the update of a tick: the scale-up is recorded, and
    the target is at zero in the same instant. -/
theorem notification_during_tick :
    ∃ c d, Reach (clusterStep minute) Unguarded
        ⟨serving (second * 100) none, [.tick .list, .notify .lookup]⟩ c ∧
      c.threads[0]? = some (.tick (.toZero none (.scale .update))) ∧
      clusterStep minute c (.thread 0 (.scaling .ok)) = some d ∧
      d.shared.scaling.target = some ⟨0, 1⟩ ∧
      d.shared.scaling.recorded = [second * 100] ∧
      ¬ ∀ t ∈ d.shared.scaling.recorded,
        t + resolveCooldownPeriod minute.spec ≤ d.shared.scaling.now := by
  refine ⟨_, _, reach_of_run (tickToUpdate 0 ++ List.replicate 3 (.thread 1 (.scaling .ok))) rfl,
    rfl, rfl, rfl, rfl, ?_⟩
  decide

end ScalingCooldown
