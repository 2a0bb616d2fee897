import Elasti.Throttler

/- The queue size of a service against the Try calls in progress for it. Each update is a
   load and a later store, so two updates of one key that overlap count as one. -/
namespace QueueSize
open GuardedRuns ThreadPool ThrottlerBreaker ResolverThrottler

/-- Between the load and the store of incrementQueueSize or decrementQueueSize. -/
def updating (l : Call) : Bool :=
  match l.pc with
  | .incStore _ | .decStore _ _ => true
  | _ => false

def inProgress (l : Call) : Bool :=
  match l.pc with
  | .incLoad | .returned _ => false
  | _ => true

def serves (ns service : String) (l : Call) : Bool :=
  l.host.ns = ns && l.host.sourceService = service

/-- When no update is under way, every queue size is the number of calls in progress. -/
def CountsCalls (c : Tries) : Prop :=
  (∀ l ∈ c.threads, updating l = false) → ∀ ns service,
    getQueueSize c.shared ns service =
      c.threads.countP fun l => inProgress l && serves ns service l

def loadedSize (l : Call) : Option Int :=
  match l.pc with
  | .incStore size | .decStore _ size => some size
  | _ => none

/-- A store overwrites the value its load returned. -/
def FreshStores (c : Tries) : Move → Prop
  | .thread i .go =>
    ∀ l ∈ c.threads[i]?, ∀ size ∈ loadedSize l,
      size = getQueueSize c.shared l.host.ns l.host.sourceService
  | _ => True

instance (c : Tries) (e : Move) : Decidable (FreshStores c e) := by
  unfold FreshStores
  split <;> infer_instance

def counted (l : Call) : Bool :=
  match l.pc with
  | .incLoad | .incStore _ | .returned _ => false
  | .maybe _ | .thunk _ | .decLoad _ | .decStore _ _ => true

inductive Effect (t : Throttler) (l : Call) (a : Answer) : Throttler → Call → Prop where
  | add (size : Int) (go : a = .go) (before : l.pc = .incStore size) :
      Effect t l a (storeQueueSize t l.host (size + 1)) (enterMaybe l)
  | drop (ending : Ending) (size : Int) (go : a = .go) (before : l.pc = .decStore ending size) :
      Effect t l a (storeQueueSize t l.host (size - 1)) { l with pc := .returned ending }
  | quiet (u : Throttler) (m : Call) (sizes : u.queueSizeMap = t.queueSizeMap)
      (host : m.host = l.host) (same : counted m = counted l) : Effect t l a u m

theorem resume_counted (l : Call) (pc : MaybePc) :
    counted (resume l pc) = true ∧ (resume l pc).host = l.host := by
  cases pc with
  | returned out =>
    cases out with
    | done => cases again : l.reenqueue <;> simp [resume, enterMaybe, counted, again]
    | queueFull | cancelled | unpaired => simp [resume, counted]
  | tryLoad | tryCas | acquiring | thunk | releasing | slotLoad | slotCas =>
    simp [resume, counted]

theorem maybeStep_effect {t u : Throttler} {l m : Call} {pc : MaybePc} {a : Answer}
    {ch : ThrottlerSemaphore.Choice} (before : l.pc = .maybe pc)
    (ran : maybeStep t l pc ch = some (u, m)) : Effect t l a u m := by
  obtain ⟨⟨b, next⟩, -, same⟩ := Option.map_eq_some_iff.mp ran
  cases same
  obtain ⟨inside, host⟩ := resume_counted l next
  refine .quiet _ _ rfl host (inside.trans ?_)
  simp [counted, before]

theorem tryStep_effect {t u : Throttler} {l m : Call} {a : Answer}
    (ran : tryStep t l a = some (u, m)) : Effect t l a u m := by
  cases tryStep_cases ran with
  | contextDone err => exact .quiet _ _ rfl rfl rfl
  | incLoad size before => exact .quiet _ _ rfl rfl (by simp [counted, before])
  | incStore size before => exact .add size rfl before
  | maybe pc ch _ _ _ before ran => exact maybeStep_effect before ran
  | thunk pc _ _ _ before ran =>
    obtain ⟨-, sizes, host, after⟩ := thunkStep_spec ran
    refine .quiet _ _ sizes host ?_
    rcases after with ⟨next, after⟩ | after <;> simp [counted, before, after]
  | decLoad ending size before => exact .quiet _ _ rfl rfl (by simp [counted, before])
  | decStore ending size before => exact .drop ending size rfl before

theorem getQueueSize_store (t : Throttler) (h : Host) (size : Int) (ns service : String) :
    getQueueSize (storeQueueSize t h size) ns service =
      if h.ns = ns ∧ h.sourceService = service then size else getQueueSize t ns service := by
  simp only [getQueueSize, storeQueueSize, Function.update_apply]
  by_cases same : h.ns = ns ∧ h.sourceService = service
  · rw [if_pos same, if_pos ((mapKey_injective h ns service).mpr same).symm]
    rfl
  · have other : mapKey ns service ≠ mapKey h.ns h.sourceService := fun equal =>
      same ((mapKey_injective h ns service).mp equal.symm)
    rw [if_neg same, if_neg other]

def Exact (c : Tries) : Prop :=
  ∀ ns service, getQueueSize c.shared ns service =
    c.threads.countP fun l => counted l && serves ns service l

theorem exact_store {c : Tries} {i : Nat} {l m : Call} {size : Int} (inv : Exact c)
    (here : c.threads[i]? = some l) (host : m.host = l.host)
    (right : size + (counted l).toNat =
      getQueueSize c.shared l.host.ns l.host.sourceService + (counted m).toNat) :
    Exact ⟨storeQueueSize c.shared l.host size, c.threads.set i m⟩ := by
  intro ns service
  have before := inv ns service
  have moved := count_set_toNat (fun l => counted l && serves ns service l) m here
  dsimp only
  rw [getQueueSize_store]
  split
  · rename_i same
    obtain ⟨rfl, rfl⟩ := same
    have mine : ∀ n : Call, n.host = l.host →
        serves l.host.ns l.host.sourceService n = true := by
      intro n same
      simp [serves, same]
    rw [mine l rfl, mine m host, Bool.and_true, Bool.and_true] at moved
    omega
  · rename_i other
    have elsewhere : ∀ n : Call, n.host = l.host → serves ns service n = false := by
      intro n same
      simpa [serves, same] using other
    rw [elsewhere l rfl, elsewhere m host, Bool.and_false, Bool.and_false] at moved
    omega

theorem exact_quiet {c : Tries} {i : Nat} {l m : Call} {t : Throttler} (inv : Exact c)
    (here : c.threads[i]? = some l) (sizes : t.queueSizeMap = c.shared.queueSizeMap)
    (host : m.host = l.host) (same : counted m = counted l) :
    Exact ⟨t, c.threads.set i m⟩ := by
  intro ns service
  have moved := count_set_toNat (fun l => counted l && serves ns service l) m here
  have alike : serves ns service m = serves ns service l := by rw [serves, serves, host]
  rw [same, alike] at moved
  have kept := Nat.add_right_cancel moved
  dsimp only
  rw [kept, ← inv ns service, getQueueSize, getQueueSize, sizes]

theorem exact_step (c : Tries) (e : Move) (d : Tries) (inv : Exact c) (fresh : FreshStores c e)
    (move : triesStep c e = some d) : Exact d := by
  cases e with
  | world k =>
    obtain ⟨t, ran, rfl⟩ := step_world move
    obtain ⟨key, -, rfl⟩ := Option.map_eq_some_iff.mp ran
    exact inv
  | thread i a =>
    obtain ⟨l, t, m, here, ran, rfl⟩ := step_thread move
    cases tryStep_effect ran with
    | add size go before =>
      subst go
      have loaded := fresh l here size (by simp [loadedSize, before])
      refine exact_store inv here rfl ?_
      simp [counted, before, enterMaybe, loaded]
    | drop ending size go before =>
      subst go
      have loaded := fresh l here size (by simp [loadedSize, before])
      refine exact_store inv here rfl ?_
      simp [counted, before, loaded]
    | quiet _ _ sizes host same => exact exact_quiet inv here sizes host same

theorem exact_start (p : BreakerParams) (hosts : List Host) : Exact (tries p hosts) := by
  intro ns service
  have none : ((tries p hosts).threads.countP fun l => counted l && serves ns service l) = 0 := by
    simp [tries, List.countP_eq_zero, newCall, counted]
  rw [none]
  rfl

/-- In every run in which each store overwrites the value its load returned, the queue sizes
    count the calls in progress whenever no update is under way. -/
theorem queue_size_counts (p : BreakerParams) (hosts : List Host) (d : Tries)
    (reach : Reach triesStep FreshStores (tries p hosts) d) : CountsCalls d := by
  have inv : Exact d := reach_invariant Exact (exact_start p hosts) exact_step reach
  intro quiet ns service
  have standing : ∀ l ∈ d.threads, counted l = inProgress l := by
    intro l member
    have idle := quiet l member
    cases place : l.pc <;> simp_all [updating, counted, inProgress]
  rw [inv ns service]
  congr 1
  apply List.countP_congr
  intro l member
  rw [standing l member]

theorem two_calls_counted :
    ∃ d, Reach triesStep FreshStores (tries ⟨1, 1, 1⟩ [web, web]) d ∧
      d.threads.map updating = [false, false] ∧ getQueueSize d.shared "shop" "web" = 2 ∧
      CountsCalls d := by
  have reach : Reach triesStep FreshStores (tries ⟨1, 1, 1⟩ [web, web]) _ :=
    reach_of_guardedRun (goes 0 2 ++ goes 1 2) rfl
  exact ⟨_, reach, rfl, rfl, queue_size_counts ⟨1, 1, 1⟩ [web, web] _ reach⟩

def serve (i : Nat) (found : List Move) : List Move :=
  goes i 5 ++ found ++ .thread i (.resolved none) :: goes i 8

def bothStart : List Move := [.thread 0 .go, .thread 1 .go, .thread 0 .go, .thread 1 .go]

def bothServed : List Move :=
  bothStart ++ serve 0 (.thread 0 (.active true) :: goes 0 2) ++ serve 1 []

theorem overlapping_updates_lost :
    ∃ d, Reach triesStep Unguarded (tries ⟨1, 1, 1⟩ [web, web]) d ∧
      d.threads.map (fun l => l.pc) = [.returned .nil, .returned .nil] ∧
      getQueueSize d.shared "shop" "web" = -1 ∧ ¬ CountsCalls d := by
  obtain ⟨d, reach, ended, size⟩ : ∃ d, Reach triesStep Unguarded (tries ⟨1, 1, 1⟩ [web, web]) d ∧
      d.threads.map (fun l => l.pc) = [.returned .nil, .returned .nil] ∧
      getQueueSize d.shared "shop" "web" = -1 :=
    reaches_of_run bothServed (by decide +kernel)
  refine ⟨d, reach, ended, size, ?_⟩
  intro counts
  have returned : ∀ l ∈ d.threads, l.pc = .returned .nil := by
    intro l member
    have place : l.pc ∈ d.threads.map (fun l => l.pc) := List.mem_map_of_mem member
    simpa [ended] using place
  have quiet : ∀ l ∈ d.threads, updating l = false := by
    intro l member
    simp [updating, returned l member]
  have right := counts quiet "shop" "web"
  rw [size] at right
  omega

end QueueSize
