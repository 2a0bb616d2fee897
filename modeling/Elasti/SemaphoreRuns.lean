import Elasti.Semaphore

/- The semaphore under any number of goroutines, each of which acquires, holds and releases
   any number of times. A goroutine that would acquire again while it holds counts as
   another one, so the holders are goroutines. -/
namespace SemaphoreRuns
open GuardedRuns ThreadPool ThrottlerSemaphore

inductive Goroutine where
  | idle
  | acquiring (pc : AcquirePc)
  | holding
  | releasing (pc : ReleasePc)
  | panicked
  deriving DecidableEq, Repr

def afterAcquire : AcquireStatus → Goroutine
  | .running pc => .acquiring pc
  | .acquired => .holding
  | .cancelled => .idle

def afterRelease : ReleaseStatus → Goroutine
  | .running pc => .releasing pc
  | .released => .idle
  | .unpaired => .panicked

def exec (s : Sem) : Goroutine → Choice → Option (Sem × Goroutine)
  | .idle, .go => some (s, .acquiring .load)
  | .acquiring pc, c => (acquire s pc c).map fun r => (r.1, afterAcquire r.2)
  | .holding, .go => some (s, .releasing .load)
  | .releasing pc, .go => some ((release s pc).1, afterRelease (release s pc).2)
  | _, _ => none

def outside (_ : Sem) (e : Empty) : Option Sem := e.elim

abbrev Goroutines := Pool Sem Goroutine

def semStep : Goroutines → Event Choice Empty → Option Goroutines := step exec outside

def start (maxCapacity initialCapacity : Int) (n : Nat) : Goroutines :=
  ⟨newSemaphore maxCapacity initialCapacity, List.replicate n .idle⟩

def holds : Goroutine → Bool
  | .holding | .releasing .load | .releasing (.cas _) => true
  | .idle | .acquiring _ | .releasing .poke | .panicked => false

def holders (c : Goroutines) : Nat := c.threads.countP holds

theorem holders_set {c : Goroutines} {i : Nat} {l : Goroutine} (s : Sem) (m : Goroutine)
    (here : c.threads[i]? = some l) :
    holders ⟨s, c.threads.set i m⟩ + (holds l).toNat = holders c + (holds m).toNat :=
  count_set_toNat holds m here

inductive Effect (s : Sem) : Goroutine → Sem → Goroutine → Prop where
  | call : Effect s .idle s (.acquiring .load)
  | full (least : (unpack s.state).2 ≥ (unpack s.state).1) :
      Effect s (.acquiring .load) s (.acquiring .select)
  | room (below : (unpack s.state).2 < (unpack s.state).1) :
      Effect s (.acquiring .load) s (.acquiring (.cas s.state))
  | receive (some : 0 < s.buffered) :
      Effect s (.acquiring .select) { s with buffered := s.buffered - 1 } (.acquiring .load)
  | park : Effect s (.acquiring .select) { s with parked := s.parked + 1 } (.acquiring .parked)
  | wake (some : 0 < s.handed) :
      Effect s (.acquiring .parked) { s with handed := s.handed - 1 } (.acquiring .load)
  | cancel : Effect s (.acquiring .select) s .idle
  | unpark : Effect s (.acquiring .parked) { s with parked := s.parked - 1 } .idle
  | take : Effect s (.acquiring (.cas s.state))
      { s with state := pack (unpack s.state).1 ((unpack s.state).2 + 1) } .holding
  | race (old : UInt64) : Effect s (.acquiring (.cas old)) s (.acquiring .load)
  | finish : Effect s .holding s (.releasing .load)
  | unpaired (none : (unpack s.state).2 = 0) : Effect s (.releasing .load) s .panicked
  | load : Effect s (.releasing .load) s (.releasing (.cas s.state))
  | give : Effect s (.releasing (.cas s.state))
      { s with state := pack (unpack s.state).1 ((unpack s.state).2 - 1) } (.releasing .poke)
  | giveSilently (above : ¬ (unpack s.state).2 - 1 < (unpack s.state).1) :
      Effect s (.releasing (.cas s.state))
        { s with state := pack (unpack s.state).1 ((unpack s.state).2 - 1) } .idle
  | again (old : UInt64) : Effect s (.releasing (.cas old)) s (.releasing .load)
  | poke : Effect s (.releasing .poke) s.poke .idle

theorem acquire_effect {s t : Sem} {pc : AcquirePc} {ch : Choice} {status : AcquireStatus}
    (ran : acquire s pc ch = some (t, status)) :
    Effect s (.acquiring pc) t (afterAcquire status) := by
  cases pc with
  | load =>
    cases ch <;> simp only [acquire, reduceCtorEq] at ran
    split at ran
    · rename_i least
      cases ran
      exact .full least
    · rename_i below
      cases ran
      exact .room (UInt64.not_le.mp below)
  | select =>
    cases ch with
    | cancel =>
      cases ran
      exact .cancel
    | go =>
      simp only [acquire] at ran
      split at ran
      · rename_i some
        cases ran
        exact .receive some
      · cases ran
        exact .park
  | parked =>
    cases ch <;> simp only [acquire] at ran <;> split at ran
    · rename_i some
      cases ran
      exact .wake some
    · cases ran
    · cases ran
      exact .unpark
    · cases ran
  | cas old =>
    cases ch <;> simp only [acquire, reduceCtorEq] at ran
    split at ran
    · rename_i same
      cases ran
      subst same
      exact .take
    · cases ran
      exact .race old

theorem release_effect (s : Sem) (pc : ReleasePc) :
    Effect s (.releasing pc) (release s pc).1 (afterRelease (release s pc).2) := by
  cases pc with
  | load =>
    simp only [release]
    split
    · rename_i none
      exact .unpaired none
    · exact .load
  | cas old =>
    simp only [release]
    split
    · rename_i same
      subst same
      split
      · exact .give
      · rename_i above
        exact .giveSilently above
    · exact .again old
  | poke => exact .poke

theorem exec_effect {s t : Sem} {l m : Goroutine} {ch : Choice}
    (ran : exec s l ch = some (t, m)) : Effect s l t m := by
  cases l with
  | idle =>
    cases ch <;> cases ran
    exact .call
  | acquiring pc =>
    obtain ⟨⟨u, status⟩, inner, same⟩ := Option.map_eq_some_iff.mp ran
    cases same
    exact acquire_effect inner
  | holding =>
    cases ch <;> cases ran
    exact .finish
  | releasing pc =>
    cases ch <;> cases ran
    exact release_effect s pc
  | panicked => cases ch <;> cases ran

theorem semStep_effect {c d : Goroutines} {e : Event Choice Empty} (move : semStep c e = some d) :
    ∃ i l s m, c.threads[i]? = some l ∧ d = ⟨s, c.threads.set i m⟩ ∧ Effect c.shared l s m := by
  cases e with
  | thread i ch =>
    obtain ⟨l, s, m, here, ran, same⟩ := step_thread move
    exact ⟨i, l, s, m, here, same, exec_effect ran⟩
  | world e => exact e.elim

/-- The word packs the capacity and the holders, and a goroutine about to swap saw room. -/
structure Packed (capacity : Nat) (c : Goroutines) : Prop where
  word : c.shared.state.toNat = capacity * 2 ^ 32 + holders c
  within : holders c ≤ capacity
  seen : ∀ old, .acquiring (.cas old) ∈ c.threads → (unpack old).2 < (unpack old).1
  paired : .panicked ∉ c.threads

section
variable {capacity : Nat} (small : capacity < 2 ^ 32)
include small

theorem packed_unpack {c : Goroutines} (inv : Packed capacity c) :
    (unpack c.shared.state).1.toNat = capacity ∧ (unpack c.shared.state).2.toNat = holders c := by
  have word := inv.word
  have within := inv.within
  rw [unpack_high, unpack_low]
  omega

theorem packed_swap {c : Goroutines} {i : Nat} {low : UInt64} {m : Goroutine}
    (inv : Packed capacity c)
    (counted : low.toNat = holders ⟨c.shared, c.threads.set i m⟩) (room : low.toNat ≤ capacity)
    (elsewhere : ∀ old, m ≠ .acquiring (.cas old)) (fine : m ≠ .panicked) :
    Packed capacity
      ⟨{ c.shared with state := pack (unpack c.shared.state).1 low }, c.threads.set i m⟩ := by
  have high := (packed_unpack small inv).1
  constructor
  · change (pack (unpack c.shared.state).1 low).toNat = _
    rw [pack_toNat _ _ (by omega), high, Nat.mod_eq_of_lt small, counted]
    rfl
  · exact counted ▸ room
  · intro old member
    rcases List.mem_or_eq_of_mem_set member with before | same
    · exact inv.seen old before
    · exact absurd same.symm (elsewhere old)
  · exact not_member_set inv.paired fine

theorem packed_take {c : Goroutines} {i : Nat} (inv : Packed capacity c)
    (here : c.threads[i]? = some (.acquiring (.cas c.shared.state))) :
    Packed capacity ⟨{ c.shared with
      state := pack (unpack c.shared.state).1 ((unpack c.shared.state).2 + 1) },
      c.threads.set i .holding⟩ := by
  obtain ⟨high, low⟩ := packed_unpack small inv
  have moved := holders_set c.shared .holding here
  have below := inv.seen _ (List.mem_of_getElem? here)
  rw [UInt64.lt_iff_toNat_lt] at below
  have next : ((unpack c.shared.state).2 + 1).toNat = holders c + 1 := by
    rw [UInt64.toNat_add, low, UInt64.toNat_one]
    omega
  simp only [holds, Bool.toNat_true, Bool.toNat_false] at moved
  exact packed_swap small inv (by omega) (by omega) (by simp) (by simp)

theorem packed_give {c : Goroutines} {i : Nat} {m : Goroutine} (inv : Packed capacity c)
    (here : c.threads[i]? = some (.releasing (.cas c.shared.state))) (gone : holds m = false)
    (elsewhere : ∀ old, m ≠ .acquiring (.cas old)) (fine : m ≠ .panicked) :
    Packed capacity ⟨{ c.shared with
      state := pack (unpack c.shared.state).1 ((unpack c.shared.state).2 - 1) },
      c.threads.set i m⟩ := by
  obtain ⟨high, low⟩ := packed_unpack small inv
  have within := inv.within
  have moved := holders_set c.shared m here
  rw [gone] at moved
  simp only [holds, Bool.toNat_true, Bool.toNat_false] at moved
  have positive : 1 ≤ (unpack c.shared.state).2 := by
    rw [UInt64.le_iff_toNat_le, low, UInt64.toNat_one]
    omega
  have next : ((unpack c.shared.state).2 - 1).toNat = holders c - 1 := by
    rw [UInt64.toNat_sub_of_le _ _ positive, low, UInt64.toNat_one]
  exact packed_swap small inv (by omega) (by omega) elsewhere fine

theorem packed_paired {c : Goroutines} (inv : Packed capacity c)
    (member : .releasing .load ∈ c.threads) : (unpack c.shared.state).2 ≠ 0 := by
  intro none
  have low := (packed_unpack small inv).2
  have mine : 0 < holders c := List.countP_pos_iff.mpr ⟨_, member, rfl⟩
  rw [none, UInt64.toNat_zero] at low
  omega

theorem packed_below {c : Goroutines} (inv : Packed capacity c)
    (member : .releasing (.cas c.shared.state) ∈ c.threads) :
    (unpack c.shared.state).2 - 1 < (unpack c.shared.state).1 := by
  obtain ⟨high, low⟩ := packed_unpack small inv
  have within := inv.within
  have mine : 0 < holders c := List.countP_pos_iff.mpr ⟨_, member, rfl⟩
  have positive : 1 ≤ (unpack c.shared.state).2 := by
    rw [UInt64.le_iff_toNat_le, low, UInt64.toNat_one]
    exact mine
  rw [UInt64.lt_iff_toNat_lt, UInt64.toNat_sub_of_le _ _ positive, high, low, UInt64.toNat_one]
  omega

end

theorem packed_quiet {capacity : Nat} {c : Goroutines} {i : Nat} {l m : Goroutine} {s : Sem}
    (inv : Packed capacity c) (here : c.threads[i]? = some l) (word : s.state = c.shared.state)
    (same : holds m = holds l)
    (fresh : ∀ old, m = .acquiring (.cas old) → (unpack old).2 < (unpack old).1)
    (fine : m ≠ .panicked) : Packed capacity ⟨s, c.threads.set i m⟩ := by
  have moved := holders_set s m here
  rw [same] at moved
  have kept : holders ⟨s, c.threads.set i m⟩ = holders c := Nat.add_right_cancel moved
  constructor
  · rw [kept, ← inv.word, ← word]
  · exact kept ▸ inv.within
  · intro old member
    rcases List.mem_or_eq_of_mem_set member with before | same
    · exact inv.seen old before
    · exact fresh old same.symm
  · exact not_member_set inv.paired fine

theorem packed_step {capacity : Nat} (small : capacity < 2 ^ 32) (c : Goroutines)
    (e : Event Choice Empty) (d : Goroutines) (inv : Packed capacity c)
    (move : semStep c e = some d) : Packed capacity d := by
  obtain ⟨i, l, s, m, here, rfl, effect⟩ := semStep_effect move
  cases effect with
  | room below =>
    have fresh : ∀ old, Goroutine.acquiring (.cas c.shared.state) = .acquiring (.cas old) →
        (unpack old).2 < (unpack old).1 := by
      intro old same
      cases same
      exact below
    exact packed_quiet inv here rfl rfl fresh (by simp)
  | take => exact packed_take small inv here
  | unpaired none => exact absurd none (packed_paired small inv (List.mem_of_getElem? here))
  | give => exact packed_give small inv here rfl (by simp) (by simp)
  | giveSilently above => exact packed_give small inv here rfl (by simp) (by simp)
  | poke => exact packed_quiet inv here (poke_state _) rfl (by simp) (by simp)
  | call | full | receive | park | wake | cancel | unpark | race | finish | load | again =>
    exact packed_quiet inv here rfl rfl (by simp) (by simp)

theorem packed_start (maxCapacity initialCapacity : Int) (n : Nat) :
    Packed (initialCapacity % 2 ^ 32).toNat (start maxCapacity initialCapacity n) := by
  have idle : holders (start maxCapacity initialCapacity n) = 0 := by
    simp [holders, start, List.countP_replicate, holds]
  constructor
  · rw [idle, Nat.add_zero]
    exact newSemaphore_state maxCapacity initialCapacity
  · rw [idle]
    exact Nat.zero_le _
  · simp [start, List.mem_replicate]
  · simp [start, List.mem_replicate]

theorem packed_reach {maxCapacity initialCapacity : Int} {n : Nat} {d : Goroutines}
    (reach : Reach semStep Unguarded (start maxCapacity initialCapacity n) d) :
    Packed (initialCapacity % 2 ^ 32).toNat d :=
  reach_invariant _ (packed_start maxCapacity initialCapacity n)
    (fun s a t inv _ move => packed_step (by omega) s a t inv move) reach

/-- In every reachable state the word is the capacity and the number of holders, which
    stays within the capacity, so no sum leaves the low half; and no release panics. -/
theorem word_counts_holders (maxCapacity c : Int) (n : Nat) (nonnegative : 0 ≤ c)
    (small : c < 2 ^ 32) (d : Goroutines)
    (reach : Reach semStep Unguarded (start maxCapacity c n) d) :
    unpack d.shared.state = (UInt64.ofInt c, UInt64.ofNat (holders d)) ∧ holders d ≤ c ∧
      d.shared.state.toNat = c.toNat * 2 ^ 32 + holders d ∧ .panicked ∉ d.threads := by
  have inv := packed_reach reach
  have whole : (c % 2 ^ 32).toNat = c.toNat := by rw [Int.emod_eq_of_lt nonnegative small]
  rw [whole] at inv
  obtain ⟨high, low⟩ := packed_unpack (by omega) inv
  have within := inv.within
  have left : (unpack d.shared.state).1 = UInt64.ofInt c := by
    rw [← UInt64.toNat_inj, high, ofInt_toNat, Int.emod_eq_of_lt nonnegative (by omega)]
  have right : (unpack d.shared.state).2 = UInt64.ofNat (holders d) := by
    rw [← low, UInt64.ofNat_toNat]
  exact ⟨Prod.ext left right, by omega, inv.word, inv.paired⟩

def takes (i : Nat) : List (Event Choice Empty) := List.replicate 3 (.thread i .go)

def waits (i : Nat) : List (Event Choice Empty) := List.replicate 5 (.thread i .go)

theorem one_holder_one_waiter :
    ∃ d, Reach semStep Unguarded (start 1 1 2) d ∧
      d.threads = [.holding, .acquiring .parked] ∧ holders d ≤ (1 : Int) := by
  have reach : Reach semStep Unguarded (start 1 1 2)
      ⟨⟨4294967297, 1, 0, 1, 0⟩, [.holding, .acquiring .parked]⟩ :=
    reach_of_run (takes 0 ++ waits 1) rfl
  exact ⟨_, reach, rfl, (word_counts_holders 1 1 2 (by decide) (by decide) _ reach).2.1⟩

/-- A goroutine with a mark that no operation reads: it has received a wake-up and has
    since neither found the semaphore full nor acquired it. -/
abbrev Marked := Goroutine × Bool

def markAfter : Goroutine → Goroutine → Bool → Bool
  | .acquiring .select, .acquiring .load, _ | .acquiring .parked, .acquiring .load, _ => true
  | .acquiring .load, .acquiring (.cas _), mark | .acquiring (.cas _), .acquiring .load, mark => mark
  | _, _, _ => false

def markedExec (s : Sem) (l : Marked) (ch : Choice) : Option (Sem × Marked) :=
  (exec s l.1 ch).map fun r => (r.1, r.2, markAfter l.1 r.2 l.2)

abbrev MarkedPool := Pool Sem Marked

def markedStep : MarkedPool → Event Choice Empty → Option MarkedPool := step markedExec outside

def markedStart (maxCapacity initialCapacity : Int) (n : Nat) : MarkedPool :=
  ⟨newSemaphore maxCapacity initialCapacity, List.replicate n (.idle, false)⟩

def unmarked (d : MarkedPool) : Goroutines := ⟨d.shared, d.threads.map Prod.fst⟩

def woken : Marked → Bool
  | (.acquiring .load, mark) | (.acquiring (.cas _), mark) => mark
  | _ => false

def poking : Marked → Bool
  | (.releasing .poke, _) => true
  | _ => false

/-- An acquirer waits on the channel, the channel is empty, and nobody is under way who has
    taken a wake-up or owes one. A wake-up handed over to a waiter has been received. -/
structure Asleep (d : MarkedPool) : Prop where
  waiter : ∃ mark, (.acquiring .parked, mark) ∈ d.threads
  empty : d.shared.buffered = 0
  received : d.shared.handed = 0
  quiet : ∀ l ∈ d.threads, woken l = false ∧ poking l = false

def credit (l : Marked) : Nat := (woken l).toNat + (poking l).toNat + (holds l.1).toNat

def credits (d : MarkedPool) : Nat :=
  d.shared.buffered + d.shared.handed + (d.threads.map credit).sum

theorem holders_unmarked (d : MarkedPool) :
    holders (unmarked d) = (d.threads.map fun l => (holds l.1).toNat).sum := by
  rw [holders, count_eq_sum, unmarked, List.map_map]
  rfl

theorem holders_le_credits (d : MarkedPool) : holders (unmarked d) ≤ credits d := by
  have each : ∀ l ∈ d.threads, (holds l.1).toNat ≤ credit l := fun l _ => Nat.le_add_left _ _
  have total := List.sum_le_sum each
  rw [holders_unmarked]
  unfold credits
  omega

theorem asleep_credits {d : MarkedPool} (asleep : Asleep d) :
    credits d = holders (unmarked d) := by
  obtain ⟨-, empty, received, quiet⟩ := asleep
  have each : ∀ l ∈ d.threads, credit l = (holds l.1).toNat := by
    intro l member
    obtain ⟨noWake, noPoke⟩ := quiet l member
    simp [credit, noWake, noPoke]
  rw [holders_unmarked, credits, empty, received, List.map_congr_left each]
  omega

theorem markedStep_effect {c d : MarkedPool} {e : Event Choice Empty}
    (move : markedStep c e = some d) :
    ∃ i l s m, c.threads[i]? = some l ∧ d = ⟨s, c.threads.set i (m, markAfter l.1 m l.2)⟩ ∧
      Effect c.shared l.1 s m := by
  cases e with
  | thread i ch =>
    obtain ⟨l, s, m, here, ran, same⟩ := step_thread move
    obtain ⟨⟨t, next⟩, inner, pair⟩ := Option.map_eq_some_iff.mp ran
    cases pair
    exact ⟨i, l, t, next, here, same, exec_effect inner⟩
  | world e => exact e.elim

theorem semStep_unmarked {c d : MarkedPool} {e : Event Choice Empty}
    (move : markedStep c e = some d) : semStep (unmarked c) e = some (unmarked d) := by
  apply step_erase Prod.fst _ move
  intro s l a t m ran
  obtain ⟨⟨u, next⟩, inner, pair⟩ := Option.map_eq_some_iff.mp ran
  cases pair
  exact inner

theorem poke_cases (s : Sem) :
    s.poke.buffered + s.poke.handed = s.buffered + s.handed + 1 ∨
      s.poke = s ∧ s.maxCapacity ≤ s.buffered := by
  unfold Sem.poke
  split
  · left
    dsimp only
    omega
  · split
    · left
      dsimp only
      omega
    · right
      exact ⟨rfl, by omega⟩

/-- A wake-up that is dropped leaves a full buffer, and one that is spent on a full
    semaphore leaves that many holders: the rest only moves the credit on. -/
structure Conserved (buffer capacity : Nat) (d : MarkedPool) : Prop where
  packed : Packed capacity (unmarked d)
  buffer_eq : d.shared.maxCapacity = buffer
  enough : min buffer capacity ≤ credits d

theorem maxCapacity_kept {s t : Sem} {l m : Goroutine} (effect : Effect s l t m) :
    t.maxCapacity = s.maxCapacity := by
  cases effect with
  | poke =>
    unfold Sem.poke
    split
    · rfl
    · split <;> rfl
  | _ => rfl

theorem credits_step {capacity : Nat} (small : capacity < 2 ^ 32) {c : MarkedPool} {i : Nat}
    {l : Marked} {s : Sem} {m : Goroutine} (inv : Packed capacity (unmarked c))
    (here : c.threads[i]? = some l) (effect : Effect c.shared l.1 s m) :
    credits c ≤ credits ⟨s, c.threads.set i (m, markAfter l.1 m l.2)⟩ ∨
      capacity ≤ holders (unmarked ⟨s, c.threads.set i (m, markAfter l.1 m l.2)⟩) ∨
      c.shared.maxCapacity ≤ s.buffered := by
  obtain ⟨l, mark⟩ := l
  have moved := sum_set (m := (m, markAfter l m mark)) credit here
  have seen : (unmarked c).threads[i]? = some l := by simp [unmarked, here]
  dsimp only at effect ⊢
  cases effect with
  | full least =>
    right; left
    obtain ⟨high, low⟩ := packed_unpack small inv
    have kept := holders_set c.shared (.acquiring .select) seen
    rw [ge_iff_le, UInt64.le_iff_toNat_le] at least
    simp only [holds, Bool.toNat_false, Nat.add_zero] at kept
    simp only [unmarked, List.map_set] at high low kept ⊢
    omega
  | unpaired none =>
    have paired := packed_paired small inv (List.mem_of_getElem? seen)
    simp only [unmarked] at paired
    exact absurd none paired
  | giveSilently above =>
    have below := packed_below small inv (List.mem_of_getElem? seen)
    simp only [unmarked] at below
    exact absurd below above
  | poke =>
    rcases poke_cases c.shared with passed | ⟨same, filled⟩
    · left
      simp [credits, credit, woken, poking, holds, markAfter] at moved ⊢
      omega
    · right; right
      rw [same]
      exact filled
  | take =>
    left
    cases mark <;> simp [credits, credit, woken, poking, holds, markAfter] at moved ⊢ <;> omega
  | call | room | receive | park | wake | cancel | unpark | race | finish | load | again | give =>
    left
    simp [credits, credit, woken, poking, holds, markAfter] at moved ⊢
    omega

theorem conserved_step {buffer capacity : Nat} (small : capacity < 2 ^ 32) (c : MarkedPool)
    (e : Event Choice Empty) (d : MarkedPool) (inv : Conserved buffer capacity c)
    (move : markedStep c e = some d) : Conserved buffer capacity d := by
  obtain ⟨packed, sized, enough⟩ := inv
  have next := packed_step small _ e _ packed (semStep_unmarked move)
  obtain ⟨i, l, s, m, here, rfl, effect⟩ := markedStep_effect move
  have kept := maxCapacity_kept effect
  refine ⟨next, kept.trans sized, ?_⟩
  rcases credits_step small packed here effect with more | full | filled
  · omega
  · have := holders_le_credits ⟨s, c.threads.set i (m, markAfter l.1 m l.2)⟩
    omega
  · have : s.buffered ≤ credits ⟨s, c.threads.set i (m, markAfter l.1 m l.2)⟩ := by
      rw [credits, Nat.add_assoc]
      exact Nat.le_add_right _ _
    omega

theorem conserved_start (maxCapacity c : Int) (n : Nat) (nonnegative : 0 ≤ c)
    (small : c < 2 ^ 32) :
    Conserved maxCapacity.toNat c.toNat (markedStart maxCapacity c n) := by
  have same : unmarked (markedStart maxCapacity c n) = start maxCapacity c n := by
    simp [unmarked, markedStart, start]
  have whole : (c % 2 ^ 32).toNat = c.toNat := by rw [Int.emod_eq_of_lt nonnegative small]
  have packed := packed_start maxCapacity c n
  rw [whole] at packed
  refine ⟨same ▸ packed, ?_, ?_⟩
  · rw [markedStart, newSemaphore_eq]
  · rw [credits, markedStart, newSemaphore_eq, Int.emod_eq_of_lt nonnegative (by omega)]
    dsimp only
    omega

/-- When every waiter sleeps and nothing is under way to wake one, the semaphore is held by
    as many goroutines as the buffer and the capacity allow, and so by at least one. -/
theorem asleep_held (maxCapacity c : Int) (n : Nat) (buffer : 1 ≤ maxCapacity) (positive : 1 ≤ c)
    (small : c < 2 ^ 32) (d : MarkedPool)
    (reach : Reach markedStep Unguarded (markedStart maxCapacity c n) d) (asleep : Asleep d) :
    min maxCapacity c ≤ holders (unmarked d) ∧ 0 < holders (unmarked d) := by
  have inv : Conserved maxCapacity.toNat c.toNat d :=
    reach_invariant _ (conserved_start maxCapacity c n (by omega) small)
      (fun s a t inv _ move => conserved_step (by omega) s a t inv move) reach
  have enough := inv.enough
  rw [asleep_credits asleep] at enough
  omega

theorem lone_waiter_held :
    ∃ d, Reach markedStep Unguarded (markedStart 1 1 2) d ∧ Asleep d ∧
      0 < holders (unmarked d) := by
  have reach : Reach markedStep Unguarded (markedStart 1 1 2)
      ⟨⟨4294967297, 1, 0, 1, 0⟩, [(.holding, false), (.acquiring .parked, false)]⟩ :=
    reach_of_run (takes 0 ++ waits 1) rfl
  have asleep : Asleep
      ⟨⟨4294967297, 1, 0, 1, 0⟩, [(.holding, false), (.acquiring .parked, false)]⟩ :=
    ⟨⟨false, by simp⟩, rfl, rfl, by simp [woken, poking]⟩
  exact ⟨_, reach, asleep,
    (asleep_held 1 1 2 (by decide) (by decide) (by decide) _ reach asleep).2⟩

end SemaphoreRuns
