import Elasti.ThreadPool

/- The counting semaphore of the resolver's throttler. The state word packs the capacity
   in its high half and the number of holders in its low half; every load, compare-and-swap,
   send and receive is one atomic step. -/
namespace ThrottlerSemaphore

/-- The word and the wake-up channel. A send to a channel with parked receivers is handed
    to one of them, so the parked and the already served receivers are counted apart from
    the buffer. -/
structure Sem where
  state : UInt64
  maxCapacity : Nat
  buffered : Nat
  parked : Nat
  handed : Nat
  deriving DecidableEq, Repr

def unpack (word : UInt64) : UInt64 × UInt64 := (word >>> 32, word &&& 0xffffffff)

def pack (left right : UInt64) : UInt64 := left <<< 32 ||| right

theorem unpack_high (word : UInt64) : (unpack word).1.toNat = word.toNat / 2 ^ 32 := by
  simp [unpack, UInt64.toNat_shiftRight, Nat.shiftRight_eq_div_pow]

theorem unpack_low (word : UInt64) : (unpack word).2.toNat = word.toNat % 2 ^ 32 := by
  rw [unpack, UInt64.toNat_and]
  exact Nat.and_two_pow_sub_one_eq_mod word.toNat 32

theorem pack_toNat (left right : UInt64) (fits : right.toNat < 2 ^ 32) :
    (pack left right).toNat = left.toNat % 2 ^ 32 * 2 ^ 32 + right.toNat := by
  have shifted : (left <<< 32).toNat = left.toNat % 2 ^ 32 * 2 ^ 32 := by
    have amount : UInt64.toNat 32 % 64 = 32 := by decide
    rw [UInt64.toNat_shiftLeft, amount, Nat.shiftLeft_eq]
    omega
  rw [pack, UInt64.toNat_or, shifted, ← Nat.shiftLeft_eq]
  exact (Nat.shiftLeft_add_eq_or_of_lt fits _).symm

def Sem.poke (s : Sem) : Sem :=
  if 0 < s.parked then { s with parked := s.parked - 1, handed := s.handed + 1 }
  else if s.buffered < s.maxCapacity then { s with buffered := s.buffered + 1 }
  else s

theorem poke_state (s : Sem) : s.poke.state = s.state := by
  unfold Sem.poke
  split
  · rfl
  · split <;> rfl

/-- Only the constructor calls it, before the semaphore is shared, so its load and its
    compare-and-swap are not raced. -/
def updateCapacity (s : Sem) (size : Int) : Sem :=
  let s64 := UInt64.ofInt size
  let old := unpack s.state
  if old.1 = s64 then s
  else
    let swapped := { s with state := pack s64 old.2 }
    if old.1 < s64 then Sem.poke^[(s64 - old.1).toNat] swapped else swapped

def newSemaphore (maxCapacity initialCapacity : Int) : Sem :=
  updateCapacity ⟨0, maxCapacity.toNat, 0, 0, 0⟩ initialCapacity

theorem pokes (k : Nat) (s : Sem) (nobody : s.parked = 0) :
    Sem.poke^[k] s =
      { s with buffered := max s.buffered (min s.maxCapacity (s.buffered + k)) } := by
  induction k generalizing s with
  | zero =>
    have same : max s.buffered (min s.maxCapacity (s.buffered + 0)) = s.buffered := by omega
    rw [same]
    rfl
  | succ k ih =>
    rw [Function.iterate_succ_apply]
    by_cases space : s.buffered < s.maxCapacity
    · have once : s.poke = { s with buffered := s.buffered + 1 } := by
        simp [Sem.poke, nobody, space]
      rw [once, ih { s with buffered := s.buffered + 1 } nobody]
      simp only [Sem.mk.injEq, true_and, and_true]
      omega
    · have dropped : s.poke = s := by simp [Sem.poke, nobody, space]
      rw [dropped, ih s nobody]
      simp only [Sem.mk.injEq, true_and, and_true]
      omega

theorem ofInt_toNat (size : Int) : (UInt64.ofInt size).toNat = (size % 2 ^ 64).toNat := by
  simp [UInt64.ofInt, UInt64.toNat_ofNat']
  omega

/-- The new semaphore: only the low half of the capacity's 64 bits reaches the word. -/
theorem newSemaphore_eq (maxCapacity initialCapacity : Int) :
    newSemaphore maxCapacity initialCapacity =
      ⟨pack (UInt64.ofInt initialCapacity) 0, maxCapacity.toNat,
        min maxCapacity.toNat (initialCapacity % 2 ^ 64).toNat, 0, 0⟩ := by
  have empty : unpack 0 = (0, 0) := by decide
  have size := ofInt_toNat initialCapacity
  unfold newSemaphore updateCapacity
  simp only [empty]
  split
  · rename_i zero
    rw [← zero] at size ⊢
    have none : (initialCapacity % 2 ^ 64).toNat = 0 := size.symm
    simp only [none, Nat.min_zero]
    congr 1
  · rename_i positive
    have above : (0 : UInt64) < UInt64.ofInt initialCapacity := by
      exact UInt64.pos_iff_ne_zero.mpr (Ne.symm positive)
    rw [if_pos above, pokes _ _ rfl]
    simp only [Sem.mk.injEq, true_and, and_true, UInt64.sub_zero, size]
    omega

theorem newSemaphore_state (maxCapacity initialCapacity : Int) :
    (newSemaphore maxCapacity initialCapacity).state.toNat =
      (initialCapacity % 2 ^ 32).toNat * 2 ^ 32 := by
  have size := ofInt_toNat initialCapacity
  have zero : (0 : UInt64).toNat = 0 := rfl
  rw [newSemaphore_eq, pack_toNat _ _ (by decide), size, zero]
  omega

inductive Choice where
  | go
  | cancel
  deriving DecidableEq, Repr

inductive AcquirePc where
  | load
  | select
  | parked
  | cas (old : UInt64)
  deriving DecidableEq, Repr

inductive AcquireStatus where
  | running (pc : AcquirePc)
  | acquired
  | cancelled
  deriving DecidableEq, Repr

def acquire (s : Sem) : AcquirePc → Choice → Option (Sem × AcquireStatus)
  | .load, .go =>
    let word := unpack s.state
    if word.2 ≥ word.1 then some (s, .running .select) else some (s, .running (.cas s.state))
  | .select, .cancel => some (s, .cancelled)
  | .select, .go =>
    if 0 < s.buffered then some ({ s with buffered := s.buffered - 1 }, .running .load)
    else some ({ s with parked := s.parked + 1 }, .running .parked)
  | .parked, .cancel =>
    if 0 < s.parked then some ({ s with parked := s.parked - 1 }, .cancelled) else none
  | .parked, .go =>
    if 0 < s.handed then some ({ s with handed := s.handed - 1 }, .running .load) else none
  | .cas old, .go =>
    let word := unpack old
    if s.state = old then some ({ s with state := pack word.1 (word.2 + 1) }, .acquired)
    else some (s, .running .load)
  | _, .cancel => none

inductive ReleasePc where
  | load
  | cas (old : UInt64)
  | poke
  deriving DecidableEq, Repr

inductive ReleaseStatus where
  | running (pc : ReleasePc)
  | released
  | unpaired
  deriving DecidableEq, Repr

def release (s : Sem) : ReleasePc → Sem × ReleaseStatus
  | .load =>
    -- panic("release and acquire are not paired")
    if (unpack s.state).2 = 0 then (s, .unpaired) else (s, .running (.cas s.state))
  | .cas old =>
    let word := unpack old
    if s.state = old then
      let swapped := { s with state := pack word.1 (word.2 - 1) }
      if word.2 - 1 < word.1 then (swapped, .running .poke) else (swapped, .released)
    else (s, .running .load)
  | .poke => (s.poke, .released)

end ThrottlerSemaphore
