import Elasti.GuardedRuns

/- Threads over one shared state. A pool holds any number of threads; one event moves one
   of them by one atomic step, or is a move of the world outside the threads. -/
namespace ThreadPool
open GuardedRuns
variable {S L A E : Type}

structure Pool (S L : Type) where
  shared : S
  threads : List L

inductive Event (A E : Type) where
  | thread : Nat → A → Event A E
  | world : E → Event A E

def step (exec : S → L → A → Option (S × L)) (world : S → E → Option S)
    (c : Pool S L) : Event A E → Option (Pool S L)
  | .thread i a =>
    match c.threads[i]? with
    | none => none
    | some l => (exec c.shared l a).map fun r => ⟨r.1, c.threads.set i r.2⟩
  | .world e => (world c.shared e).map fun s => ⟨s, c.threads⟩

theorem step_thread {exec : S → L → A → Option (S × L)} {world : S → E → Option S}
    {c d : Pool S L} {i : Nat} {a : A} (move : step exec world c (.thread i a) = some d) :
    ∃ l s m, c.threads[i]? = some l ∧ exec c.shared l a = some (s, m) ∧
      d = ⟨s, c.threads.set i m⟩ := by
  simp only [step] at move
  split at move
  · simp at move
  · rename_i l found
    obtain ⟨⟨s, m⟩, ran, same⟩ := Option.map_eq_some_iff.mp move
    exact ⟨l, s, m, found, ran, same.symm⟩

theorem reach_thread {exec : S → L → A → Option (S × L)} {world : S → E → Option S}
    {start c : Pool S L} {i : Nat} {l m : L} {s : S} (a : A)
    (before : Reach (step exec world) Unguarded start c) (here : c.threads[i]? = some l)
    (ran : exec c.shared l a = some (s, m)) :
    Reach (step exec world) Unguarded start ⟨s, c.threads.set i m⟩ :=
  .next (a := .thread i a) before trivial (by simp [step, here, ran])

theorem step_world {exec : S → L → A → Option (S × L)} {world : S → E → Option S}
    {c d : Pool S L} {e : E} (move : step exec world c (.world e) = some d) :
    ∃ s, world c.shared e = some s ∧ d = ⟨s, c.threads⟩ := by
  obtain ⟨s, ran, same⟩ := Option.map_eq_some_iff.mp move
  exact ⟨s, ran, same.symm⟩

theorem set_at {threads : List L} {i j : Nat} {m n : L}
    (found : (threads.set i m)[j]? = some n) :
    (j = i ∧ n = m) ∨ (j ≠ i ∧ threads[j]? = some n) := by
  rw [List.getElem?_set] at found
  split at found
  · rename_i same
    split at found
    · exact .inl ⟨same.symm, (Option.some.inj found).symm⟩
    · simp at found
  · rename_i other
    exact .inr ⟨fun same => other same.symm, found⟩

theorem set_member {threads : List L} {i : Nat} {m n : L} (found : n ∈ threads.set i m) :
    n = m ∨ ∃ j, j ≠ i ∧ threads[j]? = some n := by
  obtain ⟨j, at_j⟩ := List.mem_iff_getElem?.mp found
  rcases set_at at_j with ⟨-, same⟩ | ⟨away, at_j⟩
  · exact .inl same
  · exact .inr ⟨j, away, at_j⟩

theorem mover_or_stays {threads : List L} {i : Nat} {l m n : L} (here : threads[i]? = some l)
    (member : n ∈ threads) : n = l ∨ n ∈ threads.set i m := by
  obtain ⟨j, at_j⟩ := List.mem_iff_getElem?.mp member
  by_cases mover : j = i
  · subst mover
    exact .inl (Option.some.inj (at_j.symm.trans here))
  · right
    apply List.mem_of_getElem? (i := j)
    rw [List.getElem?_set_ne (Ne.symm mover)]
    exact at_j

theorem unique_set {threads : List L} {i : Nat} {m : L} (P : L → Prop)
    (unique : ∀ (j r : Nat) o q, threads[j]? = some o → threads[r]? = some q → P o → P q → j = r)
    (only : ∀ (j : Nat) o, j ≠ i → threads[j]? = some o → P o → ¬ P m) {j r : Nat} {o q : L}
    (at_j : (threads.set i m)[j]? = some o) (at_r : (threads.set i m)[r]? = some q)
    (first : P o) (second : P q) : j = r := by
  rcases set_at at_j with ⟨rfl, rfl⟩ | ⟨away, then_j⟩
  · rcases set_at at_r with ⟨rfl, -⟩ | ⟨other, then_r⟩
    · rfl
    · exact absurd first (only r q other then_r second)
  · rcases set_at at_r with ⟨rfl, rfl⟩ | ⟨-, then_r⟩
    · exact absurd second (only j o away then_j first)
    · exact unique j r o q then_j then_r first second

theorem not_member_set {threads : List L} {i : Nat} {m n : L} (absent : n ∉ threads)
    (other : m ≠ n) : n ∉ threads.set i m := by
  intro found
  rcases List.mem_or_eq_of_mem_set found with old | same
  · exact absent old
  · exact other same.symm

/-- A lock that one thread at most holds; the predicate says where a thread holds it. -/
structure Mutex (held : Bool) (holds : L → Bool) (threads : List L) : Prop where
  free : held = false → ∀ n ∈ threads, holds n = false
  taken : held = true → ∃ n ∈ threads, holds n = true
  one : ∀ (i j : Nat) l n, threads[i]? = some l → threads[j]? = some n →
    holds l = true → holds n = true → i = j

theorem Mutex.alone {held : Bool} {holds : L → Bool} {threads : List L} {i j : Nat} {l n : L}
    (mutex : Mutex held holds threads) (here : threads[i]? = some l) (mine : holds l = true)
    (away : j ≠ i) (at_j : threads[j]? = some n) : holds n = false := by
  by_contra other
  exact away (mutex.one j i n l at_j here (by simpa using other) mine)

theorem set_here {threads : List L} {i : Nat} {l m : L} (here : threads[i]? = some l) :
    m ∈ threads.set i m := by
  obtain ⟨bound, -⟩ := List.getElem?_eq_some_iff.mp here
  exact List.mem_set bound m

theorem exists_set_new {threads : List L} {i : Nat} {l m : L} (here : threads[i]? = some l)
    {P : L → Prop} (not_yet : ¬ P l) :
    (∃ n ∈ threads.set i m, P n) ↔ P m ∨ ∃ n ∈ threads, P n := by
  constructor
  · rintro ⟨n, member, holds⟩
    rcases set_member member with rfl | ⟨j, _, there⟩
    · exact .inl holds
    · exact .inr ⟨n, List.mem_of_getElem? there, holds⟩
  · rintro (holds | ⟨n, member, holds⟩)
    · exact ⟨m, set_here here, holds⟩
    · rcases mover_or_stays (m := m) here member with rfl | stays
      · exact absurd holds not_yet
      · exact ⟨n, stays, holds⟩

theorem exists_set_same {threads : List L} {i : Nat} {l m : L} (here : threads[i]? = some l)
    {P : L → Prop} (same : P m ↔ P l) : (∃ n ∈ threads.set i m, P n) ↔ ∃ n ∈ threads, P n := by
  by_cases holds : P l
  · exact ⟨fun _ => ⟨l, List.mem_of_getElem? here, holds⟩,
      fun _ => ⟨m, set_here here, same.mpr holds⟩⟩
  · rw [exists_set_new here holds]
    exact ⟨fun either => either.resolve_left fun now => holds (same.mp now), .inr⟩

theorem Mutex.take {holds : L → Bool} {threads : List L} {i : Nat} {l m : L}
    (mutex : Mutex false holds threads) (here : threads[i]? = some l) (mine : holds m = true) :
    Mutex true holds (threads.set i m) := by
  have only : ∀ (j : Nat) n, (threads.set i m)[j]? = some n → holds n = true → j = i := by
    intro j n at_j taken
    rcases set_at at_j with ⟨same, -⟩ | ⟨-, before⟩
    · exact same
    · rw [mutex.free rfl n (List.mem_of_getElem? before)] at taken
      contradiction
  constructor
  · intro impossible
    contradiction
  · intro _
    exact ⟨m, set_here here, mine⟩
  · intro j k l n at_j at_k first second
    rw [only j l at_j first, only k n at_k second]

theorem Mutex.keep {held : Bool} {holds : L → Bool} {threads : List L} {i : Nat} {l m : L}
    (mutex : Mutex held holds threads) (here : threads[i]? = some l)
    (same : holds m = holds l) : Mutex held holds (threads.set i m) := by
  have before : ∀ (j : Nat) n, (threads.set i m)[j]? = some n →
      ∃ k, threads[j]? = some k ∧ holds k = holds n := by
    intro j n at_j
    rcases set_at at_j with ⟨rfl, rfl⟩ | ⟨-, at_j⟩
    · exact ⟨l, here, same.symm⟩
    · exact ⟨n, at_j, rfl⟩
  constructor
  · intro unheld n member
    obtain ⟨j, at_j⟩ := List.mem_iff_getElem?.mp member
    obtain ⟨k, at_k, as⟩ := before j n at_j
    rw [← as]
    exact mutex.free unheld k (List.mem_of_getElem? at_k)
  · intro locked
    obtain ⟨n, member, holder⟩ := mutex.taken locked
    rcases mover_or_stays here member with rfl | stays
    · exact ⟨m, set_here here, same.trans holder⟩
    · exact ⟨n, stays, holder⟩
  · intro j k n o at_j at_k first second
    obtain ⟨p, at_p, asFirst⟩ := before j n at_j
    obtain ⟨q, at_q, asSecond⟩ := before k o at_k
    exact mutex.one j k p q at_p at_q (asFirst.trans first) (asSecond.trans second)

theorem Mutex.drop {held : Bool} {holds : L → Bool} {threads : List L} {i : Nat} {l m : L}
    (mutex : Mutex held holds threads) (here : threads[i]? = some l) (mine : holds l = true)
    (gone : holds m = false) : Mutex false holds (threads.set i m) := by
  have nobody : ∀ n ∈ threads.set i m, holds n = false := by
    intro n member
    rcases set_member member with rfl | ⟨j, away, at_j⟩
    · exact gone
    · exact mutex.alone here mine away at_j
  constructor
  · intro _
    exact nobody
  · intro impossible
    contradiction
  · intro j k n o at_j _ first _
    rw [nobody n (List.mem_of_getElem? at_j)] at first
    contradiction

theorem count_set {threads : List L} {i : Nat} {l m : L} (p : L → Bool)
    (here : threads[i]? = some l) :
    (threads.set i m).countP p + (if p l then 1 else 0) =
      threads.countP p + (if p m then 1 else 0) := by
  obtain ⟨bound, at_i⟩ := List.getElem?_eq_some_iff.mp here
  have positive : p l → 0 < threads.countP p := fun yes =>
    List.countP_pos_iff.mpr ⟨l, at_i ▸ List.getElem_mem bound, yes⟩
  rw [List.countP_set bound, at_i]
  split
  · rename_i yes
    have := positive yes
    omega
  · omega

theorem count_set_toNat {threads : List L} {i : Nat} {l : L} (p : L → Bool) (m : L)
    (here : threads[i]? = some l) :
    (threads.set i m).countP p + (p l).toNat = threads.countP p + (p m).toNat := by
  have moved := count_set (m := m) p here
  cases before : p l <;> cases after : p m <;> simpa [before, after] using moved

theorem sum_set {threads : List L} {i : Nat} {l m : L} (f : L → Nat)
    (here : threads[i]? = some l) :
    ((threads.set i m).map f).sum + f l = (threads.map f).sum + f m := by
  induction threads generalizing i with
  | nil => simp at here
  | cons head tail ih =>
    cases i with
    | zero =>
      simp only [List.getElem?_cons_zero, Option.some.injEq] at here
      subst here
      simp only [List.set_cons_zero, List.map_cons, List.sum_cons]
      omega
    | succ i =>
      have moved := ih (by simpa using here)
      simp only [List.set_cons_succ, List.map_cons, List.sum_cons]
      omega

theorem count_eq_sum (p : L → Bool) (threads : List L) :
    threads.countP p = (threads.map fun l => (p l).toNat).sum := by
  induction threads with
  | nil => rfl
  | cons l rest ih =>
    rw [List.countP_cons, List.map_cons, List.sum_cons, ih]
    cases p l <;> simp [Nat.add_comm]

/-- A fact about the shared state and about each thread in it holds in every reachable
    pool when every move keeps it for the mover, for the others and for the world. -/
theorem reach_modular {exec : S → L → A → Option (S × L)} {world : S → E → Option S}
    {ok : Pool S L → Event A E → Prop} {G : S → Prop} {T : S → L → Prop}
    (own : ∀ c i a l s m, G c.shared → (∀ n ∈ c.threads, T c.shared n) →
      ok c (.thread i a) → c.threads[i]? = some l → exec c.shared l a = some (s, m) →
      G s ∧ T s m)
    (other : ∀ c i a l s m (j : Nat) n, G c.shared → (∀ n ∈ c.threads, T c.shared n) →
      ok c (.thread i a) → c.threads[i]? = some l → exec c.shared l a = some (s, m) →
      j ≠ i → c.threads[j]? = some n → T s n)
    (outside : ∀ c e s, G c.shared → (∀ n ∈ c.threads, T c.shared n) →
      ok c (.world e) → world c.shared e = some s →
      G s ∧ ∀ n ∈ c.threads, T s n)
    {start d : Pool S L} (base : G start.shared)
    (each : ∀ n ∈ start.threads, T start.shared n)
    (reach : Reach (step exec world) ok start d) :
    G d.shared ∧ ∀ n ∈ d.threads, T d.shared n := by
  apply reach_invariant (fun c => G c.shared ∧ ∀ n ∈ c.threads, T c.shared n)
    ⟨base, each⟩ ?_ reach
  intro c e d inv meets move
  obtain ⟨shared, threads⟩ := inv
  cases e with
  | thread i a =>
    obtain ⟨l, s, m, here, ran, rfl⟩ := step_thread move
    have mine := own c i a l s m shared threads meets here ran
    constructor
    · exact mine.1
    · intro n found
      rcases set_member found with same | ⟨j, away, at_j⟩
      · exact same ▸ mine.2
      · exact other c i a l s m j n shared threads meets here ran away at_j
  | world e =>
    obtain ⟨s, ran, rfl⟩ := step_world move
    exact outside c e s shared threads meets ran

/-- Threads seen through a projection: when every move is, in the view, a move of another
    pool or no move at all, the view of a reachable pool is reachable. -/
theorem reach_project {S' L' A' E' : Type} {exec : S → L → A → Option (S × L)}
    {world : S → E → Option S} {exec' : S' → L' → A' → Option (S' × L')}
    {world' : S' → E' → Option S'} {ok : Pool S L → Event A E → Prop} (f : S → S') (g : L → L')
    (mover : ∀ s l a t m, exec s l a = some (t, m) →
      (f t = f s ∧ g m = g l) ∨ ∃ b, exec' (f s) (g l) b = some (f t, g m))
    (outside : ∀ s e t, world s e = some t → f t = f s)
    {start d : Pool S L} (reach : Reach (step exec world) ok start d) :
    Reach (step exec' world') Unguarded ⟨f start.shared, start.threads.map g⟩
      ⟨f d.shared, d.threads.map g⟩ := by
  induction reach with
  | refl => exact .refl
  | @next c d e before meets move ih =>
    cases e with
    | thread i a =>
      obtain ⟨l, s, m, here, ran, rfl⟩ := step_thread move
      have seen : (c.threads.map g)[i]? = some (g l) := by simp [here]
      rw [List.map_set]
      rcases mover _ _ _ _ _ ran with ⟨sameShared, sameThread⟩ | ⟨b, ran⟩
      · have same : (c.threads.map g).set i (g m) = c.threads.map g := by
          obtain ⟨bound, at_i⟩ := List.getElem?_eq_some_iff.mp seen
          rw [sameThread, ← at_i]
          exact List.set_getElem_self bound
        simp only [same, sameShared]
        exact ih
      · exact .next (a := .thread i b) ih trivial (by simp [step, seen, ran])
    | world e =>
      obtain ⟨s, ran, rfl⟩ := step_world move
      simp only [outside _ _ _ ran]
      exact ih

/-- Threads with ghosts: when a move is one of the thread without its ghosts, erasing the
    ghosts turns a step into a step. -/
theorem step_erase {L' : Type} {exec : S → L → A → Option (S × L)}
    {exec' : S → L' → A → Option (S × L')} {world : S → E → Option S} (g : L → L')
    (erases : ∀ s l a t m, exec s l a = some (t, m) → exec' s (g l) a = some (t, g m))
    {c d : Pool S L} {e : Event A E} (move : step exec world c e = some d) :
    step exec' world ⟨c.shared, c.threads.map g⟩ e = some ⟨d.shared, d.threads.map g⟩ := by
  cases e with
  | thread i a =>
    obtain ⟨l, s, m, here, ran, rfl⟩ := step_thread move
    simp [step, here, erases _ _ _ _ _ ran, List.map_set]
  | world e =>
    obtain ⟨s, ran, rfl⟩ := step_world move
    simp [step, ran]

theorem reach_erase {L' : Type} {exec : S → L → A → Option (S × L)}
    {exec' : S → L' → A → Option (S × L')} {world : S → E → Option S}
    {ok : Pool S L → Event A E → Prop} (g : L → L')
    (erases : ∀ s l a t m, exec s l a = some (t, m) → exec' s (g l) a = some (t, g m))
    {start d : Pool S L} (reach : Reach (step exec world) ok start d) :
    Reach (step exec' world) Unguarded ⟨start.shared, start.threads.map g⟩
      ⟨d.shared, d.threads.map g⟩ := by
  induction reach with
  | refl => exact .refl
  | next before meets move ih => exact .next ih trivial (step_erase g erases move)

end ThreadPool
