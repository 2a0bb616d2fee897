import Elasti.ThreadPool

/- Threads over a keyed store, each of which touches only the entry of its own key. What the
   threads of one key do is the same whatever the threads of the other keys do. -/
namespace KeyedRuns
open ThreadPool
variable {K V L A : Type}

def atKey [DecidableEq K] (key : L → K) (exec : V → L → A → Option (V × L)) (s : K → V) (l : L)
    (a : A) : Option ((K → V) × L) :=
  (exec (s (key l)) l a).map fun r => (Function.update s (key l) r.1, r.2)

abbrev Store (K V L : Type) := Pool (K → V) L

def attempt [DecidableEq K] (key : L → K) (exec : V → L → A → Option (V × L)) (c : Store K V L)
    (e : Nat × A) : Store K V L :=
  match c.threads[e.1]? with
  | none => c
  | some l =>
    match atKey key exec c.shared l e.2 with
    | none => c
    | some r => ⟨r.1, c.threads.set e.1 r.2⟩

def replay [DecidableEq K] (key : L → K) (exec : V → L → A → Option (V × L)) :
    Store K V L → List (Nat × A) → Store K V L :=
  List.foldl (attempt key exec)

/-- The same entry under the key, and the same threads of that key in the same places. -/
structure Agree (key : L → K) (k : K) (c d : Store K V L) : Prop where
  entry : c.shared k = d.shared k
  threads : ∀ (i : Nat) l, key l = k → (c.threads[i]? = some l ↔ d.threads[i]? = some l)

def KeepsKey (key : L → K) (exec : V → L → A → Option (V × L)) : Prop :=
  ∀ v l a w m, exec v l a = some (w, m) → key m = key l

theorem agree_refl (key : L → K) (k : K) (c : Store K V L) : Agree key k c c :=
  ⟨rfl, fun _ _ _ => Iff.rfl⟩

theorem agree_trans {key : L → K} {k : K} {b c d : Store K V L} (first : Agree key k b c)
    (second : Agree key k c d) : Agree key k b d :=
  ⟨first.entry.trans second.entry, fun i l at_key =>
    (first.threads i l at_key).trans (second.threads i l at_key)⟩

theorem agree_symm {key : L → K} {k : K} {c d : Store K V L} (agree : Agree key k c d) :
    Agree key k d c :=
  ⟨agree.entry.symm, fun i l at_key => (agree.threads i l at_key).symm⟩

section
variable [DecidableEq K] {key : L → K} {exec : V → L → A → Option (V × L)}

theorem attempt_disabled {c : Store K V L} {i : Nat} {l : L} {a : A}
    (here : c.threads[i]? = some l) (stuck : exec (c.shared (key l)) l a = none) :
    attempt key exec c (i, a) = c := by
  simp [attempt, here, atKey, stuck]

theorem attempt_moves {c : Store K V L} {i : Nat} {l m : L} {a : A} {v : V}
    (here : c.threads[i]? = some l) (ran : exec (c.shared (key l)) l a = some (v, m)) :
    attempt key exec c (i, a) = ⟨Function.update c.shared (key l) v, c.threads.set i m⟩ := by
  simp [attempt, here, atKey, ran]

theorem attempt_kept {B : Type} (key : L → K) (f : L → B)
    (kept : ∀ v l a w m, exec v l a = some (w, m) → f m = f l) (c : Store K V L) (e : Nat × A)
    (i : Nat) : (attempt key exec c e).threads[i]?.map f = c.threads[i]?.map f := by
  obtain ⟨j, a⟩ := e
  cases here : c.threads[j]? with
  | none => simp [attempt, here]
  | some l =>
    cases ran : exec (c.shared (key l)) l a with
    | none => rw [attempt_disabled here ran]
    | some r =>
      obtain ⟨v, m⟩ := r
      rw [attempt_moves here ran]
      by_cases mover : j = i
      · subst mover
        obtain ⟨bound, -⟩ := List.getElem?_eq_some_iff.mp here
        rw [List.getElem?_set_self bound, here, Option.map_some, Option.map_some,
          kept _ _ _ _ _ ran]
      · rw [List.getElem?_set_ne mover]

theorem replay_kept {B : Type} (key : L → K) (f : L → B)
    (kept : ∀ v l a w m, exec v l a = some (w, m) → f m = f l) (history : List (Nat × A))
    (c : Store K V L) (i : Nat) :
    (replay key exec c history).threads[i]?.map f = c.threads[i]?.map f := by
  induction history generalizing c with
  | nil => rfl
  | cons e rest ih => exact (ih _).trans (attempt_kept key f kept c e i)

theorem replay_invariant (Inv : Store K V L → Prop)
    (keep : ∀ c i l a v m, Inv c → c.threads[i]? = some l →
      exec (c.shared (key l)) l a = some (v, m) →
      Inv ⟨Function.update c.shared (key l) v, c.threads.set i m⟩)
    (history : List (Nat × A)) {c : Store K V L} (base : Inv c) :
    Inv (replay key exec c history) := by
  induction history generalizing c with
  | nil => exact base
  | cons e rest ih =>
    obtain ⟨i, a⟩ := e
    apply ih
    cases here : c.threads[i]? with
    | none => simpa [attempt, here] using base
    | some l =>
      cases ran : exec (c.shared (key l)) l a with
      | none =>
        rw [attempt_disabled here ran]
        exact base
      | some r =>
        obtain ⟨v, m⟩ := r
        rw [attempt_moves here ran]
        exact keep c i l a v m base here ran

theorem agree_elsewhere (keeps : KeepsKey key exec) {k : K} {c : Store K V L} {e : Nat × A}
    (other : ∀ l, c.threads[e.1]? = some l → key l ≠ k) :
    Agree key k (attempt key exec c e) c := by
  obtain ⟨j, a⟩ := e
  cases here : c.threads[j]? with
  | none => simpa [attempt, here] using agree_refl key k c
  | some l =>
    cases ran : exec (c.shared (key l)) l a with
    | none =>
      rw [attempt_disabled here ran]
      exact agree_refl key k c
    | some r =>
      obtain ⟨v, m⟩ := r
      have away := other l here
      have gone : key m ≠ k := keeps _ _ _ _ _ ran ▸ away
      rw [attempt_moves here ran]
      constructor
      · exact Function.update_of_ne (Ne.symm away) _ _
      · intro i n at_key
        constructor
        · intro found
          rcases set_at found with ⟨-, rfl⟩ | ⟨-, before⟩
          · exact absurd at_key gone
          · exact before
        · intro before
          have apart : j ≠ i := by
            intro mover
            subst mover
            rw [here] at before
            cases before
            exact away at_key
          rw [List.getElem?_set_ne apart]
          exact before

theorem agree_here {k : K} {c d : Store K V L} (agree : Agree key k c d) {i : Nat} {l : L} (a : A)
    (here : c.threads[i]? = some l) (at_key : key l = k) :
    Agree key k (attempt key exec c (i, a)) (attempt key exec d (i, a)) := by
  have there := (agree.threads i l at_key).mp here
  have same : d.shared (key l) = c.shared (key l) := by rw [at_key, agree.entry]
  cases ran : exec (c.shared (key l)) l a with
  | none =>
    rw [attempt_disabled here ran, attempt_disabled there (same ▸ ran)]
    exact agree
  | some r =>
    obtain ⟨v, m⟩ := r
    rw [attempt_moves here ran, attempt_moves there (same ▸ ran)]
    constructor
    · simp [at_key]
    · intro j n at_n
      by_cases mover : i = j
      · subst mover
        obtain ⟨boundC, -⟩ := List.getElem?_eq_some_iff.mp here
        obtain ⟨boundD, -⟩ := List.getElem?_eq_some_iff.mp there
        simp [boundC, boundD]
      · rw [List.getElem?_set_ne mover, List.getElem?_set_ne mover]
        exact agree.threads j n at_n

theorem agree_attempt (keeps : KeepsKey key exec) {k : K} {c d : Store K V L}
    (agree : Agree key k c d) (e : Nat × A) :
    Agree key k (attempt key exec c e) (attempt key exec d e) := by
  by_cases mine : ∃ l, c.threads[e.1]? = some l ∧ key l = k
  · obtain ⟨l, here, at_key⟩ := mine
    exact agree_here agree e.2 here at_key
  · have left : ∀ l, c.threads[e.1]? = some l → key l ≠ k := fun l here at_key =>
      mine ⟨l, here, at_key⟩
    have right : ∀ l, d.threads[e.1]? = some l → key l ≠ k := fun l there at_key =>
      mine ⟨l, (agree.threads e.1 l at_key).mpr there, at_key⟩
    exact agree_trans (agree_elsewhere keeps left)
      (agree_trans agree (agree_symm (agree_elsewhere keeps right)))

/-- Leaving out moves of threads of other keys changes nothing for the threads of a key. -/
theorem replay_filter (keeps : KeepsKey key exec) {k : K} (kept : Nat × A → Bool)
    (history : List (Nat × A)) {c d : Store K V L} (agree : Agree key k c d)
    (others : ∀ e ∈ history, kept e = false → ∀ l, c.threads[e.1]? = some l → key l ≠ k) :
    Agree key k (replay key exec c history) (replay key exec d (history.filter kept)) := by
  induction history generalizing c d with
  | nil => exact agree
  | cons e rest ih =>
    have later : ∀ f ∈ rest, kept f = false →
        ∀ l, (attempt key exec c e).threads[f.1]? = some l → key l ≠ k := by
      intro f member dropped l found at_key
      have same := attempt_kept key key keeps c e f.1
      rw [found] at same
      obtain ⟨n, before, key_n⟩ := Option.map_eq_some_iff.mp same.symm
      exact others f (List.mem_cons_of_mem e member) dropped n before (key_n.trans at_key)
    by_cases stays : kept e = true
    · rw [List.filter_cons_of_pos stays]
      exact ih (agree_attempt keeps agree e) later
    · rw [List.filter_cons_of_neg stays]
      have away := others e List.mem_cons_self (by simpa using stays)
      exact ih (agree_trans (agree_elsewhere keeps away) agree) later

end
end KeyedRuns
