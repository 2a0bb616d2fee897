import Mathlib

/- Executable labelled steps and the runs they make. A step that answers none is not
   enabled. A guard is a condition on the state before a step and on its label; nothing
   here says where a guard comes from. -/
namespace GuardedRuns
variable {σ α : Type}

def run (step : σ → α → Option σ) : σ → List α → Option σ
  | s, [] => some s
  | s, a :: as => (step s a).bind fun t => run step t as

def guardedRun (step : σ → α → Option σ) (ok : σ → α → Prop)
    [∀ s a, Decidable (ok s a)] : σ → List α → Option σ
  | s, [] => some s
  | s, a :: as => if ok s a then (step s a).bind fun t => guardedRun step ok t as else none

/-- The states reached by the runs all of whose steps meet the guard. -/
inductive Reach (step : σ → α → Option σ) (ok : σ → α → Prop) (start : σ) : σ → Prop where
  | refl : Reach step ok start start
  | next {s t : σ} {a : α} (before : Reach step ok start s) (meets : ok s a)
      (move : step s a = some t) : Reach step ok start t

def Unguarded (_ : σ) (_ : α) : Prop := True

instance (s : σ) (a : α) : Decidable (Unguarded s a) := inferInstanceAs (Decidable True)

def Always (step : σ → α → Option σ) (P : σ → Prop) (s : σ) (as : List α) : Prop :=
  ∀ n t, run step s (as.take n) = some t → P t

def Meets (step : σ → α → Option σ) (ok : σ → α → Prop) (s : σ) (as : List α) : Prop :=
  ∀ n t a, run step s (as.take n) = some t → as[n]? = some a → ok t a

theorem reach_invariant {step : σ → α → Option σ} {ok : σ → α → Prop} {start : σ}
    (Inv : σ → Prop) (base : Inv start)
    (keep : ∀ s a t, Inv s → ok s a → step s a = some t → Inv t)
    {t : σ} (reach : Reach step ok start t) : Inv t := by
  induction reach with
  | refl => exact base
  | next before meets move ih => exact keep _ _ _ ih meets move

theorem reach_append {step : σ → α → Option σ} {ok : σ → α → Prop} {a b c : σ}
    (first : Reach step ok a b) (second : Reach step ok b c) : Reach step ok a c := by
  induction second with
  | refl => exact first
  | next before meets move ih => exact .next ih meets move

theorem reach_of_guardedRun {step : σ → α → Option σ} {ok : σ → α → Prop}
    [∀ s a, Decidable (ok s a)] (as : List α) {s t : σ}
    (done : guardedRun step ok s as = some t) : Reach step ok s t := by
  induction as generalizing s with
  | nil =>
    simp only [guardedRun, Option.some.injEq] at done
    exact done ▸ .refl
  | cons a as ih =>
    simp only [guardedRun] at done
    split at done
    · rename_i meets
      obtain ⟨u, move, rest⟩ := Option.bind_eq_some_iff.mp done
      exact reach_append (.next .refl meets move) (ih rest)
    · simp at done

theorem reach_of_run {step : σ → α → Option σ} (as : List α) {s t : σ}
    (done : run step s as = some t) : Reach step Unguarded s t := by
  induction as generalizing s with
  | nil =>
    simp only [run, Option.some.injEq] at done
    exact done ▸ .refl
  | cons a as ih =>
    obtain ⟨u, move, rest⟩ := Option.bind_eq_some_iff.mp done
    exact reach_append (.next .refl trivial move) (ih rest)

theorem reaches_of_run {step : σ → α → Option σ} {P : σ → Prop} [DecidablePred P] {start : σ}
    (as : List α) (checked : (run step start as).any (fun t => decide (P t)) = true) :
    ∃ t, Reach step Unguarded start t ∧ P t := by
  cases done : run step start as with
  | none =>
    rw [done] at checked
    contradiction
  | some t =>
    rw [done] at checked
    exact ⟨t, reach_of_run as done, of_decide_eq_true checked⟩

theorem run_cons_some {step : σ → α → Option σ} {s t : σ} {a : α} {as : List α}
    (done : run step s (a :: as) = some t) :
    ∃ u, step s a = some u ∧ run step u as = some t :=
  Option.bind_eq_some_iff.mp done

theorem run_bounded {step : σ → α → Option σ} (Inv : σ → Prop) (weight : σ → Nat)
    (keep : ∀ s a t, Inv s → step s a = some t → Inv t ∧ weight t < weight s)
    (as : List α) {s t : σ} (inv : Inv s) (done : run step s as = some t) :
    Inv t ∧ as.length + weight t ≤ weight s := by
  induction as generalizing s with
  | nil =>
    cases done
    exact ⟨inv, by simp⟩
  | cons a as ih =>
    obtain ⟨u, move, rest⟩ := run_cons_some done
    obtain ⟨kept, lighter⟩ := keep s a u inv move
    obtain ⟨last, within⟩ := ih kept rest
    refine ⟨last, ?_⟩
    rw [List.length_cons]
    omega

theorem reach_lift {τ : Type} {step : σ → α → Option σ} {spec : τ → α → Option τ} (place : σ → τ)
    (lifts : ∀ s a t, step s a = some t → spec (place s) a = some (place t)) {s t : σ}
    (reach : Reach step Unguarded s t) : Reach spec Unguarded (place s) (place t) := by
  induction reach with
  | refl => exact .refl
  | next before meets move ih => exact .next ih trivial (lifts _ _ _ move)

/-- A run is one of the specification under the abstraction, if each of its steps is some steps
    there, perhaps none. -/
theorem run_simulates {τ β : Type} {step : σ → α → Option σ} {spec : τ → β → Option τ}
    (Inv : σ → Prop) (abstraction : σ → τ)
    (simulates : ∀ s a t, Inv s → step s a = some t →
      Inv t ∧ Reach spec Unguarded (abstraction s) (abstraction t))
    (as : List α) {s t : σ} (inv : Inv s) (done : run step s as = some t) :
    Reach spec Unguarded (abstraction s) (abstraction t) := by
  induction as generalizing s with
  | nil =>
    cases done
    exact .refl
  | cons a as ih =>
    obtain ⟨u, move, rest⟩ := run_cons_some done
    obtain ⟨kept, steps⟩ := simulates s a u inv move
    exact reach_append steps (ih kept rest)

theorem always_cons {step : σ → α → Option σ} {P : σ → Prop} {s u : σ} {a : α}
    {as : List α} (move : step s a = some u) :
    Always step P s (a :: as) ↔ P s ∧ Always step P u as := by
  constructor
  · intro all
    constructor
    · exact all 0 s rfl
    · intro n t reached
      apply all (n + 1) t
      simpa [run, move] using reached
  · intro both n t reached
    obtain ⟨here, later⟩ := both
    cases n with
    | zero =>
      simp only [List.take_zero, run, Option.some.injEq] at reached
      exact reached ▸ here
    | succ n =>
      apply later n t
      simpa [run, move] using reached

theorem meets_cons {step : σ → α → Option σ} {ok : σ → α → Prop} {s u : σ} {a : α}
    {as : List α} (move : step s a = some u) :
    Meets step ok s (a :: as) ↔ ok s a ∧ Meets step ok u as := by
  constructor
  · intro all
    constructor
    · exact all 0 s a rfl rfl
    · intro n t b reached next
      apply all (n + 1) t b
      · simpa [run, move] using reached
      · simpa using next
  · intro both n t b reached next
    obtain ⟨here, later⟩ := both
    cases n with
    | zero =>
      simp only [List.take_zero, run, Option.some.injEq] at reached
      simp only [List.getElem?_cons_zero, Option.some.injEq] at next
      exact next ▸ reached ▸ here
    | succ n =>
      have reached : run step u (as.take n) = some t := by simpa [run, move] using reached
      exact later n t b reached (by simpa using next)

theorem reaches_of_guardedRun {step : σ → α → Option σ} {ok : σ → α → Prop}
    [∀ s a, Decidable (ok s a)] {P : σ → Prop} [DecidablePred P] {start : σ} (as : List α)
    (checked : (guardedRun step ok start as).any (fun t => decide (P t)) = true) :
    ∃ t, Reach step ok start t ∧ P t := by
  cases done : guardedRun step ok start as with
  | none =>
    rw [done] at checked
    contradiction
  | some t =>
    rw [done] at checked
    exact ⟨t, reach_of_guardedRun as done, of_decide_eq_true checked⟩

theorem meets_of_guardedRun {step : σ → α → Option σ} {ok : σ → α → Prop}
    [∀ s a, Decidable (ok s a)] (as : List α) {s t : σ}
    (done : guardedRun step ok s as = some t) : Meets step ok s as := by
  induction as generalizing s with
  | nil =>
    intro n u a _ next
    simp at next
  | cons a as ih =>
    simp only [guardedRun] at done
    split at done
    · rename_i here
      obtain ⟨u, move, rest⟩ := Option.bind_eq_some_iff.mp done
      exact (meets_cons move).mpr ⟨here, ih rest⟩
    · cases done

/-- When a step from a good state ends in a good state exactly if it meets the guard,
    a run stays good exactly if all its steps meet it. The background invariant may be
    used at every step and is kept by every step, guarded or not. -/
theorem always_iff_meets {step : σ → α → Option σ} {ok : σ → α → Prop}
    {Background P : σ → Prop}
    (keep : ∀ s a t, Background s → step s a = some t → Background t)
    (exact : ∀ s a t, Background s → P s → step s a = some t → (P t ↔ ok s a))
    (as : List α) {s t : σ} (background : Background s) (good : P s)
    (done : run step s as = some t) : Always step P s as ↔ Meets step ok s as := by
  induction as generalizing s with
  | nil =>
    constructor
    · intro _ n u a _ next
      simp at next
    · intro _ n u reached
      simp only [List.take_nil, run, Option.some.injEq] at reached
      exact reached ▸ good
  | cons a as ih =>
    obtain ⟨u, move, rest⟩ := run_cons_some done
    have turn := exact s a u background good move
    rw [always_cons move, meets_cons move]
    constructor
    · intro both
      have goodNext : P u := both.2 0 u rfl
      exact ⟨turn.mp goodNext, (ih (keep s a u background move) goodNext rest).mp both.2⟩
    · intro both
      obtain ⟨here, later⟩ := both
      have goodNext : P u := turn.mpr here
      exact ⟨good, (ih (keep s a u background move) goodNext rest).mpr later⟩

theorem run_append {step : σ → α → Option σ} (first second : List α) (s : σ) :
    run step s (first ++ second) = (run step s first).bind fun t => run step t second := by
  induction first generalizing s with
  | nil => rfl
  | cons a first ih =>
    simp only [List.cons_append, run]
    cases step s a with
    | none => rfl
    | some t => exact ih t

theorem run_invariant {step : σ → α → Option σ} {s : σ} (Inv : List α → σ → Prop) (base : Inv [] s)
    (keep : ∀ as t a u, Inv as t → step t a = some u → Inv (as ++ [a]) u) (as : List α) {t : σ}
    (done : run step s as = some t) : Inv as t := by
  induction as using List.reverseRecOn generalizing t with
  | nil =>
    cases done
    exact base
  | append_singleton as a ih =>
    rw [run_append] at done
    obtain ⟨u, before, last⟩ := Option.bind_eq_some_iff.mp done
    obtain ⟨v, move, stops⟩ := Option.bind_eq_some_iff.mp last
    cases stops
    exact keep as u a _ (ih before) move

end GuardedRuns
