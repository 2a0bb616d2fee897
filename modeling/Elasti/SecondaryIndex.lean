import Mathlib

/- Finite maps, and a store with an index over it by a key that is computed from the stored value. A value's
   key and what the index keeps of it tell which value of the store it is. -/
namespace SecondaryIndex
variable {K V I D : Type} {key : V → I} {entry : V → D} {ident : V → K}

theorem lookup_insert_ite [DecidableEq K] (m : AList fun _ : K => V) (k : K) (v : V) (l : K) :
    (m.insert k v).lookup l = if l = k then some v else m.lookup l := by
  by_cases same : l = k
  · rw [if_pos same, same]
    exact AList.lookup_insert m
  · rw [if_neg same]
    exact AList.lookup_insert_ne same

theorem lookup_erase_ite [DecidableEq K] (m : AList fun _ : K => V) (k l : K) :
    (m.erase k).lookup l = if l = k then none else m.lookup l := by
  by_cases same : l = k
  · rw [if_pos same, same]
    exact AList.lookup_erase k m
  · rw [if_neg same]
    exact AList.lookup_erase_ne same

/-- The index leads to every value of the store, and every key of it is a value's current one. -/
structure Holds (key : V → I) (entry : V → D) (store : K → Option V) (index : I → Option D) :
    Prop where
  found : ∀ k v, store k = some v → index (key v) = some (entry v)
  current : ∀ i, index i ≠ none → ∃ k v, store k = some v ∧ key v = i

def Named (ident : V → K) (store : K → Option V) : Prop := ∀ k v, store k = some v → ident v = k

def Separates (key : V → I) (entry : V → D) (ident : V → K) : Prop :=
  ∀ v u, key v = key u → entry v = entry u → ident v = ident u

theorem update_eq_some [DecidableEq K] {store : K → Option V} {k l : K} {x : Option V} {u : V}
    (here : Function.update store k x l = some u) :
    (l = k ∧ x = some u) ∨ (l ≠ k ∧ store l = some u) := by
  by_cases same : l = k
  · subst same
    rw [Function.update_self] at here
    exact .inl ⟨rfl, here⟩
  · rw [Function.update_of_ne same] at here
    exact .inr ⟨same, here⟩

theorem named_update [DecidableEq K] {store : K → Option V} (named : Named ident store) {k : K}
    {v : V} (own : ident v = k) : Named ident (Function.update store k (some v)) := by
  intro l u here
  rcases update_eq_some here with ⟨rfl, ⟨⟩⟩ | ⟨-, here⟩
  · exact own
  · exact named l u here

theorem Holds.unique {store : K → Option V} {index : I → Option D}
    (holds : Holds key entry store index) (separates : Separates key entry ident)
    (named : Named ident store) {k l : K} {v u : V} (hereV : store k = some v)
    (hereU : store l = some u) (same : key v = key u) : k = l := by
  have entries : some (entry v) = some (entry u) := by
    rw [← holds.found k v hereV, ← holds.found l u hereU, same]
  rw [← named k v hereV, ← named l u hereU]
  exact separates v u same (Option.some.inj entries)

section
variable [DecidableEq K] [DecidableEq I] {store : K → Option V} {index : I → Option D}

omit [DecidableEq I] in
theorem Holds.current_elsewhere (holds : Holds key entry store index) {k : K} (w : Option V)
    {i : I} (present : index i ≠ none) (apart : ∀ u, store k = some u → key u ≠ i) :
    ∃ l u, Function.update store k w l = some u ∧ key u = i := by
  obtain ⟨l, u, here, keyed⟩ := holds.current i present
  have other : l ≠ k := by
    intro equal
    subst equal
    exact apart u here keyed
  exact ⟨l, u, by rwa [Function.update_of_ne other], keyed⟩

theorem holds_insert_iff (separates : Separates key entry ident) (named : Named ident store)
    (holds : Holds key entry store index) {k : K} {v : V} (own : ident v = k)
    (free : store k = none) :
    Holds key entry (Function.update store k (some v))
        (Function.update index (key v) (some (entry v))) ↔
      ∀ l u, store l = some u → key u ≠ key v := by
  have elsewhere : ∀ l u, store l = some u → l ≠ k := by
    intro l u here same
    rw [same, free] at here
    cases here
  constructor
  · intro after l u here same
    have other := elsewhere l u here
    refine other (after.unique separates (named_update named own) ?_ ?_ same)
    · rwa [Function.update_of_ne other]
    · exact Function.update_self k (some v) store
  · intro fresh
    constructor
    · intro l u here
      rcases update_eq_some here with ⟨rfl, ⟨⟩⟩ | ⟨-, here⟩
      · exact Function.update_self _ _ _
      · rw [Function.update_of_ne (fresh l u here)]
        exact holds.found l u here
    · intro i present
      by_cases same : i = key v
      · exact ⟨k, v, Function.update_self _ _ _, same.symm⟩
      · rw [Function.update_of_ne same] at present
        apply holds.current_elsewhere (some v) present
        intro u here
        exact absurd rfl (elsewhere k u here)

/-- A value replaced in its place and indexed under its new key, while nothing takes the old
    key out: the index holds if and only if the key stays. -/
theorem holds_replace_iff (separates : Separates key entry ident) (named : Named ident store)
    (holds : Holds key entry store index) {k : K} {old : V} (v : V) (place : store k = some old) :
    Holds key entry (Function.update store k (some v))
        (Function.update index (key v) (some (entry v))) ↔
      key v = key old := by
  constructor
  · intro after
    by_contra moved
    have stale : Function.update index (key v) (some (entry v)) (key old) ≠ none := by
      rw [Function.update_of_ne (Ne.symm moved), holds.found k old place]
      exact Option.some_ne_none _
    obtain ⟨l, u, here, keyed⟩ := after.current (key old) stale
    rcases update_eq_some here with ⟨rfl, ⟨⟩⟩ | ⟨other, here⟩
    · exact moved keyed
    · exact other (holds.unique separates named here place keyed)
  · intro stays
    constructor
    · intro l u here
      rcases update_eq_some here with ⟨rfl, ⟨⟩⟩ | ⟨other, here⟩
      · exact Function.update_self _ _ _
      · have apart : key u ≠ key v := fun equal =>
          other (holds.unique separates named here place (equal.trans stays))
        rw [Function.update_of_ne apart]
        exact holds.found l u here
    · intro i present
      by_cases same : i = key v
      · exact ⟨k, v, Function.update_self _ _ _, same.symm⟩
      · rw [Function.update_of_ne same] at present
        apply holds.current_elsewhere (some v) present
        intro u here keyed
        cases here.symm.trans place
        exact same (keyed.symm.trans stays.symm)

theorem holds_erase (separates : Separates key entry ident) (named : Named ident store)
    (holds : Holds key entry store index) {k : K} {old : V} (place : store k = some old) :
    Holds key entry (Function.update store k none) (Function.update index (key old) none) := by
  constructor
  · intro l u here
    rcases update_eq_some here with ⟨-, ⟨⟩⟩ | ⟨other, here⟩
    have apart : key u ≠ key old := fun equal =>
      other (holds.unique separates named here place equal)
    rw [Function.update_of_ne apart]
    exact holds.found l u here
  · intro i present
    by_cases same : i = key old
    · rw [same, Function.update_self] at present
      exact absurd rfl present
    · rw [Function.update_of_ne same] at present
      apply holds.current_elsewhere none present
      intro u here keyed
      cases here.symm.trans place
      exact same keyed.symm

end
end SecondaryIndex
