import Mathlib

/- Ranging over a concurrent map. Other threads may change the map between two visits; no key is
   visited twice, and what is seen of a key is what the map held for it at some moment of the
   call. -/
namespace MapRange
variable {K V : Type}

abbrev Content (K V : Type) := AList fun _ : K => V

/-- A call under way: what was seen of each key that it came by, and every content that the map
    has had since the call began. -/
structure Range (K V : Type) where
  visited : List (K × Option V)
  held : List (Content K V)

def Range.result (r : Range K V) : List (K × V) :=
  r.visited.filterMap fun seen => seen.2.map fun v => (seen.1, v)

theorem mem_result {r : Range K V} {entry : K × V} :
    entry ∈ r.result ↔ (entry.1, some entry.2) ∈ r.visited := by
  unfold Range.result
  simp only [List.mem_filterMap, Option.map_eq_some_iff]
  constructor
  · rintro ⟨⟨k, seen⟩, visited, v, rfl, rfl⟩
    exact visited
  · intro visited
    exact ⟨_, visited, _, rfl, rfl⟩

variable [DecidableEq K]

def begin (m : Content K V) : Range K V := ⟨[], [m]⟩

def Range.changed (r : Range K V) (m : Content K V) : Range K V := { r with held := m :: r.held }

def Range.visit (r : Range K V) (m : Content K V) (k : K) : Option (Range K V) :=
  if k ∈ r.visited.map Prod.fst then none
  else some { r with visited := (k, m.lookup k) :: r.visited }

def Range.done (r : Range K V) (m : Content K V) : Bool :=
  m.keys.all fun k => k ∈ r.visited.map Prod.fst

structure Sound (r : Range K V) (m : Content K V) : Prop where
  current : m ∈ r.held
  distinct : (r.visited.map Prod.fst).Nodup
  seen : ∀ entry ∈ r.visited, ∃ content ∈ r.held, content.lookup entry.1 = entry.2

theorem sound_begin (m : Content K V) : Sound (begin m) m where
  current := List.mem_singleton_self m
  distinct := List.nodup_nil
  seen := by
    intro entry visited
    cases visited

theorem Sound.changed {r : Range K V} {m : Content K V} (sound : Sound r m) (n : Content K V) :
    Sound (r.changed n) n where
  current := List.mem_cons_self
  distinct := sound.distinct
  seen := by
    intro entry visited
    obtain ⟨content, held, same⟩ := sound.seen entry visited
    exact ⟨content, List.mem_cons_of_mem n held, same⟩

theorem visit_cases {r t : Range K V} {m : Content K V} {k : K} (visits : r.visit m k = some t) :
    k ∉ r.visited.map Prod.fst ∧ t = { r with visited := (k, m.lookup k) :: r.visited } := by
  unfold Range.visit at visits
  split at visits
  · cases visits
  · rename_i fresh
    cases visits
    exact ⟨fresh, rfl⟩

theorem Sound.visit {r t : Range K V} {m : Content K V} {k : K} (sound : Sound r m)
    (visits : r.visit m k = some t) : Sound t m := by
  obtain ⟨fresh, rfl⟩ := visit_cases visits
  refine ⟨sound.current, List.nodup_cons.mpr ⟨fresh, sound.distinct⟩, ?_⟩
  intro entry visited
  rcases List.mem_cons.mp visited with rfl | before
  · exact ⟨m, sound.current, rfl⟩
  · exact sound.seen entry before

theorem result_distinct {r : Range K V} {m : Content K V} (sound : Sound r m) :
    (r.result.map Prod.fst).Nodup := by
  have part : (r.result.map Prod.fst).Sublist (r.visited.map Prod.fst) := by
    unfold Range.result
    generalize r.visited = visited
    induction visited with
    | nil => exact .slnil
    | cons seen visited ih =>
      obtain ⟨k, v⟩ := seen
      cases v with
      | none => exact ih.cons k
      | some v => exact ih.cons_cons k
  exact sound.distinct.sublist part

/-- For every key there is a moment of the call at which the map held for it what the call has
    found, or found nothing. -/
theorem result_reflects {r : Range K V} {m : Content K V} (sound : Sound r m)
    (done : r.done m = true) (k : K) :
    ∃ content ∈ r.held, ∀ v, content.lookup k = some v ↔ (k, v) ∈ r.result := by
  by_cases visited : k ∈ r.visited.map Prod.fst
  · obtain ⟨entry, member, rfl⟩ := List.mem_map.mp visited
    obtain ⟨content, held, same⟩ := sound.seen entry member
    refine ⟨content, held, fun v => ?_⟩
    rw [mem_result, same]
    constructor
    · intro found
      rw [← found]
      exact member
    · intro other
      -- the keys are distinct, so this is the same visit
      have unique := List.inj_on_of_nodup_map sound.distinct other member rfl
      rw [← unique]
  · refine ⟨m, sound.current, fun v => ?_⟩
    have absent : m.lookup k = none := by
      rw [AList.lookup_eq_none]
      intro present
      have all := List.all_eq_true.mp done k (AList.mem_keys.mpr present)
      exact visited (by simpa using all)
    rw [absent, mem_result]
    constructor
    · intro found
      cases found
    · intro listed
      exact absurd (List.mem_map_of_mem listed) visited

end MapRange
