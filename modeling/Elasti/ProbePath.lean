import Elasti.Segments

/- The path of a probe rule. The resolver compares characters; the Gateway API, whose prefixes
   the CRD promises, compares the elements between the slashes. -/
namespace ProbePath
open Segments

def slash : List Char := ['/']

def pathPrefix (path pre : List Char) : Bool :=
  if pre = [] ∨ pre = slash then slash.isPrefixOf path
  else if path = pre then true
  else if !pre.isPrefixOf path then false
  else if slash.isSuffixOf pre then true
  else decide (path.length > pre.length) && path[pre.length]? == some '/'

def elements (path : List Char) : List (List Char) := (path.splitOn '/').tail

def withoutTrailingSlash (pre : List Char) : List Char :=
  if slash.isSuffixOf pre then pre.dropLast else pre

/-- PathPrefix of the Gateway API: element by element, a trailing slash of the prefix ignored. -/
def GatewayPrefix (path pre : List Char) : Prop :=
  elements (withoutTrailingSlash pre) <+: elements path

instance (path pre : List Char) : Decidable (GatewayPrefix path pre) :=
  inferInstanceAs (Decidable (_ <+: _))

def Rooted (path : List Char) : Prop := path.head? = some '/'

instance (path : List Char) : Decidable (Rooted path) := inferInstanceAs (Decidable (_ = _))

theorem Rooted.exists_tail {path : List Char} (rooted : Rooted path) :
    ∃ rest, path = '/' :: rest := by
  cases path with
  | nil => cases rooted
  | cons c rest =>
    cases rooted
    exact ⟨rest, rfl⟩

theorem segments_rooted {path : List Char} (rooted : Rooted path) :
    path.splitOn '/' = [] :: elements path := by
  obtain ⟨rest, rfl⟩ := rooted.exists_tail
  have apart : ('/' :: rest).splitOn '/' = [] :: rest.splitOn '/' :=
    segments_cons List.not_mem_nil rest
  rw [elements, apart]
  rfl

theorem ends_in_slash {pre : List Char} :
    slash.isSuffixOf pre = true ↔ ∃ body, pre = body ++ slash := by
  rw [List.isSuffixOf_iff_suffix]
  constructor
  · rintro ⟨body, rfl⟩
    exact ⟨body, rfl⟩
  · rintro ⟨body, rfl⟩
    exact List.suffix_append body slash

theorem withoutTrailingSlash_closed (body : List Char) :
    withoutTrailingSlash (body ++ slash) = body := by
  rw [withoutTrailingSlash, if_pos (ends_in_slash.mpr ⟨body, rfl⟩)]
  exact List.dropLast_concat

theorem withoutTrailingSlash_open {pre : List Char} (opened : slash.isSuffixOf pre = false) :
    withoutTrailingSlash pre = pre := by
  rw [withoutTrailingSlash, if_neg (by rw [opened]; decide)]

theorem segments_withoutTrailingSlash {pre : List Char} (rooted : Rooted pre) :
    (withoutTrailingSlash pre).splitOn '/' = [] :: elements (withoutTrailingSlash pre) := by
  cases closed : slash.isSuffixOf pre with
  | false =>
    rw [withoutTrailingSlash_open closed]
    exact segments_rooted rooted
  | true =>
    obtain ⟨body, rfl⟩ := ends_in_slash.mp closed
    rw [withoutTrailingSlash_closed]
    cases body with
    | nil => rfl
    | cons c body =>
      have head : c = '/' := by simpa [Rooted] using rooted
      rw [head]
      exact segments_rooted rfl

theorem gatewayPrefix_iff {path pre : List Char} (rooted : Rooted path) (rootedPre : Rooted pre) :
    GatewayPrefix path pre ↔
      withoutTrailingSlash pre = path ∨ withoutTrailingSlash pre ++ slash <+: path := by
  rw [slash, ← segments_prefix_iff, segments_withoutTrailingSlash rootedPre, segments_rooted rooted,
    List.prefix_cons_inj]
  rfl

theorem next_is_slash {path pre : List Char} (starts : pre <+: path) :
    (decide (path.length > pre.length) && path[pre.length]? == some '/') = true ↔
      pre ++ slash <+: path := by
  obtain ⟨rest, rfl⟩ := starts
  rw [List.prefix_append_right_inj]
  cases rest with
  | nil => simp [slash]
  | cons c rest =>
    have here : slash <+: c :: rest ↔ c = '/' := by
      rw [slash, List.cons_prefix_cons, and_iff_left List.nil_prefix]
      exact eq_comm
    rw [here]
    simp

theorem pathPrefix_open {path pre : List Char} (opened : slash.isSuffixOf pre = false)
    (some_text : pre ≠ []) :
    pathPrefix path pre = true ↔ pre = path ∨ pre ++ slash <+: path := by
  have other : ¬ (pre = [] ∨ pre = slash) := by
    rintro (nothing | root)
    · exact some_text nothing
    · rw [root] at opened
      exact absurd opened (by decide)
  rw [pathPrefix, if_neg other]
  by_cases same : path = pre
  · rw [if_pos same]
    simp [same]
  · rw [if_neg same]
    cases starts : pre.isPrefixOf path with
    | false =>
      have away : ¬ pre ++ slash <+: path := by
        intro closed
        have begins := List.isPrefixOf_iff_prefix.mpr ((List.prefix_append pre slash).trans closed)
        rw [starts] at begins
        cases begins
      simp [away, Ne.symm same]
    | true =>
      simp only [Bool.not_true, Bool.false_eq_true, if_false, opened]
      rw [next_is_slash (List.isPrefixOf_iff_prefix.mp starts)]
      exact ⟨.inr, fun either => either.resolve_left (Ne.symm same)⟩

theorem pathPrefix_closed (path body : List Char) :
    pathPrefix path (body ++ slash) = true ↔ body ++ slash <+: path := by
  have closed : slash.isSuffixOf (body ++ slash) = true := ends_in_slash.mpr ⟨body, rfl⟩
  rw [pathPrefix]
  by_cases root : body ++ slash = [] ∨ body ++ slash = slash
  · have alone : body ++ slash = slash := root.resolve_left (by simp [slash])
    rw [if_pos root, alone]
    exact List.isPrefixOf_iff_prefix
  · rw [if_neg root]
    by_cases same : path = body ++ slash
    · rw [if_pos same, same]
      simp
    · rw [if_neg same, ← List.isPrefixOf_iff_prefix]
      cases (body ++ slash).isPrefixOf path <;> simp [closed]

/-- The two agree but where the prefix is the path itself with a slash behind it. -/
theorem pathPrefix_gateway_iff {path pre : List Char} (rooted : Rooted path)
    (rootedPre : Rooted pre) :
    (pathPrefix path pre = true ↔ GatewayPrefix path pre) ↔ pre ≠ path ++ slash := by
  rw [gatewayPrefix_iff rooted rootedPre]
  cases ends : slash.isSuffixOf pre with
  | false =>
    have some_text : pre ≠ [] := by
      rintro rfl
      cases rootedPre
    have apart : pre ≠ path ++ slash := by
      rintro rfl
      rw [ends_in_slash.mpr ⟨path, rfl⟩] at ends
      cases ends
    rw [pathPrefix_open ends some_text, withoutTrailingSlash_open ends]
    exact ⟨fun _ => apart, fun _ => Iff.rfl⟩
  | true =>
    obtain ⟨body, rfl⟩ := ends_in_slash.mp ends
    rw [pathPrefix_closed, withoutTrailingSlash_closed]
    constructor
    · intro agree same
      have own : body = path := List.append_cancel_right same
      have longer := (agree.mpr (.inl own)).length_le
      rw [own] at longer
      simp [slash] at longer
    · intro apart
      refine ⟨.inr, fun either => either.resolve_left ?_⟩
      rintro rfl
      exact apart rfl

def foo : List Char := ['/', 'f', 'o', 'o']

theorem child_of_closed_prefix :
    (pathPrefix (foo ++ foo) (foo ++ slash) = true ↔ GatewayPrefix (foo ++ foo) (foo ++ slash)) ∧
      GatewayPrefix (foo ++ foo) (foo ++ slash) :=
  ⟨(pathPrefix_gateway_iff (by decide) (by decide)).mpr (by decide), by decide⟩

theorem trailing_slash_not_ignored :
    GatewayPrefix foo (foo ++ slash) ∧ pathPrefix foo (foo ++ slash) = false := by decide

end ProbePath
