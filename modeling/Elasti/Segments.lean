import Mathlib

/- Texts as their segments between separators. Whether one text, closed by a separator, starts
   another is read off the segments; so is what a joined text was made of. -/
namespace Segments
variable {α : Type} {sep : α}

theorem intercalate_append {xs ys : List (List α)} (some_xs : xs ≠ []) (some_ys : ys ≠ []) :
    [sep].intercalate (xs ++ ys) = [sep].intercalate xs ++ sep :: [sep].intercalate ys := by
  induction xs with
  | nil => exact absurd rfl some_xs
  | cons x rest ih =>
    cases rest with
    | nil =>
      obtain ⟨y, more, rfl⟩ := List.exists_cons_of_ne_nil some_ys
      simp [List.intercalate_cons_cons]
    | cons z rest =>
      have behind := ih (List.cons_ne_nil z rest)
      rw [List.cons_append] at behind
      rw [List.cons_append, List.cons_append, List.intercalate_cons_cons, behind,
        List.intercalate_cons_cons]
      simp

section Split
variable [BEq α] [LawfulBEq α] {p s : List α}

theorem segments_append (p s : List α) :
    (p ++ sep :: s).splitOn sep = p.splitOn sep ++ s.splitOn sep :=
  List.splitOnP_append_cons p s (beq_self_eq_true sep)

theorem segments_cons (absent : sep ∉ p) (s : List α) :
    (p ++ sep :: s).splitOn sep = p :: s.splitOn sep := by
  rw [segments_append, List.splitOn_eq_singleton absent]
  rfl

theorem segments_injective (same : p.splitOn sep = s.splitOn sep) : p = s := by
  calc p = [sep].intercalate (p.splitOn sep) := (List.intercalate_splitOn sep).symm
    _ = [sep].intercalate (s.splitOn sep) := by rw [same]
    _ = s := List.intercalate_splitOn sep

/-- The segments of a text start those of another one exactly when it is that text, or stands
    before one of its separators. -/
theorem segments_prefix_iff :
    p.splitOn sep <+: s.splitOn sep ↔ p = s ∨ p ++ [sep] <+: s := by
  constructor
  · rintro ⟨more, together⟩
    by_cases nothing : more = []
    · left
      rw [nothing, List.append_nil] at together
      exact segments_injective together
    · right
      refine ⟨[sep].intercalate more, ?_⟩
      calc p ++ [sep] ++ [sep].intercalate more
          = [sep].intercalate (p.splitOn sep) ++ sep :: [sep].intercalate more := by
            rw [List.intercalate_splitOn]
            simp
        _ = [sep].intercalate (s.splitOn sep) := by
            rw [← intercalate_append (List.splitOn_ne_nil sep p) nothing, together]
        _ = s := List.intercalate_splitOn sep
  · rintro (rfl | ⟨more, rfl⟩)
    · exact List.prefix_rfl
    · rw [List.append_assoc]
      exact ⟨more.splitOn sep, (segments_append p more).symm⟩

theorem closed_prefix_iff :
    p ++ [sep] <+: s ↔ p.splitOn sep <+: s.splitOn sep ∧ p ≠ s := by
  rw [segments_prefix_iff]
  constructor
  · intro starts
    refine ⟨.inr starts, ?_⟩
    rintro rfl
    have longer := starts.length_le
    simp at longer
  · rintro ⟨rfl | starts, other⟩
    · exact absurd rfl other
    · exact starts

end Split

end Segments
