import Mathlib.Data.List.DropRight
import Mathlib.Tactic.IntervalCases

/- Spaces and hexadecimal digits as in Go's unicode, strings and encoding/hex. -/
namespace GoStrings

def isSpace (c : Char) : Bool :=
  [9, 10, 11, 12, 13, 32, 0x85, 0xa0, 0x1680, 0x2028, 0x2029, 0x202f, 0x205f, 0x3000].contains
    c.toNat || (0x2000 ≤ c.toNat && c.toNat ≤ 0x200a)

def trimSpace (s : List Char) : List Char :=
  ((s.dropWhile isSpace).reverse.dropWhile isSpace).reverse

theorem trimSpace_eq (s : List Char) :
    trimSpace s = (s.dropWhile isSpace).rdropWhile isSpace := rfl

structure Trimmed (s : List Char) : Prop where
  first : ∀ c ∈ s.head?, isSpace c = false
  last : ∀ c ∈ s.getLast?, isSpace c = false

theorem dropWhile_trimmed {s : List Char} (trimmed : Trimmed s) (more : List Char)
    (inked : s ≠ []) : (s ++ more).dropWhile isSpace = s ++ more := by
  obtain ⟨c, rest, rfl⟩ := List.exists_cons_of_ne_nil inked
  have ink := trimmed.first c rfl
  rw [List.cons_append, List.dropWhile_cons_of_neg (by simp [ink])]

theorem rdropWhile_trimmed {s : List Char} (trimmed : Trimmed s) :
    s.rdropWhile isSpace = s := by
  rw [List.rdropWhile_eq_self_iff]
  intro inked
  simp [trimmed.last _ (List.getLast_mem_getLast? inked)]

theorem trimSpace_trimmed (s : List Char) : Trimmed (trimSpace s) := by
  constructor
  · intro c first
    -- what is left starts the text that is left of it alone, which starts with no space
    obtain ⟨more, whole⟩ : trimSpace s <+: s.dropWhile isSpace :=
      List.rdropWhile_prefix isSpace _
    have visible := List.head?_dropWhile_not isSpace s
    obtain ⟨rest, left⟩ : ∃ rest, trimSpace s = c :: rest := List.head?_eq_some_iff.mp first
    rw [← whole, left, List.cons_append] at visible
    exact visible
  · intro c last
    rw [trimSpace, List.getLast?_reverse] at last
    have visible := List.head?_dropWhile_not isSpace (s.dropWhile isSpace).reverse
    rw [last] at visible
    exact visible

theorem trimSpace_trimSpace (s : List Char) : trimSpace (trimSpace s) = trimSpace s := by
  by_cases blank : trimSpace s = []
  · rw [blank]
    rfl
  · have kept := dropWhile_trimmed (trimSpace_trimmed s) [] blank
    rw [List.append_nil] at kept
    rw [trimSpace_eq (trimSpace s), kept, rdropWhile_trimmed (trimSpace_trimmed s)]

/-- A text is what trimming leaves of it with spaces around. -/
theorem trimSpace_iff {s t : List Char} (inked : t ≠ []) :
    trimSpace s = t ↔ Trimmed t ∧ ∃ before behind, (∀ c ∈ before, isSpace c = true) ∧
      (∀ c ∈ behind, isSpace c = true) ∧ s = before ++ t ++ behind := by
  constructor
  · rintro rfl
    refine ⟨trimSpace_trimmed s, s.takeWhile isSpace, (s.dropWhile isSpace).rtakeWhile isSpace,
      fun c listed => List.mem_takeWhile_imp listed, fun c listed => List.mem_rtakeWhile_imp listed, ?_⟩
    rw [List.append_assoc, trimSpace_eq, List.rdropWhile_append_rtakeWhile,
      List.takeWhile_append_dropWhile]
  · rintro ⟨trimmed, before, behind, left, right, rfl⟩
    have reversed : ∀ c ∈ behind.reverse, isSpace c = true := fun c listed =>
      right c (List.mem_reverse.mp listed)
    rw [trimSpace, List.append_assoc, List.dropWhile_append_of_pos left,
      dropWhile_trimmed trimmed behind inked, List.reverse_append,
      List.dropWhile_append_of_pos reversed]
    exact rdropWhile_trimmed trimmed

def lowerhex : List Char :=
  ['0', '1', '2', '3', '4', '5', '6', '7', '8', '9', 'a', 'b', 'c', 'd', 'e', 'f']

def upperhex : List Char :=
  ['0', '1', '2', '3', '4', '5', '6', '7', '8', '9', 'A', 'B', 'C', 'D', 'E', 'F']

def hexDigit (table : List Char) (n : Nat) : Char := table.getD n '0'

def hexValue (c : Char) : Option Nat :=
  if '0' ≤ c ∧ c ≤ '9' then some (c.toNat - '0'.toNat)
  else if 'a' ≤ c ∧ c ≤ 'f' then some (c.toNat - 'a'.toNat + 10)
  else if 'A' ≤ c ∧ c ≤ 'F' then some (c.toNat - 'A'.toNat + 10)
  else none

theorem hexValue_hexDigit {table : List Char} (known : table = lowerhex ∨ table = upperhex)
    {n : Nat} (small : n < 16) : hexValue (hexDigit table n) = some n := by
  rcases known with rfl | rfl
  · interval_cases n <;> decide
  · interval_cases n <;> decide

end GoStrings
