import Mathlib

/- The fragment of Go's regular expressions that concatenates characters and greedy runs of a
   character class, with FindStringSubmatch in its leftmost-first preference: the leftmost
   start at which there is a match, and there the longest run first. -/
namespace GoRegexp

abbrev Ranges := List (Char × Char)

def inRanges (cls : Ranges) (c : Char) : Bool := cls.any fun r => r.1 ≤ c && c ≤ r.2

inductive Item where
  | char (c : Char)
  | run (cls : Ranges) (captured : Bool)
  deriving DecidableEq, Repr

def digit : Ranges := [('0', '9')]

/-- A bracket expression after its opening bracket. A hyphen before the closing one stands for
    itself. -/
def parseClass : List Char → Option (Ranges × List Char)
  | [] => none
  | ']' :: rest => some ([], rest)
  | [a, '-', ']'] => some ([(a, a), ('-', '-')], [])
  | a :: '-' :: b :: rest => (parseClass rest).map fun r => ((a, b) :: r.1, r.2)
  | a :: rest => (parseClass rest).map fun r => ((a, a) :: r.1, r.2)

def isMeta (c : Char) : Bool :=
  ['\\', '.', '+', '*', '?', '(', ')', '|', '[', ']', '\x7b', '\x7d', '^', '$'].contains c

def compileFrom : Nat → List Char → Option (List Item)
  | 0, _ => none
  | _ + 1, [] => some []
  | left + 1, '\\' :: 'd' :: '+' :: rest => (compileFrom left rest).map (.run digit false :: ·)
  | left + 1, '\\' :: c :: rest =>
    if isMeta c then (compileFrom left rest).map (.char c :: ·) else none
  | left + 1, '(' :: '[' :: rest =>
    match parseClass rest with
    | some (cls, '+' :: ')' :: rest) => (compileFrom left rest).map (.run cls true :: ·)
    | _ => none
  | left + 1, c :: rest =>
    if isMeta c then none else (compileFrom left rest).map (.char c :: ·)

def compile (pattern : List Char) : Option (List Item) :=
  compileFrom (pattern.length + 1) pattern

/-- The ways to split off a run of the class, the longest first. -/
def splits (cls : Ranges) : List Char → List (List Char × List Char)
  | [] => []
  | c :: s =>
    if inRanges cls c then (splits cls s).map (fun r => (c :: r.1, r.2)) ++ [([c], s)] else []

def keep (captured : Bool) (taken : List Char) (groups : List (List Char)) : List (List Char) :=
  if captured then taken :: groups else groups

def matchHere : List Item → List Char → Option (List (List Char))
  | [], _ => some []
  | .char _ :: _, [] => none
  | .char c :: items, d :: s => if d = c then matchHere items s else none
  | .run cls captured :: items, s =>
    (splits cls s).findSome? fun r => (matchHere items r.2).map (keep captured r.1)

def findStringSubmatch (items : List Item) : List Char → Option (List (List Char))
  | [] => matchHere items []
  | c :: s =>
    match matchHere items (c :: s) with
    | some groups => some groups
    | none => findStringSubmatch items s

def Ends (cls : Ranges) (s : List Char) : Prop := ∀ c ∈ s.head?, inRanges cls c = false

/-- What follows a run: nothing, or a character that is not of the class. Then the longest run
    is the only one to consider. -/
def Stops (cls : Ranges) : List Item → Prop
  | [] => True
  | .char c :: _ => inRanges cls c = false
  | .run _ _ :: _ => False

section Matching
variable {cls : Ranges} {captured : Bool} {items : List Item} {c : Char} {s taken rest : List Char}

theorem ends_nil : Ends cls [] := by simp [Ends]

theorem ends_cons : Ends cls (c :: s) ↔ inRanges cls c = false := by simp [Ends]

theorem splits_of_ends (ends : Ends cls s) : splits cls s = [] := by
  cases s with
  | nil => rfl
  | cons c s => simp [splits, ends_cons.mp ends]

theorem splits_append (inside : ∀ d ∈ taken, inRanges cls d = true) (some_run : taken ≠ [])
    (ends : Ends cls rest) :
    ∃ shorter, splits cls (taken ++ rest) = (taken, rest) :: shorter ∧
      ∀ r ∈ shorter, ¬ Ends cls r.2 := by
  -- the longest run comes first, and a shorter one leaves a character of the class
  induction taken with
  | nil => exact absurd rfl some_run
  | cons c taken ih =>
    have here : inRanges cls c = true := inside c List.mem_cons_self
    have later : ∀ d ∈ taken, inRanges cls d = true := fun d member =>
      inside d (List.mem_cons_of_mem c member)
    cases taken with
    | nil => exact ⟨[], by simp [splits, here, splits_of_ends ends], by simp⟩
    | cons d taken =>
      obtain ⟨shorter, longest, others⟩ := ih later (by simp)
      refine ⟨shorter.map (fun r => (c :: r.1, r.2)) ++ [([c], d :: taken ++ rest)], ?_, ?_⟩
      · rw [List.cons_append, splits, if_pos here, longest]
        simp
      · intro r member
        rcases List.mem_append.mp member with shifted | last
        · obtain ⟨r, old, rfl⟩ := List.mem_map.mp shifted
          exact others r old
        · rw [List.mem_singleton.mp last]
          simp [ends_cons, later d List.mem_cons_self]

theorem matchHere_not_ends (stops : Stops cls items) (some_item : items ≠ [])
    (goes_on : ¬ Ends cls s) : matchHere items s = none := by
  cases items with
  | nil => exact absurd rfl some_item
  | cons item items =>
    cases item with
    | run cls captured => exact absurd stops id
    | char c =>
      cases s with
      | nil => rfl
      | cons d s =>
        have other : d ≠ c := by
          rintro rfl
          exact goes_on (ends_cons.mpr stops)
        simp [matchHere, other]

theorem matchHere_run (stops : Stops cls items) (inside : ∀ d ∈ taken, inRanges cls d = true)
    (some_run : taken ≠ []) (ends : Ends cls rest) :
    matchHere (.run cls captured :: items) (taken ++ rest) =
      (matchHere items rest).map (keep captured taken) := by
  obtain ⟨shorter, longest, others⟩ := splits_append inside some_run ends
  rw [matchHere, longest, List.findSome?_cons]
  cases first : (matchHere items rest).map (keep captured taken) with
  | some groups => simp
  | none =>
    have some_item : items ≠ [] := by
      rintro rfl
      simp [matchHere] at first
    simp only [List.findSome?_eq_none_iff, Option.map_eq_none_iff]
    intro r member
    exact matchHere_not_ends stops some_item (others r member)

theorem matchHere_run_none (ends : Ends cls s) :
    matchHere (.run cls captured :: items) s = none := by
  rw [matchHere, splits_of_ends ends]
  rfl

theorem find_skip (fails : matchHere items (c :: s) = none) :
    findStringSubmatch items (c :: s) = findStringSubmatch items s := by
  simp [findStringSubmatch, fails]

theorem find_here {groups : List (List Char)} (found : matchHere items s = some groups) :
    findStringSubmatch items s = some groups := by
  cases s with
  | nil => exact found
  | cons c s => simp [findStringSubmatch, found]

theorem find_run_none (stops : Stops cls items) (inside : ∀ d ∈ taken, inRanges cls d = true)
    (ends : Ends cls rest) (fails : matchHere items rest = none) :
    findStringSubmatch (.run cls captured :: items) (taken ++ rest) =
      findStringSubmatch (.run cls captured :: items) rest := by
  induction taken with
  | nil => rfl
  | cons c taken ih =>
    have here : matchHere (.run cls captured :: items) (c :: (taken ++ rest)) = none := by
      rw [← List.cons_append, matchHere_run stops inside (by simp) ends, fails, Option.map_none]
    rw [List.cons_append, find_skip here]
    exact ih fun d member => inside d (List.mem_cons_of_mem c member)

end Matching

def literal (text : List Char) : List Item := text.map .char

theorem matchHere_literal (text : List Char) (items : List Item) (s : List Char) :
    matchHere (literal text ++ items) (text ++ s) = matchHere items s := by
  induction text with
  | nil => rfl
  | cons c text ih => simpa [literal, matchHere] using ih

theorem literal_starts {text : List Char} {items : List Item} {s : List Char}
    {groups : List (List Char)} (found : matchHere (literal text ++ items) s = some groups) :
    ∃ rest, s = text ++ rest := by
  induction text generalizing s with
  | nil => exact ⟨s, rfl⟩
  | cons c text ih =>
    cases s with
    | nil => simp [literal, matchHere] at found
    | cons d s =>
      simp only [literal, List.map_cons, List.cons_append, matchHere] at found
      split at found
      · rename_i same
        obtain ⟨rest, shape⟩ := ih found
        exact ⟨rest, by rw [same, shape]; rfl⟩
      · simp at found

theorem find_literal_skip {text : List Char} {items : List Item} {passed rest : List Char}
    (absent : ∀ t, t ≠ [] → t <:+ passed → ¬ ∃ u, t ++ rest = text ++ u) :
    findStringSubmatch (literal text ++ items) (passed ++ rest) =
      findStringSubmatch (literal text ++ items) rest := by
  induction passed with
  | nil => rfl
  | cons c passed ih =>
    have fails : matchHere (literal text ++ items) (c :: (passed ++ rest)) = none := by
      cases found : matchHere (literal text ++ items) (c :: (passed ++ rest)) with
      | none => rfl
      | some groups => exact absurd (literal_starts found) (absent _ (by simp) List.suffix_rfl)
    rw [List.cons_append, find_skip fails]
    exact ih fun t some_text ends => absent t some_text (ends.trans (List.suffix_cons c passed))

def groupCount (items : List Item) : Nat :=
  items.countP fun item => match item with
    | .char _ => false
    | .run _ captured => captured

theorem matchHere_groups {items : List Item} {s : List Char} {groups : List (List Char)}
    (found : matchHere items s = some groups) : groups.length = groupCount items := by
  induction items generalizing s groups with
  | nil =>
    cases found
    rfl
  | cons item items ih =>
    cases item with
    | char c =>
      cases s with
      | nil => simp [matchHere] at found
      | cons d s =>
        simp only [matchHere] at found
        split at found
        · simpa [groupCount] using ih found
        · simp at found
    | run cls captured =>
      simp only [matchHere] at found
      obtain ⟨r, _, here⟩ := List.exists_of_findSome?_eq_some found
      obtain ⟨inner, matched, rfl⟩ := Option.map_eq_some_iff.mp here
      have count := ih matched
      cases captured <;> simp [keep, groupCount] at count ⊢ <;> omega

theorem find_groups {items : List Item} {s : List Char} {groups : List (List Char)}
    (found : findStringSubmatch items s = some groups) : groups.length = groupCount items := by
  induction s with
  | nil => exact matchHere_groups found
  | cons c s ih =>
    simp only [findStringSubmatch] at found
    split at found
    · rename_i here
      cases found
      exact matchHere_groups here
    · exact ih found

theorem splits_eq_append {cls : Ranges} {s : List Char} {r : List Char × List Char}
    (member : r ∈ splits cls s) : s = r.1 ++ r.2 := by
  induction s generalizing r with
  | nil => simp [splits] at member
  | cons c s ih =>
    simp only [splits] at member
    split at member
    · rcases List.mem_append.mp member with longer | last
      · obtain ⟨inner, found, rfl⟩ := List.mem_map.mp longer
        rw [ih found]
        rfl
      · rw [List.mem_singleton.mp last]
        rfl
    · simp at member

theorem mem_of_matchHere {items : List Item} {s : List Char} {groups : List (List Char)} {c : Char}
    (found : matchHere items s = some groups) (asked : .char c ∈ items) : c ∈ s := by
  induction items generalizing s groups with
  | nil => simp at asked
  | cons item items ih =>
    cases item with
    | char d =>
      cases s with
      | nil => simp [matchHere] at found
      | cons e s =>
        simp only [matchHere] at found
        split at found
        · rename_i same
          rcases List.mem_cons.mp asked with here | later
          · cases here
            rw [same]
            exact List.mem_cons_self
          · exact List.mem_cons_of_mem e (ih found later)
        · simp at found
    | run cls captured =>
      simp only [matchHere] at found
      obtain ⟨r, split_off, here⟩ := List.exists_of_findSome?_eq_some found
      obtain ⟨inner, matched, rfl⟩ := Option.map_eq_some_iff.mp here
      rw [splits_eq_append split_off]
      exact List.mem_append_right r.1 (ih matched (by simpa using asked))

theorem mem_of_find {items : List Item} {s : List Char} {groups : List (List Char)} {c : Char}
    (found : findStringSubmatch items s = some groups) (asked : .char c ∈ items) : c ∈ s := by
  induction s with
  | nil => exact mem_of_matchHere found asked
  | cons d s ih =>
    simp only [findStringSubmatch] at found
    split at found
    · rename_i here
      exact mem_of_matchHere here asked
    · exact List.mem_cons_of_mem d (ih found)

end GoRegexp
