import Elasti.GoJson
import Elasti.GoStrings

/- The text of a JSON value, as encoding/json writes and reads it. A text is a list of runes;
   bytes that are no UTF-8 are not among them. The reader takes one value off the front of its
   input, as a Decoder does, and gives back what stands behind it. -/
namespace GoJsonText
open GoJson
open GoStrings (hexDigit lowerhex hexValue hexValue_hexDigit)

section Strings

def hexEscape (n : Nat) : List Char :=
  ['\\', 'u', hexDigit lowerhex (n / 4096), hexDigit lowerhex (n / 256 % 16),
    hexDigit lowerhex (n / 16 % 16), hexDigit lowerhex (n % 16)]

def shortEscape (c : Char) : Option Char :=
  if c = '"' then some '"'
  else if c = '\\' then some '\\'
  else if c = '\x08' then some 'b'
  else if c = '\x0c' then some 'f'
  else if c = '\n' then some 'n'
  else if c = '\r' then some 'r'
  else if c = '\t' then some 't'
  else none

def escapedRune (c : Char) : Bool :=
  c.toNat < 32 || c == '<' || c == '>' || c == '&' || c == '\u2028' || c == '\u2029'

def quoteRune (c : Char) : List Char :=
  match shortEscape c with
  | some letter => ['\\', letter]
  | none => if escapedRune c then hexEscape c.toNat else [c]

def quote (text : List Char) : List Char := '"' :: (text.flatMap quoteRune ++ ['"'])

def unescape (letter : Char) : Option Char :=
  if letter = '"' then some '"'
  else if letter = '\\' then some '\\'
  else if letter = '/' then some '/'
  else if letter = 'b' then some '\x08'
  else if letter = 'f' then some '\x0c'
  else if letter = 'n' then some '\n'
  else if letter = 'r' then some '\r'
  else if letter = 't' then some '\t'
  else none

/-- Where the reader of a string stands: between runes, behind a backslash, or with some
    digits of a code still to come. -/
inductive Reading where
  | plain
  | escape
  | hex (digits : Nat) (code : Nat)
  deriving DecidableEq, Repr

def highSurrogate (code : Nat) : Bool := 0xD800 ≤ code && code < 0xDC00

def lowSurrogate (code : Nat) : Bool := 0xDC00 ≤ code && code < 0xE000

def replacementChar : Char := '\ufffd'

def flush : Option Nat → List Char
  -- a high surrogate that no low one follows
  | none => []
  | some _ => [replacementChar]

/-- What an escaped code adds to the string, and the high surrogate that waits for the next. -/
def addCode (pending : Option Nat) (code : Nat) : List Char × Option Nat :=
  match pending, lowSurrogate code with
  | some high, true => ([Char.ofNat (0x10000 + (high - 0xD800) * 0x400 + (code - 0xDC00))], none)
  | _, true => (flush pending ++ [replacementChar], none)
  | _, false =>
    if highSurrogate code then (flush pending, some code)
    else (flush pending ++ [Char.ofNat code], none)

def prepend {α : Type} (front : List α) : Option (List α × List Char) → Option (List α × List Char)
  | none => none
  | some (text, rest) => some (front ++ text, rest)

def readString : Reading → Option Nat → List Char → Option (List Char × List Char)
  | _, _, [] => none
  | .plain, pending, c :: rest =>
    if c = '"' then some (flush pending, rest)
    else if c = '\\' then readString .escape pending rest
    else if c.toNat < 32 then none
    else prepend (flush pending ++ [c]) (readString .plain none rest)
  | .escape, pending, c :: rest =>
    if c = 'u' then readString (.hex 4 0) pending rest
    else
      match unescape c with
      | none => none
      | some rune => prepend (flush pending ++ [rune]) (readString .plain none rest)
  | .hex digits code, pending, c :: rest =>
    match hexValue c with
    | none => none
    | some value =>
      if digits ≤ 1 then
        prepend (addCode pending (16 * code + value)).1
          (readString .plain (addCode pending (16 * code + value)).2 rest)
      else readString (.hex (digits - 1) (16 * code + value)) pending rest

theorem unescape_shortEscape {c letter : Char} (short : shortEscape c = some letter) :
    unescape letter = some c ∧ letter ≠ 'u' := by
  unfold shortEscape at short
  split_ifs at short with h₁ h₂ h₃ h₄ h₅ h₆ h₇
  all_goals
    cases short
    subst c
    decide

theorem addCode_rune (c : Char) : addCode none c.toNat = ([c], none) := by
  have valid := c.valid
  have low : lowSurrogate c.toNat = false := by
    simp only [lowSurrogate, Bool.and_eq_false_iff, decide_eq_false_iff_not]
    rcases valid with below | above
    · left
      change ¬ 0xDC00 ≤ c.val.toNat
      omega
    · right
      change ¬ c.val.toNat < 0xE000
      omega
  have high : highSurrogate c.toNat = false := by
    simp only [highSurrogate, Bool.and_eq_false_iff, decide_eq_false_iff_not]
    rcases valid with below | above
    · left
      change ¬ 0xD800 ≤ c.val.toNat
      omega
    · right
      change ¬ c.val.toNat < 0xDC00
      omega
  simp [addCode, low, high, flush]

theorem readString_hexEscape (c : Char) (basic : c.toNat < 65536) (more : List Char) :
    readString .plain none (hexEscape c.toNat ++ more) = prepend [c] (readString .plain none more) := by
  have value {n : Nat} (small : n < 16) : hexValue (hexDigit lowerhex n) = some n :=
    hexValue_hexDigit (.inl rfl) small
  have first := value (show c.toNat / 4096 < 16 by omega)
  have second := value (show c.toNat / 256 % 16 < 16 by omega)
  have third := value (show c.toNat / 16 % 16 < 16 by omega)
  have fourth := value (show c.toNat % 16 < 16 by omega)
  have code : 16 * (16 * (16 * (c.toNat / 4096) + c.toNat / 256 % 16) + c.toNat / 16 % 16) +
      c.toNat % 16 = c.toNat := by
    omega
  simp only [hexEscape, List.cons_append, List.nil_append, readString, first, second, third,
    fourth]
  simp [code, addCode_rune]

theorem readString_quoteRune (c : Char) (more : List Char) :
    readString .plain none (quoteRune c ++ more) = prepend [c] (readString .plain none more) := by
  unfold quoteRune
  cases short : shortEscape c with
  | some letter =>
    obtain ⟨back, other⟩ := unescape_shortEscape short
    simp [readString, back, other, flush]
  | none =>
    dsimp only
    cases escaped : escapedRune c with
    | true =>
      have basic : c.toNat < 65536 := by
        simp only [escapedRune, Bool.or_eq_true, decide_eq_true_eq, beq_iff_eq] at escaped
        rcases escaped with ((((below | rfl) | rfl) | rfl) | rfl) | rfl
        · omega
        all_goals decide
      exact readString_hexEscape c basic more
    | false =>
      have printed : ¬ c.toNat < 32 := by
        intro below
        simp [escapedRune, below] at escaped
      have noQuote : c ≠ '"' := by rintro rfl; cases short
      have noBackslash : c ≠ '\\' := by rintro rfl; cases short
      simp [readString, printed, noQuote, noBackslash, flush]

theorem readString_quoted (text rest : List Char) :
    readString .plain none (text.flatMap quoteRune ++ '"' :: rest) = some (text, rest) := by
  induction text with
  | nil => rfl
  | cons c text ih =>
    rw [List.flatMap_cons, List.append_assoc, readString_quoteRune, ih]
    rfl

theorem readString_shorter (reading : Reading) (pending : Option Nat) (input text rest : List Char)
    (done : readString reading pending input = some (text, rest)) : rest.length < input.length := by
  induction input generalizing reading pending text with
  | nil => cases reading <;> cases done
  | cons c input ih =>
    have behind : ∀ {front : List Char} {reading : Reading} {pending : Option Nat},
        prepend front (readString reading pending input) = some (text, rest) →
          rest.length < (c :: input).length := by
      intro front reading pending later
      cases inner : readString reading pending input with
      | none => rw [inner] at later; cases later
      | some pair =>
        rw [inner] at later
        cases later
        exact Nat.lt_succ_of_lt (ih _ _ _ inner)
    cases reading with
    | plain =>
      simp only [readString] at done
      split_ifs at done
      · cases done
        exact Nat.lt_succ_self _
      · exact Nat.lt_succ_of_lt (ih _ _ _ done)
      · exact behind done
    | escape =>
      simp only [readString] at done
      split_ifs at done
      · exact Nat.lt_succ_of_lt (ih _ _ _ done)
      · split at done
        · cases done
        · exact behind done
    | hex digits code =>
      simp only [readString] at done
      split at done
      · cases done
      · split_ifs at done
        · exact behind done
        · exact Nat.lt_succ_of_lt (ih _ _ _ done)

end Strings

section Numbers

inductive NumberState where
  | start
  | minus
  | zero
  | digits
  | point
  | fraction
  | exponent
  | exponentSign
  | exponentDigits
  deriving DecidableEq, Repr

def isDigit (c : Char) : Bool := 48 ≤ c.toNat && c.toNat ≤ 57

def isExponent (c : Char) : Bool := c == 'e' || c == 'E'

def nextNumber : NumberState → Char → Option NumberState
  | .start, c =>
    if c = '-' then some .minus else if c = '0' then some .zero
    else if isDigit c then some .digits else none
  | .minus, c => if c = '0' then some .zero else if isDigit c then some .digits else none
  | .zero, c => if c = '.' then some .point else if isExponent c then some .exponent else none
  | .digits, c =>
    if isDigit c then some .digits else if c = '.' then some .point
    else if isExponent c then some .exponent else none
  | .point, c => if isDigit c then some .fraction else none
  | .fraction, c =>
    if isDigit c then some .fraction else if isExponent c then some .exponent else none
  | .exponent, c =>
    if c = '+' ∨ c = '-' then some .exponentSign
    else if isDigit c then some .exponentDigits else none
  | .exponentSign, c => if isDigit c then some .exponentDigits else none
  | .exponentDigits, c => if isDigit c then some .exponentDigits else none

def endsNumber : NumberState → Bool
  | .zero | .digits | .fraction | .exponentDigits => true
  | _ => false

def readNumber : NumberState → List Char → Option (List Char × List Char)
  | state, [] => if endsNumber state then some ([], []) else none
  | state, c :: rest =>
    match nextNumber state c with
    | some next => prepend [c] (readNumber next rest)
    | none => if endsNumber state then some ([], c :: rest) else none

def validNumber (literal : List Char) : Bool := readNumber .start literal == some (literal, [])

def Stops : List Char → Prop
  | [] => True
  | c :: _ => isDigit c = false ∧ isExponent c = false ∧ c ≠ '.' ∧ c ≠ '+' ∧ c ≠ '-'

theorem nextNumber_stops {c : Char} {rest : List Char} (stops : Stops (c :: rest))
    (state : NumberState) : nextNumber state c = none := by
  obtain ⟨digit, exponent, point, plus, minus⟩ := stops
  have zero : c ≠ '0' := by
    rintro rfl
    cases digit
  cases state <;> simp [nextNumber, digit, exponent, point, plus, minus, zero]

theorem readNumber_append {state : NumberState} {literal rest : List Char}
    (whole : readNumber state literal = some (literal, [])) (stops : Stops rest) :
    readNumber state (literal ++ rest) = some (literal, rest) := by
  induction literal generalizing state with
  | nil =>
    have ends : endsNumber state = true := by
      by_contra unfinished
      simp [readNumber, unfinished] at whole
    cases rest with
    | nil => exact whole
    | cons c rest => simp [readNumber, nextNumber_stops stops, ends]
  | cons c literal ih =>
    cases next : nextNumber state c with
    | none => simp [readNumber, next] at whole
    | some later =>
      have inner : readNumber later literal = some (literal, []) := by
        simp only [readNumber, next] at whole
        cases read : readNumber later literal with
        | none => rw [read] at whole; cases whole
        | some pair =>
          rw [read] at whole
          simpa [prepend, Prod.ext_iff] using whole
      simp [readNumber, next, ih inner, prepend]

theorem validNumber_append {literal rest : List Char} (valid : validNumber literal = true)
    (stops : Stops rest) : readNumber .start (literal ++ rest) = some (literal, rest) :=
  readNumber_append (beq_iff_eq.mp valid) stops

theorem readNumber_shorter {state : NumberState} {input literal rest : List Char}
    (done : readNumber state input = some (literal, rest)) :
    rest.length ≤ input.length ∧ (endsNumber state = false → rest.length < input.length) := by
  induction input generalizing state literal with
  | nil =>
    simp only [readNumber] at done
    split_ifs at done with ends
    cases done
    exact ⟨Nat.le_refl _, fun unfinished => by rw [ends] at unfinished; cases unfinished⟩
  | cons c input ih =>
    simp only [readNumber] at done
    cases next : nextNumber state c with
    | none =>
      simp only [next] at done
      split_ifs at done with ends
      cases done
      exact ⟨Nat.le_refl _, fun unfinished => by rw [ends] at unfinished; cases unfinished⟩
    | some later =>
      simp only [next] at done
      cases read : readNumber later input with
      | none => rw [read] at done; cases done
      | some pair =>
        rw [read] at done
        cases done
        have shorter := (ih read).1
        exact ⟨Nat.le_succ_of_le shorter, fun _ => Nat.lt_succ_of_le shorter⟩

end Numbers

section Values

def isSpace (c : Char) : Bool := c == ' ' || c == '\t' || c == '\r' || c == '\n'

def skipSpace (input : List Char) : List Char := input.dropWhile isSpace

def maxNestingDepth : Nat := 10000

def expect : List Char → List Char → Option (List Char)
  | [], input => some input
  | _ :: _, [] => none
  | c :: word, d :: input => if c = d then expect word input else none

mutual

/-- One value off the front. The depth is how many brackets may still be opened; the fuel
    bounds the recursion alone. -/
def readValue : Nat → Nat → List Char → Option (Json × List Char)
  | 0, _, _ => none
  | fuel + 1, depth, input =>
    match skipSpace input with
    | [] => none
    | c :: rest =>
      if c = '"' then
        (readString .plain none rest).map fun r => (.str (String.ofList r.1), r.2)
      else if c = '[' then
        if depth = 0 then none
        else
          match skipSpace rest with
          | ']' :: closed => some (.arr [], closed)
          | _ => (readItems fuel (depth - 1) rest).map fun r => (.arr r.1, r.2)
      else if c = '\x7b' then
        if depth = 0 then none
        else
          match skipSpace rest with
          | '\x7d' :: closed => some (.obj [], closed)
          | _ => (readMembers fuel (depth - 1) rest).map fun r => (.obj r.1, r.2)
      else if c = 't' then (expect ['r', 'u', 'e'] rest).map fun r => (.bool true, r)
      else if c = 'f' then (expect ['a', 'l', 's', 'e'] rest).map fun r => (.bool false, r)
      else if c = 'n' then (expect ['u', 'l', 'l'] rest).map fun r => (.null, r)
      else (readNumber .start (c :: rest)).map fun r => (.num (String.ofList r.1), r.2)

def readItems : Nat → Nat → List Char → Option (List Json × List Char)
  | 0, _, _ => none
  | fuel + 1, depth, input =>
    match readValue fuel depth input with
    | none => none
    | some (j, behind) =>
      match skipSpace behind with
      | ',' :: rest => prepend [j] (readItems fuel depth rest)
      | ']' :: rest => some ([j], rest)
      | _ => none

def readMembers : Nat → Nat → List Char → Option (List (String × Json) × List Char)
  | 0, _, _ => none
  | fuel + 1, depth, input =>
    match skipSpace input with
    | '"' :: opened =>
      match readString .plain none opened with
      | none => none
      | some (key, named) =>
        match skipSpace named with
        | ':' :: bound =>
          match readValue fuel depth bound with
          | none => none
          | some (j, behind) =>
            match skipSpace behind with
            | ',' :: rest => prepend [(String.ofList key, j)] (readMembers fuel depth rest)
            | '\x7d' :: rest => some ([(String.ofList key, j)], rest)
            | _ => none
        | _ => none
    | _ => none

end

mutual

def render : Json → List Char
  | .null => ['n', 'u', 'l', 'l']
  | .bool true => ['t', 'r', 'u', 'e']
  | .bool false => ['f', 'a', 'l', 's', 'e']
  | .num literal => literal.toList
  | .str text => quote text.toList
  | .arr [] => ['[', ']']
  | .arr (j :: rest) => '[' :: (render j ++ renderItems rest)
  | .obj [] => ['\x7b', '\x7d']
  | .obj ((key, j) :: rest) =>
    '\x7b' :: (quote key.toList ++ ':' :: (render j ++ renderMembers rest))

def renderItems : List Json → List Char
  | [] => [']']
  | j :: rest => ',' :: (render j ++ renderItems rest)

def renderMembers : List (String × Json) → List Char
  | [] => ['\x7d']
  | (key, j) :: rest => ',' :: (quote key.toList ++ ':' :: (render j ++ renderMembers rest))

end

mutual

/-- The numbers are numbers and no more brackets are open at once than the depth allows. -/
def fits : Json → Nat → Bool
  | .null, _ => true
  | .bool _, _ => true
  | .num literal, _ => validNumber literal.toList
  | .str _, _ => true
  | .arr _, 0 => false
  | .arr items, depth + 1 => fitsItems items depth
  | .obj _, 0 => false
  | .obj members, depth + 1 => fitsMembers members depth

def fitsItems : List Json → Nat → Bool
  | [], _ => true
  | j :: rest, depth => fits j depth && fitsItems rest depth

def fitsMembers : List (String × Json) → Nat → Bool
  | [], _ => true
  | (_, j) :: rest, depth => fits j depth && fitsMembers rest depth

end

theorem skipSpace_cons {c : Char} (inked : isSpace c = false) (rest : List Char) :
    skipSpace (c :: rest) = c :: rest := by
  simp [skipSpace, inked]

theorem start_validNumber {literal : List Char} (valid : validNumber literal = true) :
    ∃ c rest, literal = c :: rest ∧ (c = '-' ∨ isDigit c = true) := by
  have whole := beq_iff_eq.mp valid
  cases literal with
  | nil => cases whole
  | cons c rest =>
    refine ⟨c, rest, rfl, ?_⟩
    by_contra other
    obtain ⟨minus, digit⟩ := not_or.mp other
    have zero : c ≠ '0' := by
      rintro rfl
      exact digit rfl
    simp [readNumber, nextNumber, minus, digit, zero, endsNumber] at whole

structure Begins (c : Char) : Prop where
  inked : isSpace c = false
  bracket : c ≠ ']'
  brace : c ≠ '\x7d'

theorem begins_number {c : Char} (number : c = '-' ∨ isDigit c = true) :
    Begins c ∧ c ≠ '"' ∧ c ≠ '[' ∧ c ≠ '\x7b' ∧ c ≠ 't' ∧ c ≠ 'f' ∧ c ≠ 'n' := by
  rcases number with rfl | digit
  · exact ⟨⟨by decide, by decide, by decide⟩, by decide⟩
  · have other : ∀ d : Char, isDigit d = false → c ≠ d := by
      rintro d no rfl
      rw [digit] at no
      cases no
    refine ⟨⟨?_, other _ rfl, other _ rfl⟩, other _ rfl, other _ rfl, other _ rfl, other _ rfl,
      other _ rfl, other _ rfl⟩
    simp [isSpace, other ' ' rfl, other '\t' rfl, other '\r' rfl, other '\n' rfl]

theorem render_begins {j : Json} {depth : Nat} (fit : fits j depth = true) :
    ∃ c rest, render j = c :: rest ∧ Begins c := by
  cases j with
  | null => exact ⟨_, _, rfl, ⟨by decide, by decide, by decide⟩⟩
  | bool b => cases b <;> exact ⟨_, _, rfl, ⟨by decide, by decide, by decide⟩⟩
  | num literal =>
    obtain ⟨c, rest, same, number⟩ := start_validNumber (by simpa [fits] using fit)
    exact ⟨c, rest, by rw [render, same], (begins_number number).1⟩
  | str text => exact ⟨_, _, rfl, ⟨by decide, by decide, by decide⟩⟩
  | arr items => cases items <;> exact ⟨_, _, rfl, ⟨by decide, by decide, by decide⟩⟩
  | obj members => cases members <;> exact ⟨_, _, rfl, ⟨by decide, by decide, by decide⟩⟩

theorem stops_renderItems (items : List Json) (rest : List Char) :
    Stops (renderItems items ++ rest) := by
  cases items <;> exact ⟨by decide, by decide, by decide, by decide, by decide⟩

theorem stops_renderMembers (members : List (String × Json)) (rest : List Char) :
    Stops (renderMembers members ++ rest) := by
  cases members with
  | nil => exact ⟨by decide, by decide, by decide, by decide, by decide⟩
  | cons member more => exact ⟨by decide, by decide, by decide, by decide, by decide⟩

theorem readString_quote (text rest : List Char) :
    ∃ behind, quote text ++ rest = '"' :: behind ∧
      readString .plain none behind = some (text, rest) := by
  refine ⟨text.flatMap quoteRune ++ '"' :: rest, ?_, readString_quoted text rest⟩
  simp [quote]

theorem read_number {literal : String} (valid : validNumber literal.toList = true)
    (fuel depth : Nat) {rest : List Char} (stops : Stops rest) :
    readValue (fuel + 1) depth (literal.toList ++ rest) = some (.num literal, rest) := by
  obtain ⟨c, more, same, number⟩ := start_validNumber valid
  obtain ⟨begins, quotation, bracket, brace, t, f, n⟩ := begins_number number
  have read := validNumber_append valid stops
  rw [same] at read ⊢
  rw [List.cons_append] at read ⊢
  simp only [readValue, skipSpace_cons begins.inked, quotation, bracket, brace, t, f, n, if_false,
    read, Option.map_some]
  rw [← same, String.ofList_toList]

theorem read_array {j : Json} {more : List Json} {fuel depth : Nat} {rest : List Char}
    (fit : fits j depth = true)
    (items : readItems fuel depth (render j ++ (renderItems more ++ rest)) = some (j :: more, rest)) :
    readValue (fuel + 1) (depth + 1) (render (.arr (j :: more)) ++ rest) =
      some (.arr (j :: more), rest) := by
  obtain ⟨c, front, starts, begins⟩ := render_begins fit
  have text : render (.arr (j :: more)) ++ rest = '[' :: (render j ++ (renderItems more ++ rest)) := by
    simp [render]
  have ahead : skipSpace (render j ++ (renderItems more ++ rest)) =
      c :: (front ++ (renderItems more ++ rest)) := by
    rw [starts, List.cons_append, skipSpace_cons begins.inked]
  have bracket := begins.bracket
  rw [text, readValue, skipSpace_cons (by decide)]
  simp only [ahead]
  simp [bracket, items]

theorem read_object {key : String} {j : Json} {more : List (String × Json)} {fuel depth : Nat}
    {rest : List Char}
    (members : readMembers fuel depth (quote key.toList ++ ':' :: (render j ++
      (renderMembers more ++ rest))) = some ((key, j) :: more, rest)) :
    readValue (fuel + 1) (depth + 1) (render (.obj ((key, j) :: more)) ++ rest) =
      some (.obj ((key, j) :: more), rest) := by
  obtain ⟨behind, starts, -⟩ := readString_quote key.toList
    (':' :: (render j ++ (renderMembers more ++ rest)))
  have text : render (.obj ((key, j) :: more)) ++ rest =
      '\x7b' :: (quote key.toList ++ ':' :: (render j ++ (renderMembers more ++ rest))) := by
    simp [render]
  have ahead : skipSpace (quote key.toList ++ ':' :: (render j ++ (renderMembers more ++ rest))) =
      '"' :: behind := by
    rw [starts, skipSpace_cons (by decide)]
  rw [text, readValue, skipSpace_cons (by decide)]
  simp only [ahead]
  simp [members]

theorem read_items {j : Json} {behind : List Char} {fuel depth : Nat} {input : List Char}
    (value : readValue fuel depth input = some (j, behind)) :
    readItems (fuel + 1) depth input =
      match skipSpace behind with
      | ',' :: rest => prepend [j] (readItems fuel depth rest)
      | ']' :: rest => some ([j], rest)
      | _ => none := by
  rw [readItems, value]

theorem read_members {key : String} {j : Json} {behind text : List Char} {fuel depth : Nat}
    (value : readValue fuel depth text = some (j, behind)) :
    readMembers (fuel + 1) depth (quote key.toList ++ ':' :: text) =
      match skipSpace behind with
      | ',' :: rest => prepend [(key, j)] (readMembers fuel depth rest)
      | '\x7d' :: rest => some ([(key, j)], rest)
      | _ => none := by
  obtain ⟨opened, starts, named⟩ := readString_quote key.toList (':' :: text)
  rw [readMembers, starts, skipSpace_cons (by decide)]
  simp only [named, skipSpace_cons (show isSpace ':' = false by decide), value,
    String.ofList_toList]

theorem render_positive {j : Json} {depth : Nat} (fit : fits j depth = true) :
    0 < (render j).length := by
  obtain ⟨c, rest, same, -⟩ := render_begins fit
  rw [same]
  exact Nat.succ_pos _

/-- With this much fuel every text that is no longer is read back, whatever stands behind it. -/
structure ReadsBack (fuel : Nat) : Prop where
  value : ∀ (j : Json) (depth : Nat) (rest : List Char), fits j depth = true →
    (render j).length ≤ fuel → Stops rest → readValue fuel depth (render j ++ rest) = some (j, rest)
  items : ∀ (j : Json) (more : List Json) (depth : Nat) (rest : List Char), fits j depth = true →
    fitsItems more depth = true → (render j).length + (renderItems more).length ≤ fuel →
    readItems fuel depth (render j ++ (renderItems more ++ rest)) = some (j :: more, rest)
  members : ∀ (key : String) (j : Json) (more : List (String × Json)) (depth : Nat)
    (rest : List Char), fits j depth = true → fitsMembers more depth = true →
    (quote key.toList).length + ((render j).length + (renderMembers more).length + 1) ≤ fuel →
    readMembers fuel depth (quote key.toList ++ ':' :: (render j ++ (renderMembers more ++ rest))) =
      some ((key, j) :: more, rest)

theorem ReadsBack.value_succ {fuel : Nat} (back : ReadsBack fuel) (j : Json) (depth : Nat)
    (rest : List Char) (fit : fits j depth = true) (enough : (render j).length ≤ fuel + 1)
    (stops : Stops rest) : readValue (fuel + 1) depth (render j ++ rest) = some (j, rest) := by
  match j, depth with
  | .null, _ => simp [render, readValue, skipSpace_cons (show isSpace 'n' = false by decide), expect]
  | .bool true, _ =>
    simp [render, readValue, skipSpace_cons (show isSpace 't' = false by decide), expect]
  | .bool false, _ =>
    simp [render, readValue, skipSpace_cons (show isSpace 'f' = false by decide), expect]
  | .num literal, _ =>
    rw [render]
    exact read_number (by simpa [fits] using fit) fuel _ stops
  | .str text, _ =>
    obtain ⟨behind, starts, read⟩ := readString_quote text.toList rest
    rw [render, starts, readValue, skipSpace_cons (by decide)]
    simp [read]
  | .arr [], depth + 1 =>
    simp [render, readValue, skipSpace_cons (show isSpace '[' = false by decide),
      skipSpace_cons (show isSpace ']' = false by decide)]
  | .arr (j :: more), depth + 1 =>
    simp only [fits, fitsItems, Bool.and_eq_true] at fit
    simp only [render, List.length_cons, List.length_append] at enough
    exact read_array fit.1 (back.items j more depth rest fit.1 fit.2 (by omega))
  | .obj [], depth + 1 =>
    simp [render, readValue, skipSpace_cons (show isSpace '\x7b' = false by decide),
      skipSpace_cons (show isSpace '\x7d' = false by decide)]
  | .obj ((key, j) :: more), depth + 1 =>
    simp only [fits, fitsMembers, Bool.and_eq_true] at fit
    simp only [render, List.length_cons, List.length_append] at enough
    exact read_object (back.members key j more depth rest fit.1 fit.2 (by omega))
  | .arr _, 0 => simp [fits] at fit
  | .obj _, 0 => simp [fits] at fit

theorem ReadsBack.items_succ {fuel : Nat} (back : ReadsBack fuel) (j : Json) (more : List Json)
    (depth : Nat) (rest : List Char) (fit : fits j depth = true)
    (fitMore : fitsItems more depth = true)
    (enough : (render j).length + (renderItems more).length ≤ fuel + 1) :
    readItems (fuel + 1) depth (render j ++ (renderItems more ++ rest)) = some (j :: more, rest) := by
  have short : (render j).length ≤ fuel := by
    have closing : 0 < (renderItems more).length := by cases more <;> simp [renderItems]
    omega
  rw [read_items (back.value j depth _ fit short (stops_renderItems more rest))]
  cases more with
  | nil => simp [renderItems, skipSpace_cons (show isSpace ']' = false by decide)]
  | cons next more =>
    simp only [fitsItems, Bool.and_eq_true] at fitMore
    simp only [renderItems, List.length_cons, List.length_append] at enough
    have later := back.items next more depth rest fitMore.1 fitMore.2 (by omega)
    simp [renderItems, skipSpace_cons (show isSpace ',' = false by decide), later, prepend]

theorem ReadsBack.members_succ {fuel : Nat} (back : ReadsBack fuel) (key : String) (j : Json)
    (more : List (String × Json)) (depth : Nat) (rest : List Char) (fit : fits j depth = true)
    (fitMore : fitsMembers more depth = true)
    (enough : (quote key.toList).length + ((render j).length + (renderMembers more).length + 1) ≤
      fuel + 1) :
    readMembers (fuel + 1) depth
        (quote key.toList ++ ':' :: (render j ++ (renderMembers more ++ rest))) =
      some ((key, j) :: more, rest) := by
  have opening : 0 < (quote key.toList).length := Nat.succ_pos _
  rw [read_members (back.value j depth _ fit (by omega) (stops_renderMembers more rest))]
  cases more with
  | nil => simp [renderMembers, skipSpace_cons (show isSpace '\x7d' = false by decide)]
  | cons next more =>
    obtain ⟨nextKey, next⟩ := next
    simp only [fitsMembers, Bool.and_eq_true] at fitMore
    simp only [renderMembers, List.length_cons, List.length_append] at enough
    have later := back.members nextKey next more depth rest fitMore.1 fitMore.2 (by omega)
    simp [renderMembers, skipSpace_cons (show isSpace ',' = false by decide), later, prepend]

theorem readsBack (fuel : Nat) : ReadsBack fuel := by
  induction fuel with
  | zero =>
    constructor
    · intro j depth rest fit enough
      have positive := render_positive fit
      omega
    · intro j more depth rest fit _ enough
      have positive := render_positive fit
      omega
    · intro key j more depth rest _ _ enough
      omega
  | succ fuel back => exact ⟨back.value_succ, back.items_succ, back.members_succ⟩

theorem skipSpace_le (input : List Char) : (skipSpace input).length ≤ input.length :=
  (List.dropWhile_sublist isSpace).length_le

theorem skipSpace_cons_lt {input rest : List Char} {c : Char}
    (ahead : skipSpace input = c :: rest) : rest.length < input.length := by
  have bound := skipSpace_le input
  rw [ahead] at bound
  exact bound

theorem expect_le {word input rest : List Char} (done : expect word input = some rest) :
    rest.length ≤ input.length := by
  induction word generalizing input with
  | nil => cases done; exact Nat.le_refl _
  | cons c word ih =>
    cases input with
    | nil => cases done
    | cons d input =>
      simp only [expect] at done
      split_ifs at done
      exact Nat.le_succ_of_le (ih done)

structure Shortens (fuel : Nat) : Prop where
  value : ∀ {depth : Nat} {input : List Char} {r : Json × List Char},
    readValue fuel depth input = some r → r.2.length < input.length
  items : ∀ {depth : Nat} {input : List Char} {r : List Json × List Char},
    readItems fuel depth input = some r → r.2.length < input.length
  members : ∀ {depth : Nat} {input : List Char} {r : List (String × Json) × List Char},
    readMembers fuel depth input = some r → r.2.length < input.length

theorem prepend_some {α : Type} {front : List α} {read : Option (List α × List Char)}
    {r : List α × List Char} (done : prepend front read = some r) :
    ∃ text, read = some (text, r.2) := by
  cases read with
  | none => cases done
  | some pair => cases done; exact ⟨_, rfl⟩

theorem Shortens.value_succ {fuel : Nat} (shorter : Shortens fuel) {depth : Nat} {input : List Char}
    {r : Json × List Char} (done : readValue (fuel + 1) depth input = some r) :
    r.2.length < input.length := by
  rw [readValue] at done
  split at done
  · cases done
  rename_i c rest ahead
  have bound := skipSpace_cons_lt ahead
  split_ifs at done
  · obtain ⟨text, read, rfl⟩ := Option.map_eq_some_iff.mp done
    exact (readString_shorter _ _ _ _ _ read).trans bound
  · split at done
    · rename_i closed close
      cases done
      exact (skipSpace_cons_lt close).trans bound
    · obtain ⟨items, read, rfl⟩ := Option.map_eq_some_iff.mp done
      exact (shorter.items read).trans bound
  · split at done
    · rename_i closed close
      cases done
      exact (skipSpace_cons_lt close).trans bound
    · obtain ⟨members, read, rfl⟩ := Option.map_eq_some_iff.mp done
      exact (shorter.members read).trans bound
  · obtain ⟨behind, read, rfl⟩ := Option.map_eq_some_iff.mp done
    exact (expect_le read).trans_lt bound
  · obtain ⟨behind, read, rfl⟩ := Option.map_eq_some_iff.mp done
    exact (expect_le read).trans_lt bound
  · obtain ⟨behind, read, rfl⟩ := Option.map_eq_some_iff.mp done
    exact (expect_le read).trans_lt bound
  · obtain ⟨literal, read, rfl⟩ := Option.map_eq_some_iff.mp done
    exact ((readNumber_shorter read).2 rfl).trans_le bound

theorem Shortens.items_succ {fuel : Nat} (shorter : Shortens fuel) {depth : Nat} {input : List Char}
    {r : List Json × List Char} (done : readItems (fuel + 1) depth input = some r) :
    r.2.length < input.length := by
  rw [readItems] at done
  split at done
  · cases done
  rename_i j behind read
  have bound := shorter.value read
  split at done
  · rename_i rest ahead
    obtain ⟨more, later⟩ := prepend_some done
    exact (shorter.items later).trans ((skipSpace_cons_lt ahead).trans bound)
  · rename_i rest ahead
    cases done
    exact (skipSpace_cons_lt ahead).trans bound
  · cases done

theorem Shortens.members_succ {fuel : Nat} (shorter : Shortens fuel) {depth : Nat}
    {input : List Char} {r : List (String × Json) × List Char}
    (done : readMembers (fuel + 1) depth input = some r) : r.2.length < input.length := by
  rw [readMembers] at done
  split at done
  case h_2 => cases done
  rename_i opened start
  split at done
  · cases done
  rename_i key named quoted
  have bound := (readString_shorter _ _ _ _ _ quoted).trans (skipSpace_cons_lt start)
  split at done
  case h_2 => cases done
  rename_i text colon
  split at done
  · cases done
  rename_i j behind read
  have inner := (shorter.value read).trans ((skipSpace_cons_lt colon).trans bound)
  split at done
  · rename_i rest ahead
    obtain ⟨more, later⟩ := prepend_some done
    exact (shorter.members later).trans ((skipSpace_cons_lt ahead).trans inner)
  · rename_i rest ahead
    cases done
    exact (skipSpace_cons_lt ahead).trans inner
  · cases done

theorem shortens (fuel : Nat) : Shortens fuel := by
  induction fuel with
  | zero =>
    constructor
    all_goals
      intro depth input r done
      cases done
  | succ fuel shorter => exact ⟨shorter.value_succ, shorter.items_succ, shorter.members_succ⟩

/-- More fuel changes nothing for inputs of half the length. -/
structure Settles (fuel : Nat) : Prop where
  value : ∀ (depth : Nat) (input : List Char), 2 * input.length < fuel →
    readValue (fuel + 1) depth input = readValue fuel depth input
  items : ∀ (depth : Nat) (input : List Char), 2 * input.length + 1 < fuel →
    readItems (fuel + 1) depth input = readItems fuel depth input
  members : ∀ (depth : Nat) (input : List Char), 2 * input.length + 1 < fuel →
    readMembers (fuel + 1) depth input = readMembers fuel depth input

theorem Settles.value_succ {fuel : Nat} (settles : Settles fuel) (depth : Nat) (input : List Char)
    (enough : 2 * input.length < fuel + 1) :
    readValue (fuel + 2) depth input = readValue (fuel + 1) depth input := by
  rw [readValue, readValue]
  split
  · rfl
  rename_i c rest ahead
  have bound := skipSpace_cons_lt ahead
  rw [settles.items (depth - 1) rest (by omega), settles.members (depth - 1) rest (by omega)]

theorem Settles.items_succ {fuel : Nat} (settles : Settles fuel) (depth : Nat) (input : List Char)
    (enough : 2 * input.length + 1 < fuel + 1) :
    readItems (fuel + 2) depth input = readItems (fuel + 1) depth input := by
  rw [readItems, readItems, settles.value depth input (by omega)]
  split
  · rfl
  rename_i j behind read
  have bound : behind.length < input.length := (shortens fuel).value read
  split
  · rename_i rest ahead
    have inner := skipSpace_cons_lt ahead
    rw [settles.items depth rest (by omega)]
  · rfl
  · rfl

theorem Settles.members_succ {fuel : Nat} (settles : Settles fuel) (depth : Nat) (input : List Char)
    (enough : 2 * input.length + 1 < fuel + 1) :
    readMembers (fuel + 2) depth input = readMembers (fuel + 1) depth input := by
  rw [readMembers, readMembers]
  split
  case h_2 => rfl
  rename_i opened start
  split
  · rfl
  rename_i key named quoted
  have bound := (readString_shorter _ _ _ _ _ quoted).trans (skipSpace_cons_lt start)
  split
  case h_2 => rfl
  rename_i text colon
  have shorter := skipSpace_cons_lt colon
  rw [settles.value depth text (by omega)]
  split
  · rfl
  rename_i j behind read
  have taken : behind.length < text.length := (shortens fuel).value read
  split
  · rename_i rest ahead
    have inner := skipSpace_cons_lt ahead
    rw [settles.members depth rest (by omega)]
  · rfl
  · rfl

theorem settles (fuel : Nat) : Settles fuel := by
  induction fuel with
  | zero =>
    constructor
    all_goals
      intro depth input enough
      omega
  | succ fuel settles => exact ⟨settles.value_succ, settles.items_succ, settles.members_succ⟩

theorem readValue_settled {fuel : Nat} (depth : Nat) {input : List Char}
    (enough : 2 * input.length < fuel) :
    readValue fuel depth input = readValue (2 * input.length + 1) depth input := by
  obtain ⟨extra, rfl⟩ := Nat.exists_eq_add_of_le enough
  induction extra with
  | zero => rfl
  | succ extra ih =>
    rw [← ih (by omega)]
    exact (settles (2 * input.length + 1 + extra)).value depth input (by omega)

end Values

section Texts

theorem fits_succ {j : Json} {depth : Nat} (fit : fits j depth = true) :
    fits j (depth + 1) = true := by
  induction depth generalizing j with
  | zero => cases j <;> simp_all [fits]
  | succ depth ih =>
    cases j with
    | arr items =>
      simp only [fits] at fit ⊢
      induction items with
      | nil => rfl
      | cons j items more =>
        simp only [fitsItems, Bool.and_eq_true] at fit ⊢
        exact ⟨ih fit.1, more fit.2⟩
    | obj members =>
      simp only [fits] at fit ⊢
      induction members with
      | nil => rfl
      | cons member members more =>
        simp only [fitsMembers, Bool.and_eq_true] at fit ⊢
        exact ⟨ih fit.1, more fit.2⟩
    | _ => simp_all [fits]

theorem fits_mono {j : Json} {depth deeper : Nat} (fit : fits j depth = true)
    (more : depth ≤ deeper) : fits j deeper = true := by
  induction more with
  | refl => exact fit
  | step _ ih => exact fits_succ ih

def decodeNext (input : List Char) : Option (Json × List Char) :=
  readValue (2 * input.length + 1) maxNestingDepth input

/-- Unmarshal accepts one value with nothing but space around it. -/
def parse (input : List Char) : Option Json :=
  match decodeNext input with
  | some (j, rest) => if skipSpace rest = [] then some j else none
  | none => none

theorem decodeNext_fuel {fuel : Nat} {input : List Char} (enough : 2 * input.length < fuel) :
    decodeNext input = readValue fuel maxNestingDepth input :=
  (readValue_settled maxNestingDepth enough).symm

theorem decodeNext_render {j : Json} (fit : fits j maxNestingDepth = true) {rest : List Char}
    (stops : Stops rest) : decodeNext (render j ++ rest) = some (j, rest) := by
  apply (readsBack _).value j maxNestingDepth rest fit _ stops
  simp only [List.length_append]
  omega

theorem parse_render {j : Json} (fit : fits j maxNestingDepth = true) :
    parse (render j) = some j := by
  have whole : decodeNext (render j) = some (j, []) := by
    simpa using @decodeNext_render j fit [] trivial
  simp [parse, whole, skipSpace]

end Texts

end GoJsonText
