import Elasti.GoStrings
import Elasti.GoURL
import Elasti.Segments

/- Percent-decoding as in net/url, and the parameters of a query. A decoded text is a list of
   bytes. -/
namespace GoQuery
open GoStrings GoURL Segments

/-- PathUnescape, and QueryUnescape if a plus stands for a space. The error is the malformed
    escape. -/
def unescape (plusIsSpace : Bool) : List Char → Except (List Char) (List UInt8)
  | [] => .ok []
  | c :: rest =>
    if c = '%' then
      match rest with
      | hi :: lo :: rest =>
        match hexValue hi, hexValue lo with
        | some h, some l => (unescape plusIsSpace rest).map (UInt8.ofNat (16 * h + l) :: ·)
        | _, _ => .error ['%', hi, lo]
      | short => .error ('%' :: short)
    else if c = '+' ∧ plusIsSpace then (unescape plusIsSpace rest).map (0x20 :: ·)
    else (unescape plusIsSpace rest).map (String.utf8EncodeChar c ++ ·)

def parsePair (piece : List Char) : Option (List UInt8 × List UInt8) :=
  if ';' ∈ piece ∨ piece = [] then none
  else
    match unescape true (upTo '=' piece), unescape true (after '=' piece) with
    | .ok key, .ok value => some (key, value)
    | _, _ => none

def parameters (rawQuery : List Char) : List (List UInt8 × List UInt8) :=
  (rawQuery.splitOn '&').filterMap parsePair

variable (plusIsSpace : Bool)

theorem unescape_percent {hi lo : Char} {h l : Nat} (high : hexValue hi = some h)
    (low : hexValue lo = some l) (rest : List Char) :
    unescape plusIsSpace ('%' :: hi :: lo :: rest) =
      (unescape plusIsSpace rest).map (UInt8.ofNat (16 * h + l) :: ·) := by
  simp [unescape, high, low]

theorem unescape_ascii {c : Char} (ascii : c.toNat < 128) (percent : c ≠ '%') (plus : c ≠ '+')
    (rest : List Char) :
    unescape plusIsSpace (c :: rest) =
      (unescape plusIsSpace rest).map (UInt8.ofNat c.toNat :: ·) := by
  have one : String.utf8EncodeChar c = [UInt8.ofNat c.toNat] := if_pos (Nat.le_of_lt_succ ascii)
  rw [unescape.eq_def]
  simp [percent, plus, one]

variable {plusIsSpace}

theorem unescape_flatMap {piece : UInt8 → List Char}
    (each : ∀ b rest, unescape plusIsSpace (piece b ++ rest) =
      (unescape plusIsSpace rest).map (b :: ·)) (bs : List UInt8) :
    unescape plusIsSpace (bs.flatMap piece) = .ok bs := by
  induction bs with
  | nil => rfl
  | cons b bs ih =>
    rw [List.flatMap_cons, each, ih]
    rfl

def asciiBytes (s : List Char) : List UInt8 := s.map fun c => UInt8.ofNat c.toNat

theorem unescape_plain {s : List Char} (plain : ∀ c ∈ s, c.toNat < 128 ∧ c ≠ '%' ∧ c ≠ '+') :
    unescape plusIsSpace s = .ok (asciiBytes s) := by
  induction s with
  | nil => rfl
  | cons c s ih =>
    obtain ⟨⟨ascii, percent, plus⟩, rest⟩ := List.forall_mem_cons.mp plain
    rw [unescape_ascii plusIsSpace ascii percent plus, ih rest]
    rfl

theorem parsePair_ok {key value : List Char} {k v : List UInt8} (no_equals : '=' ∉ key)
    (no_semicolon : ';' ∉ key ++ '=' :: value) (read_key : unescape true key = .ok k)
    (read_value : unescape true value = .ok v) : parsePair (key ++ '=' :: value) = some (k, v) := by
  have name : upTo '=' (key ++ '=' :: value) = key := by
    rw [upTo_append_sep, upTo_of_not_mem no_equals]
  have text : after '=' (key ++ '=' :: value) = value := by
    rw [after_append no_equals, after_cons, if_pos rfl]
  have given : ¬ (';' ∈ key ++ '=' :: value ∨ key ++ '=' :: value = []) := by
    rintro (semicolon | nothing)
    · exact no_semicolon semicolon
    · simp at nothing
  rw [parsePair, if_neg given, name, text, read_key, read_value]

theorem parameters_cons {piece : List Char} {pair : List UInt8 × List UInt8}
    (no_ampersand : '&' ∉ piece) (read : parsePair piece = some pair) (more : List Char) :
    parameters (piece ++ '&' :: more) = pair :: parameters more := by
  rw [parameters, segments_cons no_ampersand, List.filterMap_cons, read]
  rfl

theorem parameters_last {piece : List Char} {pair : List UInt8 × List UInt8}
    (no_ampersand : '&' ∉ piece) (read : parsePair piece = some pair) :
    parameters piece = [pair] := by
  rw [parameters, List.splitOn_eq_singleton no_ampersand]
  simp [read]

end GoQuery
