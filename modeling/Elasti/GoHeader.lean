import Mathlib

/- Header maps of net/http. A key is kept in its canonical form: a capital letter at the start
   and after each hyphen, if all its characters may stand in a header name. -/
namespace GoHeader

/-- A header maps a key to its values; a key it does not have gives none. -/
abbrev Header := List Char → List (List Char)

/-- The token characters besides letters and digits: !#$%&'*+-.^_ the backquote, | and ~. -/
def tokenMarks : List Nat :=
  [0x21, 0x23, 0x24, 0x25, 0x26, 0x27, 0x2a, 0x2b, 0x2d, 0x2e, 0x5e, 0x5f, 0x60, 0x7c, 0x7e]

def validHeaderFieldByte (c : Char) : Bool :=
  ('a' ≤ c && c ≤ 'z') || ('A' ≤ c && c ≤ 'Z') || ('0' ≤ c && c ≤ '9') ||
    tokenMarks.contains c.toNat

def recase (upper : Bool) (c : Char) : Char := if upper then c.toUpper else c.toLower

def casedKey : Bool → List Char → List Char
  | _, [] => []
  | upper, c :: rest => recase upper c :: casedKey (c == '-') rest

def canonicalMIMEHeaderKey (s : List Char) : List Char :=
  if s.all validHeaderFieldByte then casedKey true s else s

def values (h : Header) (key : List Char) : List (List Char) := h (canonicalMIMEHeaderKey key)

def get (h : Header) (key : List Char) : List Char := (values h key).headD []

def set (key value : List Char) (h : Header) : Header :=
  Function.update h (canonicalMIMEHeaderKey key) [value]

def del (key : List Char) (h : Header) : Header := Function.update h (canonicalMIMEHeaderKey key) []

theorem lt_of_valid {c : Char} (valid : validHeaderFieldByte c = true) : c.toNat < 128 := by
  simp only [validHeaderFieldByte, tokenMarks, Bool.or_eq_true, Bool.and_eq_true,
    decide_eq_true_eq, List.contains_iff_mem, List.mem_cons, List.not_mem_nil, or_false] at valid
  have code {d : Char} (upTo : c ≤ d) : c.toNat ≤ d.toNat := UInt32.le_iff_toNat_le.mp upTo
  rcases valid with (((small | capital) | digit) | mark)
  · exact Nat.lt_of_le_of_lt (code small.2) (by decide)
  · exact Nat.lt_of_le_of_lt (code capital.2) (by decide)
  · exact Nat.lt_of_le_of_lt (code digit.2) (by decide)
  · omega

theorem recase_ascii : ∀ n < 128, ∀ upper : Bool,
    validHeaderFieldByte (recase upper (Char.ofNat n)) = validHeaderFieldByte (Char.ofNat n) ∧
      (recase upper (Char.ofNat n) == '-') = (Char.ofNat n == '-') ∧
      recase upper (recase upper (Char.ofNat n)) = recase upper (Char.ofNat n) := by
  decide +kernel

theorem recase_valid {c : Char} (valid : validHeaderFieldByte c = true) (upper : Bool) :
    validHeaderFieldByte (recase upper c) = true ∧ (recase upper c == '-') = (c == '-') ∧
      recase upper (recase upper c) = recase upper c := by
  have checked := recase_ascii c.toNat (lt_of_valid valid) upper
  rw [Char.ofNat_toNat, valid] at checked
  exact checked

theorem casedKey_valid {s : List Char} (valid : ∀ c ∈ s, validHeaderFieldByte c = true)
    (upper : Bool) :
    (∀ c ∈ casedKey upper s, validHeaderFieldByte c = true) ∧
      casedKey upper (casedKey upper s) = casedKey upper s := by
  induction s generalizing upper with
  | nil => exact ⟨fun c member => absurd member List.not_mem_nil, rfl⟩
  | cons c rest ih =>
    obtain ⟨kept, hyphen, again⟩ := recase_valid (valid c List.mem_cons_self) upper
    obtain ⟨rest_kept, rest_again⟩ :=
      ih (fun d member => valid d (List.mem_cons_of_mem c member)) (c == '-')
    constructor
    · intro d member
      rcases List.mem_cons.mp member with rfl | later
      · exact kept
      · exact rest_kept d later
    · simp only [casedKey, hyphen, again, rest_again]

theorem canonicalMIMEHeaderKey_idem (s : List Char) :
    canonicalMIMEHeaderKey (canonicalMIMEHeaderKey s) = canonicalMIMEHeaderKey s := by
  cases valid : s.all validHeaderFieldByte with
  | false => simp [canonicalMIMEHeaderKey, valid]
  | true =>
    obtain ⟨kept, again⟩ := casedKey_valid (List.all_eq_true.mp valid) true
    simp only [canonicalMIMEHeaderKey, valid, if_true, List.all_eq_true.mpr kept, again]

theorem values_canonical (h : Header) (key : List Char) :
    values h (canonicalMIMEHeaderKey key) = values h key := by
  rw [values, canonicalMIMEHeaderKey_idem, values]

theorem set_apply (key value : List Char) (h : Header) (other : List Char) :
    set key value h other = if other = canonicalMIMEHeaderKey key then [value] else h other := by
  rw [set, Function.update_apply]

theorem dels_apply (keys : List (List Char)) (h : Header) (other : List Char) :
    keys.foldl (fun h key => del key h) h other =
      if other ∈ keys.map canonicalMIMEHeaderKey then [] else h other := by
  induction keys generalizing h with
  | nil => rfl
  | cons key keys ih =>
    rw [List.foldl_cons, ih, del, Function.update_apply]
    by_cases later : other ∈ keys.map canonicalMIMEHeaderKey
    · simp [later]
    · by_cases same : other = canonicalMIMEHeaderKey key
      · simp [same]
      · simp [later, same]

end GoHeader
