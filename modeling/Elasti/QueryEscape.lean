import Elasti.GoQuery
import Elasti.Prometheus

/- The query in the URL of a Prometheus request: url.QueryEscape and then every plus replaced,
   so that it is read back alike whether or not a plus means a space. -/
namespace QueryEscape
open GoURL GoQuery GoStrings
open PrometheusQuery (unreserved escapeByte urlQueryEscape queryEscape Query queryRequest)

def piece (b : UInt8) : List Char :=
  if b == 0x20 then ['%', '2', '0']
  else if unreserved b then [Char.ofNat b.toNat]
  else ['%', hexDigit upperhex (b.toNat / 16), hexDigit upperhex (b.toNat % 16)]

theorem unreserved_code : ∀ n < 256, unreserved (UInt8.ofNat n) = true →
    n < 128 ∧ Char.ofNat n ∉ ['%', '+', '&', '#', '=', ' ', ';'] := by
  decide +kernel

theorem unreserved_char {b : UInt8} (plain : unreserved b = true) :
    b.toNat < 128 ∧ Char.ofNat b.toNat ∉ ['%', '+', '&', '#', '=', ' ', ';'] := by
  refine unreserved_code b.toNat b.toNat_lt ?_
  rw [UInt8.ofNat_toNat]
  exact plain

theorem hexDigit_cases {n : Nat} (small : n < 16) :
    hexValue (hexDigit upperhex n) = some n ∧
      hexDigit upperhex n ∉ ['%', '+', '&', '#', '=', ' ', ';'] := by
  refine ⟨hexValue_hexDigit (.inr rfl) small, ?_⟩
  interval_cases n <;> decide

theorem halves_small (b : UInt8) : b.toNat / 16 < 16 ∧ b.toNat % 16 < 16 := by
  have bound := b.toNat_lt
  omega

theorem piece_eq (b : UInt8) :
    ((escapeByte b).flatMap fun c => if c = '+' then ['%', '2', '0'] else [c]) = piece b := by
  -- the replacement meets no plus but the one that stands for a space
  have high := (hexDigit_cases (halves_small b).1).2
  have low := (hexDigit_cases (halves_small b).2).2
  simp only [List.mem_cons, not_or] at high low
  cases space : b == 0x20 with
  | true => simp [escapeByte, piece, space]
  | false =>
    cases plain : unreserved b with
    | true =>
      have char := (unreserved_char plain).2
      simp only [List.mem_cons, not_or] at char
      simp [escapeByte, piece, space, plain, char.2.1]
    | false => simp [escapeByte, piece, space, plain, high.2.1, low.2.1]

theorem queryEscape_eq (query : List UInt8) : queryEscape query = query.flatMap piece := by
  rw [queryEscape, urlQueryEscape, List.flatMap_assoc]
  simp only [piece_eq]

theorem unescape_piece (plusIsSpace : Bool) (b : UInt8) (rest : List Char) :
    unescape plusIsSpace (piece b ++ rest) = (unescape plusIsSpace rest).map (b :: ·) := by
  rw [piece]
  by_cases space : b = 0x20
  · rw [space]
    exact unescape_percent plusIsSpace (h := 2) (l := 0) rfl rfl rest
  · rw [if_neg (by simpa using space)]
    cases plain : unreserved b with
    | true =>
      obtain ⟨ascii, char⟩ := unreserved_char plain
      simp only [List.mem_cons, not_or] at char
      have code : (Char.ofNat b.toNat).toNat = b.toNat := by
        rw [Char.toNat_ofNat]
        exact if_pos (.inl (by omega))
      have read := unescape_ascii plusIsSpace (by rw [code]; exact ascii) char.1 char.2.1 rest
      rw [code, UInt8.ofNat_toNat] at read
      exact read
    | false =>
      have read := unescape_percent plusIsSpace (hexDigit_cases (halves_small b).1).1
        (hexDigit_cases (halves_small b).2).1 rest
      rw [Nat.div_add_mod, UInt8.ofNat_toNat] at read
      exact read

theorem piece_separators (b : UInt8) : ∀ c ∈ piece b, c ∉ ['+', '&', '#', '=', ' ', ';'] := by
  have rest {c : Char} (absent : c ∉ ['%', '+', '&', '#', '=', ' ', ';']) :
      c ∉ ['+', '&', '#', '=', ' ', ';'] := fun found => absent (List.mem_cons_of_mem '%' found)
  intro c member
  rw [piece] at member
  by_cases space : b = 0x20
  · rw [if_pos (by simpa using space)] at member
    simp only [List.mem_cons, List.not_mem_nil, or_false] at member
    rcases member with rfl | rfl | rfl <;> decide
  · rw [if_neg (by simpa using space)] at member
    cases plain : unreserved b with
    | true =>
      rw [plain] at member
      obtain rfl := List.mem_singleton.mp member
      exact rest (unreserved_char plain).2
    | false =>
      rw [plain] at member
      simp only [Bool.false_eq_true, if_false, List.mem_cons, List.not_mem_nil, or_false] at member
      rcases member with rfl | rfl | rfl
      · decide
      · exact rest (hexDigit_cases (halves_small b).1).2
      · exact rest (hexDigit_cases (halves_small b).2).2

theorem queryEscape_separators (query : List UInt8) :
    ∀ c ∈ queryEscape query, c ∉ ['+', '&', '#', '=', ' ', ';'] := by
  intro c member
  rw [queryEscape_eq] at member
  obtain ⟨b, _, inside⟩ := List.mem_flatMap.mp member
  exact piece_separators b c inside

theorem not_mem_queryEscape {c : Char} (separator : c ∈ ['+', '&', '#', '=', ' ', ';'])
    (query : List UInt8) : c ∉ queryEscape query :=
  fun member => queryEscape_separators query c member separator

theorem unescape_queryEscape (plusIsSpace : Bool) (query : List UInt8) :
    unescape plusIsSpace (queryEscape query) = .ok query := by
  rw [queryEscape_eq]
  exact unescape_flatMap (unescape_piece plusIsSpace) query

/-- The query is read back alike by both decoders, and stays one parameter. -/
theorem queryEscape_read_back (query : List UInt8) :
    unescape false (queryEscape query) = .ok query ∧
      unescape true (queryEscape query) = .ok query ∧
      ∀ c ∈ ['&', '#', '=', '+', ' '], c ∉ queryEscape query := by
  refine ⟨unescape_queryEscape false query, unescape_queryEscape true query, ?_⟩
  intro c separator
  refine not_mem_queryEscape ?_ query
  simp only [List.mem_cons, List.not_mem_nil, or_false] at separator
  rcases separator with rfl | rfl | rfl | rfl | rfl <;> decide

example : queryEscape [0x61, 0x20, 0x2b, 0x25] =
    ['a', '%', '2', '0', '%', '2', 'B', '%', '2', '5'] := by decide

def queryName : List Char := ['q', 'u', 'e', 'r', 'y']

def timeName : List Char := ['t', 'i', 'm', 'e']

def apiPath : List Char := ['/', 'a', 'p', 'i', '/', 'v', '1', '/', 'q', 'u', 'e', 'r', 'y']

def rawQuery (q : Query) : List Char :=
  queryName ++ '=' :: queryEscape q.query.toUTF8.toList ++ '&' :: (timeName ++ '=' :: q.time.toList)

def IsInstant (time : List Char) : Prop := ∀ c ∈ time, c.isDigit = true ∨ c ∈ ['-', 'T', ':', 'Z']

theorem request_url (q : Query) (address : String) :
    (queryRequest q address).url.toList = address.toList ++ apiPath ++ '?' :: rawQuery q := by
  have path : "/api/v1/query?query=".toList = apiPath ++ '?' :: (queryName ++ ['=']) := by decide
  have time : "&time=".toList = '&' :: (timeName ++ ['=']) := by decide
  simp [queryRequest, rawQuery, path, time]

theorem instant_plain {time : List Char} (instant : IsInstant time) :
    ∀ c ∈ time, c.toNat < 128 ∧ c ∉ ['%', '+', '&', '#', ';'] := by
  intro c member
  rcases instant c member with digit | mark
  · simp only [Char.isDigit, Bool.and_eq_true, decide_eq_true_eq, UInt32.le_iff_toNat_le] at digit
    have code : c.toNat = c.val.toNat := rfl
    have bounds : 48 ≤ c.toNat ∧ c.toNat ≤ 57 := digit
    refine ⟨by omega, ?_⟩
    intro listed
    simp only [List.mem_cons, List.not_mem_nil, or_false] at listed
    rcases listed with rfl | rfl | rfl | rfl | rfl <;> exact absurd bounds (by decide)
  · simp only [List.mem_cons, List.not_mem_nil, or_false] at mark
    rcases mark with rfl | rfl | rfl | rfl <;> decide

theorem not_mem_pair {c : Char} {name value : List Char} (other : c ≠ '=') (in_name : c ∉ name)
    (in_value : c ∉ value) : c ∉ name ++ '=' :: value := by
  simp [other, in_name, in_value]

theorem not_mem_instant {c : Char} {time : List Char} (instant : IsInstant time)
    (mark : c ∈ ['%', '+', '&', '#', ';']) : c ∉ time :=
  fun member => (instant_plain instant c member).2 mark

theorem query_pair (q : Query) :
    parsePair (queryName ++ '=' :: queryEscape q.query.toUTF8.toList) =
      some (asciiBytes queryName, q.query.toUTF8.toList) := by
  refine parsePair_ok (by decide) ?_ (unescape_plain ?_) (unescape_queryEscape true _)
  · exact not_mem_pair (by decide) (by decide) (not_mem_queryEscape (by decide) _)
  · simp [queryName]

theorem time_pair {time : List Char} (instant : IsInstant time) :
    parsePair (timeName ++ '=' :: time) = some (asciiBytes timeName, asciiBytes time) := by
  refine parsePair_ok (by decide) ?_ (unescape_plain ?_) (unescape_plain ?_)
  · exact not_mem_pair (by decide) (by decide) (not_mem_instant instant (by decide))
  · simp [timeName]
  · intro c member
    obtain ⟨ascii, absent⟩ := instant_plain instant c member
    simp only [List.mem_cons, not_or] at absent
    exact ⟨ascii, absent.1, absent.2.1⟩

theorem parameters_rawQuery {q : Query} (instant : IsInstant q.time.toList) :
    parameters (rawQuery q) =
      [(asciiBytes queryName, q.query.toUTF8.toList),
        (asciiBytes timeName, asciiBytes q.time.toList)] := by
  have one_query : '&' ∉ queryName ++ '=' :: queryEscape q.query.toUTF8.toList :=
    not_mem_pair (by decide) (by decide) (not_mem_queryEscape (by decide) _)
  have one_time : '&' ∉ timeName ++ '=' :: q.time.toList :=
    not_mem_pair (by decide) (by decide) (not_mem_instant instant (by decide))
  rw [rawQuery, parameters_cons one_query (query_pair q), parameters_last one_time (time_pair instant)]

/-- Behind an address that has no query and no fragment of its own, the server reads the two
    parameters of the request, and the first is the query of the trigger. -/
theorem request_parameters {rules : Rules} {q : Query} {address : String} {u : URL}
    (no_query : '?' ∉ address.toList) (no_fragment : '#' ∉ address.toList)
    (instant : IsInstant q.time.toList)
    (parsed : parseURL rules (queryRequest q address).url.toList = .ok u) :
    parameters u.rawQuery =
      [(asciiBytes queryName, q.query.toUTF8.toList),
        (asciiBytes timeName, asciiBytes q.time.toList)] := by
  have whole : '#' ∉ address.toList ++ apiPath ++ '?' :: rawQuery q := by
    have first : '#' ∉ queryName ++ '=' :: queryEscape q.query.toUTF8.toList :=
      not_mem_pair (by decide) (by decide) (not_mem_queryEscape (by decide) _)
    have second : '#' ∉ timeName ++ '=' :: q.time.toList :=
      not_mem_pair (by decide) (by decide) (not_mem_instant instant (by decide))
    have path : '#' ∉ apiPath := by decide
    rw [rawQuery]
    simp only [List.mem_append, List.mem_cons, not_or] at first second ⊢
    exact ⟨⟨no_fragment, path⟩, by decide, ⟨first.1, first.2⟩, by decide, second⟩
  have before : '?' ∉ address.toList ++ apiPath := by
    have path : '?' ∉ apiPath := by decide
    rw [List.mem_append, not_or]
    exact ⟨no_query, path⟩
  rw [parseURL_query parsed, request_url, upTo_of_not_mem whole, after_append before, after_cons,
    if_pos rfl]
  exact parameters_rawQuery instant

end QueryEscape
