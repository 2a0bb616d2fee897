import Mathlib

/- The structure of net/url's Parse and ParseRequestURI: how a text is cut into scheme,
   authority, path, query and fragment. What makes an authority, a path or a fragment valid
   is left to parameters, since it is decided on each part alone. -/
namespace GoURL

/-- The authority is kept as its text, next to the host read from it. The path is the text
    that Path and RawPath stand for. -/
structure URL where
  scheme : List Char
  rootless : List Char
  authority : Option (List Char)
  host : List Char
  path : List Char
  rawQuery : List Char
  forceQuery : Bool
  fragment : List Char
  deriving DecidableEq, Repr

/-- parseAuthority's host, the checks of setPath and setFragment, and how a text is quoted in
    an error. -/
structure Rules where
  host : List Char → Except String (List Char)
  checkPath : List Char → Except String Unit
  checkFragment : List Char → Except String Unit
  quote : List Char → String
  host_nil : host [] = .ok []

def lenient : Rules := ⟨.ok, fun _ => .ok (), fun _ => .ok (), String.ofList, rfl⟩

def upTo (sep : Char) (s : List Char) : List Char := s.takeWhile fun c => c ≠ sep

def after (sep : Char) (s : List Char) : List Char := (s.dropWhile fun c => c ≠ sep).tail

def isCTL (c : Char) : Bool := c.toNat < 32 || c.toNat = 127

def isLetter (c : Char) : Bool := ('a' ≤ c && c ≤ 'z') || ('A' ≤ c && c ≤ 'Z')

def isSchemeMark (c : Char) : Bool :=
  ('0' ≤ c && c ≤ '9') || c == '+' || c == '-' || c == '.'

def getSchemeFrom (raw : List Char) : List Char → List Char → Except String (List Char × List Char)
  | _, [] => .ok ([], raw)
  | seen, c :: rest =>
    if isLetter c then getSchemeFrom raw (seen ++ [c]) rest
    else if isSchemeMark c then
      if seen = [] then .ok ([], raw) else getSchemeFrom raw (seen ++ [c]) rest
    else if c = ':' then
      if seen = [] then .error "missing protocol scheme" else .ok (seen, rest)
    else .ok ([], raw)

def getScheme (raw : List Char) : Except String (List Char × List Char) := getSchemeFrom raw [] raw

structure Cut where
  before : List Char
  rawQuery : List Char
  forceQuery : Bool
  deriving DecidableEq, Repr

def cutQuery (rest : List Char) : Cut :=
  -- a single question mark at the end is no query, but is remembered
  if rest.getLast? = some '?' ∧ rest.count '?' = 1 then ⟨rest.dropLast, [], true⟩
  else ⟨upTo '?' rest, after '?' rest, false⟩

section Parse
variable (rules : Rules)

def finish (scheme : List Char) (authority : Option (List Char)) (host path : List Char)
    (cut : Cut) : Except String URL :=
  match rules.checkPath path with
  | .error text => .error text
  | .ok _ => .ok ⟨scheme, [], authority, host, path, cut.rawQuery, cut.forceQuery, []⟩

/-- parse after the scheme and the query are cut off. Three slashes without a scheme are a
    path, and so are two in a request. -/
def parseHierarchy (viaRequest : Bool) (scheme : List Char) (cut : Cut) : Except String URL :=
  match cut.before with
  | '/' :: '/' :: x =>
    if scheme = [] ∧ (viaRequest ∨ x.head? = some '/') then finish rules scheme none [] cut.before cut
    else
      match rules.host (upTo '/' x) with
      | .error text => .error text
      | .ok host => finish rules scheme (some (upTo '/' x)) host (x.dropWhile fun c => c ≠ '/') cut
  | '/' :: _ => finish rules scheme none [] cut.before cut
  | rest =>
    if scheme ≠ [] then .ok ⟨scheme, rest, none, [], [], cut.rawQuery, cut.forceQuery, []⟩
    else if viaRequest then .error "invalid URI for request"
    else if ':' ∈ upTo '/' rest then .error "first path segment in URL cannot contain colon"
    else finish rules scheme none [] rest cut

def parse (viaRequest : Bool) (raw : List Char) : Except String URL :=
  if raw.any isCTL then .error "net/url: invalid control character in URL"
  else if raw = [] ∧ viaRequest then .error "empty url"
  else if raw = ['*'] then .ok ⟨[], [], none, [], ['*'], [], false, []⟩
  else
    match getScheme raw with
    | .error text => .error text
    | .ok (scheme, rest) =>
      parseHierarchy rules viaRequest (scheme.map Char.toLower) (cutQuery rest)

def wrapped (raw : List Char) (text : String) : String :=
  "parse " ++ rules.quote raw ++ ": " ++ text

def parseRequestURI (raw : List Char) : Except String URL :=
  match parse rules true raw with
  | .error text => .error (wrapped rules raw text)
  | .ok u => .ok u

def parseURL (raw : List Char) : Except String URL :=
  match parse rules false (upTo '#' raw) with
  | .error text => .error (wrapped rules (upTo '#' raw) text)
  | .ok u =>
    if after '#' raw = [] then .ok u
    else
      match rules.checkFragment (after '#' raw) with
      | .error text => .error (wrapped rules raw text)
      | .ok _ => .ok { u with fragment := after '#' raw }

end Parse

def withoutPort (host : List Char) : List Char :=
  let port := (upTo ':' host.reverse).reverse
  if ':' ∈ host ∧ port.all Char.isDigit then host.take (host.length - port.length - 1) else host

def hostname (host : List Char) : List Char :=
  let name := withoutPort host
  if name.head? = some '[' ∧ name.getLast? = some ']' then name.tail.dropLast else name

/-- Where the authority stands in what is left of a text without its query: after two slashes,
    up to the next one. -/
def authorityIn (viaRequest : Bool) (scheme : List Char) : List Char → Option (List Char)
  | '/' :: '/' :: x =>
    if scheme = [] ∧ (viaRequest ∨ x.head? = some '/') then none else some (upTo '/' x)
  | _ => none

def authorityOf (viaRequest : Bool) (raw : List Char) : Option (List Char) :=
  match getScheme raw with
  | .error _ => none
  | .ok (scheme, rest) => authorityIn viaRequest scheme (upTo '?' rest)

section Cutting
variable {sep c : Char} {p s : List Char}

theorem upTo_cons : upTo sep (c :: s) = if c = sep then [] else c :: upTo sep s := by
  by_cases same : c = sep <;> simp [upTo, same]

theorem after_cons : after sep (c :: s) = if c = sep then s else after sep s := by
  by_cases same : c = sep <;> simp [after, same]

theorem upTo_append (absent : sep ∉ p) : upTo sep (p ++ s) = p ++ upTo sep s := by
  induction p with
  | nil => rfl
  | cons c p ih =>
    have other : c ≠ sep := fun same => absent (by simp [same])
    simp [upTo_cons, other, ih fun member => absent (List.mem_cons_of_mem c member)]

theorem after_append (absent : sep ∉ p) : after sep (p ++ s) = after sep s := by
  induction p with
  | nil => rfl
  | cons c p ih =>
    have other : c ≠ sep := fun same => absent (by simp [same])
    simp [after_cons, other, ih fun member => absent (List.mem_cons_of_mem c member)]

theorem upTo_append_of_mem (present : sep ∈ p) : upTo sep (p ++ s) = upTo sep p := by
  induction p with
  | nil => simp at present
  | cons c p ih =>
    by_cases same : c = sep
    · simp [upTo_cons, same]
    · have later : sep ∈ p := by simpa [Ne.symm same] using present
      simp [upTo_cons, same, ih later]

theorem upTo_of_not_mem (absent : sep ∉ s) : upTo sep s = s := by
  simpa [upTo] using upTo_append (s := []) absent

theorem upTo_append_sep : upTo sep (p ++ sep :: s) = upTo sep p := by
  by_cases present : sep ∈ p
  · exact upTo_append_of_mem present
  · simp [upTo_append present, upTo_of_not_mem present, upTo_cons]

theorem after_of_not_mem (absent : sep ∉ s) : after sep s = [] := by
  simpa [after] using after_append (s := []) absent

theorem not_mem_upTo : sep ∉ upTo sep s := by
  induction s with
  | nil => simp [upTo]
  | cons c s ih =>
    rw [upTo_cons]
    split
    · simp
    · rename_i other
      simp [Ne.symm other, ih]

theorem mem_of_mem_upTo (member : c ∈ upTo sep s) : c ∈ s :=
  (List.takeWhile_prefix _).subset member

theorem mem_upTo_or_after (member : c ∈ s) (other : c ≠ sep) :
    c ∈ upTo sep s ∨ c ∈ after sep s := by
  induction s with
  | nil => simp at member
  | cons d s ih =>
    rw [upTo_cons, after_cons]
    split
    · rename_i same
      exact .inr (by simpa [same, other] using member)
    · rcases List.mem_cons.mp member with rfl | later
      · exact .inl (by simp)
      · rcases ih later with first | second
        · exact .inl (List.mem_cons_of_mem d first)
        · exact .inr second

theorem mem_of_mem_after (member : c ∈ after sep s) : c ∈ s :=
  (List.dropWhile_suffix _).subset (List.tail_subset _ member)

end Cutting

theorem cutQuery_parts (rest : List Char) :
    (cutQuery rest).before = upTo '?' rest ∧ (cutQuery rest).rawQuery = after '?' rest := by
  unfold cutQuery
  split
  · rename_i marked
    obtain ⟨ends, once⟩ := marked
    obtain ⟨p, rfl⟩ := List.getLast?_eq_some_iff.mp ends
    have absent : '?' ∉ p := by
      rw [List.count_append] at once
      exact List.count_eq_zero.mp (by simpa using once)
    simp [upTo_append absent, after_append absent, upTo_cons, after_cons]
  · exact ⟨rfl, rfl⟩

theorem cutQuery_append {p : List Char} (absent : '?' ∉ p) (s : List Char) :
    cutQuery (p ++ s) = { cutQuery s with before := p ++ (cutQuery s).before } := by
  cases s with
  | nil =>
    have last : p.getLast? ≠ some '?' := fun last => absent (List.mem_of_getLast? last)
    have first : cutQuery [] = ⟨[], [], false⟩ := rfl
    rw [List.append_nil, first, cutQuery, if_neg (fun marked => last marked.1)]
    simp [upTo_of_not_mem absent, after_of_not_mem absent]
  | cons c s =>
    have count : (p ++ c :: s).count '?' = (c :: s).count '?' := by
      rw [List.count_append, List.count_eq_zero.mpr absent, Nat.zero_add]
    have last : (p ++ c :: s).getLast? = (c :: s).getLast? :=
      List.getLast?_append_of_ne_nil p (List.cons_ne_nil c s)
    unfold cutQuery
    rw [count, last]
    split
    · simp
    · simp [upTo_append absent, after_append absent]

theorem getScheme_slash (s : List Char) : getScheme ('/' :: s) = .ok ([], '/' :: s) := by
  simp [getScheme, getSchemeFrom, isLetter, isSchemeMark]

theorem getSchemeFrom_append {raw seen s scheme rest : List Char}
    (found : getSchemeFrom raw seen s = .ok (scheme, rest)) (some_scheme : scheme ≠ [])
    (longer t : List Char) : getSchemeFrom longer seen (s ++ t) = .ok (scheme, rest ++ t) := by
  induction s generalizing seen with
  | nil =>
    simp only [getSchemeFrom, Except.ok.injEq, Prod.mk.injEq] at found
    exact absurd found.1.symm some_scheme
  | cons c s ih =>
    simp only [List.cons_append, getSchemeFrom] at found ⊢
    by_cases letter : isLetter c
    · rw [if_pos letter] at found ⊢
      exact ih found
    · rw [if_neg letter] at found ⊢
      by_cases mark : isSchemeMark c
      · rw [if_pos mark] at found ⊢
        split at found
        · simp only [Except.ok.injEq, Prod.mk.injEq] at found
          exact absurd found.1.symm some_scheme
        · rename_i started
          rw [if_neg started]
          exact ih found
      · rw [if_neg mark] at found ⊢
        split at found
        · rename_i colon
          rw [if_pos colon]
          split at found
          · simp at found
          · rename_i started
            rw [if_neg started]
            simp only [Except.ok.injEq, Prod.mk.injEq] at found ⊢
            exact ⟨found.1, by rw [found.2]⟩
        · simp only [Except.ok.injEq, Prod.mk.injEq] at found
          exact absurd found.1.symm some_scheme

theorem getScheme_append {s scheme rest : List Char} (found : getScheme s = .ok (scheme, rest))
    (some_scheme : scheme ≠ []) (t : List Char) :
    getScheme (s ++ t) = .ok (scheme, rest ++ t) :=
  getSchemeFrom_append found some_scheme (s ++ t) t

theorem getSchemeFrom_none {raw seen s rest : List Char}
    (found : getSchemeFrom raw seen s = .ok ([], rest)) : rest = raw := by
  induction s generalizing seen with
  | nil => simpa [getSchemeFrom, eq_comm] using found
  | cons c s ih =>
    simp only [getSchemeFrom] at found
    split at found
    · exact ih found
    · split at found
      · split at found
        · simpa [eq_comm] using found
        · exact ih found
      · split at found
        · split at found
          · simp at found
          · rename_i started
            simp only [Except.ok.injEq, Prod.mk.injEq] at found
            exact absurd found.1 started
        · simpa [eq_comm] using found

theorem getScheme_none {s rest : List Char} (found : getScheme s = .ok ([], rest)) : rest = s :=
  getSchemeFrom_none found

theorem getSchemeFrom_query {raw seen s scheme rest : List Char}
    (found : getSchemeFrom raw seen s = .ok (scheme, rest)) :
    rest = raw ∨ after '?' rest = after '?' s := by
  induction s generalizing seen with
  | nil =>
    cases found
    exact .inl rfl
  | cons c s ih =>
    have skip (other : c ≠ '?') : after '?' (c :: s) = after '?' s := by
      rw [after_cons, if_neg other]
    simp only [getSchemeFrom] at found
    by_cases letter : isLetter c
    · rw [if_pos letter] at found
      rw [skip (by rintro rfl; exact absurd letter (by decide))]
      exact ih found
    · rw [if_neg letter] at found
      by_cases mark : isSchemeMark c
      · rw [if_pos mark] at found
        rw [skip (by rintro rfl; exact absurd mark (by decide))]
        split at found
        · cases found
          exact .inl rfl
        · exact ih found
      · rw [if_neg mark] at found
        split at found
        · rename_i colon
          rw [skip (by rw [colon]; decide)]
          split at found
          · cases found
          · cases found
            exact .inr rfl
        · cases found
          exact .inl rfl

theorem getScheme_query {raw scheme rest : List Char} (found : getScheme raw = .ok (scheme, rest)) :
    after '?' rest = after '?' raw := by
  rcases getSchemeFrom_query found with whole | behind
  · rw [whole]
  · exact behind

section Reading
variable {rules : Rules} {viaRequest : Bool} {scheme host path raw : List Char}
  {authority : Option (List Char)} {cut : Cut} {u : URL}

def HostOf (rules : Rules) (u : URL) : Prop :=
  match u.authority with
  | none => u.host = []
  | some a => rules.host a = .ok u.host

theorem finish_ok (ok : finish rules scheme authority host path cut = .ok u) :
    rules.checkPath path = .ok () ∧
      u = ⟨scheme, [], authority, host, path, cut.rawQuery, cut.forceQuery, []⟩ := by
  unfold finish at ok
  cases check : rules.checkPath path with
  | error text => simp [check] at ok
  | ok _ =>
    simp only [check, Except.ok.injEq] at ok
    exact ⟨rfl, ok.symm⟩

theorem parseHierarchy_reads (ok : parseHierarchy rules viaRequest scheme cut = .ok u) :
    u.authority = authorityIn viaRequest scheme cut.before ∧ HostOf rules u := by
  unfold parseHierarchy at ok
  split at ok
  · rename_i x before
    simp only [authorityIn, before]
    split at ok
    · rename_i path_only
      obtain ⟨_, rfl⟩ := finish_ok ok
      exact ⟨by rw [if_pos path_only], rfl⟩
    · rename_i with_host
      cases read : rules.host (upTo '/' x) with
      | error text => simp [read] at ok
      | ok host =>
        simp only [read] at ok
        obtain ⟨_, rfl⟩ := finish_ok ok
        exact ⟨by rw [if_neg with_host], read⟩
  · rename_i x single before
    obtain ⟨_, rfl⟩ := finish_ok ok
    refine ⟨?_, rfl⟩
    simp only [authorityIn, before]
    split
    · rename_i y shape
      exact absurd (List.cons.inj shape).2 (single y)
    · rfl
  · rename_i double single
    have none_there : authorityIn viaRequest scheme cut.before = none := by
      unfold authorityIn
      split
      · rename_i x before
        exact absurd before (double x)
      · rfl
    rw [none_there]
    split at ok
    · cases ok
      exact ⟨rfl, rfl⟩
    · split at ok
      · simp at ok
      · split at ok
        · simp at ok
        · obtain ⟨_, rfl⟩ := finish_ok ok
          exact ⟨rfl, rfl⟩

theorem authorityIn_lower (before : List Char) :
    authorityIn viaRequest (scheme.map Char.toLower) before =
      authorityIn viaRequest scheme before := by
  unfold authorityIn
  split
  · simp only [List.map_eq_nil_iff]
  · rfl

theorem parse_reads (ok : parse rules viaRequest raw = .ok u) :
    u.authority = authorityOf viaRequest raw ∧ HostOf rules u := by
  unfold parse at ok
  split at ok
  · simp at ok
  · split at ok
    · simp at ok
    · split at ok
      · rename_i star
        cases ok
        subst star
        exact ⟨by cases viaRequest <;> rfl, rfl⟩
      · cases found : getScheme raw with
        | error text => simp [found] at ok
        | ok parts =>
          obtain ⟨scheme, rest⟩ := parts
          simp only [found] at ok
          have reads := parseHierarchy_reads ok
          rw [(cutQuery_parts rest).1, authorityIn_lower] at reads
          simpa only [authorityOf, found] using reads

theorem parseURL_reads (ok : parseURL rules raw = .ok u) :
    u.authority = authorityOf false (upTo '#' raw) ∧ HostOf rules u := by
  unfold parseURL at ok
  split at ok
  · simp at ok
  · rename_i parsed read
    have reads := parse_reads read
    split at ok
    · cases ok
      exact reads
    · split at ok
      · simp at ok
      · cases ok
        exact reads

theorem parseHierarchy_query (ok : parseHierarchy rules viaRequest scheme cut = .ok u) :
    u.rawQuery = cut.rawQuery := by
  unfold parseHierarchy at ok
  split at ok
  · split at ok
    · rw [(finish_ok ok).2]
    · split at ok
      · cases ok
      · rw [(finish_ok ok).2]
  · rw [(finish_ok ok).2]
  · split at ok
    · cases ok
      rfl
    · split at ok
      · cases ok
      · split at ok
        · cases ok
        · rw [(finish_ok ok).2]

theorem parse_query (ok : parse rules viaRequest raw = .ok u) : u.rawQuery = after '?' raw := by
  unfold parse at ok
  split at ok
  · cases ok
  · split at ok
    · cases ok
    · split at ok
      · rename_i star
        cases ok
        rw [star]
        rfl
      · cases found : getScheme raw with
        | error text => simp [found] at ok
        | ok parts =>
          obtain ⟨scheme, rest⟩ := parts
          simp only [found] at ok
          rw [parseHierarchy_query ok, (cutQuery_parts rest).2, getScheme_query found]

theorem parseURL_query (ok : parseURL rules raw = .ok u) :
    u.rawQuery = after '?' (upTo '#' raw) := by
  unfold parseURL at ok
  split at ok
  · cases ok
  · rename_i parsed read
    have query := parse_query read
    split at ok
    · cases ok
      exact query
    · split at ok
      · cases ok
      · cases ok
        exact query

end Reading

theorem authorityIn_append {scheme before a : List Char}
    (found : authorityIn false scheme before = some a) (some_text : a ≠ []) (more : List Char) :
    authorityIn false scheme (before ++ '/' :: more) = some a := by
  unfold authorityIn at found
  split at found
  · rename_i x
    split at found
    · simp at found
    · rename_i with_host
      obtain rfl := Option.some.inj found
      cases x with
      | nil => exact absurd rfl some_text
      | cons c x =>
        have longer : ¬ (scheme = [] ∧ (false = true ∨
            (c :: (x ++ '/' :: more)).head? = some '/')) := with_host
        simp only [List.cons_append, authorityIn]
        rw [if_neg longer, ← List.cons_append, upTo_append_sep]
  · simp at found

theorem authorityOf_append {s a : List Char} (found : authorityOf false s = some a)
    (some_text : a ≠ []) (more : List Char) : authorityOf false (s ++ '/' :: more) = some a := by
  unfold authorityOf at found
  split at found
  · simp at found
  · rename_i scheme rest cut
    have longer : getScheme (s ++ '/' :: more) = .ok (scheme, rest ++ '/' :: more) := by
      by_cases none_there : scheme = []
      · subst none_there
        obtain rfl := getScheme_none cut
        cases rest with
        | nil => simp [authorityIn, upTo] at found
        | cons c rest =>
          have slash : c = '/' := by
            by_contra other
            rw [upTo_cons] at found
            split at found
            · simp [authorityIn] at found
            · simp [authorityIn, other] at found
          subst slash
          exact getScheme_slash _
      · exact getScheme_append cut none_there _
    simp only [authorityOf, longer]
    by_cases query : '?' ∈ rest
    · rwa [upTo_append_of_mem query]
    · rw [upTo_append query, upTo_cons, if_neg (by decide)]
      rw [upTo_of_not_mem query] at found
      exact authorityIn_append found some_text _

/-- A text with a host keeps its authority and host when a path is appended to it. -/
theorem parseURL_append {rules : Rules} {s more : List Char} {u v : URL}
    (short : parseURL rules s = .ok u) (some_host : u.host ≠ [])
    (long : parseURL rules (s ++ '/' :: more) = .ok v) :
    v.authority = u.authority ∧ v.host = u.host := by
  obtain ⟨place_u, host_u⟩ := parseURL_reads short
  obtain ⟨place_v, host_v⟩ := parseURL_reads long
  unfold HostOf at host_u host_v
  cases found : u.authority with
  | none =>
    rw [found] at host_u
    exact absurd host_u some_host
  | some a =>
    have some_text : a ≠ [] := by
      rintro rfl
      rw [found] at host_u
      simp only [rules.host_nil, Except.ok.injEq] at host_u
      exact some_host host_u.symm
    have same : v.authority = some a := by
      rw [place_v]
      rw [found] at place_u
      by_cases fragment : '#' ∈ s
      · rw [upTo_append_of_mem fragment]
        exact place_u.symm
      · rw [upTo_append fragment, upTo_cons, if_neg (by decide)]
        rw [upTo_of_not_mem fragment] at place_u
        exact authorityOf_append place_u.symm some_text _
    rw [found] at host_u
    rw [same] at host_v
    exact ⟨same, Except.ok.inj (host_v.symm.trans host_u)⟩

def http : List Char := ['h', 't', 't', 'p']

theorem getScheme_http (s : List Char) : getScheme (http ++ ':' :: s) = .ok (http, s) := by
  simp [getScheme, getSchemeFrom, http, isLetter, isSchemeMark]

theorem authorityOf_http (s : List Char) :
    authorityOf false (http ++ ':' :: '/' :: '/' :: s) = some (upTo '/' (upTo '?' s)) := by
  have named : http ≠ [] := by decide
  simp [authorityOf, getScheme_http, upTo_cons, authorityIn, named]

section Targets
variable {rules : Rules} {a h t : List Char}

theorem cutQuery_slash (t : List Char) : (cutQuery ('/' :: t)).before = '/' :: upTo '?' t := by
  rw [(cutQuery_parts _).1, upTo_cons, if_neg (by decide)]

theorem cutQuery_absolute (plain : ∀ c ∈ a, c ≠ '/' ∧ c ≠ '?') :
    cutQuery ('/' :: '/' :: (a ++ '/' :: t)) =
      { cutQuery ('/' :: t) with before := '/' :: '/' :: (a ++ '/' :: upTo '?' t) } := by
  have absent : '?' ∉ '/' :: '/' :: a := by
    simpa using fun member => (plain '?' member).2 rfl
  have cut := cutQuery_append absent ('/' :: t)
  rw [cutQuery_slash] at cut
  exact cut

theorem parse_clean {viaRequest : Bool} {raw : List Char} {u : URL}
    (ok : parse rules viaRequest raw = .ok u) : raw.any isCTL = false := by
  unfold parse at ok
  split at ok
  · simp at ok
  · rename_i clean
    simpa using clean

theorem getScheme_letter {c : Char} {s scheme rest : List Char}
    (found : getScheme (c :: s) = .ok (scheme, rest)) (some_scheme : scheme ≠ []) :
    isLetter c = true := by
  by_contra other
  simp only [getScheme, getSchemeFrom, if_neg other, if_true] at found
  split at found
  · simp only [Except.ok.injEq, Prod.mk.injEq] at found
    exact some_scheme found.1.symm
  · split at found
    · simp at found
    · simp only [Except.ok.injEq, Prod.mk.injEq] at found
      exact some_scheme found.1.symm

theorem parse_request_head {raw : List Char} {u : URL} (ok : parse rules true raw = .ok u) :
    ∃ c s, raw = c :: s ∧ (c = '/' ∨ isLetter c = true ∨ c = '*') := by
  unfold parse at ok
  split at ok
  · simp at ok
  · split at ok
    · simp at ok
    · rename_i some_text
      cases raw with
      | nil => exact absurd ⟨rfl, rfl⟩ some_text
      | cons c s =>
        refine ⟨c, s, rfl, ?_⟩
        split at ok
        · rename_i star
          exact .inr (.inr (List.cons.inj star).1)
        · cases found : getScheme (c :: s) with
          | error text => simp [found] at ok
          | ok parts =>
            obtain ⟨scheme, rest⟩ := parts
            by_cases none_there : scheme = []
            · subst none_there
              obtain rfl := getScheme_none found
              simp only [found, List.map_nil, parseHierarchy, (cutQuery_parts _).1] at ok
              -- without a scheme a request has to start with a slash
              by_contra neither
              have before : upTo '?' (c :: s) ≠ [] → (upTo '?' (c :: s)).head? = some c := by
                rw [upTo_cons]
                split <;> simp
              split at ok
              · rename_i x shape
                rw [shape] at before
                simp at before
                exact neither (.inl before.symm)
              · rename_i x _ shape
                rw [shape] at before
                simp at before
                exact neither (.inl before.symm)
              · simp at ok
            · exact .inr (.inl (getScheme_letter found none_there))

/-- A request-target in origin-form has a path and a query, and no authority, not even after
    two slashes. -/
theorem parse_origin_form (clean : ('/' :: t).any isCTL = false) :
    parse rules true ('/' :: t) =
      finish rules [] none [] ('/' :: upTo '?' t) (cutQuery ('/' :: t)) := by
  simp only [parse, clean, Bool.false_eq_true, if_false, getScheme_slash, reduceCtorEq,
    false_and, List.cons.injEq, List.map_nil, parseHierarchy, cutQuery_slash]
  rw [if_neg (by simp)]
  split
  · rw [if_pos (by simp)]
  · rfl
  · rename_i single
    exact absurd rfl (single (upTo '?' t))

theorem parse_http (plain : ∀ c ∈ a, c ≠ '/' ∧ c ≠ '?') (read : rules.host a = .ok h)
    (clean : (http ++ ':' :: '/' :: '/' :: (a ++ '/' :: t)).any isCTL = false) :
    parse rules false (http ++ ':' :: '/' :: '/' :: (a ++ '/' :: t)) =
      finish rules http (some a) h ('/' :: upTo '?' t) (cutQuery ('/' :: t)) := by
  have no_slash : '/' ∉ a := fun member => (plain '/' member).1 rfl
  have authority : upTo '/' (a ++ '/' :: upTo '?' t) = a := by
    rw [upTo_append_sep, upTo_of_not_mem no_slash]
  have path : (a ++ '/' :: upTo '?' t).dropWhile (fun c => c ≠ '/') = '/' :: upTo '?' t := by
    rw [List.dropWhile_append_of_pos (fun c member => by simpa using (plain c member).1)]
    simp
  have lower : http.map Char.toLower = http := by decide
  have named : http ≠ [] := by decide
  rw [parse, if_neg (by simp [clean]), if_neg (by simp), if_neg (by simp [http]),
    getScheme_http]
  simp only [lower, cutQuery_absolute plain, parseHierarchy, named, false_and, if_false,
    authority, read, path]
  rfl

end Targets

end GoURL
