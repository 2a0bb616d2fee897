import Elasti.GoRegexp

/- extractNamespaceAndService: sixteen unanchored patterns tried in order on the incoming
   host. A pattern finds its leftmost match anywhere in the text, in the path as well. -/
namespace HostExtraction
open GoRegexp

def patterns : List String := [
  r"http://([a-zA-Z0-9-]+)\.([a-zA-Z0-9-]+)\.svc\.cluster\.local:\d+/\*",
  r"([a-zA-Z0-9-]+)\.([a-zA-Z0-9-]+)\.svc\.cluster\.local:\d+/\*",
  r"http://([a-zA-Z0-9-]+)\.([a-zA-Z0-9-]+)\.svc\.cluster\.local:\d+",
  r"([a-zA-Z0-9-]+)\.([a-zA-Z0-9-]+)\.svc\.cluster\.local:\d+",
  r"http://([a-zA-Z0-9-]+)\.([a-zA-Z0-9-]+)\.svc\.cluster\.local",
  r"([a-zA-Z0-9-]+)\.([a-zA-Z0-9-]+)\.svc\.cluster\.local",
  r"http://([a-zA-Z0-9-]+)\.([a-zA-Z0-9-]+)\.svc",
  r"([a-zA-Z0-9-]+)\.([a-zA-Z0-9-]+)\.svc",
  r"http://([a-zA-Z0-9-]+)\.([a-zA-Z0-9-]+)",
  r"([a-zA-Z0-9-]+)\.([a-zA-Z0-9-]+)",
  r"http://([a-zA-Z0-9-]+)\.svc\.cluster\.local",
  r"([a-zA-Z0-9-]+)\.svc\.cluster\.local",
  r"http://([a-zA-Z0-9-]+)\.svc",
  r"([a-zA-Z0-9-]+)\.svc",
  r"http://([a-zA-Z0-9-]+)",
  r"([a-zA-Z0-9-]+)"]

def maskMiddle (input : List Char) (unmaskedPrefix unmaskedSuffix : Nat) : List Char :=
  let n := input.length
  if n ≤ unmaskedPrefix + unmaskedSuffix then List.replicate n '*'
  else input.take unmaskedPrefix ++ List.replicate (n - unmaskedPrefix - unmaskedSuffix) '*' ++
    input.drop (n - unmaskedSuffix)

inductive ExtractErr where
  | namespaceNotFound (url : List Char)
  | invalidURL (url : List Char)
  deriving DecidableEq, Repr

def ExtractErr.text : ExtractErr → String
  | .namespaceNotFound url => "namespace not found in URL: " ++ String.ofList (maskMiddle url 4 4)
  | .invalidURL url => "invalid Kubernetes URL: " ++ String.ofList (maskMiddle url 4 4)

structure Extracted where
  serviceName : List Char
  ns : List Char
  err : Option ExtractErr
  deriving DecidableEq, Repr

def extractLoop (url : List Char) : List (List Item) → Extracted
  | [] => ⟨[], [], some (.invalidURL url)⟩
  | re :: rest =>
    match findStringSubmatch re url with
    | some [serviceName, ns] => ⟨serviceName, ns, none⟩
    | some [serviceName] => ⟨serviceName, "default".toList, some (.namespaceNotFound url)⟩
    | _ => extractLoop url rest

def extractNamespaceAndService (url : List Char) : Extracted :=
  extractLoop url (patterns.filterMap fun pattern => compile pattern.toList)

def label : Ranges := [('a', 'z'), ('A', 'Z'), ('0', '9'), ('-', '-')]

def scheme : List Char := ['h', 't', 't', 'p', ':', '/', '/']

def svc : List Char := ['s', 'v', 'c']

def cluster : List Char := ['c', 'l', 'u', 's', 't', 'e', 'r']

def localDomain : List Char := ['l', 'o', 'c', 'a', 'l']

def single (x : List Item) : List Item := .run label true :: x

def pair (x : List Item) : List Item := .run label true :: .char '.' :: .run label true :: x

theorem pair_single (x : List Item) : pair x = single (.char '.' :: single x) := rfl

def withScheme (items : List Item) : List Item := literal scheme ++ items

def svcItems : List Item := literal ('.' :: svc)

def clusterItems : List Item := svcItems ++ literal ('.' :: (cluster ++ '.' :: localDomain))

/-- What the five kinds of patterns with two groups ask for after the second one. -/
def suffixes : List (List Item) := [
  clusterItems ++ .char ':' :: .run digit false :: literal ['/', '*'],
  clusterItems ++ [.char ':', .run digit false],
  clusterItems,
  svcItems,
  []]

def both (x : List Item) : List (List Item) := [withScheme (pair x), pair x]

def singles : List (List Item) :=
  [clusterItems, svcItems, []].flatMap fun x => [withScheme (single x), single x]

def regexps : List (List Item) := suffixes.flatMap both ++ singles

theorem patterns_compile :
    patterns.map (fun pattern => compile pattern.toList) = regexps.map some := by
  simp only [patterns, List.map_cons, List.map_nil]
  -- a literal is the string of its characters; decoding one costs far more
  repeat rw [String.toList_ofList]
  decide +kernel

theorem extract_regexps (url : List Char) :
    extractNamespaceAndService url = extractLoop url regexps := by
  have compiled : (patterns.filterMap fun pattern => compile pattern.toList) = regexps := by
    have all := congrArg (List.filterMap id) patterns_compile
    simpa [List.filterMap_map, Function.comp_def] using all
  rw [extractNamespaceAndService, compiled]

def IsLabel (text : List Char) : Prop := text ≠ [] ∧ ∀ c ∈ text, inRanges label c = true

def dotted : List (List Char) → List Char → List Char
  | [], rest => rest
  | seg :: segs, rest => '.' :: (seg ++ dotted segs rest)

/-- What may follow the names of an authority: a port, a path, or nothing. -/
def Tail (rest : List Char) : Prop :=
  rest.head? = none ∨ rest.head? = some '/' ∨ (rest.head? = some ':' ∧ rest[1]? ≠ some '/')

theorem Tail.ends {rest : List Char} (tail : Tail rest) : Ends label rest := by
  intro c first
  rcases tail with none_there | slash | ⟨colon, _⟩
  · simp [none_there] at first
  · rw [slash] at first
    cases first
    decide
  · rw [colon] at first
    cases first
    decide

theorem Tail.no_dot {rest : List Char} (tail : Tail rest) (items : List Item) :
    matchHere (.char '.' :: items) rest = none := by
  cases rest with
  | nil => rfl
  | cons c rest =>
    have other : c ≠ '.' := by
      rintro rfl
      simp [Tail] at tail
    simp [matchHere, other]

theorem Tail.no_scheme {rest : List Char} (tail : Tail rest) :
    ¬ ∃ u, rest = ':' :: '/' :: '/' :: u := by
  rintro ⟨u, rfl⟩
  simp [Tail] at tail

theorem dotted_ends {segs : List (List Char)} {rest : List Char} (tail : Tail rest) :
    Ends label (dotted segs rest) := by
  cases segs with
  | nil => exact tail.ends
  | cons seg segs => exact ends_cons.mpr (by decide)

theorem dotted_no_scheme {segs : List (List Char)} {rest : List Char} (tail : Tail rest) :
    ¬ ∃ u, dotted segs rest = ':' :: '/' :: '/' :: u := by
  cases segs with
  | nil => exact tail.no_scheme
  | cons seg segs =>
    rintro ⟨u, shape⟩
    simp [dotted] at shape

theorem scheme_not_in_label {t rest : List Char} (some_text : t ≠ [])
    (inside : ∀ c ∈ t, inRanges label c = true) (ends : Ends label rest)
    (no_scheme : ¬ ∃ u, rest = ':' :: '/' :: '/' :: u) : ¬ ∃ u, t ++ rest = scheme ++ u := by
  -- the scheme's text does not start within a name: its letters would be the end of one, with
  -- the colon and the slashes right behind
  have letters : inRanges label 't' = true ∧ inRanges label 'p' = true := by decide
  have colon : inRanges label ':' = false := by decide
  rintro ⟨u, shape⟩
  match t, some_text, inside, shape with
  | [_], _, _, shape =>
    simp only [scheme, List.cons_append, List.nil_append, List.cons.injEq] at shape
    rw [shape.2, ends_cons, letters.1] at ends
    contradiction
  | [_, _], _, _, shape =>
    simp only [scheme, List.cons_append, List.nil_append, List.cons.injEq] at shape
    rw [shape.2.2, ends_cons, letters.1] at ends
    contradiction
  | [_, _, _], _, _, shape =>
    simp only [scheme, List.cons_append, List.nil_append, List.cons.injEq] at shape
    rw [shape.2.2.2, ends_cons, letters.2] at ends
    contradiction
  | [_, _, _, _], _, _, shape =>
    simp only [scheme, List.cons_append, List.nil_append, List.cons.injEq] at shape
    exact no_scheme ⟨u, shape.2.2.2.2⟩
  | _ :: _ :: _ :: _ :: e :: _, _, inside, shape =>
    simp only [scheme, List.cons_append, List.nil_append, List.cons.injEq] at shape
    have here := inside e (by simp)
    rw [shape.2.2.2.2.1, colon] at here
    contradiction

theorem stops_dot (items : List Item) : Stops label (.char '.' :: items) :=
  show inRanges label '.' = false by decide

theorem stops_nil : Stops label [] := trivial

section Authority
variable {x items : List Item} {a b rest : List Char} {segs : List (List Char)}

theorem find_scheme_cons {c : Char} {s : List Char} (other : c ≠ 'h') :
    findStringSubmatch (withScheme items) (c :: s) = findStringSubmatch (withScheme items) s :=
  find_skip (by simp [withScheme, literal, scheme, matchHere, other])

theorem find_single_cons {c : Char} {s : List Char} (other : inRanges label c = false) :
    findStringSubmatch (single x) (c :: s) = findStringSubmatch (single x) s :=
  find_skip (matchHere_run_none (ends_cons.mpr other))

theorem find_scheme_dotted (inside : ∀ c ∈ a, inRanges label c = true)
    (labels : ∀ seg ∈ segs, IsLabel seg) (tail : Tail rest) :
    findStringSubmatch (withScheme items) (a ++ dotted segs rest) =
      findStringSubmatch (withScheme items) rest := by
  induction segs generalizing a with
  | nil =>
    exact find_literal_skip fun t some_text ends =>
      scheme_not_in_label some_text (fun c member => inside c (ends.subset member)) tail.ends
        tail.no_scheme
  | cons seg segs ih =>
    have passed : findStringSubmatch (withScheme items) (a ++ dotted (seg :: segs) rest) =
        findStringSubmatch (withScheme items) (dotted (seg :: segs) rest) :=
      find_literal_skip fun t some_text ends =>
        scheme_not_in_label some_text (fun c member => inside c (ends.subset member))
          (dotted_ends tail) (dotted_no_scheme tail)
    rw [passed, dotted, find_scheme_cons (by decide)]
    exact ih (labels seg List.mem_cons_self).2 fun other member =>
      labels other (List.mem_cons_of_mem seg member)

theorem matchHere_pair (stops : Stops label x) (first : IsLabel a) (second : IsLabel b)
    (tail : Tail rest) :
    matchHere (pair x) (a ++ dotted (b :: segs) rest) =
      (matchHere x (dotted segs rest)).map fun groups => a :: b :: groups := by
  rw [pair, matchHere_run (stops_dot _) first.2 first.1 (dotted_ends tail), dotted,
    matchHere, if_pos rfl, matchHere_run stops second.2 second.1 (dotted_ends tail), Option.map_map]
  rfl

def Fails (x : List Item) (rest : List Char) : List (List Char) → Prop
  | [] => True
  | _ :: segs => matchHere x (dotted segs rest) = none ∧ Fails x rest segs

theorem find_pair_dotted (stops : Stops label x) (inside : ∀ c ∈ a, inRanges label c = true)
    (labels : ∀ seg ∈ segs, IsLabel seg) (tail : Tail rest) (fails : Fails x rest segs) :
    findStringSubmatch (pair x) (a ++ dotted segs rest) = findStringSubmatch (pair x) rest := by
  induction segs generalizing a with
  | nil => exact find_run_none (stops_dot _) inside tail.ends (tail.no_dot _)
  | cons seg segs ih =>
    have here := labels seg List.mem_cons_self
    have next : matchHere (.char '.' :: .run label true :: x) (dotted (seg :: segs) rest) = none := by
      rw [dotted, matchHere, if_pos rfl, matchHere_run stops here.2 here.1 (dotted_ends tail),
        fails.1, Option.map_none]
    have passed : findStringSubmatch (pair x) (a ++ dotted (seg :: segs) rest) =
        findStringSubmatch (pair x) (dotted (seg :: segs) rest) :=
      find_run_none (stops_dot _) inside (dotted_ends tail) next
    rw [passed, dotted, pair_single, find_single_cons (by decide)]
    exact ih here.2 (fun other member => labels other (List.mem_cons_of_mem seg member)) fails.2

def url (http : Bool) (a : List Char) (segs : List (List Char)) (rest : List Char) : List Char :=
  (if http then scheme else []) ++ (a ++ dotted segs rest)

theorem find_single_scheme (items : List Item) (s : List Char) :
    findStringSubmatch (single (.char '.' :: items)) (scheme ++ s) =
      findStringSubmatch (single (.char '.' :: items)) s := by
  have letters : findStringSubmatch (single (.char '.' :: items))
      (['h', 't', 't', 'p'] ++ ':' :: '/' :: '/' :: s) =
      findStringSubmatch (single (.char '.' :: items)) (':' :: '/' :: '/' :: s) :=
    find_run_none (stops_dot _) (by simp [inRanges, label]) (ends_cons.mpr (by decide))
      (by simp [matchHere])
  rw [find_single_cons (by decide), find_single_cons (by decide), find_single_cons (by decide)]
    at letters
  exact letters

theorem find_pair_hit (http : Bool) (stops : Stops label x) (first : IsLabel a)
    (second : IsLabel b) (tail : Tail rest) {groups : List (List Char)}
    (hit : matchHere x (dotted segs rest) = some groups) :
    findStringSubmatch (pair x) (url http a (b :: segs) rest) = some (a :: b :: groups) := by
  have here : findStringSubmatch (pair x) (a ++ dotted (b :: segs) rest) =
      some (a :: b :: groups) := by
    apply find_here
    rw [matchHere_pair stops first second tail, hit, Option.map_some]
  cases http with
  | false => exact here
  | true => exact (find_single_scheme _ _).trans here

theorem find_pair_miss (http : Bool) (stops : Stops label x)
    (inside : ∀ c ∈ a, inRanges label c = true) (labels : ∀ seg ∈ segs, IsLabel seg)
    (tail : Tail rest) (fails : Fails x rest segs) :
    findStringSubmatch (pair x) (url http a segs rest) = findStringSubmatch (pair x) rest := by
  have here := find_pair_dotted stops inside labels tail fails
  cases http with
  | false => exact here
  | true => exact (find_single_scheme _ _).trans here

theorem find_scheme_hit (stops : Stops label x) (first : IsLabel a) (second : IsLabel b)
    (tail : Tail rest) {groups : List (List Char)}
    (hit : matchHere x (dotted segs rest) = some groups) :
    findStringSubmatch (withScheme (pair x)) (url true a (b :: segs) rest) =
      some (a :: b :: groups) := by
  apply find_here
  rw [withScheme, url, if_pos rfl, matchHere_literal, matchHere_pair stops first second tail, hit,
    Option.map_some]

theorem find_scheme_miss (http : Bool) (inside : ∀ c ∈ a, inRanges label c = true)
    (labels : ∀ seg ∈ segs, IsLabel seg) (tail : Tail rest)
    (miss : http = true → matchHere items (a ++ dotted segs rest) = none) :
    findStringSubmatch (withScheme items) (url http a segs rest) =
      findStringSubmatch (withScheme items) rest := by
  have names : findStringSubmatch (withScheme items) (a ++ dotted segs rest) =
      findStringSubmatch (withScheme items) rest := find_scheme_dotted inside labels tail
  cases http with
  | false => exact names
  | true =>
    have start : matchHere (withScheme items)
        ('h' :: 't' :: 't' :: 'p' :: ':' :: '/' :: '/' :: (a ++ dotted segs rest)) = none :=
      (matchHere_literal scheme items _).trans (miss rfl)
    have after : findStringSubmatch (withScheme items)
        ('h' :: 't' :: 't' :: 'p' :: ':' :: '/' :: '/' :: (a ++ dotted segs rest)) =
        findStringSubmatch (withScheme items) (a ++ dotted segs rest) := by
      rw [find_skip start, find_scheme_cons (by decide), find_scheme_cons (by decide),
        find_scheme_cons (by decide), find_scheme_cons (by decide), find_scheme_cons (by decide),
        find_scheme_cons (by decide)]
    exact after.trans names

theorem find_names_miss (http : Bool) (stops : Stops label x) (first : IsLabel a)
    (labels : ∀ seg ∈ b :: segs, IsLabel seg) (tail : Tail rest) (fails : Fails x rest (b :: segs))
    {re : List Item} (either : re = withScheme (pair x) ∨ re = pair x) :
    findStringSubmatch re (url http a (b :: segs) rest) = findStringSubmatch re rest := by
  rcases either with rfl | rfl
  · refine find_scheme_miss http first.2 labels tail fun _ => ?_
    rw [matchHere_pair stops first (labels b List.mem_cons_self) tail, fails.1, Option.map_none]
  · exact find_pair_miss http stops first.2 labels tail fails

end Authority

structure Digits where
  text : List Char
  some_text : text ≠ []
  inside : ∀ c ∈ text, inRanges digit c = true

def portText : Option Digits → List Char
  | none => []
  | some digits => ':' :: digits.text

def pathText : Option (List Char) → List Char
  | none => []
  | some path => '/' :: path

theorem digit_label {c : Char} (inside : inRanges digit c = true) : inRanges label c = true := by
  simp only [inRanges, digit, label, List.any_cons, List.any_nil, Bool.or_false, Bool.and_eq_true,
    decide_eq_true_eq] at inside ⊢
  simp [inside]

theorem path_tail (path : Option (List Char)) : Tail (pathText path) := by
  cases path <;> simp [pathText, Tail]

theorem port_tail (port : Option Digits) (path : Option (List Char)) :
    Tail (portText port ++ pathText path) := by
  cases port with
  | none => exact path_tail path
  | some digits =>
    obtain ⟨text, some_text, inside⟩ := digits
    cases text with
    | nil => exact absurd rfl some_text
    | cons d text =>
      have other : d ≠ '/' := by
        rintro rfl
        have wrong := inside '/' List.mem_cons_self
        revert wrong
        decide
      simp [portText, Tail, other]

theorem find_pair_port (x : List Item) (port : Option Digits) (path : Option (List Char)) :
    findStringSubmatch (pair x) (portText port ++ pathText path) =
      findStringSubmatch (pair x) (pathText path) := by
  cases port with
  | none => rfl
  | some digits =>
    rw [portText, List.cons_append, pair_single, find_single_cons (by decide)]
    exact find_run_none (stops_dot _) (fun c member => digit_label (digits.inside c member))
      (path_tail path).ends ((path_tail path).no_dot _)

theorem find_scheme_port (items : List Item) (port : Option Digits) (path : Option (List Char)) :
    findStringSubmatch (withScheme items) (portText port ++ pathText path) =
      findStringSubmatch (withScheme items) (pathText path) := by
  cases port with
  | none => rfl
  | some digits =>
    rw [portText, List.cons_append, find_scheme_cons (by decide)]
    exact find_literal_skip fun t some_text ends =>
      scheme_not_in_label some_text
        (fun c member => digit_label (digits.inside c (ends.subset member)))
        (path_tail path).ends (path_tail path).no_scheme

def starred : Option (List Char) → Bool
  | some ('*' :: _) => true
  | _ => false

structure Label where
  text : List Char
  isLabel : IsLabel text

inductive Suffix where
  | bare
  | svc
  | clusterLocal
  deriving DecidableEq, Repr

def Suffix.segments : Suffix → List (List Char)
  | .bare => []
  | .svc => [HostExtraction.svc]
  | .clusterLocal => [HostExtraction.svc, cluster, localDomain]

/-- A host that names a service and a namespace, with a path or without. -/
structure Rendering where
  http : Bool
  service : Label
  ns : Label
  suffix : Suffix
  port : Option Digits
  path : Option (List Char)

namespace Rendering
variable (r : Rendering)

def rest : List Char := portText r.port ++ pathText r.path

def text : List Char := url r.http r.service.text (r.ns.text :: r.suffix.segments) r.rest

def kind : Nat :=
  match r.suffix, r.port with
  | .clusterLocal, some _ => if starred r.path then 0 else 1
  | .clusterLocal, none => 2
  | .svc, _ => 3
  | .bare, _ => 4

def ownSuffix : List Item := suffixes.getD r.kind []

def ownRegexp : List Item := if r.http then withScheme (pair r.ownSuffix) else pair r.ownSuffix

/-- The expressions that are tried before the first one that matches at the authority. -/
def earlier : List (List Item) :=
  (suffixes.take r.kind).flatMap both ++ if r.http then [] else [withScheme (pair r.ownSuffix)]

def later : List (List Item) :=
  (if r.http then [pair r.ownSuffix] else []) ++ (suffixes.drop (r.kind + 1)).flatMap both ++ singles

theorem kind_cases : r.kind = 0 ∨ r.kind = 1 ∨ r.kind = 2 ∨ r.kind = 3 ∨ r.kind = 4 := by
  unfold kind
  split
  · split <;> simp
  · simp
  · simp
  · simp

theorem regexps_split : regexps = r.earlier ++ r.ownRegexp :: r.later := by
  unfold earlier ownRegexp later ownSuffix
  rcases r.kind_cases with k | k | k | k | k <;> rw [k] <;> cases r.http <;> rfl

theorem rest_tail : Tail r.rest := port_tail r.port r.path

end Rendering

section Suffixes
variable {y : List Item} {rest : List Char}

theorem svcItems_here (segs : List (List Char)) :
    matchHere (svcItems ++ y) (dotted (svc :: segs) rest) = matchHere y (dotted segs rest) :=
  matchHere_literal ('.' :: svc) y (dotted segs rest)

theorem clusterItems_here :
    matchHere (clusterItems ++ y) (dotted [svc, cluster, localDomain] rest) = matchHere y rest := by
  rw [clusterItems, List.append_assoc, svcItems_here]
  exact matchHere_literal ('.' :: (cluster ++ '.' :: localDomain)) y rest

theorem svcItems_tail (tail : Tail rest) : matchHere (svcItems ++ y) rest = none := tail.no_dot _

theorem clusterItems_svc (tail : Tail rest) :
    matchHere (clusterItems ++ y) (dotted [svc] rest) = none := by
  rw [clusterItems, List.append_assoc, svcItems_here]
  exact tail.no_dot _

theorem svcItems_fails (suffix : Suffix) (tail : Tail rest) :
    Fails (svcItems ++ y) rest suffix.segments := by
  cases suffix with
  | bare => trivial
  | svc => exact ⟨svcItems_tail tail, trivial⟩
  | clusterLocal => exact ⟨rfl, rfl, svcItems_tail tail, trivial⟩

theorem colon_path (path : Option (List Char)) :
    matchHere (.char ':' :: y) (pathText path) = none := by
  cases path <;> rfl

theorem path_ends_digit (path : Option (List Char)) : Ends digit (pathText path) := by
  cases path with
  | none => exact ends_nil
  | some path => exact ends_cons.mpr (by decide)

theorem port_here (stops : Stops digit y) (digits : Digits) (path : Option (List Char)) :
    matchHere (.char ':' :: .run digit false :: y) (portText (some digits) ++ pathText path) =
      matchHere y (pathText path) := by
  rw [portText, List.cons_append, matchHere, if_pos rfl,
    matchHere_run stops digits.inside digits.some_text (path_ends_digit path)]
  exact Option.map_id'

end Suffixes

theorem suffix_shape {x : List Item} (member : x ∈ suffixes.take 4) : ∃ y, x = svcItems ++ y := by
  simp only [suffixes, clusterItems, List.take_succ_cons, List.take_zero, List.mem_cons,
    List.not_mem_nil, or_false] at member
  rcases member with rfl | rfl | rfl | rfl
  · exact ⟨_, by rw [List.append_assoc]⟩
  · exact ⟨_, by rw [List.append_assoc]⟩
  · exact ⟨_, rfl⟩
  · exact ⟨[], by rw [List.append_nil]⟩

theorem mem_pairs {kinds : List (List Item)} {re : List Item} :
    re ∈ kinds.flatMap both ↔ ∃ x ∈ kinds, re = withScheme (pair x) ∨ re = pair x := by
  simp [both]

theorem dot_shape {re : List Item} (member : re ∈ regexps.take 14) :
    ∃ items, re = single (.char '.' :: items) ∨ re = withScheme (single (.char '.' :: items)) := by
  have parts : regexps.take 14 = suffixes.flatMap both ++
      [clusterItems, svcItems].flatMap (fun x => [withScheme (single x), single x]) := rfl
  rw [parts] at member
  rcases List.mem_append.mp member with two_names | one_name
  · obtain ⟨x, -, rfl | rfl⟩ := mem_pairs.mp two_names
    · exact ⟨_, .inr rfl⟩
    · exact ⟨_, .inl rfl⟩
  · obtain ⟨x, domains, either⟩ := List.mem_flatMap.mp one_name
    simp only [List.mem_cons, List.not_mem_nil, or_false] at domains either
    rcases domains with rfl | rfl <;> rcases either with rfl | rfl
    · exact ⟨_, .inr rfl⟩
    · exact ⟨_, .inl rfl⟩
    · exact ⟨_, .inr rfl⟩
    · exact ⟨_, .inl rfl⟩

theorem suffix_stops {x : List Item} (member : x ∈ suffixes) : Stops label x := by
  simp only [suffixes, List.mem_cons, List.not_mem_nil, or_false] at member
  rcases member with rfl | rfl | rfl | rfl | rfl <;> first | exact stops_dot _ | trivial

theorem star_here (path : Option (List Char)) :
    matchHere (literal ['/', '*']) (pathText path) = if starred path then some [] else none := by
  cases path with
  | none => rfl
  | some path =>
    cases path with
    | nil => rfl
    | cons c path =>
      by_cases star : c = '*'
      · subst star
        rfl
      · simp [literal, pathText, matchHere, starred, star]

theorem starPort_here (digits : Digits) (path : Option (List Char)) :
    matchHere (clusterItems ++ .char ':' :: .run digit false :: literal ['/', '*'])
        (dotted [svc, cluster, localDomain] (portText (some digits) ++ pathText path)) =
      if starred path then some [] else none := by
  have stops : Stops digit (literal ['/', '*']) := show inRanges digit '/' = false by decide
  rw [clusterItems_here, port_here stops, star_here]

theorem barePort_here (digits : Digits) (path : Option (List Char)) :
    matchHere (clusterItems ++ [.char ':', .run digit false])
        (dotted [svc, cluster, localDomain] (portText (some digits) ++ pathText path)) = some [] := by
  have stops : Stops digit [] := trivial
  rw [clusterItems_here, port_here stops]
  rfl

theorem segments_labels (suffix : Suffix) : ∀ seg ∈ suffix.segments, IsLabel seg := by
  cases suffix <;> simp [Suffix.segments, IsLabel, svc, cluster, localDomain, label, inRanges]

namespace Rendering
variable (r : Rendering)

theorem own_hit : matchHere r.ownSuffix (dotted r.suffix.segments r.rest) = some [] := by
  obtain ⟨http, service, ns, suffix, port, path⟩ := r
  cases suffix with
  | bare => rfl
  | svc => exact svcItems_here []
  | clusterLocal =>
    cases port with
    | none => exact clusterItems_here
    | some digits =>
      show matchHere (suffixes.getD (if starred path then 0 else 1) []) _ = some []
      have here := starPort_here digits path
      cases star : starred path with
      | false => exact barePort_here digits path
      | true =>
        rw [star] at here
        exact here

theorem earlier_miss {x : List Item} (member : x ∈ suffixes.take r.kind) :
    matchHere x (dotted r.suffix.segments r.rest) = none := by
  have tail := r.rest_tail
  obtain ⟨http, service, ns, suffix, port, path⟩ := r
  cases suffix with
  | bare =>
    obtain ⟨y, rfl⟩ := suffix_shape member
    exact svcItems_tail tail
  | svc =>
    simp only [kind, suffixes, List.take_succ_cons, List.take_zero, List.mem_cons,
      List.not_mem_nil, or_false] at member
    rcases member with rfl | rfl | rfl
    · exact clusterItems_svc tail
    · exact clusterItems_svc tail
    · exact clusterItems_svc tail
  | clusterLocal =>
    cases port with
    | none =>
      simp only [kind, suffixes, List.take_succ_cons, List.take_zero, List.mem_cons,
        List.not_mem_nil, or_false] at member
      rcases member with rfl | rfl
      · exact clusterItems_here.trans (colon_path path)
      · exact clusterItems_here.trans (colon_path path)
    | some digits =>
      cases star : starred path with
      | true => simp [kind, star] at member
      | false =>
        simp only [kind, star, Bool.false_eq_true, if_false, suffixes, List.take_succ_cons,
          List.take_zero, List.mem_cons, List.not_mem_nil, or_false] at member
        subst member
        have here := starPort_here digits path
        rw [star] at here
        exact here

theorem kind_le : r.kind ≤ 4 := by
  rcases r.kind_cases with k | k | k | k | k <;> rw [k] <;> decide

theorem ownSuffix_mem : r.ownSuffix ∈ suffixes := by
  unfold ownSuffix
  rcases r.kind_cases with k | k | k | k | k <;> rw [k] <;> simp [suffixes]

theorem labels : ∀ seg ∈ r.ns.text :: r.suffix.segments, IsLabel seg := by
  intro seg member
  rcases List.mem_cons.mp member with rfl | later
  · exact r.ns.isLabel
  · exact segments_labels r.suffix seg later

theorem earlier_in_path {re : List Item} (member : re ∈ r.earlier) :
    findStringSubmatch re r.text = findStringSubmatch re (pathText r.path) := by
  have inside := r.service.isLabel.2
  rcases List.mem_append.mp member with before | own
  · obtain ⟨x, kinds, either⟩ := mem_pairs.mp before
    have miss := r.earlier_miss kinds
    have shape : x ∈ suffixes.take 4 := (List.take_subset_take_left suffixes r.kind_le) kinds
    have stops := suffix_stops (List.take_subset 4 suffixes shape)
    obtain ⟨y, rfl⟩ := suffix_shape shape
    have names := find_names_miss r.http stops r.service.isLabel r.labels r.rest_tail
      ⟨miss, svcItems_fails r.suffix r.rest_tail⟩ either
    rcases either with rfl | rfl
    · exact names.trans (find_scheme_port _ r.port r.path)
    · exact names.trans (find_pair_port _ r.port r.path)
  · cases http : r.http with
    | true => simp [http] at own
    | false =>
      simp only [http, Bool.false_eq_true, if_false, List.mem_singleton] at own
      subst own
      refine (find_scheme_miss r.http inside r.labels r.rest_tail fun wrong => ?_).trans
        (find_scheme_port _ r.port r.path)
      simp [http] at wrong

theorem own_found : findStringSubmatch r.ownRegexp r.text = some [r.service.text, r.ns.text] := by
  have stops := suffix_stops r.ownSuffix_mem
  unfold ownRegexp text
  cases r.http with
  | true => exact find_scheme_hit stops r.service.isLabel r.ns.isLabel r.rest_tail r.own_hit
  | false => exact find_pair_hit false stops r.service.isLabel r.ns.isLabel r.rest_tail r.own_hit

theorem earlier_pairs {re : List Item} (member : re ∈ r.earlier) : re ∈ suffixes.flatMap both := by
  rcases List.mem_append.mp member with before | own
  · obtain ⟨x, kinds, either⟩ := List.mem_flatMap.mp before
    exact List.mem_flatMap.mpr ⟨x, List.take_subset r.kind suffixes kinds, either⟩
  · have here : re ∈ both r.ownSuffix := by
      cases http : r.http <;> simp_all [both]
    exact List.mem_flatMap.mpr ⟨r.ownSuffix, r.ownSuffix_mem, here⟩

theorem earlier_two {re : List Item} (member : re ∈ r.earlier) : groupCount re = 2 := by
  have pairs : ∀ re ∈ suffixes.flatMap both, groupCount re = 2 := by decide
  exact pairs re (r.earlier_pairs member)

end Rendering

theorem extractLoop_skip {text : List Char} {first : List (List Item)} (rest : List (List Item))
    (nothing : ∀ re ∈ first, findStringSubmatch re text = none) :
    extractLoop text (first ++ rest) = extractLoop text rest := by
  induction first with
  | nil => rfl
  | cons re first ih =>
    simp only [List.cons_append, extractLoop, nothing re List.mem_cons_self]
    exact ih fun other member => nothing other (List.mem_cons_of_mem re member)

theorem extractLoop_pairs {text part : List Char} {first : List (List Item)}
    (rest : List (List Item)) (two : ∀ re ∈ first, groupCount re = 2)
    (same : ∀ re ∈ first, findStringSubmatch re text = findStringSubmatch re part) :
    (first.findSome? (findStringSubmatch · part) = none ∧
      extractLoop text (first ++ rest) = extractLoop text rest) ∨
    ∃ serviceName ns, first.findSome? (findStringSubmatch · part) = some [serviceName, ns] ∧
      extractLoop text (first ++ rest) = ⟨serviceName, ns, none⟩ := by
  -- expressions with two groups end the loop with what the first of them finds
  induction first with
  | nil => exact .inl ⟨rfl, rfl⟩
  | cons re first ih =>
    have here := same re List.mem_cons_self
    cases found : findStringSubmatch re part with
    | none =>
      have goes_on : extractLoop text (re :: first ++ rest) = extractLoop text (first ++ rest) := by
        simp only [List.cons_append, extractLoop, here, found]
      rw [goes_on, List.findSome?_cons, found]
      exact ih (fun other member => two other (List.mem_cons_of_mem re member))
        fun other member => same other (List.mem_cons_of_mem re member)
    | some groups =>
      obtain ⟨serviceName, ns, rfl⟩ := List.length_eq_two.mp
        ((find_groups found).trans (two re List.mem_cons_self))
      refine .inr ⟨serviceName, ns, by rw [List.findSome?_cons, found], ?_⟩
      simp only [List.cons_append, extractLoop, here, found]

theorem extract_rendering_iff (r : Rendering) :
    extractNamespaceAndService r.text = ⟨r.service.text, r.ns.text, none⟩ ↔
      ∀ found ∈ r.earlier.findSome? (findStringSubmatch · (pathText r.path)),
        found = [r.service.text, r.ns.text] := by
  have own : extractLoop r.text (r.ownRegexp :: r.later) =
      ⟨r.service.text, r.ns.text, none⟩ := by
    simp only [extractLoop, r.own_found]
  rw [extract_regexps, r.regexps_split]
  rcases extractLoop_pairs (r.ownRegexp :: r.later) (fun re => r.earlier_two)
    (fun re => r.earlier_in_path) with ⟨nothing, goes_on⟩ | ⟨serviceName, ns, found, returned⟩
  · simp [nothing, goes_on, own]
  · simp [found, returned]

theorem pair_dot {re : List Item} (member : re ∈ suffixes.flatMap both) : .char '.' ∈ re := by
  obtain ⟨x, -, rfl | rfl⟩ := mem_pairs.mp member
  · simp [withScheme, pair]
  · simp [pair]

theorem extract_dotless (r : Rendering) (dotless : ∀ path ∈ r.path, '.' ∉ path) :
    extractNamespaceAndService r.text = ⟨r.service.text, r.ns.text, none⟩ := by
  rw [extract_rendering_iff]
  intro found member
  obtain ⟨re, earlier, here⟩ := List.exists_of_findSome?_eq_some member
  have in_path := mem_of_find here (pair_dot (r.earlier_pairs earlier))
  cases path : r.path with
  | none => simp [path, pathText] at in_path
  | some text => exact absurd (by simpa [path, pathText] using in_path) (dotless text path)

/-- A host that names a service alone. -/
structure Nameless where
  http : Bool
  service : Label
  suffix : Suffix

namespace Nameless
variable (m : Nameless)

def text : List Char := url m.http m.service.text m.suffix.segments []

theorem nil_tail : Tail [] := .inl rfl

theorem labels : ∀ seg ∈ m.suffix.segments, IsLabel seg := segments_labels m.suffix

section Domain
variable {more : List (List Char)} (segs : m.suffix.segments = svc :: more)
include segs

theorem four_kinds {re : List Item} (member : re ∈ (suffixes.take 4).flatMap both) :
    findStringSubmatch re m.text = none := by
  have nothing : ∀ re ∈ (suffixes.take 4).flatMap both, findStringSubmatch re [] = none := by decide
  obtain ⟨x, kinds, either⟩ := mem_pairs.mp member
  have stops := suffix_stops (List.take_subset 4 suffixes kinds)
  obtain ⟨y, rfl⟩ := suffix_shape kinds
  have fails : Fails (svcItems ++ y) [] m.suffix.segments := svcItems_fails m.suffix nil_tail
  have labels := m.labels
  rw [segs] at fails labels
  rw [text, segs, find_names_miss m.http stops m.service.isLabel labels nil_tail fails either]
  exact nothing re member

theorem extract_domain : extractNamespaceAndService m.text = ⟨m.service.text, svc, none⟩ := by
  have svc_label := m.labels svc (by simp [segs])
  have bare : findStringSubmatch (pair []) m.text = some [m.service.text, svc] := by
    rw [text, segs]
    exact find_pair_hit m.http stops_nil m.service.isLabel svc_label nil_tail rfl
  have with_scheme : findStringSubmatch (withScheme (pair [])) m.text =
      if m.http then some [m.service.text, svc] else none := by
    rw [text, segs]
    cases m.http with
    | true => exact find_scheme_hit stops_nil m.service.isLabel svc_label nil_tail rfl
    | false =>
      exact find_scheme_miss false m.service.isLabel.2 (segs ▸ m.labels) nil_tail (by simp)
  have skipped : extractNamespaceAndService m.text = extractLoop m.text (both [] ++ singles) :=
    (extract_regexps m.text).trans (extractLoop_skip (both [] ++ singles) fun re => m.four_kinds segs)
  rw [skipped]
  simp only [both, List.cons_append, extractLoop, with_scheme, bare]
  cases m.http <;> rfl

end Domain

section Bare
variable (bare : m.suffix = .bare)
include bare

theorem single_bare (items : List Item) :
    findStringSubmatch (single (.char '.' :: items)) m.text = none := by
  have alone : findStringSubmatch (single (.char '.' :: items)) (m.service.text ++ []) = none :=
    find_run_none (stops_dot _) m.service.isLabel.2 ends_nil rfl
  rw [text, bare]
  cases m.http with
  | true => exact (find_single_scheme _ _).trans alone
  | false => exact alone

theorem scheme_single_bare (items : List Item) :
    findStringSubmatch (withScheme (single (.char '.' :: items))) m.text = none := by
  rw [text, bare]
  exact find_scheme_miss m.http m.service.isLabel.2 (by simp [Suffix.segments]) nil_tail fun _ =>
    matchHere_run (stops_dot _) m.service.isLabel.2 m.service.isLabel.1 ends_nil

theorem extract_bare : extractNamespaceAndService m.text =
    ⟨m.service.text, "default".toList, some (.namespaceNotFound m.text)⟩ := by
  -- with nothing behind the service, only the last pattern of each form finds it
  have dots : ∀ re ∈ regexps.take 14, findStringSubmatch re m.text = none := by
    intro re member
    obtain ⟨items, rfl | rfl⟩ := dot_shape member
    · exact m.single_bare bare items
    · exact m.scheme_single_bare bare items
  have alone : matchHere (single []) (m.service.text ++ []) = some [m.service.text] :=
    matchHere_run stops_nil m.service.isLabel.2 m.service.isLabel.1 ends_nil
  have skipped : extractNamespaceAndService m.text =
      extractLoop m.text [withScheme (single []), single []] :=
    (extract_regexps m.text).trans (extractLoop_skip _ dots)
  rw [skipped]
  cases http : m.http with
  | true =>
    have here : findStringSubmatch (withScheme (single [])) m.text = some [m.service.text] := by
      rw [text, http, bare]
      exact find_here ((matchHere_literal _ _ _).trans alone)
    simp only [extractLoop, here]
  | false =>
    have no_scheme : findStringSubmatch (withScheme (single [])) m.text = none := by
      rw [text, http]
      exact find_scheme_miss false m.service.isLabel.2 m.labels nil_tail (by simp)
    have here : findStringSubmatch (single []) m.text = some [m.service.text] := by
      rw [text, http, bare]
      exact find_here alone
    simp only [extractLoop, no_scheme, here]

end Bare

theorem extract_nameless_iff :
    (∃ shown, (extractNamespaceAndService m.text).err = some (.namespaceNotFound shown)) ↔
      m.suffix = .bare := by
  cases suffix : m.suffix with
  | bare => simp [m.extract_bare suffix]
  | svc =>
    have segs : m.suffix.segments = svc :: [] := by rw [suffix]; rfl
    simp [m.extract_domain segs]
  | clusterLocal =>
    have segs : m.suffix.segments = svc :: [cluster, localDomain] := by rw [suffix]; rfl
    simp [m.extract_domain segs]

end Nameless

/-- Both names are read from a host unless an earlier pattern finds others in its path. A host
    without a namespace is refused only if it is the service's name alone: the patterns for the
    domain of services behind it come after those that take the domain for a namespace. -/
theorem extraction_iff (r : Rendering) (m : Nameless) :
    (extractNamespaceAndService r.text = ⟨r.service.text, r.ns.text, none⟩ ↔
      ∀ found ∈ r.earlier.findSome? (findStringSubmatch · (pathText r.path)),
        found = [r.service.text, r.ns.text]) ∧
    ((∃ shown, (extractNamespaceAndService m.text).err = some (.namespaceNotFound shown)) ↔
      m.suffix = .bare) :=
  ⟨extract_rendering_iff r, m.extract_nameless_iff⟩

def cartLabel : Label := ⟨"cart".toList, by simp [IsLabel, inRanges, label]⟩

def cartPort : Digits := ⟨"8080".toList, by decide, by simp [inRanges, digit]⟩

def cartInShop : Rendering where
  http := true
  service := cartLabel
  ns := ⟨"shop".toList, by simp [IsLabel, inRanges, label]⟩
  suffix := .svc
  port := some cartPort
  path := some "items".toList

def cartAlone : Nameless := ⟨true, cartLabel, .bare⟩

theorem cart_extracted :
    cartInShop.text = "http://cart.shop.svc:8080/items".toList ∧
    extractNamespaceAndService cartInShop.text = ⟨"cart".toList, "shop".toList, none⟩ ∧
    cartAlone.text = "http://cart".toList ∧
    ∃ shown, (extractNamespaceAndService cartAlone.text).err = some (.namespaceNotFound shown) :=
  ⟨by decide, (extraction_iff cartInShop cartAlone).1.mpr (by decide +kernel), by decide,
    (extraction_iff cartInShop cartAlone).2.mpr rfl⟩

theorem shop_read_from_path :
    extractNamespaceAndService "cart.shop/old.site.svc".toList =
      ⟨"old".toList, "site".toList, none⟩ ∧
    extractNamespaceAndService "cart.svc".toList = ⟨"cart".toList, "svc".toList, none⟩ := by
  rw [extract_regexps, extract_regexps]
  decide +kernel

end HostExtraction
