import Elasti.GoURL

/- Where ProxyRequest sends a request: the target host and the raw request-target, joined and
   parsed again. The server has parsed the request-target by itself before. -/
namespace ProxyTarget
open GoURL

/-- The authority of a target host: the text up to the first delimiter, which parses. -/
structure Authority (rules : Rules) where
  text : List Char
  host : List Char
  plain : ∀ c ∈ text, c ≠ '/' ∧ c ≠ '?' ∧ c ≠ '#'
  clean : text.any isCTL = false
  read : rules.host text = .ok host

variable {rules : Rules}

def targetHost (a : Authority rules) : List Char := http ++ ':' :: '/' :: '/' :: a.text

def proxyURL (rules : Rules) (targetHost requestURI : List Char) : Except String URL :=
  match parseURL rules (targetHost ++ requestURI) with
  | .error text => .error ("error parsing target URL: " ++ text)
  | .ok u => .ok u

def Forwards (a : Authority rules) (requestURI : List Char) (r : URL) : Prop :=
  ∃ u, proxyURL rules (targetHost a) requestURI = .ok u ∧
    u.scheme = http ∧ u.authority = some a.text ∧ u.host = a.host ∧
    u.path = r.path ∧ u.rawQuery = r.rawQuery ∧ u.forceQuery = r.forceQuery

theorem proxyURL_ok {base requestURI : List Char} {u : URL}
    (ok : proxyURL rules base requestURI = .ok u) : parseURL rules (base ++ requestURI) = .ok u := by
  unfold proxyURL at ok
  split at ok
  · simp at ok
  · rename_i parsed read
    cases ok
    exact read

theorem parseRequestURI_ok {raw : List Char} {r : URL}
    (ok : parseRequestURI rules raw = .ok r) : parse rules true raw = .ok r := by
  unfold parseRequestURI at ok
  split at ok
  · simp at ok
  · rename_i parsed read
    cases ok
    exact read

theorem parseURL_ok {raw : List Char} {u : URL} (ok : parseURL rules raw = .ok u) :
    ∃ v, parse rules false (upTo '#' raw) = .ok v ∧ u = { v with fragment := u.fragment } := by
  unfold parseURL at ok
  split at ok
  · simp at ok
  · rename_i v read
    split at ok
    · cases ok
      exact ⟨u, read, rfl⟩
    · split at ok
      · simp at ok
      · cases ok
        exact ⟨v, read, rfl⟩

section Target
variable (a : Authority rules) {t : List Char} {r : URL}

theorem targetHost_no_hash : '#' ∉ targetHost a := by
  have authority : '#' ∉ a.text := fun member => (a.plain '#' member).2.2 rfl
  simp [targetHost, http, authority]

theorem authority_plain : ∀ c ∈ a.text, c ≠ '/' ∧ c ≠ '?' :=
  fun c member => ⟨(a.plain c member).1, (a.plain c member).2.1⟩

theorem proxyURL_cut (requestURI : List Char) :
    upTo '#' (targetHost a ++ requestURI) = targetHost a ++ upTo '#' requestURI :=
  upTo_append (targetHost_no_hash a)

theorem proxyURL_authority {requestURI : List Char} {u : URL}
    (ok : proxyURL rules (targetHost a) requestURI = .ok u) :
    u.authority = some (a.text ++ upTo '/' (upTo '?' (upTo '#' requestURI))) := by
  have no_slash : '/' ∉ a.text := fun member => (a.plain '/' member).1 rfl
  have no_query : '?' ∉ a.text := fun member => (a.plain '?' member).2.1 rfl
  have reads := (parseURL_reads (proxyURL_ok ok)).1
  rw [proxyURL_cut, targetHost, List.append_assoc, List.cons_append, List.cons_append,
    List.cons_append, authorityOf_http, upTo_append no_query, upTo_append no_slash] at reads
  exact reads

theorem proxyURL_origin_form {u : URL} (ok : proxyURL rules (targetHost a) ('/' :: t) = .ok u) :
    u.path = '/' :: upTo '?' (upTo '#' t) ∧ u.rawQuery = after '?' ('/' :: upTo '#' t) := by
  obtain ⟨v, read, same⟩ := parseURL_ok (proxyURL_ok ok)
  rw [proxyURL_cut, upTo_cons, if_neg (by decide), targetHost, List.append_assoc] at read
  simp only [List.cons_append] at read
  rw [parse_http (authority_plain a) a.read (parse_clean read)] at read
  obtain ⟨_, rfl⟩ := finish_ok read
  rw [same]
  exact ⟨rfl, (cutQuery_parts _).2⟩

theorem origin_form_reads (ok : parse rules true ('/' :: t) = .ok r) :
    rules.checkPath ('/' :: upTo '?' t) = .ok () ∧ r.path = '/' :: upTo '?' t ∧
      r.rawQuery = (cutQuery ('/' :: t)).rawQuery ∧
      r.forceQuery = (cutQuery ('/' :: t)).forceQuery := by
  rw [parse_origin_form (parse_clean ok)] at ok
  obtain ⟨valid, rfl⟩ := finish_ok ok
  exact ⟨valid, rfl, rfl, rfl⟩

theorem forwards_origin_form (accepted : parse rules true ('/' :: t) = .ok r)
    (no_hash : '#' ∉ '/' :: t) : Forwards a ('/' :: t) r := by
  obtain ⟨valid, path, query, force⟩ := origin_form_reads accepted
  have clean : (http ++ ':' :: '/' :: '/' :: (a.text ++ '/' :: t)).any isCTL = false := by
    have letters : http.any isCTL = false := by decide
    have marks : isCTL ':' = false ∧ isCTL '/' = false := by decide
    have target := parse_clean accepted
    simp only [List.any_append, List.any_cons, letters, marks, a.clean, Bool.false_or] at target ⊢
    exact target
  have whole : targetHost a ++ '/' :: t = http ++ ':' :: '/' :: '/' :: (a.text ++ '/' :: t) := by
    simp [targetHost]
  have absent : '#' ∉ targetHost a ++ '/' :: t := by
    simp only [List.mem_append, not_or]
    exact ⟨targetHost_no_hash a, no_hash⟩
  refine ⟨⟨http, [], some a.text, a.host, '/' :: upTo '?' t, (cutQuery ('/' :: t)).rawQuery,
    (cutQuery ('/' :: t)).forceQuery, []⟩, ?_, rfl, rfl, rfl, path.symm, query.symm, force.symm⟩
  rw [whole] at absent
  simp only [proxyURL, whole, parseURL, upTo_of_not_mem absent, after_of_not_mem absent,
    parse_http (authority_plain a) a.read clean, finish, valid, if_true]

/-- A request-target is forwarded as it was read exactly if it is in origin-form and holds no
    hash. In absolute-form its scheme becomes part of the authority; after a hash its path and
    query are dropped. -/
theorem forwards_iff (a : Authority rules) (requestURI : List Char) (r : URL)
    (accepted : parseRequestURI rules requestURI = .ok r) :
    Forwards a requestURI r ↔ requestURI.head? = some '/' ∧ '#' ∉ requestURI := by
  have parsed := parseRequestURI_ok accepted
  constructor
  · rintro ⟨u, ok, _, authority, _, path, query, _⟩
    obtain ⟨c, t, rfl, starts⟩ := parse_request_head parsed
    have slash : c = '/' := by
      have ends := (proxyURL_authority a ok).symm.trans authority
      have nothing : upTo '/' (upTo '?' (upTo '#' (c :: t))) = [] := by simpa using ends
      by_contra other
      rcases starts with slash | letter | rfl
      · exact other slash
      · have delimiter : c = '#' ∨ c = '?' := by
          by_contra neither
          obtain ⟨hash, mark⟩ := not_or.mp neither
          simp [upTo_cons, hash, mark, other] at nothing
        rcases delimiter with rfl | rfl <;> simp [isLetter] at letter
      · simp [upTo_cons] at nothing
    subst slash
    refine ⟨rfl, fun hash => ?_⟩
    obtain ⟨path_u, query_u⟩ := proxyURL_origin_form a ok
    obtain ⟨_, path_r, query_r, _⟩ := origin_form_reads parsed
    rw [path_u, path_r] at path
    rw [query_u, query_r, (cutQuery_parts _).2] at query
    have absent : '#' ∉ '/' :: upTo '#' t := by simp [not_mem_upTo]
    rcases mem_upTo_or_after hash (show '#' ≠ '?' by decide) with in_path | in_query
    · rw [upTo_cons, if_neg (by decide), ← path] at in_path
      exact absent (List.cons_subset_cons '/' (fun c => mem_of_mem_upTo) in_path)
    · rw [← query] at in_query
      exact absent (mem_of_mem_after in_query)
  · rintro ⟨slash, no_hash⟩
    obtain ⟨t, rfl⟩ := List.head?_eq_some_iff.mp slash
    exact forwards_origin_form a parsed no_hash

end Target

def privateService : Authority lenient where
  text := "elasti-cart-pvt.shop.svc".toList
  host := "elasti-cart-pvt.shop.svc".toList
  plain := by simp
  clean := by decide
  read := rfl

theorem cart_page_forwarded :
    ∃ r, parseRequestURI lenient "/cart?item=7".toList = .ok r ∧
      Forwards privateService "/cart?item=7".toList r := by
  refine ⟨⟨[], [], none, [], "/cart".toList, "item=7".toList, false, []⟩, by decide, ?_⟩
  exact (forwards_iff privateService "/cart?item=7".toList _ (by decide)).mpr (by decide)

/-- In absolute-form the request leaves for another host name; after a hash the rest of the
    target is not sent. Both targets are accepted by the server. -/
theorem targets_changed :
    (∃ r, parseRequestURI lenient "http://cart.shop/cart".toList = .ok r ∧
      r.path = "/cart".toList) ∧
    (∃ u, proxyURL lenient (targetHost privateService) "http://cart.shop/cart".toList = .ok u ∧
      u.authority = some "elasti-cart-pvt.shop.svchttp:".toList ∧
      u.path = "//cart.shop/cart".toList) ∧
    (∃ r, parseRequestURI lenient "/cart?item=#7".toList = .ok r ∧ r.rawQuery = "item=#7".toList) ∧
    ∃ u, proxyURL lenient (targetHost privateService) "/cart?item=#7".toList = .ok u ∧
      u.rawQuery = "item=".toList := by
  refine ⟨⟨⟨http, [], some "cart.shop".toList, "cart.shop".toList, "/cart".toList, [], false, []⟩,
    by decide +kernel, rfl⟩, ⟨⟨http, [], some "elasti-cart-pvt.shop.svchttp:".toList,
    "elasti-cart-pvt.shop.svchttp:".toList, "//cart.shop/cart".toList, [], false, []⟩, by decide +kernel,
    rfl, rfl⟩, ⟨⟨[], [], none, [], "/cart".toList, "item=#7".toList, false, []⟩, by decide +kernel, rfl⟩,
    ⟨http, [], some "elasti-cart-pvt.shop.svc".toList, "elasti-cart-pvt.shop.svc".toList,
      "/cart".toList, "item=".toList, false, "7".toList⟩, by decide +kernel, rfl⟩

end ProxyTarget
