import Elasti.GoURL
import Elasti.HostExtraction
import Elasti.HostTraffic

/- GetHost: the host a request is sent on to. The service and the namespace are read by the
   patterns of extractNamespaceAndService; the target replaces whatever stands before the first
   dot. Hosts are cached, and the traffic switch writes its two fields at any time. -/
namespace HostTarget
open GoURL GoRegexp HostExtraction

def secureScheme : List Char := ['h', 't', 't', 'p', 's', ':', '/', '/']

def addHTTPIfNeeded (serviceURL : List Char) : List Char :=
  if !scheme.isPrefixOf serviceURL && !secureScheme.isPrefixOf serviceURL then scheme ++ serviceURL
  else serviceURL

def removeTrailingWildcardIfNeeded (serviceURL : List Char) : List Char :=
  if ['/', '*'].isSuffixOf serviceURL then serviceURL.take (serviceURL.length - 2) else serviceURL

def removeTrailingPathIfNeeded (serviceURL : List Char) : List Char :=
  if '/' ∈ serviceURL then upTo '/' serviceURL else serviceURL

def replaceServiceName (serviceURL newServiceName : List Char) : List Char :=
  let parts := serviceURL.splitOn '.'
  if parts.length < 3 then serviceURL else ['.'].intercalate (parts.set 0 newServiceName)

def namePrefix : List Char := ['e', 'l', 'a', 's', 't', 'i', '-']

def privateServicePostfix : List Char := ['-', 'p', 'v', 't']

def hashLength : Nat := 10

def maxServiceNameLength : Nat := 63

structure Host extends HostManager.Host where
  incomingHost : List Char
  ns : List Char
  sourceService : List Char
  targetService : List Char
  sourceHost : List Char
  targetHost : List Char
  deriving DecidableEq, Repr

/-- The host of a request, and the values of the header that is configured to name the host,
    if the request has it: then it comes with at least one value. -/
structure Request where
  host : List Char
  hostHeader : Option (List Char × List (List Char))

abbrev Hosts := List Char → Option Host

section HostManager
variable (hashed : List Char → List Char)

def buildName (name postfixText : List Char) (maxLength : Nat) : List Char :=
  let overhead := namePrefix.length + postfixText.length + 1 + hashLength
  let maxNameLength := maxLength - overhead
  let shown := if name.length > maxNameLength then (name.take maxNameLength).rdropWhile (· == '-')
    else name
  namePrefix ++ shown ++ postfixText ++ '-' :: hashed name

def getPrivateServiceName (publicSVCName : List Char) : List Char :=
  buildName hashed publicSVCName privateServicePostfix maxServiceNameLength

def incomingHost (req : Request) : List Char :=
  match req.hostHeader with
  | some (value, _) => value
  | none => req.host

def hostFrom (incoming : List Char) (read : Extracted) : Except ExtractErr Host :=
  match read.err with
  | some err => .error err
  | none =>
    let targetService := getPrivateServiceName hashed read.serviceName
    let sourceHost := addHTTPIfNeeded
      (removeTrailingPathIfNeeded (removeTrailingWildcardIfNeeded incoming))
    let targetHost := addHTTPIfNeeded (replaceServiceName sourceHost targetService)
    .ok ⟨⟨true, false⟩, incoming, read.ns, read.serviceName, targetService, sourceHost, targetHost⟩

def newHost (incoming : List Char) : Except ExtractErr Host :=
  hostFrom hashed incoming (extractNamespaceAndService incoming)

def getHost (hosts : Hosts) (req : Request) : Except ExtractErr Host × Hosts :=
  let incoming := incomingHost req
  match hosts incoming with
  | some host => (.ok host, hosts)
  | none =>
    match newHost hashed incoming with
    | .error err => (.error err, hosts)
    | .ok host => (.ok host, Function.update hosts incoming (some host))

/-- A request is answered, one that found nothing cached stores its host only now, or the
    traffic switch leaves its two fields of a cached host in some state. -/
inductive Move where
  | request (req : Request)
  | lateStore (req : Request)
  | traffic (name : List Char) (fields : HostManager.Host)

def moved (hosts : Hosts) : Move → Hosts
  | .request req => (getHost hashed hosts req).2
  | .lateStore req =>
    match newHost hashed (incomingHost req) with
    | .error _ => hosts
    | .ok host => Function.update hosts (incomingHost req) (some host)
  | .traffic name fields =>
    Function.update hosts name ((hosts name).map fun host => { host with toHost := fields })

end HostManager

def shownAuthority (incoming : List Char) : List Char := upTo '/' incoming

section Target
variable (hashed : List Char → List Char)

/-- What stands behind the namespace is more labels or a port, and nothing in it ends the
    authority or makes a user of what stands before it. -/
def FollowsNs (rest : List Char) : Prop :=
  (rest = [] ∨ rest.head? = some '.' ∨ rest.head? = some ':') ∧
    '@' ∉ rest ∧ '?' ∉ rest ∧ '#' ∉ rest

instance (rest : List Char) : Decidable (FollowsNs rest) := inferInstanceAs (Decidable (_ ∧ _))

/-- The service and the namespace that are read stand on the two sides of the first dot, with
    labels or a port behind them, and there is another dot before any slash. -/
structure NamedAtFirstDot (incoming : List Char) : Prop where
  dots : 2 ≤ (shownAuthority incoming).count '.'
  service : (extractNamespaceAndService incoming).serviceName <:+ upTo '.' (shownAuthority incoming)
  namesNs : (extractNamespaceAndService incoming).ns <+: after '.' (shownAuthority incoming)
  ends : FollowsNs ((after '.' (shownAuthority incoming)).drop
    (extractNamespaceAndService incoming).ns.length)
  other : getPrivateServiceName hashed (extractNamespaceAndService incoming).serviceName ≠
    upTo '.' (shownAuthority incoming)

theorem no_scheme_of_dot {incoming : List Char} (dot : '.' ∈ shownAuthority incoming) :
    scheme.isPrefixOf incoming = false ∧ secureScheme.isPrefixOf incoming = false := by
  constructor
  · rw [Bool.eq_false_iff]
    intro starts
    obtain ⟨rest, rfl⟩ := List.isPrefixOf_iff_prefix.mp starts
    have cut : shownAuthority (scheme ++ rest) = ['h', 't', 't', 'p', ':'] := rfl
    rw [cut] at dot
    revert dot
    decide
  · rw [Bool.eq_false_iff]
    intro starts
    obtain ⟨rest, rfl⟩ := List.isPrefixOf_iff_prefix.mp starts
    have cut : shownAuthority (secureScheme ++ rest) = ['h', 't', 't', 'p', 's', ':'] := rfl
    rw [cut] at dot
    revert dot
    decide

end Target

section Renderings
variable {c : Char} {segs : List (List Char)} {rest : List Char}

theorem not_mem_label {text : List Char} (isLabel : IsLabel text)
    (other : inRanges label c = false) : c ∉ text := by
  intro member
  rw [isLabel.2 c member] at other
  contradiction

theorem not_mem_port (port : Option Digits) (other : inRanges label c = false) (colon : c ≠ ':') :
    c ∉ portText port := by
  cases port with
  | none => simp [portText]
  | some digits =>
    intro member
    rcases List.mem_cons.mp member with here | inside
    · exact colon here
    · rw [digit_label (digits.inside c inside)] at other
      contradiction

theorem dotted_append (segs : List (List Char)) (rest more : List Char) :
    dotted segs (rest ++ more) = dotted segs rest ++ more := by
  induction segs with
  | nil => rfl
  | cons seg segs ih => simp [dotted, ih]

theorem count_dotted (labels : ∀ seg ∈ segs, IsLabel seg) (other : inRanges label c = false)
    (absent : c ∉ rest) : (dotted segs rest).count c = if c = '.' then segs.length else 0 := by
  induction segs with
  | nil => simp [dotted, List.count_eq_zero_of_not_mem absent]
  | cons seg segs ih =>
    have own := List.count_eq_zero_of_not_mem (not_mem_label (labels seg List.mem_cons_self) other)
    have later := ih fun other member => labels other (List.mem_cons_of_mem seg member)
    rw [dotted, List.count_cons, List.count_append, own, later]
    by_cases dot : c = '.'
    · simp [dot]
    · simp [dot, Ne.symm dot]

theorem shown_rendering (r : Rendering) (plain : r.http = false) : shownAuthority r.text =
    r.service.text ++ dotted (r.ns.text :: r.suffix.segments) (portText r.port) := by
  have slash : inRanges label '/' = false := by decide
  have names := count_dotted r.labels slash (not_mem_port r.port slash (by decide))
  have absent : '/' ∉ r.service.text ++ dotted (r.ns.text :: r.suffix.segments) (portText r.port) := by
    rw [List.mem_append, not_or]
    exact ⟨not_mem_label r.service.isLabel slash, List.count_eq_zero.mp names⟩
  have text : r.text = (r.service.text ++ dotted (r.ns.text :: r.suffix.segments) (portText r.port)) ++
      pathText r.path := by
    rw [Rendering.text, url, plain, Rendering.rest, dotted_append, List.append_assoc]
    rfl
  rw [text, shownAuthority]
  cases r.path with
  | none => rw [pathText, List.append_nil, upTo_of_not_mem absent]
  | some path => rw [pathText, upTo_append_sep, upTo_of_not_mem absent]

theorem rendering_follows (r : Rendering) :
    FollowsNs (dotted r.suffix.segments (portText r.port)) := by
  have labels : ∀ seg ∈ r.suffix.segments, IsLabel seg := fun seg member =>
    r.labels seg (List.mem_cons_of_mem _ member)
  have absent (c : Char) (other : inRanges label c = false) (apart : c ≠ ':' ∧ c ≠ '.') :
      c ∉ dotted r.suffix.segments (portText r.port) := by
    rw [← List.count_eq_zero, count_dotted labels other (not_mem_port r.port other apart.1),
      if_neg apart.2]
  refine ⟨?_, absent '@' (by decide) (by decide), absent '?' (by decide) (by decide),
    absent '#' (by decide) (by decide)⟩
  cases r.suffix.segments with
  | nil =>
    cases r.port with
    | none => exact .inl rfl
    | some digits => exact .inr (.inr rfl)
  | cons seg segs => exact .inr (.inl rfl)

/-- Of the hosts that name a service and a namespace, those without a scheme and with the domain
    of services behind the namespace are sent on to the private service. -/
theorem named_rendering_iff (hashed : List Char → List Char) (r : Rendering)
    (read : extractNamespaceAndService r.text = ⟨r.service.text, r.ns.text, none⟩) :
    NamedAtFirstDot hashed r.text ↔ r.http = false ∧ r.suffix ≠ .bare ∧
      getPrivateServiceName hashed r.service.text ≠ r.service.text := by
  cases http : r.http with
  | true =>
    have starts : scheme.isPrefixOf r.text = true := by
      rw [Rendering.text, url, http]
      exact List.isPrefixOf_iff_prefix.mpr (List.prefix_append scheme _)
    have no_dot : '.' ∉ shownAuthority r.text := by
      intro dot
      rw [(no_scheme_of_dot dot).1] at starts
      contradiction
    have none_counted := List.count_eq_zero_of_not_mem no_dot
    exact ⟨fun named => absurd named.dots (by omega), fun wanted => by simp at wanted⟩
  | false =>
    have dot : inRanges label '.' = false := by decide
    have shown := shown_rendering r http
    have before : '.' ∉ r.service.text := not_mem_label r.service.isLabel dot
    have count : (shownAuthority r.text).count '.' = r.suffix.segments.length + 1 := by
      rw [shown, List.count_append, List.count_eq_zero_of_not_mem before,
        count_dotted r.labels dot (not_mem_port r.port dot (by decide))]
      simp
    have first : upTo '.' (shownAuthority r.text) = r.service.text := by
      rw [shown, dotted, upTo_append_sep, upTo_of_not_mem before]
    have behind : after '.' (shownAuthority r.text) =
        r.ns.text ++ dotted r.suffix.segments (portText r.port) := by
      rw [shown, dotted, after_append before, after_cons, if_pos rfl]
    have two : 2 ≤ (shownAuthority r.text).count '.' ↔ r.suffix ≠ .bare := by
      rw [count]
      cases r.suffix <;> simp [Suffix.segments]
    constructor
    · intro named
      refine ⟨rfl, two.mp named.dots, ?_⟩
      have other := named.other
      rwa [read, first] at other
    · rintro ⟨-, longer, other⟩
      refine ⟨two.mpr longer, ?_, ?_, ?_, ?_⟩
      · rw [read, first]
      · rw [read, behind]
        exact List.prefix_append r.ns.text _
      · rw [read, behind, List.drop_left]
        exact rendering_follows r
      · rw [read, first]
        exact other

end Renderings

end HostTarget
