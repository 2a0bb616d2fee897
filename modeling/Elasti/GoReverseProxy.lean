import Elasti.GoHeader
import Elasti.GoHostPort

/- The reverse proxy of net/http/httputil with a Director: how the request that is sent on comes
   from the request that came in. The Director's headers are pruned like the client's. -/
namespace GoReverseProxy
open GoHeader GoHostPort

structure Request (U : Type) where
  url : U
  host : List Char
  header : Header
  remoteAddr : List Char

def trimBy (space : Char → Bool) (s : List Char) : List Char :=
  ((s.dropWhile space).reverse.dropWhile space).reverse

def trimOWS : List Char → List Char := trimBy fun c => c == ' ' || c == '\t'

def trimString : List Char → List Char :=
  trimBy fun c => c == ' ' || c == '\t' || c == '\n' || c == '\r'

def tokenEqual (s token : List Char) : Bool :=
  s.all (fun c => c.toNat < 128) && s.map Char.toLower == token.map Char.toLower

def headerValuesContainsToken (values : List (List Char)) (token : List Char) : Bool :=
  values.any fun v => (v.splitOn ',').any fun part => tokenEqual (trimOWS part) token

def connection : List Char := "Connection".toList
def te : List Char := "Te".toList
def upgrade : List Char := "Upgrade".toList
def forwardedFor : List Char := "X-Forwarded-For".toList
def userAgent : List Char := "User-Agent".toList

def hopHeaders : List (List Char) :=
  [connection, "Proxy-Connection".toList, "Keep-Alive".toList, "Proxy-Authenticate".toList,
    "Proxy-Authorization".toList, te, "Trailer".toList, "Transfer-Encoding".toList, upgrade]

def connectionNames (h : Header) : List (List Char) :=
  ((h connection).flatMap fun f => (f.splitOn ',').map trimString).filter (· ≠ [])

def removeHopByHopHeaders (h : Header) : Header :=
  hopHeaders.foldl (fun h f => del f h) ((connectionNames h).foldl (fun h f => del f h) h)

def upgradeType (h : Header) : List Char :=
  if headerValuesContainsToken (h connection) upgrade then get h upgrade else []

def isPrint (s : List Char) : Bool := s.all fun c => ' ' ≤ c && c ≤ '~'

def appendClient (prior : List (List Char)) (clientIP : List Char) : List Char :=
  if prior = [] then clientIP else List.intercalate ", ".toList prior ++ ", ".toList ++ clientIP

def withTrailers (wanted : Bool) (h : Header) : Header :=
  if wanted then set te "trailers".toList h else h

def withUpgrade (type : List Char) (h : Header) : Header :=
  if type = [] then h else set upgrade type (set connection "Upgrade".toList h)

def withClient (remoteAddr : List Char) (h : Header) : Header :=
  match splitHostPort remoteAddr with
  | .ok (clientIP, _) => set forwardedFor (appendClient (h forwardedFor) clientIP) h
  | .error _ => h

def withUserAgent (h : Header) : Header := if h userAgent = [] then set userAgent [] h else h

/-- The request that ServeHTTP hands to the transport. It gives up, naming the protocol, when
    the client wants to switch to one that is not printable. -/
def outgoing {U : Type} (director : Request U → Request U) (req : Request U) :
    Except (List Char) (Request U) :=
  let out := director req
  let type := upgradeType out.header
  if isPrint type then
    let wanted := headerValuesContainsToken (req.header te) "trailers".toList
    let pruned := withUpgrade type (withTrailers wanted (removeHopByHopHeaders out.header))
    .ok { out with header := withUserAgent (withClient req.remoteAddr pruned) }
  else .error type

/-- A header that is not sent on: it is for one connection only, or the client says so. -/
def Pruned (h : Header) (key : List Char) : Prop :=
  key ∈ hopHeaders ∨ key ∈ (connectionNames h).map canonicalMIMEHeaderKey

instance (h : Header) (key : List Char) : Decidable (Pruned h key) :=
  inferInstanceAs (Decidable (_ ∨ _))

def written : List (List Char) := [te, connection, upgrade, forwardedFor, userAgent]

theorem hopHeaders_canonical : hopHeaders.map canonicalMIMEHeaderKey = hopHeaders := by decide

theorem removeHopByHopHeaders_apply (h : Header) (key : List Char) :
    removeHopByHopHeaders h key = if Pruned h key then [] else h key := by
  rw [removeHopByHopHeaders, dels_apply, dels_apply, hopHeaders_canonical]
  by_cases hop : key ∈ hopHeaders
  · rw [if_pos hop, if_pos (show Pruned h key from .inl hop)]
  · rw [if_neg hop]
    by_cases named : key ∈ (connectionNames h).map canonicalMIMEHeaderKey
    · rw [if_pos named, if_pos (show Pruned h key from .inr named)]
    · rw [if_neg named, if_neg (show ¬ Pruned h key from not_or.mpr ⟨hop, named⟩)]

theorem withTrailers_apply (wanted : Bool) (h : Header) (key : List Char) :
    withTrailers wanted h key =
      if key = te ∧ wanted = true then ["trailers".toList] else h key := by
  unfold withTrailers
  cases wanted with
  | false => simp
  | true =>
    rw [if_pos rfl, set_apply]
    simp only [and_true]
    rfl

theorem withUpgrade_apply (type : List Char) (h : Header) (key : List Char) :
    withUpgrade type h key =
      if type = [] then h key
      else if key = upgrade then [type]
      else if key = connection then ["Upgrade".toList] else h key := by
  unfold withUpgrade
  split
  · rfl
  · rw [set_apply, set_apply]
    rfl

theorem withClient_other (remoteAddr : List Char) (h : Header) {key : List Char}
    (other : key ≠ forwardedFor) : withClient remoteAddr h key = h key := by
  unfold withClient
  cases splitHostPort remoteAddr with
  | ok parts => exact (set_apply _ _ _ _).trans (if_neg other)
  | error text => rfl

theorem withClient_at {remoteAddr ip port : List Char}
    (split : splitHostPort remoteAddr = .ok (ip, port)) (h : Header) :
    withClient remoteAddr h forwardedFor = [appendClient (h forwardedFor) ip] := by
  rw [withClient, split]
  exact (set_apply _ _ _ _).trans (if_pos rfl)

theorem withUserAgent_apply (h : Header) (key : List Char) :
    withUserAgent h key = if key = userAgent ∧ h userAgent = [] then [[]] else h key := by
  unfold withUserAgent
  split
  · rename_i none
    rw [set_apply]
    simp only [none, and_true]
    rfl
  · rename_i some
    simp only [some, and_false, if_false]

/-- What is sent on of the headers that the Director leaves. -/
structure Sent (h : Header) (wanted : Bool) (remoteAddr : List Char) (out : Header) : Prop where
  others : ∀ key ∉ written, out key = if Pruned h key then [] else h key
  trailers : out te = if wanted then ["trailers".toList] else []
  connection : out connection = if upgradeType h = [] then [] else ["Upgrade".toList]
  upgrade : out upgrade = if upgradeType h = [] then [] else [upgradeType h]
  client : ∀ ip port, splitHostPort remoteAddr = .ok (ip, port) →
    out forwardedFor = [appendClient (if Pruned h forwardedFor then [] else h forwardedFor) ip]
  agent : out userAgent = if Pruned h userAgent ∨ h userAgent = [] then [[]] else h userAgent

theorem sent_outgoing (h : Header) (wanted : Bool) (remoteAddr : List Char) :
    Sent h wanted remoteAddr (withUserAgent (withClient remoteAddr
      (withUpgrade (upgradeType h) (withTrailers wanted (removeHopByHopHeaders h))))) := by
  have pruned : ∀ key ∈ [te, connection, upgrade], removeHopByHopHeaders h key = [] := by
    intro key member
    have hop : key ∈ hopHeaders := by
      revert key
      decide
    rw [removeHopByHopHeaders_apply, if_pos (show Pruned h key from .inl hop)]
  -- up to the client's address only the three headers of the connection are written
  have kept : ∀ key, key ∉ [te, connection, upgrade] →
      withUpgrade (upgradeType h) (withTrailers wanted (removeHopByHopHeaders h)) key =
        if Pruned h key then [] else h key := by
    intro key other
    simp only [List.mem_cons, List.not_mem_nil, or_false, not_or] at other
    simp only [withUpgrade_apply, withTrailers_apply, other.1, other.2.1, other.2.2, false_and,
      if_false, ite_self, removeHopByHopHeaders_apply]
  have agentless : ∀ key, key ≠ userAgent → key ≠ forwardedFor →
      withUserAgent (withClient remoteAddr (withUpgrade (upgradeType h)
        (withTrailers wanted (removeHopByHopHeaders h)))) key =
      withUpgrade (upgradeType h) (withTrailers wanted (removeHopByHopHeaders h)) key := by
    intro key agent client
    rw [withUserAgent_apply, if_neg (fun both => agent both.1), withClient_other _ _ client]
  constructor
  · intro key other
    simp only [written, List.mem_cons, List.not_mem_nil, or_false, not_or] at other
    obtain ⟨trailers, connected, upgraded, client, agent⟩ := other
    rw [agentless key agent client, kept key (by simp [trailers, connected, upgraded])]
  · rw [agentless te (by decide) (by decide), withUpgrade_apply, withTrailers_apply,
      pruned te (by decide), if_neg (show te ≠ upgrade by decide),
      if_neg (show te ≠ connection by decide), ite_self]
    simp only [true_and]
  · rw [agentless GoReverseProxy.connection (by decide) (by decide), withUpgrade_apply,
      withTrailers_apply, pruned GoReverseProxy.connection (by decide),
      if_neg (show GoReverseProxy.connection ≠ GoReverseProxy.upgrade by decide),
      if_pos (Eq.refl GoReverseProxy.connection),
      if_neg (not_and_of_not_left _ (show GoReverseProxy.connection ≠ te by decide))]
  · rw [agentless GoReverseProxy.upgrade (by decide) (by decide), withUpgrade_apply,
      withTrailers_apply, pruned GoReverseProxy.upgrade (by decide),
      if_pos (Eq.refl GoReverseProxy.upgrade),
      if_neg (not_and_of_not_left _ (show GoReverseProxy.upgrade ≠ te by decide))]
  · intro ip port split
    rw [withUserAgent_apply, if_neg (fun both => absurd both.1 (by decide)), withClient_at split,
      kept forwardedFor (by decide)]
  · rw [withUserAgent_apply, withClient_other _ _ (by decide), kept userAgent (by decide)]
    by_cases gone : Pruned h userAgent
    · rw [if_pos gone, if_pos ⟨rfl, rfl⟩, if_pos (.inl gone)]
    · simp only [gone, if_false, true_and, false_or]

theorem outgoing_sent {U : Type} (director : Request U → Request U) (req : Request U)
    (print : isPrint (upgradeType (director req).header) = true) :
    ∃ out, outgoing director req = .ok out ∧ out.url = (director req).url ∧
      out.host = (director req).host ∧
      Sent (director req).header (headerValuesContainsToken (req.header te) "trailers".toList)
        req.remoteAddr out.header := by
  unfold outgoing
  dsimp only
  rw [if_pos print]
  exact ⟨_, rfl, rfl, rfl, sent_outgoing _ _ _⟩

end GoReverseProxy
