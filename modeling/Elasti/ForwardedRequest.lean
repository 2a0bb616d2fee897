import Elasti.GoReverseProxy
import Elasti.ResponseOnce

/- What the target gets of a request: ProxyRequest parses the target URL and runs a reverse proxy
   whose Director keeps the client's host. The headers that the Director sets go through the
   proxy's pruning as the client's do. -/
namespace ForwardedRequest
open GoHeader GoReverseProxy GoHostPort GoURL ProxyTarget

abbrev HTTPRequest := GoReverseProxy.Request URL

def forwardedHost : List Char := "X-Forwarded-Host".toList

def authorityKey : List Char := ":authority".toList

def director (target : URL) (req : HTTPRequest) : HTTPRequest :=
  let originalHost := req.host
  let header := set forwardedHost originalHost req.header
  let header := if get header authorityKey ≠ [] then set authorityKey originalHost header else header
  { req with url := target, header := header, host := originalHost }

/-- What ProxyRequest comes to: an error of its own, an answer of the error handler, or a
    request to the target. -/
inductive Proxied where
  | failed (text : String)
  | badGateway (protocol : List Char)
  | sent (out : HTTPRequest)

def proxyRequest (rules : Rules) (targetHost requestURI : List Char) (req : HTTPRequest) :
    Proxied :=
  match proxyURL rules targetHost requestURI with
  | .error text => .failed text
  | .ok target =>
    match outgoing (director target) req with
    | .error protocol => .badGateway protocol
    | .ok out => .sent out

section Response
open ResponseOnce (Env Interim Outcome Course GoErr servedCourse course)
variable (transport : HTTPRequest → List Interim × Outcome)

def Exchanged (env : Env) : Proxied → Prop
  | .failed _ => True
  -- the error handler runs before the transport is asked
  | .badGateway _ => env.interims = [] ∧ ∃ err, env.outcome = .fails err
  | .sent out => env.interims = (transport out).1 ∧ env.outcome = (transport out).2

def proxiedCourse (env : Env) : Proxied → Course
  | .failed text => .unanswered (.error ⟨text, false⟩)
  | .badGateway _ => .answered none
  | .sent out => servedCourse { env with outcome := (transport out).2 }

theorem proxied_course (rules : Rules) (env : Env) (host : HostTarget.Host) (req : HTTPRequest)
    (exchanged : Exchanged transport env (proxyRequest rules host.targetHost env.requestURI req)) :
    course rules env host =
      proxiedCourse transport env (proxyRequest rules host.targetHost env.requestURI req) := by
  unfold proxyRequest at exchanged ⊢
  unfold course
  cases parsed : proxyURL rules host.targetHost env.requestURI with
  | error text => rfl
  | ok target =>
    rw [parsed] at exchanged
    cases sent : outgoing (director target) req with
    | error protocol =>
      simp only [sent] at exchanged
      obtain ⟨-, err, fails⟩ := exchanged
      simp only [sent, proxiedCourse, servedCourse, fails]
    | ok out =>
      simp only [sent] at exchanged
      simp only [sent, proxiedCourse, servedCourse, exchanged.2]

/-- ProxyRequest towards the client and towards the target are one function: what it leaves of
    the response is what the transport's answer to the target's request makes of it. -/
theorem proxyRequest_responds (rules : Rules) (env : Env) (host : HostTarget.Host)
    (req : HTTPRequest) {w : ResponseOnce.ResponseWriter} (blank : ResponseOnce.Blank w)
    (exchanged : Exchanged transport env (proxyRequest rules host.targetHost env.requestURI req)) :
    ResponseOnce.Proxied (ResponseOnce.proxyRequest rules env host w)
      (proxiedCourse transport env (proxyRequest rules host.targetHost env.requestURI req)) := by
  rw [← proxied_course transport rules env host req exchanged]
  exact ResponseOnce.proxyRequest_proxied rules env host blank

end Response

theorem director_other (target : URL) (req : HTTPRequest) {key : List Char}
    (notHost : key ≠ forwardedHost) (notAuthority : key ≠ authorityKey) :
    (director target req).header key = req.header key := by
  have host : set forwardedHost req.host req.header key = req.header key := by
    rw [set_apply]
    exact if_neg notHost
  unfold director
  dsimp only
  split
  · rw [set_apply]
    exact (if_neg notAuthority).trans host
  · exact host

theorem director_host (target : URL) (req : HTTPRequest) :
    (director target req).header forwardedHost = [req.host] := by
  have host : set forwardedHost req.host req.header forwardedHost = [req.host] := by
    rw [set_apply]
    exact if_pos rfl
  unfold director
  dsimp only
  split
  · rw [set_apply]
    exact (if_neg (by decide)).trans host
  · exact host

theorem director_pruned (target : URL) (req : HTTPRequest) (key : List Char) :
    Pruned (director target req).header key ↔ Pruned req.header key := by
  unfold Pruned connectionNames
  rw [director_other target req (by decide) (by decide)]

theorem director_upgradeType (target : URL) (req : HTTPRequest) :
    upgradeType (director target req).header = upgradeType req.header := by
  have same : get (director target req).header upgrade = get req.header upgrade := by
    unfold GoHeader.get values
    rw [director_other target req (by decide) (by decide)]
  unfold upgradeType
  rw [director_other target req (by decide) (by decide), same]

def rewritten : List (List Char) := forwardedHost :: authorityKey :: written

structure Sees (req out : HTTPRequest) : Prop where
  host : out.host = req.host
  endToEnd : ∀ key ∉ rewritten, ¬ Pruned req.header key → out.header key = req.header key
  pruned : ∀ key ∉ rewritten, Pruned req.header key → out.header key = []
  trailers : out.header te =
    if headerValuesContainsToken (req.header te) "trailers".toList then ["trailers".toList] else []
  upgraded : upgradeType req.header ≠ [] → out.header connection = ["Upgrade".toList] ∧
    out.header upgrade = [upgradeType req.header]
  connected : upgradeType req.header = [] → out.header connection = [] ∧ out.header upgrade = []
  forwardedHost : out.header forwardedHost =
    if Pruned req.header forwardedHost then [] else [req.host]
  client : ∀ ip port, splitHostPort req.remoteAddr = .ok (ip, port) → out.header forwardedFor =
    [appendClient (if Pruned req.header forwardedFor then [] else req.header forwardedFor) ip]
  agent : out.header userAgent =
    if Pruned req.header userAgent ∨ req.header userAgent = [] then [[]] else req.header userAgent

theorem sees_sent {target : URL} {req out : HTTPRequest} {wanted : Bool}
    (asked : wanted = headerValuesContainsToken (req.header te) "trailers".toList)
    (host : out.host = req.host)
    (sent : Sent (director target req).header wanted req.remoteAddr out.header) : Sees req out := by
  have visible : ∀ key ∉ rewritten, out.header key =
      if Pruned req.header key then [] else req.header key := by
    intro key other
    simp only [rewritten, List.mem_cons, not_or] at other
    obtain ⟨notHost, notAuthority, notWritten⟩ := other
    rw [sent.others key notWritten, director_other target req notHost notAuthority]
    exact if_congr (director_pruned target req key) rfl rfl
  refine ⟨host, ?_, ?_, ?_, ?_, ?_, ?_, ?_, ?_⟩
  · intro key other stays
    rw [visible key other, if_neg stays]
  · intro key other gone
    rw [visible key other, if_pos gone]
  · rw [sent.trailers, asked]
  · intro wants
    rw [← director_upgradeType target] at wants ⊢
    exact ⟨sent.connection.trans (if_neg wants), sent.upgrade.trans (if_neg wants)⟩
  · intro plain
    rw [← director_upgradeType target] at plain
    exact ⟨sent.connection.trans (if_pos plain), sent.upgrade.trans (if_pos plain)⟩
  · rw [sent.others _ (by decide), director_host]
    exact if_congr (director_pruned target req _) rfl rfl
  · intro ip port split
    rw [sent.client ip port split, director_other target req (by decide) (by decide)]
    congr 2
    exact if_congr (director_pruned target req _) rfl rfl
  · rw [sent.agent, director_other target req (by decide) (by decide)]
    exact if_congr (or_congr_left (director_pruned target req _)) rfl rfl

/-- Every request in origin-form without a hash that asks for no odd protocol goes to the target:
    with the path and the query that the server has read, the client's host, and all headers
    that are not for one connection only and that its Connection header does not name. The
    target sees who the client is, and that host as X-Forwarded-Host unless the client has it
    pruned. -/
theorem target_sees_request {rules : Rules} (a : Authority rules) {t : List Char} {r : URL}
    (accepted : parseRequestURI rules ('/' :: t) = .ok r) (noHash : '#' ∉ '/' :: t)
    (req : HTTPRequest) (printable : isPrint (upgradeType req.header) = true) :
    ∃ out, proxyRequest rules (targetHost a) ('/' :: t) req = .sent out ∧
      out.url.authority = some a.text ∧ out.url.path = r.path ∧ out.url.rawQuery = r.rawQuery ∧
      Sees req out := by
  obtain ⟨target, parsed, -, authority, -, path, query, -⟩ :=
    forwards_origin_form a (parseRequestURI_ok accepted) noHash
  rw [← director_upgradeType target] at printable
  obtain ⟨out, sent, url, host, header⟩ := outgoing_sent (director target) req printable
  refine ⟨out, ?_, ?_, ?_, ?_, sees_sent rfl host header⟩
  · simp only [proxyRequest, parsed, sent]
  · rw [url]
    exact authority
  · rw [url]
    exact path
  · rw [url]
    exact query

def cartRequest : HTTPRequest where
  url := ⟨[], [], none, [], "/cart".toList, "item=7".toList, false, []⟩
  host := "cart.shop.example".toList
  header := set connection "keep-alive, X-Trace".toList (set "X-Trace".toList "on".toList
    (set "Cookie".toList "id=1".toList (set forwardedFor "10.0.0.7".toList fun _ => [])))
  remoteAddr := "10.0.0.9:41234".toList

theorem cart_seen :
    ∃ out, proxyRequest lenient (targetHost privateService) "/cart?item=7".toList cartRequest =
        .sent out ∧
      out.url.path = "/cart".toList ∧ out.header "Cookie".toList = ["id=1".toList] ∧
      out.header "X-Trace".toList = [] ∧ out.header forwardedHost = [cartRequest.host] ∧
      out.header forwardedFor = ["10.0.0.7, 10.0.0.9".toList] := by
  obtain ⟨out, sent, -, path, -, sees⟩ := target_sees_request privateService
    (t := "cart?item=7".toList) (r := cartRequest.url) (by decide) (by decide) cartRequest (by decide)
  refine ⟨out, sent, path, ?_, ?_, ?_, ?_⟩
  · rw [sees.endToEnd _ (by decide) (by decide)]
    decide
  · exact sees.pruned _ (by decide) (by decide)
  · rw [sees.forwardedHost]
    exact if_neg (by decide)
  · rw [sees.client "10.0.0.9".toList "41234".toList (by decide)]
    decide

end ForwardedRequest
