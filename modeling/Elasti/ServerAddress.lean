import Elasti.GoURL
import Elasti.Prometheus

/- The allowlist of Prometheus addresses. What is checked is the address of the trigger, what
   is requested is that address with a path and a query behind it. -/
namespace ServerAddress
open PrometheusQuery
open GoURL (URL hostname)
open GoStrings (trimSpace)

def fetchAllowedServerAddresses (raw : String) : List String :=
  if raw = "" then []
  else (((raw.toList.splitOn ',').map trimSpace).filter fun trimmed => trimmed ≠ []).map
    String.ofList

theorem allowed_nonempty {raw entry : String} (member : entry ∈ fetchAllowedServerAddresses raw) :
    entry ≠ "" := by
  unfold fetchAllowedServerAddresses at member
  split at member
  · simp at member
  · obtain ⟨trimmed, kept, rfl⟩ := List.mem_map.mp member
    have some_text : trimmed ≠ [] := by simpa using (List.mem_filter.mp kept).2
    intro empty
    exact some_text (by simpa using congrArg String.toList empty)

def library (rules : GoURL.Rules) (parseFloat : String → Except String Float64) : Library where
  parseFloat := parseFloat
  parseURL s := GoURL.parseURL rules s.toList

section Allowlist
variable {rules : GoURL.Rules} {parseFloat : String → Except String Float64}

theorem queryRequest_url (q : Query) (serverAddress : String) :
    ∃ more, (queryRequest q serverAddress).url.toList = serverAddress.toList ++ '/' :: more := by
  simp [queryRequest]

theorem validated {lib : Library} {s : PrometheusScaler} {address : String}
    (other : address ≠ s.defaultServerAddress) (listed : s.allowedServerAddresses ≠ [])
    (passes : validateServerAddress lib s address = none) :
    ∃ u, lib.parseURL address = .ok u ∧
      (String.ofList (hostname u.host) ∈ s.allowedServerAddresses ∨
        String.ofList u.host ∈ s.allowedServerAddresses) := by
  unfold validateServerAddress at passes
  rw [if_neg (by simp [other, listed])] at passes
  split at passes
  · simp at passes
  · rename_i u parsed
    refine ⟨u, parsed, ?_⟩
    split at passes
    · rename_i found
      obtain ⟨entry, member, same⟩ := List.any_eq_true.mp found
      simp only [Bool.or_eq_true, beq_iff_eq] at same
      rcases same with rfl | rfl
      · exact .inl member
      · exact .inr member
    · simp at passes

theorem prepared {lib : Library} {q : Query} {request : Request} {address : String}
    (effective : getServerAddress q.scaler = .ok address) (sent : prepare lib q = .ok request) :
    request = queryRequest q address ∧ validateServerAddress lib q.scaler address = none ∧
      ∃ u, lib.parseURL request.url = .ok u := by
  simp only [prepare, effective] at sent
  split at sent
  · simp at sent
  · rename_i passes
    split at sent
    · simp at sent
    · rename_i u parsed
      cases sent
      exact ⟨rfl, passes, u, parsed⟩

/-- With an allowlist, a request to an address other than the default goes to an allowed host
    or host and port. -/
theorem requested_host_allowed (rules : GoURL.Rules)
    (parseFloat : String → Except String Float64) (q : Query) (request : Request)
    (raw address : String)
    (configured : q.scaler.allowedServerAddresses = fetchAllowedServerAddresses raw)
    (listed : q.scaler.allowedServerAddresses ≠ [])
    (effective : getServerAddress q.scaler = .ok address)
    (other : address ≠ q.scaler.defaultServerAddress)
    (sent : prepare (library rules parseFloat) q = .ok request) :
    ∃ u, (library rules parseFloat).parseURL request.url = .ok u ∧
      (String.ofList (hostname u.host) ∈ q.scaler.allowedServerAddresses ∨
        String.ofList u.host ∈ q.scaler.allowedServerAddresses) := by
  obtain ⟨rfl, passes, u, parsed⟩ := prepared effective sent
  refine ⟨u, parsed, ?_⟩
  obtain ⟨checked, parsed_address, allowed⟩ := validated other listed passes
  have short : GoURL.parseURL rules address.toList = .ok checked := parsed_address
  have long : GoURL.parseURL rules (queryRequest q address).url.toList = .ok u := parsed
  obtain ⟨more, url⟩ := queryRequest_url q address
  have some_host : checked.host ≠ [] := by
    -- an allowed entry is not empty, the names of an empty host are
    intro empty
    rw [empty, configured] at allowed
    rcases allowed with name | host
    · exact allowed_nonempty name rfl
    · exact allowed_nonempty host rfl
  rw [url] at long
  have same := (GoURL.parseURL_append short some_host long).2
  rw [same]
  exact allowed

end Allowlist

def allowedQuery : Query where
  scaler := ⟨⟨"http://prom:9090", "up", []⟩, "", [], fetchAllowedServerAddresses " thanos, prom "⟩
  query := "up"
  time := "2025-01-01T00:00:00Z"
  answer := fun _ => .error "unreachable"

theorem allowed_host_requested :
    prepare (library GoURL.lenient fun _ => .error "") allowedQuery =
      .ok (queryRequest allowedQuery "http://prom:9090") ∧
    ∃ u, (library GoURL.lenient fun _ => .error "").parseURL
        (queryRequest allowedQuery "http://prom:9090").url = .ok u ∧
      (String.ofList (hostname u.host) ∈ allowedQuery.scaler.allowedServerAddresses ∨
        String.ofList u.host ∈ allowedQuery.scaler.allowedServerAddresses) := by
  have sent : prepare (library GoURL.lenient fun _ => .error "") allowedQuery =
      .ok (queryRequest allowedQuery "http://prom:9090") := by decide +kernel
  exact ⟨sent, requested_host_allowed GoURL.lenient (fun _ => .error "") allowedQuery _
    " thanos, prom " "http://prom:9090" rfl (by decide +kernel) rfl (by decide) sent⟩

end ServerAddress
