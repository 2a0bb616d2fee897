import Elasti.Modes

/- The EndpointSlice to the resolver against the two lists it is built from: the ports of the
   service and the addresses of the resolver's own slices. The code takes the first port and
   declares IPv4, whatever the lists hold. -/
namespace SliceShape
open ResolverSlice SwitchModes

def addresses (config : ResolverConfig) (slices : List EndpointSlice) : List String :=
  (listed config slices).flatMap fun slice => slice.endpoints.flatten

theorem mem_addresses {config : ResolverConfig} {slices : List EndpointSlice} {ip : String} :
    ip ∈ addresses config slices ↔
      ∃ source ∈ listed config slices, ip ∈ source.endpoints.flatten :=
  List.mem_flatMap

theorem getIPsForResolver_addresses {config : ResolverConfig} {slices : List EndpointSlice}
    (found : addresses config slices ≠ []) :
    getIPsForResolver config slices = .ok (addresses config slices) := by
  unfold getIPsForResolver
  split
  · rename_i nil
    exact absurd nil found
  · rfl

def NamesEveryPort (service : Service) (slice : EndpointSlice) : Prop :=
  ∀ name ∈ service.ports, ∃ entry ∈ slice.ports, entry.1 = name

def TakesDeclaredType (config : ResolverConfig) (slices : List EndpointSlice)
    (slice : EndpointSlice) : Prop :=
  ∀ endpoint ∈ slice.endpoints, ∀ ip ∈ endpoint,
    ∃ source ∈ listed config slices, source.addressType = slice.addressType ∧
      ip ∈ source.endpoints.flatten

structure Builds (config : ResolverConfig) (call : Call) (s : Routing) (slice : EndpointSlice) :
    Prop where
  built : newEndpointSlice config call.service (addresses config call.slices) = some slice
  handed : createOrUpdateEndpointsliceToResolver config call s =
    match call.faults.sliceWrite with
    | some text => (s, .failed (.write text))
    | none => ({ s with slice := some slice }, .done)

theorem createOrUpdate_reads {config : ResolverConfig} {call : Call} (s : Routing)
    (found : addresses config call.slices ≠ []) (list : call.faults.resolverList = none)
    (get : call.faults.sliceGet = none) :
    (call.service.ports = [] ∧
      createOrUpdateEndpointsliceToResolver config call s = (s, .panicked)) ∨
    ∃ first rest, call.service.ports = first :: rest ∧
      Builds config call s ⟨call.service.ns, call.service.name, "IPv4",
        [(first, config.reverseProxyPort)],
        (addresses config call.slices).map fun ip => [ip]⟩ := by
  have ips := getIPsForResolver_addresses found
  cases ports : call.service.ports with
  | nil =>
    left
    simp [createOrUpdateEndpointsliceToResolver, newEndpointSlice, list, get, ips, ports]
  | cons first rest =>
    refine .inr ⟨first, rest, rfl, ?_, ?_⟩
    · simp [newEndpointSlice, ports]
    · cases write : call.faults.sliceWrite <;>
        simp [createOrUpdateEndpointsliceToResolver, newEndpointSlice, list, get, ips, ports, write]

theorem takesDeclaredType_iff (config : ResolverConfig) (slices : List EndpointSlice)
    (ns name : String) (ports : List (String × Int)) :
    TakesDeclaredType config slices
        ⟨ns, name, "IPv4", ports, (addresses config slices).map fun ip => [ip]⟩ ↔
      ∀ ip ∈ addresses config slices,
        ∃ source ∈ listed config slices, source.addressType = "IPv4" ∧
          ip ∈ source.endpoints.flatten := by
  simp [TakesDeclaredType]

/-- The redirect fits the service and the resolver exactly when the service has one port name
    and every resolver address is listed as IPv4. -/
theorem redirect_fits_iff (config : ResolverConfig) (call : Call) (s : Routing)
    (found : addresses config call.slices ≠ []) (list : call.faults.resolverList = none)
    (get : call.faults.sliceGet = none) :
    (∃ slice, Builds config call s slice ∧ NamesEveryPort call.service slice ∧
        TakesDeclaredType config call.slices slice) ↔
      (∃ first ∈ call.service.ports, ∀ name ∈ call.service.ports, name = first) ∧
      ∀ source ∈ listed config call.slices, ∀ ip ∈ source.endpoints.flatten,
        ∃ other ∈ listed config call.slices, other.addressType = "IPv4" ∧
          ip ∈ other.endpoints.flatten := by
  rcases createOrUpdate_reads s found list get with ⟨none_there, _⟩ | ⟨first, rest, ports, builds⟩
  · constructor
    · rintro ⟨slice, builds, _⟩
      have built := builds.built
      simp [newEndpointSlice, none_there] at built
    · rintro ⟨⟨first, member, _⟩, _⟩
      simp [none_there] at member
  · constructor
    · rintro ⟨slice, other, named, typed⟩
      obtain rfl := Option.some.inj (builds.built.symm.trans other.built)
      refine ⟨⟨first, by simp [ports], fun name member => ?_⟩, fun source member ip inside => ?_⟩
      · obtain ⟨entry, only, rfl⟩ := named name member
        rw [List.mem_singleton.mp only]
      · exact (takesDeclaredType_iff ..).mp typed ip (mem_addresses.mpr ⟨source, member, inside⟩)
    · rintro ⟨⟨name, _, same⟩, typed⟩
      refine ⟨_, builds, fun other member => ⟨_, List.mem_singleton.mpr rfl, ?_⟩,
        (takesDeclaredType_iff ..).mpr fun ip member => ?_⟩
      · rw [same other member, same first (by simp [ports])]
      · obtain ⟨source, listed, inside⟩ := mem_addresses.mp member
        exact typed source listed ip inside

def config : ResolverConfig := ⟨"elasti", "elasti-resolver-service", 8012, []⟩

def resolverSlice (addressType ip : String) : EndpointSlice :=
  ⟨"elasti", "elasti-resolver-service", addressType, [("", 8012)], [[ip]]⟩

def callFor (ports : List String) (slices : List EndpointSlice) : Call :=
  ⟨.proxy, ⟨none, none, none, none, none, none, none, none, none, none⟩,
    ⟨"demo", "target", ports⟩, slices⟩

def noSlice : Routing := ⟨none, none, none⟩

theorem redirect_fits_one_port :
    ∃ slice, Builds config (callFor ["http"] [resolverSlice "IPv4" "10.0.0.1"]) noSlice slice ∧
      NamesEveryPort (callFor ["http"] [resolverSlice "IPv4" "10.0.0.1"]).service slice ∧
      TakesDeclaredType config (callFor ["http"] [resolverSlice "IPv4" "10.0.0.1"]).slices slice := by
  refine (redirect_fits_iff config _ noSlice ?_ rfl rfl).mpr ⟨⟨"http", by decide, ?_⟩, ?_⟩
  · decide
  · simp [callFor]
  · decide

/-- No port: a panic. A second port: no entry under its name. An IPv6 resolver slice: its
    address is declared IPv4. -/
theorem redirect_misfits :
    createOrUpdateEndpointsliceToResolver config
        (callFor [] [resolverSlice "IPv4" "10.0.0.1"]) noSlice = (noSlice, .panicked) ∧
    (∃ slice, Builds config (callFor ["http", "grpc"] [resolverSlice "IPv4" "10.0.0.1"])
        noSlice slice ∧ slice.ports = [("http", 8012)]) ∧
    ∃ slice, Builds config (callFor ["http"] [resolverSlice "IPv6" "fd00::1"]) noSlice slice ∧
      slice.addressType = "IPv4" ∧ slice.endpoints = [["fd00::1"]] := by
  refine ⟨by decide, ⟨⟨"demo", "target", "IPv4", [("http", 8012)], [["10.0.0.1"]]⟩,
    ⟨by decide, by decide⟩, rfl⟩, ⟨"demo", "target", "IPv4", [("http", 8012)], [["fd00::1"]]⟩,
    ⟨by decide, by decide⟩, rfl, rfl⟩

end SliceShape
