import Elasti.Modes

/- Which EndpointSlices the redirect to the resolver depends on. The list selects by the label
   with the resolver's service name, which every namespace can set; it is confined to the
   resolver's namespace only when WATCH_NAMESPACES names a namespace. -/
namespace SliceIsolation
open ResolverSlice SwitchModes

def atHome (config : ResolverConfig) (slices : List EndpointSlice) : List EndpointSlice :=
  slices.filter fun slice => slice.ns = config.ns

def labelled (config : ResolverConfig) (slices : List EndpointSlice) : List EndpointSlice :=
  slices.filter fun slice => slice.serviceName = config.serviceName

/-- The same addresses, and the same outcome and endpoints of every write. The slice that is
    written is an EndpointSlice too, so the two states may differ in it. -/
structure SameRedirect (config : ResolverConfig) (a b : List EndpointSlice) : Prop where
  ips : getIPsForResolver config a = getIPsForResolver config b
  outcome : ∀ (call : Call) s t,
    (createOrUpdateEndpointsliceToResolver config { call with slices := a } s).2 =
      (createOrUpdateEndpointsliceToResolver config { call with slices := b } t).2
  written : ∀ (call : Call) s t,
    (createOrUpdateEndpointsliceToResolver config { call with slices := a } s).2 = .done →
    (createOrUpdateEndpointsliceToResolver config { call with slices := a } s).1.slice =
      (createOrUpdateEndpointsliceToResolver config { call with slices := b } t).1.slice

theorem written_of_ips {config : ResolverConfig} {a b : List EndpointSlice}
    (ips : getIPsForResolver config a = getIPsForResolver config b) (call : Call) (s t : Routing) :
    let first := createOrUpdateEndpointsliceToResolver config { call with slices := a } s
    let second := createOrUpdateEndpointsliceToResolver config { call with slices := b } t
    first.2 = second.2 ∧ (first.2 = .done → first.1.slice = second.1.slice) := by
  simp only [createOrUpdateEndpointsliceToResolver, ips]
  split
  · simp
  · split
    · simp
    · split
      · simp
      · split
        · simp
        · split <;> simp

theorem sameRedirect_of_ips {config : ResolverConfig} {a b : List EndpointSlice}
    (ips : getIPsForResolver config a = getIPsForResolver config b) : SameRedirect config a b where
  ips := ips
  outcome call s t := (written_of_ips ips call s t).1
  written call s t := (written_of_ips ips call s t).2

theorem ips_of_listed {config : ResolverConfig} {a b : List EndpointSlice}
    (same : listed config a = listed config b) :
    getIPsForResolver config a = getIPsForResolver config b := by
  simp only [getIPsForResolver, same]

theorem listed_scoped {config : ResolverConfig} (watched : config.watchNamespaces ≠ [])
    (slices : List EndpointSlice) :
    listed config slices = labelled config (atHome config slices) := by
  simp [listed, labelled, atHome, List.filter_filter, watched]

theorem listed_cluster {config : ResolverConfig} (cluster : config.watchNamespaces = [])
    (slices : List EndpointSlice) : listed config slices = labelled config slices := by
  simp [listed, labelled, cluster]

theorem listed_labelled (config : ResolverConfig) (slices : List EndpointSlice) :
    listed config slices = listed config (labelled config slices) := by
  simp only [listed, labelled, List.filter_filter]
  congr 1
  funext slice
  by_cases label : slice.serviceName = config.serviceName <;> simp [label]

def foreign (config : ResolverConfig) : EndpointSlice :=
  ⟨config.ns ++ "-tenant", config.serviceName, "IPv4", [("http", 8080)], [["10.9.0.9"]]⟩

theorem foreign_away (config : ResolverConfig) : (foreign config).ns ≠ config.ns := by
  intro same
  have longer := congrArg String.length same
  simp [foreign] at longer

/-- The redirect depends only on the resolver's own slices exactly when WATCH_NAMESPACES names a
    namespace. Either way it depends only on the slices under the resolver's service name. -/
theorem isolated_iff (config : ResolverConfig) :
    ((∀ a b, atHome config a = atHome config b → SameRedirect config a b) ↔
      config.watchNamespaces ≠ []) ∧
    ∀ a b, labelled config a = labelled config b → SameRedirect config a b := by
  constructor
  · constructor
    · intro isolated cluster
      have away : atHome config [foreign config] = atHome config [] := by
        simp [atHome, foreign_away]
      have same := (isolated [foreign config] [] away).ips
      simp [getIPsForResolver, listed_cluster cluster, labelled, foreign] at same
    · intro watched a b home
      apply sameRedirect_of_ips
      apply ips_of_listed
      rw [listed_scoped watched, listed_scoped watched, home]
  · intro a b labels
    apply sameRedirect_of_ips
    apply ips_of_listed
    rw [listed_labelled, labels, ← listed_labelled]

def clusterMode : ResolverConfig := ⟨"elasti", "elasti-resolver-service", 8012, []⟩

def resolverPod : EndpointSlice :=
  ⟨"elasti", "elasti-resolver-service", "IPv4", [("", 8012)], [["10.0.0.1"]]⟩

/-- When it names none, a tenant's slice adds its address to the redirect of every service. -/
theorem tenant_slice_listed :
    atHome clusterMode [resolverPod, foreign clusterMode] = atHome clusterMode [resolverPod] ∧
      getIPsForResolver clusterMode [resolverPod] = .ok ["10.0.0.1"] ∧
      getIPsForResolver clusterMode [resolverPod, foreign clusterMode] =
        .ok ["10.0.0.1", "10.9.0.9"] := by
  simp [atHome, getIPsForResolver, listed, clusterMode, resolverPod, foreign]

end SliceIsolation
