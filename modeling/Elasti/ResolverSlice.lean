import Mathlib

/- The EndpointSlice that sends a service's traffic to the resolver: the addresses it is
   built from and the object that is written. Its name is a function of the service's name,
   so one service has one such object. -/
namespace ResolverSlice

structure EndpointSlice where
  ns : String
  serviceName : String
  addressType : String
  ports : List (String × Int)
  endpoints : List (List String)
  deriving DecidableEq, Repr

structure Service where
  ns : String
  name : String
  ports : List String
  deriving DecidableEq, Repr

structure ResolverConfig where
  ns : String
  serviceName : String
  reverseProxyPort : Int
  watchNamespaces : List String
  deriving DecidableEq, Repr

inductive SliceErr where
  | list (text : String)
  | noResolverPodFound
  | get (text : String)
  | write (text : String)
  deriving DecidableEq, Repr

def SliceErr.text : SliceErr → String
  | .list text => "getIPsForResolver: " ++ text
  | .noResolverPodFound => "no Resolver pod found"
  | .get text | .write text => "createOrUpdateEndpointsliceToResolver: " ++ text

/-- The list of all namespaces is only narrowed when WATCH_NAMESPACES names one. -/
def listed (config : ResolverConfig) (slices : List EndpointSlice) : List EndpointSlice :=
  slices.filter fun slice => slice.serviceName = config.serviceName ∧
    (config.watchNamespaces = [] ∨ slice.ns = config.ns)

def getIPsForResolver (config : ResolverConfig) (slices : List EndpointSlice) :
    Except SliceErr (List String) :=
  match (listed config slices).flatMap fun slice => slice.endpoints.flatten with
  | [] => .error .noResolverPodFound
  | ips => .ok ips

def newEndpointSlice (config : ResolverConfig) (service : Service) (ips : List String) :
    Option EndpointSlice :=
  -- without a port the code indexes an empty slice, and panics
  match service.ports with
  | [] => none
  | first :: _ => some ⟨service.ns, service.name, "IPv4", [(first, config.reverseProxyPort)],
      ips.map fun ip => [ip]⟩

end ResolverSlice
