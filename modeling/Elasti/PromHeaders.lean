import Elasti.GoHeader
import Elasti.Prometheus

/- The headers of a query to Prometheus. The operator's defaults are set first and the headers of
   the trigger's metadata after them, each in the order in which a Go map happens to be ranged. -/
namespace PromHeaders
open GoHeader PrometheusQuery

def chars (e : String × String) : List Char × List Char := (e.1.toList, e.2.toList)

end PromHeaders
