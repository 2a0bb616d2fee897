import Elasti.CRDDirectory
import Elasti.GoJsonCodec
import Elasti.OperatorRPC

/- A notification on its way: the text that the resolver posts, what the operator reads out of
   it, and the ElastiService that it then scales. -/
namespace Notification
open GoJson GoJsonText GoJsonCodec GuardedRuns KeyedRuns ThreadPool
open OperatorRPC (Target Call Slot Answer sendIncomingRequestInfo lockKey newClient runHistory History
  requestBody)
open Reconciler (CRDDetails Directory getCRD)
open V1Alpha1 (Apimachinery namespacedName)
open CRDDirectory (World Change live serviceName HoldsLive KeepsService)

structure RequestCount where
  count : Int
  svc : String
  ns : String
  deriving DecidableEq, Repr

structure Reply where
  status : Nat
  contentType : String
  body : List Char
  deriving DecidableEq, Repr

def httpError (text : String) (code : Nat) : Reply :=
  ⟨code, "text/plain; charset=utf-8", text.toList ++ ['\n']⟩

def responseJSON (message : String) : List Char := render (.obj [("message", .str message)])

def received : Reply := ⟨200, "application/json", responseJSON "Request received successfully!"⟩

def scaleTargetForService [Apimachinery] (d : Directory) (t : Target) : Except String CRDDetails :=
  match getCRD (namespacedName t.ns t.svc) d with
  | none => .error ("scaleTargetForService - error: failed to get CRD details from directory, " ++
      "namespacedName: " ++ namespacedName t.ns t.svc)
  | some crd => .ok crd

end Notification
