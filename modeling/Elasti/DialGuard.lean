import Elasti.GoIP
import Elasti.GoHostPort
import Elasti.ServerAddress

/- The dial guard of the Prometheus client. The dialer resolves a name to addresses, tries one
   after the other, and hands each to the guard as a text before it connects. Which addresses
   answer is an input; the client follows no redirect, so it dials for one request only. -/
namespace DialGuard
open GoIP GoHostPort
open ServerAddress (fetchAllowedServerAddresses)

def isLoopback (ip : IP) : Bool :=
  match ip.to4 with
  | some (a, _, _, _) => a == 127
  | none => ip.groups == [0, 0, 0, 0, 0, 0, 0, 1]

def isUnspecified (ip : IP) : Bool :=
  ip.groups == [0, 0, 0, 0, 0, 65535, 0, 0] || ip.groups == [0, 0, 0, 0, 0, 0, 0, 0]

def firstBytes (ip : IP) : Nat × Nat := (ip.groups.headD 0 / 256, ip.groups.headD 0 % 256)

def isLinkLocalUnicast (ip : IP) : Bool :=
  match ip.to4 with
  | some (a, b, _, _) => a == 169 && b == 254
  | none => (firstBytes ip).1 == 0xfe && (firstBytes ip).2 &&& 0xc0 == 0x80

def isLinkLocalMulticast (ip : IP) : Bool :=
  match ip.to4 with
  | some (a, b, c, _) => a == 224 && b == 0 && c == 0
  | none => (firstBytes ip).1 == 0xff && (firstBytes ip).2 &&& 0x0f == 0x02

def isMulticast (ip : IP) : Bool :=
  match ip.to4 with
  | some (a, _, _, _) => a &&& 0xf0 == 0xe0
  | none => (firstBytes ip).1 == 0xff

def isBlockedIP (ip : IP) : Bool :=
  isLoopback ip || isUnspecified ip || isLinkLocalUnicast ip || isLinkLocalMulticast ip ||
    isMulticast ip

inductive DialErr where
  | address (why : String)
  | ip (host : List Char)
  | blocked (ip : IP)
  deriving DecidableEq, Repr

def DialErr.text (quoted : List Char → String) (address : List Char) : DialErr → String
  | .address why => "failed to parse dial address " ++ quoted address ++ ": address " ++
      String.ofList address ++ ": " ++ why
  | .ip host => "failed to parse dial IP " ++ quoted host
  | .blocked found => "connection to " ++ String.ofList found.string ++ " blocked to prevent SSRF"

def guardDialAddress (address : List Char) : Option DialErr :=
  match splitHostPort address with
  | .error why => some (.address why)
  | .ok (host, _) =>
    match parseIP host with
    | none => some (.ip host)
    | some ip => if isBlockedIP ip then some (.blocked ip) else none

structure TCPAddr where
  ip : IP
  port : Nat
  zone : List Char
  deriving DecidableEq, Repr

def TCPAddr.string (a : TCPAddr) : List Char :=
  joinHostPort (if a.zone = [] then a.ip.string else a.ip.string ++ '%' :: a.zone)
    (Nat.toDigits 10 a.port)

structure HTTPClient where
  dialGuard : Bool
  deriving DecidableEq, Repr

def HTTPClient.control (client : HTTPClient) (a : TCPAddr) : Option DialErr :=
  if client.dialGuard then guardDialAddress a.string else none

def HTTPClient.dial (client : HTTPClient) (answers : TCPAddr → Bool) : List TCPAddr → Option TCPAddr
  | [] => none
  | a :: rest =>
    match client.control a with
    | some _ => client.dial answers rest
    | none => if answers a then some a else client.dial answers rest

def valueOf (groups : List Nat) : Nat := groups.foldl (fun n g => n * 65536 + g) 0

structure Network where
  address : List Nat
  bits : Nat
  deriving DecidableEq, Repr

def Network.contains (net : Network) (ip : IP) : Bool :=
  valueOf ip.groups / 2 ^ (128 - net.bits) == valueOf net.address / 2 ^ (128 - net.bits)

end DialGuard
