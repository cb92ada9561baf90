import ClusterPlan.Text.Decimal
import ClusterPlan.Text.Split

/-!
# The API endpoint

The Kubernetes API is published on a host and a port, written `[HOST:]PORT`. The port is a number or
`random`, which leaves the choice to the engine. The host gives the address to listen on if it is an
IPv4 address; names are resolved elsewhere.
-/

namespace ClusterPlan

/-- The port of the host on which the API is published. -/
inductive ApiPort where
  | random
  | fixed (port : UInt16)
deriving Repr, DecidableEq

/-- Where the API is published. -/
structure ApiEndpoint where
  host : String
  /-- The address of the host; empty if it is not known. -/
  hostIP : String
  port : ApiPort
deriving Repr, DecidableEq

/-- Why a text is no endpoint. -/
inductive ApiPortError where
  | malformed (spec : String)
  | notANumber (port : String)
  | outOfRange (port : Int)
deriving Repr, DecidableEq

/-- The message that reports a failure. -/
def ApiPortError.message : ApiPortError → String
  | .malformed spec =>
    s!"Failed to parse API port specification '{spec}': expected [HOST:]PORT"
  | .notANumber port => s!"API port value '{port}' is not a number"
  | .outOfRange port =>
    s!"API port value '{String.ofList (Decimal.integer port)}' out of range"

namespace ApiPort

/-- The port on which the API listens inside a node. -/
def inner : UInt16 := 6443

/-- The port that a text denotes. -/
def read (cs : List Char) : Except ApiPortError ApiPort :=
  if cs = [] ∨ cs = "random".toList then .ok .random
  else match Decimal.integer? Decimal.signedLimit cs with
    | none => .error (.notANumber (String.ofList cs))
    | some n =>
      if 0 ≤ n ∧ n < 65536 then .ok (.fixed (UInt16.ofNat n.toNat)) else .error (.outOfRange n)

/-- A port, or the word `random`. -/
def text : ApiPort → String
  | .random => "random"
  | .fixed port => String.ofList (Decimal.digits port.toNat)

end ApiPort

namespace ApiEndpoint

/-- One of the four numbers of an IPv4 address: up to three digits without leading zeros, at most
255. -/
def isOctet (cs : List Char) : Bool :=
  match Decimal.digits? cs with
  | none => false
  | some n => n < 256 && cs = Decimal.digits n

/-- Whether a host is an IPv4 address. -/
def isAddress (host : List Char) : Bool :=
  let octets := Text.fields '.' host
  octets.length = 4 && octets.all isOctet

/-- The endpoint on a host. -/
def ofHost (host : List Char) (port : ApiPort) : ApiEndpoint :=
  { host := String.ofList host, hostIP := if isAddress host then String.ofList host else "", port }

/-- The endpoint that a text denotes. -/
def read (spec : String) : Except ApiPortError ApiEndpoint :=
  match Text.fields ':' spec.toList with
  | [port] => (ApiPort.read port).map (ofHost [])
  | [host, port] => (ApiPort.read port).map (ofHost host)
  | _ => .error (.malformed spec)

/-- The address on which the API is published if no other is given. -/
def anyAddress : String := "0.0.0.0"

/-- The endpoint that is published if nothing is asked for. -/
def standard : ApiEndpoint :=
  { host := anyAddress, hostIP := anyAddress, port := .fixed ApiPort.inner }

/-- The endpoint with its host and address filled in where they are empty. -/
def filled (e : ApiEndpoint) : ApiEndpoint :=
  { e with
    host := if e.host = "" then anyAddress else e.host
    hostIP := if e.hostIP = "" then anyAddress else e.hostIP }

end ApiEndpoint
end ClusterPlan
