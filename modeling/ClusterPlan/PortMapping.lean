import ClusterPlan.Text.Casing
import ClusterPlan.Text.Decimal
import ClusterPlan.Text.Split

/-!
# Port mappings

A mapping is written `[HOST:][HOSTPORT:]CONTAINERPORT[/PROTOCOL]`, where a port may be a range.
`PortMapping.read` finds what a text means and `PortMapping.text` writes it in one way: without
leading zeros, with the protocol in lower case, and without the protocol `tcp`, which is meant when
none is given.
-/

namespace ClusterPlan

/-- Why a text is no port mapping. -/
inductive PortError where
  | malformed (mapping : String)
  | invalidPort (mapping port : String)
  | invalidProtocol (mapping protocol : String)
  | rangeMismatch (mapping : String)
deriving Repr, DecidableEq

/-- The message that reports a failure. -/
def PortError.message : PortError → String
  | .malformed mapping =>
    s!"Invalid port mapping '{mapping}': expected [HOST:][HOSTPORT:]CONTAINERPORT[/PROTOCOL]"
  | .invalidPort mapping port =>
    s!"Invalid port mapping '{mapping}': '{port}' is not a port (1-65535) or port range"
  | .invalidProtocol mapping protocol =>
    s!"Invalid port mapping '{mapping}': unknown protocol '{protocol}' (expected tcp, udp or sctp)"
  | .rangeMismatch mapping =>
    s!"Invalid port mapping '{mapping}': host and container port ranges differ in size"

/-- The ports from `first` to `last`; a single port is a range of its own. -/
structure PortRange where
  first : Nat
  last : Nat
  one_le_first : 1 ≤ first
  first_le_last : first ≤ last
  last_lt : last < 65536
deriving Repr, DecidableEq

/-- A transport protocol. -/
inductive Protocol where
  | tcp
  | udp
  | sctp
deriving Repr, DecidableEq

/-- The word for a protocol. -/
def Protocol.word : Protocol → String
  | .tcp => "tcp"
  | .udp => "udp"
  | .sctp => "sctp"

/-- Ports of the container that are reached through ports of the host. -/
structure PortMapping where
  /-- The address of the host, if it is given. -/
  host? : Option String
  /-- The ports of the host, if they are given. -/
  hostPorts? : Option PortRange
  containerPorts : PortRange
  protocol : Protocol
deriving Repr, DecidableEq

namespace PortRange

/-- One port: a number from 1 to 65535. -/
def port? (cs : List Char) : Option Nat :=
  (Decimal.natural? 65536 cs).filter (· ≠ 0)

/-- The range from `first` to `last`, if these are in order. -/
def ofPorts? (first last : Nat) : Option PortRange :=
  if h : 1 ≤ first ∧ first ≤ last ∧ last < 65536 then some ⟨first, last, h.1, h.2.1, h.2.2⟩
  else none

/-- The range that a text denotes: a port, or two ports with a dash between them. -/
def read? (cs : List Char) : Option PortRange := do
  match Text.cut '-' cs with
  | some (first, last) => ofPorts? (← port? first) (← port? last)
  | none =>
    let port ← port? cs
    ofPorts? port port

/-- The number of ports beyond the first. -/
def extent (r : PortRange) : Nat :=
  r.last - r.first

/-- A range, or the port itself if it is one. -/
def text (r : PortRange) : List Char :=
  if r.first = r.last then Decimal.digits r.first
  else Decimal.digits r.first ++ '-' :: Decimal.digits r.last

end PortRange

namespace PortMapping

/-- The protocol with a word, which is in lower case. -/
def protocol? (word : List Char) : Option Protocol :=
  if word = "tcp".toList then some .tcp
  else if word = "udp".toList then some .udp
  else if word = "sctp".toList then some .sctp
  else none

/-- What stands between the colons of a mapping: the host, the host port and the container port. A
host port that is left empty needs a host that is not. -/
def parts? (cs : List Char) : Option (Option (List Char) × Option (List Char) × List Char) :=
  match Text.fields ':' cs with
  | [container] => some (none, none, container)
  | [hostPort, container] => if hostPort = [] then none else some (none, some hostPort, container)
  | [host, hostPort, container] =>
    if host = [] then none
    else some (some host, if hostPort = [] then none else some hostPort, container)
  | _ => none

/-- The meaning of the text before the slash, for a mapping with that protocol. -/
def readPorts (mapping : String) (protocol : Protocol) (cs : List Char) :
    Except PortError PortMapping := do
  let (host, hostPort, container) ← (parts? cs).elim (.error (.malformed mapping)) .ok
  let range (cs : List Char) : Except PortError PortRange :=
    (PortRange.read? cs).elim (.error (.invalidPort mapping (String.ofList cs))) .ok
  let containerPorts ← range container
  let host? := host.map String.ofList
  match hostPort with
  | none => return { host?, hostPorts? := none, containerPorts, protocol }
  | some hostPort =>
    let hostPorts ← range hostPort
    if hostPorts.extent ≠ 0 ∧ containerPorts.extent ≠ 0 ∧
        hostPorts.extent ≠ containerPorts.extent then
      throw (.rangeMismatch mapping)
    return { host?, hostPorts? := some hostPorts, containerPorts, protocol }

/-- What a text maps. -/
def read (mapping : String) : Except PortError PortMapping :=
  match Text.cut '/' mapping.toList with
  | none => readPorts mapping .tcp mapping.toList
  | some (ports, word) =>
    let lower := Text.toLower word
    match protocol? lower with
    | none => .error (.invalidProtocol mapping (String.ofList lower))
    | some protocol => readPorts mapping protocol ports

/-- The one way in which a mapping is written. -/
def text (m : PortMapping) : String :=
  let host := match m.host? with
    | some host => host.toList ++ [':']
    | none => []
  let hostPorts := match m.hostPorts?, m.host? with
    | some ports, _ => ports.text ++ [':']
    | none, some _ => [':']
    | none, none => []
  let protocol := if m.protocol = .tcp then [] else '/' :: m.protocol.word.toList
  String.ofList (host ++ hostPorts ++ m.containerPorts.text ++ protocol)

end PortMapping
end ClusterPlan
