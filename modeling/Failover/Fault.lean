import Failover.Text.Case
import Failover.Text.Basic
/-!
# Transport faults

What can go wrong while one endpoint is talked to.

* `Fault.message` : the fault in words, outermost context first;
* `Fault.root` : the fault below all added context;
* `Fault.isIo` : the root is an I/O failure or a timeout;
* `Fault.isUncertain` : the other side may have done the work although no answer came;
* `Fault.sources` : the texts below the fault, one per layer.
-/

set_option autoImplicit false

namespace Failover

/-- Kinds of I/O failure. -/
inductive IoKind where
  | addrInUse | addrNotAvailable | alreadyExists | brokenPipe | connectionAborted
  | connectionRefused | connectionReset | hostUnreachable | interrupted | invalidData
  | invalidInput | networkDown | networkUnreachable | notConnected | notFound | other
  | outOfMemory | permissionDenied | timedOut | unexpectedEof | unsupported | wouldBlock
  | writeZero
deriving DecidableEq, Repr

namespace IoKind

/-- The name of a kind. -/
def name : IoKind → String
  | addrInUse => "AddrInUse"
  | addrNotAvailable => "AddrNotAvailable"
  | alreadyExists => "AlreadyExists"
  | brokenPipe => "BrokenPipe"
  | connectionAborted => "ConnectionAborted"
  | connectionRefused => "ConnectionRefused"
  | connectionReset => "ConnectionReset"
  | hostUnreachable => "HostUnreachable"
  | interrupted => "Interrupted"
  | invalidData => "InvalidData"
  | invalidInput => "InvalidInput"
  | networkDown => "NetworkDown"
  | networkUnreachable => "NetworkUnreachable"
  | notConnected => "NotConnected"
  | notFound => "NotFound"
  | other => "Other"
  | outOfMemory => "OutOfMemory"
  | permissionDenied => "PermissionDenied"
  | timedOut => "TimedOut"
  | unexpectedEof => "UnexpectedEof"
  | unsupported => "Unsupported"
  | wouldBlock => "WouldBlock"
  | writeZero => "WriteZero"

/-- All kinds. -/
def all : List IoKind :=
  [addrInUse, addrNotAvailable, alreadyExists, brokenPipe, connectionAborted, connectionRefused,
    connectionReset, hostUnreachable, interrupted, invalidData, invalidInput, networkDown,
    networkUnreachable, notConnected, notFound, other, outOfMemory, permissionDenied, timedOut,
    unexpectedEof, unsupported, wouldBlock, writeZero]

/-- The kind of a name. -/
def ofName? (s : String) : Option IoKind := all.find? fun k => k.name == s

end IoKind

/-- The phase of an exchange that took too long: the connection was being made, or the request was out
and the answer awaited. -/
inductive Phase where
  | connect
  | read
deriving DecidableEq, Repr

/-- The name of the phase in messages. -/
def Phase.text : Phase → String
  | connect => "connect"
  | read => "read"

/-- A failure to get an answer from one endpoint. It may be wrapped in words for the activity that it
broke; what is no matter of input or output is told in words only. -/
inductive Fault where
  | io (kind : IoKind) (text : String)
  | timeout (phase : Phase)
  | wrapped (context : String) (inner : Fault)
  | other (text : String)
deriving DecidableEq, Repr

namespace Fault

/-- The fault in words. -/
def message : Fault → String
  | io _ text => "I/O error: " ++ text
  | timeout phase => phase.text ++ " timed out"
  | wrapped context inner => context ++ ": " ++ inner.message
  | other text => text

/-- The kind of fault in one word, with the kind of I/O failure or the phase behind it. -/
def kind : Fault → String
  | io kind _ => "Io/" ++ kind.name
  | timeout phase => "Timeout/" ++ phase.text
  | wrapped _ _ => "Wrapped"
  | other _ => "Other"

/-- The fault below all added context. -/
def root : Fault → Fault
  | wrapped _ inner => inner.root
  | f => f

/-- Whether the root is an I/O failure, timeouts included. -/
def isIo (f : Fault) : Bool :=
  match f.root with
  | io _ _ => true
  | timeout _ => true
  | _ => false

/-- Whether a text mentions reading, in ASCII letters of either case. -/
def mentionsRead (text : String) : Bool :=
  Text.occurs ['r', 'e', 'a', 'd'] (text.toList.map Text.asciiLower)

/-- Whether the other side may have acted on the request: the wait for the answer ran out. -/
def isUncertain (f : Fault) : Bool :=
  match f.root with
  | timeout .read => true
  | io .timedOut text => mentionsRead text
  | _ => false

/-- The texts below the fault, one per layer. -/
def sources : Fault → List String
  | io _ text => [text]
  | timeout _ => []
  | wrapped _ inner => inner.message :: inner.sources
  | other text => [text]

end Fault

end Failover
