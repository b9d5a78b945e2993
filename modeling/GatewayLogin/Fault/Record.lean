/-
Faults as data trees.

A fault is exchanged by its kind: alone as a text when it carries nothing, else as a record with
the kind as its only field.  Faults of input and output are not exchanged at all.
-/
import GatewayLogin.Datum
import GatewayLogin.Fault

namespace GatewayLogin.Fault

def kind : Fault → String
  | .io _ => "Io"
  | .malformedVarint => "MalformedVarint"
  | .truncated .. => "TruncatedBuffer"
  | .unsupportedWireType _ => "UnsupportedWireType"
  | .invalidTag _ => "InvalidTag"
  | .oversizedFrame _ => "OversizedFrame"
  | .connectFailed _ => "ConnectError"
  | .connectTimeout => "ConnectTimeout"
  | .notOpen => "NotOpen"
  | .connectionClosed => "ConnectionClosed"
  | .transport _ => "TransportError"
  | .rejected .. => "ApplicationRejected"
  | .invalidCredentials _ => "InvalidCredentials"
  | .invalidState .. => "InvalidState"
  | .configuration _ => "ConfigError"

/-- What a fault carries besides its kind; none for a fault that is not exchanged. -/
def content? : Fault → Option Datum
  | .io _ => none
  | .malformedVarint | .connectTimeout | .notOpen | .connectionClosed => some .null
  | .truncated needed available =>
      some (.record [("needed", .integer needed), ("available", .integer available)])
  | .unsupportedWireType bits => some (.integer bits.toNat)
  | .invalidTag raw => some (.integer raw.toNat)
  | .oversizedFrame length => some (.integer length)
  | .connectFailed reason => some (.text reason)
  | .transport reason => some (.text reason)
  | .rejected code message =>
      some (.record [("code", .integer code.toInt), ("message", .text message)])
  | .invalidCredentials problem => some (.text problem)
  | .invalidState expected actual =>
      some (.record [("expected", .text expected), ("actual", .text actual)])
  | .configuration problem => some (.text problem)

def toDatum? (fault : Fault) : Option Datum :=
  match fault.content? with
  | none => none
  | some .null => some (.text fault.kind)
  | some content => some (.record [(fault.kind, content)])

/-- The fault of a kind that carries nothing. -/
def ofKind? (kind : String) : Option Fault :=
  [malformedVarint, connectTimeout, notOpen, connectionClosed].find? fun fault =>
    fault.kind == kind

/-- The fault of a kind with what it carries.  Fields that the kind does not have are ignored. -/
def ofContent? (kind : String) (content : Datum) : Option Fault :=
  match kind with
  | "TruncatedBuffer" => do
      let needed ← (← content.field? "needed").natBelow? UInt64.size
      let available ← (← content.field? "available").natBelow? UInt64.size
      return truncated needed available
  | "UnsupportedWireType" =>
      (content.natBelow? UInt8.size).map fun n => unsupportedWireType n.toUInt8
  | "InvalidTag" => (content.natBelow? UInt64.size).map fun n => invalidTag n.toUInt64
  | "OversizedFrame" => (content.natBelow? UInt64.size).map oversizedFrame
  | "ConnectError" => content.text?.map connectFailed
  | "TransportError" => content.text?.map transport
  | "ApplicationRejected" => do
      let code ← (← content.field? "code").int32?
      let message ← (← content.field? "message").text?
      return rejected code message
  | "InvalidCredentials" => content.text?.map invalidCredentials
  | "InvalidState" => do
      let expected ← (← content.field? "expected").text?
      let actual ← (← content.field? "actual").text?
      return invalidState expected actual
  | "ConfigError" => content.text?.map configuration
  | _ =>
      match content with
      | .null => ofKind? kind
      | _ => none

def ofDatum? : Datum → Option Fault
  | .text kind => ofKind? kind
  | .record [(kind, content)] => ofContent? kind content
  | _ => none

end GatewayLogin.Fault
