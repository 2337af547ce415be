import StylyNetSync.Protocol.Messages

/-!
# What a manager is given to talk to the outside

The managers of the core own no transport. Each is given a sender for the control lane and a log
callback, either of which may be unset. A manager hands its sender one of the messages below; the
transport sees the serialised `payload`.

Callbacks act on a state `ω` that the managers do not look into: the transport of a session, or a
record of what was sent.
-/

namespace StylyNetSync

/-- A message for the control lane. A client variable comes with the client number it was set for;
the message itself has only room for sixteen bits of it. -/
inductive ControlMessage
  | clientHello (deviceId : Bytes) (isStealth : Bool)
  | rpc (message : RpcMessage)
  | globalVarSet (message : GlobalVarSetMessage)
  | clientVarSet (target : ℤ) (message : ClientVarSetMessage)
  | clientVarClear (message : ClientVarClearMessage)
  | objectOwnershipRequest (message : ObjectOwnershipRequestMessage)
  deriving DecidableEq

/-- The bytes that are enqueued. -/
def ControlMessage.payload : ControlMessage → Bytes
  | clientHello deviceId isStealth => serializeClientHello deviceId isStealth
  | rpc message => serializeRpc message
  | globalVarSet message => serializeGlobalVarSet message
  | clientVarSet _ message => serializeClientVarSet message
  | clientVarClear message => serializeClientVarClear message
  | objectOwnershipRequest message => serializeObjectOwnershipRequest message

/-- The callbacks of a manager. An unset sender refuses and an unset log drops the line. -/
structure Callbacks (ω : Type) where
  send : Option (ControlMessage → ω → Bool × ω)
  onLog : Option (String → ω → ω)

/-- A name inside a log line, byte by byte. -/
def logText (name : Bytes) : String := String.ofList (name.map fun byte ↦ Char.ofNat byte.toNat)

namespace Callbacks

variable {ω : Type}

/-- Hand a message to the control sender. -/
def trySend (callbacks : Callbacks ω) (message : ControlMessage) (w : ω) : Bool × ω :=
  match callbacks.send with
  | none => (false, w)
  | some send => send message w

def log (callbacks : Callbacks ω) (line : String) (w : ω) : ω :=
  match callbacks.onLog with
  | none => w
  | some onLog => onLog line w

end Callbacks

/-- The cast of a client number into its wire field: negative numbers become zero, others are
reduced to sixteen bits. -/
def clientNoOnWire (clientNo : ℤ) : UInt16 :=
  UInt16.ofNat (if clientNo < 0 then 0 else clientNo).toNat

end StylyNetSync
