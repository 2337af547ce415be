import Mathlib.Data.List.Basic

/-!
# Message types and protocol constants

The identifiers and limits of wire protocol version 8, as `message_types.hpp` spells them. Message
types, flag bits and limits are the values that travel on the wire; everything else in the
development refers to them by name.
-/

namespace StylyNetSync

/-- A `std::string` or a byte vector of the source: a sequence of bytes, not assumed to be text. -/
abbrev Bytes := List UInt8

/-- Wire protocol version. Rides on pose and object messages and the client hello. -/
def kProtocolVersion : UInt8 := 8

/-- Message identifiers. The legacy and reserved ones are never emitted at version 8. -/
inductive MessageType
  | clientTransform
  | roomTransform
  | rpc
  | rpcServer
  | rpcClient
  | deviceIdMapping
  | globalVarSet
  | globalVarSync
  | clientVarSet
  | clientVarSync
  | clientPose
  | roomPose
  | objectPose
  | roomObjects
  | objectOwnershipRequest
  | objectOwnershipChanged
  | objectOwnershipRejected
  | clientVarClear
  | clientHello
  deriving DecidableEq, Repr

/-- The byte a message of the given type starts with. -/
def MessageType.code : MessageType → UInt8
  | .clientTransform => 1
  | .roomTransform => 2
  | .rpc => 3
  | .rpcServer => 4
  | .rpcClient => 5
  | .deviceIdMapping => 6
  | .globalVarSet => 7
  | .globalVarSync => 8
  | .clientVarSet => 9
  | .clientVarSync => 10
  | .clientPose => 11
  | .roomPose => 12
  | .objectPose => 13
  | .roomObjects => 14
  | .objectOwnershipRequest => 15
  | .objectOwnershipChanged => 16
  | .objectOwnershipRejected => 17
  | .clientVarClear => 18
  | .clientHello => 19

/-- Flag byte of the client hello. -/
def kClientHelloFlagStealth : UInt8 := 0x01

/-! ### Pose flags -/

namespace PoseFlag

def stealth : UInt8 := 0x01
def physicalValid : UInt8 := 0x02
def headValid : UInt8 := 0x04
def rightValid : UInt8 := 0x08
def leftValid : UInt8 := 0x10
def virtualsValid : UInt8 := 0x20
def movingFloorLocal : UInt8 := 0x40

end PoseFlag

/-! ### Encoding flags

Derived from the pose flags, never chosen. -/

namespace EncodingFlag

def physicalYawOnly : UInt8 := 0x01
def rightRelHead : UInt8 := 0x02
def leftRelHead : UInt8 := 0x04
def virtualRelHead : UInt8 := 0x08
def physicalIsXrOriginDelta : UInt8 := 0x10

/-- Every encoding flag set. -/
def flagsDefault : UInt8 :=
  physicalYawOnly ||| rightRelHead ||| leftRelHead ||| virtualRelHead ||| physicalIsXrOriginDelta

end EncodingFlag

/-- Ownership request operation types (`operationType` byte of the request). -/
inductive OwnershipOperation
  | release
  | request
  deriving DecidableEq, Repr

/-- The operation byte on the wire. -/
def OwnershipOperation.code : OwnershipOperation → UInt8
  | .release => 1
  | .request => 2

/-- Maximum number of virtual transforms carried in one pose body. -/
def kMaxVirtualTransforms : ℕ := 50

/-- Network-variable limits shared with the server, in characters. -/
def kMaxVariableNameChars : ℕ := 64

def kMaxVariableValueChars : ℕ := 1024

end StylyNetSync
