import StylyNetSync.Core.JsonRoundTrip
import StylyNetSync.Core.NetSyncClient
import StylyNetSync.Core.SendRecord
import StylyNetSync.Core.VariableWire
import StylyNetSync.Protocol.RoundTrip

/-!
# Calls that arrive as they were made

A call leaves as a function name behind an 8-bit length, a target list and the JSON encoding of its
arguments behind a 16-bit length. The target list is checked before anything is sent, so it always
survives. The two strings are cut to fit their length fields without a word, and since an argument
array that lacks its end is not accepted, a cut in the JSON makes the receiver deliver no arguments.
-/

namespace StylyNetSync

/-- What the receiving client makes of the payload: one call, of this function with these arguments,
whatever state the client is in; and the target list of the payload is the one asked for. -/
def DeliveredIntact (D : Type) [Double D] [NumberText D] (payload functionName : Bytes)
    (arguments : List Bytes) (targetClientNos : List ℤ) : Prop :=
  (∀ receiver : Session D, ∃ sender,
    (receiver.processControlPayload (decodeJsonStringArray D) payload).events =
      receiver.events ++ [.rpcReceived sender functionName arguments]) ∧
  ∃ message, (deserializeRpc.run payload).1 = some message ∧
    message.targetClientNos.map (fun clientNo ↦ (clientNo.toNat : ℤ)) = targetClientNos

/-! ### What is handed over -/

variable {D : Type} [Double D]

/-- A call is handed over only with a target list that fits the message. -/
theorem trySendNow_handed [DoubleText D] {m : RpcManager D} {now : D} {localClientNo : ℤ}
    {deviceId : Bytes}
    {targetClientNos : List ℤ} {functionName : Bytes} {arguments : List Bytes}
    {answers : List Bool} {entry : ControlMessage × Bool}
    (h : entry ∈ (m.trySendNow SendRecord.callbacks now localClientNo deviceId targetClientNos
      functionName arguments { answers := answers }).2.2.handed) :
    entry.1 = .rpc (RpcManager.rpcMessage localClientNo deviceId targetClientNos functionName
      arguments) ∧
    (∀ target ∈ targetClientNos, 0 ≤ target ∧ target ≤ 65535) ∧ targetClientNos.length ≤ 255 := by
  rcases hcall : m.trySendNow SendRecord.callbacks now localClientNo deviceId targetClientNos
    functionName arguments { answers := answers } with ⟨ok, m', r⟩
  rw [hcall] at h
  obtain ⟨-, ⟨-, rfl | ⟨line, rfl⟩⟩ | ⟨-, hrange, hlength, hsend⟩⟩ :=
    RpcManager.trySendNow_cases hcall
  · exact absurd h List.not_mem_nil
  · exact absurd h List.not_mem_nil
  · rw [SendRecord.handed_of_trySend hsend, List.nil_append, List.mem_singleton] at h
    exact ⟨by rw [h], hrange, hlength⟩

/-! ### What arrives -/

variable [NumberText D]

/-- The receiver emits one call, with the name and the arguments that the wire left. -/
theorem processControlPayload_rpc (receiver : Session D) (message : RpcMessage) :
    (receiver.processControlPayload (decodeJsonStringArray D) (serializeRpc message)).events =
      receiver.events ++ [.rpcReceived message.senderClientNo.toNat
        (wireString8 message.functionName)
        ((decodeJsonStringArray D (wireString16 message.argumentsJson)).getD [])] := by
  have htype : peekMessageType (serializeRpc message) = MessageType.rpc.code := rfl
  have hdecoded : (deserializeRpc.run (serializeRpc message)).1 = some message.onWire :=
    congrArg Prod.fst (rpc_roundTrips message)
  rw [Session.processControlPayload, htype, if_neg (by decide), if_pos rfl, hdecoded]
  show (Session.processRpc (decodeJsonStringArray D) message.onWire receiver).events = _
  rw [Session.processRpc]
  have hjson : message.onWire.argumentsJson = wireString16 message.argumentsJson := rfl
  rw [hjson]
  cases hargs : decodeJsonStringArray D (wireString16 message.argumentsJson) <;> rfl

theorem truncateUtf8Bytes_isPrefix (value : Bytes) (n : ℕ) :
    truncateUtf8Bytes value n <+: value := by
  rw [truncateUtf8Bytes]
  split
  · exact List.prefix_refl value
  · exact List.take_prefix _ value

/-- The arguments that arrive: all of them, or none when the encoding does not fit its field. -/
theorem decode_wireString16 (arguments : List Bytes) :
    (decodeJsonStringArray D (wireString16 (encodeJsonStringArray arguments))).getD [] =
      if (encodeJsonStringArray arguments).length ≤ 65535 then arguments else [] := by
  split
  · next hfits =>
    rw [wireString16, truncateUtf8Bytes_of_le hfits, decode_encode]
    rfl
  · next hlong =>
    rw [wireString16, decode_cut (truncateUtf8Bytes_isPrefix _ _)
      (fun heq ↦ hlong (truncateUtf8Bytes_eq_self_iff.mp heq))]
    rfl

/-- The empty list always fits. -/
theorem arguments_ne_nil {arguments : List Bytes}
    (h : 65535 < (encodeJsonStringArray arguments).length) : arguments ≠ [] := by
  rintro rfl
  exact absurd h (by decide)

theorem targets_onWire {targetClientNos : List ℤ}
    (hrange : ∀ target ∈ targetClientNos, 0 ≤ target ∧ target ≤ 65535)
    (hlength : targetClientNos.length ≤ 255) :
    ((targetClientNos.map clientNoOnWire).take 255).map (fun clientNo ↦ (clientNo.toNat : ℤ)) =
      targetClientNos := by
  rw [List.take_of_length_le (by rwa [List.length_map]), List.map_map]
  refine (List.map_congr_left fun target htarget ↦ ?_).trans (List.map_id _)
  obtain ⟨hnonneg, hle⟩ := hrange target htarget
  exact toNat_clientNoOnWire hnonneg (by omega)

/-- A call that is delivered intact had room for its name and its arguments. -/
theorem DeliveredIntact.fits {localClientNo : ℤ} {deviceId : Bytes} {targetClientNos : List ℤ}
    {functionName : Bytes} {arguments : List Bytes}
    (h : DeliveredIntact D (serializeRpc (RpcManager.rpcMessage localClientNo deviceId
      targetClientNos functionName arguments)) functionName arguments targetClientNos) :
    functionName.length ≤ 255 ∧ (encodeJsonStringArray arguments).length ≤ 65535 := by
  let receiver : Session D := Session.new (Double.lit 0)
  obtain ⟨sender, hone⟩ := h.1 receiver
  have harrived := processControlPayload_rpc receiver
    (RpcManager.rpcMessage localClientNo deviceId targetClientNos functionName arguments)
  have hcall := List.append_cancel_left (harrived.symm.trans hone)
  simp only [List.cons.injEq, Event.rpcReceived.injEq, and_true] at hcall
  obtain ⟨-, hname, hargs⟩ := hcall
  refine ⟨wireString8_eq_self_iff.mp hname, ?_⟩
  -- a cut leaves no arguments at all, and without arguments there is nothing to cut
  by_contra hlong
  rw [RpcManager.rpcMessage, decode_wireString16, if_neg hlong] at hargs
  exact arguments_ne_nil (by omega) hargs.symm

variable [DoubleText D]

/-- **When a call is delivered intact.** Whatever is handed to the sender arrives as one call of the
function with the arguments, under the targets asked for, exactly if the name fits into 255 bytes
and the encoded arguments into 65535. -/
theorem rpc_delivered_iff (m : RpcManager D) (now : D) (localClientNo : ℤ) (deviceId : Bytes)
    (targetClientNos : List ℤ) (functionName : Bytes) (arguments : List Bytes)
    (answers : List Bool) :
    ∀ entry ∈ (m.trySendNow SendRecord.callbacks now localClientNo deviceId targetClientNos
      functionName arguments { answers := answers }).2.2.handed,
      (DeliveredIntact D entry.1.payload functionName arguments targetClientNos ↔
        functionName.length ≤ 255 ∧ (encodeJsonStringArray arguments).length ≤ 65535) := by
  intro entry hentry
  obtain ⟨hmessage, hrange, hlength⟩ := trySendNow_handed hentry
  rw [hmessage]
  refine ⟨DeliveredIntact.fits, ?_⟩
  rintro ⟨hname, hjson⟩
  refine ⟨fun receiver ↦ ⟨(clientNoOnWire localClientNo).toNat, ?_⟩,
    _, congrArg Prod.fst (rpc_roundTrips _), targets_onWire hrange hlength⟩
  refine (processControlPayload_rpc receiver _).trans ?_
  rw [RpcManager.rpcMessage, decode_wireString16, if_pos hjson, wireString8_eq_self_iff.mpr hname]

/-- A short call to client 3 is handed over and arrives. -/
theorem rpc_delivered_short :
    let handed := ((RpcManager.default : RpcManager ℚ).trySendNow SendRecord.callbacks 0 1 [100] [3]
      [102] [[34], [10]] { answers := [true] }).2.2.handed
    let message := RpcManager.rpcMessage 1 [100] [3] [102] [[34], [10]]
    handed = [(.rpc message, true)] ∧
      DeliveredIntact ℚ (serializeRpc message) [102] [[34], [10]] [3] := by
  intro handed message
  have hhanded : handed = [(.rpc message, true)] := by decide +kernel
  refine ⟨hhanded, ?_⟩
  have hiff := rpc_delivered_iff (RpcManager.default : RpcManager ℚ) 0 1 [100] [3] [102]
    [[34], [10]] [true] (.rpc message, true) (by
      show (.rpc message, true) ∈ handed
      rw [hhanded]
      exact List.mem_singleton_self _)
  exact hiff.mpr ⟨by decide, by decide⟩

/-- A function name of 256 bytes is handed over, accepted, and arrives without its last byte. -/
theorem rpc_name_cut :
    let name : Bytes := List.replicate 256 97
    let message := RpcManager.rpcMessage 1 [100] [] name []
    ((RpcManager.default : RpcManager ℚ).trySendNow SendRecord.callbacks 0 1 [100] [] name []
      { answers := [true] }).2.2.handed = [(.rpc message, true)] ∧
    ((Session.new (0 : ℚ)).processControlPayload (decodeJsonStringArray ℚ)
      (serializeRpc message)).events = [.rpcReceived 1 (List.replicate 255 97) []] ∧
    ¬DeliveredIntact ℚ (serializeRpc message) name [] [] := by
  intro name message
  have hlong : ¬name.length ≤ 255 := by rw [List.length_replicate]; decide
  have hname : wireString8 name = List.replicate 255 97 := by decide +kernel
  have hargs : (decodeJsonStringArray ℚ (wireString16 (encodeJsonStringArray []))).getD [] = [] :=
    decode_wireString16 []
  refine ⟨by decide +kernel, ?_, fun h ↦ hlong h.fits.1⟩
  refine (processControlPayload_rpc (Session.new (0 : ℚ)) message).trans ?_
  simp only [message, RpcManager.rpcMessage, hname, hargs]
  rfl

end StylyNetSync
