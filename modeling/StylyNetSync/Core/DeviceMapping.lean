import StylyNetSync.Foundation.OrderedMap
import StylyNetSync.Protocol.Messages

/-!
# Client numbers and device ids

`DeviceMapping` of the source. A client learns its own number by finding its device id in the table
the server sends; the table is replaced as a whole by every mapping message. Presence is derived
from room-pose snapshots: a client is announced once its device id is known.
-/

namespace StylyNetSync

/-- A set of client numbers, kept in order. -/
abbrev ClientNumbers := Std.ExtTreeSet ℤ compare

structure DeviceMapping where
  localDeviceId : Bytes := []
  localClientNo : ℤ := 0
  clientNoToDeviceId : OrderedMap ℤ Bytes := ∅
  deviceIdToClientNo : OrderedMap Bytes ℤ := ∅
  clientNoToStealth : OrderedMap ℤ Bool := ∅
  /-- Seen in a room snapshot but not yet announced. -/
  pendingClients : ClientNumbers := ∅
  /-- Announced and not yet gone. -/
  announcedClients : ClientNumbers := ∅

namespace DeviceMapping

/-- The result of applying a mapping message. -/
structure ApplyResult where
  localClientNoChanged : Bool := false
  localClientNo : ℤ := 0
  serverVersionSeen : Bool := true
  serverVersionMajor : ℤ
  serverVersionMinor : ℤ
  serverVersionPatch : ℤ

def setLocalDeviceId (deviceId : Bytes) (m : DeviceMapping) : DeviceMapping :=
  { m with localDeviceId := deviceId }

/-- One entry of a mapping message, and whether it changed the local number. -/
def applyEntry (acc : DeviceMapping × Bool) (entry : DeviceIdMappingEntry) :
    DeviceMapping × Bool :=
  match acc with
  | (m, changed) =>
    let clientNo : ℤ := entry.clientNo.toNat
    let m :=
      { m with
        clientNoToDeviceId := m.clientNoToDeviceId.insert clientNo entry.deviceId
        deviceIdToClientNo := m.deviceIdToClientNo.insert entry.deviceId clientNo
        clientNoToStealth := m.clientNoToStealth.insert clientNo entry.isStealth }
    -- a later entry with our device id overrides an earlier one
    if !m.localDeviceId.isEmpty && entry.deviceId = m.localDeviceId &&
        m.localClientNo ≠ clientNo then
      ({ m with localClientNo := clientNo }, true)
    else (m, changed)

/-- Replace the whole table. -/
def apply (message : DeviceIdMappingMessage) (m : DeviceMapping) : ApplyResult × DeviceMapping :=
  let emptied :=
    { m with clientNoToDeviceId := ∅, deviceIdToClientNo := ∅, clientNoToStealth := ∅ }
  match message.mappings.foldl applyEntry (emptied, false) with
  | (m, changed) =>
    ({ localClientNoChanged := changed
       localClientNo := m.localClientNo
       serverVersionMajor := message.serverVersionMajor.toNat
       serverVersionMinor := message.serverVersionMinor.toNat
       serverVersionPatch := message.serverVersionPatch.toNat }, m)

def deviceIdFor (clientNo : ℤ) (m : DeviceMapping) : Bytes :=
  (m.clientNoToDeviceId[clientNo]?).getD []

def clientNoFor (deviceId : Bytes) (m : DeviceMapping) : ℤ :=
  (m.deviceIdToClientNo[deviceId]?).getD 0

def isStealth (clientNo : ℤ) (m : DeviceMapping) : Bool :=
  (m.clientNoToStealth[clientNo]?).getD false

def knownClientNumbers (m : DeviceMapping) : List ℤ := m.clientNoToDeviceId.keys

/-- One client of a room snapshot: it is announced, or it waits for its device id. -/
def noteAlive (acc : DeviceMapping × List ℤ) (clientNo : ℤ) : DeviceMapping × List ℤ :=
  match acc with
  | (m, connected) =>
    if m.announcedClients.contains clientNo then (m, connected)
    else if m.clientNoToDeviceId.contains clientNo then
      ({ m with
          announcedClients := m.announcedClients.insert clientNo
          pendingClients := m.pendingClients.erase clientNo }, connected ++ [clientNo])
    else ({ m with pendingClients := m.pendingClients.insert clientNo }, connected)

/-- Update presence from a room-pose snapshot: the clients that are newly announced, and those that
are gone. -/
def updatePresence (alive : List ℤ) (m : DeviceMapping) : List ℤ × List ℤ × DeviceMapping :=
  let aliveSet : ClientNumbers := Std.ExtTreeSet.ofList alive compare
  match aliveSet.toList.foldl noteAlive (m, []) with
  | (m, connected) =>
    -- only announced clients are reported gone; a pending one just stops waiting
    let disconnected := m.announcedClients.toList.filter fun clientNo ↦
      !aliveSet.contains clientNo
    (connected, disconnected,
      { m with
        pendingClients := m.pendingClients.filter fun clientNo ↦ aliveSet.contains clientNo
        announcedClients := m.announcedClients.filter fun clientNo ↦ aliveSet.contains clientNo })

/-- Clear every room-scoped table. -/
def clear (m : DeviceMapping) : DeviceMapping := { localDeviceId := m.localDeviceId }

/-! ### The own number -/

/-- The number of a device after a mapping message: that of the last entry with its id, if there is
one. -/
def numberFrom (deviceId : Bytes) (number : ℤ) (message : DeviceIdMappingMessage) : ℤ :=
  message.mappings.foldl (fun number entry ↦
    if !deviceId.isEmpty && entry.deviceId = deviceId then entry.clientNo.toNat else number) number

theorem applyEntry_local (acc : DeviceMapping × Bool) (entry : DeviceIdMappingEntry) :
    (applyEntry acc entry).1.localDeviceId = acc.1.localDeviceId ∧
      (applyEntry acc entry).1.localClientNo =
        if !acc.1.localDeviceId.isEmpty && entry.deviceId = acc.1.localDeviceId then
          (entry.clientNo.toNat : ℤ)
        else acc.1.localClientNo := by
  obtain ⟨m, changed⟩ := acc
  rw [applyEntry]
  dsimp only
  by_cases hown : (!m.localDeviceId.isEmpty && entry.deviceId = m.localDeviceId) = true
  · by_cases hsame : m.localClientNo = entry.clientNo.toNat
    · simp [hown, hsame]
    · simp [hown, hsame]
  · simp [hown]

/-- **A mapping message gives the number of its last entry for this device.** -/
theorem apply_local (message : DeviceIdMappingMessage) (m : DeviceMapping) :
    (m.apply message).2.localDeviceId = m.localDeviceId ∧
      (m.apply message).2.localClientNo =
        numberFrom m.localDeviceId m.localClientNo message := by
  have hloop (entries : List DeviceIdMappingEntry) (acc : DeviceMapping × Bool) :
      (entries.foldl applyEntry acc).1.localDeviceId = acc.1.localDeviceId ∧
        (entries.foldl applyEntry acc).1.localClientNo =
          entries.foldl (fun number entry ↦
            if !acc.1.localDeviceId.isEmpty && entry.deviceId = acc.1.localDeviceId then
              (entry.clientNo.toNat : ℤ)
            else number) acc.1.localClientNo := by
    induction entries generalizing acc with
    | nil => exact ⟨rfl, rfl⟩
    | cons entry entries ih =>
      obtain ⟨hid, hnumber⟩ := ih (applyEntry acc entry)
      obtain ⟨hid', hnumber'⟩ := applyEntry_local acc entry
      rw [List.foldl_cons, List.foldl_cons, hid, hnumber, hid', hnumber']
      exact ⟨rfl, rfl⟩
  exact hloop message.mappings
    ({ m with clientNoToDeviceId := ∅, deviceIdToClientNo := ∅, clientNoToStealth := ∅ }, false)

/-- Who is present is no matter of the own identity, and only those who are there are announced. -/
theorem updatePresence_local (alive : List ℤ) (m : DeviceMapping) :
    (m.updatePresence alive).2.2.localDeviceId = m.localDeviceId ∧
      (m.updatePresence alive).2.2.localClientNo = m.localClientNo ∧
      ∀ clientNo ∈ (m.updatePresence alive).1, clientNo ∈ alive := by
  rw [updatePresence]
  refine List.foldlRecOn
    (motive := fun acc : DeviceMapping × List ℤ ↦
      acc.1.localDeviceId = m.localDeviceId ∧ acc.1.localClientNo = m.localClientNo ∧
        ∀ clientNo ∈ acc.2, clientNo ∈ alive)
    _ noteAlive ⟨rfl, rfl, fun _ h ↦ absurd h List.not_mem_nil⟩ ?_
  rintro ⟨m', connected⟩ ⟨hid, hnumber, hconnected⟩ clientNo hclientNo
  have halive : clientNo ∈ alive := by
    rw [Std.ExtTreeSet.mem_toList, Std.ExtTreeSet.mem_ofList] at hclientNo
    exact List.contains_iff_mem.mp hclientNo
  rw [noteAlive]
  split
  · exact ⟨hid, hnumber, hconnected⟩
  · split
    · refine ⟨hid, hnumber, fun clientNo' hmem ↦ ?_⟩
      rcases List.mem_append.mp hmem with hmem | hmem
      · exact hconnected clientNo' hmem
      · rw [List.mem_singleton.mp hmem]
        exact halive
    · exact ⟨hid, hnumber, hconnected⟩

end DeviceMapping

end StylyNetSync
