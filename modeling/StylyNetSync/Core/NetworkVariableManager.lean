import StylyNetSync.Core.Callbacks
import StylyNetSync.Core.SendSide

/-!
# Global and per-client network variables

`NetworkVariableManager` of the source: validation, the debounced send path of `SendSide` for each
kind of variable, and the reconciliation of incoming snapshots. The two kinds reconcile differently.
A global entry that differs from the last value sent makes the manager forget that value; a client
block replaces the last values sent by its own.

Variable changes are returned in the order the source pushes them.
-/

namespace StylyNetSync

/-! ### Data -/

/-- Client variables are keyed by client number and name. -/
structure ClientKey where
  clientNo : ℤ
  name : Bytes
  deriving DecidableEq

instance : Ord ClientKey where
  compare := compareLex (compareOn ClientKey.clientNo) (compareOn ClientKey.name)

instance : Std.TransOrd ClientKey :=
  inferInstanceAs (Std.TransCmp
    (compareLex (compareOn ClientKey.clientNo) (compareOn ClientKey.name)))

instance : Std.LawfulEqOrd ClientKey where
  eq_of_compare {a b} h := by
    have hlex : compareLex (compareOn ClientKey.clientNo) (compareOn ClientKey.name) a b = .eq := h
    obtain ⟨hno, hname⟩ := compareLex_eq_eq.mp hlex
    cases a
    cases b
    rw [ClientKey.mk.injEq]
    exact ⟨Std.LawfulEqOrd.compare_eq_iff_eq.mp hno, Std.LawfulEqOrd.compare_eq_iff_eq.mp hname⟩

/-- Emitted when a variable's value changes. -/
structure VariableChange where
  /-- Zero for a global variable. -/
  clientNo : ℤ := 0
  name : Bytes
  oldValue : Bytes := []
  newValue : Bytes := []
  /-- False when the name is newly introduced. -/
  hadOldValue : Bool := false
  /-- True when it disappeared from an authoritative snapshot. -/
  removed : Bool := false
  deriving DecidableEq

def kMaxGlobalVars : ℕ := 100
def kMaxClientVars : ℕ := 100

/-- A room with no variables never produces a sync message, so readiness falls back to this. -/
def kInitialSyncTimeout {D : Type} [Double D] : D := Double.lit 2

/-- The variables of one client, or the global ones. -/
abbrev Variables := OrderedMap Bytes Bytes

structure NetworkVariableManager (D : Type) where
  localClientNo : ℤ := 0
  localDeviceId : Bytes := []
  globals : Variables := ∅
  clientVariables : OrderedMap ℤ Variables := ∅
  /-- `last_sent_global_` and its three companions. -/
  globalSide : SendSide Bytes D := {}
  /-- `last_sent_client_` and its three companions. -/
  clientSide : SendSide ClientKey D := {}
  hasReceivedInitialSync : Bool := false
  connectionEstablished : Bool := false
  connectionEstablishedAt : D

namespace NetworkVariableManager

variable {D ω : Type}

/-! ### Session state -/

def setLocalIdentity (m : NetworkVariableManager D) (clientNo : ℤ) (deviceId : Bytes) :
    NetworkVariableManager D :=
  { m with localClientNo := clientNo, localDeviceId := deviceId }

def resetInitialSync [Double D] (m : NetworkVariableManager D) : NetworkVariableManager D :=
  { m with
    hasReceivedInitialSync := false
    connectionEstablished := false
    connectionEstablishedAt := Double.lit 0 }

def onConnectionEstablished (m : NetworkVariableManager D) (now : D) : NetworkVariableManager D :=
  { m with connectionEstablished := true, connectionEstablishedAt := now }

/-- True when this call flipped initial sync to complete. -/
def checkInitialSyncTimeout [Double D] (callbacks : Callbacks ω) (now : D)
    (m : NetworkVariableManager D) (w : ω) : Bool × NetworkVariableManager D × ω :=
  if m.hasReceivedInitialSync || !m.connectionEstablished then (false, m, w)
  else if Double.lt (now - m.connectionEstablishedAt) kInitialSyncTimeout then (false, m, w)
  else
    (true, { m with hasReceivedInitialSync := true },
      callbacks.log ("network variable initial sync timed out after 2.000000s — " ++
        "proceeding without variables") w)

/-! ### Validation -/

/-- Count Unicode code points. -/
def codePointLength (value : Bytes) : ℕ := Utf8.codePoints value

def validateName (name : Bytes) : Bool :=
  !(name.isEmpty || decide (codePointLength name > kMaxVariableNameChars))

def validateValue (value : Bytes) : Bool :=
  decide (codePointLength value ≤ kMaxVariableValueChars)

/-! ### Global variables -/

/-- The message that carries a global variable. -/
def globalVarSetMessage (m : NetworkVariableManager D) (name value : Bytes) :
    GlobalVarSetMessage :=
  { senderClientNo := clientNoOnWire m.localClientNo
    deviceId := m.localDeviceId
    variableName := name
    variableValue := value }

/-- How the send side of the global variables reaches the wire. -/
def emitGlobal (callbacks : Callbacks ω) (m : NetworkVariableManager D) (name value : Bytes) :
    ω → Bool × ω :=
  callbacks.trySend (.globalVarSet (m.globalVarSetMessage name value))

def setGlobal [Double D] (callbacks : Callbacks ω) (now : D) (name value : Bytes)
    (m : NetworkVariableManager D) (w : ω) : Bool × NetworkVariableManager D × ω :=
  if !validateName name then
    (false, m, callbacks.log "invalid global variable name: must be 1-64 characters" w)
  else if !validateValue value then
    (false, m, callbacks.log "invalid global variable value: must be at most 1024 characters" w)
  else if decide (m.globals.size ≥ kMaxGlobalVars) && !m.globals.contains name then
    (false, m, callbacks.log "global variable limit (100) reached" w)
  else match m.globalSide.write (m.emitGlobal callbacks) now name value w with
    | (side, w') => (true, { m with globalSide := side }, w')

def getGlobal (m : NetworkVariableManager D) (name : Bytes) : Option Bytes := m.globals[name]?

/-! ### Client variables -/

/-- The message that carries a client variable. -/
def clientVarSetMessage (m : NetworkVariableManager D) (key : ClientKey) (value : Bytes) :
    ClientVarSetMessage :=
  { senderClientNo := clientNoOnWire m.localClientNo
    deviceId := m.localDeviceId
    targetClientNo := clientNoOnWire key.clientNo
    variableName := key.name
    variableValue := value }

/-- How the send side of the client variables reaches the wire. -/
def emitClient (callbacks : Callbacks ω) (m : NetworkVariableManager D) (key : ClientKey)
    (value : Bytes) : ω → Bool × ω :=
  callbacks.trySend (.clientVarSet key.clientNo (m.clientVarSetMessage key value))

/-- The variables known of a client; none for a client that was never heard of. -/
def allClientVariables (m : NetworkVariableManager D) (clientNo : ℤ) : Variables :=
  (m.clientVariables[clientNo]?).getD ∅

/-- The map access `client_variables_[client_no]`, which creates an empty entry. -/
def touchClient (m : NetworkVariableManager D) (clientNo : ℤ) : NetworkVariableManager D :=
  { m with
    clientVariables :=
      if clientNo ∈ m.clientVariables then m.clientVariables
      else m.clientVariables.insert clientNo ∅ }

def setClient [Double D] (callbacks : Callbacks ω) (now : D) (targetClientNo : ℤ)
    (name value : Bytes) (m : NetworkVariableManager D) (w : ω) :
    Bool × NetworkVariableManager D × ω :=
  if !validateName name then
    (false, m, callbacks.log "invalid client variable name: must be 1-64 characters" w)
  else if !validateValue value then
    (false, m, callbacks.log "invalid client variable value: must be at most 1024 characters" w)
  else
    let known := m.allClientVariables targetClientNo
    -- the limit is checked through `client_variables_[target]`, which leaves an entry behind
    let m := m.touchClient targetClientNo
    if decide (known.size ≥ kMaxClientVars) && !known.contains name then
      (false, m, callbacks.log
        ("client variable limit (100) reached for client " ++ toString targetClientNo) w)
    else match m.clientSide.write (m.emitClient callbacks) now ⟨targetClientNo, name⟩ value w with
      | (side, w') => (true, { m with clientSide := side }, w')

def getClient (m : NetworkVariableManager D) (clientNo : ℤ) (name : Bytes) : Option Bytes :=
  match m.clientVariables[clientNo]? with
  | none => none
  | some known => known[name]?

/-- Erase the entries of one client from a map keyed by client. -/
def eraseClient {V : Type} (map : OrderedMap ClientKey V) (clientNo : ℤ) : OrderedMap ClientKey V :=
  map.filter fun key _ ↦ key.clientNo != clientNo

def clearPendingForClient (m : NetworkVariableManager D) (clientNo : ℤ) :
    NetworkVariableManager D :=
  { m with
    clientSide :=
      { pending := eraseClient m.clientSide.pending clientNo
        due := eraseClient m.clientSide.due clientNo
        lastSent := eraseClient m.clientSide.lastSent clientNo
        nextAllowed := eraseClient m.clientSide.nextAllowed clientNo } }

/-- The changes that announce the removal of all variables of a client. -/
def removals (clientNo : ℤ) (known : Variables) : List VariableChange :=
  known.toList.map fun entry ↦
    { clientNo := clientNo, name := entry.1, oldValue := entry.2, hadOldValue := true,
      removed := true }

/-- Clear every variable this client owns on the server; locally at once, since the server's next
snapshot is authoritative. -/
def clearMyClientVariables (callbacks : Callbacks ω) (m : NetworkVariableManager D) (w : ω) :
    Bool × List VariableChange × NetworkVariableManager D × ω :=
  if m.localClientNo ≤ 0 then (false, [], m, w)
  else
    let message : ClientVarClearMessage :=
      { senderClientNo := clientNoOnWire m.localClientNo, deviceId := m.localDeviceId }
    match callbacks.trySend (.clientVarClear message) w with
    | (false, w') => (false, [], m, w')
    | (true, w') =>
      match m.clientVariables[m.localClientNo]? with
      -- nothing was ever heard of our own variables: there is nothing to announce
      | none => (true, [], m.clearPendingForClient m.localClientNo, w')
      | some known =>
        let cleared :=
          { m with clientVariables := m.clientVariables.insert m.localClientNo ∅ }
        (true, removals m.localClientNo known, cleared.clearPendingForClient m.localClientNo, w')

end NetworkVariableManager

/-! ### Incoming snapshots -/

/-- Reconcile the send side with an authoritative global entry: drop the redundant trailing copy of
our own last send, and forget that send when someone else changed the value. -/
def SendSide.reconcileGlobal {D : Type} (name value : Bytes) (s : SendSide Bytes D) :
    SendSide Bytes D :=
  match s.lastSent[name]? with
  | none => s
  | some sent =>
    if sent ≠ value then (s.dropRedundant name sent).forget name else s.dropRedundant name sent

/-- Reconcile the send side with a client variable that an authoritative block no longer holds. -/
def SendSide.reconcileRemoved {D : Type} (key : ClientKey) (s : SendSide ClientKey D) :
    SendSide ClientKey D :=
  match s.lastSent[key]? with
  | none => s
  | some sent => (s.dropRedundant key sent).forget key

/-- Reconcile the send side with a client variable of an authoritative block. -/
def SendSide.reconcilePresent {D : Type} (key : ClientKey) (value : Bytes)
    (s : SendSide ClientKey D) : SendSide ClientKey D :=
  (s.recordSent key value).dropRedundant key value

namespace NetworkVariableManager

variable {D ω : Type}

/-- One entry of a global sync; entries without a name are skipped. -/
def handleGlobalEntry (acc : NetworkVariableManager D × List VariableChange)
    (entry : NetworkVariableEntry) : NetworkVariableManager D × List VariableChange :=
  match acc with
  | (m, changes) =>
    if entry.name.isEmpty then (m, changes)
    else
      let m := { m with globalSide := m.globalSide.reconcileGlobal entry.name entry.value }
      let existing := m.globals[entry.name]?
      if existing = some entry.value then (m, changes)
      else
        ({ m with globals := m.globals.insert entry.name entry.value },
          changes ++
            [{ clientNo := 0, name := entry.name, hadOldValue := existing.isSome,
               oldValue := existing.getD [], newValue := entry.value }])

def handleGlobalSync (message : GlobalVarSyncMessage) (m : NetworkVariableManager D) :
    NetworkVariableManager D × List VariableChange :=
  message.vars.foldl handleGlobalEntry ({ m with hasReceivedInitialSync := true }, [])

/-- The variables a block describes; entries without a name are skipped and the last entry of a name
wins. -/
def snapshotOf (entries : List NetworkVariableEntry) : Variables :=
  entries.foldl (fun next entry ↦
    if entry.name.isEmpty then next else next.insert entry.name entry.value) ∅

/-- One round of the loop over the cached variables: whatever the block lacks was removed. -/
def handleRemovedEntry (clientNo : ℤ) (next : Variables)
    (acc : SendSide ClientKey D × List VariableChange) (entry : Bytes × Bytes) :
    SendSide ClientKey D × List VariableChange :=
  match acc with
  | (s, changes) =>
    if entry.1 ∈ next then (s, changes)
    else
      (s.reconcileRemoved ⟨clientNo, entry.1⟩,
        changes ++
          [{ clientNo := clientNo, name := entry.1, oldValue := entry.2, hadOldValue := true,
             removed := true }])

/-- One round of the loop over the variables of the block. -/
def handlePresentEntry (clientNo : ℤ) (old : Variables)
    (acc : SendSide ClientKey D × List VariableChange) (entry : Bytes × Bytes) :
    SendSide ClientKey D × List VariableChange :=
  match acc with
  | (s, changes) =>
    let s := s.reconcilePresent ⟨clientNo, entry.1⟩ entry.2
    let existing := old[entry.1]?
    if existing = some entry.2 then (s, changes)
    else
      (s,
        changes ++
          [{ clientNo := clientNo, name := entry.1, hadOldValue := existing.isSome,
             oldValue := existing.getD [], newValue := entry.2 }])

/-- One block of a client sync: a full authoritative snapshot of one client. -/
def handleClientBlock (acc : NetworkVariableManager D × List VariableChange)
    (client : UInt16 × List NetworkVariableEntry) :
    NetworkVariableManager D × List VariableChange :=
  match acc with
  | (m, changes) =>
    let clientNo : ℤ := client.1.toNat
    let next := snapshotOf client.2
    let old := m.allClientVariables clientNo
    let afterRemoved := old.toList.foldl (handleRemovedEntry clientNo next) (m.clientSide, changes)
    let afterPresent := next.toList.foldl (handlePresentEntry clientNo old) afterRemoved
    ({ m with
        clientSide := afterPresent.1
        clientVariables := m.clientVariables.insert clientNo next }, afterPresent.2)

def handleClientSync (message : ClientVarSyncMessage) (m : NetworkVariableManager D) :
    NetworkVariableManager D × List VariableChange :=
  message.clients.foldl handleClientBlock ({ m with hasReceivedInitialSync := true }, [])

/-! ### Flushing and clearing -/

section Flush

variable [Double D]

def flushPendingGlobal (callbacks : Callbacks ω) (now : D) (m : NetworkVariableManager D) (w : ω) :
    Bool × NetworkVariableManager D × ω :=
  match m.globalSide.flush (m.emitGlobal callbacks) now w with
  | (allFlushed, side, w') => (allFlushed, { m with globalSide := side }, w')

def flushPendingClient (callbacks : Callbacks ω) (now : D) (m : NetworkVariableManager D) (w : ω) :
    Bool × NetworkVariableManager D × ω :=
  match m.clientSide.flush (m.emitClient callbacks) now w with
  | (allFlushed, side, w') => (allFlushed, { m with clientSide := side }, w')

/-- Flush trailing debounced writes; false when a send was refused. -/
def tick (callbacks : Callbacks ω) (now : D) (m : NetworkVariableManager D) (w : ω) :
    Bool × NetworkVariableManager D × ω :=
  match m.flushPendingGlobal callbacks now w with
  | (globalOk, m', w') =>
    match m'.flushPendingClient callbacks now w' with
    | (clientOk, m'', w'') => (globalOk && clientOk, m'', w'')

/-- Drop send-side state that must not cross a connection session. -/
def clearPendingSends (m : NetworkVariableManager D) : NetworkVariableManager D :=
  { m with globalSide := {}, clientSide := {} }

/-- Drop everything, including the cached values. -/
def clearAll (m : NetworkVariableManager D) : NetworkVariableManager D :=
  { m.clearPendingSends with globals := ∅, clientVariables := ∅ }.resetInitialSync

end Flush

/-! ### What a call can do -/

section Cases

variable [Double D] {callbacks : Callbacks ω} {now : D} {name value : Bytes}
  {m m' : NetworkVariableManager D} {w w' : ω} {ok : Bool}

/-- A refused `setGlobal` only logs; an accepted one is a write of the send side. -/
theorem setGlobal_cases (h : m.setGlobal callbacks now name value w = (ok, m', w')) :
    (ok = false ∧ m' = m ∧ ∃ line, w' = callbacks.log line w) ∨
    (ok = true ∧ validateName name = true ∧ validateValue value = true ∧
      ∃ side, m.globalSide.write (m.emitGlobal callbacks) now name value w = (side, w') ∧
        m' = { m with globalSide := side }) := by
  rw [setGlobal] at h
  split at h
  · obtain ⟨rfl, rfl, rfl⟩ := h
    exact Or.inl ⟨rfl, rfl, _, rfl⟩
  · next hname =>
    split at h
    · obtain ⟨rfl, rfl, rfl⟩ := h
      exact Or.inl ⟨rfl, rfl, _, rfl⟩
    · next hvalue =>
      split at h
      · obtain ⟨rfl, rfl, rfl⟩ := h
        exact Or.inl ⟨rfl, rfl, _, rfl⟩
      · rcases hwrite : m.globalSide.write (m.emitGlobal callbacks) now name value w with
          ⟨side, w''⟩
        rw [hwrite] at h
        obtain ⟨rfl, rfl, rfl⟩ := h
        exact Or.inr ⟨rfl, by simpa using hname, by simpa using hvalue, side, rfl, rfl⟩

/-- A refused `setClient` only logs, and may leave an empty entry for the client; an accepted one is
a write of the send side. -/
theorem setClient_cases {target : ℤ}
    (h : m.setClient callbacks now target name value w = (ok, m', w')) :
    (ok = false ∧ (m' = m ∨ m' = m.touchClient target) ∧ ∃ line, w' = callbacks.log line w) ∨
    (ok = true ∧ validateName name = true ∧ validateValue value = true ∧
      ∃ side, m.clientSide.write (m.emitClient callbacks) now ⟨target, name⟩ value w = (side, w') ∧
        m' = { m.touchClient target with clientSide := side }) := by
  rw [setClient] at h
  split at h
  · obtain ⟨rfl, rfl, rfl⟩ := h
    exact Or.inl ⟨rfl, Or.inl rfl, _, rfl⟩
  · next hname =>
    split at h
    · obtain ⟨rfl, rfl, rfl⟩ := h
      exact Or.inl ⟨rfl, Or.inl rfl, _, rfl⟩
    · next hvalue =>
      simp only at h
      split at h
      · obtain ⟨rfl, rfl, rfl⟩ := h
        exact Or.inl ⟨rfl, Or.inr rfl, _, rfl⟩
      · rcases hwrite : (m.touchClient target).clientSide.write
          ((m.touchClient target).emitClient callbacks) now ⟨target, name⟩ value w with ⟨side, w''⟩
        rw [hwrite] at h
        obtain ⟨rfl, rfl, rfl⟩ := h
        exact Or.inr ⟨rfl, by simpa using hname, by simpa using hvalue, side, hwrite, rfl⟩

/-- A tick flushes the global variables and then the client variables. -/
theorem tick_cases (h : m.tick callbacks now w = (ok, m', w')) :
    ∃ b₁ b₂ globalSide clientSide w₁,
      m.globalSide.flush (m.emitGlobal callbacks) now w = (b₁, globalSide, w₁) ∧
      m.clientSide.flush (m.emitClient callbacks) now w₁ = (b₂, clientSide, w') ∧
      m' = { m with globalSide := globalSide, clientSide := clientSide } := by
  rcases hglobal : m.globalSide.flush (m.emitGlobal callbacks) now w with ⟨b₁, globalSide, w₁⟩
  rcases hclient : m.clientSide.flush (m.emitClient callbacks) now w₁ with ⟨b₂, clientSide, w₂⟩
  have hclient' : ({ m with globalSide := globalSide } : NetworkVariableManager D).clientSide.flush
      (({ m with globalSide := globalSide } : NetworkVariableManager D).emitClient callbacks) now
      w₁ = (b₂, clientSide, w₂) := hclient
  rw [tick, flushPendingGlobal, hglobal] at h
  simp only [flushPendingClient] at h
  rw [hclient'] at h
  obtain ⟨-, rfl, rfl⟩ := h
  exact ⟨b₁, b₂, globalSide, clientSide, w₁, rfl, hclient, rfl⟩

end Cases

end NetworkVariableManager

end StylyNetSync
