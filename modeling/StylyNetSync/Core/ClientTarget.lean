import StylyNetSync.Core.OwnPresence
import StylyNetSync.Core.SessionRule
import StylyNetSync.Core.VariableWire

/-!
# Whom a client variable is written for

`set_client_variable_for` takes any `int`, and the value waits under that number until it is sent.
Only the message has no room for it: a negative number becomes zero and a large one is cut to
sixteen bits. No range is checked, as the one for the targets of a call is, and neither is it
checked that this client has a number when it writes a variable of its own.

Every message that writes a client variable is caused by a call that returned true: it was sent at
once, or its value was pending since (`Causes`). So what a message decodes to is settled by the
number that its cause named.
-/

namespace StylyNetSync

/-- A call that returned true: what it wrote and for whom, and whether it was the call that writes
for this client itself. -/
structure Cause where
  target : ℤ
  name : Bytes
  value : Bytes
  own : Bool
  deriving DecidableEq

namespace Session

section Invariant

variable {D : Type}

/-- The message writes a client variable only if there is a cause for it, and under the number of
the cause, as far as there is room for it. -/
def CausedMessage (causes : ClientKey → Bytes → Prop) (message : ControlMessage) : Prop :=
  ∀ target m, message = .clientVarSet target m →
    causes ⟨target, m.variableName⟩ m.variableValue ∧ m.targetClientNo = clientNoOnWire target

def EntriesCaused (causes : ClientKey → Bytes → Prop) (w : Shared D) : Prop :=
  ∀ packet ∈ w.transport.ledger.entries, CausedMessage causes packet.payload

/-- There is a cause for whatever is pending and for whatever was sent. -/
structure Causes (causes : ClientKey → Bytes → Prop) (s : Session D) : Prop where
  number : 0 ≤ s.client.clientNo ∧ s.client.clientNo ≤ 65535
  pending : ∀ (key : ClientKey) (value : Bytes),
    s.client.networkVariables.clientSide.pending[key]? = some value → causes key value
  entries : EntriesCaused causes s.shared

theorem Causes.mono {causes causes' : ClientKey → Bytes → Prop} {s : Session D}
    (h : Causes causes s) (himp : ∀ key value, causes key value → causes' key value) :
    Causes causes' s where
  number := h.number
  pending key value hpending := himp key value (h.pending key value hpending)
  entries packet hpacket target m hmessage := by
    obtain ⟨hcause, htarget⟩ := h.entries packet hpacket target m hmessage
    exact ⟨himp _ _ hcause, htarget⟩

variable {causes : ClientKey → Bytes → Prop}

theorem causedMessage_of_unslotted {message : ControlMessage} (h : unslotted message) :
    CausedMessage causes message := by
  rintro target m rfl
  exact absurd h (by simp [unslotted, ControlMessage.slot])

/-- A number that a mapping gives fits into sixteen bits. -/
theorem numberFrom_fits (deviceId : Bytes) {number : ℤ} (h : 0 ≤ number ∧ number ≤ 65535)
    (message : DeviceIdMappingMessage) :
    0 ≤ DeviceMapping.numberFrom deviceId number message ∧
      DeviceMapping.numberFrom deviceId number message ≤ 65535 := by
  refine List.foldlRecOn (motive := fun number : ℤ ↦ 0 ≤ number ∧ number ≤ 65535) message.mappings _
    h fun number hnumber entry _ ↦ ?_
  split
  · have hlt := entry.clientNo.toNat_lt
    omega
  · exact hnumber

theorem causes_processDeviceIdMapping (message : DeviceIdMappingMessage) {s : Session D}
    (h : Causes causes s) : Causes causes (s.processDeviceIdMapping message) := by
  have hnumber : 0 ≤ (s.client.mapping.apply message).2.localClientNo ∧
      (s.client.mapping.apply message).2.localClientNo ≤ 65535 := by
    rw [(DeviceMapping.apply_local message s.client.mapping).2]
    exact numberFrom_fits _ h.number message
  rw [processDeviceIdMapping]
  dsimp only
  split <;> split <;> exact ⟨hnumber, h.pending, h.entries⟩

theorem causes_processClientVarSync (message : ClientVarSyncMessage) {s : Session D}
    (h : Causes causes s) : Causes causes (s.processClientVarSync message) := by
  refine ⟨h.number, ?_, h.entries⟩
  refine NetworkVariableManager.handleClientSync_induct
    (P := fun m : NetworkVariableManager D ↦ ∀ (key : ClientKey) (value : Bytes),
      m.clientSide.pending[key]? = some value → causes key value) ?_ h.pending
  intro m changes block _ hpending key value hvalue
  exact hpending key value
    (NetworkVariableManager.pending_of_handleClientBlock m changes block hvalue)

theorem causes_processGlobalVarSync (message : GlobalVarSyncMessage) {s : Session D}
    (h : Causes causes s) : Causes causes (s.processGlobalVarSync message) := by
  refine ⟨h.number, ?_, h.entries⟩
  show ∀ (key : ClientKey) (value : Bytes),
    (s.client.networkVariables.handleGlobalSync message).1.clientSide.pending[key]? = some value →
      causes key value
  rw [(NetworkVariableManager.forgets_handleGlobalSync message s.client.networkVariables).2]
  exact h.pending

variable [Double D]

theorem stable_entriesCaused :
    Shared.Stable (D := D) (CausedMessage causes) (EntriesCaused causes) where
  step n h := by
    rw [EntriesCaused, (Shared.step_keeps _ n).1]
    exact h
  schedule _ h := h
  discovering _ h := h
  inbox _ _ h := h
  transport _ ht h := by
    rw [EntriesCaused, ht.ledger]
    exact h
  accept message t hmessage _ hpush h := by
    rw [ZmqTransport.pushControl_accepted hpush]
    intro packet hpacket
    rcases List.mem_append.mp hpacket with hpacket | hpacket
    · exact h packet hpacket
    · rw [List.mem_singleton.mp hpacket]
      exact hmessage

/-- What the global variables send is not about client variables. -/
theorem sideRule_global (m : NetworkVariableManager D) :
    VariableRule.SideRule (m.emitGlobal (Shared.callbacks (D := D)))
      fun (_ : SendSide Bytes D) w ↦ EntriesCaused causes w where
  forget _ h := h
  refused hemit h := stable_entriesCaused.steady.tryEnqueueControl hemit (by simp) h
  accepted hemit h :=
    stable_entriesCaused.steady.tryEnqueueControl hemit (fun _ _ _ hmessage ↦ by simp at hmessage) h

/-- A client variable for which there is a cause may be sent. -/
theorem entriesCaused_emitClient {m : NetworkVariableManager D} {key : ClientKey} {value : Bytes}
    {w w' : Shared D} {ok : Bool} (hcause : causes key value)
    (hemit : m.emitClient Shared.callbacks key value w = (ok, w')) (h : EntriesCaused causes w) :
    EntriesCaused causes w' := by
  refine stable_entriesCaused.steady.tryEnqueueControl hemit (fun _ target m' hmessage ↦ ?_) h
  obtain ⟨rfl, rfl⟩ := ControlMessage.clientVarSet.inj hmessage
  exact ⟨hcause, rfl⟩

/-- **A flush** sends what is pending. -/
theorem causes_flush {m : NetworkVariableManager D} {side side' : SendSide ClientKey D} {now : D}
    {w w' : Shared D} {b : Bool}
    (hflush : side.flush (m.emitClient Shared.callbacks) now w = (b, side', w'))
    (hpending : ∀ (key : ClientKey) (value : Bytes), side.pending[key]? = some value →
      causes key value) (hentries : EntriesCaused causes w) :
    (∀ (key : ClientKey) (value : Bytes), side'.pending[key]? = some value → causes key value) ∧
      EntriesCaused causes w' := by
  refine SendSide.flush_induct
    (P := fun side w ↦ (∀ (key : ClientKey) (value : Bytes), side.pending[key]? = some value →
      causes key value) ∧ EntriesCaused causes w) ?_ hflush ⟨hpending, hentries⟩
  rintro s w _ _ s' w' entry hentry ⟨hpending, hentries⟩ hround
  have hcancel : ∀ (key : ClientKey) (value : Bytes),
      (s.cancel entry.1).pending[key]? = some value → causes key value := by
    intro key value hvalue
    rw [SendSide.pending_cancel] at hvalue
    split at hvalue
    · simp at hvalue
    · exact hpending key value hvalue
  obtain ⟨-, rfl, rfl, -⟩ | ⟨-, hemit, rfl, -⟩ | ⟨-, hemit, rfl, -⟩ :=
    SendSide.flushItem_cases hround
  · exact ⟨hcancel, hentries⟩
  · exact ⟨hcancel, entriesCaused_emitClient (hpending _ _ hentry) hemit hentries⟩
  · exact ⟨hpending, entriesCaused_emitClient (hpending _ _ hentry) hemit hentries⟩

/-- **A write** sends its own value, or keeps it pending. -/
theorem causes_write {m : NetworkVariableManager D} {side side' : SendSide ClientKey D} {now : D}
    {key : ClientKey} {value : Bytes} {w w' : Shared D} (hcause : causes key value)
    (hwrite : side.write (m.emitClient Shared.callbacks) now key value w = (side', w'))
    (hpending : ∀ (key : ClientKey) (value : Bytes), side.pending[key]? = some value →
      causes key value) (hentries : EntriesCaused causes w) :
    (∀ (key : ClientKey) (value : Bytes), side'.pending[key]? = some value → causes key value) ∧
      EntriesCaused causes w' := by
  have hkept (side' : SendSide ClientKey D) (hsame : side'.pending = side.pending) (deadline : D)
      (k : ClientKey) (v : Bytes)
      (hvalue : (side'.keepPending key value deadline).pending[k]? = some v) : causes k v := by
    rw [SendSide.pending_keepPending, hsame] at hvalue
    split at hvalue
    · next hkey =>
      rw [← hkey, ← Option.some.inj hvalue]
      exact hcause
    · exact hpending k v hvalue
  obtain ⟨-, rfl, rfl⟩ | ⟨-, ⟨hemit, rfl⟩ | ⟨hemit, deadline, rfl⟩⟩ := SendSide.write_cases hwrite
  · refine ⟨fun k v hvalue ↦ ?_, hentries⟩
    rw [SendSide.pending_cancel] at hvalue
    split at hvalue
    · simp at hvalue
    · exact hpending k v hvalue
  · exact ⟨hkept ((side.recordSent key value).startCooldown now key) rfl _,
      entriesCaused_emitClient hcause hemit hentries⟩
  · refine ⟨hkept side rfl deadline, ?_⟩
    rcases hemit with hemit | rfl
    · exact entriesCaused_emitClient hcause hemit hentries
    · exact hentries

/-! ### Calls -/

theorem Causes.moves {s s' : Session D} (h : Causes causes s) (hmoves : Moves unslotted s s') :
    Causes causes s' where
  number := by
    rw [NetSyncClient.clientNo, hmoves.localClientNo]
    exact h.number
  pending := by
    rw [hmoves.networkVariables]
    exact h.pending
  entries :=
    (hmoves.mono fun _ ↦ causedMessage_of_unslotted).shared stable_entriesCaused.steady h.entries

theorem Causes.shifts {s : Session D} (h : Causes causes s) {w : Shared D}
    (hshifts : s.shared.Shifts w) : Causes causes { s with shared := w } :=
  { h with entries := hshifts stable_entriesCaused h.entries }

theorem causes_tickVariables (now : D) {s : Session D} (h : Causes causes s) :
    Causes causes (s.tickVariables now) := by
  rcases htick : s.client.networkVariables.tick Shared.callbacks now s.shared with ⟨ok, m, w⟩
  rw [tickVariables, htick]
  obtain ⟨_, _, g, c, w₁, hglobal, hclient, rfl⟩ := NetworkVariableManager.tick_cases htick
  have hentries₁ := (sideRule_global s.client.networkVariables).flush hglobal h.entries
  obtain ⟨hpending, hentries⟩ := causes_flush hclient h.pending hentries₁
  exact ⟨h.number, hpending, hentries⟩

theorem causes_checkInitialSyncTimeout (now : D) {s : Session D} (h : Causes causes s) :
    Causes causes (s.checkInitialSyncTimeout now) := by
  rw [checkInitialSyncTimeout, NetworkVariableManager.checkInitialSyncTimeout]
  split_ifs
  · exact h
  · exact h
  · exact ⟨h.number, h.pending, stable_entriesCaused.steady.pushLog _ h.entries⟩

end Invariant

section Calls

variable {D : Type} [DoubleTrig D] {causes : ClientKey → Bytes → Prop}

theorem causes_setGlobalVariable (name value : Bytes) {s : Session D} (h : Causes causes s) :
    Causes causes (s.setGlobalVariable name value).2 := by
  have hclock := h.moves (moves_monotonicSeconds s)
  rcases hset : s.client.networkVariables.setGlobal Shared.callbacks s.shared.monotonicSeconds.1
    name value s.shared.monotonicSeconds.2 with ⟨ok, m, w⟩
  rw [setGlobalVariable]
  dsimp only
  rw [hset]
  obtain ⟨-, rfl, line, rfl⟩ | ⟨-, -, -, side, hwrite, rfl⟩ :=
    NetworkVariableManager.setGlobal_cases hset
  · exact ⟨h.number, h.pending, stable_entriesCaused.steady.pushLog line hclock.entries⟩
  · exact ⟨h.number, h.pending, (sideRule_global _).write hwrite hclock.entries⟩

/-- **The call itself** is the cause of what it sends and of what it keeps. -/
theorem causes_setClientVariableFor {key : ClientKey} {value : Bytes} {s : Session D}
    (hcause : (s.setClientVariableFor key.clientNo key.name value).1 = true → causes key value)
    (h : Causes causes s) :
    Causes causes (s.setClientVariableFor key.clientNo key.name value).2 := by
  have hclock := h.moves (moves_monotonicSeconds s)
  rcases hset : s.client.networkVariables.setClient Shared.callbacks s.shared.monotonicSeconds.1
    key.clientNo key.name value s.shared.monotonicSeconds.2 with ⟨ok, m, w⟩
  rw [setClientVariableFor] at hcause ⊢
  dsimp only at hcause ⊢
  rw [hset] at hcause ⊢
  obtain ⟨-, rfl | rfl, line, rfl⟩ | ⟨rfl, -, -, side, hwrite, rfl⟩ :=
    NetworkVariableManager.setClient_cases hset
  · exact ⟨h.number, h.pending, stable_entriesCaused.steady.pushLog line hclock.entries⟩
  · exact ⟨h.number, h.pending, stable_entriesCaused.steady.pushLog line hclock.entries⟩
  · obtain ⟨hpending, hentries⟩ := causes_write (hcause rfl) hwrite h.pending hclock.entries
    exact ⟨h.number, hpending, hentries⟩

theorem causes_clearMyClientVariables {s : Session D} (h : Causes causes s) :
    Causes causes s.clearMyClientVariables.2 := by
  -- whatever is pending after a clear was pending before
  have hpending (m : NetworkVariableManager D) (clientNo : ℤ)
      (hm : ∀ (key : ClientKey) (value : Bytes), m.clientSide.pending[key]? = some value →
        causes key value) (key : ClientKey) (value : Bytes)
      (hvalue : (m.clearPendingForClient clientNo).clientSide.pending[key]? = some value) :
      causes key value := by
    change (NetworkVariableManager.eraseClient m.clientSide.pending clientNo)[key]? = some value
      at hvalue
    rw [NetworkVariableManager.eraseClient, Std.ExtTreeMap.getElem?_filter',
      Option.filter_eq_some_iff] at hvalue
    exact hm key value hvalue.1
  rcases hclear : s.client.networkVariables.clearMyClientVariables Shared.callbacks s.shared with
    ⟨ok, changes, m, w⟩
  rw [clearMyClientVariables, hclear]
  rw [NetworkVariableManager.clearMyClientVariables] at hclear
  have hsent {ok : Bool} {w : Shared D} {m : ClientVarClearMessage}
      (hsend : Shared.callbacks.trySend (.clientVarClear m) s.shared = (ok, w)) :
      EntriesCaused causes w :=
    stable_entriesCaused.steady.tryEnqueueControl hsend (fun _ _ _ hmessage ↦ by simp at hmessage)
      h.entries
  split at hclear
  · obtain ⟨-, -, rfl, rfl⟩ := hclear
    exact h
  · dsimp only at hclear
    split at hclear
    · next hsend =>
      obtain ⟨-, -, rfl, rfl⟩ := hclear
      exact ⟨h.number, h.pending, hsent hsend⟩
    · next hsend =>
      split at hclear
      all_goals
        obtain ⟨-, -, rfl, rfl⟩ := hclear
        exact ⟨h.number, hpending _ _ h.pending, hsent hsend⟩

theorem walk_causes : Walk (D := D) (Causes causes) where
  moves hmoves h := h.moves hmoves
  hello hsend h := ⟨h.number, h.pending,
    stable_entriesCaused.steady.tryEnqueueControl hsend (fun _ _ _ hmessage ↦ by
      simp [NetSyncClient.helloMessage] at hmessage) h.entries⟩
  established _ h := ⟨h.number, h.pending, h.entries⟩
  deviceIdMapping message h := causes_processDeviceIdMapping message h
  globalSync message h := causes_processGlobalVarSync message h
  clientSync message h := causes_processClientVarSync message h
  tickVariables now h := causes_tickVariables now h
  syncTimeout now h := causes_checkInitialSyncTimeout now h
  setGlobal name value h := causes_setGlobalVariable name value h
  clear h := causes_clearMyClientVariables h

end Calls

/-! ### The life of a client -/

section Life

variable {D : Type} [DoubleTrig D]

theorem causes_beginSession (causes : ClientKey → Bytes → Prop) (config : ClientConfig D)
    (s : Session D) : Causes causes (s.beginSession config) ∧ Causes causes s.disconnect := by
  have hempty : s.shared.stopDiscovery.stopTransport.yield.transport.ledger.entries = [] :=
    (Shared.Stable.stable_entries []).yield rfl
  have hentries : EntriesCaused causes s.shared.stopDiscovery.stopTransport.clearInbox := by
    intro packet hpacket
    change packet ∈ s.shared.stopDiscovery.stopTransport.yield.transport.ledger.entries at hpacket
    rw [hempty] at hpacket
    exact absurd hpacket List.not_mem_nil
  have hpending (key : ClientKey) (value : Bytes)
      (hvalue : (∅ : OrderedMap ClientKey Bytes)[key]? = some value) : causes key value := by
    simp at hvalue
  have hnumber : (0 : ℤ) ≤ 0 ∧ (0 : ℤ) ≤ 65535 := by decide
  exact ⟨⟨hnumber, hpending, hentries⟩, ⟨hnumber, hpending, hentries⟩⟩

/-- The call writes a variable of this client. -/
def writesOwn : HostCall D → Bool
  | .setClientVariable .. => true
  | _ => false

/-- The cause that a step is, if it is one: a call that writes a client variable and returns
true. -/
def causedBy (s : Session D) : LifeStep D → List Cause
  | .session (.call call schedule) =>
    let s : Session D := { s with shared := { s.shared with schedule := schedule } }
    match s.clientWrite call with
    | none => []
    | some (key, value) =>
      if (s.setClientVariableFor key.clientNo key.name value).1 then
        [⟨key.clientNo, key.name, value, writesOwn call⟩]
      else []
  | _ => []

/-- A call that writes for this client names its number. -/
theorem target_of_own {s : Session D} {e : LifeStep D} {cause : Cause}
    (hcause : cause ∈ s.causedBy e) (hown : cause.own = true) :
    cause.target = s.client.clientNo := by
  rcases e with _ | _ | ⟨_ | ⟨call, schedule⟩⟩
  · exact absurd hcause List.not_mem_nil
  · exact absurd hcause List.not_mem_nil
  · exact absurd hcause List.not_mem_nil
  · rw [causedBy] at hcause
    dsimp only at hcause
    split at hcause
    · exact absurd hcause List.not_mem_nil
    · next key value hwrite =>
      split at hcause
      · rw [List.mem_singleton.mp hcause] at hown ⊢
        cases call with
        | setClientVariable name value =>
          rw [← (Prod.mk.inj (Option.some.inj hwrite)).1]
          rfl
        | _ => exact Bool.noConfusion hown
      · exact absurd hcause List.not_mem_nil

end Life

end Session

/-- A client and the causes so far. -/
structure CauseRun (D : Type) where
  session : Session D
  causes : List Cause := []

namespace CauseRun

variable {D : Type}

/-- The value is one that a call has written for the client number and the name. -/
def Written (causes : List Cause) (key : ClientKey) (value : Bytes) : Prop :=
  ∃ cause ∈ causes, cause.target = key.clientNo ∧ cause.name = key.name ∧ cause.value = value

/-- The client number that a control payload decodes to. -/
def decodedTarget (payload : Bytes) : Option ℤ :=
  (decodedWrite payload).map fun write ↦ (write.1.toNat : ℤ)

variable [DoubleTrig D] [DoubleText D]

def step (decode : Bytes → Option (List Bytes)) (r : CauseRun D) (e : LifeStep D) : CauseRun D :=
  ⟨r.session.live decode e, r.causes ++ r.session.causedBy e⟩

/-- A client that was just built. -/
def start (clock : D) : CauseRun D := ⟨Session.new clock, []⟩

/-- The invariant, and the calls that write for this client name a number that fits. -/
structure Traced (r : CauseRun D) : Prop where
  causes : r.session.Causes (Written r.causes)
  own : ∀ cause ∈ r.causes, cause.own = true → 0 ≤ cause.target ∧ cause.target ≤ 65535

omit [DoubleTrig D] [DoubleText D] in
theorem Written.mono {causes more : List Cause} (key : ClientKey) (value : Bytes)
    (h : Written causes key value) : Written (causes ++ more) key value := by
  obtain ⟨cause, hcause, hwritten⟩ := h
  exact ⟨cause, List.mem_append_left _ hcause, hwritten⟩

/-- **Every step of the life** keeps a cause for every message. -/
theorem traced_step (decode : Bytes → Option (List Bytes)) {r : CauseRun D} (h : r.Traced)
    (e : LifeStep D) : (r.step decode e).Traced := by
  have hcauses : r.session.Causes (Written (r.causes ++ r.session.causedBy e)) :=
    h.causes.mono Written.mono
  refine ⟨?_, fun cause hcause hown ↦ ?_⟩
  · show (r.session.live decode e).Causes (Written (r.causes ++ r.session.causedBy e))
    generalize hmore : r.session.causedBy e = more at hcauses ⊢
    cases e with
    | connect config schedule =>
      rw [Session.live]
      let s : Session D :=
        { r.session with shared := { r.session.shared with schedule := schedule } }
      rcases hconnect : s.connect config with ⟨ok, s'⟩
      rcases Session.connect_cases hconnect with ⟨-, rfl⟩ | hmoves
      · exact hcauses.shifts (r.session.shared.shifts_schedule schedule)
      · exact (Session.causes_beginSession _ config s).1.moves hmoves
    | disconnect schedule => exact (Session.causes_beginSession _ r.session.client.config _).2
    | session e =>
      cases e with
      | network n =>
        exact hcauses.shifts (r.session.shared.shifts_step n)
      | call call schedule =>
        have hbegin := hcauses.shifts (r.session.shared.shifts_schedule schedule)
        refine Session.walk_causes.perform decode call
          (fun now _ ↦ Session.walk_causes.poll decode now
            (fun {s} hs ↦ hs.shifts s.shared.shifts_takeMail) hbegin)
          (fun key value hwrite hs ↦ ?_) hbegin
        refine Session.causes_setClientVariableFor (fun hok ↦ ?_) hs
        rw [Session.causedBy] at hmore
        dsimp only at hmore
        rw [hwrite] at hmore
        dsimp only at hmore
        rw [if_pos hok] at hmore
        rw [← hmore]
        exact ⟨_, List.mem_append_right _ (List.mem_singleton_self _), rfl, rfl, rfl⟩
  · rcases List.mem_append.mp hcause with hcause | hcause
    · exact h.own cause hcause hown
    · rw [Session.target_of_own hcause hown]
      exact h.causes.number

/-- **Where the writes of client variables go.** Every message that writes a client variable has a
cause; it decodes to the client number that its cause named exactly if that number fits into sixteen
bits; and if the cause was a write for this client itself, then it decodes to the number of this
client exactly if the client had one. -/
def ReachesTarget (r : CauseRun D) : Prop :=
  ∀ packet ∈ r.session.shared.transport.ledger.entries, ∀ target message,
    packet.payload = .clientVarSet target message →
      Written r.causes ⟨target, message.variableName⟩ message.variableValue ∧
      ∀ cause ∈ r.causes, cause.target = target →
        (decodedTarget packet.payload.payload = some cause.target ↔
          0 ≤ cause.target ∧ cause.target ≤ 65535) ∧
        (cause.own = true →
          ((decodedTarget packet.payload.payload = some cause.target ∧ cause.target ≠ 0) ↔
            cause.target ≠ 0))

/-- Sixteen bits hold exactly the numbers that fit. -/
theorem toNat_clientNoOnWire_iff {clientNo : ℤ} :
    ((clientNoOnWire clientNo).toNat : ℤ) = clientNo ↔ 0 ≤ clientNo ∧ clientNo ≤ 65535 := by
  constructor
  · intro h
    have hlt := (clientNoOnWire clientNo).toNat_lt
    omega
  · intro h
    exact toNat_clientNoOnWire h.1 (by omega)

/-- **Client variables reach the client they name exactly if the number fits**, in every state of
the life of a client. -/
theorem reaches_target (decode : Bytes → Option (List Bytes)) (clock : D)
    (steps : List (LifeStep D)) : ReachesTarget (steps.foldl (step decode) (start clock)) := by
  have hstart : (start clock : CauseRun D).Traced := by
    refine ⟨⟨⟨le_refl 0, (by decide : (0 : ℤ) ≤ 65535)⟩, fun key value hvalue ↦ ?_,
      fun packet hpacket ↦ absurd hpacket List.not_mem_nil⟩,
      fun cause hcause ↦ absurd hcause List.not_mem_nil⟩
    change (∅ : OrderedMap ClientKey Bytes)[key]? = some value at hvalue
    simp at hvalue
  have htraced : (steps.foldl (step decode) (start clock)).Traced :=
    List.foldlRecOn (motive := Traced) steps (step decode) hstart
      fun _ hr e _ ↦ traced_step decode hr e
  intro packet hpacket target message hmessage
  obtain ⟨hwritten, htarget⟩ := htraced.causes.entries packet hpacket target message hmessage
  refine ⟨hwritten, fun cause hcause heq ↦ ?_⟩
  have hdecoded : decodedTarget packet.payload.payload = some cause.target ↔
      0 ≤ cause.target ∧ cause.target ≤ 65535 := by
    rw [hmessage, ControlMessage.payload, decodedTarget, decodedWrite_serializeClientVarSet,
      Option.map_some, htarget, heq, Option.some.injEq]
    exact toNat_clientNoOnWire_iff
  refine ⟨hdecoded, fun hown ↦ and_iff_right (hdecoded.mpr ?_)⟩
  exact htraced.own cause hcause hown

/-- A client writes for the client 65538, and then for itself before it has a number. -/
def misdirected : List (LifeStep ℚ) :=
  [.connect Session.deviceConfig [],
    .session (.call (.setClientVariableFor 65538 [110] [118]) []),
    .session (.call (.setClientVariable [110] [118]) [])]

/-- The client number that a message was sent for. -/
def namedTarget : ControlMessage → Option ℤ
  | .clientVarSet target _ => some target
  | _ => none

/-- Both calls return true. The first message goes to the client 2, and the second to the number
zero, which is nobody's. -/
theorem misdirected_decodes :
    let r := misdirected.foldl (step fun _ ↦ none) (start (0 : ℚ))
    let entries := r.session.shared.transport.ledger.entries
    r.causes = [⟨65538, [110], [118], false⟩, ⟨0, [110], [118], true⟩] ∧
      entries.map
          (fun packet ↦ (namedTarget packet.payload, decodedTarget packet.payload.payload)) =
        [(some 65538, some 2), (some 0, some 0)] ∧
      ¬(∀ packet ∈ entries,
        decodedTarget packet.payload.payload = namedTarget packet.payload) ∧
      ¬∀ packet ∈ entries, decodedTarget packet.payload.payload ≠ some 0 := by
  decide +kernel

end CauseRun

end StylyNetSync
