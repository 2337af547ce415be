import StylyNetSync.Core.SendRecord
import StylyNetSync.Core.SnapshotBlock
import StylyNetSync.Core.VariableWire
import StylyNetSync.Foundation.History
import StylyNetSync.Foundation.Run

/-!
# A client, a server and what is in flight between them

One client's manager, a server that applies the writes and clears of any number of clients in the
order they arrive, and two first-in first-out channels: the messages the client's control sender has
accepted and the server has not applied yet, and the snapshots the server has taken and the client
has not handled yet. Other clients are seen only by what they do at the server.

A server takes snapshots whenever it likes; a snapshot is a message each of whose blocks describes
all current variables of its client. Writes travel as payloads: the server applies what it decodes.

Three fields only observe. `intents` are the calls of `setClient` that returned true. `lastBlock` is
the last block received for a client. `unheard c n` is the value this client last got accepted for a
variable, as long as nothing was heard about it: no block of `c` has arrived since that has `n` or
that was taken after the server had applied that write.
-/

namespace StylyNetSync

/-- The variables of every client, as the server holds them. -/
abbrev ServerVariables := UInt16 → Variables

/-- What the server does with a control payload; other messages do not touch client variables. -/
def applyPayload (payload : Bytes) (server : ServerVariables) : ServerVariables :=
  match decodedWrite payload with
  | some (target, name, value) =>
    Function.update server target ((server target).insert name value)
  | none =>
    match (deserializeClientVarClear.run payload).1 with
    | some m => Function.update server m.senderClientNo ∅
    | none => server

/-- The value a message writes to a variable, if it writes it. -/
def writesTo (c : UInt16) (n : Bytes) (message : ControlMessage) : Option Bytes :=
  match decodedWrite message.payload with
  | some (target, name, value) => if target = c ∧ name = n then some value else none
  | none => none

/-- The value the last of the messages that write a variable gives to it. -/
def lastWrite (c : UInt16) (n : Bytes) (messages : List ControlMessage) : Option Bytes :=
  lastSome (writesTo c n) messages

/-- The messages the sender accepted. -/
def acceptedMessages (handed : List (ControlMessage × Bool)) : List ControlMessage :=
  (handed.filter Prod.snd).map Prod.fst

/-- A snapshot in flight, with the number of this client's messages applied when it was taken. -/
structure Snapshot where
  message : ClientVarSyncMessage
  seen : ℕ

inductive VariableEvent (D : Type)
  /-- This client calls `setClient`; `answers` are those of the control sender. -/
  | setClient (now : D) (target : ℤ) (name value : Bytes) (answers : List Bool)
  /-- This client's `tick`. -/
  | tick (now : D) (answers : List Bool)
  /-- The oldest message in flight reaches the server. -/
  | applyWrite
  /-- Another client's write reaches the server. -/
  | otherWrite (target : UInt16) (name value : Bytes)
  /-- Another client's clear reaches the server. -/
  | otherClear (client : UInt16)
  /-- The server takes a snapshot. -/
  | takeSnapshot (message : ClientVarSyncMessage)
  /-- The oldest snapshot in flight reaches this client. -/
  | deliverSnapshot

structure VariableSystem (D : Type) where
  manager : NetworkVariableManager D
  /-- Everything the control sender accepted, in order. -/
  accepted : List ControlMessage := []
  /-- How many of these the server has applied. -/
  applied : ℕ := 0
  server : ServerVariables
  snapshots : List Snapshot := []
  intents : List (ClientKey × Bytes) := []
  lastBlock : UInt16 → Option (List NetworkVariableEntry) := fun _ ↦ none
  unheard : UInt16 → Bytes → Option Bytes := fun _ _ ↦ none

/-- The key under which the manager keeps a variable of the server. -/
def clientKey (c : UInt16) (n : Bytes) : ClientKey := ⟨c.toNat, n⟩

/-- Every block of the message describes all current variables of its client. -/
def describes (server : ServerVariables) (message : ClientVarSyncMessage) : Bool :=
  message.clients.all fun block ↦
    (NetworkVariableManager.snapshotOf block.2).toList = (server block.1).toList

namespace VariableSystem

variable {D : Type}

/-- The messages on their way to the server. -/
def inFlight (s : VariableSystem D) : List ControlMessage := s.accepted.drop s.applied

/-- The value the server will hold of a variable once everything in flight has arrived, if nobody
else writes it. -/
def eventual (s : VariableSystem D) (c : UInt16) (n : Bytes) : Option Bytes :=
  (lastWrite c n s.inFlight).or (s.server c)[n]?

/-- The snapshot was taken after the server had applied this client's last write of the variable. -/
def covers (s : VariableSystem D) (snapshot : Snapshot) (c : UInt16) (n : Bytes) : Bool :=
  (lastWrite c n (s.accepted.drop snapshot.seen)).isNone

/-- The snapshot tells this client something about the variable. -/
def tells (s : VariableSystem D) (snapshot : Snapshot) (c : UInt16) (n : Bytes) : Bool :=
  snapshot.message.clients.any fun block ↦
    block.1 == c && ((NetworkVariableManager.snapshotOf block.2).contains n ||
      s.covers snapshot c n)

/-- The last intent of a variable: the value of the last `setClient` that returned true. -/
def lastIntentOf (s : VariableSystem D) (key : ClientKey) : Option Bytes :=
  lastSome (fun intent ↦ if intent.1 = key then some intent.2 else none) s.intents

/-- A call of the manager, with what its sender accepted. -/
def called (s : VariableSystem D) (m : NetworkVariableManager D) (r : SendRecord) :
    VariableSystem D :=
  { s with
    manager := m
    accepted := s.accepted ++ acceptedMessages r.handed
    unheard := fun c n ↦ (lastWrite c n (acceptedMessages r.handed)).or (s.unheard c n) }

variable [Double D]

/-- One event. An event that is not possible changes nothing. -/
def step (s : VariableSystem D) : VariableEvent D → VariableSystem D
  | .setClient now target name value answers =>
    match s.manager.setClient SendRecord.callbacks now target name value { answers := answers } with
    | (ok, m, r) =>
      { s.called m r with
        intents := if ok then s.intents ++ [(⟨target, name⟩, value)] else s.intents }
  | .tick now answers =>
    match s.manager.tick SendRecord.callbacks now { answers := answers } with
    | (_, m, r) => s.called m r
  | .applyWrite =>
    match s.accepted[s.applied]? with
    | none => s
    | some message =>
      { s with server := applyPayload message.payload s.server, applied := s.applied + 1 }
  | .otherWrite target name value =>
    { s with server := Function.update s.server target ((s.server target).insert name value) }
  | .otherClear client => { s with server := Function.update s.server client ∅ }
  | .takeSnapshot message =>
    if describes s.server message then
      { s with snapshots := s.snapshots ++ [⟨message, s.applied⟩] }
    else s
  | .deliverSnapshot =>
    match s.snapshots with
    | [] => s
    | snapshot :: rest =>
      { s with
        manager := (s.manager.handleClientSync snapshot.message).1
        snapshots := rest
        lastBlock := fun c ↦
          (lastSome (fun block ↦ if block.1 = c then some block.2 else none)
            snapshot.message.clients).or (s.lastBlock c)
        unheard := fun c n ↦ if s.tells snapshot c n then none else s.unheard c n }

/-- A run of the system. -/
def run (s : VariableSystem D) (events : List (VariableEvent D)) : VariableSystem D :=
  events.foldl step s

end VariableSystem

/-- What this client writes is carried unchanged. -/
def VariableEvent.Carried {D : Type} : VariableEvent D → Prop
  | .setClient _ target name value _ => CarriedUnchanged ⟨target, name⟩ value
  | _ => True

/-! ### Messages and the variables they write -/

section Messages

variable {D : Type} {c : UInt16} {n : Bytes}

theorem acceptedMessages_concat (handed : List (ControlMessage × Bool)) (message : ControlMessage)
    (answer : Bool) :
    acceptedMessages (handed ++ [(message, answer)]) =
      acceptedMessages handed ++ if answer then [message] else [] := by
  cases answer <;> simp [acceptedMessages]

theorem applyPayload_of_write {payload : Bytes} {target : UInt16} {name value : Bytes}
    (h : decodedWrite payload = some (target, name, value)) (server : ServerVariables) :
    applyPayload payload server =
      Function.update server target ((server target).insert name value) := by
  delta applyPayload
  rw [h]

theorem applyPayload_of_other {payload : Bytes} (h : decodedWrite payload = none)
    (hclear : (deserializeClientVarClear.run payload).1 = none) (server : ServerVariables) :
    applyPayload payload server = server := by
  delta applyPayload
  rw [h, hclear]

theorem writesTo_eq (message : ControlMessage) :
    writesTo c n message = (decodedWrite message.payload).bind fun written ↦
      if written.1 = c ∧ written.2.1 = n then some written.2.2 else none := by
  delta writesTo
  cases decodedWrite message.payload with
  | none => rfl
  | some written => rfl

/-- A variable that is carried unchanged is written under its own key. -/
theorem writesTo_clientVarSet (m : NetworkVariableManager D) {key : ClientKey} {value : Bytes}
    (h : CarriedUnchanged key value) :
    writesTo c n (.clientVarSet key.clientNo (m.clientVarSetMessage key value)) =
      if key = clientKey c n then some value else none := by
  have hno := toNat_clientNoOnWire h.clientNo_nonneg h.clientNo_lt
  have hdecoded : decodedWrite
      (ControlMessage.payload (.clientVarSet key.clientNo (m.clientVarSetMessage key value))) =
      some (clientNoOnWire key.clientNo, key.name, value) := by
    refine (decodedWrite_serializeClientVarSet _).trans ?_
    simp only [NetworkVariableManager.clientVarSetMessage, h.name_fits, h.value_fits]
  have hkey : (clientNoOnWire key.clientNo = c ∧ key.name = n) ↔ key = clientKey c n := by
    constructor
    · rintro ⟨rfl, rfl⟩
      rw [clientKey, hno]
    · rintro rfl
      refine ⟨UInt16.toNat_inj.mp ?_, rfl⟩
      rw [clientKey] at hno
      exact Int.ofNat.inj hno
  rw [writesTo_eq, hdecoded, Option.bind_some]
  exact if_congr hkey rfl rfl

/-- Of the messages of a client, only a set and a clear touch client variables. -/
theorem payload_other {message : ControlMessage}
    (hset : ∀ target m, message ≠ .clientVarSet target m)
    (hclear : ∀ m, message ≠ .clientVarClear m) :
    decodedWrite message.payload = none ∧
      (deserializeClientVarClear.run message.payload).1 = none := by
  have hother (type : UInt8) (rest : Bytes) (hset : type ≠ MessageType.clientVarSet.code)
      (hclear : type ≠ MessageType.clientVarClear.code) :
      decodedWrite (type :: rest) = none ∧
        (deserializeClientVarClear.run (type :: rest)).1 = none :=
    ⟨decodedWrite_eq_none rest hset, rejects_other_type rest false _ hclear⟩
  cases message with
  | clientHello deviceId isStealth => exact hother _ _ (by decide) (by decide)
  | rpc m => exact hother _ _ (by decide) (by decide)
  | globalVarSet m => exact hother _ _ (by decide) (by decide)
  | clientVarSet target m => exact (hset target m rfl).elim
  | clientVarClear m => exact (hclear m rfl).elim
  | objectOwnershipRequest m => exact hother _ _ (by decide) (by decide)

theorem writesTo_globalVarSet (message : GlobalVarSetMessage) :
    writesTo c n (.globalVarSet message) = none := by
  have hdecoded : decodedWrite (ControlMessage.payload (.globalVarSet message)) = none :=
    (payload_other (by simp) (by simp)).1
  rw [writesTo_eq, hdecoded, Option.bind_none]

/-- What the server holds of a variable after a message: the written value, or what it held. -/
theorem applyPayload_get? {message : ControlMessage} (server : ServerVariables)
    (hclear : ∀ m, message ≠ .clientVarClear m) :
    (applyPayload message.payload server c)[n]? =
      (writesTo c n message).or (server c)[n]? := by
  rcases hdecoded : decodedWrite message.payload with - | ⟨target, name, value⟩
  · have hset : ∀ target m, message ≠ .clientVarSet target m := by
      rintro target m rfl
      exact absurd (hdecoded.symm.trans (decodedWrite_serializeClientVarSet m))
        (Option.some_ne_none _).symm
    rw [applyPayload_of_other hdecoded (payload_other hset hclear).2, writesTo_eq, hdecoded,
      Option.bind_none, Option.none_or]
  · rw [applyPayload_of_write hdecoded, writesTo_eq, hdecoded, Option.bind_some]
    by_cases htarget : target = c
    · subst htarget
      rw [Function.update_self, OrderedMap.get?_insert]
      by_cases hname : name = n <;> simp [hname]
    · rw [Function.update_of_ne (Ne.symm htarget)]
      simp [htarget]

end Messages

/-! ### What a call does to one variable -/

section Calls

open SendSide (AgreesAt)

variable {D : Type} [Double D] {c : UInt16} {n : Bytes} {m m' : NetworkVariableManager D} {now : D}

/-- The message is not a clear. -/
def NotClear (message : ControlMessage) : Prop := ∀ m, message ≠ .clientVarClear m

/-- Everything pending is carried unchanged. -/
def PendingCarried (side : SendSide ClientKey D) : Prop :=
  ∀ key value, side.pending[key]? = some value → CarriedUnchanged key value

omit [Double D] in
/-- A client variable was handed to the recording sender. -/
theorem emitClient_effect {key : ClientKey} {value : Bytes} {r r' : SendRecord} {answer : Bool}
    (hcarried : CarriedUnchanged key value)
    (h : m.emitClient SendRecord.callbacks key value r = (answer, r')) :
    lastWrite c n (acceptedMessages r'.handed) =
      (if answer = true ∧ key = clientKey c n then some value else none).or
        (lastWrite c n (acceptedMessages r.handed)) := by
  rw [SendRecord.handed_of_trySend h, acceptedMessages_concat]
  cases answer with
  | false => simp
  | true =>
    rw [if_pos rfl, lastWrite, lastSome_concat, writesTo_clientVarSet m hcarried]
    simp [lastWrite]

omit [Double D] in
theorem notClear_emitClient {key : ClientKey} {value : Bytes} {r r' : SendRecord} {answer : Bool}
    (hr : ∀ message ∈ acceptedMessages r.handed, NotClear message)
    (h : m.emitClient SendRecord.callbacks key value r = (answer, r')) :
    ∀ message ∈ acceptedMessages r'.handed, NotClear message := by
  rw [SendRecord.handed_of_trySend h, acceptedMessages_concat]
  intro message hmessage
  rcases List.mem_append.mp hmessage with hmem | hmem
  · exact hr message hmem
  · cases answer <;> simp_all [NotClear]

omit [Double D] in
/-- A global variable was handed to the recording sender. -/
theorem emitGlobal_effect {name value : Bytes} {r r' : SendRecord} {answer : Bool}
    (h : m.emitGlobal SendRecord.callbacks name value r = (answer, r')) :
    lastWrite c n (acceptedMessages r'.handed) = lastWrite c n (acceptedMessages r.handed) ∧
      ((∀ message ∈ acceptedMessages r.handed, NotClear message) →
        ∀ message ∈ acceptedMessages r'.handed, NotClear message) := by
  rw [SendRecord.handed_of_trySend h, acceptedMessages_concat]
  cases answer with
  | false => simp
  | true =>
    refine ⟨lastSome_concat_none _ (writesTo_globalVarSet _), fun hr message hmessage ↦ ?_⟩
    rcases List.mem_append.mp hmessage with hmem | hmem
    · exact hr message hmem
    · simp_all [NotClear]

/-- Flushing global variables writes no client variable. -/
theorem flushGlobal_effect {side side' : SendSide Bytes D} {r r' : SendRecord} {b : Bool}
    (hr : r.handed = [])
    (h : side.flush (m.emitGlobal SendRecord.callbacks) now r = (b, side', r')) :
    lastWrite c n (acceptedMessages r'.handed) = none ∧
      ∀ message ∈ acceptedMessages r'.handed, NotClear message := by
  refine SendSide.flush_induct
    (P := fun _ r ↦ lastWrite c n (acceptedMessages r.handed) = none ∧
      ∀ message ∈ acceptedMessages r.handed, NotClear message) ?_ h
    (by simp [hr, acceptedMessages, lastWrite])
  rintro _ r₁ _ _ _ r₂ entry - ⟨hwrite, hclear⟩ hround
  rcases SendSide.flushItem_cases hround with ⟨-, -, rfl, -⟩ | ⟨-, hemit, -⟩ | ⟨-, hemit, -⟩
  · exact ⟨hwrite, hclear⟩
  all_goals
    obtain ⟨hsame, hnotClear⟩ := emitGlobal_effect (c := c) (n := n) hemit
    exact ⟨hsame.trans hwrite, hnotClear hclear⟩

/-- What a flush may do to the send side of one key, together with the last value accepted for it. A
statement that survives each of these survives a tick. -/
structure FlushRule (k : ClientKey) (Q : SendSide ClientKey D → Option Bytes → Prop) : Prop where
  /-- Only what the send side holds for the key matters. -/
  frame : ∀ {s s' e}, AgreesAt k s s' → Q s e → Q s' e
  /-- The trailing value repeats the last send and is dropped. -/
  cancel : ∀ {s e value}, s.pending[k]? = some value → s.lastSent[k]? = some value → Q s e →
    Q (s.cancel k) e
  /-- The trailing value is sent. -/
  send : ∀ {s e value}, s.pending[k]? = some value → Q s e →
    Q ((s.recordSent k value).cancel k) (some value)

/-- **The tick rule.** -/
theorem tick_rule {Q : SendSide ClientKey D → Option Bytes → Prop}
    (hrule : FlushRule (clientKey c n) Q) {answers : List Bool} {ok : Bool} {r : SendRecord}
    {e : Option Bytes} (hcarried : PendingCarried m.clientSide)
    (h : m.tick SendRecord.callbacks now { answers := answers } = (ok, m', r))
    (hQ : Q m.clientSide e) :
    PendingCarried m'.clientSide ∧
      (∀ message ∈ acceptedMessages r.handed, NotClear message) ∧
      Q m'.clientSide ((lastWrite c n (acceptedMessages r.handed)).or e) := by
  obtain ⟨_, _, globalSide, clientSide, r₁, hglobal, hclient, rfl⟩ :=
    NetworkVariableManager.tick_cases h
  obtain ⟨hwrite₁, hclear₁⟩ := flushGlobal_effect (c := c) (n := n) rfl hglobal
  -- the global flush comes first and writes no client variable
  refine SendSide.flush_induct
    (P := fun side r ↦ PendingCarried side ∧
      (∀ message ∈ acceptedMessages r.handed, NotClear message) ∧
      Q side ((lastWrite c n (acceptedMessages r.handed)).or e)) ?_ hclient
    ⟨hcarried, hclear₁, by rwa [hwrite₁, Option.none_or]⟩
  rintro s r₂ _ _ s' r₃ ⟨key, value⟩ hpending ⟨hcarried, hclear, hQ⟩ hround
  have hkey := hcarried key value hpending
  have hcancelled : PendingCarried (s.cancel key) := by
    intro key' value' hvalue'
    rw [SendSide.pending_cancel] at hvalue'
    split at hvalue'
    · simp at hvalue'
    · exact hcarried key' value' hvalue'
  rcases SendSide.flushItem_cases hround with
    ⟨hsent, rfl, rfl, -⟩ | ⟨-, hemit, rfl, -⟩ | ⟨-, hemit, rfl, -⟩
  · -- dropped as redundant
    refine ⟨hcancelled, hclear, ?_⟩
    by_cases hk : key = clientKey c n
    · subst hk
      exact hrule.cancel hpending hsent hQ
    · exact hrule.frame (SendSide.cancel_agreesAt hk) hQ
  · -- sent
    refine ⟨hcancelled, notClear_emitClient hclear hemit, ?_⟩
    rw [emitClient_effect hkey hemit]
    by_cases hk : key = clientKey c n
    · subst hk
      rw [if_pos ⟨rfl, rfl⟩, Option.some_or, Option.some_or]
      refine hrule.frame ?_ (hrule.send hpending hQ)
      exact ⟨rfl, rfl, rfl⟩
    · rw [if_neg fun hboth ↦ hk hboth.2, Option.none_or]
      exact hrule.frame (SendSide.flushItem_agreesAt hk hround) hQ
  · -- refused
    refine ⟨hcarried, notClear_emitClient hclear hemit, ?_⟩
    rw [emitClient_effect hkey hemit, if_neg (by simp), Option.none_or]
    exact hQ

/-- What an accepted or refused `setClient` does to one variable. -/
inductive SetClientEffect (k : ClientKey) (value : Bytes) (s s' : SendSide ClientKey D) :
    Option Bytes → Prop
  /-- The value is the last one sent. -/
  | dedupe : s.lastSent[k]? = some value → AgreesAt k (s.cancel k) s' →
      SetClientEffect k value s s' none
  /-- The value is kept for the trailing flush without having been accepted. -/
  | keep (deadline : D) : s.lastSent[k]? ≠ some value →
      AgreesAt k (s.keepPending k value deadline) s' → SetClientEffect k value s s' none
  /-- The value is accepted at once and kept as well. -/
  | send (deadline : D) : s.lastSent[k]? ≠ some value →
      AgreesAt k ((s.recordSent k value).keepPending k value deadline) s' →
      SetClientEffect k value s s' (some value)

omit [Double D] in
theorem allClientVariables_touchClient (target clientNo : ℤ) :
    (m.touchClient target).allClientVariables clientNo = m.allClientVariables clientNo := by
  rw [NetworkVariableManager.touchClient, NetworkVariableManager.allClientVariables,
    NetworkVariableManager.allClientVariables]
  split
  · rfl
  · next hmem =>
    rw [OrderedMap.get?_insert]
    split
    · next hno =>
      rw [← hno, Std.ExtTreeMap.getElem?_eq_none hmem]
      rfl
    · rfl

/-- A write of a variable that is carried unchanged, and what the sender accepted in it. -/
theorem write_effect {key : ClientKey} {value : Bytes} {s s' : SendSide ClientKey D}
    {r r' : SendRecord} (hcarried : CarriedUnchanged key value) (hr : r.handed = [])
    (h : s.write (m.emitClient SendRecord.callbacks) now key value r = (s', r')) :
    (∀ message ∈ acceptedMessages r'.handed, NotClear message) ∧
    (PendingCarried s → PendingCarried s') ∧
    (key = clientKey c n → SetClientEffect (clientKey c n) value s s'
      (lastWrite c n (acceptedMessages r'.handed))) ∧
    (key ≠ clientKey c n → lastWrite c n (acceptedMessages r'.handed) = none) := by
  have hnothing : lastWrite c n (acceptedMessages r.handed) = none := by
    simp [hr, acceptedMessages, lastWrite]
  have hclear : ∀ message ∈ acceptedMessages r.handed, NotClear message := by
    simp [hr, acceptedMessages]
  have hkept (s : SendSide ClientKey D) (deadline : D) (hs : PendingCarried s) :
      PendingCarried (s.keepPending key value deadline) := by
    intro key' value' hvalue'
    rw [SendSide.pending_keepPending] at hvalue'
    split at hvalue'
    · next hkey =>
      obtain rfl := Option.some.inj hvalue'
      exact hkey ▸ hcarried
    · exact hs key' value' hvalue'
  rcases SendSide.write_cases h with
    ⟨hsent, rfl, rfl⟩ | ⟨hsent, ⟨hemit, rfl⟩ | ⟨hemit, deadline, rfl⟩⟩
  · refine ⟨hclear, fun hs key' value' hvalue' ↦ ?_, ?_, fun _ ↦ hnothing⟩
    · rw [SendSide.pending_cancel] at hvalue'
      split at hvalue'
      · simp at hvalue'
      · exact hs key' value' hvalue'
    · rintro rfl
      rw [hnothing]
      exact SetClientEffect.dedupe hsent ⟨rfl, rfl, rfl⟩
  · have heffect := emitClient_effect (c := c) (n := n) hcarried hemit
    rw [hnothing, Option.or_none] at heffect
    refine ⟨notClear_emitClient hclear hemit, fun hs ↦ ?_, ?_, fun hne ↦ ?_⟩
    · exact hkept ((s.recordSent key value).startCooldown now key) (now + kDebounceInterval) hs
    · rintro rfl
      rw [heffect, if_pos ⟨rfl, rfl⟩]
      exact SetClientEffect.send (now + kDebounceInterval) hsent ⟨rfl, rfl, rfl⟩
    · rw [heffect, if_neg fun hboth ↦ hne hboth.2]
  · have heffect : lastWrite c n (acceptedMessages r'.handed) = none := by
      rcases hemit with hemit | rfl
      · rw [emitClient_effect hcarried hemit, hnothing]
        simp
      · exact hnothing
    have hclear' : ∀ message ∈ acceptedMessages r'.handed, NotClear message := by
      rcases hemit with hemit | rfl
      · exact notClear_emitClient hclear hemit
      · exact hclear
    refine ⟨hclear', hkept s deadline, ?_, fun _ ↦ heffect⟩
    rintro rfl
    rw [heffect]
    exact SetClientEffect.keep deadline hsent ⟨rfl, rfl, rfl⟩

/-- **The rule for `setClient`.** The variable is the one that is set, or is left alone. -/
theorem setClient_rule {target : ℤ} {name value : Bytes} {answers : List Bool} {ok : Bool}
    {r : SendRecord} (hcarried : CarriedUnchanged ⟨target, name⟩ value)
    (h : m.setClient SendRecord.callbacks now target name value { answers := answers } =
      (ok, m', r)) :
    (∀ message ∈ acceptedMessages r.handed, NotClear message) ∧
    (PendingCarried m.clientSide → PendingCarried m'.clientSide) ∧
    (∀ clientNo, m'.allClientVariables clientNo = m.allClientVariables clientNo) ∧
    ((ok = true ∧ ⟨target, name⟩ = clientKey c n ∧
        SetClientEffect (clientKey c n) value m.clientSide m'.clientSide
          (lastWrite c n (acceptedMessages r.handed))) ∨
      ((ok = true → ⟨target, name⟩ ≠ clientKey c n) ∧
        AgreesAt (clientKey c n) m.clientSide m'.clientSide ∧
        lastWrite c n (acceptedMessages r.handed) = none)) := by
  rcases NetworkVariableManager.setClient_cases h with
    ⟨rfl, hm', line, rfl⟩ | ⟨rfl, -, -, side, hwrite, rfl⟩
  · have hside : m'.clientSide = m.clientSide := by rcases hm' with rfl | rfl <;> rfl
    refine ⟨by simp [Callbacks.log, SendRecord.callbacks, acceptedMessages], ?_, ?_, Or.inr ?_⟩
    · rw [hside]
      exact id
    · intro clientNo
      rcases hm' with rfl | rfl
      · rfl
      · exact allClientVariables_touchClient target clientNo
    · rw [hside]
      exact ⟨by simp, ⟨rfl, rfl, rfl⟩, by
        simp [Callbacks.log, SendRecord.callbacks, acceptedMessages, lastWrite]⟩
  · obtain ⟨hclear, hpending, hsame, hother⟩ := write_effect (c := c) (n := n) hcarried rfl hwrite
    refine ⟨hclear, hpending, allClientVariables_touchClient target, ?_⟩
    by_cases hkey : (⟨target, name⟩ : ClientKey) = clientKey c n
    · exact Or.inl ⟨rfl, hkey, hsame hkey⟩
    · exact Or.inr ⟨fun _ ↦ hkey, SendSide.write_agreesAt hkey hwrite, hother hkey⟩

end Calls

/-! ### The value the server will hold -/

namespace VariableSystem

variable {D : Type} {s : VariableSystem D} {c : UInt16} {n : Bytes}

/-- Accepted writes come last. -/
theorem eventual_called (hle : s.applied ≤ s.accepted.length) (m : NetworkVariableManager D)
    (r : SendRecord) :
    (s.called m r).eventual c n =
      (lastWrite c n (acceptedMessages r.handed)).or (s.eventual c n) := by
  have hflight : (s.called m r).inFlight = s.inFlight ++ acceptedMessages r.handed := by
    rw [inFlight, called]
    exact List.drop_append_of_le_length hle
  rw [eventual, hflight, lastWrite, lastSome_append, Option.or_assoc]
  rfl

/-- A write that arrives takes the place it had in flight. -/
theorem eventual_applyWrite [Double D] (hclear : ∀ message ∈ s.accepted, NotClear message) :
    (s.step .applyWrite).eventual c n = s.eventual c n := by
  rw [step]
  rcases hnext : s.accepted[s.applied]? with - | message
  · rfl
  · obtain ⟨hlt, hget⟩ := List.getElem?_eq_some_iff.mp hnext
    have hflight : s.inFlight = [message] ++ s.accepted.drop (s.applied + 1) := by
      rw [inFlight, List.drop_eq_getElem_cons hlt, hget]
      rfl
    have hnotClear := hclear message (hget ▸ List.getElem_mem hlt)
    rw [eventual, eventual, hflight, lastWrite, lastWrite, lastSome_append, Option.or_assoc,
      applyPayload_get? s.server hnotClear]
    have hsingle : lastSome (writesTo c n) [message] = writesTo c n message := by
      have := lastSome_concat (writesTo c n) [] message
      rwa [List.nil_append, lastSome_nil, Option.or_none] at this
    rw [hsingle]
    rfl

end VariableSystem

/-! ### The smallest instance -/

/-- A manager of client 1 that has done nothing yet. -/
def idleManager : NetworkVariableManager ℚ := { connectionEstablishedAt := 0, localClientNo := 1 }

/-- Every client has a variable `n` whose values of one byte are carried unchanged. -/
theorem carried_n (c : UInt16) (value : UInt8) : CarriedUnchanged (clientKey c [110]) [value] :=
  ⟨Int.natCast_nonneg _, Int.ofNat_lt.mpr c.toNat_lt,
    (by decide : wireName [110] = [110]), by
    rw [wireValue, wireString16, truncateUtf8CodePoints_of_le]
    · rfl
    · exact (List.countP_le_length).trans (by decide : 1 ≤ 1024)⟩

end StylyNetSync
