import Mathlib.Data.List.Induction
import StylyNetSync.Core.SendRecord
import StylyNetSync.Foundation.History

/-!
# The latest intent of a global variable is never lost

A run calls `setGlobal`, `tick` and `handleGlobalSync` in any order, with any times, any sync
contents and any answers of the control sender. Its history keeps, in order, each accepted
`setGlobal`, each message handed to the sender with the answer it got, and each sync entry. The
observation of an accepted `setGlobal` stands before the send it makes itself: it is the latest
intent at the moment of that send.

The invariant `Tracks` ties the send side of one name to the history. Its four fields carry the four
parts of the theorem; the one that makes the others go through is `pending_intent`: a trailing value
is always the latest intent.
-/

namespace StylyNetSync

/-! ### Runs and their history -/

/-- What a run shows of its global variables. -/
inductive GlobalObservation
  /-- A `setGlobal` that returned true. -/
  | intent (name value : Bytes)
  /-- A global set message handed to the control sender, and the answer. -/
  | handed (name value : Bytes) (accepted : Bool)
  /-- A named entry of a global sync. -/
  | synced (name value : Bytes)
  deriving DecidableEq

namespace GlobalObservation

def name : GlobalObservation → Bytes
  | intent name _ => name
  | handed name _ _ => name
  | synced name _ => name

/-- The value intended for a name. -/
def intentOf (key : Bytes) : GlobalObservation → Option Bytes
  | intent name value => if name = key then some value else none
  | _ => none

/-- The value of a name that the sender accepted. -/
def acceptedOf (key : Bytes) : GlobalObservation → Option Bytes
  | handed name value true => if name = key then some value else none
  | _ => none

end GlobalObservation

open GlobalObservation

/-- The value of the last accepted `setGlobal` of a name. -/
def lastIntent (history : List GlobalObservation) (key : Bytes) : Option Bytes :=
  lastSome (intentOf key) history

/-- The value of a name that the sender accepted last. -/
def lastAccepted (history : List GlobalObservation) (key : Bytes) : Option Bytes :=
  lastSome (acceptedOf key) history

/-- The last accepted send of a name carried `value`, and so did every sync entry since. -/
def AgreedSinceSend (history : List GlobalObservation) (key value : Bytes) : Prop :=
  ∃ before after, history = before ++ handed key value true :: after ∧
    (∀ x, handed key x true ∉ after) ∧ ∀ x, synced key x ∈ after → x = value

/-- The global set messages among what was handed to the sender. -/
def observedSends (messages : List (ControlMessage × Bool)) : List GlobalObservation :=
  messages.filterMap fun
    | (.globalVarSet m, accepted) => some (handed m.variableName m.variableValue accepted)
    | _ => none

/-- The entries of a sync; the manager skips those without a name. -/
def observedEntries (message : GlobalVarSyncMessage) : List GlobalObservation :=
  (message.vars.filter fun entry ↦ !entry.name.isEmpty).map fun entry ↦
    synced entry.name entry.value

inductive GlobalCall (D : Type)
  | setGlobal (now : D) (name value : Bytes) (answers : List Bool)
  | tick (now : D) (answers : List Bool)
  | handleGlobalSync (message : GlobalVarSyncMessage)

structure GlobalRun (D : Type) where
  manager : NetworkVariableManager D
  history : List GlobalObservation := []

namespace GlobalRun

variable {D : Type} [Double D]

def step (s : GlobalRun D) : GlobalCall D → GlobalRun D
  | .setGlobal now name value answers =>
    match s.manager.setGlobal SendRecord.callbacks now name value { answers := answers } with
    | (accepted, m, r) =>
      { manager := m
        history := s.history ++ (if accepted then [intent name value] else []) ++
          observedSends r.handed }
  | .tick now answers =>
    match s.manager.tick SendRecord.callbacks now { answers := answers } with
    | (_, m, r) => { manager := m, history := s.history ++ observedSends r.handed }
  | .handleGlobalSync message =>
    { manager := (s.manager.handleGlobalSync message).1
      history := s.history ++ observedEntries message }

/-- A run from a manager with nothing sent yet. -/
def run (start : NetworkVariableManager D) (calls : List (GlobalCall D)) : GlobalRun D :=
  calls.foldl step { manager := start }

end GlobalRun

/-! ### The invariant of one name -/

/-- How the send side of one name and the history belong together. -/
structure Tracks {D : Type} (side : SendSide Bytes D) (history : List GlobalObservation)
    (key : Bytes) : Prop where
  /-- A trailing value has a deadline and a deadline has a trailing value. -/
  keys : (side.pending[key]?).isSome = (side.due[key]?).isSome
  /-- A trailing value is the latest intent. -/
  pending_intent : ∀ value, side.pending[key]? = some value → lastIntent history key = some value
  /-- Without a trailing value the latest intent was accepted last. -/
  settled : ∀ value, side.pending[key]? = none → lastIntent history key = some value →
    lastAccepted history key = some value
  /-- The dedupe cache holds the last accepted send, as long as no sync disagreed. -/
  sent : ∀ value, side.lastSent[key]? = some value → AgreedSinceSend history key value
  /-- Every message handed over carried the latest intent. -/
  handed_intent : ∀ before value accepted after,
    history = before ++ handed key value accepted :: after → lastIntent before key = some value

/-! ### Histories -/

theorem intentOf_of_name_ne {o : GlobalObservation} {key : Bytes} (h : o.name ≠ key) :
    intentOf key o = none := by
  cases o <;> simp_all [intentOf, GlobalObservation.name]

theorem acceptedOf_of_name_ne {o : GlobalObservation} {key : Bytes} (h : o.name ≠ key) :
    acceptedOf key o = none := by
  rcases o with _ | ⟨_, _, - | -⟩ | _ <;> simp_all [acceptedOf, GlobalObservation.name]

theorem lastIntent_intent (history : List GlobalObservation) (key value : Bytes) :
    lastIntent (history ++ [intent key value]) key = some value :=
  lastSome_concat_some _ (if_pos rfl)

theorem AgreedSinceSend.lastAccepted_eq {history : List GlobalObservation} {key value : Bytes}
    (h : AgreedSinceSend history key value) : lastAccepted history key = some value := by
  obtain ⟨before, after, rfl, hsend, -⟩ := h
  have hafter : ∀ o ∈ after, acceptedOf key o = none := by
    rintro (_ | ⟨name, x, - | -⟩ | _) ho
    · rfl
    · rfl
    · refine if_neg ?_
      rintro rfl
      exact hsend x ho
    · rfl
  rw [List.append_cons, lastAccepted, lastSome_append_of_none _ hafter]
  exact lastSome_concat_some _ (if_pos rfl)

theorem AgreedSinceSend.of_send (history : List GlobalObservation) (key value : Bytes) :
    AgreedSinceSend (history ++ [handed key value true]) key value :=
  ⟨history, [], rfl, by simp, by simp⟩

/-- Agreement lasts until the next accepted send or a sync entry with another value. -/
theorem AgreedSinceSend.concat {history : List GlobalObservation} {key value : Bytes}
    {o : GlobalObservation} (h : AgreedSinceSend history key value)
    (hsend : ∀ x, o ≠ handed key x true) (hsync : ∀ x, o = synced key x → x = value) :
    AgreedSinceSend (history ++ [o]) key value := by
  obtain ⟨before, after, rfl, hsends, hsyncs⟩ := h
  refine ⟨before, after ++ [o], by simp, fun x hx ↦ ?_, fun x hx ↦ ?_⟩
  · rcases List.mem_append.mp hx with hx | hx
    · exact hsends x hx
    · exact hsend x (List.mem_singleton.mp hx).symm
  · rcases List.mem_append.mp hx with hx | hx
    · exact hsyncs x hx
    · exact hsync x (List.mem_singleton.mp hx).symm

/-! ### What keeps the invariant -/

namespace Tracks

variable {D : Type} {side side' : SendSide Bytes D} {history : List GlobalObservation}
  {key value : Bytes} {o : GlobalObservation}

/-- Only what the send side holds for the name matters. -/
theorem frame (h : Tracks side history key) (hagrees : SendSide.AgreesAt key side side') :
    Tracks side' history key where
  keys := by rw [hagrees.pending, hagrees.due, h.keys]
  pending_intent := by rw [hagrees.pending]; exact h.pending_intent
  settled := by rw [hagrees.pending]; exact h.settled
  sent := by rw [hagrees.lastSent]; exact h.sent
  handed_intent := h.handed_intent

theorem handed_intent_concat (h : Tracks side history key)
    (ho : ∀ value accepted, o = handed key value accepted → lastIntent history key = some value) :
    ∀ before value accepted after,
      history ++ [o] = before ++ handed key value accepted :: after →
        lastIntent before key = some value := by
  intro before value accepted after hsplit
  rcases concat_eq_append_cons hsplit with ⟨rfl, hlast⟩ | ⟨after', hhistory⟩
  · exact ho value accepted hlast.symm
  · exact h.handed_intent before value accepted after' hhistory

/-- Observations of other names do not matter. -/
theorem concat_other (h : Tracks side history key) (hne : o.name ≠ key) :
    Tracks side (history ++ [o]) key where
  keys := h.keys
  pending_intent value hvalue := by
    rw [lastIntent, lastSome_concat_none _ (intentOf_of_name_ne hne)]
    exact h.pending_intent value hvalue
  settled value hnone hintent := by
    rw [lastIntent, lastSome_concat_none _ (intentOf_of_name_ne hne)] at hintent
    rw [lastAccepted, lastSome_concat_none _ (acceptedOf_of_name_ne hne)]
    exact h.settled value hnone hintent
  sent value hvalue := by
    refine (h.sent value hvalue).concat (fun x hx ↦ hne ?_) fun x hx ↦ (hne ?_).elim
    · rw [hx]; rfl
    · rw [hx]; rfl
  handed_intent := h.handed_intent_concat fun value accepted hvalue ↦
    (hne (by rw [hvalue]; rfl)).elim

theorem append_other (h : Tracks side history key) {later : List GlobalObservation}
    (hne : ∀ o ∈ later, o.name ≠ key) : Tracks side (history ++ later) key := by
  induction later using List.reverseRecOn with
  | nil => rwa [List.append_nil]
  | append_singleton later o ih =>
    rw [← List.append_assoc]
    exact (ih fun o' ho' ↦ hne o' (by simp [ho'])).concat_other (hne o (by simp))

/-- A value that was sent last may be dropped from the trailing values. -/
theorem cancel (h : Tracks side history key) (hpending : side.pending[key]? = some value)
    (hsent : side.lastSent[key]? = some value) : Tracks (side.cancel key) history key where
  keys := by simp
  pending_intent value' hvalue' := by simp at hvalue'
  settled value' _ hintent := by
    have hintent' := h.pending_intent value hpending
    rw [← hintent, hintent']
    exact (h.sent value hsent).lastAccepted_eq
  sent := h.sent
  handed_intent := h.handed_intent

/-- An intent that equals the last send drops the trailing value. -/
theorem intent_cancel (h : Tracks side history key) (hsent : side.lastSent[key]? = some value) :
    Tracks (side.cancel key) (history ++ [intent key value]) key where
  keys := by simp
  pending_intent value' hvalue' := by simp at hvalue'
  settled value' _ hintent := by
    rw [lastIntent_intent] at hintent
    rw [← hintent, lastAccepted, lastSome_concat_none _ rfl]
    exact (h.sent value hsent).lastAccepted_eq
  sent value' hvalue' := (h.sent value' hvalue').concat (by simp) (by simp)
  handed_intent := h.handed_intent_concat (by simp)

/-- An intent that becomes the trailing value. -/
theorem intent_keepPending (h : Tracks side history key) (value : Bytes) (deadline : D) :
    Tracks (side.keepPending key value deadline) (history ++ [intent key value]) key where
  keys := by simp
  pending_intent value' hvalue' := by
    rw [SendSide.pending_keepPending, if_pos rfl] at hvalue'
    rw [← hvalue', lastIntent_intent]
  settled value' hnone _ := by simp at hnone
  sent value' hvalue' := (h.sent value' hvalue').concat (by simp) (by simp)
  handed_intent := h.handed_intent_concat (by simp)

/-- The trailing value is handed to the sender, which refuses. -/
theorem handed_refused (h : Tracks side history key) (hpending : side.pending[key]? = some value) :
    Tracks side (history ++ [handed key value false]) key where
  keys := h.keys
  pending_intent value' hvalue' := by
    rw [lastIntent, lastSome_concat_none _ rfl]
    exact h.pending_intent value' hvalue'
  settled value' hnone _ := by
    rw [hpending] at hnone
    simp at hnone
  sent value' hvalue' := (h.sent value' hvalue').concat (by simp) (by simp)
  handed_intent := h.handed_intent_concat fun value' _ hvalue' ↦ by
    obtain ⟨-, rfl, -⟩ := GlobalObservation.handed.inj hvalue'
    exact h.pending_intent value hpending

/-- The trailing value is handed to the sender, which accepts. -/
theorem handed_accepted (h : Tracks side history key)
    (hpending : side.pending[key]? = some value) :
    Tracks (side.recordSent key value) (history ++ [handed key value true]) key where
  keys := h.keys
  pending_intent value' hvalue' := by
    rw [lastIntent, lastSome_concat_none _ rfl]
    exact h.pending_intent value' hvalue'
  settled value' hnone _ := by
    rw [SendSide.pending_recordSent, hpending] at hnone
    simp at hnone
  sent value' hvalue' := by
    rw [SendSide.lastSent_recordSent, if_pos rfl, Option.some.injEq] at hvalue'
    rw [← hvalue']
    exact AgreedSinceSend.of_send history key value
  handed_intent := h.handed_intent_concat fun value' _ hvalue' ↦ by
    obtain ⟨-, rfl, -⟩ := GlobalObservation.handed.inj hvalue'
    exact h.pending_intent value hpending

/-- A sync entry: agreement lasts if it agrees, otherwise the cache entry is gone. -/
theorem synced_entry (h : Tracks side history key) {x : Bytes}
    (hsent : ∀ value, side.lastSent[key]? = some value → value = x) :
    Tracks side (history ++ [synced key x]) key where
  keys := h.keys
  pending_intent value' hvalue' := by
    rw [lastIntent, lastSome_concat_none _ rfl]
    exact h.pending_intent value' hvalue'
  settled value' hnone hintent := by
    rw [lastIntent, lastSome_concat_none _ rfl] at hintent
    rw [lastAccepted, lastSome_concat_none _ rfl]
    exact h.settled value' hnone hintent
  sent value' hvalue' := by
    refine (h.sent value' hvalue').concat (by simp) fun y hy ↦ ?_
    obtain ⟨-, rfl⟩ := GlobalObservation.synced.inj hy
    exact (hsent value' hvalue').symm
  handed_intent := h.handed_intent_concat (by simp)

/-- Forgetting what was sent last is always possible. -/
theorem forget (h : Tracks side history key) : Tracks (side.forget key) history key where
  keys := h.keys
  pending_intent := h.pending_intent
  settled := h.settled
  sent value' hvalue' := by simp at hvalue'
  handed_intent := h.handed_intent

end Tracks

/-! ### Whole operations -/

section Operations

variable {D : Type} {side side' : SendSide Bytes D} {history : List GlobalObservation}

theorem reconcileGlobal_agreesAt {name value key : Bytes} (hne : name ≠ key) :
    SendSide.AgreesAt key side (side.reconcileGlobal name value) := by
  rw [SendSide.reconcileGlobal]
  split
  · exact ⟨rfl, rfl, rfl⟩
  · split
    · exact (SendSide.dropRedundant_agreesAt hne).trans (SendSide.forget_agreesAt hne)
    · exact SendSide.dropRedundant_agreesAt hne

/-- A sync entry drops the redundant trailing copy, and the cache entry if the value is another. -/
theorem tracks_reconcileGlobal (h : ∀ key, Tracks side history key) (name value key : Bytes) :
    Tracks (side.reconcileGlobal name value) (history ++ [synced name value]) key := by
  by_cases hkey : name = key
  · subst hkey
    rw [SendSide.reconcileGlobal]
    split
    · next hnone => exact (h name).synced_entry fun value' hvalue' ↦ by simp [hnone] at hvalue'
    · next sent hsent =>
      have hdrop : Tracks (side.dropRedundant name sent) history name := by
        rw [SendSide.dropRedundant]
        split
        · next hpending => exact (h name).cancel hpending hsent
        · exact h name
      split
      · exact hdrop.forget.synced_entry fun value' hvalue' ↦ by simp at hvalue'
      · next hagree =>
        refine hdrop.synced_entry fun value' hvalue' ↦ ?_
        rw [SendSide.lastSent_dropRedundant, hsent, Option.some.injEq] at hvalue'
        rw [← hvalue']
        exact not_not.mp hagree
  · exact ((h key).concat_other (o := synced name value) hkey).frame
      (reconcileGlobal_agreesAt hkey)

/-- A message handed over by the send side of the global variables is observed as such. -/
theorem observedSends_emitGlobal {m : NetworkVariableManager D} {name value : Bytes}
    {r r' : SendRecord} {answer : Bool}
    (h : m.emitGlobal SendRecord.callbacks name value r = (answer, r')) :
    observedSends r'.handed = observedSends r.handed ++ [handed name value answer] := by
  rw [SendRecord.handed_of_trySend h, observedSends, List.filterMap_append]
  rfl

variable [Double D]

/-- A write hands over nothing, or its own value. -/
theorem observedSends_write {m : NetworkVariableManager D} {now : D} {name value : Bytes}
    {r r' : SendRecord} (hempty : r.handed = [])
    (h : side.write (m.emitGlobal SendRecord.callbacks) now name value r = (side', r')) :
    ∀ o ∈ observedSends r'.handed, o.name = name := by
  have hemitted {answer : Bool}
      (h : m.emitGlobal SendRecord.callbacks name value r = (answer, r')) :
      ∀ o ∈ observedSends r'.handed, o.name = name := by
    intro o ho
    rw [observedSends_emitGlobal h, hempty] at ho
    rw [List.mem_singleton.mp ho]
    rfl
  rcases SendSide.write_cases h with ⟨-, -, rfl⟩ | ⟨-, ⟨hemit, -⟩ | ⟨hemit | rfl, -⟩⟩
  · simp [hempty, observedSends]
  · exact hemitted hemit
  · exact hemitted hemit
  · simp [hempty, observedSends]

/-- An accepted write: the intent is observed first, then the send if one is made. -/
theorem tracks_write (h : ∀ key, Tracks side history key) {m : NetworkVariableManager D} {now : D}
    {name value : Bytes} {r r' : SendRecord} (hempty : r.handed = [])
    (hwrite : side.write (m.emitGlobal SendRecord.callbacks) now name value r = (side', r'))
    (key : Bytes) :
    Tracks side' (history ++ [intent name value] ++ observedSends r'.handed) key := by
  by_cases hkey : name = key
  · subst hkey
    rcases SendSide.write_cases hwrite with
      ⟨hsent, rfl, rfl⟩ | ⟨-, ⟨hemit, rfl⟩ | ⟨hemit, deadline, rfl⟩⟩
    -- deduped: nothing is handed over
    · rw [hempty, observedSends, List.filterMap_nil, List.append_nil]
      exact (h name).intent_cancel hsent
    · rw [observedSends_emitGlobal hemit, hempty]
      have hkept := (h name).intent_keepPending value (now + kDebounceInterval)
      have hpending : (side.keepPending name value (now + kDebounceInterval)).pending[name]? =
          some value := by simp
      exact (hkept.handed_accepted hpending).frame (by constructor <;> simp)
    -- refused or inside the cooldown: the value is kept either way
    · have hkept := (h name).intent_keepPending value deadline
      rcases hemit with hemit | rfl
      · rw [observedSends_emitGlobal hemit, hempty]
        exact hkept.handed_refused (by simp)
      · rw [hempty, observedSends, List.filterMap_nil, List.append_nil]
        exact hkept
  · have hother := ((h key).concat_other (o := intent name value) hkey).frame
      (SendSide.write_agreesAt hkey hwrite)
    refine hother.append_other fun o ho ↦ ?_
    rw [observedSends_write hempty hwrite o ho]
    exact hkey

/-- A round of the flush, with the message it hands over. -/
theorem tracks_flushItem {m : NetworkVariableManager D} {now : D} {b b' : Bool}
    {entry : Bytes × Bytes} {r r' : SendRecord}
    (h : ∀ key, Tracks side (history ++ observedSends r.handed) key)
    (hpending : side.pending[entry.1]? = some entry.2)
    (hround : SendSide.flushItem (m.emitGlobal SendRecord.callbacks) now (b, side, r) entry =
      (b', side', r')) (key : Bytes) :
    Tracks side' (history ++ observedSends r'.handed) key := by
  by_cases hkey : entry.1 = key
  · subst hkey
    rcases SendSide.flushItem_cases hround with
      ⟨hsent, rfl, rfl, -⟩ | ⟨-, hemit, rfl, -⟩ | ⟨-, hemit, rfl, -⟩
    · exact (h entry.1).cancel hpending hsent
    · rw [observedSends_emitGlobal hemit, ← List.append_assoc]
      have hsent := (h entry.1).handed_accepted hpending
      exact (hsent.cancel hpending (by simp)).frame ⟨rfl, rfl, rfl⟩
    · rw [observedSends_emitGlobal hemit, ← List.append_assoc]
      exact (h entry.1).handed_refused hpending
  · have hframe := (h key).frame (SendSide.flushItem_agreesAt hkey hround)
    rcases SendSide.flushItem_cases hround with
      ⟨-, -, rfl, -⟩ | ⟨-, hemit, -⟩ | ⟨-, hemit, -⟩
    · exact hframe
    all_goals
      rw [observedSends_emitGlobal hemit, ← List.append_assoc]
      exact hframe.concat_other hkey

/-- A whole flush of the global variables. -/
theorem tracks_flush {m : NetworkVariableManager D} {now : D} {b : Bool} {r r' : SendRecord}
    (h : ∀ key, Tracks side (history ++ observedSends r.handed) key)
    (hflush : side.flush (m.emitGlobal SendRecord.callbacks) now r = (b, side', r')) :
    ∀ key, Tracks side' (history ++ observedSends r'.handed) key :=
  SendSide.flush_induct
    (P := fun side r ↦ ∀ key, Tracks side (history ++ observedSends r.handed) key)
    (fun _ _ _ _ _ _ _ hpending hP hround ↦ tracks_flushItem hP hpending hround) hflush h

/-- Client variables are flushed through the same sender, unseen by the observations. -/
theorem observedSends_flushClient {m : NetworkVariableManager D} {now : D} {b : Bool}
    {clientSide clientSide' : SendSide ClientKey D} {r r' : SendRecord}
    (hflush : clientSide.flush (m.emitClient SendRecord.callbacks) now r = (b, clientSide', r')) :
    observedSends r'.handed = observedSends r.handed := by
  refine SendSide.flush_induct (P := fun _ r₁ ↦ observedSends r₁.handed = observedSends r.handed)
    ?_ hflush rfl
  intro _ r₁ _ _ _ r₂ entry _ hP hround
  have hemitted {answer : Bool}
      (h : m.emitClient SendRecord.callbacks entry.1 entry.2 r₁ = (answer, r₂)) :
      observedSends r₂.handed = observedSends r.handed := by
    rw [SendRecord.handed_of_trySend h, observedSends, List.filterMap_append, ← observedSends, hP]
    exact List.append_nil _
  rcases SendSide.flushItem_cases hround with ⟨-, -, rfl, -⟩ | ⟨-, hemit, -⟩ | ⟨-, hemit, -⟩
  · exact hP
  · exact hemitted hemit
  · exact hemitted hemit

omit [Double D] in
/-- A whole sync, entry by entry. -/
theorem tracks_handleGlobalSync {m : NetworkVariableManager D} (message : GlobalVarSyncMessage)
    (h : ∀ key, Tracks m.globalSide history key) :
    ∀ key, Tracks (m.handleGlobalSync message).1.globalSide
      (history ++ observedEntries message) key := by
  suffices hloop : ∀ (entries : List NetworkVariableEntry)
      (acc : NetworkVariableManager D × List VariableChange) (history : List GlobalObservation),
      (∀ key, Tracks acc.1.globalSide history key) →
      ∀ key, Tracks (entries.foldl NetworkVariableManager.handleGlobalEntry acc).1.globalSide
        (history ++ observedEntries ⟨entries⟩) key from
    hloop message.vars ({ m with hasReceivedInitialSync := true }, []) history h
  intro entries
  -- the history grows with the entries, so both are general in the induction
  induction entries with
  | nil =>
    intro acc history hacc
    simpa [observedEntries] using hacc
  | cons entry rest ih =>
    rintro ⟨m, changes⟩ history hacc
    rw [List.foldl_cons]
    by_cases hname : entry.name.isEmpty = true
    · have hentry : NetworkVariableManager.handleGlobalEntry (m, changes) entry = (m, changes) :=
        if_pos hname
      have hobserved : observedEntries ⟨entry :: rest⟩ = observedEntries ⟨rest⟩ := by
        simp [observedEntries, hname]
      rw [hentry, hobserved]
      exact ih (m, changes) history hacc
    · have hside : (NetworkVariableManager.handleGlobalEntry (m, changes) entry).1.globalSide =
          m.globalSide.reconcileGlobal entry.name entry.value := by
        rw [NetworkVariableManager.handleGlobalEntry, if_neg hname]
        simp only
        split <;> rfl
      have hobserved : history ++ observedEntries ⟨entry :: rest⟩ =
          history ++ [synced entry.name entry.value] ++ observedEntries ⟨rest⟩ := by
        simp [observedEntries, hname]
      rw [hobserved]
      refine ih _ _ fun key ↦ ?_
      rw [hside]
      exact tracks_reconcileGlobal hacc entry.name entry.value key

end Operations

/-! ### Runs -/

namespace GlobalRun

variable {D : Type} [Double D]

/-- **One call keeps the invariant.** -/
theorem tracks_step {s : GlobalRun D} (h : ∀ key, Tracks s.manager.globalSide s.history key)
    (call : GlobalCall D) :
    ∀ key, Tracks (s.step call).manager.globalSide (s.step call).history key := by
  cases call with
  | setGlobal now name value answers =>
    rcases hcall : s.manager.setGlobal SendRecord.callbacks now name value
      { answers := answers } with ⟨ok, m, r⟩
    rw [step, hcall]
    rcases NetworkVariableManager.setGlobal_cases hcall with
      ⟨rfl, rfl, line, rfl⟩ | ⟨rfl, -, -, side, hwrite, rfl⟩
    · intro key
      simpa [observedSends, Callbacks.log, SendRecord.callbacks] using h key
    · exact tracks_write h rfl hwrite
  | tick now answers =>
    rcases hcall : s.manager.tick SendRecord.callbacks now { answers := answers } with ⟨ok, m, r⟩
    rw [step, hcall]
    obtain ⟨_, _, globalSide, clientSide, r₁, hglobal, hclient, rfl⟩ :=
      NetworkVariableManager.tick_cases hcall
    have hflushed : ∀ key, Tracks globalSide (s.history ++ observedSends r₁.handed) key :=
      tracks_flush (by simpa [observedSends] using h) hglobal
    simpa only [observedSends_flushClient hclient] using hflushed
  | handleGlobalSync message => exact tracks_handleGlobalSync message h

theorem tracks_run {start : NetworkVariableManager D} (hstart : start.globalSide = {})
    (calls : List (GlobalCall D)) (key : Bytes) :
    Tracks (run start calls).manager.globalSide (run start calls).history key := by
  suffices hloop : ∀ s : GlobalRun D, (∀ key, Tracks s.manager.globalSide s.history key) →
      ∀ key, Tracks (calls.foldl step s).manager.globalSide (calls.foldl step s).history key by
    refine hloop { manager := start } (fun key ↦ ?_) key
    rw [hstart]
    constructor <;> simp [lastIntent]
  induction calls with
  | nil => exact fun s hs ↦ hs
  | cons call calls ih => exact fun s hs ↦ ih (s.step call) (tracks_step hs call)

end GlobalRun

/-- **The latest accepted intent of a global variable is never lost or overtaken**, in any run from
a manager that has not sent yet. -/
theorem global_intent_kept {D : Type} [Double D] {start : NetworkVariableManager D}
    (hstart : start.globalSide = {}) (calls : List (GlobalCall D)) (name : Bytes) :
    let s := GlobalRun.run start calls
    (name ∈ s.manager.globalSide.pending ↔ name ∈ s.manager.globalSide.due) ∧
    (∀ value, lastIntent s.history name = some value →
      s.manager.globalSide.pending[name]? = some value ∨
        lastAccepted s.history name = some value) ∧
    (∀ before value accepted after, s.history = before ++ handed name value accepted :: after →
      lastIntent before name = some value) ∧
    (∀ now value answers,
      let call := s.manager.setGlobal SendRecord.callbacks now name value { answers := answers }
      call.1 = true → call.2.2.handed = [] → call.2.1.globalSide.pending[name]? ≠ some value →
        AgreedSinceSend s.history name value) := by
  intro s
  have htracks : Tracks s.manager.globalSide s.history name :=
    GlobalRun.tracks_run hstart calls name
  refine ⟨?_, ?_, htracks.handed_intent, ?_⟩
  · rw [Std.ExtTreeMap.mem_iff_isSome_getElem?, Std.ExtTreeMap.mem_iff_isSome_getElem?,
      htracks.keys]
  · intro value hintent
    rcases hpending : s.manager.globalSide.pending[name]? with - | trailing
    · exact Or.inr (htracks.settled value hpending hintent)
    · have htrailing := htracks.pending_intent trailing hpending
      rw [hintent] at htrailing
      exact Or.inl htrailing.symm
  -- a call that sends and keeps nothing has found the value in the cache
  · intro now value answers call hok _ hpending
    rcases hcall : call with ⟨ok, m, r⟩
    rw [hcall] at hok hpending
    rcases NetworkVariableManager.setGlobal_cases hcall with
      ⟨rfl, -⟩ | ⟨-, -, -, side, hwrite, rfl⟩
    · simp at hok
    · rcases SendSide.write_cases hwrite with ⟨hsent, -⟩ | ⟨-, ⟨-, rfl⟩ | ⟨-, deadline, rfl⟩⟩
      · exact htracks.sent value hsent
      · simp at hpending
      · simp at hpending

/-- A name is written, refused, retried by a tick and then set again to the same value. -/
theorem global_intent_kept_retry :
    lastAccepted (GlobalRun.run { connectionEstablishedAt := (0 : ℚ) }
      [.setGlobal 0 [97] [1] [false], .tick 1 [true]]).history [97] = some [1] := by
  have hstart : ({ connectionEstablishedAt := 0 } : NetworkVariableManager ℚ).globalSide = {} := rfl
  have h := (global_intent_kept hstart [.setGlobal 0 [97] [1] [false], .tick 1 [true]] [97]).2.1 [1]
    (by decide +kernel)
  exact h.resolve_left (by decide +kernel)

end StylyNetSync
