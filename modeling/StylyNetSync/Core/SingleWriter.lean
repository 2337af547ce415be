import StylyNetSync.Core.VariableSystem

/-!
# The writes of a single writer

Only this client writes a variable and nobody clears it. Then the last value put on the wire is the
value the server ends up with (`eventual`), and nothing is lost as long as the dedupe cache speaks
the truth about that value whenever it is asked. It does not always: every received snapshot
overwrites the cache, and a snapshot that was taken before the server applied a write still in
flight makes the cache name an older value. A write of that older value is then taken for a
repetition and dropped, while the newer one is on its way to the server.

`CacheHonest` is the condition that the cache is not asked in such a moment: no `setClient` finds
its value in the cache, and no snapshot cancels a trailing value, unless the server will indeed hold
that value. In a run that meets it no write is lost; `stale_snapshot_loses_write` is a run that does
not.
-/

namespace StylyNetSync

open SendSide (AgreesAt)

variable {D : Type}

/-- Other clients leave the variable alone. -/
def VariableEvent.Spares (c : UInt16) (n : Bytes) : VariableEvent D → Prop
  | .otherWrite target name _ => ¬(target = c ∧ name = n)
  | .otherClear client => client ≠ c
  | _ => True

/-- Where the step relies on the value in the dedupe cache or in a snapshot, the server will hold
that value once everything in flight has arrived. -/
def CacheHonest (c : UInt16) (n : Bytes) (s : VariableSystem D) : VariableEvent D → Prop
  | .setClient _ target name value _ =>
    ⟨target, name⟩ = clientKey c n →
      s.manager.clientSide.lastSent[clientKey c n]? = some value → s.eventual c n = some value
  | .deliverSnapshot =>
    ∀ snapshot ∈ s.snapshots.head?, ∀ block ∈ snapshot.message.clients, block.1 = c →
      ∀ value, (NetworkVariableManager.snapshotOf block.2)[n]? = some value →
        s.manager.clientSide.pending[clientKey c n]? = some value → s.eventual c n = some value
  | _ => True

/-! ### The invariant of the variable -/

/-- How the send side of a variable, the last intent and the value the server will hold belong
together. -/
structure Settles (k : ClientKey) (intent : Option Bytes) (side : SendSide ClientKey D)
    (eventual : Option Bytes) : Prop where
  /-- A trailing value that the cache names is the value the server will hold. -/
  agree : ∀ value, side.pending[k]? = some value → side.lastSent[k]? = some value →
    eventual = some value
  /-- Without a trailing value the server will hold the last intent. -/
  settled : side.pending[k]? = none → ∀ value, intent = some value → eventual = some value
  /-- A trailing value is the last intent. -/
  trailing : ∀ value, side.pending[k]? = some value → intent = some value

namespace Settles

variable {k : ClientKey} {intent eventual : Option Bytes} {side side' : SendSide ClientKey D}
  {value : Bytes}

theorem frame (hagrees : AgreesAt k side side') (h : Settles k intent side eventual) :
    Settles k intent side' eventual where
  agree := by rw [hagrees.pending, hagrees.lastSent]; exact h.agree
  settled := by rw [hagrees.pending]; exact h.settled
  trailing := by rw [hagrees.pending]; exact h.trailing

/-- A trailing value may be dropped if the server will hold it. -/
theorem drop (hpending : side.pending[k]? = some value) (heventual : eventual = some value)
    (h : Settles k intent side eventual) : Settles k intent (side.cancel k) eventual where
  agree value' hvalue' := by simp at hvalue'
  settled _ value' hintent := by
    rw [h.trailing value hpending] at hintent
    rw [heventual, hintent]
  trailing value' hvalue' := by simp at hvalue'

theorem flushRule (k : ClientKey) (intent : Option Bytes) :
    FlushRule k (Settles (D := D) k intent) where
  frame := frame
  cancel hpending hsent h := h.drop hpending (h.agree _ hpending hsent)
  send {side _ value} hpending h := by
    constructor
    · intro value' hvalue'
      simp at hvalue'
    · intro _ value' hintent
      rw [← hintent, h.trailing value hpending]
    · intro value' hvalue'
      simp at hvalue'

/-- The cache may be forgotten. -/
theorem forget (h : Settles k intent side eventual) :
    Settles k intent (side.forget k) eventual where
  agree value' _ hsent := by simp at hsent
  settled := h.settled
  trailing := h.trailing

/-- A block without the variable. -/
theorem reconcileRemoved (h : Settles k intent side eventual) :
    Settles k intent (side.reconcileRemoved k) eventual := by
  rw [SendSide.reconcileRemoved]
  split
  · exact h
  · next sent hsent =>
    refine forget ?_
    rw [SendSide.dropRedundant]
    split
    · next hpending => exact h.drop hpending (h.agree sent hpending hsent)
    · exact h

/-- A block with the variable: what it cancels has to be what the server will hold. -/
theorem reconcilePresent (h : Settles k intent side eventual)
    (honest : side.pending[k]? = some value → eventual = some value) :
    Settles k intent (side.reconcilePresent k value) eventual := by
  have hrecorded : Settles k intent (side.recordSent k value) eventual := by
    refine ⟨fun value' hpending hsent ↦ ?_, h.settled, h.trailing⟩
    rw [SendSide.lastSent_recordSent, if_pos rfl, Option.some.injEq] at hsent
    rw [← hsent] at hpending ⊢
    exact honest hpending
  rw [SendSide.reconcilePresent, SendSide.dropRedundant]
  split
  · next hpending => exact hrecorded.drop hpending (honest hpending)
  · exact hrecorded

/-- An accepted `setClient` of the variable: the new value is the intent. -/
theorem of_setClient {written : Option Bytes}
    (heffect : SetClientEffect k value side side' written)
    (honest : side.lastSent[k]? = some value → eventual = some value) :
    Settles k (some value) side' (written.or eventual) := by
  cases heffect with
  | dedupe hsent hagrees =>
    refine frame hagrees ⟨?_, ?_, ?_⟩
    · intro value' hvalue'
      simp at hvalue'
    · intro _ value' hvalue'
      rw [Option.none_or, honest hsent, hvalue']
    · intro value' hvalue'
      simp at hvalue'
  | keep deadline hsent hagrees =>
    refine frame hagrees ⟨?_, ?_, ?_⟩
    · intro value' hpending hvalue'
      rw [SendSide.pending_keepPending, if_pos rfl, Option.some.injEq] at hpending
      rw [← hpending] at hvalue'
      exact (hsent hvalue').elim
    · intro hnone
      simp at hnone
    · intro value' hpending
      rwa [SendSide.pending_keepPending, if_pos rfl] at hpending
  | send deadline hsent hagrees =>
    refine frame hagrees ⟨?_, ?_, ?_⟩
    · intro value' hpending _
      rwa [SendSide.pending_keepPending, if_pos rfl] at hpending
    · intro hnone
      simp at hnone
    · intro value' hpending
      rwa [SendSide.pending_keepPending, if_pos rfl] at hpending

end Settles

/-! ### The invariant of the system -/

structure WriterInv (c : UInt16) (n : Bytes) (s : VariableSystem D) : Prop where
  settles : Settles (clientKey c n) (s.lastIntentOf (clientKey c n)) s.manager.clientSide
    (s.eventual c n)
  carried : PendingCarried s.manager.clientSide
  notClear : ∀ message ∈ s.accepted, NotClear message
  applied_le : s.applied ≤ s.accepted.length

namespace WriterInv

variable {c : UInt16} {n : Bytes} {s : VariableSystem D}

/-- A call of the manager: the channel grows by what was accepted. -/
theorem called (h : WriterInv c n s) {m : NetworkVariableManager D} {r : SendRecord}
    {intents : List (ClientKey × Bytes)} (hcarried : PendingCarried m.clientSide)
    (hclear : ∀ message ∈ acceptedMessages r.handed, NotClear message)
    (hsettles : Settles (clientKey c n)
      ({ s.called m r with intents := intents }.lastIntentOf (clientKey c n)) m.clientSide
      ((lastWrite c n (acceptedMessages r.handed)).or (s.eventual c n))) :
    WriterInv c n { s.called m r with intents := intents } where
  settles := by
    have heventual := VariableSystem.eventual_called (c := c) (n := n) h.applied_le m r
    rw [← heventual] at hsettles
    exact hsettles
  carried := hcarried
  notClear message hmessage := by
    rcases List.mem_append.mp hmessage with hmem | hmem
    · exact h.notClear message hmem
    · exact hclear message hmem
  applied_le := h.applied_le.trans (by simp [VariableSystem.called])

/-- What other clients do to other variables does not matter. -/
theorem otherServer (h : WriterInv c n s) {server : ServerVariables}
    (hsame : (server c)[n]? = (s.server c)[n]?) : WriterInv c n { s with server := server } := by
  refine ⟨?_, h.carried, h.notClear, h.applied_le⟩
  have heventual : ({ s with server := server } : VariableSystem D).eventual c n =
      s.eventual c n := by
    rw [VariableSystem.eventual, hsame]
    rfl
  rw [heventual]
  exact h.settles

/-- A snapshot, block by block. A block can only shorten what is pending, so what holds of the
trailing value when the snapshot arrives holds of it at every block. -/
theorem handleClientSync {m : NetworkVariableManager D} {message : ClientVarSyncMessage}
    {intent eventual : Option Bytes}
    (hsettles : Settles (clientKey c n) intent m.clientSide eventual)
    (hcarried : PendingCarried m.clientSide)
    (honest : ∀ block ∈ message.clients, block.1 = c → ∀ value,
      (NetworkVariableManager.snapshotOf block.2)[n]? = some value →
      m.clientSide.pending[clientKey c n]? = some value → eventual = some value) :
    Settles (clientKey c n) intent (m.handleClientSync message).1.clientSide eventual ∧
      PendingCarried (m.handleClientSync message).1.clientSide := by
  -- what is pending at a block was pending when the snapshot arrived
  suffices hsync :
      Settles (clientKey c n) intent (m.handleClientSync message).1.clientSide eventual ∧
      PendingCarried (m.handleClientSync message).1.clientSide ∧
      ∀ value, (m.handleClientSync message).1.clientSide.pending[clientKey c n]? = some value →
        m.clientSide.pending[clientKey c n]? = some value from ⟨hsync.1, hsync.2.1⟩
  refine NetworkVariableManager.handleClientSync_induct
    (P := fun m' ↦ Settles (clientKey c n) intent m'.clientSide eventual ∧
      PendingCarried m'.clientSide ∧
      ∀ value, m'.clientSide.pending[clientKey c n]? = some value →
        m.clientSide.pending[clientKey c n]? = some value) ?_ ⟨hsettles, hcarried, fun _ h ↦ h⟩
  rintro m' changes block hblock ⟨hsettles', hcarried', hshorter⟩
  refine ⟨?_, ?_, fun value hvalue ↦ hshorter value
    (NetworkVariableManager.pending_of_handleClientBlock m' changes block hvalue)⟩
  · by_cases hno : block.1 = c
    · obtain rfl := hno
      rcases NetworkVariableManager.handleClientBlock_cases m' changes block n with
        ⟨value, hvalue, hagrees⟩ | ⟨-, -, hagrees⟩ | ⟨-, -, hagrees⟩
      · refine Settles.frame hagrees (hsettles'.reconcilePresent fun hpending ↦ ?_)
        exact honest block hblock rfl value hvalue (hshorter value hpending)
      · exact Settles.frame hagrees hsettles'.reconcileRemoved
      · exact hsettles'.frame hagrees
    · have hne : (block.1.toNat : ℤ) ≠ (clientKey c n).clientNo := by
        intro h
        exact hno (UInt16.toNat_inj.mp (Int.ofNat.inj h))
      exact hsettles'.frame (NetworkVariableManager.handleClientBlock_other m' changes block hne).1
  · intro key value hvalue
    exact hcarried' key value
      (NetworkVariableManager.pending_of_handleClientBlock m' changes block hvalue)

variable [Double D]

theorem setClient (h : WriterInv c n s) {now : D} {target : ℤ} {name value : Bytes}
    {answers : List Bool} (hcarried : CarriedUnchanged ⟨target, name⟩ value)
    (honest : CacheHonest c n s (.setClient now target name value answers)) :
    WriterInv c n (s.step (.setClient now target name value answers)) := by
  rcases hcall : s.manager.setClient SendRecord.callbacks now target name value
    { answers := answers } with ⟨ok, m, r⟩
  obtain ⟨hclear, hpending, -, hkey⟩ := setClient_rule (c := c) (n := n) hcarried hcall
  rw [VariableSystem.step, hcall]
  refine h.called (hpending h.carried) hclear ?_
  rcases hkey with ⟨rfl, hkey, heffect⟩ | ⟨hkey, hagrees, hwrite⟩
  · -- the variable itself: the value becomes the intent
    have hintent : lastSome (fun intent : ClientKey × Bytes ↦
        if intent.1 = clientKey c n then some intent.2 else none)
        (s.intents ++ [(⟨target, name⟩, value)]) = some value :=
      lastSome_concat_some _ (if_pos hkey)
    rw [if_pos rfl, VariableSystem.lastIntentOf, hintent]
    exact Settles.of_setClient heffect (honest hkey)
  · -- another variable, or a refused call: nothing changes for this one
    have hintent : lastSome (fun intent : ClientKey × Bytes ↦
        if intent.1 = clientKey c n then some intent.2 else none)
        (if ok then s.intents ++ [(⟨target, name⟩, value)] else s.intents) =
        s.lastIntentOf (clientKey c n) := by
      cases ok with
      | false => rfl
      | true => exact lastSome_concat_none _ (if_neg (hkey rfl))
    rw [VariableSystem.lastIntentOf, hintent, hwrite, Option.none_or]
    exact h.settles.frame hagrees

theorem tick (h : WriterInv c n s) (now : D) (answers : List Bool) :
    WriterInv c n (s.step (.tick now answers)) := by
  rcases hcall : s.manager.tick SendRecord.callbacks now { answers := answers } with ⟨ok, m, r⟩
  obtain ⟨hcarried, hclear, hsettles⟩ :=
    tick_rule (Settles.flushRule (clientKey c n) _) h.carried hcall h.settles
  rw [VariableSystem.step, hcall]
  exact h.called hcarried hclear hsettles

theorem applyWrite (h : WriterInv c n s) : WriterInv c n (s.step .applyWrite) := by
  have heventual := VariableSystem.eventual_applyWrite (c := c) (n := n) h.notClear
  rw [VariableSystem.step] at heventual ⊢
  rcases hnext : s.accepted[s.applied]? with - | message
  · exact h
  · rw [hnext] at heventual
    refine ⟨?_, h.carried, h.notClear, ?_⟩
    · rw [heventual]
      exact h.settles
    · exact (List.getElem?_eq_some_iff.mp hnext).1

theorem deliverSnapshot (h : WriterInv c n s) (honest : CacheHonest c n s .deliverSnapshot) :
    WriterInv c n (s.step .deliverSnapshot) := by
  rw [VariableSystem.step]
  rcases hnext : s.snapshots with - | ⟨snapshot, rest⟩
  · exact h
  · have hhead : snapshot ∈ s.snapshots.head? := by simp [hnext]
    obtain ⟨hsettles, hcarried⟩ :=
      handleClientSync h.settles h.carried (honest snapshot hhead)
    exact ⟨hsettles, hcarried, h.notClear, h.applied_le⟩

/-- **One event keeps the invariant**, if the cache is honest. -/
theorem step (h : WriterInv c n s) {event : VariableEvent D} (hcarried : event.Carried)
    (hspares : event.Spares c n) (honest : CacheHonest c n s event) :
    WriterInv c n (s.step event) := by
  cases event with
  | setClient now target name value answers => exact h.setClient hcarried honest
  | tick now answers => exact h.tick now answers
  | applyWrite => exact h.applyWrite
  | otherWrite target name value =>
    refine h.otherServer ?_
    by_cases htarget : target = c
    · subst htarget
      rw [Function.update_self, OrderedMap.get?_insert, if_neg fun hname ↦ hspares ⟨rfl, hname⟩]
    · rw [Function.update_of_ne (Ne.symm htarget)]
  | otherClear client =>
    refine h.otherServer ?_
    rw [Function.update_of_ne (Ne.symm hspares)]
  | takeSnapshot message =>
    rw [VariableSystem.step]
    split
    · exact ⟨h.settles, h.carried, h.notClear, h.applied_le⟩
    · exact h
  | deliverSnapshot => exact h.deliverSnapshot honest

end WriterInv

/-- A manager that has nothing sent and nothing pending, facing any server. -/
theorem writerInv_init {c : UInt16} {n : Bytes} {m : NetworkVariableManager D}
    (hm : m.clientSide = {}) (server : ServerVariables) :
    WriterInv c n { manager := m, server := server } := by
  have hnothing : ∀ key : ClientKey, m.clientSide.pending[key]? = none := by simp [hm]
  refine ⟨⟨?_, ?_, ?_⟩, ?_, ?_, ?_⟩
  · intro value hvalue
    simp [hnothing] at hvalue
  · intro _ value hvalue
    simp [VariableSystem.lastIntentOf] at hvalue
  · intro value hvalue
    simp [hnothing] at hvalue
  · intro key value hvalue
    simp [hnothing] at hvalue
  · intro message hmessage
    simp at hmessage
  · exact Nat.le_refl 0

/-- **No lost write with a single writer.** In every run in which the cache is honest, whenever
nothing is in flight in either direction and nothing is pending for the variable, the server holds
the last value that `setClient` accepted. -/
theorem single_writer_not_lost [Double D] {m : NetworkVariableManager D} (hm : m.clientSide = {})
    (server : ServerVariables) (c : UInt16) (n : Bytes) (events : List (VariableEvent D))
    (hcarried : ∀ event ∈ events, event.Carried) (hspares : ∀ event ∈ events, event.Spares c n)
    (honest : Along VariableSystem.step (CacheHonest c n)
      { manager := m, server := server } events) :
    let s := VariableSystem.run { manager := m, server := server } events
    s.inFlight = [] → s.snapshots = [] → s.manager.clientSide.pending[clientKey c n]? = none →
      ∀ value, s.lastIntentOf (clientKey c n) = some value → (s.server c)[n]? = some value := by
  intro s hflight _ hpending value hintent
  have hinv : WriterInv c n s :=
    ((honest.and_forall hcarried).and_forall hspares).invariant
      (fun _ _ hs hcond ↦ hs.step hcond.1.2 hcond.2 hcond.1.1) (writerInv_init hm server)
  have heventual := hinv.settles.settled hpending value hintent
  rwa [VariableSystem.eventual, hflight, lastWrite, lastSome_nil, Option.none_or] at heventual

/-- A write is sent at once and arrives, a snapshot of it comes back while its trailing copy waits,
the same value is set again, and then another one, which the next tick sends. -/
def snapshotRun : List (VariableEvent ℚ) :=
  [.setClient 0 1 [110] [5] [true], .applyWrite, .takeSnapshot ⟨[(1, [⟨[110], [5], 1⟩])]⟩,
    .deliverSnapshot, .setClient (1 / 20) 1 [110] [5] [], .setClient (1 / 20) 1 [110] [6] [],
    .tick 1 [true], .applyWrite]

/-- A client that has done nothing, and a server that knows nothing. -/
def untouched : VariableSystem ℚ := { manager := idleManager, server := fun _ ↦ ∅ }

/-- The snapshot has the value that waits, and the repetition finds its value in the cache. -/
theorem single_writer_not_lost_snapshotRun :
    (VariableSystem.run untouched
        (snapshotRun.take 3)).manager.clientSide.pending[clientKey 1 [110]]? = some [5] ∧
      (VariableSystem.run untouched
        (snapshotRun.take 4)).manager.clientSide.lastSent[clientKey 1 [110]]? = some [5] ∧
      ((VariableSystem.run untouched snapshotRun).server 1)[([110] : Bytes)]? = some [6] := by
  have hpending : (VariableSystem.run untouched
      (snapshotRun.take 3)).manager.clientSide.pending[clientKey 1 [110]]? = some [5] := by
    decide +kernel
  have honest : Along VariableSystem.step (CacheHonest 1 [110]) untouched snapshotRun := by
    have hfirst : ¬untouched.manager.clientSide.lastSent[clientKey 1 [110]]? = some [5] := by
      decide +kernel
    have hother : ¬(VariableSystem.run untouched
        (snapshotRun.take 5)).manager.clientSide.lastSent[clientKey 1 [110]]? = some [6] := by
      decide +kernel
    refine ⟨fun _ hsent ↦ absurd hsent hfirst, trivial, trivial, ?_, fun _ _ ↦ ?_,
      fun _ hsent ↦ absurd hsent hother, trivial, trivial, trivial⟩
    · -- the value that waits is the one that arrived
      intro _ _ _ _ _ value _ hwaits
      obtain rfl : [5] = value := Option.some.inj (hpending.symm.trans hwaits)
      show (VariableSystem.run untouched (snapshotRun.take 3)).eventual 1 [110] = some [5]
      decide +kernel
    · show (VariableSystem.run untouched (snapshotRun.take 4)).eventual 1 [110] = some [5]
      decide +kernel
  refine ⟨hpending, by decide +kernel, ?_⟩
  refine single_writer_not_lost (m := idleManager) rfl (fun _ ↦ ∅) 1 [110] snapshotRun ?_ ?_ honest
    (by decide +kernel) (by decide +kernel) (by decide +kernel) [6] (by decide +kernel)
  · simp only [snapshotRun, List.mem_cons, List.not_mem_nil, or_false]
    rintro event (rfl | rfl | rfl | rfl | rfl | rfl | rfl | rfl)
    · exact carried_n 1 5
    · trivial
    · trivial
    · trivial
    · exact carried_n 1 5
    · exact carried_n 1 6
    · trivial
    · trivial
  · simp only [snapshotRun, List.mem_cons, List.not_mem_nil, or_false]
    rintro event (rfl | rfl | rfl | rfl | rfl | rfl | rfl | rfl) <;> trivial

/-- Value 0 is set and arrives, a snapshot of it is taken, value 1 is set and sent, the snapshot
arrives and puts 0 back into the cache, and setting 0 again is taken for a repetition. -/
def staleSnapshotRun : List (VariableEvent ℚ) :=
  [.setClient 0 1 [110] [0] [true], .applyWrite, .takeSnapshot ⟨[(1, [⟨[110], [0], 1⟩])]⟩,
    .setClient 1 1 [110] [1] [true], .deliverSnapshot, .setClient 1 1 [110] [0] [], .applyWrite]

/-- **A stale snapshot loses a write**: the run is over, nothing is in flight or pending, the last
accepted value is 0, and the server holds 1. -/
theorem stale_snapshot_loses_write :
    (∀ event ∈ staleSnapshotRun, event.Carried ∧ event.Spares 1 [110]) ∧
    let s := VariableSystem.run { manager := idleManager, server := fun _ ↦ ∅ } staleSnapshotRun
    s.inFlight = [] ∧ s.snapshots.isEmpty = true ∧
      s.manager.clientSide.pending[clientKey 1 [110]]? = none ∧
      s.lastIntentOf (clientKey 1 [110]) = some [0] ∧
      (s.server 1)[([110] : Bytes)]? = some [1] := by
  refine ⟨?_, by decide +kernel, by decide +kernel, by decide +kernel, by decide +kernel,
    by decide +kernel⟩
  simp only [staleSnapshotRun, List.mem_cons, List.not_mem_nil, or_false]
  rintro event (rfl | rfl | rfl | rfl | rfl | rfl | rfl)
  · exact ⟨carried_n 1 0, trivial⟩
  · exact ⟨trivial, trivial⟩
  · exact ⟨trivial, trivial⟩
  · exact ⟨carried_n 1 1, trivial⟩
  · exact ⟨trivial, trivial⟩
  · exact ⟨carried_n 1 0, trivial⟩
  · exact ⟨trivial, trivial⟩

end StylyNetSync
