import Mathlib.Data.List.Induction
import StylyNetSync.Core.VariableSystem

/-!
# Writes that are swallowed

Any number of clients write and clear a variable. Once this client's last snapshot block agrees with
the server, a `setClient` of a value the server does not hold should reach the sender or stay
pending; it is swallowed exactly when the dedupe cache names the value. What the cache names is
either the last value this client got accepted and has heard nothing about since (`unheard`), or it
should be what the cached snapshot says (`Heard`).

The second half is where the source falls short. A block that lacks a variable corrects the cache
only if an earlier block had it. A variable that was written, applied and cleared between two
snapshots is in neither, and the cache goes on naming the written value. `ForgetsCleared` is the
condition that no snapshot arrives at such a moment; the other way to be swallowed is to repeat a
value that nothing was heard about, while the server has gone back to what it held before.
-/

namespace StylyNetSync

open SendSide (AgreesAt)
open NetworkVariableManager (handleClientBlock snapshotOf)

variable {D : Type}

/-- The cache names the value of the last snapshot, if that has the variable, and nothing else. -/
def Heard (c : UInt16) (n : Bytes) (m : NetworkVariableManager D) : Prop :=
  m.clientSide.lastSent[clientKey c n]? = (m.allClientVariables c.toNat)[n]?

/-- The cache names what was last accepted, or what was heard since. -/
structure CacheOrigin (c : UInt16) (n : Bytes) (unheard : Option Bytes)
    (m : NetworkVariableManager D) : Prop where
  own : ∀ value, unheard = some value → m.clientSide.lastSent[clientKey c n]? = some value ∨
    m.clientSide.lastSent[clientKey c n]? = none
  heard : unheard = none → Heard c n m

/-- A block that lacks the variable, taken after this client's last write of it had been applied,
finds the variable in the cached snapshot or finds nothing in the dedupe cache. -/
def ForgetsCleared (c : UInt16) (n : Bytes) (s : VariableSystem D) : VariableEvent D → Prop
  | .deliverSnapshot =>
    ∀ snapshot ∈ s.snapshots.head?, s.covers snapshot c n = true →
      ∀ block ∈ snapshot.message.clients, block.1 = c → n ∉ snapshotOf block.2 →
        n ∈ s.manager.allClientVariables c.toNat ∨
          s.manager.clientSide.lastSent[clientKey c n]? = none
  | _ => True

/-! ### Blocks -/

section Blocks

variable {c : UInt16} {n : Bytes} (m : NetworkVariableManager D) (changes : List VariableChange)
  {block : UInt16 × List NetworkVariableEntry}

theorem clientKey_other (hno : block.1 ≠ c) : (block.1.toNat : ℤ) ≠ (clientKey c n).clientNo :=
  fun h ↦ hno (UInt16.toNat_inj.mp (Int.ofNat.inj h))

/-- What a block of the client itself leaves in the two caches. -/
theorem caches_handleClientBlock (hno : block.1 = c) :
    ((handleClientBlock (m, changes) block).1.allClientVariables c.toNat)[n]? =
        (snapshotOf block.2)[n]? ∧
      (handleClientBlock (m, changes) block).1.clientSide.lastSent[clientKey c n]? =
        if n ∈ snapshotOf block.2 then (snapshotOf block.2)[n]?
        else if n ∈ m.allClientVariables c.toNat then none
        else m.clientSide.lastSent[clientKey c n]? := by
  obtain rfl := hno
  refine ⟨by rw [NetworkVariableManager.allClientVariables_handleClientBlock], ?_⟩
  have hmem : n ∈ snapshotOf block.2 ↔ ((snapshotOf block.2)[n]?).isSome = true :=
    Std.ExtTreeMap.mem_iff_isSome_getElem?
  rcases NetworkVariableManager.handleClientBlock_cases m changes block n with
    ⟨value, hvalue, hagrees⟩ | ⟨hlacks, hcached, hagrees⟩ | ⟨hlacks, hcached, hagrees⟩
  · -- present: the cache takes the value of the block
    have hin : n ∈ snapshotOf block.2 := by
      rw [hmem, hvalue]
      rfl
    rw [if_pos hin, hvalue]
    refine hagrees.lastSent.trans ?_
    rw [SendSide.reconcilePresent, SendSide.lastSent_dropRedundant, SendSide.lastSent_recordSent,
      if_pos rfl]
  · -- removed: the cache forgets the variable
    have hout : n ∉ snapshotOf block.2 := by simp [hmem, hlacks]
    rw [if_neg hout, if_pos hcached]
    refine hagrees.lastSent.trans ?_
    rw [SendSide.reconcileRemoved]
    split
    · next hnone => exact hnone
    · rw [SendSide.lastSent_forget, if_pos rfl]
  · -- in neither snapshot: the cache stays as it is
    have hout : n ∉ snapshotOf block.2 := by simp [hmem, hlacks]
    rw [if_neg hout, if_neg hcached]
    exact hagrees.lastSent

/-- Blocks of other clients leave both caches alone. -/
theorem caches_handleClientBlock_other (hno : block.1 ≠ c) :
    (handleClientBlock (m, changes) block).1.allClientVariables c.toNat =
        m.allClientVariables c.toNat ∧
      (handleClientBlock (m, changes) block).1.clientSide.lastSent[clientKey c n]? =
        m.clientSide.lastSent[clientKey c n]? := by
  obtain ⟨hagrees, hcached⟩ := NetworkVariableManager.handleClientBlock_other m changes block
    (clientKey_other (n := n) hno)
  exact ⟨hcached, hagrees.lastSent⟩

/-- Once heard, a variable stays heard. -/
theorem heard_handleClientBlock (h : Heard c n m) :
    Heard c n (handleClientBlock (m, changes) block).1 := by
  by_cases hno : block.1 = c
  · obtain ⟨hcached, hsent⟩ := caches_handleClientBlock (n := n) m changes hno
    show _ = _
    rw [hcached, hsent]
    split
    · rfl
    · next hout =>
      rw [Std.ExtTreeMap.getElem?_eq_none hout]
      split
      · rfl
      · next hcached => exact h.trans (Std.ExtTreeMap.getElem?_eq_none hcached)
  · obtain ⟨hcached, hsent⟩ :=
      caches_handleClientBlock_other (n := n) m changes hno
    show _ = _
    rw [hcached, hsent]
    exact h

/-- A block that tells something about the variable: it has it, or it was taken after this client's
last write had been applied. -/
theorem heard_of_tells (covers : Bool) (hno : block.1 = c)
    (htells : n ∈ snapshotOf block.2 ∨ covers = true)
    (hforgets : covers = true → n ∉ snapshotOf block.2 →
      n ∈ m.allClientVariables c.toNat ∨ m.clientSide.lastSent[clientKey c n]? = none) :
    Heard c n (handleClientBlock (m, changes) block).1 := by
  obtain ⟨hcached, hsent⟩ := caches_handleClientBlock (n := n) m changes hno
  show _ = _
  rw [hcached, hsent]
  split
  · rfl
  · next hout =>
    rw [Std.ExtTreeMap.getElem?_eq_none hout]
    split
    · rfl
    · next hnotCached =>
      have hcovers := htells.resolve_left hout
      exact (hforgets hcovers hout).resolve_left hnotCached

/-- A block that tells nothing leaves the origin of the cached value as it was. -/
theorem cacheOrigin_handleClientBlock {unheard : Option Bytes} (h : CacheOrigin c n unheard m) :
    block.1 ≠ c ∨ n ∉ snapshotOf block.2 →
      CacheOrigin c n unheard (handleClientBlock (m, changes) block).1 := by
  intro hsilent
  refine ⟨fun value hvalue ↦ ?_, fun hnone ↦ heard_handleClientBlock m changes (h.heard hnone)⟩
  by_cases hno : block.1 = c
  · obtain ⟨-, hsent⟩ := caches_handleClientBlock (n := n) m changes hno
    rw [hsent, if_neg (hsilent.resolve_left fun hne ↦ hne hno)]
    split
    · exact Or.inr rfl
    · exact h.own value hvalue
  · rw [(caches_handleClientBlock_other (n := n) m changes hno).2]
    exact h.own value hvalue

end Blocks

/-! ### A whole snapshot -/

section Snapshots

variable {c : UInt16} {n : Bytes}

/-- The cached variables of a client are those of its last block. -/
theorem allClientVariables_blocks (blocks : List (UInt16 × List NetworkVariableEntry))
    (acc : NetworkVariableManager D × List VariableChange) :
    (blocks.foldl handleClientBlock acc).1.allClientVariables c.toNat =
      ((lastSome (fun block ↦ if block.1 = c then some block.2 else none) blocks).map
        snapshotOf).getD (acc.1.allClientVariables c.toNat) := by
  induction blocks using List.reverseRecOn with
  | nil => rfl
  | append_singleton blocks block ih =>
    rw [List.foldl_concat, lastSome_concat]
    by_cases hno : block.1 = c
    · obtain rfl := hno
      rw [if_pos rfl, Option.some_or]
      exact NetworkVariableManager.allClientVariables_handleClientBlock _ _ block
    · rw [if_neg hno, Option.none_or, ← ih]
      exact (caches_handleClientBlock_other (n := []) _ _ hno).1

theorem heard_blocks (blocks : List (UInt16 × List NetworkVariableEntry))
    (acc : NetworkVariableManager D × List VariableChange) (h : Heard c n acc.1) :
    Heard c n (blocks.foldl handleClientBlock acc).1 := by
  induction blocks generalizing acc with
  | nil => exact h
  | cons block rest ih => exact ih _ (heard_handleClientBlock acc.1 acc.2 h)

/-- The blocks of one message, up to the first that tells something about the variable and on from
there. -/
theorem cacheOrigin_blocks {unheard : Option Bytes} (covers : Bool)
    (blocks : List (UInt16 × List NetworkVariableEntry))
    (acc : NetworkVariableManager D × List VariableChange) (h : CacheOrigin c n unheard acc.1)
    (hforgets : covers = true → ∀ block ∈ blocks, block.1 = c → n ∉ snapshotOf block.2 →
      n ∈ acc.1.allClientVariables c.toNat ∨
        acc.1.clientSide.lastSent[clientKey c n]? = none) :
    CacheOrigin c n
      (if blocks.any (fun block ↦ block.1 == c && ((snapshotOf block.2).contains n || covers))
        then none else unheard)
      (blocks.foldl handleClientBlock acc).1 := by
  -- the first telling block settles it: later ones keep `Heard`
  induction blocks generalizing acc with
  | nil => exact h
  | cons block rest ih =>
    rw [List.foldl_cons, List.any_cons]
    by_cases hno : block.1 = c
    · by_cases htells : n ∈ snapshotOf block.2 ∨ covers = true
      · -- told: from here on the cache says what the snapshot says
        have hheard : Heard c n (handleClientBlock acc block).1 :=
          heard_of_tells acc.1 acc.2 covers hno htells
            fun hcovers ↦ hforgets hcovers block List.mem_cons_self hno
        have hany : (block.1 == c && ((snapshotOf block.2).contains n || covers)) = true := by
          simpa [hno] using htells
        rw [hany, Bool.true_or, if_pos rfl]
        exact ⟨by simp, fun _ ↦ heard_blocks rest _ hheard⟩
      · obtain ⟨hout, hstale⟩ := not_or.mp htells
        have hany : (block.1 == c && ((snapshotOf block.2).contains n || covers)) = false := by
          rw [Bool.eq_false_iff]
          simpa [hno] using htells
        rw [hany, Bool.false_or]
        refine ih _ (cacheOrigin_handleClientBlock acc.1 acc.2 h (Or.inr hout)) ?_
        exact fun hcovers ↦ (hstale hcovers).elim
    · have hany : (block.1 == c && ((snapshotOf block.2).contains n || covers)) = false := by
        simp [hno]
      obtain ⟨hcached, hsent⟩ := caches_handleClientBlock_other (n := n) acc.1 acc.2 hno
      rw [hany, Bool.false_or]
      refine ih _ (cacheOrigin_handleClientBlock acc.1 acc.2 h (Or.inl hno)) ?_
      intro hcovers block' hmem
      rw [hcached, hsent]
      exact hforgets hcovers block' (List.mem_cons_of_mem _ hmem)

end Snapshots

/-! ### The invariant of the system -/

structure OriginInv (c : UInt16) (n : Bytes) (s : VariableSystem D) : Prop where
  origin : CacheOrigin c n (s.unheard c n) s.manager
  block : ∀ entries, s.lastBlock c = some entries →
    s.manager.allClientVariables c.toNat = snapshotOf entries
  carried : PendingCarried s.manager.clientSide

/-- The origin of the cached value, as a statement about the send side alone. -/
def SideOrigin (k : ClientKey) (cached : Option Bytes) (side : SendSide ClientKey D)
    (unheard : Option Bytes) : Prop :=
  (∀ value, unheard = some value →
    side.lastSent[k]? = some value ∨ side.lastSent[k]? = none) ∧
  (unheard = none → side.lastSent[k]? = cached)

namespace SideOrigin

variable {k : ClientKey} {cached unheard : Option Bytes} {side side' : SendSide ClientKey D}
  {value : Bytes}

theorem congr (hsent : side'.lastSent[k]? = side.lastSent[k]?)
    (h : SideOrigin k cached side unheard) : SideOrigin k cached side' unheard := by
  rw [SideOrigin, hsent]
  exact h

/-- What was just recorded as sent is what was last accepted. -/
theorem of_recorded (hsent : side.lastSent[k]? = some value) :
    SideOrigin k cached side (some value) :=
  ⟨fun _ hvalue ↦ Or.inl (hsent.trans hvalue), fun hnone ↦ by simp at hnone⟩

theorem flushRule (k : ClientKey) (cached : Option Bytes) :
    FlushRule k (SideOrigin (D := D) k cached) where
  frame hagrees h := h.congr hagrees.lastSent
  cancel _ _ h := h.congr rfl
  send _ _ := of_recorded (by simp)

theorem of_setClient {written : Option Bytes}
    (heffect : SetClientEffect k value side side' written)
    (h : SideOrigin k cached side unheard) : SideOrigin k cached side' (written.or unheard) := by
  cases heffect with
  | dedupe _ hagrees => exact h.congr hagrees.lastSent
  | keep deadline _ hagrees => exact h.congr (hagrees.lastSent.trans (by simp))
  | send deadline _ hagrees => exact of_recorded (hagrees.lastSent.trans (by simp))

end SideOrigin

namespace OriginInv

variable {c : UInt16} {n : Bytes} {s : VariableSystem D}

theorem sideOrigin (h : OriginInv c n s) :
    SideOrigin (clientKey c n) (s.manager.allClientVariables c.toNat)[n]? s.manager.clientSide
      (s.unheard c n) :=
  ⟨h.origin.own, h.origin.heard⟩

/-- A call of the manager leaves the cached snapshots alone. -/
theorem called (h : OriginInv c n s) {m : NetworkVariableManager D} {r : SendRecord}
    {intents : List (ClientKey × Bytes)} (hcarried : PendingCarried m.clientSide)
    (hcached : m.allClientVariables c.toNat = s.manager.allClientVariables c.toNat)
    (horigin : SideOrigin (clientKey c n) (s.manager.allClientVariables c.toNat)[n]? m.clientSide
      ((lastWrite c n (acceptedMessages r.handed)).or (s.unheard c n))) :
    OriginInv c n { s.called m r with intents := intents } := by
  refine ⟨⟨horigin.1, fun hnone ↦ ?_⟩, fun entries hblock ↦ ?_, hcarried⟩
  · show m.clientSide.lastSent[clientKey c n]? = (m.allClientVariables c.toNat)[n]?
    rw [hcached]
    exact horigin.2 hnone
  · exact hcached.trans (h.block entries hblock)

variable [Double D]

theorem setClient (h : OriginInv c n s) {now : D} {target : ℤ} {name value : Bytes}
    {answers : List Bool} (hcarried : CarriedUnchanged ⟨target, name⟩ value) :
    OriginInv c n (s.step (.setClient now target name value answers)) := by
  rcases hcall : s.manager.setClient SendRecord.callbacks now target name value
    { answers := answers } with ⟨ok, m, r⟩
  obtain ⟨-, hpending, hcached, hkey⟩ := setClient_rule (c := c) (n := n) hcarried hcall
  rw [VariableSystem.step, hcall]
  refine h.called (hpending h.carried) (hcached c.toNat) ?_
  rcases hkey with ⟨-, -, heffect⟩ | ⟨-, hagrees, hwrite⟩
  · exact SideOrigin.of_setClient heffect h.sideOrigin
  · rw [hwrite, Option.none_or]
    exact h.sideOrigin.congr hagrees.lastSent

theorem tick (h : OriginInv c n s) (now : D) (answers : List Bool) :
    OriginInv c n (s.step (.tick now answers)) := by
  rcases hcall : s.manager.tick SendRecord.callbacks now { answers := answers } with ⟨ok, m, r⟩
  obtain ⟨hcarried, -, horigin⟩ :=
    tick_rule (SideOrigin.flushRule (clientKey c n) _) h.carried hcall h.sideOrigin
  obtain ⟨_, _, globalSide, clientSide, _, -, -, rfl⟩ := NetworkVariableManager.tick_cases hcall
  rw [VariableSystem.step, hcall]
  exact h.called hcarried rfl horigin

theorem deliverSnapshot (h : OriginInv c n s) (hforgets : ForgetsCleared c n s .deliverSnapshot) :
    OriginInv c n (s.step .deliverSnapshot) := by
  rw [VariableSystem.step]
  rcases hnext : s.snapshots with - | ⟨snapshot, rest⟩
  · exact h
  · have hhead : snapshot ∈ s.snapshots.head? := by simp [hnext]
    refine ⟨?_, fun entries hblock ↦ ?_, ?_⟩
    · exact cacheOrigin_blocks (s.covers snapshot c n) snapshot.message.clients _
        ⟨h.origin.own, h.origin.heard⟩ (hforgets snapshot hhead)
    · change (lastSome (fun block ↦ if block.1 = c then some block.2 else none)
        snapshot.message.clients).or (s.lastBlock c) = some entries at hblock
      refine (allClientVariables_blocks snapshot.message.clients _).trans ?_
      rcases hlast : lastSome (fun block ↦ if block.1 = c then some block.2 else none)
          snapshot.message.clients with - | last
      · rw [hlast, Option.none_or] at hblock
        rw [hlast]
        exact h.block entries hblock
      · rw [hlast, Option.some_or, Option.some.injEq] at hblock
        rw [hlast, hblock]
        rfl
    · refine NetworkVariableManager.handleClientSync_induct
        (P := fun m ↦ PendingCarried m.clientSide) ?_ h.carried
      intro m changes block _ hcarried key value hvalue
      exact hcarried key value
        (NetworkVariableManager.pending_of_handleClientBlock m changes block hvalue)

/-- **One event keeps the invariant**, unless it is a snapshot that fails to clear the cache. -/
theorem step (h : OriginInv c n s) {event : VariableEvent D} (hcarried : event.Carried)
    (hforgets : ForgetsCleared c n s event) : OriginInv c n (s.step event) := by
  cases event with
  | setClient now target name value answers => exact h.setClient hcarried
  | tick now answers => exact h.tick now answers
  | applyWrite =>
    rw [VariableSystem.step]
    split <;> exact ⟨h.origin, h.block, h.carried⟩
  | otherWrite target name value => exact ⟨h.origin, h.block, h.carried⟩
  | otherClear client => exact ⟨h.origin, h.block, h.carried⟩
  | takeSnapshot message =>
    rw [VariableSystem.step]
    split <;> exact ⟨h.origin, h.block, h.carried⟩
  | deliverSnapshot => exact h.deliverSnapshot hforgets

end OriginInv

/-- Nothing is in flight, nothing is pending, and the last block received for the client equals the
server's current variables of it. -/
structure Synced (c : UInt16) (s : VariableSystem D) : Prop where
  inFlight : s.inFlight = []
  snapshots : s.snapshots = []
  pending : s.manager.clientSide.pending = ∅
  block : ∃ entries, s.lastBlock c = some entries ∧ snapshotOf entries = s.server c

/-- What becomes of a value that is set: it is handed to the sender or stays pending. -/
def NotSwallowed (c : UInt16) (n value : Bytes) (m : NetworkVariableManager D) (r : SendRecord) :
    Prop :=
  (∃ entry ∈ r.handed, writesTo c n entry.1 = some value) ∨
    m.clientSide.pending[clientKey c n]? = some value

/-- **No write is swallowed**, in a run whose snapshots clear the cache, unless it repeats the value
this client wrote last and has heard nothing about since. -/
theorem write_not_swallowed [Double D] {m : NetworkVariableManager D} (hm : m.clientSide = {})
    (hcached : m.clientVariables = ∅) (server : ServerVariables) (c : UInt16) (n : Bytes)
    (events : List (VariableEvent D)) (hcarried : ∀ event ∈ events, event.Carried)
    (hforgets : Along VariableSystem.step (ForgetsCleared c n)
      { manager := m, server := server } events) :
    let s := VariableSystem.run { manager := m, server := server } events
    Synced c s → ∀ now value answers m' r, CarriedUnchanged (clientKey c n) value →
      (s.server c)[n]? ≠ some value → s.unheard c n ≠ some value →
      s.manager.setClient SendRecord.callbacks now c.toNat n value { answers := answers } =
        (true, m', r) → NotSwallowed c n value m' r := by
  intro s hsynced now value answers m' r hvalue hserver hunheard hcall
  have hinit : OriginInv c n ({ manager := m, server := server } : VariableSystem D) := by
    refine ⟨⟨by simp, fun _ ↦ ?_⟩, by simp, by simp [PendingCarried, hm]⟩
    simp [Heard, hm, hcached, NetworkVariableManager.allClientVariables]
  have hinv : OriginInv c n s := (hforgets.and_forall hcarried).invariant
    (fun _ _ hs hcond ↦ hs.step hcond.2 hcond.1) hinit
  have hsent : s.manager.clientSide.lastSent[clientKey c n]? ≠ some value := by
    intro hsent
    rcases hown : s.unheard c n with - | own
    · -- heard: the cache agrees with the last block, and so with the server
      obtain ⟨entries, hblock, hequal⟩ := hsynced.block
      have hheard := hinv.origin.heard hown
      rw [Heard, hinv.block entries hblock, hequal, hsent] at hheard
      exact hserver hheard.symm
    · -- not heard: the cache names the value of that write or nothing
      rcases hinv.origin.own own hown with hcache | hcache
      · rw [hcache] at hsent
        exact hunheard (hown.trans hsent)
      · simp [hcache] at hsent
  -- without the dedupe the value is at least left pending
  obtain ⟨-, -, -, hkey⟩ := setClient_rule (c := c) (n := n) hvalue hcall
  rcases hkey with ⟨-, -, heffect⟩ | ⟨hkey, -⟩
  · generalize lastWrite c n (acceptedMessages r.handed) = written at heffect
    rcases heffect with ⟨hdedupe, -⟩ | ⟨deadline, -, hagrees⟩ | ⟨deadline, -, hagrees⟩
    · exact (hsent hdedupe).elim
    · exact Or.inr (hagrees.pending.trans (by simp))
    · exact Or.inr (hagrees.pending.trans (by simp))
  · exact (hkey rfl rfl).elim

/-- Client 2 sets its variable to 1, and this client hears of it. -/
def heardRun : List (VariableEvent ℚ) :=
  [.otherWrite 2 [110] [1], .takeSnapshot ⟨[(2, [⟨[110], [1], 2⟩])]⟩, .deliverSnapshot]

theorem write_not_swallowed_heard :
    let s := VariableSystem.run { manager := idleManager, server := fun _ ↦ ∅ } heardRun
    let call := s.manager.setClient SendRecord.callbacks 0 2 [110] [5] { answers := [true] }
    NotSwallowed 2 [110] [5] call.2.1 call.2.2 := by
  intro s call
  have hforgets : Along VariableSystem.step (ForgetsCleared 2 [110])
      ({ manager := idleManager, server := fun _ ↦ ∅ } : VariableSystem ℚ) heardRun := by
    refine ⟨trivial, trivial, fun snapshot _ _ block _ _ _ ↦ Or.inr ?_, trivial⟩
    decide +kernel
  refine write_not_swallowed rfl rfl (fun _ ↦ ∅) 2 [110] heardRun ?_ hforgets
    ⟨rfl, rfl, ?_, ⟨_, rfl, rfl⟩⟩ 0 [5] [true] _ _ (carried_n 2 5) (by decide +kernel)
    (by decide +kernel) ?_
  · simp only [heardRun, List.mem_cons, List.not_mem_nil, or_false]
    rintro event (rfl | rfl | rfl) <;> trivial
  · exact Std.ExtTreeMap.isEmpty_iff.mp (by decide +kernel)
  · have hok : call.1 = true := by decide +kernel
    exact Prod.ext hok rfl

/-- This client sets a variable of client 2, the server applies it, client 2 clears its variables,
and one snapshot tells this client the outcome. -/
def clearedRun : List (VariableEvent ℚ) :=
  [.setClient 0 2 [110] [1] [true], .applyWrite, .otherClear 2, .takeSnapshot ⟨[(2, [])]⟩,
    .deliverSnapshot, .tick 1 []]

/-- **A cleared variable cannot be set again**: everything has settled, the server does not have the
variable, and setting it once more is taken for a repetition. -/
theorem cleared_write_swallowed :
    (∀ event ∈ clearedRun, event.Carried) ∧ CarriedUnchanged (clientKey 2 [110]) [1] ∧
    let s := VariableSystem.run { manager := idleManager, server := fun _ ↦ ∅ } clearedRun
    let call := s.manager.setClient SendRecord.callbacks 2 2 [110] [1] { answers := [true] }
    Synced 2 s ∧ (s.server 2)[([110] : Bytes)]? = none ∧ call.1 = true ∧
      ¬NotSwallowed 2 [110] [1] call.2.1 call.2.2 := by
  refine ⟨?_, carried_n 2 1, ⟨by decide +kernel, by decide +kernel, ?_, [], ?_, rfl⟩,
    by decide +kernel, by decide +kernel, ?_⟩
  · simp only [clearedRun, List.mem_cons, List.not_mem_nil, or_false]
    rintro event (rfl | rfl | rfl | rfl | rfl | rfl)
    · exact carried_n 2 1
    all_goals trivial
  · exact Std.ExtTreeMap.isEmpty_iff.mp (by decide +kernel)
  · rfl
  · rw [NotSwallowed, not_or]
    have hhanded : ((VariableSystem.run { manager := idleManager, server := fun _ ↦ ∅ }
        clearedRun).manager.setClient SendRecord.callbacks 2 2 [110] [1]
        { answers := [true] }).2.2.handed = [] := by decide +kernel
    refine ⟨?_, by decide +kernel⟩
    rintro ⟨entry, hentry, -⟩
    rw [hhanded] at hentry
    exact List.not_mem_nil hentry

end StylyNetSync
