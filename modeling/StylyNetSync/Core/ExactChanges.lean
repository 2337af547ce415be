import Mathlib.Data.List.Induction
import StylyNetSync.Core.EventReplay
import StylyNetSync.Foundation.History

/-!
# The announced changes are the exact difference

`handle_global_sync`, `handle_client_sync` and `clear_my_client_variables` each leave the cached
variables as the authority says and append a list of changes. Applied in order to the old contents
the list gives the new ones; each change carries the value that was there just before it, and each
of them changes something.

The changes of one block concern different names, so that being exact when the block begins is
being exact when its turn comes (`along_of_nodup`). Blocks follow one another, and so do the entries
of a global sync.
-/

namespace StylyNetSync

/-! ### Exact changes -/

namespace VariableChange

/-- The change carries the value that was there before it, and changes something. -/
structure ExactFor (known : Variables) (change : VariableChange) : Prop where
  hadOldValue : change.hadOldValue = (known[change.name]?).isSome
  oldValue : change.oldValue = (known[change.name]?).getD []
  effective : change.applyTo known ≠ known

theorem get?_applyTo (known : Variables) (change : VariableChange) (name : Bytes) :
    (change.applyTo known)[name]? =
      if change.name = name then if change.removed then none else some change.newValue
      else known[name]? := by
  rw [applyTo]
  split
  · rw [OrderedMap.get?_erase]
  · rw [OrderedMap.get?_insert]

/-- A change is a no-op exactly if its name stays what it is. -/
theorem applyTo_ne_iff {known : Variables} {change : VariableChange} :
    change.applyTo known ≠ known ↔
      known[change.name]? ≠ if change.removed then none else some change.newValue := by
  refine not_congr ⟨fun h ↦ ?_, fun h ↦ ?_⟩
  · conv_lhs => rw [← h]
    rw [get?_applyTo, if_pos rfl]
  · refine Std.ExtTreeMap.ext_getElem? fun name ↦ ?_
    rw [get?_applyTo]
    split
    · next hname =>
      rw [← hname]
      exact h.symm
    · rfl

/-- Whether a change is exact depends on its own name only. -/
theorem ExactFor.congr {known known' : Variables} {change : VariableChange}
    (h : change.ExactFor known) (hsame : known'[change.name]? = known[change.name]?) :
    change.ExactFor known' where
  hadOldValue := by rw [hsame, h.hadOldValue]
  oldValue := by rw [hsame, h.oldValue]
  effective := by
    rw [applyTo_ne_iff, hsame]
    exact applyTo_ne_iff.mp h.effective

/-- **Changes of different names** that are all exact at the start are exact one after the other. -/
theorem along_of_nodup {known : Variables} {changes : List VariableChange}
    (hnodup : (changes.map name).Nodup) (h : ∀ change ∈ changes, change.ExactFor known) :
    Along applyTo (fun known change ↦ change.ExactFor known) known changes := by
  induction changes generalizing known with
  | nil => trivial
  | cons change changes ih =>
    rw [List.map_cons, List.nodup_cons] at hnodup
    refine ⟨h change List.mem_cons_self, ih hnodup.2 fun change' hchange' ↦ ?_⟩
    refine (h change' (List.mem_cons_of_mem _ hchange')).congr ?_
    rw [get?_applyTo, if_neg]
    intro hname
    rw [hname] at hnodup
    exact hnodup.1 (List.mem_map_of_mem hchange')

/-- What a change makes of the variables of all clients. -/
def applyToClients (clients : ℤ → Variables) (change : VariableChange) : ℤ → Variables :=
  Function.update clients change.clientNo (change.applyTo (clients change.clientNo))

/-- Changes of one client. -/
theorem along_clients (clients : ℤ → Variables) {clientNo : ℤ} {changes : List VariableChange}
    (hno : ∀ change ∈ changes, change.clientNo = clientNo)
    (h : Along applyTo (fun known change ↦ change.ExactFor known) (clients clientNo) changes) :
    Along applyToClients (fun clients change ↦ change.ExactFor (clients change.clientNo)) clients
        changes ∧
      changes.foldl applyToClients clients =
        Function.update clients clientNo (applyChanges (clients clientNo) changes) := by
  induction changes generalizing clients with
  | nil => exact ⟨trivial, (Function.update_eq_self clientNo clients).symm⟩
  | cons change changes ih =>
    obtain rfl := hno change List.mem_cons_self
    obtain ⟨hexact, hrest⟩ := h
    have hhere : applyToClients clients change change.clientNo =
        change.applyTo (clients change.clientNo) := Function.update_self _ _ _
    rw [← hhere] at hrest
    obtain ⟨halong, hfold⟩ :=
      ih _ (fun change' hchange' ↦ hno change' (List.mem_cons_of_mem _ hchange')) hrest
    refine ⟨⟨hexact, halong⟩, ?_⟩
    rw [List.foldl_cons, hfold, hhere, applyToClients, Function.update_idem]
    rfl

end VariableChange

namespace NetworkVariableManager

variable {D : Type}

/-! ### A block -/

theorem nodup_names_announced (clientNo : ℤ) (old next : Variables) :
    ((announced clientNo old next).map VariableChange.name).Nodup := by
  have hlacking : ((old.toList.filter fun entry ↦ entry.1 ∉ next).map Prod.fst).Nodup :=
    (OrderedMap.nodup_keys_toList old).sublist (List.filter_sublist.map _)
  have hfresh : ((next.toList.filter fun entry ↦ old[entry.1]? ≠ some entry.2).map
      Prod.fst).Nodup :=
    (OrderedMap.nodup_keys_toList next).sublist (List.filter_sublist.map _)
  rw [announced, List.map_append, List.map_map, List.map_map]
  refine List.Nodup.append hlacking hfresh fun name hold hnew ↦ ?_
  obtain ⟨entry, hentry, rfl⟩ := List.mem_map.mp hold
  obtain ⟨entry', hentry', heq⟩ := List.mem_map.mp hnew
  have hnext := (List.mem_filter.mp hentry).2
  simp only [decide_eq_true_eq] at hnext
  refine hnext (OrderedMap.mem_keys_toList.mp ?_)
  exact List.mem_map.mpr ⟨entry', List.mem_of_mem_filter hentry', heq⟩

/-- Each change of a block is exact when the block begins. -/
theorem exactFor_announced {clientNo : ℤ} {old next : Variables} {change : VariableChange}
    (h : change ∈ announced clientNo old next) : change.ExactFor old := by
  rcases List.mem_append.mp h with h | h
  · obtain ⟨entry, hentry, rfl⟩ := List.mem_map.mp h
    have hold : old[entry.1]? = some entry.2 :=
      Std.ExtTreeMap.mem_toList_iff_getElem?_eq_some.mp (List.mem_of_mem_filter hentry)
    refine ⟨?_, ?_, VariableChange.applyTo_ne_iff.mpr ?_⟩
    · show true = (old[entry.1]?).isSome
      rw [hold]
      rfl
    · show entry.2 = (old[entry.1]?).getD []
      rw [hold]
      rfl
    · show old[entry.1]? ≠ none
      rw [hold]
      exact Option.some_ne_none _
  · obtain ⟨entry, hentry, rfl⟩ := List.mem_map.mp h
    have hfresh := (List.mem_filter.mp hentry).2
    simp only [decide_eq_true_eq] at hfresh
    exact ⟨rfl, rfl, VariableChange.applyTo_ne_iff.mpr hfresh⟩

/-- **The changes of a block** are exact one after the other. -/
theorem along_announced (clientNo : ℤ) (old next : Variables) :
    Along VariableChange.applyTo (fun known change ↦ change.ExactFor known) old
      (announced clientNo old next) :=
  VariableChange.along_of_nodup (nodup_names_announced clientNo old next) fun _ ↦
    exactFor_announced

/-! ### What the authority says -/

/-- The value that a list of entries gives a name: that of the last one, and none if the name is
empty. -/
def told (name : Bytes) (entries : List NetworkVariableEntry) : Option Bytes :=
  lastSome (fun entry ↦ if entry.name = name ∧ entry.name ≠ [] then some entry.value else none)
    entries

theorem told_concat (name : Bytes) (entries : List NetworkVariableEntry)
    (entry : NetworkVariableEntry) :
    told name (entries ++ [entry]) =
      if entry.name = name ∧ entry.name ≠ [] then some entry.value else told name entries := by
  rw [told, lastSome_concat]
  split
  · rfl
  · rfl

/-- The variables of a block are what it tells. -/
theorem get?_snapshotOf (entries : List NetworkVariableEntry) (name : Bytes) :
    (snapshotOf entries)[name]? = told name entries := by
  induction entries using List.reverseRecOn with
  | nil => exact Std.ExtTreeMap.getElem?_empty
  | append_singleton entries entry ih =>
    rw [told_concat, ← ih, snapshotOf, List.foldl_append, List.foldl_cons, List.foldl_nil]
    by_cases hempty : entry.name = []
    · rw [if_pos (List.isEmpty_iff.mpr hempty), if_neg fun h ↦ h.2 hempty]
      rfl
    · rw [if_neg (mt List.isEmpty_iff.mp hempty), OrderedMap.get?_insert]
      exact if_congr (and_iff_left hempty).symm rfl rfl

/-- The variables that a client sync gives a client: those of its last block. -/
def toldOf (clientNo : ℤ) (blocks : List (UInt16 × List NetworkVariableEntry)) :
    Option Variables :=
  lastSome (fun block ↦ if (block.1.toNat : ℤ) = clientNo then some (snapshotOf block.2) else none)
    blocks

/-! ### The three handlers -/

/-- A global sync leaves the globals as it tells, and announces exactly the difference. -/
structure GlobalSyncExact (message : GlobalVarSyncMessage) (m : NetworkVariableManager D) :
    Prop where
  globals : ∀ name, (m.handleGlobalSync message).1.globals[name]? =
    (told name message.vars).or m.globals[name]?
  clients : (m.handleGlobalSync message).1.clientVariables = m.clientVariables
  global : ∀ change ∈ (m.handleGlobalSync message).2, change.clientNo = 0
  exact : Along VariableChange.applyTo (fun known change ↦ change.ExactFor known) m.globals
    (m.handleGlobalSync message).2
  applied : applyChanges m.globals (m.handleGlobalSync message).2 =
    (m.handleGlobalSync message).1.globals

/-- A client sync leaves each client that it names as its last block tells, and announces exactly
the difference. -/
structure ClientSyncExact (message : ClientVarSyncMessage) (m : NetworkVariableManager D) :
    Prop where
  clients : ∀ clientNo : ℤ, (m.handleClientSync message).1.clientVariables[clientNo]? =
    (toldOf clientNo message.clients).or m.clientVariables[clientNo]?
  names : ∀ block ∈ message.clients, ∀ name,
    (snapshotOf block.2)[name]? = told name block.2
  globals : (m.handleClientSync message).1.globals = m.globals
  exact : Along VariableChange.applyToClients
    (fun clients change ↦ change.ExactFor (clients change.clientNo)) m.allClientVariables
    (m.handleClientSync message).2
  applied : (m.handleClientSync message).2.foldl VariableChange.applyToClients
    m.allClientVariables = (m.handleClientSync message).1.allClientVariables

/-- A clear that was accepted empties the local client and nobody else; one that was not changes
nothing. The difference is announced exactly. -/
structure ClearExact {ω : Type} (callbacks : Callbacks ω) (w : ω) (m : NetworkVariableManager D) :
    Prop where
  accepted : (m.clearMyClientVariables callbacks w).1 = true →
    (m.clearMyClientVariables callbacks w).2.2.1.allClientVariables m.localClientNo = ∅
  refused : (m.clearMyClientVariables callbacks w).1 = false →
    (m.clearMyClientVariables callbacks w).2.2.1 = m
  others : ∀ clientNo : ℤ, clientNo ≠ m.localClientNo →
    (m.clearMyClientVariables callbacks w).2.2.1.clientVariables[clientNo]? =
      m.clientVariables[clientNo]?
  globals : (m.clearMyClientVariables callbacks w).2.2.1.globals = m.globals
  exact : Along VariableChange.applyToClients
    (fun clients change ↦ change.ExactFor (clients change.clientNo)) m.allClientVariables
    (m.clearMyClientVariables callbacks w).2.1
  applied : (m.clearMyClientVariables callbacks w).2.1.foldl VariableChange.applyToClients
    m.allClientVariables = (m.clearMyClientVariables callbacks w).2.2.1.allClientVariables

/-- The change that an entry of a global sync announces. -/
def globalChange (known : Variables) (entry : NetworkVariableEntry) : VariableChange :=
  { clientNo := 0, name := entry.name, hadOldValue := (known[entry.name]?).isSome,
    oldValue := (known[entry.name]?).getD [], newValue := entry.value }

/-- **What an entry of a global sync can do**: nothing, or set its name and announce it. -/
theorem handleGlobalEntry_cases (m : NetworkVariableManager D) (changes : List VariableChange)
    (entry : NetworkVariableEntry) :
    ((entry.name = [] ∨ entry.name ≠ [] ∧ m.globals[entry.name]? = some entry.value) ∧
      (handleGlobalEntry (m, changes) entry).1.globals = m.globals ∧
      (handleGlobalEntry (m, changes) entry).2 = changes) ∨
    (entry.name ≠ [] ∧ m.globals[entry.name]? ≠ some entry.value ∧
      (handleGlobalEntry (m, changes) entry).1.globals =
        m.globals.insert entry.name entry.value ∧
      (handleGlobalEntry (m, changes) entry).2 =
        changes ++ [globalChange m.globals entry]) := by
  rw [handleGlobalEntry]
  dsimp only
  split_ifs with hempty hsame
  · exact Or.inl ⟨Or.inl (List.isEmpty_iff.mp hempty), rfl, rfl⟩
  · exact Or.inl ⟨Or.inr ⟨mt List.isEmpty_iff.mpr hempty, hsame⟩, rfl, rfl⟩
  · exact Or.inr ⟨mt List.isEmpty_iff.mpr hempty, hsame, rfl, rfl⟩

/-- Entry by entry, the globals are what the entries tell. -/
theorem get?_globals_foldl (m : NetworkVariableManager D) (changes : List VariableChange)
    (entries : List NetworkVariableEntry) (name : Bytes) :
    (entries.foldl handleGlobalEntry (m, changes)).1.globals[name]? =
      (told name entries).or m.globals[name]? := by
  induction entries using List.reverseRecOn with
  | nil => rfl
  | append_singleton entries entry ih =>
    rcases hloop : entries.foldl handleGlobalEntry (m, changes) with ⟨m', changes'⟩
    rw [hloop] at ih
    rw [List.foldl_append, hloop, List.foldl_cons, List.foldl_nil, told_concat]
    obtain ⟨hsame, hglobals, -⟩ | ⟨hname, -, hglobals, -⟩ :=
      handleGlobalEntry_cases m' changes' entry
    · rw [hglobals]
      split
      · next hentry =>
        obtain ⟨rfl, hne⟩ := hentry
        rw [hsame.resolve_left hne |>.2]
        rfl
      · exact ih
    · rw [hglobals, OrderedMap.get?_insert]
      by_cases heq : entry.name = name
      · rw [if_pos heq, if_pos ⟨heq, hname⟩]
        rfl
      · rw [if_neg heq, if_neg fun h ↦ heq h.1]
        exact ih

theorem globalSyncExact (message : GlobalVarSyncMessage) (m : NetworkVariableManager D) :
    m.GlobalSyncExact message := by
  have hclients := (handleGlobalSync_announced message m).2
  -- the changes so far give the globals so far, so the next one starts from those
  have hexact : applyChanges m.globals (m.handleGlobalSync message).2 =
        (m.handleGlobalSync message).1.globals ∧
      (∀ change ∈ (m.handleGlobalSync message).2, change.clientNo = 0) ∧
      Along VariableChange.applyTo (fun known change ↦ change.ExactFor known) m.globals
        (m.handleGlobalSync message).2 := by
    rw [handleGlobalSync]
    refine List.foldlRecOn
      (motive := fun acc : NetworkVariableManager D × List VariableChange ↦
        applyChanges m.globals acc.2 = acc.1.globals ∧ (∀ change ∈ acc.2, change.clientNo = 0) ∧
          Along VariableChange.applyTo (fun known change ↦ change.ExactFor known) m.globals acc.2)
      message.vars handleGlobalEntry ⟨rfl, fun _ h ↦ absurd h List.not_mem_nil, trivial⟩ ?_
    rintro ⟨m', changes⟩ ⟨hglobals, hnumber, halong⟩ entry -
    obtain ⟨-, hsame, hnone⟩ | ⟨-, hdiffers, hinsert, hchange⟩ :=
      handleGlobalEntry_cases m' changes entry
    · rw [hsame, hnone]
      exact ⟨hglobals, hnumber, halong⟩
    · rw [hinsert, hchange, applyChanges_append, hglobals]
      refine ⟨rfl, fun change hmem ↦ ?_, halong.append ⟨?_, trivial⟩⟩
      · rcases List.mem_append.mp hmem with hmem | hmem
        · exact hnumber change hmem
        · rw [List.mem_singleton.mp hmem]
          rfl
      · show VariableChange.ExactFor (applyChanges m.globals changes) _
        rw [hglobals]
        exact ⟨rfl, rfl, VariableChange.applyTo_ne_iff.mpr hdiffers⟩
  exact ⟨get?_globals_foldl _ _ _, hclients, hexact.2.1, hexact.2.2, hexact.1⟩

/-- Block by block, each client has the variables of its last block. -/
theorem get?_clientVariables_foldl (m : NetworkVariableManager D) (changes : List VariableChange)
    (blocks : List (UInt16 × List NetworkVariableEntry)) (clientNo : ℤ) :
    (blocks.foldl handleClientBlock (m, changes)).1.clientVariables[clientNo]? =
      (toldOf clientNo blocks).or m.clientVariables[clientNo]? := by
  induction blocks using List.reverseRecOn with
  | nil => rfl
  | append_singleton blocks block ih =>
    rcases hloop : blocks.foldl handleClientBlock (m, changes) with ⟨m', changes'⟩
    rw [hloop] at ih
    rw [List.foldl_append, hloop, List.foldl_cons, List.foldl_nil, toldOf, lastSome_concat]
    show (m'.clientVariables.insert (block.1.toNat : ℤ) (snapshotOf block.2))[clientNo]? = _
    rw [OrderedMap.get?_insert]
    split
    · rfl
    · exact ih

theorem clientSyncExact (message : ClientVarSyncMessage) (m : NetworkVariableManager D) :
    m.ClientSyncExact message := by
  have hexact : (m.handleClientSync message).2.foldl VariableChange.applyToClients
        m.allClientVariables = (m.handleClientSync message).1.allClientVariables ∧
      (m.handleClientSync message).1.globals = m.globals ∧
      Along VariableChange.applyToClients
        (fun clients change ↦ change.ExactFor (clients change.clientNo)) m.allClientVariables
        (m.handleClientSync message).2 := by
    rw [handleClientSync]
    refine List.foldlRecOn
      (motive := fun acc : NetworkVariableManager D × List VariableChange ↦
        acc.2.foldl VariableChange.applyToClients m.allClientVariables =
            acc.1.allClientVariables ∧ acc.1.globals = m.globals ∧
          Along VariableChange.applyToClients
            (fun clients change ↦ change.ExactFor (clients change.clientNo))
            m.allClientVariables acc.2)
      message.clients handleClientBlock ⟨rfl, rfl, trivial⟩ ?_
    rintro ⟨m', changes⟩ ⟨hclients, hglobals, halong⟩ block -
    dsimp only at hclients hglobals halong
    obtain ⟨hblock, hfold⟩ := VariableChange.along_clients m'.allClientVariables
      (fun change ↦ clientNo_of_mem_announced)
      (along_announced block.1.toNat (m'.allClientVariables block.1.toNat) (snapshotOf block.2))
    rw [handleClientBlock_changes, List.foldl_append, hclients]
    refine ⟨?_, hglobals, halong.append (by rwa [hclients])⟩
    rw [hfold, applyChanges_announced]
    funext clientNo
    rw [Function.update_apply]
    split_ifs with hno
    · rw [hno, allClientVariables_handleClientBlock]
    · exact (handleClientBlock_other m' changes block (k := ⟨clientNo, []⟩) (Ne.symm hno)).2.symm
  exact ⟨get?_clientVariables_foldl _ _ _, fun block _ ↦ get?_snapshotOf block.2, hexact.2.1,
    hexact.2.2, hexact.1⟩

/-- A clear announces what an empty block would. -/
theorem removals_eq_announced (clientNo : ℤ) (known : Variables) :
    removals clientNo known = announced clientNo known ∅ := by
  have hlacking : (known.toList.filter fun entry ↦ entry.1 ∉ (∅ : Variables)) = known.toList :=
    List.filter_eq_self.mpr fun entry _ ↦ decide_eq_true Std.ExtTreeMap.not_mem_empty
  have hempty : (∅ : Variables).toList = [] := rfl
  rw [announced, hlacking, hempty, List.filter_nil, List.map_nil, List.append_nil]
  rfl

/-- **What a clear can do**: nothing, or empty the local client, of which something was heard or
nothing. -/
theorem clearMyClientVariables_result {ω : Type} (callbacks : Callbacks ω) (w : ω)
    (m : NetworkVariableManager D) : ∃ w',
    m.clearMyClientVariables callbacks w = (false, [], m, w') ∨
    (m.clientVariables[m.localClientNo]? = none ∧
      m.clearMyClientVariables callbacks w =
        (true, [], m.clearPendingForClient m.localClientNo, w')) ∨
    ∃ known, m.clientVariables[m.localClientNo]? = some known ∧
      m.clearMyClientVariables callbacks w =
        (true, removals m.localClientNo known,
          ({ m with clientVariables := m.clientVariables.insert m.localClientNo ∅ } :
            NetworkVariableManager D).clearPendingForClient m.localClientNo, w') := by
  rw [clearMyClientVariables]
  split
  · exact ⟨w, Or.inl rfl⟩
  · dsimp only
    rcases callbacks.trySend (.clientVarClear
      { senderClientNo := clientNoOnWire m.localClientNo, deviceId := m.localDeviceId }) w
      with ⟨- | -, w'⟩
    · exact ⟨w', Or.inl rfl⟩
    · rcases hknown : m.clientVariables[m.localClientNo]? with - | known
      · exact ⟨w', Or.inr (Or.inl ⟨rfl, rfl⟩)⟩
      · exact ⟨w', Or.inr (Or.inr ⟨known, rfl, rfl⟩)⟩

theorem clearExact {ω : Type} (callbacks : Callbacks ω) (w : ω) (m : NetworkVariableManager D) :
    m.ClearExact callbacks w := by
  obtain ⟨w', heq | ⟨hnone, heq⟩ | ⟨known, hknown, heq⟩⟩ :=
    m.clearMyClientVariables_result callbacks w
  · constructor <;> rw [heq]
    · exact fun h ↦ absurd h Bool.false_ne_true
    · exact fun _ ↦ rfl
    · exact fun _ _ ↦ rfl
    · trivial
    · rfl
  · have hempty : m.allClientVariables m.localClientNo = ∅ := by
      rw [allClientVariables, hnone]
      rfl
    constructor <;> rw [heq]
    · exact fun _ ↦ hempty
    · exact fun h ↦ absurd h.symm Bool.false_ne_true
    · exact fun _ _ ↦ rfl
    · rfl
    · trivial
    · rfl
  · have hcached : m.allClientVariables m.localClientNo = known := by
      rw [allClientVariables, hknown]
      rfl
    obtain ⟨halong, hfold⟩ := VariableChange.along_clients m.allClientVariables
      (fun change ↦ clientNo_of_mem_announced)
      (along_announced m.localClientNo (m.allClientVariables m.localClientNo) ∅)
    rw [applyChanges_announced] at hfold
    rw [hcached, ← removals_eq_announced] at halong hfold
    have hafter (clientNo : ℤ) :
        (m.clientVariables.insert m.localClientNo ∅)[clientNo]? =
          if m.localClientNo = clientNo then some ∅ else m.clientVariables[clientNo]? :=
      OrderedMap.get?_insert _ _ _ _
    constructor <;> rw [heq]
    · intro _
      show ((m.clientVariables.insert m.localClientNo ∅)[m.localClientNo]?).getD ∅ = ∅
      rw [hafter, if_pos rfl]
      rfl
    · exact fun h ↦ absurd h.symm Bool.false_ne_true
    · intro clientNo hne
      show (m.clientVariables.insert m.localClientNo ∅)[clientNo]? = _
      rw [hafter, if_neg hne.symm]
    · rfl
    · exact halong
    · rw [hfold]
      funext clientNo
      show _ = ((m.clientVariables.insert m.localClientNo ∅)[clientNo]?).getD ∅
      rw [hafter, Function.update_apply]
      split_ifs with hown hother hother
      · rfl
      · exact absurd hown.symm hother
      · exact absurd hother.symm hown
      · rfl

/-- **Reported variable changes are the exact difference.** -/
theorem changes_exact (globalSync : GlobalVarSyncMessage) (clientSync : ClientVarSyncMessage)
    {ω : Type} (callbacks : Callbacks ω) (w : ω) (m : NetworkVariableManager D) :
    m.GlobalSyncExact globalSync ∧ m.ClientSyncExact clientSync ∧ m.ClearExact callbacks w :=
  ⟨m.globalSyncExact globalSync, m.clientSyncExact clientSync, m.clearExact callbacks w⟩

end NetworkVariableManager

end StylyNetSync
