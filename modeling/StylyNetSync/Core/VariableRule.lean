import StylyNetSync.Core.SnapshotBlock

/-!
# A rule for the send side of the variables

What the variable manager does to its dedupe caches and to the world behind its callbacks comes down
to few things: entries of the caches are forgotten, a message is refused, or a message is accepted
and its value recorded. A statement about the two caches and the world that survives each of these
survives every call of the manager that sends.
-/

namespace StylyNetSync

variable {D ω : Type} {callbacks : Callbacks ω}

section Forgets

variable {K : Type} [Ord K] [Std.TransOrd K]

/-- Whatever the second cache names, the first names too. -/
def Forgets (side side' : SendSide K D) : Prop :=
  ∀ (key : K) (value : Bytes), side'.lastSent[key]? = some value →
    side.lastSent[key]? = some value

theorem Forgets.refl (side : SendSide K D) : Forgets side side := fun _ _ h ↦ h

theorem Forgets.trans {s₁ s₂ s₃ : SendSide K D} (h₁ : Forgets s₁ s₂) (h₂ : Forgets s₂ s₃) :
    Forgets s₁ s₃ :=
  fun key value h ↦ h₁ key value (h₂ key value h)

end Forgets

/-- What a statement about the caches and the world has to survive. -/
structure VariableRule (callbacks : Callbacks ω)
    (G : SendSide Bytes D → SendSide ClientKey D → ω → Prop) : Prop where
  forget : ∀ {g g' c c' w}, Forgets g g' → Forgets c c' → G g c w → G g' c' w
  log : ∀ {g c w} (line : String), G g c w → G g c (callbacks.log line w)
  refused : ∀ {g c w w'} (message : ControlMessage),
    callbacks.trySend message w = (false, w') → G g c w → G g c w'
  global : ∀ {g c w w'} (message : GlobalVarSetMessage),
    callbacks.trySend (.globalVarSet message) w = (true, w') → G g c w →
      G (g.recordSent message.variableName message.variableValue) c w'
  client : ∀ {g c w w'} (target : ℤ) (message : ClientVarSetMessage),
    callbacks.trySend (.clientVarSet target message) w = (true, w') → G g c w →
      G g (c.recordSent ⟨target, message.variableName⟩ message.variableValue) w'
  clear : ∀ {g c w w'} (message : ClientVarClearMessage),
    callbacks.trySend (.clientVarClear message) w = (true, w') → G g c w → G g c w'

namespace VariableRule

variable {G : SendSide Bytes D → SendSide ClientKey D → ω → Prop} {m m' : NetworkVariableManager D}
  {now : D} {w w' : ω} {ok : Bool}

section Sides

variable {K : Type} [Ord K] [Std.TransOrd K] [Std.LawfulEqOrd K] [DecidableEq K]
  {emit : K → Bytes → ω → Bool × ω} {P : SendSide K D → ω → Prop} {s s' : SendSide K D}

/-- What a statement about one send side has to survive, whatever the messages are. -/
structure SideRule (emit : K → Bytes → ω → Bool × ω) (P : SendSide K D → ω → Prop) : Prop where
  forget : ∀ {s s' w}, Forgets s s' → P s w → P s' w
  refused : ∀ {s w w' key value}, emit key value w = (false, w') → P s w → P s w'
  accepted : ∀ {s w w' key value}, emit key value w = (true, w') → P s w →
    P (s.recordSent key value) w'

variable [Double D]

theorem SideRule.write (hrule : SideRule emit P) {key : K} {value : Bytes}
    (h : s.write emit now key value w = (s', w')) (hP : P s w) : P s' w' := by
  rcases SendSide.write_cases h with
    ⟨-, rfl, rfl⟩ | ⟨-, ⟨hemit, rfl⟩ | ⟨hemit, deadline, rfl⟩⟩
  · exact hrule.forget (s := s) (fun _ _ hsent ↦ hsent) hP
  · exact hrule.forget (fun _ _ hsent ↦ by simpa using hsent) (hrule.accepted hemit hP)
  · have hkept : P (s.keepPending key value deadline) w :=
      hrule.forget (fun _ _ hsent ↦ by simpa using hsent) hP
    rcases hemit with hemit | rfl
    · exact hrule.refused hemit hkept
    · exact hkept

theorem SideRule.flush (hrule : SideRule emit P) {b : Bool}
    (h : s.flush emit now w = (b, s', w')) (hP : P s w) : P s' w' := by
  refine SendSide.flush_induct ?_ h hP
  rintro s w _ _ s' w' entry - hP hround
  rcases SendSide.flushItem_cases hround with
    ⟨-, rfl, rfl, -⟩ | ⟨-, hemit, rfl, -⟩ | ⟨-, hemit, rfl, -⟩
  · exact hrule.forget (s := s) (fun _ _ hsent ↦ hsent) hP
  · exact hrule.forget (fun _ _ hsent ↦ by simpa using hsent) (hrule.accepted hemit hP)
  · exact hrule.refused hemit hP

end Sides

theorem globalSide (hrule : VariableRule callbacks G) (m : NetworkVariableManager D)
    (c : SendSide ClientKey D) : SideRule (m.emitGlobal callbacks) fun g w ↦ G g c w where
  forget hforgets := hrule.forget hforgets (Forgets.refl c)
  refused := hrule.refused _
  accepted hsent := hrule.global _ hsent

theorem clientSide (hrule : VariableRule callbacks G) (m : NetworkVariableManager D)
    (g : SendSide Bytes D) : SideRule (m.emitClient callbacks) fun c w ↦ G g c w where
  forget hforgets := hrule.forget (Forgets.refl g) hforgets
  refused := hrule.refused _
  accepted hsent := hrule.client _ _ hsent

variable [Double D]

theorem setGlobal (hrule : VariableRule callbacks G) {name value : Bytes}
    (h : m.setGlobal callbacks now name value w = (ok, m', w'))
    (hG : G m.globalSide m.clientSide w) : G m'.globalSide m'.clientSide w' := by
  rcases NetworkVariableManager.setGlobal_cases h with
    ⟨-, rfl, line, rfl⟩ | ⟨-, -, -, side, hwrite, rfl⟩
  · exact hrule.log line hG
  · exact (hrule.globalSide m m.clientSide).write hwrite hG

theorem setClient (hrule : VariableRule callbacks G) {target : ℤ} {name value : Bytes}
    (h : m.setClient callbacks now target name value w = (ok, m', w'))
    (hG : G m.globalSide m.clientSide w) : G m'.globalSide m'.clientSide w' := by
  rcases NetworkVariableManager.setClient_cases h with
    ⟨-, hm', line, rfl⟩ | ⟨-, -, -, side, hwrite, rfl⟩
  · rcases hm' with rfl | rfl <;> exact hrule.log line hG
  · exact (hrule.clientSide m m.globalSide).write hwrite hG

theorem tick (hrule : VariableRule callbacks G)
    (h : m.tick callbacks now w = (ok, m', w')) (hG : G m.globalSide m.clientSide w) :
    G m'.globalSide m'.clientSide w' := by
  -- the client flush starts from the world the global flush left
  obtain ⟨_, _, g, c, w₁, hglobal, hclient, rfl⟩ := NetworkVariableManager.tick_cases h
  have hG₁ : G g m.clientSide w₁ := (hrule.globalSide m m.clientSide).flush hglobal hG
  exact (hrule.clientSide m g).flush hclient hG₁

theorem checkInitialSyncTimeout (hrule : VariableRule callbacks G)
    (h : m.checkInitialSyncTimeout callbacks now w = (ok, m', w'))
    (hG : G m.globalSide m.clientSide w) : G m'.globalSide m'.clientSide w' := by
  rw [NetworkVariableManager.checkInitialSyncTimeout] at h
  split at h
  · obtain ⟨-, rfl, rfl⟩ := h
    exact hG
  · split at h
    · obtain ⟨-, rfl, rfl⟩ := h
      exact hG
    · obtain ⟨-, rfl, rfl⟩ := h
      exact hrule.log _ hG

omit [Double D] in
theorem clearMyClientVariables (hrule : VariableRule callbacks G) {changes : List VariableChange}
    (h : m.clearMyClientVariables callbacks w = (ok, changes, m', w'))
    (hG : G m.globalSide m.clientSide w) : G m'.globalSide m'.clientSide w' := by
  have hforgets (m : NetworkVariableManager D) (clientNo : ℤ) :
      Forgets m.clientSide (m.clearPendingForClient clientNo).clientSide := by
    intro key value hsent
    change (NetworkVariableManager.eraseClient m.clientSide.lastSent clientNo)[key]? = some value
      at hsent
    rw [NetworkVariableManager.eraseClient, Std.ExtTreeMap.getElem?_filter',
      Option.filter_eq_some_iff] at hsent
    exact hsent.1
  rw [NetworkVariableManager.clearMyClientVariables] at h
  split at h
  · obtain ⟨-, -, rfl, rfl⟩ := h
    exact hG
  · dsimp only at h
    split at h
    · next hrefused =>
      obtain ⟨-, -, rfl, rfl⟩ := h
      exact hrule.refused _ hrefused hG
    · next haccepted =>
      have hG' := hrule.clear _ haccepted hG
      split at h
      all_goals
        obtain ⟨-, -, rfl, rfl⟩ := h
        exact hrule.forget (Forgets.refl _) (hforgets _ _) hG'

end VariableRule

/-! ### Snapshots and the caches -/

namespace NetworkVariableManager

/-- A global sync can only make the manager forget. -/
theorem forgets_handleGlobalSync (message : GlobalVarSyncMessage) (m : NetworkVariableManager D) :
    Forgets m.globalSide (m.handleGlobalSync message).1.globalSide ∧
      (m.handleGlobalSync message).1.clientSide = m.clientSide := by
  refine List.foldlRecOn
    (motive := fun acc : NetworkVariableManager D × List VariableChange ↦
      Forgets m.globalSide acc.1.globalSide ∧ acc.1.clientSide = m.clientSide)
    message.vars handleGlobalEntry ⟨Forgets.refl _, rfl⟩ ?_
  rintro ⟨m', changes⟩ ⟨hforgets, hclient⟩ entry -
  have hentry : Forgets m'.globalSide (m'.globalSide.reconcileGlobal entry.name entry.value) := by
    intro name value hsent
    rw [SendSide.reconcileGlobal] at hsent
    split at hsent
    · exact hsent
    · split at hsent
      · rw [SendSide.lastSent_forget] at hsent
        split at hsent
        · simp at hsent
        · simpa using hsent
      · simpa using hsent
  rw [handleGlobalEntry]
  split
  · exact ⟨hforgets, hclient⟩
  · dsimp only
    split <;> exact ⟨hforgets.trans hentry, hclient⟩

/-- A client sync names nothing new for a variable that none of its blocks has. -/
theorem lastSent_handleClientSync {message : ClientVarSyncMessage} {m : NetworkVariableManager D}
    {key : ClientKey} {value : Bytes}
    (htold : ∀ block ∈ message.clients, (block.1.toNat : ℤ) = key.clientNo →
      key.name ∉ snapshotOf block.2)
    (h : (m.handleClientSync message).1.clientSide.lastSent[key]? = some value) :
    m.clientSide.lastSent[key]? = some value := by
  refine handleClientSync_induct
    (P := fun m' ↦ m'.clientSide.lastSent[key]? = some value →
      m.clientSide.lastSent[key]? = some value) ?_ id h
  intro m' changes block hblock hkept hsent
  refine hkept ?_
  by_cases hno : (block.1.toNat : ℤ) = key.clientNo
  · obtain ⟨clientNo, name⟩ := key
    simp only at hno
    subst hno
    have hlacks := htold block hblock rfl
    rcases handleClientBlock_cases m' changes block name with
      ⟨present, hpresent, -⟩ | ⟨-, -, hagrees⟩ | ⟨-, -, hagrees⟩
    · rw [Std.ExtTreeMap.mem_iff_isSome_getElem?, hpresent] at hlacks
      simp at hlacks
    · -- removed: the cache names nothing afterwards
      rw [hagrees.lastSent, SendSide.reconcileRemoved] at hsent
      split at hsent
      · next hnone => rw [hnone] at hsent; simp at hsent
      · simp at hsent
    · rwa [hagrees.lastSent] at hsent
  · rwa [(handleClientBlock_other m' changes block hno).1.lastSent] at hsent

end NetworkVariableManager

end StylyNetSync
