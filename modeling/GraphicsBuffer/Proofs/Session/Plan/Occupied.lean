/-
  GraphicsBuffer.Proofs.Session.Plan.Occupied

  The plans for a handle that stands for a buffer in a manager. It gives up its entry, and with it
  the buffer if nobody else holds that; it locks the buffer, which may map it; it unlocks it; and it
  hands out references. All of it touches the entry, the object, the buffer and its mapping only.
-/

import GraphicsBuffer.Proofs.Session.Plan.Vacant

namespace GraphicsBuffer.Session

variable {s : Session SystemState} {m : ManagerId} {h : Name} {op : HandleOp}

namespace Occupied

variable {handle : Handle} {key : Key} {o : BufferObject} {b : SystemBuffer}

/-- What there is at a site keeps its numbers. -/
structure Kept (ρ : Renaming) (key : Key) (o : BufferObject) (b : SystemBuffer) : Prop where
  key : ρ.key key = key
  number : ρ.buffer o.id = o.id
  object : ∀ mapping, o.mapping = some mapping →
    ρ.mapping mapping.address.mapping = mapping.address.mapping
  buffer : ∀ mapping, b.mapping = some mapping → ρ.mapping mapping = mapping

theorem kept (hs : Settled s) (h_site : Occupied s m h handle key o b) {ρ : Renaming}
    (h_keeps : ρ.Keeps s.portrait.fresh) : Kept ρ key o b := by
  obtain ⟨-, h_id, h_mapping⟩ := hs.portrait_given.objects h_site.live
  refine ⟨h_keeps.key key (hs.key_lt h_site.find h_site.registered), h_keeps.buffer _ h_id,
    fun mapping h_some => h_keeps.mapping _ (h_mapping mapping h_some), fun mapping h_some => ?_⟩
  exact h_keeps.mapping _ ((hs.portrait_given.buffers h_site.buffer).2 mapping h_some)

namespace Kept

variable {ρ : Renaming} (h_kept : Kept ρ key o b)
include h_kept

/-- An object in the place of the one at the site, with its mapping or with none. -/
theorem object_eq {p : BufferObject} (h_id : p.id = o.id)
    (h_mapping : p.mapping = o.mapping ∨ p.mapping = none) : ρ.object p = p := by
  refine Renaming.object_eq_self (by rw [h_id, h_kept.number]) fun mapping h_some => ?_
  rcases h_mapping with h_same | h_none
  · exact h_kept.object mapping (h_same.symm.trans h_some)
  · exact nomatch h_none.symm.trans h_some

theorem address_eq : o.address?.map ρ.address = o.address? :=
  Renaming.map_eq_self fun a h_a => by
    obtain ⟨mapping, h_mapping, rfl⟩ := Option.map_eq_some_iff.mp h_a
    exact Renaming.address_eq_self (h_kept.object mapping h_mapping)

theorem ending_eq : b.ending.rename ρ.mapping id = b.ending := by
  unfold SystemBuffer.ending
  rcases h_mapping : b.mapping with _ | mapping
  · rfl
  · simp only [Edit.rename_put, h_kept.buffer mapping h_mapping, Option.map_none]

end Kept

/-- What is done at the site only, and uses up no number, is planned as it is done here. -/
theorem serves_of_kept [PageSize] (hs : Settled s) (h_site : Occupied s m h handle key o b)
    {a : Answer} {q : Patch} (h_does : ∀ t : Session SystemState, Settled t → op.Fits t →
      t.kernel.memories = s.kernel.memories → t.world.held.count o.id = s.world.held.count o.id →
      Occupied t m h handle key o b →
      (t.step systemBackend (op.step m h)).1 = a ∧
        (t.step systemBackend (op.step m h)).2.portrait = q.apply t.portrait)
    (h_kept : ∀ ρ, Kept ρ key o b → q.rename ρ = q ∧ ρ.answer a = a)
    (h_within : q.Within s.portrait op m h) :
    Plan.Serves ⟨fun _ => a, fun _ => q⟩ s op m h where
  describes t ht h_fits h_same := by
    obtain ⟨h_there, h_held, h_memories⟩ := h_site.of_site h_same
    exact h_does t ht h_fits h_memories h_held h_there
  natural ρ g h_shifts := by
    obtain ⟨h_patch, h_answer⟩ := h_kept ρ (h_site.kept hs h_shifts.keeps)
    exact ⟨h_patch.symm, h_answer.symm⟩
  within := h_within

/-! ### Registration -/

theorem register_serves [PageSize] (hs : Settled s) (h_site : Occupied s m h handle key o b) :
    Plan.Serves ⟨fun _ => .done, fun _ => {}⟩ s .register m h := by
  refine h_site.serves_of_kept hs (fun t _ _ _ _ h_there => ?_) (fun _ _ => ⟨rfl, rfl⟩)
    (by constructor <;> simp)
  obtain ⟨manager, h_manager, -⟩ := h_there.manager
  have h_step : t.step systemBackend (.register m h) = (.done, t.setHandle h handle) :=
    step_register_of_found h_manager h_there.find h_there.lookup
  rw [HandleOp.step, h_step]
  refine ⟨rfl, Portrait.ext ?_ rfl rfl rfl rfl rfl rfl rfl rfl rfl rfl rfl⟩
  -- the handle takes its own place
  show (t.handles.insert h handle).find? = t.handles.find?
  rw [Table.find?_insert_eq_update, ← h_there.find, Function.update_eq_self]

/-- The world without the entry of a handle. -/
def withdrawal (t : Session SystemState) (m : ManagerId) (key : Key) (manager : Manager) :
    World SystemState :=
  t.world.setManager m (some { manager with buffers := manager.buffers.erase key })

/-- No table names the buffer once the entry is gone. -/
theorem withdrawal_unregistered (hs : Settled s) (h_site : Occupied s m h handle key o b)
    {manager : Manager} (h_manager : s.world.manager? m = some manager) :
    o.id ∉ (withdrawal s m key manager).registered := by
  obtain ⟨deeds, h_sound⟩ := hs.keys
  have h_keyed : World.Keyed s.world := ⟨h_sound.distinct, h_sound.entries_used⟩
  obtain ⟨manager', h_manager', h_find⟩ := h_site.manager
  obtain rfl := Option.some.inj (h_manager.symm.trans h_manager')
  exact withdraw_unregistered hs.own h_keyed h_manager h_find

/-- A locked buffer is not unregistered. -/
theorem unregister_locked [PageSize] (h_site : Occupied s m h handle key o b)
    (h_count : o.lockCount ≠ 0) :
    s.step systemBackend (.unregister m h) = (.failed (.error (.bufferLocked o.lockCount)), s) := by
  obtain ⟨manager, h_manager, -⟩ := h_site.manager
  exact step_unregister_of_locked h_manager h_site.find h_site.object h_count

/-- A buffer that is not locked loses its entry, and is freed if no reference to it is held. -/
theorem unregister_unlocked [PageSize] (hs : Settled s) (h_site : Occupied s m h handle key o b)
    (h_count : o.lockCount = 0) :
    ∃ manager, s.world.manager? m = some manager ∧
      (s.step systemBackend (.unregister m h)).1 = .done ∧
      (s.step systemBackend (.unregister m h)).2 =
        (s.setWorld (if s.world.held.count o.id = 0 then
            (withdrawal s m key manager).destroy systemBackend o.id
          else withdrawal s m key manager)).setHandle h { handle with registration := none } := by
  obtain ⟨manager, h_manager, h_entry⟩ := h_site.manager
  have h_references : (withdrawal s m key manager).references o.id = s.world.held.count o.id := by
    rw [World.references, List.count_eq_zero.mpr (h_site.withdrawal_unregistered hs h_manager),
      Nat.zero_add]
    rfl
  refine ⟨manager, h_manager, ?_⟩
  rw [step_unregister_eq h_manager h_site.find, ← h_references,
    World.unregister_of_unlocked systemBackend h_site.registered h_manager h_entry h_site.live
      h_count]
  exact ⟨rfl, rfl⟩

/-- What is done when a handle gives up its entry, and when its buffer is freed. -/
def withdrawalPatch (m : ManagerId) (h : Name) (handle : Handle) (key : Key) (o : BufferObject)
    (b : SystemBuffer) (held : Nat) : Patch :=
  if held = 0 then
    { handle := .put h (some { handle with registration := none })
      entry := .put (m, key) none
      object := .put o.id none
      buffer := .put o.id none
      mapping := b.ending }
  else
    { handle := .put h (some { handle with registration := none })
      entry := .put (m, key) none }

theorem withdrawal_portrait [PageSize] (h_site : Occupied s m h handle key o b) {manager : Manager}
    (h_manager : s.world.manager? m = some manager) :
    ((s.setWorld (if s.world.held.count o.id = 0 then
        (withdrawal s m key manager).destroy systemBackend o.id
      else withdrawal s m key manager)).setHandle h { handle with registration := none }).portrait =
      (withdrawalPatch m h handle key o b (s.world.held.count o.id)).apply s.portrait := by
  have h_live : (withdrawal s m key manager).objects.find? o.id = some o := h_site.live
  unfold withdrawalPatch
  by_cases h_held : s.world.held.count o.id = 0
  · obtain ⟨h_memories, h_buffers, h_mappings, h_next⟩ := BufferObject.destroy_shows h_site.buffer
    simp only [if_pos h_held, World.destroy, h_live]
    ext1
    · exact s.handles.find?_insert_eq_update h _
    · rfl
    · exact World.kinds_setManager h_manager _
    · exact World.entryAt_erase h_manager _
    · exact s.world.objects.find?_erase_eq_update _
    · rfl
    · exact h_memories
    · exact h_buffers
    · exact h_mappings
    · rfl
    · exact World.destroy_nextBuffer _ _ _
    · exact h_next
  · simp only [if_neg h_held]
    ext1
    · exact s.handles.find?_insert_eq_update h _
    · rfl
    · exact World.kinds_setManager h_manager _
    · exact World.entryAt_erase h_manager _
    all_goals rfl

theorem withdrawalPatch_kept {ρ : Renaming} (h_kept : Kept ρ key o b) (held : Nat) :
    (withdrawalPatch m h handle key o b held).rename ρ =
      withdrawalPatch m h handle key o b held := by
  have h_place : ρ.place (m, key) = (m, key) := Prod.ext rfl h_kept.key
  unfold withdrawalPatch
  split <;>
    simp only [Patch.rename, Edit.rename_put, Edit.rename_keep, Option.map_none, Option.map_some,
      Renaming.handle, h_place, h_kept.number, h_kept.ending_eq, Equiv.refl_apply]

theorem withdrawalPatch_within (h_site : Occupied s m h handle key o b) (held : Nat) :
    (withdrawalPatch m h handle key o b held).Within s.portrait .unregister m h := by
  unfold withdrawalPatch
  split <;> constructor <;> simp [h_site.key?, h_site.stands, h_site.mapped, b.ending_in]

theorem unregister_serves [PageSize] (hs : Settled s) (h_site : Occupied s m h handle key o b) :
    ∃ p, Plan.Serves p s .unregister m h := by
  by_cases h_count : o.lockCount = 0
  · refine ⟨_, h_site.serves_of_kept hs (a := .done) (fun t ht _ _ h_held h_there => ?_)
      (fun ρ h_kept => ⟨withdrawalPatch_kept h_kept _, rfl⟩)
      (h_site.withdrawalPatch_within (s.world.held.count o.id))⟩
    obtain ⟨manager, h_manager, h_answer, h_after⟩ := h_there.unregister_unlocked ht h_count
    refine ⟨h_answer, ?_⟩
    show (t.step systemBackend (.unregister m h)).2.portrait = _
    rw [h_after, h_there.withdrawal_portrait h_manager, h_held]
  · refine ⟨_, h_site.serves_of_kept hs
      (a := .failed (.error (.bufferLocked o.lockCount))) (q := {})
      (fun t ht _ _ h_held h_there => ?_)
      (fun ρ h_kept => ⟨rfl, rfl⟩) (by constructor <;> simp)⟩
    have h_step := h_there.unregister_locked h_count
    exact ⟨congrArg Prod.fst h_step,
      (congrArg (·.2.portrait) h_step).trans (apply_empty _).symm⟩

/-! ### Locks -/

/-- A lock that fails shows in the devices at most. -/
theorem lock_failed [PageSize] (h_site : Occupied s m h handle key o b) {request : LockRequest}
    {f : Failure} {env : Env SystemState}
    (h_lock : (o.lock systemBackend handle request s.world.env).1 = .error f ∧
      (o.lock systemBackend handle request s.world.env).2.forget = env.forget) :
    (s.step systemBackend (.lock m h request)).1 = .failed f ∧
      (s.step systemBackend (.lock m h request)).2.portrait =
        (s.setWorld { s.world with env }).portrait := by
  rw [step_lock_eq h_site.find h_site.object, World.lockObject]
  generalize o.lock systemBackend handle request s.world.env = locked at h_lock
  obtain ⟨answer, env'⟩ := locked
  obtain ⟨rfl, h_env⟩ := h_lock
  exact ⟨rfl, portrait_congr s s.world h_env⟩

/-- A lock that is granted puts the locked object in the place of the old one. -/
theorem lock_granted [PageSize] (h_site : Occupied s m h handle key o b) {request : LockRequest}
    {o' : BufferObject} {env : Env SystemState}
    (h_lock : (o.lock systemBackend handle request s.world.env).1 = .ok o' ∧
      (o.lock systemBackend handle request s.world.env).2.forget = env.forget) :
    (s.step systemBackend (.lock m h request)).1 = .locked o'.address? o.address? ∧
      (s.step systemBackend (.lock m h request)).2.portrait =
        (s.setWorld (s.world.addObject o' env)).portrait := by
  rw [step_lock_eq h_site.find h_site.object, World.lockObject]
  generalize o.lock systemBackend handle request s.world.env = locked at h_lock
  obtain ⟨answer, env'⟩ := locked
  obtain ⟨rfl, h_env⟩ := h_lock
  exact ⟨rfl, portrait_congr s (s.world.addObject o' env') h_env⟩

/-- What a mapping of the buffer changes. -/
def mappedPatch (o : BufferObject) (b : SystemBuffer) (object : Edit BufferId BufferObject)
    (mapping : MemoryMapping) (f : Fresh) : Patch where
  object := object
  buffer := .put o.id (some { b with mapping := some f.mapping })
  mapping := .put f.mapping (some mapping)
  maps := true

theorem mappedPatch_rename {ρ : Renaming} {f g : Fresh} (h_kept : Kept ρ key o b)
    (h_mapping : ρ.mapping f.mapping = g.mapping) (object : Edit BufferId BufferObject)
    (mapping : MemoryMapping) :
    (mappedPatch o b object mapping f).rename ρ =
      mappedPatch o b (object.rename ρ.buffer ρ.object) mapping g := by
  simp only [mappedPatch, Patch.rename, Edit.rename_put, Edit.rename_keep, Option.map_some,
    Option.map_none, Renaming.systemBuffer, h_kept.number, h_mapping, id]

theorem mappedPatch_within (h_site : Occupied s m h handle key o b)
    {object : Edit BufferId BufferObject} (h_object : object.In (o.id = ·))
    (mapping : MemoryMapping) (op : HandleOp) :
    (mappedPatch o b object mapping s.portrait.fresh).Within s.portrait op m h := by
  constructor <;> simp [mappedPatch, h_site.stands, Portrait.fresh]
  exact h_object

theorem mapped_portrait (s : Session SystemState) (o : BufferObject) (b : SystemBuffer)
    (mapping : MemoryMapping) :
    (s.setWorld { s.world with env := s.world.env.withMapped o.id b mapping }).portrait =
      (mappedPatch o b .keep mapping s.portrait.fresh).apply s.portrait := by
  ext1
  case buffers => exact s.world.env.devices.buffers.find?_insert_eq_update _ _
  case mappings => exact s.kernel.mappings.find?_insert_eq_update _ _
  all_goals rfl

theorem lockMapped_portrait (s : Session SystemState) (o o' : BufferObject) (b : SystemBuffer)
    (mapping : MemoryMapping) (h_id : o'.id = o.id) :
    (s.setWorld (s.world.addObject o' (s.world.env.withMapped o.id b mapping))).portrait =
      (mappedPatch o b (.put o.id (some o')) mapping s.portrait.fresh).apply s.portrait := by
  ext1
  case objects => exact h_id ▸ s.world.objects.find?_insert_eq_update o'.id o'
  case buffers => exact s.world.env.devices.buffers.find?_insert_eq_update _ _
  case mappings => exact s.kernel.mappings.find?_insert_eq_update _ _
  all_goals rfl

/-- A new object in the place of the old one. -/
theorem object_portrait (s : Session SystemState) {o o' : BufferObject} (h_id : o'.id = o.id) :
    (s.setWorld (s.world.addObject o' s.world.env)).portrait =
      Patch.apply { object := .put o.id (some o') } s.portrait := by
  ext1
  case objects => exact h_id ▸ s.world.objects.find?_insert_eq_update o'.id o'
  all_goals rfl

theorem lock_serves [PageSize] (hs : Settled s) (h_site : Occupied s m h handle key o b)
    (request : LockRequest) : ∃ p, Plan.Serves p s (.lock request) m h := by
  have h_beside : ∀ {t : Session SystemState}, t.kernel.memories = s.kernel.memories →
      Occupied t m h handle key o b → Beside s.kernel.memories o.id b t.world.env :=
    fun h_memories h_there => ⟨h_memories, h_there.buffer⟩
  cases BufferObject.lock_local s.kernel.memories b o handle request with
  | fails f h_does =>
    refine ⟨_, h_site.serves_of_kept hs (a := .failed f) (q := {})
      (fun t _ _ h_memories _ h_there => ?_) (fun _ _ => ⟨rfl, rfl⟩) (by constructor <;> simp)⟩
    obtain ⟨h_answer, h_portrait⟩ := h_there.lock_failed (h_does _ (h_beside h_memories h_there))
    exact ⟨h_answer, h_portrait.trans (apply_empty _).symm⟩
  | shares usage h_does =>
    refine ⟨_, h_site.serves_of_kept hs (a := .locked o.address? o.address?)
      (q := { object := .put o.id (some (o.addLock usage)) })
      (fun t _ _ h_memories _ h_there => ?_) (fun ρ h_kept => ⟨?_, ?_⟩)
      (by constructor <;> simp [h_site.stands])⟩
    · obtain ⟨h_answer, h_portrait⟩ := h_there.lock_granted (h_does _ (h_beside h_memories h_there))
      exact ⟨h_answer, h_portrait.trans (object_portrait t rfl)⟩
    · simp only [Patch.rename, Edit.rename_put, Edit.rename_keep, Option.map_some, Option.map_none,
        h_kept.number, h_kept.object_eq (p := o.addLock usage) rfl (.inl rfl)]
    · simp only [Renaming.answer, h_kept.address_eq]
  | aborts a mapping h_does =>
    refine ⟨⟨fun _ => .failed (.abort a), mappedPatch o b .keep mapping⟩,
      fun t _ _ h_same => ?_, fun ρ g h_shifts => ⟨?_, rfl⟩,
      h_site.mappedPatch_within (Edit.keep_in _) mapping _⟩
    · obtain ⟨h_there, -, h_memories⟩ := h_site.of_site h_same
      obtain ⟨h_answer, h_portrait⟩ := h_there.lock_failed (h_does _ (h_beside h_memories h_there))
      exact ⟨h_answer, h_portrait.trans (mapped_portrait t o b mapping)⟩
    · exact (mappedPatch_rename (h_site.kept hs h_shifts.keeps) (h_shifts.mapping rfl) .keep
        mapping).symm
  | maps usage corner offset mapping h_does =>
    -- the lock hands out an address in the mapping that it makes
    let locked (f : Fresh) : BufferObject :=
      (o.withMapping ⟨⟨f.mapping, offset⟩, b.stride⟩ corner).addLock usage
    refine ⟨⟨fun f => .locked (some ⟨f.mapping, offset⟩) o.address?,
        fun f => mappedPatch o b (.put o.id (some (locked f))) mapping f⟩,
      fun t _ _ h_same => ?_, fun ρ g h_shifts => ⟨?_, ?_⟩,
      h_site.mappedPatch_within (Edit.put_in.mpr rfl) mapping _⟩
    · obtain ⟨h_there, -, h_memories⟩ := h_site.of_site h_same
      obtain ⟨h_answer, h_portrait⟩ := h_there.lock_granted (h_does _ (h_beside h_memories h_there))
      exact ⟨h_answer,
        h_portrait.trans (lockMapped_portrait t o (locked t.portrait.fresh) b mapping rfl)⟩
    · have h_kept := h_site.kept hs h_shifts.keeps
      have h_mapping : ρ.mapping s.portrait.fresh.mapping = g.mapping := h_shifts.mapping rfl
      have h_locked : ρ.object (locked s.portrait.fresh) = locked g := by
        simp only [locked, Renaming.object, BufferObject.addLock, BufferObject.withMapping,
          Option.map_some, Renaming.backendMapping, Renaming.address, h_kept.number, h_mapping]
      rw [mappedPatch_rename h_kept h_mapping, Edit.rename_put, h_kept.number, Option.map_some,
        h_locked]
    · have h_kept := h_site.kept hs h_shifts.keeps
      have h_mapping : ρ.mapping s.portrait.fresh.mapping = g.mapping := h_shifts.mapping rfl
      simp only [Renaming.answer, Option.map_some, Renaming.address, h_mapping, h_kept.address_eq]

/-- Another state of the object, with its mapping or with none, in the place of the old one. -/
theorem objectPatch_kept {ρ : Renaming} (h_kept : Kept ρ key o b) {o' : BufferObject}
    (h_id : o'.id = o.id) (h_mapping : o'.mapping = o.mapping ∨ o'.mapping = none) :
    Patch.rename ρ { object := .put o.id (some o') } = { object := .put o.id (some o') } := by
  simp only [Patch.rename, Edit.rename_put, Edit.rename_keep, Option.map_some, Option.map_none,
    h_kept.number, h_kept.object_eq h_id h_mapping]

/-- What the end of the mapping changes. -/
def unmappedPatch (o : BufferObject) (b : SystemBuffer) : Patch where
  object := .put o.id (some o.unlocked)
  buffer := .put o.id (some b.unmapped)
  mapping := b.ending

theorem unmappedPatch_kept {ρ : Renaming} (h_kept : Kept ρ key o b) :
    (unmappedPatch o b).rename ρ = unmappedPatch o b := by
  have h_unmapped : ρ.systemBuffer b.unmapped = b.unmapped := Renaming.systemBuffer_eq_self nofun
  simp only [unmappedPatch, Patch.rename, Edit.rename_put, Edit.rename_keep, Option.map_some,
    Option.map_none, h_kept.number, h_kept.ending_eq, h_unmapped,
    h_kept.object_eq (p := o.unlocked) rfl (.inr rfl)]

variable [PageSize]

theorem unmapped_portrait (h_buffer : s.world.env.devices.buffers.find? o.id = some b)
    (mapping : BackendMapping) :
    (s.setWorld (s.world.addObject o.unlocked
        (s.world.env.unmap systemBackend o.id mapping))).portrait =
      (unmappedPatch o b).apply s.portrait := by
  obtain ⟨h_memories, h_buffers, h_mappings, h_next⟩ := SystemState.unmap_shows h_buffer
  ext1
  case objects => exact s.world.objects.find?_insert_eq_update o.id _
  case memories => exact h_memories
  case buffers => exact h_buffers
  case mappings => exact h_mappings
  case nextMapping => exact h_next
  all_goals rfl

theorem unlock_serves (hs : Settled s) (h_site : Occupied s m h handle key o b) :
    ∃ p, Plan.Serves p s .unlock m h := by
  -- all but the last unlock of a mapped buffer concern the object alone
  have h_object : ∀ o' : BufferObject, o'.id = o.id → o'.mapping = o.mapping ∨ o'.mapping = none →
      (∀ env, o.unlock systemBackend env = (o', env)) → ∃ p, Plan.Serves p s .unlock m h := by
    intro o' h_id h_mapping h_unlock
    refine ⟨_, h_site.serves_of_kept hs (a := .done) (q := { object := .put o.id (some o') })
      (fun t _ _ _ _ h_there => ?_) (fun ρ h_kept => ⟨objectPatch_kept h_kept h_id h_mapping, rfl⟩)
      (by constructor <;> simp [h_site.stands])⟩
    rw [HandleOp.step, step_unlock_eq h_there.find h_there.object, World.unlockObject, h_unlock]
    exact ⟨rfl, object_portrait t h_id⟩
  by_cases h_none : o.lockCount = 0
  · exact h_object o rfl (.inl rfl) fun env => by rw [BufferObject.unlock, if_pos h_none]
  by_cases h_last : o.lockCount = 1
  · rcases h_mapping : o.mapping with _ | mapping
    · exact h_object o.unlocked rfl (.inr rfl) fun env => by
        simp only [BufferObject.unlock, if_neg h_none, if_pos h_last, h_mapping]
    · refine ⟨_, h_site.serves_of_kept hs (a := .done) (q := unmappedPatch o b)
        (fun t _ _ _ _ h_there => ?_) (fun ρ h_kept => ⟨unmappedPatch_kept h_kept, rfl⟩)
        (by constructor <;> simp [unmappedPatch, h_site.stands, h_site.mapped, b.ending_in])⟩
      simp only [HandleOp.step, step_unlock_eq h_there.find h_there.object, World.unlockObject,
        BufferObject.unlock, if_neg h_none, if_pos h_last, h_mapping]
      exact ⟨trivial, unmapped_portrait h_there.buffer mapping⟩
  · exact h_object { o with lockCount := o.lockCount - 1 } rfl (.inl rfl) fun env => by
      rw [BufferObject.unlock, if_neg h_none, if_neg h_last]

/-! ### References -/

theorem refer_serves (hs : Settled s) (h_site : Occupied s m h handle key o b) (r : Name) :
    ∃ p, Plan.Serves p s (.refer r) m h := by
  refine ⟨_, h_site.serves_of_kept hs (a := .done)
    (q := { holding := .put r (some ⟨o.id, true⟩), held := some o.id })
    (fun t _ h_fits _ _ h_there => ?_) (fun ρ h_kept => ⟨?_, rfl⟩)
    (by constructor <;> simp [h_site.stands])⟩
  · obtain ⟨manager, h_manager, -⟩ := h_there.manager
    -- nothing had the name, so nothing is released
    have h_free : t.holdings.find? r = none := h_fits r rfl
    have h_released : (t.setWorld (t.world.retain o.id)).releaseHolding systemBackend r =
        t.setWorld (t.world.retain o.id) := by
      have h_free' : (t.setWorld (t.world.retain o.id)).holdings.find? r = none := h_free
      rw [releaseHolding, h_free']
    simp only [HandleOp.step, step, withManager, withHandle, h_manager, h_there.find, World.hold,
      h_there.lookup, setHolding, h_released]
    refine ⟨trivial, ?_⟩
    ext1
    case holdings => exact t.holdings.find?_insert_eq_update r _
    case held =>
      funext id
      show (o.id :: t.world.held).count id = _
      rw [List.count_cons]
      simp [Patch.apply, portrait]
    all_goals rfl
  · simp only [Patch.rename, Edit.rename_put, Edit.rename_keep, Option.map_some, Renaming.holding,
      h_kept.number, Equiv.refl_apply]

/-- Every operation on a handle that stands for a buffer goes by a plan. -/
theorem serves (hs : Settled s) (h_site : Occupied s m h handle key o b) (op : HandleOp) :
    ∃ p, Plan.Serves p s op m h := by
  cases op with
  | register => exact ⟨_, h_site.register_serves hs⟩
  | unregister => exact h_site.unregister_serves hs
  | lock request => exact h_site.lock_serves hs request
  | unlock => exact h_site.unlock_serves hs
  | refer r => exact h_site.refer_serves hs r

end Occupied

/-- Every operation on every handle goes by a plan. -/
theorem Settled.plan [PageSize] (hs : Settled s) (op : HandleOp) (m : ManagerId) (h : Name) :
    ∃ p, Plan.Serves p s op m h := by
  rcases hs.site_cases m h with h_manager | ⟨_, h_manager, h_find⟩ | ⟨_, h_site⟩ |
    ⟨_, _, _, _, h_site⟩
  · exact ⟨_, noManager_serves h_manager op h⟩
  · exact ⟨_, noHandle_serves h_manager h_find op⟩
  · exact h_site.serves op
  · exact h_site.serves hs op

end GraphicsBuffer.Session
