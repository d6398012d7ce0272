/-
  GraphicsBuffer.Proofs.Session.RoundTrip

  Buffers come back. On the allocator on shared memory, a handle that was created can be duplicated
  and sent, its copies can be registered and unregistered, as often as one likes and whatever else
  happens in between; a copy that is registered nowhere is then taken in by every manager, and the
  allocator is told what it was told when the buffer was made.
-/

import GraphicsBuffer.Proofs.Backend.Memory
import GraphicsBuffer.Proofs.Session.Descent
import GraphicsBuffer.Proofs.Session.Plan.Vacant

namespace GraphicsBuffer

/-! ## Births -/

/-- The creation of a handle: the handle that was returned, and what there was before and after. -/
structure Birth where
  handle : Handle
  before : Env SystemState
  after : Env SystemState

namespace Birth

variable [PageSize]

/-- A buffer that was made for a handle, as it was when the handle was created. -/
structure Bears (birth : Birth) (layout : FourCC) (size : Extent) (b : SystemBuffer) : Prop where
  storage : BufferObject.storage birth.handle = .ok (layout, size)
  made : SystemBuffer.Made birth.before.devices.kernel size layout b birth.after.devices.kernel
  descriptor : birth.handle.descriptor = some b.descriptor
  stride : birth.handle.stride = b.stride
  modifier : birth.handle.modifierWord = Handle.noModifier
  buffer : birth.after.devices.buffers.find? birth.before.nextBuffer = some b
  calls : ∃ device flags, birth.before.callsSince birth.after =
    [.created device size layout flags (.ok birth.before.nextBuffer),
      .exported birth.before.nextBuffer (.ok b.descriptor)]

theorem bears_of_allocate {device : DeviceId} {size : Extent} {format : PixelFormat} {usage : Usage}
    {before after : Env SystemState} {o : BufferObject} {handle : Handle} (key : Option Key)
    (h_call : BufferObject.allocate systemBackend device (Handle.new size format usage) before =
      (.ok (o, handle), after)) :
    ∃ layout size b, Bears ⟨{ handle with registration := key }, before, after⟩ layout size b := by
  obtain ⟨layout, stored, b, h_storage, h_made, rfl, h_buffers, h_trace⟩ :=
    BufferObject.allocate_made h_call
  refine ⟨layout, stored, b, h_storage, h_made, rfl, rfl, rfl, ?_,
    device, _, Env.callsSince_of_trace h_trace⟩
  rw [h_buffers]
  exact Table.find?_insert_self _ _ _

end Birth

namespace Session

section Genealogies

variable [PageSize]

/-- A session together with the creations that its handles go back to. -/
structure Genealogy where
  session : Session SystemState
  births : Name → Option Birth := fun _ => none

namespace Genealogy

/-- Makes a move. Copies go back to what the original goes back to; a handle whose fields were
    written to goes back to nothing. -/
def next (g : Genealogy) (m : Move SystemState) : Genealogy :=
  let moved := g.session.move systemBackend m
  let birth (l : Name) : Descent → Option Birth
    | .created => (moved.2.handles.find? l).map fun handle =>
      ⟨handle, g.session.world.env, moved.2.world.env⟩
    | .copied h => g.births h
    | .altered _ | .foreign => none
  { session := moved.2
    births := inherit g.births birth (g.session.descent? m moved.1) }

end Genealogy

/-- The genealogy after moves that are made one after another. -/
def genealogy (s : Session SystemState) (moves : List (Move SystemState)) : Genealogy :=
  moves.foldl Genealogy.next { session := s }

theorem genealogy_session (s : Session SystemState) (moves : List (Move SystemState)) :
    (s.genealogy moves).session = s.play systemBackend moves :=
  (List.foldl_hom Genealogy.session fun _ _ => rfl).symm

/-- What happens behind a session's back takes no memory away and shortens none. -/
def MemoriesKept (s : Session SystemState) : Move SystemState → Prop
  | .outside devices => s.kernel.MemoriesLast devices.kernel
  | _ => True

theorem memoriesLast_after {s : Session SystemState} (h : Accounted [] s) {m : Move SystemState}
    (h_kept : MemoriesKept s m) : s.kernel.MemoriesLast (s.after systemBackend m).kernel := by
  rcases h.acts m with ⟨devices, rfl⟩ | h_acts
  · exact h_kept
  · exact h_acts.memoriesLast

namespace Genealogy

/-- What holds of handles and the creations that they go back to. -/
structure Sound (g : Genealogy) : Prop where
  accounted : Accounted [] g.session
  births : ∀ l birth, g.births l = some birth →
    g.session.shape? l = some birth.handle.unregistered ∧
      (∃ layout size b, birth.Bears layout size b) ∧
      birth.after.devices.kernel.MemoriesLast g.session.kernel

/-- Every move keeps handles what their creations made them. -/
theorem Sound.next {g : Genealogy} (h : g.Sound) (m : Move SystemState)
    (h_kept : MemoriesKept g.session m) : (g.next m).Sound := by
  have h_descends : Descends g.session (g.session.descent? m (g.session.move systemBackend m).1)
      (g.next m).session := move_descends m
  have h_created : ∀ l, g.session.descent? m (g.session.move systemBackend m).1 =
      some (l, .created) → _ := fun l => created_of_descent?
  refine ⟨h.accounted.of_after m, fun l birth h_birth => ?_⟩
  simp only [Genealogy.next] at h_birth
  generalize g.session.descent? m (g.session.move systemBackend m).1 = descent at *
  -- a creation that a handle went back to before is as long ago as before
  have h_old : ∀ {k}, g.births k = some birth →
      (g.next m).session.shape? l = g.session.shape? k →
      (g.next m).session.shape? l = some birth.handle.unregistered ∧
        (∃ layout size b, birth.Bears layout size b) ∧
        birth.after.devices.kernel.MemoriesLast (g.next m).session.kernel := by
    intro k h_k h_shape
    obtain ⟨h_handle, h_bears, h_last⟩ := h.births k birth h_k
    exact ⟨h_shape.trans h_handle, h_bears, h_last.trans (memoriesLast_after h.accounted h_kept)⟩
  rcases descent with _ | ⟨k, d⟩
  · refine h_old h_birth (h_descends.others l ?_)
    rintro _ ⟨⟩
  rcases update_eq_some_iff.mp h_birth with ⟨rfl, h_own⟩ | ⟨h_ne, h_before⟩
  · cases d with
    | created =>
      obtain ⟨handle, h_find, rfl⟩ := Option.map_eq_some_iff.mp h_own
      obtain ⟨device, size, format, usage, o, handle', h_call, h_find'⟩ := h_created l rfl
      obtain rfl := Option.some.inj (h_find.symm.trans h_find')
      refine ⟨?_, Birth.bears_of_allocate _ h_call, Kernel.MemoriesLast.refl _⟩
      exact shape?_eq_some_iff.mpr ⟨_, h_find, rfl⟩
    | copied h' =>
      obtain ⟨h_handle, ⟨layout, size, b, h_bears⟩, -⟩ := h.births h' birth h_own
      have h_memory : birth.handle.unregistered.descriptor = _ :=
        h_bears.descriptor.trans (congrArg some h_bears.made.descriptor)
      exact h_old h_own ((h_descends.copied rfl h_handle h_memory).trans h_handle.symm)
    | altered h' => cases h_own
    | foreign => cases h_own
  · refine h_old h_before (h_descends.others l fun d' h_eq => h_ne ?_)
    exact (Prod.mk.inj (Option.some.inj h_eq)).1.symm

end Genealogy

/-- The registration of a handle whose description the allocator accepts. -/
theorem register_made {s : Session SystemState} {m : ManagerId} {l : Name} {handle : Handle}
    {manager : Manager} {layout : FourCC} {size : Extent} {d : Descriptor} {b : SystemBuffer}
    (h_manager : s.world.manager? m = some manager) (h_find : s.handles.find? l = some handle)
    (h_unowned : handle.registration = none) (h_descriptor : handle.descriptor = some d)
    (h_storage : BufferObject.storage handle = .ok (layout, size))
    (h_request : SystemBuffer.ofRequest s.kernel
      ⟨size, layout, some d, handle.stride, handle.modifier⟩ = .ok b) :
    ∃ s', s.step systemBackend (.register m l) = (.done, s') ∧
      s.world.env.callsSince s'.world.env =
        [.imported m ⟨size, layout, some d, handle.stride, handle.modifier⟩
          (.ok s.world.env.nextBuffer)] ∧
      s'.handles.find? l = some { handle with registration := some s.world.nextKey } ∧
      s'.world.object? m { handle with registration := some s.world.nextKey } =
        some { id := s.world.env.nextBuffer } ∧
      s'.world.env.devices.buffers.find? s.world.env.nextBuffer = some b := by
  obtain ⟨env, h_import, h_devices, h_trace⟩ := BufferObject.importFrom_made m
    (s.world.env.note (.adopting handle.descriptor.isSome)) h_descriptor h_storage h_request
  refine ⟨Vacant.adoption s m l handle manager env, ?_, Env.callsSince_of_trace h_trace,
    Table.find?_insert_self _ _ _, ?_, ?_⟩
  · simp only [step, withManager, withHandle, h_manager, h_find, World.register, World.resolve,
      h_unowned, h_import]
    rfl
  · refine World.object?_eq_some_iff.mpr ⟨s.world.env.nextBuffer, ?_, Table.find?_insert_self _ _ _⟩
    -- the entry under the new key is that of the new buffer
    have h_entry := World.entryAt_insert h_manager s.world.nextKey s.world.env.nextBuffer
    exact (congrFun h_entry (m, s.world.nextKey)).trans (Function.update_self ..)
  · show env.devices.buffers.find? s.world.env.nextBuffer = some b
    rw [h_devices]
    exact Table.find?_insert_self _ _ _

theorem Genealogy.sound {kernel : Kernel} {kinds : List ManagerKind}
    {moves : List (Move SystemState)}
    (h_kept :
      Obeys (after systemBackend) MemoriesKept (start systemBackend { kernel } kinds) moves) :
    ((start systemBackend { kernel } kinds).genealogy moves).Sound := by
  suffices h : ∀ g : Genealogy, g.Sound → Obeys (after systemBackend) MemoriesKept g.session moves →
      (moves.foldl Genealogy.next g).Sound from
    h { session := _ } ⟨.start _ _ _, nofun⟩ h_kept
  clear h_kept
  induction moves with
  | nil => exact fun g h_g _ => h_g
  | cons m rest ih => exact fun g h_g h_moves => ih (g.next m) (h_g.next m h_moves.1) h_moves.2

/-- A copy of a handle, however many copies and registrations lie between them, is still the handle
    that was created. If it is registered nowhere, every manager can register it, and does so with
    one call: an import of the memory of the buffer that was made, with the stored size, the layout,
    the stride and the modifier of that buffer. The copy then stands for a new object that is not
    locked, and whose buffer has the stride of the handle. -/
theorem copies_taken_in {kernel : Kernel} {kinds : List ManagerKind}
    {moves : List (Move SystemState)}
    (h_kept : Obeys (after systemBackend) MemoriesKept (start systemBackend { kernel } kinds) moves)
    {g : Genealogy} (h_g : g = (start systemBackend { kernel } kinds).genealogy moves)
    {l : Name} {birth : Birth} (h_birth : g.births l = some birth)
    (h_unowned : g.session.key? l = none) {m : ManagerId}
    (h_manager : (g.session.world.manager? m).isSome) :
    ∃ device layout size flags buffer d id key s',
      birth.before.callsSince birth.after =
        [.created device size layout flags (.ok buffer), .exported buffer (.ok d)] ∧
      birth.handle.format.fourCC = .ok layout ∧
      birth.handle.format.physicalExtent birth.handle.size = .ok size ∧
      g.session.handles.find? l = some { birth.handle with registration := none } ∧
      g.session.step systemBackend (.register m l) = (.done, s') ∧
      g.session.world.env.callsSince s'.world.env =
        [.imported m ⟨size, layout, some d, systemBackend.stride buffer birth.after.devices,
          systemBackend.modifier buffer birth.after.devices⟩ (.ok id)] ∧
      s'.handles.find? l = some { birth.handle with registration := some key } ∧
      g.session.world.objects.find? id = none ∧
      s'.world.object? m { birth.handle with registration := some key } = some { id } ∧
      systemBackend.stride id s'.world.env.devices = birth.handle.stride := by
  have h_sound := Genealogy.sound h_kept
  have h_numbered := numbered_of_play systemBackend { kernel } kinds moves
  rw [← genealogy_session, ← h_g] at h_numbered
  rw [← h_g] at h_sound
  obtain ⟨h_shape, ⟨layout, size, b, h_bears⟩, h_last⟩ := h_sound.births l birth h_birth
  obtain ⟨manager, h_manager⟩ := Option.isSome_iff_exists.mp h_manager
  obtain ⟨device, flags, h_calls⟩ := h_bears.calls
  -- the handle is the one that was created, registered nowhere
  obtain ⟨handle, h_find, h_same⟩ := shape?_eq_some_iff.mp h_shape
  have h_handle : handle = birth.handle.unregistered := by
    rw [← h_same, Handle.unregistered, ← (key?_of_find? h_find).symm.trans h_unowned]
  subst h_handle
  -- its memory is there and as long as when it was made, so the description is accepted again
  obtain ⟨memory, h_memory, h_room⟩ := h_last _ _ h_bears.made.memory
  have h_request := h_bears.made.ofRequest h_memory h_room birth.handle.modifier
  rw [← h_bears.stride] at h_request
  obtain ⟨s', h_step, h_imported, h_key, h_object, h_buffer⟩ :=
    register_made h_manager h_find rfl h_bears.descriptor h_bears.storage h_request
  obtain ⟨h_layout, h_size⟩ := BufferObject.storage_eq_ok_iff.mp h_bears.storage
  have h_modifier : birth.handle.modifier = none := if_pos h_bears.modifier
  have h_stride : ∀ {id : BufferId} {devices : SystemState} {b' : SystemBuffer},
      devices.buffers.find? id = some b' → systemBackend.stride id devices = b'.stride :=
    fun h_find => congrArg (fun b => (b.map (·.stride)).getD 0) h_find
  refine ⟨device, layout, size, flags, _, b.descriptor, _, _, s', h_calls, h_layout, h_size,
    h_find, h_step, ?_, h_key, ?_, h_object, ?_⟩
  · rw [h_imported, h_stride h_bears.buffer, ← h_bears.stride,
      show systemBackend.modifier _ _ = birth.handle.modifier from h_modifier.symm]
    rfl
  · by_contra h_live
    obtain ⟨o, h_live⟩ := Option.ne_none_iff_exists'.mp h_live
    exact Nat.lt_irrefl _ (h_numbered _ o h_live).2
  · rw [h_stride h_buffer, h_bears.stride]

end Genealogies

/-- A planar image of odd size is created. Its handle is duplicated, the copy is registered by
    another manager, sent on while it is registered, and given up; the manager of the original ends,
    and no buffer is left on the memory. What was sent is sent back. -/
def voyageMoves : List (Move SystemState) :=
  [.client (.create 0 "h" ⟨63, 33⟩ PixelFormat.yv12 Usage.cpuWriteOften),
   .client (.duplicate "h" "c"),
   .client (.register 1 "c"),
   .client (.transfer "c" "d" {} .duplicate),
   .client (.unregister 1 "c"),
   .client (.dropManager 0),
   .client (.transfer "d" "c" {} .duplicate)]

theorem copies_taken_in_voyage :
    ((start systemBackend {} [.full, .full]).play systemBackend
        voyageMoves).world.objects.values = [] ∧
      ∃ birth size id s',
        ((start systemBackend {} [.full, .full]).genealogy voyageMoves).births "c" = some birth ∧
        birth.handle.format.physicalExtent birth.handle.size = .ok size ∧
        ((start systemBackend {} [.full, .full]).genealogy voyageMoves).session.step systemBackend
          (.register 1 "c") = (.done, s') ∧
        systemBackend.stride id s'.world.env.devices = birth.handle.stride := by
  have h_births : (((start systemBackend {} [.full, .full]).genealogy
      voyageMoves).births "c").isSome = true := by decide +kernel
  obtain ⟨birth, h_birth⟩ := Option.isSome_iff_exists.mp h_births
  have h_kept : Obeys (after systemBackend) MemoriesKept (start systemBackend {} [.full, .full])
      voyageMoves := by simp only [voyageMoves, Obeys, MemoriesKept, and_self]
  obtain ⟨_, _, size, _, _, _, id, _, s', -, -, h_size, -, h_step, -, -, -, -, h_stride⟩ :=
    copies_taken_in (m := 1) h_kept rfl h_birth (by decide +kernel) (by decide +kernel)
  exact ⟨by decide +kernel, birth, size, id, s', h_birth, h_size, h_step, h_stride⟩

end Session

end GraphicsBuffer
