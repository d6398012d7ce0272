/-
  GraphicsBuffer.Proofs.Session.SharedMemory

  Memory is shared exactly along transfers. On the allocator on shared memory, handles that go back
  to one creation show the same bytes wherever they are locked, those that go back to different
  creations never show each other's, and a lock gives the start of the memory.
-/

import GraphicsBuffer.Proofs.Session.Commons
import GraphicsBuffer.Proofs.World.Cover

namespace GraphicsBuffer.Commons

open BufferObject (maxLockCount)
open World (Change)

section Uses

variable [PageSize]

/-! ## What can be touched -/

/-- A session that begins with managers of the given kinds, on a kernel. -/
def start (kernel : Kernel) (kinds : List ManagerKind) : Commons :=
  { session := Session.start systemBackend { kernel } kinds }

/-- Nothing more is done once a live object is locked as often as its count can tell. -/
def CountsBounded (c : Commons) (_ : Use) : Prop :=
  ∀ o ∈ c.session.world.objects.values, o.lockCount ≠ maxLockCount

/-- While the object of a handle is mapped, all bytes of the handle's memory can be read at its
    address, and can be written there if the object is locked to be written. -/
def Touchable (c : Commons) : Prop :=
  ∀ {m l k handle o a}, c.origins l = some k → c.session.handles.find? l = some handle →
    c.session.world.object? m handle = some o → o.address? = some a →
    ∃ (i : MemoryId) (memory : Memory), handle.descriptor = some (.memory i) ∧
      c.session.kernel.memories[i]? = some memory ∧
      (∀ offset count, offset + count ≤ memory.size →
        ∃ bytes, c.session.kernel.load a offset count = .ok bytes) ∧
      (o.lockedFor.cpuWrites = true → ∀ offset bytes, offset + List.length bytes ≤ memory.size →
        ∃ kernel, c.session.kernel.store a offset bytes = .ok kernel)

theorem Sound.start {kernel : Kernel} (h_given : kernel.MappingsGiven) (kinds : List ManagerKind) :
    (start kernel kinds).Sound fun _ => none where
  settled := .start h_given kinds
  homes := ⟨nofun, nofun, nofun, fun _ => rfl⟩
  housing := ⟨nofun, nofun⟩
  grants := nofun

/-- Every proper use keeps the invariant. -/
theorem Sound.next {home : BufferId → Option MemoryId} {c : Commons} (h : c.Sound home) {u : Use}
    (h_proper : c.Proper u) : ∃ home', (c.next u).Sound home' := by
  cases u with
  | step step => exact h.take h_proper
  | write a offset bytes => exact ⟨home, h.write h_proper⟩

/-- What holds in addition while the counts of locks stay below their limit. -/
abbrev Ready (c : Commons) : Prop := Equipped c.session.world.env c.session.world.objects

theorem Ready.start (kernel : Kernel) (kinds : List ManagerKind) : (start kernel kinds).Ready where
  provided := ⟨nofun, ⟨nofun, nofun⟩, nofun⟩
  locks _ h_mem := absurd h_mem List.not_mem_nil
  covered := nofun

theorem Ready.next {home : BufferId → Option MemoryId} {c : Commons} (h : c.Ready)
    (h_sound : c.Sound home) {u : Use} (h_proper : c.Proper u) (h_counts : c.CountsBounded u) :
    (c.next u).Ready := by
  cases u with
  | step step =>
    have h_effect := (Session.after_effect (B := systemBackend) h_sound.settled.accounted h_counts
      (.client step)).resolve_left fun ⟨_, h_outside⟩ => nomatch h_outside
    exact h_effect.keeps (I := Equipped) Change.equipped h
  | write a offset bytes =>
    have h_provided := (h_sound.write h_proper).settled.provided
    simp only [Commons.next, Commons.write] at h_provided ⊢
    rcases h_store : c.session.kernel.store a offset bytes with why | kernel
    · exact h
    · -- the mappings are the same, and so are the objects
      rw [h_store] at h_provided
      obtain ⟨record, m, -, -, rfl⟩ := Kernel.store_eq_ok h_store
      exact ⟨h_provided, h.locks, h.covered⟩

theorem Sound.touchable {home : BufferId → Option MemoryId} {c : Commons} (h : c.Sound home)
    (h_ready : c.Ready) : c.Touchable := by
  intro m l k handle o a h_origin h_find h_object h_address
  obtain ⟨mapping, h_mapping, rfl⟩ := Option.map_eq_some_iff.mp h_address
  obtain ⟨id, -, h_live⟩ := World.object?_eq_some_iff.mp h_object
  obtain ⟨i, -, h_descriptor, h_opens⟩ :=
    h.housing.opens h.settled h_origin h_find h_object h_mapping
  obtain ⟨record, h_record, h_access⟩ := h_ready.covered id o h_live mapping h_mapping
  obtain ⟨memory, h_memory, -⟩ := h_opens.whole
  refine ⟨i, memory, h_descriptor, h_memory, fun offset count h_inside => ?_,
    fun h_writes offset bytes h_inside => ?_⟩
  · have h_read := FlagSet.subset_trans (Usage.read_subset_access o.lockedFor) h_access
    rw [Kernel.load, h_opens.touchable h_memory h_record h_read h_inside]
    exact ⟨_, rfl⟩
  · have h_write := FlagSet.subset_trans (Usage.write_subset_access h_writes) h_access
    rw [Kernel.store, h_opens.touchable h_memory h_record h_write h_inside]
    exact ⟨_, rfl⟩

/-! ## Sharing -/

/-- What a client finds who shares memory by way of handles. -/
structure SharesMemory (c : Commons) : Prop where
  /-- What is read through an address that a lock of a handle gave is what was written last, at the
      offset from the address, through such an address of a handle that goes back to the same
      creation; it is zero where nothing was. -/
  reads : ∀ {a k offset count bytes}, c.grants a = some k →
    c.session.kernel.load a offset count = .ok bytes →
    bytes = (List.range count).map fun i => lastWritten c.writings k (offset + i)
  /-- Such an address is the start of a memory, all of which is mapped. -/
  starts : ∀ {a k}, c.grants a = some k → a.offset = 0 ∧ ∀ {record memory},
    c.session.kernel.reach? a = some (record, memory) → record.length = memory.size
  /-- Nothing has been written for a creation to come. -/
  fresh : ∀ {k}, c.session.world.env.nextBuffer ≤ k → lastWritten c.writings k = fun _ => 0
  /-- No step changes a memory. -/
  still : ∀ step {i : MemoryId} {memory}, c.session.kernel.memories[i]? = some memory →
    (c.session.step systemBackend step).2.kernel.memories[i]? = some memory
  /-- A lock for the CPU that is granted gives the address of the object that the handle stands for,
      which is locked for the usage from then on. The address is known to be given for the creation
      that the handle goes back to. -/
  locked : ∀ {m l request address previous},
    (c.session.step systemBackend (.lock m l request)).1 = .locked address previous →
    request.usage.cpuAccess = true → ∃ a handle o, address = some a ∧
      (c.take (.lock m l request)).session.handles.find? l = some handle ∧
      (c.take (.lock m l request)).session.world.object? m handle = some o ∧
      o.address? = some a ∧ request.usage ⊆ o.lockedFor ∧
      ∀ {k}, c.origins l = some k → (c.take (.lock m l request)).grants a = some k

theorem Sound.sharesMemory {home : BufferId → Option MemoryId} {c : Commons} (h : c.Sound home) :
    c.SharesMemory where
  reads h_grant h_load := by
    obtain ⟨i, h_home, h_opens⟩ := h.grants h_grant
    obtain ⟨m, h_memory, h_contents⟩ := h.homes.memory h_home
    obtain ⟨m', h_memory', rfl⟩ := h_opens.load h_load
    obtain rfl := Option.some.inj (h_memory.symm.trans h_memory')
    rw [Memory.read, h_contents]
  starts h_grant := by
    obtain ⟨i, -, h_opens⟩ := h.grants h_grant
    refine ⟨h_opens.offset, fun h_reach => ?_⟩
    obtain ⟨h_record, h_memory⟩ := Kernel.reach?_eq_some_iff.mp h_reach
    obtain ⟨m, h_m, h_whole⟩ := h_opens.whole
    obtain ⟨rfl, h_length⟩ := h_whole _ h_record
    obtain rfl := Option.some.inj (h_memory.symm.trans h_m)
    exact h_length
  fresh h_le := h.homes.unwritten <| Option.eq_none_iff_forall_ne_some.mpr fun _ h_home =>
    Nat.not_lt.mpr h_le (h.homes.given h_home)
  still step _ _ h_memory := (h.settled.acts_of_step step).memory h_memory
  locked {m l request address previous} h_answer h_cpu := by
    have h_lock : c.session.step systemBackend (.lock m l request) =
        (.locked address previous, (c.take (.lock m l request)).session) := Prod.ext h_answer rfl
    obtain ⟨handle, o, h_find, h_object, h_address, h_usage, h_some⟩ :=
      Session.lock_granted h.settled.provided.numbered h_lock
    obtain ⟨a, rfl⟩ := h_some h_cpu
    refine ⟨a, handle, o, rfl, h_find, h_object, h_address, h_usage, fun h_origin => ?_⟩
    show c.granted _ (c.session.step systemBackend (.lock m l request)).1 a = _
    rw [h_answer]
    simp only [granted, h_origin, Function.update_self]

/-- In every state that a client reaches whose handles come from creations, copies and transfers of
    their own descriptors, memory is shared exactly along those, in whatever managers the handles
    are registered, unregistered and registered again. As long as the counts of locks stay below
    their limit, every byte of a memory can be reached through every lock for the CPU. -/
theorem memory_shared_along_transfers {kernel : Kernel} (h_given : kernel.MappingsGiven)
    {kinds : List ManagerKind} {uses : List Use}
    (h_proper : Obeys next Proper (start kernel kinds) uses) :
    (uses.foldl next (start kernel kinds)).SharesMemory ∧
      (Obeys next CountsBounded (start kernel kinds) uses →
        (uses.foldl next (start kernel kinds)).Touchable) := by
  have h_sound : ∃ home, (uses.foldl next (start kernel kinds)).Sound home :=
    h_proper.invariant (I := fun c => ∃ home, c.Sound home)
      (fun _ _ ⟨_, h⟩ h_use => h.next h_use) ⟨_, .start h_given kinds⟩
  obtain ⟨home, h⟩ := h_sound
  refine ⟨h.sharesMemory, fun h_counts => h.touchable ?_⟩
  have h_both : (∃ home, (uses.foldl next (start kernel kinds)).Sound home) ∧
      (uses.foldl next (start kernel kinds)).Ready :=
    (h_proper.and h_counts).invariant (I := fun c => (∃ home, c.Sound home) ∧ c.Ready)
      (fun _ _ ⟨⟨_, h_c⟩, h_ready⟩ h_use =>
        ⟨h_c.next h_use.1, h_ready.next h_c h_use.1 h_use.2⟩)
      ⟨⟨_, .start h_given kinds⟩, .start kernel kinds⟩
  exact h_both.2

end Uses

/-- A buffer is created, and its handle sent to another manager. It is locked away from the corner
    and written to, and its registration is given up. Another buffer is created and written to. The
    handle that was sent is registered, unregistered and registered again, and locked to be read. -/
def parcelUses : List Use :=
  [.step (.create 0 "h" ⟨8, 8⟩ PixelFormat.rgba8888 (Usage.cpuReadOften ∪ Usage.cpuWriteOften)),
   .step (.transfer "h" "c" {} .duplicate),
   .step (.lock 0 "h" ⟨Usage.cpuWriteOften, ⟨2, 3, 4, 4⟩⟩),
   .write ⟨1, 0⟩ 5 [7, 8],
   .step (.unlock 0 "h"),
   .step (.unregister 0 "h"),
   .step (.create 0 "other" ⟨8, 8⟩ PixelFormat.rgba8888 Usage.cpuWriteOften),
   .step (.lock 0 "other" ⟨Usage.cpuWriteOften, ⟨0, 0, 8, 8⟩⟩),
   .write ⟨2, 0⟩ 4 [1, 2, 3],
   .step (.register 1 "c"),
   .step (.unregister 1 "c"),
   .step (.register 1 "c"),
   .step (.lock 1 "c" ⟨Usage.cpuReadOften, ⟨1, 1, 2, 2⟩⟩)]

theorem memory_shared_along_transfers_parcel :
    Obeys next Proper (start {} [.full, .full]) parcelUses ∧
      Obeys next CountsBounded (start {} [.full, .full]) parcelUses ∧
      (parcelUses.foldl next (start {} [.full, .full])).session.kernel.load ⟨3, 0⟩ 4 4 =
        .ok [0, 7, 8, 0] := by
  have h_proper : Obeys next Proper (start {} [.full, .full]) parcelUses := by
    refine ⟨True.intro, True.intro, True.intro, ?_, True.intro, True.intro, True.intro, True.intro,
      ?_, True.intro, True.intro, True.intro, True.intro, True.intro⟩ <;>
      unfold Proper <;> decide +kernel
  have h_counts : Obeys next CountsBounded (start {} [.full, .full]) parcelUses := by
    refine ⟨?_, ?_, ?_, ?_, ?_, ?_, ?_, ?_, ?_, ?_, ?_, ?_, ?_, True.intro⟩ <;>
      unfold CountsBounded <;> decide +kernel
  have h_given : Kernel.MappingsGiven {} := fun _ _ h_find => nomatch h_find
  obtain ⟨h_shares, h_touchable⟩ := memory_shared_along_transfers h_given h_proper
  obtain ⟨handle, h_find, o, h_object, h_address⟩ :
      ∃ handle, (parcelUses.foldl next (start {} [.full, .full])).session.handles.find? "c" =
        some handle ∧ ∃ o, (parcelUses.foldl next (start {} [.full, .full])).session.world.object? 1
          handle = some o ∧ o.address? = some ⟨3, 0⟩ := by
    have h_there :
        (((parcelUses.foldl next (start {} [.full, .full])).session.handles.find? "c").bind
          fun handle => ((parcelUses.foldl next (start {} [.full, .full])).session.world.object? 1
            handle).bind (·.address?)) = some ⟨3, 0⟩ := by decide +kernel
    simpa only [Option.bind_eq_some_iff] using h_there
  -- all memories are a page long, so the bytes can be read; they are those that were written
  have h_page :
      ∀ memory ∈ (parcelUses.foldl next (start {} [.full, .full])).session.kernel.memories,
      4 + 4 ≤ memory.size := by decide +kernel
  obtain ⟨i, memory, -, h_memory, h_reads, -⟩ := h_touchable h_counts
    (show _ = some 1 by decide +kernel) h_find h_object h_address
  obtain ⟨bytes, h_load⟩ := h_reads 4 4 (h_page memory (List.mem_of_getElem? h_memory))
  have h_bytes := h_shares.reads (show _ = some 1 by decide +kernel) h_load
  have h_written : (List.range 4).map (fun i =>
      lastWritten (parcelUses.foldl next (start {} [.full, .full])).writings 1 (4 + i)) =
        [0, 7, 8, 0] := by decide +kernel
  exact ⟨h_proper, h_counts, by rw [h_load, h_bytes, h_written]⟩

end GraphicsBuffer.Commons
