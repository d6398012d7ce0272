/-
  GraphicsBuffer.Proofs.Session.MappedRegion

  Mapped regions lie inside their memories. On the allocator on shared memory, whatever bytes and
  descriptors handles are rebuilt from and whatever a client does with them, the region that a
  buffer is mapped for lies inside the bytes that are mapped, and these inside the memory.
-/

import GraphicsBuffer.Proofs.Session.Invariant
import GraphicsBuffer.Proofs.World.Provision

namespace GraphicsBuffer

open World (Change)

/-! ## Regions -/

/-- The region that an object is mapped for, if there is one, lies inside its memory: in unbounded
    arithmetic, it ends before the memory as it was measured when the buffer was made, all of which
    is mapped from the first byte on and none of which has gone since. -/
def RegionInside (s : SystemState) (o : BufferObject) : Prop :=
  ∀ mapping, o.mapping = some mapping →
    0 < o.mappedCorner.right.toNat → 0 < o.mappedCorner.bottom.toNat →
    ∃ (b : SystemBuffer) (n : MemoryId) (m : Memory) (access : Access),
      s.buffers.find? o.id = some b ∧ b.descriptor = .memory n ∧
      s.kernel.memories[n]? = some m ∧ b.size ≤ m.size ∧
      s.kernel.mappings.find? mapping.address.mapping = some ⟨n, b.size, access⟩ ∧
      mapping.address.offset = 0 ∧ mapping.stride = b.stride ∧
      (o.mappedCorner.bottom.toNat - 1) * b.stride.toNat +
        o.mappedCorner.right.toNat * b.bytesPerPixel.toNat ≤ b.size

theorem Provided.regionInside {env : Env SystemState} {objects : Table BufferId BufferObject}
    (h : Provided env objects) {id : BufferId} {o : BufferObject}
    (h_live : objects.find? id = some o) : RegionInside env.devices o := by
  intro mapping h_mapping _ h_bottom
  obtain ⟨b, h_find, h_facts⟩ := h.backed id o h_live
  obtain ⟨h_same, h_offset, h_stride, h_fits⟩ := h_facts mapping h_mapping
  obtain ⟨-, h_b⟩ := h.devices.buffers o.id b h_find
  obtain ⟨-, n, access, h_descriptor, h_mapped⟩ := h_b.mapped _ h_same
  obtain ⟨size, h_end, h_size⟩ := h_b.memory
  -- the descriptor that was mapped is the one whose end was measured
  rw [h_descriptor] at h_end
  obtain ⟨m, h_memory, rfl⟩ := Kernel.endOf_memory_eq_ok_iff.mp h_end
  exact ⟨b, n, m, access, h_find, h_descriptor, h_memory, h_size, h_mapped, h_offset, h_stride,
    h_b.region_le h_fits h_bottom⟩

/-! ## Plays -/

namespace Session

/-- What happens behind a session's back leaves its buffers undisturbed. -/
def BuffersKept (s : Session SystemState) : Move SystemState → Prop
  | .outside devices => s.world.env.devices.Undisturbed devices
  | _ => True

/-- In every state that a play reaches from a kernel with any memories, whatever bytes and
    descriptors arrive and whatever a client does with the handles, the region that a live buffer
    is mapped for lies inside its memory. -/
theorem mapped_regions_inside [PageSize] (kernel : Kernel) (kinds : List ManagerKind)
    (moves : List (Move SystemState))
    (h_kept : Obeys (after systemBackend) BuffersKept (start systemBackend { kernel } kinds)
      moves) :
    ∀ id o, ((start systemBackend { kernel } kinds).play systemBackend
        moves).world.objects.find? id = some o →
      RegionInside ((start systemBackend { kernel } kinds).play systemBackend
        moves).world.env.devices o := by
  have h_change : ∀ {w w'}, Change systemBackend (fun _ => True) w w' →
      Provided w.env w.objects → Provided w'.env w'.objects := Change.provided
  have h : Provided ((start systemBackend { kernel } kinds).play systemBackend moves).world.env
      ((start systemBackend { kernel } kinds).play systemBackend moves).world.objects := by
    refine play_keeps (I := Provided) BuffersKept h_change ?_ (fun _ _ _ _ _ => True.intro)
      ⟨nofun, ⟨nofun, nofun⟩, nofun⟩ h_kept
    -- what happens outside leaves the buffers as they are, so objects stay backed
    intro s devices h_rule h_before
    refine ⟨h_before.numbered, h_before.devices.undisturbed h_rule, fun id o h_live => ?_⟩
    exact (h_before.backed id o h_live).of_find? (by rw [h_rule.buffers])
  exact fun id o h_live => h.regionInside h_live

/-- The handle of an image of sixteen by sixteen pixels, as another process would flatten it. -/
def foreignHandle : Handle :=
  { Handle.new ⟨16, 16⟩ PixelFormat.rgba8888 Usage.cpuWriteOften with stride := 64 }

/-- A memory arrives and is cut to one page, then bytes arrive that describe an image in it. The
    handle that is rebuilt from them is registered, made wider behind its buffer's back, and
    locked. -/
def foreignMoves : List (Move SystemState) :=
  [.outside { kernel := { memories := [⟨[], 8192, false, fun _ => 0⟩] } },
   .outside { kernel := { memories := [⟨[], 4096, false, fun _ => 0⟩] } },
   .receive "h" foreignHandle.toWire.encode (some (.memory 0)),
   .client (.register 0 "h"),
   .client (.assign "h" { width := some 1000 }),
   .client (.lock 0 "h" ⟨Usage.cpuWriteOften, ⟨4, 4, 12, 12⟩⟩)]

theorem mapped_regions_inside_foreign :
    Obeys (after systemBackend) BuffersKept (start systemBackend { kernel := {} } [.full])
        foreignMoves ∧
      ((start systemBackend { kernel := {} } [.full]).play systemBackend
        foreignMoves).world.objects.values.map (fun o => (o.isMapped, o.mappedCorner)) =
          [(true, ⟨16, 16⟩)] ∧
      ∀ id o, ((start systemBackend { kernel := {} } [.full]).play systemBackend
          foreignMoves).world.objects.find? id = some o →
        RegionInside ((start systemBackend { kernel := {} } [.full]).play systemBackend
          foreignMoves).world.env.devices o := by
  have h_kept : Obeys (after systemBackend) BuffersKept
      (start systemBackend { kernel := {} } [.full]) foreignMoves :=
    ⟨⟨rfl, nofun, nofun, Nat.le_refl _⟩, ⟨rfl, nofun, nofun, Nat.le_refl _⟩, True.intro, True.intro,
      True.intro, True.intro, True.intro⟩
  exact ⟨h_kept, by decide +kernel, mapped_regions_inside {} [.full] foreignMoves h_kept⟩

end Session

end GraphicsBuffer
