/-
  GraphicsBuffer.Proofs.Session.LockState

  The lock state of live buffers. Whatever a client does, whatever arrives from elsewhere and
  whatever the devices answer, a live buffer is mapped exactly while it is locked for CPU usage,
  an unlocked buffer is locked for nothing, and a corner is recorded only next to a mapping.
-/

import GraphicsBuffer.Backend.System
import GraphicsBuffer.Proofs.BufferObject.CpuUse
import GraphicsBuffer.Proofs.Session.Invariant

namespace GraphicsBuffer

open BufferObject (LockInvariant maxLockCount)

/-! ## Changes of the objects -/

namespace World

variable {σ : Type} {B : Backend σ} {w w' : World σ}

/-- The lock state of every live object is sound. -/
def LocksSound (objects : Table BufferId BufferObject) : Prop :=
  ∀ o ∈ objects.values, LockInvariant o

/-- Every elementary change keeps the lock states sound, if only objects are locked whose counts are
    below the limit. -/
theorem Change.locksSound (h_change : Change B (·.lockCount ≠ maxLockCount) w w')
    (h : LocksSound w.objects) : LocksSound w'.objects :=
  h_change.keeps_each .fresh (fun h_count h_o h_lock => h_o.of_lock h_count h_lock)
    (fun h_o h_unlock => h_o.of_unlock h_unlock) h

end World

/-! ## Plays -/

namespace Session

/-- In every state that a play reaches, every live buffer is mapped exactly if it is locked for CPU
    usage, also one whose count has wrapped. -/
theorem mappedForCpu_of_play {σ : Type} (B : Backend σ) (devices : σ) (kinds : List ManagerKind)
    (moves : List (Move σ)) :
    ∀ o ∈ ((start B devices kinds).play B moves).world.objects.values, o.MappedForCpu := by
  refine play_keeps_always (I := fun _ objects => ∀ o ∈ objects.values, o.MappedForCpu)
    (fun h_change h => ?_) (fun _ h => h) devices kinds moves
    (fun _ h_mem => absurd h_mem List.not_mem_nil)
  exact h_change.keeps_each (fun _ => Usage.cpuAccess_empty.symm)
    (fun _ h_o h_lock => h_o.of_lock h_lock) (fun h_o h_unlock => h_o.of_unlock h_unlock) h

/-- Nothing more is done once a live object is locked as often as its count can tell. -/
def CountsBounded {σ : Type} (s : Session σ) (_ : Move σ) : Prop :=
  ∀ o ∈ s.world.objects.values, o.lockCount ≠ maxLockCount

/-- In every state that a play reaches, the lock state of every live buffer object is sound. -/
theorem locks_sound {σ : Type} (B : Backend σ) (devices : σ) (kinds : List ManagerKind)
    (moves : List (Move σ))
    (h_counts : Obeys (after B) CountsBounded (start B devices kinds) moves) :
    ∀ o ∈ ((start B devices kinds).play B moves).world.objects.values, LockInvariant o := by
  -- a change of the devices touches no object, so it may be any
  refine play_keeps (I := fun _ objects => World.LocksSound objects) CountsBounded
    World.Change.locksSound (fun _ _ _ h => h) (fun _ _ h_bounded => h_bounded) ?_ h_counts
  exact fun _ h_mem => absurd h_mem List.not_mem_nil

/-- A buffer is created, locked to be painted, locked again beyond the region that is mapped, and
    unlocked behind a change of the devices. -/
def paintMoves : List (Move SystemState) :=
  [.client (.create 0 "h" ⟨8, 8⟩ PixelFormat.rgba8888 Usage.cpuWriteOften),
   .client (.lock 0 "h" ⟨Usage.cpuWriteOften, ⟨0, 0, 4, 4⟩⟩),
   .client (.lock 0 "h" ⟨Usage.cpuWriteOften, ⟨0, 0, 8, 8⟩⟩),
   .outside {},
   .client (.unlock 0 "h")]

theorem locks_sound_paint :
    Obeys (after systemBackend) CountsBounded (start systemBackend {} [.full]) paintMoves ∧
      ((start systemBackend {} [.full]).play systemBackend
        (paintMoves.take 3)).world.objects.values.map (fun o => (o.isMapped, o.lockCount)) =
          [(true, 1)] ∧
      ∀ o ∈ ((start systemBackend {} [.full]).play systemBackend paintMoves).world.objects.values,
        LockInvariant o := by
  have h_counts : Obeys (after systemBackend) CountsBounded (start systemBackend {} [.full])
      paintMoves := by
    refine ⟨?_, ?_, ?_, ?_, ?_, True.intro⟩ <;> unfold CountsBounded <;> decide +kernel
  exact ⟨h_counts, by decide +kernel, locks_sound systemBackend {} [.full] paintMoves h_counts⟩

end Session

end GraphicsBuffer
