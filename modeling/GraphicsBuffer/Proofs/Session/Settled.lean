/-
  GraphicsBuffer.Proofs.Session.Settled

  All that is known of a session on the allocator on shared memory in every state that a play
  reaches: which numbers have been given out, what belongs to what, and that nothing belongs to two.
-/

import GraphicsBuffer.Proofs.Session.Exclusive
import GraphicsBuffer.Proofs.Session.MappedRegion
import GraphicsBuffer.Proofs.World.Acts

namespace GraphicsBuffer.Session

open Kernel (Acts)
open World (Change)

/-! ## The kernel of a session -/

variable {lockable : BufferObject → Prop} {s s' : Session SystemState}

/-- The kernel that a session runs on. -/
abbrev kernel (s : Session SystemState) : Kernel := s.world.env.devices.kernel

theorem Effect.acts [PageSize] {deed : Option Deed}
    (h_effect : Effect systemBackend lockable s deed s') :
    Acts s.kernel s'.kernel :=
  h_effect.keeps (I := fun env _ => Acts s.kernel env.devices.kernel)
    (fun h_change h_before => h_before.trans h_change.acts) .refl

/-- A move makes memories, and makes and ends mappings, unless it is made from outside. -/
theorem Accounted.acts [PageSize] (h : Accounted [] s) (m : Move SystemState) :
    (∃ devices, m = .outside devices) ∨ Acts s.kernel (s.after systemBackend m).kernel :=
  (h.effect m).imp_right Effect.acts

/-! ## Settled sessions -/

/-- What holds of a session in every state that a play reaches. -/
structure Settled (s : Session SystemState) : Prop where
  accounted : Accounted [] s
  provided : Provided s.world.env s.world.objects
  own : EntriesOwn s
  keys : ∃ deeds, RegistrySound s deeds
  given : s.kernel.MappingsGiven

/-- What happens behind a session's back leaves its buffers undisturbed and takes no number of a
    mapping that has not been given out. -/
def MappingsKept (s : Session SystemState) : Move SystemState → Prop
  | .outside devices =>
    s.world.env.devices.Undisturbed devices ∧ devices.kernel.MappingsGiven
  | _ => True

namespace Settled

variable [PageSize]

theorem start {kernel : Kernel} (h_given : kernel.MappingsGiven) (kinds : List ManagerKind) :
    Settled (start systemBackend { kernel } kinds) where
  accounted := .start ..
  provided := ⟨nofun, ⟨nofun, nofun⟩, nofun⟩
  own := .start ..
  keys := ⟨[], .start ..⟩
  given := h_given

/-- Every move keeps a session settled, if what happens behind its back leaves the mappings. -/
theorem after (h : Settled s) (m : Move SystemState) (h_kept : MappingsKept s m) :
    Settled (s.after systemBackend m) := by
  obtain ⟨deeds, h_sound⟩ := h.keys
  have h_next : RegistrySound (s.after systemBackend m) _ :=
    RegistrySound.next (B := systemBackend) (c := ⟨s, deeds⟩) h.accounted h_sound m
  suffices h_devices : Provided (s.after systemBackend m).world.env
      (s.after systemBackend m).world.objects ∧ (s.after systemBackend m).kernel.MappingsGiven from
    ⟨h.accounted.of_after m, h_devices.1, h.own.of_after h.accounted h.provided.numbered m,
      ⟨_, h_next⟩, h_devices.2⟩
  rcases h.accounted.effect (B := systemBackend) m with ⟨devices, rfl⟩ | h_effect
  · -- what happens outside leaves the buffers as they are, so objects stay backed
    obtain ⟨h_rule, h_new⟩ := h_kept
    refine ⟨⟨h.provided.numbered, h.provided.devices.undisturbed h_rule, fun id o h_live => ?_⟩,
      h_new⟩
    have h_same : devices.buffers.find? o.id = s.world.env.devices.buffers.find? o.id := by
      rw [h_rule.buffers]
    exact (h.provided.backed id o h_live).of_find? h_same
  · exact h_effect.keeps
      (I := fun env objects => Provided env objects ∧ env.devices.kernel.MappingsGiven)
      (fun h_change h_before =>
        ⟨h_change.provided h_before.1, h_change.acts.mappingsGiven h_before.2⟩)
      ⟨h.provided, h.given⟩

theorem step (h : Settled s) (step : Step) : Settled (s.step systemBackend step).2 :=
  h.after (.client step) True.intro

end Settled

/-- A state that some play reaches, on some kernel and with some managers. -/
def Reached [PageSize] (s : Session SystemState) : Prop :=
  ∃ (kernel : Kernel) (kinds : List ManagerKind) (moves : List (Move SystemState)),
    kernel.MappingsGiven ∧
      Obeys (after systemBackend) MappingsKept (start systemBackend { kernel } kinds) moves ∧
      s = (start systemBackend { kernel } kinds).play systemBackend moves

theorem Reached.settled [PageSize] (h : Reached s) : Settled s := by
  obtain ⟨kernel, kinds, moves, h_given, h_kept, rfl⟩ := h
  exact Obeys.invariant (fun _ m h h_rule => h.after m h_rule) (.start h_given kinds) h_kept

namespace Settled

variable (h : Settled s)
include h

theorem key_lt {name : Name} {handle : Handle} {key : Key}
    (h_find : s.handles.find? name = some handle) (h_key : handle.registration = some key) :
    key < s.world.nextKey := by
  obtain ⟨deeds, h_sound⟩ := h.keys
  exact h_sound.keys_used ((key?_of_find? h_find).trans h_key)

theorem entry_lt {place : ManagerId × Key} {id : BufferId}
    (h_entry : s.world.entryAt place = some id) :
    place.2 < s.world.nextKey ∧ id < s.world.env.nextBuffer := by
  obtain ⟨deeds, h_sound⟩ := h.keys
  obtain ⟨manager, h_manager, h_find⟩ := World.entryAt_eq_some_iff.mp h_entry
  obtain ⟨o, h_live⟩ := h.accounted.names id (.inl (World.registered_of_entryAt h_entry))
  exact ⟨h_sound.entries_used h_manager h_find, (h.provided.numbered id o h_live).2⟩

end Settled

end GraphicsBuffer.Session
