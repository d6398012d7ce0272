/-
  GraphicsBuffer.Proofs.Session.Watch

  One buffer of a session on the allocator on shared memory. What lasts of a live object and its
  buffer holds through every play that touches the buffers by way of the session only.
-/

import GraphicsBuffer.Proofs.Session.Invariant
import GraphicsBuffer.Proofs.World.Watch

namespace GraphicsBuffer.Session

open World (Change Watched)

variable [PageSize] {s : Session SystemState} {P : BufferObject → SystemState → Prop}
  {id : BufferId}

/-- Nothing changes the buffers from outside. The kernel may change in any way. -/
def BuffersLeft (s : Session SystemState) : Move SystemState → Prop
  | .outside devices => devices.buffers = s.world.env.devices.buffers
  | _ => True

/-- Changes of the kernel do not matter. -/
theorem watched_drift (h_abiding : Abiding P) {devices : SystemState}
    (h_left : BuffersLeft s (.outside devices)) (h : Watched P id s.world.env s.world.objects) :
    Watched P id { s.world.env with devices } s.world.objects := by
  have h_buffers : devices.buffers = s.world.env.devices.buffers := h_left
  refine h.of_same h_abiding (Nat.le_refl _) ?_
  show devices.buffers.find? id = _
  rw [h_buffers]

theorem watched_after (h_lasting : Lasting P) (h_accounted : Accounted [] s) {m : Move SystemState}
    (h_left : BuffersLeft s m) (h : Watched P id s.world.env s.world.objects) :
    Watched P id (s.after systemBackend m).world.env (s.after systemBackend m).world.objects := by
  rcases h_accounted.effect m with ⟨devices, rfl⟩ | h_effect
  · exact watched_drift h_lasting.toAbiding h_left h
  · exact h_effect.keeps (I := Watched P id)
      (fun h_change h_before => h_change.watched h_lasting h_before) h

theorem watched_play (h_lasting : Lasting P) (h_accounted : Accounted [] s)
    (h : Watched P id s.world.env s.world.objects) {moves : List (Move SystemState)}
    (h_left : Obeys (after systemBackend) BuffersLeft s moves) :
    Watched P id (s.play systemBackend moves).world.env
      (s.play systemBackend moves).world.objects :=
  h_accounted.keeps_along (J := fun s => Watched P id s.world.env s.world.objects)
    (fun h_before h_move h => watched_after h_lasting h_before h_move h) h h_left

end GraphicsBuffer.Session
