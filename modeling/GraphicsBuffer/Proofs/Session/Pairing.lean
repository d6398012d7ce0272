/-
  GraphicsBuffer.Proofs.Session.Pairing

  Calls to map and to unmap pair up. Whatever a client does, whichever calls the backend fails, and
  also when a buffer is let go while it is locked: a buffer is asked for a mapping only while it has
  none, and each mapping that it gave is ended once before anything else is asked of it or it is
  freed.
-/

import GraphicsBuffer.Backend.System
import GraphicsBuffer.Proofs.Session.Operation
import GraphicsBuffer.Proofs.World.Pairing

namespace GraphicsBuffer.Session

open World (MappingsRecorded Operation)

variable {σ : Type} {B : Backend σ} {s : Session σ}

/-- The calls to map and unmap the buffers of a session pair up. -/
structure MappingsPaired (s : Session σ) : Prop where
  /-- A buffer is asked for a mapping only while it has none, a mapping is ended only while it is in
      use, and a buffer is freed only while it is not mapped. -/
  paired : EachCall Paired s.world.env.trace
  /-- Between a call that maps a buffer and the next one that asks for a mapping of it or frees it,
      exactly one call ends a mapping of the buffer, and that is the mapping that was made. -/
  ended_once : ∀ id region access mapping before middle call after,
    s.world.env.trace =
      before ++ .mapped id region access (.ok mapping) :: (middle ++ call :: after) →
    (∀ c ∈ middle, c.opensOrFrees id = false) → call.opensOrFrees id = true →
    middle.filterMap (Call.ended? id) = [mapping]
  /-- A mapping that is in use is the one that the live object of its buffer records. -/
  recorded : ∀ id, activeMapping s.world.env.trace id =
    (s.world.objects.find? id).bind (·.mapping)

/-- The move is not aborted for a mapping whose rows differ from those of its handle. -/
def NotAborted (B : Backend σ) (s : Session σ) (m : Move σ) : Prop :=
  (s.move B m).1 ≠ .failed (.abort .strideMismatch)

/-- A call that asks for a mapping of a buffer or frees it finds the buffer without one. -/
theorem unmapped_of_opensOrFrees {before : List Call} {call : Call} {id : BufferId}
    (h_paired : Paired before call) (h_call : call.opensOrFrees id = true) :
    activeMapping before id = none := by
  cases call with
  | mapped buffer _ _ _ =>
    obtain rfl : buffer = id := by simpa [Call.opensOrFrees] using h_call
    exact h_paired
  | destroyed buffer =>
    obtain rfl : buffer = id := by simpa [Call.opensOrFrees] using h_call
    exact h_paired
  | _ => simp [Call.opensOrFrees] at h_call

theorem ended_once_of_paired {calls before middle after : List Call} {call : Call} {id : BufferId}
    {region : Rect} {access : Access} {mapping : BackendMapping} (h : EachCall Paired calls)
    (h_calls : calls =
      before ++ .mapped id region access (.ok mapping) :: (middle ++ call :: after))
    (h_middle : ∀ c ∈ middle, c.opensOrFrees id = false) (h_call : call.opensOrFrees id = true) :
    middle.filterMap (Call.ended? id) = [mapping] := by
  -- the calls up to the one that maps the buffer, and those up to the one that comes next
  have h_split : calls =
      (before ++ [.mapped id region access (.ok mapping)] ++ middle) ++ call :: after := by
    rw [h_calls, List.append_assoc, List.append_assoc, List.singleton_append]
  have h_last : activeMapping (before ++ [.mapped id region access (.ok mapping)] ++ middle) id =
      none := unmapped_of_opensOrFrees (h _ call after h_split) h_call
  have h_front : EachCall Paired (before ++ [.mapped id region access (.ok mapping)] ++ middle) := by
    intro earlier c later h_eq
    refine h earlier c (later ++ call :: after) ?_
    rw [h_split, h_eq, List.append_assoc, List.cons_append]
  rw [h_front.ended_once h_middle h_last, activeMapping_concat, Call.mappingAfter, if_pos rfl]
  rfl

/-- In every state that a play reaches, on any backend that may fail any call, the calls to map and
    to unmap each buffer pair up. -/
theorem mappings_pair_up (B : Backend σ) (devices : σ) (kinds : List ManagerKind)
    (moves : List (Move σ))
    (h_moves : Obeys (after B) (NotAborted B) (start B devices kinds) moves) :
    MappingsPaired ((start B devices kinds).play B moves) := by
  have h_tolerated : ∀ s m, NotAborted B s m → ∀ f, (s.move B m).1 = .failed f →
      f ≠ .abort .strideMismatch := by
    rintro s m h_rule _ h_answer rfl
    exact h_rule h_answer
  have h_drift : ∀ {w : World σ} (devices : σ), MappingsRecorded w.env w.objects →
      MappingsRecorded { w.env with devices } w.objects :=
    fun _ h => ⟨h.numbered, h.pairing⟩
  have h : MappingsRecorded ((start B devices kinds).play B moves).world.env
      ((start B devices kinds).play B moves).world.objects :=
    play_operates (J := fun w => MappingsRecorded w.env w.objects) (NotAborted B) h_tolerated
      Operation.mappingsRecorded h_drift ⟨nofun, .empty⟩ h_moves
  exact ⟨h.pairing.paired, fun _ _ _ _ _ _ _ _ => ended_once_of_paired h.pairing.paired,
    h.pairing.active_eq⟩

/-- A buffer is locked and unlocked, locked again for a smaller region, kept by a reference, and let
    go by its manager and then by the reference while it is locked. -/
def letGoMoves : List (Move SystemState) :=
  [.client (.create 0 "h" ⟨8, 8⟩ PixelFormat.rgba8888 Usage.cpuWriteOften),
   .client (.lock 0 "h" ⟨Usage.cpuWriteOften, ⟨0, 0, 8, 8⟩⟩),
   .client (.unlock 0 "h"),
   .client (.lock 0 "h" ⟨Usage.cpuWriteOften, ⟨0, 0, 4, 4⟩⟩),
   .client (.hold 0 "h" "o"),
   .client (.unregister 0 "h"),
   .client (.dropManager 0),
   .client (.release "o")]

theorem mappings_pair_up_let_go :
    Obeys (after systemBackend) (NotAborted systemBackend) (start systemBackend {} [.full])
        letGoMoves ∧
      (((start systemBackend {} [.full]).play systemBackend letGoMoves).world.env.trace.filterMap
        (Call.ended? 1)).length = 2 ∧
      freedBy ((start systemBackend {} [.full]).play systemBackend letGoMoves).world.env.trace =
        [1] ∧
      MappingsPaired ((start systemBackend {} [.full]).play systemBackend letGoMoves) := by
  have h_moves : Obeys (after systemBackend) (NotAborted systemBackend)
      (start systemBackend {} [.full]) letGoMoves := by
    refine ⟨?_, ?_, ?_, ?_, ?_, ?_, ?_, ?_, True.intro⟩ <;> unfold NotAborted <;> decide +kernel
  exact ⟨h_moves, by decide +kernel, by decide +kernel,
    mappings_pair_up systemBackend {} [.full] letGoMoves h_moves⟩

end GraphicsBuffer.Session
