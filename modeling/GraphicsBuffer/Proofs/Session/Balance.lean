/-
  GraphicsBuffer.Proofs.Session.Balance

  No buffer is leaked and none is freed twice. Whatever a client does with managers, handles and
  references, and whichever calls the backend fails, a buffer that was made is alive exactly while
  a manager's table or a reference names it.
-/

import GraphicsBuffer.Proofs.Session.Operation
import GraphicsBuffer.Proofs.World.Ledger
import GraphicsBuffer.Proofs.World.Ownership
import Mathlib.Data.List.Dedup

namespace GraphicsBuffer

open World (Balanced Change Numbered Operation Owned)

/-! ## Failures -/

namespace World

variable {σ : Type} {B : Backend σ} {w w' : World σ} {m : ManagerId}

/-- A buffer whose descriptor cannot be had while a handle is created is freed before the operation
    ends, and an operation that fails leaves no buffer behind. -/
theorem create_frees {size : Extent} {format : PixelFormat} {usage : Usage}
    {answer : Outcome Handle} (h_create : w.create B m size format usage = (answer, w')) :
    (∀ id f, .exported id (.error f) ∈ w.env.callsSince w'.env →
        .destroyed id ∈ w.env.callsSince w'.env) ∧
      ∀ f, answer = .error f →
        madeBy (w.env.callsSince w'.env) = freedBy (w.env.callsSince w'.env) := by
  unfold create at h_create
  rcases h_manager : w.manager? m with _ | manager
  · simp only [h_manager] at h_create
    obtain ⟨rfl, rfl⟩ := Prod.mk.inj h_create
    have h_calls : w.env.callsSince w.env = [] := Env.callsSince_of_still rfl
    rw [h_calls]
    exact ⟨fun _ _ h_mem => absurd h_mem List.not_mem_nil, fun _ _ => rfl⟩
  rcases h_call : BufferObject.allocate B m (Handle.new size format usage) w.env with ⟨made, env⟩
  have h_env : w'.env = env ∧ ∀ f, answer = .error f → ∃ g, made = .error g := by
    rcases made with f | ⟨o, h'⟩
    · simp only [h_manager, h_call] at h_create
      obtain ⟨rfl, rfl⟩ := Prod.mk.inj h_create
      exact ⟨rfl, fun _ _ => ⟨f, rfl⟩⟩
    · simp only [h_manager, h_call] at h_create
      obtain ⟨rfl, rfl⟩ := Prod.mk.inj h_create
      exact ⟨rfl, by simp⟩
  obtain ⟨rfl, h_failed⟩ := h_env
  rcases BufferObject.allocate_trace h_call with ⟨_, calls, -, -, h_trace, h_calls⟩ |
    ⟨f, _, _, -, -, h_trace⟩ | ⟨_, _, _, _, rfl, -, h_trace⟩
  · -- no buffer was made, so none was asked for its descriptor
    rw [Env.callsSince_of_trace h_trace]
    have h_silent : ∀ call ∈ calls, call.made? = none ∧ call.freed? = none := by
      intro call h_mem
      obtain ⟨_, _, _, rfl⟩ := h_calls call h_mem
      exact ⟨rfl, rfl⟩
    refine ⟨fun id g h_mem => ?_, fun _ _ => ?_⟩
    · obtain ⟨_, _, _, h_eq⟩ := h_calls _ h_mem
      cases h_eq
    · rw [madeBy, freedBy, List.filterMap_eq_nil_iff.mpr fun call h_mem => (h_silent call h_mem).1,
        List.filterMap_eq_nil_iff.mpr fun call h_mem => (h_silent call h_mem).2]
  · rw [Env.callsSince_of_trace h_trace]
    refine ⟨fun id g h_mem => ?_, fun _ _ => rfl⟩
    obtain ⟨rfl, -⟩ : id = w.env.nextBuffer ∧ g = f := by simpa using h_mem
    exact List.mem_cons_of_mem _ (List.mem_cons_of_mem _ List.mem_cons_self)
  · rw [Env.callsSince_of_trace h_trace]
    refine ⟨fun id g h_mem => by simp at h_mem, fun f h_error => ?_⟩
    obtain ⟨g, h_made⟩ := h_failed f h_error
    cases h_made

/-- Registering a handle that fails leaves no buffer behind. -/
theorem register_makes_none {h : Handle} {f : Failure}
    (h_register : w.register B m h = (.error f, w')) :
    madeBy (w.env.callsSince w'.env) = [] := by
  have h_still : madeBy (w.env.callsSince w.env) = [] := by
    rw [Env.callsSince_of_still rfl]
    rfl
  unfold register at h_register
  rcases h_resolve : w.resolve B m true h with ⟨g | ⟨_ | id, h'⟩, w₁⟩
  · rw [h_resolve] at h_register
    obtain ⟨-, rfl⟩ := Prod.mk.inj h_register
    unfold resolve at h_resolve
    rcases h_owned : h.registration.isSome with _ | _
    · rcases h_manager : w.manager? m with _ | manager
      · simp [h_owned, h_manager] at h_resolve
      simp only [h_owned, h_manager, Bool.false_eq_true, if_false] at h_resolve
      rcases h_call : BufferObject.importFrom B m h (w.env.note (.adopting h.descriptor.isSome))
        with ⟨g' | o, env⟩
      · rw [h_call] at h_resolve
        obtain ⟨-, rfl⟩ := Prod.mk.inj h_resolve
        rcases BufferObject.importFrom_trace h_call with ⟨_, calls, -, -, h_trace, h_calls⟩ |
          ⟨_, h_ok, -⟩
        · rw [show w.env.callsSince env = calls from Env.callsSince_of_trace h_trace]
          refine List.filterMap_eq_nil_iff.mpr fun call h_mem => ?_
          obtain ⟨_, _, rfl⟩ := h_calls call h_mem
          rfl
        · exact nomatch h_ok
      · rw [h_call] at h_resolve
        exact nomatch (Prod.mk.inj h_resolve).1
    · simp [h_owned] at h_resolve
  · -- a handle of another manager is not imported again
    rw [h_resolve] at h_register
    obtain ⟨-, rfl⟩ := Prod.mk.inj h_register
    rcases resolve_outcome (fun _ => True) h_resolve with
      ⟨g, h_answer, -⟩ | ⟨found, -, rfl, -⟩ | ⟨_, -, h_answer, -⟩
    · exact nomatch h_answer
    · exact h_still
    · exact nomatch h_answer
  · rw [h_resolve] at h_register
    exact nomatch (Prod.mk.inj h_register).1

end World

/-! ## Plays -/

namespace Session

variable {σ : Type} {B : Backend σ} {s : Session σ}

/-- The buffers that tables and the references of the client name, with repetition. -/
def named (s : Session σ) : List BufferId := s.world.registered ++ s.holdings.values.map (·.id)

theorem mem_named_iff {id : BufferId} : id ∈ s.named ↔
    (∃ m manager, s.world.manager? m = some manager ∧ id ∈ manager.buffers.values) ∨
      ∃ holding ∈ s.holdings.values, holding.id = id := by
  rw [named, List.mem_append, World.mem_registered, List.mem_map]

/-- The buffers of a session are balanced by those that are named. -/
structure BuffersBalanced (B : Backend σ) (s : Session σ) : Prop where
  /-- No buffer is made twice or freed twice, nor freed before it was made. -/
  in_order : EachCall MadeOnceFreedOnce s.world.env.trace
  /-- A buffer that was made is alive exactly while a table of a manager or a reference of the
      client names it. -/
  alive_iff : ∀ id, AliveAfter s.world.env.trace id ↔
    (∃ m manager, s.world.manager? m = some manager ∧ id ∈ manager.buffers.values) ∨
      ∃ holding ∈ s.holdings.values, holding.id = id
  /-- It is alive exactly while its object is there. -/
  object_iff : ∀ id, AliveAfter s.world.env.trace id ↔
    ∃ o, s.world.objects.find? id = some o ∧ o.id = id
  /-- As many buffers have been made as have been freed and are named. -/
  count_eq : (madeBy s.world.env.trace).length =
    (freedBy s.world.env.trace).length + s.named.dedup.length
  /-- A buffer whose descriptor cannot be had is freed before its creation returns, and a creation
      that fails leaves no buffer behind. -/
  create_frees : ∀ m size format usage answer w',
    s.world.create B m size format usage = (answer, w') →
    (∀ id f, .exported id (.error f) ∈ s.world.env.callsSince w'.env →
        .destroyed id ∈ s.world.env.callsSince w'.env) ∧
      ∀ f, answer = .error f →
        madeBy (s.world.env.callsSince w'.env) = freedBy (s.world.env.callsSince w'.env)
  /-- A handle that cannot be registered leaves no buffer behind. -/
  register_makes_none : ∀ m h f w', s.world.register B m h = (.error f, w') →
    madeBy (s.world.env.callsSince w'.env) = []

theorem balanced_of_play (B : Backend σ) (devices : σ) (kinds : List ManagerKind)
    (moves : List (Move σ)) :
    Balanced ((start B devices kinds).play B moves).world.env
      ((start B devices kinds).play B moves).world.objects :=
  play_keeps_always Change.balanced (fun _ h => ⟨h.numbered, h.ledger⟩) devices kinds moves
    ⟨nofun, .empty 1⟩

theorem owned_of_play (B : Backend σ) (devices : σ) (kinds : List ManagerKind)
    (moves : List (Move σ)) : Owned [] ((start B devices kinds).play B moves).world := by
  have h_operation : ∀ {w w' : World σ}, Operation B (fun _ => True) w w' →
      Numbered w.env w.objects ∧ Owned [] w → Numbered w'.env w'.objects ∧ Owned [] w' :=
    fun h_operation h => ⟨h_operation.numbered h.1, h_operation.owned h.1 h.2⟩
  suffices h : Numbered ((start B devices kinds).play B moves).world.env
      ((start B devices kinds).play B moves).world.objects ∧
      Owned [] ((start B devices kinds).play B moves).world from h.2
  exact play_operates (J := fun w => Numbered w.env w.objects ∧ Owned [] w) (fun _ _ => True)
    (fun _ _ _ _ _ => True.intro) h_operation (fun _ h => ⟨h.1, h.2.withEnv _⟩)
    ⟨nofun, .start B devices kinds⟩ (Obeys.always (after B) _ moves)

/-- What a table or a reference names are the live objects. -/
theorem mem_keys_iff_named (h_accounted : Accounted [] s) (h_owned : Owned [] s.world)
    {id : BufferId} : id ∈ s.world.objects.keys ↔ id ∈ s.named := by
  have h_held : id ∈ s.world.held ↔ id ∈ s.holdings.values.map (·.id) :=
    h_accounted.held.mem_iff
  rw [Table.mem_keys_iff, named, List.mem_append, ← h_held]
  constructor
  · rintro ⟨o, h_live⟩
    exact (h_owned.named id o h_live).resolve_left List.not_mem_nil
  · exact h_accounted.names id

/-- In every state that a play reaches, on any backend that may fail any call, the buffers that
    were made are those that were freed, once each, and those that are named. -/
theorem buffers_balance (B : Backend σ) (devices : σ) (kinds : List ManagerKind)
    (moves : List (Move σ)) : BuffersBalanced B ((start B devices kinds).play B moves) := by
  have h_accounted := accounted_of_play B devices kinds moves
  have h_balanced := balanced_of_play B devices kinds moves
  have h_owned := owned_of_play B devices kinds moves
  generalize (start B devices kinds).play B moves = s at h_accounted h_balanced h_owned
  have h_alive : ∀ id, AliveAfter s.world.env.trace id ↔ id ∈ s.named := by
    intro id
    rw [← h_balanced.ledger.mem_alive_iff, mem_keys_iff_named h_accounted h_owned]
  refine ⟨h_balanced.ledger.in_order, ?_, ?_, ?_, ?_, ?_⟩
  · intro id
    rw [h_alive id, mem_named_iff]
  · intro id
    rw [← h_balanced.live_iff]
    constructor
    · rintro ⟨o, h_live⟩
      exact ⟨o, h_live, (h_balanced.numbered id o h_live).1⟩
    · rintro ⟨o, h_live, -⟩
      exact ⟨o, h_live⟩
  · -- the live objects are the named buffers, each counted once
    have h_perm : s.world.objects.keys.Perm s.named.dedup := by
      rw [List.perm_ext_iff_of_nodup h_balanced.distinct (List.nodup_dedup _)]
      intro id
      rw [List.mem_dedup, mem_keys_iff_named h_accounted h_owned]
    calc (madeBy s.world.env.trace).length
        = (freedBy s.world.env.trace ++ s.world.objects.keys).length :=
          h_balanced.ledger.balance.length_eq
      _ = (freedBy s.world.env.trace).length + s.world.objects.keys.length := List.length_append
      _ = (freedBy s.world.env.trace).length + s.named.dedup.length := by rw [h_perm.length_eq]
  · exact fun _ _ _ _ _ _ h_create => World.create_frees h_create
  · exact fun _ _ _ _ h_register => World.register_makes_none h_register

end Session

end GraphicsBuffer
