/-
  GraphicsBuffer.Proofs.Session.Housing

  Handles and the memories that their buffers are on. On the allocator on shared memory, a manager
  that registers a handle does so for a buffer on the memory of the handle; the buffer stays there,
  and a lock gives the address of that memory.
-/

import GraphicsBuffer.Proofs.Kernel.Touch
import GraphicsBuffer.Proofs.Session.Descent
import GraphicsBuffer.Proofs.Session.Settled
import GraphicsBuffer.Proofs.Session.Stride
import GraphicsBuffer.Proofs.World.Bare

namespace GraphicsBuffer

open Kernel (Acts Lasts)
open World (Numbered Watched)

/-! ## Buffers on memories -/

namespace SystemState

variable {s s' : SystemState} {id : BufferId} {h h' : Handle}

theorem Houses.of_descriptor (h_houses : s.Houses id h) (h_same : h'.descriptor = h.descriptor) :
    s.Houses id h' := by
  obtain ⟨b, h_bare, h_descriptor, h_end⟩ := h_houses
  exact ⟨b, h_bare, h_same.trans h_descriptor, h_end⟩

theorem Houses.lasts (h_houses : s.Houses id h) (h_bare : s'.bare? id = s.bare? id)
    (h_lasts : s.kernel.Lasts s'.kernel) : s'.Houses id h := by
  obtain ⟨b, h_there, h_descriptor, h_end⟩ := h_houses
  exact ⟨b, h_bare.trans h_there, h_descriptor, h_lasts.endOf h_end⟩

end SystemState

/-! ## Locks that are granted -/

/-- A lock that is granted is for its own usage at least, and gives an address if that involves the
    CPU. -/
theorem BufferObject.LockOutcome.granted {σ : Type} {B : Backend σ} {o o' : BufferObject}
    {h : Handle} {request : LockRequest} {env env' : Env σ}
    (h_lock : LockOutcome B o h request env (.ok o', env')) :
    request.usage ⊆ o'.lockedFor ∧
      (request.usage.cpuAccess = true → ∃ mapping, o'.mapping = some mapping) := by
  have h_usage : ∀ object : BufferObject,
      request.usage ⊆ (object.addLock (request.usage ∪ object.lockedFor)).lockedFor := by
    intro object
    rw [LockInvariant.addLock_lockedFor]
    exact FlagSet.subset_union_left _ _
  cases h_lock with
  | device _ _ h_cpu =>
    refine ⟨h_usage o, fun h_access => ?_⟩
    rw [Usage.cpuAccess_of_subset (FlagSet.subset_union_left _ _) h_access] at h_cpu
    exact Bool.noConfusion h_cpu
  | @mapped corner mapping _ _ _ _ _ _ _ =>
    exact ⟨h_usage (o.withMapping mapping corner), fun _ => ⟨_, rfl⟩⟩
  | shared _ _ _ _ h_mapping _ => exact ⟨h_usage o, fun _ => ⟨_, h_mapping⟩⟩

namespace Session

/-- After a lock that is granted, the handle stands for an object that is locked for the usage at
    least, and whose address was given. -/
theorem lock_granted {σ : Type} {B : Backend σ} {s s' : Session σ} {m : ManagerId} {l : Name}
    {request : LockRequest} {address previous : Option Address}
    (h_numbered : Numbered s.world.env s.world.objects)
    (h_lock : s.step B (.lock m l request) = (.locked address previous, s')) :
    ∃ handle o, s'.handles.find? l = some handle ∧ s'.world.object? m handle = some o ∧
      o.address? = address ∧ request.usage ⊆ o.lockedFor ∧
      (request.usage.cpuAccess = true → ∃ a, address = some a) := by
  have h_answer : (s.step B (.lock m l request)).1 = .locked address previous := congrArg _ h_lock
  obtain ⟨manager, handle, -, h_find, h_step⟩ :=
    found_of_answer fun why h_refused => nomatch h_answer.symm.trans h_refused
  rcases h_object : s.world.object? m handle with _ | o
  · rw [step, h_step] at h_answer
    simp only [World.lock, h_object] at h_answer
    cases h_answer
  obtain ⟨id, h_lookup, h_live⟩ := World.object?_eq_some_iff.mp h_object
  obtain ⟨rfl, -⟩ := h_numbered id o h_live
  rw [step_lock_eq h_find h_object] at h_lock
  have h_outcome := BufferObject.lock_outcome B o handle request s.world.env
  rcases h_call : o.lock B handle request s.world.env with ⟨f | o', env⟩
  · simp only [World.lockObject, h_call, keepLock] at h_lock
    cases (Prod.mk.inj h_lock).1
  rw [h_call] at h_outcome
  obtain ⟨-, h_id⟩ := h_outcome.numbers
  obtain ⟨h_usage, h_mapping⟩ := h_outcome.granted
  simp only [World.lockObject, h_call, keepLock] at h_lock
  obtain ⟨h_answer, rfl⟩ := Prod.mk.inj h_lock
  obtain ⟨rfl, -⟩ := Answer.locked.inj h_answer
  refine ⟨handle, o', h_find, World.object?_eq_some_iff.mpr ⟨o.id, h_lookup, ?_⟩, rfl, h_usage,
    fun h_access => ?_⟩
  · rw [← h_id o' rfl]
    exact Table.find?_insert_self _ _ _
  · obtain ⟨mapping, h_some⟩ := h_mapping h_access
    exact ⟨mapping.address, congrArg (Option.map _) h_some⟩

/-! ## Moves -/

variable {s : Session SystemState}

theorem Settled.effect_of_step [PageSize] (h : Settled s) (step : Step) :
    Effect systemBackend (fun _ => True) s (s.stepDeed? step (s.step systemBackend step).1)
      (s.step systemBackend step).2 :=
  (h.accounted.effect (.client step)).resolve_left fun ⟨_, h_outside⟩ => nomatch h_outside

theorem Settled.acts_of_step [PageSize] (h : Settled s) (step : Step) :
    Acts s.kernel (s.step systemBackend step).2.kernel := (h.effect_of_step step).acts

theorem Settled.nextBuffer_le [PageSize] (h : Settled s) (step : Step) :
    s.world.env.nextBuffer ≤ (s.step systemBackend step).2.world.env.nextBuffer :=
  (h.effect_of_step step).keeps (I := fun env _ => s.world.env.nextBuffer ≤ env.nextBuffer)
    (fun h_change h_le => Nat.le_trans h_le h_change.nextBuffer_le) (Nat.le_refl _)

/-- The buffer of an object that stays live stays as it is, apart from its mapping. -/
theorem Settled.bare?_after [PageSize] (h : Settled s) {m : Move SystemState}
    (h_left : BuffersLeft s m)
    {id : BufferId} {o o' : BufferObject} (h_live : s.world.objects.find? id = some o)
    (h_live' : (s.after systemBackend m).world.objects.find? id = some o') :
    (s.after systemBackend m).world.env.devices.bare? id = s.world.env.devices.bare? id := by
  obtain ⟨rfl, h_given⟩ := h.provided.numbered id o h_live
  obtain ⟨b, h_find, -⟩ := h.provided.backed o.id o h_live
  have h_bare := SystemState.bare?_of_find? h_find
  have h_watched : Watched (IsBare b.unmapped) o.id s.world.env s.world.objects := by
    refine ⟨h.provided.numbered, h_given, fun o'' h_find'' => ?_⟩
    obtain rfl := Option.some.inj (h_live.symm.trans h_find'')
    exact h_bare
  have h_after := watched_after (isBare_lasting b.unmapped) h.accounted h_left h_watched
  have h_bare' : IsBare b.unmapped o' _ := h_after.holds o' h_live'
  rw [IsBare, (h_after.numbered o.id o' h_live').1] at h_bare'
  rw [h_bare, h_bare']

/-- Bytes may change behind a session's back. -/
theorem Settled.of_memories (h : Settled s) {memories : List Memory}
    (h_lasts : s.kernel.Lasts { s.kernel with memories }) :
    Settled (s.drift { s.world.env.devices with kernel := { s.kernel with memories } }) := by
  refine h.after (.outside _) ⟨⟨rfl, fun id b h_find => ?_, fun _ _ _ _ _ => rfl, Nat.le_refl _⟩,
    h.given⟩
  obtain ⟨n, h_end, h_size⟩ := (h.provided.devices.buffers id b h_find).2.memory
  exact ⟨n, h_lasts.endOf h_end, h_size⟩

/-- A key that no deed concerns stays. -/
theorem Effect.key?_of_other {σ : Type} {B : Backend σ} {lockable : BufferObject → Prop}
    {s s' : Session σ} {deed : Option Deed} (h_effect : Effect B lockable s deed s') {l : Name}
    (h_other : ∀ d, deed = some d → l ≠ d.handle) : s'.key? l = s.key? l := by
  cases h_effect with
  | went _ h_keys _ => rw [h_keys]
  | reset _ h_keys _ =>
    rw [h_keys]
    exact Function.update_of_ne (h_other _ rfl) _ _
  | bound _ h_keys _ =>
    rw [h_keys]
    exact Function.update_of_ne (h_other _ rfl) _ _
  | freed _ _ _ _ h_keys _ =>
    rw [h_keys]
    exact Function.update_of_ne (h_other _ rfl) _ _
  | closed _ h_keys _ => rw [h_keys]
  | retained s₁ holding o _ h_keys _ =>
    rw [← h_keys, key?, setHolding_handles, key?]
  | released o => rw [key?, releaseHolding_handles, key?]

/-- A handle is registered when it is created, when it is taken in by a manager, and when a buffer
    is put into a table for it. -/
theorem bound_of_stepDeed? {σ : Type} {s : Session σ} {step : Step} {answer : Answer}
    {m : ManagerId} {l : Name} {id : BufferId}
    (h_deed : s.stepDeed? step answer = some (.bound m l id)) :
    (∃ size format usage, step = .create m l size format usage ∧ answer = .done ∧
        id = s.world.env.nextBuffer) ∨
      (step = .register m l ∧ answer = .done ∧ s.key? l = none ∧ id = s.world.env.nextBuffer) ∨
      (∃ useDevice, step = .resolve m l useDevice ∧ answer = .flag true ∧ s.key? l = none ∧
        id = s.world.env.nextBuffer) ∨
      ∃ o, step = .insert m l o := by
  unfold stepDeed? at h_deed
  split at h_deed
  case h_5 =>
    cases h_deed
    exact .inl ⟨_, _, _, rfl, rfl, rfl⟩
  case h_6 =>
    split at h_deed
    next h_key =>
      cases h_deed
      exact .inr (.inl ⟨rfl, rfl, h_key, rfl⟩)
    next => exact nomatch h_deed
  case h_7 =>
    split at h_deed
    next h_key =>
      cases h_deed
      exact .inr (.inr (.inl ⟨_, rfl, rfl, h_key, rfl⟩))
    next => exact nomatch h_deed
  case h_8 =>
    obtain ⟨holding, -, h_eq⟩ := Option.map_eq_some_iff.mp h_deed
    cases h_eq
    exact .inr (.inr (.inr ⟨_, rfl⟩))
  all_goals exact nomatch h_deed

/-- A name that is given a handle loses the registration that it had, unless only fields of its
    handle are written to or it is given one from elsewhere. -/
theorem deed_of_stepDescent? {σ : Type} {s : Session σ} {step : Step} {answer : Answer} {l : Name}
    {d : Descent} (h_descent : s.stepDescent? step answer = some (l, d)) :
    (∃ deed, s.stepDeed? step answer = some deed ∧ deed.handle = l) ∨ d = .altered l ∨
      d = .foreign := by
  unfold stepDescent? at h_descent
  split at h_descent
  case h_3 =>
    cases h_descent
    exact .inr (.inl rfl)
  case h_4 =>
    obtain ⟨rfl, -⟩ := Prod.mk.inj (Option.some.inj h_descent)
    exact .inl ⟨_, rfl, rfl⟩
  case h_8 =>
    cases h_descent
    exact .inr (.inr rfl)
  case h_9 => exact nomatch h_descent
  all_goals
    cases h_descent
    exact .inl ⟨_, rfl, rfl⟩

/-- A handle is registered for a buffer on its memory, unless the client chooses the buffer. -/
theorem houses_of_bound [PageSize] {step : Step} {m : ManagerId} {l : Name} {id : BufferId}
    {handle' : Handle} (h_insert : ∀ m h o, step ≠ .insert m h o)
    (h_deed : s.stepDeed? step (s.step systemBackend step).1 = some (.bound m l id))
    (h_find' : (s.step systemBackend step).2.handles.find? l = some handle')
    (h_owned : handle'.registration ≠ none) :
    (s.step systemBackend step).2.world.env.devices.Houses id handle' := by
  rcases bound_of_stepDeed? h_deed with ⟨size, format, usage, rfl, h_answer, rfl⟩ |
    ⟨rfl, h_answer, h_key, rfl⟩ | ⟨useDevice, rfl, h_answer, h_key, rfl⟩ | ⟨o, rfl⟩
  · have h_created : s.descent? (.client (.create m l size format usage))
        (s.move systemBackend (.client (.create m l size format usage))).1 =
          some (l, .created) := by
      show s.stepDescent? _ (s.step systemBackend _).1 = _
      rw [h_answer]
      rfl
    obtain ⟨device, size, format, usage, o, handle, h_call, h_find⟩ := created_of_descent? h_created
    obtain rfl := Option.some.inj (h_find'.symm.trans h_find)
    exact (BufferObject.allocate_houses h_call).of_descriptor rfl
  · obtain ⟨manager, handle, -, h_find, h_step⟩ :=
      found_of_answer fun why h_refused => by cases h_answer.symm.trans h_refused
    rw [Session.step, h_step] at h_answer h_find' ⊢
    rcases h_register : s.world.register systemBackend m handle with ⟨f | handle'', w⟩
    · rw [h_register] at h_answer
      cases h_answer
    rw [h_register] at h_find'
    obtain rfl := Option.some.inj (h_find'.symm.trans (Table.find?_insert_self _ _ _))
    obtain rfl | ⟨-, h_houses⟩ := World.register_houses h_register
    · exact absurd ((key?_of_find? h_find).symm.trans h_key) h_owned
    · exact h_houses
  · obtain ⟨manager, handle, -, h_find, h_step⟩ :=
      found_of_answer fun why h_refused => by cases h_answer.symm.trans h_refused
    rw [Session.step, h_step] at h_answer h_find' ⊢
    by_cases h_kind : manager.kind ≠ .registry
    · rw [if_pos h_kind] at h_answer
      cases h_answer
    rw [if_neg h_kind] at h_answer h_find' ⊢
    rcases h_resolve : s.world.resolve systemBackend m useDevice handle with
      ⟨f | ⟨found, handle''⟩, w⟩
    · rw [h_resolve] at h_answer
      cases h_answer
    rw [h_resolve] at h_find'
    obtain rfl := Option.some.inj (h_find'.symm.trans (Table.find?_insert_self _ _ _))
    obtain rfl | ⟨-, h_houses⟩ := World.resolve_houses h_resolve
    · exact absurd ((key?_of_find? h_find).symm.trans h_key) h_owned
    · exact h_houses
  · exact absurd rfl (h_insert m l o)

end Session

end GraphicsBuffer
