/-
  GraphicsBuffer.Proofs.Session.Stride

  Handles agree with their buffers about the length of rows. On the allocator on shared memory, a
  handle that resolves has the stride of the buffer it stands for, as long as the client does not
  write the stride of such a handle and goes through the managers.
-/

import GraphicsBuffer.Proofs.Session.Operation
import GraphicsBuffer.Proofs.Session.Resolution
import GraphicsBuffer.Proofs.Session.Watch
import GraphicsBuffer.Proofs.World.Stride

namespace GraphicsBuffer.Session

open World (Change Evolves Numbered Watched)

/-! ## Careful clients -/

/-- The client locks buffers by handles that a manager registered, and does not write another stride
    into a handle that resolves. Nothing changes the buffers from outside; the kernel may change in
    any way. -/
def Careful (s : Session SystemState) : Move SystemState → Prop
  | .client (.assign h edit) => ∀ handle, s.handles.find? h = some handle →
    (∃ m id, s.world.lookup m handle = some id) → (edit.apply handle).stride = handle.stride
  | .client (.allocate _ _ _) | .client (.insert _ _ _) | .client (.lockObject _ _ _) => False
  | .outside devices => devices.buffers = s.world.env.devices.buffers
  | _ => True

theorem Careful.buffersLeft {s : Session SystemState} {m : Move SystemState}
    (h_careful : Careful s m) : BuffersLeft s m := by
  cases m with
  | client step => exact True.intro
  | receive h bytes descriptor => exact True.intro
  | outside devices => exact h_careful

/-- A handle that is registered nowhere may be told any stride. -/
theorem careful_of_unowned {s : Session SystemState} {h : Name} {edit : HandleEdit}
    (h_key : s.key? h = none) : Careful s (.client (.assign h edit)) := by
  rintro handle h_find ⟨m, id, h_lookup⟩
  obtain ⟨key, -, h_registered, -, -⟩ := World.lookup_eq_some_iff.mp h_lookup
  exact nomatch h_key.symm.trans ((key?_of_find? h_find).trans h_registered)

/-! ## Handles after a step -/

/-- Where a handle comes from that a name stands for after a step. -/
inductive Follows (s : Session SystemState) (deed : Option Deed) (s' : Session SystemState)
    (l : Name) (handle' : Handle) : Prop where
  /-- It is registered nowhere. -/
  | unowned (h_key : handle'.registration = none)
  /-- It was there before, with its key and, if it resolved, its stride. -/
  | kept {handle : Handle} (h_find : s.handles.find? l = some handle)
      (h_key : handle'.registration = handle.registration)
      (h_stride : (∃ m id, s.world.lookup m handle = some id) → handle'.stride = handle.stride)
  /-- It was registered for the next buffer, and has its stride. -/
  | bound {m : ManagerId} (h_deed : deed = some (.bound m l s.world.env.nextBuffer))
      (h_stride : s'.world.env.devices.stride? s.world.env.nextBuffer = some handle'.stride)

/-- The handles after an answer come from those before it. -/
def AllFollow (s : Session SystemState) (deed : Answer → Option Deed)
    (answer : Answer × Session SystemState) : Prop :=
  ∀ l handle', answer.2.handles.find? l = some handle' →
    Follows s (deed answer.1) answer.2 l handle'

namespace AllFollow

variable {s : Session SystemState} {deed : Answer → Option Deed}
  {answer : Answer × Session SystemState}

theorem of_handles (h_handles : answer.2.handles = s.handles) : AllFollow s deed answer := by
  intro l handle' h_find
  rw [h_handles] at h_find
  exact .kept h_find rfl fun _ => rfl

theorem still {a : Answer} : AllFollow s deed (a, s) := of_handles rfl

/-- One name is given a handle. -/
theorem of_setHandle {h : Name} {handle : Handle}
    (h_handles : answer.2.handles = s.handles.insert h handle)
    (h_follows : Follows s (deed answer.1) answer.2 h handle) : AllFollow s deed answer := by
  intro l handle' h_find
  rw [h_handles] at h_find
  rcases Table.find?_insert_eq_some h_find with ⟨rfl, rfl⟩ | ⟨-, h_before⟩
  · exact h_follows
  · exact .kept h_before rfl fun _ => rfl

end AllFollow

section Steps

variable [PageSize] {s : Session SystemState}

theorem create_follows (m : ManagerId) (h : Name) (size : Extent) (format : PixelFormat)
    (usage : Usage) :
    AllFollow s (s.stepDeed? (.create m h size format usage))
      (s.step systemBackend (.create m h size format usage)) := by
  refine withManager_cases .still fun _ _ => ?_
  rcases h_create : s.world.create systemBackend m size format usage with ⟨f | handle, w⟩
  · exact .of_handles rfl
  · obtain ⟨-, h_stride⟩ := World.create_stride h_create
    exact .of_setHandle rfl (.bound rfl (h_stride handle rfl))

theorem register_follows (m : ManagerId) (h : Name) :
    AllFollow s (s.stepDeed? (.register m h)) (s.step systemBackend (.register m h)) := by
  refine withManager_cases .still fun _ _ => withHandle_cases .still fun handle h_find => ?_
  rcases h_register : s.world.register systemBackend m handle with ⟨f | handle', w⟩
  · exact .of_handles rfl
  · obtain ⟨-, h_back⟩ := World.register_stride h_register
    refine .of_setHandle rfl ?_
    rcases h_back handle' rfl with rfl | ⟨h_unowned, h_stride⟩
    · exact .kept h_find rfl fun _ => rfl
    · refine .bound (if_pos ?_) h_stride
      rw [key?_of_find? h_find]
      exact h_unowned

theorem resolve_follows (m : ManagerId) (h : Name) (useDevice : Bool) :
    AllFollow s (s.stepDeed? (.resolve m h useDevice))
      (s.step systemBackend (.resolve m h useDevice)) := by
  refine withManager_cases .still fun manager _ => withHandle_cases .still fun handle h_find => ?_
  by_cases h_kind : manager.kind ≠ .registry
  · rw [if_pos h_kind]
    exact .still
  rw [if_neg h_kind]
  rcases h_resolve : s.world.resolve systemBackend m useDevice handle with ⟨f | ⟨found, handle'⟩, w⟩
  · exact .of_handles rfl
  · obtain ⟨-, h_back⟩ := World.resolve_stride h_resolve
    refine .of_setHandle rfl ?_
    rcases h_back found handle' rfl with rfl | ⟨h_unowned, rfl, h_stride⟩
    · exact .kept h_find rfl fun _ => rfl
    · refine .bound (if_pos ?_) h_stride
      rw [key?_of_find? h_find]
      exact h_unowned

/-- After a step of a careful client every handle comes from one before it. -/
theorem step_follows (step : Step) (h_careful : Careful s (.client step)) :
    AllFollow s (s.stepDeed? step) (s.step systemBackend step) := by
  cases step with
  | new h size format usage => exact .of_setHandle rfl (.unowned rfl)
  | duplicate h target =>
    refine withHandle_cases .still fun handle _ => ?_
    rcases h_copy : handle.duplicate with e | copy
    · exact .still
    · exact .of_setHandle rfl (.unowned (duplicate_registration h_copy))
  | assign h edit =>
    exact withHandle_cases .still fun handle h_find =>
      .of_setHandle rfl (.kept h_find rfl (h_careful handle h_find))
  | transfer h target damage courier =>
    refine withHandle_cases .still fun handle _ => ?_
    simp only
    rcases h_arrived : Handle.ofWire (damage.apply handle.toWire.encode)
      (courier.deliver handle) with e | arrived
    · exact .still
    · exact .of_setHandle rfl (.unowned (ofWire_registration h_arrived))
  | dropHandle h =>
    intro l handle' h_find
    exact .kept (Table.find?_erase_eq_some h_find).2 rfl fun _ => rfl
  | dropManager m =>
    simp only [step]
    split
    · exact .of_handles rfl
    · exact .still
  | create m h size format usage => exact create_follows m h size format usage
  | register m h => exact register_follows m h
  | unregister m h =>
    refine withManager_cases .still fun _ _ => withHandle_cases .still fun handle _ => ?_
    rcases h_unregister : s.world.unregister systemBackend m handle with ⟨answer, w⟩
    rcases World.unregister_outcome (fun _ => True) h_unregister with
      ⟨f, rfl, -⟩ | ⟨_, _, _, -, -, -, rfl, -⟩
    · exact .of_handles rfl
    · exact .of_setHandle rfl (.unowned rfl)
  | lock m h request =>
    refine withManager_cases .still fun _ _ => withHandle_cases .still fun handle _ => ?_
    rcases s.world.lock systemBackend m handle request with ⟨f | address, w⟩ <;>
      exact .of_handles rfl
  | unlock m h =>
    refine withManager_cases .still fun _ _ => withHandle_cases .still fun handle _ => ?_
    rcases s.world.unlock systemBackend m handle with ⟨e | ⟨⟩, w⟩ <;> exact .of_handles rfl
  | resolve m h useDevice => exact resolve_follows m h useDevice
  | hold m h o =>
    refine withManager_cases .still fun _ _ => withHandle_cases .still fun handle _ => ?_
    rcases s.world.hold m handle with ⟨e | id, w⟩
    · exact .of_handles rfl
    · exact .of_handles (setHolding_handles _ _ _ _)
  | allocate _ _ _ => exact h_careful.elim
  | importFrom m h o =>
    refine withManager_cases .still fun _ _ => withHandle_cases .still fun handle _ => ?_
    rcases s.world.importFrom systemBackend m handle with ⟨f | id, w⟩
    · exact .of_handles rfl
    · exact .of_handles (setHolding_handles _ _ _ _)
  | insert _ _ _ => exact h_careful.elim
  | lockObject _ _ _ => exact h_careful.elim
  | unlockObject o => exact withObject_cases .still fun _ _ _ => .of_handles rfl
  | sameObject o other =>
    simp only [step]
    split <;> exact .still
  | holding o =>
    simp only [step]
    split <;> exact .still
  | release o => exact .of_handles (releaseHolding_handles _ _ _)

theorem move_follows (m : Move SystemState) (h_careful : Careful s m) :
    AllFollow s (s.deed? m) (s.move systemBackend m) := by
  cases m with
  | client step => exact step_follows step h_careful
  | receive h bytes descriptor =>
    simp only [move, receive]
    rcases h_arrived : Handle.ofWire bytes descriptor with e | handle
    · exact .still
    · exact .of_setHandle rfl (.unowned (ofWire_registration h_arrived))
  | outside devices => exact .of_handles rfl

end Steps

/-! ## Entries after a step -/

section Entries

variable {σ : Type} {B : Backend σ} {lockable : BufferObject → Prop} {s s' : Session σ}

theorem releaseHolding_manager? (s : Session σ) (o : Name) :
    (s.releaseHolding B o).world.manager? = s.world.manager? := by
  unfold releaseHolding
  rcases s.holdings.find? o with _ | holding
  · rfl
  · have h_reap : Evolves B (fun _ => True) { s.world with held := s.world.held.erase holding.id }
        (s.world.release B holding.id) := World.reap_evolves _ holding.id
    exact h_reap.manager?_eq

/-- An entry under a key that had been given out was there before. -/
theorem Effect.entry_before {deed : Option Deed} (h_effect : Effect B lockable s deed s')
    {m : ManagerId} {manager' : Manager} {key : Key} {id : BufferId}
    (h_used : key < s.world.nextKey) (h_manager' : s'.world.manager? m = some manager')
    (h_find : manager'.buffers.find? key = some id) :
    ∃ manager, s.world.manager? m = some manager ∧ manager.buffers.find? key = some id := by
  cases h_effect with
  | went h_world _ _ =>
    rw [h_world.manager?_eq] at h_manager'
    exact ⟨manager', h_manager', h_find⟩
  | reset h_world _ _ =>
    rw [h_world] at h_manager'
    exact ⟨manager', h_manager', h_find⟩
  | @bound _ l _ _ _ h_claims _ _ =>
    obtain ⟨manager, h_manager, -, -, h_managers⟩ := h_claims.registry
    rw [h_managers] at h_manager'
    by_cases h_eq : m = l
    · -- the entry that is new has the next key
      rw [if_pos h_eq] at h_manager'
      cases h_manager'
      rw [Table.find?_insert_of_ne _ _ (Nat.ne_of_lt h_used)] at h_find
      exact ⟨manager, h_eq ▸ h_manager, h_find⟩
    · rw [if_neg h_eq] at h_manager'
      exact ⟨manager', h_manager', h_find⟩
  | @freed _ l _ _ manager _ _ h_manager _ h_world _ _ =>
    rw [h_world.manager?_eq, World.manager?_setManager h_manager] at h_manager'
    by_cases h_eq : m = l
    · rw [if_pos h_eq] at h_manager'
      cases h_manager'
      exact ⟨manager, h_eq ▸ h_manager, (Table.find?_erase_eq_some h_find).2⟩
    · rw [if_neg h_eq] at h_manager'
      exact ⟨manager', h_manager', h_find⟩
  | @closed _ l h_world _ _ =>
    rw [h_world.manager?_eq, World.manager?_setManager_none] at h_manager'
    by_cases h_eq : m = l
    · rw [if_pos h_eq] at h_manager'
      exact nomatch h_manager'
    · rw [if_neg h_eq] at h_manager'
      exact ⟨manager', h_manager', h_find⟩
  | retained s₁ _ o h_retains _ _ =>
    have h_managers : (s₁.releaseHolding B o).world.manager? = s.world.manager? :=
      (releaseHolding_manager? s₁ o).trans h_retains.registry.1
    rw [show (s₁.setHolding B o _).world.manager? = _ from h_managers] at h_manager'
    exact ⟨manager', h_manager', h_find⟩
  | released o =>
    rw [releaseHolding_manager?] at h_manager'
    exact ⟨manager', h_manager', h_find⟩

end Entries

/-! ## The agreement -/

/-- Every handle that resolves has the stride of the buffer that it stands for. -/
def StridesAgree (s : Session SystemState) : Prop :=
  ∀ l handle m id, s.handles.find? l = some handle → s.world.lookup m handle = some id →
    s.world.env.devices.stride? id = some handle.stride

/-- What a careful client keeps. -/
structure Agreeing (s : Session SystemState) : Prop where
  accounted : Accounted [] s
  numbered : Numbered s.world.env s.world.objects
  registered : ∃ deeds, RegistrySound s deeds
  strides : StridesAgree s

namespace Agreeing

variable {s : Session SystemState}

theorem start [PageSize] (devices : SystemState) (kinds : List ManagerKind) :
    Agreeing (start systemBackend devices kinds) where
  accounted := .start systemBackend devices kinds
  numbered := nofun
  registered := ⟨[], .start systemBackend devices kinds⟩
  strides := nofun

theorem stride_of_object (h : Agreeing s) {name : Name} {handle : Handle} {m : ManagerId}
    {o : BufferObject} (h_find : s.handles.find? name = some handle)
    (h_object : s.world.object? m handle = some o) :
    s.world.env.devices.stride? o.id = some handle.stride := by
  obtain ⟨id, h_lookup, h_live⟩ := World.object?_eq_some_iff.mp h_object
  rw [(h.numbered id o h_live).1]
  exact h.strides name handle m id h_find h_lookup

/-- What a handle that resolves stands for keeps its stride in a move, if it stays live. -/
theorem stride_kept [PageSize] (h : Agreeing s) {m : Move SystemState} (h_left : BuffersLeft s m)
    {id : BufferId} {o o' : BufferObject} {stride : UInt32}
    (h_live : s.world.objects.find? id = some o)
    (h_live' : (s.after systemBackend m).world.objects.find? id = some o')
    (h_stride : s.world.env.devices.stride? id = some stride) :
    (s.after systemBackend m).world.env.devices.stride? id = some stride := by
  obtain ⟨rfl, h_given⟩ := h.numbered id o h_live
  have h_watched : Watched (HasStride stride) o.id s.world.env s.world.objects := by
    refine ⟨h.numbered, h_given, fun o'' h_find => ?_⟩
    obtain rfl := Option.some.inj (h_live.symm.trans h_find)
    exact h_stride
  have h_after := watched_after (hasStride_lasting stride) h.accounted h_left h_watched
  have h_has : HasStride stride o' (s.after systemBackend m).world.env.devices :=
    h_after.holds o' h_live'
  rwa [HasStride, (h_after.numbered o.id o' h_live').1] at h_has

theorem after [PageSize] (h : Agreeing s) {m : Move SystemState} (h_careful : Careful s m) :
    Agreeing (s.after systemBackend m) := by
  obtain ⟨deeds, h_sound⟩ := h.registered
  have h_sound' : RegistrySound (s.after systemBackend m)
      ((s.deed? m (s.move systemBackend m).1).toList ++ deeds) :=
    RegistrySound.next (c := ⟨s, deeds⟩) h.accounted h_sound m
  have h_accounted' := h.accounted.of_after (B := systemBackend) m
  have h_effects := h.accounted.effect (B := systemBackend) m
  have h_numbered' : Numbered (s.after systemBackend m).world.env
      (s.after systemBackend m).world.objects := by
    rcases h_effects with ⟨devices, rfl⟩ | h_effect
    · exact h.numbered
    · exact h_effect.keeps Change.numbered h.numbered
  refine ⟨h_accounted', h_numbered', ⟨_, h_sound'⟩, fun l handle' n id h_find' h_lookup' => ?_⟩
  obtain ⟨key, manager', h_key', h_manager', h_entry'⟩ := World.lookup_eq_some_iff.mp h_lookup'
  cases move_follows m h_careful l handle' h_find' with
  | unowned h_none => exact nomatch h_none.symm.trans h_key'
  | @kept handle h_find h_same h_stride =>
    have h_key : handle.registration = some key := h_same ▸ h_key'
    have h_used : key < s.world.nextKey := h_sound.keys_used ((key?_of_find? h_find).trans h_key)
    -- what the handle resolves to, it resolved to before
    have h_lookup : s.world.lookup n handle = some id := by
      rcases h_effects with ⟨devices, rfl⟩ | h_effect
      · exact World.lookup_eq_some_iff.mpr ⟨key, manager', h_key, h_manager', h_entry'⟩
      · obtain ⟨manager, h_manager, h_entry⟩ := h_effect.entry_before h_used h_manager' h_entry'
        exact World.lookup_eq_some_iff.mpr ⟨key, manager, h_key, h_manager, h_entry⟩
    obtain ⟨o, h_live⟩ := h.accounted.names id (.inl (World.registered_of_lookup h_lookup))
    obtain ⟨o', h_live'⟩ :=
      h_accounted'.names id (.inl (World.registered_of_lookup h_lookup'))
    rw [h_stride ⟨n, id, h_lookup⟩]
    exact h.stride_kept h_careful.buffersLeft h_live h_live'
      (h.strides l handle n id h_find h_lookup)
  | @bound k h_deed h_stride =>
    have h_latest := h_sound'.latest_of_lookup h_find' h_lookup'
    rw [h_deed] at h_latest
    have h_bound : latest (.bound k l s.world.env.nextBuffer :: deeds) l = _ :=
      latest_cons_self (.bound k l s.world.env.nextBuffer) deeds
    cases h_bound.symm.trans h_latest
    exact h_stride

end Agreeing

end GraphicsBuffer.Session
