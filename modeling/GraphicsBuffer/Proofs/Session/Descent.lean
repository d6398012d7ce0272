/-
  GraphicsBuffer.Proofs.Session.Descent

  Where handles come from. A move gives a new handle to one name at most: a buffer was made for the
  handle, or it is a copy of another one, or another one with some of its fields changed. A handle
  that is registered, unregistered or resolved stays the same but for its registration.
-/

import GraphicsBuffer.Proofs.Handle.Wire
import GraphicsBuffer.Proofs.Session.Operation
import GraphicsBuffer.Proofs.Session.Play

namespace GraphicsBuffer

/-- A handle apart from its registration. -/
def Handle.unregistered (h : Handle) : Handle := { h with registration := none }

/-- Where the handle that a name is given comes from. -/
inductive Descent where
  /-- A buffer was made for it. -/
  | created
  /-- It is a copy of the handle of a name. -/
  | copied (h : Name)
  /-- Its descriptor is that of the handle of a name; its other fields may be any. -/
  | altered (h : Name)
  /-- It comes from elsewhere, or there is none. -/
  | foreign
deriving DecidableEq

/-! ## Operations -/

namespace World

variable {σ : Type} {B : Backend σ} {w w' : World σ} {m : ManagerId} {h h' : Handle}

theorem claim_unregistered (w : World σ) (m : ManagerId) (manager : Manager) (h : Handle)
    (id : BufferId) : (w.claim m manager h id).1.unregistered = h.unregistered := rfl

/-- A handle that is resolved stays the same but for its registration. -/
theorem resolve_unregistered {useDevice : Bool} {found : Option BufferId}
    (h_resolve : w.resolve B m useDevice h = (.ok (found, h'), w')) :
    h'.unregistered = h.unregistered := by
  unfold resolve at h_resolve
  split at h_resolve
  · obtain ⟨-, rfl⟩ := Prod.mk.inj (Except.ok.inj (Prod.mk.inj h_resolve).1)
    rfl
  split at h_resolve
  · obtain ⟨-, rfl⟩ := Prod.mk.inj (Except.ok.inj (Prod.mk.inj h_resolve).1)
    rfl
  · obtain ⟨-, rfl⟩ := Prod.mk.inj (Except.ok.inj (Prod.mk.inj h_resolve).1)
    rfl
  · simp only at h_resolve
    split at h_resolve
    · exact nomatch (Prod.mk.inj h_resolve).1
    · obtain ⟨-, rfl⟩ := Prod.mk.inj (Except.ok.inj (Prod.mk.inj h_resolve).1)
      exact claim_unregistered _ _ _ _ _

theorem register_unregistered (h_register : w.register B m h = (.ok h', w')) :
    h'.unregistered = h.unregistered := by
  unfold register at h_register
  rcases h_resolve : w.resolve B m true h with ⟨f | ⟨_ | id, handle⟩, w₁⟩
  · rw [h_resolve] at h_register
    exact nomatch (Prod.mk.inj h_register).1
  · rw [h_resolve] at h_register
    exact nomatch (Prod.mk.inj h_register).1
  · rw [h_resolve] at h_register
    obtain rfl := Except.ok.inj (Prod.mk.inj h_register).1
    exact resolve_unregistered h_resolve

theorem unregister_unregistered (h_unregister : w.unregister B m h = (.ok h', w')) :
    h'.unregistered = h.unregistered := by
  rcases unregister_outcome (fun _ => True) h_unregister with
    ⟨f, h_error, -⟩ | ⟨_, _, _, -, -, -, h_ok, -⟩
  · exact nomatch h_error
  · obtain rfl := Except.ok.inj h_ok
    rfl

theorem insert_unregistered (w : World σ) (m : ManagerId) (h : Handle) (id : BufferId) :
    (w.insert m h id).1.unregistered = h.unregistered := by
  unfold insert
  rcases w.manager? m with _ | manager
  · rfl
  · exact claim_unregistered _ _ _ _ _

end World

namespace Session

variable {σ : Type} {B : Backend σ} {s s' : Session σ}

/-! ## Descents -/

/-- The bytes of the handle of a name. -/
def flattened? (s : Session σ) (h : Name) : Option (List UInt8) :=
  (s.handles.find? h).map (·.toWire.encode)

/-- The name that a step that was answered gave a handle, and where the handle comes from. Bytes
    that arrive as they were sent make a copy. -/
def stepDescent? (s : Session σ) : Step → Answer → Option (Name × Descent)
  | .new h _ _ _, .done => some (h, .foreign)
  | .duplicate h target, .done => some (target, .copied h)
  | .assign h _, .done => some (h, .altered h)
  | .transfer h target _ .duplicate, .bytes bytes =>
    some (target, if s.flattened? h = some bytes then .copied h else .altered h)
  | .transfer _ target _ (.given _), .bytes _ => some (target, .foreign)
  | .dropHandle h, .flag _ => some (h, .foreign)
  | .create _ h _ _ _, .done => some (h, .created)
  | .allocate _ h _, .done => some (h, .foreign)
  | _, _ => none

/-- The name that a move gave a handle, and where the handle comes from. -/
def descent? (s : Session σ) : Move σ → Answer → Option (Name × Descent)
  | .client step, answer => s.stepDescent? step answer
  | .receive h _ _, .done => some (h, .foreign)
  | _, _ => none

/-- What was known of the handles, and what is known of the one that a name was given. -/
def inherit {α : Type} (marks : Name → Option α) (mark : Name → Descent → Option α) :
    Option (Name × Descent) → Name → Option α
  | none => marks
  | some (l, d) => Function.update marks l (mark l d)

/-- The handle of a name, apart from its registration. -/
def shape? (s : Session σ) (h : Name) : Option Handle :=
  (s.handles.find? h).map Handle.unregistered

theorem shape?_eq_some_iff {h : Name} {shape : Handle} : s.shape? h = some shape ↔
    ∃ handle, s.handles.find? h = some handle ∧ handle.unregistered = shape :=
  Option.map_eq_some_iff

/-- The handles after a move, by where the one comes from that a name was given. -/
structure Descends (s : Session σ) (descent : Option (Name × Descent)) (s' : Session σ) :
    Prop where
  /-- All other names keep their handles, but for the registration. -/
  others : ∀ l, (∀ d, descent ≠ some (l, d)) → s'.shape? l = s.shape? l
  /-- A copy has all fields of the original, and refers to the same memory. -/
  copied : ∀ {l h shape memory}, descent = some (l, .copied h) → s.shape? h = some shape →
    shape.descriptor = some (.memory memory) → s'.shape? l = some shape
  altered : ∀ {l h shape memory}, descent = some (l, .altered h) → s.shape? h = some shape →
    shape.descriptor = some (.memory memory) →
      ∃ shape', s'.shape? l = some shape' ∧ shape'.descriptor = some (.memory memory)

namespace Descends

theorem of_shape (h_shape : s'.shape? = s.shape?) : Descends s none s' where
  others l _ := congrFun h_shape l
  copied := nofun
  altered := nofun

theorem still : Descends s none s := of_shape rfl

theorem of_handles (h_handles : s'.handles = s.handles) : Descends s none s' :=
  of_shape (by unfold shape?; rw [h_handles])

/-- A handle takes the place of one that is the same but for its registration. -/
theorem of_kept {l : Name} {handle handle' : Handle} (h_find : s.handles.find? l = some handle)
    (h_handles : s'.handles = s.handles.insert l handle')
    (h_same : handle'.unregistered = handle.unregistered) : Descends s none s' := by
  refine of_shape (funext fun k => ?_)
  rw [shape?, h_handles, Table.find?_insert]
  by_cases h_eq : k = l
  · rw [if_pos h_eq, h_eq, shape?, h_find, Option.map_some, Option.map_some, h_same]
  · rw [if_neg h_eq, shape?]

/-- A name is given a handle. -/
theorem of_named {l : Name} {d : Descent} {handle' : Handle}
    (h_handles : s'.handles = s.handles.insert l handle')
    (h_copied : ∀ h shape memory, d = .copied h → s.shape? h = some shape →
      shape.descriptor = some (.memory memory) → handle'.unregistered = shape)
    (h_altered : ∀ h shape memory, d = .altered h → s.shape? h = some shape →
      shape.descriptor = some (.memory memory) → handle'.descriptor = some (.memory memory)) :
    Descends s (some (l, d)) s' := by
  have h_own : s'.shape? l = some handle'.unregistered := by
    rw [shape?, h_handles, Table.find?_insert_self, Option.map_some]
  refine ⟨fun k h_other => ?_, fun h_eq h_shape h_memory => ?_, fun h_eq h_shape h_memory => ?_⟩
  · have h_ne : k ≠ l := fun h_eq => h_other d (by rw [h_eq])
    rw [shape?, h_handles, Table.find?_insert_of_ne _ _ h_ne, shape?]
  · obtain ⟨rfl, rfl⟩ := Prod.mk.inj (Option.some.inj h_eq)
    rw [h_own, h_copied _ _ _ rfl h_shape h_memory]
  · obtain ⟨rfl, rfl⟩ := Prod.mk.inj (Option.some.inj h_eq)
    exact ⟨_, h_own, h_altered _ _ _ rfl h_shape h_memory⟩

theorem of_foreign {l : Name} {handle' : Handle}
    (h_handles : s'.handles = s.handles.insert l handle') :
    Descends s (some (l, .foreign)) s' := of_named h_handles nofun nofun

end Descends

/-! ## Steps -/

/-- The handles after an answer come from those before it. -/
def AllDescend (s : Session σ) (descent : Answer → Option (Name × Descent))
    (answer : Answer × Session σ) : Prop := Descends s (descent answer.1) answer.2

theorem duplicate_of_memory {handle copy : Handle} {memory : MemoryId}
    (h_copy : handle.duplicate = .ok copy)
    (h_memory : handle.unregistered.descriptor = some (.memory memory)) :
    copy.unregistered = handle.unregistered := by
  have h_descriptor : handle.descriptor = some (.memory memory) := h_memory
  simp only [Handle.duplicate, h_descriptor, Kernel.duplicate] at h_copy
  obtain rfl := Except.ok.inj h_copy
  rw [← h_descriptor]
  rfl

theorem ofWire_descriptor {bytes : List UInt8} {descriptor : Option Descriptor} {handle : Handle}
    (h_arrived : Handle.ofWire bytes descriptor = .ok handle) : handle.descriptor = descriptor := by
  unfold Handle.ofWire at h_arrived
  split at h_arrived
  · exact nomatch h_arrived
  split at h_arrived
  · exact nomatch h_arrived
  split at h_arrived
  · obtain rfl := Except.ok.inj h_arrived
    rfl
  · exact nomatch h_arrived

/-- The descriptor of a memory arrives as it was sent. -/
theorem deliver_of_memory {handle : Handle} {memory : MemoryId}
    (h_memory : handle.unregistered.descriptor = some (.memory memory)) :
    Courier.duplicate.deliver handle = some (.memory memory) := by
  have h_descriptor : handle.descriptor = some (.memory memory) := h_memory
  rw [Courier.deliver, h_descriptor]
  rfl

theorem transfer_descends (h target : Name) (damage : Damage) (courier : Courier) :
    AllDescend s (s.stepDescent? (.transfer h target damage courier))
      (s.step B (.transfer h target damage courier)) := by
  cases courier with
  | given descriptor =>
    refine withHandle_cases (P := AllDescend s _) Descends.still fun handle _ => ?_
    simp only
    rcases Handle.ofWire (damage.apply handle.toWire.encode) _ with e | arrived
    · exact Descends.still
    · exact Descends.of_foreign rfl
  | duplicate =>
    refine withHandle_cases (P := AllDescend s _) Descends.still fun handle h_find => ?_
    simp only
    rcases h_arrived : Handle.ofWire (damage.apply handle.toWire.encode)
      (Courier.duplicate.deliver handle) with e | arrived
    · exact Descends.still
    have h_handle : ∀ {h' shape}, h' = h → s.shape? h' = some shape →
        handle.unregistered = shape := by
      rintro h' shape rfl h_shape
      obtain ⟨handle', h_find', rfl⟩ := shape?_eq_some_iff.mp h_shape
      rw [Option.some.inj (h_find.symm.trans h_find')]
    refine Descends.of_named rfl (fun h' shape memory h_eq h_shape h_memory => ?_)
      fun h' shape memory h_eq h_shape h_memory => ?_
    · -- the bytes are those that were sent, so the handle that was sent is rebuilt
      split at h_eq
      next h_sent =>
        obtain rfl := h_handle (Descent.copied.inj h_eq).symm h_shape
        rw [flattened?, h_find, Option.map_some, Option.some.injEq] at h_sent
        rw [← h_sent, Handle.ofWire_toWire, deliver_of_memory h_memory] at h_arrived
        obtain rfl := Except.ok.inj h_arrived
        rw [← h_memory]
        rfl
      next => exact nomatch h_eq
    · split at h_eq
      next => exact nomatch h_eq
      next =>
        obtain rfl := h_handle (Descent.altered.inj h_eq).symm h_shape
        rw [ofWire_descriptor h_arrived, deliver_of_memory h_memory]

/-- After a step every handle comes from one before it, or from where the step says. -/
theorem step_descends (step : Step) :
    AllDescend s (s.stepDescent? step) (s.step B step) := by
  cases step with
  | new h size format usage => exact Descends.of_foreign rfl
  | duplicate h target =>
    refine withHandle_cases (P := AllDescend s _) Descends.still fun handle h_find => ?_
    rcases h_copy : handle.duplicate with e | copy
    · exact Descends.still
    refine Descends.of_named rfl (fun h' shape memory h_eq h_shape h_memory => ?_) nofun
    obtain rfl := Descent.copied.inj h_eq
    obtain ⟨handle', h_find', rfl⟩ := shape?_eq_some_iff.mp h_shape
    obtain rfl := Option.some.inj (h_find.symm.trans h_find')
    exact duplicate_of_memory h_copy h_memory
  | assign h edit =>
    refine withHandle_cases (P := AllDescend s _) Descends.still fun handle h_find => ?_
    refine Descends.of_named rfl nofun fun h' shape memory h_eq h_shape h_memory => ?_
    obtain rfl := Descent.altered.inj h_eq
    obtain ⟨handle', h_find', rfl⟩ := shape?_eq_some_iff.mp h_shape
    obtain rfl := Option.some.inj (h_find.symm.trans h_find')
    exact h_memory
  | transfer h target damage courier => exact transfer_descends h target damage courier
  | dropHandle h =>
    refine ⟨fun l h_other => ?_, nofun, nofun⟩
    have h_ne : l ≠ h := fun h_eq => h_other .foreign (by rw [h_eq]; rfl)
    exact congrArg _ (Table.find?_erase_of_ne _ h_ne)
  | dropManager m =>
    simp only [step]
    split
    · exact Descends.of_handles rfl
    · exact Descends.still
  | create m h size format usage =>
    refine withManager_cases (P := AllDescend s _) Descends.still fun _ _ => ?_
    rcases s.world.create B m size format usage with ⟨f | handle, w⟩
    · exact Descends.of_handles rfl
    · refine Descends.of_named rfl ?_ ?_
      · rintro _ _ _ ⟨⟩
      · rintro _ _ _ ⟨⟩
  | register m h =>
    refine withManager_cases (P := AllDescend s _) Descends.still fun _ _ =>
      withHandle_cases (P := AllDescend s _) Descends.still fun handle h_find => ?_
    rcases h_register : s.world.register B m handle with ⟨f | handle', w⟩
    · exact Descends.of_handles rfl
    · exact Descends.of_kept h_find rfl (World.register_unregistered h_register)
  | unregister m h =>
    refine withManager_cases (P := AllDescend s _) Descends.still fun _ _ =>
      withHandle_cases (P := AllDescend s _) Descends.still fun handle h_find => ?_
    rcases h_unregister : s.world.unregister B m handle with ⟨f | handle', w⟩
    · exact Descends.of_handles rfl
    · exact Descends.of_kept h_find rfl (World.unregister_unregistered h_unregister)
  | lock m h request =>
    refine withManager_cases (P := AllDescend s _) Descends.still fun _ _ =>
      withHandle_cases (P := AllDescend s _) Descends.still fun handle _ => ?_
    rcases s.world.lock B m handle request with ⟨f | address, w⟩ <;> exact Descends.of_handles rfl
  | unlock m h =>
    refine withManager_cases (P := AllDescend s _) Descends.still fun _ _ =>
      withHandle_cases (P := AllDescend s _) Descends.still fun handle _ => ?_
    rcases s.world.unlock B m handle with ⟨e | ⟨⟩, w⟩ <;> exact Descends.of_handles rfl
  | resolve m h useDevice =>
    refine withManager_cases (P := AllDescend s _) Descends.still fun manager _ =>
      withHandle_cases (P := AllDescend s _) Descends.still fun handle h_find => ?_
    by_cases h_kind : manager.kind ≠ .registry
    · rw [if_pos h_kind]
      exact Descends.still
    rw [if_neg h_kind]
    rcases h_resolve : s.world.resolve B m useDevice handle with ⟨f | ⟨found, handle'⟩, w⟩
    · exact Descends.of_handles rfl
    · exact Descends.of_kept h_find rfl (World.resolve_unregistered h_resolve)
  | hold m h o =>
    refine withManager_cases (P := AllDescend s _) Descends.still fun _ _ =>
      withHandle_cases (P := AllDescend s _) Descends.still fun handle _ => ?_
    rcases s.world.hold m handle with ⟨e | id, w⟩
    · exact Descends.of_handles rfl
    · exact Descends.of_handles (setHolding_handles _ _ _ _)
  | allocate m h o =>
    refine withManager_cases (P := AllDescend s _) Descends.still fun _ _ =>
      withHandle_cases (P := AllDescend s _) Descends.still fun handle _ => ?_
    rcases s.world.allocate B m handle with ⟨f | ⟨id, handle'⟩, w⟩
    · exact Descends.of_handles rfl
    · exact Descends.of_foreign (setHolding_handles _ _ _ _)
  | importFrom m h o =>
    refine withManager_cases (P := AllDescend s _) Descends.still fun _ _ =>
      withHandle_cases (P := AllDescend s _) Descends.still fun handle _ => ?_
    rcases s.world.importFrom B m handle with ⟨f | id, w⟩
    · exact Descends.of_handles rfl
    · exact Descends.of_handles (setHolding_handles _ _ _ _)
  | insert m h o =>
    refine withManager_cases (P := AllDescend s _) Descends.still fun manager _ =>
      withHandle_cases (P := AllDescend s _) Descends.still fun handle h_find => ?_
    by_cases h_kind : manager.kind ≠ .registry
    · rw [if_pos h_kind]
      exact Descends.still
    rw [if_neg h_kind]
    rcases s.holdings.find? o with _ | ⟨id, _ | _⟩
    · exact Descends.still
    · exact Descends.of_kept h_find rfl (World.insert_unregistered _ _ _ _)
    · exact Descends.still
  | lockObject o h request =>
    refine withHandle_cases (P := AllDescend s _) Descends.still fun handle _ =>
      withObject_cases (P := AllDescend s _) Descends.still fun _ object _ => ?_
    rcases s.world.lockObject B object handle request with ⟨f | address, w⟩ <;>
      exact Descends.of_handles rfl
  | unlockObject o =>
    exact withObject_cases (P := AllDescend s _) Descends.still fun _ _ _ => Descends.of_handles rfl
  | sameObject o other =>
    simp only [step]
    split <;> exact Descends.still
  | holding o =>
    simp only [step]
    split <;> exact Descends.still
  | release o => exact Descends.of_handles (releaseHolding_handles _ _ _)

theorem move_descends (m : Move σ) :
    Descends s (s.descent? m (s.move B m).1) (s.after B m) := by
  cases m with
  | client step => exact step_descends step
  | receive h bytes descriptor =>
    simp only [after, move, receive]
    rcases Handle.ofWire bytes descriptor with e | handle
    · exact Descends.still
    · exact Descends.of_foreign rfl
  | outside devices => exact Descends.of_handles rfl

/-! ## Creation -/

theorem created_of_stepDescent? {step : Step} {answer : Answer} {l : Name}
    (h : s.stepDescent? step answer = some (l, .created)) :
    answer = .done ∧ ∃ m size format usage, step = .create m l size format usage := by
  unfold stepDescent? at h
  split at h
  case h_7 =>
    obtain ⟨rfl, -⟩ := Prod.mk.inj (Option.some.inj h)
    exact ⟨rfl, _, _, _, _, rfl⟩
  case h_4 =>
    obtain ⟨-, h_from⟩ := Prod.mk.inj (Option.some.inj h)
    split at h_from <;> exact nomatch h_from
  all_goals exact nomatch h

/-- A handle is created together with the buffer that it describes, and is registered for it. -/
theorem created_of_descent? {m : Move σ} {l : Name}
    (h : s.descent? m (s.move B m).1 = some (l, .created)) :
    ∃ device size format usage o handle,
      BufferObject.allocate B device (Handle.new size format usage) s.world.env =
        (.ok (o, handle), (s.after B m).world.env) ∧
      (s.after B m).handles.find? l =
        some { handle with registration := some s.world.nextKey } := by
  cases m with
  | receive _ bytes descriptor =>
    rcases h_arrived : Handle.ofWire bytes descriptor with e | handle <;>
      simp [descent?, move, receive, h_arrived] at h
  | outside _ => cases h
  | client step =>
    obtain ⟨h_answer, device, size, format, usage, rfl⟩ := created_of_stepDescent? h
    rw [after]
    simp only [move, Session.step, withManager, World.create] at h_answer ⊢
    rcases h_manager : s.world.manager? device with _ | manager
    · rw [h_manager] at h_answer
      cases h_answer
    rcases h_call : BufferObject.allocate B device (Handle.new size format usage) s.world.env with
      ⟨f | ⟨o, handle⟩, env⟩
    · simp only [h_manager, h_call] at h_answer
      cases h_answer
    · refine ⟨device, size, format, usage, o, handle, ?_, ?_⟩
      · rw [h_call]
        rfl
      · exact Table.find?_insert_self _ _ _

end Session

end GraphicsBuffer
