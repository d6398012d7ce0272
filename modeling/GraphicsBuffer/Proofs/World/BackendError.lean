/-
  GraphicsBuffer.Proofs.World.BackendError

  What becomes of an error of a backend (`backend_errors_reported`). A call that fails ends the
  operation that makes it, and the operation says what it could not do: which buffer it could not
  allocate or import, or that it could not map. So the class that a caller sees is that of the
  operation. The call for the descriptor of a new buffer is the exception. Its error is passed on as
  it is, and there the class is the backend's choice (`export_error_decides_status`).
-/

import GraphicsBuffer.Backend.System
import GraphicsBuffer.Proofs.Session.Allocation

namespace GraphicsBuffer

/-! ## Errors of calls -/

/-- The error that a call is answered with. -/
def Call.error? : Call → Option Error
  | created _ _ _ _ (.error (.error e)) => some e
  | imported _ _ (.error (.error e)) => some e
  | exported _ (.error (.error e)) => some e
  | mapped _ _ _ (.error (.error e)) => some e
  | _ => none

/-- Whether a call asks for a descriptor. -/
def Call.isExport : Call → Bool
  | exported _ _ => true
  | _ => false

/-- An operation fails with an error, and a caller that only tells classes apart sees its class. -/
structure FailsAs {α : Type} (answer : Outcome α) (e : Error) (status : Status) : Prop where
  error : answer = .error (.error e)
  status : e.status = status

namespace BufferObject

variable {σ : Type} {B : Backend σ} {device : DeviceId} {h : Handle} {env env' : Env σ}
  {call : Call} {e : Error}

/-- If a call of an allocation that is given up fails, it is given up for that. Only an error of the
    call for the descriptor is passed on. -/
theorem Abandoned.reason {f : Failure} {next : BufferId} {calls : List Call}
    (h_abandoned : Abandoned device h next f calls) (h_mem : call ∈ calls)
    (h_error : call.error? = some e) :
    (¬call.isExport ∧ f = .error (.allocationFailed h.size h.format.code h.usage.bits)) ∨
      (call.isExport ∧ f = .error e) := by
  cases h_abandoned with
  | noLayout _ => cases h_mem
  | noSize _ => cases h_mem
  | refused size layout given =>
    obtain rfl := List.mem_singleton.mp h_mem
    exact .inl ⟨Bool.false_ne_true, rfl⟩
  | aborted size layout a =>
    obtain rfl := List.mem_singleton.mp h_mem
    cases h_error
  | unexported size layout =>
    simp only [List.mem_cons, List.not_mem_nil, or_false] at h_mem
    -- the buffer was made, and freeing it has no answer
    rcases h_mem with rfl | rfl | rfl
    · cases h_error
    · rcases f with given | a
      · obtain rfl : given = e := Option.some.inj h_error
        exact .inr ⟨rfl, rfl⟩
      · cases h_error
    · cases h_error

/-- What an allocation says if one of its calls fails. -/
theorem allocate_error_of_call {answer : Outcome (BufferObject × Handle)}
    (h_call : allocate B device h env = (answer, env')) (h_mem : call ∈ env.callsSince env')
    (h_error : call.error? = some e) :
    (¬call.isExport ∧
        answer = .error (.error (.allocationFailed h.size h.format.code h.usage.bits))) ∨
      (call.isExport ∧ answer = .error (.error e)) := by
  rcases answer with f | ⟨o, h'⟩
  · rcases (abandoned_of_error h_call).reason h_mem h_error with
      ⟨h_other, rfl⟩ | ⟨h_export, rfl⟩
    · exact .inl ⟨h_other, rfl⟩
    · exact .inr ⟨h_export, rfl⟩
  · -- both calls of an allocation that succeeds have succeeded
    obtain ⟨-, -, -, size, layout, descriptor, h_calls⟩ := allocated_of_ok h_call
    rw [h_calls] at h_mem
    simp only [List.mem_cons, List.not_mem_nil, or_false] at h_mem
    rcases h_mem with rfl | rfl
    · cases h_error
    · cases h_error

/-- What an import says if its call fails. -/
theorem importFrom_error_of_call {answer : Outcome BufferObject}
    (h_call : importFrom B device h env = (answer, env')) (h_mem : call ∈ env.callsSince env')
    (h_error : call.error? = some e) :
    answer = .error (.error (.importFailed h.size h.format.code)) := by
  have h_outcome := h_call ▸ importFrom_outcome B device h env
  cases h_outcome with
  | noDescriptor _ => exact absurd h_mem (Env.not_mem_callsSince rfl)
  | noStorage _ _ => exact absurd h_mem (Env.not_mem_callsSince rfl)
  | aborted _ _ h_import =>
    have h_trace : env'.trace = env.trace ++ _ := (Env.importBuffer_spec h_import).2.1
    obtain rfl := Env.eq_of_mem_callsSince h_trace h_mem
    cases h_error
  | refused _ _ _ => rfl
  | imported _ _ h_import =>
    have h_trace : env'.trace = env.trace ++ _ := (Env.importBuffer_spec h_import).2.1
    obtain rfl := Env.eq_of_mem_callsSince h_trace h_mem
    cases h_error

/-- What a lock says if its call fails. -/
theorem lock_error_of_call {o : BufferObject} {request : LockRequest}
    {answer : Outcome BufferObject} (h_call : o.lock B h request env = (answer, env'))
    (h_mem : call ∈ env.callsSince env') (h_error : call.error? = some e) :
    answer = .error (.error .mappingFailed) := by
  have h_outcome := h_call ▸ lock_outcome B o h request env
  cases h_outcome with
  | unmapped _ _ _ _ _ h_open =>
    obtain ⟨given, -, h_trace, h_why⟩ := openMapping_failed h_open
    obtain rfl := Env.eq_of_mem_callsSince h_trace h_mem
    rcases h_why with ⟨_, rfl, rfl⟩ | ⟨a, rfl, -⟩ | ⟨mapping, rfl, -, -⟩
    · rfl
    · cases h_error
    · cases h_error
  | mapped _ _ _ _ _ h_open =>
    obtain ⟨given, -, h_trace, -, h_given⟩ := openMapping_spec h_open
    obtain ⟨rfl, -⟩ := h_given _ rfl
    obtain rfl := Env.eq_of_mem_callsSince h_trace h_mem
    cases h_error
  -- in all other cases the backend is not called
  | notPermitted _ => exact absurd h_mem (Env.not_mem_callsSince rfl)
  | incompatible _ _ => exact absurd h_mem (Env.not_mem_callsSince rfl)
  | device _ _ _ => exact absurd h_mem (Env.not_mem_callsSince rfl)
  | noCorner _ _ _ _ => exact absurd h_mem (Env.not_mem_callsSince rfl)
  | beyond _ _ _ _ _ _ => exact absurd h_mem (Env.not_mem_callsSince rfl)
  | shared _ _ _ _ _ _ => exact absurd h_mem (Env.not_mem_callsSince rfl)

end BufferObject

/-! ## Operations of a manager -/

namespace World

variable {σ : Type} {B : Backend σ} {w : World σ} {m : ManagerId} {call : Call} {e : Error}

/-- What creating a buffer says if one of its calls fails. -/
theorem create_error_of_call {size : Extent} {format : PixelFormat} {usage : Usage}
    (h_mem : call ∈ w.env.callsSince (w.create B m size format usage).2.env)
    (h_error : call.error? = some e) :
    (¬call.isExport ∧ (w.create B m size format usage).1 =
        .error (.error (.allocationFailed size format.code usage.bits))) ∨
      (call.isExport ∧ (w.create B m size format usage).1 = .error (.error e)) := by
  rcases h_manager : w.manager? m with _ | manager
  · simp only [create, h_manager] at h_mem
    exact absurd h_mem (Env.not_mem_callsSince rfl)
  rcases create_of_manager B h_manager size format usage with
    ⟨f, env, h_call, h_create⟩ | ⟨h, env, h_call, h_create⟩
  · rw [h_create] at h_mem ⊢
    rcases BufferObject.allocate_error_of_call h_call h_mem h_error with
      ⟨h_other, h_answer⟩ | ⟨h_export, h_answer⟩
    · exact .inl ⟨h_other, congrArg Except.error (Except.error.inj h_answer)⟩
    · exact .inr ⟨h_export, congrArg Except.error (Except.error.inj h_answer)⟩
  · rw [h_create] at h_mem
    rcases BufferObject.allocate_error_of_call h_call h_mem h_error with
      ⟨-, h_answer⟩ | ⟨-, h_answer⟩
    · cases h_answer
    · cases h_answer

/-- What registering a handle says if its call fails. -/
theorem register_error_of_call {h : Handle}
    (h_mem : call ∈ w.env.callsSince (w.register B m h).2.env) (h_error : call.error? = some e) :
    (w.register B m h).1 = .error (.error (.importFailed h.size h.format.code)) := by
  by_cases h_key : h.registration = none
  · rcases h_manager : w.manager? m with _ | manager
    · simp only [register, resolve, h_key, h_manager] at h_mem
      exact absurd h_mem (Env.not_mem_callsSince rfl)
    rcases register_of_unregistered B h_manager h_key with
      ⟨f, env, h_call, h_register⟩ | ⟨env, h_call, h_register⟩
    · rw [h_register] at h_mem ⊢
      have h_answer := BufferObject.importFrom_error_of_call h_call h_mem h_error
      exact congrArg Except.error (Except.error.inj h_answer)
    · rw [h_register] at h_mem
      cases BufferObject.importFrom_error_of_call h_call h_mem h_error
  · -- a handle that is registered is looked up and nothing else
    rw [(register_of_registered B w m h_key).1] at h_mem
    exact absurd h_mem (Env.not_mem_callsSince rfl)

/-- What locking a buffer says if its call fails. -/
theorem lock_error_of_call {h : Handle} {request : LockRequest}
    (h_mem : call ∈ w.env.callsSince (w.lock B m h request).2.env)
    (h_error : call.error? = some e) :
    (w.lock B m h request).1 = .error (.error .mappingFailed) := by
  rcases h_object : w.object? m h with _ | o
  · simp only [lock, h_object] at h_mem
    exact absurd h_mem (Env.not_mem_callsSince rfl)
  rcases h_call : o.lock B h request w.env with ⟨f | o', env⟩
  · simp only [lock, h_object, lockObject, h_call] at h_mem ⊢
    have h_answer := BufferObject.lock_error_of_call h_call h_mem h_error
    exact congrArg Except.error (Except.error.inj h_answer)
  · simp only [lock, h_object, lockObject, h_call] at h_mem
    cases BufferObject.lock_error_of_call h_call h_mem h_error

/-- How a manager reports the errors that a backend answers the calls of its operations with. -/
structure ReportsErrors (B : Backend σ) (w : World σ) (m : ManagerId) : Prop where
  /-- A buffer that the backend does not make could not be allocated. -/
  create : ∀ size format usage,
    ∀ call ∈ w.env.callsSince (w.create B m size format usage).2.env,
    ∀ e, call.error? = some e → ¬call.isExport →
      FailsAs (w.create B m size format usage).1
        (.allocationFailed size format.code usage.bits) .allocationFailed
  /-- If it gives no descriptor of a buffer that it has made, what it says is passed on. -/
  descriptor : ∀ size format usage,
    ∀ call ∈ w.env.callsSince (w.create B m size format usage).2.env,
    ∀ e, call.error? = some e → call.isExport →
      FailsAs (w.create B m size format usage).1 e e.status
  /-- A buffer that it does not take could not be imported. -/
  register : ∀ h, ∀ call ∈ w.env.callsSince (w.register B m h).2.env,
    ∀ e, call.error? = some e →
      FailsAs (w.register B m h).1 (.importFailed h.size h.format.code) .allocationFailed
  /-- A buffer that it does not map could not be mapped. -/
  lock : ∀ h request, ∀ call ∈ w.env.callsSince (w.lock B m h request).2.env,
    ∀ e, call.error? = some e → FailsAs (w.lock B m h request).1 .mappingFailed .outOfMemory

/-- On every backend and in every state, an error that a call is answered with is reported as the
    failure of the operation that made the call, whichever error it is; but for the call for the
    descriptor of a new buffer, which gives its own. -/
theorem backend_errors_reported (B : Backend σ) (w : World σ) (m : ManagerId) :
    ReportsErrors B w m where
  create _ _ _ _ h_mem _ h_error h_other := by
    rcases create_error_of_call h_mem h_error with ⟨-, h_answer⟩ | ⟨h_export, -⟩
    · exact ⟨h_answer, rfl⟩
    · exact absurd h_export h_other
  descriptor _ _ _ _ h_mem _ h_error h_export := by
    rcases create_error_of_call h_mem h_error with ⟨h_other, -⟩ | ⟨-, h_answer⟩
    · exact absurd h_export h_other
    · exact ⟨h_answer, rfl⟩
  register _ _ h_mem _ h_error := ⟨register_error_of_call h_mem h_error, rfl⟩
  lock _ _ _ h_mem _ h_error := ⟨lock_error_of_call h_mem h_error, rfl⟩

/-! ## A backend that chooses the class -/

/-- The allocator on shared memory, but no buffer of it gives a descriptor. -/
def unexportable (e : Error) : Backend SystemState :=
  { systemBackend with exportDescriptor := fun _ s => (.error (.error e), s) }

/-- Creating a buffer on it. -/
def createUnexportable (e : Error) : Outcome Handle × World SystemState :=
  (start (unexportable e) {} [.full]).create (unexportable e) 0 ⟨16, 16⟩ PixelFormat.rgba8888 ∅

/-- A caller of it is told of an invalid argument or of a lack of memory, as the backend likes; with
    either error it is the allocation that failed. -/
theorem export_error_decides_status :
    (∃ call ∈ (createUnexportable .missingDescriptor).2.env.trace,
        call.isExport ∧ call.error? = some .missingDescriptor) ∧
      FailsAs (createUnexportable .missingDescriptor).1 .missingDescriptor .invalidArgument ∧
      (∃ call ∈ (createUnexportable .mappingFailed).2.env.trace,
        call.isExport ∧ call.error? = some .mappingFailed) ∧
      FailsAs (createUnexportable .mappingFailed).1 .mappingFailed .outOfMemory := by
  have h_asked : ∀ e ∈ [Error.missingDescriptor, .mappingFailed],
      ∃ call ∈ (createUnexportable e).2.env.trace, call.isExport ∧ call.error? = some e := by
    decide +kernel
  have h_answer : ∀ e ∈ [Error.missingDescriptor, .mappingFailed],
      (createUnexportable e).1 = .error (.error e) := by
    decide +kernel
  exact ⟨h_asked _ (by decide), ⟨h_answer _ (by decide), rfl⟩, h_asked _ (by decide),
    ⟨h_answer _ (by decide), rfl⟩⟩

end World

end GraphicsBuffer
