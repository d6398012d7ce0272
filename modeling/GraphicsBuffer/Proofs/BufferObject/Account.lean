/-
  GraphicsBuffer.Proofs.BufferObject.Account

  The calls that the operations on a buffer object make, and what becomes of the ledger. An
  allocation that fails after the backend has made a buffer frees it again, so a failure never
  leaves a buffer behind.
-/

import GraphicsBuffer.Proofs.Backend.Account
import GraphicsBuffer.Proofs.BufferObject.Lock
import GraphicsBuffer.Proofs.BufferObject.Origin

namespace GraphicsBuffer.BufferObject

variable {σ : Type} {B : Backend σ} {env env' : Env σ} {o : BufferObject}

/-! ## Calls -/

section Calls

variable {device : DeviceId} {h : Handle} {request : LockRequest}

/-- The calls of an allocation: at most one that makes no buffer; or one that makes a buffer, with
    no descriptor of it, and then its end; or one that makes a buffer, and its descriptor. -/
theorem allocate_trace {answer : Outcome (BufferObject × Handle)}
    (h_call : allocate B device h env = (answer, env')) :
    (∃ f calls, answer = .error f ∧ env'.nextBuffer = env.nextBuffer ∧
        env'.trace = env.trace ++ calls ∧
        ∀ call ∈ calls, ∃ size layout g,
          call = .created device size layout h.usage.bindFlags (.error g)) ∨
      (∃ f size layout, answer = .error f ∧ env'.nextBuffer = env.nextBuffer + 1 ∧
        env'.trace = env.trace ++
          [.created device size layout h.usage.bindFlags (.ok env.nextBuffer),
            .exported env.nextBuffer (.error f), .destroyed env.nextBuffer]) ∨
      ∃ h' size layout descriptor, answer = .ok ({ id := env.nextBuffer }, h') ∧
        env'.nextBuffer = env.nextBuffer + 1 ∧
        env'.trace = env.trace ++
          [.created device size layout h.usage.bindFlags (.ok env.nextBuffer),
            .exported env.nextBuffer (.ok descriptor)] := by
  have h_outcome := h_call ▸ allocate_outcome B device h env
  cases h_outcome with
  | noStorage _ => exact .inl ⟨_, [], rfl, rfl, (List.append_nil _).symm,
    fun _ h_mem => absurd h_mem List.not_mem_nil⟩
  | @aborted layout size a _ _ h_create =>
    obtain ⟨-, h_trace, ⟨g, -, h_next, -⟩ | ⟨h_answer, -, -⟩⟩ := Env.create_spec h_create
    · refine .inl ⟨_, _, rfl, h_next, h_trace, fun call h_mem => ?_⟩
      exact ⟨size, layout, _, List.mem_singleton.mp h_mem⟩
    · exact nomatch h_answer
  | @refused layout size e _ _ h_create =>
    obtain ⟨-, h_trace, ⟨g, -, h_next, -⟩ | ⟨h_answer, -, -⟩⟩ := Env.create_spec h_create
    · refine .inl ⟨_, _, rfl, h_next, h_trace, fun call h_mem => ?_⟩
      exact ⟨size, layout, _, List.mem_singleton.mp h_mem⟩
    · exact nomatch h_answer
  | @unexported layout size id f _ env₂ _ h_create h_export =>
    obtain ⟨-, h_trace, ⟨g, h_answer, -, -⟩ | ⟨h_answer, h_next, -⟩⟩ := Env.create_spec h_create
    · exact nomatch h_answer
    obtain rfl := Except.ok.inj h_answer
    obtain ⟨-, h_trace', h_next'⟩ := Env.exportDescriptor_spec h_export
    refine .inr (.inl ⟨f, size, layout, rfl, h_next'.trans h_next, ?_⟩)
    show env₂.trace ++ [.destroyed _] = _
    rw [h_trace', h_trace, List.append_assoc, List.append_assoc]
    rfl
  | @allocated layout size id descriptor _ _ _ h_create h_export =>
    obtain ⟨-, h_trace, ⟨g, h_answer, -, -⟩ | ⟨h_answer, h_next, -⟩⟩ := Env.create_spec h_create
    · exact nomatch h_answer
    obtain rfl := Except.ok.inj h_answer
    obtain ⟨-, h_trace', h_next'⟩ := Env.exportDescriptor_spec h_export
    refine .inr (.inr ⟨_, size, layout, descriptor, rfl, h_next'.trans h_next, ?_⟩)
    rw [h_trace', h_trace, List.append_assoc]
    rfl

/-- The calls of an import: at most one that makes no buffer, or one that makes a buffer. -/
theorem importFrom_trace {answer : Outcome BufferObject}
    (h_call : importFrom B device h env = (answer, env')) :
    (∃ f calls, answer = .error f ∧ env'.nextBuffer = env.nextBuffer ∧
        env'.trace = env.trace ++ calls ∧
        ∀ call ∈ calls, ∃ request g, call = .imported device request (.error g)) ∨
      ∃ request, answer = .ok { id := env.nextBuffer } ∧ env'.nextBuffer = env.nextBuffer + 1 ∧
        env'.trace = env.trace ++ [.imported device request (.ok env.nextBuffer)] := by
  have h_outcome := h_call ▸ importFrom_outcome B device h env
  cases h_outcome with
  | noDescriptor _ => exact .inl ⟨_, [], rfl, rfl, (List.append_nil _).symm,
    fun _ h_mem => absurd h_mem List.not_mem_nil⟩
  | noStorage _ _ => exact .inl ⟨_, [], rfl, rfl, (List.append_nil _).symm,
    fun _ h_mem => absurd h_mem List.not_mem_nil⟩
  | aborted _ _ h_import =>
    obtain ⟨-, h_trace, ⟨g, -, h_next, -⟩ | ⟨h_answer, -, -⟩⟩ := Env.importBuffer_spec h_import
    · refine .inl ⟨_, _, rfl, h_next, h_trace, fun call h_mem => ?_⟩
      exact ⟨_, _, List.mem_singleton.mp h_mem⟩
    · exact nomatch h_answer
  | refused _ _ h_import =>
    obtain ⟨-, h_trace, ⟨g, -, h_next, -⟩ | ⟨h_answer, -, -⟩⟩ := Env.importBuffer_spec h_import
    · refine .inl ⟨_, _, rfl, h_next, h_trace, fun call h_mem => ?_⟩
      exact ⟨_, _, List.mem_singleton.mp h_mem⟩
    · exact nomatch h_answer
  | imported _ _ h_import =>
    obtain ⟨-, h_trace, ⟨g, h_answer, -, -⟩ | ⟨h_answer, h_next, -⟩⟩ :=
      Env.importBuffer_spec h_import
    · exact nomatch h_answer
    obtain rfl := Except.ok.inj h_answer
    exact .inr ⟨_, rfl, h_next, h_trace⟩

/-- A lock makes at most one call, for a mapping of its buffer. -/
theorem LockOutcome.trace {answer : Outcome BufferObject}
    (h_lock : LockOutcome B o h request env (answer, env')) :
    env'.trace = env.trace ∨
      ∃ region access given, env'.trace = env.trace ++ [.mapped o.id region access given] := by
  cases h_lock with
  | notPermitted _ => exact .inl rfl
  | incompatible _ _ => exact .inl rfl
  | device _ _ _ => exact .inl rfl
  | noCorner _ _ _ _ => exact .inl rfl
  | unmapped _ _ _ _ _ h_open =>
    obtain ⟨given, -, h_trace, -, -⟩ := openMapping_spec h_open
    exact .inr ⟨_, _, given, h_trace⟩
  | mapped _ _ _ _ _ h_open =>
    obtain ⟨given, -, h_trace, -, -⟩ := openMapping_spec h_open
    exact .inr ⟨_, _, given, h_trace⟩
  | beyond _ _ _ _ _ _ => exact .inl rfl
  | shared _ _ _ _ _ _ => exact .inl rfl

/-- An unlock makes at most one call, which ends the mapping of the object. -/
theorem UnlockOutcome.trace {o' : BufferObject} (h_unlock : UnlockOutcome B o env (o', env')) :
    (env'.trace = env.trace ∧ o'.mapping = o.mapping) ∨
      ∃ mapping, o.mapping = some mapping ∧ o'.mapping = none ∧
        env'.trace = env.trace ++ [.unmapped o.id mapping] := by
  cases h_unlock with
  | idle _ => exact .inl ⟨rfl, rfl⟩
  | inner _ _ => exact .inl ⟨rfl, rfl⟩
  | last _ h_mapping => exact .inl ⟨rfl, h_mapping.symm⟩
  | lastMapped _ h_mapping => exact .inr ⟨_, h_mapping, rfl, rfl⟩

/-- The end of an object ends its mapping first, if it has one. -/
theorem destroy_trace (B : Backend σ) (o : BufferObject) (env : Env σ) :
    (o.mapping = none ∧ (o.destroy B env).trace = env.trace ++ [.destroyed o.id]) ∨
      ∃ mapping, o.mapping = some mapping ∧
        (o.destroy B env).trace = env.trace ++ [.unmapped o.id mapping] ++ [.destroyed o.id] := by
  unfold destroy
  rcases h_mapping : o.mapping with _ | mapping
  · exact .inl ⟨rfl, rfl⟩
  · exact .inr ⟨mapping, rfl, rfl⟩

end Calls

/-! ## The ledger -/

section Balance

variable {device : DeviceId} {h : Handle} {alive : List BufferId}

/-- An allocation that fails leaves the buffers that are alive as they were. -/
theorem allocate_error_ledger {f : Failure} (h_call : allocate B device h env = (.error f, env'))
    (h_ledger : Ledger env.trace env.nextBuffer alive) :
    Ledger env'.trace env'.nextBuffer alive := by
  rcases allocate_trace h_call with ⟨_, calls, -, h_next, h_trace, h_calls⟩ |
    ⟨_, size, layout, -, h_next, h_trace⟩ | ⟨_, _, _, _, h_ok, -⟩
  · rw [h_next, h_trace]
    refine h_ledger.silents fun call h_mem => ?_
    obtain ⟨_, _, _, rfl⟩ := h_calls call h_mem
    exact ⟨rfl, rfl⟩
  · -- the buffer is made, asked for its descriptor, and freed again
    rw [h_next, h_trace, List.append_cons, List.append_cons]
    have h_made : Ledger
        (env.trace ++ [.created device size layout h.usage.bindFlags (.ok env.nextBuffer)])
        (env.nextBuffer + 1) (alive ++ [env.nextBuffer]) := h_ledger.make rfl rfl
    exact ((h_made.silent rfl rfl).perm (List.perm_append_singleton _ _)).free
  · exact nomatch h_ok

/-- A buffer that is allocated is alive. -/
theorem allocate_ok_ledger {h' : Handle}
    (h_call : allocate B device h env = (.ok (o, h'), env'))
    (h_ledger : Ledger env.trace env.nextBuffer alive) :
    Ledger env'.trace env'.nextBuffer (alive ++ [env.nextBuffer]) := by
  rcases allocate_trace h_call with ⟨_, _, h_error, -⟩ | ⟨_, _, _, h_error, -⟩ |
    ⟨_, size, layout, descriptor, -, h_next, h_trace⟩
  · exact nomatch h_error
  · exact nomatch h_error
  · rw [h_next, h_trace, List.append_cons]
    have h_made : Ledger
        (env.trace ++ [.created device size layout h.usage.bindFlags (.ok env.nextBuffer)])
        (env.nextBuffer + 1) (alive ++ [env.nextBuffer]) := h_ledger.make rfl rfl
    exact h_made.silent rfl rfl

theorem importFrom_error_ledger {f : Failure}
    (h_call : importFrom B device h env = (.error f, env'))
    (h_ledger : Ledger env.trace env.nextBuffer alive) :
    Ledger env'.trace env'.nextBuffer alive := by
  rcases importFrom_trace h_call with ⟨_, calls, -, h_next, h_trace, h_calls⟩ | ⟨_, h_ok, -⟩
  · rw [h_next, h_trace]
    refine h_ledger.silents fun call h_mem => ?_
    obtain ⟨_, _, rfl⟩ := h_calls call h_mem
    exact ⟨rfl, rfl⟩
  · exact nomatch h_ok

/-- A buffer that is imported is alive. -/
theorem importFrom_ok_ledger (h_call : importFrom B device h env = (.ok o, env'))
    (h_ledger : Ledger env.trace env.nextBuffer alive) :
    Ledger env'.trace env'.nextBuffer (alive ++ [env.nextBuffer]) := by
  rcases importFrom_trace h_call with ⟨_, _, h_error, -⟩ | ⟨request, -, h_next, h_trace⟩
  · exact nomatch h_error
  · rw [h_next, h_trace]
    exact h_ledger.make rfl rfl

/-- Whatever comes of it, a lock makes and frees no buffer. -/
theorem LockOutcome.ledger {request : LockRequest} {answer : Outcome BufferObject}
    (h_lock : LockOutcome B o h request env (answer, env'))
    (h_ledger : Ledger env.trace env.nextBuffer alive) :
    Ledger env'.trace env'.nextBuffer alive := by
  rw [h_lock.numbers.1]
  rcases h_lock.trace with h_trace | ⟨_, _, _, h_trace⟩
  · rw [h_trace]
    exact h_ledger
  · rw [h_trace]
    exact h_ledger.silent rfl rfl

theorem UnlockOutcome.ledger {o' : BufferObject} (h_unlock : UnlockOutcome B o env (o', env'))
    (h_ledger : Ledger env.trace env.nextBuffer alive) :
    Ledger env'.trace env'.nextBuffer alive := by
  rw [h_unlock.numbers.1]
  rcases h_unlock.trace with ⟨h_trace, -⟩ | ⟨_, -, -, h_trace⟩
  · rw [h_trace]
    exact h_ledger
  · rw [h_trace]
    exact h_ledger.silent rfl rfl

theorem destroy_ledger {next : BufferId} (h_ledger : Ledger env.trace next (o.id :: alive)) :
    Ledger (o.destroy B env).trace next alive := by
  rcases destroy_trace B o env with ⟨-, h_trace⟩ | ⟨mapping, -, h_trace⟩
  · rw [h_trace]
    exact h_ledger.free
  · rw [h_trace]
    exact (h_ledger.silent rfl rfl).free

end Balance

end GraphicsBuffer.BufferObject
