/-
  GraphicsBuffer.Proofs.Backend.Trace

  What a note and a call change of an environment. A note touches nothing but the log; a call puts
  the backend's new state in place and appends itself to the trace.
-/

import GraphicsBuffer.Backend.Trace

namespace GraphicsBuffer.Env

variable {σ : Type}

/-- The calls that were made between two environments of one run. -/
def callsSince (before after : Env σ) : List Call := after.trace.drop before.trace.length

theorem callsSince_of_trace {before after : Env σ} {calls : List Call}
    (h : after.trace = before.trace ++ calls) : callsSince before after = calls := by
  rw [callsSince, h, List.drop_left]

/-- If none was made, there is none since. -/
theorem callsSince_of_still {before after : Env σ} (h : after.trace = before.trace) :
    callsSince before after = [] :=
  callsSince_of_trace (h.trans (List.append_nil _).symm)

theorem not_mem_callsSince {before after : Env σ} {call : Call} (h : after.trace = before.trace) :
    call ∉ callsSince before after := by
  rw [callsSince_of_still h]
  exact List.not_mem_nil

/-- If one was made, it is the only one since. -/
theorem eq_of_mem_callsSince {before after : Env σ} {call last : Call}
    (h : after.trace = before.trace ++ [last]) (h_mem : call ∈ callsSince before after) :
    call = last := by
  rw [callsSince_of_trace h] at h_mem
  exact List.mem_singleton.mp h_mem

/-! ## Notes -/

@[simp] theorem note_trace (env : Env σ) (entry : LogEntry) :
    (env.note entry).trace = env.trace := rfl

/-! ## Calls -/

variable {B : Backend σ} {env env' : Env σ}

/-- What a call for a new buffer does: it takes the next number, and uses it up if it succeeds. -/
theorem create_spec {device : DeviceId} {size : Extent} {layout : FourCC} {flags : BindFlags}
    {answer : Outcome BufferId} (h : env.create B device size layout flags = (answer, env')) :
    (B.create device env.nextBuffer size layout flags env.devices).2 = env'.devices ∧
      env'.trace = env.trace ++ [.created device size layout flags answer] ∧
      ((∃ f, answer = .error f ∧ env'.nextBuffer = env.nextBuffer ∧
          (B.create device env.nextBuffer size layout flags env.devices).1 = .error f) ∨
        (answer = .ok env.nextBuffer ∧ env'.nextBuffer = env.nextBuffer + 1 ∧
          (B.create device env.nextBuffer size layout flags env.devices).1 = .ok ())) := by
  unfold create at h
  rcases h_call : B.create device env.nextBuffer size layout flags env.devices with ⟨f | ⟨⟩, s⟩
  · rw [h_call] at h
    obtain ⟨rfl, rfl⟩ := Prod.mk.inj h
    exact ⟨rfl, rfl, .inl ⟨f, rfl, rfl, rfl⟩⟩
  · rw [h_call] at h
    obtain ⟨rfl, rfl⟩ := Prod.mk.inj h
    exact ⟨rfl, rfl, .inr ⟨rfl, rfl, rfl⟩⟩

theorem create_nextBuffer_le {device : DeviceId} {size : Extent} {layout : FourCC}
    {flags : BindFlags} {answer : Outcome BufferId}
    (h : env.create B device size layout flags = (answer, env')) :
    env.nextBuffer ≤ env'.nextBuffer := by
  obtain ⟨-, -, ⟨_, -, h_next, -⟩ | ⟨-, h_next, -⟩⟩ := create_spec h
  · exact Nat.le_of_eq h_next.symm
  · exact h_next ▸ Nat.le_succ _

/-- What a call for a buffer on existing memory does. -/
theorem importBuffer_spec {device : DeviceId} {request : ImportRequest}
    {answer : Outcome BufferId} (h : env.importBuffer B device request = (answer, env')) :
    (B.importBuffer device env.nextBuffer request env.devices).2 = env'.devices ∧
      env'.trace = env.trace ++ [.imported device request answer] ∧
      ((∃ f, answer = .error f ∧ env'.nextBuffer = env.nextBuffer ∧
          (B.importBuffer device env.nextBuffer request env.devices).1 = .error f) ∨
        (answer = .ok env.nextBuffer ∧ env'.nextBuffer = env.nextBuffer + 1 ∧
          (B.importBuffer device env.nextBuffer request env.devices).1 = .ok ())) := by
  unfold importBuffer at h
  rcases h_call : B.importBuffer device env.nextBuffer request env.devices with ⟨f | ⟨⟩, s⟩
  · rw [h_call] at h
    obtain ⟨rfl, rfl⟩ := Prod.mk.inj h
    exact ⟨rfl, rfl, .inl ⟨f, rfl, rfl, rfl⟩⟩
  · rw [h_call] at h
    obtain ⟨rfl, rfl⟩ := Prod.mk.inj h
    exact ⟨rfl, rfl, .inr ⟨rfl, rfl, rfl⟩⟩

theorem importBuffer_nextBuffer_le {device : DeviceId} {request : ImportRequest}
    {answer : Outcome BufferId} (h : env.importBuffer B device request = (answer, env')) :
    env.nextBuffer ≤ env'.nextBuffer := by
  obtain ⟨-, -, ⟨_, -, h_next, -⟩ | ⟨-, h_next, -⟩⟩ := importBuffer_spec h
  · exact Nat.le_of_eq h_next.symm
  · exact h_next ▸ Nat.le_succ _

/-- What a call for a descriptor does. -/
theorem exportDescriptor_spec {id : BufferId} {answer : Outcome Descriptor}
    (h : env.exportDescriptor B id = (answer, env')) :
    B.exportDescriptor id env.devices = (answer, env'.devices) ∧
      env'.trace = env.trace ++ [.exported id answer] ∧ env'.nextBuffer = env.nextBuffer := by
  cases h
  exact ⟨rfl, rfl, rfl⟩

/-- What a call for a mapping does. -/
theorem map_spec {id : BufferId} {region : Rect} {access : Access}
    {answer : Outcome BackendMapping} (h : env.map B id region access = (answer, env')) :
    B.map id region access env.devices = (answer, env'.devices) ∧
      env'.trace = env.trace ++ [.mapped id region access answer] ∧
      env'.nextBuffer = env.nextBuffer := by
  cases h
  exact ⟨rfl, rfl, rfl⟩

variable (B env)

@[simp] theorem destroy_devices (id : BufferId) :
    (env.destroy B id).devices = B.destroy id env.devices := rfl

@[simp] theorem destroy_nextBuffer (id : BufferId) :
    (env.destroy B id).nextBuffer = env.nextBuffer := rfl

end GraphicsBuffer.Env
