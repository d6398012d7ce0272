/-
  GraphicsBuffer.Proofs.BufferObject.CpuUse

  What a buffer is mapped for. Locks and unlocks keep a buffer mapped exactly as long as the usages
  that it is locked for have CPU usage among them. Nothing is said of the count of locks, so this
  holds also of a buffer whose count has wrapped.
-/

import GraphicsBuffer.Proofs.BufferObject.Lock

namespace GraphicsBuffer

variable {σ : Type} {B : Backend σ}

namespace BufferObject

variable {o o' : BufferObject} {h : Handle} {request : LockRequest} {env env' : Env σ}

/-- A buffer is mapped exactly if it is locked for CPU usage. -/
def MappedForCpu (o : BufferObject) : Prop := o.mapping.isSome = o.lockedFor.cpuAccess

namespace MappedForCpu

theorem of_lock (h_mapped : o.MappedForCpu) (h_lock : o.lock B h request env = (.ok o', env')) :
    o'.MappedForCpu := by
  have h_outcome := h_lock ▸ lock_outcome B o h request env
  have h_lockedFor : ∀ o : BufferObject,
      (o.addLock (request.usage ∪ o.lockedFor)).lockedFor = request.usage ∪ o.lockedFor :=
    fun o => LockInvariant.addLock_lockedFor o request.usage
  cases h_outcome with
  | device _ _ h_cpu =>
    -- nothing is asked of the CPU, nor was it before
    have h_before : o.lockedFor.cpuAccess = false := by
      rw [Usage.cpuAccess_union, Bool.or_eq_false_iff] at h_cpu
      exact h_cpu.2
    rw [MappedForCpu, h_lockedFor, h_cpu]
    exact h_mapped.trans h_before
  | @mapped corner mapping _ _ _ h_cpu _ _ _ =>
    have h_after := h_lockedFor (o.withMapping mapping corner)
    exact (h_after ▸ h_cpu.symm : true = _)
  | shared _ _ h_cpu _ h_mapping _ =>
    rw [MappedForCpu, h_lockedFor, h_cpu, addLock, h_mapping]
    rfl

theorem of_unlock (h_mapped : o.MappedForCpu) (h_unlock : o.unlock B env = (o', env')) :
    o'.MappedForCpu := by
  have h_outcome := h_unlock ▸ unlock_outcome B o env
  cases h_outcome with
  | idle _ => exact h_mapped
  | inner _ _ => exact h_mapped
  | last _ _ => exact Usage.cpuAccess_empty.symm
  | lastMapped _ _ => exact Usage.cpuAccess_empty.symm

end MappedForCpu

end BufferObject

end GraphicsBuffer
