/-
  GraphicsBuffer.Proofs.BufferObject.Description

  What a handle says of the buffer that was allocated for it, on any backend. The descriptor and
  the stride are the buffer's. The modifier is too if the backend reports one, or if the handle had
  none; else it is the one that the handle had, and whoever imports the handle is told it
  (`allocated_description`, `earlier_modifier_kept`).
-/

import GraphicsBuffer.Backend.Faults
import GraphicsBuffer.Backend.System
import GraphicsBuffer.Proofs.World.Registration

namespace GraphicsBuffer

/-- The modifier that a backend reports of a buffer, unless it is the one that stands for none. -/
def Backend.reportedModifier {σ : Type} (B : Backend σ) (id : BufferId) (devices : σ) :
    Option UInt64 :=
  (B.modifier id devices).filter (· ≠ Handle.noModifier)

namespace BufferObject

variable {σ : Type} {B : Backend σ} {device : DeviceId} {h h' : Handle} {env env' : Env σ}
  {o : BufferObject} {descriptor : Descriptor} {stride : UInt32} {modifier : Option UInt64}

/-! ## Modifiers -/

theorem modifier_describeIn_some (word : UInt64) :
    (describeIn h descriptor stride (some word)).modifier =
      (some word).filter (· ≠ Handle.noModifier) := by
  rw [Option.filter_some]
  by_cases h_none : word = Handle.noModifier
  · simp [describeIn, Handle.modifier, h_none]
  · simp [describeIn, Handle.modifier, h_none]

theorem modifier_describeIn_none :
    (describeIn h descriptor stride none).modifier = h.modifier := rfl

/-- A handle has the reported modifier if there is one, or if it had none. -/
theorem modifier_describeIn_iff :
    (describeIn h descriptor stride modifier).modifier = modifier.filter (· ≠ Handle.noModifier) ↔
      modifier ≠ none ∨ h.modifier = none := by
  rcases modifier with _ | word
  · rw [modifier_describeIn_none]
    simp
  · rw [modifier_describeIn_some]
    simp

/-! ## Handles of allocated buffers -/

/-- What is true of a handle that a buffer has been allocated for. -/
structure Describes (B : Backend σ) (device : DeviceId) (h : Handle) (env : Env σ)
    (o : BufferObject) (h' : Handle) (env' : Env σ) : Prop where
  stride : h'.stride = B.stride o.id env'.devices
  /-- Its descriptor is the one that the backend gave last, for the buffer that it had made. -/
  exported : ∃ layout size descriptor, storage h = .ok (layout, size) ∧
    h'.descriptor = some descriptor ∧
    env.callsSince env' = [.created device size layout h.usage.bindFlags (.ok o.id),
      .exported o.id (.ok descriptor)]
  /-- Its modifier is the buffer's exactly if the backend reports one, or there was none before; -/
  modifier_iff : h'.modifier = B.reportedModifier o.id env'.devices ↔
    B.modifier o.id env'.devices ≠ none ∨ h.modifier = none
  /-- else it is the one from before. -/
  kept : B.modifier o.id env'.devices = none → h'.modifier = h.modifier
  /-- Whoever imports the handle next, on any backend, is told the stride and this modifier. -/
  imported : ∀ {τ : Type} (C : Backend τ) (device' : DeviceId) (later : Env τ),
    ∃ layout size answer, storage h = .ok (layout, size) ∧
      later.callsSince (importFrom C device' h' later).2 =
        [.imported device' ⟨size, layout, h'.descriptor, B.stride o.id env'.devices, h'.modifier⟩
          answer]

/-- After an allocation the handle describes the buffer, but for a modifier that the backend does
    not report. -/
theorem allocated_description (h_call : allocate B device h env = (.ok (o, h'), env')) :
    Describes B device h env o h' env' := by
  have h_outcome := h_call ▸ allocate_outcome B device h env
  cases h_outcome with
  | @allocated layout size id descriptor env₁ _ h_storage h_create h_export =>
    obtain ⟨-, h_created, -⟩ := Env.create_spec h_create
    obtain ⟨-, h_exported, -⟩ := Env.exportDescriptor_spec h_export
    have h_trace : env'.trace = env.trace ++ [.created device size layout h.usage.bindFlags
        (.ok id), .exported id (.ok descriptor)] := by
      rw [h_exported, h_created, List.append_assoc]
      rfl
    constructor
    · rfl
    · exact ⟨layout, size, descriptor, h_storage, rfl, Env.callsSince_of_trace h_trace⟩
    · exact modifier_describeIn_iff
    · intro h_none
      rw [h_none, modifier_describeIn_none]
    · intro τ C device' later
      -- the handle still asks for the image that it asked for before
      obtain ⟨answer, h_calls, -⟩ := importFrom_once C device' later
        (h := describeIn h descriptor _ _) rfl h_storage
      exact ⟨layout, size, answer, h_storage, h_calls⟩

/-- A device on shared memory whose buffers report a modifier. -/
def reporting (modifier : Option UInt64) : Env (Faulty SystemState) :=
  { devices := { inner := {}, faults := (∅ : Table DeviceId Faults).insert 0 { modifier } } }

/-- The backend of such a device. -/
def reportingBackend : Backend (Faulty SystemState) := systemBackend.withFaults "reporting"

/-- A handle of a buffer with the modifier 5. -/
def usedHandle : Handle :=
  { Handle.new ⟨16, 16⟩ .rgba8888 ∅ with
    stride := 64, modifierWord := 5, descriptor := some (.memory 0) }

/-- A handle that was used before describes a buffer that reports the modifier 7. -/
theorem allocated_description_used :
    ∃ env', allocate reportingBackend 0 usedHandle (reporting (some 7)) =
        (.ok ({ id := 1 }, { usedHandle with modifierWord := 7 }), env') ∧
      Describes reportingBackend 0 usedHandle (reporting (some 7)) { id := 1 }
        { usedHandle with modifierWord := 7 } env' := by
  have h_answer : (allocate reportingBackend 0 usedHandle (reporting (some 7))).1 =
      .ok ({ id := 1 }, { usedHandle with modifierWord := 7 }) := by decide +kernel
  have h_call : allocate reportingBackend 0 usedHandle (reporting (some 7)) = (.ok ({ id := 1 },
      { usedHandle with modifierWord := 7 }),
      (allocate reportingBackend 0 usedHandle (reporting (some 7))).2) := Prod.ext h_answer rfl
  exact ⟨_, h_call, allocated_description h_call⟩

/-- A handle is used for a buffer that reports the modifier 5 and then for one that reports none. It
    still has the modifier 5. -/
theorem earlier_modifier_kept :
    let fresh := Handle.new ⟨16, 16⟩ .rgba8888 ∅
    let second := allocate reportingBackend 0 usedHandle (reporting none)
    (allocate reportingBackend 0 fresh (reporting (some 5))).1 = .ok ({ id := 1 }, usedHandle) ∧
      second.1 = .ok ({ id := 1 }, usedHandle) ∧
      reportingBackend.reportedModifier 1 second.2.devices = none ∧
      usedHandle.modifier = some 5 := by
  decide +kernel

end BufferObject

end GraphicsBuffer
