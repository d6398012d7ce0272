/-
  GraphicsBuffer.Proofs.Session.Plan

  Operations on handles go by plans. What a manager answers when it is asked to do something with a
  handle, and what it changes, depends on the site of the handle in the manager, and beyond that
  only on the numbers that are next. Whatever else there is, the answer and the patch are the same,
  up to the numbers of what is made.
-/

import GraphicsBuffer.Proofs.BufferObject.Locality
import GraphicsBuffer.Proofs.Session.Registration
import GraphicsBuffer.Proofs.Session.Site

namespace GraphicsBuffer

/-! ## Ends of mappings -/

namespace SystemBuffer

variable (k : Kernel) (b : SystemBuffer)

/-- What the end of the mapping in use does to the mappings. -/
def ending : Edit MappingId MemoryMapping :=
  match b.mapping with
  | none => .keep
  | some id => .put id none

theorem ending_in : b.ending.In (b.mapping = some ·) := by
  unfold ending
  rcases b.mapping with _ | mapping
  · exact Edit.keep_in _
  · exact Edit.put_in.mpr rfl

theorem unmap_kernel : (b.unmap k).2.memories = k.memories ∧
    (b.unmap k).2.mappings.find? = b.ending.apply k.mappings.find? ∧
    (b.unmap k).2.nextMapping = k.nextMapping := by
  unfold unmap ending
  rcases b.mapping with _ | mapping
  · exact ⟨rfl, rfl, rfl⟩
  · exact ⟨rfl, k.mappings.find?_erase_eq_update mapping, rfl⟩

end SystemBuffer

namespace SystemState

/-- What can be seen of the devices. -/
structure Shows (s : SystemState) (memories : List Memory)
    (buffers : BufferId → Option SystemBuffer) (mappings : MappingId → Option MemoryMapping)
    (next : MappingId) : Prop where
  memories : s.kernel.memories = memories
  buffers : s.buffers.find? = buffers
  mappings : s.kernel.mappings.find? = mappings
  next : s.kernel.nextMapping = next

theorem unmap_shows {s : SystemState} {id : BufferId} {b : SystemBuffer}
    (h_find : s.buffers.find? id = some b) :
    (s.unmap id).Shows s.kernel.memories (Function.update s.buffers.find? id (some b.unmapped))
      (b.ending.apply s.kernel.mappings.find?) s.kernel.nextMapping := by
  obtain ⟨h_memories, h_mappings, h_next⟩ := b.unmap_kernel s.kernel
  simp only [unmap, h_find, SystemBuffer.unmap_buffer]
  exact ⟨h_memories, s.buffers.find?_insert_eq_update id _, h_mappings, h_next⟩

theorem destroy_shows {s : SystemState} {id : BufferId} {b : SystemBuffer}
    (h_find : s.buffers.find? id = some b) :
    (s.destroy id).Shows s.kernel.memories (Function.update s.buffers.find? id none)
      (b.ending.apply s.kernel.mappings.find?) s.kernel.nextMapping := by
  obtain ⟨h_memories, h_buffers, h_mappings, h_next⟩ := unmap_shows h_find
  refine ⟨h_memories, ?_, h_mappings, h_next⟩
  rw [destroy, Table.find?_erase_eq_update, h_buffers, Function.update_idem]

end SystemState

/-- When an object is freed, its buffer goes and the mapping of it, whether the object knows of the
    mapping or not. -/
theorem BufferObject.destroy_shows [PageSize] {env : Env SystemState} {o : BufferObject}
    {b : SystemBuffer} (h_find : env.devices.buffers.find? o.id = some b) :
    (o.destroy systemBackend env).devices.Shows env.devices.kernel.memories
      (Function.update env.devices.buffers.find? o.id none)
      (b.ending.apply env.devices.kernel.mappings.find?) env.devices.kernel.nextMapping := by
  unfold BufferObject.destroy
  rcases o.mapping with _ | mapping
  · exact SystemState.destroy_shows h_find
  · -- the mapping has ended before the buffer is freed
    obtain ⟨h_memories, h_buffers, h_mappings, h_next⟩ := SystemState.unmap_shows h_find
    have h_find' : (env.devices.unmap o.id).buffers.find? o.id = some b.unmapped := by
      rw [h_buffers, Function.update_self]
    have h_destroyed := SystemState.destroy_shows h_find'
    rw [h_memories, h_buffers, h_mappings, h_next, Function.update_idem] at h_destroyed
    exact h_destroyed

/-! ## Plans -/

/-- What an operation answers and what it changes, by the numbers that are next. -/
structure Plan where
  answer : Fresh → Answer
  patch : Fresh → Patch

/-- The numbers that a patch uses up are renamed to others; older ones stay. -/
structure Renaming.Shifts (ρ : Renaming) (q : Patch) (f g : Fresh) : Prop where
  keeps : ρ.Keeps f
  key : q.registers = true → ρ.key f.key = g.key
  buffer : q.registers = true → ρ.buffer f.buffer = g.buffer
  mapping : q.maps = true → ρ.mapping f.mapping = g.mapping

/-- A patch touches nothing but what there is at the site of a handle and what it makes. -/
structure Patch.Within (q : Patch) (P : Portrait) (op : HandleOp) (m : ManagerId) (h : Name) :
    Prop where
  handle : q.handle.In (· = h)
  holding : q.holding.In (op = .refer ·)
  entry : q.entry.In fun place => P.key? h = some place.2 ∨ (q.registers ∧ place.2 = P.nextKey)
  object : q.object.In fun id => P.stands m h = some id ∨ (q.registers ∧ id = P.nextBuffer)
  held : ∀ id, q.held = some id → P.stands m h = some id
  buffer : q.buffer.In fun id => P.stands m h = some id ∨ (q.registers ∧ id = P.nextBuffer)
  mapping : q.mapping.In fun id => P.mapped m h = some id ∨ (q.maps ∧ id = P.nextMapping)

namespace Plan

open Session (Settled)

/-- The plan says what an operation does wherever its site looks like this. -/
def Describes [PageSize] (p : Plan) (op : HandleOp) (m : ManagerId) (h : Name) (S : Site) : Prop :=
  ∀ t : Session SystemState, Settled t → op.Fits t → t.portrait.site m h = S →
    (t.step systemBackend (op.step m h)).1 = p.answer t.portrait.fresh ∧
      (t.step systemBackend (op.step m h)).2.portrait =
        (p.patch t.portrait.fresh).apply t.portrait

/-- With other numbers that are next, the answer and the patch are the same but for them. -/
def Natural (p : Plan) (f : Fresh) : Prop :=
  ∀ ρ g, Renaming.Shifts ρ (p.patch f) f g →
    p.patch g = (p.patch f).rename ρ ∧ p.answer g = ρ.answer (p.answer f)

/-- A plan for an operation on a handle in a manager of a session. -/
structure Serves [PageSize] (p : Plan) (s : Session SystemState) (op : HandleOp) (m : ManagerId)
    (h : Name) : Prop where
  describes : p.Describes op m h (s.portrait.site m h)
  natural : p.Natural s.portrait.fresh
  within : (p.patch s.portrait.fresh).Within s.portrait op m h

end Plan

namespace Session

variable {s : Session SystemState} {m : ManagerId} {h : Name} {op : HandleOp}

/-! ## Portraits of changed sessions -/

theorem apply_empty (P : Portrait) : ({} : Patch).apply P = P := by
  ext1 <;> rfl

/-- A portrait does not show what was done. -/
theorem portrait_congr (t : Session SystemState) (w : World SystemState)
    {env env' : Env SystemState} (h_env : env.forget = env'.forget) :
    (t.setWorld { w with env }).portrait = (t.setWorld { w with env := env' }).portrait := by
  have h_portrait := congrArg (fun e => (t.setWorld { w with env := e }).portrait) h_env
  exact h_portrait

/-! ## Plans without a change -/

/-- An operation that says something and changes nothing, wherever its site looks like this. -/
theorem quiet_serves [PageSize] {a : Answer}
    (h_answer : ∀ ρ : Renaming, ρ.Keeps s.portrait.fresh → ρ.answer a = a)
    (h_does : ∀ t : Session SystemState, Settled t → op.Fits t →
      t.portrait.site m h = s.portrait.site m h →
      (t.step systemBackend (op.step m h)).1 = a ∧
        (t.step systemBackend (op.step m h)).2.portrait = t.portrait) :
    Plan.Serves ⟨fun _ => a, fun _ => {}⟩ s op m h where
  describes t ht h_fits h_site := by
    obtain ⟨h_a, h_same⟩ := h_does t ht h_fits h_site
    exact ⟨h_a, h_same.trans (apply_empty _).symm⟩
  natural ρ g h_shifts := ⟨rfl, (h_answer ρ h_shifts.keeps).symm⟩
  within := by constructor <;> first | exact Edit.keep_in _ | exact nofun

/-! ## Nothing at the site -/

theorem noManager_serves [PageSize] (h_manager : s.world.manager? m = none) (op : HandleOp)
    (h : Name) :
    Plan.Serves ⟨fun _ => .refused .noManager, fun _ => {}⟩ s op m h := by
  refine quiet_serves (fun _ _ => rfl) fun t _ _ h_site => ?_
  have h_managed := congrArg Site.managed h_site
  rw [site_managed, site_managed, h_manager, Option.isSome_none] at h_managed
  have h_none := Option.isSome_eq_false_iff.mp h_managed
  rw [Option.isNone_iff_eq_none] at h_none
  cases op <;> simp only [HandleOp.step, step, withManager, h_none, and_self]

theorem noHandle_serves [PageSize] {manager : Manager}
    (h_manager : s.world.manager? m = some manager)
    (h_find : s.handles.find? h = none) (op : HandleOp) :
    Plan.Serves ⟨fun _ => .refused .noHandle, fun _ => {}⟩ s op m h := by
  refine quiet_serves (fun _ _ => rfl) fun t _ _ h_site => ?_
  have h_managed := congrArg Site.managed h_site
  rw [site_managed, site_managed, h_manager] at h_managed
  obtain ⟨manager', h_manager'⟩ := Option.isSome_iff_exists.mp h_managed
  have h_none : t.handles.find? h = none := (congrArg Site.handle h_site).trans h_find
  cases op <;>
    simp only [HandleOp.step, step, withManager, withHandle, h_manager', h_none, and_self]

end Session

end GraphicsBuffer
