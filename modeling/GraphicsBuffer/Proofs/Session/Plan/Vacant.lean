/-
  GraphicsBuffer.Proofs.Session.Plan.Vacant

  The plans for a handle that stands for nothing in a manager. A handle that is registered nowhere
  is imported, if what it describes is there; nothing else that is asked with the handle succeeds.
-/

import GraphicsBuffer.Proofs.Session.Plan

namespace GraphicsBuffer.Session

variable {s : Session SystemState} {m : ManagerId} {h : Name} {op : HandleOp}

namespace Vacant

variable {handle : Handle}

/-- Nothing but a registration can succeed. -/
theorem step_eq [PageSize] (h_site : Vacant s m h handle) (h_op : op ≠ .register) :
    s.step systemBackend (op.step m h) = (.failed (.error .notRegistered), s) := by
  obtain ⟨⟨manager, h_manager⟩, h_find, h_lookup⟩ := h_site
  have h_object : s.world.object? m handle = none := by
    rw [World.object?, h_lookup]
    rfl
  cases op with
  | register => exact absurd rfl h_op
  | unregister => exact step_unregister_of_none h_manager h_find h_object
  | lock request =>
    simp only [HandleOp.step, step, withManager, withHandle, h_manager, h_find, World.lock,
      h_object]
    rfl
  | unlock =>
    simp only [HandleOp.step, step, withManager, withHandle, h_manager, h_find, World.unlock,
      h_object]
    rfl
  | refer o =>
    simp only [HandleOp.step, step, withManager, withHandle, h_manager, h_find, World.hold,
      h_lookup]
    rfl

/-- A handle that is registered elsewhere is not registered here. -/
theorem register_owned [PageSize] (h_site : Vacant s m h handle)
    (h_owned : handle.registration.isSome) :
    s.step systemBackend (.register m h) = (.failed (.error .notRegistered), s) := by
  obtain ⟨⟨manager, h_manager⟩, h_find, h_lookup⟩ := h_site
  exact step_register_of_lost h_manager h_find (Option.isSome_iff_ne_none.mp h_owned) h_lookup

/-- The world once an object has been made for a buffer and a table has taken it in. -/
def adoption (t : Session SystemState) (m : ManagerId) (h : Name) (handle : Handle)
    (manager : Manager) (env : Env SystemState) : Session SystemState :=
  let claimed := (t.world.addObject { id := t.world.env.nextBuffer } env).claim m manager handle
    t.world.env.nextBuffer
  (t.setWorld claimed.2).setHandle h claimed.1

/-- A handle that is registered nowhere is imported, or the import fails. -/
theorem register_unowned [PageSize] (h_site : Vacant s m h handle)
    (h_unowned : handle.registration = none) :
    (∃ f, BufferObject.adopted s.kernel.memories handle = .error f ∧
        (s.step systemBackend (.register m h)).1 = .failed f ∧
        (s.step systemBackend (.register m h)).2.portrait = s.portrait) ∨
      ∃ b manager, BufferObject.adopted s.kernel.memories handle = .ok b ∧
        s.world.manager? m = some manager ∧
        (s.step systemBackend (.register m h)).1 = .done ∧
        (s.step systemBackend (.register m h)).2.portrait =
          (adoption s m h handle manager (s.world.env.withBuffer b)).portrait := by
  obtain ⟨⟨manager, h_manager⟩, h_find, h_lookup⟩ := h_site
  have h_import := BufferObject.importFrom_local m handle
    (s.world.env.note (.adopting handle.descriptor.isSome))
  rcases h_call : BufferObject.importFrom systemBackend m handle
    (s.world.env.note (.adopting handle.descriptor.isSome)) with ⟨answer, env⟩
  rw [h_call] at h_import
  simp only [step, withManager, withHandle, h_manager, h_find, World.register, World.resolve,
    h_unowned, Option.isSome_none, Bool.false_eq_true, if_false, h_call]
  rcases h_import with ⟨f, h_adopted, rfl, h_env⟩ | ⟨b, h_adopted, rfl, h_env⟩
  · exact .inl ⟨f, h_adopted, rfl, portrait_congr s s.world h_env⟩
  · refine .inr ⟨b, manager, h_adopted, rfl, rfl, ?_⟩
    -- the report of the adoption does not show
    exact portrait_congr (adoption s m h handle manager env)
      (adoption s m h handle manager env).world h_env

/-- The plan for an import. -/
def adoptionPlan (m : ManagerId) (h : Name) (handle : Handle) (b : SystemBuffer) : Plan where
  answer _ := .done
  patch f :=
    { handle := .put h (some { handle with registration := some f.key })
      entry := .put (m, f.key) (some f.buffer)
      object := .put f.buffer (some { id := f.buffer })
      buffer := .put f.buffer (some b)
      registers := true }

theorem adoption_portrait {manager : Manager} (h_manager : s.world.manager? m = some manager)
    (b : SystemBuffer) :
    (adoption s m h handle manager (s.world.env.withBuffer b)).portrait =
      ((adoptionPlan m h handle b).patch s.portrait.fresh).apply s.portrait := by
  ext1
  · exact s.handles.find?_insert_eq_update h _
  · rfl
  · exact World.kinds_setManager h_manager _
  · exact World.entryAt_insert h_manager _ _
  · exact s.world.objects.find?_insert_eq_update _ _
  · rfl
  · rfl
  · exact s.world.env.devices.buffers.find?_insert_eq_update _ _
  · rfl
  · rfl
  · rfl
  · rfl

theorem adoptionPlan_natural {b : SystemBuffer} (h_unmapped : b.mapping = none) (f : Fresh) :
    (adoptionPlan m h handle b).Natural f := by
  intro ρ g h_shifts
  have h_b : ρ.systemBuffer b = b := Renaming.systemBuffer_eq_self fun mapping h_mapping =>
    nomatch h_unmapped.symm.trans h_mapping
  have h_key : ρ.key f.key = g.key := h_shifts.key rfl
  have h_buffer : ρ.buffer f.buffer = g.buffer := h_shifts.buffer rfl
  have h_place : ρ.place (m, f.key) = (m, g.key) := Prod.ext rfl h_key
  refine ⟨?_, rfl⟩
  simp only [adoptionPlan, Patch.rename, Edit.rename_put, Edit.rename_keep, Option.map_some,
    Option.map_none, h_b, h_place, h_buffer, Renaming.handle, Renaming.object, h_key,
    Equiv.refl_apply]

/-- The import of a handle that is registered nowhere goes by a plan. -/
theorem register_serves [PageSize] (h_site : Vacant s m h handle)
    (h_unowned : handle.registration = none) :
    ∃ p, Plan.Serves p s .register m h := by
  have h_memories : ∀ {t : Session SystemState},
      t.portrait.site m h = s.portrait.site m h → t.kernel.memories = s.kernel.memories :=
    fun h_same => congrArg Site.memories h_same
  rcases h_adopted : BufferObject.adopted s.kernel.memories handle with f | b
  · refine ⟨_, quiet_serves (a := .failed f) (fun _ _ => rfl) fun t _ _ h_same => ?_⟩
    rw [← h_memories h_same] at h_adopted
    rcases (h_site.of_site h_same).register_unowned h_unowned with
      ⟨f', h_adopted', h_answer, h_portrait⟩ | ⟨b, _, h_adopted', -⟩
    · obtain rfl := Except.error.inj (h_adopted.symm.trans h_adopted')
      exact ⟨h_answer, h_portrait⟩
    · exact nomatch h_adopted.symm.trans h_adopted'
  · refine ⟨adoptionPlan m h handle b, fun t _ _ h_same => ?_,
      adoptionPlan_natural (BufferObject.adopted_unmapped h_adopted) _, ?_⟩
    · rw [← h_memories h_same] at h_adopted
      rcases (h_site.of_site h_same).register_unowned h_unowned with
        ⟨f, h_adopted', -⟩ | ⟨b', manager, h_adopted', h_manager, h_answer, h_portrait⟩
      · exact nomatch h_adopted.symm.trans h_adopted'
      · obtain rfl := Except.ok.inj (h_adopted.symm.trans h_adopted')
        exact ⟨h_answer, h_portrait.trans (adoption_portrait h_manager b)⟩
    · -- whatever the patch touches is new
      constructor <;> simp [adoptionPlan, Portrait.fresh]

/-- Every operation on a handle that stands for nothing goes by a plan. -/
theorem serves [PageSize] (h_site : Vacant s m h handle) (op : HandleOp) :
    ∃ p, Plan.Serves p s op m h := by
  by_cases h_new : op = .register ∧ handle.registration = none
  · obtain ⟨rfl, h_unowned⟩ := h_new
    exact h_site.register_serves h_unowned
  · refine ⟨_, quiet_serves (a := .failed (.error .notRegistered)) (fun _ _ => rfl)
      fun t _ _ h_same => ?_⟩
    have h_step : t.step systemBackend (op.step m h) = (.failed (.error .notRegistered), t) := by
      by_cases h_op : op = .register
      · subst h_op
        refine (h_site.of_site h_same).register_owned (Option.isSome_iff_ne_none.mpr ?_)
        exact fun h_none => h_new ⟨rfl, h_none⟩
      · exact (h_site.of_site h_same).step_eq h_op
    exact ⟨congrArg Prod.fst h_step, congrArg (·.2.portrait) h_step⟩

end Vacant

end GraphicsBuffer.Session
