/-
  GraphicsBuffer.Proofs.Backend.Pairing

  Mappings in the order of the calls. After any calls a buffer has at most one mapping in use; calls
  are paired if a mapping is asked for only while there is none, ended only while it is in use, and
  gone before the buffer is freed. Then each mapping that was made is ended exactly once.
-/

import GraphicsBuffer.Proofs.Backend.Account
import Mathlib.Logic.Function.Basic

namespace GraphicsBuffer

/-! ## The mapping in use -/

/-- The mapping of a buffer that is in use after a call, given the one in use before. -/
def Call.mappingAfter (id : BufferId) (active : Option BackendMapping) :
    Call → Option BackendMapping
  | mapped buffer _ _ (.ok mapping) => if buffer = id then some mapping else active
  | unmapped buffer _ => if buffer = id then none else active
  | _ => active

/-- The mapping of a buffer that is in use after some calls. -/
def activeMapping (calls : List Call) (id : BufferId) : Option BackendMapping :=
  calls.foldl (Call.mappingAfter id) none

theorem activeMapping_concat (calls : List Call) (call : Call) (id : BufferId) :
    activeMapping (calls ++ [call]) id = call.mappingAfter id (activeMapping calls id) :=
  List.foldl_concat ..

/-- A buffer is asked for a mapping only while it has none, a mapping is ended only while it is in
    use, and a buffer is freed only while it has none. -/
def Paired (before : List Call) : Call → Prop
  | .mapped id _ _ _ => activeMapping before id = none
  | .unmapped id mapping => activeMapping before id = some mapping
  | .destroyed id => activeMapping before id = none
  | _ => True

/-- Whether a call concerns no mapping and frees no buffer. -/
def Call.quiet : Call → Bool
  | created _ _ _ _ _ | imported _ _ _ | exported _ _ => true
  | _ => false

/-! ## Each mapping is ended once -/

/-- Whether a call asks for a mapping of a buffer or frees it. -/
def Call.opensOrFrees (id : BufferId) : Call → Bool
  | mapped buffer _ _ _ => buffer = id
  | destroyed buffer => buffer = id
  | _ => false

/-- The mapping of a buffer that a call ends. -/
def Call.ended? (id : BufferId) : Call → Option BackendMapping
  | unmapped buffer mapping => if buffer = id then some mapping else none
  | _ => none

/-- What a call that opens nothing does to the mapping in use: it ends it or leaves it. -/
theorem Call.mappingAfter_of_not_opens {id : BufferId} {call : Call}
    (h_other : call.opensOrFrees id = false) (active : Option BackendMapping) :
    call.mappingAfter id active = if (call.ended? id).isSome then none else active := by
  cases call with
  | created _ _ _ _ _ => rfl
  | imported _ _ _ => rfl
  | exported _ _ => rfl
  | mapped buffer _ _ answer =>
    have h_ne : buffer ≠ id := by simpa [opensOrFrees] using h_other
    rcases answer with f | mapping
    · rfl
    · simp [mappingAfter, ended?, h_ne]
  | unmapped buffer mapping =>
    by_cases h_eq : buffer = id
    · simp [mappingAfter, ended?, h_eq]
    · simp [mappingAfter, ended?, h_eq]
  | destroyed _ => rfl

namespace EachCall

variable {rule : List Call → Call → Prop} {calls : List Call}

theorem head {call : Call} {rest : List Call} (h : EachCall rule (calls ++ call :: rest)) :
    rule calls call := h calls call rest rfl

/-- A mapping that is in use when some calls begin and not when they end is ended by exactly one of
    them, if none of them opens another. -/
theorem ended_once {id : BufferId} {middle : List Call}
    (h : EachCall Paired (calls ++ middle))
    (h_middle : ∀ call ∈ middle, call.opensOrFrees id = false)
    (h_last : activeMapping (calls ++ middle) id = none) :
    middle.filterMap (Call.ended? id) = (activeMapping calls id).toList := by
  -- on the calls, the first of which goes to the end of those before them
  induction middle generalizing calls with
  | nil =>
    rw [List.append_nil] at h_last
    rw [h_last]
    rfl
  | cons call rest ih =>
    have h_paired : Paired calls call := h.head
    rw [List.append_cons] at h h_last
    have h_rest := ih h (fun c h_mem => h_middle c (List.mem_cons_of_mem _ h_mem)) h_last
    rw [activeMapping_concat,
      Call.mappingAfter_of_not_opens (h_middle call List.mem_cons_self)] at h_rest
    rcases h_ended : call.ended? id with _ | mapping
    · rw [h_ended] at h_rest
      rw [List.filterMap_cons_none h_ended]
      exact h_rest
    · rw [h_ended] at h_rest
      rw [List.filterMap_cons_some h_ended, h_rest]
      -- the one that is ended is the one in use
      have h_active : activeMapping calls id = some mapping := by
        cases call with
        | unmapped buffer mapping' =>
          by_cases h_eq : buffer = id
          · subst h_eq
            obtain rfl : mapping' = mapping := by simpa [Call.ended?] using h_ended
            exact h_paired
          · simp [Call.ended?, h_eq] at h_ended
        | _ => exact nomatch h_ended
      rw [h_active]
      rfl

end EachCall

/-! ## Calls and the mappings that are recorded -/

/-- Calls are paired, and the mappings in use after them are those that are recorded. -/
structure Pairing (calls : List Call) (recorded : BufferId → Option BackendMapping) : Prop where
  paired : EachCall Paired calls
  active_eq : ∀ id, activeMapping calls id = recorded id

namespace Pairing

variable {calls : List Call} {recorded : BufferId → Option BackendMapping} {id : BufferId}

theorem empty : Pairing [] fun _ => none := ⟨.nil, fun _ => rfl⟩

/-- A call that is allowed and leaves all mappings as they are. -/
theorem unchanged (h : Pairing calls recorded) {call : Call} (h_paired : Paired calls call)
    (h_after : ∀ id active, call.mappingAfter id active = active) :
    Pairing (calls ++ [call]) recorded := by
  refine ⟨h.paired.concat h_paired, fun id => ?_⟩
  rw [activeMapping_concat, h_after, h.active_eq]

/-- A call that is allowed and changes the mapping of one buffer. -/
theorem update (h : Pairing calls recorded) {call : Call} (h_paired : Paired calls call)
    {x : Option BackendMapping}
    (h_after : ∀ l active, call.mappingAfter l active = if id = l then x else active) :
    Pairing (calls ++ [call]) (Function.update recorded id x) := by
  refine ⟨h.paired.concat h_paired, fun l => ?_⟩
  rw [activeMapping_concat, h_after, h.active_eq, Function.update_apply]
  by_cases h_eq : id = l
  · rw [if_pos h_eq, if_pos h_eq.symm]
  · rw [if_neg h_eq, if_neg (Ne.symm h_eq)]

theorem quiets (h : Pairing calls recorded) {more : List Call}
    (h_more : ∀ call ∈ more, call.quiet = true) : Pairing (calls ++ more) recorded := by
  induction more generalizing calls with
  | nil => rwa [List.append_nil]
  | cons call rest ih =>
    have h_quiet : call.quiet = true := h_more call List.mem_cons_self
    have h_call : Pairing (calls ++ [call]) recorded := by
      cases call with
      | created _ _ _ _ _ => exact h.unchanged True.intro fun _ _ => rfl
      | imported _ _ _ => exact h.unchanged True.intro fun _ _ => rfl
      | exported _ _ => exact h.unchanged True.intro fun _ _ => rfl
      | _ => exact nomatch h_quiet
    rw [List.append_cons]
    exact ih h_call fun c h_mem => h_more c (List.mem_cons_of_mem _ h_mem)

/-- A request for a mapping that is granted. -/
theorem map (h : Pairing calls recorded) (h_none : recorded id = none) (region : Rect)
    (access : Access) (mapping : BackendMapping) :
    Pairing (calls ++ [.mapped id region access (.ok mapping)])
      (Function.update recorded id (some mapping)) := by
  have h_paired : Paired calls (.mapped id region access (.ok mapping)) :=
    (h.active_eq id).trans h_none
  exact h.update h_paired fun _ _ => rfl

/-- A request for a mapping that is refused. -/
theorem map_error (h : Pairing calls recorded) (h_none : recorded id = none) (region : Rect)
    (access : Access) (f : Failure) :
    Pairing (calls ++ [.mapped id region access (.error f)]) recorded :=
  h.unchanged ((h.active_eq id).trans h_none) fun _ _ => rfl

/-- The end of the mapping that is recorded. -/
theorem unmap (h : Pairing calls recorded) {mapping : BackendMapping}
    (h_some : recorded id = some mapping) :
    Pairing (calls ++ [.unmapped id mapping]) (Function.update recorded id none) := by
  have h_paired : Paired calls (.unmapped id mapping) := (h.active_eq id).trans h_some
  exact h.update h_paired fun _ _ => rfl

/-- The end of a buffer that is not mapped. -/
theorem destroy (h : Pairing calls recorded) (h_none : recorded id = none) :
    Pairing (calls ++ [.destroyed id]) recorded :=
  h.unchanged ((h.active_eq id).trans h_none) fun _ _ => rfl

end Pairing

end GraphicsBuffer
