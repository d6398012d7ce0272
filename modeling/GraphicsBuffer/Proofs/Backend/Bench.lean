/-
  GraphicsBuffer.Proofs.Backend.Bench

  Buffers on shared memory in a run of steps. What a step can do is said once (`Transition`). So
  every buffer of a run has room for its pixels and is mapped in all of its memory, no two use one
  mapping, and a mapping in use is the one that was given. A mapping starts inside the memory if its
  region starts above the end of the buffer, and always if the region has pixels; an empty region at
  the end may start past the last byte (`mapping_starts`, `mapping_starts_outside`).
-/

import GraphicsBuffer.Backend.System.Bench
import GraphicsBuffer.Proofs.Backend.Raster
import GraphicsBuffer.Proofs.Kernel.Touch
import GraphicsBuffer.Proofs.Run

namespace GraphicsBuffer

/-! ## The kernel -/

namespace Kernel

variable {k k' k'' : Kernel}

/-- The memories stay as they are, and a mapping with a number that had been given out was there
    before. -/
structure Keeps (k k' : Kernel) : Prop where
  memory : ∀ {id : MemoryId} {m : Memory}, k.memories[id]? = some m → k'.memories[id]? = some m
  nextMapping : k.nextMapping ≤ k'.nextMapping
  mapping : ∀ {id record}, id < k.nextMapping → k'.mappings.find? id = some record →
    k.mappings.find? id = some record

theorem Keeps.refl (k : Kernel) : Keeps k k := ⟨id, Nat.le_refl _, fun _ h => h⟩

theorem Acts.keeps (h : Acts k k') : Keeps k k' where
  memory h_memory := h.memory h_memory
  nextMapping := h.nextMapping_le
  mapping h_given h_find := h.mapping_before h_given h_find

theorem Keeps.trans (h : Keeps k k') (h' : Keeps k' k'') : Keeps k k'' where
  memory h_memory := h'.memory (h.memory h_memory)
  nextMapping := Nat.le_trans h.nextMapping h'.nextMapping
  mapping h_given h_find :=
    h.mapping h_given (h'.mapping (Nat.lt_of_lt_of_le h_given h.nextMapping) h_find)

theorem Keeps.lasts (h : Keeps k k') : Lasts k k' where
  memory h_memory := ⟨_, h.memory h_memory, rfl⟩
  nextMapping := h.nextMapping
  mapping := h.mapping

theorem Lasts.trans (h : Lasts k k') (h' : Lasts k' k'') : Lasts k k'' where
  memory h_memory := by
    obtain ⟨m', h_memory', h_size⟩ := h.memory h_memory
    obtain ⟨m'', h_memory'', h_size'⟩ := h'.memory h_memory'
    exact ⟨m'', h_memory'', h_size'.trans h_size⟩
  nextMapping := Nat.le_trans h.nextMapping h'.nextMapping
  mapping h_given h_find :=
    h.mapping h_given (h'.mapping (Nat.lt_of_lt_of_le h_given h.nextMapping) h_find)

/-- A source brings at most one memory, behind all others. -/
theorem openSource_memories (k : Kernel) (source : Source) :
    ∃ made : List Memory, (k.openSource source).2 = { k with memories := k.memories ++ made } := by
  cases source with
  | fresh size writeSealed => exact ⟨_, rfl⟩
  | nothing => exact ⟨[], by rw [List.append_nil]; rfl⟩
  | nullDevice => exact ⟨[], by rw [List.append_nil]; rfl⟩
  | pipe => exact ⟨[], by rw [List.append_nil]; rfl⟩
  | closed => exact ⟨[], by rw [List.append_nil]; rfl⟩

theorem openSource_keeps (k : Kernel) (source : Source) : Keeps k (k.openSource source).2 := by
  obtain ⟨made, h_made⟩ := k.openSource_memories source
  rw [h_made]
  refine ⟨fun h_memory => ?_, Nat.le_refl _, fun _ h_find => h_find⟩
  obtain ⟨h_lt, -⟩ := List.getElem?_eq_some_iff.mp h_memory
  exact (List.getElem?_append_left h_lt).trans h_memory

/-- Nothing goes away if no memory gets shorter and the mappings stay. -/
theorem Lasts.grows (h : Lasts k k') (h_mappings : k'.mappings = k.mappings) : Grows k k' where
  memories id m h_memory := by
    obtain ⟨m', h_memory', h_size⟩ := h.memory h_memory
    exact ⟨m', h_memory', Nat.le_of_eq h_size.symm⟩
  mappings id record _ h_find := h_mappings ▸ h_find
  nextMapping := h.nextMapping

theorem openSource_grows (k : Kernel) (source : Source) : Grows k (k.openSource source).2 := by
  refine (k.openSource_keeps source).lasts.grows ?_
  obtain ⟨made, h_made⟩ := k.openSource_memories source
  rw [h_made]

theorem grows_of_store [PageSize] {a : Address} {offset : Nat} {bytes : List UInt8}
    (h_store : k.store a offset bytes = .ok k') : Grows k k' := by
  refine (lasts_of_store h_store).grows ?_
  obtain ⟨record, m, -, -, rfl⟩ := store_eq_ok h_store
  rfl

end Kernel

open Kernel (Grows Keeps Lasts)

namespace Bench

variable {s s' : State} {t : BenchStep} {b l : String} {place place' : Place}
  {buffer : SystemBuffer} {k kernel : Kernel} {descriptors : Table String Descriptor}
  {region : Rect} {access : Access} {mapping : BackendMapping} {id : MappingId}

/-! ## What a step can do -/

section Steps

variable [PageSize]

/-- The state after a step. -/
def State.next (s : State) (t : BenchStep) : State := (step s t).2

/-- The state after steps from the start. -/
def run (steps : List BenchStep) : State := steps.foldl State.next {}

theorem run_append (steps later : List BenchStep) (t : BenchStep) :
    run (steps ++ t :: later) = later.foldl State.next ((run steps).next t) := by
  rw [run, List.foldl_append]
  rfl

/-- A buffer comes about with room for its pixels, and is not mapped. -/
structure New (k : Kernel) (buffer : SystemBuffer) (kernel : Kernel) : Prop where
  grows : Grows k kernel
  keeps : Keeps k kernel
  sound : buffer.Sound kernel
  ample : buffer.Ample
  unmapped : buffer.mapping = none

theorem new_of_create {size : Extent} {layout : FourCC}
    (h : SystemBuffer.create k size layout = .ok (buffer, kernel)) : New k buffer kernel := by
  obtain ⟨h_sound, h_grows, h_unmapped⟩ := SystemBuffer.create_spec h
  exact ⟨h_grows, (SystemBuffer.create_acts h).keeps, h_sound, (SystemBuffer.create_ample h).1,
    h_unmapped⟩

theorem new_of_request {request : ImportRequest}
    (h : SystemBuffer.ofRequest k request = .ok buffer) : New k buffer k := by
  obtain ⟨h_sound, h_unmapped⟩ := SystemBuffer.ofRequest_spec h
  exact ⟨.refl k, .refl k, h_sound, (SystemBuffer.ofRequest_ample h).1, h_unmapped⟩

/-- The states that a step can leave, each with what it did. -/
inductive Transition (s : State) : BenchStep → State → Prop where
  /-- At most the names of descriptors change. -/
  | quiet {t : BenchStep} (descriptors : Table String Descriptor) :
    Transition s t { s with descriptors }
  /-- A descriptor is opened, and there may be a memory behind it. -/
  | opened {f : String} {source : Source} (descriptors : Table String Descriptor) :
    Transition s (.openSource f source)
      { s with kernel := (s.kernel.openSource source).2, descriptors }
  /-- A buffer is created or imported. -/
  | placed {t : BenchStep} {b : String} {buffer : SystemBuffer} {kernel : Kernel}
      (h_new : New s.kernel buffer kernel) : Transition s t (State.put { s with kernel } b buffer)
  | dropped {b : String} {place : Place} (h_find : s.buffers.find? b = some place) :
    Transition s (.drop b)
      { s with kernel := (place.buffer.unmap s.kernel).2, buffers := s.buffers.erase b }
  | mapped {b : String} {region : Rect} {access : Access} {place : Place}
      {mapping : BackendMapping} {buffer : SystemBuffer} {kernel : Kernel}
      (h_find : s.buffers.find? b = some place)
      (h_map : place.buffer.map s.kernel region access = .ok (mapping, buffer, kernel)) :
    Transition s (.map b region access)
      { s with kernel, buffers := s.buffers.insert b { buffer, mapping := some mapping } }
  | unmapped {b : String} {place : Place} (h_find : s.buffers.find? b = some place) :
    Transition s (.unmap b)
      { s with
        kernel := (place.buffer.unmap s.kernel).2
        buffers := s.buffers.insert b { buffer := place.buffer.unmapped } }
  | written {b : String} {place : Place} {mapping : BackendMapping} {offset : Nat}
      {bytes : List UInt8} {kernel : Kernel} (h_find : s.buffers.find? b = some place)
      (h_mapping : place.mapping = some mapping)
      (h_store : s.kernel.store mapping.address offset bytes = .ok kernel) :
    Transition s (.touch b (.write offset bytes)) { s with kernel }

/-- A step that did not change anything. -/
theorem Transition.same : Transition s t s := .quiet s.descriptors

theorem next_transition (s : State) (t : BenchStep) : Transition s t (s.next t) := by
  unfold State.next
  cases t with
  | create b size layout =>
    rcases h_made : SystemBuffer.create s.kernel size layout with f | ⟨buffer, kernel⟩
    · simp only [step, h_made]
      exact .same
    · simp only [step, h_made]
      exact .placed (new_of_create h_made)
  | openSource f source =>
    have h_opened : ∀ descriptors, Transition s (.openSource f source)
        { s with kernel := (s.kernel.openSource source).2, descriptors } := .opened
    rcases h_source : s.kernel.openSource source with ⟨_ | d, kernel⟩
    · simp only [step, h_source]
      exact .same
    · rw [h_source] at h_opened
      simp only [step, h_source]
      exact h_opened _
  | close f => exact .quiet _
  | drop b =>
    rcases h_find : s.buffers.find? b with _ | place
    · simp only [step, h_find]
      exact .same
    · simp only [step, h_find]
      exact .dropped h_find
  | importFrom b size layout stride modifier origin =>
    rcases h_origin : s.origin? origin with _ | descriptor
    · simp only [step, h_origin]
      exact .same
    rcases h_made : SystemBuffer.ofRequest s.kernel
      ⟨size, layout, descriptor, stride, modifier⟩ with f | buffer
    · simp only [step, h_origin, h_made]
      exact .same
    · simp only [step, h_origin, h_made]
      exact .placed (new_of_request h_made)
  | inspect b =>
    rcases h_find : s.buffers.find? b with _ | place <;> simp only [step, withBuffer, h_find] <;>
      exact .same
  | exportTo b f =>
    rcases h_find : s.buffers.find? b with _ | place
    · simp only [step, withBuffer, h_find]
      exact .same
    rcases h_export : place.buffer.exportDescriptor with e | d
    · simp only [step, withBuffer, h_find, h_export]
      exact .same
    · simp only [step, withBuffer, h_find, h_export]
      exact .quiet _
  | map b region access =>
    rcases h_find : s.buffers.find? b with _ | place
    · simp only [step, withBuffer, h_find]
      exact .same
    rcases h_map : place.buffer.map s.kernel region access with f | ⟨mapping, buffer, kernel⟩
    · simp only [step, withBuffer, h_find, h_map]
      exact .same
    · simp only [step, withBuffer, h_find, h_map]
      exact .mapped h_find h_map
  | unmap b =>
    rcases h_find : s.buffers.find? b with _ | place
    · simp only [step, withMapping, withBuffer, h_find]
      exact .same
    rcases h_mapping : place.mapping with _ | mapping
    · simp only [step, withMapping, withBuffer, h_find, h_mapping]
      exact .same
    · simp only [step, withMapping, withBuffer, h_find, h_mapping, SystemBuffer.unmap_buffer]
      exact .unmapped h_find
  | touch b touch =>
    rcases h_find : s.buffers.find? b with _ | place
    · simp only [step, withMapping, withBuffer, h_find]
      exact .same
    rcases h_mapping : place.mapping with _ | mapping
    · simp only [step, withMapping, withBuffer, h_find, h_mapping]
      exact .same
    simp only [step, withMapping, withBuffer, h_find, h_mapping]
    -- of the touches only a write that is not refused changes anything
    cases touch with
    | read offset count =>
      simp only [Kernel.touch]
      split <;> exact .same
    | write offset bytes =>
      rcases h_store : s.kernel.store mapping.address offset bytes with why | kernel
      · simp only [Kernel.touch, h_store]
        exact .same
      · simp only [Kernel.touch, h_store]
        exact .written h_find h_mapping h_store

end Steps

/-! ## Sound places -/

/-- What holds of a buffer under a name: it has room for its pixels, all of its memory is mapped if
    it is mapped, and the mapping that was given out is the one that it uses. -/
structure Place.Sound (k : Kernel) (place : Place) : Prop where
  buffer : place.buffer.Sound k
  ample : place.buffer.Ample
  mapping : place.mapping.map (·.address.mapping) = place.buffer.mapping

namespace Place.Sound

theorem mono (h : place.Sound k) (h_grows : Grows k kernel) : place.Sound kernel :=
  ⟨h.buffer.mono h_grows, h.ample, h.mapping⟩

/-- A buffer that has just come about. -/
theorem of_new (h : New k buffer kernel) : Place.Sound kernel { buffer } :=
  ⟨h.sound, h.ample, h.unmapped.symm⟩

/-- The end of a mapping that the buffer does not use leaves it as it is. -/
theorem unmap_other (h : place.Sound k) (h_other : ∀ id, buffer.mapping = some id →
    place.buffer.mapping ≠ some id) : place.Sound (buffer.unmap k).2 := by
  unfold SystemBuffer.unmap
  rcases h_mapping : buffer.mapping with _ | id
  · exact h
  · exact ⟨h.buffer.unmap_other (h_other id h_mapping), h.ample, h.mapping⟩

/-- The end of its own mapping leaves it without one. -/
theorem unmap_self (h : place.Sound k) :
    Place.Sound (place.buffer.unmap k).2 { buffer := place.buffer.unmapped } := by
  have h_unmapped : Place.Sound k { buffer := place.buffer.unmapped } :=
    ⟨h.buffer.withoutMapping, ⟨h.ample.pixel, h.ample.rows, h.ample.room⟩, rfl⟩
  refine h_unmapped.unmap_other ?_
  exact nofun

/-- A mapping of a region makes use of all of the memory. -/
theorem of_map (h : place.Sound k)
    (h_map : SystemBuffer.MapsRegion k place.buffer region access mapping buffer kernel) :
    Place.Sound kernel { buffer, mapping := some mapping } := by
  obtain ⟨h_id, h_next, h_grows, memory, h_descriptor, h_find⟩ := Kernel.map_spec h_map.whole
  have h_later := h.buffer.mono h_grows
  obtain rfl := h_map.after
  refine ⟨⟨h_later.rows, h_later.room, h_later.memory, ?_⟩,
    ⟨h.ample.pixel, h.ample.rows, h.ample.room⟩, rfl⟩
  intro id h_used
  obtain rfl := Option.some.inj h_used
  exact ⟨by rw [h_next, h_id]; exact Nat.lt_succ_self _, memory, access, h_descriptor, h_find⟩

end Place.Sound

/-- What holds of all buffers of a run. -/
structure State.Sound (s : State) : Prop where
  places : ∀ b place, s.buffers.find? b = some place → place.Sound s.kernel
  /-- No two buffers use one mapping. -/
  separate : ∀ b l place place' id, s.buffers.find? b = some place →
    s.buffers.find? l = some place' → place.buffer.mapping = some id →
      place'.buffer.mapping = some id → b = l

namespace State.Sound

/-- At the start there are no buffers. -/
theorem start : State.Sound {} where
  places b _ h_find := nomatch (Table.find?_empty b).symm.trans h_find
  separate b _ _ _ _ h_find := nomatch (Table.find?_empty b).symm.trans h_find

/-- Buffers stay sound while nothing goes away. -/
theorem grows (h : s.Sound) (h_grows : Grows s.kernel kernel)
    (descriptors : Table String Descriptor) : State.Sound { s with kernel, descriptors } where
  places b place h_find := (h.places b place h_find).mono h_grows
  separate := h.separate

/-- The end of a buffer's mapping leaves all others as they are. -/
theorem others (h : s.Sound) (h_find : s.buffers.find? b = some place) (h_ne : l ≠ b)
    (h_other : s.buffers.find? l = some place') :
    place'.Sound (place.buffer.unmap s.kernel).2 := by
  refine (h.places l place' h_other).unmap_other ?_
  intro id h_id h_id'
  exact h_ne (h.separate l b place' place id h_other h_find h_id' h_id)

/-- A mapping in use has a number that has been given out. -/
theorem mapping_lt (h : s.Sound) (h_find : s.buffers.find? b = some place)
    (h_mapping : place.buffer.mapping = some id) : id < s.kernel.nextMapping :=
  ((h.places b place h_find).buffer.mapped id h_mapping).1

/-- A buffer takes a name. Its mapping, if it has one, is new. -/
theorem insert (h : s.Sound)
    (h_others : ∀ l place', l ≠ b → s.buffers.find? l = some place' → place'.Sound kernel)
    (h_place : place.Sound kernel)
    (h_fresh : ∀ id, place.buffer.mapping = some id → s.kernel.nextMapping ≤ id) :
    State.Sound { s with kernel, buffers := s.buffers.insert b place } where
  places l place' h_find := by
    rcases Table.find?_insert_eq_some h_find with ⟨-, rfl⟩ | ⟨h_ne, h_before⟩
    · exact h_place
    · exact h_others l place' h_ne h_before
  separate l l' first second id h_first h_second h_id h_id' := by
    rcases Table.find?_insert_eq_some h_first with ⟨rfl, rfl⟩ | ⟨-, h_before⟩
    · rcases Table.find?_insert_eq_some h_second with ⟨rfl, -⟩ | ⟨-, h_before'⟩
      · rfl
      · exact absurd (h.mapping_lt h_before' h_id') (Nat.not_lt.mpr (h_fresh id h_id))
    · rcases Table.find?_insert_eq_some h_second with ⟨rfl, rfl⟩ | ⟨-, h_before'⟩
      · exact absurd (h.mapping_lt h_before h_id) (Nat.not_lt.mpr (h_fresh id h_id'))
      · exact h.separate l l' first second id h_before h_before' h_id h_id'

/-- A name is given up. -/
theorem erase (h : s.Sound)
    (h_others : ∀ l place', l ≠ b → s.buffers.find? l = some place' → place'.Sound kernel) :
    State.Sound { s with kernel, buffers := s.buffers.erase b } where
  places l place' h_find := by
    obtain ⟨h_ne, h_before⟩ := Table.find?_erase_eq_some h_find
    exact h_others l place' h_ne h_before
  separate l l' first second id h_first h_second :=
    h.separate l l' first second id (Table.find?_erase_eq_some h_first).2
      (Table.find?_erase_eq_some h_second).2

/-- A buffer that has just come about takes a name, and a mapping of the one before it ends. -/
theorem put (h : s.Sound) (h_new : New s.kernel buffer kernel) (b : String) :
    (State.put { s with kernel } b buffer).Sound := by
  have h_grown := h.grows h_new.grows s.descriptors
  have h_place := Place.Sound.of_new h_new
  have h_unused : ∀ {id}, buffer.mapping ≠ some id := by simp [h_new.unmapped]
  unfold State.put
  rcases h_find : s.buffers.find? b with _ | old
  · exact h_grown.insert (fun l place' _ => h_grown.places l place') h_place
      (fun _ h_id => absurd h_id h_unused)
  · exact h_grown.insert (fun l place' h_ne => h_grown.others h_find h_ne)
      (h_place.unmap_other fun _ _ => h_unused) (fun _ h_id => absurd h_id h_unused)

/-- Every step keeps the buffers sound. -/
theorem transition [PageSize] (h : s.Sound) (h_step : Transition s t s') : s'.Sound := by
  cases h_step with
  | quiet descriptors => exact h.grows (.refl s.kernel) descriptors
  | opened descriptors => exact h.grows (s.kernel.openSource_grows _) descriptors
  | placed h_new => exact h.put h_new _
  | dropped h_find => exact h.erase fun _ _ => h.others h_find
  | @mapped b region access place mapping buffer kernel h_find h_map =>
    have h_region := SystemBuffer.map_region h_map
    obtain ⟨h_id, -, h_grows, -⟩ := Kernel.map_spec h_region.whole
    refine h.insert (fun l place' _ h_other => (h.places l place' h_other).mono h_grows)
      ((h.places b place h_find).of_map h_region) ?_
    rw [h_region.after]
    rintro _ ⟨⟩
    exact Nat.le_of_eq h_id.symm
  | @unmapped b place h_find =>
    exact h.insert (fun _ _ => h.others h_find) (h.places b place h_find).unmap_self nofun
  | written _ _ h_store => exact h.grows (Kernel.grows_of_store h_store) s.descriptors

end State.Sound

/-- So the buffers of every run are sound. -/
theorem sound_run [PageSize] (steps : List BenchStep) : (run steps).Sound :=
  (Obeys.always State.next {} steps).invariant
    (fun s t h _ => h.transition (next_transition s t)) State.Sound.start

/-! ## What lasts -/

section Lasting

variable [PageSize]

/-- A step leaves the memories as they are, unless it writes. -/
theorem Transition.keeps (h : Transition s t s') : Keeps s.kernel s'.kernel ∨
    ∃ b place mapping offset bytes, t = .touch b (.write offset bytes) ∧
      s.buffers.find? b = some place ∧ place.mapping = some mapping ∧
      s.kernel.store mapping.address offset bytes = .ok s'.kernel := by
  cases h with
  | quiet _ => exact .inl (.refl s.kernel)
  | opened _ => exact .inl (s.kernel.openSource_keeps _)
  | @placed _ b buffer kernel h_new =>
    refine .inl ?_
    unfold State.put
    rcases s.buffers.find? b with _ | old
    · exact h_new.keeps
    · exact h_new.keeps.trans (SystemBuffer.unmap_acts kernel old.buffer).keeps
  | @dropped b place _ => exact .inl (SystemBuffer.unmap_acts s.kernel place.buffer).keeps
  | mapped _ h_map => exact .inl (SystemBuffer.map_acts h_map).keeps
  | @unmapped b place _ => exact .inl (SystemBuffer.unmap_acts s.kernel place.buffer).keeps
  | written h_find h_mapping h_store =>
    exact .inr ⟨_, _, _, _, _, rfl, h_find, h_mapping, h_store⟩

theorem Transition.lasts (h : Transition s t s') : Lasts s.kernel s'.kernel := by
  rcases h.keeps with h_keeps | ⟨_, _, _, _, _, -, -, -, h_store⟩
  · exact h_keeps.lasts
  · exact Kernel.lasts_of_store h_store

/-- A mapping in use whose number had been given out was in use before, by the same buffer. -/
theorem Transition.place_before (h : Transition s t s') (h_find : s'.buffers.find? b = some place)
    (h_mapping : place.mapping = some mapping)
    (h_given : mapping.address.mapping < s.kernel.nextMapping) :
    s.buffers.find? b = some place := by
  -- a buffer that is put in place is not mapped, or has a new mapping
  have h_insert : ∀ {l new}, (s.buffers.insert l new).find? b = some place →
      (∀ m, new.mapping = some m → s.kernel.nextMapping ≤ m.address.mapping) →
        s.buffers.find? b = some place := by
    intro l new h_find h_new
    rcases Table.find?_insert_eq_some h_find with ⟨-, rfl⟩ | ⟨-, h_before⟩
    · exact absurd h_given (Nat.not_lt.mpr (h_new mapping h_mapping))
    · exact h_before
  cases h with
  | quiet _ => exact h_find
  | opened _ => exact h_find
  | placed _ => exact h_insert h_find nofun
  | dropped _ => exact (Table.find?_erase_eq_some h_find).2
  | mapped _ h_map =>
    have h_region := SystemBuffer.map_region h_map
    obtain ⟨h_id, -⟩ := Kernel.map_spec h_region.whole
    refine h_insert h_find ?_
    rintro _ ⟨⟩
    exact Nat.le_of_eq h_id.symm
  | unmapped _ => exact h_insert h_find nofun
  | written _ _ _ => exact h_find

theorem lasts_foldl (s : State) (steps : List BenchStep) :
    Lasts s.kernel (steps.foldl State.next s).kernel := by
  -- from every state; the first step and then the rest
  induction steps generalizing s with
  | nil => exact (Keeps.refl s.kernel).lasts
  | cons t rest ih => exact (next_transition s t).lasts.trans (ih (s.next t))

theorem place_before_foldl (s : State) (steps : List BenchStep)
    (h_find : (steps.foldl State.next s).buffers.find? b = some place)
    (h_mapping : place.mapping = some mapping)
    (h_given : mapping.address.mapping < s.kernel.nextMapping) :
    s.buffers.find? b = some place := by
  -- back from the last step to the first; a number that is given out stays so
  induction steps generalizing s with
  | nil => exact h_find
  | cons t rest ih =>
    have h_step := next_transition s t
    have h_later := Nat.lt_of_lt_of_le h_given h_step.lasts.nextMapping
    exact h_step.place_before (ih (s.next t) h_find h_later) h_mapping h_given

end Lasting

/-! ## Where mappings start -/

/-- A buffer is mapped by mapping it. -/
theorem step_map_eq [PageSize] (h_map : (step s (.map b region access)).1 = .mapped mapping) :
    ∃ place buffer kernel, s.buffers.find? b = some place ∧
      SystemBuffer.MapsRegion s.kernel place.buffer region access mapping buffer kernel ∧
      s.next (.map b region access) =
        { s with kernel, buffers := s.buffers.insert b { buffer, mapping := some mapping } } := by
  unfold State.next
  rcases h_find : s.buffers.find? b with _ | place
  · simp only [step, withBuffer, h_find] at h_map
    cases h_map
  rcases h_call : place.buffer.map s.kernel region access with f | ⟨given, buffer, kernel⟩
  · simp only [step, withBuffer, h_find, h_call] at h_map
    cases h_map
  · simp only [step, withBuffer, h_find, h_call] at h_map ⊢
    obtain rfl := BenchAnswer.mapped.inj h_map
    exact ⟨place, buffer, kernel, rfl, SystemBuffer.map_region h_call, rfl⟩

/-- Where a mapping of a region of a buffer starts. -/
structure StartsAt (k : Kernel) (buffer : SystemBuffer) (region : Rect) (access : Access)
    (mapping : BackendMapping) : Prop where
  /-- All of the memory is mapped, as it was measured, -/
  whole : ∃ memory, buffer.descriptor = .memory memory ∧
    k.mappings.find? mapping.address.mapping = some ⟨memory, buffer.size, access⟩
  /-- and the mapping starts where the first pixel of the region would be. The distance fits a word
      of 64 bits. -/
  offset : mapping.address.offset = buffer.raster.start region.origin
  fits : mapping.address.offset < 2 ^ 64
  /-- That is not past the end of the memory, unless the region starts below all rows, where it has
      no pixels. -/
  within_iff : mapping.address.offset ≤ buffer.size ↔
    region.y.toNat < buffer.extent.height.toNat ∨
      buffer.extent.height.toNat * buffer.stride.toNat +
        region.x.toNat * buffer.bytesPerPixel.toNat ≤ buffer.size
  /-- It is before the end if the region has a pixel. -/
  within : ∀ p, region.Has p → mapping.address.offset < buffer.size

theorem startsAt_of_map (h : place.Sound k)
    (h_map : SystemBuffer.MapsRegion k place.buffer region access mapping buffer kernel) :
    StartsAt kernel buffer region access mapping := by
  obtain ⟨h_id, -, -, memory, h_descriptor, h_find⟩ := Kernel.map_spec h_map.whole
  obtain rfl := h_map.after
  exact ⟨⟨memory, h_descriptor, h_find⟩, h_map.offset, h_map.offset_lt h.ample,
    h_map.offset_le_iff h.ample, fun p => h_map.offset_lt_size h.ample⟩

/-- In every run, a mapping of a buffer starts in its memory, or behind its last byte, unless the
    region is empty and starts where the rows have ended. -/
theorem mapping_starts [PageSize] (steps : List BenchStep)
    (h_map : (step (run steps) (.map b region access)).1 = .mapped mapping) :
    ∃ place, ((run steps).next (.map b region access)).buffers.find? b = some place ∧
      StartsAt ((run steps).next (.map b region access)).kernel place.buffer region access
        mapping := by
  obtain ⟨place, buffer, kernel, h_find, h_region, h_next⟩ := step_map_eq h_map
  rw [h_next]
  exact ⟨_, Table.find?_insert_self _ _ _,
    startsAt_of_map ((sound_run steps).places b place h_find) h_region⟩

/-- The lower right quarter of a buffer is mapped from its first pixel on. -/
theorem mapping_starts_quarter :
    let s := run [.create "image" ⟨16, 64⟩ .abgr8888]
    let t := BenchStep.map "image" ⟨8, 32, 8, 32⟩ Access.read
    (step s t).1 = .mapped ⟨⟨1, 2080⟩, 64⟩ ∧
      ∃ place, (s.next t).buffers.find? "image" = some place ∧
        StartsAt (s.next t).kernel place.buffer ⟨8, 32, 8, 32⟩ Access.read ⟨⟨1, 2080⟩, 64⟩ := by
  have h_map : (step (run [.create "image" ⟨16, 64⟩ .abgr8888])
      (.map "image" ⟨8, 32, 8, 32⟩ Access.read)).1 = .mapped ⟨⟨1, 2080⟩, 64⟩ := by
    with_unfolding_all rfl
  exact ⟨h_map, mapping_starts [.create "image" ⟨16, 64⟩ .abgr8888] h_map⟩

/-- The memory of a buffer of 16 by 64 pixels is one page of 4 KiB. It is mapped for the empty
    region to the right of the lower left corner, and the mapping starts 4 bytes past its last
    byte. -/
theorem mapping_starts_outside :
    (step (run [.create "image" ⟨16, 64⟩ .abgr8888])
        (.map "image" ⟨1, 64, 0, 0⟩ Access.read)).1 = .mapped ⟨⟨1, 4100⟩, 64⟩ ∧
      (run [.create "image" ⟨16, 64⟩ .abgr8888,
        .map "image" ⟨1, 64, 0, 0⟩ Access.read]).kernel.mappings.find? 1 =
          some ⟨0, 4096, Access.read⟩ := by
  constructor
  · with_unfolding_all rfl
  · with_unfolding_all rfl

end Bench

end GraphicsBuffer
