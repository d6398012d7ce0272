/-
  GraphicsBuffer.Proofs.Session.Commons

  Memory that is shared by way of handles. A client creates buffers, copies and sends handles, and
  writes through the addresses that locks of handles give it. Every handle goes back to a creation,
  and every creation has a memory of its own: its bytes are those that were written last through an
  address that was given for a handle that goes back to it.
-/

import GraphicsBuffer.Proofs.Session.Housing

namespace GraphicsBuffer

open Kernel (Acts Lasts Opens)
open Session (inherit Settled BuffersLeft MappingsKept)

/-! ## Bytes that were written -/

/-- Bytes that were written for a creation, from an offset on. -/
structure Writing where
  creation : BufferId
  offset : Nat
  bytes : List UInt8

/-- The byte that was written at an offset of a creation, if one was. -/
def Writing.at? (w : Writing) (creation : BufferId) (i : Nat) : Option UInt8 :=
  if w.creation = creation ∧ w.offset ≤ i then w.bytes[i - w.offset]? else none

/-- The byte that was written last at an offset of a creation, or zero if none was. What was written
    last comes first. -/
def lastWritten (writings : List Writing) (creation : BufferId) (i : Nat) : UInt8 :=
  (writings.findSome? (·.at? creation i)).getD 0

theorem lastWritten_cons_self {m : Memory} {w : Writing} {writings : List Writing}
    (h : m.contents = lastWritten writings w.creation) :
    (m.write w.offset w.bytes).contents = lastWritten (w :: writings) w.creation := by
  funext i
  simp only [Memory.write, lastWritten, List.findSome?_cons, Writing.at?, h, true_and]
  by_cases h_le : w.offset ≤ i
  · rw [if_pos h_le, if_pos h_le]
    rcases w.bytes[i - w.offset]? with _ | byte <;> rfl
  · rw [if_neg h_le, if_neg h_le]

theorem lastWritten_cons_of_ne {w : Writing} {writings : List Writing} {creation : BufferId}
    (h_ne : w.creation ≠ creation) :
    lastWritten (w :: writings) creation = lastWritten writings creation := by
  funext i
  simp only [lastWritten, List.findSome?_cons, Writing.at?, if_neg fun h_at => h_ne (And.left h_at)]

/-! ## Uses -/

/-- What a client does who shares memory. -/
inductive Use where
  | step (step : Step)
  /-- Writes bytes at an offset past an address. -/
  | write (a : Address) (offset : Nat) (bytes : List UInt8)

/-- A session together with the creations that its handles go back to, those that its addresses were
    given for, and what was written for them. A creation is known by the number of its buffer. -/
structure Commons where
  session : Session SystemState
  origins : Name → Option BufferId := fun _ => none
  grants : Address → Option BufferId := fun _ => none
  writings : List Writing := []

namespace Commons

/-- The creation that the handle goes back to that a name is given. -/
def origin (c : Commons) (_ : Name) : Descent → Option BufferId
  | .created => some c.session.world.env.nextBuffer
  | .copied h | .altered h => c.origins h
  | .foreign => none

/-- The creations that addresses were given for, after a step that was answered. -/
def granted (c : Commons) : Step → Answer → Address → Option BufferId
  | .lock _ h _, .locked (some a) _ =>
    match c.origins h with
    | none => c.grants
    | some k => Function.update c.grants a (some k)
  | _, _ => c.grants

/-- The name that a step gives a handle, and where the handle comes from. -/
def descent [PageSize] (c : Commons) (step : Step) : Option (Name × Descent) :=
  c.session.stepDescent? step (c.session.step systemBackend step).1

/-- What a step does to the registration of a handle. -/
def deed [PageSize] (c : Commons) (step : Step) : Option Deed :=
  c.session.stepDeed? step (c.session.step systemBackend step).1

/-- Takes a step. -/
def take [PageSize] (c : Commons) (step : Step) : Commons :=
  let stepped := c.session.step systemBackend step
  { session := stepped.2
    origins := inherit c.origins c.origin (c.descent step)
    grants := c.granted step stepped.1
    writings := c.writings }

/-- Writes through an address. A write that is refused changes nothing. -/
def write [PageSize] (c : Commons) (a : Address) (offset : Nat) (bytes : List UInt8) : Commons :=
  match c.session.kernel.store a offset bytes with
  | .error _ => c
  | .ok kernel =>
    { c with
      session := c.session.drift { c.session.world.env.devices with kernel }
      writings := ((c.grants a).map fun k => Writing.mk k offset bytes).toList ++ c.writings }

/-- Goes on with a use. -/
def next [PageSize] (c : Commons) : Use → Commons
  | .step step => c.take step
  | .write a offset bytes => c.write a offset bytes

/-- Handles come from creations, from copies and from transfers of their own descriptors, and are
    registered by managers only; nothing is written but through addresses that locks of handles
    gave. -/
def Proper (c : Commons) : Use → Prop
  | .step (.transfer _ _ _ (.given _)) | .step (.allocate _ _ _) | .step (.insert _ _ _) => False
  | .step _ => True
  | .write a _ _ => (c.grants a).isSome = true

theorem granted_eq_some {c : Commons} {step : Step} {answer : Answer} {a : Address} {k : BufferId}
    (h : c.granted step answer a = some k) : c.grants a = some k ∨ ∃ m l request previous,
      step = .lock m l request ∧ answer = .locked (some a) previous ∧ c.origins l = some k := by
  unfold granted at h
  split at h
  next l _ a' previous =>
    rcases h_origin : c.origins l with _ | k'
    · rw [h_origin] at h
      exact .inl h
    · rw [h_origin] at h
      obtain ⟨rfl, ⟨⟩⟩ | ⟨-, h_before⟩ := update_eq_some_iff.mp h
      · exact .inr ⟨_, _, _, _, rfl, rfl, h_origin⟩
      · exact .inl h_before
  next => exact .inl h

end Commons

/-! ## The invariant -/

/-- Every creation so far has a memory of its own, whose bytes are those that were written last. -/
structure Homes (home : BufferId → Option MemoryId) (s : Session SystemState)
    (writings : List Writing) : Prop where
  own : ∀ {k l i}, home k = some i → home l = some i → k = l
  given : ∀ {k i}, home k = some i → k < s.world.env.nextBuffer
  memory : ∀ {k i}, home k = some i →
    ∃ m : Memory, s.kernel.memories[i]? = some m ∧ m.contents = lastWritten writings k
  unwritten : ∀ {k}, home k = none → lastWritten writings k = fun _ => 0

/-- The handle of a name is for a memory. -/
def Session.RefersTo (s : Session SystemState) (l : Name) (i : MemoryId) : Prop :=
  ∃ shape, s.shape? l = some shape ∧ shape.descriptor = some (.memory i)

theorem Session.RefersTo.descriptor {s : Session SystemState} {l : Name} {i : MemoryId}
    {handle : Handle} (h : s.RefersTo l i) (h_find : s.handles.find? l = some handle) :
    handle.descriptor = some (.memory i) := by
  obtain ⟨shape, h_shape, h_memory⟩ := h
  obtain ⟨handle', h_find', rfl⟩ := shape?_eq_some_iff.mp h_shape
  obtain rfl := Option.some.inj (h_find.symm.trans h_find')
  exact h_memory

/-- A handle that goes back to a creation is for its memory, and what it stands for is there. -/
structure Housing (home : BufferId → Option MemoryId) (origins : Name → Option BufferId)
    (s : Session SystemState) : Prop where
  refers : ∀ {l k}, origins l = some k → ∃ i, home k = some i ∧ s.RefersTo l i
  houses : ∀ {l k handle m id}, origins l = some k → s.handles.find? l = some handle →
    s.world.lookup m handle = some id → s.world.env.devices.Houses id handle

namespace Homes

variable {home : BufferId → Option MemoryId} {s s' : Session SystemState} {writings : List Writing}

theorem of_acts (h : Homes home s writings)
    (h_next : s.world.env.nextBuffer ≤ s'.world.env.nextBuffer) (h_acts : Acts s.kernel s'.kernel) :
    Homes home s' writings where
  own := h.own
  given h_home := Nat.lt_of_lt_of_le (h.given h_home) h_next
  memory h_home := by
    obtain ⟨m, h_memory, h_contents⟩ := h.memory h_home
    exact ⟨m, h_acts.memory h_memory, h_contents⟩
  unwritten := h.unwritten

/-- A creation brings a memory that is all zero, and nothing has been written for it. -/
theorem created (h : Homes home s writings)
    (h_next : s.world.env.nextBuffer < s'.world.env.nextBuffer) (h_acts : Acts s.kernel s'.kernel)
    {m : Memory} (h_made : s'.kernel.memories[s.kernel.memories.length]? = some m)
    (h_zero : m.contents = fun _ => 0) :
    Homes (Function.update home s.world.env.nextBuffer (some s.kernel.memories.length)) s'
      writings := by
  have h_later := h.of_acts (Nat.le_of_lt h_next) h_acts
  -- the memory of an older creation is an older one
  have h_old : ∀ {k i}, home k = some i → i ≠ s.kernel.memories.length := by
    intro k i h_home
    obtain ⟨m', h_memory, -⟩ := h.memory h_home
    exact Nat.ne_of_lt (List.getElem?_eq_some_iff.mp h_memory).1
  refine ⟨fun {k l i} h_k h_l => ?_, fun {k i} h_k => ?_, fun {k i} h_k => ?_, fun {k} h_k => ?_⟩
  · obtain ⟨rfl, ⟨⟩⟩ | ⟨-, h_k⟩ := update_eq_some_iff.mp h_k
    · obtain ⟨rfl, -⟩ | ⟨-, h_l⟩ := update_eq_some_iff.mp h_l
      · rfl
      · exact absurd rfl (h_old h_l)
    · obtain ⟨-, ⟨⟩⟩ | ⟨-, h_l⟩ := update_eq_some_iff.mp h_l
      · exact absurd rfl (h_old h_k)
      · exact h.own h_k h_l
  · obtain ⟨rfl, -⟩ | ⟨-, h_k⟩ := update_eq_some_iff.mp h_k
    · exact h_next
    · exact h_later.given h_k
  · obtain ⟨rfl, ⟨⟩⟩ | ⟨-, h_k⟩ := update_eq_some_iff.mp h_k
    · have h_unborn : home s.world.env.nextBuffer = none :=
        Option.eq_none_iff_forall_ne_some.mpr fun i h_home => Nat.lt_irrefl _ (h.given h_home)
      exact ⟨m, h_made, h_zero.trans (h.unwritten h_unborn).symm⟩
    · exact h_later.memory h_k
  · by_cases h_eq : k = s.world.env.nextBuffer
    · rw [h_eq, Function.update_self] at h_k
      exact nomatch h_k
    · rw [Function.update_of_ne h_eq] at h_k
      exact h.unwritten h_k

end Homes

/-- The address of a handle that goes back to a creation is the start of the creation's memory. -/
theorem Housing.opens {home : BufferId → Option MemoryId} {origins : Name → Option BufferId}
    {s : Session SystemState} (h : Housing home origins s) (h_settled : Settled s) {l : Name}
    {k : BufferId} {handle : Handle} {m : ManagerId} {o : BufferObject} {mapping : BackendMapping}
    (h_origin : origins l = some k) (h_find : s.handles.find? l = some handle)
    (h_object : s.world.object? m handle = some o) (h_mapping : o.mapping = some mapping) :
    ∃ i, home k = some i ∧ handle.descriptor = some (.memory i) ∧
      s.kernel.Opens mapping.address i := by
  obtain ⟨id, h_lookup, h_live⟩ := World.object?_eq_some_iff.mp h_object
  obtain ⟨i, h_home, h_refers⟩ := h.refers h_origin
  have h_memory := h_refers.descriptor h_find
  obtain ⟨h_offset, h_given, b, memory, access, h_b, h_descriptor, h_record⟩ :=
    h_settled.provided.record h_live h_mapping
  obtain ⟨rfl, -⟩ := h_settled.provided.numbered id o h_live
  -- the buffer that is mapped is the one that the handle stands for, on the memory of the handle
  obtain ⟨bare, h_bare, h_same, h_end⟩ := h.houses h_origin h_find h_lookup
  rw [SystemState.bare?_of_find? h_b] at h_bare
  obtain rfl := Option.some.inj h_bare
  rw [h_memory] at h_same
  obtain rfl : memory = i :=
    Descriptor.memory.inj (h_descriptor.symm.trans (Option.some.inj h_same).symm)
  rw [show b.unmapped.descriptor = _ from h_descriptor] at h_end
  obtain ⟨m, h_m, h_size⟩ := Kernel.endOf_memory_eq_ok_iff.mp h_end
  refine ⟨memory, h_home, h_memory, h_offset, h_given, m, h_m, fun record h_find => ?_⟩
  rw [h_record] at h_find
  obtain rfl := Option.some.inj h_find
  exact ⟨rfl, h_size.symm⟩

variable [PageSize]

namespace Commons

/-- What holds of every state that proper uses reach. -/
structure Sound (home : BufferId → Option MemoryId) (c : Commons) : Prop where
  settled : Settled c.session
  homes : Homes home c.session c.writings
  housing : Housing home c.origins c.session
  grants : ∀ {a k}, c.grants a = some k → ∃ i, home k = some i ∧ c.session.kernel.Opens a i

/-! ## Steps -/

section Steps

variable {home : BufferId → Option MemoryId} {c : Commons} {step : Step}

/-- The memories of creations after a step are those from before it, and one that it made. -/
structure Extends (home home' : BufferId → Option MemoryId) (c : Commons) (step : Step) : Prop where
  homes : Homes home' (c.take step).session c.writings
  more : ∀ {k i}, home k = some i → home' k = some i
  created : ∀ {l}, c.descent step = some (l, .created) →
    ∃ i, home' c.session.world.env.nextBuffer = some i ∧ (c.take step).session.RefersTo l i

theorem Sound.extends_take (h : c.Sound home) (step : Step) :
    ∃ home', Extends home home' c step := by
  have h_acts := h.settled.acts_of_step step
  by_cases h_created : ∃ l, c.descent step = some (l, .created)
  · obtain ⟨l, h_created⟩ := h_created
    obtain ⟨device, size, format, usage, o, handle, h_call, h_find⟩ :=
      Session.created_of_descent? (m := .client step) h_created
    obtain ⟨layout, stored, b, -, h_made, rfl, -, -⟩ := BufferObject.allocate_made h_call
    obtain ⟨-, h_next, -⟩ := BufferObject.allocate_ok h_call
    have h_later : c.session.world.env.nextBuffer < (c.take step).session.world.env.nextBuffer :=
      Nat.lt_of_lt_of_le (Nat.lt_succ_self _) (Nat.le_of_eq h_next.symm)
    refine ⟨_, h.homes.created h_later h_acts h_made.memory rfl, fun {k i} h_home => ?_,
      fun {l'} h_created' => ?_⟩
    · rw [Function.update_of_ne (Nat.ne_of_lt (h.homes.given h_home))]
      exact h_home
    · obtain rfl : l = l' := (Prod.mk.inj (Option.some.inj (h_created.symm.trans h_created'))).1
      exact ⟨_, Function.update_self .., _, Session.shape?_eq_some_iff.mpr ⟨_, h_find, rfl⟩,
        congrArg some h_made.descriptor⟩
  · exact ⟨home, h.homes.of_acts (h.settled.nextBuffer_le step) h_acts, fun h_home => h_home,
      fun h_l => absurd ⟨_, h_l⟩ h_created⟩

/-- After a step handles are for the memories of the creations that they go back to. -/
theorem Sound.refers_take (h : c.Sound home) {home' : BufferId → Option MemoryId}
    (h_extends : Extends home home' c step) {l : Name} {k : BufferId}
    (h_origin : (c.take step).origins l = some k) :
    ∃ i, home' k = some i ∧ (c.take step).session.RefersTo l i := by
  have h_descends : Session.Descends c.session (c.descent step) (c.take step).session :=
    Session.step_descends step
  have h_created := @h_extends.created
  simp only [take] at h_origin
  generalize c.descent step = descent at *
  -- a handle that is not given to its name in the step has its shape from before
  have h_kept : c.origins l = some k → (∀ d, descent ≠ some (l, d)) →
      ∃ i, home' k = some i ∧ (c.take step).session.RefersTo l i := by
    intro h_before h_none
    obtain ⟨i, h_home, shape, h_shape, h_memory⟩ := h.housing.refers h_before
    exact ⟨i, h_extends.more h_home, shape, (h_descends.others l h_none).trans h_shape, h_memory⟩
  rcases descent with _ | ⟨n, d⟩
  · exact h_kept h_origin nofun
  obtain ⟨rfl, h_own⟩ | ⟨h_ne, h_before⟩ := update_eq_some_iff.mp h_origin
  · cases d with
    | created =>
      obtain rfl := Option.some.inj h_own
      exact h_created rfl
    | copied n =>
      obtain ⟨i, h_home, shape, h_shape, h_memory⟩ := h.housing.refers h_own
      exact ⟨i, h_extends.more h_home, shape, h_descends.copied rfl h_shape h_memory, h_memory⟩
    | altered n =>
      obtain ⟨i, h_home, shape, h_shape, h_memory⟩ := h.housing.refers h_own
      exact ⟨i, h_extends.more h_home, h_descends.altered rfl h_shape h_memory⟩
    | foreign => exact nomatch h_own
  · exact h_kept h_before fun d h_eq => h_ne (Prod.mk.inj (Option.some.inj h_eq)).1.symm

/-- A handle whose registration a step does not concern goes back to what it went back to before. -/
theorem origins_of_other {l : Name} {k : BufferId} (h_origin : (c.take step).origins l = some k)
    (h_other : ∀ deed, c.deed step = some deed → l ≠ deed.handle) : c.origins l = some k := by
  simp only [take] at h_origin
  rcases h_descent : c.descent step with _ | ⟨n, d⟩
  · rw [h_descent] at h_origin
    exact h_origin
  rw [h_descent] at h_origin
  obtain ⟨rfl, h_own⟩ | ⟨-, h_before⟩ := update_eq_some_iff.mp h_origin
  · obtain ⟨deed, h_deed, h_handle⟩ | rfl | rfl := Session.deed_of_stepDescent? h_descent
    · exact absurd h_handle.symm (h_other deed h_deed)
    · exact h_own
    · exact nomatch h_own
  · exact h_before

/-- A handle that has its key after a step had it before, or was registered in the step. -/
theorem Sound.lookup_before (h : c.Sound home) {l : Name} {handle' : Handle} {m : ManagerId}
    {id : BufferId} (h_find' : (c.take step).session.handles.find? l = some handle')
    (h_lookup' : (c.take step).session.world.lookup m handle' = some id) :
    c.deed step = some (.bound m l id) ∨
      (∀ deed, c.deed step = some deed → l ≠ deed.handle) ∧
      ∃ handle, c.session.handles.find? l = some handle ∧
        c.session.world.lookup m handle = some id := by
  obtain ⟨deeds, h_sound⟩ := h.settled.keys
  have h_sound' : Session.RegistrySound (c.take step).session ((c.deed step).toList ++ deeds) :=
    Session.RegistrySound.next (c := ⟨c.session, deeds⟩) h.settled.accounted h_sound (.client step)
  have h_effect : Session.Effect systemBackend _ c.session (c.deed step) (c.take step).session :=
    h.settled.effect_of_step step
  by_cases h_other : ∀ deed, c.deed step = some deed → l ≠ deed.handle
  · -- the key is an old one, and so is the entry under it
    obtain ⟨key, manager', h_key', h_manager', h_entry'⟩ := World.lookup_eq_some_iff.mp h_lookup'
    have h_key : c.session.key? l = some key :=
      (h_effect.key?_of_other h_other).symm.trans ((Session.key?_of_find? h_find').trans h_key')
    obtain ⟨handle, h_find, h_registered⟩ := Option.bind_eq_some_iff.mp h_key
    obtain ⟨manager, h_manager, h_entry⟩ :=
      h_effect.entry_before (h_sound.keys_used h_key) h_manager' h_entry'
    exact .inr ⟨h_other, handle, h_find,
      World.lookup_eq_some_iff.mpr ⟨key, manager, h_registered, h_manager, h_entry⟩⟩
  · -- the step is the latest that concerned the handle
    push Not at h_other
    obtain ⟨deed, h_deed, rfl⟩ := h_other
    have h_latest := h_sound'.latest_of_lookup h_find' h_lookup'
    rw [h_deed] at h_latest
    rw [h_deed, ← (latest_cons_self deed deeds).symm.trans h_latest]
    exact .inl rfl

/-- After a step handles stand for buffers on the memories of their creations. -/
theorem Sound.housing_take (h : c.Sound home) (h_proper : c.Proper (.step step))
    {home' : BufferId → Option MemoryId} (h_extends : Extends home home' c step) :
    Housing home' (c.take step).origins (c.take step).session := by
  refine ⟨h.refers_take h_extends, fun {l k handle' m id} h_origin h_find' h_lookup' => ?_⟩
  rcases h.lookup_before h_find' h_lookup' with h_deed | ⟨h_other, handle, h_find, h_lookup⟩
  · refine Session.houses_of_bound ?_ h_deed h_find' ?_
    · rintro m h o rfl
      exact h_proper
    · obtain ⟨key, -, h_key, -⟩ := World.lookup_eq_some_iff.mp h_lookup'
      exact fun h_none => nomatch h_none.symm.trans h_key
  · -- the handle stands for the buffer that it stood for, and both are where they were
    have h_before := origins_of_other h_origin h_other
    obtain ⟨i, h_home, h_memory⟩ := h.housing.refers h_before
    obtain ⟨i', h_home', h_memory'⟩ := h.refers_take h_extends h_origin
    obtain rfl := Option.some.inj ((h_extends.more h_home).symm.trans h_home')
    obtain ⟨o, h_live⟩ :=
      h.settled.accounted.names id (.inl (World.registered_of_lookup h_lookup))
    obtain ⟨o', h_live'⟩ := (h.settled.accounted.of_after (B := systemBackend) (.client step)).names
      id (.inl (World.registered_of_lookup h_lookup'))
    have h_bare := h.settled.bare?_after (m := .client step) True.intro h_live h_live'
    refine (SystemState.Houses.lasts (h.housing.houses h_before h_find h_lookup) h_bare
      (h.settled.acts_of_step step).lasts).of_descriptor ?_
    exact (h_memory'.descriptor h_find').trans (h_memory.descriptor h_find).symm

theorem origins_of_lock {m : ManagerId} {l : Name} {request : LockRequest} :
    (c.take (.lock m l request)).origins = c.origins := by
  rcases h_answer : (c.session.step systemBackend (.lock m l request)).1 <;>
    simp only [take, h_answer] <;> rfl

/-- Every step of a proper client keeps the invariant. -/
theorem Sound.take (h : c.Sound home) (h_proper : c.Proper (.step step)) :
    ∃ home', (c.take step).Sound home' := by
  obtain ⟨home', h_extends⟩ := h.extends_take step
  have h_settled : Settled (c.take step).session := h.settled.step step
  have h_housing := h.housing_take h_proper h_extends
  refine ⟨home', h_settled, h_extends.homes, h_housing, fun {a k} h_grant => ?_⟩
  rcases granted_eq_some h_grant with h_before |
    ⟨m, l, request, previous, rfl, h_answer, h_origin⟩
  · obtain ⟨i, h_home, h_opens⟩ := h.grants h_before
    exact ⟨i, h_extends.more h_home, h_opens.lasts (h.settled.acts_of_step step).lasts⟩
  · -- the address that the lock gave is that of the object that the handle stands for
    have h_lock : c.session.step systemBackend (.lock m l request) =
        (.locked (some a) previous, (c.take (.lock m l request)).session) := Prod.ext h_answer rfl
    obtain ⟨handle, o, h_find, h_object, h_address, -⟩ :=
      Session.lock_granted h.settled.provided.numbered h_lock
    obtain ⟨mapping, h_mapping, rfl⟩ := Option.map_eq_some_iff.mp h_address
    have h_origin' : (c.take (.lock m l request)).origins l = some k := by
      rw [origins_of_lock]
      exact h_origin
    obtain ⟨i, h_home, -, h_opens⟩ := h_housing.opens h_settled h_origin' h_find h_object h_mapping
    exact ⟨i, h_home, h_opens⟩

end Steps

/-! ## Writes -/

/-- A write through an address that a lock of a handle gave changes the bytes of the creation that
    the handle goes back to, and no others. -/
theorem Sound.write {home : BufferId → Option MemoryId} {c : Commons} (h : c.Sound home)
    {a : Address} {offset : Nat} {bytes : List UInt8}
    (h_proper : c.Proper (.write a offset bytes)) : (c.write a offset bytes).Sound home := by
  obtain ⟨k, h_grant⟩ := Option.isSome_iff_exists.mp h_proper
  obtain ⟨i, h_home, h_opens⟩ := h.grants h_grant
  unfold Commons.write
  rcases h_store : c.session.kernel.store a offset bytes with why | kernel
  · exact h
  have h_lasts := Kernel.lasts_of_store h_store
  obtain ⟨m, h_memory, rfl⟩ := h_opens.store h_store
  simp only [h_grant, Option.map_some, Option.toList_some, List.singleton_append]
  refine ⟨h.settled.of_memories h_lasts, ⟨h.homes.own, h.homes.given, ?_, ?_⟩,
    ⟨h.housing.refers, ?_⟩, ?_⟩
  · intro l j h_l
    obtain ⟨m', h_memory', h_contents⟩ := h.homes.memory h_l
    have h_set : (c.session.kernel.memories.set i (m.write offset bytes))[j]? = _ :=
      Kernel.memory_set h_memory j
    by_cases h_eq : j = i
    · subst h_eq
      obtain rfl := h.homes.own h_home h_l
      obtain rfl := Option.some.inj (h_memory.symm.trans h_memory')
      rw [if_pos rfl] at h_set
      exact ⟨_, h_set, lastWritten_cons_self (w := ⟨k, offset, bytes⟩) h_contents⟩
    · rw [if_neg h_eq] at h_set
      refine ⟨m', h_set.trans h_memory', ?_⟩
      rw [lastWritten_cons_of_ne]
      · exact h_contents
      · rintro rfl
        exact h_eq (Option.some.inj (h_l.symm.trans h_home))
  · intro l h_l
    rw [lastWritten_cons_of_ne]
    · exact h.homes.unwritten h_l
    · rintro rfl
      exact nomatch h_home.symm.trans h_l
  · intro l k' handle m' id h_origin h_find h_lookup
    exact (h.housing.houses h_origin h_find h_lookup).lasts rfl h_lasts
  · intro a' k' h_grant'
    obtain ⟨i', h_home', h_opens'⟩ := h.grants h_grant'
    exact ⟨i', h_home', h_opens'.lasts h_lasts⟩

end Commons

end GraphicsBuffer
