/-
  GraphicsBuffer.Proofs.Session.Site

  Where operations on handles take place. The site of a handle in a manager is all that an operation
  on the handle can see there: the handle, the entry that its key has, the buffer of the entry, and
  the memories. No two handles have anything but the memories in common.
-/

import GraphicsBuffer.Proofs.Session.Portrait
import GraphicsBuffer.Proofs.World.Ownership

namespace GraphicsBuffer

/-! ## Operations on handles -/

/-- What a manager can be asked to do with a handle. -/
inductive HandleOp where
  | register
  | unregister
  | lock (request : LockRequest)
  | unlock
  /-- Hand out a reference to the buffer, which is kept under a name. -/
  | refer (o : Name)

namespace HandleOp

/-- The step in which a manager is asked. -/
def step (m : ManagerId) (h : Name) : HandleOp → Step
  | register => .register m h
  | unregister => .unregister m h
  | lock request => .lock m h request
  | unlock => .unlock m h
  | refer o => .hold m h o

/-- The name for a reference is one that is not in use. -/
def Fits {σ : Type} (op : HandleOp) (s : Session σ) : Prop :=
  ∀ o, op = refer o → s.holdings.find? o = none

end HandleOp

/-! ## Sites -/

/-- What an operation on a handle in a manager can see. -/
structure Site where
  managed : Bool
  handle : Option Handle
  id : Option BufferId
  object : Option BufferObject
  buffer : Option SystemBuffer
  /-- How many references to the buffer have been handed out. -/
  held : Option Nat
  memories : List Memory

namespace Portrait

/-- The buffer that the handle of a name stands for in a manager. -/
def stands (P : Portrait) (m : ManagerId) (h : Name) : Option BufferId := do
  let handle ← P.handles h
  let key ← handle.registration
  P.entries (m, key)

/-- The site of a handle in a manager. -/
def site (P : Portrait) (m : ManagerId) (h : Name) : Site where
  managed := (P.managers[m]?).join.isSome
  handle := P.handles h
  id := P.stands m h
  object := (P.stands m h).bind P.objects
  buffer := (P.stands m h).bind P.buffers
  held := (P.stands m h).map P.held
  memories := P.memories

/-- The key of the handle of a name. -/
def key? (P : Portrait) (h : Name) : Option Key := (P.handles h).bind (·.registration)

/-- The mapping of the buffer that the handle of a name stands for in a manager. -/
def mapped (P : Portrait) (m : ManagerId) (h : Name) : Option MappingId :=
  ((P.stands m h).bind P.buffers).bind (·.mapping)

/-- No two handles have anything in common, wherever they stand for something. -/
structure Private (P : Portrait) : Prop where
  keys : ∀ {h h' key}, P.key? h = some key → P.key? h' = some key → h = h'
  stands : ∀ {m m' h h' id}, P.stands m h = some id → P.stands m' h' = some id → h = h'
  mapped : ∀ {m m' h h' id}, P.mapped m h = some id → P.mapped m' h' = some id → h = h'

theorem stands_eq_some_iff {P : Portrait} {m : ManagerId} {h : Name} {id : BufferId} :
    P.stands m h = some id ↔ ∃ key, P.key? h = some key ∧ P.entries (m, key) = some id := by
  simp only [stands, key?, Option.bind_eq_bind, Option.bind_eq_some_iff]
  constructor
  · rintro ⟨handle, h_find, key, h_key, h_entry⟩
    exact ⟨key, ⟨handle, h_find, h_key⟩, h_entry⟩
  · rintro ⟨key, ⟨handle, h_find, h_key⟩, h_entry⟩
    exact ⟨handle, h_find, key, h_key, h_entry⟩

end Portrait

namespace Session

variable {s : Session SystemState} {m : ManagerId} {h : Name}

theorem site_managed (s : Session SystemState) (m : ManagerId) (h : Name) :
    (s.portrait.site m h).managed = (s.world.manager? m).isSome := by
  simp only [Portrait.site, portrait, World.manager?, List.getElem?_map]
  rcases s.world.managers[m]? with _ | _ | manager <;> rfl

theorem site_id {handle : Handle} (h_find : s.handles.find? h = some handle) (m : ManagerId) :
    (s.portrait.site m h).id = s.world.lookup m handle := by
  simp only [Portrait.site, Portrait.stands, portrait, h_find]
  rfl

/-! ## Portraits of settled sessions -/

theorem Settled.portrait_given (hs : Settled s) : s.portrait.Given where
  handles := hs.key_lt
  holdings h_find := by
    obtain ⟨o, h_live⟩ := hs.accounted.live_of_holding h_find
    exact (hs.provided.numbered _ o h_live).2
  entries := hs.entry_lt
  objects {id o} h_find := by
    obtain ⟨rfl, h_lt⟩ := hs.provided.numbered id o h_find
    refine ⟨rfl, h_lt, fun mapping h_mapping => ?_⟩
    obtain ⟨b, h_buffer, h_facts⟩ := hs.provided.backed _ o h_find
    obtain ⟨-, h_b⟩ := hs.provided.devices.buffers _ b h_buffer
    exact (h_b.mapped _ (h_facts mapping h_mapping).1).1
  held {id} h_held := by
    obtain ⟨o, h_live⟩ :=
      hs.accounted.names id (.inr (List.count_pos_iff.mp (Nat.pos_of_ne_zero h_held)))
    exact (hs.provided.numbered id o h_live).2
  buffers {id b} h_find := by
    obtain ⟨h_lt, h_b⟩ := hs.provided.devices.buffers id b h_find
    exact ⟨h_lt, fun mapping h_mapping => (h_b.mapped mapping h_mapping).1⟩
  mappings {id mapping} h_find := hs.given id mapping h_find

theorem Settled.portrait_private (hs : Settled s) : s.portrait.Private := by
  obtain ⟨deeds, h_sound⟩ := hs.keys
  have h_stands : ∀ {m m' h h' id}, s.portrait.stands m h = some id →
      s.portrait.stands m' h' = some id → h = h' := by
    intro m m' h h' id h_id h_id'
    obtain ⟨key, h_key, h_entry⟩ := Portrait.stands_eq_some_iff.mp h_id
    obtain ⟨key', h_key', h_entry'⟩ := Portrait.stands_eq_some_iff.mp h_id'
    obtain ⟨-, rfl⟩ := Prod.mk.inj (hs.own.entries_own h_entry h_entry')
    exact h_sound.keys_own h_key h_key'
  refine ⟨h_sound.keys_own, h_stands, fun {m m' h h' mapping} h_mapped h_mapped' => ?_⟩
  obtain ⟨b, h_b, h_mapping⟩ := Option.bind_eq_some_iff.mp h_mapped
  obtain ⟨b', h_b', h_mapping'⟩ := Option.bind_eq_some_iff.mp h_mapped'
  obtain ⟨id, h_id, h_find⟩ := Option.bind_eq_some_iff.mp h_b
  obtain ⟨id', h_id', h_find'⟩ := Option.bind_eq_some_iff.mp h_b'
  -- a mapping is of one buffer, and a buffer of one handle
  obtain rfl := hs.provided.devices.separate id id' b b' mapping h_find h_find' h_mapping h_mapping'
  exact h_stands h_id h_id'

/-! ## What can be at a site -/

/-- A handle is there but stands for nothing in the manager. -/
structure Vacant (t : Session SystemState) (m : ManagerId) (h : Name) (handle : Handle) : Prop where
  manager : ∃ manager, t.world.manager? m = some manager
  find : t.handles.find? h = some handle
  lookup : t.world.lookup m handle = none

/-- A handle stands for a buffer in the manager. -/
structure Occupied (t : Session SystemState) (m : ManagerId) (h : Name) (handle : Handle)
    (key : Key) (o : BufferObject) (b : SystemBuffer) : Prop where
  manager : ∃ manager, t.world.manager? m = some manager ∧ manager.buffers.find? key = some o.id
  find : t.handles.find? h = some handle
  registered : handle.registration = some key
  live : t.world.objects.find? o.id = some o
  buffer : t.world.env.devices.buffers.find? o.id = some b

theorem Occupied.lookup {handle : Handle} {key : Key} {o : BufferObject} {b : SystemBuffer}
    (h_site : Occupied s m h handle key o b) : s.world.lookup m handle = some o.id := by
  obtain ⟨manager, h_manager, h_entry⟩ := h_site.manager
  exact World.lookup_eq_some_iff.mpr ⟨key, manager, h_site.registered, h_manager, h_entry⟩

theorem Occupied.object {handle : Handle} {key : Key} {o : BufferObject} {b : SystemBuffer}
    (h_site : Occupied s m h handle key o b) : s.world.object? m handle = some o :=
  World.object?_eq_some_iff.mpr ⟨_, h_site.lookup, h_site.live⟩

theorem Occupied.stands {handle : Handle} {key : Key} {o : BufferObject} {b : SystemBuffer}
    (h_site : Occupied s m h handle key o b) : s.portrait.stands m h = some o.id :=
  (site_id h_site.find m).trans h_site.lookup

theorem Occupied.key? {handle : Handle} {key : Key} {o : BufferObject} {b : SystemBuffer}
    (h_site : Occupied s m h handle key o b) : s.portrait.key? h = some key :=
  Option.bind_eq_some_iff.mpr ⟨handle, h_site.find, h_site.registered⟩

theorem Occupied.mapped {handle : Handle} {key : Key} {o : BufferObject} {b : SystemBuffer}
    (h_site : Occupied s m h handle key o b) : s.portrait.mapped m h = b.mapping := by
  rw [Portrait.mapped, h_site.stands, Option.bind_some, show s.portrait.buffers o.id = some b from
    h_site.buffer, Option.bind_some]

/-- What is at a site shows in it. -/
theorem Occupied.site_eq {handle : Handle} {key : Key} {o : BufferObject} {b : SystemBuffer}
    (h_site : Occupied s m h handle key o b) :
    s.portrait.site m h = ⟨true, some handle, some o.id, some o, some b,
      some (s.world.held.count o.id), s.kernel.memories⟩ := by
  obtain ⟨manager, h_manager, -⟩ := h_site.manager
  have h_managed := site_managed s m h
  rw [h_manager] at h_managed
  simp only [Portrait.site] at h_managed ⊢
  rw [h_managed, h_site.stands]
  simp only [portrait, h_site.find, Option.bind_some, h_site.live, h_site.buffer, Option.map_some,
    Option.isSome_some]

/-- Sites that look the same are the same. -/
theorem Vacant.of_site {t : Session SystemState} {handle : Handle} (h_site : Vacant s m h handle)
    (h_same : t.portrait.site m h = s.portrait.site m h) : Vacant t m h handle := by
  have h_managed := congrArg Site.managed h_same
  have h_handle : t.handles.find? h = s.handles.find? h := congrArg Site.handle h_same
  have h_id := congrArg Site.id h_same
  obtain ⟨manager, h_manager⟩ := h_site.manager
  rw [site_managed, site_managed, h_manager] at h_managed
  rw [h_site.find] at h_handle
  rw [site_id h_handle, site_id h_site.find, h_site.lookup] at h_id
  exact ⟨Option.isSome_iff_exists.mp h_managed, h_handle, h_id⟩

theorem Occupied.of_site {t : Session SystemState} {handle : Handle} {key : Key} {o : BufferObject}
    {b : SystemBuffer} (h_site : Occupied s m h handle key o b)
    (h_same : t.portrait.site m h = s.portrait.site m h) :
    Occupied t m h handle key o b ∧ t.world.held.count o.id = s.world.held.count o.id ∧
      t.kernel.memories = s.kernel.memories := by
  rw [h_site.site_eq] at h_same
  have h_handle : t.handles.find? h = some handle := congrArg Site.handle h_same
  have h_id : t.portrait.stands m h = some o.id := congrArg Site.id h_same
  have h_object : (t.portrait.stands m h).bind t.world.objects.find? = some o :=
    congrArg Site.object h_same
  have h_buffer : (t.portrait.stands m h).bind t.world.env.devices.buffers.find? = some b :=
    congrArg Site.buffer h_same
  have h_held : (t.portrait.stands m h).map t.world.held.count = some (s.world.held.count o.id) :=
    congrArg Site.held h_same
  have h_lookup : t.world.lookup m handle = some o.id := (site_id h_handle m).symm.trans h_id
  obtain ⟨key', manager, h_key, h_manager, h_entry⟩ := World.lookup_eq_some_iff.mp h_lookup
  obtain rfl : key = key' := Option.some.inj (h_site.registered.symm.trans h_key)
  rw [h_id] at h_object h_buffer h_held
  exact ⟨⟨⟨manager, h_manager, h_entry⟩, h_handle, h_site.registered, h_object, h_buffer⟩,
    Option.some.inj h_held, congrArg Site.memories h_same⟩

/-- What is at a site: no manager, no handle, or a handle that stands for nothing there, or for a
    buffer. -/
theorem Settled.site_cases (hs : Settled s) (m : ManagerId) (h : Name) :
    s.world.manager? m = none ∨
      (∃ manager, s.world.manager? m = some manager ∧ s.handles.find? h = none) ∨
      (∃ handle, Vacant s m h handle) ∨ ∃ handle key o b, Occupied s m h handle key o b := by
  rcases h_manager : s.world.manager? m with _ | manager
  · exact .inl rfl
  rcases h_find : s.handles.find? h with _ | handle
  · exact .inr (.inl ⟨manager, rfl, rfl⟩)
  rcases h_lookup : s.world.lookup m handle with _ | id
  · exact .inr (.inr (.inl ⟨handle, ⟨manager, h_manager⟩, h_find, h_lookup⟩))
  · obtain ⟨key, manager', h_key, h_manager', h_entry⟩ := World.lookup_eq_some_iff.mp h_lookup
    obtain ⟨o, h_live⟩ := hs.accounted.names id (.inl (World.registered_of_lookup h_lookup))
    obtain ⟨rfl, -⟩ := hs.provided.numbered id o h_live
    obtain ⟨b, h_buffer, -⟩ := hs.provided.backed _ o h_live
    exact .inr (.inr (.inr ⟨handle, key, o, b, ⟨manager', h_manager', h_entry⟩, h_find, h_key,
      h_live, h_buffer⟩))

end Session

end GraphicsBuffer
