/-
  GraphicsBuffer.Proofs.Session.Portrait

  Portraits of sessions. A portrait shows a session on the allocator on shared memory up to the
  order in which its tables list their entries and up to the account of what was done. The numbers
  of keys, buffers and mappings in it may be exchanged for others; what an operation does to it is a
  patch, a change of one entry of a table at most, and patches that touch different entries commute.
-/

import GraphicsBuffer.Proofs.Session.Settled
import Mathlib.Logic.Equiv.Basic

namespace GraphicsBuffer

/-! ## Edits of tables -/

/-- A change of one entry of a table, or of none. -/
inductive Edit (κ α : Type) where
  | keep
  /-- This is what is found under a name from now on. -/
  | put (k : κ) (a : Option α)

namespace Edit

variable {κ α : Type} [DecidableEq κ] (π : Equiv.Perm κ) (g : α → α) (e e' : Edit κ α)
  (f : κ → Option α)

/-- The table with the change. -/
def apply : κ → Option α :=
  match e with
  | keep => f
  | put k a => Function.update f k a

/-- The change under other names and to other values. -/
def rename (e : Edit κ α) : Edit κ α :=
  match e with
  | keep => keep
  | put k a => put (π k) (a.map g)

omit [DecidableEq κ] in
@[simp] theorem rename_keep : (keep : Edit κ α).rename π g = keep := rfl

omit [DecidableEq κ] in
@[simp] theorem rename_put (k : κ) (a : Option α) :
    (put k a).rename π g = put (π k) (a.map g) := rfl

/-- The table under other names and with other values. -/
def renameTable : κ → Option α := fun k => (f (π.symm k)).map g

omit [DecidableEq κ] in
@[simp] theorem renameTable_apply (k : κ) : renameTable π g f (π k) = (f k).map g := by
  rw [renameTable, Equiv.symm_apply_apply]

theorem rename_apply : renameTable π g (e.apply f) = (e.rename π g).apply (renameTable π g f) := by
  cases e with
  | keep => rfl
  | put k a =>
    funext l
    simp only [renameTable, apply, rename, Function.update_apply, Equiv.symm_apply_eq]
    split <;> rfl

omit [DecidableEq κ] in
/-- A table stays as it is if its names and values do. -/
theorem renameTable_eq_self {f : κ → Option α} (h : ∀ k a, f k = some a → π k = k ∧ g a = a) :
    renameTable π g f = f := by
  funext k
  rcases h_find : f k with _ | a
  · rw [renameTable, Option.map_eq_none_iff, Option.eq_none_iff_forall_ne_some]
    intro a h_old
    -- a name that was free cannot have come to stand for anything
    have h_fixed := (h _ a h_old).1
    rw [Equiv.apply_symm_apply] at h_fixed
    rw [← h_fixed, h_find] at h_old
    exact nomatch h_old
  · obtain ⟨h_k, h_a⟩ := h k a h_find
    rw [renameTable, show π.symm k = k from (Equiv.symm_apply_eq π).mpr h_k.symm, h_find,
      Option.map_some, h_a]

omit [DecidableEq κ] in
theorem rename_rename (h_names : ∀ k, π (π k) = k) (h_values : ∀ a, g (g a) = a) :
    (e.rename π g).rename π g = e := by
  cases e with
  | keep => rfl
  | put k a =>
    have h_map : (a.map g).map g = a := by
      rw [Option.map_map, show g ∘ g = id from funext h_values, Option.map_id, id]
    simp only [rename, h_names, h_map]

/-- Two changes of different entries. -/
def Apart : Prop := ∀ k a k' a', e = put k a → e' = put k' a' → k ≠ k'

variable {e e'} in
theorem apply_comm (h : Apart e e') : e.apply (e'.apply f) = e'.apply (e.apply f) := by
  cases e with
  | keep => rfl
  | put k a =>
    cases e' with
    | keep => rfl
    | put k' a' => exact Function.update_comm (h k a k' a' rfl rfl).symm _ _ _

/-- What a change touches is of a kind. -/
def In (e : Edit κ α) (Q : κ → Prop) : Prop := ∀ k a, e = put k a → Q k

omit [DecidableEq κ] in
@[simp] theorem keep_in (Q : κ → Prop) : (keep : Edit κ α).In Q := nofun

omit [DecidableEq κ] in
@[simp] theorem put_in {k : κ} {a : Option α} {Q : κ → Prop} : (put k a).In Q ↔ Q k :=
  ⟨fun h => h k a rfl, by rintro h _ _ ⟨⟩; exact h⟩

variable {e e' π g}

/-- An entry that is not changed. -/
theorem In.apply_of_not {Q : κ → Prop} (h : e.In Q) {l : κ} (h_l : ¬ Q l) : e.apply f l = f l := by
  cases e with
  | keep => rfl
  | put k a =>
    refine Function.update_of_ne ?_ _ _
    rintro rfl
    exact h_l (h _ _ rfl)

omit [DecidableEq κ] in
/-- A change and another under new names, where the names are those of different things. -/
theorem In.apart {Q Q' : κ → Prop} (h : e.In Q) (h' : e'.In Q')
    (h_ne : ∀ k k', Q k → Q' k' → k ≠ π k') : e.Apart (e'.rename π g) := by
  intro k a l b h_put h_rename
  cases e' with
  | keep => exact nomatch h_rename
  | put k' a' =>
    cases h_rename
    exact h_ne k k' (h k a h_put) (h' k' a' rfl)

end Edit

/-! ## Numbers -/

/-- Other numbers for keys, buffers and mappings. -/
structure Renaming where
  key : Equiv.Perm Key
  buffer : Equiv.Perm BufferId
  mapping : Equiv.Perm MappingId

namespace Renaming

variable (ρ : Renaming)

def place : Equiv.Perm (ManagerId × Key) := (Equiv.refl ManagerId).prodCongr ρ.key

def address (a : Address) : Address := { a with mapping := ρ.mapping a.mapping }

def handle (h : Handle) : Handle := { h with registration := h.registration.map ρ.key }

def holding (h : Holding) : Holding := { h with id := ρ.buffer h.id }

def backendMapping (m : BackendMapping) : BackendMapping :=
  { m with address := ρ.address m.address }

def object (o : BufferObject) : BufferObject :=
  { o with id := ρ.buffer o.id, mapping := o.mapping.map ρ.backendMapping }

def systemBuffer (b : SystemBuffer) : SystemBuffer := { b with mapping := b.mapping.map ρ.mapping }

/-- Answers tell addresses, and no other number. -/
def answer : Answer → Answer
  | .locked address previous => .locked (address.map ρ.address) (previous.map ρ.address)
  | a => a

/-! ### Numbers that stay -/

/-- A value that may be there stays as it is. -/
theorem map_eq_self {α : Type} {g : α → α} {x : Option α} (h : ∀ a, x = some a → g a = a) :
    x.map g = x := by
  rcases x with _ | a
  · rfl
  · exact congrArg some (h a rfl)

variable {ρ} in
theorem handle_eq_self {h : Handle} (h_key : ∀ key, h.registration = some key → ρ.key key = key) :
    ρ.handle h = h := by
  rw [handle, map_eq_self h_key]

variable {ρ} in
theorem holding_eq_self {h : Holding} (h_id : ρ.buffer h.id = h.id) : ρ.holding h = h := by
  rw [holding, h_id]

variable {ρ} in
theorem address_eq_self {a : Address} (h_mapping : ρ.mapping a.mapping = a.mapping) :
    ρ.address a = a := by
  rw [address, h_mapping]

variable {ρ} in
theorem object_eq_self {o : BufferObject} (h_id : ρ.buffer o.id = o.id)
    (h_mapping : ∀ mapping, o.mapping = some mapping →
      ρ.mapping mapping.address.mapping = mapping.address.mapping) : ρ.object o = o := by
  have h_same : o.mapping.map ρ.backendMapping = o.mapping := map_eq_self fun mapping h_some => by
    rw [backendMapping, address_eq_self (h_mapping mapping h_some)]
  rw [object, h_id, h_same]

variable {ρ} in
theorem systemBuffer_eq_self {b : SystemBuffer}
    (h_mapping : ∀ mapping, b.mapping = some mapping → ρ.mapping mapping = mapping) :
    ρ.systemBuffer b = b := by
  rw [systemBuffer, map_eq_self h_mapping]

/-! ### Renaming twice -/

/-- The numbers that are exchanged for others are exchanged back. -/
structure Involutive : Prop where
  key : ∀ k, ρ.key (ρ.key k) = k
  buffer : ∀ id, ρ.buffer (ρ.buffer id) = id
  mapping : ∀ id, ρ.mapping (ρ.mapping id) = id

namespace Involutive

variable {ρ} (h : ρ.Involutive)
include h

theorem place (p : ManagerId × Key) : ρ.place (ρ.place p) = p := Prod.ext rfl (h.key p.2)

theorem address (a : Address) : ρ.address (ρ.address a) = a := by
  simp only [Renaming.address, h.mapping]

theorem handle (a : Handle) : ρ.handle (ρ.handle a) = a := by
  simp only [Renaming.handle, Option.map_map, show ρ.key ∘ ρ.key = id from funext h.key,
    Option.map_id, id]

theorem holding (a : Holding) : ρ.holding (ρ.holding a) = a := by
  simp only [Renaming.holding, h.buffer]

theorem backendMapping (a : BackendMapping) : ρ.backendMapping (ρ.backendMapping a) = a := by
  simp only [Renaming.backendMapping, h.address]

theorem object (a : BufferObject) : ρ.object (ρ.object a) = a := by
  simp only [Renaming.object, h.buffer, Option.map_map,
    show ρ.backendMapping ∘ ρ.backendMapping = id from funext h.backendMapping, Option.map_id, id]

theorem systemBuffer (a : SystemBuffer) : ρ.systemBuffer (ρ.systemBuffer a) = a := by
  simp only [Renaming.systemBuffer, Option.map_map,
    show ρ.mapping ∘ ρ.mapping = id from funext h.mapping, Option.map_id, id]

theorem answer (a : Answer) : ρ.answer (ρ.answer a) = a := by
  cases a with
  | locked address previous =>
    simp only [Renaming.answer, Option.map_map,
      show ρ.address ∘ ρ.address = id from funext h.address, Option.map_id, id]
  | _ => rfl

end Involutive

end Renaming

/-- The next numbers. -/
structure Fresh where
  key : Key
  buffer : BufferId
  mapping : MappingId

/-- The numbers below the next ones stay as they are. -/
structure Renaming.Keeps (ρ : Renaming) (f : Fresh) : Prop where
  key : ∀ k, k < f.key → ρ.key k = k
  buffer : ∀ id, id < f.buffer → ρ.buffer id = id
  mapping : ∀ id, id < f.mapping → ρ.mapping id = id

/-! ## Portraits -/

/-- A session up to the order in which its tables list their entries and up to the account of what
    was done. -/
@[ext] structure Portrait where
  handles : Name → Option Handle
  holdings : Name → Option Holding
  managers : List (Option ManagerKind)
  /-- The buffers in the tables of managers by their keys. -/
  entries : ManagerId × Key → Option BufferId
  objects : BufferId → Option BufferObject
  /-- How many references to a buffer have been handed out. -/
  held : BufferId → Nat
  memories : List Memory
  buffers : BufferId → Option SystemBuffer
  mappings : MappingId → Option MemoryMapping
  nextKey : Key
  nextBuffer : BufferId
  nextMapping : MappingId

def Session.portrait (s : Session SystemState) : Portrait where
  handles := s.handles.find?
  holdings := s.holdings.find?
  managers := s.world.managers.map (·.map (·.kind))
  entries := s.world.entryAt
  objects := s.world.objects.find?
  held id := s.world.held.count id
  memories := s.kernel.memories
  buffers := s.world.env.devices.buffers.find?
  mappings := s.kernel.mappings.find?
  nextKey := s.world.nextKey
  nextBuffer := s.world.env.nextBuffer
  nextMapping := s.kernel.nextMapping

namespace Portrait

def fresh (P : Portrait) : Fresh := ⟨P.nextKey, P.nextBuffer, P.nextMapping⟩

/-- The portrait with other numbers for what there is. -/
def rename (ρ : Renaming) (P : Portrait) : Portrait where
  handles := Edit.renameTable (Equiv.refl Name) ρ.handle P.handles
  holdings := Edit.renameTable (Equiv.refl Name) ρ.holding P.holdings
  managers := P.managers
  entries := Edit.renameTable ρ.place ρ.buffer P.entries
  objects := Edit.renameTable ρ.buffer ρ.object P.objects
  held id := P.held (ρ.buffer.symm id)
  memories := P.memories
  buffers := Edit.renameTable ρ.buffer ρ.systemBuffer P.buffers
  mappings := Edit.renameTable ρ.mapping id P.mappings
  nextKey := P.nextKey
  nextBuffer := P.nextBuffer
  nextMapping := P.nextMapping

/-- All numbers in a portrait have been given out. -/
structure Given (P : Portrait) : Prop where
  handles : ∀ {n handle key}, P.handles n = some handle → handle.registration = some key →
    key < P.nextKey
  holdings : ∀ {n holding}, P.holdings n = some holding → holding.id < P.nextBuffer
  entries : ∀ {p id}, P.entries p = some id → p.2 < P.nextKey ∧ id < P.nextBuffer
  objects : ∀ {id o}, P.objects id = some o → o.id = id ∧ id < P.nextBuffer ∧
    ∀ mapping, o.mapping = some mapping → mapping.address.mapping < P.nextMapping
  held : ∀ {id}, P.held id ≠ 0 → id < P.nextBuffer
  buffers : ∀ {id b}, P.buffers id = some b → id < P.nextBuffer ∧
    ∀ mapping, b.mapping = some mapping → mapping < P.nextMapping
  mappings : ∀ {id mapping}, P.mappings id = some mapping → id < P.nextMapping

/-- Other numbers in the place of numbers that have not been given out change nothing. -/
theorem rename_eq_self {ρ : Renaming} {P : Portrait} (h : P.Given) (h_ρ : ρ.Keeps P.fresh) :
    P.rename ρ = P := by
  ext1
  · refine Edit.renameTable_eq_self _ _ fun n handle h_find => ⟨rfl, ?_⟩
    exact Renaming.handle_eq_self fun key h_key => h_ρ.key key (h.handles h_find h_key)
  · refine Edit.renameTable_eq_self _ _ fun o holding h_find => ⟨rfl, ?_⟩
    exact Renaming.holding_eq_self (h_ρ.buffer _ (h.holdings h_find))
  · rfl
  · refine Edit.renameTable_eq_self _ _ fun p id h_find => ?_
    obtain ⟨h_key, h_id⟩ := h.entries h_find
    exact ⟨Prod.ext rfl (h_ρ.key _ h_key), h_ρ.buffer id h_id⟩
  · refine Edit.renameTable_eq_self _ _ fun id o h_find => ?_
    obtain ⟨rfl, h_id, h_mapping⟩ := h.objects h_find
    exact ⟨h_ρ.buffer _ h_id, Renaming.object_eq_self (h_ρ.buffer _ h_id)
      fun mapping h_some => h_ρ.mapping _ (h_mapping mapping h_some)⟩
  · funext id
    have h_stays : ∀ {l}, P.held l ≠ 0 → ρ.buffer l = l :=
      fun h_held => h_ρ.buffer _ (h.held h_held)
    show P.held (ρ.buffer.symm id) = P.held id
    by_cases h_held : P.held (ρ.buffer.symm id) = 0
    · by_cases h_held' : P.held id = 0
      · rw [h_held, h_held']
      · rw [(Equiv.symm_apply_eq _).mpr (h_stays h_held').symm]
    · have h_fixed := h_stays h_held
      rw [Equiv.apply_symm_apply] at h_fixed
      rw [← h_fixed]
  · rfl
  · refine Edit.renameTable_eq_self _ _ fun id b h_find => ?_
    obtain ⟨h_id, h_mapping⟩ := h.buffers h_find
    exact ⟨h_ρ.buffer id h_id, Renaming.systemBuffer_eq_self
      fun mapping h_some => h_ρ.mapping _ (h_mapping mapping h_some)⟩
  · exact Edit.renameTable_eq_self _ _ fun id mapping h_find =>
      ⟨h_ρ.mapping id (h.mappings h_find), rfl⟩
  · rfl
  · rfl
  · rfl

end Portrait

/-! ## Patches -/

/-- What an operation on a handle does to a portrait: one entry of each table at most, and one
    number of each kind at most. -/
structure Patch where
  handle : Edit Name Handle := .keep
  holding : Edit Name Holding := .keep
  entry : Edit (ManagerId × Key) BufferId := .keep
  object : Edit BufferId BufferObject := .keep
  /-- A reference that is handed out. -/
  held : Option BufferId := none
  buffer : Edit BufferId SystemBuffer := .keep
  mapping : Edit MappingId MemoryMapping := .keep
  /-- Whether the next key and the next number of a buffer are used up. -/
  registers : Bool := false
  /-- Whether the next number of a mapping is used up. -/
  maps : Bool := false

namespace Patch

/-- The portrait with the patch. -/
def apply (p : Patch) (P : Portrait) : Portrait where
  handles := p.handle.apply P.handles
  holdings := p.holding.apply P.holdings
  managers := P.managers
  entries := p.entry.apply P.entries
  objects := p.object.apply P.objects
  held id := P.held id + if p.held = some id then 1 else 0
  memories := P.memories
  buffers := p.buffer.apply P.buffers
  mappings := p.mapping.apply P.mappings
  nextKey := P.nextKey + p.registers.toNat
  nextBuffer := P.nextBuffer + p.registers.toNat
  nextMapping := P.nextMapping + p.maps.toNat

/-- The patch with other numbers. -/
def rename (ρ : Renaming) (p : Patch) : Patch where
  handle := p.handle.rename (Equiv.refl Name) ρ.handle
  holding := p.holding.rename (Equiv.refl Name) ρ.holding
  entry := p.entry.rename ρ.place ρ.buffer
  object := p.object.rename ρ.buffer ρ.object
  held := p.held.map ρ.buffer
  buffer := p.buffer.rename ρ.buffer ρ.systemBuffer
  mapping := p.mapping.rename ρ.mapping id
  registers := p.registers
  maps := p.maps

theorem rename_apply (ρ : Renaming) (p : Patch) (P : Portrait) :
    (p.apply P).rename ρ = (p.rename ρ).apply (P.rename ρ) := by
  ext1
  · exact Edit.rename_apply _ _ _ _
  · exact Edit.rename_apply _ _ _ _
  · rfl
  · exact Edit.rename_apply _ _ _ _
  · exact Edit.rename_apply _ _ _ _
  · funext id
    simp only [apply, Portrait.rename, rename, Option.map_eq_some_iff]
    rcases p.held with _ | l
    · simp
    · simp [Equiv.eq_symm_apply]
  · rfl
  · exact Edit.rename_apply _ _ _ _
  · exact Edit.rename_apply _ _ _ _
  · rfl
  · rfl
  · rfl

theorem rename_rename {ρ : Renaming} (h : ρ.Involutive) (p : Patch) :
    (p.rename ρ).rename ρ = p := by
  obtain ⟨handle, holding, entry, object, held, buffer, mapping, registers, maps⟩ := p
  have h_held : (held.map ρ.buffer).map ρ.buffer = held := by
    rw [Option.map_map, show ρ.buffer ∘ ρ.buffer = id from funext h.buffer, Option.map_id, id]
  simp only [rename, h_held,
    handle.rename_rename (Equiv.refl Name) ρ.handle (fun _ => rfl) h.handle,
    holding.rename_rename (Equiv.refl Name) ρ.holding (fun _ => rfl) h.holding,
    entry.rename_rename ρ.place ρ.buffer h.place h.buffer,
    object.rename_rename ρ.buffer ρ.object h.buffer h.object,
    buffer.rename_rename ρ.buffer ρ.systemBuffer h.buffer h.systemBuffer,
    mapping.rename_rename ρ.mapping id h.mapping (fun _ => rfl)]

/-- Two patches of different entries. -/
structure Apart (p q : Patch) : Prop where
  handle : p.handle.Apart q.handle
  holding : p.holding.Apart q.holding
  entry : p.entry.Apart q.entry
  object : p.object.Apart q.object
  buffer : p.buffer.Apart q.buffer
  mapping : p.mapping.Apart q.mapping

theorem Apart.apply_comm {p q : Patch} (h : p.Apart q) (P : Portrait) :
    p.apply (q.apply P) = q.apply (p.apply P) := by
  ext1
  · exact Edit.apply_comm _ h.handle
  · exact Edit.apply_comm _ h.holding
  · rfl
  · exact Edit.apply_comm _ h.entry
  · exact Edit.apply_comm _ h.object
  · funext id
    exact Nat.add_right_comm _ _ _
  · rfl
  · exact Edit.apply_comm _ h.buffer
  · exact Edit.apply_comm _ h.mapping
  · exact Nat.add_right_comm _ _ _
  · exact Nat.add_right_comm _ _ _
  · exact Nat.add_right_comm _ _ _

end Patch

end GraphicsBuffer
