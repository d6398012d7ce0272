/-
  GraphicsBuffer.Kernel

  What the operating system keeps for the buffers of a process: shared memories, the descriptors
  that refer to them, and the mappings through which the process reads and writes them.

  A descriptor is described by what it refers to, since duplicates of one descriptor behave alike.
  A memory is a size and a byte at every offset; all descriptors and mappings of it share them.
-/

import GraphicsBuffer.Arithmetic
import GraphicsBuffer.Page
import GraphicsBuffer.Table
import GraphicsBuffer.Usage

namespace GraphicsBuffer

variable [PageSize]

/-! ## Memories and descriptors -/

/-- Identifies a shared memory. -/
abbrev MemoryId := Nat

/-- A shared memory: the name it was made under, its size in bytes, whether it refuses mappings
    that can write, and its bytes. -/
structure Memory where
  name : List UInt8
  size : Nat
  writeSealed : Bool
  contents : Nat → UInt8

namespace Memory

/-- The bytes from `offset` on. -/
def read (m : Memory) (offset count : Nat) : List UInt8 :=
  (List.range count).map fun i => m.contents (offset + i)

/-- Puts bytes at `offset` and leaves all others as they are. -/
def write (m : Memory) (offset : Nat) (bytes : List UInt8) : Memory :=
  { m with
    contents := fun i =>
      if offset ≤ i then (bytes[i - offset]?).getD (m.contents i) else m.contents i }

/-- The bytes that a mapping of this length gives access to. -/
def room (m : Memory) (length : Nat) : Nat := min length (Page.ceil m.size)

/-- The seals of a memory as the system numbers them. -/
def seals (m : Memory) : Nat := if m.writeSealed then 8 else 0

/-- The name under which the system shows a memory. -/
def link (m : Memory) : List UInt8 :=
  "/memfd:".toUTF8.toList ++ m.name ++ " (deleted)".toUTF8.toList

end Memory

/-- A descriptor, by what it refers to. -/
inductive Descriptor where
  /-- A shared memory. -/
  | memory (id : MemoryId)
  /-- The null device, open for reading. -/
  | nullDevice
  /-- The reading end of a pipe. -/
  | pipe
  /-- A number that refers to nothing. -/
  | closed
deriving DecidableEq

/-! ## Mappings and addresses -/

/-- Identifies a mapping of the process; no two mappings share it. -/
abbrev MappingId := Nat

/-- A live mapping of a memory, from its first byte on. -/
structure MemoryMapping where
  memory : MemoryId
  length : Nat
  access : Access

/-- A place in the process's memory: a mapping and an offset in it. Mappings start at a page
    boundary. -/
structure Address where
  mapping : MappingId
  offset : Nat
deriving DecidableEq

/-- The distance of an address from the page boundary below it. -/
def Address.inPage (a : Address) : Nat := a.offset % Page.size

/-- All memories there are and all mappings of this process. -/
structure Kernel where
  memories : List Memory := []
  mappings : Table MappingId MemoryMapping := ∅
  nextMapping : MappingId := 1

namespace Kernel

/-! ## Making memories -/

/-- The longest name that a memory can have. -/
def maxNameLength : Nat := 249

/-- Memory of a given size, all zero. -/
def addMemory (k : Kernel) (name : List UInt8) (size : Nat) (writeSealed : Bool) :
    MemoryId × Kernel :=
  (k.memories.length, { k with memories := k.memories ++ [⟨name, size, writeSealed, fun _ => 0⟩] })

/-- The position of the first zero byte of a name. -/
def zeroByte? (name : List UInt8) : Option Nat := name.findIdx? (· = 0)

/-- Makes a named memory. The name holds no zero byte and is not too long, and the size fits a
    signed 64-bit number; of several faults the first named is reported. -/
def createMemory (k : Kernel) (name : List UInt8) (size : Nat) : Except Error (MemoryId × Kernel) :=
  match zeroByte? name with
  | some position => .error (.zeroByte position)
  | none =>
    if maxNameLength < name.length then .error (.system .invalid)
    else
      match Arithmetic.signed64 size with
      | .error e => .error e
      | .ok size => .ok (k.addMemory name size false)

/-! ## Descriptors -/

/-- The memory behind a descriptor. -/
def memory? (k : Kernel) : Descriptor → Option Memory
  | .memory id => k.memories[id]?
  | _ => none

/-- A second descriptor for the same thing; a number that is not open has none. -/
def duplicate : Descriptor → Except IoFault Descriptor
  | .closed => .error (.system .badDescriptor)
  | d => .ok d

/-- The size that seeking to the end finds. The null device is empty and a pipe has no end. -/
def endOf (k : Kernel) : Descriptor → Except IoFault Nat
  | .memory id =>
    match k.memories[id]? with
    | some m => .ok m.size
    | none => .error (.system .badDescriptor)
  | .nullDevice => .ok 0
  | .pipe => .error (.system .illegalSeek)
  | .closed => .error (.system .badDescriptor)

/-! ## Mappings -/

/-- No mapping is as long as this. -/
def mappingLimit : Nat := 0x800000000000

/-- Why a mapping that asks for some access and some bytes is refused, or the memory that it
    maps. -/
def mappable (k : Kernel) (d : Descriptor) (length : Nat) (access : Access) :
    Except Errno MemoryId :=
  match d with
  | .closed => .error .badDescriptor
  -- neither can be mapped, but the length and the access are looked at before that
  | .nullDevice | .pipe =>
    if mappingLimit ≤ length then .error .outOfMemory
    else if Access.write ⊆ access then .error .accessDenied
    else .error .noDevice
  | .memory id =>
    match k.memories[id]? with
    | none => .error .badDescriptor
    | some m =>
      if mappingLimit ≤ length then .error .outOfMemory
      else if m.writeSealed && Access.write ⊆ access then .error .notPermitted
      else .ok id

/-- Maps the first `length` bytes behind a descriptor. -/
def map (k : Kernel) (d : Descriptor) (length : Nat) (access : Access) :
    Except Error (MappingId × Kernel) :=
  if access = ∅ then .error (.invalidMapping .noAccess)
  else if length = 0 then .error (.invalidMapping .zeroSize)
  else
    match k.mappable d length access with
    | .error e => .error (.system e)
    | .ok memory =>
      .ok (k.nextMapping,
        { k with
          mappings := k.mappings.insert k.nextMapping ⟨memory, length, access⟩
          nextMapping := k.nextMapping + 1 })

/-- Takes a mapping away. -/
def unmap (k : Kernel) (id : MappingId) : Kernel := { k with mappings := k.mappings.erase id }

/-- A range of addresses cannot be unmapped if it starts inside a page or is empty. -/
def unmapRefused (address length : Nat) : Bool := address % Page.size ≠ 0 || length = 0

/-! ## Reading and writing -/

/-- The live mapping at an address and the memory behind it. -/
def reach? (k : Kernel) (a : Address) : Option (MemoryMapping × Memory) := do
  let mapping ← k.mappings.find? a.mapping
  let memory ← k.memories[mapping.memory]?
  return (mapping, memory)

/-- Why memory at an address cannot be touched. -/
inductive Untouchable where
  | notMapped
  | noAccess
  | outOfRange
deriving DecidableEq

/-- The mapping and the memory behind an address, if `count` bytes from `offset` past the address
    can be touched in a given way. -/
def touchable (k : Kernel) (a : Address) (access : Access) (offset count : Nat) :
    Except Untouchable (MemoryMapping × Memory) :=
  match k.reach? a with
  | none => .error .notMapped
  | some (mapping, memory) =>
    if !decide (access ⊆ mapping.access) then .error .noAccess
    else if memory.room mapping.length - a.offset < offset + count then .error .outOfRange
    else .ok (mapping, memory)

/-- The bytes from `offset` past an address on. -/
def load (k : Kernel) (a : Address) (offset count : Nat) : Except Untouchable (List UInt8) :=
  (k.touchable a Access.read offset count).map fun (_, memory) =>
    memory.read (a.offset + offset) count

/-- Puts bytes at `offset` past an address. -/
def store (k : Kernel) (a : Address) (offset : Nat) (bytes : List UInt8) :
    Except Untouchable Kernel :=
  (k.touchable a Access.write offset bytes.length).map fun (mapping, memory) =>
    { k with
      memories := k.memories.set mapping.memory (memory.write (a.offset + offset) bytes) }

end Kernel

end GraphicsBuffer
