/-
  GraphicsBuffer.Handle.Wire

  The flattened form of a handle: a record of fourteen little-endian words, 56 bytes, that is sent
  to other processes together with one descriptor. A header counts the descriptors and the words
  that follow it. The registration of the sender is never sent and never read.
-/

import GraphicsBuffer.Handle
import GraphicsBuffer.LittleEndian

namespace GraphicsBuffer

/-! ## The record -/

/-- A flattened handle without its descriptor. -/
structure WireRecord where
  version : UInt32
  numFds : UInt32
  numInts : UInt32
  magic : UInt32
  width : UInt32
  height : UInt32
  format : UInt32
  usage : UInt32
  stride : UInt32
  owner : UInt32
  modifier : UInt64
  data : UInt64
deriving DecidableEq

namespace WireRecord

/-- Marks the handles of this library. -/
def magicWord : UInt32 := 0x5f47424d

/-- The length of the header in bytes, which is also its version. -/
def headerSize : UInt32 := 12

/-- How many descriptors go with a record. -/
def descriptorCount : UInt32 := 1

/-- How many words follow the header. -/
def wordCount : UInt32 := 11

/-- The record with every field zero. -/
def zero : WireRecord := ⟨0, 0, 0, 0, 0, 0, 0, 0, 0, 0, 0, 0⟩

/-- The fields in order, each with its width in bytes. -/
def fields (r : WireRecord) : List (Nat × Nat) :=
  [(4, r.version.toNat), (4, r.numFds.toNat), (4, r.numInts.toNat), (4, r.magic.toNat),
   (4, r.width.toNat), (4, r.height.toNat), (4, r.format.toNat), (4, r.usage.toNat),
   (4, r.stride.toNat), (4, r.owner.toNat), (8, r.modifier.toNat), (8, r.data.toNat)]

/-- The widths of the fields. -/
def widths : List Nat := [4, 4, 4, 4, 4, 4, 4, 4, 4, 4, 8, 8]

/-- The record whose fields have these values. -/
def ofNumbers : List Nat → Option WireRecord
  | [version, numFds, numInts, magic, width, height, format, usage, stride, owner, modifier,
      data] =>
    some ⟨.ofNat version, .ofNat numFds, .ofNat numInts, .ofNat magic, .ofNat width,
      .ofNat height, .ofNat format, .ofNat usage, .ofNat stride, .ofNat owner, .ofNat modifier,
      .ofNat data⟩
  | _ => none

/-- The bytes of a record. -/
def encode (r : WireRecord) : List UInt8 := LittleEndian.join r.fields

/-- Reads a record from exactly as many bytes as it has. -/
def decode? (bytes : List UInt8) : Option WireRecord :=
  (LittleEndian.split widths bytes).bind ofNumbers

/-- Whether the header is the one that every record of this library has. -/
def headerOk (r : WireRecord) : Bool :=
  r.version = headerSize && r.numFds = descriptorCount && r.numInts = wordCount

/-- A word read as a signed number, as messages show the owner. -/
def signed (w : UInt32) : Int := w.toInt32.toInt

/-- A record as messages show it. -/
def describe (r : WireRecord) : String :=
  "GrallocHandleWire \x7b " ++
    s!"version: {r.version}, num_fds: {r.numFds}, num_ints: {r.numInts}, magic: {r.magic}, " ++
    s!"width: {r.width}, height: {r.height}, format: {r.format}, usage: {r.usage}, " ++
    s!"stride: {r.stride}, data_owner: {signed r.owner}, modifier: {r.modifier}, " ++
    s!"data: {r.data} \x7d"

end WireRecord

/-! ## Flattening and rebuilding handles -/

namespace Handle

/-- The record of a handle. Owner and data stay zero: they mean nothing elsewhere. -/
def toWire (h : Handle) : WireRecord :=
  { version := WireRecord.headerSize, numFds := WireRecord.descriptorCount,
    numInts := WireRecord.wordCount, magic := WireRecord.magicWord,
    width := h.width, height := h.height, format := h.format.code, usage := h.usage.bits,
    stride := h.stride, owner := 0, modifier := h.modifierWord, data := 0 }

/-- The handle that a record describes. Usage bits without a meaning are dropped, and the handle
    is registered nowhere, whatever the owner and data of the record. -/
def ofRecord (r : WireRecord) (descriptor : Option Descriptor) : Handle :=
  { width := r.width, height := r.height, format := ⟨r.format⟩, usage := .ofRaw r.usage,
    stride := r.stride, modifierWord := r.modifier, descriptor, registration := none }

/-- Rebuilds a handle from bytes and the descriptor that came with them. The size is checked
    first, then the magic word, then the rest of the header. -/
def ofWire (bytes : List UInt8) (descriptor : Option Descriptor) : Except Error Handle :=
  match WireRecord.decode? bytes with
  | none => .error (.invalidHandle .wrongSize)
  | some r =>
    if r.magic ≠ WireRecord.magicWord then .error (.invalidHandle .badMagic)
    else if r.headerOk then .ok (ofRecord r descriptor)
    else .error (.invalidHandle .badLayout)

end Handle

end GraphicsBuffer
