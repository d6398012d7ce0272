/-
  GraphicsBuffer.Proofs.Handle.Wire

  Handles on their way. The bytes of a record are read back as the record, and the handle that is
  rebuilt from a flattened one has its fields, whatever they are; it is registered nowhere.
-/

import GraphicsBuffer.Handle.Wire
import GraphicsBuffer.Proofs.LittleEndian

namespace GraphicsBuffer

/-! ## Records -/

namespace WireRecord

variable (r : WireRecord)

/-- Every field fits its width. -/
theorem fields_fit : ∀ p ∈ r.fields, p.2 < Nat.pow 256 p.1 := by
  intro p h_mem
  simp only [fields, List.mem_cons, List.not_mem_nil, or_false] at h_mem
  -- the widths are those of the words: four bytes for all but the last two
  rcases h_mem with rfl | rfl | rfl | rfl | rfl | rfl | rfl | rfl | rfl | rfl | rfl | rfl
  all_goals first | exact UInt32.toNat_lt _ | exact UInt64.toNat_lt _

/-- The record is read back from its bytes. -/
theorem decode?_encode : decode? r.encode = some r := by
  have h_split : LittleEndian.split widths r.encode = some (r.fields.map Prod.snd) :=
    LittleEndian.split_join r.fields_fit
  rw [decode?, h_split, Option.bind_some]
  simp only [fields, List.map_cons, List.map_nil, ofNumbers, UInt32.ofNat_toNat,
    UInt64.ofNat_toNat]

end WireRecord

/-! ## Handles -/

namespace Handle

/-- The handle that is rebuilt from the bytes of a handle has its fields. -/
theorem ofWire_toWire (h : Handle) (descriptor : Option Descriptor) :
    ofWire h.toWire.encode descriptor = .ok { h with descriptor, registration := none } := by
  rw [ofWire, WireRecord.decode?_encode]
  simp only [toWire, ne_eq, not_true_eq_false, if_false, WireRecord.headerOk, decide_true,
    Bool.and_self, if_true, ofRecord, FlagSet.ofRaw_bits]

end Handle

end GraphicsBuffer
