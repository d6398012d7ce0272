/-
  GraphicsBuffer.Proofs.Handle.RoundTrip

  Flattening and rebuilding. A handle is rebuilt from its bytes field by field, registered nowhere,
  which is what duplicating it gives; and bytes that a handle is rebuilt from are what flattening
  the handle gives, but for the owner, the data and the usage bits without a meaning.
-/

import GraphicsBuffer.Proofs.Handle.Layout

namespace GraphicsBuffer

/-- A duplicate of a descriptor, or none if there is none. -/
def duplicateOf : Option Descriptor → Except IoFault (Option Descriptor)
  | none => .ok none
  | some d => (Kernel.duplicate d).map some

namespace Handle

/-- Rebuilding a handle from its bytes and a duplicate of its descriptor duplicates the handle. -/
theorem duplicate_eq (h : Handle) :
    h.duplicate =
      match duplicateOf h.descriptor with
      | .error e => .error (.io e)
      | .ok d => ofWire h.toWire.encode d := by
  simp only [duplicate, ofWire_toWire]
  rcases h.descriptor with _ | d
  · rfl
  · simp only [duplicateOf]
    rcases Kernel.duplicate d with e | d' <;> rfl

/-- The bytes of a handle hold its fields, the constants of this library, and zeros for owner and
    data; with any descriptor they give the handle again, registered nowhere. Duplicating a handle
    is the same as sending the bytes with a duplicate of its descriptor, also where there is none to
    be had. Any bytes that give the handle are its own bytes but for what a handle does not keep,
    and its own bytes give it again. -/
theorem flattening_round_trip (h : Handle) :
    LaidOut h.toWire.encode
        { version := 12, numFds := 1, numInts := 11, magic := 0x5f47424d, width := h.width,
          height := h.height, format := h.format.code, usage := h.usage.bits, stride := h.stride,
          owner := 0, modifier := h.modifierWord, data := 0 } ∧
      (∀ d, ofWire h.toWire.encode d = .ok { h with descriptor := d, registration := none }) ∧
      (h.duplicate =
        match duplicateOf h.descriptor with
        | .error e => .error (.io e)
        | .ok d => ofWire h.toWire.encode d) ∧
      ∀ bytes d, ofWire bytes d = .ok h →
        h.toWire.encode = carried bytes ∧ ofWire h.toWire.encode d = .ok h := by
  refine ⟨h.toWire.laidOut_encode, h.ofWire_toWire, h.duplicate_eq, ?_⟩
  intro bytes d h_accepted
  obtain ⟨h_formed, -⟩ := of_ofWire h_accepted
  have h_carried := encode_of_ofWire h_accepted
  refine ⟨h_carried, ?_⟩
  rw [h_carried, ofWire_carried h_formed.length, h_accepted]

/-- Bytes with an owner, a key and a usage bit that has no meaning. -/
def foreignRecord : WireRecord :=
  { version := 12, numFds := 1, numInts := 11, magic := 0x5f47424d, width := 16, height := 8,
    format := 1, usage := 0x00080033, stride := 64, owner := 4242, modifier := 7, data := 1 }

theorem flattening_round_trip_foreign :
    ofWire foreignRecord.encode (some .nullDevice) =
        .ok (ofRecord foreignRecord (some .nullDevice)) ∧
      (ofRecord foreignRecord (some .nullDevice)).toWire.encode = carried foreignRecord.encode ∧
      carried foreignRecord.encode ≠ foreignRecord.encode ∧
      ofWire (carried foreignRecord.encode) (some .nullDevice) =
        .ok (ofRecord foreignRecord (some .nullDevice)) := by
  have h_accepted : ofWire foreignRecord.encode (some .nullDevice) =
      .ok (ofRecord foreignRecord (some .nullDevice)) := by rfl
  obtain ⟨-, -, -, h_back⟩ := flattening_round_trip (ofRecord foreignRecord (some .nullDevice))
  obtain ⟨h_carried, h_again⟩ := h_back _ _ h_accepted
  exact ⟨h_accepted, h_carried, by decide, h_carried ▸ h_again⟩

end Handle

end GraphicsBuffer
