/-
  GraphicsBuffer.Proofs.Handle.Layout

  The bytes of a flattened handle. Every field of a record stands at a fixed place, and a record is
  read from a byte string exactly if the string lays it out. A handle is rebuilt from the strings
  with the header of this library and from no others, and what it keeps of them are the bits that
  its own flattening carries.
-/

import GraphicsBuffer.Proofs.Handle.Wire

namespace GraphicsBuffer

open LittleEndian (wordAt)

/-! ## The places of the fields -/

/-- A byte string lays a record out: its fields follow one another without gaps. -/
structure LaidOut (bytes : List UInt8) (r : WireRecord) : Prop where
  length : bytes.length = 56
  version : wordAt bytes 0 4 = r.version.toNat
  numFds : wordAt bytes 4 4 = r.numFds.toNat
  numInts : wordAt bytes 8 4 = r.numInts.toNat
  magic : wordAt bytes 12 4 = r.magic.toNat
  width : wordAt bytes 16 4 = r.width.toNat
  height : wordAt bytes 20 4 = r.height.toNat
  format : wordAt bytes 24 4 = r.format.toNat
  usage : wordAt bytes 28 4 = r.usage.toNat
  stride : wordAt bytes 32 4 = r.stride.toNat
  owner : wordAt bytes 36 4 = r.owner.toNat
  modifier : wordAt bytes 40 8 = r.modifier.toNat
  data : wordAt bytes 48 8 = r.data.toNat

namespace WireRecord

variable {r r' : WireRecord} {bytes : List UInt8}

/-- A field stands behind the fields before it. -/
theorem wordAt_encode (r : WireRecord) {k offset width n : Nat}
    (h_field : r.fields[k]? = some (width, n)) (h_offset : (widths.take k).sum = offset) :
    wordAt r.encode offset width = n := by
  have h_fits : n < Nat.pow 256 width :=
    r.fields_fit (width, n) (List.mem_of_getElem? h_field)
  have h_before : ((r.fields.take k).map Prod.fst).sum = offset := by
    rw [List.map_take]
    exact h_offset
  have h_fields : r.fields = r.fields.take k ++ (width, n) :: r.fields.drop (k + 1) := by
    obtain ⟨h_lt, h_at⟩ := List.getElem?_eq_some_iff.mp h_field
    rw [← h_at, List.getElem_cons_drop h_lt, List.take_append_drop]
  rw [encode, h_fields, ← h_before]
  exact LittleEndian.wordAt_join h_fits

/-- The bytes of a record lay it out. -/
theorem laidOut_encode (r : WireRecord) : LaidOut r.encode r where
  length := (LittleEndian.length_join r.fields).trans (show widths.sum = 56 by decide)
  version := r.wordAt_encode (k := 0) rfl (by decide)
  numFds := r.wordAt_encode (k := 1) rfl (by decide)
  numInts := r.wordAt_encode (k := 2) rfl (by decide)
  magic := r.wordAt_encode (k := 3) rfl (by decide)
  width := r.wordAt_encode (k := 4) rfl (by decide)
  height := r.wordAt_encode (k := 5) rfl (by decide)
  format := r.wordAt_encode (k := 6) rfl (by decide)
  usage := r.wordAt_encode (k := 7) rfl (by decide)
  stride := r.wordAt_encode (k := 8) rfl (by decide)
  owner := r.wordAt_encode (k := 9) rfl (by decide)
  modifier := r.wordAt_encode (k := 10) rfl (by decide)
  data := r.wordAt_encode (k := 11) rfl (by decide)

/-- A string lays out one record at most. -/
theorem eq_of_laidOut (h : LaidOut bytes r) (h' : LaidOut bytes r') : r = r' := by
  have h_word : ∀ {offset} {a b : UInt32}, wordAt bytes offset 4 = a.toNat →
      wordAt bytes offset 4 = b.toNat → a = b :=
    fun ha hb => UInt32.toNat_inj.mp (ha.symm.trans hb)
  have h_long : ∀ {offset} {a b : UInt64}, wordAt bytes offset 8 = a.toNat →
      wordAt bytes offset 8 = b.toNat → a = b :=
    fun ha hb => UInt64.toNat_inj.mp (ha.symm.trans hb)
  cases r
  cases r'
  rw [mk.injEq]
  exact ⟨h_word h.version h'.version, h_word h.numFds h'.numFds, h_word h.numInts h'.numInts,
    h_word h.magic h'.magic, h_word h.width h'.width, h_word h.height h'.height,
    h_word h.format h'.format, h_word h.usage h'.usage, h_word h.stride h'.stride,
    h_word h.owner h'.owner, h_long h.modifier h'.modifier, h_long h.data h'.data⟩

/-- A record that is read has the bytes that it was read from. -/
theorem encode_of_decode? (h_decode : decode? bytes = some r) : r.encode = bytes := by
  obtain ⟨ns, h_split, h_numbers⟩ := Option.bind_eq_some_iff.mp h_decode
  obtain ⟨-, h_join, h_fit⟩ := LittleEndian.split_eq_some h_split
  unfold ofNumbers at h_numbers
  split at h_numbers
  next =>
    obtain rfl := Option.some.inj h_numbers
    simp only [widths, List.zip_cons_cons, List.zip_nil_right, List.forall_mem_cons] at h_fit h_join
    obtain ⟨h0, h1, h2, h3, h4, h5, h6, h7, h8, h9, h10, h11, -⟩ := h_fit
    -- a number that fits survives being kept in a word
    simp only [encode, fields, UInt32.toNat_ofNat_of_lt' h0, UInt32.toNat_ofNat_of_lt' h1,
      UInt32.toNat_ofNat_of_lt' h2, UInt32.toNat_ofNat_of_lt' h3, UInt32.toNat_ofNat_of_lt' h4,
      UInt32.toNat_ofNat_of_lt' h5, UInt32.toNat_ofNat_of_lt' h6, UInt32.toNat_ofNat_of_lt' h7,
      UInt32.toNat_ofNat_of_lt' h8, UInt32.toNat_ofNat_of_lt' h9,
      UInt64.toNat_ofNat_of_lt' h10, UInt64.toNat_ofNat_of_lt' h11, h_join]
  · cases h_numbers

/-- A record has as many words as it has fields. -/
theorem exists_ofNumbers {ns : List Nat} (h_length : ns.length = widths.length) :
    ∃ r, ofNumbers ns = some r := by
  match ns, h_length with
  | [_, _, _, _, _, _, _, _, _, _, _, _], _ => exact ⟨_, rfl⟩

/-- Only the length decides whether a record is read. -/
theorem decode?_eq_none_iff : decode? bytes = none ↔ bytes.length ≠ 56 := by
  rw [decode?]
  rcases h_split : LittleEndian.split widths bytes with _ | ns
  · have h_length := LittleEndian.split_eq_none_iff.mp h_split
    exact ⟨fun _ => h_length, fun _ => rfl⟩
  · obtain ⟨r, h_numbers⟩ := exists_ofNumbers (LittleEndian.split_eq_some h_split).1
    have h_length : ¬bytes.length ≠ 56 := by
      intro h_length
      cases h_split.symm.trans (LittleEndian.split_eq_none_iff.mpr h_length)
    rw [Option.bind_some, h_numbers]
    refine ⟨?_, fun h => absurd h h_length⟩
    rintro ⟨⟩

/-- A record is read from the strings that lay it out and from no others. -/
theorem decode?_eq_some_iff : decode? bytes = some r ↔ LaidOut bytes r := by
  constructor
  · intro h_decode
    exact encode_of_decode? h_decode ▸ r.laidOut_encode
  · intro h_laid
    -- the string is long enough for some record to be read, and it lays out just one
    rcases h_decode : decode? bytes with _ | r'
    · exact absurd h_laid.length (decode?_eq_none_iff.mp h_decode)
    · rw [eq_of_laidOut h_laid (encode_of_decode? h_decode ▸ r'.laidOut_encode)]

/-! ## What a handle keeps of a record -/

/-- The record with every bit that a flattened handle can carry. -/
def full : WireRecord :=
  { version := 0xffffffff, numFds := 0xffffffff, numInts := 0xffffffff, magic := 0xffffffff,
    width := 0xffffffff, height := 0xffffffff, format := 0xffffffff, usage := 0xf037ffff,
    stride := 0xffffffff, owner := 0, modifier := 0xffffffffffffffff, data := 0 }

/-- The bits that two records share. -/
def meet (r mask : WireRecord) : WireRecord :=
  { version := r.version &&& mask.version, numFds := r.numFds &&& mask.numFds,
    numInts := r.numInts &&& mask.numInts, magic := r.magic &&& mask.magic,
    width := r.width &&& mask.width, height := r.height &&& mask.height,
    format := r.format &&& mask.format, usage := r.usage &&& mask.usage,
    stride := r.stride &&& mask.stride, owner := r.owner &&& mask.owner,
    modifier := r.modifier &&& mask.modifier, data := r.data &&& mask.data }

/-- The bytes of the shared bits are the shared bits of the bytes. -/
theorem encode_meet (r mask : WireRecord) :
    (r.meet mask).encode = List.zipWith (· &&& ·) r.encode mask.encode := by
  have h_widths : r.fields.map Prod.fst = mask.fields.map Prod.fst := rfl
  rw [encode, encode, encode, LittleEndian.zipWith_and_join h_widths]
  simp only [fields, meet, List.zipWith_cons_cons, List.zipWith_nil_left, UInt32.toNat_and,
    UInt64.toNat_and]

/-- What a flattened handle can carry of a record is all but the owner, the data and the usage
    bits without a meaning. -/
theorem meet_full (r : WireRecord) :
    r.meet full = { r with usage := r.usage &&& 0xf037ffff, owner := 0, data := 0 } := by
  have h_word : ∀ w : UInt32, w &&& 0xffffffff = w := fun w => UInt32.and_neg_one
  have h_long : ∀ w : UInt64, w &&& 0xffffffffffffffff = w := fun w => UInt64.and_neg_one
  simp only [meet, full, h_word, h_long, UInt32.and_zero, UInt64.and_zero]

end WireRecord

/-- The bits of a byte string that a flattened handle can carry: all but those of the owner, of
    the data, and of the usage bits without a meaning. -/
def carriedBits : List UInt8 :=
  List.replicate 28 0xff ++ [0xff, 0xff, 0x37, 0xf0] ++ List.replicate 4 0xff ++
    List.replicate 4 0 ++ List.replicate 8 0xff ++ List.replicate 8 0

/-- What is left of a byte string without the owner, the data and the usage bits that have no
    meaning. -/
def carried (bytes : List UInt8) : List UInt8 := List.zipWith (· &&& ·) bytes carriedBits

theorem carried_encode (r : WireRecord) : carried r.encode = (r.meet WireRecord.full).encode := by
  have h_bits : carriedBits = WireRecord.full.encode := by decide
  rw [carried, h_bits, WireRecord.encode_meet]

/-! ## Rebuilding handles -/

/-- The byte strings that handles are rebuilt from: as long as a record, with the header and the
    magic word of this library. -/
structure WellFormed (bytes : List UInt8) : Prop where
  length : bytes.length = 56
  version : wordAt bytes 0 4 = 12
  numFds : wordAt bytes 4 4 = 1
  numInts : wordAt bytes 8 4 = 11
  magic : wordAt bytes 12 4 = 0x5f47424d

namespace Handle

variable {bytes bytes' : List UInt8} {descriptor : Option Descriptor} {r : WireRecord} {h : Handle}

/-- The checks of a record are those of the bytes that lay it out. -/
theorem wellFormed_iff (h_laid : LaidOut bytes r) :
    WellFormed bytes ↔ r.magic = WireRecord.magicWord ∧ r.headerOk = true := by
  have h_word : ∀ {offset} {a : UInt32} (b : UInt32), wordAt bytes offset 4 = a.toNat →
      (wordAt bytes offset 4 = b.toNat ↔ a = b) := by
    intro offset a b h_at
    rw [h_at, UInt32.toNat_inj]
  have h_magic := h_word WireRecord.magicWord h_laid.magic
  have h_version := h_word WireRecord.headerSize h_laid.version
  have h_numFds := h_word WireRecord.descriptorCount h_laid.numFds
  have h_numInts := h_word WireRecord.wordCount h_laid.numInts
  simp only [WireRecord.headerOk, Bool.and_eq_true, decide_eq_true_eq]
  constructor
  · intro h_formed
    exact ⟨h_magic.mp h_formed.magic,
      ⟨h_version.mp h_formed.version, h_numFds.mp h_formed.numFds⟩,
      h_numInts.mp h_formed.numInts⟩
  · rintro ⟨h_r, ⟨h_r0, h_r1⟩, h_r2⟩
    exact ⟨h_laid.length, h_version.mpr h_r0, h_numFds.mpr h_r1, h_numInts.mpr h_r2,
      h_magic.mpr h_r⟩

/-- A string of another length than a record is refused for it. -/
theorem ofWire_of_length (h_length : bytes.length ≠ 56) :
    ofWire bytes descriptor = .error (.invalidHandle .wrongSize) := by
  rw [ofWire, WireRecord.decode?_eq_none_iff.mpr h_length]

/-- A string as long as a record lays one out. -/
theorem exists_laidOut (h_length : bytes.length = 56) : ∃ r : WireRecord, LaidOut bytes r := by
  rcases h_decode : WireRecord.decode? bytes with _ | r
  · exact absurd h_length (WireRecord.decode?_eq_none_iff.mp h_decode)
  · exact ⟨r, WireRecord.decode?_eq_some_iff.mp h_decode⟩

/-- A string without the magic word is refused for it if it has the length of a record. -/
theorem ofWire_of_magic (h_length : bytes.length = 56) (h_magic : wordAt bytes 12 4 ≠ 0x5f47424d) :
    ofWire bytes descriptor = .error (.invalidHandle .badMagic) := by
  obtain ⟨r, h_laid⟩ := exists_laidOut h_length
  have h_ne : r.magic ≠ WireRecord.magicWord := by
    intro h_eq
    rw [h_laid.magic, h_eq] at h_magic
    exact h_magic rfl
  simp only [ofWire, WireRecord.decode?_eq_some_iff.mpr h_laid, if_pos h_ne]

/-- What is left to refuse is the rest of the header. -/
theorem ofWire_of_header (h_length : bytes.length = 56) (h_magic : wordAt bytes 12 4 = 0x5f47424d)
    (h_formed : ¬WellFormed bytes) :
    ofWire bytes descriptor = .error (.invalidHandle .badLayout) := by
  obtain ⟨r, h_laid⟩ := exists_laidOut h_length
  have h_eq : r.magic = WireRecord.magicWord :=
    UInt32.toNat_inj.mp (h_laid.magic.symm.trans h_magic)
  have h_header : ¬r.headerOk = true := fun h => h_formed ((wellFormed_iff h_laid).mpr ⟨h_eq, h⟩)
  simp only [ofWire, WireRecord.decode?_eq_some_iff.mpr h_laid, h_eq, ne_eq, not_true_eq_false,
    if_false, if_neg h_header]

/-- A well-formed string gives the handle of the record that it lays out. -/
theorem ofWire_of_wellFormed (h_laid : LaidOut bytes r) (h_formed : WellFormed bytes) :
    ofWire bytes descriptor = .ok (ofRecord r descriptor) := by
  obtain ⟨h_magic, h_header⟩ := (wellFormed_iff h_laid).mp h_formed
  simp only [ofWire, WireRecord.decode?_eq_some_iff.mpr h_laid, h_magic, ne_eq, not_true_eq_false,
    if_false, if_pos h_header]

/-- A handle that is rebuilt is that of the record that a well-formed string lays out. -/
theorem of_ofWire (h_accepted : ofWire bytes descriptor = .ok h) :
    WellFormed bytes ∧ ∃ r, LaidOut bytes r ∧ h = ofRecord r descriptor := by
  by_cases h_length : bytes.length = 56
  · by_cases h_magic : wordAt bytes 12 4 = 0x5f47424d
    · by_cases h_formed : WellFormed bytes
      · obtain ⟨r, h_laid⟩ := exists_laidOut h_length
        rw [ofWire_of_wellFormed h_laid h_formed] at h_accepted
        exact ⟨h_formed, r, h_laid, (Except.ok.inj h_accepted).symm⟩
      · exact nomatch (ofWire_of_header h_length h_magic h_formed).symm.trans h_accepted
    · exact nomatch (ofWire_of_magic h_length h_magic).symm.trans h_accepted
  · exact nomatch (ofWire_of_length h_length).symm.trans h_accepted

/-- The flattened form of a handle that was rebuilt is what the bytes carried. -/
theorem encode_of_ofWire (h_accepted : ofWire bytes descriptor = .ok h) :
    h.toWire.encode = carried bytes := by
  obtain ⟨h_formed, r, h_laid, rfl⟩ := of_ofWire h_accepted
  obtain ⟨h_magic, h_header⟩ := (wellFormed_iff h_laid).mp h_formed
  simp only [WireRecord.headerOk, Bool.and_eq_true, decide_eq_true_eq] at h_header
  obtain ⟨⟨h_version, h_numFds⟩, h_numInts⟩ := h_header
  have h_bytes : r.encode = bytes :=
    WireRecord.encode_of_decode? (WireRecord.decode?_eq_some_iff.mpr h_laid)
  rw [← h_bytes, carried_encode, WireRecord.meet_full]
  simp only [toWire, ofRecord, FlagSet.bits_ofRaw, h_version, h_numFds, h_numInts, h_magic]

/-- A handle is rebuilt from what the bytes carry. -/
theorem ofWire_carried (h_length : bytes.length = 56) :
    ofWire (carried bytes) descriptor = ofWire bytes descriptor := by
  obtain ⟨r, h_laid⟩ := exists_laidOut h_length
  have h_decode := WireRecord.decode?_eq_some_iff.mpr h_laid
  -- the checks do not look at what is lost, and rebuilding drops it anyway
  have h_magic : (r.meet WireRecord.full).magic = r.magic := by rw [WireRecord.meet_full]
  have h_header : (r.meet WireRecord.full).headerOk = r.headerOk := by
    rw [WireRecord.meet_full]
    rfl
  have h_record : ofRecord (r.meet WireRecord.full) descriptor = ofRecord r descriptor := by
    have h_usage : (FlagSet.ofRaw (r.usage &&& 0xf037ffff) : Usage) = .ofRaw r.usage :=
      FlagSet.ext_bits (FlagSet.and_known_idem r.usage 0xf037ffff)
    rw [WireRecord.meet_full, ofRecord, ofRecord, h_usage]
  rw [ofWire, ofWire, h_decode, ← WireRecord.encode_of_decode? h_decode, carried_encode,
    WireRecord.decode?_encode]
  simp only [h_magic, h_header, h_record]

/-- Strings that carry the same give the same, be it a handle or a refusal. -/
theorem ofWire_congr (h_length : bytes.length = bytes'.length)
    (h_carried : carried bytes = carried bytes') :
    ofWire bytes descriptor = ofWire bytes' descriptor := by
  by_cases h_whole : bytes.length = 56
  · rw [← ofWire_carried h_whole, h_carried, ofWire_carried (h_length ▸ h_whole)]
  · rw [ofWire_of_length h_whole, ofWire_of_length (h_length ▸ h_whole)]

end Handle

end GraphicsBuffer
