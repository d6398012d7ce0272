/-
  GraphicsBuffer.Proofs.Backend.Raster

  Pixels in the memory of a buffer. Rows follow each other at the distance of the stride, and in a
  row the pixels do; so what lies between the starts of two pixels depends on their difference
  alone, and pixels that fit their rows do not overlap. A buffer is mapped for a region if the
  region ends inside it, and the mapping starts at the region's first pixel (`map_region`).
-/

import GraphicsBuffer.Proofs.Backend.Construction

namespace GraphicsBuffer

/-! ## Pixels -/

/-- A pixel, by its column and its row. -/
structure Pixel where
  x : Nat
  y : Nat
deriving DecidableEq

/-- A pixel lies in an image. -/
structure Extent.Has (e : Extent) (p : Pixel) : Prop where
  column : p.x < e.width.toNat
  row : p.y < e.height.toNat

namespace Rect

variable {r : Rect} {e : Extent} {p : Pixel}

/-- A pixel lies in a region. -/
structure Has (r : Rect) (p : Pixel) : Prop where
  left : r.x.toNat ≤ p.x
  right : p.x < r.x.toNat + r.width.toNat
  top : r.y.toNat ≤ p.y
  bottom : p.y < r.y.toNat + r.height.toNat

/-- A region ends inside an image. -/
structure EndsIn (r : Rect) (e : Extent) : Prop where
  right : r.x.toNat + r.width.toNat ≤ e.width.toNat
  bottom : r.y.toNat + r.height.toNat ≤ e.height.toNat

/-- The first pixel of a region. A region without pixels has a place for it all the same. -/
def origin (r : Rect) : Pixel := ⟨r.x.toNat, r.y.toNat⟩

/-- The first pixel of a region with pixels is one of them. -/
theorem Has.origin (h : r.Has p) : r.Has r.origin where
  left := Nat.le_refl _
  right := Nat.lt_of_le_of_lt h.left h.right
  top := Nat.le_refl _
  bottom := Nat.lt_of_le_of_lt h.top h.bottom

theorem EndsIn.has (h : r.EndsIn e) (h_pixel : r.Has p) : e.Has p where
  column := Nat.lt_of_lt_of_le h_pixel.right h.right
  row := Nat.lt_of_lt_of_le h_pixel.bottom h.bottom

end Rect

/-- A pixel as it is seen from the first pixel of a region. -/
def Pixel.from (p : Pixel) (r : Rect) : Pixel := ⟨p.x - r.x.toNat, p.y - r.y.toNat⟩

/-! ## Rows of pixels -/

/-- The distances in bytes from a row to the next and from a pixel to the next. -/
structure Raster where
  stride : Nat
  pixel : Nat
deriving DecidableEq

namespace Raster

variable {g : Raster} {e : Extent} {r : Rect} {p q : Pixel}

/-- The distance of a pixel from the first one. -/
def start (g : Raster) (p : Pixel) : Nat := p.y * g.stride + p.x * g.pixel

/-- A pixel ends in its row. -/
def EndsInRow (g : Raster) (p : Pixel) : Prop := (p.x + 1) * g.pixel ≤ g.stride

/-- The rows of a raster hold the pixels of an image. -/
def Holds (g : Raster) (e : Extent) : Prop := e.width.toNat * g.pixel ≤ g.stride

/-- What lies to the left of the end of an image lies in its row. -/
theorem Holds.column_le (h : g.Holds e) {x : Nat} (h_x : x ≤ e.width.toNat) :
    x * g.pixel ≤ g.stride := Nat.le_trans (Nat.mul_le_mul_right _ h_x) h

theorem Holds.endsInRow (h : g.Holds e) (h_pixel : e.Has p) : g.EndsInRow p :=
  h.column_le h_pixel.column

/-- From the first pixel of a region, a pixel of the region is as far as it is seen from there. -/
theorem start_from (g : Raster) (h_pixel : r.Has p) :
    g.start r.origin + g.start (p.from r) = g.start p := by
  have h_row : r.y.toNat + (p.y - r.y.toNat) = p.y := Nat.add_sub_cancel' h_pixel.top
  have h_column : r.x.toNat + (p.x - r.x.toNat) = p.x := Nat.add_sub_cancel' h_pixel.left
  calc g.start r.origin + g.start (p.from r)
      = (r.y.toNat + (p.y - r.y.toNat)) * g.stride +
          (r.x.toNat + (p.x - r.x.toNat)) * g.pixel := by
        rw [start, start, Nat.add_mul, Nat.add_mul, Nat.add_add_add_comm]
        rfl
    _ = g.start p := by rw [h_row, h_column, start]

/-- What starts in a row starts before each later one, or where it starts. -/
theorem start_le_row (h_column : p.x * g.pixel ≤ g.stride) {y : Nat} (h_later : p.y < y) :
    g.start p ≤ y * g.stride := by
  calc g.start p ≤ p.y * g.stride + g.stride := Nat.add_le_add_left h_column _
    _ = (p.y + 1) * g.stride := (Nat.succ_mul _ _).symm
    _ ≤ y * g.stride := Nat.mul_le_mul_right _ h_later

/-- A pixel ends where the one to the right of it would start. -/
theorem start_add_pixel (g : Raster) (p : Pixel) :
    g.start p + g.pixel = g.start ⟨p.x + 1, p.y⟩ := by
  rw [start, start, Nat.succ_mul, Nat.add_assoc]

/-- So it ends before each later row, -/
theorem EndsInRow.end_le_row (h : g.EndsInRow p) {y : Nat} (h_later : p.y < y) :
    g.start p + g.pixel ≤ y * g.stride := by
  rw [start_add_pixel]
  exact start_le_row (p := ⟨p.x + 1, p.y⟩) h h_later

/-- and before each later pixel of its row. -/
theorem end_le_of_left (g : Raster) (h_row : p.y = q.y) (h_left : p.x < q.x) :
    g.start p + g.pixel ≤ g.start q := by
  rw [start_add_pixel, start, start, h_row]
  exact Nat.add_le_add_left (Nat.mul_le_mul_right _ h_left) _

/-- Of two pixels one ends before the other starts. -/
theorem EndsInRow.apart (h_p : g.EndsInRow p) (h_q : g.EndsInRow q) (h_ne : p ≠ q) :
    g.start p + g.pixel ≤ g.start q ∨ g.start q + g.pixel ≤ g.start p := by
  have h_rows : ∀ {p q : Pixel}, g.EndsInRow p → p.y < q.y → g.start p + g.pixel ≤ g.start q :=
    fun h_p h_above => Nat.le_trans (h_p.end_le_row h_above) (Nat.le_add_right _ _)
  -- the upper one ends first, and in one row the left one
  rcases Nat.lt_trichotomy p.y q.y with h_above | h_row | h_below
  · exact .inl (h_rows h_p h_above)
  · rcases Nat.lt_trichotomy p.x q.x with h_left | h_column | h_right
    · exact .inl (g.end_le_of_left h_row h_left)
    · obtain ⟨x, y⟩ := p
      obtain ⟨x', y'⟩ := q
      cases h_column
      cases h_row
      exact absurd rfl h_ne
    · exact .inr (g.end_le_of_left h_row.symm h_right)
  · exact .inr (h_rows h_q h_below)

end Raster

/-! ## Buffers -/

namespace SystemBuffer

variable {k k' : Kernel} {b b' : SystemBuffer} {region : Rect} {access : Access}
  {mapping : BackendMapping} {p : Pixel}

/-- Where the pixels of a buffer lie. -/
def raster (b : SystemBuffer) : Raster := ⟨b.stride.toNat, b.bytesPerPixel.toNat⟩

theorem Ample.raster_holds (h : b.Ample) : b.raster.Holds b.extent := h.rows

theorem Ample.endsInRow (h : b.Ample) (h_pixel : b.extent.Has p) : b.raster.EndsInRow p :=
  h.raster_holds.endsInRow h_pixel

/-- A pixel ends inside the memory as it was measured. -/
theorem Ample.pixel_inside (h : b.Ample) (h_pixel : b.extent.Has p) :
    b.raster.start p + b.raster.pixel ≤ b.size := by
  refine Nat.le_trans ((h.endsInRow h_pixel).end_le_row h_pixel.row) ?_
  rw [Nat.mul_comm]
  exact h.room

/-- What mapping a region of a buffer does. -/
structure MapsRegion (k : Kernel) (b : SystemBuffer) (region : Rect) (access : Access)
    (mapping : BackendMapping) (b' : SystemBuffer) (k' : Kernel) : Prop where
  unmapped : b.mapping = none
  inside : region.EndsIn b.extent
  /-- The kernel maps all of the memory. -/
  whole : k.map b.descriptor b.size access = .ok (mapping.address.mapping, k')
  offset : mapping.address.offset = b.raster.start region.origin
  stride : mapping.stride = b.stride
  after : b' = { b with mapping := some mapping.address.mapping }

theorem map_region (h_map : b.map k region access = .ok (mapping, b', k')) :
    MapsRegion k b region access mapping b' k' := by
  unfold SystemBuffer.map at h_map
  split at h_map
  · cases h_map
  next h_mapping =>
  split at h_map
  · cases h_map
  next right h_right =>
  split at h_map
  · cases h_map
  next bottom h_bottom =>
  split at h_map
  next h_fits =>
    split at h_map
    · cases h_map
    next id kernel h_whole =>
    obtain ⟨rfl, h_left⟩ := Prod.mk.inj (Except.ok.inj h_map)
    obtain ⟨rfl, rfl⟩ := Prod.mk.inj h_left
    -- the corner is where the region ends, in unbounded numbers too
    obtain ⟨-, h_x⟩ := Arithmetic.add32_eq_ok_iff.mp h_right
    obtain ⟨-, h_y⟩ := Arithmetic.add32_eq_ok_iff.mp h_bottom
    simp only [Corner.fits, Bool.and_eq_true, decide_eq_true_eq, UInt32.le_iff_toNat_le] at h_fits
    exact ⟨by simpa using h_mapping, ⟨h_x ▸ h_fits.1, h_y ▸ h_fits.2⟩, h_whole, rfl, rfl, rfl⟩
  next => cases h_map

namespace MapsRegion

/-- A region starts in a row, or where it ends. -/
theorem column_le (h : MapsRegion k b region access mapping b' k') (h_ample : b.Ample) :
    region.x.toNat * b.bytesPerPixel.toNat ≤ b.stride.toNat :=
  h_ample.raster_holds.column_le (Nat.le_trans (Nat.le_add_right _ _) h.inside.right)

/-- The distance fits a word of 64 bits. -/
theorem offset_lt (h : MapsRegion k b region access mapping b' k') (h_ample : b.Ample) :
    mapping.address.offset < 2 ^ 64 := by
  have h_column := h.column_le h_ample
  have h_y : region.y.toNat ≤ 2 ^ 32 - 1 := Nat.le_pred_of_lt region.y.toNat_lt
  have h_stride : b.stride.toNat ≤ 2 ^ 32 - 1 := Nat.le_pred_of_lt b.stride.toNat_lt
  calc mapping.address.offset
      = region.y.toNat * b.stride.toNat + region.x.toNat * b.bytesPerPixel.toNat := h.offset
    _ ≤ (2 ^ 32 - 1) * (2 ^ 32 - 1) + (2 ^ 32 - 1) :=
        Nat.add_le_add (Nat.mul_le_mul h_y h_stride) (Nat.le_trans h_column h_stride)
    _ < 2 ^ 64 := by decide

/-- The mapping of a region that starts above the end of the buffer starts inside the memory. The
    other regions are empty and start where the rows end, or to the right of it. -/
theorem offset_le_iff (h : MapsRegion k b region access mapping b' k') (h_ample : b.Ample) :
    mapping.address.offset ≤ b.size ↔ region.y.toNat < b.extent.height.toNat ∨
      b.extent.height.toNat * b.stride.toNat + region.x.toNat * b.bytesPerPixel.toNat ≤ b.size := by
  have h_column := h.column_le h_ample
  have h_y : region.y.toNat ≤ b.extent.height.toNat :=
    Nat.le_trans (Nat.le_add_right _ _) h.inside.bottom
  rw [h.offset]
  rcases Nat.lt_or_eq_of_le h_y with h_above | h_end
  · have h_rows : b.extent.height.toNat * b.stride.toNat ≤ b.size := by
      rw [Nat.mul_comm]
      exact h_ample.room
    exact iff_of_true (Nat.le_trans (Raster.start_le_row h_column h_above) h_rows) (.inl h_above)
  · rw [or_iff_right (Nat.not_lt.mpr (Nat.le_of_eq h_end.symm)), ← h_end]
    rfl

/-- The mapping of a region with pixels starts before the end. -/
theorem offset_lt_size (h : MapsRegion k b region access mapping b' k') (h_ample : b.Ample)
    (h_pixel : region.Has p) : mapping.address.offset < b.size := by
  have h_inside := h_ample.pixel_inside (h.inside.has h_pixel.origin)
  rw [h.offset]
  exact Nat.lt_of_lt_of_le (Nat.lt_add_of_pos_right h_ample.pixel) h_inside

end MapsRegion

end SystemBuffer

end GraphicsBuffer
