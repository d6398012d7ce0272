/-
  GraphicsBuffer.Proofs.PixelFormat

  The geometry of formats. Sizes and corners are what they are in unbounded numbers, or there are
  none, and the only reason is a sum that does not fit its word. The corner that a lock of a whole
  image has to map is the corner of the stored image, and a region inside another has its corner
  inside that of the other.
-/

import GraphicsBuffer.PixelFormat
import Mathlib.Algebra.Group.Nat.Defs

namespace GraphicsBuffer

/-- A sum that is refused is reported with its operands. -/
theorem Arithmetic.add32_error {left right : String} {x y : UInt32} {e : Error}
    (h_sum : add32 left x right y = .error e) : ∃ fault, e = .arithmetic fault := by
  unfold add32 overflow at h_sum
  split at h_sum
  · exact nomatch h_sum
  · exact ⟨_, (Except.error.inj h_sum).symm⟩

/-- A word is the sum of two exactly if it is their sum in unbounded numbers. -/
theorem Arithmetic.add32_eq_ok_iff_toNat {left right : String} {x y z : UInt32} :
    add32 left x right y = .ok z ↔ z.toNat = x.toNat + y.toNat :=
  add32_eq_ok_iff.trans ⟨And.right, fun h => ⟨h ▸ z.toNat_lt, h⟩⟩

/-- Adding nothing always fits. -/
theorem Arithmetic.zero_add32 (left right : String) (x : UInt32) :
    add32 left 0 right x = .ok x := by
  rw [add32_eq_ok_iff, UInt32.toNat_zero, Nat.zero_add]
  exact ⟨x.toNat_lt, rfl⟩

namespace Rect

/-- A region that lies inside another has all its sides in it. -/
structure Inside (r' r : Rect) : Prop where
  left : r.x ≤ r'.x
  top : r.y ≤ r'.y
  right : r'.x.toNat + r'.width.toNat ≤ r.x.toNat + r.width.toNat
  bottom : r'.y.toNat + r'.height.toNat ≤ r.y.toNat + r.height.toNat

/-- A region that starts where the image does. -/
def AtOrigin (r : Rect) : Prop := r.x = 0 ∧ r.y = 0

end Rect

namespace PixelFormat

variable {f : PixelFormat} {e : Error}

/-- The size of the stored image can only fail to fit. -/
theorem physicalExtent_error {size : Extent} (h_extent : f.physicalExtent size = .error e) :
    ∃ fault, e = .arithmetic fault := by
  unfold physicalExtent at h_extent
  split at h_extent
  · split at h_extent
    · exact nomatch h_extent
    next h_sum => exact Except.error.inj h_extent ▸ Arithmetic.add32_error h_sum
  · exact nomatch h_extent

/-- So can the corner of a region. -/
theorem mapCorner_error {r : Rect} (h_corner : f.mapCorner r = .error e) :
    ∃ fault, e = .arithmetic fault := by
  simp only [mapCorner] at h_corner
  rcases h_extent : f.physicalExtent r.extent with e' | size
  · rw [h_extent] at h_corner
    exact Except.error.inj h_corner ▸ physicalExtent_error h_extent
  rw [h_extent] at h_corner
  rcases h_right : Arithmetic.add32 "x" r.x "width" size.width with e' | right
  · simp only [bind, Except.bind, h_right] at h_corner
    exact Except.error.inj h_corner ▸ Arithmetic.add32_error h_right
  rcases h_bottom : Arithmetic.add32 "y" r.y "height" size.height with e' | bottom
  · simp only [bind, Except.bind, h_right, h_bottom] at h_corner
    exact Except.error.inj h_corner ▸ Arithmetic.add32_error h_bottom
  · simp only [bind, Except.bind, h_right, h_bottom, pure, Except.pure] at h_corner
    exact nomatch h_corner

/-- A region at the origin ends where its stored image does. -/
theorem mapCorner_origin (f : PixelFormat) (size : Extent) :
    f.mapCorner ⟨0, 0, size.width, size.height⟩ =
      (f.physicalExtent size).map fun stored => ⟨stored.width, stored.height⟩ := by
  simp only [mapCorner, Arithmetic.zero_add32, Rect.extent]
  rcases f.physicalExtent size with e | stored <;> rfl

/-! ## Layouts -/

theorem fourCC_eq_ok_iff {layout : FourCC} : f.fourCC = .ok layout ↔ f.fourCC? = some layout := by
  unfold fourCC
  rcases f.fourCC? with _ | layout' <;> simp

/-- The layouts that store formats are all known. -/
theorem bytesPerPixel_of_fourCC? {layout : FourCC} (h_layout : f.fourCC? = some layout) :
    ∃ bytes, layout.bytesPerPixel = .ok bytes := by
  unfold fourCC? at h_layout
  split at h_layout
  · exact Option.some.inj h_layout ▸ ⟨4, rfl⟩
  split at h_layout
  · exact Option.some.inj h_layout ▸ ⟨4, rfl⟩
  split at h_layout
  · exact Option.some.inj h_layout ▸ ⟨3, rfl⟩
  split at h_layout
  · exact Option.some.inj h_layout ▸ ⟨2, rfl⟩
  split at h_layout
  · exact Option.some.inj h_layout ▸ ⟨4, rfl⟩
  split at h_layout
  · exact Option.some.inj h_layout ▸ ⟨2, rfl⟩
  · exact nomatch h_layout

/-! ## In unbounded numbers -/

/-- How wide the stored image of an image of a width is. -/
def storedWidth (f : PixelFormat) (width : UInt32) : Nat :=
  if f.planar then width.toNat / 2 else width.toNat

/-- How high the stored image of an image of a height is. -/
def storedHeight (f : PixelFormat) (height : UInt32) : Nat :=
  if f.planar then height.toNat + height.toNat / 2 else height.toNat

/-- The stored image has its size in unbounded numbers, or none. -/
theorem physicalExtent_eq_ok_iff {size stored : Extent} : f.physicalExtent size = .ok stored ↔
    stored.width.toNat = f.storedWidth size.width ∧
      stored.height.toNat = f.storedHeight size.height := by
  obtain ⟨width, height⟩ := stored
  have h_half : ∀ x : UInt32, (x / 2).toNat = x.toNat / 2 := fun _ => rfl
  rcases h_planar : f.planar with _ | _
  · simp only [physicalExtent, storedWidth, storedHeight, h_planar, Bool.false_eq_true, if_false,
      Except.ok.injEq, UInt32.toNat_inj]
    constructor
    · rintro rfl
      exact ⟨rfl, rfl⟩
    · rintro ⟨h_w, h_h⟩
      rw [h_w, h_h]
  · simp only [physicalExtent, storedWidth, storedHeight, h_planar, if_true, ← h_half,
      UInt32.toNat_inj]
    constructor
    · intro h_extent
      rcases h_sum : Arithmetic.add32 "height" size.height "chroma_height" (size.height / 2) with
        e | sum
      · rw [h_sum] at h_extent
        exact nomatch h_extent
      · rw [h_sum] at h_extent
        cases h_extent
        exact ⟨rfl, Arithmetic.add32_eq_ok_iff_toNat.mp h_sum⟩
    · rintro ⟨h_w, h_h⟩
      rw [Arithmetic.add32_eq_ok_iff_toNat.mpr h_h, h_w]

/-- It has none if the rows of its planes together are too many to count. -/
theorem physicalExtent_eq_error_iff {size : Extent} : f.physicalExtent size = .error e ↔
    2 ^ 32 ≤ f.storedHeight size.height ∧
      e = Arithmetic.overflow "height" size.height.toNat .add "chroma_height"
        (size.height.toNat / 2) := by
  have h_half : (size.height / 2).toNat = size.height.toNat / 2 := rfl
  have h_limit : UInt32.size = 2 ^ 32 := rfl
  rcases h_planar : f.planar with _ | _
  · have h_fits := size.height.toNat_lt
    simp only [physicalExtent, storedHeight, h_planar, Bool.false_eq_true, if_false]
    exact ⟨nofun, fun h_over => absurd h_over.1 (Nat.not_le.mpr h_fits)⟩
  · simp only [physicalExtent, storedHeight, h_planar, if_true, Arithmetic.add32, h_half, h_limit]
    by_cases h_sum : size.height.toNat + size.height.toNat / 2 < 2 ^ 32
    · rw [if_pos h_sum]
      exact ⟨nofun, fun h_over => absurd h_sum (Nat.not_lt.mpr h_over.1)⟩
    · rw [if_neg h_sum]
      simp only [Except.error.injEq, Nat.not_lt.mp h_sum, true_and, eq_comm]

/-- So has the corner of a region. -/
theorem mapCorner_eq_ok_iff {r : Rect} {c : Corner} : f.mapCorner r = .ok c ↔
    c.right.toNat = r.x.toNat + f.storedWidth r.width ∧
      c.bottom.toNat = r.y.toNat + f.storedHeight r.height := by
  constructor
  · intro h_corner
    simp only [mapCorner] at h_corner
    rcases h_extent : f.physicalExtent r.extent with e | size
    · simp [h_extent, bind, Except.bind] at h_corner
    rcases h_right : Arithmetic.add32 "x" r.x "width" size.width with e | right
    · simp [h_extent, h_right, bind, Except.bind] at h_corner
    rcases h_bottom : Arithmetic.add32 "y" r.y "height" size.height with e | bottom
    · simp [h_extent, h_right, h_bottom, bind, Except.bind] at h_corner
    simp only [h_extent, h_right, h_bottom, bind, Except.bind, pure, Except.pure,
      Except.ok.injEq] at h_corner
    subst h_corner
    obtain ⟨h_width, h_height⟩ := physicalExtent_eq_ok_iff.mp h_extent
    rw [Arithmetic.add32_eq_ok_iff_toNat.mp h_right, Arithmetic.add32_eq_ok_iff_toNat.mp h_bottom]
    exact ⟨congrArg _ h_width, congrArg _ h_height⟩
  · rintro ⟨h_right, h_bottom⟩
    -- a sum that fits has parts that fit
    obtain ⟨width, h_width⟩ : ∃ width : UInt32, width.toNat = f.storedWidth r.width :=
      ⟨.ofNat _, UInt32.toNat_ofNat_of_lt'
        (Nat.lt_of_le_of_lt (Nat.le_add_left _ _) (h_right ▸ c.right.toNat_lt))⟩
    obtain ⟨height, h_height⟩ : ∃ height : UInt32, height.toNat = f.storedHeight r.height :=
      ⟨.ofNat _, UInt32.toNat_ofNat_of_lt'
        (Nat.lt_of_le_of_lt (Nat.le_add_left _ _) (h_bottom ▸ c.bottom.toNat_lt))⟩
    have h_extent : f.physicalExtent r.extent = .ok ⟨width, height⟩ :=
      physicalExtent_eq_ok_iff.mpr ⟨h_width, h_height⟩
    have h_right' : Arithmetic.add32 "x" r.x "width" width = .ok c.right :=
      Arithmetic.add32_eq_ok_iff_toNat.mpr (h_width ▸ h_right)
    have h_bottom' : Arithmetic.add32 "y" r.y "height" height = .ok c.bottom :=
      Arithmetic.add32_eq_ok_iff_toNat.mpr (h_height ▸ h_bottom)
    simp only [mapCorner, h_extent, bind, Except.bind, h_right', h_bottom', pure, Except.pure]

/-- A corner can only be had if it fits its words. -/
theorem mapCorner_eq_error_iff {r : Rect} : (∃ e, f.mapCorner r = .error e) ↔
    2 ^ 32 ≤ r.x.toNat + f.storedWidth r.width ∨ 2 ^ 32 ≤ r.y.toNat + f.storedHeight r.height := by
  rcases h_corner : f.mapCorner r with e | c
  · refine ⟨fun _ => ?_, fun _ => ⟨e, rfl⟩⟩
    rcases Nat.lt_or_ge (r.x.toNat + f.storedWidth r.width) (2 ^ 32) with h_right | h_right
    · refine .inr (Nat.le_of_not_lt fun h_bottom => ?_)
      have h_ok : f.mapCorner r = .ok ⟨.ofNat _, .ofNat _⟩ := mapCorner_eq_ok_iff.mpr
        ⟨UInt32.toNat_ofNat_of_lt' h_right, UInt32.toNat_ofNat_of_lt' h_bottom⟩
      exact nomatch h_corner.symm.trans h_ok
    · exact .inl h_right
  · obtain ⟨h_right, h_bottom⟩ := mapCorner_eq_ok_iff.mp h_corner
    have h_right_lt := c.right.toNat_lt
    have h_bottom_lt := c.bottom.toNat_lt
    constructor
    · rintro ⟨e, h_error⟩
      exact nomatch h_error
    · intro h_over
      omega

/-! ## Regions of an image -/

/-- A region lies in an image of a size: it is stored within the stored image. -/
def LiesIn (f : PixelFormat) (r : Rect) (size : Extent) : Prop :=
  r.x.toNat + f.storedWidth r.width ≤ f.storedWidth size.width ∧
    r.y.toNat + f.storedHeight r.height ≤ f.storedHeight size.height

/-- A region whose corner does not fit its words. -/
def TooFar (f : PixelFormat) (r : Rect) : Prop :=
  2 ^ 32 ≤ r.x.toNat + f.storedWidth r.width ∨ 2 ^ 32 ≤ r.y.toNat + f.storedHeight r.height

instance (f : PixelFormat) (r : Rect) (size : Extent) : Decidable (f.LiesIn r size) :=
  inferInstanceAs (Decidable (_ ∧ _))

instance (f : PixelFormat) (r : Rect) : Decidable (f.TooFar r) :=
  inferInstanceAs (Decidable (_ ∨ _))

/-- Such a region fails with its corner, -/
theorem TooFar.mapCorner {r : Rect} (h_far : f.TooFar r) :
    ∃ fault, f.mapCorner r = .error (.arithmetic fault) := by
  obtain ⟨e, h_corner⟩ := mapCorner_eq_error_iff.mpr h_far
  obtain ⟨fault, rfl⟩ := mapCorner_error h_corner
  exact ⟨fault, h_corner⟩

/-- and all others have one. -/
theorem mapCorner_of_near {r : Rect} (h_near : ¬f.TooFar r) : ∃ c, f.mapCorner r = .ok c := by
  rcases h_corner : f.mapCorner r with e | c
  · exact absurd (mapCorner_eq_error_iff.mp ⟨e, h_corner⟩) h_near
  · exact ⟨c, rfl⟩

/-- A region lies in an image exactly if its corner fits the stored image. -/
theorem fits_iff_liesIn {r : Rect} {size stored : Extent} {c : Corner}
    (h_extent : f.physicalExtent size = .ok stored) (h_corner : f.mapCorner r = .ok c) :
    c.fits stored = true ↔ f.LiesIn r size := by
  obtain ⟨h_width, h_height⟩ := physicalExtent_eq_ok_iff.mp h_extent
  obtain ⟨h_right, h_bottom⟩ := mapCorner_eq_ok_iff.mp h_corner
  rw [Corner.fits, Bool.and_eq_true, decide_eq_true_eq, decide_eq_true_eq, UInt32.le_iff_toNat_le,
    UInt32.le_iff_toNat_le, h_width, h_height, h_right, h_bottom]
  rfl

/-- Then it does not reach too far, if there is a stored image. -/
theorem LiesIn.not_tooFar {r : Rect} {size stored : Extent} (h_lies : f.LiesIn r size)
    (h_extent : f.physicalExtent size = .ok stored) : ¬f.TooFar r := by
  obtain ⟨h_width, h_height⟩ := physicalExtent_eq_ok_iff.mp h_extent
  have h_width_lt := stored.width.toNat_lt
  have h_height_lt := stored.height.toNat_lt
  unfold LiesIn at h_lies
  unfold TooFar
  omega

/-! ## Regions inside others -/

/-- A region inside another has its corner inside that of the other. In a planar image this is so
    for regions at the origin, since origins are not folded. -/
theorem mapCorner_inside {r r' : Rect} {c : Corner} (h_inside : r'.Inside r)
    (h_origin : f.planar = true → r.AtOrigin ∧ r'.AtOrigin) (h_corner : f.mapCorner r = .ok c) :
    ∃ c', f.mapCorner r' = .ok c' ∧ c'.within c = true := by
  obtain ⟨h_right, h_bottom⟩ := mapCorner_eq_ok_iff.mp h_corner
  have h_sides : r'.x.toNat + f.storedWidth r'.width ≤ r.x.toNat + f.storedWidth r.width ∧
      r'.y.toNat + f.storedHeight r'.height ≤ r.y.toNat + f.storedHeight r.height := by
    have h_right' := h_inside.right
    have h_bottom' := h_inside.bottom
    rcases h_planar : f.planar with _ | _
    · simp only [storedWidth, storedHeight, h_planar, Bool.false_eq_true, if_false]
      exact ⟨h_right', h_bottom'⟩
    · obtain ⟨⟨h_x, h_y⟩, h_x', h_y'⟩ := h_origin h_planar
      rw [h_x, h_x'] at h_right'
      rw [h_y, h_y'] at h_bottom'
      rw [h_x, h_x', h_y, h_y']
      simp only [storedWidth, storedHeight, h_planar, if_true]
      omega
  rcases h_corner' : f.mapCorner r' with e | c'
  · -- the sums are no larger than those that fit
    have h_over := mapCorner_eq_error_iff.mp ⟨e, h_corner'⟩
    have h_right_lt := c.right.toNat_lt
    have h_bottom_lt := c.bottom.toNat_lt
    omega
  · obtain ⟨h_right', h_bottom'⟩ := mapCorner_eq_ok_iff.mp h_corner'
    refine ⟨c', rfl, ?_⟩
    rw [Corner.within, Bool.and_eq_true, decide_eq_true_eq, decide_eq_true_eq, UInt32.le_iff_toNat_le,
      UInt32.le_iff_toNat_le]
    omega

end PixelFormat

end GraphicsBuffer
