/-
  GraphicsBuffer.Proofs.Usage

  The order of flag sets and what follows for CPU access. A set that contains another shares a bit
  with everything that the smaller one shares a bit with, so CPU reads and writes asked for by a
  part of a usage are asked for by the whole.
-/

import GraphicsBuffer.Usage
import Mathlib.Data.Nat.Bitwise

namespace GraphicsBuffer

namespace FlagSet

variable {known : UInt32} {a b c : FlagSet known}

/-! ## Containment -/

theorem subset_refl (a : FlagSet known) : a ⊆ a := UInt32.and_self

theorem subset_trans (h : a ⊆ b) (h' : b ⊆ c) : a ⊆ c := by
  rw [subset_iff] at h h' ⊢
  rw [← h, ← UInt32.and_assoc, h']

theorem subset_union_left (a b : FlagSet known) : a ⊆ a ∪ b := by
  rw [subset_iff, bits_union, ← UInt32.toBitVec_inj]
  -- bit by bit: absorption
  simp only [UInt32.toBitVec_and, UInt32.toBitVec_or]
  ext i
  simp only [BitVec.getElem_and, BitVec.getElem_or]
  cases a.bits.toBitVec[i] <;> simp

theorem subset_union_right (a b : FlagSet known) : b ⊆ a ∪ b := by
  rw [subset_iff, bits_union, UInt32.or_comm, ← bits_union, ← subset_iff]
  exact subset_union_left b a

/-- Joining a set with one that contains it gives the larger one. -/
theorem union_eq_right (h : a ⊆ b) : a ∪ b = b := by
  apply ext_bits
  rw [bits_union, ← subset_iff.mp h, ← UInt32.toBitVec_inj]
  simp only [UInt32.toBitVec_and, UInt32.toBitVec_or]
  ext i
  simp only [BitVec.getElem_and, BitVec.getElem_or]
  cases b.bits.toBitVec[i] <;> simp

@[simp] theorem union_self (a : FlagSet known) : a ∪ a = a := union_eq_right (subset_refl a)

@[simp] theorem union_empty (a : FlagSet known) : a ∪ ∅ = a := by
  apply ext_bits
  rw [bits_union, bits_empty, UInt32.or_zero]

/-! ## Shared bits -/

@[simp] theorem empty_meets (c : FlagSet known) : (∅ : FlagSet known).meets c = false := by
  rw [Bool.eq_false_iff, ne_eq, meets_iff, bits_empty, UInt32.zero_and]
  exact fun h => h rfl

theorem meets_of_subset (h : a ⊆ b) (h_meets : a.meets c = true) : b.meets c = true := by
  rw [meets_iff] at h_meets ⊢
  -- what the smaller set shares, the larger one shares: `a` is `b` cut to `a`
  intro h_none
  apply h_meets
  rw [← subset_iff.mp h, UInt32.and_comm b.bits, UInt32.and_assoc, h_none, UInt32.and_zero]

/-- A set shares a bit with a union if it shares one with a part of it. -/
theorem meets_union_iff : a.meets (b ∪ c) = true ↔ a.meets b = true ∨ a.meets c = true := by
  have h_parts : a.bits &&& (b ∪ c).bits = a.bits &&& b.bits ||| a.bits &&& c.bits := by
    rw [bits_union, ← UInt32.toBitVec_inj]
    simp only [UInt32.toBitVec_and, UInt32.toBitVec_or, BitVec.and_or_distrib_left]
  rw [meets_iff, meets_iff, meets_iff, h_parts, ne_eq, UInt32.or_eq_zero_iff, not_and_or]

/-- What a set shares with `b` lies outside `c` if it shares nothing with both. -/
theorem inter_subset_sdiff_iff : a ∩ b ⊆ b \ c ↔ a.meets (b ∩ c) = false := by
  rw [subset_iff, ← Bool.not_eq_true, meets_iff, not_not, bits_inter, bits_sdiff, bits_inter,
    ← UInt32.toBitVec_inj, ← UInt32.toBitVec_inj]
  simp only [UInt32.toBitVec_and, UInt32.toBitVec_not, UInt32.toBitVec_zero,
    BitVec.eq_of_getElem_eq_iff, BitVec.getElem_and, BitVec.getElem_not, BitVec.getElem_zero]
  refine forall_congr' fun i => forall_congr' fun h_i => ?_
  cases a.bits.toBitVec[i] <;> cases b.bits.toBitVec[i] <;> cases c.bits.toBitVec[i] <;> decide

theorem inter_meets (a b c : FlagSet known) : (a ∩ b).meets c = a.meets (b ∩ c) := by
  rw [Bool.eq_iff_iff, meets_iff, meets_iff, bits_inter, bits_inter, UInt32.and_assoc]

theorem inter_self (a : FlagSet known) : a ∩ a = a := ext_bits UInt32.and_self

theorem meets_comm (a b : FlagSet known) : a.meets b = b.meets a := by
  rw [Bool.eq_iff_iff, meets_iff, meets_iff, UInt32.and_comm]

/-- A flag of one bit is shared exactly if it is contained. -/
theorem meets_bit_iff {k : Nat} (h_bit : b.bits.toNat = 2 ^ k) : a.meets b = true ↔ b ⊆ a := by
  have h_pos : 0 < 2 ^ k := Nat.two_pow_pos k
  rw [meets_iff, subset_iff, ne_eq, ← UInt32.toNat_inj, ← UInt32.toNat_inj, UInt32.toNat_and,
    h_bit, Nat.and_two_pow, UInt32.toNat_zero]
  -- the shared part is the bit itself or nothing
  cases a.bits.toNat.testBit k with
  | false =>
    rw [Bool.toNat_false, Nat.zero_mul]
    omega
  | true =>
    rw [Bool.toNat_true, Nat.one_mul]
    omega

end FlagSet

/-! ## CPU access -/

namespace Usage

variable {u v : Usage}

@[simp] theorem cpuAccess_empty : cpuAccess ∅ = false := FlagSet.empty_meets _

/-- A union is for the CPU if a part of it is. -/
theorem cpuAccess_union (u v : Usage) : (u ∪ v).cpuAccess = (u.cpuAccess || v.cpuAccess) := by
  rw [Bool.eq_iff_iff, Bool.or_eq_true, cpuAccess, cpuAccess, cpuAccess, FlagSet.meets_comm,
    FlagSet.meets_union_iff, FlagSet.meets_comm u, FlagSet.meets_comm v]

theorem cpuAccess_of_subset (h : u ⊆ v) (h_cpu : u.cpuAccess = true) : v.cpuAccess = true :=
  FlagSet.meets_of_subset h h_cpu

theorem cpuWrites_of_subset (h : u ⊆ v) (h_cpu : u.cpuWrites = true) : v.cpuWrites = true :=
  FlagSet.meets_of_subset h h_cpu

/-- Every mapping can be read. -/
theorem read_subset_access (u : Usage) : Access.read ⊆ u.access := by
  unfold access
  split <;> decide

/-- A mapping made for a usage that writes can be written. -/
theorem write_subset_access (h : u.cpuWrites = true) : Access.write ⊆ u.access := by
  rw [access, if_pos h]
  decide

end Usage

end GraphicsBuffer
