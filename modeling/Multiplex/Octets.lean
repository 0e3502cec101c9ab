/-! Octets on the wire and the big-endian fields made of them. Writing a number and reading a
field are inverse to each other on the numbers that fit the width. -/

namespace Multiplex

abbrev Octets := List UInt8

namespace Octets

/-- How many numbers a field of some width tells apart. -/
def capacity : Nat → Nat
  | 0 => 1
  | width + 1 => 256 * capacity width

theorem capacity_pos (width : Nat) : 0 < capacity width := by
  induction width with
  | zero => exact Nat.one_pos
  | succ width ih => exact Nat.mul_pos (by decide) ih

/-- The low `width` octets of a number, most significant first. -/
def bigEndian : Nat → Nat → Octets
  | 0, _ => []
  | width + 1, n => UInt8.ofNat (n / capacity width) :: bigEndian width n

@[simp] theorem length_bigEndian (width n : Nat) : (bigEndian width n).length = width := by
  induction width with
  | zero => rfl
  | succ width ih => simp [bigEndian, ih]

/-- The number that a field holds. -/
def value : Octets → Nat
  | [] => 0
  | b :: bs => b.toNat * capacity bs.length + value bs

theorem value_lt (bs : Octets) : value bs < capacity bs.length := by
  induction bs with
  | nil => exact Nat.one_pos
  | cons b bs ih =>
    have hb : b.toNat + 1 ≤ 256 := b.toNat_lt
    have hm : (b.toNat + 1) * capacity bs.length ≤ 256 * capacity bs.length :=
      Nat.mul_le_mul_right _ hb
    simp only [value, List.length_cons, capacity]
    rw [Nat.add_mul] at hm
    omega

theorem value_bigEndian (width n : Nat) : value (bigEndian width n) = n % capacity width := by
  induction width with
  | zero => simp [bigEndian, value, capacity, Nat.mod_one]
  | succ width ih =>
    have hb : (UInt8.ofNat (n / capacity width)).toNat = n / capacity width % 256 := by simp
    rw [bigEndian, value, length_bigEndian, ih, hb, capacity, Nat.mul_comm 256, Nat.mod_mul,
      Nat.mul_comm, Nat.add_comm]

theorem bigEndian_add_mul (width k n : Nat) :
    bigEndian width (k * capacity width + n) = bigEndian width n := by
  induction width generalizing k with
  | zero => rfl
  | succ width ih =>
    have hk : k * capacity (width + 1) = capacity width * (256 * k) := by
      rw [capacity, Nat.mul_comm, Nat.mul_comm 256, Nat.mul_assoc]
    have hq : (k * capacity (width + 1) + n) / capacity width = 256 * k + n / capacity width := by
      rw [hk, Nat.mul_add_div (capacity_pos width)]
    have hb : UInt8.ofNat (256 * k + n / capacity width) = UInt8.ofNat (n / capacity width) := by
      apply UInt8.toNat_inj.mp
      simp
    rw [bigEndian, bigEndian, hq, hb, hk, Nat.mul_comm (capacity width), ih]

theorem bigEndian_value (bs : Octets) : bigEndian bs.length (value bs) = bs := by
  induction bs with
  | nil => rfl
  | cons b bs ih =>
    have hq : (b.toNat * capacity bs.length + value bs) / capacity bs.length = b.toNat := by
      rw [Nat.mul_comm, Nat.mul_add_div (capacity_pos _),
        Nat.div_eq_of_lt (value_lt bs), Nat.add_zero]
    rw [List.length_cons, value, bigEndian, hq, bigEndian_add_mul, ih, UInt8.ofNat_toNat]

section Fields

variable {width : Nat} {bs : Octets}

theorem ofNat_value_bigEndian16 (n : UInt16) : UInt16.ofNat (value (bigEndian 2 n.toNat)) = n := by
  rw [value_bigEndian]
  apply UInt16.toNat_inj.mp
  simp [capacity]

theorem ofNat_value_bigEndian64 (n : UInt64) : UInt64.ofNat (value (bigEndian 8 n.toNat)) = n := by
  rw [value_bigEndian]
  apply UInt64.toNat_inj.mp
  simp [capacity]

theorem bigEndian_value_of_length (length : bs.length = width) :
    bigEndian width (value bs) = bs :=
  length ▸ bigEndian_value bs

theorem bigEndian_ofNat_value16 (length : bs.length = 2) :
    bigEndian 2 (UInt16.ofNat (value bs)).toNat = bs := by
  have small : value bs < capacity 2 := length ▸ value_lt bs
  have field : capacity 2 = 2 ^ 16 := by decide
  rw [UInt16.toNat_ofNat', Nat.mod_eq_of_lt (field ▸ small), bigEndian_value_of_length length]

theorem bigEndian_ofNat_value64 (length : bs.length = 8) :
    bigEndian 8 (UInt64.ofNat (value bs)).toNat = bs := by
  have small : value bs < capacity 8 := length ▸ value_lt bs
  have field : capacity 8 = 2 ^ 64 := by decide
  rw [UInt64.toNat_ofNat', Nat.mod_eq_of_lt (field ▸ small), bigEndian_value_of_length length]

end Fields

end Octets
end Multiplex
