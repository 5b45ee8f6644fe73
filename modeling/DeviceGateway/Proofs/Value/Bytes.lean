import DeviceGateway.Binary.Format
import DeviceGateway.Value.Bytes
import DeviceGateway.Value.Kind
import Mathlib.Tactic.Ring

/-! Numbers in bytes. Zero is in the range of every layout of integers. The bytes of a number are
those that it was read from, unsigned and in two's complement, and an integer that is read from
bytes lies in the range of their layout. -/

namespace DeviceGateway

/-! ### Ranges of integers -/

theorem leastInteger_nonpos (signed : Bool) (bytes : Nat) : leastInteger signed bytes ≤ 0 := by
  have hpos : (0 : Int) < 2 ^ (8 * bytes - 1) := Int.pow_pos (by decide)
  unfold leastInteger
  split <;> omega

theorem greatestInteger_nonneg (signed : Bool) (bytes : Nat) :
    0 ≤ greatestInteger signed bytes := by
  have hhalf : (0 : Int) < 2 ^ (8 * bytes - 1) := Int.pow_pos (by decide)
  have hwhole : (0 : Int) < 2 ^ (8 * bytes) := Int.pow_pos (by decide)
  unfold greatestInteger
  split <;> omega

/-- Signed integers are those that may be below zero. -/
theorem leastInteger_neg_iff (signed : Bool) (bytes : Nat) :
    leastInteger signed bytes < 0 ↔ signed := by
  have hpos : (0 : Int) < 2 ^ (8 * bytes - 1) := Int.pow_pos (by decide)
  unfold leastInteger
  split <;> simp_all

namespace Bytes

/-! ### Numbers of bytes -/

theorem length_ofNat (size n : Nat) : (ofNat size n).length = size := by
  induction size with
  | zero => rfl
  | succ size ih => rw [ofNat, List.length_cons, ih]

theorem toNat_cons (b : UInt8) (bs : List UInt8) :
    toNat (b :: bs) = b.toNat * 256 ^ bs.length + toNat bs := by
  have hfrom : ∀ (cs : List UInt8) (n : Nat),
      cs.foldl (fun n b => 256 * n + b.toNat) n = n * 256 ^ cs.length + toNat cs := by
    intro cs
    induction cs with
    | nil => simp [toNat]
    | cons c cs ih =>
      intro n
      have hfactor : 256 * n * 256 ^ cs.length = n * (256 ^ cs.length * 256) := by ac_rfl
      rw [toNat, List.foldl_cons, List.foldl_cons, ih, ih (256 * 0 + c.toNat), List.length_cons,
        Nat.pow_succ, Nat.mul_zero, Nat.zero_add, Nat.add_mul, hfactor, Nat.add_assoc]
  rw [toNat, List.foldl_cons, hfrom]
  simp

theorem toNat_lt (bs : List UInt8) : toNat bs < 256 ^ bs.length := by
  induction bs with
  | nil => simp [toNat]
  | cons b bs ih =>
    have hb : b.toNat ≤ 255 := Nat.lt_succ_iff.1 b.toNat_lt
    rw [toNat_cons, List.length_cons, Nat.pow_succ]
    calc b.toNat * 256 ^ bs.length + toNat bs
        < 255 * 256 ^ bs.length + 256 ^ bs.length :=
          Nat.add_lt_add_of_le_of_lt (Nat.mul_le_mul_right _ hb) ih
      _ = 256 ^ bs.length * 256 := by omega

/-- Only the low bytes count. -/
theorem ofNat_add_mul (size a n : Nat) : ofNat size (a * 256 ^ size + n) = ofNat size n := by
  induction size generalizing a with
  | zero => rfl
  | succ size ih =>
    have hshift : a * 256 ^ (size + 1) + n = a * 256 * 256 ^ size + n := by
      rw [Nat.pow_succ]
      congr 1
      ac_rfl
    have hpos : 0 < 256 ^ size := Nat.pow_pos (by decide)
    rw [hshift, ofNat, ofNat, ih, Nat.add_comm, Nat.add_mul_div_right _ _ hpos]
    congr 1
    exact UInt8.toNat_inj.1 (by simp)

theorem ofNat_toNat (bs : List UInt8) : ofNat bs.length (toNat bs) = bs := by
  induction bs with
  | nil => rfl
  | cons b bs ih =>
    have hpos : 0 < 256 ^ bs.length := Nat.pow_pos (by decide)
    have hhead : (b.toNat * 256 ^ bs.length + toNat bs) / 256 ^ bs.length = b.toNat := by
      rw [Nat.add_comm, Nat.add_mul_div_right _ _ hpos, Nat.div_eq_of_lt (toNat_lt bs),
        Nat.zero_add]
    rw [toNat_cons, List.length_cons, ofNat, hhead, ofNat_add_mul, ih, UInt8.ofNat_toNat]

/-- The low bytes of a number are its pattern. -/
theorem toNat_ofNat (size n : Nat) : toNat (ofNat size n) = n % 256 ^ size := by
  induction size with
  | zero => simp [ofNat, toNat, Nat.mod_one]
  | succ size ih =>
    have hsplit : n % 256 ^ (size + 1) = n % 256 ^ size + 256 ^ size * (n / 256 ^ size % 256) := by
      rw [Nat.pow_succ, Nat.mod_mul]
    rw [ofNat, toNat_cons, length_ofNat, ih, UInt8.toNat_ofNat', hsplit, Nat.add_comm, Nat.mul_comm]

/-! ### Two's complement -/

theorem toNat_ofInt (size : Nat) (n : Int) : (toNat (ofInt size n) : Int) = n % 256 ^ size := by
  have hpos : (0 : Int) < 256 ^ size := Int.pow_pos (by decide)
  have hlow : 0 ≤ n % 256 ^ size := Int.emod_nonneg n (Int.ne_of_gt hpos)
  have hsmall : n % 256 ^ size % 256 ^ size = n % 256 ^ size :=
    Int.emod_eq_of_lt hlow (Int.emod_lt_of_pos n hpos)
  rw [ofInt, toNat_ofNat]
  push_cast
  rw [Int.toNat_of_nonneg hlow, hsmall]

theorem ofInt_toInt (signed : Bool) (bs : List UInt8) : ofInt bs.length (toInt signed bs) = bs := by
  have hlt : (toNat bs : Int) < 256 ^ bs.length := by exact_mod_cast toNat_lt bs
  have hmod : toInt signed bs % 256 ^ bs.length = toNat bs := by
    have hsmall : (toNat bs : Int) % 256 ^ bs.length = toNat bs :=
      Int.emod_eq_of_lt (Int.natCast_nonneg _) hlt
    unfold toInt
    simp only
    split
    · rw [Int.sub_emod_right, hsmall]
    · exact hsmall
  rw [ofInt, hmod, Int.toNat_natCast, ofNat_toNat]

/-- An integer in the range of a layout is what its bytes stand for. -/
theorem toInt_ofInt (signed : Bool) {size : Nat} {n : Int} (hsize : 0 < size)
    (hlow : leastInteger signed size ≤ n) (hhigh : n ≤ greatestInteger signed size) :
    toInt signed (ofInt size n) = n := by
  have hlength : (ofInt size n).length = size := length_ofNat size _
  have hpattern := toNat_ofInt size n
  have hwhole : (256 : Int) ^ size = 2 ^ (8 * size) := by rw [Int.pow_mul]; rfl
  have hhalf : (2 : Int) ^ (8 * size) = 2 * 2 ^ (8 * size - 1) := by
    rw [← Int.pow_succ']
    congr 1
    omega
  unfold leastInteger at hlow
  unfold greatestInteger at hhigh
  have hlarge : 256 ^ size ≤ 2 * toNat (ofInt size n) ↔
      (256 : Int) ^ size ≤ 2 * (toNat (ofInt size n) : Int) := by
    exact_mod_cast Iff.rfl
  simp only [toInt, hlength, hlarge, Bool.and_eq_true, decide_eq_true_eq]
  cases signed with
  | false =>
    simp only [Bool.false_eq_true, false_and, if_false] at hlow hhigh ⊢
    rw [hpattern, Int.emod_eq_of_lt hlow (by omega)]
  | true =>
    simp only [true_and, if_true] at hlow hhigh ⊢
    by_cases hsign : 0 ≤ n
    · rw [hpattern, Int.emod_eq_of_lt hsign (by omega), if_neg (by omega)]
    · have hwrapped : n % 256 ^ size = n + 256 ^ size := by
        rw [← Int.add_emod_right, Int.emod_eq_of_lt (by omega) (by omega)]
      rw [hpattern, hwrapped, if_pos (by omega)]
      omega

/-- What bytes stand for is in the range of their layout. -/
theorem toInt_range (signed : Bool) {bs : List UInt8} (hbs : bs ≠ []) :
    leastInteger signed bs.length ≤ toInt signed bs ∧
      toInt signed bs ≤ greatestInteger signed bs.length := by
  have hlt := toNat_lt bs
  have hwhole : 256 ^ bs.length = 2 ^ (8 * bs.length) := by rw [Nat.pow_mul]
  have hhalf : 2 ^ (8 * bs.length) = 2 * 2 ^ (8 * bs.length - 1) := by
    have hpos := List.length_pos_iff.2 hbs
    rw [← Nat.pow_succ']
    congr 1
    omega
  unfold toInt leastInteger greatestInteger
  cases signed with
  | false =>
    have hbelow : (toNat bs : Int) < 2 ^ (8 * bs.length) := by exact_mod_cast hwhole ▸ hlt
    simp only [Bool.false_and, Bool.false_eq_true, if_false]
    omega
  | true =>
    have hle : (256 : Int) ^ bs.length = 2 * 2 ^ (8 * bs.length - 1) := by
      exact_mod_cast hwhole.trans hhalf
    have hbelow : (toNat bs : Int) < 256 ^ bs.length := by exact_mod_cast hlt
    simp only [Bool.true_and, if_true, decide_eq_true_eq]
    split
    · next hlarge =>
      have hlarge : (256 : Int) ^ bs.length ≤ 2 * toNat bs := by exact_mod_cast hlarge
      omega
    · next hsmall =>
      have hsmall : 2 * (toNat bs : Int) < 256 ^ bs.length := by
        exact_mod_cast Nat.not_le.1 hsmall
      omega

end Bytes

end DeviceGateway
