/-! Big-endian bytes of a fixed size, unsigned and in two's complement. -/

namespace DeviceGateway.Bytes

/-- The low `8 * size` bits of a number, most significant byte first. -/
def ofNat : Nat → Nat → List UInt8
  | 0, _ => []
  | size + 1, n => UInt8.ofNat (n / 256 ^ size) :: ofNat size n

/-- The number whose bytes these are. -/
def toNat (bytes : List UInt8) : Nat := bytes.foldl (fun n b => 256 * n + b.toNat) 0

/-- The two's complement of an integer. -/
def ofInt (size : Nat) (n : Int) : List UInt8 := ofNat size (n % 256 ^ size).toNat

/-- The integer whose bytes these are, in two's complement when `signed`. -/
def toInt (signed : Bool) (bytes : List UInt8) : Int :=
  let n := toNat bytes
  if signed && decide (256 ^ bytes.length ≤ 2 * n) then (n : Int) - 256 ^ bytes.length else n

end DeviceGateway.Bytes
