/-
Byte strings. Every text and every payload of the runtime is a list of bytes, as a
`std::string` or a `std::vector<std::byte>` is; literals are written as Lean strings and
converted once.
-/
import Mathlib

namespace RolloutFabric

/-- A `std::string`, a `std::vector<std::byte>` or a span of either. -/
abbrev Bytes := List UInt8

/-- The bytes of a string literal of the source. -/
def text (s : String) : Bytes := s.toUTF8.data.toList

instance : Coe String Bytes := ⟨text⟩

/-- What holds of the 256 bytes one by one. -/
theorem byte_all {P : UInt8 → Prop} (h : ∀ n : Nat, n < 256 → P n.toUInt8) (b : UInt8) : P b := by
  have hb := h b.toNat b.toNat_lt
  rwa [Nat.toUInt8_eq, UInt8.ofNat_toNat] at hb

/-! ## Numbers and hexadecimal -/

/-- Decimal digits of `n`, least significant first, at most `fuel` of them. -/
def decimalRev : Nat → Nat → Bytes
  | 0, _ => []
  | fuel + 1, n =>
    (48 + n % 10).toUInt8 :: (if n < 10 then [] else decimalRev fuel (n / 10))

/-- `std::to_string` of an unsigned 64-bit value: at most twenty digits. -/
def toStringNat (n : Nat) : Bytes := (decimalRev 20 n).reverse

/-- `std::to_string` of a signed 64-bit value. -/
def toStringInt (i : Int) : Bytes :=
  if i < 0 then (45 : UInt8) :: toStringNat i.natAbs else toStringNat i.natAbs

def hexDigit (value : UInt8) : UInt8 :=
  if value < 10 then 48 + value else 97 + (value - 10)

def toHex : Bytes → Bytes
  | [] => []
  | b :: rest => hexDigit (b >>> 4) :: hexDigit (b &&& 0x0F) :: toHex rest

@[simp] theorem toHex_length (bs : Bytes) : (toHex bs).length = 2 * bs.length := by
  induction bs with
  | nil => rfl
  | cons b rest ih => simp [toHex, ih]; omega

/-! ## Fixed width byte arrays -/

/-- A `std::array<std::byte, n>`. -/
structure FixedBytes (n : Nat) where
  data : Bytes
  size_eq : data.length = n
deriving DecidableEq

namespace FixedBytes

variable {n : Nat}

@[ext] theorem ext {a b : FixedBytes n} (h : a.data = b.data) : a = b := by
  cases a; cases b; simp_all

/-- The value-initialised array. -/
def zero (n : Nat) : FixedBytes n := ⟨List.replicate n 0, List.length_replicate⟩

instance : Inhabited (FixedBytes n) := ⟨zero n⟩

/-- The first `n` bytes of `bs`, padded with zeros. -/
def ofBytes (n : Nat) (bs : Bytes) : FixedBytes n :=
  ⟨(bs ++ List.replicate n 0).take n, by simp⟩

theorem ofBytes_of_length {bs : Bytes} (h : bs.length = n) : (ofBytes n bs).data = bs := by
  simp [ofBytes, ← h]

@[simp] theorem ofBytes_data (a : FixedBytes n) : ofBytes n a.data = a :=
  ext (ofBytes_of_length a.size_eq)

/-- Arrays are compared byte by byte, most significant first. -/
instance : LinearOrder (FixedBytes n) :=
  LinearOrder.lift' (fun a : FixedBytes n => a.data.map UInt8.toNat) fun _ _ h =>
    ext (List.map_injective_iff.2 (fun _ _ => UInt8.toNat_inj.1) h)

end FixedBytes

end RolloutFabric
