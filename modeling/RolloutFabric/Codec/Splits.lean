/-
What the writers of the byte codec write can be told apart: fields of a fixed size, and lists
whose length fits the count that stands before them.
-/
import RolloutFabric.Codec.Laws
import RolloutFabric.Lib.Splits

namespace RolloutFabric

open Coding

variable {α β : Type}

/-! ## Fixed sizes -/

/-- A value written in a fixed number of bytes and read back by `read`. -/
theorem word_splits (enc : α → Bytes) (n : Nat) (read : Bytes → α) (hlen : ∀ a, (enc a).length = n)
    (hread : ∀ a, read (enc a) = a) {a b : α} : Splits (enc a) (enc b) (a = b) :=
  (Splits.of_length (by rw [hlen, hlen])).imp fun h => by rw [← hread a, h, hread]

theorem u8_splits {a b : UInt8} : Splits (ByteWriter.u8 a) (ByteWriter.u8 b) (a = b) :=
  word_splits ByteWriter.u8 1 (fun bs => bs.headD 0) (fun _ => rfl) fun _ => rfl

theorem u32_splits {a b : UInt32} : Splits (ByteWriter.u32 a) (ByteWriter.u32 b) (a = b) :=
  word_splits ByteWriter.u32 4 _ (fun _ => rfl) load32_u32

theorem u64_splits {a b : UInt64} : Splits (ByteWriter.u64 a) (ByteWriter.u64 b) (a = b) :=
  word_splits ByteWriter.u64 8 _ (fun _ => rfl) load64_u64

theorem i64_splits {a b : Int64} : Splits (ByteWriter.i64 a) (ByteWriter.i64 b) (a = b) :=
  word_splits ByteWriter.i64 8 (fun bs => (ByteReader.load64 bs).toInt64) (fun _ => rfl)
    fun v => by simp [ByteWriter.i64, load64_u64]

theorem boolean_splits {a b : Bool} :
    Splits (ByteWriter.boolean a) (ByteWriter.boolean b) (a = b) :=
  u8_splits.imp fun h => by cases a <;> cases b <;> first | rfl | cases h

theorem timestamp_splits {a b : Timestamp} :
    Splits (ByteWriter.timestamp a) (ByteWriter.timestamp b) (a = b) :=
  i64_splits.imp fun h => by cases a; cases b; exact congrArg _ h

theorem duration_splits {a b : Duration} :
    Splits (ByteWriter.duration a) (ByteWriter.duration b) (a = b) :=
  i64_splits.imp fun h => by cases a; cases b; exact congrArg _ h

theorem fixedBytes_splits {n : Nat} {a b : FixedBytes n} : Splits a.data b.data (a = b) :=
  (Splits.of_length (by rw [a.size_eq, b.size_eq])).imp FixedBytes.ext

theorem id_splits {tag : IdTag} {a b : StrongId tag} :
    Splits (ByteWriter.id a) (ByteWriter.id b) (a = b) :=
  fixedBytes_splits.imp fun h => by cases a; cases b; exact congrArg _ h

theorem digest_splits {a b : Digest256} :
    Splits (ByteWriter.digest a) (ByteWriter.digest b) (a = b) := fixedBytes_splits

theorem enum_splits [ByteCoded α] {a b : α} :
    Splits (ByteWriter.u8 (ByteCoded.code a)) (ByteWriter.u8 (ByteCoded.code b)) (a = b) :=
  u8_splits.imp fun h =>
    Option.some.inj (by rw [← ByteCoded.ofCode?_code a, h, ByteCoded.ofCode?_code])

/-! ## Lists -/

/-- Counts below the bound are exact. -/
theorem count_splits {n m : Nat} (hn : n < kLengthBound) (hm : m < kLengthBound) :
    Splits (ByteWriter.count n) (ByteWriter.count m) (n = m) :=
  u32_splits.imp fun h => by
    have h := congrArg UInt32.toNat h
    simp only [Nat.toUInt32_eq, UInt32.toNat_ofNat'] at h
    unfold kLengthBound at hn hm
    omega

theorem string_splits {a b : Bytes} (ha : a.length < kLengthBound) (hb : b.length < kLengthBound) :
    Splits (ByteWriter.string a) (ByteWriter.string b) (a = b) :=
  ((count_splits ha hb).append Splits.of_length).imp And.right

theorem bytes_splits {a b : Bytes} (ha : a.length < kLengthBound) (hb : b.length < kLengthBound) :
    Splits (ByteWriter.bytes a) (ByteWriter.bytes b) (a = b) := string_splits ha hb

/-- Of the elements it is told what `f` sees of them. -/
theorem vector_splits_map {f : α → β} {enc : α → Bytes} {as bs : List α}
    (ha : as.length < kLengthBound) (hb : bs.length < kLengthBound)
    (h : ∀ a ∈ as, ∀ b ∈ bs, Splits (enc a) (enc b) (f a = f b)) :
    Splits (ByteWriter.vector enc as) (ByteWriter.vector enc bs) (as.map f = bs.map f) :=
  ((count_splits ha hb).append fun hlength => Splits.list hlength h).imp And.right

theorem vector_splits {enc : α → Bytes} {as bs : List α} (ha : as.length < kLengthBound)
    (hb : bs.length < kLengthBound) (h : ∀ a ∈ as, ∀ b ∈ bs, Splits (enc a) (enc b) (a = b)) :
    Splits (ByteWriter.vector enc as) (ByteWriter.vector enc bs) (as = bs) :=
  (vector_splits_map (f := fun a => a) ha hb h).imp fun heq => by simpa using heq

end RolloutFabric
