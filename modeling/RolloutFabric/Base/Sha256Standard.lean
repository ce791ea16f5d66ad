/-
The streaming hasher computes SHA-256: whatever the pieces that a message arrives in, `finish`
returns the digest of FIPS 180-4.
-/
import RolloutFabric.Base.Sha256
import RolloutFabric.Lib.Fips180

namespace RolloutFabric

open Fips180 (Word Words bytesBits bitsOf natOf)

/-! ## Words -/

/-- Eight words of the standard, as the hasher has them. -/
def natWords (s : Words) : ShaWords :=
  ⟨s.a.toNat, s.b.toNat, s.c.toNat, s.d.toNat, s.e.toNat, s.f.toNat, s.g.toNat, s.h.toNat⟩

theorem roundConstants_eq :
    kRoundConstants = (List.range 64).map fun t => (Fips180.roundConstant t).toNat := by
  simp only [Fips180.roundConstant, Fips180.fractionBits, Fips180.primes_eq]
  decide +kernel

theorem initialState_eq : kInitialState = natWords Fips180.initialHash := by
  simp only [Fips180.initialHash, Fips180.fractionBits, Fips180.primes_eq]
  decide +kernel

theorem rotr_eq (x : Word) {count : Nat} (h : count < 32) :
    rotr x.toNat count = (x.rotateRight count).toNat := by
  rw [rotr, BitVec.toNat_rotateRight, Nat.mod_eq_of_lt h]
  rfl

theorem toNat_complement (x : Word) : kWordModulus - 1 - x.toNat = (~~~x).toNat := by
  rw [BitVec.toNat_not]
  rfl

/-- A round of the hasher is a round of the standard. -/
theorem shaRound_eq (s : Words) (k w : Word) :
    shaRound (natWords s) (k.toNat, w.toNat) = natWords (Fips180.round s k w) := by
  have hsigma1 : rotr s.e.toNat 6 ^^^ rotr s.e.toNat 11 ^^^ rotr s.e.toNat 25
      = (Fips180.bigSigma1 s.e).toNat := by
    rw [rotr_eq _ (by omega), rotr_eq _ (by omega), rotr_eq _ (by omega)]
    rfl
  have hsigma0 : rotr s.a.toNat 2 ^^^ rotr s.a.toNat 13 ^^^ rotr s.a.toNat 22
      = (Fips180.bigSigma0 s.a).toNat := by
    rw [rotr_eq _ (by omega), rotr_eq _ (by omega), rotr_eq _ (by omega)]
    rfl
  have hchoose : (s.e.toNat &&& s.f.toNat) ^^^ ((kWordModulus - 1 - s.e.toNat) &&& s.g.toNat)
      = (Fips180.choose s.e s.f s.g).toNat := by
    rw [toNat_complement]
    rfl
  have hmajority : (s.a.toNat &&& s.b.toNat) ^^^ (s.a.toNat &&& s.c.toNat)
      ^^^ (s.b.toNat &&& s.c.toNat) = (Fips180.majority s.a s.b s.c).toNat := rfl
  simp only [shaRound, natWords, Fips180.round, hsigma1, hsigma0, hchoose, hmajority,
    BitVec.toNat_add, ShaWords.mk.injEq, true_and, and_true]
  constructor
  · show _ % 2 ^ 32 = _
    omega
  · show _ % 2 ^ 32 = _
    omega

/-! ## The message schedule -/

/-- The first `t` words of the schedule, the most recent at the head. -/
def recentWords (block : Nat → Word) (t : Nat) : List Nat :=
  ((List.range t).map fun i => (Fips180.schedule block i).toNat).reverse

theorem recentWords_succ (block : Nat → Word) (t : Nat) :
    recentWords block (t + 1) = (Fips180.schedule block t).toNat :: recentWords block t := by
  simp [recentWords, List.range_succ]

theorem recentWords_getD {block : Nat → Word} {t k : Nat} (h : k < t) :
    (recentWords block t).getD k 0 = (Fips180.schedule block (t - 1 - k)).toNat := by
  simp [recentWords, List.getD_eq_getElem?_getD, h]

theorem smallSigma0_eq (x : Word) :
    rotr x.toNat 7 ^^^ rotr x.toNat 18 ^^^ (x.toNat >>> 3) = (Fips180.smallSigma0 x).toNat := by
  rw [rotr_eq _ (by omega), rotr_eq _ (by omega)]
  rfl

theorem smallSigma1_eq (x : Word) :
    rotr x.toNat 17 ^^^ rotr x.toNat 19 ^^^ (x.toNat >>> 10) = (Fips180.smallSigma1 x).toNat := by
  rw [rotr_eq _ (by omega), rotr_eq _ (by omega)]
  rfl

/-- Every further word is the one of the standard. -/
theorem extendSchedule_eq (block : Nat → Word) (n : Nat) {t : Nat} (ht : 16 ≤ t) :
    extendSchedule n (recentWords block t) = recentWords block (t + n) := by
  induction n generalizing t with
  | zero => rfl
  | succ n ih =>
    have hword : ((recentWords block t).getD 15 0
        + (rotr ((recentWords block t).getD 14 0) 7 ^^^ rotr ((recentWords block t).getD 14 0) 18
          ^^^ ((recentWords block t).getD 14 0 >>> 3))
        + (recentWords block t).getD 6 0
        + (rotr ((recentWords block t).getD 1 0) 17 ^^^ rotr ((recentWords block t).getD 1 0) 19
          ^^^ ((recentWords block t).getD 1 0 >>> 10))) % kWordModulus
        = (Fips180.schedule block t).toNat := by
      have hschedule : Fips180.schedule block t
          = Fips180.smallSigma1 (Fips180.schedule block (t - 2)) + Fips180.schedule block (t - 7)
            + Fips180.smallSigma0 (Fips180.schedule block (t - 15))
            + Fips180.schedule block (t - 16) := by
        rw [Fips180.schedule, if_neg (by omega)]
      rw [recentWords_getD (by omega), recentWords_getD (by omega), recentWords_getD (by omega),
        recentWords_getD (by omega), smallSigma0_eq, smallSigma1_eq,
        show t - 1 - 15 = t - 16 by omega, show t - 1 - 14 = t - 15 by omega,
        show t - 1 - 6 = t - 7 by omega, show t - 1 - 1 = t - 2 by omega, hschedule]
      simp only [BitVec.toNat_add]
      show _ % 2 ^ 32 = _
      omega
    rw [extendSchedule, hword, ← recentWords_succ, ih (by omega)]
    congr 1
    omega

/-! ## One block -/

theorem foldl_shaRound (block : Nat → Word) (s : Words) (ts : List Nat) :
    (ts.map fun t => ((Fips180.roundConstant t).toNat, (Fips180.schedule block t).toNat)).foldl
        shaRound (natWords s)
      = natWords (ts.foldl
          (fun v t => Fips180.round v (Fips180.roundConstant t) (Fips180.schedule block t)) s) := by
  induction ts generalizing s with
  | nil => rfl
  | cons t ts ih => rw [List.map_cons, List.foldl_cons, List.foldl_cons, shaRound_eq, ih]

theorem schedule_eq (block : Nat → Word) :
    (extendSchedule 48 ((List.range 16).map fun t => (block t).toNat).reverse).reverse
      = (List.range 64).map fun t => (Fips180.schedule block t).toNat := by
  have hblock : ((List.range 16).map fun t => (block t).toNat).reverse = recentWords block 16 := by
    rw [recentWords]
    congr 1
    refine List.map_congr_left fun t ht => ?_
    rw [Fips180.schedule, if_pos (List.mem_range.mp ht)]
  rw [hblock, extendSchedule_eq block 48 (Nat.le_refl 16), recentWords, List.reverse_reverse]

/-- The rounds of a block, on its sixteen words. -/
theorem rounds_eq (s : Words) (block : Nat → Word) :
    (kRoundConstants.zip
        (extendSchedule 48 ((List.range 16).map fun t => (block t).toNat).reverse).reverse).foldl
        shaRound (natWords s) = natWords (Fips180.rounds s block) := by
  rw [schedule_eq, roundConstants_eq, List.zip_map', foldl_shaRound, Fips180.rounds]

/-- What compression adds to the state. -/
def ShaWords.add (s t : ShaWords) : ShaWords :=
  ⟨(s.a + t.a) % kWordModulus, (s.b + t.b) % kWordModulus, (s.c + t.c) % kWordModulus,
    (s.d + t.d) % kWordModulus, (s.e + t.e) % kWordModulus, (s.f + t.f) % kWordModulus,
    (s.g + t.g) % kWordModulus, (s.h + t.h) % kWordModulus⟩

theorem compress_def (s : ShaWords) (block : List Nat) :
    compress s block = s.add
      ((kRoundConstants.zip (extendSchedule 48 block.reverse).reverse).foldl shaRound s) := by
  rw [compress]
  rfl

theorem add_natWords (s t : Words) : (natWords s).add (natWords t) = natWords (s.add t) := by
  simp only [ShaWords.add, Words.add, natWords, BitVec.toNat_add]
  rfl

/-- The sixteen words of a block are compressed as the standard says. -/
theorem compress_eq (s : Words) (block : Nat → Word) :
    compress (natWords s) ((List.range 16).map fun t => (block t).toNat)
      = natWords (Fips180.compress s block) := by
  rw [compress_def, rounds_eq, add_natWords, Fips180.compress]

/-! ## The words of a text -/

/-- Four bytes, most significant first. -/
theorem load_eq (a b c d : UInt8) :
    (a.toNat <<< 24) ||| (b.toNat <<< 16) ||| (c.toNat <<< 8) ||| d.toNat
      = natOf (bytesBits [a, b, c, d]) := by
  have ha := a.toNat_lt
  have hb := b.toNat_lt
  have hc := c.toNat_lt
  have hd := d.toNat_lt
  have hbits : natOf (bytesBits [a, b, c, d])
      = ((a.toNat * 256 + b.toNat) * 256 + c.toNat) * 256 + d.toNat := by
    simp only [bytesBits, List.flatMap_cons, List.flatMap_nil, List.append_nil,
      ← List.append_assoc, Fips180.natOf_append, Fips180.length_bitsOf, Fips180.natOf_bitsOf ha,
      Fips180.natOf_bitsOf hb, Fips180.natOf_bitsOf hc, Fips180.natOf_bitsOf hd]
    rfl
  have hab : (a.toNat <<< 24) ||| (b.toNat <<< 16) = 2 ^ 16 * (a.toNat * 256 + b.toNat) := by
    rw [Nat.shiftLeft_eq, Nat.shiftLeft_eq, show a.toNat * 2 ^ 24 = 2 ^ 24 * a.toNat by omega,
      ← Nat.two_pow_add_eq_or_of_lt (i := 24) (by omega)]
    omega
  have habc : 2 ^ 16 * (a.toNat * 256 + b.toNat) ||| (c.toNat <<< 8)
      = 2 ^ 8 * ((a.toNat * 256 + b.toNat) * 256 + c.toNat) := by
    rw [Nat.shiftLeft_eq, ← Nat.two_pow_add_eq_or_of_lt (i := 16) (by omega)]
    omega
  rw [hab, habc, ← Nat.two_pow_add_eq_or_of_lt (i := 8) hd, hbits]
  omega

/-- What is left at the end of the loading is less than a word. -/
theorem length_lt_four {data : Bytes}
    (h : ∀ a b c d rest, data = a :: b :: c :: d :: rest → False) : data.length < 4 := by
  match data with
  | [] => simp
  | [_] => simp
  | [_, _] => simp
  | [_, _, _] => simp
  | a :: b :: c :: d :: rest => exact (h a b c d rest rfl).elim

/-- The loaded words are the words of the bit string. -/
theorem bigEndianLoad_eq (data : Bytes) :
    bigEndianLoad data
      = (List.range (data.length / 4)).map fun t => natOf (((bytesBits data).drop (32 * t)).take 32) := by
  fun_induction bigEndianLoad data with
  | case1 a b c d rest ih =>
    have hlength : (a :: b :: c :: d :: rest).length / 4 = rest.length / 4 + 1 := by
      simp only [List.length_cons]
      omega
    rw [hlength, List.range_succ_eq_map, List.map_cons, List.map_map, ih, load_eq]
    refine congrArg₂ List.cons ?_ ?_
    · rw [Nat.mul_zero, List.drop_zero, show 32 = 8 * 4 from rfl, Fips180.take_bytesBits]
      rfl
    · refine List.map_congr_left fun t _ => ?_
      show _ = natOf (((bytesBits (a :: b :: c :: d :: rest)).drop (32 * (t + 1))).take 32)
      rw [show 32 * (t + 1) = 8 * (4 * t + 4) by omega, Fips180.drop_bytesBits,
        show 32 * t = 8 * (4 * t) by omega, Fips180.drop_bytesBits]
      rfl
  | case2 data hnot =>
    rw [Nat.div_eq_of_lt (length_lt_four hnot)]
    rfl

theorem length_bigEndianLoad (data : Bytes) : (bigEndianLoad data).length = data.length / 4 := by
  rw [bigEndianLoad_eq, List.length_map, List.length_range]

theorem bigEndianLoad_append {a : Bytes} (ha : a.length % 4 = 0) (b : Bytes) :
    bigEndianLoad (a ++ b) = bigEndianLoad a ++ bigEndianLoad b := by
  fun_induction bigEndianLoad a with
  | case1 a0 a1 a2 a3 rest ih =>
    simp only [List.length_cons] at ha
    simp only [List.cons_append, bigEndianLoad]
    rw [ih (by omega)]
  | case2 a hnot =>
    have hshort := length_lt_four hnot
    rw [List.length_eq_zero_iff.mp (show a.length = 0 by omega)]
    rfl

/-- The words of block `i`, as the standard parses the bit string. -/
theorem bigEndianLoad_block (data : Bytes) (i : Nat) (h : 64 * (i + 1) ≤ data.length) :
    bigEndianLoad ((data.drop (64 * i)).take 64)
      = (List.range 16).map fun t => (Fips180.messageWord (bytesBits data) i t).toNat := by
  have hlength : ((data.drop (64 * i)).take 64).length / 4 = 16 := by
    rw [List.length_take, List.length_drop]
    omega
  rw [bigEndianLoad_eq, hlength]
  refine List.map_congr_left fun t ht => ?_
  have ht := List.mem_range.mp ht
  have hbits : ((bytesBits ((data.drop (64 * i)).take 64)).drop (32 * t)).take 32
      = ((bytesBits data).drop (512 * i + 32 * t)).take 32 := by
    rw [show 32 * t = 8 * (4 * t) by omega, show 32 = 8 * 4 from rfl, Fips180.drop_bytesBits,
      Fips180.take_bytesBits, show 512 * i + 8 * (4 * t) = 8 * (64 * i + 4 * t) by omega,
      Fips180.drop_bytesBits, Fips180.take_bytesBits, List.drop_take, List.take_take,
      List.drop_drop, Nat.min_eq_left (by omega)]
  rw [Fips180.messageWord, hbits, BitVec.toNat_ofNat, Nat.mod_eq_of_lt]
  refine Nat.lt_of_lt_of_le (Fips180.natOf_lt _) (Nat.pow_le_pow_right (by omega) ?_)
  rw [List.length_take]
  omega

/-! ## Blocks -/

theorem compressAll_block {ws : List Nat} (h : ws.length = 16) (s : ShaWords) (rest : List Nat) :
    compressAll s (ws ++ rest) = compressAll (compress s ws) rest := by
  match ws, h with
  | [_, _, _, _, _, _, _, _, _, _, _, _, _, _, _, _], _ => rfl

theorem compressAll_short {ws : List Nat} (h : ws.length < 16) (s : ShaWords) :
    compressAll s ws = s := by
  unfold compressAll
  split
  · simp only [List.length_cons] at h
    omega
  · rfl

/-- The state after the whole blocks of a text. -/
def absorbed (s : ShaWords) (data : Bytes) : ShaWords := compressAll s (bigEndianLoad data)

theorem absorbed_short {data : Bytes} (h : data.length < 64) (s : ShaWords) :
    absorbed s data = s :=
  compressAll_short (by rw [length_bigEndianLoad]; omega) s

theorem absorbed_block {block : Bytes} (h : block.length = 64) (s : ShaWords) (rest : Bytes) :
    absorbed s (block ++ rest) = absorbed (compress s (bigEndianLoad block)) rest := by
  rw [absorbed, bigEndianLoad_append (by omega), compressAll_block]
  · rfl
  · rw [length_bigEndianLoad, h]

theorem absorbed_one {block : Bytes} (h : block.length = 64) (s : ShaWords) :
    absorbed s block = compress s (bigEndianLoad block) := by
  rw [← List.append_nil block, absorbed_block h, List.append_nil]
  rfl

/-- Whole blocks first, then the rest. -/
theorem absorbed_append (n : Nat) {data : Bytes} (h : data.length = 64 * n) (s : ShaWords)
    (rest : Bytes) : absorbed s (data ++ rest) = absorbed (absorbed s data) rest := by
  induction n generalizing data s with
  | zero =>
    rw [List.length_eq_zero_iff.mp (show data.length = 0 by omega)]
    rfl
  | succ n ih =>
    have hfirst : (data.take 64).length = 64 := List.length_take_of_le (by omega)
    have hrest : (data.drop 64).length = 64 * n := by
      rw [List.length_drop]
      omega
    calc absorbed s (data ++ rest)
        = absorbed s (data.take 64 ++ (data.drop 64 ++ rest)) := by
          rw [← List.append_assoc, List.take_append_drop]
      _ = absorbed (absorbed (compress s (bigEndianLoad (data.take 64))) (data.drop 64)) rest := by
          rw [absorbed_block hfirst, ih hrest]
      _ = absorbed (absorbed s data) rest := by
          rw [← absorbed_block hfirst, List.take_append_drop]

/-- The blocks of the standard, one after the other. -/
theorem absorbed_blocks (data : Bytes) (n : Nat) (h : 64 * n ≤ data.length) :
    absorbed kInitialState (data.take (64 * n))
      = natWords (Fips180.hashBlocks (bytesBits data) n) := by
  induction n with
  | zero => exact initialState_eq
  | succ n ih =>
    have hblock : ((data.drop (64 * n)).take 64).length = 64 := by
      rw [List.length_take, List.length_drop]
      omega
    have hfirst : (data.take (64 * n)).length = 64 * n := List.length_take_of_le (by omega)
    have hhash : Fips180.hashBlocks (bytesBits data) (n + 1)
        = Fips180.compress (Fips180.hashBlocks (bytesBits data) n)
          (Fips180.messageWord (bytesBits data) n) := by
      rw [Fips180.hashBlocks, List.range_succ, List.foldl_append, ← Fips180.hashBlocks]
      rfl
    rw [Nat.mul_succ, List.take_add, absorbed_append n hfirst, ih (by omega), absorbed_one hblock,
      bigEndianLoad_block data n (by omega), compress_eq, hhash]

/-! ## Streaming -/

/-- A hasher that has been fed a text: the state of its whole blocks, the rest in the buffer. -/
structure Fed (hasher : Sha256) (data : Bytes) : Prop where
  running : hasher.finalized = false
  split : ∃ blocks n, data = blocks ++ hasher.buffer ∧ blocks.length = 64 * n
    ∧ hasher.state = absorbed kInitialState blocks
  buffer_lt : hasher.buffer.length < 64
  total_eq : hasher.totalBytes = data.length.toUInt64

theorem fed_nil : Fed {} [] := ⟨rfl, ⟨[], 0, rfl, rfl, rfl⟩, by decide, rfl⟩

/-- What is left behind the whole blocks. -/
theorem blocks_split (data : Bytes) : ∃ blocks n, data = blocks ++ data.drop (data.length / 64 * 64)
    ∧ blocks.length = 64 * n ∧ ∀ s, absorbed s data = absorbed s blocks := by
  have hlength : (data.take (data.length / 64 * 64)).length = 64 * (data.length / 64) := by
    rw [List.length_take]
    omega
  have hrest : (data.drop (data.length / 64 * 64)).length < 64 := by
    rw [List.length_drop]
    omega
  refine ⟨data.take (data.length / 64 * 64), data.length / 64, ?_, hlength, fun s => ?_⟩
  · rw [List.take_append_drop]
  · calc absorbed s data
        = absorbed s (data.take (data.length / 64 * 64) ++ data.drop (data.length / 64 * 64)) := by
          rw [List.take_append_drop]
      _ = absorbed s (data.take (data.length / 64 * 64)) := by
          rw [absorbed_append _ hlength, absorbed_short hrest]

theorem update_fed {hasher : Sha256} {fed : Bytes} (h : Fed hasher fed) (data : Bytes) :
    Fed (hasher.update data) (fed ++ data) := by
  obtain ⟨blocks, n, hfed, hblocks, hstate⟩ := h.split
  have hlt := h.buffer_lt
  have htotal : hasher.totalBytes + data.length.toUInt64 = (fed ++ data).length.toUInt64 := by
    rw [h.total_eq, List.length_append]
    simp
  have hrunning : (if hasher.finalized then ({} : Sha256) else hasher) = hasher := by
    rw [h.running]
    rfl
  unfold Sha256.update
  simp only [hrunning]
  split
  · next hempty =>
    -- nothing is buffered: the whole blocks of the piece come straight from it
    rw [List.isEmpty_iff] at hempty
    obtain ⟨more, m, hdata, hmore, habsorbed⟩ := blocks_split data
    refine ⟨h.running, ⟨blocks ++ more, n + m, ?_, ?_, ?_⟩, ?_, htotal⟩
    · show fed ++ data = blocks ++ more ++ data.drop (data.length / 64 * 64)
      rw [List.append_assoc, ← hdata, hfed, hempty, List.append_nil]
    · rw [List.length_append]
      omega
    · show absorbed hasher.state data = _
      rw [hstate, habsorbed, absorbed_append n hblocks]
    · show (data.drop (data.length / 64 * 64)).length < 64
      rw [List.length_drop]
      omega
  · have hwant : (data.take (min (64 - hasher.buffer.length) data.length)).length
        = min (64 - hasher.buffer.length) data.length := List.length_take_of_le (by omega)
    split
    · next hfull =>
      -- the piece completes the buffered block
      obtain ⟨more, m, hdata, hmore, habsorbed⟩ :=
        blocks_split (data.drop (min (64 - hasher.buffer.length) data.length))
      refine ⟨h.running, ⟨blocks ++ (hasher.buffer
        ++ data.take (min (64 - hasher.buffer.length) data.length) ++ more), n + 1 + m, ?_, ?_, ?_⟩,
        ?_, htotal⟩
      · show fed ++ data = _ ++ List.drop _ _
        simp only [hfed, List.append_assoc]
        rw [← hdata, List.take_append_drop]
      · rw [List.length_append, List.length_append, hfull]
        omega
      · show absorbed (compress hasher.state _) _ = _
        rw [hstate, habsorbed, absorbed_append n hblocks, absorbed_block hfull]
      · show (List.drop _ _).length < 64
        rw [List.length_drop]
        omega
    · next hshort =>
      rw [List.length_append, hwant] at hshort
      refine ⟨h.running, ⟨blocks, n, ?_, hblocks, hstate⟩, ?_, htotal⟩
      · show fed ++ data = blocks ++ (hasher.buffer ++ data.take _)
        rw [hfed, List.append_assoc, List.take_of_length_le (by omega)]
      · show (hasher.buffer ++ data.take _).length < 64
        rw [List.length_append, hwant]
        omega

theorem foldl_update_fed (pieces : List Bytes) {hasher : Sha256} {fed : Bytes}
    (h : Fed hasher fed) : Fed (pieces.foldl Sha256.update hasher) (fed ++ pieces.flatten) := by
  induction pieces generalizing hasher fed with
  | nil => simpa using h
  | cons piece pieces ih =>
    rw [List.flatten_cons, ← List.append_assoc, List.foldl_cons]
    exact ih (update_fed h piece)

theorem Fed.buffer_length {hasher : Sha256} {data : Bytes} (h : Fed hasher data) :
    hasher.buffer.length = data.length % 64 := by
  obtain ⟨blocks, n, hdata, hblocks, -⟩ := h.split
  have hlength := congrArg List.length hdata
  rw [List.length_append] at hlength
  have hlt := h.buffer_lt
  omega

/-! ## Padding -/

/-- The loop of `finish` feeds as many zero bytes as are missing to fifty-six. -/
theorem padZeros_fed (k fuel : Nat) (hk : k ≤ fuel) (hk64 : k < 64) {hasher : Sha256} {data : Bytes}
    (h : Fed hasher data) (hlength : (data.length + k) % 64 = 56) :
    Fed (Sha256.padZeros fuel hasher) (data ++ List.replicate k 0) := by
  induction k generalizing fuel hasher data with
  | zero =>
    rw [List.replicate_zero, List.append_nil]
    cases fuel with
    | zero => exact h
    | succ fuel =>
      rw [Sha256.padZeros, if_pos (by rw [h.buffer_length]; omega)]
      exact h
  | succ k ih =>
    cases fuel with
    | zero => omega
    | succ fuel =>
      rw [Sha256.padZeros, if_neg (by rw [h.buffer_length]; omega), List.replicate_succ,
        List.append_cons]
      refine ih fuel (by omega) (by omega) (update_fed h [0]) ?_
      rw [List.length_append, List.length_singleton]
      omega

/-- The zero bytes behind the marker. -/
def zerosOf (length : Nat) : Nat := (119 - length % 64) % 64

/-- The bytes that are compressed for a message. -/
def paddedBytes (data : Bytes) : Bytes :=
  data ++ [0x80] ++ List.replicate (zerosOf data.length) 0
    ++ Sha256.lengthBytes (data.length.toUInt64 * 8)

theorem length_paddedBytes (data : Bytes) : (paddedBytes data).length % 64 = 0 := by
  simp only [paddedBytes, zerosOf, List.length_append, List.length_replicate,
    Sha256.lengthBytes, List.length_map, List.length_cons, List.length_nil]
  omega

def stateBytes (s : ShaWords) : Bytes :=
  Sha256.wordBytes s.a ++ Sha256.wordBytes s.b ++ Sha256.wordBytes s.c ++ Sha256.wordBytes s.d
    ++ Sha256.wordBytes s.e ++ Sha256.wordBytes s.f ++ Sha256.wordBytes s.g ++ Sha256.wordBytes s.h

/-- `finish` compresses the padded message. -/
theorem finish_fed {hasher : Sha256} {data : Bytes} (h : Fed hasher data) :
    hasher.finish.data = stateBytes (absorbed kInitialState (paddedBytes data)) := by
  have hpadded := padZeros_fed (zerosOf data.length) 64 (by unfold zerosOf; omega)
    (by unfold zerosOf; omega) (update_fed h [0x80]) (by
      rw [List.length_append, List.length_singleton, zerosOf]
      omega)
  obtain ⟨blocks, n, hdata, hblocks, hstate⟩ := hpadded.split
  have hlast : ((Sha256.padZeros 64 (hasher.update [0x80])).buffer
      ++ Sha256.lengthBytes (data.length.toUInt64 * 8)).length = 64 := by
    rw [List.length_append, hpadded.buffer_length, List.length_append, List.length_append,
      List.length_replicate, List.length_singleton, zerosOf, Sha256.lengthBytes, List.length_map]
    simp only [List.length_cons, List.length_nil]
    omega
  have habsorbed : absorbed kInitialState (paddedBytes data)
      = compress (Sha256.padZeros 64 (hasher.update [0x80])).state (bigEndianLoad
        ((Sha256.padZeros 64 (hasher.update [0x80])).buffer
          ++ Sha256.lengthBytes (hasher.totalBytes * 8))) := by
    rw [paddedBytes, hdata, List.append_assoc, absorbed_append n hblocks, ← hstate,
      absorbed_one hlast, h.total_eq]
  rw [habsorbed]
  rfl

/-! ## The bits of the padding and of the digest -/

theorem bitsOf_byte (v : Nat) : bitsOf 8 v.toUInt8.toNat = bitsOf 8 v := by
  rw [Nat.toUInt8_eq, UInt8.toNat_ofNat', Fips180.bitsOf_mod]

theorem bytesBits_wordBytes (v : Nat) : bytesBits (Sha256.wordBytes v) = bitsOf 32 v := by
  simp only [Sha256.wordBytes, Fips180.bytesBits_cons, bitsOf_byte, Nat.shiftRight_eq_div_pow]
  rw [show (32 : Nat) = 8 + 8 + 8 + 8 from rfl]
  simp only [Fips180.bitsOf_add, Nat.div_div_eq_div_mul, List.append_assoc]
  simp [bytesBits]

theorem bytesBits_stateBytes (s : Words) : bytesBits (stateBytes (natWords s)) = s.bits := by
  simp only [stateBytes, natWords, Fips180.bytesBits_append, bytesBits_wordBytes, Words.bits,
    List.flatMap_cons, List.flatMap_nil, List.append_nil, List.append_assoc]

theorem bytesBits_zeros (k : Nat) :
    bytesBits (List.replicate k 0) = List.replicate (8 * k) false := by
  induction k with
  | zero => rfl
  | succ k ih =>
    rw [List.replicate_succ, Fips180.bytesBits_cons, ih, Nat.mul_succ, Nat.add_comm,
      List.replicate_add]
    rfl

theorem bytesBits_lengthBytes (v : UInt64) :
    bytesBits (Sha256.lengthBytes v) = bitsOf 64 v.toNat := by
  have hbyte (shift : UInt64) (hshift : shift.toNat < 64) :
      bitsOf 8 (v >>> shift).toUInt8.toNat = bitsOf 8 (v.toNat / 2 ^ shift.toNat) := by
    rw [UInt64.toNat_toUInt8, Fips180.bitsOf_mod, UInt64.toNat_shiftRight,
      Nat.shiftRight_eq_div_pow, Nat.mod_eq_of_lt hshift]
  simp only [Sha256.lengthBytes, List.map_cons, List.map_nil, Fips180.bytesBits_cons]
  rw [hbyte _ (by decide), hbyte _ (by decide), hbyte _ (by decide), hbyte _ (by decide),
    hbyte _ (by decide), hbyte _ (by decide), hbyte _ (by decide), hbyte _ (by decide),
    show (64 : Nat) = 8 + 8 + 8 + 8 + 8 + 8 + 8 + 8 from rfl]
  simp only [Fips180.bitsOf_add, Nat.div_div_eq_div_mul, List.append_assoc]
  simp [bytesBits]

/-- Padding by bytes is padding by bits. -/
theorem bytesBits_paddedBytes {data : Bytes} (h : data.length < 2 ^ 61) :
    bytesBits (paddedBytes data) = Fips180.pad (bytesBits data) := by
  have hmarker : bytesBits [0x80] = true :: List.replicate 7 false := rfl
  have htotal : (data.length.toUInt64 * 8).toNat = 8 * data.length := by
    rw [UInt64.toNat_mul, Nat.toUInt64_eq, UInt64.toNat_ofNat']
    show data.length % 2 ^ 64 * 8 % 2 ^ 64 = _
    omega
  rw [paddedBytes, Fips180.bytesBits_append, Fips180.bytesBits_append, Fips180.bytesBits_append,
    bytesBits_lengthBytes, bytesBits_zeros, htotal, hmarker, Fips180.pad,
    Fips180.length_bytesBits]
  have hzeros : (959 - 8 * data.length % 512) % 512 = 7 + 8 * zerosOf data.length := by
    unfold zerosOf
    omega
  rw [hzeros, List.replicate_add]
  simp

/-- Whatever pieces a message arrives in, the hasher returns the digest of the standard. -/
theorem streaming_sha256 (pieces : List Bytes) (h : pieces.flatten.length < 2 ^ 61) :
    bytesBits (pieces.foldl Sha256.update {}).finish.data
      = Fips180.sha256 (bytesBits pieces.flatten) := by
  have hfed : Fed (pieces.foldl Sha256.update {}) pieces.flatten := by
    simpa using foldl_update_fed pieces fed_nil
  have hlength := length_paddedBytes pieces.flatten
  have hblocks := absorbed_blocks (paddedBytes pieces.flatten)
    ((paddedBytes pieces.flatten).length / 64) (by omega)
  rw [List.take_of_length_le (by omega), bytesBits_paddedBytes h] at hblocks
  have hcount : (Fips180.pad (bytesBits pieces.flatten)).length / 512
      = (paddedBytes pieces.flatten).length / 64 := by
    rw [← bytesBits_paddedBytes h, Fips180.length_bytesBits]
    omega
  rw [finish_fed hfed, hblocks, bytesBits_stateBytes, Fips180.sha256, hcount]

theorem streaming_sha256_abc :
    (["a", "", "bc"].map text).flatten.length < 2 ^ 61
    ∧ bytesBits ((["a", "", "bc"].map text).foldl Sha256.update {}).finish.data
      = Fips180.sha256 (bytesBits (["a", "", "bc"].map text).flatten) := by
  have hlength : (["a", "", "bc"].map text).flatten.length < 2 ^ 61 := by decide
  exact ⟨hlength, streaming_sha256 _ hlength⟩

end RolloutFabric
