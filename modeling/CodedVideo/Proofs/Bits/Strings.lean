import CodedVideo.Bits.Basic

/-!
# Lengths and values of bit strings
-/

namespace CodedVideo.Bits

/-! ## Lengths -/

@[simp]
theorem length_ofNat (width value : Nat) : (ofNat width value).length = width := by
  induction width with
  | zero => rfl
  | succ width inductionHypothesis => simp [ofNat, inductionHypothesis]

@[simp]
theorem length_ofByte (byte : UInt8) : (ofByte byte).length = 8 :=
  length_ofNat 8 byte.toNat

@[simp]
theorem length_ofBytes (bytes : List UInt8) : (ofBytes bytes).length = 8 * bytes.length := by
  induction bytes with
  | nil => rfl
  | cons byte bytes inductionHypothesis =>
      simp only [ofBytes, List.flatMap_cons, List.length_append, length_ofByte] at *
      rw [inductionHypothesis, List.length_cons]
      omega

@[simp]
theorem ofBytes_nil : ofBytes [] = [] :=
  rfl

@[simp]
theorem ofBytes_cons (byte : UInt8) (bytes : List UInt8) :
    ofBytes (byte :: bytes) = ofByte byte ++ ofBytes bytes :=
  rfl

@[simp]
theorem ofBytes_append (front back : List UInt8) :
    ofBytes (front ++ back) = ofBytes front ++ ofBytes back :=
  List.flatMap_append

/-- A byte has eight bits: a first one and seven others. -/
theorem exists_ofByte_eq_cons (byte : UInt8) :
    ∃ bit others, ofByte byte = bit :: others ∧ others.length = 7 :=
  ⟨_, _, rfl, length_ofNat 7 byte.toNat⟩

/-- All bits of the zero byte are zero. -/
theorem eq_false_of_mem_ofByte_zero {bit : Bool} (isBit : bit ∈ ofByte 0) : bit = false := by
  revert bit
  decide

/-! ## Numbers -/

/-- What is read behind a number shifts it. -/
theorem foldl_eq_shiftLeft_add (bits : List Bool) (value : Nat) :
    bits.foldl (fun value bit => 2 * value + bit.toNat) value =
      value <<< bits.length + toNat bits := by
  induction bits generalizing value with
  | nil => rfl
  | cons bit bits inductionHypothesis =>
      have split_eq := inductionHypothesis (2 * 0 + bit.toNat)
      simp only [toNat, List.foldl_cons, List.length_cons] at *
      rw [inductionHypothesis (2 * value + bit.toNat), split_eq]
      simp only [Nat.shiftLeft_eq, Nat.pow_succ, Nat.add_mul, Nat.mul_zero, Nat.zero_add]
      rw [Nat.mul_comm 2 value, Nat.mul_assoc, Nat.mul_comm 2, Nat.add_assoc]

theorem toNat_append (front back : List Bool) :
    toNat (front ++ back) = toNat front <<< back.length + toNat back := by
  rw [toNat, List.foldl_append]
  exact foldl_eq_shiftLeft_add back (toNat front)

theorem toNat_cons (bit : Bool) (bits : List Bool) :
    toNat (bit :: bits) = bit.toNat <<< bits.length + toNat bits := by
  have whole_eq := toNat_append [bit] bits
  cases bit <;> exact whole_eq

/-- A bit string writes a number of its width. -/
theorem toNat_lt (bits : List Bool) : toNat bits < 1 <<< bits.length := by
  induction bits with
  | nil => exact Nat.zero_lt_one
  | cons bit bits inductionHypothesis =>
      rw [toNat_cons, List.length_cons]
      simp only [Nat.shiftLeft_eq, Nat.one_mul, Nat.pow_succ] at *
      cases bit <;> simp only [Bool.toNat_false, Bool.toNat_true] <;> omega

/-- The low bits of a number write the number up to higher bits. -/
theorem toNat_ofNat (width value : Nat) : toNat (ofNat width value) = value % 1 <<< width := by
  induction width with
  | zero => simp [ofNat, toNat, Nat.mod_one]
  | succ width inductionHypothesis =>
      rw [ofNat, toNat_cons, inductionHypothesis, length_ofNat]
      simp only [Nat.shiftLeft_eq, Nat.one_mul]
      rw [Nat.mod_pow_succ, Nat.toNat_testBit, Nat.mul_comm, Nat.add_comm]

/-- The low bits of a number, from the least significant one, are written the other way round. -/
theorem reverse_map_testBit_range (width value : Nat) :
    ((List.range width).map value.testBit).reverse = ofNat width value := by
  induction width with
  | zero => rfl
  | succ width inductionHypothesis =>
      rw [List.range_succ, List.map_append, List.reverse_append, inductionHypothesis]
      rfl

/-- Only the low bits of a number count. -/
theorem ofNat_congr {width first second : Nat}
    (same : ∀ index, index < width → first.testBit index = second.testBit index) :
    ofNat width first = ofNat width second := by
  induction width with
  | zero => rfl
  | succ width inductionHypothesis =>
      rw [ofNat, ofNat, same width (Nat.lt_succ_self width)]
      rw [inductionHypothesis fun index below => same index (Nat.lt_succ_of_lt below)]

/-- A bit string is that of the number it writes. -/
theorem ofNat_toNat (bits : List Bool) : ofNat bits.length (toNat bits) = bits := by
  induction bits with
  | nil => rfl
  | cons bit bits inductionHypothesis =>
      have lower := toNat_lt bits
      rw [Nat.shiftLeft_eq, Nat.one_mul] at lower
      have testBit_eq (index : Nat) := Nat.testBit_two_pow_mul_add bit.toNat lower index
      rw [toNat_cons, Nat.shiftLeft_eq, Nat.mul_comm, List.length_cons, ofNat]
      congr 1
      · rw [testBit_eq, if_neg (Nat.lt_irrefl _), Nat.sub_self]
        cases bit <;> rfl
      · refine Eq.trans (ofNat_congr ?_) inductionHypothesis
        intro index below
        rw [testBit_eq, if_pos below]

/-- Zero is written in zeros. -/
theorem ofNat_zero (width : Nat) : ofNat width 0 = List.replicate width false := by
  induction width with
  | zero => rfl
  | succ width inductionHypothesis =>
      rw [ofNat, Nat.zero_testBit, inductionHypothesis, List.replicate_succ]

theorem toNat_replicate_false (count : Nat) : toNat (List.replicate count false) = 0 := by
  rw [← ofNat_zero, toNat_ofNat, Nat.zero_mod]

/-- A byte is the one that its bits write. -/
theorem toByte_ofByte (byte : UInt8) : toByte (ofByte byte) = byte := by
  have fits : byte.toNat < 1 <<< 8 := byte.toNat_lt
  rw [toByte, ofByte, toNat_ofNat, Nat.mod_eq_of_lt fits, UInt8.ofNat_toNat]

/-- Bits that are filled up to a byte stand at its front. -/
theorem toNat_padToByte {bits : List Bool} (fits : bits.length ≤ 8) :
    (padToByte bits).toNat = toNat bits <<< (8 - bits.length) := by
  have padded_lt := toNat_lt (bits ++ List.replicate (8 - bits.length) false)
  have isByte : (bits ++ List.replicate (8 - bits.length) false).length = 8 := by
    rw [List.length_append, List.length_replicate]
    omega
  rw [isByte] at padded_lt
  rw [padToByte, toByte, UInt8.toNat_ofNat_of_lt' padded_lt, toNat_append, toNat_replicate_false,
    List.length_replicate, Nat.add_zero]

/-- A byte other than zero has a one. -/
theorem true_mem_ofByte {byte : UInt8} (notZero : byte ≠ 0) : true ∈ ofByte byte := by
  apply Decidable.byContradiction
  intro noOne
  apply notZero
  have allZeros : ofByte byte = List.replicate 8 false := by
    rw [List.eq_replicate_iff]
    refine ⟨length_ofByte byte, ?_⟩
    intro bit isBit
    exact Bool.eq_false_iff.mpr fun isOne => noOne (isOne ▸ isBit)
  rw [← toByte_ofByte byte, allZeros]
  rfl

/-- Eight bits are those of the byte that they write. -/
theorem ofByte_toByte {bits : List Bool} (isByte : bits.length = 8) :
    ofByte (toByte bits) = bits := by
  have below := toNat_lt bits
  rw [isByte] at below
  have whole := ofNat_toNat bits
  rw [isByte] at whole
  rw [ofByte, toByte, UInt8.toNat_ofNat_of_lt' below]
  exact whole

/-! ## Packing -/

/-- Different bytes have different bits. -/
theorem ofBytes_inj {first second : List UInt8} (same : ofBytes first = ofBytes second) :
    first = second := by
  have lengths := congrArg List.length same
  rw [length_ofBytes, length_ofBytes] at lengths
  induction first generalizing second with
  | nil => exact (List.eq_nil_of_length_eq_zero (by rw [List.length_nil] at lengths; omega)).symm
  | cons byte first inductionHypothesis =>
      cases second with
      | nil => contradiction
      | cons other second =>
          obtain ⟨byte_eq, others_eq⟩ :=
            List.append_inj same ((length_ofByte byte).trans (length_ofByte other).symm)
          rw [← toByte_ofByte byte, byte_eq, toByte_ofByte]
          rw [inductionHypothesis others_eq (Nat.add_right_cancel lengths)]

/-- Bits that are packed behind the first bits of a byte are kept, with zeros up to the byte
boundary behind them. -/
theorem ofBytes_packFrom (pending : List Bool) (short : pending.length < 8) (bits : List Bool) :
    ofBytes (packFrom pending bits) =
      pending ++ bits ++
        List.replicate (toBoundary (pending.length + bits.length)) false := by
  induction bits generalizing pending with
  | nil =>
      cases pending with
      | nil => rfl
      | cons bit others =>
          have filled : toBoundary ((bit :: others).length + 0) = 8 - (bit :: others).length := by
            rw [List.length_cons] at short ⊢
            rw [toBoundary]
            omega
          have isByte : ((bit :: others) ++
              List.replicate (8 - (bit :: others).length) false).length = 8 := by
            rw [List.length_append, List.length_replicate]
            omega
          rw [List.length_nil, filled, List.append_nil, packFrom, if_neg (by simp), padToByte,
            ofBytes_cons, ofBytes_nil, List.append_nil, ofByte_toByte isByte]
  | cons bit bits inductionHypothesis =>
      rw [packFrom]
      split
      · next isLast =>
        have isByte : (pending ++ [bit]).length = 8 := by
          rw [List.length_append, isLast]
          rfl
        have boundary_eq : toBoundary (pending.length + (bit :: bits).length) =
            toBoundary (([] : List Bool).length + bits.length) := by
          rw [isLast, List.length_cons, List.length_nil, toBoundary, toBoundary]
          omega
        rw [ofBytes_cons, ofByte_toByte isByte, inductionHypothesis [] (Nat.zero_lt_succ 7),
          boundary_eq, List.nil_append, List.append_cons pending bit bits,
          List.append_assoc (pending ++ [bit])]
      · next isNotLast =>
        have stillShort : (pending ++ [bit]).length < 8 := by
          rw [List.length_append, List.length_singleton]
          omega
        rw [inductionHypothesis _ stillShort, List.append_cons pending bit bits, List.length_append,
          List.length_singleton, List.length_cons, Nat.add_assoc, Nat.add_comm 1]

/-- Packed bits are kept, with zeros up to the byte boundary behind them. -/
theorem ofBytes_pack (bits : List Bool) :
    ofBytes (pack bits) = bits ++ List.replicate (toBoundary bits.length) false := by
  have packed := ofBytes_packFrom [] (Nat.zero_lt_succ 7) bits
  rw [List.length_nil, Nat.zero_add] at packed
  exact packed

/-- The bits of whole bytes are packed into those bytes. -/
theorem pack_ofBytes (bytes : List UInt8) : pack (ofBytes bytes) = bytes := by
  apply ofBytes_inj
  have aligned : toBoundary (ofBytes bytes).length = 0 := by
    rw [length_ofBytes, toBoundary]
    omega
  rw [ofBytes_pack, aligned, List.replicate_zero, List.append_nil]

/-- Behind whole bytes, bits are packed on their own. -/
theorem pack_append {front : List Bool} (aligned : front.length % 8 = 0) (back : List Bool) :
    pack (front ++ back) = pack front ++ pack back := by
  have noZeros : toBoundary front.length = 0 := by
    rw [toBoundary]
    omega
  have boundary_eq : toBoundary (front ++ back).length = toBoundary back.length := by
    rw [List.length_append, toBoundary, toBoundary]
    omega
  apply ofBytes_inj
  rw [ofBytes_append, ofBytes_pack, ofBytes_pack, ofBytes_pack, boundary_eq, noZeros,
    List.replicate_zero, List.append_nil, List.append_assoc]

/-- Bytes whose bits end in a one and at most seven zeros end in a byte other than zero. -/
theorem exists_getLast?_of_ofBytes_eq {bytes : List UInt8} {bits : List Bool} {zeros : Nat}
    (short : zeros < 8)
    (ofBytes_eq : ofBytes bytes = bits ++ true :: List.replicate zeros false) :
    ∃ last, bytes.getLast? = some last ∧ last ≠ 0 := by
  rcases List.eq_nil_or_concat bytes with rfl | ⟨front, last, rfl⟩
  · exact absurd ofBytes_eq.symm (by simp)
  · rw [List.concat_eq_append] at *
    refine ⟨last, List.getLast?_concat, ?_⟩
    rw [ofBytes_append, ofBytes_cons, ofBytes_nil, List.append_nil] at ofBytes_eq
    have hasOne : true ∈ ofByte last := by
      rcases List.append_eq_append_iff.mp ofBytes_eq with ⟨middle, _, last_eq⟩ | ⟨middle, _, ends⟩
      · rw [last_eq]
        exact List.mem_append_right middle List.mem_cons_self
      · -- The byte is no shorter than what the bits end in, so it is all of that.
        have lengths := congrArg List.length ends
        rw [List.length_append, List.length_cons, List.length_replicate, length_ofByte] at lengths
        have isNil : middle = [] := List.eq_nil_of_length_eq_zero (by omega)
        rw [isNil, List.nil_append] at ends
        rw [← ends]
        exact List.mem_cons_self
    rintro rfl
    exact Bool.noConfusion (eq_false_of_mem_ofByte_zero hasOne)

end CodedVideo.Bits
