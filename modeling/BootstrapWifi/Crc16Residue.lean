import BootstrapWifi.Crc16Burst

namespace BootstrapWifi

open ShiftRegister

/-- The loop from any value of the register. -/
def crc16Loop (wCrc : UInt16) (pData : List UInt8) (size : ℕ) : UInt16 :=
  (pData.take (size % 65536)).foldl crc16Byte wCrc

/-- `crc[0]` and `crc[1]` of the result. -/
def crcBytes (wCrc : UInt16) : List UInt8 :=
  [((wCrc >>> 8) &&& 0xff).toUInt8, (wCrc &&& 0xff).toUInt8]

theorem bstCrc16_eq (pData : List UInt8) (size : ℕ) :
    bstCrc16 pData size = crcBytes (crc16Loop 0xffff pData size) := rfl

theorem crc16Loop_toBitVec (wCrc : UInt16) {pData : List UInt8} (hn : pData.length < 65536) :
    (crc16Loop wCrc pData pData.length).toBitVec =
      (pData.map UInt8.toBitVec).foldl (absorb crc16Poly.toBitVec) wCrc.toBitVec := by
  rw [crc16Loop, Nat.mod_eq_of_lt hn, List.take_length, crc16Register_foldl]

theorem crcBytes_toBitVec (wCrc : UInt16) : (crcBytes wCrc).map UInt8.toBitVec =
    [(wCrc.toBitVec >>> 8).setWidth 8, wCrc.toBitVec.setWidth 8] := by
  have hmask (r : UInt16) : ((r &&& 0xff).toUInt8).toBitVec = r.toBitVec.setWidth 8 := by
    have hlow : (0xff : UInt16).toBitVec.setWidth 8 = BitVec.allOnes 8 := by decide
    rw [UInt16.toBitVec_toUInt8, UInt16.toBitVec_and, BitVec.setWidth_and, hlow,
      BitVec.and_allOnes]
  have hshift : (wCrc >>> 8).toBitVec = wCrc.toBitVec >>> 8 := rfl
  rw [crcBytes, List.map_cons, List.map_cons, List.map_nil, hmask, hmask, hshift]

/-- The checksum is the register, the high byte first. -/
theorem packed_crcBytes (wCrc : UInt16) :
    packed ((crcBytes wCrc).map UInt8.toBitVec) = wCrc.toBitVec := by
  rw [crcBytes_toBitVec]
  apply BitVec.eq_of_getLsbD_eq
  intro i hi
  simp only [packed, BitVec.getLsbD_xor, BitVec.getLsbD_ushiftRight,
    getLsbD_top (show 8 ≤ 16 by decide), BitVec.getLsbD_setWidth]
  by_cases h : 8 ≤ i
  · have hi' : i - 8 < 8 := by omega
    simp [h, hi', Nat.not_lt.mpr h]
  · have hi' : i < 8 := by omega
    simp [h, hi']

theorem crcBytes_xor (a b : UInt16) :
    crcBytes (a ^^^ b) = List.zipWith (· ^^^ ·) (crcBytes a) (crcBytes b) := by
  have hzip : (List.zipWith (· ^^^ ·) (crcBytes a) (crcBytes b)).map UInt8.toBitVec =
      List.zipWith (· ^^^ ·) ((crcBytes a).map UInt8.toBitVec)
        ((crcBytes b).map UInt8.toBitVec) := rfl
  apply List.map_injective_iff.mpr (fun _ _ h ↦ UInt8.toBitVec_inj.mp h)
  rw [hzip, crcBytes_toBitVec, crcBytes_toBitVec, crcBytes_toBitVec, UInt16.toBitVec_xor,
    BitVec.ushiftRight_xor_distrib, BitVec.setWidth_xor, BitVec.setWidth_xor]
  rfl

theorem crc16Loop_xor {a b : List UInt8} (hl : a.length = b.length) (hn : a.length < 65536)
    (r r' : UInt16) : crc16Loop (r ^^^ r') (List.zipWith (· ^^^ ·) a b) a.length =
      crc16Loop r a a.length ^^^ crc16Loop r' b b.length := by
  have hz : (List.zipWith (· ^^^ ·) a b).length = a.length := by
    rw [List.length_zipWith, hl, Nat.min_self]
  have hmap : (List.zipWith (· ^^^ ·) a b).map UInt8.toBitVec =
      List.zipWith (· ^^^ ·) (a.map UInt8.toBitVec) (b.map UInt8.toBitVec) := by
    rw [List.map_zipWith, List.zipWith_map]
    rfl
  have hloop := crc16Loop_toBitVec (r ^^^ r') (hz.symm ▸ hn)
  rw [hz, hmap, UInt16.toBitVec_xor, foldl_absorb_xor (by simpa using hl)] at hloop
  apply UInt16.toBitVec_inj.mp
  rw [hloop, UInt16.toBitVec_xor, crc16Loop_toBitVec r hn, crc16Loop_toBitVec r' (hl ▸ hn)]

theorem crc16Loop_append (wCrc : UInt16) {a b : List UInt8} (hn : (a ++ b).length < 65536) :
    crc16Loop wCrc (a ++ b) (a ++ b).length =
      crc16Loop (crc16Loop wCrc a a.length) b b.length := by
  have hl : (a ++ b).length = a.length + b.length := List.length_append
  rw [crc16Loop, crc16Loop, crc16Loop, Nat.mod_eq_of_lt hn, Nat.mod_eq_of_lt (by omega),
    Nat.mod_eq_of_lt (by omega), List.take_length, List.take_length, List.take_length,
    List.foldl_append]

/-- A message followed by its checksum has the checksum 0, and checksums differ as the
messages do. -/
theorem crc16_residue_and_linear :
    (∀ m : List UInt8, m.length ≤ 65533 →
      bstCrc16 (m ++ bstCrc16 m m.length) (m.length + 2) = [0, 0]) ∧
    ∀ a b : List UInt8, a.length = b.length → a.length ≤ 65535 →
      List.zipWith (· ^^^ ·) (bstCrc16 a a.length) (bstCrc16 b b.length) =
        crcBytes (crc16Loop 0 (List.zipWith (· ^^^ ·) a b) a.length) := by
  constructor
  · intro m hm
    have hl : (m ++ bstCrc16 m m.length).length = m.length + 2 := by
      rw [List.length_append, length_bstCrc16]
    have hself : crc16Loop (crc16Loop 0xffff m m.length) (bstCrc16 m m.length) 2 = 0 := by
      rw [bstCrc16_eq]
      generalize crc16Loop 0xffff m m.length = r
      have h2 : (crcBytes r).length < 65536 := by simp [crcBytes]
      have hloop := crc16Loop_toBitVec r h2
      rw [← packed_crcBytes r, foldl_absorb_self (by simp [crcBytes])] at hloop
      exact UInt16.toBitVec_inj.mp hloop
    rw [bstCrc16_eq (m ++ bstCrc16 m m.length), ← hl, crc16Loop_append _ (by omega),
      length_bstCrc16, hself]
    rfl
  · intro a b hl hn
    have hxor : (0 : UInt16) = 0xffff ^^^ 0xffff := rfl
    rw [bstCrc16_eq, bstCrc16_eq, ← crcBytes_xor, hxor, crc16Loop_xor hl (by omega)]

theorem sample_crc16_residue : bstCrc16 ([49, 50] ++ bstCrc16 [49, 50] 2) (2 + 2) = [0, 0] :=
  crc16_residue_and_linear.1 [49, 50] (by decide)

end BootstrapWifi
