import BootstrapWifi.Crc16
import BootstrapWifi.ShiftRegister

namespace BootstrapWifi

theorem crc16Shift_toBitVec (wCrc : UInt16) :
    (crc16Shift wCrc).toBitVec = ShiftRegister.shift crc16Poly.toBitVec wCrc.toBitVec := by
  have hand : (wCrc &&& 0x8000).toBitVec = if wCrc.toBitVec.msb then 0x8000#16 else 0#16 := by
    rw [BitVec.msb_eq_getLsbD_last]
    exact BitVec.and_twoPow wCrc.toBitVec 15
  have htop : wCrc &&& 0x8000 ≠ 0 ↔ wCrc.toBitVec.msb = true := by
    rw [← UInt16.toBitVec_inj.ne, hand]
    cases wCrc.toBitVec.msb <;> simp
  unfold crc16Shift ShiftRegister.shift
  by_cases h : wCrc.toBitVec.msb = true
  · rw [if_pos (htop.mpr h), if_pos h, UInt16.toBitVec_xor, UInt16.toBitVec_shiftLeft]
    rfl
  · rw [if_neg (htop.not.mpr h), if_neg h, UInt16.toBitVec_shiftLeft]
    exact (BitVec.xor_zero).symm

theorem crc16Byte_toBitVec (wCrc : UInt16) (b : UInt8) :
    (crc16Byte wCrc b).toBitVec =
      ShiftRegister.absorb crc16Poly.toBitVec wCrc.toBitVec b.toBitVec := by
  have hiter (n : ℕ) (r : UInt16) : (crc16Shift^[n] r).toBitVec =
      (ShiftRegister.shift crc16Poly.toBitVec)^[n] r.toBitVec := by
    induction n generalizing r with
    | zero => rfl
    | succ n ih =>
      rw [Function.iterate_succ_apply, Function.iterate_succ_apply, ih, crc16Shift_toBitVec]
  rw [crc16Byte, hiter, ShiftRegister.absorb, UInt16.toBitVec_xor]
  rfl

theorem crc16Register_foldl (pData : List UInt8) (wCrc : UInt16) :
    (pData.foldl crc16Byte wCrc).toBitVec = (pData.map UInt8.toBitVec).foldl
      (ShiftRegister.absorb crc16Poly.toBitVec) wCrc.toBitVec := by
  induction pData generalizing wCrc with
  | nil => rfl
  | cons b pData ih => rw [List.foldl_cons, ih, crc16Byte_toBitVec]; rfl

/-- The two bytes of the checksum hold the whole register. -/
theorem crc16Register_of_bstCrc16 {p q : List UInt8} {m n : ℕ} (h : bstCrc16 p m = bstCrc16 q n) :
    crc16Register p m = crc16Register q n := by
  have bytes (r : UInt16) : r.toNat =
      ((r >>> 8) &&& 0xff).toUInt8.toNat * 256 + (r &&& 0xff).toUInt8.toNat := by
    have hr : r.toNat < 65536 := r.toNat_lt
    have hmask (n : ℕ) : n &&& 255 = n % 256 := Nat.and_two_pow_sub_one_eq_mod n 8
    simp [Nat.shiftRight_eq_div_pow, hmask]
    omega
  obtain ⟨hhigh, hlow⟩ := List.cons.inj h
  apply UInt16.toNat.inj
  rw [bytes (crc16Register p m), bytes (crc16Register q n), hhigh, (List.cons.inj hlow).1]

/-- The checksum tells two messages apart that differ in one byte or in two adjacent ones. -/
theorem bstCrc16_burst {bs cs : List UInt8} (hl : bs.length = cs.length) (hb : bs.length ≤ 2)
    (hne : bs ≠ cs) (before after : List UInt8)
    (hn : (before ++ bs ++ after).length < 65536) :
    bstCrc16 (before ++ bs ++ after) (before ++ bs ++ after).length ≠
      bstCrc16 (before ++ cs ++ after) (before ++ cs ++ after).length := by
  intro h
  have hreg := crc16Register_of_bstCrc16 h
  have hn' : (before ++ cs ++ after).length < 65536 := by simpa [hl] using hn
  rw [crc16Register, crc16Register, Nat.mod_eq_of_lt hn, Nat.mod_eq_of_lt hn', List.take_length,
    List.take_length] at hreg
  have hfold := congrArg UInt16.toBitVec hreg
  rw [crc16Register_foldl, crc16Register_foldl, List.map_append, List.map_append, List.map_append,
    List.map_append] at hfold
  refine ShiftRegister.foldl_absorb_burst (by decide) ?_ ?_ ?_ _ _ _ hfold
  · rw [List.length_map, List.length_map, hl]
  · rw [List.length_map]
    omega
  · intro hmap
    exact hne (List.map_injective_iff.mpr (fun _ _ ↦ UInt8.toBitVec_inj.mp) hmap)

end BootstrapWifi
