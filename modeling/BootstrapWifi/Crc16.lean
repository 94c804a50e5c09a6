import Mathlib.Logic.Function.Iterate

namespace BootstrapWifi

def crc16Poly : UInt16 := 0x1021

def crc16Shift (wCrc : UInt16) : UInt16 :=
  if wCrc &&& 0x8000 ≠ 0 then (wCrc <<< 1) ^^^ crc16Poly else wCrc <<< 1

def crc16Byte (wCrc : UInt16) (b : UInt8) : UInt16 :=
  crc16Shift^[8] (wCrc ^^^ (b.toUInt16 <<< 8))

/-- The register after the loop. The size argument is a `uint16_t`. -/
def crc16Register (pData : List UInt8) (size : ℕ) : UInt16 :=
  (pData.take (size % 65536)).foldl crc16Byte 0xffff

def bstCrc16 (pData : List UInt8) (size : ℕ) : List UInt8 :=
  let wCrc := crc16Register pData size
  [((wCrc >>> 8) &&& 0xff).toUInt8, (wCrc &&& 0xff).toUInt8]

@[simp] theorem length_bstCrc16 (pData : List UInt8) (size : ℕ) :
    (bstCrc16 pData size).length = 2 := rfl

theorem bstCrc16_take (pData : List UInt8) (size : ℕ) :
    bstCrc16 (pData.take (size % 65536)) size = bstCrc16 pData size := by
  simp only [bstCrc16, crc16Register, List.take_take, Nat.min_self]

end BootstrapWifi
