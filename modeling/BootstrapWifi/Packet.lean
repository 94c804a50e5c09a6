import BootstrapWifi.AccessLog
import BootstrapWifi.Crc16
import BootstrapWifi.Instance
import BootstrapWifi.Spritz

namespace BootstrapWifi

open ByteBuffer AccessLog Spritz

variable (L : Layout)

def receivePktSize : ℕ := networkHeader.length + crcSize + 1
def helloReceivePktSize : ℕ := receivePktSize + nonceSize
def bindReceivePktSize : ℕ := receivePktSize + 1 + bindkeyMaxSize
def bootstrapReceivePktSize : ℕ := receivePktSize + storageRamSize

theorem receivePktSize_eq : receivePktSize = 11 := rfl
theorem helloReceivePktSize_eq : helloReceivePktSize = 19 := rfl
theorem bindReceivePktSize_eq : bindReceivePktSize = 44 := rfl
theorem bootstrapReceivePktSize_eq : bootstrapReceivePktSize = 523 := rfl

def cmdHello : UInt8 := 1
def cmdSetData : UInt8 := 2
def cmdBind : UInt8 := 3

/-- A byte of the packet that is read, or a byte of `crypto_secret` that is written. -/
inductive Access
  | packet (i : ℕ)
  | secret (i : ℕ)
deriving DecidableEq

def Access.InBounds (len : ℕ) : Access → Prop
  | .packet i => i < len
  | .secret i => i < bindkeyMaxSize

def readPacket (pkt : List UInt8) (off n : ℕ) : Logged Access (List UInt8) where
  val := ((pkt ++ (L.behindPacket pkt).bytes).drop off).take n
  log := (List.range' off n).map .packet

def readByte (pkt : List UInt8) (off : ℕ) : Logged Access UInt8 where
  val := (pkt ++ (L.behindPacket pkt).bytes).getD off 0
  log := [.packet off]

theorem within_readPacket (pkt : List UInt8) (off n len : ℕ) :
    (readPacket L pkt off n).Within (Access.InBounds len) ↔ n = 0 ∨ off + n ≤ len := by
  simp only [Logged.Within, readPacket, List.forall_mem_map, List.mem_range'_1, Access.InBounds]
  constructor
  · intro h
    by_contra hn
    have hlast := h (off + n - 1) (by omega)
    omega
  · intro h i hi
    omega

@[simp] theorem within_readByte (pkt : List UInt8) (off len : ℕ) :
    (readByte L pkt off).Within (Access.InBounds len) ↔ off < len := by
  simp [Logged.Within, readByte, Access.InBounds]

theorem val_readPacket {pkt : List UInt8} {off n : ℕ} (h : off + n ≤ pkt.length) :
    (readPacket L pkt off n).val = (pkt.drop off).take n := by
  have h₁ : off ≤ pkt.length := by omega
  have h₂ : n ≤ (pkt.drop off).length := by
    rw [List.length_drop]
    omega
  simp only [readPacket]
  rw [List.drop_append_of_le_length h₁, List.take_append_of_le_length h₂]

theorem val_readByte {pkt : List UInt8} {off : ℕ} (h : off < pkt.length) :
    (readByte L pkt off).val = pkt.getD off 0 := by
  simp only [readByte, List.getD_eq_getElem?_getD, List.getElem?_append_left h]

def content (pkt : List UInt8) : List UInt8 := pkt.drop receivePktSize

def command (pkt : List UInt8) : UInt8 := pkt.getD (receivePktSize - 1) 0

def withContent (pkt c : List UInt8) : List UInt8 := pkt.take receivePktSize ++ c

def prvCrc16IsValid (pkt : List UInt8) : Logged Access Bool := do
  let size := pkt.length - receivePktSize
  let c ← readPacket L pkt receivePktSize (size % 65536)
  let crc ← readPacket L pkt networkHeader.length crcSize
  return bstCrc16 c size = crc

/-- The verdict and the packet, whose content is decrypted in place. -/
def prvCheckHeaderAndDecrypt (pkt : List UInt8) (s : Instance) :
    Logged Access (Bool × List UInt8) := do
  let hdr ← readPacket L pkt 0 networkHeader.length
  if hdr ≠ networkHeader then return (false, pkt)
  else
    let commandCode ← readByte L pkt (receivePktSize - 1)
    if commandCode ≠ cmdHello then
      let c ← readPacket L pkt receivePktSize (pkt.length - receivePktSize)
      let pkt := withContent pkt (spritzDecrypt c s.state.prvDeviceNonce.bytes (s.secret L))
      let valid ← prvCrc16IsValid L pkt
      return (valid, pkt)
    else
      let valid ← prvCrc16IsValid L pkt
      return (valid, pkt)

end BootstrapWifi
