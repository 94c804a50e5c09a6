import BootstrapWifi.AppSession
import BootstrapWifi.Packet
import BootstrapWifi.Setup

namespace BootstrapWifi

open ByteBuffer AccessLog Spritz

variable (L : Layout)

/-- `memcpy` to `crypto_secret`, recording the offsets it writes. -/
def writeSecret (key : List UInt8) (s : Instance) : Logged Access Instance where
  val := copySecret L key s
  log := (List.range key.length).map .secret

/-- `case CMD_HELLO` -/
def inputHello (now : Time) (random : UInt64) (pkt : List UInt8) (s : Instance) :
    Logged Access Instance :=
  if pkt.length < helloReceivePktSize then pure s
  else do
    let appNonce ← readPacket L pkt receivePktSize nonceSize
    let session := prvEnterAndKeepAppSession now random appNonce s
    if session.1 then return { session.2 with flags.requestWifiList := true }
    else return session.2

/-- `case CMD_BIND` -/
def inputBind (now : Time) (pkt : List UInt8) (s : Instance) : Logged Access Instance :=
  let session := prvIsAppSessionValid now s
  let s := session.2
  if ¬ session.1 then pure s
  else if pkt.length < bindReceivePktSize then pure s
  else if s.flags.requestBind then pure s
  else do
    let newBindKeyLen ← readByte L pkt receivePktSize
    let newBindKey ← readPacket L pkt (receivePktSize + 1) newBindKeyLen.toNat
    let s ← writeSecret L newBindKey s
    return { s with cryptoSecretLen := newBindKeyLen, flags.requestBind := true }

/-- `case CMD_SET_DATA` -/
def inputSetData (now : Time) (pkt : List UInt8) (s : Instance) : Logged Access Instance :=
  let session := prvIsAppSessionValid now s
  let s := session.2
  if ¬ session.1 then pure s
  else if pkt.length < bootstrapReceivePktSize then pure s
  else if s.options.externalConfirmationMode ≠ .notRequired ∧ ¬ s.flags.externalConfirmation then
    pure s
  else if s.flags.requestSetWifi then pure s
  else do
    let size := pkt.length - receivePktSize
    let bootstrapData ← readPacket L pkt receivePktSize (min size (storageRamSize - 3))
    return { prvAssignData bootstrapData s with flags.requestSetWifi := true }

def bstNetworkInput (now : Time) (random : UInt64) (data : List UInt8) (s : Instance) :
    Logged Access Instance :=
  if s.state.state ≠ .waitingForData ∨ data.length < receivePktSize then pure s
  else do
    let r ← prvCheckHeaderAndDecrypt L data s
    let pkt := r.2
    if ¬ r.1 then return s
    else
      let commandCode ← readByte L pkt (receivePktSize - 1)
      if commandCode = cmdHello then inputHello L now random pkt s
      else if commandCode = cmdBind then inputBind L now pkt s
      else if commandCode = cmdSetData then inputSetData L now pkt s
      else return s

end BootstrapWifi
