import BootstrapWifi.Packet

namespace BootstrapWifi

open ByteBuffer Spritz

variable (L : Layout)

structure WifiListEntry where
  ssid : CString
  strengthPercent : UInt8
  encryptionMode : UInt8
deriving DecidableEq

/-- Header, checksum, state code, nonce, uid and three counters come before the data. -/
def sendPktDataOffset : ℕ := receivePktSize + nonceSize + uidSize + 3

def dataSize : ℕ := networkPacketSize - sendPktDataOffset

@[simp] theorem dataSize_eq : dataSize = 484 := rfl

/-- The locals of the loop; `copied` collects the entries it has written. -/
structure ListCursor where
  wifiListEntries : UInt8
  wifiListSizeInBytes : UInt8
  bufferP : ℕ
  data : Buffer dataSize
  copied : List WifiListEntry

def ListCursor.start : ListCursor := ⟨0, 0, 0, .zero _, []⟩

def WifiListEntry.encode (e : WifiListEntry) : List UInt8 :=
  e.strengthPercent :: e.encryptionMode :: e.ssid.bytes ++ [0]

def WifiListEntry.size (e : WifiListEntry) : ℕ := e.ssid.bytes.length + 3

def ListCursor.add (c : ListCursor) (it : WifiListEntry) : ListCursor where
  wifiListEntries := c.wifiListEntries + 1
  wifiListSizeInBytes := c.wifiListSizeInBytes + (it.ssid.bytes.length + 2 + 1).toUInt8
  bufferP := c.bufferP + 2 + it.ssid.bytes.length + 1
  data := c.data.writeAt c.bufferP it.encode
  copied := c.copied ++ [it]

/-- `memcmp` over the length of the first string; the second one ends with its NUL. -/
def matchesPrefix (ssid bootstrapSsid : List UInt8) : Bool :=
  ssid == (bootstrapSsid ++ [0]).take ssid.length

def listLoop (bootstrapSsid : List UInt8) : List WifiListEntry → ListCursor → ListCursor
  | [], c => c
  | it :: next, c =>
    if c.bufferP + it.ssid.bytes.length + 3 > dataSize then c
    else if matchesPrefix it.ssid.bytes bootstrapSsid then listLoop bootstrapSsid next c
    else listLoop bootstrapSsid next (c.add it)

/-- The log text: the error message with its terminator, else the device name without. -/
def logText (s : Instance) : List UInt8 :=
  match s.state.errorLogMsg with
  | some msg => if s.state.lastError ≠ .ok then msg.bytes ++ [0] else s.options.name.bytes
  | none => s.options.name.bytes

def confirmState (s : Instance) : UInt8 :=
  if s.options.externalConfirmationMode = .notRequired then 0
  else if s.flags.externalConfirmation then 2 else 1

structure SendPkt where
  crc : List UInt8
  stateCode : UInt8
  deviceNonce : Buffer nonceSize
  uid : Buffer uidSize
  externalConfirmationState : UInt8
  wifiListSizeInBytes : UInt8
  wifiListEntries : UInt8
  data : Buffer dataSize
deriving DecidableEq

def SendPkt.bytes (p : SendPkt) : List UInt8 :=
  networkHeader ++ p.crc ++ [p.stateCode] ++ p.deviceNonce.bytes ++ p.uid.bytes ++
    [p.externalConfirmationState, p.wifiListSizeInBytes, p.wifiListEntries] ++ p.data.bytes

def prvAddHeader (s : Instance) : SendPkt where
  crc := [0, 0]
  stateCode := s.state.lastError.code
  deviceNonce := s.state.prvDeviceNonce
  uid := s.options.uniqueDeviceId
  externalConfirmationState := 0
  wifiListSizeInBytes := 0
  wifiListEntries := 0
  data := .zero _

def wifiListPacket (list : List WifiListEntry) (s : Instance) : SendPkt :=
  let c := listLoop ((s.options.bootstrapSsid.map (·.bytes)).getD []) list .start
  let log := logText s
  { prvAddHeader s with
    externalConfirmationState := confirmState s
    wifiListSizeInBytes := c.wifiListSizeInBytes
    wifiListEntries := c.wifiListEntries
    data := if c.bufferP + log.length < dataSize then c.data.writeAt c.bufferP log else c.data }

def prvAddChecksumAndEncrypt (pkt : List UInt8) (s : Instance) : List UInt8 :=
  let size := pkt.length - receivePktSize
  let crc := bstCrc16 (content pkt) size
  pkt.take networkHeader.length ++ crc ++ [command pkt] ++
    spritzEncrypt (content pkt) s.state.prvAppNonce.bytes (s.secret L)

def bstWifiNetworkList (list : List WifiListEntry) (s : Instance) : List Action :=
  if s.state.state ≠ .waitingForData then []
  else [.networkOutput (prvAddChecksumAndEncrypt L (wifiListPacket list s).bytes s)]

theorem sent_of_waiting {L : Layout} {list : List WifiListEntry} {s : Instance}
    (hm : s.state.state = .waitingForData) : bstWifiNetworkList L list s =
      [.networkOutput (prvAddChecksumAndEncrypt L (wifiListPacket list s).bytes s)] := by
  rw [bstWifiNetworkList, if_neg (not_not.mpr hm)]

/-- The call does nothing but send packets. -/
theorem wifiNetworkList_only {L : Layout} {list : List WifiListEntry} {s : Instance}
    {P : Action → Prop} (hP : ∀ out, P (.networkOutput out)) :
    ∀ a ∈ bstWifiNetworkList L list s, P a := by
  unfold bstWifiNetworkList
  split
  · exact List.forall_mem_nil _
  · exact List.forall_mem_singleton.mpr (hP _)

end BootstrapWifi
