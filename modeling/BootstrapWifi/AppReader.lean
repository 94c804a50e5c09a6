import BootstrapWifi.WifiPacketBounds

namespace BootstrapWifi

open Mealy ByteBuffer Spritz

/-- `check_send_header_and_decrypt` of the test app: the verdict and the packet, which is
decrypted in place with the app's own nonce. -/
def checkSendHeaderAndDecrypt (appNonce secret pkt : List UInt8) : Bool × List UInt8 :=
  if pkt.take networkHeader.length ≠ networkHeader then (false, pkt)
  else
    let pktLen := networkPacketSize - receivePktSize
    let c := spritzDecrypt ((pkt.drop receivePktSize).take pktLen) appNonce secret
    (bstCrc16 c pktLen = crcField pkt, withContent pkt c)

def window (pkt : List UInt8) (off n : ℕ) : Buffer n := (Buffer.zero n).write ((pkt.drop off).take n)

/-- The packet seen as a `bst_udp_send_pkt_t`. -/
def SendPkt.ofBytes (pkt : List UInt8) : SendPkt where
  crc := crcField pkt
  stateCode := command pkt
  deviceNonce := window pkt receivePktSize nonceSize
  uid := window pkt (receivePktSize + nonceSize) uidSize
  externalConfirmationState := pkt.getD (receivePktSize + nonceSize + uidSize) 0
  wifiListSizeInBytes := pkt.getD (receivePktSize + nonceSize + uidSize + 1) 0
  wifiListEntries := pkt.getD (receivePktSize + nonceSize + uidSize + 2) 0
  data := window pkt sendPktDataOffset dataSize

/-- The list that the packet says it carries. -/
def SendPkt.wifiList (p : SendPkt) : Option (List WifiListEntry) :=
  (Delimited.records readEntry p.wifiListEntries.toNat p.data.bytes).map Prod.fst

/-- The string behind the list. -/
def SendPkt.logMsg (p : SendPkt) : Option CString :=
  (readString (p.data.bytes.drop p.wifiListSizeInBytes.toNat)).map Prod.fst

/-- What an app that shares nonce and secret makes of a packet. -/
def readSendPkt (appNonce secret pkt : List UInt8) : Option SendPkt :=
  let r := checkSendHeaderAndDecrypt appNonce secret pkt
  if r.1 then some (SendPkt.ofBytes r.2) else none

variable {L : Layout} {s : Instance} {list : List WifiListEntry} {pkt out : List UInt8}
  {p : SendPkt}

theorem window_append (before after : List UInt8) {n : ℕ} (b : Buffer n) :
    window (before ++ (b.bytes ++ after)) before.length n = b := by
  ext1
  have hb : ((before ++ (b.bytes ++ after)).drop before.length).take n = b.bytes := by
    rw [List.drop_left]
    exact List.take_left' b.length_bytes
  rw [window, hb, Buffer.write_full _ b.length_bytes]

theorem getD_append (before after : List UInt8) (x : UInt8) :
    (before ++ x :: after).getD before.length 0 = x := by
  simp

/-- What stands in front of the uid, the three counters and the data area. -/
def SendPkt.uidPrefix (p : SendPkt) : List UInt8 :=
  networkHeader ++ p.crc ++ [p.stateCode] ++ p.deviceNonce.bytes

def SendPkt.countersPrefix (p : SendPkt) : List UInt8 := p.uidPrefix ++ p.uid.bytes

theorem bytes_eq_counters (p : SendPkt) : p.bytes = p.countersPrefix ++
    p.externalConfirmationState :: p.wifiListSizeInBytes :: p.wifiListEntries :: p.data.bytes := by
  simp [SendPkt.bytes, SendPkt.countersPrefix, SendPkt.uidPrefix]

def SendPkt.payload (p : SendPkt) : List UInt8 :=
  p.deviceNonce.bytes ++ p.uid.bytes ++
    [p.externalConfirmationState, p.wifiListSizeInBytes, p.wifiListEntries] ++ p.data.bytes

theorem bytes_eq_payload (p : SendPkt) :
    p.bytes = networkHeader ++ p.crc ++ [p.stateCode] ++ p.payload := by
  simp [SendPkt.bytes, SendPkt.payload]

section Layout

variable (hcrc : p.crc.length = crcSize)
include hcrc

theorem length_uidPrefix : p.uidPrefix.length = receivePktSize + nonceSize := by
  simp only [SendPkt.uidPrefix, List.length_append, List.length_singleton, Buffer.length_bytes,
    hcrc]
  rfl

theorem length_countersPrefix : p.countersPrefix.length = receivePktSize + nonceSize + uidSize := by
  rw [SendPkt.countersPrefix, List.length_append, length_uidPrefix hcrc, Buffer.length_bytes]

theorem crcField_bytes : crcField p.bytes = p.crc := by
  have hb : p.bytes = networkHeader ++ (p.crc ++ ([p.stateCode] ++ p.deviceNonce.bytes ++ p.uid.bytes ++
      [p.externalConfirmationState, p.wifiListSizeInBytes, p.wifiListEntries] ++ p.data.bytes)) := by
    simp [SendPkt.bytes]
  rw [crcField, hb, List.drop_left]
  exact List.take_left' hcrc

theorem command_bytes : command p.bytes = p.stateCode := by
  have hl : (networkHeader ++ p.crc).length = receivePktSize - 1 := by
    rw [List.length_append, hcrc]
    rfl
  have hb : p.bytes = (networkHeader ++ p.crc) ++ p.stateCode :: (p.deviceNonce.bytes ++ p.uid.bytes ++
      [p.externalConfirmationState, p.wifiListSizeInBytes, p.wifiListEntries] ++ p.data.bytes) := by
    simp [SendPkt.bytes]
  rw [command, hb, ← hl, getD_append]

theorem content_bytes : content p.bytes = p.payload := by
  have hn : (networkHeader ++ p.crc ++ [p.stateCode]).length = receivePktSize := by
    rw [List.length_append, List.length_append, hcrc]
    rfl
  rw [content, bytes_eq_payload, List.drop_left' hn]

/-- The layout a packet is read with is the one it was written with. -/
theorem ofBytes_bytes : SendPkt.ofBytes p.bytes = p := by
  have hl := length_countersPrefix hcrc
  have hbytes := bytes_eq_counters p
  have hnonce : window p.bytes receivePktSize nonceSize = p.deviceNonce := by
    have hb : p.bytes = (networkHeader ++ p.crc ++ [p.stateCode]) ++ (p.deviceNonce.bytes ++
        (p.uid.bytes ++ [p.externalConfirmationState, p.wifiListSizeInBytes, p.wifiListEntries] ++
          p.data.bytes)) := by
      simp [SendPkt.bytes]
    have hn : (networkHeader ++ p.crc ++ [p.stateCode]).length = receivePktSize := by
      rw [List.length_append, List.length_append, hcrc]
      rfl
    rw [hb, ← hn, window_append]
  have huid : window p.bytes (receivePktSize + nonceSize) uidSize = p.uid := by
    rw [hbytes, SendPkt.countersPrefix, List.append_assoc, ← length_uidPrefix hcrc, window_append]
  have hdata : window p.bytes sendPktDataOffset dataSize = p.data := by
    have hb : p.bytes = (p.countersPrefix ++ [p.externalConfirmationState, p.wifiListSizeInBytes,
        p.wifiListEntries]) ++ (p.data.bytes ++ []) := by
      rw [hbytes, List.append_assoc, List.append_nil]
      rfl
    have hn : (p.countersPrefix ++ [p.externalConfirmationState, p.wifiListSizeInBytes,
        p.wifiListEntries]).length = sendPktDataOffset := by
      rw [List.length_append, hl]
      rfl
    rw [hb, ← hn, window_append]
  have hconfirm : p.bytes.getD (receivePktSize + nonceSize + uidSize) 0 =
      p.externalConfirmationState := by
    rw [hbytes, ← hl, getD_append]
  have hcounter (k : ℕ) : p.bytes.getD (receivePktSize + nonceSize + uidSize + k) 0 =
      (p.externalConfirmationState :: p.wifiListSizeInBytes :: p.wifiListEntries ::
        p.data.bytes).getD k 0 := by
    rw [hbytes, ← hl, List.getD_append_right _ _ _ _ (Nat.le_add_right _ _), Nat.add_sub_cancel_left]
  have hsize := hcounter 1
  have hentries := hcounter 2
  simp only [List.getD_cons_succ, List.getD_cons_zero] at hsize hentries
  simp only [SendPkt.ofBytes, crcField_bytes hcrc, command_bytes hcrc, hnonce, huid, hdata, hconfirm,
    hsize, hentries]

/-- What the device protects, the app reads with all its fields, the checksum filled in. -/
theorem readSendPkt_sent : readSendPkt s.state.prvAppNonce.bytes (s.secret L)
    (prvAddChecksumAndEncrypt L p.bytes s) =
      some { p with crc := bstCrc16 (content p.bytes) (networkPacketSize - receivePktSize) } := by
  have hlen := length_sendPkt p hcrc
  have hl : receivePktSize ≤ p.bytes.length := by
    rw [hlen]
    decide
  have hhead : p.bytes.take networkHeader.length = networkHeader := List.take_left' rfl
  have hg : Genuine L s p.bytes (prvAddChecksumAndEncrypt L p.bytes s) := genuine_sent hl hhead
  have hout := length_sent (L := L) (s := s) hl
  have hcontent : ((prvAddChecksumAndEncrypt L p.bytes s).drop receivePktSize).take
      (networkPacketSize - receivePktSize) = content (prvAddChecksumAndEncrypt L p.bytes s) := by
    refine List.take_of_length_le (Nat.le_of_eq ?_)
    rw [List.length_drop, hout, hlen]
  have hsize : (content (prvAddChecksumAndEncrypt L p.bytes s)).length =
      networkPacketSize - receivePktSize := by
    rw [content, List.length_drop, hout, hlen]
  have hvalid := hg.crc
  rw [hg.plain, hsize] at hvalid
  have hplain : withContent (prvAddChecksumAndEncrypt L p.bytes s) (content p.bytes) =
      SendPkt.bytes
        { p with crc := bstCrc16 (content p.bytes) (networkPacketSize - receivePktSize) } := by
    have htake : (prvAddChecksumAndEncrypt L p.bytes s).take receivePktSize = sentHead p.bytes :=
      List.take_left' (length_sentHead hl)
    have hn : p.bytes.length - receivePktSize = networkPacketSize - receivePktSize := by rw [hlen]
    rw [withContent, htake, sentHead, hhead, command_bytes hcrc, hn, content_bytes hcrc,
      bytes_eq_payload]
    rfl
  unfold readSendPkt checkSendHeaderAndDecrypt
  rw [if_neg (not_not.mpr hg.header)]
  simp only [hcontent, hg.plain, hvalid, decide_true, if_true, hplain]
  rw [ofBytes_bytes rfl]

end Layout

/-- What the app is told with a list: the state the device has fallen back with, the nonce to
answer with, and the networks on offer. -/
structure TellsList (list : List WifiListEntry) (s : Instance) (p : SendPkt) : Prop where
  stateCode : p.stateCode = s.state.lastError.code
  deviceNonce : p.deviceNonce = s.state.prvDeviceNonce
  uid : p.uid = s.options.uniqueDeviceId
  confirmation : p.externalConfirmationState = confirmState s
  wifiList : p.wifiList = some (offered list s)
  logMsg : totalSize (offered list s) < 256 → RoomForLog list s → p.logMsg = some (logString s)

theorem tellsList_wifiListPacket (list : List WifiListEntry) (s : Instance) (crc : List UInt8) :
    TellsList list s { wifiListPacket list s with crc := crc } where
  stateCode := rfl
  deviceNonce := rfl
  uid := rfl
  confirmation := rfl
  wifiList := records_offered list s
  logMsg := by
    intro hsize hroom
    obtain ⟨mem, hdata, hlog⟩ := wifiListPacket_data list s
    obtain ⟨after, rfl⟩ := hlog hroom
    have hn := wifiListSizeInBytes_toNat list s
    rw [Nat.mod_eq_of_lt hsize] at hn
    change (readString ((wifiListPacket list s).data.bytes.drop
      (wifiListPacket list s).wifiListSizeInBytes.toNat)).map Prod.fst = _
    rw [hn, hdata, ← length_flatMap_encode, List.drop_left, readString_append]
    rfl

theorem sent_of_networkOutput (h : .networkOutput out ∈ bstWifiNetworkList L list s) :
    out = prvAddChecksumAndEncrypt L (wifiListPacket list s).bytes s := by
  unfold bstWifiNetworkList at h
  split at h
  · cases h
  · exact Action.networkOutput.inj (List.mem_singleton.mp h)

/-- Whatever the device answers to a scan, an app with its nonce and its secret can read, and
what it reads is the state of the device and the networks that fit. -/
theorem app_reads_list (h : .networkOutput out ∈ bstWifiNetworkList L list s) :
    ∃ p, readSendPkt s.state.prvAppNonce.bytes (s.secret L) out = some p ∧ TellsList list s p := by
  rw [sent_of_networkOutput h]
  exact ⟨_, readSendPkt_sent rfl, tellsList_wifiListPacket list s _⟩

def homeScan : List WifiListEntry :=
  [⟨.ofChars ['l', 'a', 'n'], 80, 2⟩, ⟨.ofChars ['B', 'S'], 90, 0⟩]

/-- A network whose name begins that of the bootstrap network is not in the list. -/
theorem sample_app_reads_list :
    ∃ p, readSendPkt sampleDevice.inst.state.prvAppNonce.bytes (sampleDevice.inst.secret lp64)
        (prvAddChecksumAndEncrypt lp64 (wifiListPacket homeScan sampleDevice.inst).bytes
          sampleDevice.inst) = some p ∧
      TellsList homeScan sampleDevice.inst p ∧
      offered homeScan sampleDevice.inst = [⟨.ofChars ['l', 'a', 'n'], 80, 2⟩] := by
  have hsent : bstWifiNetworkList lp64 homeScan sampleDevice.inst = [.networkOutput
      (prvAddChecksumAndEncrypt lp64 (wifiListPacket homeScan sampleDevice.inst).bytes
        sampleDevice.inst)] := if_neg (not_not.mpr rfl)
  have hmem : Action.networkOutput (prvAddChecksumAndEncrypt lp64
      (wifiListPacket homeScan sampleDevice.inst).bytes sampleDevice.inst) ∈
        bstWifiNetworkList lp64 homeScan sampleDevice.inst := by
    rw [hsent]
    exact List.mem_singleton_self _
  obtain ⟨p, hread, htells⟩ := app_reads_list hmem
  exact ⟨p, hread, htells, by decide⟩

end BootstrapWifi
