import BootstrapWifi.PacketProtection
import BootstrapWifi.WifiFraming

namespace BootstrapWifi

open ByteBuffer AccessLog Spritz

variable {L : Layout} {own : List UInt8} {c : ListCursor} {it : WifiListEntry}
  {list : List WifiListEntry} {s : Instance} {out : List UInt8}

/-- The bytes of the data area that an entry is written to: two single ones, the copy of the
ssid and the terminator. -/
def addLogged (c : ListCursor) (it : WifiListEntry) : Logged ℕ ListCursor where
  val := c.add it
  log := [c.bufferP, c.bufferP + 1] ++ List.range' (c.bufferP + 2) it.ssid.bytes.length ++
    [c.bufferP + 2 + it.ssid.bytes.length]

/-- The copy of the log text behind the list, if there is room. -/
def copyLogLogged (c : ListCursor) (log : List UInt8) : Logged ℕ (Buffer dataSize) :=
  if c.bufferP + log.length < dataSize then
    { val := c.data.writeAt c.bufferP log
      log := List.range' c.bufferP log.length }
  else pure c.data

/-- `listLoop` with the bytes of the data area it writes. -/
def listLoopLogged (bootstrapSsid : List UInt8) :
    List WifiListEntry → ListCursor → Logged ℕ ListCursor
  | [], c => return c
  | it :: next, c =>
    if c.bufferP + it.ssid.bytes.length + 3 > dataSize then return c
    else if matchesPrefix it.ssid.bytes bootstrapSsid then listLoopLogged bootstrapSsid next c
    else do
      let c ← addLogged c it
      listLoopLogged bootstrapSsid next c

/-- `wifiListPacket` with the bytes of the data area it writes. -/
def wifiListPacketLogged (list : List WifiListEntry) (s : Instance) : Logged ℕ SendPkt := do
  let c ← listLoopLogged ((s.options.bootstrapSsid.map (·.bytes)).getD []) list .start
  let data ← copyLogLogged c (logText s)
  return { prvAddHeader s with
    externalConfirmationState := confirmState s
    wifiListSizeInBytes := c.wifiListSizeInBytes
    wifiListEntries := c.wifiListEntries
    data := data }

theorem val_listLoopLogged (own : List UInt8) (list : List WifiListEntry) (c : ListCursor) :
    (listLoopLogged own list c).val = listLoop own list c := by
  induction list generalizing c with
  | nil => exact rfl
  | cons it next ih =>
    unfold listLoopLogged listLoop
    rw [Logged.val_ite, Logged.val_ite, Logged.val_bind, ih, ih]
    exact rfl

theorem val_copyLogLogged (c : ListCursor) (log : List UInt8) :
    (copyLogLogged c log).val =
      if c.bufferP + log.length < dataSize then c.data.writeAt c.bufferP log else c.data := by
  unfold copyLogLogged
  rw [Logged.val_ite]
  exact rfl

theorem val_wifiListPacketLogged (list : List WifiListEntry) (s : Instance) :
    (wifiListPacketLogged list s).val = wifiListPacket list s := by
  simp only [wifiListPacketLogged, Logged.val_bind, Logged.val_pure, val_copyLogLogged,
    val_listLoopLogged]
  exact rfl

theorem within_addLogged (h : c.bufferP + it.ssid.bytes.length + 3 ≤ dataSize) :
    (addLogged c it).Within (· < dataSize) := by
  intro i hi
  rcases List.mem_append.mp hi with hi | hi
  · rcases List.mem_append.mp hi with hi | hi
    · rcases List.mem_cons.mp hi with rfl | hi
      · omega
      · have := List.mem_singleton.mp hi
        omega
    · obtain ⟨-, hlt⟩ := List.mem_range'_1.mp hi
      omega
  · have := List.mem_singleton.mp hi
    omega

theorem within_listLoopLogged (own : List UInt8) (list : List WifiListEntry) (c : ListCursor) :
    (listLoopLogged own list c).Within (· < dataSize) := by
  induction list generalizing c with
  | nil => exact Logged.within_pure _ _
  | cons it next ih =>
    unfold listLoopLogged
    split
    · exact Logged.within_pure _ _
    next hfit =>
      split
      · exact ih c
      · rw [Logged.within_bind]
        exact ⟨within_addLogged (not_lt.mp hfit), ih _⟩

theorem within_copyLogLogged (c : ListCursor) (log : List UInt8) :
    (copyLogLogged c log).Within (· < dataSize) := by
  unfold copyLogLogged
  split
  next hroom =>
    intro i hi
    obtain ⟨-, hlt⟩ := List.mem_range'_1.mp hi
    exact hlt.trans hroom
  · exact Logged.within_pure _ _

theorem within_wifiListPacketLogged (list : List WifiListEntry) (s : Instance) :
    (wifiListPacketLogged list s).Within (· < dataSize) := by
  unfold wifiListPacketLogged
  rw [Logged.within_bind, Logged.within_bind]
  exact ⟨within_listLoopLogged _ _ _, within_copyLogLogged _ _, Logged.within_pure _ _⟩

theorem length_sendPkt (p : SendPkt) (hcrc : p.crc.length = crcSize) :
    p.bytes.length = networkPacketSize := by
  simp only [SendPkt.bytes, List.length_append, List.length_cons, List.length_nil,
    Buffer.length_bytes, hcrc]
  exact rfl

theorem length_wifiListPacket (list : List WifiListEntry) (s : Instance) :
    (wifiListPacket list s).bytes.length = networkPacketSize := length_sendPkt _ rfl

/-- What the app finds after decryption is what the checksum is of. -/
structure Genuine (L : Layout) (s : Instance) (pkt out : List UInt8) : Prop where
  header : out.take networkHeader.length = networkHeader
  plain : spritzDecrypt (content out) s.state.prvAppNonce.bytes (s.secret L) = content pkt
  crc : crcField out = bstCrc16
    (spritzDecrypt (content out) s.state.prvAppNonce.bytes (s.secret L)) (content out).length

theorem genuine_sent {pkt : List UInt8} (h : receivePktSize ≤ pkt.length)
    (hh : pkt.take networkHeader.length = networkHeader) :
    Genuine L s pkt (prvAddChecksumAndEncrypt L pkt s) := by
  have hplain : spritzDecrypt (content (prvAddChecksumAndEncrypt L pkt s))
      s.state.prvAppNonce.bytes (s.secret L) = content pkt := by
    rw [content_sent h]
    exact spritzDecrypt_spritzEncrypt _ _ _
  refine ⟨(sameEnvelope_sent h).header.trans hh, hplain, ?_⟩
  rw [hplain, crcField_sent h, content_sent h, length_spritzEncrypt, content, List.length_drop]

theorem genuine_of_networkOutput (h : .networkOutput out ∈ bstWifiNetworkList L list s) :
    Genuine L s (wifiListPacket list s).bytes out := by
  unfold bstWifiNetworkList at h
  split at h
  · cases h
  · obtain rfl := Action.networkOutput.inj (List.mem_singleton.mp h)
    refine genuine_sent ?_ (List.take_left' rfl)
    rw [length_wifiListPacket]
    decide

/-- The list and the log text are written inside the data area and zeros follow them, the
number of entries is right, and while the device waits for data one packet goes out, which is one
the app can check. -/
theorem wifi_list_packet_bounds (L : Layout) (list : List WifiListEntry) (s : Instance) :
    (wifiListPacketLogged list s).Within (· < dataSize) ∧
      (wifiListPacketLogged list s).val = wifiListPacket list s ∧
      (RoomForLog list s → ∃ k, (wifiListPacket list s).data.bytes =
        (copiedEntries list s).flatMap WifiListEntry.encode ++
          (logText s ++ List.replicate (k + 1) 0)) ∧
      (wifiListPacket list s).wifiListEntries.toNat = (copiedEntries list s).length ∧
      (s.state.state = .waitingForData → ∃ out, bstWifiNetworkList L list s = [.networkOutput out] ∧
        out.length = networkPacketSize ∧ Genuine L s (wifiListPacket list s).bytes out) ∧
      ∀ out, .networkOutput out ∈ bstWifiNetworkList L list s →
        Genuine L s (wifiListPacket list s).bytes out := by
  refine ⟨within_wifiListPacketLogged list s, val_wifiListPacketLogged list s, ?_, ?_,
    fun hm ↦ ?_, fun out ↦ genuine_of_networkOutput⟩
  · rw [copiedEntries_eq]
    exact wifiListPacket_data_log
  · rw [copiedEntries_eq]
    exact wifiListEntries_toNat list s
  · have hsent : bstWifiNetworkList L list s =
        [.networkOutput (prvAddChecksumAndEncrypt L (wifiListPacket list s).bytes s)] :=
      sent_of_waiting hm
    have hlen := length_wifiListPacket list s
    refine ⟨_, hsent, ?_, genuine_of_networkOutput (hsent ▸ List.mem_singleton_self _)⟩
    rw [← hlen]
    exact length_sent (by rw [hlen]; decide)

end BootstrapWifi
