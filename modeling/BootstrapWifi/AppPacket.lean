import BootstrapWifi.Commands

namespace BootstrapWifi

open Mealy ByteBuffer Spritz

variable (L : Layout) (s : Instance) (commandCode : UInt8) (c key data appNonce : List UInt8)

/-- A packet as the app has it before encryption. -/
def plainPkt : List UInt8 := networkHeader ++ bstCrc16 c c.length ++ [commandCode] ++ c

/-- `add_header_to_receive_pkt` and `add_checksum_to_receive_pkt` of the test app, which
shares nonce and secret with the device. -/
def receivePkt : List UInt8 :=
  networkHeader ++ bstCrc16 c c.length ++ [commandCode] ++
    if commandCode ≠ cmdHello then spritzEncrypt c s.state.prvDeviceNonce.bytes (s.secret L) else c

def bindContent : List UInt8 :=
  key.length.toUInt8 :: key ++ List.replicate (bindkeyMaxSize - key.length) 0

def bootstrapData : List UInt8 := data ++ List.replicate (storageRamSize - data.length) 0

variable {L s commandCode c key data appNonce} {now : Time}

@[simp] theorem length_plainPkt : (plainPkt commandCode c).length = receivePktSize + c.length := by
  simp only [plainPkt, List.length_append, length_bstCrc16, List.length_singleton]
  rfl

@[simp] theorem content_plainPkt : content (plainPkt commandCode c) = c := List.drop_left' rfl

@[simp] theorem command_plainPkt : command (plainPkt commandCode c) = commandCode := rfl

theorem receivePkt_eq : receivePkt L s commandCode c = withContent (plainPkt commandCode c)
    (if commandCode ≠ cmdHello then spritzEncrypt c s.state.prvDeviceNonce.bytes (s.secret L)
      else c) := rfl

theorem length_receivePkt : (receivePkt L s commandCode c).length = receivePktSize + c.length := by
  rw [receivePkt_eq, length_withContent (by simp)]
  split
  · rw [length_spritzEncrypt]
  · rfl

theorem decryptedPacket_receivePkt :
    decryptedPacket L (receivePkt L s commandCode c) s = plainPkt commandCode c := by
  have hl : receivePktSize ≤ (plainPkt commandCode c).length := by simp
  have hp : withContent (plainPkt commandCode c) c = plainPkt commandCode c := by
    conv_rhs => rw [← List.take_append_drop receivePktSize (plainPkt commandCode c)]
    exact congrArg _ content_plainPkt.symm
  have hcmd : command (receivePkt L s commandCode c) = commandCode := rfl
  unfold decryptedPacket
  rw [hcmd]
  by_cases hc : commandCode = cmdHello
  · rw [if_neg (not_not.mpr hc), receivePkt_eq, if_neg (not_not.mpr hc), hp]
  · rw [if_pos hc, receivePkt_eq, if_pos hc, content_withContent hl, spritzDecrypt_spritzEncrypt]
    exact hp

theorem received_receivePkt (hm : s.state.state = .waitingForData) :
    Received L (receivePkt L s commandCode c) (plainPkt commandCode c) s := by
  have hl : receivePktSize ≤ (receivePkt L s commandCode c).length := by
    rw [length_receivePkt]
    omega
  refine received_iff.mpr ⟨hm, hl, rfl, decryptedPacket_receivePkt.symm, ?_⟩
  rw [content_plainPkt, length_receivePkt, Nat.add_sub_cancel_left]
  rfl

theorem helloAccepted_receivePkt (hm : s.state.state = .waitingForData)
    (hl : appNonce.length = nonceSize)
    (hs : SessionOpen now s ∨ s.state.prvAppNonce.bytes = appNonce) :
    HelloAccepted L now (receivePkt L s cmdHello appNonce) (plainPkt cmdHello appNonce) s := by
  have hn : BootstrapWifi.appNonce (plainPkt cmdHello appNonce) = appNonce := by
    rw [BootstrapWifi.appNonce, content_plainPkt, List.take_of_length_le hl.le]
  refine ⟨received_receivePkt hm, rfl, ?_, ?_⟩
  · rw [length_plainPkt, hl]
    rfl
  · rwa [hn]

theorem length_bindContent (hk : key.length ≤ 255) :
    bindReceivePktSize ≤ (plainPkt cmdBind (bindContent key)).length := by
  simp only [length_plainPkt, bindContent, List.length_append, List.length_cons,
    List.length_replicate, bindReceivePktSize, receivePktSize_eq, bindkeyMaxSize]
  omega

theorem newBindKeyLen_bindContent (hk : key.length ≤ 255) :
    (newBindKeyLen (plainPkt cmdBind (bindContent key))).toNat = key.length := by
  rw [newBindKeyLen, content_plainPkt]
  simp only [bindContent, List.cons_append, List.getD_cons_zero]
  exact toNat_toUInt8 (Nat.lt_succ_of_le hk)

theorem newBindKey_bindContent (hk : key.length ≤ 255) :
    newBindKey L (plainPkt cmdBind (bindContent key)) = key := by
  have hc : (plainPkt cmdBind (bindContent key)).drop (receivePktSize + 1) =
      key ++ List.replicate (bindkeyMaxSize - key.length) 0 := by
    rw [← List.drop_drop]
    change (content (plainPkt cmdBind (bindContent key))).drop 1 = _
    rw [content_plainPkt]
    rfl
  rw [newBindKey, newBindKeyLen_bindContent hk, List.drop_append_of_le_length, hc,
    List.append_assoc, List.take_left]
  simp only [length_plainPkt, bindContent, List.length_append, List.length_cons]
  omega

theorem bindAccepted_receivePkt (hm : s.state.state = .waitingForData)
    (ht : now ≤ s.state.timeNonceValid) (hf : s.flags.requestBind = false)
    (hk : key.length ≤ 255) :
    BindAccepted L now (receivePkt L s cmdBind (bindContent key))
      (plainPkt cmdBind (bindContent key)) s :=
  ⟨received_receivePkt hm, rfl, ht, length_bindContent hk, hf⟩

theorem setDataAccepted_receivePkt (hm : s.state.state = .waitingForData)
    (ht : now ≤ s.state.timeNonceValid)
    (hx : s.options.externalConfirmationMode = .notRequired ∨ s.flags.externalConfirmation = true)
    (hf : s.flags.requestSetWifi = false) :
    SetDataAccepted L now (receivePkt L s cmdSetData (bootstrapData data))
      (plainPkt cmdSetData (bootstrapData data)) s := by
  refine ⟨received_receivePkt hm, rfl, ht, ?_, hx, hf⟩
  simp only [length_plainPkt, bootstrapData, List.length_append, List.length_replicate,
    bootstrapReceivePktSize]
  omega

theorem bootstrapData_head (data : List UInt8) : (bootstrapData data).getD 0 0 = data.getD 0 0 := by
  cases data with
  | nil => rfl
  | cons => rfl

end BootstrapWifi
