import BootstrapWifi.AppRun
import BootstrapWifi.Crc16Residue
import BootstrapWifi.Keystream
import BootstrapWifi.PacketProtection
import BootstrapWifi.PendingRequests

namespace BootstrapWifi

open Mealy ByteBuffer Spritz StreamCipher

variable {L : Layout} {s : Instance} {d : Device} {now : Time}
  {data pkt before known new after key : List UInt8} {commandCode commandCode' : UInt8}

/-- The difference of two contents that agree outside of a window. -/
def windowDelta (size off : ℕ) (known new : List UInt8) : List UInt8 :=
  List.replicate off 0 ++ List.zipWith (· ^^^ ·) known new ++
    List.replicate (size - off - known.length) 0

/-- Replaces a window of the contents whose plain bytes are known, repairs the checksum, and
sets another command. Neither a secret nor a nonce is needed for it. -/
def tamper (data : List UInt8) (off : ℕ) (known new : List UInt8) (commandCode : UInt8) :
    List UInt8 :=
  networkHeader ++ List.zipWith (· ^^^ ·) (crcField data)
      (crcBytes (crc16Loop 0 (windowDelta (content data).length off known new)
        (content data).length)) ++
    [commandCode] ++ patch (· + ·) (· - ·) (content data) off known new

theorem crc16Loop_take (wCrc : UInt16) (pData : List UInt8) (size : ℕ) :
    crc16Loop wCrc (pData.take (size % 65536)) (size % 65536) = crc16Loop wCrc pData size := by
  simp only [crc16Loop, List.take_take, Nat.mod_mod, Nat.min_self]

/-- The checksum of the second message from the first one's and from their difference. -/
theorem bstCrc16_change {a b : List UInt8} (hl : b.length = a.length) :
    List.zipWith (· ^^^ ·) (bstCrc16 a a.length)
        (crcBytes (crc16Loop 0 (List.zipWith (· ^^^ ·) a b) a.length)) =
      bstCrc16 b b.length := by
  have hmod : a.length % 65536 < 65536 := Nat.mod_lt _ (by decide)
  have ha : (a.take (a.length % 65536)).length = a.length % 65536 :=
    List.length_take_of_le (Nat.mod_le _ _)
  have hb : (b.take (a.length % 65536)).length = a.length % 65536 :=
    List.length_take_of_le (hl ▸ Nat.mod_le _ _)
  have hloop : crc16Loop 0 (List.zipWith (· ^^^ ·) a b) a.length =
      crc16Loop 0xffff a a.length ^^^ crc16Loop 0xffff b b.length := by
    rw [← crc16Loop_take 0, ← crc16Loop_take 0xffff a, ← crc16Loop_take 0xffff b, hl,
      List.take_zipWith]
    have hx := crc16Loop_xor (ha.trans hb.symm) (ha.trans_lt hmod) 0xffff 0xffff
    rw [ha, hb] at hx
    exact hx
  rw [bstCrc16_eq, bstCrc16_eq, hloop, ← crcBytes_xor, ← UInt16.xor_assoc, UInt16.xor_self,
    UInt16.zero_xor]

theorem zipWith_window (before after : List UInt8) (hl : new.length = known.length) :
    List.zipWith (· ^^^ ·) (before ++ known ++ after) (before ++ new ++ after) =
      windowDelta (before ++ known ++ after).length before.length known new := by
  have hself (xs : List UInt8) :
      List.zipWith (· ^^^ ·) xs xs = List.replicate xs.length 0 := by
    induction xs with
    | nil => rfl
    | cons x xs ih =>
      rw [List.zipWith_cons_cons, ih, UInt8.xor_self]
      rfl
  have hrest : (before ++ known ++ after).length - before.length - known.length = after.length := by
    simp only [List.length_append]
    omega
  rw [windowDelta, hrest, List.zipWith_append, List.zipWith_append, hself, hself]
  · rfl
  · rw [List.length_append, List.length_append, hl]

theorem crcField_receivePkt (L : Layout) (s : Instance) (commandCode : UInt8) (c : List UInt8) :
    crcField (receivePkt L s commandCode c) = bstCrc16 c c.length := rfl

theorem content_receivePkt (hc : commandCode ≠ cmdHello) (c : List UInt8) :
    content (receivePkt L s commandCode c) =
      spritzEncrypt c s.state.prvDeviceNonce.bytes (s.secret L) := by
  rw [receivePkt, if_pos hc]
  exact List.drop_left' rfl

theorem packet_fields (hl : receivePktSize ≤ data.length) :
    data = data.take networkHeader.length ++ crcField data ++ [command data] ++ content data := by
  have hlast : receivePktSize - 1 < receivePktSize := by decide
  have hcmd : receivePktSize - 1 < data.length := hlast.trans_le hl
  have htake : data.take receivePktSize =
      data.take networkHeader.length ++ crcField data ++ [command data] := by
    rw [crcField, ← List.take_add, command, List.getD_eq_getElem _ _ hcmd]
    exact (List.take_append_getElem hcmd).symm
  rw [← htake]
  exact (List.take_append_drop receivePktSize data).symm

/-- Every packet that passes the checks is the one that the app makes of its contents. -/
theorem Received.eq_receivePkt (h : Received L data pkt s) (hc : command pkt ≠ cmdHello) :
    data = receivePkt L s (command pkt) (content pkt) := by
  obtain ⟨-, hl, hheader, hpkt, hcrc⟩ := received_iff.mp h
  have hcmd : command pkt = command data := by
    rw [hpkt]
    exact command_of_take (take_decryptedPacket le_rfl hl)
  have hsize : (content pkt).length = data.length - receivePktSize := by
    rw [content, List.length_drop, h.length_eq]
  have hplain : content pkt =
      spritzDecrypt (content data) s.state.prvDeviceNonce.bytes (s.secret L) := by
    rw [hpkt, content_decryptedPacket hl, if_pos (hcmd ▸ hc)]
  have hcipher : content data =
      spritzEncrypt (content pkt) s.state.prvDeviceNonce.bytes (s.secret L) := by
    rw [hplain]
    exact (apply_apply (fun _ _ ↦ UInt8.sub_add_cancel _ _) _ _).symm
  rw [receivePkt, if_pos hc, ← hcipher, hsize, hcrc, hcmd]
  conv_lhs => rw [packet_fields hl, hheader]

/-- The result is the packet that the app would have made of the changed contents. -/
theorem tamper_receivePkt (before after : List UInt8) (hc : commandCode ≠ cmdHello)
    (hc' : commandCode' ≠ cmdHello) (hl : new.length = known.length) :
    tamper (receivePkt L s commandCode (before ++ known ++ after)) before.length known new
      commandCode' = receivePkt L s commandCode' (before ++ new ++ after) := by
  have hlen : (before ++ new ++ after).length = (before ++ known ++ after).length := by
    simp only [List.length_append, hl]
  have hcontent := content_receivePkt (L := L) (s := s) hc (before ++ known ++ after)
  have hpatch : patch (· + ·) (· - ·)
      (content (receivePkt L s commandCode (before ++ known ++ after))) before.length known new =
        spritzEncrypt (before ++ new ++ after) s.state.prvDeviceNonce.bytes (s.secret L) := by
    rw [hcontent]
    exact patch_apply (fun x y k ↦ by grind) hl before after _
  rw [tamper, hpatch, hcontent, length_spritzEncrypt, crcField_receivePkt,
    ← zipWith_window before after hl, bstCrc16_change hlen, receivePkt, if_pos hc']

/-- The protection of a packet keeps nobody from changing it: whoever knows the plain bytes of
some window of its contents can put other bytes there and set another command, without the
secret, without the nonce and without the rest, and the device takes the packet as genuine. -/
theorem tampered_received (h : Received L data pkt s) (hc : command pkt ≠ cmdHello)
    (hc' : commandCode' ≠ cmdHello) (hcontent : content pkt = before ++ known ++ after)
    (hl : new.length = known.length) :
    Received L (tamper data before.length known new commandCode')
      (plainPkt commandCode' (before ++ new ++ after)) s := by
  rw [h.eq_receivePkt hc, hcontent, tamper_receivePkt before after hc hc' hl]
  exact received_receivePkt h.1

/-- The app's data on their way to the sample device. -/
def sampleSent (data : List UInt8) : List UInt8 :=
  receivePkt lp64 sampleDevice.inst cmdSetData (bootstrapData data)

/-- Somebody who knows the third byte only makes a `c` of a `b`. -/
theorem sample_tampered_received :
    Received lp64 (tamper (sampleSent [97, 0, 98]) 2 [98] [99] cmdSetData)
      (plainPkt cmdSetData ([97, 0] ++ [99] ++ List.replicate (storageRamSize - 3) 0))
      sampleDevice.inst := by
  have hr : Received lp64 (sampleSent [97, 0, 98])
      (plainPkt cmdSetData (bootstrapData [97, 0, 98])) sampleDevice.inst := received_receivePkt rfl
  have hcontent : content (plainPkt cmdSetData (bootstrapData [97, 0, 98])) =
      [97, 0] ++ [98] ++ List.replicate (storageRamSize - 3) 0 := content_plainPkt
  have htampered : Received lp64
      (tamper (sampleSent [97, 0, 98]) ([97, 0] : List UInt8).length [98] [99] cmdSetData)
      (plainPkt cmdSetData ([97, 0] ++ [99] ++ List.replicate (storageRamSize - 3) 0))
      sampleDevice.inst := tampered_received hr (by decide) (by decide) hcontent rfl
  exact htampered

theorem length_bindContent_eq (hk : key.length ≤ bindkeyMaxSize) :
    (bindContent key).length = bindkeyMaxSize + 1 := by
  simp only [bindContent, List.length_cons, List.length_append, List.length_replicate]
  omega

theorem newBindKeyLen_append (hk : key.length ≤ bindkeyMaxSize) (after : List UInt8) :
    (newBindKeyLen (plainPkt cmdBind (bindContent key ++ after))).toNat = key.length := by
  rw [newBindKeyLen, content_plainPkt]
  exact toNat_toUInt8 (hk.trans_lt (by decide))

theorem bindKey_append (hk : key.length ≤ bindkeyMaxSize) (after : List UInt8) :
    bindKey (plainPkt cmdBind (bindContent key ++ after)) = key := by
  rw [bindKey, newBindKeyLen_append hk, content_plainPkt]
  change ((key ++ List.replicate (bindkeyMaxSize - key.length) 0) ++ after).take key.length = key
  rw [List.append_assoc, List.take_left' rfl]

/-- A changed packet comes in the place of `data`, and `bst_periodic` is called. -/
def intercepted (L : Layout) (d : Device) (data known key : List UInt8) (random : UInt64)
    (now now' : Time) (conn : ConnectState) : Device :=
  ((library L).exec d
    [⟨now, .networkInput (tamper data 0 known (bindContent key) cmdBind) random⟩,
      ⟨now', .periodic conn⟩]).2

theorem tampered_bind (h : SetDataAccepted L now data pkt s) (hb : s.flags.requestBind = false)
    (hcontent : content pkt = known ++ after) (hl : known.length = bindkeyMaxSize + 1)
    (hk : key.length ≤ bindkeyMaxSize) :
    BindAccepted L now (tamper data 0 known (bindContent key) cmdBind)
      (plainPkt cmdBind (bindContent key ++ after)) s := by
  obtain ⟨hr, hcmd, ht, -⟩ := h
  have hlen := length_bindContent_eq hk
  have hrec : Received L (tamper data 0 known (bindContent key) cmdBind)
      (plainPkt cmdBind (bindContent key ++ after)) s := by
    have hc : command pkt ≠ cmdHello := by
      rw [hcmd]
      decide
    have hmade : tamper (receivePkt L s (command pkt) (known ++ after)) 0 known (bindContent key)
        cmdBind = receivePkt L s cmdBind (bindContent key ++ after) :=
      tamper_receivePkt [] after hc (by decide) (hlen.trans hl.symm)
    rw [hr.eq_receivePkt hc, hcontent, hmade]
    exact received_receivePkt hr.1
  refine ⟨hrec, rfl, ht, ?_, hb⟩
  rw [length_plainPkt, List.length_append, hlen, bindReceivePktSize]
  omega

/-- Who knows how the data of an app begin makes a BIND out of the SET_DATA that carries them:
the device uses and stores a key that was never agreed on. -/
theorem eavesdropper_binds (h : SetDataAccepted L now data pkt d.inst)
    (ho : d.inst.options.Ready) (hb : d.inst.flags.requestBind = false)
    (hf : d.inst.flags.requestFactoryReset = false) (hcontent : content pkt = known ++ after)
    (hl : known.length = bindkeyMaxSize + 1) (hk : key.length ≤ bindkeyMaxSize)
    (random : UInt64) (now' : Time) (conn : ConnectState) :
    (intercepted L d data known key random now now' conn).flash.key = key ∧
      (intercepted L d data known key random now now' conn).inst.secret L = key := by
  have hacc := tampered_bind h hb hcontent hl hk
  have hlen := (newBindKeyLen_append hk after).trans_le hk
  have hpending := bindPending_bindDone (L := L) (s := d.inst) hacc.2.2.2.1 hlen
  rw [bindKey_append hk after] at hpending
  have hfirst : ((library L).step
      ⟨now, .networkInput (tamper data 0 known (bindContent key) cmdBind) random⟩ d).1 =
      { d with inst := d.inst.bindDone L (plainPkt cmdBind (bindContent key ++ after)) } := by
    rw [step_networkInput L rfl, networkInput_of_bind hacc]
    rfl
  have hrest : (d.inst.bindDone L (plainPkt cmdBind (bindContent key ++ after))).options.Ready ∧
      (d.inst.bindDone L (plainPkt cmdBind
        (bindContent key ++ after))).flags.requestFactoryReset = false := by
    rw [bindDone_of_le hlen]
    exact ⟨ho, hf⟩
  generalize d.inst.bindDone L (plainPkt cmdBind (bindContent key ++ after)) = s at *
  have hsecond : intercepted L d data known key random now now' conn =
      ({ d with inst := s }.after (serveBind L s)).1 := by
    change ((library L).step ⟨now', .periodic conn⟩ ((library L).step _ d).1).1 = _
    rw [hfirst, step_periodic L rfl, bstPeriodic_bind L conn hrest.1 hrest.2 hpending.flag]
  have hsecret : (serveBind L s).1.secret L = key :=
    ((serveBind L s).1.secret_of_le L hpending.len).trans hpending.secret
  constructor
  · rw [hsecond, Device.after, serveBind_output L hpending.len, hpending.secret]
    rfl
  · rw [hsecond, Device.after_inst, hsecret]

theorem sample_eavesdropper_binds :
    (intercepted lp64 sampleDevice (sampleSent [97, 0, 98])
      ((bootstrapData [97, 0, 98]).take (bindkeyMaxSize + 1)) [6, 6, 6] 0 2 3
      .connected).flash.key = [6, 6, 6] :=
  (eavesdropper_binds
    (setDataAccepted_receivePkt rfl (by decide) (.inl rfl) rfl) sampleOptions_ready rfl rfl
    (content_plainPkt.trans (List.take_append_drop _ _).symm) rfl (by decide) 0 3 .connected).1

end BootstrapWifi
