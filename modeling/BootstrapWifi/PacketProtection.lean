import BootstrapWifi.Crc16Burst
import BootstrapWifi.InputEffect
import BootstrapWifi.Lp64
import BootstrapWifi.WifiList
import Mathlib.Data.List.GetD

namespace BootstrapWifi

open ByteBuffer AccessLog Spritz

variable {L : Layout} {s : Instance} {pkt data data' : List UInt8} {off n : ℕ}

theorem content_decryptedPacket (h : receivePktSize ≤ pkt.length) :
    content (decryptedPacket L pkt s) =
      if command pkt ≠ cmdHello then
        spritzDecrypt (content pkt) s.state.prvDeviceNonce.bytes (s.secret L)
      else content pkt := by
  unfold decryptedPacket
  split
  · exact content_withContent h
  · rfl

theorem length_plainContent (h : receivePktSize ≤ pkt.length) :
    (content (decryptedPacket L pkt s)).length = pkt.length - receivePktSize := by
  rw [content, List.length_drop, length_decryptedPacket h]

/-- A packet is accepted for its header and for the checksum of its decrypted content. -/
theorem check_iff (h : receivePktSize ≤ pkt.length) :
    (prvCheckHeaderAndDecrypt L pkt s).val.1 = true ↔
      pkt.take networkHeader.length = networkHeader ∧
        bstCrc16 (content (decryptedPacket L pkt s)) (pkt.length - receivePktSize) =
          crcField pkt := by
  rw [val_prvCheckHeaderAndDecrypt h]
  by_cases hh : pkt.take networkHeader.length = networkHeader
  · rw [if_pos hh]
    simp [hh]
  · rw [if_neg hh]
    simp [hh]

theorem command_eq (p : List UInt8) :
    command p = (p.take receivePktSize).getD (receivePktSize - 1) 0 := by
  simp [command, receivePktSize_eq]

theorem command_of_take {p q : List UInt8} (h : q.take receivePktSize = p.take receivePktSize) :
    command q = command p := by
  rw [command_eq, command_eq p, h]

/-- Length, header and command or state code are those of `p`. -/
structure SameEnvelope (p q : List UInt8) : Prop where
  length : q.length = p.length
  header : q.take networkHeader.length = p.take networkHeader.length
  command : command q = command p

theorem sameEnvelope_decrypt (h : receivePktSize ≤ pkt.length) :
    SameEnvelope pkt (prvCheckHeaderAndDecrypt L pkt s).val.2 := by
  have hd : SameEnvelope pkt (decryptedPacket L pkt s) :=
    ⟨length_decryptedPacket h, take_decryptedPacket (by decide) h,
      command_of_take (take_decryptedPacket le_rfl h)⟩
  rw [val_prvCheckHeaderAndDecrypt h]
  split
  · exact hd
  · exact ⟨rfl, rfl, rfl⟩

/-- Header, checksum and command or state code of a packet to be sent. -/
def sentHead (pkt : List UInt8) : List UInt8 :=
  pkt.take networkHeader.length ++ bstCrc16 (content pkt) (pkt.length - receivePktSize) ++
    [command pkt]

theorem sent_eq (L : Layout) (s : Instance) (pkt : List UInt8) : prvAddChecksumAndEncrypt L pkt s =
    sentHead pkt ++ spritzEncrypt (content pkt) s.state.prvAppNonce.bytes (s.secret L) := rfl

section Sent

variable (h : receivePktSize ≤ pkt.length)
include h

theorem length_take_header : (pkt.take networkHeader.length).length = networkHeader.length := by
  rw [List.length_take]
  exact Nat.min_eq_left ((show networkHeader.length ≤ receivePktSize by decide).trans h)

theorem length_sentHead : (sentHead pkt).length = receivePktSize := by
  rw [sentHead, List.length_append, List.length_append, length_take_header h, length_bstCrc16]
  rfl

theorem content_sent : content (prvAddChecksumAndEncrypt L pkt s) =
    spritzEncrypt (content pkt) s.state.prvAppNonce.bytes (s.secret L) :=
  List.drop_left' (length_sentHead h)

theorem length_sent : (prvAddChecksumAndEncrypt L pkt s).length = pkt.length := by
  rw [sent_eq, List.length_append, length_sentHead h, length_spritzEncrypt, content, List.length_drop]
  omega

theorem crcField_sent : crcField (prvAddChecksumAndEncrypt L pkt s) =
    bstCrc16 (content pkt) (pkt.length - receivePktSize) := by
  have hh := length_take_header h
  rw [sent_eq, sentHead, crcField, List.append_assoc, List.append_assoc, List.drop_left' hh]
  rfl

theorem sameEnvelope_sent : SameEnvelope pkt (prvAddChecksumAndEncrypt L pkt s) := by
  have hh := length_take_header h
  refine ⟨length_sent h, ?_, ?_⟩
  · rw [sent_eq, sentHead, List.append_assoc, List.append_assoc, List.take_left' hh]
  · have hhead : (prvAddChecksumAndEncrypt L pkt s).take receivePktSize = sentHead pkt :=
      List.take_left' (length_sentHead h)
    rw [command_eq, hhead, sentHead, List.getD_append_right]
    · rw [List.length_append, hh]
      rfl
    · rw [List.length_append, hh, length_bstCrc16]
      decide

end Sent

theorem content_read_back (h : receivePktSize ≤ pkt.length) (hc : command pkt ≠ cmdHello)
    (hn : s.state.prvAppNonce = s.state.prvDeviceNonce) :
    content (decryptedPacket L (prvAddChecksumAndEncrypt L pkt s) s) = content pkt := by
  have henv : SameEnvelope pkt (prvAddChecksumAndEncrypt L pkt s) := sameEnvelope_sent h
  rw [content_decryptedPacket (henv.length ▸ h), henv.command, if_pos hc, content_sent h, hn,
    spritzDecrypt_spritzEncrypt]

theorem check_read_back (h : receivePktSize ≤ pkt.length)
    (hh : pkt.take networkHeader.length = networkHeader) (hc : command pkt ≠ cmdHello)
    (hn : s.state.prvAppNonce = s.state.prvDeviceNonce) :
    (prvCheckHeaderAndDecrypt L (prvAddChecksumAndEncrypt L pkt s) s).val.1 = true := by
  have henv : SameEnvelope pkt (prvAddChecksumAndEncrypt L pkt s) := sameEnvelope_sent h
  refine (check_iff (henv.length ▸ h)).mpr ⟨henv.header.trans hh, ?_⟩
  rw [content_read_back h hc hn, henv.length, crcField_sent h]

/-- What one side protects with its nonce the other side reads unchanged. -/
theorem protect_round_trip (h : receivePktSize ≤ pkt.length)
    (hh : pkt.take networkHeader.length = networkHeader) (hc : command pkt ≠ cmdHello)
    (hn : s.state.prvAppNonce = s.state.prvDeviceNonce) :
    (prvCheckHeaderAndDecrypt L (prvAddChecksumAndEncrypt L pkt s) s).val.1 = true ∧
      content (prvCheckHeaderAndDecrypt L (prvAddChecksumAndEncrypt L pkt s) s).val.2 =
        content pkt ∧
      ∀ q, receivePktSize ≤ q.length → SameEnvelope q (prvAddChecksumAndEncrypt L q s) ∧
        SameEnvelope q (prvCheckHeaderAndDecrypt L q s).val.2 := by
  have henv : SameEnvelope pkt (prvAddChecksumAndEncrypt L pkt s) := sameEnvelope_sent h
  refine ⟨check_read_back h hh hc hn, ?_,
    fun q hq ↦ ⟨sameEnvelope_sent hq, sameEnvelope_decrypt hq⟩⟩
  rw [val_prvCheckHeaderAndDecrypt (henv.length ▸ h), if_pos (henv.header.trans hh)]
  exact content_read_back h hc hn

def samplePkt : List UInt8 := networkHeader ++ [0, 0, 2, 65, 66, 67]

/-- A device with a secret, in a session whose two nonces happen to agree. -/
def protectedInstance : Instance :=
  { Instance.zero with
    cryptoSecret := (Buffer.zero _).write [1, 2, 3]
    cryptoSecretLen := 3
    state.prvAppNonce := ⟨[1, 1, 2, 3, 5, 8, 13, 21], rfl⟩
    state.prvDeviceNonce := ⟨[1, 1, 2, 3, 5, 8, 13, 21], rfl⟩ }

theorem sample_protect_round_trip :
    (prvCheckHeaderAndDecrypt lp64 (prvAddChecksumAndEncrypt lp64 samplePkt protectedInstance)
        protectedInstance).val.1 = true ∧
      content (prvCheckHeaderAndDecrypt lp64
        (prvAddChecksumAndEncrypt lp64 samplePkt protectedInstance) protectedInstance).val.2 =
          [65, 66, 67] := by
  obtain ⟨hvalid, hcontent, -⟩ :=
    protect_round_trip (show receivePktSize ≤ samplePkt.length by decide) rfl (by decide)
      (show protectedInstance.state.prvAppNonce = protectedInstance.state.prvDeviceNonce from rfl)
  exact ⟨hvalid, hcontent⟩

/-- `data'` has other bytes than `data` in `n` places from `off` on, and the same ones elsewhere. -/
def Replaced (off n : ℕ) (data data' : List UInt8) : Prop :=
  ∃ before b c after, before.length = off ∧ b.length = n ∧ c.length = n ∧ b ≠ c ∧
    data = before ++ b ++ after ∧ data' = before ++ c ++ after

/-- One content byte has changed, or two adjacent ones, or nothing but the checksum. -/
def Corrupted (data data' : List UInt8) : Prop :=
  (∃ off, receivePktSize ≤ off ∧ (Replaced off 1 data data' ∨ Replaced off 2 data data')) ∨
    Replaced networkHeader.length crcSize data data'

theorem Replaced.length_eq (h : Replaced off n data data') : data'.length = data.length := by
  obtain ⟨before, b, c, after, -, hb, hc, -, rfl, rfl⟩ := h
  simp [hb, hc]

theorem Replaced.take (h : Replaced off n data data') : data'.take off = data.take off := by
  obtain ⟨before, b, c, after, rfl, -, -, -, rfl, rfl⟩ := h
  rw [List.append_assoc, List.append_assoc, List.take_left, List.take_left]

theorem Replaced.drop {k : ℕ} (h : Replaced off n data data') (hk : k ≤ off) :
    Replaced (off - k) n (data.drop k) (data'.drop k) := by
  obtain ⟨before, b, c, after, rfl, hb, hc, hne, rfl, rfl⟩ := h
  refine ⟨before.drop k, b, c, after, List.length_drop, hb, hc, hne, ?_, ?_⟩
  · rw [List.append_assoc, List.append_assoc, List.drop_append_of_le_length hk]
  · rw [List.append_assoc, List.append_assoc, List.drop_append_of_le_length hk]

/-- The cipher keeps a change where it is. -/
theorem Replaced.decrypt (h : Replaced off n data data') (nonce key : List UInt8) :
    ∃ off', Replaced off' n (spritzDecrypt data nonce key) (spritzDecrypt data' nonce key) := by
  obtain ⟨before, b, c, after, -, hb, hc, hne, rfl, rfl⟩ := h
  have hsub (k : UInt8) : Function.Injective (· - k) := fun _ _ h ↦ (UInt8.sub_left_inj k).mp h
  obtain ⟨u, b', c', v, hu, hv, hb', hc', hne'⟩ := StreamCipher.apply_window drip hsub
    (hb.trans hc.symm) hne before after (session nonce key)
  exact ⟨u.length, u, b', c', v, rfl, hb'.trans hb, hc'.trans hc, hne', hu, hv⟩

theorem Replaced.bstCrc16_ne (h : Replaced off n data data') (hn : n ≤ 2)
    (hl : data.length < 65536) : bstCrc16 data data.length ≠ bstCrc16 data' data'.length := by
  obtain ⟨before, b, c, after, -, hb, hc, hne, rfl, rfl⟩ := h
  exact bstCrc16_burst (hb.trans hc.symm) (hb.trans_le hn) hne before after hl

theorem Replaced.rejected (h : Replaced off n data data') (ho : receivePktSize ≤ off) (hn : n ≤ 2)
    (hl : receivePktSize ≤ data.length) (hmax : data.length ≤ 65546)
    (hacc : (prvCheckHeaderAndDecrypt L data s).val.1 = true) :
    (prvCheckHeaderAndDecrypt L data' s).val.1 ≠ true := by
  intro hacc'
  have hlen := h.length_eq
  have hl' : receivePktSize ≤ data'.length := hlen ▸ hl
  have htake : data'.take receivePktSize = data.take receivePktSize := by
    have htake := congrArg (·.take receivePktSize) h.take
    simpa [List.take_take, ho] using htake
  have hplain : ∃ off', Replaced off' n (content (decryptedPacket L data s))
      (content (decryptedPacket L data' s)) := by
    have hcontent : Replaced (off - receivePktSize) n (content data) (content data') := h.drop ho
    rw [content_decryptedPacket hl, content_decryptedPacket hl', command_of_take htake]
    by_cases hcmd : command data ≠ cmdHello
    · rw [if_pos hcmd, if_pos hcmd]
      exact hcontent.decrypt _ _
    · rw [if_neg hcmd, if_neg hcmd]
      exact ⟨_, hcontent⟩
  obtain ⟨off', hplain⟩ := hplain
  obtain ⟨-, hcrc⟩ := (check_iff hl).mp hacc
  obtain ⟨-, hcrc'⟩ := (check_iff hl').mp hacc'
  rw [← length_plainContent hl] at hcrc
  rw [← length_plainContent hl', crcField_of_take htake] at hcrc'
  refine hplain.bstCrc16_ne hn ?_ (hcrc.trans hcrc'.symm)
  rw [length_plainContent hl, receivePktSize_eq]
  omega

theorem crcField_ne_of_replaced (h : Replaced networkHeader.length crcSize data data') :
    crcField data ≠ crcField data' := by
  obtain ⟨before, b, c, after, hbefore, hb, hc, hne, rfl, rfl⟩ := h
  have field {f : List UInt8} (hf : f.length = crcSize) : crcField (before ++ f ++ after) = f := by
    rw [crcField, List.append_assoc, List.drop_left' hbefore, List.take_left' hf]
  rw [field hb, field hc]
  exact hne

theorem drop_of_replaced {k : ℕ} (h : Replaced off n data data') (hk : off + n ≤ k) :
    data'.drop k = data.drop k := by
  obtain ⟨before, b, c, after, hbefore, hb, hc, -, rfl, rfl⟩ := h
  have hdrop {f : List UInt8} (hf : f.length = n) :
      (before ++ f ++ after).drop k = after.drop (k - (off + n)) := by
    have hl : (before ++ f).length = off + n := by rw [List.length_append, hbefore, hf]
    rw [List.drop_append, hl, List.drop_of_length_le (hl ▸ hk), List.nil_append]
  rw [hdrop hb, hdrop hc]

/-- Every such change of an accepted packet is detected. -/
theorem corruption_detected (hl : receivePktSize ≤ data.length) (hmax : data.length ≤ 65546)
    (hacc : (prvCheckHeaderAndDecrypt L data s).val.1 = true) (hc : Corrupted data data') :
    (prvCheckHeaderAndDecrypt L data' s).val.1 = false := by
  rw [← Bool.not_eq_true]
  rcases hc with ⟨off, ho, h | h⟩ | h
  · exact h.rejected ho (by decide) hl hmax hacc
  · exact h.rejected ho (by decide) hl hmax hacc
  · intro hacc'
    have hl' : receivePktSize ≤ data'.length := h.length_eq ▸ hl
    have hcontent : content data' = content data := drop_of_replaced h (by decide)
    have hcommand : command data' = command data := by
      have hdrop := congrArg (·.getD 0 0)
        (drop_of_replaced h (show 8 + 2 ≤ receivePktSize - 1 by decide))
      simpa [command] using hdrop
    obtain ⟨-, hcrc⟩ := (check_iff hl).mp hacc
    obtain ⟨-, hcrc'⟩ := (check_iff hl').mp hacc'
    rw [content_decryptedPacket hl', hcommand, hcontent, h.length_eq,
      ← content_decryptedPacket hl] at hcrc'
    exact crcField_ne_of_replaced h (hcrc.symm.trans hcrc')

theorem replaced_set {x : UInt8} (h : off < data.length) (hx : x ≠ data[off]) :
    Replaced off 1 data (data.set off x) := by
  refine ⟨data.take off, [data[off]], [x], data.drop (off + 1), List.length_take_of_le h.le, rfl,
    rfl, fun he ↦ hx (List.cons.inj he).1.symm, ?_, ?_⟩
  · rw [List.take_append_getElem h, List.take_append_drop]
  · rw [List.set_eq_take_append_cons_drop, if_pos h, List.append_assoc, List.singleton_append]

/-- The packet of three encrypted bytes, as it is sent and with another byte in its midst. -/
def samplePacket : List UInt8 := prvAddChecksumAndEncrypt lp64 samplePkt protectedInstance

def spoiledPacket : List UInt8 := samplePacket.set 12 (samplePacket.getD 12 0 + 1)

theorem sample_corruption_detected :
    (prvCheckHeaderAndDecrypt lp64 spoiledPacket protectedInstance).val.1 = false := by
  have hlen : samplePacket.length = 14 := length_sent (by decide)
  have h₁₂ : 12 < samplePacket.length := by omega
  have hacc : (prvCheckHeaderAndDecrypt lp64 samplePacket protectedInstance).val.1 = true :=
    check_read_back (by decide) rfl (by decide) rfl
  have hbyte : samplePacket.getD 12 0 + (1 : UInt8) ≠ samplePacket[12] := by
    rw [List.getD_eq_getElem _ _ h₁₂]
    grind
  exact corruption_detected (by rw [hlen]; decide) (by omega) hacc
    (.inl ⟨12, by decide, .inl (replaced_set h₁₂ hbyte)⟩)

end BootstrapWifi
