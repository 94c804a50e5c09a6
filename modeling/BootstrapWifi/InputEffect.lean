import BootstrapWifi.NetworkInput

namespace BootstrapWifi

open ByteBuffer AccessLog Spritz

variable (L : Layout) (now : Time) (random : UInt64) (data pkt : List UInt8) (s : Instance)

/-- The packet after the in-place decryption, which HELLO packets skip. -/
def decryptedPacket : List UInt8 :=
  if command pkt ≠ cmdHello then
    withContent pkt (spritzDecrypt (content pkt) s.state.prvDeviceNonce.bytes (s.secret L))
  else pkt

def crcField : List UInt8 := (pkt.drop networkHeader.length).take crcSize

/-- `data` passes mode, length, header and checksum, and reads `pkt` once decrypted. -/
def Received : Prop :=
  s.state.state = .waitingForData ∧ receivePktSize ≤ data.length ∧
    (prvCheckHeaderAndDecrypt L data s).val = (true, pkt)

def appNonce : List UInt8 := (content pkt).take nonceSize

def newBindKeyLen : UInt8 := (content pkt).getD 0 0

/-- The bytes a BIND copies; past the end of a short packet they are whatever lies there. -/
def newBindKey : List UInt8 :=
  ((pkt ++ (L.behindPacket pkt).bytes).drop (receivePktSize + 1)).take (newBindKeyLen pkt).toNat

def SessionOpen : Prop := s.state.timeNonceValid = 0 ∨ s.state.timeNonceValid ≤ now

instance : Decidable (SessionOpen now s) := inferInstanceAs (Decidable (_ ∨ _))

def HelloAccepted : Prop :=
  Received L data pkt s ∧ command pkt = cmdHello ∧ helloReceivePktSize ≤ pkt.length ∧
    (SessionOpen now s ∨ s.state.prvAppNonce.bytes = appNonce pkt)

def BindAccepted : Prop :=
  Received L data pkt s ∧ command pkt = cmdBind ∧ s.state.timeNonceValid ≥ now ∧
    bindReceivePktSize ≤ pkt.length ∧ s.flags.requestBind = false

def SetDataAccepted : Prop :=
  Received L data pkt s ∧ command pkt = cmdSetData ∧ s.state.timeNonceValid ≥ now ∧
    bootstrapReceivePktSize ≤ pkt.length ∧
    (s.options.externalConfirmationMode = .notRequired ∨ s.flags.externalConfirmation = true) ∧
    s.flags.requestSetWifi = false

def Instance.helloDone : Instance :=
  let s := if SessionOpen now s then
    { s with state.prvAppNonce := s.state.prvAppNonce.write (appNonce pkt) } else s
  { s.renewSession now random with flags.requestWifiList := true }

def Instance.bindDone : Instance :=
  { copySecret L (newBindKey L pkt) s with
    cryptoSecretLen := newBindKeyLen pkt, flags.requestBind := true }

def Instance.setDataDone : Instance :=
  { prvAssignData (content pkt) s with flags.requestSetWifi := true }

variable {L now random data pkt s}

theorem length_withContent {c : List UInt8} (h : receivePktSize ≤ pkt.length) :
    (withContent pkt c).length = receivePktSize + c.length := by
  simp only [withContent, List.length_append, List.length_take]
  omega

theorem content_withContent {c : List UInt8} (h : receivePktSize ≤ pkt.length) :
    content (withContent pkt c) = c := by
  have hl : (pkt.take receivePktSize).length = receivePktSize := by simpa using h
  exact List.drop_left' hl

theorem take_withContent {c : List UInt8} {n : ℕ} (hn : n ≤ receivePktSize)
    (h : receivePktSize ≤ pkt.length) : (withContent pkt c).take n = pkt.take n := by
  have hl : n ≤ (pkt.take receivePktSize).length := by
    rw [List.length_take]
    omega
  rw [withContent, List.take_append_of_le_length hl, List.take_take, Nat.min_eq_left hn]

theorem length_decryptedPacket (h : receivePktSize ≤ pkt.length) :
    (decryptedPacket L pkt s).length = pkt.length := by
  unfold decryptedPacket
  split
  · rw [length_withContent h, length_spritzDecrypt, content, List.length_drop]
    omega
  · rfl

theorem take_decryptedPacket {n : ℕ} (hn : n ≤ receivePktSize) (h : receivePktSize ≤ pkt.length) :
    (decryptedPacket L pkt s).take n = pkt.take n := by
  unfold decryptedPacket
  split
  · exact take_withContent hn h
  · rfl

theorem crcField_of_take {q : List UInt8} (h : q.take receivePktSize = pkt.take receivePktSize) :
    crcField q = crcField pkt := by
  have hq : ∀ l : List UInt8, crcField l =
      ((l.take receivePktSize).drop networkHeader.length).take crcSize := by
    intro l
    rw [List.drop_take, List.take_take]
    rfl
  rw [hq q, hq pkt, h]

theorem val_prvCrc16IsValid (h : receivePktSize ≤ pkt.length) :
    (prvCrc16IsValid L pkt).val =
      decide (bstCrc16 (content pkt) (pkt.length - receivePktSize) = crcField pkt) := by
  have hm : (pkt.length - receivePktSize) % 65536 ≤ pkt.length - receivePktSize := Nat.mod_le _ _
  have h₁ : receivePktSize + (pkt.length - receivePktSize) % 65536 ≤ pkt.length := by omega
  have h₂ : networkHeader.length + crcSize ≤ pkt.length := by
    change 10 ≤ pkt.length
    simp only [receivePktSize_eq] at h
    omega
  simp only [prvCrc16IsValid, Logged.val_bind, Logged.val_pure, val_readPacket L h₁,
    val_readPacket L h₂, bstCrc16_take]
  rfl

theorem val_prvCheckHeaderAndDecrypt (h : receivePktSize ≤ pkt.length) :
    (prvCheckHeaderAndDecrypt L pkt s).val =
      if pkt.take networkHeader.length = networkHeader then
        (decide (bstCrc16 (content (decryptedPacket L pkt s)) (pkt.length - receivePktSize) =
          crcField pkt), decryptedPacket L pkt s)
      else (false, pkt) := by
  have h₁ : 0 + networkHeader.length ≤ pkt.length := by
    change 0 + 8 ≤ pkt.length
    simp only [receivePktSize_eq] at h
    omega
  have h₂ : receivePktSize - 1 < pkt.length := by
    simp only [receivePktSize_eq] at h ⊢
    omega
  have h₃ : receivePktSize + (pkt.length - receivePktSize) ≤ pkt.length := by omega
  have hd : ((pkt.drop receivePktSize).take (pkt.length - receivePktSize)) = content pkt :=
    List.take_of_length_le (by simp)
  have hcrc : (prvCrc16IsValid L (decryptedPacket L pkt s)).val =
      decide (bstCrc16 (content (decryptedPacket L pkt s)) (pkt.length - receivePktSize) =
        crcField pkt) := by
    rw [val_prvCrc16IsValid (by rwa [length_decryptedPacket h]), length_decryptedPacket h,
      crcField_of_take (take_decryptedPacket le_rfl h)]
  unfold prvCheckHeaderAndDecrypt
  simp only [Logged.val_bind, Logged.val_ite, Logged.val_pure, val_readPacket L h₁,
    val_readByte L h₂, val_readPacket L h₃, List.drop_zero, hd, ne_eq, ite_not]
  by_cases hh : pkt.take networkHeader.length = networkHeader
  · rw [if_pos hh, if_pos hh, ← hcrc]
    by_cases hc : command pkt = cmdHello
    · have hp : decryptedPacket L pkt s = pkt := by simp [decryptedPacket, hc]
      rw [if_pos (show pkt.getD (receivePktSize - 1) 0 = cmdHello from hc), hp]
    · have hp : decryptedPacket L pkt s =
          withContent pkt (spritzDecrypt (content pkt) s.state.prvDeviceNonce.bytes (s.secret L)) := by
        simp [decryptedPacket, hc]
      rw [if_neg (show ¬ pkt.getD (receivePktSize - 1) 0 = cmdHello from hc), hp]
  · rw [if_neg hh, if_neg hh]

theorem received_iff : Received L data pkt s ↔
    s.state.state = .waitingForData ∧ receivePktSize ≤ data.length ∧
      data.take networkHeader.length = networkHeader ∧ pkt = decryptedPacket L data s ∧
      bstCrc16 (content pkt) (data.length - receivePktSize) = crcField data := by
  unfold Received
  refine and_congr_right fun _ ↦ and_congr_right fun hl ↦ ?_
  rw [val_prvCheckHeaderAndDecrypt hl]
  by_cases hh : data.take networkHeader.length = networkHeader
  · rw [if_pos hh, Prod.mk.injEq, decide_eq_true_eq]
    constructor
    · intro h
      obtain ⟨hc, rfl⟩ := h
      exact ⟨hh, rfl, hc⟩
    · intro h
      obtain ⟨_, rfl, hc⟩ := h
      exact ⟨hc, rfl⟩
  · simp [hh]

theorem Received.length_eq (h : Received L data pkt s) : pkt.length = data.length := by
  obtain ⟨_, hl, _, rfl, _⟩ := received_iff.mp h
  exact length_decryptedPacket hl

theorem Received.length_le (h : Received L data pkt s) : receivePktSize ≤ pkt.length := by
  rw [h.length_eq]
  exact h.2.1

theorem Received.unique {q : List UInt8} (h : Received L data pkt s) (h' : Received L data q s) :
    pkt = q := by
  obtain ⟨_, _, _, rfl, _⟩ := received_iff.mp h
  obtain ⟨_, _, _, rfl, _⟩ := received_iff.mp h'
  rfl

theorem val_inputHello :
    (inputHello L now random pkt s).val =
      if helloReceivePktSize ≤ pkt.length ∧
          (SessionOpen now s ∨ s.state.prvAppNonce.bytes = appNonce pkt) then
        s.helloDone now random pkt
      else s := by
  unfold inputHello
  by_cases hl : helloReceivePktSize ≤ pkt.length
  · have hr : (readPacket L pkt receivePktSize nonceSize).val = appNonce pkt := val_readPacket L hl
    rw [if_neg (by omega)]
    simp only [hl, true_and, Logged.val_bind, Logged.val_ite, Logged.val_pure, hr]
    unfold prvEnterAndKeepAppSession Instance.helloDone
    by_cases ho : SessionOpen now s
    · rw [if_pos (show _ ∨ _ from ho)]
      simp [ho]
    · rw [if_neg (show ¬ (_ ∨ _) from ho)]
      by_cases hn : s.state.prvAppNonce.bytes = appNonce pkt <;> simp [ho, hn]
  · rw [if_pos (by omega), if_neg (fun hc ↦ hl hc.1)]
    rfl

theorem val_inputBind :
    (inputBind L now pkt s).val =
      if s.state.timeNonceValid < now then s.wipeSession
      else if bindReceivePktSize ≤ pkt.length ∧ s.flags.requestBind = false then s.bindDone L pkt
      else s := by
  unfold inputBind
  by_cases ht : s.state.timeNonceValid < now
  · rw [prvIsAppSessionValid_of_lt ht, if_pos ht]
    rfl
  · rw [prvIsAppSessionValid_of_ge (not_lt.mp ht), if_neg ht]
    simp only [not_true_eq_false, if_false]
    by_cases hl : bindReceivePktSize ≤ pkt.length
    · rw [if_neg (not_lt.mpr hl)]
      have hb : receivePktSize < pkt.length := by
        rw [bindReceivePktSize_eq] at hl
        rw [receivePktSize_eq]
        omega
      have hr : (readByte L pkt receivePktSize).val = newBindKeyLen pkt := by
        rw [val_readByte L hb]
        simp [newBindKeyLen, content, List.getElem?_drop]
      cases hf : s.flags.requestBind
      · simp only [hl, and_self, if_true, Bool.false_eq_true, if_false, Logged.val_bind,
          Logged.val_pure, hr]
        rfl
      · simp
    · rw [if_pos (not_le.mp hl), if_neg (fun hc ↦ hl hc.1)]
      rfl

theorem prvAssignData_take (storedData : List UInt8) {n : ℕ} (h : assignedLen storedData ≤ n) :
    prvAssignData (storedData.take n) s = prvAssignData storedData s := by
  have hlen : assignedLen (storedData.take n) = assignedLen storedData := by
    simp only [assignedLen, List.length_take] at *
    omega
  have hst : assignedStorage (storedData.take n) = assignedStorage storedData := by
    ext1
    simp only [assignedStorage, hlen, List.take_take, Nat.min_eq_left h]
  simp only [prvAssignData, hlen, hst]

theorem val_inputSetData (h : receivePktSize ≤ pkt.length) :
    (inputSetData L now pkt s).val =
      if s.state.timeNonceValid < now then s.wipeSession
      else if bootstrapReceivePktSize ≤ pkt.length ∧
          (s.options.externalConfirmationMode = .notRequired ∨
            s.flags.externalConfirmation = true) ∧ s.flags.requestSetWifi = false then
        s.setDataDone pkt
      else s := by
  unfold inputSetData
  by_cases ht : s.state.timeNonceValid < now
  · rw [prvIsAppSessionValid_of_lt ht, if_pos ht]
    rfl
  · rw [prvIsAppSessionValid_of_ge (not_lt.mp ht), if_neg ht]
    simp only [not_true_eq_false, if_false]
    by_cases hl : bootstrapReceivePktSize ≤ pkt.length
    · rw [if_neg (not_lt.mpr hl)]
      by_cases hc : s.options.externalConfirmationMode = .notRequired ∨
          s.flags.externalConfirmation = true
      · rw [if_neg (by simpa [or_iff_not_imp_left] using hc)]
        cases hf : s.flags.requestSetWifi
        · have hm : min (pkt.length - receivePktSize) (storageRamSize - 3) =
              assignedLen (content pkt) := by simp [assignedLen, content]
          have hr : receivePktSize + assignedLen (content pkt) ≤ pkt.length := by
            rw [← hm]
            omega
          simp only [hl, hc, and_self, if_true, Bool.false_eq_true, if_false, Logged.val_bind,
            Logged.val_pure, hm, val_readPacket L hr]
          exact congrArg (fun t : Instance ↦ { t with flags.requestSetWifi := true })
            (prvAssignData_take (content pkt) le_rfl)
        · simp
      · rw [if_pos (by simpa [not_or] using hc), if_neg (fun hn ↦ hc hn.2.1)]
        rfl
    · rw [if_pos (not_le.mp hl), if_neg (fun hn ↦ hl hn.1)]
      rfl

theorem networkInput_of_not_received (h : ∀ pkt, ¬ Received L data pkt s) :
    (bstNetworkInput L now random data s).val = s := by
  unfold bstNetworkInput
  by_cases hg : s.state.state ≠ .waitingForData ∨ data.length < receivePktSize
  · rw [if_pos hg]
    rfl
  · rw [if_neg hg]
    have hf : (prvCheckHeaderAndDecrypt L data s).val.1 = false := by
      by_contra hv
      simp only [not_or, not_not, not_lt] at hg
      exact h _ ⟨hg.1, hg.2, Prod.ext (by simpa using hv) rfl⟩
    simp [hf]

theorem networkInput_of_received (h : Received L data pkt s) :
    (bstNetworkInput L now random data s).val =
      if command pkt = cmdHello then (inputHello L now random pkt s).val
      else if command pkt = cmdBind then (inputBind L now pkt s).val
      else if command pkt = cmdSetData then (inputSetData L now pkt s).val
      else s := by
  have hc : (readByte L pkt (receivePktSize - 1)).val = command pkt := by
    have hl := h.length_le
    rw [receivePktSize_eq] at hl
    exact val_readByte L (by rw [receivePktSize_eq]; omega)
  obtain ⟨hm, hl, hv⟩ := h
  unfold bstNetworkInput
  rw [if_neg (by simpa using ⟨hm, hl⟩)]
  simp only [Logged.val_bind, Logged.val_ite, Logged.val_pure, hv, hc, not_true_eq_false, if_false]

/-- HELLO touches the session and its request flag, and nothing else. -/
theorem helloDone_frame (s : Instance) (now : Time) (random : UInt64) (pkt : List UInt8) :
    ∃ st : InnerState, st.state = s.state.state ∧
      s.helloDone now random pkt = { s with state := st, flags.requestWifiList := true } := by
  refine ⟨(s.helloDone now random pkt).state, ?_⟩
  unfold Instance.helloDone
  split <;> exact ⟨rfl, rfl⟩

theorem helloDone_timeNonceValid :
    (s.helloDone now random pkt).state.timeNonceValid = s.options.timeoutNonceMs + now := by
  unfold Instance.helloDone
  split <;> rfl

theorem helloDone_prvDeviceNonce :
    (s.helloDone now random pkt).state.prvDeviceNonce.bytes = randomBytes random := by
  have hn (b : Buffer nonceSize) : (b.write (randomBytes random)).bytes = randomBytes random :=
    b.write_full (length_randomBytes random)
  unfold Instance.helloDone
  split <;> exact hn _

/-- Everything `bst_network_input` can do to the instance. -/
inductive InputEffect (L : Layout) (now : Time) (random : UInt64) (data : List UInt8)
    (s : Instance) : Instance → Prop
  | ignored : InputEffect L now random data s s
  | expired : s.state.timeNonceValid < now → InputEffect L now random data s s.wipeSession
  | hello (pkt : List UInt8) : HelloAccepted L now data pkt s →
      InputEffect L now random data s (s.helloDone now random pkt)
  | bind (pkt : List UInt8) : BindAccepted L now data pkt s →
      InputEffect L now random data s (s.bindDone L pkt)
  | setData (pkt : List UInt8) : SetDataAccepted L now data pkt s →
      InputEffect L now random data s (s.setDataDone pkt)

theorem networkInput_effect (L : Layout) (now : Time) (random : UInt64) (data : List UInt8)
    (s : Instance) :
    InputEffect L now random data s (bstNetworkInput L now random data s).val := by
  by_cases hr : ∃ pkt, Received L data pkt s
  · obtain ⟨pkt, hr⟩ := hr
    rw [networkInput_of_received hr]
    by_cases h₁ : command pkt = cmdHello
    · rw [if_pos h₁, val_inputHello]
      split
      next hc => exact .hello pkt ⟨hr, h₁, hc⟩
      next => exact .ignored
    rw [if_neg h₁]
    by_cases h₂ : command pkt = cmdBind
    · rw [if_pos h₂, val_inputBind]
      split
      next ht => exact .expired ht
      next ht =>
        split
        next hc => exact .bind pkt ⟨hr, h₂, not_lt.mp ht, hc⟩
        next => exact .ignored
    rw [if_neg h₂]
    by_cases h₃ : command pkt = cmdSetData
    · rw [if_pos h₃, val_inputSetData hr.length_le]
      split
      next ht => exact .expired ht
      next ht =>
        split
        next hc => exact .setData pkt ⟨hr, h₃, not_lt.mp ht, hc⟩
        next => exact .ignored
    rw [if_neg h₃]
    exact .ignored
  · rw [networkInput_of_not_received (not_exists.mp hr)]
    exact .ignored

theorem networkInput_of_hello (h : HelloAccepted L now data pkt s) :
    (bstNetworkInput L now random data s).val = s.helloDone now random pkt := by
  obtain ⟨hr, hc, hl, hn⟩ := h
  rw [networkInput_of_received hr, if_pos hc, val_inputHello, if_pos ⟨hl, hn⟩]

theorem networkInput_of_bind (h : BindAccepted L now data pkt s) :
    (bstNetworkInput L now random data s).val = s.bindDone L pkt := by
  obtain ⟨hr, hc, ht, hl, hf⟩ := h
  rw [networkInput_of_received hr, if_neg (by rw [hc]; decide), if_pos hc,
    val_inputBind, if_neg (not_lt.mpr ht), if_pos ⟨hl, hf⟩]

theorem networkInput_of_setData (h : SetDataAccepted L now data pkt s) :
    (bstNetworkInput L now random data s).val = s.setDataDone pkt := by
  obtain ⟨hr, hc, ht, hl, hx, hf⟩ := h
  rw [networkInput_of_received hr, if_neg (by rw [hc]; decide), if_neg (by rw [hc]; decide),
    if_pos hc, val_inputSetData hr.length_le, if_neg (not_lt.mpr ht), if_pos ⟨hl, hx, hf⟩]

theorem InputEffect.options {t : Instance} (h : InputEffect L now random data s t) :
    t.options = s.options := by
  cases h with
  | hello pkt =>
    obtain ⟨_, -, ht⟩ := helloDone_frame s now random pkt
    rw [ht]
  | _ => rfl

theorem InputEffect.secretField {t : Instance} (h : InputEffect L now random data s t) :
    t.secretField = s.secretField ∨ ∃ pkt, BindAccepted L now data pkt s ∧ t = s.bindDone L pkt := by
  cases h with
  | hello pkt =>
    obtain ⟨_, -, ht⟩ := helloDone_frame s now random pkt
    rw [ht]
    exact .inl rfl
  | bind pkt hb => exact .inr ⟨pkt, hb, rfl⟩
  | _ => exact .inl rfl

theorem InputEffect.credentials {t : Instance} (h : InputEffect L now random data s t) :
    t.credentials = s.credentials ∨
      ∃ pkt, SetDataAccepted L now data pkt s ∧ t = s.setDataDone pkt := by
  cases h with
  | hello pkt =>
    obtain ⟨_, -, ht⟩ := helloDone_frame s now random pkt
    rw [ht]
    exact .inl rfl
  | setData pkt hb => exact .inr ⟨pkt, hb, rfl⟩
  | _ => exact .inl rfl

end BootstrapWifi
