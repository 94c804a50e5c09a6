import BootstrapWifi.Commands

namespace BootstrapWifi

open ByteBuffer

variable {L : Layout} {now : Time} {random : UInt64} {data pkt : List UInt8} {s t : Instance}

/-- The size of a command's packet structure; other codes have the bare header structure. -/
def commandPktSize (commandCode : UInt8) : ℕ :=
  if commandCode = cmdHello then helloReceivePktSize
  else if commandCode = cmdBind then bindReceivePktSize
  else if commandCode = cmdSetData then bootstrapReceivePktSize
  else receivePktSize

/-- The reasons to turn a packet away. -/
inductive Rejected (L : Layout) (now : Time) (data : List UInt8) (s : Instance) : Prop
  | mode : s.state.state ≠ .waitingForData → Rejected L now data s
  | short : data.length < commandPktSize (command data) → Rejected L now data s
  | header : data.take networkHeader.length ≠ networkHeader → Rejected L now data s
  | checksum : bstCrc16 (content (decryptedPacket L data s)) (data.length - receivePktSize) ≠
      crcField data → Rejected L now data s
  | unknown : command data ∉ [cmdHello, cmdBind, cmdSetData] → Rejected L now data s
  | foreign : command data = cmdHello → appNonce data ≠ s.state.prvAppNonce.bytes →
      s.state.timeNonceValid ≠ 0 → now < s.state.timeNonceValid → Rejected L now data s
  | noSession : command data ∈ [cmdBind, cmdSetData] → (prvIsAppSessionValid now s).1 = false →
      Rejected L now data s
  | bindPending : command data = cmdBind → s.flags.requestBind = true → Rejected L now data s
  | setDataPending : command data = cmdSetData → s.flags.requestSetWifi = true →
      Rejected L now data s
  | unconfirmed : command data = cmdSetData → s.options.externalConfirmationMode ≠ .notRequired →
      s.flags.externalConfirmation = false → Rejected L now data s

/-- At most the session has been wiped, and only one that had expired. -/
def Untouched (now : Time) (s t : Instance) : Prop :=
  t = s ∨ s.state.timeNonceValid < now ∧ t = s.wipeSession

/-- Session and wifi list request have changed, and nothing else. -/
def OnlySession (s t : Instance) : Prop :=
  ∃ prvAppNonce prvDeviceNonce timeNonceValid, t =
    { s with
      state.prvAppNonce := prvAppNonce
      state.prvDeviceNonce := prvDeviceNonce
      state.timeNonceValid := timeNonceValid
      flags.requestWifiList := true }

def OnlySecret (s t : Instance) : Prop :=
  ∃ cryptoSecret cryptoSecretLen, t =
    { s with
      cryptoSecret := cryptoSecret
      cryptoSecretLen := cryptoSecretLen
      flags.requestBind := true }

def OnlyCredentials (s t : Instance) : Prop :=
  ∃ storage storageLen ssid pwd additional, t =
    { s with
      storage := storage
      storageLen := storageLen
      ssid := ssid
      pwd := pwd
      additional := additional
      flags.requestSetWifi := true }

theorem onlySession_helloDone : OnlySession s (s.helloDone now random pkt) := by
  unfold Instance.helloDone
  split <;> exact ⟨_, _, _, rfl⟩

theorem onlySecret_bindDone (hk : (newBindKeyLen pkt).toNat ≤ bindkeyMaxSize) :
    OnlySecret s (s.bindDone L pkt) := by
  rw [bindDone_of_le hk]
  exact ⟨_, _, rfl⟩

theorem onlyCredentials_setDataDone : OnlyCredentials s (s.setDataDone pkt) :=
  ⟨_, _, _, _, _, rfl⟩

theorem Received.command_eq (h : Received L data pkt s) : command pkt = command data := by
  obtain ⟨-, hl, -, rfl, -⟩ := received_iff.mp h
  unfold decryptedPacket
  split
  · rw [command, command, List.getD_eq_getElem?_getD, List.getD_eq_getElem?_getD,
      ← List.getElem?_take_of_lt (show receivePktSize - 1 < receivePktSize by decide),
      take_withContent le_rfl hl, List.getElem?_take_of_lt (by decide)]
  · rfl

theorem Received.eq_of_hello (h : Received L data pkt s) (hc : command pkt = cmdHello) :
    pkt = data := by
  have hcmd : command data = cmdHello := h.command_eq ▸ hc
  obtain ⟨-, -, -, rfl, -⟩ := received_iff.mp h
  exact if_neg (not_not.mpr hcmd)

/-- What an accepted packet of the command `c` may not be turned away for. -/
theorem Rejected.of_received (h : Rejected L now data s) (hr : Received L data pkt s)
    (hl : commandPktSize (command pkt) ≤ pkt.length)
    (hc : command pkt ∈ [cmdHello, cmdBind, cmdSetData]) :
    command pkt = cmdHello ∧ appNonce pkt ≠ s.state.prvAppNonce.bytes ∧ ¬ SessionOpen now s ∨
      command pkt ∈ [cmdBind, cmdSetData] ∧ s.state.timeNonceValid < now ∨
      command pkt = cmdBind ∧ s.flags.requestBind = true ∨
      command pkt = cmdSetData ∧ (s.flags.requestSetWifi = true ∨
        s.options.externalConfirmationMode ≠ .notRequired ∧
          s.flags.externalConfirmation = false) := by
  obtain ⟨hm, hlen, hh, rfl, hcrc⟩ := received_iff.mp hr
  rw [hr.command_eq, hr.length_eq] at hl
  cases h with
  | mode h => exact absurd hm h
  | short h => exact absurd hl (not_le.mpr h)
  | header h => exact absurd hh h
  | checksum h => exact absurd hcrc h
  | unknown h => exact absurd (hr.command_eq ▸ hc) h
  | foreign h hn hz ht =>
    rw [← hr.command_eq] at h
    refine .inl ⟨h, ?_, fun ho ↦ ho.elim hz (not_le.mpr ht)⟩
    rw [hr.eq_of_hello h]
    exact hn
  | noSession h hv =>
    rw [← hr.command_eq] at h
    refine .inr (.inl ⟨h, not_le.mp fun hle ↦ ?_⟩)
    rw [prvIsAppSessionValid_eq_true.mpr hle] at hv
    cases hv
  | bindPending h hf => exact .inr (.inr (.inl ⟨hr.command_eq.trans h, hf⟩))
  | setDataPending h hf => exact .inr (.inr (.inr ⟨hr.command_eq.trans h, .inl hf⟩))
  | unconfirmed h hx hf => exact .inr (.inr (.inr ⟨hr.command_eq.trans h, .inr ⟨hx, hf⟩⟩))

theorem Rejected.not_hello (h : Rejected L now data s) : ¬ HelloAccepted L now data pkt s := by
  intro hacc
  obtain ⟨hr, hc, hl, hn⟩ := hacc
  have hcause := h.of_received hr (by rw [hc]; exact hl) (by simp [hc])
  rw [hc] at hcause
  rcases hcause with ⟨-, hforeign, hclosed⟩ | ⟨hbad, -⟩ | ⟨hbad, -⟩ | ⟨hbad, -⟩
  · exact hn.elim hclosed fun he ↦ hforeign he.symm
  · exact absurd hbad (by decide)
  · exact absurd hbad (by decide)
  · exact absurd hbad (by decide)

theorem Rejected.not_bind (h : Rejected L now data s) : ¬ BindAccepted L now data pkt s := by
  intro hacc
  obtain ⟨hr, hc, ht, hl, hf⟩ := hacc
  have hcause := h.of_received hr (by rw [hc]; exact hl) (by simp [hc])
  rw [hc] at hcause
  rcases hcause with ⟨hbad, -⟩ | ⟨-, hlt⟩ | ⟨-, hpending⟩ | ⟨hbad, -⟩
  · exact absurd hbad (by decide)
  · exact absurd ht (not_le.mpr hlt)
  · rw [hf] at hpending
    cases hpending
  · exact absurd hbad (by decide)

theorem Rejected.not_setData (h : Rejected L now data s) : ¬ SetDataAccepted L now data pkt s := by
  intro hacc
  obtain ⟨hr, hc, ht, hl, hx, hf⟩ := hacc
  have hcause := h.of_received hr (by rw [hc]; exact hl) (by simp [hc])
  rw [hc] at hcause
  rcases hcause with ⟨hbad, -⟩ | ⟨-, hlt⟩ | ⟨hbad, -⟩ | ⟨-, hpending | ⟨hmode, hnot⟩⟩
  · exact absurd hbad (by decide)
  · exact absurd ht (not_le.mpr hlt)
  · exact absurd hbad (by decide)
  · rw [hf] at hpending
    cases hpending
  · rw [hnot] at hx
    exact hx.elim hmode Bool.false_ne_true

theorem received_of_not_rejected (h : ¬ Rejected L now data s) :
    Received L data (decryptedPacket L data s) s := by
  have hl : receivePktSize ≤ data.length := by
    by_contra hlt
    have hz : command data = 0 := by
      rw [command, List.getD_eq_getElem?_getD, List.getElem?_eq_none (by omega), Option.getD_none]
    refine h (.short ?_)
    rw [hz]
    exact not_le.mp hlt
  refine received_iff.mpr ⟨?_, hl, ?_, rfl, ?_⟩
  · exact not_not.mp fun hm ↦ h (.mode hm)
  · exact not_not.mp fun hh ↦ h (.header hh)
  · exact not_not.mp fun hc ↦ h (.checksum hc)

/-- No packet is lost without one of the reasons. -/
theorem accepted_of_not_rejected (h : ¬ Rejected L now data s) :
    HelloAccepted L now data (decryptedPacket L data s) s ∨
      BindAccepted L now data (decryptedPacket L data s) s ∨
      SetDataAccepted L now data (decryptedPacket L data s) s := by
  have hr := received_of_not_rejected h
  have hl : commandPktSize (command data) ≤ (decryptedPacket L data s).length := by
    rw [hr.length_eq]
    exact not_lt.mp fun hlt ↦ h (.short hlt)
  have hvalid (hc : command data ∈ [cmdBind, cmdSetData]) : now ≤ s.state.timeNonceValid := by
    refine prvIsAppSessionValid_eq_true.mp ?_
    by_contra hv
    exact h (.noSession hc (by simpa using hv))
  have hcommand : command data ∈ [cmdHello, cmdBind, cmdSetData] :=
    not_not.mp fun hn ↦ h (.unknown hn)
  simp only [List.mem_cons, List.not_mem_nil, or_false] at hcommand
  rcases hcommand with hc | hc | hc
  · have hpkt := hr.eq_of_hello (hr.command_eq.trans hc)
    rw [hc] at hl
    refine .inl ⟨hr, hr.command_eq.trans hc, hl, ?_⟩
    rw [hpkt]
    by_contra hn
    obtain ⟨hclosed, hforeign⟩ := not_or.mp hn
    obtain ⟨hz, hlive⟩ := not_or.mp hclosed
    exact h (.foreign hc (fun he ↦ hforeign he.symm) hz (not_le.mp hlive))
  · rw [hc] at hl hvalid
    refine .inr (.inl ⟨hr, hr.command_eq.trans hc, hvalid (by simp), hl, ?_⟩)
    exact Bool.eq_false_iff.mpr fun hf ↦ h (.bindPending hc hf)
  · rw [hc] at hl hvalid
    refine .inr (.inr ⟨hr, hr.command_eq.trans hc, hvalid (by simp), hl, ?_, ?_⟩)
    · by_contra hx
      obtain ⟨hmode, hnot⟩ := not_or.mp hx
      exact h (.unconfirmed hc hmode (Bool.eq_false_iff.mpr hnot))
    · exact Bool.eq_false_iff.mpr fun hf ↦ h (.setDataPending hc hf)

/-- A rejected packet leaves the instance alone; any other one is accepted, and changes no
more than its command is about. -/
theorem input_rejected_or_accepted (L : Layout) (now : Time) (random : UInt64) (data : List UInt8)
    (s : Instance) :
    (Rejected L now data s → Untouched now s (bstNetworkInput L now random data s).val) ∧
      (¬ Rejected L now data s →
        command data = cmdHello ∧
            (bstNetworkInput L now random data s).val =
              s.helloDone now random (decryptedPacket L data s) ∧
            OnlySession s (bstNetworkInput L now random data s).val ∨
          command data = cmdBind ∧
            (bstNetworkInput L now random data s).val = s.bindDone L (decryptedPacket L data s) ∧
            ((newBindKeyLen (decryptedPacket L data s)).toNat ≤ bindkeyMaxSize →
              OnlySecret s (bstNetworkInput L now random data s).val) ∨
          command data = cmdSetData ∧
            (bstNetworkInput L now random data s).val =
              s.setDataDone (decryptedPacket L data s) ∧
            OnlyCredentials s (bstNetworkInput L now random data s).val) := by
  constructor
  · intro h
    have heff := networkInput_effect L now random data s
    generalize (bstNetworkInput L now random data s).val = t at heff
    cases heff with
    | ignored => exact .inl rfl
    | expired ht => exact .inr ⟨ht, rfl⟩
    | hello pkt hacc => exact absurd hacc h.not_hello
    | bind pkt hacc => exact absurd hacc h.not_bind
    | setData pkt hacc => exact absurd hacc h.not_setData
  · intro h
    rcases accepted_of_not_rejected h with hacc | hacc | hacc
    · rw [networkInput_of_hello hacc]
      exact .inl ⟨hacc.1.command_eq.symm.trans hacc.2.1, rfl, onlySession_helloDone⟩
    · rw [networkInput_of_bind hacc]
      exact .inr (.inl ⟨hacc.1.command_eq.symm.trans hacc.2.1, rfl, onlySecret_bindDone⟩)
    · rw [networkInput_of_setData hacc]
      exact .inr (.inr ⟨hacc.1.command_eq.symm.trans hacc.2.1, rfl, onlyCredentials_setDataDone⟩)

end BootstrapWifi
