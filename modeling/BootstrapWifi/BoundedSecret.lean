import BootstrapWifi.AppRun

namespace BootstrapWifi

open Mealy ByteBuffer AccessLog

variable {L : Layout} {now : Time} {random : UInt64} {data pkt key : List UInt8} {s : Instance}
  {d : Device} {h : List LibraryMove}

theorem within_prvCrc16IsValid (hl : receivePktSize ≤ pkt.length) :
    (prvCrc16IsValid L pkt).Within (Access.InBounds pkt.length) := by
  have hm : (pkt.length - receivePktSize) % 65536 ≤ pkt.length - receivePktSize := Nat.mod_le _ _
  have hc : networkHeader.length + crcSize ≤ pkt.length := by
    change 10 ≤ pkt.length
    rw [receivePktSize_eq] at hl
    omega
  unfold prvCrc16IsValid
  simp only [Logged.within_bind, Logged.within_pure, and_true, within_readPacket]
  exact ⟨.inr (by omega), .inr hc⟩

theorem within_prvCheckHeaderAndDecrypt (hl : receivePktSize ≤ data.length) :
    (prvCheckHeaderAndDecrypt L data s).Within (Access.InBounds data.length) := by
  have hcrc {q : List UInt8} (hq : q.length = data.length) :
      (prvCrc16IsValid L q).Within (Access.InBounds data.length) := by
    rw [← hq] at hl ⊢
    exact within_prvCrc16IsValid hl
  have hh : networkHeader.length ≤ data.length := by
    change 8 ≤ data.length
    rw [receivePktSize_eq] at hl
    omega
  have hcmd : receivePktSize - 1 < data.length := by
    rw [receivePktSize_eq] at hl ⊢
    omega
  have hc : receivePktSize + (data.length - receivePktSize) ≤ data.length := by omega
  have hlen : (withContent data (Spritz.spritzDecrypt
      (readPacket L data receivePktSize (data.length - receivePktSize)).val
      s.state.prvDeviceNonce.bytes (s.secret L))).length = data.length := by
    rw [length_withContent hl, Spritz.length_spritzDecrypt, val_readPacket L hc, List.length_take,
      List.length_drop]
    omega
  unfold prvCheckHeaderAndDecrypt
  rw [Logged.within_bind, within_readPacket]
  refine ⟨.inr (by omega), ?_⟩
  split
  · exact Logged.within_pure _ _
  · rw [Logged.within_bind, within_readByte]
    refine ⟨hcmd, ?_⟩
    split
    · simp only [Logged.within_bind, Logged.within_pure, and_true, within_readPacket]
      exact ⟨.inr hc, hcrc hlen⟩
    · simp only [Logged.within_bind, Logged.within_pure, and_true]
      exact hcrc rfl

theorem within_inputHello : (inputHello L now random pkt s).Within (Access.InBounds pkt.length) := by
  unfold inputHello
  split
  · exact Logged.within_pure _ _
  next hl =>
    rw [Logged.within_bind, within_readPacket]
    refine ⟨.inr (not_lt.mp hl), ?_⟩
    dsimp only
    split <;> exact Logged.within_pure _ _

theorem within_inputSetData :
    (inputSetData L now pkt s).Within (Access.InBounds pkt.length) := by
  unfold inputSetData
  dsimp only
  split
  · exact Logged.within_pure _ _
  split
  · exact Logged.within_pure _ _
  split
  · exact Logged.within_pure _ _
  split
  · exact Logged.within_pure _ _
  next _ hl _ _ =>
    rw [Logged.within_bind, within_readPacket]
    refine ⟨.inr ?_, Logged.within_pure _ _⟩
    have h := Nat.min_le_left (pkt.length - receivePktSize) (storageRamSize - 3)
    simp only [bootstrapReceivePktSize_eq] at hl
    simp only [receivePktSize_eq] at h ⊢
    omega

theorem within_writeSecret (len : ℕ) :
    (writeSecret L key s).Within (Access.InBounds len) ↔ key.length ≤ bindkeyMaxSize := by
  simp only [Logged.Within, writeSecret, List.forall_mem_map, List.mem_range, Access.InBounds]
  constructor
  · intro h
    by_contra hn
    exact absurd (h bindkeyMaxSize (not_le.mp hn)) (lt_irrefl _)
  · intro h i hi
    omega

/-- The copy of BIND is in bounds exactly when the length byte is at most 32. -/
theorem within_inputBind : (inputBind L now pkt s).Within (Access.InBounds pkt.length) ↔
    (now ≤ s.state.timeNonceValid → bindReceivePktSize ≤ pkt.length →
      s.flags.requestBind = false → (newBindKeyLen pkt).toNat ≤ bindkeyMaxSize) := by
  unfold inputBind
  by_cases ht : now ≤ s.state.timeNonceValid
  · rw [prvIsAppSessionValid_of_ge ht]
    simp only [not_true_eq_false, if_false, ht, forall_const]
    by_cases hl : bindReceivePktSize ≤ pkt.length
    · rw [if_neg (not_lt.mpr hl)]
      have hb : receivePktSize < pkt.length := by
        rw [bindReceivePktSize_eq] at hl
        rw [receivePktSize_eq]
        omega
      have hv : (readByte L pkt receivePktSize).val = newBindKeyLen pkt := by
        rw [val_readByte L hb]
        simp [newBindKeyLen, content, List.getElem?_drop]
      have hr : (readPacket L pkt (receivePktSize + 1) (newBindKeyLen pkt).toNat).val =
          newBindKey L pkt := rfl
      cases hf : s.flags.requestBind
      · simp only [hl, forall_const, Bool.false_eq_true, if_false, Logged.within_bind,
          Logged.within_pure, and_true, within_readByte, within_readPacket, within_writeSecret, hv,
          hr, length_newBindKey hl, hb, true_and]
        refine ⟨And.right, fun hk ↦ ⟨.inr ?_, hk⟩⟩
        rw [bindReceivePktSize_eq] at hl
        rw [receivePktSize_eq]
        have hm : bindkeyMaxSize = 32 := rfl
        omega
      · simp
    · rw [if_pos (not_le.mp hl)]
      simp [hl]
  · rw [prvIsAppSessionValid_of_lt (not_le.mp ht)]
    simp [ht]

/-- An access of the packet or to the secret is out of bounds exactly when a BIND with a
length byte above 32 is accepted. -/
theorem networkInput_within_iff :
    (bstNetworkInput L now random data s).Within (Access.InBounds data.length) ↔
      ∀ pkt, BindAccepted L now data pkt s → (newBindKeyLen pkt).toNat ≤ bindkeyMaxSize := by
  unfold bstNetworkInput
  by_cases hg : s.state.state ≠ .waitingForData ∨ data.length < receivePktSize
  · rw [if_pos hg]
    refine iff_of_true (Logged.within_pure _ _) fun pkt hb ↦ ?_
    rcases hg with hg | hg
    · exact absurd hb.1.1 hg
    · exact absurd hb.1.2.1 (not_le.mpr hg)
  · rw [if_neg hg]
    simp only [ne_eq, not_or, not_not, not_lt] at hg
    obtain ⟨hm, hl⟩ := hg
    rw [Logged.within_bind, and_iff_right (within_prvCheckHeaderAndDecrypt hl)]
    generalize hv : (prvCheckHeaderAndDecrypt L data s).val = r
    obtain ⟨valid, pkt⟩ := r
    cases valid with
    | false =>
      simp only [Bool.false_eq_true, not_false_eq_true, if_true]
      refine iff_of_true (Logged.within_pure _ _) fun q hb ↦ ?_
      have hq := hb.1.2.2
      rw [hv] at hq
      cases hq
    | true =>
      have hr : Received L data pkt s := ⟨hm, hl, hv⟩
      have hcmd : receivePktSize - 1 < data.length := by
        rw [receivePktSize_eq] at hl ⊢
        omega
      have hbind : (∀ q, BindAccepted L now data q s → (newBindKeyLen q).toNat ≤ bindkeyMaxSize) ↔
          (command pkt = cmdBind → now ≤ s.state.timeNonceValid → bindReceivePktSize ≤ pkt.length →
            s.flags.requestBind = false → (newBindKeyLen pkt).toNat ≤ bindkeyMaxSize) := by
        constructor
        · intro h hc ht hb hf
          exact h pkt ⟨hr, hc, ht, hb, hf⟩
        · intro h q ⟨hq, hc, ht, hb, hf⟩
          obtain rfl := hr.unique hq
          exact h hc ht hb hf
      have hc : (readByte L pkt (receivePktSize - 1)).val = command pkt :=
        val_readByte L (by rwa [hr.length_eq])
      simp only [not_true_eq_false, if_false]
      rw [hbind, Logged.within_bind, within_readByte, and_iff_right hcmd, hc, ← hr.length_eq]
      by_cases h₁ : command pkt = cmdHello
      · rw [if_pos h₁]
        refine iff_of_true within_inputHello fun h ↦ ?_
        rw [h₁] at h
        exact absurd h (by decide)
      rw [if_neg h₁]
      by_cases h₂ : command pkt = cmdBind
      · rw [if_pos h₂, within_inputBind]
        exact ⟨fun h _ ↦ h, fun h ↦ h h₂⟩
      rw [if_neg h₂]
      refine iff_of_true ?_ fun h ↦ absurd h h₂
      split
      · exact within_inputSetData
      · exact Logged.within_pure _ _

structure SecretBounded (d : Device) : Prop where
  options : d.inst.options.SecretFits
  secret : d.inst.cryptoSecretLen.toNat ≤ bindkeyMaxSize

def InitialSecretFits (m : LibraryMove) : Prop :=
  ∀ o data key, m.input.call = .setup o data key → o.SecretFits

def AccessesInBounds (L : Layout) (m : LibraryMove) : Prop :=
  ∀ data random, m.input.call = .networkInput data random →
    (bstNetworkInput L m.input.now random data m.pre.inst).Within (Access.InBounds data.length)

theorem Options.SecretFits.bootstrapped {o : Options} (h : o.SecretFits) :
    o.bootstrapped.SecretFits := by
  intro i hi
  rw [Options.bootstrapped_initialCryptoSecret] at hi
  exact h i hi

theorem bstSetup_bounded (L : Layout) (now : Time) (data key : List UInt8) {o : Options}
    (ho : o.SecretFits) :
    (bstSetup L now o data key).1.options.SecretFits ∧
      (bstSetup L now o data key).1.cryptoSecretLen.toNat ≤ bindkeyMaxSize := by
  constructor
  · rw [bstSetup_options]
    split
    · exact ho.bootstrapped
    · exact ho
  · have hlen := ho.length_chosenSecret key
    have hs : (bstSetup L now o data key).1.cryptoSecretLen = (chosenSecret o key).length.toUInt8 :=
      congrArg Prod.snd (bstSetup_secretField L now o data key)
    rwa [hs, toNat_toUInt8 (hlen.trans_lt (by decide))]

theorem SecretBounded.step {e : Event} (hd : SecretBounded d)
    (hs : InitialSecretFits ((library L).move d e)) (hb : BindFits L ((library L).move d e)) :
    SecretBounded ((library L).step e d).1 := by
  obtain ⟨now, call⟩ := e
  cases call with
  | setup o data key =>
    obtain ⟨ho, hl⟩ := bstSetup_bounded L now data key (hs o data key rfl)
    exact ⟨ho, hl⟩
  | periodic conn =>
    have heff := bstPeriodic_effect L now conn d.inst
    by_cases hf : d.inst.options.Ready ∧ d.inst.flags.requestFactoryReset = true
    · rw [step_periodic L rfl, bstPeriodic_factoryReset L conn hf.1 hf.2]
      obtain ⟨ho, hl⟩ := bstSetup_bounded L now [] [] hd.options
      exact ⟨ho, hl⟩
    · obtain ⟨-, hsec, hopt⟩ := heff.same_data hf
      have hlen := congrArg Prod.snd hsec
      rw [step_periodic L rfl]
      exact ⟨hopt ▸ hd.options, (congrArg UInt8.toNat hlen).trans_le hd.secret⟩
  | networkInput data random =>
    have heff := networkInput_effect L now random data d.inst
    rw [step_networkInput L rfl]
    refine ⟨heff.options ▸ hd.options, ?_⟩
    rcases heff.secretField with hsec | ⟨pkt, hacc, ht⟩
    · have hlen := congrArg Prod.snd hsec
      exact (congrArg UInt8.toNat hlen).trans_le hd.secret
    · rw [Device.after_inst, ht]
      exact hb data random pkt rfl hacc
  | wifiNetworkList list => exact ⟨hd.options, hd.secret⟩
  | setErrorMessage mesg => exact ⟨hd.options, hd.secret⟩
  | factoryReset => exact ⟨hd.options, hd.secret⟩
  | confirmBootstrap => exact ⟨hd.options, hd.secret⟩

theorem secretBounded_off : SecretBounded .off := ⟨nofun, by decide⟩

/-- In exactly the runs whose BINDs bring at most 32 bytes, the secret keeps its bound and
every packet is handled within its own length and the secret array. -/
theorem secret_bounded_iff (r : (library L).Run .off h d) (hinit : ∀ m ∈ h, InitialSecretFits m) :
    (∀ m ∈ h, m.post.inst.cryptoSecretLen.toNat ≤ bindkeyMaxSize ∧ AccessesInBounds L m) ↔
      ∀ m ∈ h, BindFits L m := by
  have access (m : LibraryMove) : AccessesInBounds L m ↔ BindFits L m := by
    simp only [AccessesInBounds, BindFits, networkInput_within_iff]
    exact ⟨fun h data random pkt hc ↦ h data random hc pkt,
      fun h data random hc pkt ↦ h data random pkt hc⟩
  constructor
  · intro h m hm
    exact (access m).mp (h m hm).2
  · intro hb m hm
    obtain ⟨earlier, hr, hsub⟩ := r.upto hm
    have hbound : SecretBounded m.post := by
      exact hr.invariant (P := SecretBounded) (G := fun m ↦ InitialSecretFits m ∧ BindFits L m)
        secretBounded_off (fun t i ht hg ↦ ht.step hg.1 hg.2)
        fun x hx ↦ ⟨hinit x (hsub x hx), hb x (hsub x hx)⟩
    exact ⟨hbound.secret, (access m).mpr (hb m hm)⟩

theorem sampleHistory_initialSecretFits : ∀ m ∈ sampleHistory, InitialSecretFits m := by
  intro m hm o data key hc
  rw [(greeting_moves sampleOptions_ready m hm).1 o data key hc]
  intro i hi
  cases hi
  decide

theorem secret_bounded_of_short_bind :
    (sampleBound [9, 8, 7, 6]).post.inst.cryptoSecretLen.toNat ≤ bindkeyMaxSize ∧
      AccessesInBounds lp64 (sampleBound [9, 8, 7, 6]) := by
  refine (secret_bounded_iff (run_sample.snoc _) ?_).mpr ?_ _ List.mem_cons_self
  · exact List.forall_mem_cons.mpr ⟨setup_of_not id, sampleHistory_initialSecretFits⟩
  · exact List.forall_mem_cons.mpr ⟨bindFits_sampleBound (by decide),
      greeting_bindFits sampleOptions_ready⟩

def overlongBind : LibraryMove :=
  (library lp64).move sampleDevice (bindEvent lp64 sampleDevice 2 (List.replicate 33 9))

theorem overlong_bind_overruns_secret :
    (library lp64).Run .off (overlongBind :: sampleHistory) overlongBind.post ∧
      (∀ m ∈ overlongBind :: sampleHistory, InitialSecretFits m) ∧
      overlongBind.post.inst.cryptoSecretLen.toNat = 33 ∧ ¬ AccessesInBounds lp64 overlongBind := by
  have hk : (List.replicate 33 (9 : UInt8)).length ≤ 255 := by decide
  have hacc : BindAccepted lp64 2 (receivePkt lp64 sampleDevice.inst cmdBind
      (bindContent (List.replicate 33 9))) _ sampleDevice.inst :=
    bindAccepted_receivePkt rfl (by decide) rfl hk
  have hlen := newBindKeyLen_bindContent hk
  refine ⟨run_sample.snoc _, ?_, ?_, fun h ↦ ?_⟩
  · exact List.forall_mem_cons.mpr ⟨setup_of_not id, sampleHistory_initialSecretFits⟩
  · have hpost : overlongBind.post = _ := step_bindEvent rfl (by decide) rfl hk
    rw [hpost]
    exact hlen
  · have hfit := networkInput_within_iff.mp (h _ _ rfl) _ hacc
    rw [hlen] at hfit
    exact absurd hfit (by decide)

end BootstrapWifi
