import BootstrapWifi.BoundedSecret

namespace BootstrapWifi

open Mealy ByteBuffer Spritz

variable {L : Layout} {now : Time} {random : UInt64} {data pkt key : List UInt8} {s : Instance}
  {o : Options} {d : Device} {e : Event} {h : List LibraryMove}

theorem secret_layout (L' : Layout) (hs : s.cryptoSecretLen.toNat ≤ bindkeyMaxSize) :
    s.secret L' = s.secret L := by
  rw [s.secret_of_le L' hs, s.secret_of_le L hs]

theorem bstSetup_layout (L' : Layout) (now : Time) (data key : List UInt8) (ho : o.SecretFits) :
    bstSetup L' now o data key = bstSetup L now o data key := by
  have hfit := ho.length_chosenSecret key
  have hloaded : loaded L' o data key = loaded L o data key := by
    rw [loaded_eq, loaded_eq, copySecret_of_le hfit, copySecret_of_le hfit]
  unfold loaded at hloaded
  unfold bstSetup
  rw [hloaded]

theorem bstPeriodic_layout (L' : Layout) (now : Time) (conn : ConnectState)
    (ho : s.options.SecretFits) (hs : s.cryptoSecretLen.toNat ≤ bindkeyMaxSize) :
    bstPeriodic L' now conn s = bstPeriodic L now conn s := by
  have hreset : serveFactoryReset L' now s = serveFactoryReset L now s := by
    unfold serveFactoryReset
    rw [bstSetup_layout L' now [] [] ho]
  have hbind : serveBind L' s = serveBind L s := by
    refine Prod.ext rfl ?_
    rw [serveBind_output L' hs, serveBind_output L hs]
  unfold bstPeriodic
  rw [hreset, hbind]

theorem received_layout (L' : Layout) (hs : s.cryptoSecretLen.toNat ≤ bindkeyMaxSize) :
    Received L' data pkt s ↔ Received L data pkt s := by
  have hpkt : decryptedPacket L' data s = decryptedPacket L data s := by
    unfold decryptedPacket
    rw [secret_layout L' hs]
  rw [received_iff, received_iff, hpkt]

/-- A key of at most 32 bytes lies within the packet. -/
theorem newBindKey_layout (L' : Layout) (hl : bindReceivePktSize ≤ pkt.length)
    (hk : (newBindKeyLen pkt).toNat ≤ bindkeyMaxSize) : newBindKey L' pkt = newBindKey L pkt := by
  have hin (L : Layout) : newBindKey L pkt =
      (pkt.drop (receivePktSize + 1)).take (newBindKeyLen pkt).toNat := by
    have hend : receivePktSize + 1 + (newBindKeyLen pkt).toNat ≤ pkt.length := by
      rw [bindReceivePktSize] at hl
      omega
    exact val_readPacket L hend
  rw [hin, hin]

theorem networkInput_layout (L' : Layout) (random : UInt64)
    (hs : s.cryptoSecretLen.toNat ≤ bindkeyMaxSize)
    (hfit : ∀ pkt, BindAccepted L now data pkt s → (newBindKeyLen pkt).toNat ≤ bindkeyMaxSize) :
    (bstNetworkInput L' now random data s).val = (bstNetworkInput L now random data s).val := by
  by_cases hr : ∃ pkt, Received L data pkt s
  · obtain ⟨pkt, hr⟩ := hr
    have hbind (hc : command pkt = cmdBind) :
        (inputBind L' now pkt s).val = (inputBind L now pkt s).val := by
      rw [val_inputBind, val_inputBind]
      by_cases ht : s.state.timeNonceValid < now
      · rw [if_pos ht, if_pos ht]
      rw [if_neg ht, if_neg ht]
      by_cases hb : bindReceivePktSize ≤ pkt.length ∧ s.flags.requestBind = false
      · have hk := hfit pkt ⟨hr, hc, not_lt.mp ht, hb⟩
        rw [bindDone_of_le hk, bindDone_of_le hk, newBindKey_layout L' hb.1 hk]
      · rw [if_neg hb, if_neg hb]
    rw [networkInput_of_received hr, networkInput_of_received ((received_layout L' hs).mpr hr),
      val_inputHello, val_inputHello, val_inputSetData hr.length_le, val_inputSetData hr.length_le]
    by_cases hc : command pkt = cmdBind
    · rw [hbind hc]
    · rw [if_neg hc, if_neg hc]
  · have hno := not_exists.mp hr
    rw [networkInput_of_not_received hno,
      networkInput_of_not_received fun pkt ↦ (received_layout L' hs).not.mpr (hno pkt)]

theorem step_layout (L' : Layout) (hd : SecretBounded d)
    (hs : InitialSecretFits ((library L).move d e)) (hb : BindFits L ((library L).move d e)) :
    (library L').step e d = (library L).step e d := by
  obtain ⟨now, call⟩ := e
  cases call with
  | setup o data key =>
    exact congrArg (Device.after ⟨d.inst, ⟨data, key⟩, o, data, key⟩)
      (bstSetup_layout L' now data key (hs o data key rfl))
  | periodic conn =>
    rw [step_periodic L' rfl, step_periodic L rfl, bstPeriodic_layout L' now conn hd.options hd.secret]
  | networkInput data random =>
    have hinput := networkInput_layout L' random hd.secret
      fun pkt ↦ hb data random pkt rfl
    exact congrArg (fun t ↦ d.after (t, [])) hinput
  | wifiNetworkList list =>
    have hout : bstWifiNetworkList L' list d.inst = bstWifiNetworkList L list d.inst := by
      unfold bstWifiNetworkList prvAddChecksumAndEncrypt
      rw [secret_layout L' hd.secret]
    exact congrArg (fun acts ↦ d.after (d.inst, acts)) hout
  | setErrorMessage mesg => rfl
  | factoryReset => rfl
  | confirmBootstrap => rfl

/-- As long as every secret fits its array, what lies behind the array or behind a packet
reaches neither the state nor the platform: the run is one of any other memory layout. -/
theorem run_layout_free (L' : Layout) (r : (library L).Run .off h d)
    (hinit : ∀ m ∈ h, InitialSecretFits m) (hb : ∀ m ∈ h, BindFits L m) :
    (library L').Run .off h d :=
  r.transfer (P := SecretBounded) (G := fun m ↦ InitialSecretFits m ∧ BindFits L m)
    secretBounded_off (fun _ _ hd hg ↦ hd.step hg.1 hg.2)
    (fun _ _ hd hg ↦ step_layout L' hd hg.1 hg.2) fun m hm ↦ ⟨hinit m hm, hb m hm⟩

/-- Zero bytes lie behind everything, and writing there changes nothing. -/
def padded : Layout where
  behindSecret _ := .zero _
  behindPacket _ := .zero _
  spill _ x := x
  spill_nil _ := rfl

theorem sample_layout_free : (library padded).Run .off
    (sampleBound [9, 8, 7, 6] :: sampleHistory) (sampleBound [9, 8, 7, 6]).post :=
  run_layout_free padded (run_sample.snoc _)
    (List.forall_mem_cons.mpr ⟨setup_of_not id, sampleHistory_initialSecretFits⟩)
    (List.forall_mem_cons.mpr ⟨bindFits_sampleBound (by decide),
      greeting_bindFits sampleOptions_ready⟩)

end BootstrapWifi
