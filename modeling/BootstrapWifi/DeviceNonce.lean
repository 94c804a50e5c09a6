import BootstrapWifi.LongPress

namespace BootstrapWifi

open Mealy ByteBuffer

variable {L : Layout} {o : Options} {flash : Flash} {b : Board} {h : List BoardMove} {d : Device}
  {e : Event}

/-- The device nonces that the platform can make; the first one is all zero. -/
def PlatformNonce (nonce : Buffer nonceSize) : Prop :=
  ∃ rand : Fin (2 ^ 31), nonce.bytes = randomBytes (bstGetRandom rand)

theorem platformNonce_zero : PlatformNonce (.zero _) := ⟨0, by decide⟩

theorem PeriodicEffect.prvDeviceNonce {now : Time} {s : Instance} {r : Instance × List Action}
    (heff : PeriodicEffect L now s r) : r.1.state.prvDeviceNonce = .zero _ ∨
      r.1.state.prvDeviceNonce = s.state.prvDeviceNonce := by
  cases heff with
  | off => exact .inr rfl
  | factoryReset ho =>
    rw [serveFactoryReset_eq L ho]
    exact .inl rfl
  | bind => exact .inr rfl
  | wifiList => exact .inr rfl
  | setWifi => exact .inl rfl
  | poll _ _ _ _ _ hp =>
    cases hp with
    | stay _ hs => exact .inr hs.prvDeviceNonce
    | bootstrapped => exact .inl rfl
    | fellBack => exact .inl rfl

theorem bstSetup_prvDeviceNonce (ho : o.Ready) (now : Time) (data key : List UInt8) :
    (bstSetup L now o data key).1.state.prvDeviceNonce = .zero _ := by
  have heff := bstSetup_effect L now o data key
  generalize bstSetup L now o data key = r at heff
  cases heff with
  | bootstrapped => rfl
  | waiting => rfl
  | idle _ hn =>
    have hs := ho.1
    rw [hn] at hs
    cases hs

/-- Only the platform's own random numbers come into the nonce. -/
def PlatformEvent (o : Options) (e : Event) : Prop :=
  (∀ o' data key, e.call = .setup o' data key → o' = o) ∧
    ∀ data random, e.call = .networkInput data random → ∃ rand, random = bstGetRandom rand

theorem platformNonce_step (ho : o.Ready) (hd : PlatformNonce d.inst.state.prvDeviceNonce)
    (he : PlatformEvent o e) (hfit : BindFits L ((library L).move d e)) :
    PlatformNonce ((library L).step e d).1.inst.state.prvDeviceNonce := by
  obtain ⟨now, call⟩ := e
  cases call with
  | setup o' data key =>
    obtain rfl := he.1 o' data key rfl
    change PlatformNonce (bstSetup L now o' data key).1.state.prvDeviceNonce
    rw [bstSetup_prvDeviceNonce ho]
    exact platformNonce_zero
  | periodic conn =>
    rw [step_periodic L rfl, Device.after_inst]
    rcases (bstPeriodic_effect L now conn d.inst).prvDeviceNonce with hzero | hkeep
    · rw [hzero]
      exact platformNonce_zero
    · rwa [hkeep]
  | networkInput data random =>
    obtain ⟨rand, rfl⟩ := he.2 data random rfl
    rw [step_networkInput L rfl, Device.after_inst]
    have heff := networkInput_effect L now (bstGetRandom rand) data d.inst
    generalize (bstNetworkInput L now (bstGetRandom rand) data d.inst).val = t at heff
    cases heff with
    | ignored => exact hd
    | expired => exact platformNonce_zero
    | hello pkt => exact ⟨rand, helloDone_prvDeviceNonce⟩
    | bind pkt hb =>
      rw [bindDone_of_le (hfit data _ pkt rfl hb)]
      exact hd
    | setData pkt => exact hd
  | _ => exact hd

theorem platformEvent_of_call (hs : ¬ e.call.IsSetup)
    (hn : ∀ data random, e.call ≠ .networkInput data random) : PlatformEvent o e := by
  refine ⟨fun o' data key hc ↦ absurd ?_ hs, fun data random hc ↦ absurd hc (hn data random)⟩
  rw [hc]
  trivial

theorem platformEvents (i : BoardInput) (b : Board) :
    ∀ y ∈ ((board L o flash).move b i).output.moves, PlatformEvent o y.input := by
  intro y hy
  cases i with
  | setup micros =>
    obtain rfl := List.mem_singleton.mp hy
    clear hy
    rw [move_input]
    exact ⟨fun o' data key hc ↦ by cases hc; rfl, nofun⟩
  | loop x =>
    have hcalls := loop_calls y hy
    clear hy
    rcases hcalls with ⟨conn, hc⟩ | hc | hc | ⟨data, -, hc⟩
    · exact platformEvent_of_call (by rw [hc]; exact id) (by rw [hc]; nofun)
    · exact platformEvent_of_call (by rw [hc]; exact id) (by rw [hc]; nofun)
    · exact platformEvent_of_call (by rw [hc]; exact id) (by rw [hc]; nofun)
    · refine ⟨fun o' data' key h ↦ ?_, fun data' random h ↦ ?_⟩
      · generalize bstGetRandom x.rand = random at hc
        rw [hc] at h
        cases h
      · rw [hc] at h
        exact ⟨x.rand, (Call.networkInput.inj h).2.symm⟩
  | scanDone ok result =>
    change y ∈ (boardStep L o (.scanDone ok result) b).2.moves at hy
    unfold boardStep at hy
    dsimp only at hy
    split at hy
    · cases hy
    · obtain rfl := List.mem_singleton.mp hy
      clear hy
      rw [move_input]
      exact platformEvent_of_call id nofun

theorem upper_byte (rand : Fin (2 ^ 31)) {i : ℕ} (h₄ : 4 ≤ i) (h₈ : i < 8) :
    (bstGetRandom rand >>> (8 * i).toUInt64).toUInt8 = 0 := by
  have hr : (bstGetRandom rand).toNat = rand :=
    UInt64.toNat_ofNat_of_lt' (rand.isLt.trans (by decide))
  have hsize : 8 * i < 64 := by omega
  have hi : (8 * i).toUInt64.toNat = 8 * i :=
    UInt64.toNat_ofNat_of_lt' (hsize.trans (by decide))
  have hlt : (rand : ℕ) < 2 ^ (8 * i) :=
    rand.isLt.trans_le (Nat.pow_le_pow_right (by decide) (by omega))
  apply UInt8.toNat_inj.mp
  rw [UInt64.toNat_toUInt8, UInt64.toNat_shiftRight, hr, hi, Nat.mod_eq_of_lt hsize,
    Nat.shiftRight_eq_div_pow, Nat.div_eq_of_lt hlt]
  rfl

/-- The upper half of a nonce that the platform has made is zero. -/
theorem PlatformNonce.drop_eq {nonce : Buffer nonceSize} (hn : PlatformNonce nonce) :
    nonce.bytes.drop 4 = [0, 0, 0, 0] := by
  obtain ⟨rand, hbytes⟩ := hn
  rw [hbytes]
  have hupper : ∀ i ∈ [4, 5, 6, 7],
      (bstGetRandom rand >>> (8 * i).toUInt64).toUInt8 = 0 := by
    intro i hi
    simp only [List.mem_cons, List.not_mem_nil, or_false] at hi
    exact upper_byte rand (by omega) (by omega)
  exact List.map_congr_left hupper

/-- Half of every device nonce is zero on this platform: no more than 2^31 nonces ever protect
what an app sends. -/
theorem device_nonce_weak (ho : o.Ready) (r : (board L o flash).Run (board L o flash).start h b)
    (hfit : ∀ m ∈ h, ∀ y ∈ m.output.moves, BindFits L y) :
    PlatformNonce b.device.inst.state.prvDeviceNonce ∧
      b.device.inst.state.prvDeviceNonce.bytes.drop 4 = [0, 0, 0, 0] := by
  have hn : PlatformNonce b.device.inst.state.prvDeviceNonce := by
    refine r.invariant (P := fun b ↦ PlatformNonce b.device.inst.state.prvDeviceNonce)
      platformNonce_zero (fun b i hb hg ↦ ?_) hfit
    have hcalls : (library L).Run b.device ((board L o flash).step i b).2.moves
        ((board L o flash).step i b).1.device := step_library i b
    exact hcalls.invariant (P := fun d ↦ PlatformNonce d.inst.state.prvDeviceNonce)
      (G := fun y ↦ PlatformEvent o y.input ∧ BindFits L y) hb
      (fun d e hd hy ↦ platformNonce_step ho hd hy.1 hy.2)
      fun y hy ↦ ⟨platformEvents i b y hy, hg y hy⟩
  exact ⟨hn, hn.drop_eq⟩

/-- A board with empty files is switched on and joins its bootstrap network; then an app says
HELLO, for which the SDK draws the number 7. -/
def emptyBoard : Machine Board BoardInput BoardOutput := board lp64 sampleOptions ⟨[], []⟩

def boardEmpty : BoardMove := emptyBoard.move emptyBoard.start (.setup 1000)

def boardJoined : BoardMove := emptyBoard.move boardEmpty.post (.loop (quietTurn 10 false))

def helloTurn : Turn :=
  { quietTurn 20 false with
    packet := some (plainPkt cmdHello (List.replicate 8 5))
    rand := ⟨7, by decide⟩ }

def boardGreeted : BoardMove := emptyBoard.move boardJoined.post (.loop helloTurn)

theorem boardGreeted_prvDeviceNonce :
    boardGreeted.post.device.inst.state.prvDeviceNonce.bytes = [7, 0, 0, 0, 0, 0, 0, 0] := by
  decide +kernel

theorem sample_device_nonce_weak :
    boardGreeted.post.device.inst.state.prvDeviceNonce.bytes.take 4 = [7, 0, 0, 0] ∧
      PlatformNonce boardGreeted.post.device.inst.state.prvDeviceNonce ∧
      boardGreeted.post.device.inst.state.prvDeviceNonce.bytes.drop 4 = [0, 0, 0, 0] := by
  have hsetup : ∀ y ∈ boardEmpty.output.moves, BindFits lp64 y :=
    List.forall_mem_singleton.mpr (bindFits_of_call nofun)
  have hjoin : ∀ y ∈ boardJoined.output.moves, BindFits lp64 y := bindFits_of_command nofun
  have hhello : ∀ y ∈ boardGreeted.output.moves, BindFits lp64 y := by
    refine bindFits_of_command fun data hdata ↦ ?_
    obtain rfl := Option.some.inj hdata
    rw [command_plainPkt]
    decide
  refine ⟨by rw [boardGreeted_prvDeviceNonce]; rfl, ?_⟩
  exact device_nonce_weak sampleOptions_ready (((Machine.Run.nil.snoc _).snoc _).snoc _)
    (List.forall_mem_cons.mpr ⟨hhello, List.forall_mem_cons.mpr ⟨hjoin,
      List.forall_mem_singleton.mpr hsetup⟩⟩)

end BootstrapWifi
