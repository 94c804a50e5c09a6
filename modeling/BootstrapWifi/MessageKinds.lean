import BootstrapWifi.AppReader
import BootstrapWifi.Commands
import BootstrapWifi.LinkMove

namespace BootstrapWifi

open Mealy

variable {L : Layout} {now : Time} {conn : ConnectState} {random : UInt64} {data out : List UInt8}
  {s t : Instance} {d : Device} {e : Event} {m : LibraryMove} {h : List LibraryMove} {l : Link}
  {acts : List Action} {code : ErrorState}

/-- The codes that a device reports in its list packets. -/
def ErrorState.isReport : ErrorState → Bool
  | .ok | .errorWifiNotFound | .errorWifiCredentialsWrong | .errorAdvanced => true
  | _ => false

theorem ErrorState.code_of_isReport (hr : code.isReport = true) :
    code.code ≠ ErrorState.hello.code ∧ code.code ≠ ErrorState.bootstrapOk.code := by
  cases code with
  | ok => decide
  | errorWifiNotFound => decide
  | errorWifiCredentialsWrong => decide
  | errorAdvanced => decide
  | _ => cases hr

theorem pollWaitingForData_report (hs : s.state.lastError.isReport = true) :
    (pollWaitingForData now conn s).1.state.lastError.isReport = true := by
  by_cases hconn : conn = .connected
  · rw [hconn, pollWaitingForData_connected]
    split
    · exact hs
    split
    · rfl
    · exact hs
  · rw [pollWaitingForData_lost hconn]
    exact hs

theorem pollConnectingToBootstrap_report (hs : s.state.lastError.isReport = true) :
    (pollConnectingToBootstrap now conn s).1.state.lastError.isReport = true := by
  have hw : (pollWaitingForData now conn
      { s with state.state := .waitingForData }).1.state.lastError.isReport = true :=
    pollWaitingForData_report hs
  unfold pollConnectingToBootstrap
  split
  · exact hw
  split
  · exact hs
  dsimp only
  split
  · exact hs
  split
  · exact hs
  · rfl

theorem pollDestinationConnected_report (hs : s.state.lastError.isReport = true) :
    (pollDestinationConnected now conn s).1.state.lastError.isReport = true := by
  cases conn with
  | connected =>
    simp only [pollDestinationConnected]
    split
    · split
      · rfl
      split
      · exact hs
      · exact hs
    · exact hs
  | connecting => exact hs
  | noConnection => exact hs
  | _ => rfl

theorem pollConnectingToDest_report (hs : s.state.lastError.isReport = true) :
    (pollConnectingToDest now conn s).1.state.lastError.isReport = true := by
  unfold pollConnectingToDest
  split
  · dsimp only
    split
    · exact pollDestinationConnected_report rfl
    · exact pollDestinationConnected_report hs
  split
  · dsimp only
    split
    · rfl
    · exact hs
  · exact pollDestinationConnected_report hs

theorem poll_report (hs : s.state.lastError.isReport = true) :
    (poll now conn s).1.state.lastError.isReport = true := by
  unfold poll
  split
  · exact pollConnectingToBootstrap_report hs
  · exact pollWaitingForData_report hs
  · exact pollConnectingToDest_report hs
  · exact pollDestinationConnected_report hs
  · exact hs

theorem periodic_report (hs : s.state.lastError.isReport = true) :
    (bstPeriodic L now conn s).1.state.lastError.isReport = true := by
  by_cases hp : s.Polls
  · rw [hp.periodic L]
    exact poll_report hs
  have heff := bstPeriodic_effect L now conn s
  generalize bstPeriodic L now conn s = r at heff
  cases heff with
  | off => exact hs
  | factoryReset ho =>
    rw [serveFactoryReset_eq L ho]
    rfl
  | bind => rfl
  | wifiList => exact hs
  | setWifi => rfl
  | poll ho hf hb hl hw => exact absurd ⟨ho, hf, hb, hl, hw⟩ hp

theorem InputEffect.lastError (heff : InputEffect L now random data s t)
    (hfit : ∀ pkt, BindAccepted L now data pkt s → (newBindKeyLen pkt).toNat ≤ bindkeyMaxSize) :
    t.state.lastError = s.state.lastError := by
  cases heff with
  | ignored => rfl
  | expired => rfl
  | hello pkt =>
    unfold Instance.helloDone
    split <;> exact rfl
  | bind pkt hb => rw [bindDone_of_le (hfit pkt hb)]
  | setData pkt => rfl

theorem bstSetup_report {o : Options} {key : List UInt8} (ho : SetupContained o data key) :
    (bstSetup L now o data key).1.state.lastError.isReport = true := by
  have heff := bstSetup_effect L now o data key
  generalize bstSetup L now o data key = r at heff
  cases heff with
  | bootstrapped => rfl
  | waiting => rfl
  | idle hs hb =>
    rw [(loaded_of_idle L ho hs hb).1]
    rfl

theorem report_of_run (r : (library L).Run .off h d) (hfit : ∀ m ∈ h, Contained L m) :
    d.inst.state.lastError.isReport = true := by
  refine r.invariant (P := fun d ↦ d.inst.state.lastError.isReport = true) (G := Contained L) rfl
    ?_ hfit
  intro d e hd hfit
  obtain ⟨now, call⟩ := e
  cases call with
  | setup o data key => exact bstSetup_report (hfit.1 o data key rfl)
  | periodic conn => exact periodic_report hd
  | networkInput data random =>
    have heff := networkInput_effect L now random data d.inst
    rw [step_networkInput L rfl, Device.after_inst,
      heff.lastError fun pkt ↦ hfit.2 data random pkt rfl]
    exact hd
  | _ => exact hd

/-- A poll only greets, and it greets when it gets onto the bootstrap network. -/
theorem LinkStep.sends (hl : LinkStep now conn s l acts) (ha : .sendMessage code ∈ acts) :
    code = .hello ∧ s.state.state = .connectingToBootstrap ∧ conn.isConnected = true := by
  have greets (hc : conn.isConnected = true) (ha : .sendMessage code ∈ s.greeting) :
      code = .hello ∧ s.state.state = .connectingToBootstrap ∧ conn.isConnected = true := by
    unfold Instance.greeting at ha
    split at ha
    next hm => exact ⟨by simpa using ha, hm, hc⟩
    next => cases ha
  cases hl with
  | greetAgain _ hc => exact greets (by rw [hc]; rfl) ha
  | dataWait _ hc => exact greets (by rw [hc]; rfl) ha
  | dataRearm _ hc => exact greets (by rw [hc]; rfl) ha
  | dataQuit _ hc =>
    rcases List.mem_append.mp ha with ha | ha
    · exact greets (by rw [hc]; rfl) ha
    · simp [Instance.enterDestinationActions] at ha
  | bootstrapRetry => simp at ha
  | bootstrapQuit => simp [Instance.enterDestinationActions] at ha
  | destRetry => simp at ha
  | destQuit => simp [Instance.enterBootstrapActions] at ha
  | destFailed => simp [Instance.enterBootstrapActions] at ha
  | associatedTry => simp at ha
  | advancedTry => simp at ha
  | advancedQuit => simp [Instance.enterBootstrapActions] at ha
  | _ => cases ha

/-- The device gets onto the bootstrap network. -/
def ReachesBootstrap (m : LibraryMove) : Prop :=
  m.pre.inst.state.state = .connectingToBootstrap ∧
    ∃ conn, seen m = some conn ∧ conn.isConnected = true

theorem periodic_sends (hc : m.input.call = .periodic conn)
    (hout : m.output = (bstPeriodic L m.input.now conn m.pre.inst).2)
    (ha : .sendMessage code ∈ m.output) :
    code = .hello ∧ ReachesBootstrap m ∨ code = .bootstrapOk ∧ ExecutesSetData m := by
  rw [hout] at ha
  by_cases hp : m.pre.inst.Polls
  · rw [hp.periodic L] at ha
    obtain ⟨hcode, hm, hconn⟩ := (poll_link m.input.now conn m.pre.inst).sends ha
    exact .inl ⟨hcode, hm, conn, seen_eq_some.mpr ⟨hc, hp⟩, hconn⟩
  have heff := bstPeriodic_effect L m.input.now conn m.pre.inst
  generalize bstPeriodic L m.input.now conn m.pre.inst = r at heff ha
  cases heff with
  | off => cases ha
  | factoryReset ho =>
    rw [serveFactoryReset_eq L ho] at ha
    simp at ha
  | bind => simp [serveBind] at ha
  | wifiList => simp at ha
  | setWifi ho hf hb hl hw =>
    refine .inr ⟨?_, conn, hc, ho, hf, hb, hl, hw⟩
    simpa [serveSetWifi, prvEnterBootstrappedMode] using ha
  | poll ho hf hb hl hw => exact absurd ⟨ho, hf, hb, hl, hw⟩ hp

theorem move_sends (ha : .sendMessage code ∈ ((library L).move d e).output) :
    code = .hello ∧ ReachesBootstrap ((library L).move d e) ∨
      code = .bootstrapOk ∧ ExecutesSetData ((library L).move d e) := by
  obtain ⟨now, call⟩ := e
  cases call with
  | setup o data key =>
    have heff := bstSetup_effect L now o data key
    change .sendMessage code ∈ (bstSetup L now o data key).2 at ha
    generalize bstSetup L now o data key = r at heff ha
    cases heff with
    | bootstrapped => simp [prvEnterBootstrappedMode] at ha
    | waiting => simp [prvEnterWaitForBootstrapMode] at ha
    | idle => cases ha
  | periodic conn => exact periodic_sends (L := L) rfl rfl ha
  | wifiNetworkList list =>
    exact absurd ha (wifiNetworkList_only (P := fun a ↦ ¬ .sendMessage code = a)
      (fun _ ↦ by simp) (.sendMessage code) · rfl)
  | _ => cases ha

theorem PeriodicEffect.not_lists {r : Instance × List Action} (heff : PeriodicEffect L now s r) :
    .networkOutput out ∉ r.2 := by
  intro ha
  cases heff with
  | off => cases ha
  | factoryReset ho =>
    rw [serveFactoryReset_eq L ho] at ha
    simp at ha
  | bind => simp [serveBind] at ha
  | wifiList => simp at ha
  | setWifi => simp [serveSetWifi, prvEnterBootstrappedMode] at ha
  | poll _ _ _ _ _ hp =>
    cases hp with
    | stay _ _ _ hr => exact hr _ ha
    | bootstrapped _ _ _ hr =>
      rcases List.mem_append.mp ha with ha | ha
      · exact hr _ ha
      · simp [prvEnterBootstrappedMode] at ha
    | fellBack => simp [prvEnterWaitForBootstrapMode] at ha

theorem command_of_networkOutput {list : List WifiListEntry}
    (ha : .networkOutput out ∈ bstWifiNetworkList L list s) :
    s.state.state = .waitingForData ∧ command out = s.state.lastError.code := by
  have hm : s.state.state = .waitingForData := by
    by_contra hm
    rw [bstWifiNetworkList, if_pos hm] at ha
    cases ha
  have hlen : receivePktSize ≤ (wifiListPacket list s).bytes.length := by
    rw [length_wifiListPacket]
    decide
  rw [sent_of_networkOutput ha, (sameEnvelope_sent hlen).command, command_bytes rfl]
  exact ⟨hm, rfl⟩

/-- A list goes out only from a device that waits for data, under the code it has in store. -/
theorem move_lists (ha : .networkOutput out ∈ ((library L).move d e).output) :
    d.inst.state.state = .waitingForData ∧ command out = d.inst.state.lastError.code := by
  obtain ⟨now, call⟩ := e
  cases call with
  | setup o data key =>
    have heff := bstSetup_effect L now o data key
    change .networkOutput out ∈ (bstSetup L now o data key).2 at ha
    generalize bstSetup L now o data key = r at heff ha
    cases heff with
    | bootstrapped => simp [prvEnterBootstrappedMode] at ha
    | waiting => simp [prvEnterWaitForBootstrapMode] at ha
    | idle => cases ha
  | periodic conn => exact absurd ha (bstPeriodic_effect L now conn d.inst).not_lists
  | wifiNetworkList list => exact command_of_networkOutput ha
  | _ => cases ha

/-- The two kinds of packets of a device are never taken for each other: a plain message says
that the device has got onto the bootstrap network or executes a SET_DATA, and no encrypted
list carries the code of a plain message. -/
theorem messages_told_apart (r : (library L).Run .off h d) (hfit : ∀ m ∈ h, Contained L m) :
    ∀ m ∈ h,
      (∀ code, .sendMessage code ∈ m.output →
        code = .hello ∧ ReachesBootstrap m ∨ code = .bootstrapOk ∧ ExecutesSetData m) ∧
      ∀ out, .networkOutput out ∈ m.output → m.pre.inst.state.state = .waitingForData ∧
        command out ≠ ErrorState.hello.code ∧ command out ≠ ErrorState.bootstrapOk.code := by
  intro m hm
  obtain ⟨later, earlier, rfl⟩ := List.append_of_mem hm
  obtain ⟨hr, he, -⟩ := r.split
  have hreport := report_of_run hr fun x hx ↦ hfit x (by simp [hx])
  rw [he]
  refine ⟨fun code ha ↦ move_sends ha, fun out ha ↦ ?_⟩
  obtain ⟨hwait, hcode⟩ := move_lists ha
  rw [hcode]
  exact ⟨hwait, ErrorState.code_of_isReport hreport⟩

/-- The answer to the first HELLO of an app. -/
def sampleAnswer : LibraryMove :=
  (library lp64).move sampleDevice ⟨2, .wifiNetworkList homeScan⟩

theorem sample_messages_told_apart :
    command (prvAddChecksumAndEncrypt lp64 (wifiListPacket homeScan sampleDevice.inst).bytes
      sampleDevice.inst) ≠ ErrorState.hello.code := by
  have hfit : ∀ m ∈ sampleAnswer :: sampleHistory, Contained lp64 m :=
    List.forall_mem_cons.mpr ⟨⟨setup_of_not id, bindFits_of_call nofun⟩,
      contained_greeting sampleOptions_ready⟩
  have hmem : .networkOutput (prvAddChecksumAndEncrypt lp64
      (wifiListPacket homeScan sampleDevice.inst).bytes sampleDevice.inst) ∈
        sampleAnswer.output := by
    have hwait : sampleDevice.inst.state.state = .waitingForData := rfl
    rw [sampleAnswer, move_output]
    change _ ∈ bstWifiNetworkList lp64 homeScan sampleDevice.inst
    rw [sent_of_waiting hwait]
    exact List.mem_singleton_self _
  exact ((messages_told_apart (run_sample.snoc _) hfit sampleAnswer List.mem_cons_self).2 _
    hmem).2.1

end BootstrapWifi
