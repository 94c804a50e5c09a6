import BootstrapWifi.DestinationMode
import BootstrapWifi.FactoryReset
import BootstrapWifi.StoredBlobs

namespace BootstrapWifi

open Mealy

variable {L : Layout} {now : Time} {data : List UInt8} {s : Instance} {o : Options}
  {d : Device} {e : Event} {m : LibraryMove} {later earlier h : List LibraryMove}

/-- The device reports that no confirmation is required, and accepts every SET_DATA that
meets the other conditions. -/
structure ConfirmationFree (L : Layout) (s : Instance) : Prop where
  reported : ∀ list, (wifiListPacket list s).externalConfirmationState = 0
  accepted : ∀ now data pkt, Received L data pkt s → command pkt = cmdSetData →
    now ≤ s.state.timeNonceValid → bootstrapReceivePktSize ≤ pkt.length →
    s.flags.requestSetWifi = false → SetDataAccepted L now data pkt s

/-- Neither the running device nor the rebooted one asks for a confirmation. -/
structure AskedOnce (L : Layout) (d : Device) : Prop where
  running : ConfirmationFree L d.inst
  rebooted : ∀ now, ConfirmationFree L (bstSetup L now d.options d.flash.data d.flash.key).1

def SetupFirstStart (m : LibraryMove) : Prop :=
  ∀ o data key, m.input.call = .setup o data key →
    o.externalConfirmationMode = .requiredFirstStart

/-- `bst_setup` is called with the options of before and the stored blobs. -/
def Reboots (m : LibraryMove) : Prop :=
  ∀ o data key, m.input.call = .setup o data key →
    o = m.pre.options ∧ data = m.pre.flash.data ∧ key = m.pre.flash.key

def ExecutesFactoryReset (m : LibraryMove) : Prop :=
  ∃ conn, m.input.call = .periodic conn ∧ m.pre.inst.options.Ready ∧
    m.pre.inst.flags.requestFactoryReset = true

theorem confirmationFree_iff :
    ConfirmationFree L s ↔ s.options.externalConfirmationMode = .notRequired := by
  constructor
  · intro h
    by_contra hmode
    have hreport : confirmState s = 0 := h.reported []
    unfold confirmState at hreport
    rw [if_neg hmode] at hreport
    split at hreport
    · cases hreport
    · cases hreport
  · intro hmode
    refine ⟨fun list ↦ if_pos hmode, fun now data pkt hr hc ht hl hf ↦ ?_⟩
    exact ⟨hr, hc, ht, hl, .inl hmode, hf⟩

/-- Of options that ask at the first start, stored data with an ssid take the question away. -/
theorem confirmationFree_of_first_start (ho : o.externalConfirmationMode = .requiredFirstStart)
    (hs : s.options = if (prvAssignData data .zero).ssid.isSome then o.bootstrapped else o) :
    ConfirmationFree L s ↔ data.getD 0 0 ≠ 0 := by
  rw [confirmationFree_iff, hs, ← prvAssignData_ssid_isSome data .zero]
  by_cases hdata : (prvAssignData data .zero).ssid.isSome = true
  · rw [if_pos hdata, Options.bootstrapped, if_pos ho]
    exact iff_of_true rfl hdata
  · rw [if_neg hdata, ho]
    exact iff_of_false (fun h ↦ by cases h) hdata

theorem askedOnce_iff (hd : OptionsKept d)
    (ho : d.options.externalConfirmationMode = .requiredFirstStart) :
    AskedOnce L d ↔ d.bstData.getD 0 0 ≠ 0 ∧ d.flash.data.getD 0 0 ≠ 0 := by
  have reboot (now : Time) := confirmationFree_of_first_start (L := L) ho
    (bstSetup_options L now d.options d.flash.data d.flash.key)
  constructor
  · intro h
    exact ⟨(confirmationFree_of_first_start ho hd).mp h.running, (reboot 0).mp (h.rebooted 0)⟩
  · intro h
    exact ⟨(confirmationFree_of_first_start ho hd).mpr h.1, fun now ↦ (reboot now).mpr h.2⟩

/-- A library that has been set up asks at the first start. -/
theorem firstStart_of_run (r : (library L).Run .off h d) (hs : ∀ m ∈ h, SetupFirstStart m) :
    d.inst.options.Ready → d.options.externalConfirmationMode = .requiredFirstStart := by
  refine r.invariant (P := fun d ↦ d.inst.options.Ready →
    d.options.externalConfirmationMode = .requiredFirstStart) (G := SetupFirstStart) ?_ ?_ hs
  · intro ho
    cases ho.1
  · intro d e hd hsetup
    obtain ⟨now, call⟩ := e
    cases call with
    | setup o data key => exact fun _ ↦ hsetup o data key rfl
    | periodic conn =>
      rw [step_periodic L rfl, Device.after_inst, (bstPeriodic_effect L now conn d.inst).options]
      exact hd
    | networkInput data random =>
      rw [step_networkInput L rfl, Device.after_inst,
        (networkInput_effect L now random data d.inst).options]
      exact hd
    | _ => exact hd

theorem options_step (hs : SetupFirstStart ((library L).move d e))
    (ho : d.options.externalConfirmationMode = .requiredFirstStart) :
    ((library L).step e d).1.options.externalConfirmationMode = .requiredFirstStart := by
  obtain ⟨now, call⟩ := e
  cases call with
  | setup o data key => exact hs o data key rfl
  | _ => exact ho

/-- The blob that an executed SET_DATA stores starts as the storage does. -/
theorem Instance.Parsed.blob_head (hs : s.Parsed) :
    (s.storage.bytes.take s.storageLen).getD 0 0 = s.storage.bytes.getD 0 0 := by
  obtain ⟨c, hc⟩ := hs
  have hstorage : s.storage = assignedStorage c := congrArg Prod.fst hc
  have hlen : s.storageLen = assignedLen c := congrArg (fun x ↦ x.2.1) hc
  rw [hstorage, hlen, take_assignedStorage, assignedStorage_head]
  cases c with
  | nil => exact rfl
  | cons b bs =>
    rw [assignedLen_cons, List.take_succ_cons]
    exact rfl

theorem executed_blob (hx : ExecutesSetData ((library L).move d e)) :
    ((library L).step e d).1.flash.data = d.inst.storage.bytes.take d.inst.storageLen ∧
      ((library L).step e d).1.bstData = d.bstData := by
  rw [step_executesSetData hx]
  exact ⟨rfl, rfl⟩

/-- Only three things store bootstrap data. -/
theorem flash_data_kept (hc : ¬ e.call.IsSetup) (hx : ¬ ExecutesSetData ((library L).move d e))
    (hf : ¬ ExecutesFactoryReset ((library L).move d e)) :
    ((library L).step e d).1.flash.data = d.flash.data ∧
      ((library L).step e d).1.bstData = d.bstData := by
  obtain ⟨now, call⟩ := e
  cases call with
  | setup => exact absurd trivial hc
  | periodic conn =>
    rw [step_periodic L rfl]
    refine ⟨?_, rfl⟩
    have heff := bstPeriodic_effect L now conn d.inst
    generalize bstPeriodic L now conn d.inst = r at heff
    cases heff with
    | off => exact rfl
    | factoryReset ho hreset => exact absurd ⟨conn, rfl, ho, hreset⟩ hf
    | bind => exact rfl
    | wifiList => exact rfl
    | setWifi ho hreset hb hl hw => exact absurd ⟨conn, rfl, ho, hreset, hb, hl, hw⟩ hx
    | poll _ _ _ _ _ hp =>
      have hkeep : (d.after r).1.flash = d.flash := foldl_record hp.not_stores
      rw [hkeep]
  | wifiNetworkList list =>
    rw [step_wifiNetworkList]
    exact ⟨rfl, rfl⟩
  | _ => exact ⟨rfl, rfl⟩

/-- Both the last `bst_setup` and the next one find an ssid. -/
def Provisioned (d : Device) : Prop := d.bstData.getD 0 0 ≠ 0 ∧ d.flash.data.getD 0 0 ≠ 0

theorem executed_head (hs : d.inst.Parsed) (hx : ExecutesSetData ((library L).move d e)) :
    ((library L).step e d).1.flash.data.getD 0 0 ≠ 0 ↔ ¬ d.inst.SsidFieldEmpty := by
  rw [(executed_blob hx).1, hs.blob_head]
  exact Iff.rfl

theorem Provisioned.step (hd : Provisioned d) (hs : d.inst.Parsed)
    (hreboot : Reboots ((library L).move d e))
    (hreset : ¬ ExecutesFactoryReset ((library L).move d e))
    (hx : ExecutesSetData ((library L).move d e) → ¬ d.inst.SsidFieldEmpty) :
    Provisioned ((library L).step e d).1 := by
  by_cases hc : e.call.IsSetup
  · obtain ⟨now, call⟩ := e
    cases call with
    | setup o data key =>
      obtain ⟨-, hdata, -⟩ := hreboot o data key rfl
      have hflash : ((library L).step ⟨now, .setup o data key⟩ d).1.flash = ⟨data, key⟩ :=
        foldl_record bstSetup_not_stores
      have hhead : data.getD 0 0 ≠ 0 := by
        rw [hdata]
        exact hd.2
      refine ⟨hhead, ?_⟩
      rw [hflash]
      exact hhead
    | _ => cases hc
  · by_cases he : ExecutesSetData ((library L).move d e)
    · refine ⟨?_, (executed_head hs he).mpr (hx he)⟩
      rw [(executed_blob he).2]
      exact hd.1
    · obtain ⟨hflash, hboot⟩ := flash_data_kept hc he hreset
      unfold Provisioned
      rw [hflash, hboot]
      exact hd

/-- After a SET_DATA has been executed both questions are decided by what is stored. -/
theorem askedOnce_after (r : (library L).Run .off (later ++ m :: earlier) d)
    (hmode : ∀ x ∈ later ++ m :: earlier, SetupFirstStart x) (hx : ExecutesSetData m) :
    AskedOnce L d ↔ Provisioned d := by
  obtain ⟨hpre, hm, hlater⟩ := r.split
  obtain ⟨_, -, ho, -⟩ := hx
  have hstart : m.pre.options.externalConfirmationMode = .requiredFirstStart :=
    firstStart_of_run hpre (fun x hmem ↦ hmode x (by simp [hmem])) ho
  refine askedOnce_iff (optionsKept_of_run r) ?_
  refine hlater.keeps (P := fun d ↦ d.options.externalConfirmationMode = .requiredFirstStart) ?_
    fun y hy he hp ↦ ?_
  · have hset := hmode m (by simp)
    rw [hm] at hset ⊢
    exact options_step hset hstart
  · have hset := hmode y (List.mem_append_left _ hy)
    rw [he] at hset ⊢
    exact options_step hset hp

theorem provisioned_after (r : (library L).Run .off (later ++ m :: earlier) d)
    (hx : ExecutesSetData m) (hssid : ¬ m.pre.inst.SsidFieldEmpty)
    (hreboot : ∀ x ∈ later, Reboots x) (hreset : ∀ x ∈ later, ¬ ExecutesFactoryReset x)
    (hboot : m.pre.bstData.getD 0 0 ≠ 0)
    (hlater : ∀ x ∈ later, ExecutesSetData x → ¬ x.pre.inst.SsidFieldEmpty) : Provisioned d := by
  obtain ⟨hpre, hm, hrun⟩ := r.split
  refine hrun.keeps (P := Provisioned) ?_ fun y hy he hp ↦ ?_
  · rw [hm] at hx ⊢
    refine ⟨?_, (executed_head (parsed_of_run hpre) hx).mpr hssid⟩
    rw [move_post, (executed_blob hx).2]
    exact hboot
  · obtain ⟨_, hr, -⟩ := r.upto_after hy
    have hparsed := parsed_of_run hr.last.1
    have h₁ := hreboot y hy
    have h₂ := hreset y hy
    have h₃ := hlater y hy
    rw [he] at h₁ h₂ h₃ ⊢
    exact hp.step hparsed h₁ h₂ h₃

/-- With confirmations asked for at the first start only, an executed SET_DATA ends the
question for the running device as it does for the rebooted one in exactly the runs in which
the last `bst_setup` before it had found an ssid already, and in which no SET_DATA with an
empty ssid follows. -/
theorem first_start_asked_once_iff (r : (library L).Run .off (later ++ m :: earlier) d)
    (hmode : ∀ x ∈ later ++ m :: earlier, SetupFirstStart x) (hx : ExecutesSetData m)
    (hssid : ¬ m.pre.inst.SsidFieldEmpty) (hreboot : ∀ x ∈ later, Reboots x)
    (hreset : ∀ x ∈ later, ¬ ExecutesFactoryReset x) :
    (AskedOnce L m.post ∧ ∀ x ∈ later, AskedOnce L x.post) ↔
      m.pre.bstData.getD 0 0 ≠ 0 ∧
        ∀ x ∈ later, ExecutesSetData x → ¬ x.pre.inst.SsidFieldEmpty := by
  obtain ⟨hpre, hm, -⟩ := r.split
  have hpost : (library L).Run .off ([] ++ m :: earlier) m.post := by
    rw [hm]
    exact hpre.snoc m.input
  have hasked : AskedOnce L m.post ↔ Provisioned m.post :=
    askedOnce_after hpost (fun x hmem ↦ hmode x (List.mem_append_right _ hmem)) hx
  have hmem {x : LibraryMove} {later' : List LibraryMove} (hsub : ∀ y ∈ later', y ∈ later)
      (hy : x ∈ later' ++ m :: earlier) : x ∈ later ++ m :: earlier :=
    (List.mem_append.mp hy).elim (fun h ↦ List.mem_append_left _ (hsub x h))
      (List.mem_append_right _)
  constructor
  · intro hall
    constructor
    · have hprov := (hasked.mp hall.1).1
      rw [hm] at hx hprov
      rwa [move_post, (executed_blob hx).2] at hprov
    · intro x hxmem he
      obtain ⟨later', hr, hsub⟩ := r.upto_after hxmem
      have hprov := (askedOnce_after hr (fun y hy ↦ hmode y (hmem hsub hy)) hx).mp
        (hall.2 x hxmem)
      obtain ⟨hprex, hmove, -⟩ := hr.last
      have hparsed := parsed_of_run hprex
      rw [hmove] at he hprov
      exact (executed_head hparsed he).mp hprov.2
  · intro hcond
    refine ⟨hasked.mpr (provisioned_after hpost hx hssid (List.forall_mem_nil _)
      (List.forall_mem_nil _) hcond.1 (List.forall_mem_nil _)), fun x hxmem ↦ ?_⟩
    obtain ⟨later', hr, hsub⟩ := r.upto_after hxmem
    refine (askedOnce_after hr (fun y hy ↦ hmode y (hmem hsub hy)) hx).mpr ?_
    exact provisioned_after hr hx hssid (fun y hy ↦ hreboot y (hsub y hy))
      (fun y hy ↦ hreset y (hsub y hy)) hcond.1 fun y hy ↦ hcond.2 y (hsub y hy)

/-- A device that waits for data, without a session. -/
structure Waits (d : Device) : Prop where
  mode : d.inst.state.state = .waitingForData
  session : d.inst.state.timeNonceValid = 0
  polls : d.inst.Polls
  timeout : d.inst.options.timeoutNonceMs = 100

/-- An app says HELLO, the user confirms, the device answers, the app sends its data, and
the device executes them. -/
def welcomed (d : Device) : LibraryMove :=
  (library lp64).move d ⟨5, .networkInput (plainPkt cmdHello sampleNonce) 7⟩

def allowed (d : Device) : LibraryMove :=
  (library lp64).move (welcomed d).post ⟨5, .confirmBootstrap⟩

def answered (d : Device) : LibraryMove :=
  (library lp64).move (allowed d).post ⟨5, .periodic .connected⟩

def informed (d : Device) (data : List UInt8) : LibraryMove :=
  (library lp64).move (answered d).post (setDataEvent lp64 (answered d).post 5 data)

def equipped (d : Device) (data : List UInt8) : LibraryMove :=
  (library lp64).move (informed d data).post ⟨5, .periodic .connected⟩

def equipping (d : Device) (data : List UInt8) : List LibraryMove :=
  [informed d data, answered d, allowed d, welcomed d]

theorem run_equipping (r : (library lp64).Run .off h d) (data : List UInt8) :
    (library lp64).Run .off (equipped d data :: (equipping d data ++ h)) (equipped d data).post :=
  ((((r.snoc _).snoc _).snoc _).snoc _).snoc _

theorem equipping_firstStart (hs : ∀ m ∈ h, SetupFirstStart m) (d : Device) (data : List UInt8) :
    ∀ m ∈ equipped d data :: (equipping d data ++ h), SetupFirstStart m := by
  intro m hm
  rcases List.mem_cons.mp hm with rfl | hm
  · exact setup_of_not id
  rcases List.mem_append.mp hm with hm | hm
  · simp only [equipping, List.mem_cons, List.not_mem_nil, or_false] at hm
    rcases hm with rfl | rfl | rfl | rfl
    · exact setup_of_not id
    · exact setup_of_not id
    · exact setup_of_not id
    · exact setup_of_not id
  · exact hs m hm

theorem welcomed_post (hd : Waits d) : (welcomed d).post =
    { d with inst := d.inst.helloDone 5 7 (plainPkt cmdHello sampleNonce) } := by
  have hhello : HelloAccepted lp64 5 (plainPkt cmdHello sampleNonce)
      (plainPkt cmdHello sampleNonce) d.inst :=
    helloAccepted_receivePkt hd.mode rfl (.inl (.inl hd.session))
  rw [welcomed, move_post, step_networkInput lp64 rfl, networkInput_of_hello hhello]
  exact rfl

theorem answered_post (hd : Waits d) : (answered d).post =
    { d with inst := { d.inst.helloDone 5 7 (plainPkt cmdHello sampleNonce) with
      flags.requestWifiList := false
      flags.externalConfirmation := true } } := by
  obtain ⟨st, -, hs⟩ := helloDone_frame d.inst 5 7 (plainPkt cmdHello sampleNonce)
  have hallowed : (allowed d).post = { d with inst :=
      { d.inst with
        state := st
        flags.requestWifiList := true
        flags.externalConfirmation := true } } := by
    rw [allowed, welcomed_post hd, hs]
    exact rfl
  have hserve : bstPeriodic lp64 5 .connected (allowed d).post.inst = _ :=
    bstPeriodic_wifiList lp64 .connected (by rw [hallowed]; exact hd.polls.ready)
      (by rw [hallowed]; exact hd.polls.factoryReset) (by rw [hallowed]; exact hd.polls.bind)
      (by rw [hallowed])
  rw [answered, move_post, step_periodic lp64 rfl, hserve, hallowed, hs]
  exact rfl

theorem informed_post (hd : Waits d) (data : List UInt8) : (informed d data).post =
    { (answered d).post with
      inst := (answered d).post.inst.setDataDone
        (plainPkt cmdSetData (bootstrapData data)) } := by
  obtain ⟨st, hmode, hs⟩ := helloDone_frame d.inst 5 7 (plainPkt cmdHello sampleNonce)
  have hvalid : (d.inst.helloDone 5 7 (plainPkt cmdHello sampleNonce)).state.timeNonceValid =
      100 + 5 := by
    rw [helloDone_timeNonceValid, hd.timeout]
  refine step_setDataEvent ?_ ?_ (.inr ?_) ?_
  · rw [answered_post hd, hs]
    exact hmode.trans hd.mode
  · rw [answered_post hd, hvalid]
    decide
  · rw [answered_post hd]
  · rw [answered_post hd, hs]
    exact hd.polls.setWifi

theorem equipped_executes (hd : Waits d) (data : List UInt8) :
    ExecutesSetData (equipped d data) ∧ (equipped d data).pre.bstData = d.bstData ∧
      ((equipped d data).pre.inst.SsidFieldEmpty ↔ data.getD 0 0 = 0) := by
  obtain ⟨st, -, hs⟩ := helloDone_frame d.inst 5 7 (plainPkt cmdHello sampleNonce)
  have hpre : (equipped d data).pre = (informed d data).post := rfl
  have hstorage : (informed d data).post.inst.storage = assignedStorage (bootstrapData data) := by
    rw [informed_post hd]
    change assignedStorage (content (plainPkt cmdSetData (bootstrapData data))) = _
    rw [content_plainPkt]
  refine ⟨⟨.connected, rfl, ?_⟩, ?_, ?_⟩
  · rw [hpre, informed_post hd, answered_post hd, hs]
    exact ⟨hd.polls.ready, hd.polls.factoryReset, hd.polls.bind, rfl, rfl⟩
  · rw [hpre, informed_post hd, answered_post hd]
  · rw [hpre, Instance.SsidFieldEmpty, hstorage, assignedStorage_head, bootstrapData_head]

/-- The device is switched on for the first time and finds its bootstrap network. -/
def firstStarted : LibraryMove := (library lp64).move .off ⟨1, .setup cautiousOptions [] []⟩

def firstOnline : LibraryMove := (library lp64).move firstStarted.post ⟨1, .periodic .connected⟩

/-- The device is switched on with stored data, and does not find its network. -/
def restartedLost : LibraryMove :=
  (library lp64).move restartedMove.post ⟨2, .periodic .failedSsidNotFound⟩

def restartedOnline : LibraryMove :=
  (library lp64).move restartedLost.post ⟨3, .periodic .connected⟩

theorem waits_firstOnline : Waits firstOnline.post :=
  ⟨rfl, rfl, ⟨⟨rfl, rfl⟩, rfl, rfl, rfl, rfl⟩, rfl⟩

theorem waits_restartedOnline : Waits restartedOnline.post :=
  ⟨rfl, rfl, ⟨⟨rfl, rfl⟩, rfl, rfl, rfl, rfl⟩, rfl⟩

theorem setupFirstStart_cautious {data : List UInt8} :
    SetupFirstStart ((library lp64).move .off ⟨1, .setup cautiousOptions data []⟩) := by
  intro o data key hc
  cases hc
  exact rfl

theorem sample_first_start_asked_once : AskedOnce lp64 (equipped restartedOnline.post [97]).post := by
  obtain ⟨hx, hboot, hssid⟩ := equipped_executes waits_restartedOnline [97]
  have hr : (library lp64).Run .off [restartedOnline, restartedLost, restartedMove]
      restartedOnline.post := ((Machine.Run.nil.snoc _).snoc _).snoc _
  have hmode : ∀ m ∈ [restartedOnline, restartedLost, restartedMove], SetupFirstStart m :=
    List.forall_mem_cons.mpr ⟨setup_of_not id, List.forall_mem_cons.mpr
      ⟨setup_of_not id, List.forall_mem_singleton.mpr setupFirstStart_cautious⟩⟩
  have hne : ¬ (equipped restartedOnline.post [97]).pre.inst.SsidFieldEmpty := by
    rw [hssid]
    decide
  have hrun : (library lp64).Run .off ([] ++ equipped restartedOnline.post [97] ::
      (equipping restartedOnline.post [97] ++ [restartedOnline, restartedLost, restartedMove]))
      (equipped restartedOnline.post [97]).post := run_equipping hr [97]
  refine ((first_start_asked_once_iff hrun (equipping_firstStart hmode _ [97]) hx hne
    (List.forall_mem_nil _) (List.forall_mem_nil _)).mpr ⟨?_, List.forall_mem_nil _⟩).1
  rw [hboot]
  decide

/-- On its first start a device is confirmed and gets its data. Until it is rebooted it asks
for a confirmation again. -/
theorem first_start_asks_again :
    (library lp64).Run .off
        (equipped firstOnline.post [97] ::
          (equipping firstOnline.post [97] ++ [firstOnline, firstStarted]))
        (equipped firstOnline.post [97]).post ∧
      (∀ m ∈ equipped firstOnline.post [97] ::
        (equipping firstOnline.post [97] ++ [firstOnline, firstStarted]), SetupFirstStart m) ∧
      ExecutesSetData (equipped firstOnline.post [97]) ∧
      ¬ (equipped firstOnline.post [97]).pre.inst.SsidFieldEmpty ∧
      ¬ AskedOnce lp64 (equipped firstOnline.post [97]).post ∧
      ∀ now, ConfirmationFree lp64 (bstSetup lp64 now
        (equipped firstOnline.post [97]).post.options
        (equipped firstOnline.post [97]).post.flash.data
        (equipped firstOnline.post [97]).post.flash.key).1 := by
  obtain ⟨hx, hboot, hssid⟩ := equipped_executes waits_firstOnline [97]
  have hr : (library lp64).Run .off [firstOnline, firstStarted] firstOnline.post :=
    (Machine.Run.nil.snoc _).snoc _
  have hmode : ∀ m ∈ [firstOnline, firstStarted], SetupFirstStart m :=
    List.forall_mem_cons.mpr
      ⟨setup_of_not id, List.forall_mem_singleton.mpr setupFirstStart_cautious⟩
  have hne : ¬ (equipped firstOnline.post [97]).pre.inst.SsidFieldEmpty := by
    rw [hssid]
    decide
  have hrun : (library lp64).Run .off ([] ++ equipped firstOnline.post [97] ::
      (equipping firstOnline.post [97] ++ [firstOnline, firstStarted]))
      (equipped firstOnline.post [97]).post := run_equipping hr [97]
  have hfirst := equipping_firstStart hmode firstOnline.post [97]
  have hparsed := parsed_of_run hrun.last.1
  refine ⟨hrun, hfirst, hx, hne, fun hasked ↦ ?_, fun now ↦ ?_⟩
  · have hprov := ((askedOnce_after hrun hfirst hx).mp hasked).1
    have hsame : (equipped firstOnline.post [97]).post.bstData = firstOnline.post.bstData :=
      (executed_blob hx).2.trans hboot
    rw [hsame] at hprov
    exact hprov rfl
  · refine (confirmationFree_of_first_start rfl (bstSetup_options lp64 now _ _ _)).mpr ?_
    exact (executed_head hparsed hx).mpr hne

end BootstrapWifi
