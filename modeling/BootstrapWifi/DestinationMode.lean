import BootstrapWifi.PendingRequests

namespace BootstrapWifi

open Mealy ByteBuffer

variable {L : Layout} {now : Time} {random : UInt64} {data key : List UInt8} {s t : Instance}
  {d : Device} {e : Event} {m : LibraryMove} {h : List LibraryMove}

def DestinationHasSsid (s : Instance) : Prop :=
  s.state.state.isDestination = true → s.ssid.isSome

def Action.NamesSsid : Action → Prop
  | .connectToWifi ssid _ => ssid.isSome
  | _ => True

/-- The stored data start with a terminator: their first field, the ssid, is empty. -/
def Instance.SsidFieldEmpty (s : Instance) : Prop := s.storage.bytes.getD 0 0 = 0

def SsidPointsToStorage (s : Instance) : Prop := s.ssid.isSome ↔ ¬ s.SsidFieldEmpty

/-- What every result of the parser has, the stored credentials have for ever. -/
theorem credentials_step
    {P : Buffer storageRamSize × ℕ × Option ℕ × Option ℕ × Option ℕ → Prop}
    (hparse : ∀ data s, P (prvAssignData data s).credentials) (hd : P d.inst.credentials) :
    P ((library L).step e d).1.inst.credentials := by
  have setup {o : Options} {now : Time} {data key : List UInt8} :
      P (bstSetup L now o data key).1.credentials := by
    rw [bstSetup_credentials]
    exact hparse data .zero
  obtain ⟨now, call⟩ := e
  cases call with
  | setup => exact setup
  | periodic conn =>
    rw [step_periodic L rfl]
    by_cases hf : d.inst.options.Ready ∧ d.inst.flags.requestFactoryReset = true
    · rw [bstPeriodic_factoryReset L conn hf.1 hf.2]
      exact setup
    · obtain ⟨hsame, -⟩ := (bstPeriodic_effect L now conn d.inst).same_data hf
      rwa [Device.after_inst, hsame]
  | networkInput data random =>
    rw [step_networkInput L rfl]
    rcases (networkInput_effect L now random data d.inst).credentials with hc | ⟨pkt, -, ht⟩
    · rwa [Device.after_inst, hc]
    · rw [Device.after_inst, ht]
      exact hparse (content pkt) d.inst
  | _ => exact hd

theorem prvAssignData_ssidPointsToStorage : SsidPointsToStorage (prvAssignData data s) := by
  unfold SsidPointsToStorage
  rw [prvAssignData_ssid]
  unfold Instance.SsidFieldEmpty
  split
  next hz => simpa [prvAssignData] using hz
  next hz => simpa [prvAssignData] using hz

theorem SsidPointsToStorage.step (hd : SsidPointsToStorage d.inst) :
    SsidPointsToStorage ((library L).step e d).1.inst :=
  credentials_step (P := fun c ↦ c.2.2.1.isSome ↔ ¬ c.1.bytes.getD 0 0 = 0)
    (fun _ s ↦ prvAssignData_ssidPointsToStorage (s := s)) hd

theorem ssidPointsToStorage_off : SsidPointsToStorage Device.off.inst := by
  unfold SsidPointsToStorage Instance.SsidFieldEmpty
  decide

theorem ssidPointsToStorage_of_run (r : (library L).Run .off h d) : SsidPointsToStorage d.inst :=
  r.invariant (P := fun d ↦ SsidPointsToStorage d.inst) (G := fun _ ↦ True)
    ssidPointsToStorage_off (fun _ _ ht _ ↦ ht.step) fun _ _ ↦ trivial

/-- The stored credentials are the parser's reading of some data. -/
def Instance.Parsed (s : Instance) : Prop :=
  ∃ c, s.credentials = (prvAssignData c .zero).credentials

theorem parsed_of_run (r : (library L).Run .off h d) : d.inst.Parsed :=
  r.invariant (P := fun d ↦ d.inst.Parsed) (G := fun _ ↦ True) ⟨[], rfl⟩
    (fun _ _ ht _ ↦ credentials_step
      (P := fun x ↦ ∃ c, x = (prvAssignData c .zero).credentials) (fun c _ ↦ ⟨c, rfl⟩) ht)
    fun _ _ ↦ trivial

theorem enterBootstrapped_destination (now : Time) (hs : s.ssid.isSome) :
    DestinationHasSsid (prvEnterBootstrappedMode now s).1 ∧
      ∀ a ∈ (prvEnterBootstrappedMode now s).2, a.NamesSsid := by
  refine ⟨fun _ ↦ hs, List.forall_mem_cons.mpr ⟨trivial, List.forall_mem_singleton.mpr ?_⟩⟩
  change s.ssidString.isSome
  rwa [Instance.ssidString, Option.isSome_map]

theorem enterWait_destination {code : ErrorState} {message : Option CString}
    (hb : s.options.bootstrapSsid.isSome) :
    DestinationHasSsid (prvEnterWaitForBootstrapMode now code message s).1 ∧
      ∀ a ∈ (prvEnterWaitForBootstrapMode now code message s).2, a.NamesSsid := by
  refine ⟨nofun, List.forall_mem_cons.mpr ⟨trivial, List.forall_mem_singleton.mpr ?_⟩⟩
  change (s.options.bootstrapSsid.map (·.bytes)).isSome
  rwa [Option.isSome_map]

theorem bstSetup_destination (L : Layout) (now : Time) (data key : List UInt8) {o : Options}
    (ho : o.Ready) :
    DestinationHasSsid (bstSetup L now o data key).1 ∧
      ∀ a ∈ (bstSetup L now o data key).2, a.NamesSsid := by
  have heff := bstSetup_effect L now o data key
  generalize bstSetup L now o data key = r at heff
  cases heff with
  | bootstrapped hs => exact enterBootstrapped_destination now hs
  | waiting _ hb => exact enterWait_destination (loaded_options.symm ▸ hb)
  | idle _ hn =>
    have hb := ho.1
    rw [hn] at hb
    cases hb

/-- A poll keeps the property: its connect calls name the bootstrap network, or the stored
network in destination mode. -/
theorem PollEffect.destination {r : Instance × List Action} (heff : PollEffect now s r)
    (ho : s.options.Ready) (hs : DestinationHasSsid s) :
    DestinationHasSsid r.1 ∧ ∀ a ∈ r.2, a.NamesSsid := by
  have routine {acts : List Action} (ha : ∀ a ∈ acts, a.Routine s) : ∀ a ∈ acts, a.NamesSsid := by
    intro a hmem
    have hr := ha a hmem
    cases a with
    | connectToWifi ssid pwd =>
      rcases hr with rfl | ⟨hd, rfl⟩
      · change (s.options.bootstrapSsid.map (·.bytes)).isSome
        rw [Option.isSome_map]
        exact ho.1
      · change s.ssidString.isSome
        rw [Instance.ssidString, Option.isSome_map]
        exact hs hd
    | _ => trivial
  cases heff with
  | stay hd _ hg ha =>
    refine ⟨fun hm ↦ ?_, routine ha⟩
    rw [hd.ssid]
    exact hs (hg.destination ▸ hm)
  | bootstrapped hd hssid _ ha =>
    obtain ⟨h₁, h₂⟩ := enterBootstrapped_destination now (hd.ssid.symm ▸ hssid)
    refine ⟨h₁, fun a hmem ↦ ?_⟩
    rcases List.mem_append.mp hmem with hmem | hmem
    · exact routine ha a hmem
    · exact h₂ a hmem
  | fellBack hd => exact enterWait_destination (hd.options.symm ▸ ho.1)

theorem PeriodicEffect.destination {r : Instance × List Action} (heff : PeriodicEffect L now s r)
    (hs : DestinationHasSsid s)
    (hx : s.options.Ready → s.flags.requestFactoryReset = false → s.flags.requestBind = false →
      s.flags.requestWifiList = false → s.flags.requestSetWifi = true → s.ssid.isSome) :
    DestinationHasSsid r.1 ∧ ∀ a ∈ r.2, a.NamesSsid := by
  cases heff with
  | off => exact ⟨hs, List.forall_mem_nil _⟩
  | factoryReset ho =>
    obtain ⟨h₁, h₂⟩ := bstSetup_destination L now [] [] ho
    exact ⟨h₁, List.forall_mem_cons.mpr ⟨trivial, List.forall_mem_cons.mpr ⟨trivial, h₂⟩⟩⟩
  | bind =>
    exact ⟨hs, List.forall_mem_cons.mpr ⟨trivial, List.forall_mem_singleton.mpr trivial⟩⟩
  | wifiList => exact ⟨hs, List.forall_mem_singleton.mpr trivial⟩
  | setWifi ho hf hb hl hw =>
    obtain ⟨h₁, h₂⟩ := enterBootstrapped_destination now (hx ho hf hb hl hw)
    exact ⟨h₁, List.forall_mem_cons.mpr ⟨trivial, List.forall_mem_cons.mpr ⟨trivial, h₂⟩⟩⟩
  | poll ho _ _ _ _ hp => exact hp.destination ho hs

theorem InputEffect.destination (heff : InputEffect L now random data s t)
    (hfit : ∀ pkt, BindAccepted L now data pkt s → (newBindKeyLen pkt).toNat ≤ bindkeyMaxSize)
    (hs : DestinationHasSsid s) : DestinationHasSsid t := by
  have waiting {t : Instance} (hw : s.state.state = .waitingForData)
      (ht : t.state.state = s.state.state) : DestinationHasSsid t := by
    intro hm
    rw [ht, hw] at hm
    cases hm
  cases heff with
  | ignored => exact hs
  | expired => exact hs
  | hello pkt hh =>
    obtain ⟨_, hmode, ht⟩ := helloDone_frame s now random pkt
    rw [ht]
    exact waiting hh.1.1 hmode
  | bind pkt hb =>
    rw [bindDone_of_le (hfit pkt hb)]
    exact waiting hb.1.1 rfl
  | setData pkt hb => exact waiting hb.1.1 rfl

theorem DestinationHasSsid.step (hd : DestinationHasSsid d.inst)
    (hs : SetupReady ((library L).move d e)) (hb : BindFits L ((library L).move d e))
    (hx : ExecutesSetData ((library L).move d e) → d.inst.ssid.isSome) :
    DestinationHasSsid ((library L).step e d).1.inst ∧
      ∀ a ∈ ((library L).step e d).2, a.NamesSsid := by
  obtain ⟨now, call⟩ := e
  cases call with
  | setup o data key => exact bstSetup_destination L now data key (hs o data key rfl)
  | periodic conn =>
    exact (bstPeriodic_effect L now conn d.inst).destination hd
      fun ho hf hb hl hw ↦ hx ⟨conn, rfl, ho, hf, hb, hl, hw⟩
  | networkInput data random =>
    exact ⟨(networkInput_effect L now random data d.inst).destination
      (fun pkt ↦ hb data random pkt rfl) hd, List.forall_mem_nil _⟩
  | wifiNetworkList list => exact ⟨hd, wifiNetworkList_only fun _ ↦ trivial⟩
  | _ => exact ⟨hd, List.forall_mem_nil _⟩

theorem executesSetData_post (hx : ExecutesSetData ((library L).move d e)) :
    ((library L).step e d).1.inst.ssid = d.inst.ssid ∧
      ((library L).step e d).1.inst.state.state = .connectingToDest := by
  rw [step_executesSetData hx]
  exact ⟨rfl, rfl⟩

/-- The destination modes have an ssid, and no NULL ssid is connected to, in exactly the
runs that never execute a SET_DATA whose data start with an empty ssid. -/
theorem destination_has_ssid_iff (r : (library L).Run .off h d) (hs : ∀ m ∈ h, SetupReady m)
    (hb : ∀ m ∈ h, BindFits L m) :
    (∀ m ∈ h, DestinationHasSsid m.post.inst ∧ ∀ a ∈ m.output, a.NamesSsid) ↔
      ∀ m ∈ h, ExecutesSetData m → ¬ m.pre.inst.SsidFieldEmpty := by
  constructor
  · intro hall m hm hx
    obtain ⟨later, earlier, rfl⟩ := List.append_of_mem hm
    obtain ⟨hr, he, -⟩ := r.split
    obtain ⟨hdest, -⟩ := hall m hm
    rw [he] at hx hdest
    obtain ⟨hssid, hmode⟩ := executesSetData_post hx
    refine (ssidPointsToStorage_of_run hr).mp ?_
    rw [← hssid]
    refine hdest ?_
    rw [move_post, hmode]
    rfl
  · intro hexec m hm
    obtain ⟨earlier, hr, hsub⟩ := r.upto hm
    have step (d : Device) (e : Event) (hd : DestinationHasSsid d.inst)
        (hptr : SsidPointsToStorage d.inst) (hmem : (library L).move d e ∈ h) :
        DestinationHasSsid ((library L).step e d).1.inst ∧
          ∀ a ∈ ((library L).step e d).2, a.NamesSsid :=
      hd.step (hs _ hmem) (hb _ hmem) fun hx ↦ hptr.mpr (hexec _ hmem hx)
    obtain ⟨hpre, he, -⟩ := hr.last
    have hinv : DestinationHasSsid m.pre.inst ∧ SsidPointsToStorage m.pre.inst :=
      hpre.invariant (P := fun d ↦ DestinationHasSsid d.inst ∧ SsidPointsToStorage d.inst)
        (G := fun m ↦ m ∈ h) ⟨fun hm ↦ absurd hm (by decide), ssidPointsToStorage_off⟩
        (fun d e hd hmem ↦ ⟨(step d e hd.1 hd.2 hmem).1, hd.2.step⟩)
        fun x hx ↦ hsub x (List.mem_cons_of_mem _ hx)
    have hmem := hm
    rw [he] at hmem ⊢
    exact step m.pre m.input hinv.1 hinv.2 hmem

theorem sampleExecuted_ssidFieldEmpty (data : List UInt8) :
    (sampleExecuted data).pre.inst.SsidFieldEmpty ↔ data.getD 0 0 = 0 := by
  have hstorage : (sampleExecuted data).pre.inst.storage = assignedStorage (bootstrapData data) := by
    rw [sampleExecuted, move_pre, sampleListed_post, sampleTold_post]
    change assignedStorage (content (plainPkt cmdSetData (bootstrapData data))) = _
    rw [content_plainPkt]
  rw [Instance.SsidFieldEmpty, hstorage, assignedStorage_head, bootstrapData_head]

theorem sample_destination_has_ssid :
    DestinationHasSsid (sampleExecuted [97, 0, 98]).post.inst ∧
      ∀ a ∈ (sampleExecuted [97, 0, 98]).output, a.NamesSsid := by
  refine (destination_has_ssid_iff (run_sampleSession _) (sampleSession_setupReady _)
    (sampleSession_bindFits _)).mpr (forall_mem_sampleSession (fun _ hz ↦ ?_) (fun hx ↦ ?_)
      (fun hx ↦ ?_) fun m hm hx ↦ ?_) _ List.mem_cons_self
  · rw [sampleExecuted_ssidFieldEmpty] at hz
    exact absurd hz (by decide)
  · obtain ⟨_, -, -, -, -, hl, -⟩ := hx
    rw [sampleListed, move_pre, sampleTold_post] at hl
    cases hl
  · obtain ⟨_, hc, -⟩ := hx
    cases hc
  · exact absurd hx (greeting_not_executes sampleOptions_ready m hm)

/-- A SET_DATA of zero bytes is executed: the device connects to no name at all. -/
theorem empty_ssid_executed :
    (library lp64).Run .off (sampleSession []) (sampleExecuted []).post ∧
      (∀ m ∈ sampleSession [], SetupReady m) ∧ (∀ m ∈ sampleSession [], BindFits lp64 m) ∧
      ¬ DestinationHasSsid (sampleExecuted []).post.inst ∧
      ¬ ∀ a ∈ (sampleExecuted []).output, a.NamesSsid := by
  have hx := sampleExecuted_executes []
  have hptr : SsidPointsToStorage (sampleExecuted []).pre.inst :=
    ssidPointsToStorage_of_run ((run_sample.snoc _).snoc _)
  have hnone : (sampleExecuted []).pre.inst.ssid.isSome = false :=
    Bool.eq_false_iff.mpr fun hs ↦ hptr.mp hs ((sampleExecuted_ssidFieldEmpty []).mpr rfl)
  refine ⟨run_sampleSession _, sampleSession_setupReady _, sampleSession_bindFits _, fun hd ↦ ?_,
    fun hnames ↦ ?_⟩
  · obtain ⟨hssid, hmode⟩ := executesSetData_post hx
    have hs := hd (by rw [sampleExecuted, move_post, hmode]; rfl)
    rw [sampleExecuted, move_post, hssid] at hs
    exact Bool.false_ne_true (hnone.symm.trans hs)
  · have hout := executesSetData_output hx
    have hname := hnames (.connectToWifi (sampleExecuted []).pre.inst.ssidString
      (sampleExecuted []).pre.inst.pwdString) (by rw [sampleExecuted, move_output, hout]; simp)
    change (sampleExecuted []).pre.inst.ssidString.isSome at hname
    rw [Instance.ssidString, Option.isSome_map] at hname
    exact Bool.false_ne_true (hnone.symm.trans hname)

end BootstrapWifi
