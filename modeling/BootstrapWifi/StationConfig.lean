import BootstrapWifi.DestinationMode
import BootstrapWifi.FactoryReset
import BootstrapWifi.StoredBlobs

namespace BootstrapWifi

open Mealy ByteBuffer

variable {L : Layout} {now : Time} {conn : ConnectState} {random : UInt64}
  {data key : List UInt8} {s t : Instance} {d : Device} {e : Event} {h : List LibraryMove}
  {n : ℕ} {str ssid pwd : Option (List UInt8)}

def stationSsidSize : ℕ := 32
def stationPasswordSize : ℕ := 64

/-- The part of the SDK's `station_config` that `bst_connect_to_wifi` writes. -/
structure StationConfig where
  ssid : Buffer stationSsidSize
  password : Buffer stationPasswordSize
  bssidSet : UInt8
deriving DecidableEq

/-- `strcpy` into an array; it is undefined for NULL and for a string that does not fit. -/
def strcpy (dst : Buffer n) : Option (List UInt8) → Option (Buffer n)
  | none => none
  | some src => if src.length < n then some (dst.write (src ++ [0])) else none

/-- What the ESP8266 platform hands to the SDK; `conf` is an uninitialised local. -/
def bstConnectToWifi (conf : StationConfig) (ssid passphrase : Option (List UInt8)) :
    Option StationConfig := do
  let ssid ← strcpy conf.ssid ssid
  let password ← strcpy conf.password passphrase
  return { ssid := ssid, password := password, bssidSet := 0 }

/-- A string that is there and leaves room for its terminator. -/
def FitsArray (n : ℕ) (str : Option (List UInt8)) : Prop :=
  ∃ bytes, str = some bytes ∧ bytes.length < n

theorem strcpy_isSome_iff (dst : Buffer n) : (strcpy dst str).isSome ↔ FitsArray n str := by
  cases str with
  | none => exact iff_of_false Bool.false_ne_true fun h ↦ by cases h.choose_spec.1
  | some src =>
    change (if src.length < n then some (dst.write (src ++ [0])) else none).isSome ↔ _
    by_cases hl : src.length < n
    · rw [if_pos hl]
      exact iff_of_true rfl ⟨src, rfl, hl⟩
    · rw [if_neg hl]
      refine iff_of_false Bool.false_ne_true fun h ↦ ?_
      obtain ⟨bytes, hb, hfit⟩ := h
      rw [Option.some.inj hb] at hl
      exact hl hfit

theorem bstConnectToWifi_isSome_iff (conf : StationConfig) :
    (bstConnectToWifi conf ssid pwd).isSome ↔
      FitsArray stationSsidSize ssid ∧ FitsArray stationPasswordSize pwd := by
  rw [← strcpy_isSome_iff conf.ssid, ← strcpy_isSome_iff conf.password]
  unfold bstConnectToWifi
  cases strcpy conf.ssid ssid with
  | none => simp
  | some a =>
    cases strcpy conf.password pwd with
    | none => simp
    | some b => simp

/-- The platform can do what it is called for. -/
def Action.PlatformCan : Action → Prop
  | .connectToWifi ssid pwd => ∀ conf, (bstConnectToWifi conf ssid pwd).isSome
  | _ => True

def Instance.CredentialsFit (s : Instance) : Prop :=
  FitsArray stationSsidSize s.ssidString ∧ FitsArray stationPasswordSize s.pwdString

def Options.BootstrapFits (o : Options) : Prop :=
  FitsArray stationSsidSize (o.bootstrapSsid.map (·.bytes)) ∧
    FitsArray stationPasswordSize (o.bootstrapKey.map (·.bytes))

theorem Options.BootstrapFits.bootstrapped {o : Options} (ho : o.BootstrapFits) :
    o.bootstrapped.BootstrapFits := by
  unfold Options.bootstrapped
  split
  · exact ho
  · exact ho

theorem Instance.CredentialsFit.of_credentials (hs : s.CredentialsFit)
    (hc : t.credentials = s.credentials) : t.CredentialsFit := by
  obtain ⟨hssid, hpwd, -⟩ := strings_of_credentials hc
  unfold Instance.CredentialsFit
  rw [hssid, hpwd]
  exact hs

theorem Instance.CredentialsFit.connect (hs : s.CredentialsFit) :
    (Action.connectToWifi s.ssidString s.pwdString).PlatformCan :=
  fun conf ↦ (bstConnectToWifi_isSome_iff conf).mpr hs

theorem Options.BootstrapFits.connect {o : Options} (ho : o.BootstrapFits) :
    (Action.connectToWifi (o.bootstrapSsid.map (·.bytes))
      (o.bootstrapKey.map (·.bytes))).PlatformCan :=
  fun conf ↦ (bstConnectToWifi_isSome_iff conf).mpr ho

theorem enterBootstrapped_can (now : Time) (hs : s.CredentialsFit) :
    ∀ a ∈ (prvEnterBootstrappedMode now s).2, a.PlatformCan :=
  List.forall_mem_cons.mpr ⟨trivial, List.forall_mem_singleton.mpr hs.connect⟩

theorem enterWait_can {code : ErrorState} {message : Option CString}
    (ho : s.options.BootstrapFits) :
    ∀ a ∈ (prvEnterWaitForBootstrapMode now code message s).2, a.PlatformCan :=
  List.forall_mem_cons.mpr ⟨trivial, List.forall_mem_singleton.mpr ho.connect⟩

section Poll

variable (ho : s.options.BootstrapFits)

theorem pollWaitingForData_can (hs : s.ssid.isSome → s.CredentialsFit) :
    ∀ a ∈ (pollWaitingForData now conn s).2, a.PlatformCan := by
  by_cases hconn : conn = .connected
  · rw [hconn, pollWaitingForData_connected]
    split
    · exact List.forall_mem_nil _
    split
    next hgo =>
      have hfit : (s.rearm now).wipeSession.CredentialsFit := hs hgo.1
      exact enterBootstrapped_can now hfit
    next => exact List.forall_mem_nil _
  · rw [pollWaitingForData_lost hconn]
    exact List.forall_mem_nil _

include ho

theorem pollConnectingToBootstrap_can (hs : s.ssid.isSome → s.CredentialsFit) :
    ∀ a ∈ (pollConnectingToBootstrap now conn s).2, a.PlatformCan := by
  unfold pollConnectingToBootstrap
  split
  · have hw : ∀ a ∈ (pollWaitingForData now conn
        { s with state.state := .waitingForData }).2, a.PlatformCan := pollWaitingForData_can hs
    exact List.forall_mem_cons.mpr ⟨trivial, List.forall_mem_cons.mpr ⟨trivial, hw⟩⟩
  split
  · exact List.forall_mem_nil _
  dsimp only
  split
  · exact List.forall_mem_singleton.mpr ho.connect
  next hssid =>
    split
    · exact List.forall_mem_singleton.mpr ho.connect
    · refine enterBootstrapped_can now (hs ?_)
      simpa [Option.isSome_iff_ne_none] using hssid

theorem pollDestinationConnected_can :
    ∀ a ∈ (pollDestinationConnected now conn s).2, a.PlatformCan := by
  cases conn with
  | failedSsidNotFound => exact enterWait_can ho
  | failedCredentialsWrong => exact enterWait_can ho
  | failedAdvanced => exact enterWait_can ho
  | connected =>
    simp only [pollDestinationConnected]
    split
    · split
      · exact enterWait_can ho
      split
      · exact List.forall_mem_singleton.mpr trivial
      · exact List.forall_mem_nil _
    · exact List.forall_mem_nil _
  | connectedAdvanced => exact List.forall_mem_nil _
  | connecting => exact List.forall_mem_nil _
  | noConnection => exact List.forall_mem_nil _

theorem pollConnectingToDest_can (hs : s.CredentialsFit) :
    ∀ a ∈ (pollConnectingToDest now conn s).2, a.PlatformCan := by
  unfold pollConnectingToDest
  split
  · dsimp only
    split
    · exact pollDestinationConnected_can ho
    · exact pollDestinationConnected_can ho
  split
  · dsimp only
    split
    · exact enterWait_can ho
    · exact List.forall_mem_singleton.mpr hs.connect
  · exact pollDestinationConnected_can ho

theorem poll_can (hs : s.ssid.isSome ∨ s.state.state.isDestination = true → s.CredentialsFit) :
    ∀ a ∈ (poll now conn s).2, a.PlatformCan := by
  unfold poll
  split
  next => exact pollConnectingToBootstrap_can ho fun hssid ↦ hs (.inl hssid)
  next => exact pollWaitingForData_can fun hssid ↦ hs (.inl hssid)
  next hm =>
    refine pollConnectingToDest_can ho (hs (.inr ?_))
    rw [hm]
    exact rfl
  next => exact pollDestinationConnected_can ho
  next => exact List.forall_mem_nil _

end Poll

/-- What the platform is configured with can be copied, and so can the stored credentials
wherever they may be connected with next. -/
structure StationSafe (s : Instance) : Prop where
  bootstrap : s.options.Ready → s.options.BootstrapFits
  credentials : s.flags.requestSetWifi = false →
    s.ssid.isSome ∨ s.state.state.isDestination = true → s.CredentialsFit

def SetupStation (m : LibraryMove) : Prop :=
  ∀ o data key, m.input.call = .setup o data key → o.BootstrapFits

/-- The credentials a move takes up, stored ones with an ssid or new ones, fit. -/
structure BringsStation (m : LibraryMove) : Prop where
  setup : ∀ o data key, m.input.call = .setup o data key → data.getD 0 0 ≠ 0 →
    (prvAssignData data .zero).CredentialsFit
  setData : ExecutesSetData m → m.pre.inst.CredentialsFit

theorem StationSafe.keep (hs : StationSafe s) (hc : t.credentials = s.credentials)
    (ho : t.options = s.options)
    (hset : t.flags.requestSetWifi = false → s.flags.requestSetWifi = false)
    (hm : t.state.state.isDestination = true → s.state.state.isDestination = true) :
    StationSafe t where
  bootstrap := by
    rw [ho]
    exact hs.bootstrap
  credentials hf hcase := by
    have hssid : t.ssid = s.ssid := congrArg (fun c ↦ c.2.2.1) hc
    rw [hssid] at hcase
    exact (hs.credentials (hset hf) (hcase.imp_right hm)).of_credentials hc

theorem stationSafe_enterBootstrapped (now : Time) (ho : s.options.Ready → s.options.BootstrapFits)
    (hs : s.CredentialsFit) : StationSafe (prvEnterBootstrappedMode now s).1 :=
  ⟨ho, fun _ _ ↦ hs⟩

theorem stationSafe_enterWait {code : ErrorState} {message : Option CString}
    (ho : s.options.BootstrapFits) (hs : s.ssid.isSome → s.CredentialsFit) :
    StationSafe (prvEnterWaitForBootstrapMode now code message s).1 := by
  refine ⟨fun _ ↦ ho, fun _ hcase ↦ ?_⟩
  rcases hcase with hssid | hm
  · exact hs hssid
  · cases hm

theorem bstSetup_station (L : Layout) (now : Time) (data key : List UInt8) {o : Options}
    (ho : o.BootstrapFits)
    (hdata : data.getD 0 0 ≠ 0 → (prvAssignData data .zero).CredentialsFit) :
    StationSafe (bstSetup L now o data key).1 ∧
      ∀ a ∈ (bstSetup L now o data key).2, a.PlatformCan := by
  have hstored (hs : (loaded L o data key).ssid.isSome) :
      (loaded L o data key).CredentialsFit := by
    rw [loaded_ssid, prvAssignData_ssid_isSome] at hs
    exact (hdata hs).of_credentials loaded_credentials
  have hopt : (loaded L o data key).options.BootstrapFits := by
    rw [loaded_options]
    exact ho
  have heff := bstSetup_effect L now o data key
  generalize bstSetup L now o data key = r at heff
  cases heff with
  | bootstrapped hs =>
    have hfit : { loaded L o data key with options := o.bootstrapped }.CredentialsFit := hstored hs
    refine ⟨stationSafe_enterBootstrapped now (fun _ ↦ ?_) hfit, enterBootstrapped_can now hfit⟩
    exact ho.bootstrapped
  | waiting hn => exact ⟨stationSafe_enterWait hopt hstored, enterWait_can hopt⟩
  | idle hn hb =>
    obtain ⟨bytes, hbytes, -⟩ := ho.1
    rw [hb] at hbytes
    cases hbytes

theorem PollEffect.stationSafe {r : Instance × List Action} (heff : PollEffect now s r)
    (ho : s.options.BootstrapFits) (hset : s.flags.requestSetWifi = false)
    (hs : StationSafe s) : StationSafe r.1 := by
  cases heff with
  | stay hd _ hg _ =>
    exact hs.keep hd.credentials hd.options (fun _ ↦ hset) fun hm ↦ hg.destination ▸ hm
  | bootstrapped hd hssid _ _ =>
    refine stationSafe_enterBootstrapped now (fun _ ↦ ?_) ?_
    · rw [hd.options]
      exact ho
    · exact (hs.credentials hset (.inl hssid)).of_credentials hd.credentials
  | fellBack hd hm =>
    refine stationSafe_enterWait ?_ fun _ ↦ ?_
    · rw [hd.options]
      exact ho
    · exact (hs.credentials hset (.inr hm)).of_credentials hd.credentials

theorem periodic_station (L : Layout) (now : Time) (conn : ConnectState) (hs : StationSafe s)
    (hx : s.options.Ready → s.flags.requestFactoryReset = false → s.flags.requestBind = false →
      s.flags.requestWifiList = false → s.flags.requestSetWifi = true → s.CredentialsFit) :
    StationSafe (bstPeriodic L now conn s).1 ∧
      ∀ a ∈ (bstPeriodic L now conn s).2, a.PlatformCan := by
  have heff := bstPeriodic_effect L now conn s
  have hpoll (h : s.Polls) : bstPeriodic L now conn s = poll now conn s := h.periodic L
  generalize bstPeriodic L now conn s = r at heff hpoll
  cases heff with
  | off => exact ⟨hs, List.forall_mem_nil _⟩
  | factoryReset ho =>
    obtain ⟨hsafe, hcan⟩ := bstSetup_station L now [] []
      (hs.bootstrap ho) fun hne ↦ absurd rfl hne
    exact ⟨hsafe, List.forall_mem_cons.mpr ⟨trivial, List.forall_mem_cons.mpr ⟨trivial, hcan⟩⟩⟩
  | bind =>
    exact ⟨hs.keep rfl rfl id id,
      List.forall_mem_cons.mpr ⟨trivial, List.forall_mem_singleton.mpr trivial⟩⟩
  | wifiList => exact ⟨hs.keep rfl rfl id id, List.forall_mem_singleton.mpr trivial⟩
  | setWifi ho hf hb hl hw =>
    have hfit := hx ho hf hb hl hw
    exact ⟨stationSafe_enterBootstrapped now hs.bootstrap hfit, List.forall_mem_cons.mpr
      ⟨trivial, List.forall_mem_cons.mpr ⟨trivial, enterBootstrapped_can now hfit⟩⟩⟩
  | poll ho hf hb hl hset hp =>
    have hopt := hs.bootstrap ho
    refine ⟨hp.stationSafe hopt hset hs, ?_⟩
    rw [hpoll ⟨ho, hf, hb, hl, hset⟩]
    exact poll_can hopt (hs.credentials hset)

theorem InputEffect.stationSafe (heff : InputEffect L now random data s t)
    (hfit : ∀ pkt, BindAccepted L now data pkt s → (newBindKeyLen pkt).toNat ≤ bindkeyMaxSize)
    (hs : StationSafe s) : StationSafe t := by
  cases heff with
  | ignored => exact hs
  | expired => exact hs.keep rfl rfl id id
  | hello pkt =>
    obtain ⟨st, hmode, ht⟩ := helloDone_frame s now random pkt
    rw [ht]
    exact hs.keep rfl rfl id fun hm ↦ hmode ▸ hm
  | bind pkt hb =>
    rw [bindDone_of_le (hfit pkt hb)]
    exact hs.keep rfl rfl id id
  | setData pkt =>
    refine ⟨hs.bootstrap, fun hset ↦ ?_⟩
    cases hset

theorem StationSafe.step (hd : StationSafe d.inst) (hs : SetupStation ((library L).move d e))
    (hb : BindFits L ((library L).move d e)) (hx : BringsStation ((library L).move d e)) :
    StationSafe ((library L).step e d).1.inst ∧
      ∀ a ∈ ((library L).step e d).2, a.PlatformCan := by
  obtain ⟨now, call⟩ := e
  cases call with
  | setup o data key =>
    exact bstSetup_station L now data key (hs o data key rfl) (hx.setup o data key rfl)
  | periodic conn =>
    exact periodic_station L now conn hd
      fun ho hf hb hl hw ↦ hx.setData ⟨conn, rfl, ho, hf, hb, hl, hw⟩
  | networkInput data random =>
    exact ⟨(networkInput_effect L now random data d.inst).stationSafe
      (fun pkt ↦ hb data random pkt rfl) hd, List.forall_mem_nil _⟩
  | wifiNetworkList list => exact ⟨hd, wifiNetworkList_only fun _ ↦ trivial⟩
  | setErrorMessage => exact ⟨hd.keep rfl rfl id id, List.forall_mem_nil _⟩
  | factoryReset => exact ⟨hd.keep rfl rfl id id, List.forall_mem_nil _⟩
  | confirmBootstrap => exact ⟨hd.keep rfl rfl id id, List.forall_mem_nil _⟩

theorem stationSafe_off : StationSafe Device.off.inst := by
  constructor
  · intro ho
    cases ho.1
  · intro _ hcase
    rcases hcase with hssid | hm
    · cases hssid
    · cases hm

theorem fits_of_platformCan (h : (Action.connectToWifi ssid pwd).PlatformCan) :
    FitsArray stationSsidSize ssid ∧ FitsArray stationPasswordSize pwd :=
  (bstConnectToWifi_isSome_iff ⟨.zero _, .zero _, 0⟩).mp (h ⟨.zero _, .zero _, 0⟩)

theorem setup_connects {o : Options} (hdata : data.getD 0 0 ≠ 0) :
    .connectToWifi (prvAssignData data .zero).ssidString (prvAssignData data .zero).pwdString ∈
      (bstSetup L now o data key).2 := by
  have hloaded : (loaded L o data key).credentials = _ := loaded_credentials
  obtain ⟨hssid, hpwd, -⟩ := strings_of_credentials hloaded
  have hsome : (loaded L o data key).ssid.isSome := by
    rw [loaded_ssid, prvAssignData_ssid_isSome]
    exact hdata
  have heff := bstSetup_effect L now o data key
  generalize bstSetup L now o data key = r at heff
  cases heff with
  | bootstrapped =>
    rw [← hssid, ← hpwd]
    exact List.mem_cons_of_mem _ List.mem_cons_self
  | waiting hn =>
    rw [hn] at hsome
    cases hsome
  | idle hn =>
    rw [hn] at hsome
    cases hsome

theorem bringsStation_of_can (h : ∀ a ∈ ((library L).step e d).2, a.PlatformCan) :
    BringsStation ((library L).move d e) where
  setup o data key hc hdata := by
    obtain ⟨now, call⟩ := e
    cases hc
    exact fits_of_platformCan (h _ (setup_connects hdata))
  setData hx := by
    rw [executesSetData_output hx] at h
    refine fits_of_platformCan (h _ ?_)
    simp

/-- The ESP8266 platform can copy what it is told to connect with in exactly the runs in
which every stored blob with an ssid and every executed SET_DATA bring an ssid and a
password that fit, none of them empty. -/
theorem platform_can_connect_iff (r : (library L).Run .off h d)
    (hs : ∀ m ∈ h, SetupStation m) (hb : ∀ m ∈ h, BindFits L m) :
    (∀ m ∈ h, ∀ a ∈ m.output, a.PlatformCan) ↔ ∀ m ∈ h, BringsStation m := by
  constructor
  · intro hall m hm
    obtain ⟨later, earlier, rfl⟩ := List.append_of_mem hm
    obtain ⟨-, he, -⟩ := r.split
    have hcan := hall m hm
    rw [he] at hcan ⊢
    exact bringsStation_of_can hcan
  · intro hbrings m hm
    obtain ⟨earlier, hr, hsub⟩ := r.upto hm
    obtain ⟨hpre, he, -⟩ := hr.last
    have hinv : StationSafe m.pre.inst :=
      hpre.invariant (P := fun d ↦ StationSafe d.inst) (G := fun m ↦ m ∈ h) stationSafe_off
        (fun d e hd hmem ↦ (hd.step (hs _ hmem) (hb _ hmem) (hbrings _ hmem)).1)
        fun x hx ↦ hsub x (List.mem_cons_of_mem _ hx)
    have hmem := hm
    rw [he] at hmem ⊢
    exact (hinv.step (hs _ hmem) (hb _ hmem) (hbrings _ hmem)).2

/-- The device is switched on with stored data. -/
def restored (data : List UInt8) : LibraryMove :=
  (library lp64).move .off ⟨1, .setup stationOptions data []⟩

theorem restored_setupStation (data : List UInt8) : ∀ m ∈ [restored data], SetupStation m := by
  refine List.forall_mem_singleton.mpr fun o data key hc ↦ ?_
  cases hc
  exact ⟨⟨_, rfl, by decide⟩, ⟨_, rfl, by decide⟩⟩

theorem restored_bindFits (data : List UInt8) : ∀ m ∈ [restored data], BindFits lp64 m :=
  List.forall_mem_singleton.mpr fun data random pkt hc ↦ by cases hc

theorem restored_bringsStation (ssid pwd : List UInt8) (data : List UInt8)
    (hstrings : (prvAssignData data .zero).ssidString = some ssid ∧
      (prvAssignData data .zero).pwdString = some pwd)
    (hssid : ssid.length < stationSsidSize) (hpwd : pwd.length < stationPasswordSize) :
    ∀ m ∈ [restored data], BringsStation m := by
  refine List.forall_mem_singleton.mpr ⟨fun o data key hc _ ↦ ?_, fun hx ↦ ?_⟩
  · cases hc
    exact ⟨⟨ssid, hstrings.1, hssid⟩, ⟨pwd, hstrings.2, hpwd⟩⟩
  · obtain ⟨_, hc, -⟩ := hx
    cases hc

theorem sample_platform_can_connect :
    .connectToWifi (some [97]) (some [98]) ∈ (restored [97, 0, 98]).output ∧
      (Action.connectToWifi (some [97]) (some [98])).PlatformCan := by
  have hstrings : (prvAssignData [97, 0, 98] .zero).ssidString = some [97] ∧
      (prvAssignData [97, 0, 98] .zero).pwdString = some [98] := by decide
  have hbrings : ∀ m ∈ [restored [97, 0, 98]], BringsStation m :=
    restored_bringsStation [97] [98] _ hstrings (by decide) (by decide)
  have hmem : .connectToWifi (some [97]) (some [98]) ∈ (restored [97, 0, 98]).output := by decide
  exact ⟨hmem, (platform_can_connect_iff (Machine.Run.nil.snoc _) (restored_setupStation _)
    (restored_bindFits _)).mpr hbrings _ List.mem_cons_self _ hmem⟩

/-- For an open network the password is NULL. -/
theorem open_network_not_copied :
    (library lp64).Run .off [restored [97]] (restored [97]).post ∧
      (∀ m ∈ [restored [97]], SetupStation m) ∧ (∀ m ∈ [restored [97]], BindFits lp64 m) ∧
      (restored [97]).post.inst.ssidString = some [97] ∧
      ¬ ∀ m ∈ [restored [97]], ∀ a ∈ m.output, a.PlatformCan := by
  refine ⟨Machine.Run.nil.snoc _, restored_setupStation _, restored_bindFits _, by decide,
    fun h ↦ ?_⟩
  have hcan : (Action.connectToWifi (some [97]) none).PlatformCan := by
    refine h _ List.mem_cons_self _ ?_
    decide
  obtain ⟨-, bytes, hnull, -⟩ := fits_of_platformCan hcan
  cases hnull

end BootstrapWifi
