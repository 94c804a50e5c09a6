import BootstrapWifi.Periodic
import BootstrapWifi.SetupEffect

namespace BootstrapWifi

def BstState.isBootstrap : BstState → Bool
  | .connectingToBootstrap | .waitingForData => true
  | _ => false

def BstState.isDestination : BstState → Bool
  | .connectingToDest | .destinationConnected => true
  | _ => false

theorem BstState.isBootstrap_iff {mode : BstState} :
    mode.isBootstrap = true ↔ mode = .connectingToBootstrap ∨ mode = .waitingForData := by
  cases mode <;> simp [BstState.isBootstrap]

theorem BstState.isDestination_iff {mode : BstState} :
    mode.isDestination = true ↔ mode = .connectingToDest ∨ mode = .destinationConnected := by
  cases mode <;> simp [BstState.isDestination]

theorem BstState.isDestination_of_isBootstrap {mode : BstState} (hb : mode.isBootstrap = true) :
    mode.isDestination = false := by
  rcases isBootstrap_iff.mp hb with rfl | rfl <;> rfl

theorem BstState.isBootstrap_of_isDestination {mode : BstState}
    (hd : mode.isDestination = true) : mode.isBootstrap = false := by
  rcases isDestination_iff.mp hd with rfl | rfl <;> rfl

/-- The fields that polling never touches. -/
structure SameData (s t : Instance) : Prop where
  options : t.options = s.options
  storage : t.storage = s.storage
  storageLen : t.storageLen = s.storageLen
  ssid : t.ssid = s.ssid
  pwd : t.pwd = s.pwd
  additional : t.additional = s.additional
  cryptoSecret : t.cryptoSecret = s.cryptoSecret
  cryptoSecretLen : t.cryptoSecretLen = s.cryptoSecretLen
  flags : t.flags = s.flags

structure SameSession (s t : Instance) : Prop where
  timeNonceValid : t.state.timeNonceValid = s.state.timeNonceValid
  prvAppNonce : t.state.prvAppNonce = s.state.prvAppNonce
  prvDeviceNonce : t.state.prvDeviceNonce = s.state.prvDeviceNonce

structure SameGroup (s t : Instance) : Prop where
  bootstrap : t.state.state.isBootstrap = s.state.state.isBootstrap
  destination : t.state.state.isDestination = s.state.state.isDestination

def Instance.bootstrapSsidString (s : Instance) : Option (List UInt8) :=
  s.options.bootstrapSsid.map (·.bytes)

def Action.Routine (s : Instance) : Action → Prop
  | .connectToWifi ssid _ =>
    ssid = s.bootstrapSsidString ∨ s.state.state.isDestination = true ∧ ssid = s.ssidString
  | .connectAdvanced _ | .connectedToBootstrapNetwork | .sendMessage _ => True
  | _ => False

inductive PollEffect (now : Time) (s : Instance) : Instance × List Action → Prop
  | stay {t : Instance} {acts : List Action} : SameData s t → SameSession s t → SameGroup s t →
      (∀ a ∈ acts, a.Routine s) → PollEffect now s (t, acts)
  | bootstrapped {t : Instance} {acts : List Action} : SameData s t → s.ssid.isSome →
      s.state.state.isBootstrap = true → (∀ a ∈ acts, a.Routine s) →
      PollEffect now s ((prvEnterBootstrappedMode now t).1, acts ++ (prvEnterBootstrappedMode now t).2)
  | fellBack {t : Instance} {code : ErrorState} {message : Option CString} : SameData s t →
      s.state.state.isDestination = true →
      PollEffect now s (prvEnterWaitForBootstrapMode now code message t)

variable {now : Time} {conn : ConnectState} {s t u : Instance} {r : Instance × List Action}

theorem SameData.refl (s : Instance) : SameData s s := ⟨rfl, rfl, rfl, rfl, rfl, rfl, rfl, rfl, rfl⟩

theorem SameData.withState {s : Instance} (st : InnerState) : SameData s { s with state := st } :=
  ⟨rfl, rfl, rfl, rfl, rfl, rfl, rfl, rfl, rfl⟩

theorem SameSession.refl (s : Instance) : SameSession s s := ⟨rfl, rfl, rfl⟩

theorem SameGroup.refl (s : Instance) : SameGroup s s := ⟨rfl, rfl⟩

theorem SameData.ssidString (h : SameData s t) : t.ssidString = s.ssidString := by
  simp only [Instance.ssidString, h.ssid, h.storage]

theorem SameData.credentials (h : SameData s t) : t.credentials = s.credentials := by
  simp only [Instance.credentials, h.storage, h.storageLen, h.ssid, h.pwd, h.additional]

theorem SameData.secretField (h : SameData s t) : t.secretField = s.secretField := by
  simp only [Instance.secretField, h.cryptoSecret, h.cryptoSecretLen]

theorem Action.Routine.of_same {a : Action} (h : a.Routine t) (hd : SameData s t)
    (hg : SameGroup s t) : a.Routine s := by
  cases a with
  | connectToWifi ssid pwd =>
    simpa only [Action.Routine, Instance.bootstrapSsidString, hd.options, hg.destination,
      hd.ssidString] using h
  | _ => exact h

/-- A poll of an instance that differs in nothing but deadline, counter, error report or
the mode within its group is a poll of the original. -/
theorem PollEffect.of_same (h : PollEffect now t r) (hd : SameData s t) (hs : SameSession s t)
    (hg : SameGroup s t) : PollEffect now s r := by
  have trans {u : Instance} (h' : SameData t u) : SameData s u :=
    ⟨h'.options.trans hd.options, h'.storage.trans hd.storage, h'.storageLen.trans hd.storageLen,
      h'.ssid.trans hd.ssid, h'.pwd.trans hd.pwd, h'.additional.trans hd.additional,
      h'.cryptoSecret.trans hd.cryptoSecret, h'.cryptoSecretLen.trans hd.cryptoSecretLen,
      h'.flags.trans hd.flags⟩
  cases h with
  | stay hd' hs' hg' ha =>
    exact .stay (trans hd')
      ⟨hs'.timeNonceValid.trans hs.timeNonceValid, hs'.prvAppNonce.trans hs.prvAppNonce,
        hs'.prvDeviceNonce.trans hs.prvDeviceNonce⟩
      ⟨hg'.bootstrap.trans hg.bootstrap, hg'.destination.trans hg.destination⟩
      fun a h ↦ (ha a h).of_same hd hg
  | bootstrapped hd' hssid hb ha =>
    exact .bootstrapped (trans hd') (hd.ssid ▸ hssid) (hg.bootstrap ▸ hb)
      fun a h ↦ (ha a h).of_same hd hg
  | fellBack hd' hb => exact .fellBack (trans hd') (hg.destination ▸ hb)

theorem PollEffect.progress {acts : List Action} (deadline : Time) (attempts : UInt8)
    (message : Option CString) (code : ErrorState) (ha : ∀ a ∈ acts, a.Routine s) :
    PollEffect now s
      ({ s with
          state.timeoutConnecting := deadline
          state.countConnectionAttempts := attempts
          state.errorLogMsg := message
          state.lastError := code }, acts) :=
  .stay (.withState _) ⟨rfl, rfl, rfl⟩ ⟨rfl, rfl⟩ ha

theorem PollEffect.idle : PollEffect now s (s, []) :=
  .stay (.refl s) (.refl s) (.refl s) (List.forall_mem_nil _)

theorem PollEffect.changeMode {mode : BstState}
    (hg : SameGroup s { s with state.state := mode }) :
    PollEffect now s ({ s with state.state := mode }, []) :=
  .stay (.withState _) ⟨rfl, rfl, rfl⟩ hg (List.forall_mem_nil _)

theorem PollEffect.enter (hd : SameData s t) (hssid : s.ssid.isSome)
    (hb : s.state.state.isBootstrap = true) : PollEffect now s (prvEnterBootstrappedMode now t) :=
  .bootstrapped hd hssid hb (List.forall_mem_nil _)

theorem PollEffect.prepend {acts : List Action} (h : PollEffect now s r)
    (ha : ∀ a ∈ acts, a.Routine s) (hb : s.state.state.isBootstrap = true) :
    PollEffect now s (r.1, acts ++ r.2) := by
  cases h with
  | stay hd hs hg ha' => exact .stay hd hs hg (List.forall_mem_append.mpr ⟨ha, ha'⟩)
  | bootstrapped hd hssid hb ha' =>
    rw [← List.append_assoc]
    exact .bootstrapped hd hssid hb (List.forall_mem_append.mpr ⟨ha, ha'⟩)
  | fellBack hd hdest =>
    cases hdest.symm.trans (BstState.isDestination_of_isBootstrap hb)

theorem fallBack_effect {code : ErrorState} {message : CString}
    (hm : s.state.state.isDestination = true) :
    PollEffect now s (fallBack now code message s) := .fellBack (.refl s) hm

/-- The deadline is armed anew. -/
def Instance.rearm (now : Time) (s : Instance) : Instance :=
  { s with state.timeoutConnecting := now + s.options.timeoutConnectingStateMs }

/-- Past the deadline a device with an ssid and without a session goes for its destination. -/
theorem pollWaitingForData_connected (now : Time) (s : Instance) :
    pollWaitingForData now .connected s =
      if now < s.state.timeoutConnecting then (s, [])
      else if s.ssid.isSome ∧ s.state.timeNonceValid < now then
        prvEnterBootstrappedMode now (s.rearm now).wipeSession
      else (s.rearm now, []) := by
  have hpoll : pollWaitingForData now .connected s =
      if now < s.state.timeoutConnecting then (s, [])
      else if s.ssid.isSome then
        if (prvIsAppSessionValid now (s.rearm now)).1 then
          ((prvIsAppSessionValid now (s.rearm now)).2, [])
        else prvEnterBootstrappedMode now (prvIsAppSessionValid now (s.rearm now)).2
      else (s.rearm now, []) := rfl
  rw [hpoll]
  by_cases ht : now < s.state.timeoutConnecting
  · rw [if_pos ht, if_pos ht]
  rw [if_neg ht, if_neg ht]
  by_cases hssid : s.ssid.isSome = true
  · by_cases hv : s.state.timeNonceValid < now
    · have hwiped : prvIsAppSessionValid now (s.rearm now) = (false, (s.rearm now).wipeSession) :=
        prvIsAppSessionValid_of_lt hv
      rw [if_pos hssid, hwiped, if_neg Bool.false_ne_true, if_pos ⟨hssid, hv⟩]
    · have hvalid : prvIsAppSessionValid now (s.rearm now) = (true, s.rearm now) :=
        prvIsAppSessionValid_of_ge (not_lt.mp hv)
      rw [if_pos hssid, hvalid, if_pos rfl, if_neg fun h ↦ hv h.2]
  · rw [if_neg hssid, if_neg fun h ↦ hssid h.1]

theorem pollWaitingForData_lost (hconn : conn ≠ .connected) :
    pollWaitingForData now conn s = ({ s with state.state := .connectingToBootstrap }, []) :=
  if_pos hconn

theorem pollWaitingForData_effect (hm : s.state.state.isBootstrap = true) :
    PollEffect now s (pollWaitingForData now conn s) := by
  have hdest : s.state.state.isDestination = false := BstState.isDestination_of_isBootstrap hm
  by_cases hconn : conn = .connected
  · rw [hconn, pollWaitingForData_connected]
    split
    · exact .idle
    split
    next hgo =>
      have hw : SameData s (s.rearm now).wipeSession :=
        ⟨rfl, rfl, rfl, rfl, rfl, rfl, rfl, rfl, rfl⟩
      exact .enter hw hgo.1 hm
    next => exact .progress _ _ _ _ (List.forall_mem_nil _)
  · rw [pollWaitingForData_lost hconn]
    exact .changeMode ⟨hm.symm, hdest.symm⟩

theorem pollConnectingToBootstrap_effect (hm : s.state.state = .connectingToBootstrap) :
    PollEffect now s (pollConnectingToBootstrap now conn s) := by
  have hb : s.state.state.isBootstrap = true := by rw [hm]; rfl
  have hg : SameGroup s { s with state.state := .waitingForData } := by
    constructor <;> rw [hm] <;> rfl
  unfold pollConnectingToBootstrap
  split
  · have hw : PollEffect now { s with state.state := .waitingForData }
        (pollWaitingForData now conn { s with state.state := .waitingForData }) :=
      pollWaitingForData_effect rfl
    have hw' : PollEffect now s _ := hw.of_same (.withState _) ⟨rfl, rfl, rfl⟩ hg
    have ha : ∀ a ∈ [Action.connectedToBootstrapNetwork, .sendMessage .hello], a.Routine s := by
      simp [Action.Routine]
    exact hw'.prepend ha hb
  split
  · exact .idle
  dsimp only
  split
  · exact .progress _ _ _ _ (by simp [Action.Routine, Instance.bootstrapSsidString])
  next hssid =>
    split
    · exact .progress _ _ _ _ (by simp [Action.Routine, Instance.bootstrapSsidString])
    · exact .enter (.withState _) (by simpa [Option.isSome_iff_ne_none] using hssid) hb

theorem pollDestinationConnected_effect (hm : s.state.state.isDestination = true) :
    PollEffect now s (pollDestinationConnected now conn s) := by
  have hb : s.state.state.isBootstrap = false := BstState.isBootstrap_of_isDestination hm
  cases conn with
  | failedSsidNotFound => exact fallBack_effect hm
  | failedCredentialsWrong => exact fallBack_effect hm
  | failedAdvanced => exact fallBack_effect hm
  | connected =>
    simp only [pollDestinationConnected]
    split
    · split
      · exact fallBack_effect hm
      split
      · exact .progress _ _ _ _ (List.forall_mem_singleton.mpr trivial)
      · exact .idle
    · exact .idle
  | connectedAdvanced => exact .progress _ _ _ _ (List.forall_mem_nil _)
  | connecting => exact .changeMode ⟨hb.symm, hm.symm⟩
  | noConnection => exact .changeMode ⟨hb.symm, hm.symm⟩

theorem pollConnectingToDest_effect (hm : s.state.state = .connectingToDest) :
    PollEffect now s (pollConnectingToDest now conn s) := by
  have hdest : s.state.state.isDestination = true := by rw [hm]; rfl
  have hgroup : SameGroup s { s with state.state := .destinationConnected } := by
    constructor <;> rw [hm] <;> rfl
  unfold pollConnectingToDest
  split
  · dsimp only
    split
    · exact (pollDestinationConnected_effect rfl).of_same (.withState _) ⟨rfl, rfl, rfl⟩
        ⟨hgroup.bootstrap, hgroup.destination⟩
    · exact (pollDestinationConnected_effect rfl).of_same (.withState _) ⟨rfl, rfl, rfl⟩ hgroup
  split
  · dsimp only
    split
    · exact .fellBack (.withState _) hdest
    · refine .progress _ _ _ _ ?_
      intro a ha
      rw [List.mem_singleton.mp ha]
      exact .inr ⟨hdest, rfl⟩
  · exact pollDestinationConnected_effect hdest

theorem poll_effect (now : Time) (conn : ConnectState) (s : Instance) :
    PollEffect now s (poll now conn s) := by
  unfold poll
  split
  next hm => exact pollConnectingToBootstrap_effect hm
  next hm => exact pollWaitingForData_effect (by rw [hm]; rfl)
  next hm => exact pollConnectingToDest_effect hm
  next hm => exact pollDestinationConnected_effect (by rw [hm]; rfl)
  next => exact .idle

/-- Without these two options `bst_periodic` does nothing. -/
def Options.Ready (o : Options) : Prop := o.bootstrapSsid.isSome ∧ o.initialCryptoSecret.isSome

theorem Options.Ready.bootstrapped {o : Options} (h : o.Ready) : o.bootstrapped.Ready := by
  unfold Options.Ready
  rwa [Options.bootstrapped_bootstrapSsid, Options.bootstrapped_initialCryptoSecret]

theorem serveFactoryReset_eq (L : Layout) (ho : s.options.Ready) :
    serveFactoryReset L now s =
      ((prvEnterWaitForBootstrapMode now .ok none (loaded L s.options [] [])).1,
        [.storeBootstrapData [], .storeCryptoSecret [], .enterWaitForBootstrapMode,
          .connectToWifi s.bootstrapSsidString (s.options.bootstrapKey.map (·.bytes))]) := by
  have hl : (loaded L s.options [] []).options = s.options := loaded_options
  unfold serveFactoryReset
  rw [bstSetup_nil L now [] ho.1]
  simp only [prvEnterWaitForBootstrapMode, hl]
  rfl

/-- Everything `bst_periodic` can do. One request is served per call, in this order. -/
inductive PeriodicEffect (L : Layout) (now : Time) (s : Instance) : Instance × List Action → Prop
  | off : ¬ s.options.Ready → PeriodicEffect L now s (s, [])
  | factoryReset : s.options.Ready → s.flags.requestFactoryReset = true →
      PeriodicEffect L now s (serveFactoryReset L now s)
  | bind : s.options.Ready → s.flags.requestFactoryReset = false → s.flags.requestBind = true →
      PeriodicEffect L now s (serveBind L s)
  | wifiList : s.options.Ready → s.flags.requestFactoryReset = false →
      s.flags.requestBind = false → s.flags.requestWifiList = true →
      PeriodicEffect L now s
        ({ s with flags.requestWifiList := false }, [.requestWifiNetworkList])
  | setWifi : s.options.Ready → s.flags.requestFactoryReset = false →
      s.flags.requestBind = false → s.flags.requestWifiList = false →
      s.flags.requestSetWifi = true → PeriodicEffect L now s (serveSetWifi now s)
  | poll {r : Instance × List Action} : s.options.Ready → s.flags.requestFactoryReset = false →
      s.flags.requestBind = false → s.flags.requestWifiList = false →
      s.flags.requestSetWifi = false → PollEffect now s r → PeriodicEffect L now s r

theorem Options.ready_iff (o : Options) :
    o.Ready ↔ ¬ (o.bootstrapSsid.isNone ∨ o.initialCryptoSecret.isNone) := by
  simp [Options.Ready, Option.isSome_iff_ne_none]

theorem bstPeriodic_off (L : Layout) (conn : ConnectState) (ho : ¬ s.options.Ready) :
    bstPeriodic L now conn s = (s, []) := by
  unfold bstPeriodic
  rw [if_pos (not_not.mp fun h ↦ ho ((Options.ready_iff _).mpr h))]

theorem bstPeriodic_factoryReset (L : Layout) (conn : ConnectState) (ho : s.options.Ready)
    (hf : s.flags.requestFactoryReset = true) :
    bstPeriodic L now conn s = serveFactoryReset L now s := by
  unfold bstPeriodic
  rw [if_neg ((Options.ready_iff _).mp ho), if_pos hf]

theorem bstPeriodic_bind (L : Layout) (conn : ConnectState) (ho : s.options.Ready)
    (hf : s.flags.requestFactoryReset = false) (hb : s.flags.requestBind = true) :
    bstPeriodic L now conn s = serveBind L s := by
  unfold bstPeriodic
  rw [if_neg ((Options.ready_iff _).mp ho), if_neg (by simp [hf]), if_pos hb]

theorem bstPeriodic_wifiList (L : Layout) (conn : ConnectState) (ho : s.options.Ready)
    (hf : s.flags.requestFactoryReset = false) (hb : s.flags.requestBind = false)
    (hl : s.flags.requestWifiList = true) :
    bstPeriodic L now conn s =
      ({ s with flags.requestWifiList := false }, [.requestWifiNetworkList]) := by
  unfold bstPeriodic
  rw [if_neg ((Options.ready_iff _).mp ho), if_neg (by simp [hf]), if_neg (by simp [hb]),
    if_pos hl]

theorem bstPeriodic_setWifi (L : Layout) (conn : ConnectState) (ho : s.options.Ready)
    (hf : s.flags.requestFactoryReset = false) (hb : s.flags.requestBind = false)
    (hl : s.flags.requestWifiList = false) (hs : s.flags.requestSetWifi = true) :
    bstPeriodic L now conn s = serveSetWifi now s := by
  unfold bstPeriodic
  rw [if_neg ((Options.ready_iff _).mp ho), if_neg (by simp [hf]), if_neg (by simp [hb]),
    if_neg (by simp [hl]), if_pos hs]

theorem bstPeriodic_poll (L : Layout) (conn : ConnectState) (ho : s.options.Ready)
    (hf : s.flags.requestFactoryReset = false) (hb : s.flags.requestBind = false)
    (hl : s.flags.requestWifiList = false) (hs : s.flags.requestSetWifi = false) :
    bstPeriodic L now conn s = poll now conn s := by
  unfold bstPeriodic
  rw [if_neg ((Options.ready_iff _).mp ho), if_neg (by simp [hf]), if_neg (by simp [hb]),
    if_neg (by simp [hl]), if_neg (by simp [hs])]

/-- No request is pending, so `bst_periodic` looks at mode and connection. -/
structure Instance.Polls (s : Instance) : Prop where
  ready : s.options.Ready
  factoryReset : s.flags.requestFactoryReset = false
  bind : s.flags.requestBind = false
  wifiList : s.flags.requestWifiList = false
  setWifi : s.flags.requestSetWifi = false

theorem Instance.Polls.periodic (L : Layout) (h : s.Polls) :
    bstPeriodic L now conn s = poll now conn s :=
  bstPeriodic_poll L conn h.ready h.factoryReset h.bind h.wifiList h.setWifi

theorem bstPeriodic_effect (L : Layout) (now : Time) (conn : ConnectState) (s : Instance) :
    PeriodicEffect L now s (bstPeriodic L now conn s) := by
  by_cases ho : s.options.Ready
  · cases hf : s.flags.requestFactoryReset with
    | true =>
      rw [bstPeriodic_factoryReset L conn ho hf]
      exact .factoryReset ho hf
    | false =>
      cases hb : s.flags.requestBind with
      | true =>
        rw [bstPeriodic_bind L conn ho hf hb]
        exact .bind ho hf hb
      | false =>
        cases hl : s.flags.requestWifiList with
        | true =>
          rw [bstPeriodic_wifiList L conn ho hf hb hl]
          exact .wifiList ho hf hb hl
        | false =>
          cases hs : s.flags.requestSetWifi with
          | true =>
            rw [bstPeriodic_setWifi L conn ho hf hb hl hs]
            exact .setWifi ho hf hb hl hs
          | false =>
            rw [bstPeriodic_poll L conn ho hf hb hl hs]
            exact .poll ho hf hb hl hs (poll_effect now conn s)
  · rw [bstPeriodic_off L conn ho]
    exact .off ho

theorem serveBind_output (L : Layout) (hl : s.cryptoSecretLen.toNat ≤ bindkeyMaxSize) :
    (serveBind L s).2 = [.storeCryptoSecret (s.cryptoSecret.bytes.take s.cryptoSecretLen.toNat),
      .requestWifiNetworkList] := by
  have hs (t : Instance) (hb : t.cryptoSecret = s.cryptoSecret)
      (hn : t.cryptoSecretLen = s.cryptoSecretLen) :
      t.secret L = s.cryptoSecret.bytes.take s.cryptoSecretLen.toNat := by
    rw [Instance.secret_of_le L (hn ▸ hl), hb, hn]
  exact congrArg (fun k ↦ [Action.storeCryptoSecret k, .requestWifiNetworkList]) (hs _ rfl rfl)

/-- Only a factory reset changes what is stored in the instance. -/
theorem PeriodicEffect.same_data {L : Layout} (h : PeriodicEffect L now s r)
    (hf : ¬ (s.options.Ready ∧ s.flags.requestFactoryReset = true)) :
    r.1.credentials = s.credentials ∧ r.1.secretField = s.secretField ∧
      r.1.options = s.options := by
  have data {t : Instance} (hd : SameData s t) : t.credentials = s.credentials ∧
      t.secretField = s.secretField ∧ t.options = s.options :=
    ⟨hd.credentials, hd.secretField, hd.options⟩
  cases h with
  | off => exact ⟨rfl, rfl, rfl⟩
  | factoryReset ho h => exact absurd ⟨ho, h⟩ hf
  | bind => exact ⟨rfl, rfl, rfl⟩
  | wifiList => exact ⟨rfl, rfl, rfl⟩
  | setWifi => exact ⟨rfl, rfl, rfl⟩
  | poll _ _ _ _ _ hp =>
    cases hp with
    | stay hd => exact data hd
    | bootstrapped hd =>
      have h := data hd
      exact h
    | fellBack hd =>
      have h := data hd
      exact h

theorem PeriodicEffect.options {L : Layout} (h : PeriodicEffect L now s r) :
    r.1.options = s.options := by
  by_cases hf : s.options.Ready ∧ s.flags.requestFactoryReset = true
  · cases h with
    | factoryReset => exact bstSetup_options_nil L now s.options []
    | poll _ hn =>
      rw [hf.2] at hn
      cases hn
    | _ => rfl
  · exact (h.same_data hf).2.2

end BootstrapWifi
