import BootstrapWifi.AppPacket
import BootstrapWifi.Lp64

namespace BootstrapWifi

open Mealy ByteBuffer

variable (L : Layout) (o : Options) (key : List UInt8) (t : Time) (appNonce : List UInt8)
  (random : UInt64)

/-- A device without stored data is set up, its bootstrap network connects, and an app
says HELLO. -/
def greeting : List Event :=
  [⟨t, .setup o [] key⟩, ⟨t, .periodic .connected⟩,
    ⟨t, .networkInput (plainPkt cmdHello appNonce) random⟩]

def onlineInstance : Instance :=
  { loaded L o [] key with
    flags := .zero
    state := { InnerState.zero with
      state := .waitingForData
      timeoutConnecting := t + o.timeoutConnectingStateMs } }

def greetedDevice : Device :=
  ⟨(onlineInstance L o key t).helloDone t random (plainPkt cmdHello appNonce), ⟨[], key⟩, o, [],
    key⟩

def greetingHistory : List LibraryMove :=
  ((library L).exec .off (greeting o key t appNonce random)).1

variable {L o key t appNonce random} {d : Device} {m : LibraryMove}

theorem step_setup_nil (ho : o.bootstrapSsid.isSome) :
    ((library L).step ⟨t, .setup o [] key⟩ d).1 =
      ⟨(prvEnterWaitForBootstrapMode t .ok none (loaded L o [] key)).1, ⟨[], key⟩, o, [], key⟩ := by
  change (Device.after ⟨d.inst, ⟨[], key⟩, o, [], key⟩ (bstSetup L t o [] key)).1 = _
  rw [bstSetup_nil L t key ho]
  rfl

theorem step_connected (ho : o.Ready) :
    ((library L).step ⟨t, .periodic .connected⟩
      ⟨(prvEnterWaitForBootstrapMode t .ok none (loaded L o [] key)).1, ⟨[], key⟩, o, [], key⟩).1 =
      ⟨onlineInstance L o key t, ⟨[], key⟩, o, [], key⟩ := by
  have hn : (loaded L o [] key).ssid = none := loaded_ssid_nil L o key
  have hopt : (loaded L o [] key).options = o := loaded_options
  have hready : (prvEnterWaitForBootstrapMode t .ok none (loaded L o [] key)).1.options.Ready := by
    change (loaded L o [] key).options.Ready
    rwa [hopt]
  rw [step_periodic L rfl, bstPeriodic_poll L .connected hready rfl rfl rfl rfl]
  simp only [poll, prvEnterWaitForBootstrapMode, pollConnectingToBootstrap,
    ConnectState.isConnected, if_true, pollWaitingForData, ne_eq, not_true_eq_false, if_false, hn,
    Option.isSome_none, Bool.false_eq_true, hopt]
  split <;> simp [onlineInstance, Device.after, hn, Flash.record, InnerState.zero]

theorem sessionOpen_online (now : Time) : SessionOpen now (onlineInstance L o key t) := .inl rfl

theorem exec_greeting (ho : o.Ready) (hl : appNonce.length = nonceSize) :
    ((library L).exec .off (greeting o key t appNonce random)).2 =
      greetedDevice L o key t appNonce random := by
  have hhello : HelloAccepted L t (plainPkt cmdHello appNonce) (plainPkt cmdHello appNonce)
      (onlineInstance L o key t) :=
    helloAccepted_receivePkt rfl hl (.inl (sessionOpen_online t))
  simp only [greeting, Machine.exec, step_setup_nil ho.1, step_connected ho]
  rw [step_networkInput L rfl, networkInput_of_hello hhello]
  rfl

theorem run_greeting (ho : o.Ready) (hl : appNonce.length = nonceSize) :
    (library L).Run .off (greetingHistory L o key t appNonce random)
      (greetedDevice L o key t appNonce random) := by
  rw [← exec_greeting ho hl]
  exact (library L).run_exec .off _

theorem greeting_moves (ho : o.Ready) :
    ∀ m ∈ greetingHistory L o key t appNonce random,
      (∀ o' data' key', m.input.call = .setup o' data' key' → o' = o) ∧ m.input.now = t ∧
        BindFits L m := by
  simp only [greetingHistory, greeting, Machine.exec, step_setup_nil ho.1, step_connected ho,
    List.nil_append, List.cons_append]
  have hello : BindFits L ((library L).move ⟨onlineInstance L o key t, ⟨[], key⟩, o, [], key⟩
      ⟨t, .networkInput (plainPkt cmdHello appNonce) random⟩) :=
    bindFits_of_received rfl (received_receivePkt rfl : Received L
      (receivePkt L (onlineInstance L o key t) cmdHello appNonce) (plainPkt cmdHello appNonce) _)
      (fun hc ↦ by simp [cmdHello, cmdBind] at hc)
  intro m hm
  simp only [List.mem_cons, List.not_mem_nil, or_false] at hm
  rcases hm with rfl | rfl | rfl
  · exact ⟨by simp, rfl, hello⟩
  · exact ⟨by simp, rfl, bindFits_of_call (by simp)⟩
  · exact ⟨by simp +contextual, rfl, bindFits_of_call (by simp)⟩

theorem greeting_setupReady (ho : o.Ready) :
    ∀ m ∈ greetingHistory L o key t appNonce random, SetupReady m := by
  intro m hm o' data' key' hc
  rw [(greeting_moves ho m hm).1 o' data' key' hc]
  exact ho

theorem greeting_bindFits (ho : o.Ready) :
    ∀ m ∈ greetingHistory L o key t appNonce random, BindFits L m :=
  fun m hm ↦ (greeting_moves ho m hm).2.2

theorem greeting_options (ho : o.Ready) :
    ∀ m ∈ greetingHistory L o key t appNonce random,
      m.pre.inst.options = .zero ∨ m.pre.inst.options = o := by
  simp only [greetingHistory, greeting, Machine.exec, step_setup_nil ho.1, step_connected ho,
    List.nil_append, List.cons_append]
  intro m hm
  simp only [List.mem_cons, List.not_mem_nil, or_false] at hm
  rcases hm with rfl | rfl | rfl
  · exact .inr loaded_options
  · exact .inr loaded_options
  · exact .inl rfl

theorem greeting_not_executes (ho : o.Ready) :
    ∀ m ∈ greetingHistory L o key t appNonce random, ¬ ExecutesSetData m := by
  simp only [greetingHistory, greeting, Machine.exec, step_setup_nil ho.1, step_connected ho,
    List.nil_append, List.cons_append]
  intro m hm hx
  obtain ⟨conn, hc, -, -, -, -, hw⟩ := hx
  simp only [List.mem_cons, List.not_mem_nil, or_false] at hm
  rcases hm with rfl | rfl | rfl
  · cases hc
  · cases hw
  · cases hc

/-- The BIND and the SET_DATA that the app of the session sends to the device as it is. -/
def bindEvent (L : Layout) (d : Device) (now : Time) (key : List UInt8) : Event :=
  ⟨now, .networkInput (receivePkt L d.inst cmdBind (bindContent key)) 0⟩

def setDataEvent (L : Layout) (d : Device) (now : Time) (data : List UInt8) : Event :=
  ⟨now, .networkInput (receivePkt L d.inst cmdSetData (bootstrapData data)) 0⟩

section Bind

variable {now : Time} {newKey : List UInt8}

theorem step_bindEvent (hm : d.inst.state.state = .waitingForData)
    (ht : now ≤ d.inst.state.timeNonceValid) (hf : d.inst.flags.requestBind = false)
    (hk : newKey.length ≤ 255) :
    ((library L).step (bindEvent L d now newKey) d).1 =
      { d with inst := d.inst.bindDone L (plainPkt cmdBind (bindContent newKey)) } := by
  have h : (bstNetworkInput L now 0 (receivePkt L d.inst cmdBind (bindContent newKey)) d.inst).val =
      d.inst.bindDone L (plainPkt cmdBind (bindContent newKey)) :=
    networkInput_of_bind (bindAccepted_receivePkt hm ht hf hk)
  exact congrArg (fun i : Instance ↦ { d with inst := i }) h

theorem bindFits_bindEvent (hm : d.inst.state.state = .waitingForData)
    (hk : newKey.length ≤ bindkeyMaxSize) :
    BindFits L ((library L).move d (bindEvent L d now newKey)) := by
  refine bindFits_of_received rfl (received_receivePkt hm) fun _ ↦ ?_
  rwa [newBindKeyLen_bindContent (hk.trans (by decide))]

end Bind

section SetData

variable {now : Time} {data : List UInt8}

theorem step_setDataEvent (hm : d.inst.state.state = .waitingForData)
    (ht : now ≤ d.inst.state.timeNonceValid)
    (hx : d.inst.options.externalConfirmationMode = .notRequired ∨
      d.inst.flags.externalConfirmation = true)
    (hf : d.inst.flags.requestSetWifi = false) :
    ((library L).step (setDataEvent L d now data) d).1 =
      { d with inst := d.inst.setDataDone (plainPkt cmdSetData (bootstrapData data)) } := by
  have h : (bstNetworkInput L now 0 (receivePkt L d.inst cmdSetData (bootstrapData data))
      d.inst).val = d.inst.setDataDone (plainPkt cmdSetData (bootstrapData data)) :=
    networkInput_of_setData (setDataAccepted_receivePkt hm ht hx hf)
  exact congrArg (fun i : Instance ↦ { d with inst := i }) h

theorem bindFits_setDataEvent (hm : d.inst.state.state = .waitingForData) :
    BindFits L ((library L).move d (setDataEvent L d now data)) :=
  bindFits_of_received rfl (received_receivePkt hm) fun hc ↦ by simp [cmdSetData, cmdBind] at hc

end SetData

def sampleOptions : Options :=
  { Options.zero with
    name := .ofChars ['d', 'e', 'v']
    bootstrapSsid := some (.ofChars ['B', 'S', 'T'])
    initialCryptoSecret := some ⟨[1, 2, 3], by decide⟩
    timeoutConnectingStateMs := 1000
    timeoutNonceMs := 100
    retryConnectingToDestinationNetwork := 3 }

theorem sampleOptions_ready : sampleOptions.Ready := ⟨rfl, rfl⟩

/-- With a key for the bootstrap network, which the platform copies. -/
def stationOptions : Options :=
  { sampleOptions with bootstrapKey := some (.ofChars ['k', 'e', 'y']) }

def sampleNonce : List UInt8 := [1, 1, 2, 3, 5, 8, 13, 21]

/-- An app has opened a session at time 1; it ends at time 101. -/
def sampleDevice : Device := greetedDevice lp64 sampleOptions [] 1 sampleNonce 7

def sampleHistory : List LibraryMove := greetingHistory lp64 sampleOptions [] 1 sampleNonce 7

theorem run_sample : (library lp64).Run .off sampleHistory sampleDevice :=
  run_greeting sampleOptions_ready rfl

/-- The sample app binds the device to `key`. -/
def sampleBound (key : List UInt8) : LibraryMove :=
  (library lp64).move sampleDevice (bindEvent lp64 sampleDevice 2 key)

theorem sampleBound_post (hk : key.length ≤ 255) : (sampleBound key).post =
    { sampleDevice with
      inst := sampleDevice.inst.bindDone lp64 (plainPkt cmdBind (bindContent key)) } :=
  step_bindEvent rfl (by decide) rfl hk

theorem bindFits_sampleBound (hk : key.length ≤ bindkeyMaxSize) : BindFits lp64 (sampleBound key) :=
  bindFits_bindEvent rfl hk

def sampleRebound (key : List UInt8) : LibraryMove :=
  (library lp64).move (sampleBound key).post ⟨3, .periodic .connected⟩

theorem run_sampleRebound (key : List UInt8) :
    (library lp64).Run .off (sampleRebound key :: sampleBound key :: sampleHistory)
      (sampleRebound key).post := (run_sample.snoc _).snoc _

/-- The app of the sample session sends `data`; the next two calls of `bst_periodic`
answer the HELLO and execute the SET_DATA. -/
def sampleTold (data : List UInt8) : LibraryMove :=
  (library lp64).move sampleDevice (setDataEvent lp64 sampleDevice 2 data)

def sampleListed (data : List UInt8) : LibraryMove :=
  (library lp64).move (sampleTold data).post ⟨3, .periodic .connected⟩

def sampleExecuted (data : List UInt8) : LibraryMove :=
  (library lp64).move (sampleListed data).post ⟨4, .periodic .connected⟩

def sampleSession (data : List UInt8) : List LibraryMove :=
  sampleExecuted data :: sampleListed data :: sampleTold data :: sampleHistory

theorem run_sampleSession (data : List UInt8) :
    (library lp64).Run .off (sampleSession data) (sampleExecuted data).post :=
  ((run_sample.snoc _).snoc _).snoc _

theorem sampleTold_post (data : List UInt8) : (sampleTold data).post =
    { sampleDevice with
      inst := sampleDevice.inst.setDataDone (plainPkt cmdSetData (bootstrapData data)) } :=
  step_setDataEvent rfl (by decide) (.inl rfl) rfl

theorem sampleListed_post (data : List UInt8) : (sampleListed data).post =
    { (sampleTold data).post with inst.flags.requestWifiList := false } := by
  have hserve : bstPeriodic lp64 3 .connected (sampleTold data).post.inst = _ :=
    bstPeriodic_wifiList lp64 .connected (by rw [sampleTold_post]; exact sampleOptions_ready)
      (by rw [sampleTold_post]; rfl) (by rw [sampleTold_post]; rfl) (by rw [sampleTold_post]; rfl)
  rw [sampleListed, move_post, step_periodic lp64 rfl, hserve]
  rfl

theorem sampleExecuted_executes (data : List UInt8) : ExecutesSetData (sampleExecuted data) := by
  refine ⟨.connected, rfl, ?_, ?_, ?_, ?_, ?_⟩
  all_goals rw [sampleExecuted, move_pre, sampleListed_post, sampleTold_post]
  · exact sampleOptions_ready
  all_goals rfl

theorem forall_mem_sampleSession {P : LibraryMove → Prop} {data : List UInt8}
    (he : P (sampleExecuted data)) (hl : P (sampleListed data)) (ht : P (sampleTold data))
    (hs : ∀ m ∈ sampleHistory, P m) : ∀ m ∈ sampleSession data, P m :=
  List.forall_mem_cons.mpr ⟨he, List.forall_mem_cons.mpr ⟨hl, List.forall_mem_cons.mpr ⟨ht, hs⟩⟩⟩

theorem sampleSession_setupReady (data : List UInt8) : ∀ m ∈ sampleSession data, SetupReady m :=
  forall_mem_sampleSession (setupReady_of_call id) (setupReady_of_call id) (setupReady_of_call id)
    (greeting_setupReady sampleOptions_ready)

theorem sampleSession_bindFits (data : List UInt8) :
    ∀ m ∈ sampleSession data, BindFits lp64 m :=
  forall_mem_sampleSession (bindFits_of_call nofun)
    (bindFits_of_call nofun) (bindFits_setDataEvent rfl)
    (greeting_bindFits sampleOptions_ready)

end BootstrapWifi
