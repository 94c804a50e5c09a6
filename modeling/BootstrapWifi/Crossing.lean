import BootstrapWifi.AppRun
import BootstrapWifi.Stage
import BootstrapWifi.Walk

namespace BootstrapWifi

open Mealy ByteBuffer

variable {L : Layout} {now : Time} {conn : ConnectState} {s : Instance} {d : Device}

/-- Options under which there is time for a HELLO and for a connection. -/
structure Options.Timed (o : Options) : Prop where
  ready : o.Ready
  connecting : 0 < o.timeoutConnectingStateMs
  nonce : 0 ≤ o.timeoutNonceMs

/-- Nothing but an accepted SET_DATA is pending, and no deadline has passed. -/
structure Steered (now : Time) (s : Instance) : Prop where
  options : s.options.Timed
  now_nonneg : 0 ≤ now
  deadline : now < s.state.timeoutConnecting
  factoryReset : s.flags.requestFactoryReset = false
  bind : s.flags.requestBind = false
  wifiList : s.flags.requestWifiList = false

theorem Steered.polls (hs : Steered now s) (hw : s.flags.requestSetWifi = false) : s.Polls :=
  ⟨hs.options.ready, hs.factoryReset, hs.bind, hs.wifiList, hw⟩

theorem lt_nextDeadline {o : Options} (ho : o.Timed) (t : Time) : t < o.nextDeadline t :=
  lt_add_of_pos_right t ho.connecting

/-- Calls at time `t` lead from `d` straight to the stage `p`. -/
def Crosses (L : Layout) (t : Time) (d : Device) (p : Stage) : Prop :=
  ∃ h u, (library L).Run d h u ∧ (∀ m ∈ h, m.input.now = t ∧ Undisturbed L m) ∧
    Steered t u.inst ∧ stages Device.stage d h = [p, d.stage]

section Crossing

variable {t : Time} {p : Stage}

theorem Crosses.of_call (call : Call) (hm : Undisturbed L ((library L).move d ⟨t, call⟩))
    (hs : Steered t ((library L).step ⟨t, call⟩ d).1.inst)
    (hp : ((library L).step ⟨t, call⟩ d).1.stage = p) (hne : p ≠ d.stage) : Crosses L t d p := by
  refine ⟨_, _, Machine.Run.nil.snoc ⟨t, call⟩, List.forall_mem_singleton.mpr ⟨rfl, hm⟩, hs, ?_⟩
  have hne' : ((library L).move d ⟨t, call⟩).post.stage ≠
      ((library L).move d ⟨t, call⟩).pre.stage := by
    rw [move_post, move_pre, hp]
    exact hne
  rw [stages_cons_of_ne hne', move_post, hp]
  rfl

/-- A call that leaves the stage alone may come first. -/
theorem Crosses.after (call : Call) {s' : Instance}
    (hstep : ((library L).step ⟨t, call⟩ d).1.inst = s')
    (hm : Undisturbed L ((library L).move d ⟨t, call⟩)) (hq : s'.stage = d.stage)
    (h : ∀ d' : Device, d'.inst = s' → Crosses L t d' p) : Crosses L t d p := by
  obtain ⟨h', u, r, hall, hs, hst⟩ := h _ hstep
  have hq' : ((library L).move d ⟨t, call⟩).post.stage =
      ((library L).move d ⟨t, call⟩).pre.stage := by
    rw [move_post, move_pre, Device.stage, hstep, hq]
  refine ⟨h' ++ [(library L).move d ⟨t, call⟩], u, (Machine.Run.nil.snoc _).append r,
    fun m hmem ↦ ?_, hs, ?_⟩
  · rcases List.mem_append.mp hmem with hmem | hmem
    · exact hall m hmem
    · rw [List.mem_singleton.mp hmem]
      exact ⟨rfl, hm⟩
  · rw [stages_append _ _ ((library L).step ⟨t, call⟩ d).1, hst, stages_cons_of_eq hq']
    rfl

theorem undisturbed_of_call {call : Call} (hs : ¬ call.IsSetup)
    (hc : ∀ data random, call ≠ .networkInput data random) :
    Undisturbed L ((library L).move d ⟨t, call⟩) := ⟨hs, bindFits_of_call hc⟩

theorem Steered.polled (hs : Steered now s) (ht : now ≤ t)
    (hd : t < (poll t conn s).1.state.timeoutConnecting) : Steered t (poll t conn s).1 := by
  have hkept : (poll t conn s).1.options = s.options ∧
      ((poll t conn s).1.flags = s.flags ∨ (poll t conn s).1.flags = .zero) := by
    have heff := poll_effect t conn s
    generalize poll t conn s = r at heff
    cases heff with
    | stay hd => exact ⟨hd.options, .inl hd.flags⟩
    | bootstrapped hd => exact ⟨hd.options, .inr rfl⟩
    | fellBack hd => exact ⟨hd.options, .inr rfl⟩
  obtain ⟨hopt, hflags⟩ := hkept
  refine ⟨hopt ▸ hs.options, hs.now_nonneg.trans ht, hd, ?_, ?_, ?_⟩
  all_goals rcases hflags with hf | hf <;> rw [hf]
  · exact hs.factoryReset
  · rfl
  · exact hs.bind
  · rfl
  · exact hs.wifiList
  · rfl

/-- A poll that changes the mode. -/
theorem Steered.crosses (conn : ConnectState) (hs : Steered now d.inst) (ht : now ≤ t)
    (hw : d.inst.flags.requestSetWifi = false)
    (hd : t < (poll t conn d.inst).1.state.timeoutConnecting)
    (hp : (poll t conn d.inst).1.state.state = p.mode) (hssid : d.inst.ssid.isSome = p.ssid)
    (ha : p.accepted = false) (hne : p ≠ d.stage) : Crosses L t d p := by
  have heff := poll_effect t conn d.inst
  have hstep : ((library L).step ⟨t, .periodic conn⟩ d).1.inst = (poll t conn d.inst).1 := by
    rw [step_periodic L rfl, Device.after_inst, (hs.polls hw).periodic]
  refine .of_call (.periodic conn) (undisturbed_of_call id nofun) ?_ ?_ hne
  · rw [hstep]
    exact hs.polled ht hd
  · rw [Device.stage, hstep, Instance.stage, hp, heff.ssid, hssid, heff.requestSetWifi hw, ← ha]

end Crossing

/-- A HELLO renews the session and leaves the connection alone. -/
theorem helloDone_greeted (s : Instance) (now : Time) (random : UInt64) (pkt : List UInt8) :
    ∃ st : InnerState, st.state = s.state.state ∧
      st.timeoutConnecting = s.state.timeoutConnecting ∧
      st.timeNonceValid = s.options.timeoutNonceMs + now ∧
      s.helloDone now random pkt = { s with state := st, flags.requestWifiList := true } := by
  refine ⟨(s.helloDone now random pkt).state, ?_⟩
  unfold Instance.helloDone
  split <;> exact ⟨rfl, rfl, rfl, rfl⟩

theorem poll_online {t : Time} (hm : s.state.state = .connectingToBootstrap)
    (hd : t < s.state.timeoutConnecting) :
    (poll t .connected s).1 = { s with state.state := .waitingForData } := by
  have hpoll : (poll t .connected s).1 =
      (pollWaitingForData t .connected { s with state.state := .waitingForData }).1 := by
    rw [poll, hm]
    rfl
  rw [hpoll, pollWaitingForData_connected]
  exact congrArg Prod.fst (if_pos hd)

theorem poll_offline (t : Time) (hm : s.state.state = .waitingForData) :
    poll t .noConnection s = ({ s with state.state := .connectingToBootstrap }, []) := by
  rw [poll, hm]
  exact pollWaitingForData_lost (by decide)

theorem poll_dissociate (t : Time) (hm : s.state.state = .destinationConnected) :
    poll t .noConnection s = ({ s with state.state := .connectingToDest }, []) := by
  rw [poll, hm]
  rfl

theorem poll_giveUp {t : Time} (hm : s.state.state.isBootstrap = true) (hssid : s.ssid.isSome)
    (hd : s.state.timeoutConnecting ≤ t) (hv : s.state.timeNonceValid < t) :
    (poll t .connected s).1.link = s.options.newLink .connectingToDest t := by
  have hpoll : (poll t .connected s).1 =
      (pollWaitingForData t .connected { s with state.state := .waitingForData }).1 := by
    rcases BstState.isBootstrap_iff.mp hm with hm | hm
    · rw [poll, hm]
      rfl
    · have hs : { s with state.state := .waitingForData } = s := by
        rw [← hm]
      rw [hs, poll, hm]
  rw [hpoll, pollWaitingForData_connected, if_neg (not_lt.mpr hd), if_pos ⟨hssid, hv⟩]
  rfl

theorem poll_associate {t : Time} (ho : s.options.Timed) (ht : 0 ≤ t)
    (hm : s.state.state = .connectingToDest) (hd : t < s.state.timeoutConnecting) :
    (poll t .connected s).1.state.state = .destinationConnected ∧
      t < (poll t .connected s).1.state.timeoutConnecting := by
  have hlink := poll_link t .connected s
  have hnext := lt_nextDeadline ho t
  rw [← Instance.link_mode, ← Instance.link_deadline]
  generalize (poll t .connected s).1.link = l, (poll t .connected s).2 = acts at hlink
  cases hlink with
  | associated => exact ⟨rfl, hd⟩
  | associatedTry => exact ⟨rfl, hnext⟩
  | associatedAdvanced _ _ _ hneg => exact absurd (hneg rfl) (not_lt.mpr ht)
  | _ => simp_all [ConnectState.isConnected, ConnectState.isLost, ConnectState.isFailure,
      BstState.isBootstrap]

theorem poll_fallBack {t : Time} (hm : s.state.state.isDestination = true)
    (hd : t ≤ s.state.timeoutConnecting) :
    (poll t .failedSsidNotFound s).1.link = s.options.newLink .connectingToBootstrap t := by
  have hpoll : poll t .failedSsidNotFound s =
      fallBack t .errorWifiNotFound errFailedWifiNotFound s := by
    rcases BstState.isDestination_iff.mp hm with hm | hm
    · rw [poll, hm]
      exact if_neg (not_lt.mpr hd)
    · rw [poll, hm]
      rfl
  rw [hpoll]
  rfl

/-- Data with or without an ssid. -/
def dataWith (ssid : Bool) : List UInt8 := if ssid then [97] else []

theorem setDataDone_dataWith (s : Instance) (ssid : Bool) :
    (s.setDataDone (plainPkt cmdSetData (bootstrapData (dataWith ssid)))).ssid.isSome = ssid := by
  rw [Instance.setDataDone, content_plainPkt]
  change (prvAssignData (bootstrapData (dataWith ssid)) s).ssid.isSome = ssid
  rw [prvAssignData_ssid, assignedStorage_head, bootstrapData_head]
  cases ssid <;> rfl

/-- A device that would accept a SET_DATA now; it may still be about to ask for networks. -/
structure Listening (now : Time) (s : Instance) : Prop where
  steered : Steered now { s with flags.requestWifiList := false }
  waiting : s.state.state = .waitingForData
  setWifi : s.flags.requestSetWifi = false
  confirmed : s.flags.externalConfirmation = true
  inTime : now ≤ s.state.timeNonceValid

theorem Listening.crosses (h : Listening now d.inst) (hl : d.inst.flags.requestWifiList = false)
    (ssid : Bool) : Crosses L now d ⟨.waitingForData, ssid, true⟩ := by
  have hstep : ((library L).step (setDataEvent L d now (dataWith ssid)) d).1.inst =
      d.inst.setDataDone (plainPkt cmdSetData (bootstrapData (dataWith ssid))) :=
    congrArg Device.inst (step_setDataEvent h.waiting h.inTime (.inr h.confirmed) h.setWifi)
  have hs := h.steered
  refine .of_call (setDataEvent L d now (dataWith ssid)).call
    ⟨id, bindFits_setDataEvent h.waiting⟩ ?_ ?_ fun he ↦ ?_
  · change Steered now ((library L).step (setDataEvent L d now (dataWith ssid)) d).1.inst
    rw [hstep]
    exact ⟨hs.options, hs.now_nonneg, hs.deadline, hs.factoryReset, hs.bind, hl⟩
  · change ((library L).step (setDataEvent L d now (dataWith ssid)) d).1.inst.stage = _
    rw [hstep, Instance.stage, setDataDone_dataWith]
    exact congrArg (fun mode ↦ Stage.mk mode ssid true) h.waiting
  · have ha : true = d.inst.flags.requestSetWifi := congrArg Stage.accepted he
    rw [h.setWifi] at ha
    cases ha

/-- The list that the app has asked for comes first. -/
theorem Listening.crosses_list (h : Listening now d.inst)
    (hl : d.inst.flags.requestWifiList = true) (ssid : Bool) :
    Crosses L now d ⟨.waitingForData, ssid, true⟩ := by
  have hstep : ((library L).step ⟨now, .periodic .connected⟩ d).1.inst =
      { d.inst with flags.requestWifiList := false } := by
    have hready : d.inst.options.Ready := h.steered.options.ready
    rw [step_periodic L rfl, Device.after_inst,
      bstPeriodic_wifiList L .connected hready h.steered.factoryReset h.steered.bind hl]
  refine .after (.periodic .connected) hstep (undisturbed_of_call id nofun) rfl
    fun d' hd' ↦ ?_
  have h' : Listening now d'.inst := by
    rw [hd']
    exact ⟨h.steered, h.waiting, h.setWifi, h.confirmed, h.inTime⟩
  exact h'.crosses (by rw [hd']) ssid

theorem crosses_hello (hs : Steered now d.inst) (hm : d.inst.state.state = .waitingForData)
    (hw : d.inst.flags.requestSetWifi = false) (hc : d.inst.flags.externalConfirmation = true)
    (ssid : Bool) : Crosses L now d ⟨.waitingForData, ssid, true⟩ := by
  have hacc : HelloAccepted L now (receivePkt L d.inst cmdHello d.inst.state.prvAppNonce.bytes)
      (plainPkt cmdHello d.inst.state.prvAppNonce.bytes) d.inst :=
    helloAccepted_receivePkt hm d.inst.state.prvAppNonce.length_bytes (.inr rfl)
  obtain ⟨st, hst, hdeadline, hvalid, hdone⟩ := helloDone_greeted d.inst now 0
    (plainPkt cmdHello d.inst.state.prvAppNonce.bytes)
  have hstep : ((library L).step ⟨now, .networkInput (receivePkt L d.inst cmdHello
      d.inst.state.prvAppNonce.bytes) 0⟩ d).1.inst =
      { d.inst with state := st, flags.requestWifiList := true } := by
    rw [step_networkInput L rfl, Device.after_inst, networkInput_of_hello hacc, hdone]
  have hstage : ({ d.inst with state := st, flags.requestWifiList := true } : Instance).stage =
      d.inst.stage := congrArg (fun mode ↦ Stage.mk mode d.inst.ssid.isSome _) hst
  refine .after (.networkInput _ 0) hstep ⟨id, ?_⟩ hstage fun d' hd' ↦ ?_
  · exact bindFits_of_received rfl (received_receivePkt hm) fun hc ↦ by
      simp [cmdHello, cmdBind] at hc
  · have h : Listening now d'.inst := by
      rw [hd']
      refine ⟨⟨hs.options, hs.now_nonneg, ?_, hs.factoryReset, hs.bind, rfl⟩, hst.trans hm, hw, hc,
        ?_⟩
      · exact hdeadline ▸ hs.deadline
      · exact hvalid ▸ le_add_of_nonneg_left hs.options.nonce
    exact h.crosses_list (by rw [hd']) ssid

/-- An app says HELLO and sends its data as soon as the user has confirmed it. -/
theorem crosses_accept (hs : Steered now d.inst) (hm : d.inst.state.state = .waitingForData)
    (hw : d.inst.flags.requestSetWifi = false) (ssid : Bool) :
    Crosses L now d ⟨.waitingForData, ssid, true⟩ := by
  have hstep : ((library L).step ⟨now, .confirmBootstrap⟩ d).1.inst =
      bstConfirmBootstrap d.inst := rfl
  refine .after .confirmBootstrap hstep (undisturbed_of_call id nofun) rfl fun d' hd' ↦ ?_
  refine crosses_hello ?_ ?_ ?_ ?_ ssid
  all_goals rw [hd']
  · exact ⟨hs.options, hs.now_nonneg, hs.deadline, hs.factoryReset, hs.bind, hs.wifiList⟩
  · exact hm
  · exact hw
  · rfl

theorem crosses_execute (hs : Steered now d.inst) (hw : d.inst.flags.requestSetWifi = true) :
    Crosses L now d ⟨.connectingToDest, d.inst.ssid.isSome, false⟩ := by
  have hstep : ((library L).step ⟨now, .periodic .connected⟩ d).1.inst =
      (serveSetWifi now d.inst).1 := by
    rw [step_periodic L rfl, Device.after_inst,
      bstPeriodic_setWifi L .connected hs.options.ready hs.factoryReset hs.bind hs.wifiList hw]
  refine .of_call (.periodic .connected) (undisturbed_of_call id nofun) ?_ ?_ fun he ↦ ?_
  · rw [hstep]
    exact ⟨hs.options, hs.now_nonneg, lt_nextDeadline hs.options now, rfl, rfl, rfl⟩
  · rw [Device.stage, hstep]
    rfl
  · have ha : false = d.inst.flags.requestSetWifi := congrArg Stage.accepted he
    rw [hw] at ha
    cases ha

theorem crosses_factoryReset (hs : Steered now d.inst) (hne : d.stage ≠ .fresh) :
    Crosses L now d .fresh := by
  have hreset : ((library L).step ⟨now, .factoryReset⟩ d).1.inst = bstFactoryReset d.inst := rfl
  refine .after .factoryReset hreset (undisturbed_of_call id nofun) rfl fun d' hd' ↦ ?_
  have hready : d'.inst.options.Ready := by
    rw [hd']
    exact hs.options.ready
  have hstep : ((library L).step ⟨now, .periodic .connected⟩ d').1.inst =
      (prvEnterWaitForBootstrapMode now .ok none (loaded L d'.inst.options [] [])).1 := by
    rw [step_periodic L rfl, Device.after_inst,
      bstPeriodic_factoryReset L .connected hready (by rw [hd']; rfl),
      serveFactoryReset_eq L hready]
  have hopt : (loaded L d'.inst.options [] []).options = d.inst.options := by
    rw [loaded_options, hd']
    rfl
  refine .of_call (.periodic .connected) (undisturbed_of_call id nofun) ?_ ?_ fun he ↦ ?_
  · rw [hstep]
    refine ⟨?_, hs.now_nonneg, ?_, rfl, rfl, rfl⟩
    · change (loaded L d'.inst.options [] []).options.Timed
      exact hopt ▸ hs.options
    · change now < (loaded L d'.inst.options [] []).options.nextDeadline now
      exact lt_nextDeadline (hopt ▸ hs.options) now
  · rw [Device.stage, hstep]
    change Stage.mk _ (loaded L d'.inst.options [] []).ssid.isSome _ = _
    rw [loaded_ssid_nil]
    rfl
  · refine hne ?_
    rw [he, Device.stage, Device.stage, hd']
    rfl

/-- Every edge can be followed from wherever it starts, if need be after some waiting. -/
theorem edge_crossed {p : Stage} (hs : Steered now d.inst) (hedge : StageEdge d.stage p) :
    ∃ t, now ≤ t ∧ Crosses L t d p := by
  have hne := hedge.ne
  generalize hq : d.stage = q at hedge
  have hmode : d.inst.state.state = q.mode := congrArg Stage.mode hq
  have hssid : d.inst.ssid.isSome = q.ssid := congrArg Stage.ssid hq
  have hset : d.inst.flags.requestSetWifi = q.accepted := congrArg Stage.accepted hq
  cases hedge with
  | online ssid =>
    have hp := poll_online hmode hs.deadline
    refine ⟨now, le_rfl, hs.crosses .connected le_rfl hset ?_ ?_ hssid rfl hne⟩
    · rw [hp]
      exact hs.deadline
    · rw [hp]
  | offline ssid =>
    have hp := poll_offline now hmode
    refine ⟨now, le_rfl, hs.crosses .noConnection le_rfl hset ?_ ?_ hssid rfl hne⟩
    · rw [hp]
      exact hs.deadline
    · rw [hp]
  | giveUp hb =>
    -- the device gives up once the deadline and the session are over
    obtain ⟨t, hd, hv⟩ :
        ∃ t, d.inst.state.timeoutConnecting ≤ t ∧ d.inst.state.timeNonceValid < t :=
      ⟨max d.inst.state.timeoutConnecting (d.inst.state.timeNonceValid + 1), le_max_left _ _,
        Int.lt_of_lt_of_le (Int.lt_succ _) (le_max_right _ _)⟩
    have ht : now ≤ t := hs.deadline.le.trans hd
    have hlink := poll_giveUp (hmode ▸ hb) hssid hd hv
    refine ⟨t, ht, hs.crosses .connected ht hset ?_ ?_ hssid rfl hne⟩
    · rw [← Instance.link_deadline, hlink]
      exact lt_nextDeadline hs.options _
    · rw [← Instance.link_mode, hlink]
      rfl
  | accept ssid ssid' => exact ⟨now, le_rfl, crosses_accept hs hmode hset ssid'⟩
  | execute ssid =>
    have hc := crosses_execute (L := L) hs hset
    rw [hssid] at hc
    exact ⟨now, le_rfl, hc⟩
  | associate ssid =>
    obtain ⟨hm, hd⟩ := poll_associate hs.options hs.now_nonneg hmode hs.deadline
    exact ⟨now, le_rfl, hs.crosses .connected le_rfl hset hd hm hssid rfl hne⟩
  | dissociate ssid =>
    have hp := poll_dissociate now hmode
    refine ⟨now, le_rfl, hs.crosses .noConnection le_rfl hset ?_ ?_ hssid rfl hne⟩
    · rw [hp]
      exact hs.deadline
    · rw [hp]
  | fallBack ssid hd =>
    have hlink := poll_fallBack (hmode ▸ hd) hs.deadline.le
    refine ⟨now, le_rfl, hs.crosses .failedSsidNotFound le_rfl hset ?_ ?_ hssid rfl hne⟩
    · rw [← Instance.link_deadline, hlink]
      exact lt_nextDeadline hs.options _
    · rw [← Instance.link_mode, hlink]
      rfl
  | factoryReset hf => exact ⟨now, le_rfl, crosses_factoryReset hs (hq ▸ hf)⟩

end BootstrapWifi
