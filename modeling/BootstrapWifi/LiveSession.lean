import BootstrapWifi.SessionGate

namespace BootstrapWifi

open Mealy

variable {L : Layout} {now : Time} {conn : ConnectState} {random : UInt64} {data : List UInt8}
  {s t : Instance} {d : Device} {e : Event} {m : LibraryMove} {h : List LibraryMove}

/-- The device is in a bootstrap mode with a session that has not run out, and nothing is
pending that takes it elsewhere. -/
structure Live (now : Time) (s : Instance) : Prop where
  mode : s.state.state.isBootstrap = true
  opened : s.state.timeNonceValid ≠ 0
  valid : now ≤ s.state.timeNonceValid
  factoryReset : s.flags.requestFactoryReset = false
  setWifi : s.flags.requestSetWifi = false

/-- A device that waits for data or has a session is set up completely. -/
def SessionReady (s : Instance) : Prop :=
  s.state.state = .waitingForData ∨ s.state.timeNonceValid ≠ 0 → s.options.Ready

def AcceptsSetData (L : Layout) (m : LibraryMove) : Prop :=
  ∃ data random pkt, m.input.call = .networkInput data random ∧
    SetDataAccepted L m.input.now data pkt m.pre.inst

/-- `bst_periodic` leaves the bootstrap network for the destination network. -/
def LeavesForDestination (m : LibraryMove) : Prop :=
  (∃ conn, m.input.call = .periodic conn) ∧ m.pre.inst.state.state = .waitingForData ∧
    m.post.inst.state.state.isDestination = true

/-- An ssid is stored, the deadline has passed, and no session is valid. -/
structure WaitedInVain (now : Time) (s : Instance) : Prop where
  stored : s.ssid.isSome
  deadline : s.state.timeoutConnecting ≤ now
  session : s.state.timeNonceValid < now

theorem pollWaitingForData_live (hm : s.state.state = .waitingForData)
    (hv : now ≤ s.state.timeNonceValid) :
    SameSession s (pollWaitingForData now .connected s).1 ∧
      (pollWaitingForData now .connected s).1.state.state = .waitingForData := by
  rw [pollWaitingForData_connected]
  split
  · exact ⟨.refl s, hm⟩
  · rw [if_neg fun h ↦ absurd h.2 (not_lt.mpr hv)]
    exact ⟨⟨rfl, rfl, rfl⟩, hm⟩

theorem Live.poll (hl : Live now s) : SameSession s (poll now .connected s).1 ∧
    (poll now .connected s).1.state.state = .waitingForData := by
  have hmode := hl.mode
  cases hm : s.state.state with
  | connectingToBootstrap =>
    have hw : SameSession { s with state.state := .waitingForData }
        (pollWaitingForData now .connected { s with state.state := .waitingForData }).1 ∧ _ :=
      pollWaitingForData_live rfl hl.valid
    unfold BootstrapWifi.poll
    rw [hm]
    exact ⟨⟨hw.1.timeNonceValid, hw.1.prvAppNonce, hw.1.prvDeviceNonce⟩, hw.2⟩
  | waitingForData =>
    unfold BootstrapWifi.poll
    rw [hm]
    exact pollWaitingForData_live hm hl.valid
  | _ =>
    rw [hm] at hmode
    cases hmode

/-- A call of `bst_periodic` on the bootstrap network leaves a live session alone. -/
theorem Live.periodic (hl : Live now s) (ho : s.options.Ready) :
    SameSession s (bstPeriodic L now .connected s).1 ∧
      (s.flags.requestBind = false → s.flags.requestWifiList = false →
        (bstPeriodic L now .connected s).1.state.state = .waitingForData) := by
  cases hb : s.flags.requestBind with
  | true =>
    rw [bstPeriodic_bind L .connected ho hl.factoryReset hb]
    exact ⟨⟨rfl, rfl, rfl⟩, fun h ↦ by cases h⟩
  | false =>
    cases hw : s.flags.requestWifiList with
    | true =>
      rw [bstPeriodic_wifiList L .connected ho hl.factoryReset hb hw]
      exact ⟨⟨rfl, rfl, rfl⟩, fun _ h ↦ by cases h⟩
    | false =>
      have hpolls : s.Polls := ⟨ho, hl.factoryReset, hb, hw, hl.setWifi⟩
      rw [hpolls.periodic L]
      exact ⟨hl.poll.1, fun _ _ ↦ hl.poll.2⟩

theorem bstSetup_not_waiting {o : Options} {key : List UInt8} (ho : SetupContained o data key) :
    (bstSetup L now o data key).1.state.state ≠ .waitingForData := by
  have heff := bstSetup_effect L now o data key
  generalize bstSetup L now o data key = r at heff
  intro hm
  cases heff with
  | bootstrapped => cases hm
  | waiting => cases hm
  | idle hs hn =>
    rw [(loaded_of_idle L ho hs hn).1] at hm
    cases hm

theorem InputEffect.sessionReady (heff : InputEffect L now random data s t)
    (hs : SessionReady s) : SessionReady t := by
  have received {pkt : List UInt8} {u : Instance} (hr : Received L data pkt s)
      (ho : u.options = s.options) : SessionReady u := by
    intro _
    rw [ho]
    exact hs (.inl hr.1)
  have hopt := heff.options
  cases heff with
  | ignored => exact hs
  | expired =>
    intro hcase
    rcases hcase with hm | ht
    · exact hs (.inl hm)
    · exact absurd rfl ht
  | hello pkt hh => exact received hh.1 hopt
  | bind pkt hb => exact received hb.1 hopt
  | setData pkt hd => exact received hd.1 hopt

theorem SessionReady.step (hd : SessionReady d.inst) (hfit : SetupFits ((library L).move d e)) :
    SessionReady ((library L).step e d).1.inst := by
  obtain ⟨now, call⟩ := e
  cases call with
  | setup o data key =>
    have ho := hfit o data key rfl
    intro hcase
    rcases hcase with hm | ht
    · exact absurd hm (bstSetup_not_waiting ho)
    · exact absurd (bstSetup_cleared L now data key ho).2 ht
  | periodic conn =>
    rw [step_periodic L rfl]
    by_cases ho : d.inst.options.Ready
    · intro _
      rw [Device.after_inst, (bstPeriodic_effect L now conn d.inst).options]
      exact ho
    · rw [bstPeriodic_off L conn ho]
      exact hd
  | networkInput data random => exact (networkInput_effect L now random data d.inst).sessionReady hd
  | _ => exact hd

theorem sessionReady_of_run (r : (library L).Run .off h d) (hfit : ∀ m ∈ h, SetupFits m) :
    SessionReady d.inst := by
  refine r.invariant (P := fun d ↦ SessionReady d.inst) (G := SetupFits) (fun hcase ↦ ?_)
    (fun _ _ ht hg ↦ ht.step hg) hfit
  rcases hcase with hm | ht
  · cases hm
  · exact absurd rfl ht

theorem pollWaitingForData_leaves (hm : s.state.state = .waitingForData)
    (hdest : (pollWaitingForData now conn s).1.state.state.isDestination = true) :
    WaitedInVain now s := by
  have stays {u : Instance} (hu : u.state.state = s.state.state) :
      u.state.state.isDestination ≠ true := by
    rw [hu, hm]
    exact Bool.false_ne_true
  by_cases hconn : conn = .connected
  · rw [hconn, pollWaitingForData_connected] at hdest
    split at hdest
    · exact absurd hdest (stays rfl)
    next hdeadline =>
      split at hdest
      next hgo => exact ⟨hgo.1, not_lt.mp hdeadline, hgo.2⟩
      next => exact absurd hdest (stays rfl)
  · rw [pollWaitingForData_lost hconn] at hdest
    cases hdest

theorem periodic_leaves (hm : s.state.state = .waitingForData)
    (hdest : (bstPeriodic L now conn s).1.state.state.isDestination = true) :
    (s.options.Ready ∧ s.flags.requestFactoryReset = false ∧ s.flags.requestBind = false ∧
      s.flags.requestWifiList = false ∧ s.flags.requestSetWifi = true) ∨ WaitedInVain now s := by
  have hstay : s.state.state.isDestination ≠ true := by
    rw [hm]
    exact Bool.false_ne_true
  have heff := bstPeriodic_effect L now conn s
  have hpoll (h : s.Polls) : bstPeriodic L now conn s = poll now conn s := h.periodic L
  generalize bstPeriodic L now conn s = r at heff hpoll hdest
  cases heff with
  | off => exact absurd hdest hstay
  | factoryReset ho =>
    rw [serveFactoryReset_eq L ho] at hdest
    cases hdest
  | bind => exact absurd hdest hstay
  | wifiList => exact absurd hdest hstay
  | setWifi ho hf hb hl hw => exact .inl ⟨ho, hf, hb, hl, hw⟩
  | poll ho hf hb hl hw =>
    rw [hpoll ⟨ho, hf, hb, hl, hw⟩, poll, hm] at hdest
    exact .inr (pollWaitingForData_leaves hm hdest)

/-- The request of a SET_DATA is that of a packet accepted since the last reset. -/
def SetDataFounded (L : Layout) (h : List LibraryMove) (d : Device) : Prop :=
  d.inst.flags.requestSetWifi = true → Since (fun m ↦ ¬ Resets m) (AcceptsSetData L) h

theorem InputEffect.setData_accepted (heff : InputEffect L now random data s t)
    (hfit : ∀ pkt, BindAccepted L now data pkt s → (newBindKeyLen pkt).toNat ≤ bindkeyMaxSize)
    (ht : t.flags.requestSetWifi = true) :
    s.flags.requestSetWifi = true ∨ ∃ pkt, SetDataAccepted L now data pkt s := by
  cases heff with
  | ignored => exact .inl ht
  | expired => exact .inl ht
  | hello pkt =>
    obtain ⟨_, -, hs⟩ := helloDone_frame s now random pkt
    rw [hs] at ht
    exact .inl ht
  | bind pkt hb =>
    rw [bindDone_of_le (hfit pkt hb)] at ht
    exact .inl ht
  | setData pkt hd => exact .inr ⟨pkt, hd⟩

theorem SetDataFounded.step (hd : SetDataFounded L h d)
    (hfit : Contained L ((library L).move d e)) :
    SetDataFounded L ((library L).move d e :: h) ((library L).step e d).1 := by
  refine flag_founded_step L rfl hfit.1 hd fun hr hset ↦ ?_
  cases moveEffect L d e hfit.1 with
  | reset hreset => exact absurd hreset hr
  | input data random hc _ he =>
    rcases he.setData_accepted (fun pkt ↦ hfit.2 data random pkt hc) hset with hpre | ⟨pkt, hp⟩
    · exact .inl hpre
    · exact .inr ⟨data, random, pkt, hc, hp⟩
  | quiet _ _ _ _ hsame => exact .inl (hsame ▸ hset)

theorem setDataFounded_of_run (r : (library L).Run .off h d) (hfit : ∀ m ∈ h, Contained L m) :
    SetDataFounded L h d :=
  r.moves_invariant (P := SetDataFounded L) (G := Contained L) (fun hset ↦ by cases hset)
    (fun _ _ _ hp hfit ↦ hp.step hfit) hfit

/-- As long as no byte is written behind the secret, a live session is not dropped, and
`bst_periodic` leaves the bootstrap network only for an accepted SET_DATA or after it has
waited in vain. -/
theorem live_session_kept (r : (library L).Run .off h d) (hfit : ∀ m ∈ h, Contained L m) :
    (∀ now, Live now d.inst → SameSession d.inst (bstPeriodic L now .connected d.inst).1 ∧
      (d.inst.flags.requestBind = false → d.inst.flags.requestWifiList = false →
        (bstPeriodic L now .connected d.inst).1.state.state = .waitingForData)) ∧
    ∀ later m earlier, h = later ++ m :: earlier → LeavesForDestination m →
      (ExecutesSetData m ∧ Since (fun x ↦ ¬ Resets x) (AcceptsSetData L) earlier) ∨
        WaitedInVain m.input.now m.pre.inst := by
  constructor
  · intro now hl
    exact hl.periodic (sessionReady_of_run r (fun m hm ↦ (hfit m hm).1) (.inr hl.opened))
  · intro later m earlier hh hleaves
    subst hh
    obtain ⟨hr, hm, -⟩ := r.split
    have hfounded := setDataFounded_of_run hr fun x hx ↦ hfit x (by simp [hx])
    obtain ⟨⟨conn, hc⟩, hmode, hdest⟩ := hleaves
    rw [hm, move_post, step_periodic L hc, Device.after_inst] at hdest
    rcases periodic_leaves hmode hdest with ⟨ho, hf, hb, hl, hw⟩ | hvain
    · exact .inl ⟨⟨conn, hc, ho, hf, hb, hl, hw⟩, hfounded hw⟩
    · exact .inr hvain

theorem live_sampleDevice : Live 2 sampleDevice.inst :=
  ⟨rfl, by decide, by decide, rfl, rfl⟩

theorem sample_live_session_kept :
    SameSession sampleDevice.inst (bstPeriodic lp64 2 .connected sampleDevice.inst).1 :=
  ((live_session_kept run_sample (contained_greeting sampleOptions_ready)).1 2
    live_sampleDevice).1

theorem not_acceptsSetData_of_received {pkt : List UInt8}
    (hc : m.input.call = .networkInput data random) (hr : Received L data pkt m.pre.inst)
    (hcmd : command pkt ≠ cmdSetData) : ¬ AcceptsSetData L m := by
  intro ha
  obtain ⟨data', random', pkt', hc', hacc⟩ := ha
  rw [hc] at hc'
  cases hc'
  rw [hr.unique hacc.1] at hcmd
  exact hcmd hacc.2.1

theorem not_acceptsSetData_of_call (hc : ∀ data random, m.input.call ≠ .networkInput data random) :
    ¬ AcceptsSetData L m := by
  intro ha
  obtain ⟨data, random, -, h, -⟩ := ha
  exact hc data random h

theorem greeting_not_acceptsSetData {o : Options} {key appNonce : List UInt8} {t : Time}
    (ho : o.Ready) :
    ∀ m ∈ greetingHistory L o key t appNonce random, ¬ AcceptsSetData L m := by
  simp only [greetingHistory, greeting, Machine.exec, step_setup_nil ho.1, step_connected ho,
    List.nil_append, List.cons_append]
  intro m hm
  simp only [List.mem_cons, List.not_mem_nil, or_false] at hm
  have hello : Received L (receivePkt L (onlineInstance L o key t) cmdHello appNonce)
      (plainPkt cmdHello appNonce) (onlineInstance L o key t) := received_receivePkt rfl
  rcases hm with rfl | rfl | rfl
  · exact not_acceptsSetData_of_received rfl hello (by simp [cmdHello, cmdSetData])
  · exact not_acceptsSetData_of_call (by simp)
  · exact not_acceptsSetData_of_call (by simp)

def setWifiFlags : Flags := ⟨false, true, false, false, false⟩

/-- The app of the sample session sends no SET_DATA but a BIND whose key leaves one pending. -/
def forgedRequest : LibraryMove :=
  (library lp64).move sampleDevice
    (bindEvent lp64 sampleDevice 2 (forgedKey forgedState setWifiFlags))

def forgedAnswer : LibraryMove :=
  (library lp64).move forgedRequest.post ⟨3, .periodic .connected⟩

def forgedLeave : LibraryMove := (library lp64).move forgedAnswer.post ⟨4, .periodic .connected⟩

theorem forgedRequest_post : forgedRequest.post =
    { sampleDevice with
      inst.cryptoSecret := sampleDevice.inst.cryptoSecret.write (forgedKey forgedState setWifiFlags)
      inst.cryptoSecretLen := 97
      inst.state := forgedState
      inst.flags := { setWifiFlags with requestBind := true }
      inst.padding := sampleDevice.inst.padding.write (List.replicate 7 0) } :=
  step_forgedBind setWifiFlags rfl (by decide) rfl rfl (by decide) (by decide)

theorem forgedAnswer_post : forgedAnswer.post.inst.state = forgedState ∧
    forgedAnswer.post.inst.flags = setWifiFlags ∧
    forgedAnswer.post.inst.options = sampleOptions ∧ forgedAnswer.post.inst.ssid = none := by
  have hready : forgedRequest.post.inst.options.Ready := by
    rw [forgedRequest_post]
    exact sampleOptions_ready
  have hstep : forgedAnswer.post =
      (forgedRequest.post.after (serveBind lp64 forgedRequest.post.inst)).1 := by
    rw [forgedAnswer, move_post, step_periodic lp64 rfl,
      bstPeriodic_bind lp64 .connected hready (by rw [forgedRequest_post]; rfl)
        (by rw [forgedRequest_post])]
  rw [hstep, forgedRequest_post]
  exact ⟨rfl, rfl, rfl, rfl⟩

theorem forgedLeave_executes : ExecutesSetData forgedLeave := by
  obtain ⟨-, hflags, hopt, -⟩ := forgedAnswer_post
  refine ⟨.connected, rfl, ?_⟩
  rw [forgedLeave, move_pre, hflags, hopt]
  exact ⟨sampleOptions_ready, rfl, rfl, rfl, rfl⟩

/-- Without any SET_DATA, with no ssid and in the time of its session the device leaves the
bootstrap network. -/
theorem forged_leave :
    (library lp64).Run .off (forgedLeave :: forgedAnswer :: forgedRequest :: sampleHistory)
        forgedLeave.post ∧
      LeavesForDestination forgedLeave ∧
      (∀ m ∈ forgedAnswer :: forgedRequest :: sampleHistory, ¬ AcceptsSetData lp64 m) ∧
      ¬ ((ExecutesSetData forgedLeave ∧ Since (fun x ↦ ¬ Resets x) (AcceptsSetData lp64)
          (forgedAnswer :: forgedRequest :: sampleHistory)) ∨
        WaitedInVain forgedLeave.input.now forgedLeave.pre.inst) := by
  obtain ⟨hstate, -, -, hssid⟩ := forgedAnswer_post
  have hnone : ∀ m ∈ forgedAnswer :: forgedRequest :: sampleHistory, ¬ AcceptsSetData lp64 m := by
    have hbind : ¬ AcceptsSetData lp64 forgedRequest :=
      not_acceptsSetData_of_received rfl (received_receivePkt rfl) (by simp [cmdBind, cmdSetData])
    exact List.forall_mem_cons.mpr ⟨not_acceptsSetData_of_call (fun _ _ h ↦ by cases h),
      List.forall_mem_cons.mpr ⟨hbind, greeting_not_acceptsSetData sampleOptions_ready⟩⟩
  refine ⟨((run_sample.snoc _).snoc _).snoc _, ⟨⟨.connected, rfl⟩, ?_, ?_⟩, hnone, fun h ↦ ?_⟩
  · rw [forgedLeave, move_pre, hstate]
    exact rfl
  · have hx := forgedLeave_executes
    rw [forgedLeave] at hx ⊢
    rw [move_post, step_executesSetData hx]
    exact rfl
  · rcases h with ⟨-, hsince⟩ | hvain
    · obtain ⟨later, x, earlier, hh, hx, -⟩ := since_iff.mp hsince
      refine hnone x ?_ hx
      rw [hh]
      exact List.mem_append_right _ List.mem_cons_self
    · have hstored := hvain.stored
      rw [forgedLeave, move_pre, hssid] at hstored
      cases hstored

end BootstrapWifi
