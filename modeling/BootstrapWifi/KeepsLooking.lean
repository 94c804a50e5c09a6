import BootstrapWifi.LiveSession
import BootstrapWifi.LinkMove
import BootstrapWifi.PendingRequests
import BootstrapWifi.Ranking
import BootstrapWifi.RestartRun

namespace BootstrapWifi

open Mealy

variable {L : Layout} {now : Time} {conn : ConnectState} {random : UInt64} {data : List UInt8}
  {s : Instance} {d d' : Device} {e : Event} {m : LibraryMove} {h : List LibraryMove} {l : Link}
  {acts : List Action} {bound : ℕ} {attempts : UInt8} {o : Options}

/-- A poll that comes after the deadline. -/
def isLate (m : LibraryMove) : Bool :=
  (seen m).isSome && decide (m.pre.inst.state.timeoutConnecting < m.input.now)

/-- No app brings new data, nobody resets the device, and neither network is in reach. -/
structure Deserted (L : Layout) (m : LibraryMove) : Prop where
  noSetup : ¬ m.input.call.IsSetup
  noReset : m.input.call ≠ .factoryReset
  noData : ¬ AcceptsSetData L m
  fits : BindFits L m
  unconnected : ∀ conn, seen m = some conn → conn.isConnected = false

/-- A device that knows a network to look for. -/
structure Searching (o : Options) (s : Instance) : Prop where
  options : s.options = o
  ssid : s.ssid.isSome
  noReset : s.flags.requestFactoryReset = false
  waits : RequestsWait s

/-- How many more attempts a counter lets pass; the counter itself may wrap. -/
def attemptsLeft (bound : ℕ) (attempts : UInt8) : ℕ :=
  if attempts = 255 then bound + 1 else bound - attempts.toNat

/-- How many late polls a mode outlasts. -/
def patience (o : Options) (l : Link) : ℕ :=
  match l.mode with
  | .uninitialized => 0
  | .connectingToBootstrap => attemptsLeft o.retryConnectingToBootstrapNetwork.toNat l.attempts
  | .waitingForData => attemptsLeft o.retryConnectingToBootstrapNetwork.toNat l.attempts + 1
  | .connectingToDest =>
    attemptsLeft (o.retryConnectingToDestinationNetwork.toNat - 1) l.attempts
  | .destinationConnected =>
    attemptsLeft (o.retryConnectingToDestinationNetwork.toNat - 1) l.attempts + 1

theorem attemptsLeft_le (bound : ℕ) (attempts : UInt8) : attemptsLeft bound attempts ≤ bound + 1 := by
  unfold attemptsLeft
  split <;> omega

theorem bound_lt {limit : UInt8} (hlimit : limit ≠ 255) : limit.toNat < 255 := by
  have h := limit.toNat_lt
  have hne : limit.toNat ≠ 255 := fun h ↦ hlimit (UInt8.toNat_inj.mp h)
  omega

theorem attemptsLeft_succ (hle : (attempts + 1).toNat ≤ bound) (hb : bound < 255) :
    attemptsLeft bound (attempts + 1) < attemptsLeft bound attempts := by
  have hnext : attempts + 1 ≠ 255 := by
    intro h
    rw [h] at hle
    exact absurd hle (not_le.mpr hb)
  rw [attemptsLeft, if_neg hnext, attemptsLeft]
  split
  next => omega
  next hmax =>
    have hlt : attempts.toNat < 255 := bound_lt hmax
    have hsum : (attempts + 1).toNat = attempts.toNat + 1 := by
      rw [UInt8.toNat_add]
      exact Nat.mod_eq_of_lt (Nat.succ_lt_succ hlt)
    omega

/-- The entry that leads out of a group of modes. -/
def wayOut (destination : Bool) : Action :=
  if destination then .enterWaitForBootstrapMode else .enterBootstrappedMode

/-- Without a connection a poll leaves the group of its mode, or uses up some of its patience. -/
theorem LinkStep.wears (hl : LinkStep now conn s l acts) (hconn : conn.isConnected = false)
    (hssid : s.ssid.isSome) (hlimit : s.options.retryConnectingToBootstrapNetwork ≠ 255)
    (hon : s.state.state ≠ .uninitialized) :
    wayOut s.state.state.isDestination ∈ acts ∧
        l.mode.isDestination = !s.state.state.isDestination ∧ l.mode ≠ .uninitialized ∨
      l.mode.isDestination = s.state.state.isDestination ∧ l.mode ≠ .uninitialized ∧
        patience s.options l + (if s.state.timeoutConnecting < now then 1 else 0) ≤
          patience s.options s.link := by
  have connected {P : Prop} (hc : conn = .connected) : P := by
    rw [hc] at hconn
    cases hconn
  have online {P : Prop} (hc : conn.isConnected = true) : P := by
    rw [hc] at hconn
    cases hconn
  have tick_le : (if s.state.timeoutConnecting < now then 1 else 0) ≤ 1 := by split <;> decide
  have early (ht : ¬ s.state.timeoutConnecting < now) :
      s.link.mode.isDestination = s.state.state.isDestination ∧ s.link.mode ≠ .uninitialized ∧
        patience s.options s.link + (if s.state.timeoutConnecting < now then 1 else 0) ≤
          patience s.options s.link := by
    rw [if_neg ht]
    exact ⟨rfl, hon, le_rfl⟩
  cases hl with
  | off hm => exact absurd hm hon
  | bootstrapWait hm _ ht => exact .inr (early ht.not_gt)
  | bootstrapRetry hm _ _ hretry =>
    have hlt := attemptsLeft_succ (UInt8.le_iff_toNat_le.mp (hretry hssid)) (bound_lt hlimit)
    have hattempts : s.bootstrapAttempts = s.state.countConnectionAttempts + 1 := if_pos hssid
    refine .inr ⟨by rw [hm], nofun, ?_⟩
    simp only [patience, Instance.link, hm, hattempts]
    omega
  | bootstrapQuit hm =>
    rw [hm]
    exact .inl ⟨.head _, rfl, nofun⟩
  | greetAgain _ hc =>
    rw [hc] at hconn
    cases hconn
  | dataWait _ hc => exact connected hc
  | dataRearm _ hc => exact connected hc
  | dataQuit _ hc => exact connected hc
  | dataLost hm =>
    refine .inr ⟨by rw [hm]; rfl, nofun, ?_⟩
    simp only [patience, Instance.link, hm]
    omega
  | destWait _ _ ht => exact .inr (early ht.not_gt)
  | destRetry hm _ _ hlt =>
    have hle : (s.state.countConnectionAttempts + 1).toNat ≤
        s.options.retryConnectingToDestinationNetwork.toNat - 1 :=
      Nat.le_sub_one_of_lt (UInt8.lt_iff_toNat_lt.mp hlt)
    have hlt := attemptsLeft_succ hle (by
      have h := s.options.retryConnectingToDestinationNetwork.toNat_lt
      omega)
    refine .inr ⟨by rw [hm], nofun, ?_⟩
    simp only [patience, Instance.link, hm]
    omega
  | destQuit hm =>
    rw [hm]
    exact .inl ⟨.head _, rfl, nofun⟩
  | destFailed hd =>
    rw [hd]
    exact .inl ⟨.head _, rfl, nofun⟩
  | associated _ hc => exact online hc
  | associatedAdvanced _ hc => exact online hc
  | associatedTry _ hc => exact connected hc
  | online _ hc => exact online hc
  | advancedTry _ hc => exact connected hc
  | advancedQuit _ hc => exact connected hc
  | destLost hm =>
    refine .inr ⟨by rw [hm]; rfl, nofun, ?_⟩
    simp only [patience, Instance.link, hm]
    omega

theorem Searching.step (hs : Searching o d.inst) (hm : Deserted L ((library L).move d e)) :
    Searching o ((library L).step e d).1.inst := by
  have hwaits := hs.waits.step (setupReady_of_call hm.noSetup) hm.fits
  obtain ⟨now, call⟩ := e
  cases call with
  | setup => exact absurd trivial hm.noSetup
  | periodic conn =>
    have heff := bstPeriodic_effect L now conn d.inst
    obtain ⟨hcred, -, hopt⟩ := heff.same_data fun h ↦ by
      rw [hs.noReset] at h
      cases h.2
    have hssid : (bstPeriodic L now conn d.inst).1.ssid = d.inst.ssid :=
      congrArg (fun x ↦ x.2.2.1) hcred
    refine ⟨hopt.trans hs.options, ?_, heff.requestFactoryReset hs.noReset, hwaits⟩
    rw [step_periodic L rfl, Device.after_inst, hssid]
    exact hs.ssid
  | networkInput data random =>
    have heff := networkInput_effect L now random data d.inst
    have hcred : (bstNetworkInput L now random data d.inst).val.credentials =
        d.inst.credentials := by
      rcases heff.credentials with hcred | ⟨pkt, hset, -⟩
      · exact hcred
      · exact absurd ⟨data, random, pkt, rfl, hset⟩ hm.noData
    have hssid : (bstNetworkInput L now random data d.inst).val.ssid = d.inst.ssid :=
      congrArg (fun x ↦ x.2.2.1) hcred
    refine ⟨heff.options.trans hs.options, ?_, ?_, hwaits⟩
    · rw [step_networkInput L rfl, Device.after_inst, hssid]
      exact hs.ssid
    · rw [step_networkInput L rfl, Device.after_inst,
        heff.requestFactoryReset fun pkt ↦ hm.fits data random pkt rfl]
      exact hs.noReset
  | factoryReset => exact absurd rfl hm.noReset
  | wifiNetworkList => exact ⟨hs.options, hs.ssid, hs.noReset, hwaits⟩
  | setErrorMessage => exact ⟨hs.options, hs.ssid, hs.noReset, hwaits⟩
  | confirmBootstrap => exact ⟨hs.options, hs.ssid, hs.noReset, hwaits⟩

/-- The modes of one group, on the way to the bootstrap network or to the destination. -/
def InGroup (destination : Bool) (s : Instance) : Prop :=
  s.state.state ≠ .uninitialized ∧ s.state.state.isDestination = destination

/-- The device leaves a group of modes for the other one. -/
def Leaves (destination : Bool) (m : LibraryMove) : Prop :=
  wayOut destination ∈ m.output ∧ InGroup (!destination) m.post.inst

def Device.patience (d : Device) : ℕ := BootstrapWifi.patience d.inst.options d.inst.link

theorem isLate_of_seen_none (hseen : seen m = none) : isLate m = false := by
  rw [isLate, hseen]
  rfl

/-- Moves that the link does not notice. -/
theorem wears_of_link {b : Bool} (hb : InGroup b m.pre.inst) (hseen : seen m = none)
    (hlink : m.post.inst.link = m.pre.inst.link) (hopt : m.post.inst.options = m.pre.inst.options) :
    InGroup b m.post.inst ∧ m.post.patience + (if isLate m then 1 else 0) ≤ m.pre.patience := by
  have hmode : m.post.inst.state.state = m.pre.inst.state.state := congrArg Link.mode hlink
  refine ⟨?_, ?_⟩
  · rw [InGroup, hmode]
    exact hb
  · rw [isLate_of_seen_none hseen, Device.patience, Device.patience, hlink, hopt]
    exact le_rfl

theorem periodic_wears {b : Bool} (hs : Searching o m.pre.inst) (hb : InGroup b m.pre.inst)
    (hlimit : o.retryConnectingToBootstrapNetwork ≠ 255) (hc : m.input.call = .periodic conn)
    (hconn : ∀ conn, seen m = some conn → conn.isConnected = false)
    (hpost : m.post.inst = (bstPeriodic L m.input.now conn m.pre.inst).1)
    (hout : m.output = (bstPeriodic L m.input.now conn m.pre.inst).2) :
    Leaves b m ∨
      InGroup b m.post.inst ∧ m.post.patience + (if isLate m then 1 else 0) ≤ m.pre.patience := by
  have heff := bstPeriodic_effect L m.input.now conn m.pre.inst
  by_cases hp : m.pre.inst.Polls
  · have hseen : seen m = some conn := seen_eq_some.mpr ⟨hc, hp⟩
    have hopt : m.post.inst.options = m.pre.inst.options := hpost ▸ heff.options
    have hstep := poll_link m.input.now conn m.pre.inst
    rw [← hp.periodic L, ← hpost, ← hout] at hstep
    rcases hstep.wears (hconn conn hseen) hs.ssid (hs.options ▸ hlimit) hb.1 with
      ⟨hway, hmode, hon⟩ | ⟨hmode, hon, hle⟩
    · rw [hb.2] at hway hmode
      exact .inl ⟨hway, hon, hmode⟩
    · refine .inr ⟨⟨hon, hmode.trans hb.2⟩, ?_⟩
      rw [Device.patience, Device.patience, hopt]
      simpa [isLate, hseen] using hle
  · have hseen : seen m = none := seen_eq_none_of_request hp
    generalize bstPeriodic L m.input.now conn m.pre.inst = r at heff hpost hout
    cases heff with
    | off hn => exact absurd (hs.waits.ready hb.1) hn
    | factoryReset _ hf =>
      rw [hs.noReset] at hf
      cases hf
    | bind => exact .inr (wears_of_link hb hseen (by rw [hpost]; rfl) (by rw [hpost]; rfl))
    | wifiList => exact .inr (wears_of_link hb hseen (by rw [hpost]; rfl) (by rw [hpost]))
    | setWifi _ _ _ _ hw =>
      have hfalse : b = false := by
        rw [← hb.2, hs.waits.waiting (.inr (.inr hw))]
        rfl
      rw [hfalse]
      refine .inl ⟨?_, ?_⟩
      · rw [hout]
        exact .tail _ (.tail _ (.head _))
      · rw [hpost]
        exact ⟨nofun, rfl⟩
    | poll ho hf hb hl hw => exact absurd ⟨ho, hf, hb, hl, hw⟩ hp

theorem Searching.wears {b : Bool} (hs : Searching o d.inst) (hb : InGroup b d.inst)
    (hlimit : o.retryConnectingToBootstrapNetwork ≠ 255) (hm : Deserted L ((library L).move d e)) :
    Leaves b ((library L).move d e) ∨ InGroup b ((library L).step e d).1.inst ∧
      ((library L).step e d).1.patience + (if isLate ((library L).move d e) then 1 else 0) ≤
        d.patience := by
  have quiet (hc : ∀ conn, e.call ≠ .periodic conn)
      (hlink : ((library L).step e d).1.inst.link = d.inst.link)
      (hopt : ((library L).step e d).1.inst.options = d.inst.options) :
      Leaves b ((library L).move d e) ∨ InGroup b ((library L).step e d).1.inst ∧
        ((library L).step e d).1.patience + (if isLate ((library L).move d e) then 1 else 0) ≤
          d.patience :=
    .inr (wears_of_link (m := (library L).move d e) hb (seen_eq_none_of_call hc) hlink hopt)
  obtain ⟨now, call⟩ := e
  cases call with
  | setup => exact absurd trivial hm.noSetup
  | periodic conn => exact periodic_wears (L := L) hs hb hlimit rfl hm.unconnected rfl rfl
  | networkInput data random =>
    have heff := networkInput_effect L now random data d.inst
    exact quiet nofun (heff.link fun pkt ↦ hm.fits data random pkt rfl) heff.options
  | factoryReset => exact absurd rfl hm.noReset
  | wifiNetworkList => exact quiet nofun rfl rfl
  | setErrorMessage => exact quiet nofun rfl rfl
  | confirmBootstrap => exact quiet nofun rfl rfl

/-- The limit that holds in a group of modes. -/
def Options.retries (o : Options) (destination : Bool) : ℕ :=
  if destination then o.retryConnectingToDestinationNetwork.toNat
  else o.retryConnectingToBootstrapNetwork.toNat

theorem Device.patience_le (hon : d.inst.state.state ≠ .uninitialized) :
    d.patience ≤ d.inst.options.retries d.inst.state.state.isDestination + 2 := by
  have hb := attemptsLeft_le (d.inst.options.retries false) d.inst.link.attempts
  have hd := attemptsLeft_le (d.inst.options.retries true - 1) d.inst.link.attempts
  have hd' : attemptsLeft (d.inst.options.retries true - 1) d.inst.link.attempts ≤
      d.inst.options.retries true + 1 := hd.trans (Nat.succ_le_succ (Nat.sub_le _ _))
  unfold Device.patience BootstrapWifi.patience
  rw [Instance.link_mode]
  cases hm : d.inst.state.state with
  | uninitialized => exact absurd hm hon
  | connectingToBootstrap => exact hb.trans (Nat.le_succ _)
  | waitingForData => exact Nat.succ_le_succ hb
  | connectingToDest => exact hd'.trans (Nat.le_succ _)
  | destinationConnected => exact Nat.succ_le_succ hd'

/-- The first way out of a group comes before its patience is used up. -/
theorem leaves_group {b : Bool} (hlimit : o.retryConnectingToBootstrapNetwork ≠ 255)
    (r : (library L).Run d h d') (hs : Searching o d.inst) (hb : InGroup b d.inst)
    (halone : ∀ m ∈ h, Deserted L m) (hcount : o.retries b + 2 < h.countP isLate) :
    ∃ later m earlier, h = later ++ m :: earlier ∧ Searching o m.post.inst ∧ Leaves b m ∧
      earlier.countP isLate ≤ o.retries b + 2 := by
  have hpatience : d.patience ≤ o.retries b + 2 := by
    have hle := d.patience_le hb.1
    rwa [hb.2, hs.options] at hle
  have hstep : ∀ m ∈ h, m = (library L).move m.pre m.input →
      Searching o m.pre.inst ∧ InGroup b m.pre.inst →
        Leaves b m ∨ (Searching o m.post.inst ∧ InGroup b m.post.inst) ∧
          m.post.patience + (if isLate m then 1 else 0) ≤ m.pre.patience := by
    intro m hm he hp
    have hm' := halone m hm
    rw [he] at hm' ⊢
    rcases hp.1.wears hp.2 hlimit hm' with hleaves | ⟨hgroup, hle⟩
    · exact .inl hleaves
    · exact .inr ⟨⟨hp.1.step hm', hgroup⟩, hle⟩
  obtain ⟨later, m, earlier, rfl, ⟨hpre, -⟩, hleaves, hle⟩ :=
    r.reaches_of_rank (P := fun d ↦ Searching o d.inst ∧ InGroup b d.inst) (f := Device.patience)
      (T := isLate) ⟨hs, hb⟩ hstep (hpatience.trans_lt hcount)
  obtain ⟨-, he, -⟩ := r.split
  have hm := halone m (by simp)
  refine ⟨later, m, earlier, rfl, ?_, hleaves, hle.trans hpatience⟩
  rw [he] at hm ⊢
  exact hpre.step hm

/-- A device that knows its destination gives up neither network for good: while neither is in
reach, it turns from either of them to the other within a number of late polls that its limits
set. -/
theorem keeps_looking {h₀ : List LibraryMove} {d₀ : Device} (r₀ : (library L).Run .off h₀ d₀)
    (hsetup : ∀ m ∈ h₀, SetupReady m) (hfit : ∀ m ∈ h₀, BindFits L m)
    (hon : d₀.inst.state.state ≠ .uninitialized) (hssid : d₀.inst.ssid.isSome)
    (hreset : d₀.inst.flags.requestFactoryReset = false)
    (hlimit : d₀.inst.options.retryConnectingToBootstrapNetwork ≠ 255)
    (r : (library L).Run d₀ h d) (halone : ∀ m ∈ h, Deserted L m)
    (hcount : d₀.inst.options.retries false + d₀.inst.options.retries true + 6 ≤
      h.countP isLate) :
    (∃ m ∈ h, .enterWaitForBootstrapMode ∈ m.output) ∧
      ∃ m ∈ h, .enterBootstrappedMode ∈ m.output := by
  have hs : Searching d₀.inst.options d₀.inst :=
    ⟨rfl, hssid, hreset, requestsWait_of_run r₀ hsetup hfit⟩
  suffices hboth : ∀ b, InGroup b d₀.inst →
      (∃ m ∈ h, wayOut b ∈ m.output) ∧ ∃ m ∈ h, wayOut (!b) ∈ m.output by
    obtain ⟨hout, hback⟩ := hboth _ ⟨hon, rfl⟩
    cases hd : d₀.inst.state.state.isDestination with
    | false =>
      rw [hd] at hout hback
      exact ⟨hback, hout⟩
    | true =>
      rw [hd] at hout hback
      exact ⟨hout, hback⟩
  intro b hb
  have htotal : d₀.inst.options.retries b + d₀.inst.options.retries (!b) + 6 ≤
      h.countP isLate := by
    cases b with
    | false => exact hcount
    | true => rwa [Bool.not_true, Nat.add_comm (Options.retries _ true)]
  obtain ⟨later, m, earlier, rfl, hs', ⟨hway, hgroup⟩, hle⟩ :=
    leaves_group hlimit r hs hb halone (by omega)
  refine ⟨⟨m, by simp, hway⟩, ?_⟩
  obtain ⟨-, -, rlater⟩ := r.split
  have hone : (if isLate m then 1 else 0) ≤ 1 := by split <;> decide
  rw [List.countP_append, List.countP_cons] at htotal
  obtain ⟨_, m', _, hlater, -, ⟨hway', -⟩, -⟩ :=
    leaves_group hlimit rlater hs' hgroup (fun x hx ↦ halone x (by simp [hx])) (by omega)
  exact ⟨m', by simp [hlater], hway'⟩

theorem deserted_polls {polls : List (Time × ConnectState)}
    (hp : ∀ p ∈ polls, p.2.isConnected = false) (d : Device) :
    ∀ m ∈ ((library L).exec d (polls.map fun p ↦ ⟨p.1, .periodic p.2⟩)).1, Deserted L m := by
  intro m hm
  have hinput := List.mem_map_of_mem (f := Move.input) hm
  rw [Machine.map_input_exec, List.mem_reverse] at hinput
  obtain ⟨p, hmem, he⟩ := List.mem_map.mp hinput
  have hc : m.input.call = .periodic p.2 := by rw [← he]
  refine ⟨?_, ?_, ?_, bindFits_of_call ?_, ?_⟩
  · rw [hc]
    exact id
  · rw [hc]
    exact nofun
  · intro ⟨_, _, _, h, _⟩
    rw [hc] at h
    cases h
  · rw [hc]
    exact nofun
  · intro conn hseen
    have hconn := (seen_eq_some.mp hseen).1
    rw [hc, Call.periodic.injEq] at hconn
    rw [← hconn]
    exact hp p hmem

/-- Nine polls, each of them late. -/
def lonelyPolls : List (Time × ConnectState) :=
  (List.range 9).map fun k ↦ (2000 * (k + 1 : ℕ), .noConnection)

def lonelyHistory : List LibraryMove :=
  ((library lp64).exec (restarted sampleOptions [])
    (lonelyPolls.map fun p ↦ ⟨p.1, .periodic p.2⟩)).1

theorem sample_keeps_looking : (∃ m ∈ lonelyHistory, .enterWaitForBootstrapMode ∈ m.output) ∧
    ∃ m ∈ lonelyHistory, .enterBootstrappedMode ∈ m.output := by
  have hsetup : ∀ m ∈ restartHistory sampleOptions [], SetupReady m := by
    intro m hm o data key hc
    rw [List.mem_singleton.mp hm] at hc
    cases hc
    exact sampleOptions_ready
  exact keeps_looking (run_restart sampleOptions []) hsetup
    (fun m hm ↦ (restart_contained sampleOptions_ready m hm).2) (by decide) (by decide) (by decide)
    (by decide) (Machine.run_exec _ _ _) (deserted_polls (by decide) _) (by decide)

end BootstrapWifi
