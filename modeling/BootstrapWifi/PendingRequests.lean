import BootstrapWifi.AppRun

namespace BootstrapWifi

open Mealy ByteBuffer

variable {L : Layout} {now : Time} {random : UInt64} {data pkt key blob : List UInt8}
  {s : Instance} {d : Device} {e : Event} {h : List LibraryMove}

def Flags.Pending (f : Flags) : Prop :=
  f.requestWifiList = true ∨ f.requestBind = true ∨ f.requestSetWifi = true

/-- Requests are only pending while the device waits for data, and a device in any mode
has the options `bst_periodic` needs to serve them. -/
structure RequestsWait (s : Instance) : Prop where
  waiting : s.flags.Pending → s.state.state = .waitingForData
  ready : s.state.state ≠ .uninitialized → s.options.Ready

theorem RequestsWait.of_cleared (hf : s.flags = .zero) (ho : s.options.Ready) : RequestsWait s := by
  refine ⟨fun hp ↦ ?_, fun _ ↦ ho⟩
  rw [hf] at hp
  simp [Flags.Pending, Flags.zero] at hp

theorem bstSetup_requestsWait {o : Options} (ho : o.Ready) :
    RequestsWait (bstSetup L now o data key).1 := by
  have hopt : (loaded L o data key).options.Ready := by rwa [loaded_options]
  have heff := bstSetup_effect L now o data key
  generalize bstSetup L now o data key = r at heff
  cases heff with
  | bootstrapped => exact .of_cleared rfl ho.bootstrapped
  | waiting => exact .of_cleared rfl hopt
  | idle _ hn =>
    have hb := ho.1
    rw [hn] at hb
    cases hb

theorem PeriodicEffect.requestsWait {r : Instance × List Action} (heff : PeriodicEffect L now s r)
    (hs : RequestsWait s) : RequestsWait r.1 := by
  cases heff with
  | off => exact hs
  | factoryReset ho => exact bstSetup_requestsWait ho
  | bind ho _ hb => exact ⟨fun _ ↦ hs.waiting (.inr (.inl hb)), hs.ready⟩
  | wifiList ho _ _ hl => exact ⟨fun _ ↦ hs.waiting (.inl hl), hs.ready⟩
  | setWifi ho => exact .of_cleared rfl ho
  | poll ho _ hb hl hw hp =>
    cases hp with
    | stay hd =>
      refine ⟨fun h ↦ ?_, fun _ ↦ hd.options ▸ ho⟩
      change Flags.Pending _ at h
      rw [hd.flags] at h
      rcases h with h | h | h
      · rw [hl] at h
        cases h
      · rw [hb] at h
        cases h
      · rw [hw] at h
        cases h
    | bootstrapped hd =>
      have hopt := hd.options ▸ ho
      exact .of_cleared rfl hopt
    | fellBack hd =>
      have hopt := hd.options ▸ ho
      exact .of_cleared rfl hopt

theorem InputEffect.requestsWait {t : Instance} (heff : InputEffect L now random data s t)
    (hfit : ∀ pkt, BindAccepted L now data pkt s → (newBindKeyLen pkt).toNat ≤ bindkeyMaxSize)
    (hs : RequestsWait s) : RequestsWait t := by
  cases heff with
  | ignored => exact hs
  | expired => exact ⟨hs.waiting, hs.ready⟩
  | hello pkt hh =>
    obtain ⟨_, hmode, ht⟩ := helloDone_frame s now random pkt
    rw [ht]
    exact ⟨fun _ ↦ hmode.trans hh.1.1, fun h ↦ hs.ready (hmode ▸ h)⟩
  | bind pkt hb =>
    rw [bindDone_of_le (hfit pkt hb)]
    exact ⟨fun _ ↦ hb.1.1, hs.ready⟩
  | setData pkt hb => exact ⟨fun _ ↦ hb.1.1, hs.ready⟩

theorem RequestsWait.step (hd : RequestsWait d.inst) (hs : SetupReady ((library L).move d e))
    (hb : BindFits L ((library L).move d e)) : RequestsWait ((library L).step e d).1.inst := by
  obtain ⟨now, call⟩ := e
  cases call with
  | setup o data key => exact bstSetup_requestsWait (hs o data key rfl)
  | periodic conn => exact (bstPeriodic_effect L now conn d.inst).requestsWait hd
  | networkInput data random =>
    exact (networkInput_effect L now random data d.inst).requestsWait
      (fun pkt ↦ hb data random pkt rfl) hd
  | wifiNetworkList list => exact hd
  | setErrorMessage mesg => exact ⟨hd.waiting, hd.ready⟩
  | factoryReset => exact ⟨hd.waiting, hd.ready⟩
  | confirmBootstrap => exact ⟨hd.waiting, hd.ready⟩

theorem requestsWait_of_run (r : (library L).Run .off h d) (hs : ∀ m ∈ h, SetupReady m)
    (hb : ∀ m ∈ h, BindFits L m) : RequestsWait d.inst := by
  refine r.invariant (P := fun d ↦ RequestsWait d.inst)
    (G := fun m ↦ SetupReady m ∧ BindFits L m) ⟨fun hp ↦ ?_, fun h ↦ absurd rfl h⟩
    (fun t i ht hg ↦ ht.step hg.1 hg.2) fun m hm ↦ ⟨hs m hm, hb m hm⟩
  simp [Flags.Pending, Device.off, Instance.zero, Flags.zero] at hp

/-- The flag of a request is cleared by a setup, by a factory reset, or by the
`bst_periodic` call that hands `stored` to the platform. -/
def ServedOrReset (stored : Action) (m : LibraryMove) : Prop :=
  m.input.call.IsSetup ∨ ∃ conn, m.input.call = .periodic conn ∧
    (m.pre.inst.flags.requestFactoryReset = true ∨ stored ∈ m.output)

def bindKey (pkt : List UInt8) : List UInt8 :=
  ((content pkt).drop 1).take (newBindKeyLen pkt).toNat

theorem newBindKey_of_fits (hl : bindReceivePktSize ≤ pkt.length)
    (hk : (newBindKeyLen pkt).toNat ≤ bindkeyMaxSize) : newBindKey L pkt = bindKey pkt := by
  have hm : bindkeyMaxSize = 32 := rfl
  have h₁ : receivePktSize + 1 ≤ pkt.length := by
    rw [bindReceivePktSize_eq] at hl
    rw [receivePktSize_eq]
    omega
  have h₂ : (newBindKeyLen pkt).toNat ≤ (pkt.drop (receivePktSize + 1)).length := by
    rw [bindReceivePktSize_eq] at hl
    rw [List.length_drop, receivePktSize_eq]
    omega
  rw [newBindKey, bindKey, content, List.drop_drop, List.drop_append_of_le_length h₁,
    List.take_append_of_le_length h₂]

structure BindPending (key : List UInt8) (s : Instance) : Prop where
  flag : s.flags.requestBind = true
  len : s.cryptoSecretLen.toNat ≤ bindkeyMaxSize
  secret : s.cryptoSecret.bytes.take s.cryptoSecretLen.toNat = key

structure SetDataPending (blob : List UInt8) (s : Instance) : Prop where
  flag : s.flags.requestSetWifi = true
  stored : s.storage.bytes.take s.storageLen = blob

theorem bindPending_bindDone (hl : bindReceivePktSize ≤ pkt.length)
    (hk : (newBindKeyLen pkt).toNat ≤ bindkeyMaxSize) :
    BindPending (bindKey pkt) (s.bindDone L pkt) := by
  have hlen : (newBindKey L pkt).length = (newBindKeyLen pkt).toNat := length_newBindKey hl
  rw [bindDone_of_le hk]
  refine ⟨rfl, hk, ?_⟩
  change (s.cryptoSecret.write (newBindKey L pkt)).bytes.take (newBindKeyLen pkt).toNat = _
  rw [← hlen, s.cryptoSecret.take_write (hlen.trans_le hk), newBindKey_of_fits hl hk]

theorem setDataPending_setDataDone :
    SetDataPending ((content pkt).take (assignedLen (content pkt))) (s.setDataDone pkt) :=
  ⟨rfl, take_assignedStorage _⟩

theorem PeriodicEffect.bindPending {r : Instance × List Action} (heff : PeriodicEffect L now s r)
    (hd : BindPending key s) :
    BindPending key r.1 ∨ r.1.flags.requestBind = false ∧
      (s.flags.requestFactoryReset = true ∨ .storeCryptoSecret key ∈ r.2) := by
  cases heff with
  | off => exact .inl hd
  | factoryReset ho hf =>
    refine .inr ⟨?_, .inl hf⟩
    rw [serveFactoryReset, bstSetup_flags L now [] [] ho.1]
    rfl
  | bind =>
    refine .inr ⟨rfl, .inr ?_⟩
    rw [serveBind_output L hd.len, hd.secret]
    exact List.mem_cons_self
  | wifiList _ _ hb => simp [hd.flag] at hb
  | setWifi _ _ hb => simp [hd.flag] at hb
  | poll _ _ hb => simp [hd.flag] at hb

theorem PeriodicEffect.setDataPending {r : Instance × List Action} (heff : PeriodicEffect L now s r)
    (hd : SetDataPending blob s) :
    SetDataPending blob r.1 ∨ r.1.flags.requestSetWifi = false ∧
      (s.flags.requestFactoryReset = true ∨ .storeBootstrapData blob ∈ r.2) := by
  cases heff with
  | off => exact .inl hd
  | factoryReset ho hf =>
    refine .inr ⟨?_, .inl hf⟩
    rw [serveFactoryReset, bstSetup_flags L now [] [] ho.1]
    rfl
  | bind => exact .inl ⟨hd.flag, hd.stored⟩
  | wifiList => exact .inl ⟨hd.flag, hd.stored⟩
  | setWifi =>
    refine .inr ⟨rfl, .inr ?_⟩
    rw [serveSetWifi, hd.stored]
    exact List.mem_cons_of_mem _ List.mem_cons_self
  | poll _ _ _ _ hw => simp [hd.flag] at hw

theorem InputEffect.bindPending {t : Instance} (heff : InputEffect L now random data s t)
    (hd : BindPending key s) : BindPending key t := by
  cases heff with
  | ignored => exact hd
  | expired => exact ⟨hd.flag, hd.len, hd.secret⟩
  | hello pkt =>
    obtain ⟨_, -, ht⟩ := helloDone_frame s now random pkt
    rw [ht]
    exact ⟨hd.flag, hd.len, hd.secret⟩
  | bind pkt hb =>
    have hf := hb.2.2.2.2
    rw [hd.flag] at hf
    cases hf
  | setData => exact ⟨hd.flag, hd.len, hd.secret⟩

theorem InputEffect.setDataPending {t : Instance} (heff : InputEffect L now random data s t)
    (hfit : ∀ pkt, BindAccepted L now data pkt s → (newBindKeyLen pkt).toNat ≤ bindkeyMaxSize)
    (hd : SetDataPending blob s) : SetDataPending blob t := by
  cases heff with
  | ignored => exact hd
  | expired => exact ⟨hd.flag, hd.stored⟩
  | hello pkt =>
    obtain ⟨_, -, ht⟩ := helloDone_frame s now random pkt
    rw [ht]
    exact ⟨hd.flag, hd.stored⟩
  | bind pkt hb =>
    rw [bindDone_of_le (hfit pkt hb)]
    exact ⟨hd.flag, hd.stored⟩
  | setData pkt hb =>
    have hf := hb.2.2.2.2.2
    rw [hd.flag] at hf
    cases hf

theorem BindPending.step (hd : BindPending key d.inst) (hs : SetupReady ((library L).move d e)) :
    BindPending key ((library L).step e d).1.inst ∨
      ((library L).step e d).1.inst.flags.requestBind = false ∧
        ServedOrReset (.storeCryptoSecret key) ((library L).move d e) := by
  obtain ⟨now, call⟩ := e
  cases call with
  | setup o data boundKey =>
    have hf := bstSetup_flags L now data boundKey (hs o data boundKey rfl).1
    exact .inr ⟨congrArg Flags.requestBind hf, .inl trivial⟩
  | periodic conn =>
    rcases (bstPeriodic_effect L now conn d.inst).bindPending hd with hk | ⟨hf, hr⟩
    · exact .inl hk
    · exact .inr ⟨hf, .inr ⟨conn, rfl, hr⟩⟩
  | networkInput data random =>
    exact .inl ((networkInput_effect L now random data d.inst).bindPending hd)
  | wifiNetworkList => exact .inl hd
  | setErrorMessage => exact .inl ⟨hd.flag, hd.len, hd.secret⟩
  | factoryReset => exact .inl ⟨hd.flag, hd.len, hd.secret⟩
  | confirmBootstrap => exact .inl ⟨hd.flag, hd.len, hd.secret⟩

theorem SetDataPending.step (hd : SetDataPending blob d.inst)
    (hs : SetupReady ((library L).move d e)) (hb : BindFits L ((library L).move d e)) :
    SetDataPending blob ((library L).step e d).1.inst ∨
      ((library L).step e d).1.inst.flags.requestSetWifi = false ∧
        ServedOrReset (.storeBootstrapData blob) ((library L).move d e) := by
  obtain ⟨now, call⟩ := e
  cases call with
  | setup o data boundKey =>
    have hf := bstSetup_flags L now data boundKey (hs o data boundKey rfl).1
    exact .inr ⟨congrArg Flags.requestSetWifi hf, .inl trivial⟩
  | periodic conn =>
    rcases (bstPeriodic_effect L now conn d.inst).setDataPending hd with hk | ⟨hf, hr⟩
    · exact .inl hk
    · exact .inr ⟨hf, .inr ⟨conn, rfl, hr⟩⟩
  | networkInput data random =>
    exact .inl ((networkInput_effect L now random data d.inst).setDataPending
      (fun pkt ↦ hb data random pkt rfl) hd)
  | wifiNetworkList => exact .inl hd
  | setErrorMessage => exact .inl ⟨hd.flag, hd.stored⟩
  | factoryReset => exact .inl ⟨hd.flag, hd.stored⟩
  | confirmBootstrap => exact .inl ⟨hd.flag, hd.stored⟩

/-- Over every stretch in which its flag stays up, a request keeps its bytes. -/
theorem bindPending_of_run {d' : Device} (r : (library L).Run d h d') (hd : BindPending key d.inst)
    (hs : ∀ m ∈ h, SetupReady m) (hf : ∀ m ∈ h, m.post.inst.flags.requestBind = true) :
    BindPending key d'.inst := by
  refine r.keeps (P := fun d ↦ BindPending key d.inst) hd fun m hm he hp ↦ ?_
  have hs' := hs m hm
  have hf' := hf m hm
  rw [he] at hs' hf' ⊢
  rcases hp.step hs' with hk | ⟨hn, -⟩
  · exact hk
  · rw [move_post, hn] at hf'
    cases hf'

theorem setDataPending_of_run {d' : Device} (r : (library L).Run d h d')
    (hd : SetDataPending blob d.inst) (hs : ∀ m ∈ h, SetupReady m) (hb : ∀ m ∈ h, BindFits L m)
    (hf : ∀ m ∈ h, m.post.inst.flags.requestSetWifi = true) : SetDataPending blob d'.inst := by
  refine r.keeps (P := fun d ↦ SetDataPending blob d.inst) hd fun m hm he hp ↦ ?_
  have hs' := hs m hm
  have hb' := hb m hm
  have hf' := hf m hm
  rw [he] at hs' hb' hf' ⊢
  rcases hp.step hs' hb' with hk | ⟨hn, -⟩
  · exact hk
  · rw [move_post, hn] at hf'
    cases hf'

/-- `m` is a packet that raises `request_bind`, and `m'` the first later move after which
the flag is down. -/
def BindKept (L : Layout) (h : List LibraryMove) : Prop :=
  ∀ later m' mid m earlier data random pkt, h = later ++ m' :: (mid ++ m :: earlier) →
    m.input.call = .networkInput data random → Received L data pkt m.pre.inst →
    m.pre.inst.flags.requestBind = false → m.post.inst.flags.requestBind = true →
    (∀ x ∈ mid, x.post.inst.flags.requestBind = true) →
    m'.post.inst.flags.requestBind = false → ServedOrReset (.storeCryptoSecret (bindKey pkt)) m'

def SetDataKept (L : Layout) (h : List LibraryMove) : Prop :=
  ∀ later m' mid m earlier data random pkt, h = later ++ m' :: (mid ++ m :: earlier) →
    m.input.call = .networkInput data random → Received L data pkt m.pre.inst →
    m.pre.inst.flags.requestSetWifi = false → m.post.inst.flags.requestSetWifi = true →
    (∀ x ∈ mid, x.post.inst.flags.requestSetWifi = true) →
    m'.post.inst.flags.requestSetWifi = false →
    ServedOrReset (.storeBootstrapData
      ((content pkt).take (min (data.length - receivePktSize) (storageRamSize - 3)))) m'

theorem bindKept_of_run (r : (library L).Run .off h d) (hs : ∀ m ∈ h, SetupReady m)
    (hb : ∀ m ∈ h, BindFits L m) : BindKept L h := by
  intro later m' mid m earlier data random pkt he hc hr hpre hpost hmid hclear
  subst he
  obtain ⟨r', he', -⟩ := r.split
  obtain ⟨-, he, rmid⟩ := r'.split
  have htakes : BindTakesEffect m := ⟨⟨data, random, hc⟩, .inl ⟨hpre, hpost⟩⟩
  have hfit := hb m (by simp)
  rw [he] at htakes
  obtain ⟨data', random', pkt', hc', ha⟩ := bindTakesEffect_accepted htakes
  rw [hc] at hc'
  cases hc'
  obtain rfl := hr.unique ha.1
  have hstart : BindPending (bindKey pkt) m.post.inst := by
    rw [he, move_post, step_networkInput L hc, Device.after_inst, networkInput_of_bind ha]
    exact bindPending_bindDone ha.2.2.2.1 (hfit data random pkt hc ha)
  have hend : BindPending (bindKey pkt) m'.pre.inst :=
    bindPending_of_run rmid hstart (fun x hx ↦ hs x (by simp [hx])) hmid
  have hs' := hs m' (by simp)
  rw [he'] at hs' hclear ⊢
  rcases hend.step hs' with hk | ⟨-, hserved⟩
  · rw [move_post, hk.flag] at hclear
    cases hclear
  · exact hserved

theorem setDataKept_of_run (r : (library L).Run .off h d) (hs : ∀ m ∈ h, SetupReady m)
    (hb : ∀ m ∈ h, BindFits L m) : SetDataKept L h := by
  intro later m' mid m earlier data random pkt he hc hr hpre hpost hmid hclear
  subst he
  obtain ⟨r', he', -⟩ := r.split
  obtain ⟨-, he, rmid⟩ := r'.split
  have htakes : SetDataTakesEffect m := ⟨⟨data, random, hc⟩, .inl ⟨hpre, hpost⟩⟩
  have hfit := hb m (by simp)
  rw [he] at htakes hfit
  obtain ⟨data', random', pkt', hc', ha⟩ := setDataTakesEffect_accepted htakes hfit
  rw [hc] at hc'
  cases hc'
  obtain rfl := hr.unique ha.1
  have hlen : min (data.length - receivePktSize) (storageRamSize - 3) = assignedLen (content pkt) := by
    rw [assignedLen, content, List.length_drop, hr.length_eq]
  have hstart : SetDataPending ((content pkt).take (assignedLen (content pkt))) m.post.inst := by
    rw [he, move_post, step_networkInput L hc, Device.after_inst, networkInput_of_setData ha]
    exact setDataPending_setDataDone
  have hend := setDataPending_of_run rmid hstart (fun x hx ↦ hs x (by simp [hx]))
    (fun x hx ↦ hb x (by simp [hx])) hmid
  have hs' := hs m' (by simp)
  have hb' := hb m' (by simp)
  rw [he'] at hs' hb' hclear ⊢
  rw [hlen]
  rcases hend.step hs' hb' with hk | ⟨-, hserved⟩
  · rw [move_post, hk.flag] at hclear
    cases hclear
  · exact hserved

/-- Accepted commands are neither lost nor altered. -/
theorem accepted_commands_kept (r : (library L).Run .off h d) (hs : ∀ m ∈ h, SetupReady m)
    (hb : ∀ m ∈ h, BindFits L m) :
    (d.inst.flags.Pending → d.inst.state.state = .waitingForData) ∧
      BindKept L h ∧ SetDataKept L h :=
  ⟨(requestsWait_of_run r hs hb).waiting, bindKept_of_run r hs hb, setDataKept_of_run r hs hb⟩

def servedBind : List LibraryMove :=
  sampleRebound [9, 8, 7, 6] :: sampleBound [9, 8, 7, 6] :: sampleHistory

theorem sample_commands_kept : BindKept lp64 servedBind ∧ SetDataKept lp64 servedBind := by
  refine (accepted_commands_kept (run_sampleRebound _) ?_ ?_).2
  · exact List.forall_mem_cons.mpr ⟨setupReady_of_call id,
      List.forall_mem_cons.mpr ⟨setupReady_of_call id, greeting_setupReady sampleOptions_ready⟩⟩
  · exact List.forall_mem_cons.mpr ⟨bindFits_of_call nofun,
      List.forall_mem_cons.mpr ⟨bindFits_sampleBound (by decide),
        greeting_bindFits sampleOptions_ready⟩⟩

end BootstrapWifi
