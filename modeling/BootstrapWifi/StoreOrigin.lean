import BootstrapWifi.PendingRequests
import BootstrapWifi.SessionGate
import BootstrapWifi.StoredBlobs

namespace BootstrapWifi

open Mealy ByteBuffer

variable {L : Layout} {now : Time} {random : UInt64} {data key blob : List UInt8}
  {s t : Instance} {d : Device} {e : Event} {m : LibraryMove} {h : List LibraryMove}

/-- The device accepts a SET_DATA that brings `blob`, as far as it has room for it. -/
def BringsData (L : Layout) (blob : List UInt8) (m : LibraryMove) : Prop :=
  ∃ data random pkt, m.input.call = .networkInput data random ∧
    SetDataAccepted L m.input.now data pkt m.pre.inst ∧
    (content pkt).take (assignedLen (content pkt)) = blob

/-- The device accepts a BIND that brings `key`. -/
def BringsKey (L : Layout) (key : List UInt8) (m : LibraryMove) : Prop :=
  ∃ data random pkt, m.input.call = .networkInput data random ∧
    BindAccepted L m.input.now data pkt m.pre.inst ∧ bindKey pkt = key

/-- What waits to be stored is what a packet brought since the last reset. -/
structure RequestsFounded (L : Layout) (h : List LibraryMove) (s : Instance) : Prop where
  setData : s.flags.requestSetWifi = true →
    ∃ blob, SetDataPending blob s ∧ Since (fun m ↦ ¬ Resets m) (BringsData L blob) h
  bind : s.flags.requestBind = true →
    ∃ key, BindPending key s ∧ Since (fun m ↦ ¬ Resets m) (BringsKey L key) h

theorem RequestsFounded.of_cleared (hf : s.flags = .zero) : RequestsFounded L h s where
  setData hset := by
    rw [hf] at hset
    cases hset
  bind hbind := by
    rw [hf] at hbind
    cases hbind

/-- A move that leaves a pending request pending keeps its origin. -/
theorem RequestsFounded.carry (hs : RequestsFounded L h s) (hr : ¬ Resets m)
    (hset : t.flags.requestSetWifi = true → (∃ blob, BringsData L blob m ∧ SetDataPending blob t) ∨
      s.flags.requestSetWifi = true ∧ ∀ blob, SetDataPending blob s → SetDataPending blob t)
    (hbind : t.flags.requestBind = true → (∃ key, BringsKey L key m ∧ BindPending key t) ∨
      s.flags.requestBind = true ∧ ∀ key, BindPending key s → BindPending key t) :
    RequestsFounded L (m :: h) t where
  setData hf := by
    rcases hset hf with ⟨blob, hbrings, hpending⟩ | ⟨hpre, hkeep⟩
    · exact ⟨blob, hpending, .inl hbrings⟩
    · obtain ⟨blob, hpending, hsince⟩ := hs.setData hpre
      exact ⟨blob, hkeep blob hpending, .inr ⟨hr, hsince⟩⟩
  bind hf := by
    rcases hbind hf with ⟨key, hbrings, hpending⟩ | ⟨hpre, hkeep⟩
    · exact ⟨key, hpending, .inl hbrings⟩
    · obtain ⟨key, hpending, hsince⟩ := hs.bind hpre
      exact ⟨key, hkeep key hpending, .inr ⟨hr, hsince⟩⟩

/-- Calls that touch neither the request nor its bytes. -/
theorem RequestsFounded.quiet (hs : RequestsFounded L h s) (hr : ¬ Resets m)
    (hdata : t.credentials = s.credentials) (hsecret : t.secretField = s.secretField)
    (hset : t.flags.requestSetWifi = s.flags.requestSetWifi)
    (hbind : t.flags.requestBind = s.flags.requestBind) : RequestsFounded L (m :: h) t := by
  have hstorage : t.storage = s.storage := congrArg Prod.fst hdata
  have hlen : t.storageLen = s.storageLen := congrArg (fun x ↦ x.2.1) hdata
  have hkey : t.cryptoSecret = s.cryptoSecret := congrArg Prod.fst hsecret
  have hkeyLen : t.cryptoSecretLen = s.cryptoSecretLen := congrArg Prod.snd hsecret
  refine hs.carry hr (fun hf ↦ .inr ⟨hset ▸ hf, fun blob hp ↦ ⟨hf, ?_⟩⟩)
    fun hf ↦ .inr ⟨hbind ▸ hf, fun key hp ↦ ⟨hf, ?_, ?_⟩⟩
  · rw [hstorage, hlen]
    exact hp.stored
  · rw [hkeyLen]
    exact hp.len
  · rw [hkey, hkeyLen]
    exact hp.secret

theorem PeriodicEffect.requestBind {r : Instance × List Action} (heff : PeriodicEffect L now s r)
    (hf : r.1.flags.requestBind = true) : s.flags.requestBind = true := by
  cases heff with
  | off => exact hf
  | factoryReset ho =>
    rw [serveFactoryReset_eq L ho] at hf
    cases hf
  | bind _ _ hb => exact hb
  | wifiList => exact hf
  | setWifi => cases hf
  | poll _ _ _ _ _ hp =>
    cases hp with
    | stay hd => exact hd.flags ▸ hf
    | bootstrapped => cases hf
    | fellBack => cases hf

theorem RequestsFounded.periodic {conn : ConnectState} (hs : RequestsFounded L h d.inst)
    (hc : e.call = .periodic conn) :
    RequestsFounded L ((library L).move d e :: h) ((library L).step e d).1.inst := by
  rw [step_periodic L hc, Device.after_inst]
  have heff := bstPeriodic_effect L e.now conn d.inst
  by_cases ha : ∃ a ∈ (bstPeriodic L e.now conn d.inst).2, a.EntersMode
  · exact .of_cleared (heff.entered L ha).1
  have hr : ¬ Resets ((library L).move d e) := by
    refine not_resets (by rw [move_input, hc]; exact id) ?_
    rw [move_output, step_periodic L hc]
    exact fun a hmem he ↦ ha ⟨a, hmem, he⟩
  obtain ⟨-, hset, -⟩ := heff.not_entered L ha
  refine hs.carry hr (fun hf ↦ .inr ⟨hset ▸ hf, fun blob hp ↦ ?_⟩)
    fun hf ↦ .inr ⟨heff.requestBind hf, fun key hp ↦ ?_⟩
  · rcases heff.setDataPending hp with hk | ⟨hn, -⟩
    · exact hk
    · rw [hf] at hn
      cases hn
  · rcases heff.bindPending hp with hk | ⟨hn, -⟩
    · exact hk
    · rw [hf] at hn
      cases hn

theorem RequestsFounded.networkInput (hs : RequestsFounded L h d.inst)
    (hc : e.call = .networkInput data random) (hfit : BindFits L ((library L).move d e)) :
    RequestsFounded L ((library L).move d e :: h) ((library L).step e d).1.inst := by
  have hr : ¬ Resets ((library L).move d e) := by
    refine not_resets (by rw [move_input, hc]; exact id) ?_
    rw [move_output, step_networkInput L hc]
    exact List.forall_mem_nil _
  rw [step_networkInput L hc, Device.after_inst]
  have heff := networkInput_effect L e.now random data d.inst
  generalize (bstNetworkInput L e.now random data d.inst).val = t at heff
  have hkeys (pkt : List UInt8) := hfit data random pkt hc
  cases heff with
  | ignored => exact hs.quiet hr rfl rfl rfl rfl
  | expired => exact hs.quiet hr rfl rfl rfl rfl
  | hello pkt =>
    obtain ⟨_, -, ht⟩ := helloDone_frame d.inst e.now random pkt
    rw [ht]
    exact hs.quiet hr rfl rfl rfl rfl
  | bind pkt hb =>
    have hpending := bindPending_bindDone (L := L) (s := d.inst) hb.2.2.2.1 (hkeys pkt hb)
    rw [bindDone_of_le (hkeys pkt hb)] at hpending ⊢
    exact hs.carry hr (fun hf ↦ .inr ⟨hf, fun blob hp ↦ ⟨hf, hp.stored⟩⟩)
      fun _ ↦ .inl ⟨_, ⟨data, random, pkt, hc, hb, rfl⟩, hpending⟩
  | setData pkt hd =>
    exact hs.carry hr (fun _ ↦ .inl ⟨_, ⟨data, random, pkt, hc, hd, rfl⟩, setDataPending_setDataDone⟩)
      fun hf ↦ .inr ⟨hf, fun key hp ↦ ⟨hf, hp.len, hp.secret⟩⟩

theorem RequestsFounded.step (hs : RequestsFounded L h d.inst)
    (hfit : Contained L ((library L).move d e)) :
    RequestsFounded L ((library L).move d e :: h) ((library L).step e d).1.inst := by
  obtain ⟨now, call⟩ := e
  cases call with
  | setup o data key => exact .of_cleared (bstSetup_cleared L now data key (hfit.1 o data key rfl)).1
  | periodic conn => exact hs.periodic rfl
  | networkInput data random => exact hs.networkInput rfl hfit.2
  | wifiNetworkList list =>
    have hout : ∀ a ∈ bstWifiNetworkList L list d.inst, ¬ a.EntersMode :=
      wifiNetworkList_only fun _ ↦ id
    exact hs.quiet (not_resets id hout) rfl rfl rfl rfl
  | setErrorMessage mesg => exact hs.quiet (not_resets id (List.forall_mem_nil _)) rfl rfl rfl rfl
  | factoryReset => exact hs.quiet (not_resets id (List.forall_mem_nil _)) rfl rfl rfl rfl
  | confirmBootstrap => exact hs.quiet (not_resets id (List.forall_mem_nil _)) rfl rfl rfl rfl

theorem requestsFounded_of_run (r : (library L).Run .off h d) (hfit : ∀ m ∈ h, Contained L m) :
    RequestsFounded L h d.inst :=
  r.moves_invariant (P := fun h d ↦ RequestsFounded L h d.inst) (G := Contained L)
    (.of_cleared rfl) (fun _ _ _ hp hfit ↦ hp.step hfit) hfit

theorem PeriodicEffect.stores_data {r : Instance × List Action} (heff : PeriodicEffect L now s r)
    (ha : .storeBootstrapData blob ∈ r.2) :
    s.flags.requestFactoryReset = true ∧ blob = [] ∨ SetDataPending blob s := by
  cases heff with
  | off => cases ha
  | factoryReset ho hf =>
    rw [serveFactoryReset_eq L ho] at ha
    exact .inl ⟨hf, by simpa using ha⟩
  | bind => simp [serveBind] at ha
  | wifiList => simp at ha
  | setWifi _ _ _ _ hw =>
    refine .inr ⟨hw, ?_⟩
    simpa [serveSetWifi, prvEnterBootstrappedMode, eq_comm] using ha
  | poll _ _ _ _ _ hp => exact absurd trivial (hp.not_stores _ ha)

theorem PeriodicEffect.stores_key {r : Instance × List Action} (heff : PeriodicEffect L now s r)
    (hlen : s.flags.requestBind = true → s.cryptoSecretLen.toNat ≤ bindkeyMaxSize)
    (ha : .storeCryptoSecret key ∈ r.2) :
    s.flags.requestFactoryReset = true ∧ key = [] ∨ BindPending key s := by
  cases heff with
  | off => cases ha
  | factoryReset ho hf =>
    rw [serveFactoryReset_eq L ho] at ha
    exact .inl ⟨hf, by simpa using ha⟩
  | bind _ _ hb =>
    rw [serveBind_output L (hlen hb)] at ha
    exact .inr ⟨hb, hlen hb, by simpa [eq_comm] using ha⟩
  | wifiList => simp at ha
  | setWifi => simp [serveSetWifi, prvEnterBootstrappedMode] at ha
  | poll _ _ _ _ _ hp => exact absurd trivial (hp.not_stores _ ha)

theorem stores_in_periodic {a : Action} (hs : a.Stores) (ha : a ∈ ((library L).step e d).2) :
    ∃ conn, e.call = .periodic conn ∧ a ∈ (bstPeriodic L e.now conn d.inst).2 := by
  obtain ⟨now, call⟩ := e
  cases call with
  | setup => exact absurd hs (bstSetup_not_stores a ha)
  | periodic conn => exact ⟨conn, rfl, ha⟩
  | wifiNetworkList list =>
    exact absurd hs (wifiNetworkList_only (P := fun a ↦ ¬ a.Stores) (fun _ ↦ id) a ha)
  | _ => cases ha

/-- Erased by a factory reset, or brought by a packet that was accepted since the last reset. -/
def Accounted (brings : List UInt8 → LibraryMove → Prop) (stored : List UInt8)
    (s : Instance) (h : List LibraryMove) : Prop :=
  s.flags.requestFactoryReset = true ∧ stored = [] ∨ Since (fun m ↦ ¬ Resets m) (brings stored) h

/-- The platform never stores anything of the library's own making: every blob that it is told
to store came in an accepted SET_DATA, and every secret in an accepted BIND, unless a factory
reset erases them. -/
theorem stores_accepted (r : (library L).Run .off h d) (hfit : ∀ m ∈ h, Contained L m) :
    ∀ later m earlier, h = later ++ m :: earlier →
      (∀ blob, .storeBootstrapData blob ∈ m.output →
        Accounted (BringsData L) blob m.pre.inst earlier) ∧
      ∀ key, .storeCryptoSecret key ∈ m.output →
        Accounted (BringsKey L) key m.pre.inst earlier := by
  intro later m earlier hh
  subst hh
  obtain ⟨hr, he, -⟩ := r.split
  have hfounded := requestsFounded_of_run hr fun x hx ↦ hfit x (by simp [hx])
  have hperiodic {a : Action} (ha : a ∈ m.output) (hs : a.Stores) : ∃ conn,
      a ∈ (bstPeriodic L m.input.now conn m.pre.inst).2 := by
    rw [he] at ha
    obtain ⟨conn, -, hmem⟩ := stores_in_periodic hs ha
    exact ⟨conn, hmem⟩
  constructor
  · intro blob ha
    obtain ⟨conn, hmem⟩ := hperiodic ha trivial
    refine ((bstPeriodic_effect L _ conn _).stores_data hmem).imp id fun hpending ↦ ?_
    obtain ⟨blob', hpending', hsince⟩ := hfounded.setData hpending.flag
    rwa [← hpending'.stored, hpending.stored] at hsince
  · intro key ha
    obtain ⟨conn, hmem⟩ := hperiodic ha trivial
    have hlen (hb : m.pre.inst.flags.requestBind = true) :
        m.pre.inst.cryptoSecretLen.toNat ≤ bindkeyMaxSize := by
      obtain ⟨_, hpending, -⟩ := hfounded.bind hb
      exact hpending.len
    refine ((bstPeriodic_effect L _ conn _).stores_key hlen hmem).imp id fun hpending ↦ ?_
    obtain ⟨key', hpending', hsince⟩ := hfounded.bind hpending.flag
    rwa [← hpending'.secret, hpending.secret] at hsince

/-- The blob of a session goes back to its SET_DATA. -/
theorem sample_stores_accepted :
    Accounted (BringsData lp64)
      ((sampleExecuted [97, 0, 98]).pre.inst.storage.bytes.take
        (sampleExecuted [97, 0, 98]).pre.inst.storageLen) (sampleExecuted [97, 0, 98]).pre.inst
      (sampleListed [97, 0, 98] :: sampleTold [97, 0, 98] :: sampleHistory) := by
  have hstored := executesSetData_output (sampleExecuted_executes [97, 0, 98])
  refine (stores_accepted (run_sampleSession [97, 0, 98]) (fun m hm ↦
    ⟨(sampleSession_setupReady _ m hm).fits, sampleSession_bindFits _ m hm⟩) [] _ _ rfl).1 _ ?_
  rw [sampleExecuted, move_output, hstored, move_pre]
  exact .tail _ (.head _)

end BootstrapWifi
