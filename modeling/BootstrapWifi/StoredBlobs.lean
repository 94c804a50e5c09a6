import BootstrapWifi.BoundedSecret

namespace BootstrapWifi

open Mealy ByteBuffer

variable {L : Layout} {now : Time} {random : UInt64} {data key : List UInt8} {s : Instance}
  {d : Device} {e : Event} {m : LibraryMove} {h : List LibraryMove} {f : Flash}

def Action.Stores : Action → Prop
  | .storeBootstrapData _ | .storeCryptoSecret _ => True
  | _ => False

theorem record_of_not_stores {a : Action} (ha : ¬ a.Stores) : f.record a = f := by
  cases a with
  | storeBootstrapData => exact absurd trivial ha
  | storeCryptoSecret => exact absurd trivial ha
  | _ => rfl

theorem foldl_record {acts : List Action} (ha : ∀ a ∈ acts, ¬ a.Stores) :
    acts.foldl Flash.record f = f := by
  induction acts with
  | nil => rfl
  | cons a acts ih =>
    rw [List.foldl_cons, record_of_not_stores (ha a List.mem_cons_self)]
    exact ih fun b hb ↦ ha b (List.mem_cons_of_mem _ hb)

theorem step_wifiNetworkList (list : List WifiListEntry) :
    ((library L).step ⟨now, .wifiNetworkList list⟩ d).1 = d := by
  change { d with flash := (bstWifiNetworkList L list d.inst).foldl Flash.record d.flash } = d
  rw [foldl_record (wifiNetworkList_only fun out ↦ id)]

theorem bstSetup_not_stores {o : Options} : ∀ a ∈ (bstSetup L now o data key).2, ¬ a.Stores := by
  have heff := bstSetup_effect L now o data key
  generalize bstSetup L now o data key = r at heff
  cases heff with
  | bootstrapped => simp [prvEnterBootstrappedMode, Action.Stores]
  | waiting => simp [prvEnterWaitForBootstrapMode, Action.Stores]
  | idle => simp

theorem PollEffect.not_stores {r : Instance × List Action} (heff : PollEffect now s r) :
    ∀ a ∈ r.2, ¬ a.Stores := by
  have routine {a : Action} (ha : a.Routine s) : ¬ a.Stores := by
    intro hs
    cases a with
    | storeBootstrapData => exact ha
    | storeCryptoSecret => exact ha
    | _ => exact hs
  cases heff with
  | stay _ _ _ ha => exact fun a hmem ↦ routine (ha a hmem)
  | bootstrapped _ _ _ ha =>
    exact List.forall_mem_append.mpr ⟨fun a hmem ↦ routine (ha a hmem),
      by simp [prvEnterBootstrappedMode, Action.Stores]⟩
  | fellBack => simp [prvEnterWaitForBootstrapMode, Action.Stores]

/-- The secret in use: the first `crypto_secret_len` bytes of the array. -/
def Instance.heldSecret (s : Instance) : List UInt8 :=
  s.cryptoSecret.bytes.take s.cryptoSecretLen.toNat

theorem heldSecret_of_secretField {t : Instance} (hc : t.secretField = s.secretField) :
    t.heldSecret = s.heldSecret := by
  have hb : t.cryptoSecret = s.cryptoSecret := congrArg Prod.fst hc
  have hl : t.cryptoSecretLen = s.cryptoSecretLen := congrArg Prod.snd hc
  rw [Instance.heldSecret, Instance.heldSecret, hb, hl]

theorem length_heldSecret (hl : s.cryptoSecretLen.toNat ≤ bindkeyMaxSize) :
    s.heldSecret.length = s.cryptoSecretLen.toNat :=
  List.length_take_of_le (by rwa [Buffer.length_bytes])

theorem bstSetup_heldSecret {o : Options} (ho : o.SecretFits) :
    (bstSetup L now o data key).1.heldSecret = chosenSecret o key := by
  have hfit := ho.length_chosenSecret key
  have hs := bstSetup_secretField L now o data key
  have hb : (bstSetup L now o data key).1.cryptoSecret =
      (Buffer.zero _).write (chosenSecret o key) := congrArg Prod.fst hs
  have hl : (bstSetup L now o data key).1.cryptoSecretLen = (chosenSecret o key).length.toUInt8 :=
    congrArg Prod.snd hs
  rw [Instance.heldSecret, hb, hl, toNat_toUInt8 (hfit.trans_lt (by decide))]
  exact Buffer.take_write _ hfit

theorem chosenSecret_congr {o o' : Options} (h : o.initialCryptoSecret = o'.initialCryptoSecret) :
    chosenSecret o key = chosenSecret o' key := by
  simp only [chosenSecret, h]

theorem prvAssignData_cut (c : List UInt8) (s : Instance) :
    prvAssignData (c.take (assignedLen c)) s = prvAssignData c s := prvAssignData_take c le_rfl

/-- What memory and the platform store have to do with each other. -/
structure Stored (d : Device) : Prop where
  parsed : ∃ c, d.inst.credentials = (prvAssignData c .zero).credentials
  data : d.inst.flags.requestSetWifi = false →
    d.inst.credentials = (prvAssignData d.flash.data .zero).credentials
  key : d.inst.flags.requestBind = false → d.inst.heldSecret = chosenSecret d.options d.flash.key ∨
    d.inst.heldSecret = [] ∧ d.flash.key.take bindkeyMaxSize = []
  initial : d.inst.options.initialCryptoSecret = d.options.initialCryptoSecret

theorem bstSetup_initial {o : Options} :
    (bstSetup L now o data key).1.options.initialCryptoSecret = o.initialCryptoSecret := by
  rw [bstSetup_options]
  split
  · exact Options.bootstrapped_initialCryptoSecret o
  · rfl

theorem stored_of_setup (L : Layout) (now : Time) {o : Options} (ho : o.SecretFits)
    (hi : o.initialCryptoSecret = d.options.initialCryptoSecret)
    (hd : d.inst = (bstSetup L now o data key).1) (hf : d.flash = ⟨data, key⟩) : Stored d where
  parsed := ⟨data, by rw [hd, bstSetup_credentials]⟩
  data _ := by rw [hd, hf, bstSetup_credentials]
  key _ := .inl (by rw [hd, hf, bstSetup_heldSecret ho, chosenSecret_congr hi])
  initial := by rw [hd, bstSetup_initial, hi]

theorem Stored.setup {o : Options} (ho : o.SecretFits) :
    Stored ((library L).step ⟨now, .setup o data key⟩ d).1 :=
  stored_of_setup L now ho rfl rfl (foldl_record bstSetup_not_stores)

theorem chosenSecret_of_fits {o : Options} (hk : key ≠ []) (hl : key.length ≤ bindkeyMaxSize) :
    chosenSecret o key = key := by
  rw [chosenSecret, List.take_of_length_le hl, if_pos hk]

/-- The blob that an executed SET_DATA stores parses to what memory holds. -/
theorem Stored.parse_blob (hd : Stored d) :
    d.inst.credentials =
      (prvAssignData (d.inst.storage.bytes.take d.inst.storageLen) .zero).credentials := by
  obtain ⟨c, hc⟩ := hd.parsed
  have hstorage : d.inst.storage = assignedStorage c := congrArg Prod.fst hc
  have hlen : d.inst.storageLen = assignedLen c := congrArg (fun x ↦ x.2.1) hc
  rw [hstorage, hlen, take_assignedStorage, prvAssignData_cut, hc]

theorem Stored.periodic {conn : ConnectState} (hd : Stored d) (hb : SecretBounded d) :
    Stored (d.after (bstPeriodic L now conn d.inst)).1 := by
  have heff := bstPeriodic_effect L now conn d.inst
  generalize bstPeriodic L now conn d.inst = r at heff
  cases heff with
  | off => exact ⟨hd.parsed, hd.data, hd.key, hd.initial⟩
  | factoryReset ho =>
    refine stored_of_setup L now hb.options hd.initial rfl ?_
    rw [serveFactoryReset_eq L ho]
    rfl
  | bind =>
    have hflash : (d.after (serveBind L d.inst)).1.flash =
        { d.flash with key := d.inst.heldSecret } := by
      change (serveBind L d.inst).2.foldl Flash.record d.flash = _
      rw [serveBind_output L hb.secret]
      rfl
    refine ⟨hd.parsed, fun hs ↦ ?_, fun _ ↦ ?_, hd.initial⟩
    · rw [hflash]
      exact hd.data hs
    · rw [hflash]
      change d.inst.heldSecret = chosenSecret d.options d.inst.heldSecret ∨
        d.inst.heldSecret = [] ∧ d.inst.heldSecret.take bindkeyMaxSize = []
      by_cases hk : d.inst.heldSecret = []
      · exact .inr ⟨hk, by rw [hk]; rfl⟩
      · exact .inl (chosenSecret_of_fits hk
          ((length_heldSecret hb.secret).trans_le hb.secret)).symm
  | wifiList => exact ⟨hd.parsed, hd.data, hd.key, hd.initial⟩
  | setWifi _ _ hbind => exact ⟨hd.parsed, fun _ ↦ hd.parse_blob, fun _ ↦ hd.key hbind, hd.initial⟩
  | poll ho hf hbind hl hset hp =>
    obtain ⟨hc, hs, hopt⟩ := (PeriodicEffect.poll (L := L) ho hf hbind hl hset hp).same_data
      fun h ↦ Bool.false_ne_true (hf.symm.trans h.2)
    have hflash : (d.after r).1.flash = d.flash := foldl_record hp.not_stores
    refine ⟨?_, fun _ ↦ ?_, fun _ ↦ ?_, ?_⟩
    · rw [Device.after_inst, hc]
      exact hd.parsed
    · rw [Device.after_inst, hc, hflash]
      exact hd.data hset
    · rw [Device.after_inst, heldSecret_of_secretField hs, hflash]
      exact hd.key hbind
    · rw [Device.after_inst, hopt]
      exact hd.initial

theorem Stored.networkInput (hd : Stored d)
    (hfit : ∀ pkt, BindAccepted L now data pkt d.inst → (newBindKeyLen pkt).toNat ≤ bindkeyMaxSize) :
    Stored (d.after ((bstNetworkInput L now random data d.inst).val, [])).1 := by
  have heff := networkInput_effect L now random data d.inst
  generalize (bstNetworkInput L now random data d.inst).val = t at heff
  cases heff with
  | ignored => exact ⟨hd.parsed, hd.data, hd.key, hd.initial⟩
  | expired => exact ⟨hd.parsed, hd.data, hd.key, hd.initial⟩
  | hello pkt =>
    obtain ⟨_, -, ht⟩ := helloDone_frame d.inst now random pkt
    rw [ht]
    exact ⟨hd.parsed, hd.data, hd.key, hd.initial⟩
  | bind pkt hb =>
    rw [bindDone_of_le (hfit pkt hb)]
    exact ⟨hd.parsed, hd.data, nofun, hd.initial⟩
  | setData pkt => exact ⟨⟨content pkt, rfl⟩, nofun, hd.key, hd.initial⟩

theorem Stored.step (hd : Stored d) (hb : SecretBounded d)
    (hs : InitialSecretFits ((library L).move d e)) (hfit : BindFits L ((library L).move d e)) :
    Stored ((library L).step e d).1 := by
  obtain ⟨now, call⟩ := e
  cases call with
  | setup o data key => exact Stored.setup (hs o data key rfl)
  | periodic conn => exact hd.periodic hb
  | networkInput data random => exact hd.networkInput fun pkt ↦ hfit data random pkt rfl
  | wifiNetworkList list => rwa [step_wifiNetworkList]
  | _ => exact ⟨hd.parsed, hd.data, hd.key, hd.initial⟩

theorem stored_off : Stored .off where
  parsed := ⟨[], rfl⟩
  data _ := rfl
  key _ := .inl rfl
  initial := rfl

theorem stored_of_run (r : (library L).Run .off h d) (hinit : ∀ m ∈ h, InitialSecretFits m)
    (hb : ∀ m ∈ h, BindFits L m) : Stored d ∧ SecretBounded d :=
  r.invariant (P := fun d ↦ Stored d ∧ SecretBounded d)
    (G := fun m ↦ InitialSecretFits m ∧ BindFits L m) ⟨stored_off, secretBounded_off⟩
    (fun _ _ ht hg ↦ ⟨ht.1.step ht.2 hg.1 hg.2, ht.2.step hg.1 hg.2⟩)
    fun m hm ↦ ⟨hinit m hm, hb m hm⟩

def Options.initialBytes (o : Options) : List UInt8 := (o.initialCryptoSecret.map (·.bytes)).getD []

theorem chosenSecret_of_take_nil {o : Options} (hk : key.take bindkeyMaxSize = []) :
    chosenSecret o key = o.initialBytes := if_neg (not_not.mpr hk)

theorem initialBytes_of_chosenSecret_nil {o : Options} (h : chosenSecret o key = []) :
    o.initialBytes = [] := by
  by_cases hk : key.take bindkeyMaxSize = []
  · rwa [chosenSecret_of_take_nil hk] at h
  · rw [chosenSecret, if_pos hk] at h
    exact absurd h hk

/-- `bst_setup` with the same options and the stored blobs gives the strings and the
secret that the running instance holds. -/
def Coherent (L : Layout) (now : Time) (d : Device) : Prop :=
  let s := (bstSetup L now d.options d.flash.data d.flash.key).1
  s.ssidString = d.inst.ssidString ∧ s.pwdString = d.inst.pwdString ∧
    s.additionalString = d.inst.additionalString ∧
    s.cryptoSecretLen = d.inst.cryptoSecretLen ∧ s.heldSecret = d.inst.heldSecret

theorem strings_of_credentials {t : Instance} (h : t.credentials = s.credentials) :
    t.ssidString = s.ssidString ∧ t.pwdString = s.pwdString ∧
      t.additionalString = s.additionalString := by
  simp only [Instance.credentials, Prod.mk.injEq] at h
  obtain ⟨hs, -, hssid, hpwd, hadd⟩ := h
  simp only [Instance.ssidString, Instance.pwdString, Instance.additionalString, hs, hssid, hpwd,
    hadd, and_self]

theorem Stored.options_fit (hd : Stored d) (hb : SecretBounded d) : d.options.SecretFits := by
  intro i hi
  rw [← hd.initial] at hi
  exact hb.options i hi

theorem heldSecret_eq_nil (hb : SecretBounded d) :
    d.inst.heldSecret = [] ↔ d.inst.cryptoSecretLen = 0 := by
  rw [← List.length_eq_zero_iff, length_heldSecret hb.secret, ← UInt8.toNat_inj]
  rfl

theorem Stored.coherent_secret (hd : Stored d) (hb : SecretBounded d) (now : Time)
    (hset : d.inst.flags.requestSetWifi = false) :
    Coherent L now d ↔ chosenSecret d.options d.flash.key = d.inst.heldSecret := by
  have ho := hd.options_fit hb
  have hheld : (bstSetup L now d.options d.flash.data d.flash.key).1.heldSecret =
      chosenSecret d.options d.flash.key := bstSetup_heldSecret ho
  obtain ⟨hssid, hpwd, hadd⟩ := strings_of_credentials
    ((bstSetup_credentials L now d.options d.flash.data d.flash.key).trans (hd.data hset).symm)
  constructor
  · intro hc
    obtain ⟨-, -, -, -, h⟩ := hc
    exact hheld.symm.trans h
  · intro h
    have hlen : (bstSetup L now d.options d.flash.data d.flash.key).1.cryptoSecretLen.toNat =
        d.inst.cryptoSecretLen.toNat := by
      rw [← length_heldSecret (bstSetup_bounded L now _ _ ho).2, ← length_heldSecret hb.secret, hheld, h]
    exact ⟨hssid, hpwd, hadd, UInt8.toNat_inj.mp hlen, hheld.trans h⟩

theorem Stored.coherent_iff (hd : Stored d) (hb : SecretBounded d) (now : Time)
    (hbind : d.inst.flags.requestBind = false) (hset : d.inst.flags.requestSetWifi = false) :
    Coherent L now d ↔ (d.inst.cryptoSecretLen = 0 → d.options.initialBytes = []) := by
  rw [hd.coherent_secret hb now hset, ← heldSecret_eq_nil hb]
  rcases hd.key hbind with hkey | ⟨hheld, hnil⟩
  · exact iff_of_true hkey.symm fun h ↦ initialBytes_of_chosenSecret_nil (hkey.symm.trans h)
  · rw [chosenSecret_of_take_nil hnil, hheld]
    exact ⟨fun h _ ↦ h, fun h ↦ h rfl⟩

def BindBringsKey (L : Layout) (m : LibraryMove) : Prop :=
  ∀ data random pkt, m.input.call = .networkInput data random →
    BindAccepted L m.input.now data pkt m.pre.inst → newBindKeyLen pkt ≠ 0

def SecretChosen (d : Device) : Prop :=
  d.inst.cryptoSecretLen = 0 → d.inst.options.initialBytes = []

theorem secretChosen_setup {o : Options} (ho : o.SecretFits)
    (h : (bstSetup L now o data key).1.cryptoSecretLen = 0) :
    (bstSetup L now o data key).1.options.initialBytes = [] := by
  have hlen : (bstSetup L now o data key).1.heldSecret.length = 0 := by
    rw [length_heldSecret (bstSetup_bounded L now _ _ ho).2, h]
    rfl
  rw [bstSetup_heldSecret ho] at hlen
  rw [Options.initialBytes, bstSetup_initial]
  exact initialBytes_of_chosenSecret_nil (List.length_eq_zero_iff.mp hlen)

theorem SecretChosen.step (hd : SecretChosen d) (hb : SecretBounded d)
    (hs : InitialSecretFits ((library L).move d e))
    (hkey : BindBringsKey L ((library L).move d e)) :
    SecretChosen ((library L).step e d).1 := by
  have keep {t : Instance} (hsec : t.secretField = d.inst.secretField)
      (hopt : t.options = d.inst.options) : t.cryptoSecretLen = 0 → t.options.initialBytes = [] := by
    have hlen : t.cryptoSecretLen = d.inst.cryptoSecretLen := congrArg Prod.snd hsec
    rw [hlen, hopt]
    exact hd
  obtain ⟨now, call⟩ := e
  cases call with
  | setup o data key => exact secretChosen_setup (hs o data key rfl)
  | periodic conn =>
    rw [step_periodic L rfl]
    by_cases hf : d.inst.options.Ready ∧ d.inst.flags.requestFactoryReset = true
    · rw [bstPeriodic_factoryReset L conn hf.1 hf.2]
      exact secretChosen_setup hb.options
    · obtain ⟨-, hsec, hopt⟩ := (bstPeriodic_effect L now conn d.inst).same_data hf
      exact keep hsec hopt
  | networkInput data random =>
    have heff := networkInput_effect L now random data d.inst
    rw [step_networkInput L rfl]
    rcases heff.secretField with hsec | ⟨pkt, hacc, ht⟩
    · exact keep hsec heff.options
    · intro h
      rw [Device.after_inst, ht] at h
      exact absurd h (hkey data random pkt rfl hacc)
  | _ => exact hd

theorem secretChosen_of_run (r : (library L).Run .off h d) (hinit : ∀ m ∈ h, InitialSecretFits m)
    (hfit : ∀ m ∈ h, BindFits L m) (hkey : ∀ m ∈ h, BindBringsKey L m) : SecretChosen d := by
  have hinv : SecretChosen d ∧ SecretBounded d :=
    r.invariant (P := fun d ↦ SecretChosen d ∧ SecretBounded d)
      (G := fun m ↦ InitialSecretFits m ∧ BindFits L m ∧ BindBringsKey L m)
      ⟨fun _ ↦ rfl, secretBounded_off⟩
      (fun _ _ ht hg ↦ ⟨ht.1.step ht.2 hg.1 hg.2.2, ht.2.step hg.1 hg.2.1⟩)
      fun m hm ↦ ⟨hinit m hm, hfit m hm, hkey m hm⟩
  exact hinv.1

/-- A reboot with nothing pending changes neither strings nor secret, unless the secret in
use is empty and the options have one that is not; without BINDs of an empty key that
never happens. -/
theorem reboot_coherent_iff (r : (library L).Run .off h d) (hinit : ∀ m ∈ h, InitialSecretFits m)
    (hfit : ∀ m ∈ h, BindFits L m) (hbind : d.inst.flags.requestBind = false)
    (hset : d.inst.flags.requestSetWifi = false) (now : Time) :
    (Coherent L now d ↔ (d.inst.cryptoSecretLen = 0 → d.options.initialBytes = [])) ∧
      ((∀ m ∈ h, BindBringsKey L m) → Coherent L now d) := by
  obtain ⟨hd, hb⟩ := stored_of_run r hinit hfit
  have hiff : Coherent L now d ↔ (d.inst.cryptoSecretLen = 0 → d.options.initialBytes = []) :=
    hd.coherent_iff hb now hbind hset
  refine ⟨hiff, fun hkey ↦ hiff.mpr fun hlen ↦ ?_⟩
  have hchosen := secretChosen_of_run r hinit hfit hkey hlen
  rwa [Options.initialBytes, hd.initial] at hchosen

section SampleKey

variable (hk : key.length ≤ bindkeyMaxSize)
include hk

theorem sampleRebound_post :
    (sampleRebound key).post.inst.flags.requestBind = false ∧
      (sampleRebound key).post.inst.flags.requestSetWifi = false ∧
      (sampleRebound key).post.inst.cryptoSecretLen.toNat = key.length ∧
      (sampleRebound key).post.options = sampleOptions := by
  have hlen : key.length ≤ 255 := hk.trans (by decide)
  have hfits : (newBindKeyLen (plainPkt cmdBind (bindContent key))).toNat ≤ bindkeyMaxSize := by
    rwa [newBindKeyLen_bindContent hlen]
  have hpost := sampleBound_post hlen
  rw [bindDone_of_le hfits] at hpost
  have hserve : bstPeriodic lp64 3 .connected (sampleBound key).post.inst =
      serveBind lp64 (sampleBound key).post.inst := by
    rw [hpost]
    exact bstPeriodic_bind lp64 .connected sampleOptions_ready rfl rfl
  rw [sampleRebound, move_post, step_periodic lp64 rfl, hserve, hpost]
  exact ⟨rfl, rfl, newBindKeyLen_bindContent hlen, rfl⟩

theorem sampleRebound_fits :
    (∀ m ∈ sampleRebound key :: sampleBound key :: sampleHistory, InitialSecretFits m) ∧
      ∀ m ∈ sampleRebound key :: sampleBound key :: sampleHistory, BindFits lp64 m :=
  ⟨List.forall_mem_cons.mpr ⟨setup_of_not id, List.forall_mem_cons.mpr
      ⟨setup_of_not id, sampleHistory_initialSecretFits⟩⟩,
    List.forall_mem_cons.mpr ⟨bindFits_of_call nofun, List.forall_mem_cons.mpr
      ⟨bindFits_sampleBound hk, greeting_bindFits sampleOptions_ready⟩⟩⟩

end SampleKey

theorem sample_reboot_coherent : Coherent lp64 9 (sampleRebound [9, 8, 7, 6]).post := by
  have hk : ([9, 8, 7, 6] : List UInt8).length ≤ bindkeyMaxSize := by decide
  obtain ⟨hbind, hset, hlen, -⟩ := sampleRebound_post hk
  obtain ⟨hinit, hfit⟩ := sampleRebound_fits hk
  refine (reboot_coherent_iff (run_sampleRebound _) hinit hfit hbind hset 9).1.mpr fun h ↦ ?_
  rw [h] at hlen
  exact absurd hlen (by decide)

/-- A BIND with an empty key leaves the running device without a secret, and the initial
secret is back after a reboot. -/
theorem empty_bind_lost_at_reboot :
    (library lp64).Run .off (sampleRebound [] :: sampleBound [] :: sampleHistory)
        (sampleRebound []).post ∧
      (∀ m ∈ sampleRebound [] :: sampleBound [] :: sampleHistory, InitialSecretFits m) ∧
      (∀ m ∈ sampleRebound [] :: sampleBound [] :: sampleHistory, BindFits lp64 m) ∧
      (sampleRebound []).post.inst.flags.requestBind = false ∧
      (sampleRebound []).post.inst.flags.requestSetWifi = false ∧
      ¬ Coherent lp64 9 (sampleRebound []).post := by
  have hk : ([] : List UInt8).length ≤ bindkeyMaxSize := by decide
  obtain ⟨hbind, hset, hlen, hopt⟩ := sampleRebound_post hk
  obtain ⟨hinit, hfit⟩ := sampleRebound_fits hk
  obtain ⟨hd, hb⟩ := stored_of_run (run_sampleRebound []) hinit hfit
  refine ⟨run_sampleRebound [], hinit, hfit, hbind, hset, fun hc ↦ ?_⟩
  have hnil := (hd.coherent_iff hb 9 hbind hset).mp hc (UInt8.toNat_inj.mp hlen)
  rw [hopt] at hnil
  exact absurd hnil (by decide)

end BootstrapWifi
