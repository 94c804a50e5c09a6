import BootstrapWifi.Moves

namespace BootstrapWifi

open Mealy ByteBuffer

variable {L : Layout} {now : Time} {data pkt : List UInt8} {s t : Instance} {d : Device}
  {e : Event} {m : LibraryMove} {h : List LibraryMove}

/-- A packet leaves a BIND behind. -/
def BindTakesEffect (m : LibraryMove) : Prop :=
  (∃ data random, m.input.call = .networkInput data random) ∧
    (m.pre.inst.flags.requestBind = false ∧ m.post.inst.flags.requestBind = true ∨
      m.post.inst.secretField ≠ m.pre.inst.secretField)

/-- A packet leaves a SET_DATA behind. -/
def SetDataTakesEffect (m : LibraryMove) : Prop :=
  (∃ data random, m.input.call = .networkInput data random) ∧
    (m.pre.inst.flags.requestSetWifi = false ∧ m.post.inst.flags.requestSetWifi = true ∨
      m.post.inst.credentials ≠ m.pre.inst.credentials)

def ExecutesSetData (m : LibraryMove) : Prop :=
  ∃ conn, m.input.call = .periodic conn ∧ m.pre.inst.options.Ready ∧
    m.pre.inst.flags.requestFactoryReset = false ∧ m.pre.inst.flags.requestBind = false ∧
    m.pre.inst.flags.requestWifiList = false ∧ m.pre.inst.flags.requestSetWifi = true

theorem step_executesSetData (hx : ExecutesSetData ((library L).move d e)) :
    (library L).step e d = d.after (serveSetWifi e.now d.inst) := by
  obtain ⟨conn, hc, ho, hf, hb, hl, hw⟩ := hx
  have hcall : e.call = .periodic conn := hc
  have hserve : bstPeriodic L e.now conn d.inst = serveSetWifi e.now d.inst :=
    bstPeriodic_setWifi L conn ho hf hb hl hw
  rw [step_periodic L hcall, hserve]

theorem executesSetData_output (hx : ExecutesSetData ((library L).move d e)) :
    ((library L).step e d).2 =
      [.sendMessage .bootstrapOk, .storeBootstrapData (d.inst.storage.bytes.take d.inst.storageLen),
        .enterBootstrappedMode, .connectToWifi d.inst.ssidString d.inst.pwdString] := by
  rw [step_executesSetData hx]
  rfl

theorem length_newBindKey_le (L : Layout) (pkt : List UInt8) :
    (newBindKey L pkt).length ≤ (newBindKeyLen pkt).toNat := List.length_take_le _ _

theorem length_newBindKey (hl : bindReceivePktSize ≤ pkt.length) :
    (newBindKey L pkt).length = (newBindKeyLen pkt).toNat := by
  have hk : (newBindKeyLen pkt).toNat < 256 := (newBindKeyLen pkt).toNat_lt
  have ho : overrunSize = 223 := rfl
  simp only [newBindKey, List.length_take, List.length_drop, List.length_append,
    Buffer.length_bytes, receivePktSize_eq, bindReceivePktSize_eq] at *
  omega

theorem bindDone_of_le (hk : (newBindKeyLen pkt).toNat ≤ bindkeyMaxSize) :
    s.bindDone L pkt =
      { s with
        cryptoSecret := s.cryptoSecret.write (newBindKey L pkt)
        cryptoSecretLen := newBindKeyLen pkt
        flags.requestBind := true } := by
  unfold Instance.bindDone
  rw [copySecret_of_le ((length_newBindKey_le L pkt).trans hk)]

theorem bindFits_of_call (hc : ∀ data random, m.input.call ≠ .networkInput data random) :
    BindFits L m := fun data random _ h _ ↦ absurd h (hc data random)

theorem bindFits_of_received {random : UInt64} (hc : m.input.call = .networkInput data random)
    (hr : Received L data pkt m.pre.inst)
    (hk : command pkt = cmdBind → (newBindKeyLen pkt).toNat ≤ bindkeyMaxSize) : BindFits L m := by
  intro data' random' pkt' hc' hb
  rw [hc] at hc'
  cases hc'
  rw [hb.1.unique hr]
  rw [hb.1.unique hr] at hb
  exact hk hb.2.1

theorem setupReady_of_call (hc : ¬ m.input.call.IsSetup) : SetupReady m := setup_of_not hc

theorem bindTakesEffect_accepted (hm : BindTakesEffect ((library L).move d e)) :
    ∃ data random pkt, e.call = .networkInput data random ∧
      BindAccepted L e.now data pkt d.inst := by
  obtain ⟨now, call⟩ := e
  obtain ⟨⟨data, random, hc⟩, hchange⟩ := hm
  cases hc
  have heff : InputEffect L now random data d.inst
      ((library L).move d ⟨now, .networkInput data random⟩).post.inst :=
    networkInput_effect L now random data d.inst
  generalize ((library L).move d ⟨now, .networkInput data random⟩).post.inst = t at heff hchange
  simp only [move_pre] at hchange
  cases heff with
  | ignored => simp at hchange
  | expired => simp [Instance.wipeSession, Instance.secretField] at hchange
  | hello pkt =>
    obtain ⟨_, -, ht⟩ := helloDone_frame d.inst now random pkt
    rw [ht] at hchange
    simp [Instance.secretField] at hchange
  | bind pkt hb => exact ⟨data, random, pkt, rfl, hb⟩
  | setData pkt => simp [Instance.setDataDone, prvAssignData, Instance.secretField] at hchange

theorem setDataTakesEffect_accepted (hm : SetDataTakesEffect ((library L).move d e))
    (hfit : BindFits L ((library L).move d e)) :
    ∃ data random pkt, e.call = .networkInput data random ∧
      SetDataAccepted L e.now data pkt d.inst := by
  obtain ⟨now, call⟩ := e
  obtain ⟨⟨data, random, hc⟩, hchange⟩ := hm
  cases hc
  have heff : InputEffect L now random data d.inst
      ((library L).move d ⟨now, .networkInput data random⟩).post.inst :=
    networkInput_effect L now random data d.inst
  generalize ((library L).move d ⟨now, .networkInput data random⟩).post.inst = t at heff hchange
  simp only [move_pre] at hchange
  cases heff with
  | ignored => simp at hchange
  | expired => simp [Instance.wipeSession, Instance.credentials] at hchange
  | hello pkt =>
    obtain ⟨_, -, ht⟩ := helloDone_frame d.inst now random pkt
    rw [ht] at hchange
    simp [Instance.credentials] at hchange
  | bind pkt hb =>
    rw [bindDone_of_le (hfit data random pkt rfl hb)] at hchange
    simp [Instance.credentials] at hchange
  | setData pkt hb => exact ⟨data, random, pkt, rfl, hb⟩

theorem InputEffect.requestSetWifi {random : UInt64} (h : InputEffect L now random data s t)
    (hfit : ∀ pkt, BindAccepted L now data pkt s → (newBindKeyLen pkt).toNat ≤ bindkeyMaxSize)
    (hs : s.flags.requestSetWifi = true) : t.flags.requestSetWifi = true := by
  cases h with
  | ignored => exact hs
  | expired => exact hs
  | hello pkt =>
    obtain ⟨_, -, ht⟩ := helloDone_frame s now random pkt
    rw [ht]
    exact hs
  | bind pkt hb =>
    rw [bindDone_of_le (hfit pkt hb)]
    exact hs
  | setData pkt => rfl

theorem InputEffect.requestFactoryReset (heff : InputEffect L now random data s t)
    (hfit : ∀ pkt, BindAccepted L now data pkt s → (newBindKeyLen pkt).toNat ≤ bindkeyMaxSize) :
    t.flags.requestFactoryReset = s.flags.requestFactoryReset := by
  cases heff with
  | ignored => rfl
  | expired => rfl
  | hello pkt =>
    obtain ⟨_, -, ht⟩ := helloDone_frame s now random pkt
    rw [ht]
  | bind pkt hb => rw [bindDone_of_le (hfit pkt hb)]
  | setData pkt => rfl

theorem PeriodicEffect.requestFactoryReset {r : Instance × List Action}
    (heff : PeriodicEffect L now s r) (hf : s.flags.requestFactoryReset = false) :
    r.1.flags.requestFactoryReset = false := by
  cases heff with
  | off => exact hf
  | factoryReset _ h =>
    rw [hf] at h
    cases h
  | bind => exact hf
  | wifiList => exact hf
  | setWifi => rfl
  | poll _ _ _ _ _ hp =>
    cases hp with
    | stay hd =>
      rw [hd.flags]
      exact hf
    | bootstrapped => rfl
    | fellBack => rfl

theorem resets_of_lost (hs : SetupFits ((library L).move d e))
    (hb : BindFits L ((library L).move d e)) (hpre : d.inst.flags.requestSetWifi = true)
    (hpost : ((library L).step e d).1.inst.flags.requestSetWifi ≠ true) :
    Resets ((library L).move d e) := by
  cases moveEffect L d e hs with
  | reset hr => exact hr
  | input data random hc hr he =>
    exact absurd (he.requestSetWifi (fun pkt ↦ hb data random pkt hc) hpre) hpost
  | quiet _ _ _ _ hq =>
    rw [move_post, move_pre, hpre] at hq
    exact absurd hq hpost

/-- Between two SET_DATA packets that take effect the device enters a mode. -/
theorem exists_reset_between {later mid earlier : List LibraryMove} {m₁ m₂ : LibraryMove}
    (r : (library L).Run .off (later ++ m₂ :: (mid ++ m₁ :: earlier)) d)
    (hs : ∀ m ∈ mid, SetupFits m) (hb : ∀ m ∈ mid, BindFits L m)
    (hfit₁ : BindFits L m₁) (hfit₂ : BindFits L m₂)
    (h₁ : SetDataTakesEffect m₁) (h₂ : SetDataTakesEffect m₂) : ∃ m ∈ mid, Resets m := by
  obtain ⟨r₂, he₂, -⟩ := r.split
  obtain ⟨-, he₁, rmid⟩ := r₂.split
  rw [he₁] at h₁ hfit₁
  rw [he₂] at h₂ hfit₂
  obtain ⟨data₁, random₁, pkt₁, hc₁, ha₁⟩ := setDataTakesEffect_accepted h₁ hfit₁
  obtain ⟨data₂, random₂, pkt₂, hc₂, ha₂⟩ := setDataTakesEffect_accepted h₂ hfit₂
  have hset : m₁.post.inst.flags.requestSetWifi = true := by
    rw [he₁, move_post, step_networkInput L hc₁, Device.after_inst, networkInput_of_setData ha₁]
    rfl
  have hclear : m₂.pre.inst.flags.requestSetWifi ≠ true := by
    rw [ha₂.2.2.2.2.2]
    simp
  have hbreak := rmid.exists_break (P := fun d ↦ d.inst.flags.requestSetWifi = true) hset hclear
  obtain ⟨m, hm, he, hpre, hpost⟩ := hbreak
  refine ⟨m, hm, ?_⟩
  have hs' := hs m hm
  have hb' := hb m hm
  rw [he] at hs' hb' hpost ⊢
  exact resets_of_lost hs' hb' hpre hpost

end BootstrapWifi
