import BootstrapWifi.AppReader
import BootstrapWifi.PendingRequests
import BootstrapWifi.SessionExclusive
import BootstrapWifi.StoredBlobs

namespace BootstrapWifi

open Mealy ByteBuffer Spritz

/-- The app: its nonce, the secret it shares with the device, and the nonce the device has
told it. -/
structure App where
  appNonce : Buffer nonceSize
  secret : List UInt8
  deviceNonce : Buffer nonceSize

/-- `add_header_to_receive_pkt` and `add_checksum_to_receive_pkt` with what the app knows. -/
def App.packet (a : App) (commandCode : UInt8) (c : List UInt8) : List UInt8 :=
  networkHeader ++ bstCrc16 c c.length ++ [commandCode] ++
    if commandCode ≠ cmdHello then spritzEncrypt c a.deviceNonce.bytes a.secret else c

def App.hello (a : App) : List UInt8 := a.packet cmdHello a.appNonce.bytes

def App.bind (a : App) (key : List UInt8) : List UInt8 := a.packet cmdBind (bindContent key)

def App.setData (a : App) (data : List UInt8) : List UInt8 := a.packet cmdSetData (bootstrapData data)

variable {L : Layout} {T : Time} {a : App} {d : Device} {e : Event} {s : Instance} {now : Time}

/-- The device waits for data in the session of the app. -/
structure InSession (T : Time) (a : App) (s : Instance) : Prop where
  ready : s.options.Ready
  waiting : s.state.state = .waitingForData
  appNonce : s.state.prvAppNonce = a.appNonce
  deadline : s.state.timeNonceValid = T
  secretLen : s.cryptoSecretLen.toNat ≤ bindkeyMaxSize
  secret : s.heldSecret = a.secret
  factoryReset : s.flags.requestFactoryReset = false
  setWifi : s.flags.requestSetWifi = false

/-- Nobody but the app of the session has its way with the device while the session lasts. -/
structure Quiet (T : Time) (m : LibraryMove) : Prop where
  inTime : m.input.now ≤ T
  call : m.input.call = .periodic .connected ∨ (∃ list, m.input.call = .wifiNetworkList list) ∨
    (∃ mesg, m.input.call = .setErrorMessage mesg) ∨ m.input.call = .confirmBootstrap ∨
    ∃ data random, m.input.call = .networkInput data random ∧ m.post.inst = m.pre.inst

/-- The secret in use is stored, or will be by the next call of `bst_periodic`. -/
def KeyComing (d : Device) : Prop :=
  d.inst.flags.requestBind = true ∨ d.flash.key = d.inst.heldSecret

theorem poll_inSession (h : InSession T a s) (ht : now ≤ T) :
    poll now .connected s = (s, []) ∨ poll now .connected s = (s.rearm now, []) := by
  have hpoll : poll now .connected s = pollWaitingForData now .connected s := by
    rw [poll, h.waiting]
  rw [hpoll, pollWaitingForData_connected]
  split
  · exact .inl rfl
  · rw [if_neg fun hv ↦ absurd hv.2 (not_lt.mpr (h.deadline.symm ▸ ht))]
    exact .inr rfl

/-- What the session and the secret of a device are made of. -/
structure SameTalk (d d' : Device) : Prop where
  options : d'.inst.options = d.inst.options
  session : SameSession d.inst d'.inst
  secretField : d'.inst.secretField = d.inst.secretField
  bind : d'.inst.flags.requestBind = true → d.inst.flags.requestBind = true
  confirmation : d.inst.flags.externalConfirmation = true →
    d'.inst.flags.externalConfirmation = true
  key : KeyComing d → KeyComing d'

theorem SameTalk.of_inst {t : Instance} (hopt : t.options = d.inst.options)
    (hs : SameSession d.inst t) (hf : t.secretField = d.inst.secretField)
    (hb : t.flags.requestBind = d.inst.flags.requestBind)
    (hc : d.inst.flags.externalConfirmation = true → t.flags.externalConfirmation = true) :
    SameTalk d { d with inst := t } where
  options := hopt
  session := hs
  secretField := hf
  bind := fun h ↦ hb ▸ h
  confirmation := hc
  key := by
    intro hk
    rcases hk with hk | hk
    · exact .inl (hb.trans hk)
    · exact .inr (hk.trans (heldSecret_of_secretField hf).symm)

theorem InSession.of_sameTalk {d' : Device} (h : InSession T a d.inst) (hs : SameTalk d d')
    (hw : d'.inst.state.state = .waitingForData)
    (hf : d'.inst.flags.requestFactoryReset = false)
    (hset : d'.inst.flags.requestSetWifi = false) : InSession T a d'.inst where
  ready := hs.options ▸ h.ready
  waiting := hw
  appNonce := hs.session.prvAppNonce.trans h.appNonce
  deadline := hs.session.timeNonceValid.trans h.deadline
  secretLen := by
    have hlen : d'.inst.cryptoSecretLen = d.inst.cryptoSecretLen := congrArg Prod.snd hs.secretField
    rw [hlen]
    exact h.secretLen
  secret := (heldSecret_of_secretField hs.secretField).trans h.secret
  factoryReset := hf
  setWifi := hset

theorem InSession.periodic (h : InSession T a d.inst) (ht : now ≤ T) :
    InSession T a ((library L).step ⟨now, .periodic .connected⟩ d).1.inst ∧
      SameTalk d ((library L).step ⟨now, .periodic .connected⟩ d).1 := by
  rw [step_periodic L rfl]
  cases hb : d.inst.flags.requestBind with
  | true =>
    rw [bstPeriodic_bind L .connected h.ready h.factoryReset hb]
    have hsecret : (serveBind L d.inst).2 = [.storeCryptoSecret d.inst.heldSecret,
        .requestWifiNetworkList] := serveBind_output L h.secretLen
    have hsame : SameTalk d (d.after (serveBind L d.inst)).1 := by
      refine ⟨rfl, ⟨rfl, rfl, rfl⟩, rfl, fun hf ↦ absurd hf Bool.false_ne_true, id,
        fun _ ↦ .inr ?_⟩
      rw [Device.after, hsecret]
      rfl
    exact ⟨h.of_sameTalk hsame h.waiting h.factoryReset h.setWifi, hsame⟩
  | false =>
    cases hl : d.inst.flags.requestWifiList with
    | true =>
      rw [bstPeriodic_wifiList L .connected h.ready h.factoryReset hb hl]
      have hsame : SameTalk d
          { d with inst := { d.inst with flags.requestWifiList := false } } :=
        .of_inst rfl ⟨rfl, rfl, rfl⟩ rfl rfl id
      exact ⟨h.of_sameTalk hsame h.waiting h.factoryReset h.setWifi, hsame⟩
    | false =>
      rw [bstPeriodic_poll L .connected h.ready h.factoryReset hb hl h.setWifi]
      rcases poll_inSession h ht with hp | hp
      · rw [hp]
        have hsame : SameTalk d { d with inst := d.inst } :=
          .of_inst rfl (.refl _) rfl rfl id
        exact ⟨h, hsame⟩
      · rw [hp]
        have hsame : SameTalk d { d with inst := d.inst.rearm now } :=
          .of_inst rfl ⟨rfl, rfl, rfl⟩ rfl rfl id
        exact ⟨h.of_sameTalk hsame h.waiting h.factoryReset h.setWifi, hsame⟩

theorem InSession.quiet (h : InSession T a d.inst) (hq : Quiet T ((library L).move d e)) :
    InSession T a ((library L).step e d).1.inst ∧ SameTalk d ((library L).step e d).1 := by
  obtain ⟨now, call⟩ := e
  obtain ⟨ht, hcall⟩ := hq
  rcases hcall with hc | ⟨list, hc⟩ | ⟨mesg, hc⟩ | hc | ⟨data, random, hc, hpost⟩
  · obtain rfl : call = .periodic .connected := hc
    exact h.periodic ht
  · obtain rfl : call = .wifiNetworkList list := hc
    rw [step_wifiNetworkList]
    exact ⟨h, .of_inst rfl (.refl _) rfl rfl id⟩
  · obtain rfl : call = .setErrorMessage mesg := hc
    have hsame : SameTalk d { d with inst := bstSetErrorMessage mesg d.inst } :=
      .of_inst rfl ⟨rfl, rfl, rfl⟩ rfl rfl id
    exact ⟨h.of_sameTalk hsame h.waiting h.factoryReset h.setWifi, hsame⟩
  · obtain rfl : call = .confirmBootstrap := hc
    have hsame : SameTalk d { d with inst := bstConfirmBootstrap d.inst } :=
      .of_inst rfl ⟨rfl, rfl, rfl⟩ rfl rfl fun _ ↦ rfl
    exact ⟨h.of_sameTalk hsame h.waiting h.factoryReset h.setWifi, hsame⟩
  · obtain rfl : call = .networkInput data random := hc
    have hsame : ((library L).step ⟨now, .networkInput data random⟩ d).1 = d :=
      congrArg (fun i : Instance ↦ { d with inst := i }) hpost
    rw [hsame]
    exact ⟨h, .of_inst rfl (.refl _) rfl rfl id⟩

end BootstrapWifi
