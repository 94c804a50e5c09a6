import BootstrapWifi.Credentials
import BootstrapWifi.InSession

namespace BootstrapWifi

open Mealy

variable {L : Layout} {T : Time} {a : App} {d : Device} {e : Event} {data : List UInt8} {now : Time}

/-- The credentials are in place and the next calls of `bst_periodic` see to them. -/
structure Instructed (rebound : Bool) (data : List UInt8) (a : App) (d : Device) : Prop where
  ready : d.inst.options.Ready
  secretLen : d.inst.cryptoSecretLen.toNat ≤ bindkeyMaxSize
  secret : d.inst.heldSecret = a.secret
  factoryReset : d.inst.flags.requestFactoryReset = false
  setWifi : d.inst.flags.requestSetWifi = true
  credentials : d.inst.credentials = (prvAssignData (bootstrapData data) .zero).credentials
  key : rebound = true → KeyComing d

/-- The requests that `bst_periodic` serves before a SET_DATA. -/
def Device.servedFirst (d : Device) : ℕ :=
  d.inst.flags.requestBind.toNat + d.inst.flags.requestWifiList.toNat

def pollEvent (p : Time × ConnectState) : Event := ⟨p.1, .periodic p.2⟩

def Call.isPeriodic : Call → Bool
  | .periodic _ => true
  | _ => false

def isPoll (m : LibraryMove) : Bool := m.input.call.isPeriodic

theorem exists_pollEvent (h : isPoll ((library L).move d e) = true) : ∃ p, e = pollEvent p := by
  obtain ⟨now, call⟩ := e
  cases call with
  | periodic conn => exact ⟨(now, conn), rfl⟩
  | _ => cases h

/-- Nothing comes that takes the place of what the app has told the device or gets in before it. -/
structure Aside (L : Layout) (m : LibraryMove) : Prop where
  setup : ¬ m.input.call.IsSetup
  factoryReset : m.input.call ≠ .factoryReset
  input : ∀ data random pkt, m.input.call = .networkInput data random →
    ¬ HelloAccepted L m.input.now data pkt m.pre.inst ∧
      ¬ BindAccepted L m.input.now data pkt m.pre.inst

section Instructed

variable {rebound : Bool} {p : Time × ConnectState}

theorem Instructed.serve (h : Instructed rebound data a d) {n : ℕ} (hfirst : d.servedFirst = n + 1) :
    Instructed rebound data a ((library L).step (pollEvent p) d).1 ∧
      ((library L).step (pollEvent p) d).1.servedFirst = n := by
  rw [step_periodic L rfl]
  cases hb : d.inst.flags.requestBind with
  | true =>
    rw [bstPeriodic_bind L p.2 h.ready h.factoryReset hb]
    have hsecret : (serveBind L d.inst).2 = [.storeCryptoSecret d.inst.heldSecret,
        .requestWifiNetworkList] := serveBind_output L h.secretLen
    refine ⟨⟨h.ready, h.secretLen, h.secret, h.factoryReset, h.setWifi, h.credentials,
      fun _ ↦ .inr ?_⟩, ?_⟩
    · rw [Device.after, hsecret]
      rfl
    · rw [Device.servedFirst, hb, Bool.toNat_true] at hfirst
      change false.toNat + d.inst.flags.requestWifiList.toNat = n
      rw [Bool.toNat_false]
      omega
  | false =>
    rw [Device.servedFirst, hb, Bool.toNat_false] at hfirst
    cases hl : d.inst.flags.requestWifiList with
    | true =>
      rw [bstPeriodic_wifiList L p.2 h.ready h.factoryReset hb hl]
      refine ⟨⟨h.ready, h.secretLen, h.secret, h.factoryReset, h.setWifi, h.credentials,
        fun hr ↦ h.key hr⟩, ?_⟩
      change d.inst.flags.requestBind.toNat + false.toNat = n
      rw [hl, Bool.toNat_true] at hfirst
      rw [hb, Bool.toNat_false]
      omega
    | false =>
      rw [hl, Bool.toNat_false] at hfirst
      omega

theorem Instructed.expires (h : Instructed rebound data a d) :
    Instructed rebound data a { d with inst := d.inst.wipeSession } :=
  ⟨h.ready, h.secretLen, h.secret, h.factoryReset, h.setWifi, h.credentials, h.key⟩

/-- What is not a call of `bst_periodic` leaves the instructions alone. -/
theorem Instructed.aside (h : Instructed rebound data a d) (hm : Aside L ((library L).move d e))
    (hp : isPoll ((library L).move d e) = false) :
    Instructed rebound data a ((library L).step e d).1 ∧
      ((library L).step e d).1.servedFirst = d.servedFirst := by
  obtain ⟨now, call⟩ := e
  cases call with
  | setup => exact absurd trivial hm.setup
  | periodic => cases hp
  | networkInput bytes random =>
    have heff := networkInput_effect L now random bytes d.inst
    rw [step_networkInput L rfl]
    change Instructed rebound data a
        { d with inst := (bstNetworkInput L now random bytes d.inst).val } ∧
      Device.servedFirst { d with inst := (bstNetworkInput L now random bytes d.inst).val } = _
    generalize (bstNetworkInput L now random bytes d.inst).val = t at heff
    cases heff with
    | ignored => exact ⟨h, rfl⟩
    | expired => exact ⟨h.expires, rfl⟩
    | hello pkt hh => exact absurd hh (hm.input bytes random pkt rfl).1
    | bind pkt hb => exact absurd hb (hm.input bytes random pkt rfl).2
    | setData pkt hset =>
      have hfree := hset.2.2.2.2.2
      rw [h.setWifi] at hfree
      cases hfree
  | wifiNetworkList list =>
    rw [step_wifiNetworkList]
    exact ⟨h, rfl⟩
  | factoryReset => exact absurd rfl hm.factoryReset
  | _ => exact ⟨⟨h.ready, h.secretLen, h.secret, h.factoryReset, h.setWifi, h.credentials, h.key⟩, rfl⟩

/-- Every call of `bst_periodic` serves a request that comes before the data. -/
theorem Instructed.run {h : List LibraryMove} {u : Device} (hd : Instructed rebound data a d)
    (r : (library L).Run d h u) (hall : ∀ m ∈ h, Aside L m)
    (hle : h.countP isPoll ≤ d.servedFirst) :
    Instructed rebound data a u ∧ u.servedFirst + h.countP isPoll = d.servedFirst := by
  induction r with
  | nil => exact ⟨hd, rfl⟩
  | @snoc h u r e ih =>
    obtain ⟨hm, hall⟩ := List.forall_mem_cons.mp hall
    rw [List.countP_cons] at hle ⊢
    obtain ⟨hu, hfirst⟩ := ih hall (Nat.le_of_add_right_le hle)
    cases hpoll : isPoll ((library L).move u e) with
    | true =>
      rw [hpoll, if_pos rfl] at hle
      obtain ⟨p, rfl⟩ := exists_pollEvent hpoll
      obtain ⟨hnext, hserved⟩ := hu.serve (L := L) (p := p) (n := u.servedFirst - 1) (by omega)
      refine ⟨hnext, ?_⟩
      rw [hserved, if_pos rfl]
      omega
    | false =>
      obtain ⟨hnext, hserved⟩ := hu.aside hm hpoll
      refine ⟨hnext, ?_⟩
      rw [hserved, if_neg Bool.false_ne_true]
      exact hfirst

end Instructed

end BootstrapWifi
