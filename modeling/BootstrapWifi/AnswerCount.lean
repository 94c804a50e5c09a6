import BootstrapWifi.AttemptLimits

namespace BootstrapWifi

open Mealy

variable {L : Layout} {now : Time} {random : UInt64} {data pkt : List UInt8} {s t : Instance}
  {d : Device} {e : Event} {m : LibraryMove} {h : List LibraryMove}

def Action.isScan : Action → Bool
  | .requestWifiNetworkList => true
  | _ => false

instance : Decidable (Received L data pkt s) := inferInstanceAs (Decidable (_ ∧ _ ∧ _))

instance : Decidable (HelloAccepted L now data pkt s) :=
  inferInstanceAs (Decidable (_ ∧ _ ∧ _ ∧ (_ ∨ _)))

instance : Decidable (BindAccepted L now data pkt s) :=
  inferInstanceAs (Decidable (_ ∧ _ ∧ _ ∧ _ ∧ _))

/-- The device accepts a HELLO or a BIND. -/
def asksForList (L : Layout) (m : LibraryMove) : Bool :=
  match m.input.call with
  | .networkInput data _ =>
    let pkt := decryptedPacket L data m.pre.inst
    decide (HelloAccepted L m.input.now data pkt m.pre.inst ∨
      BindAccepted L m.input.now data pkt m.pre.inst)
  | _ => false

theorem asksForList_of_accepted (hc : m.input.call = .networkInput data random)
    (ha : HelloAccepted L m.input.now data pkt m.pre.inst ∨
      BindAccepted L m.input.now data pkt m.pre.inst) : asksForList L m = true := by
  have hpkt : pkt = decryptedPacket L data m.pre.inst := by
    rcases ha with ha | ha
    · exact (received_iff.mp ha.1).2.2.2.1
    · exact (received_iff.mp ha.1).2.2.2.1
  rw [hpkt] at ha
  rw [asksForList, hc]
  exact decide_eq_true ha

/-- How many scans wait to be asked for. -/
def Flags.scans (f : Flags) : ℕ := f.requestWifiList.toNat + f.requestBind.toNat

theorem PollEffect.scans {r : Instance × List Action} (heff : PollEffect now s r) :
    r.2.countP Action.isScan = 0 ∧ r.1.flags.scans ≤ s.flags.scans := by
  have routine {acts : List Action} (ha : ∀ a ∈ acts, a.Routine s) :
      acts.countP Action.isScan = 0 := by
    rw [List.countP_eq_zero]
    intro a hmem hscan
    have hr := ha a hmem
    cases a with
    | requestWifiNetworkList => exact hr
    | _ => cases hscan
  cases heff with
  | stay hd _ _ ha =>
    refine ⟨routine ha, ?_⟩
    rw [hd.flags]
  | bootstrapped _ _ _ ha =>
    refine ⟨?_, Nat.zero_le _⟩
    rw [List.countP_append, routine ha]
    rfl
  | fellBack => exact ⟨rfl, Nat.zero_le _⟩

theorem PeriodicEffect.scans {r : Instance × List Action} (heff : PeriodicEffect L now s r) :
    r.2.countP Action.isScan + r.1.flags.scans ≤ s.flags.scans := by
  cases heff with
  | off => exact (Nat.zero_add _).le
  | factoryReset ho =>
    rw [serveFactoryReset_eq L ho]
    exact Nat.zero_le _
  | bind _ _ hb =>
    simp only [serveBind, Flags.scans, hb]
    simp [Action.isScan, Nat.add_comm]
  | wifiList _ _ hb hl =>
    simp only [Flags.scans, hb, hl]
    simp [Action.isScan]
  | setWifi => exact Nat.zero_le _
  | poll _ _ _ _ _ hp =>
    obtain ⟨hnone, hle⟩ := hp.scans
    rw [hnone, Nat.zero_add]
    exact hle

theorem InputEffect.scans (heff : InputEffect L now random data s t)
    (hfit : ∀ pkt, BindAccepted L now data pkt s → (newBindKeyLen pkt).toNat ≤ bindkeyMaxSize) :
    t.flags.scans ≤ s.flags.scans ∨ t.flags.scans ≤ s.flags.scans + 1 ∧
      ∃ pkt, HelloAccepted L now data pkt s ∨ BindAccepted L now data pkt s := by
  cases heff with
  | ignored => exact .inl le_rfl
  | expired => exact .inl le_rfl
  | hello pkt hh =>
    obtain ⟨_, -, ht⟩ := helloDone_frame s now random pkt
    rw [ht]
    refine .inr ⟨?_, pkt, .inl hh⟩
    simp only [Flags.scans, Bool.toNat_true]
    omega
  | bind pkt hb =>
    rw [bindDone_of_le (hfit pkt hb)]
    refine .inr ⟨?_, pkt, .inr hb⟩
    simp only [Flags.scans, hb.2.2.2.2]
    simp
  | setData pkt => exact .inl le_rfl

theorem scans_step (hfit : Contained L ((library L).move d e)) :
    ((library L).step e d).2.countP Action.isScan + ((library L).step e d).1.inst.flags.scans ≤
      d.inst.flags.scans + if asksForList L ((library L).move d e) then 1 else 0 := by
  have quiet {n : ℕ} (hn : n ≤ d.inst.flags.scans) :
      n ≤ d.inst.flags.scans + if asksForList L ((library L).move d e) then 1 else 0 :=
    hn.trans (Nat.le_add_right _ _)
  obtain ⟨now, call⟩ := e
  cases call with
  | setup o data key =>
    have hflags := (bstSetup_cleared L now data key (hfit.1 o data key rfl)).1
    have heff := bstSetup_effect L now o data key
    have hnone : (bstSetup L now o data key).2.countP Action.isScan = 0 := by
      generalize bstSetup L now o data key = r at heff
      cases heff <;> rfl
    refine quiet ?_
    change (bstSetup L now o data key).2.countP Action.isScan +
      (bstSetup L now o data key).1.flags.scans ≤ _
    rw [hnone, hflags]
    exact Nat.zero_le _
  | periodic conn => exact quiet (bstPeriodic_effect L now conn d.inst).scans
  | networkInput data random =>
    change 0 + (bstNetworkInput L now random data d.inst).val.flags.scans ≤ _
    rw [Nat.zero_add]
    rcases (networkInput_effect L now random data d.inst).scans
      (fun pkt ↦ hfit.2 data random pkt rfl) with hle | ⟨hle, pkt, ha⟩
    · exact quiet hle
    · rwa [asksForList_of_accepted rfl ha, if_pos rfl]
  | wifiNetworkList list =>
    have hnone : (bstWifiNetworkList L list d.inst).countP Action.isScan = 0 :=
      List.countP_eq_zero.mpr (wifiNetworkList_only fun _ ↦ Bool.false_ne_true)
    refine quiet ?_
    change (bstWifiNetworkList L list d.inst).countP Action.isScan + d.inst.flags.scans ≤ _
    rw [hnone, Nat.zero_add]
  | setErrorMessage => exact quiet (Nat.zero_add _).le
  | factoryReset => exact quiet (Nat.zero_add _).le
  | confirmBootstrap => exact quiet (Nat.zero_add _).le

/-- The platform is asked for no more scans than there were packets that deserve one, however
the calls are interleaved: packets that are refused cost no scan, and none is asked for twice. -/
theorem scans_have_packets (r : (library L).Run .off h d) (hfit : ∀ m ∈ h, Contained L m) :
    calls Action.isScan h + d.inst.flags.scans ≤ h.countP (asksForList L) := by
  refine r.moves_invariant (G := Contained L)
    (P := fun h d ↦ calls Action.isScan h + d.inst.flags.scans ≤ h.countP (asksForList L))
    le_rfl ?_ hfit
  intro h d e ih hfit
  have hstep := scans_step hfit
  rw [calls_cons, List.countP_cons, move_output]
  omega

theorem sample_scans_have_packets :
    calls Action.isScan sampleHistory + sampleDevice.inst.flags.scans ≤
      sampleHistory.countP (asksForList lp64) :=
  scans_have_packets run_sample (contained_greeting sampleOptions_ready)

end BootstrapWifi
