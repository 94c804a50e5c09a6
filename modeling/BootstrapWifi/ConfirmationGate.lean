import BootstrapWifi.SessionGate

namespace BootstrapWifi

open Mealy

variable {L : Layout} {now : Time} {random : UInt64} {data : List UInt8} {s t : Instance}
  {d : Device} {e : Event} {m : LibraryMove} {h : List LibraryMove}

def SetupConfirms (m : LibraryMove) : Prop :=
  ∀ o data key, m.input.call = .setup o data key → o.externalConfirmationMode = .alwaysRequired

def Confirms (m : LibraryMove) : Prop := m.input.call = .confirmBootstrap

/-- Confirmations are demanded, or the library has not been set up. -/
def ConfirmationAsked (s : Instance) : Prop :=
  s.options.externalConfirmationMode = .alwaysRequired ∨
    ¬ s.options.Ready ∧ s.state.state = .uninitialized

theorem Options.bootstrapped_of_alwaysRequired {o : Options}
    (ho : o.externalConfirmationMode = .alwaysRequired) : o.bootstrapped = o := by
  refine if_neg ?_
  rw [ho]
  simp

theorem ConfirmationAsked.periodic {r : Instance × List Action} (hs : ConfirmationAsked s)
    (heff : PeriodicEffect L now s r) : ConfirmationAsked r.1 := by
  rcases hs with ho | hoff
  · exact .inl (heff.options ▸ ho)
  · cases heff with
    | off => exact .inr hoff
    | factoryReset ho => exact absurd ho hoff.1
    | bind ho => exact absurd ho hoff.1
    | wifiList ho => exact absurd ho hoff.1
    | setWifi ho => exact absurd ho hoff.1
    | poll ho => exact absurd ho hoff.1

theorem ConfirmationAsked.networkInput (hs : ConfirmationAsked s) :
    ConfirmationAsked (bstNetworkInput L now random data s).val := by
  rcases hs with ho | hoff
  · exact .inl ((networkInput_effect L now random data s).options ▸ ho)
  · have hnot : ∀ pkt, ¬ Received L data pkt s := by
      intro pkt hr
      have hw := hr.1
      rw [hoff.2] at hw
      cases hw
    rw [networkInput_of_not_received hnot]
    exact .inr hoff

theorem ConfirmationAsked.step (hd : ConfirmationAsked d.inst)
    (hset : SetupConfirms ((library L).move d e)) :
    ConfirmationAsked ((library L).step e d).1.inst := by
  obtain ⟨now, call⟩ := e
  cases call with
  | setup o data key =>
    have ho := hset o data key rfl
    have hopt : (bstSetup L now o data key).1.options = o := by
      rw [bstSetup_options, Options.bootstrapped_of_alwaysRequired ho, ite_self]
    refine .inl ?_
    change (bstSetup L now o data key).1.options.externalConfirmationMode = .alwaysRequired
    rw [hopt, ho]
  | periodic conn => exact hd.periodic (bstPeriodic_effect L now conn d.inst)
  | networkInput data random => exact hd.networkInput
  | _ => exact hd

/-- The confirmation flag is that of a `bst_confirm_bootstrap()` call since the last reset. -/
def ConfirmationFounded (h : List LibraryMove) (d : Device) : Prop :=
  d.inst.flags.externalConfirmation = true → Since (fun m ↦ ¬ Resets m) Confirms h

theorem InputEffect.externalConfirmation (heff : InputEffect L now random data s t)
    (hfit : ∀ pkt, BindAccepted L now data pkt s → (newBindKeyLen pkt).toNat ≤ bindkeyMaxSize) :
    t.flags.externalConfirmation = s.flags.externalConfirmation := by
  cases heff with
  | hello pkt =>
    obtain ⟨_, -, ht⟩ := helloDone_frame s now random pkt
    rw [ht]
  | bind pkt hb => rw [bindDone_of_le (hfit pkt hb)]
  | _ => rfl

theorem ConfirmationFounded.step (hd : ConfirmationFounded h d)
    (hfit : Contained L ((library L).move d e)) :
    ConfirmationFounded ((library L).move d e :: h) ((library L).step e d).1 := by
  refine flag_founded_step L rfl hfit.1 hd fun hr hconf ↦ ?_
  cases moveEffect L d e hfit.1 with
  | reset hreset => exact absurd hreset hr
  | input data random hc _ he =>
    have hsame := he.externalConfirmation fun pkt ↦ hfit.2 data random pkt hc
    exact .inl (hsame ▸ hconf)
  | quiet _ _ _ _ _ hx =>
    rcases hx with hf | hc
    · exact .inl (hf ▸ hconf)
    · exact .inr hc

theorem confirmationFounded_off : ConfirmationFounded [] .off := by
  intro hconf
  cases hconf

theorem confirmationAsked_off : ConfirmationAsked Device.off.inst :=
  .inr ⟨fun ho ↦ absurd ho.1 (by decide), rfl⟩

theorem confirmation_of_run (r : (library L).Run .off h d) (hfit : ∀ m ∈ h, Contained L m)
    (hset : ∀ m ∈ h, SetupConfirms m) : ConfirmationFounded h d ∧ ConfirmationAsked d.inst :=
  r.moves_invariant (P := fun h d ↦ ConfirmationFounded h d ∧ ConfirmationAsked d.inst)
    (G := fun m ↦ Contained L m ∧ SetupConfirms m)
    ⟨confirmationFounded_off, confirmationAsked_off⟩
    (fun _ _ _ hp hg ↦ ⟨hp.1.step hg.1, hp.2.step hg.2⟩) fun m hm ↦ ⟨hfit m hm, hset m hm⟩

/-- Confirmation gate: as long as no byte is written behind the secret, every SET_DATA that
takes effect has its own confirmation, given since the last reset. -/
theorem set_data_has_confirmation (r : (library L).Run .off h d) (hfit : ∀ m ∈ h, Contained L m)
    (hset : ∀ m ∈ h, SetupConfirms m) :
    (∀ later m earlier, h = later ++ m :: earlier → SetDataTakesEffect m →
      Since (fun x ↦ ¬ Resets x) Confirms earlier) ∧
    ∀ later m₂ mid m₁ earlier, h = later ++ m₂ :: (mid ++ m₁ :: earlier) →
      SetDataTakesEffect m₁ → SetDataTakesEffect m₂ → ∃ m ∈ mid, Confirms m := by
  have gate : ∀ later m earlier, h = later ++ m :: earlier → SetDataTakesEffect m →
      Since (fun x ↦ ¬ Resets x) Confirms earlier := by
    intro later m earlier he htakes
    subst he
    obtain ⟨hr, he, -⟩ := r.split
    have hb := (hfit m (by simp)).2
    rw [he] at htakes hb
    obtain ⟨_, _, _, _, ha⟩ := setDataTakesEffect_accepted htakes hb
    obtain ⟨hfounded, hasked⟩ := confirmation_of_run hr (fun x hx ↦ hfit x (by simp [hx]))
      fun x hx ↦ hset x (by simp [hx])
    obtain ⟨hreceived, -, -, -, hconf, -⟩ := ha
    refine hfounded (hconf.resolve_left fun hnot ↦ ?_)
    rcases hasked with ho | ⟨-, hoff⟩
    · rw [ho] at hnot
      cases hnot
    · have hw := hreceived.1
      rw [hoff] at hw
      cases hw
  refine ⟨gate, ?_⟩
  intro later m₂ mid m₁ earlier he h₁ h₂
  subst he
  have hsince := gate later m₂ (mid ++ m₁ :: earlier) rfl h₂
  have hfit' : ∀ m ∈ mid, Contained L m := fun m hm ↦ hfit m (by simp [hm])
  obtain ⟨m, hm, hreset⟩ := exists_reset_between r (fun m hm ↦ (hfit' m hm).1)
    (fun m hm ↦ (hfit' m hm).2) (hfit m₁ (by simp)).2 (hfit m₂ (by simp)).2 h₁ h₂
  exact hsince.mem_of_break hm (not_not.mpr hreset)

theorem guardedHistory_confirms : ∀ m ∈ guardedHistory, SetupConfirms m := by
  intro m hm o data key hc
  rw [(greeting_moves guardedOptions_ready m hm).1 o data key hc]
  rfl

def confirmedMove : LibraryMove := (library lp64).move guardedDevice ⟨2, .confirmBootstrap⟩

def confirmedSetData : LibraryMove :=
  (library lp64).move confirmedMove.post (setDataEvent lp64 confirmedMove.post 3 [97, 0, 98])

theorem sample_set_data_has_confirmation :
    Since (fun x ↦ ¬ Resets x) Confirms (confirmedMove :: guardedHistory) := by
  have htakes : SetDataTakesEffect confirmedSetData := by
    refine ⟨⟨_, _, rfl⟩, .inl ⟨rfl, ?_⟩⟩
    rw [confirmedSetData, move_post, step_setDataEvent rfl (by decide) (.inr rfl) rfl]
    rfl
  have hr : (library lp64).Run .off (confirmedSetData :: confirmedMove :: guardedHistory)
      confirmedSetData.post := ((run_greeting guardedOptions_ready rfl).snoc _).snoc _
  have hfit : ∀ m ∈ confirmedSetData :: confirmedMove :: guardedHistory, Contained lp64 m :=
    List.forall_mem_cons.mpr ⟨⟨setup_of_not id, bindFits_setDataEvent rfl⟩,
      List.forall_mem_cons.mpr ⟨⟨setup_of_not id, bindFits_of_call nofun⟩,
        contained_greeting guardedOptions_ready⟩⟩
  have hset : ∀ m ∈ confirmedSetData :: confirmedMove :: guardedHistory, SetupConfirms m :=
    List.forall_mem_cons.mpr ⟨setup_of_not id,
      List.forall_mem_cons.mpr ⟨setup_of_not id, guardedHistory_confirms⟩⟩
  exact (set_data_has_confirmation hr hfit hset).1 [] confirmedSetData _ rfl htakes

theorem greeting_not_confirms {o : Options} {key appNonce : List UInt8} {t : Time} (ho : o.Ready) :
    ∀ m ∈ greetingHistory L o key t appNonce random, ¬ Confirms m := by
  simp only [greetingHistory, greeting, Machine.exec, step_setup_nil ho.1, step_connected ho,
    List.nil_append, List.cons_append]
  intro m hm hc
  simp only [List.mem_cons, List.not_mem_nil, or_false] at hm
  rcases hm with rfl | rfl | rfl <;> cases hc

/-- A BIND with a key of 97 bytes sets the confirmation flag, so that SET_DATA takes effect
in a run without a single `bst_confirm_bootstrap()` call. -/
theorem forged_confirmation :
    (library lp64).Run .off (forgedSetData :: forgedServed :: forgedBind :: guardedHistory)
        forgedSetData.post ∧
      (∀ m ∈ forgedSetData :: forgedServed :: forgedBind :: guardedHistory, SetupConfirms m) ∧
      SetDataTakesEffect forgedSetData ∧
      ∀ m ∈ forgedSetData :: forgedServed :: forgedBind :: guardedHistory, ¬ Confirms m := by
  have hpre : forgedSetData.pre.inst.flags.requestSetWifi = false := by
    rw [forgedSetData, move_pre, forgedServed_post.2.1]
    rfl
  refine ⟨run_forged, ?_, ⟨⟨_, _, rfl⟩, .inl ⟨hpre, forgedSetData_post⟩⟩, ?_⟩
  · exact List.forall_mem_cons.mpr ⟨setup_of_not id, List.forall_mem_cons.mpr
      ⟨setup_of_not id, List.forall_mem_cons.mpr
        ⟨setup_of_not id, guardedHistory_confirms⟩⟩⟩
  · intro m hm hc
    simp only [List.mem_cons] at hm
    rcases hm with rfl | rfl | rfl | hm
    · cases hc
    · cases hc
    · cases hc
    · exact greeting_not_confirms guardedOptions_ready m hm hc

end BootstrapWifi
