import BootstrapWifi.Overrun

namespace BootstrapWifi

open Mealy ByteBuffer

variable {L : Layout} {random : UInt64} {data pkt : List UInt8}
  {d : Device} {h : List LibraryMove}

def HelloMove (L : Layout) (m : LibraryMove) : Prop :=
  ∃ data random pkt, m.input.call = .networkInput data random ∧
    HelloAccepted L m.input.now data pkt m.pre.inst ∧
    m.post.inst.state.prvDeviceNonce.bytes = randomBytes random

/-- The session a HELLO opens or renews covers the time `t`. -/
def Covers (t : Time) (m : LibraryMove) : Prop :=
  m.input.now ≤ t ∧ t ≤ m.input.now + m.pre.inst.options.timeoutNonceMs

/-- Clock readings start at 1 and never decrease. -/
structure Clock (h : List LibraryMove) : Prop where
  mono : h.Pairwise fun later earlier ↦ earlier.input.now ≤ later.input.now
  pos : ∀ m ∈ h, 1 ≤ m.input.now

theorem Clock.append {later earlier : List LibraryMove} {m : LibraryMove}
    (hc : Clock (later ++ m :: earlier)) : ∀ x ∈ earlier, x.input.now ≤ m.input.now :=
  (List.pairwise_cons.mp (List.pairwise_append.mp hc.mono).2.1).1

theorem Clock.cons {m : LibraryMove} (hc : Clock h) (hle : ∀ x ∈ h, x.input.now ≤ m.input.now)
    (hpos : 1 ≤ m.input.now) : Clock (m :: h) :=
  ⟨List.pairwise_cons.mpr ⟨hle, hc.mono⟩, List.forall_mem_cons.mpr ⟨hpos, hc.pos⟩⟩

theorem clock_greeting {o : Options} {key appNonce : List UInt8} {t : Time} (ho : o.Ready)
    (ht : 1 ≤ t) : Clock (greetingHistory L o key t appNonce random) := by
  have hnow (m : LibraryMove) (hm : m ∈ greetingHistory L o key t appNonce random) :
      m.input.now = t := (greeting_moves ho m hm).2.1
  refine ⟨List.pairwise_of_forall_mem_list fun a ha b hb ↦ ?_, fun m hm ↦ (hnow m hm).symm ▸ ht⟩
  rw [hnow a ha, hnow b hb]

def Contained (L : Layout) (m : LibraryMove) : Prop := SetupFits m ∧ BindFits L m

/-- The expiry time of a session is that of a HELLO accepted since the last reset. -/
def SessionFounded (L : Layout) (h : List LibraryMove) (d : Device) : Prop :=
  d.inst.state.timeNonceValid = 0 ∨
    Since (fun m ↦ ¬ Resets m)
      (fun m ↦ HelloMove L m ∧
        d.inst.state.timeNonceValid = m.input.now + m.pre.inst.options.timeoutNonceMs) h

theorem SessionFounded.step {e : Event} (hd : SessionFounded L h d)
    (hfit : Contained L ((library L).move d e)) :
    SessionFounded L ((library L).move d e :: h) ((library L).step e d).1 := by
  have keep (hr : ¬ Resets ((library L).move d e))
      (ht : ((library L).step e d).1.inst.state.timeNonceValid = d.inst.state.timeNonceValid) :
      SessionFounded L ((library L).move d e :: h) ((library L).step e d).1 := by
    unfold SessionFounded
    rw [ht]
    exact hd.imp id fun hs ↦ .inr ⟨hr, hs⟩
  cases moveEffect L d e hfit.1 with
  | reset _ _ ht => exact .inl ht
  | input data random hc hr he =>
    generalize hp : ((library L).move d e).post.inst = t at he
    change ((library L).step e d).1.inst = t at hp
    rw [hp] at keep
    cases he with
    | ignored => exact keep hr rfl
    | expired =>
      left
      rw [hp]
      rfl
    | hello pkt hh =>
      refine .inr (.inl ⟨⟨data, random, pkt, hc, hh, ?_⟩, ?_⟩)
      · rw [move_post, hp]
        exact helloDone_prvDeviceNonce
      · rw [hp, helloDone_timeNonceValid]
        exact add_comm _ _
    | bind pkt hb =>
      refine keep hr ?_
      rw [bindDone_of_le (hfit.2 data random pkt hc hb)]
      rfl
    | setData => exact keep hr rfl
  | quiet _ hr hs => exact keep hr hs.timeNonceValid

theorem sessionFounded_of_run (r : (library L).Run .off h d) (hfit : ∀ m ∈ h, Contained L m) :
    SessionFounded L h d :=
  r.moves_invariant (G := Contained L) (.inl rfl) (fun _ _ _ hp hfit ↦ hp.step hfit) hfit

theorem SessionFounded.covers {m : LibraryMove} (hd : SessionFounded L h m.pre)
    (hpos : 1 ≤ m.input.now) (hle : ∀ x ∈ h, x.input.now ≤ m.input.now)
    (hv : m.input.now ≤ m.pre.inst.state.timeNonceValid) :
    Since (fun x ↦ ¬ Resets x) (fun x ↦ HelloMove L x ∧ Covers m.input.now x) h := by
  rcases hd with hz | hs
  · have hone : 1 ≤ m.pre.inst.state.timeNonceValid := hpos.trans hv
    rw [hz] at hone
    exact absurd hone (by decide)
  · refine hs.mono (fun _ _ hr ↦ hr) fun x hx ⟨hh, ht⟩ ↦ ⟨hh, hle x hx, ?_⟩
    rwa [ht] at hv

/-- Commands need a session: as long as no byte is written behind the secret, every BIND
or SET_DATA that takes effect lies in the time of a HELLO accepted since the last reset,
and between two SET_DATA that take effect there is a HELLO with a new device nonce. -/
theorem command_has_session (r : (library L).Run .off h d) (hclock : Clock h)
    (hfit : ∀ m ∈ h, Contained L m) :
    (∀ later m earlier, h = later ++ m :: earlier → BindTakesEffect m ∨ SetDataTakesEffect m →
      Since (fun x ↦ ¬ Resets x) (fun x ↦ HelloMove L x ∧ Covers m.input.now x) earlier) ∧
    ∀ later m₂ mid m₁ earlier, h = later ++ m₂ :: (mid ++ m₁ :: earlier) →
      SetDataTakesEffect m₁ → SetDataTakesEffect m₂ → ∃ m ∈ mid, HelloMove L m := by
  have session : ∀ later m earlier, h = later ++ m :: earlier →
      BindTakesEffect m ∨ SetDataTakesEffect m →
      Since (fun x ↦ ¬ Resets x) (fun x ↦ HelloMove L x ∧ Covers m.input.now x) earlier := by
    intro later m earlier he heffect
    subst he
    obtain ⟨hr, he, -⟩ := r.split
    have hm : m ∈ later ++ m :: earlier := by simp
    have hvalid : m.input.now ≤ m.pre.inst.state.timeNonceValid := by
      have hb := (hfit m hm).2
      rw [he] at heffect hb
      rcases heffect with hx | hx
      · obtain ⟨_, _, _, _, ha⟩ := bindTakesEffect_accepted hx
        exact ha.2.2.1
      · obtain ⟨_, _, _, _, ha⟩ := setDataTakesEffect_accepted hx hb
        exact ha.2.2.1
    have hfounded : SessionFounded L earlier m.pre :=
      sessionFounded_of_run hr fun x hx ↦ hfit x (by simp [hx])
    exact hfounded.covers (hclock.pos m hm) hclock.append hvalid
  refine ⟨session, ?_⟩
  intro later m₂ mid m₁ earlier he h₁ h₂
  subst he
  have hsince := session later m₂ (mid ++ m₁ :: earlier) rfl (.inr h₂)
  have hfit' : ∀ m ∈ mid, Contained L m := fun m hm ↦ hfit m (by simp [hm])
  obtain ⟨m, hm, hreset⟩ := exists_reset_between r (fun m hm ↦ (hfit' m hm).1)
    (fun m hm ↦ (hfit' m hm).2) (hfit m₁ (by simp)).2 (hfit m₂ (by simp)).2 h₁ h₂
  obtain ⟨x, hx, hh, -⟩ := hsince.mem_of_break hm (not_not.mpr hreset)
  exact ⟨x, hx, hh⟩

theorem contained_greeting {o : Options} {key appNonce : List UInt8} {t : Time} (ho : o.Ready) :
    ∀ m ∈ greetingHistory L o key t appNonce random, Contained L m :=
  fun m hm ↦ ⟨(greeting_setupReady ho m hm).fits, greeting_bindFits ho m hm⟩

def sampleSetData : LibraryMove :=
  (library lp64).move sampleDevice (setDataEvent lp64 sampleDevice 2 [97, 0, 98])

theorem sampleSetData_takesEffect : SetDataTakesEffect sampleSetData := by
  refine ⟨⟨_, _, rfl⟩, .inl ⟨rfl, ?_⟩⟩
  rw [sampleSetData, move_post, step_setDataEvent rfl (by decide) (.inl rfl) rfl]
  rfl

theorem sample_command_has_session :
    Since (fun x ↦ ¬ Resets x) (fun x ↦ HelloMove lp64 x ∧ Covers 2 x) sampleHistory := by
  have hclock : Clock (sampleSetData :: sampleHistory) := by
    refine (clock_greeting sampleOptions_ready le_rfl).cons (fun x hx ↦ ?_) (by decide)
    rw [(greeting_moves sampleOptions_ready x hx).2.1]
    decide
  have hfit : ∀ m ∈ sampleSetData :: sampleHistory, Contained lp64 m :=
    List.forall_mem_cons.mpr ⟨⟨setup_of_not id, bindFits_setDataEvent rfl⟩,
      contained_greeting sampleOptions_ready⟩
  exact (command_has_session (run_sample.snoc _) hclock hfit).1 [] sampleSetData sampleHistory rfl
    (.inr sampleSetData_takesEffect)

/-- A BIND with a key of 97 bytes extends the session it is sent in, so that SET_DATA
takes effect long after the last HELLO. -/
theorem forged_session_outlives_hello :
    (library lp64).Run .off (forgedSetData :: forgedServed :: forgedBind :: guardedHistory)
        forgedSetData.post ∧
      Clock (forgedSetData :: forgedServed :: forgedBind :: guardedHistory) ∧
      SetDataTakesEffect forgedSetData ∧
      ¬ Since (fun x ↦ ¬ Resets x) (fun x ↦ HelloMove lp64 x ∧ Covers forgedSetData.input.now x)
          (forgedServed :: forgedBind :: guardedHistory) := by
  have hnow (m : LibraryMove) (hm : m ∈ guardedHistory) : m.input.now = 1 :=
    (greeting_moves guardedOptions_ready m hm).2.1
  have htime₁ (t : Time) (ht : 1 ≤ t) : ∀ m ∈ guardedHistory, m.input.now ≤ t :=
    fun m hm ↦ (hnow m hm).trans_le ht
  have htime₂ (t : Time) (ht : 2 ≤ t) : ∀ m ∈ forgedBind :: guardedHistory, m.input.now ≤ t :=
    List.forall_mem_cons.mpr ⟨ht, htime₁ t (le_trans (by decide) ht)⟩
  have htime₃ : ∀ m ∈ forgedServed :: forgedBind :: guardedHistory, m.input.now ≤ 1000 :=
    List.forall_mem_cons.mpr ⟨show (3 : Time) ≤ 1000 by decide, htime₂ 1000 (by decide)⟩
  have hclock₁ : Clock guardedHistory := clock_greeting guardedOptions_ready le_rfl
  have hclock₂ : Clock (forgedBind :: guardedHistory) :=
    hclock₁.cons (htime₁ 2 (by decide)) (show (1 : Time) ≤ 2 by decide)
  have hclock₃ : Clock (forgedServed :: forgedBind :: guardedHistory) :=
    hclock₂.cons (htime₂ 3 (by decide)) (show (1 : Time) ≤ 3 by decide)
  have hclock : Clock (forgedSetData :: forgedServed :: forgedBind :: guardedHistory) :=
    hclock₃.cons htime₃ (show (1 : Time) ≤ 1000 by decide)
  have hpre : forgedSetData.pre.inst.flags.requestSetWifi = false := by
    rw [forgedSetData, move_pre, forgedServed_post.2.1]
    rfl
  have hserved : ¬ Covers 1000 forgedServed := by
    intro hcover
    have h := hcover.2
    rw [forgedServed, move_input, move_pre, forgedBind_post] at h
    exact absurd h (by decide)
  have hbind : ¬ Covers 1000 forgedBind := by
    intro hcover
    have h := hcover.2
    exact absurd h (by decide)
  have hgreeting : ∀ m ∈ guardedHistory, ¬ Covers 1000 m := by
    intro m hm hcover
    have h := hcover.2
    rw [hnow m hm] at h
    rcases greeting_options guardedOptions_ready m hm with ho | ho
    · rw [ho] at h
      exact absurd h (by decide)
    · rw [ho] at h
      exact absurd h (by decide)
  refine ⟨run_forged, hclock, ⟨⟨_, _, rfl⟩, .inl ⟨hpre, forgedSetData_post⟩⟩, fun hs ↦ ?_⟩
  obtain ⟨_, x, _, he, ⟨-, hcover⟩, -⟩ := since_iff.mp hs
  have hx : x ∈ forgedServed :: forgedBind :: guardedHistory := by
    rw [he]
    simp
  have hall : ∀ m ∈ forgedServed :: forgedBind :: guardedHistory, ¬ Covers 1000 m :=
    List.forall_mem_cons.mpr ⟨hserved, List.forall_mem_cons.mpr ⟨hbind, hgreeting⟩⟩
  exact hall x hx hcover

end BootstrapWifi
