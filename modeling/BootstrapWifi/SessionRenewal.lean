import BootstrapWifi.Newest
import BootstrapWifi.SessionGate

namespace BootstrapWifi

open Mealy

variable {L : Layout} {h : List LibraryMove} {m x : LibraryMove} {d : Device} {e : Event}

/-- A HELLO that opens or renews a session. -/
def AcceptsHello (L : Layout) (m : LibraryMove) : Prop :=
  ∃ data random pkt, m.input.call = .networkInput data random ∧
    HelloAccepted L m.input.now data pkt m.pre.inst

def AcceptsCommand (L : Layout) (m : LibraryMove) : Prop :=
  ∃ data random pkt, m.input.call = .networkInput data random ∧
    (BindAccepted L m.input.now data pkt m.pre.inst ∨
      SetDataAccepted L m.input.now data pkt m.pre.inst)

def AcceptsPacket (L : Layout) (m : LibraryMove) : Prop := AcceptsHello L m ∨ AcceptsCommand L m

def Instance.nextExpiry (s : Instance) (now : Time) : Time := now + s.options.timeoutNonceMs

/-- What a move makes of the session. -/
inductive SessionMove (L : Layout) (m : LibraryMove) : Prop
  | renewed : AcceptsHello L m →
      m.post.inst.state.timeNonceValid = m.pre.inst.nextExpiry m.input.now →
      m.post.inst.options = m.pre.inst.options → SessionMove L m
  | served : AcceptsCommand L m → m.input.now ≤ m.pre.inst.state.timeNonceValid →
      m.post.inst.state.timeNonceValid = m.pre.inst.state.timeNonceValid →
      m.post.inst.options = m.pre.inst.options → SessionMove L m
  | ended : ¬ AcceptsPacket L m → m.post.inst.state.timeNonceValid = 0 →
      Resets m ∨ m.pre.inst.state.timeNonceValid < m.input.now → SessionMove L m
  | kept : ¬ AcceptsPacket L m →
      m.post.inst.state.timeNonceValid = m.pre.inst.state.timeNonceValid →
      m.post.inst.options = m.pre.inst.options → SessionMove L m

theorem post_of_input {data : List UInt8} {random : UInt64} {t : Instance}
    (hc : e.call = .networkInput data random)
    (ht : (bstNetworkInput L e.now random data d.inst).val = t) :
    ((library L).move d e).post.inst = t := by
  rw [move_post, step_networkInput L hc, Device.after_inst, ht]

theorem AcceptsHello.renews (ha : AcceptsHello L ((library L).move d e)) :
    ((library L).move d e).post.inst.state.timeNonceValid = d.inst.nextExpiry e.now ∧
      ((library L).move d e).post.inst.options = d.inst.options := by
  obtain ⟨data, random, pkt, hc, hh⟩ := ha
  obtain ⟨_, -, hframe⟩ := helloDone_frame d.inst e.now random pkt
  rw [post_of_input (d := d) (e := e) hc (networkInput_of_hello hh)]
  refine ⟨helloDone_timeNonceValid.trans (add_comm _ _), ?_⟩
  rw [hframe]

/-- BIND and SET_DATA leave the session as it is. -/
theorem AcceptsCommand.serves (ha : AcceptsCommand L ((library L).move d e))
    (hfit : BindFits L ((library L).move d e)) :
    e.now ≤ d.inst.state.timeNonceValid ∧
      ((library L).move d e).post.inst.state.timeNonceValid = d.inst.state.timeNonceValid ∧
      ((library L).move d e).post.inst.options = d.inst.options := by
  obtain ⟨data, random, pkt, hc, hb | hs⟩ := ha
  · rw [post_of_input (d := d) (e := e) hc (networkInput_of_bind hb),
      bindDone_of_le (hfit data random pkt hc hb)]
    exact ⟨hb.2.2.1, rfl, rfl⟩
  · rw [post_of_input (d := d) (e := e) hc (networkInput_of_setData hs)]
    exact ⟨hs.2.2.1, rfl, rfl⟩

theorem sessionMove (d : Device) (e : Event) (hfit : Contained L ((library L).move d e)) :
    SessionMove L ((library L).move d e) := by
  by_cases ha : AcceptsPacket L ((library L).move d e)
  · rcases ha with hh | hc
    · exact .renewed hh hh.renews.1 hh.renews.2
    · obtain ⟨hvalid, ht, ho⟩ := hc.serves hfit.2
      exact .served hc hvalid ht ho
  · cases moveEffect L d e hfit.1 with
    | reset hr _ ht => exact .ended ha ht (.inl hr)
    | quiet _ _ hs ho => exact .kept ha hs.timeNonceValid ho
    | input data random hc _ he =>
      have hopt := he.options
      generalize ht : ((library L).move d e).post.inst = t at he hopt
      cases he with
      | ignored => exact .kept ha (by rw [ht]) (by rw [ht])
      | expired hlt => exact .ended ha (by rw [ht]; rfl) (.inr hlt)
      | hello pkt hh => exact absurd (.inl ⟨data, random, pkt, hc, hh⟩) ha
      | bind pkt hb => exact absurd (.inr ⟨data, random, pkt, hc, .inl hb⟩) ha
      | setData pkt hs => exact absurd (.inr ⟨data, random, pkt, hc, .inr hs⟩) ha

/-- Whenever a session is valid its expiry lies the timeout after the last packet that was
accepted from its app. -/
def SessionRenewed (L : Layout) (h : List LibraryMove) : Prop :=
  ∀ later x earlier, h = later ++ x :: earlier → x.input.now ≤ x.post.inst.state.timeNonceValid →
    Newest (AcceptsPacket L)
      (fun m ↦ x.post.inst.state.timeNonceValid = x.post.inst.nextExpiry m.input.now)
      (x :: earlier)

/-- A command whose acceptance has to renew the session, and does not. -/
def CommandUnrenewed (L : Layout) (m : LibraryMove) : Prop :=
  AcceptsCommand L m ∧
    m.pre.inst.state.timeNonceValid ≠ m.pre.inst.nextExpiry m.input.now

theorem late_command_not_renewed (ha : AcceptsCommand L ((library L).move d e))
    (hfit : BindFits L ((library L).move d e))
    (hlate : d.inst.state.timeNonceValid ≠ d.inst.nextExpiry e.now) :
    ¬ SessionRenewed L ((library L).move d e :: h) := by
  intro hrenewed
  obtain ⟨hvalid, ht, ho⟩ := ha.serves hfit
  have hlast := hrenewed [] ((library L).move d e) h rfl (hvalid.trans_eq ht.symm)
  have hexpiry := (newest_cons_of (.inr ha)).mp hlast
  rw [ht, Instance.nextExpiry, ho] at hexpiry
  exact hlate hexpiry

/-- A session that is not closed was renewed with the newest packet. -/
def RenewedLast (L : Layout) (h : List LibraryMove) (d : Device) : Prop :=
  d.inst.state.timeNonceValid = 0 ∨
    Newest (AcceptsPacket L)
      (fun m ↦ d.inst.state.timeNonceValid = d.inst.nextExpiry m.input.now) h

theorem RenewedLast.step (hp : RenewedLast L h m.pre) (hm : SessionMove L m)
    (hc : ¬ CommandUnrenewed L m) : RenewedLast L (m :: h) m.post := by
  cases hm with
  | renewed ha ht ho =>
    right
    rw [newest_cons_of (.inl ha), ht, Instance.nextExpiry, Instance.nextExpiry, ho]
  | served ha _ ht ho =>
    have hrenewed : m.pre.inst.state.timeNonceValid = m.pre.inst.nextExpiry m.input.now := by
      by_contra hne
      exact hc ⟨ha, hne⟩
    right
    rw [newest_cons_of (.inr ha), ht, hrenewed, Instance.nextExpiry, Instance.nextExpiry, ho]
  | ended _ ht => exact .inl ht
  | kept ha ht ho =>
    unfold RenewedLast Instance.nextExpiry
    rw [ht, ho, newest_cons_of_not ha]
    exact hp

theorem renewedLast_of_run (r : (library L).Run .off h d) (hfit : ∀ m ∈ h, Contained L m)
    (hall : ∀ m ∈ h, ¬ CommandUnrenewed L m) : RenewedLast L h d :=
  r.moves_invariant (G := fun m ↦ Contained L m ∧ ¬ CommandUnrenewed L m) (.inl rfl)
    (fun _ d e hp hg ↦ hp.step (sessionMove d e hg.1) hg.2) fun m hm ↦ ⟨hfit m hm, hall m hm⟩

/-- Sessions are renewed with every packet unless a BIND or SET_DATA comes later than the
last renewal. -/
theorem session_renewed_iff (r : (library L).Run .off h d) (hclock : Clock h)
    (hfit : ∀ m ∈ h, Contained L m) :
    SessionRenewed L h ↔ ∀ m ∈ h, ¬ CommandUnrenewed L m := by
  constructor
  · intro hrenewed m hm hx
    obtain ⟨later, earlier, rfl⟩ := List.append_of_mem hm
    obtain ⟨-, he, -⟩ := r.split
    have hserved := (hfit m hm).2
    have hupto : SessionRenewed L (m :: earlier) := fun later' x earlier' hx ↦
      hrenewed (later ++ later') x earlier' (by rw [hx, List.append_assoc])
    rw [he] at hx hserved hupto
    exact late_command_not_renewed hx.1 hserved hx.2 hupto
  · intro hall later x earlier he hvalid
    subst he
    obtain ⟨hr, he, -⟩ := r.split
    have hrun : (library L).Run .off (x :: earlier) x.post := by
      rw [he]
      exact hr.snoc x.input
    have hmem (m : LibraryMove) (hm : m ∈ x :: earlier) : m ∈ later ++ x :: earlier :=
      List.mem_append_right _ hm
    have hlast : RenewedLast L (x :: earlier) x.post :=
      renewedLast_of_run hrun (fun m hm ↦ hfit m (hmem m hm)) fun m hm ↦ hall m (hmem m hm)
    refine hlast.resolve_left fun hzero ↦ ?_
    have hpos : 1 ≤ x.input.now := hclock.pos x (hmem x List.mem_cons_self)
    rw [hzero] at hvalid
    exact absurd (hpos.trans hvalid) (by decide)

theorem greeting_not_command {o : Options} {key nonce : List UInt8} {t : Time} {random : UInt64}
    (ho : o.Ready) (ht : 1 ≤ t) :
    ∀ m ∈ greetingHistory L o key t nonce random, ¬ AcceptsCommand L m := by
  simp only [greetingHistory, greeting, Machine.exec, step_setup_nil ho.1, step_connected ho,
    List.nil_append, List.cons_append]
  rintro m hm ⟨data, random', pkt, hc, hx⟩
  simp only [List.mem_cons, List.not_mem_nil, or_false] at hm
  rcases hm with rfl | rfl | rfl
  · have hvalid : t ≤ 0 := hx.elim (fun hb ↦ hb.2.2.1) fun hs ↦ hs.2.2.1
    exact absurd (ht.trans hvalid) (by decide)
  · cases hc
  · cases hc

theorem bind_accepted {now : Time} {newKey : List UInt8}
    (hm : d.inst.state.state = .waitingForData) (ht : now ≤ d.inst.state.timeNonceValid)
    (hf : d.inst.flags.requestBind = false) (hk : newKey.length ≤ 255) :
    AcceptsCommand L ((library L).move d (bindEvent L d now newKey)) :=
  ⟨_, _, _, rfl, .inl (bindAccepted_receivePkt hm ht hf hk)⟩

/-- The app binds the device in the very millisecond of its HELLO. -/
def promptBound : LibraryMove :=
  (library lp64).move sampleDevice (bindEvent lp64 sampleDevice 1 [9, 8, 7, 6])

theorem sample_session_renewed : SessionRenewed lp64 (promptBound :: sampleHistory) := by
  have hclock : Clock (promptBound :: sampleHistory) :=
    (clock_greeting sampleOptions_ready le_rfl).cons
      (fun m hm ↦ ((greeting_moves sampleOptions_ready m hm).2.1).le) le_rfl
  have hfit : ∀ m ∈ promptBound :: sampleHistory, Contained lp64 m :=
    List.forall_mem_cons.mpr ⟨⟨setup_of_not id, bindFits_bindEvent rfl (by decide)⟩,
      contained_greeting sampleOptions_ready⟩
  refine (session_renewed_iff (run_sample.snoc _) hclock hfit).mpr ?_
  refine List.forall_mem_cons.mpr ⟨fun hx ↦ hx.2 rfl, fun m hm hx ↦ ?_⟩
  exact greeting_not_command sampleOptions_ready le_rfl m hm hx.1

/-- A BIND one millisecond after the HELLO does not renew the session. -/
theorem bind_does_not_renew :
    (library lp64).Run .off (sampleBound [9, 8, 7, 6] :: sampleHistory)
        (sampleBound [9, 8, 7, 6]).post ∧
      Clock (sampleBound [9, 8, 7, 6] :: sampleHistory) ∧
      ¬ SessionRenewed lp64 (sampleBound [9, 8, 7, 6] :: sampleHistory) := by
  refine ⟨run_sample.snoc _, (clock_greeting sampleOptions_ready le_rfl).cons (fun m hm ↦ ?_)
    (show (1 : Time) ≤ 2 by decide), ?_⟩
  · exact (greeting_moves sampleOptions_ready m hm).2.1.trans_le (show (1 : Time) ≤ 2 by decide)
  · exact late_command_not_renewed (bind_accepted rfl (by decide) rfl (by decide))
      (bindFits_sampleBound (by decide)) (by decide)

end BootstrapWifi
