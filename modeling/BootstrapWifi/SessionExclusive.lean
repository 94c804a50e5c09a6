import BootstrapWifi.AppRun

namespace BootstrapWifi

open Mealy ByteBuffer

variable {L : Layout} {now : Time} {random : UInt64} {data pkt : List UInt8} {s : Instance}

/-- While the session check holds, a HELLO with a foreign nonce changes neither the
session nor a flag. -/
def SessionExclusive (L : Layout) (now : Time) (s : Instance) : Prop :=
  (prvIsAppSessionValid now s).1 = true →
    ∀ data pkt random, Received L data pkt s → command pkt = cmdHello →
      appNonce pkt ≠ s.state.prvAppNonce.bytes →
      SameSession s (bstNetworkInput L now random data s).val ∧
        (bstNetworkInput L now random data s).val.flags = s.flags

/-- Once the session check fails, every HELLO opens a session of its own. -/
def SessionFree (L : Layout) (now : Time) (s : Instance) : Prop :=
  (prvIsAppSessionValid now s).1 = false →
    ∀ data pkt random, Received L data pkt s → command pkt = cmdHello →
      helloReceivePktSize ≤ pkt.length →
      let t := (bstNetworkInput L now random data s).val
      t.state.prvAppNonce.bytes = appNonce pkt ∧
        t.state.prvDeviceNonce.bytes = randomBytes random ∧
        t.state.timeNonceValid = s.options.timeoutNonceMs + now ∧ t.flags.requestWifiList = true

def foreignNonce (n : Buffer nonceSize) : List UInt8 := n.bytes.map (· + 1)

theorem length_foreignNonce (n : Buffer nonceSize) : (foreignNonce n).length = nonceSize := by
  rw [foreignNonce, List.length_map, n.length_eq]

theorem foreignNonce_ne (n : Buffer nonceSize) : foreignNonce n ≠ n.bytes := by
  obtain ⟨bytes, hl⟩ := n
  cases bytes with
  | nil => cases hl
  | cons b bs =>
    intro h
    have hb : b + 1 = b := (List.cons.inj h).1
    exact absurd hb (by simp)

theorem appNonce_plainPkt {n : List UInt8} (hl : n.length = nonceSize) :
    appNonce (plainPkt cmdHello n) = n := by
  rw [appNonce, content_plainPkt, List.take_of_length_le hl.le]

theorem helloDone_of_open (ho : SessionOpen now s) (hl : helloReceivePktSize ≤ pkt.length) :
    (s.helloDone now random pkt).state.prvAppNonce.bytes = appNonce pkt := by
  have hn : (appNonce pkt).length = nonceSize := by
    simp only [appNonce, content, List.length_take, List.length_drop, nonceSize,
      helloReceivePktSize_eq, receivePktSize_eq] at *
    omega
  unfold Instance.helloDone
  rw [if_pos ho]
  exact s.state.prvAppNonce.write_full hn

theorem networkInput_of_foreign_hello (hr : Received L data pkt s) (hc : command pkt = cmdHello)
    (ho : ¬ SessionOpen now s) (hn : appNonce pkt ≠ s.state.prvAppNonce.bytes) :
    (bstNetworkInput L now random data s).val = s := by
  rw [networkInput_of_received hr, if_pos hc, val_inputHello, if_neg]
  intro h
  rcases h.2 with h | h
  · exact ho h
  · exact hn h.symm

theorem not_sessionExclusive (hm : s.state.state = .waitingForData)
    (hvalid : now ≤ s.state.timeNonceValid) (hopen : SessionOpen now s) :
    ¬ SessionExclusive L now s := by
  intro hex
  have hl := length_foreignNonce s.state.prvAppNonce
  have hacc : HelloAccepted L now (receivePkt L s cmdHello (foreignNonce s.state.prvAppNonce))
      (plainPkt cmdHello (foreignNonce s.state.prvAppNonce)) s :=
    helloAccepted_receivePkt hm hl (.inl hopen)
  have hforeign := foreignNonce_ne s.state.prvAppNonce
  rw [← appNonce_plainPkt hl] at hforeign
  obtain ⟨hsame, -⟩ := hex (prvIsAppSessionValid_eq_true.mpr hvalid) _ _ 0 hacc.1 hacc.2.1 hforeign
  have hnonce := congrArg Buffer.bytes hsame.prvAppNonce
  rw [networkInput_of_hello hacc, helloDone_of_open hopen hacc.2.2.1] at hnonce
  exact hforeign hnonce

/-- The two session checks agree except at the very expiry time, and at the sentinel 0
before the clock reaches 1. -/
theorem session_checks_agree_iff (hm : s.state.state = .waitingForData) :
    (SessionExclusive L now s ∧ SessionFree L now s) ↔
      ¬ (s.state.timeNonceValid = now ∨ s.state.timeNonceValid = 0 ∧ now ≤ 0) := by
  constructor
  · intro hagree hboth
    refine not_sessionExclusive hm ?_ ?_ hagree.1
    · rcases hboth with h | ⟨h, hz⟩
      · exact h.ge
      · rwa [h]
    · rcases hboth with h | ⟨h, -⟩
      · exact .inr h.le
      · exact .inl h
  · intro hnot
    obtain ⟨hne, hzero⟩ := not_or.mp hnot
    constructor
    · intro hvalid data pkt random hr hc hn
      have hle := prvIsAppSessionValid_eq_true.mp hvalid
      have hclosed : ¬ SessionOpen now s := by
        intro hopen
        rcases hopen with h | h
        · exact hzero ⟨h, h ▸ hle⟩
        · exact hne (le_antisymm h hle)
      rw [networkInput_of_foreign_hello hr hc hclosed hn]
      exact ⟨.refl s, rfl⟩
    · intro hinvalid data pkt random hr hc hl
      have hlt : s.state.timeNonceValid < now := by
        refine not_le.mp fun hle ↦ ?_
        rw [prvIsAppSessionValid_eq_true.mpr hle] at hinvalid
        cases hinvalid
      have hopen : SessionOpen now s := .inr hlt.le
      rw [networkInput_of_hello ⟨hr, hc, hl, .inl hopen⟩]
      exact ⟨helloDone_of_open hopen hl, helloDone_prvDeviceNonce, helloDone_timeNonceValid, rfl⟩

theorem sample_session_checks_agree :
    SessionExclusive lp64 50 sampleDevice.inst ∧ SessionFree lp64 50 sampleDevice.inst :=
  (session_checks_agree_iff rfl).mpr (by decide)

/-- The session of the sample app ends at 101. At that time its own commands still pass,
and another app takes over. -/
theorem session_lost_at_expiry :
    (library lp64).Run .off sampleHistory sampleDevice ∧
      sampleDevice.inst.state.state = .waitingForData ∧
      (prvIsAppSessionValid 101 sampleDevice.inst).1 = true ∧
      ¬ SessionExclusive lp64 101 sampleDevice.inst :=
  ⟨run_sample, rfl, prvIsAppSessionValid_eq_true.mpr (by decide),
    not_sessionExclusive rfl (by decide) (by decide)⟩

end BootstrapWifi
