import BootstrapWifi.Keystream
import BootstrapWifi.SpritzState
import Mathlib.Data.Finite.Prod
import Mathlib.Data.Finite.Sigma
import Mathlib.Data.Fintype.Pi

namespace BootstrapWifi.Spritz

open State StreamCipher Function

instance : Finite State := by
  refine Finite.of_injective
    (fun st : State ↦ (st.read, st.a, st.i, st.j, st.k, st.w, st.z)) fun st st' h ↦ ?_
  simp only [Prod.mk.injEq] at h
  obtain ⟨hr, ha, hi, hj, hk, hw, hz⟩ := h
  exact SameRegisters.eq ⟨ha, hi, hj, hk, hw, hz⟩ hr

theorem update_injective {st st' : State} (h : st.WellFormed)
    (he : update st = update st') : st = st' := by
  have hfield (f : State → UInt8) := congrArg f he
  have ha : st.a = st'.a := hfield State.a
  have hz : st.z = st'.z := hfield State.z
  have hw : st.w = st'.w := hfield State.w
  have hi : st.i = st'.i := by
    have hsum : st.i + st.w = st'.i + st'.w := hfield State.i
    rw [hw] at hsum
    exact (UInt8.add_left_inj _).mp hsum
  have hread : st.read = st'.read := by
    funext x
    have h1 := read_update st (Equiv.swap (update st').i (update st').j x)
    have h2 := read_update st' (Equiv.swap (update st').i (update st').j x)
    rw [he, h2, Equiv.swap_apply_self] at h1
    exact h1.symm
  have hk : st.k = st'.k := by
    have hsum : (update st).i + st.k + st.read (update st).j =
        (update st').i + st'.k + st'.read (update st').j := hfield State.k
    rw [he, hread] at hsum
    exact (UInt8.add_right_inj _).mp ((UInt8.add_left_inj _).mp hsum)
  have hj : st.j = st'.j := by
    have hsum : st.k + st.read (st.j + st.read (st.i + st.w)) =
        st'.k + st'.read (st'.j + st'.read (st'.i + st'.w)) := hfield State.j
    rw [hk, ← hread, ← hi, ← hw] at hsum
    have hy := h.injective ((UInt8.add_right_inj _).mp hsum)
    exact (UInt8.add_left_inj _).mp hy
  exact SameRegisters.eq ⟨ha, hi, hj, hk, hw, hz⟩ hread

theorem output_injective {st st' : State} (h : st.WellFormed)
    (he : (output st).2 = (output st').2) : st = st' := by
  have hfield (f : State → UInt8) := congrArg f he
  have ha : st.a = st'.a := hfield State.a
  have hi : st.i = st'.i := hfield State.i
  have hj : st.j = st'.j := hfield State.j
  have hk : st.k = st'.k := hfield State.k
  have hw : st.w = st'.w := hfield State.w
  have hread : st.read = st'.read := funext fun x ↦ hfield fun st ↦ st.read x
  have hz : st.z = st'.z := by
    have hout : st.read (st.j + st.read (st.i + st.read (st.z + st.k))) =
        st'.read (st'.j + st'.read (st'.i + st'.read (st'.z + st'.k))) := hfield State.z
    rw [← hread, ← hi, ← hj, ← hk] at hout
    have h1 := (UInt8.add_right_inj _).mp (h.injective hout)
    have h2 := (UInt8.add_right_inj _).mp (h.injective h1)
    exact (UInt8.add_left_inj _).mp (h.injective h2)
  exact SameRegisters.eq ⟨ha, hi, hj, hk, hw, hz⟩ hread

/-- Nothing is left to shuffle in, so that a byte is made of the state as it is. -/
structure Ready (st : State) : Prop where
  wellFormed : st.WellFormed
  counter : st.a = 0

/-- The state that the first drip starts from. -/
def ready (st : State) : State := if st.a > 0 then shuffle st else st

theorem ready_ready {st : State} (h : st.WellFormed) : Ready (ready st) := by
  refine ⟨wellFormed_squeezed h, ?_⟩
  unfold ready
  split
  · exact shuffle_a st
  next ha =>
    exact UInt8.le_antisymm (UInt8.not_lt.mp ha) UInt8.zero_le

theorem ready_of_ready {st : State} (h : Ready st) : ready st = st := by
  unfold ready
  rw [if_neg]
  rw [h.counter]
  decide

theorem drip_eq (st : State) : drip st = output (update (ready st)) := rfl

theorem drip_ready {st : State} (h : st.WellFormed) : drip (ready st) = drip st := by
  rw [drip_eq, drip_eq, ready_of_ready (ready_ready h)]

theorem reversible_drip : Reversible drip Ready where
  keeps := fun {st} h ↦ by
    refine ⟨wellFormed_drip h.wellFormed, ?_⟩
    rw [advance, drip_eq, ready_of_ready h]
    exact h.counter
  injective := fun {st st'} h h' he ↦ by
    rw [advance, advance, drip_eq, drip_eq, ready_of_ready h, ready_of_ready h'] at he
    exact update_injective h.wellFormed (output_injective (wellFormed_update h.wellFormed) he)

/-- Every byte moves the index by the step, which only a shuffle changes. -/
theorem index_advance {st : State} (h : Ready st) (n : ℕ) :
    ((advance drip)^[n] st).w = st.w ∧
      ((advance drip)^[n] st).i.toNat = (st.i.toNat + n * st.w.toNat) % 256 := by
  induction n generalizing st with
  | zero =>
    have hlt := st.i.toNat_lt
    refine ⟨rfl, ?_⟩
    simp only [iterate_zero, id_eq]
    omega
  | succ n ih =>
    have hone : advance drip st = (output (update st)).2 := by
      rw [advance, drip_eq, ready_of_ready h]
    have hw : (advance drip st).w = st.w := by
      rw [hone]
      rfl
    have hi : (advance drip st).i = st.i + st.w := by
      rw [hone]
      rfl
    obtain ⟨hwn, hin⟩ := ih (reversible_drip.keeps h)
    rw [iterate_succ_apply]
    refine ⟨hwn.trans hw, hin.trans ?_⟩
    rw [hw, hi, UInt8.toNat_add, Nat.add_mul, Nat.one_mul, Nat.mod_add_mod]
    congr 1
    omega

theorem period_dvd {st : State} (h : Ready st) : 256 ∣ minimalPeriod (advance drip) st := by
  have hback : (advance drip)^[minimalPeriod (advance drip) st] st = st := iterate_minimalPeriod
  have hi := (index_advance h (minimalPeriod (advance drip) st)).2
  have hlt := st.i.toNat_lt
  rw [hback] at hi
  have hdvd : 256 ∣ minimalPeriod (advance drip) st * st.w.toNat := by omega
  have hcop : Nat.Coprime 256 st.w.toNat :=
    Nat.Coprime.pow_left 8 (Nat.coprime_two_left.mpr h.wellFormed.odd)
  exact hcop.dvd_of_dvd_mul_right hdvd

theorem getElem?_drips {st : State} (n i : ℕ) :
    (drips n st).1[i]? = if i < n then some (symbol drip st i) else none := by
  induction n generalizing st i with
  | zero => rfl
  | succ n ih =>
    cases i with
    | zero => rfl
    | succ i =>
      rw [drips, List.getElem?_cons_succ, ih]
      simp only [Nat.add_lt_add_iff_right]
      rfl

theorem eq_drips_iff {st : State} {n : ℕ} {out : List UInt8} :
    out = (drips n st).1 ↔ out.length = n ∧ ∀ i < n, out[i]? = some (symbol drip st i) := by
  constructor
  · rintro rfl
    have hend : ∀ i, (drips n st).1[i]? = if i < n then some (symbol drip st i) else none :=
      getElem?_drips n
    refine ⟨?_, fun i hi ↦ by rw [hend, if_pos hi]⟩
    refine Nat.le_antisymm (List.getElem?_eq_none_iff.mp ?_) (Nat.le_of_not_lt fun hlt ↦ ?_)
    · rw [hend, if_neg (Nat.lt_irrefl n)]
    · have hnone := hend (drips n st).1.length
      rw [List.getElem?_eq_none le_rfl, if_pos hlt] at hnone
      cases hnone
  · rintro ⟨hlen, hget⟩
    refine List.ext_getElem? fun i ↦ ?_
    rw [getElem?_drips]
    split
    next hi => exact hget i hi
    next hi => exact List.getElem?_eq_none (hlen.trans_le (Nat.le_of_not_lt hi))

/-- What `spritz_hash` and `spritz_auth` do once everything has been absorbed. -/
theorem digest_eq_some_iff {st : State} {outlen : ℕ} {out : List UInt8} :
    (if outlen > 255 then none else some (squeeze outlen st).1) = some out ↔
      outlen ≤ 255 ∧ out.length = outlen ∧
        ∀ i < outlen, out[i]? = some (symbol drip (ready st) i) := by
  rw [← eq_drips_iff]
  split
  next hl => exact iff_of_false nofun fun h ↦ absurd h.1 (Nat.not_le_of_lt hl)
  next hl =>
    rw [Option.some.injEq, and_iff_right (Nat.le_of_not_lt hl), eq_comm]
    rfl

/-- A hash is made of the first bytes that the generator gives once the message and the length
asked for have been absorbed; there is none of more than 255 bytes. -/
theorem spritzHash_eq_some_iff {outlen : ℕ} {msg out : List UInt8} :
    spritzHash outlen msg = some out ↔ outlen ≤ 255 ∧ out.length = outlen ∧
      ∀ i < outlen, out[i]? = some (symbol drip (ready (hashState outlen.toUInt8 msg)) i) :=
  digest_eq_some_iff

theorem spritzAuth_eq_some_iff {outlen : ℕ} {msg key out : List UInt8} :
    spritzAuth outlen msg key = some out ↔ outlen ≤ 255 ∧ out.length = outlen ∧
      ∀ i < outlen, out[i]? = some (symbol drip (ready (authState outlen.toUInt8 msg key)) i) :=
  digest_eq_some_iff

/-- How many bytes the generator gives until it is back in the state. -/
noncomputable def period (st : State) : ℕ := minimalPeriod (advance drip) st

/-- `spritz_stream` gives the same bytes whatever number of them is asked for, and its bytes
repeat with a multiple of 256 too. -/
theorem stream_cycle (key : List UInt8) :
    0 < period (ready (keySetup key)) ∧ 256 ∣ period (ready (keySetup key)) ∧
      ∀ outlen i, (spritzStream outlen key)[i]? =
        if i < outlen then some (symbol drip (ready (keySetup key))
          (i % period (ready (keySetup key)))) else none := by
  have hready : Ready (ready (keySetup key)) :=
    ready_ready (wellFormed_absorb wellFormed_initializeState key)
  have hp := reversible_drip.mem_periodicPts hready
  refine ⟨minimalPeriod_pos_of_mem_periodicPts hp, period_dvd hready, fun outlen i ↦ ?_⟩
  rw [period, symbol_mod_period]
  exact getElem?_drips outlen i

/-- The bytes that protect a message are those of one cycle of states, gone through again and
again from its first state on. No state comes twice in a cycle, and its length is a multiple
of 256. -/
theorem encrypt_cycle (nonce key : List UInt8) :
    ∃ st p, 0 < p ∧ 256 ∣ p ∧
      (∀ m n, (advance drip)^[m] st = (advance drip)^[n] st ↔ m % p = n % p) ∧
      ∀ msg n, (spritzEncrypt msg nonce key)[n]? = msg[n]?.map (· + symbol drip st (n % p)) := by
  have hwf := wellFormed_session nonce key
  have hready : Ready (ready (session nonce key)) := ready_ready hwf
  have hp := reversible_drip.mem_periodicPts hready
  refine ⟨ready (session nonce key), period (ready (session nonce key)),
    minimalPeriod_pos_of_mem_periodicPts hp, period_dvd hready, iterate_eq_iterate_iff hp,
    fun msg n ↦ ?_⟩
  have hfirst : spritzEncrypt msg nonce key =
      apply drip (· + ·) msg (ready (session nonce key)) := by
    rw [spritzEncrypt]
    cases msg with
    | nil => rfl
    | cons x msg => rw [apply, apply, drip_ready hwf]
  rw [hfirst, getElem?_apply, period, symbol_mod_period]

end BootstrapWifi.Spritz
