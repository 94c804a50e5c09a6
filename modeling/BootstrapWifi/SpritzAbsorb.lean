import BootstrapWifi.Sponge
import BootstrapWifi.SpritzState

namespace BootstrapWifi.Spritz

open State

/-- What one step of absorbing takes in: a stop, or half a byte. -/
inductive Token
  | stop
  | nibble (x : Fin 16)
deriving DecidableEq

def Token.absorb (st : State) : Token → State
  | .stop => absorbStop st
  | .nibble x => absorbNibble st x.val.toUInt8

/-- The place of the table that absorbing a token exchanges with the place of the counter. -/
def Token.place (a : UInt8) : Token → UInt8
  | .stop => a
  | .nibble x => 128 + x.val.toUInt8

def low (b : UInt8) : Fin 16 := ⟨b.toNat % 16, Nat.mod_lt _ (by decide)⟩

def high (b : UInt8) : Fin 16 := ⟨b.toNat / 16, Nat.div_lt_of_lt_mul b.toNat_lt⟩

def tokens (msg : List UInt8) : List Token :=
  msg.flatMap fun b ↦ [.nibble (low b), .nibble (high b)]

theorem toUInt8_low (b : UInt8) : (low b).val.toUInt8 = b &&& 0xf := by
  apply UInt8.toNat_inj.mp
  have h := b.toNat_lt
  rw [Nat.toUInt8_eq, UInt8.toNat_ofNat', UInt8.toNat_and]
  change b.toNat % 16 % 2 ^ 8 = b.toNat &&& 2 ^ 4 - 1
  rw [Nat.and_two_pow_sub_one_eq_mod]
  omega

theorem toUInt8_high (b : UInt8) : (high b).val.toUInt8 = b >>> 4 := by
  apply UInt8.toNat_inj.mp
  have h := b.toNat_lt
  rw [Nat.toUInt8_eq, UInt8.toNat_ofNat', UInt8.toNat_shiftRight]
  change b.toNat / 16 % 2 ^ 8 = b.toNat >>> 4
  rw [Nat.shiftRight_eq_div_pow]
  omega

theorem absorbByte_eq (st : State) (b : UInt8) :
    absorbByte st b = Token.absorb (Token.absorb st (.nibble (low b))) (.nibble (high b)) := by
  simp only [Token.absorb, toUInt8_low, toUInt8_high]
  rfl

theorem absorb_eq_tokens (st : State) (msg : List UInt8) :
    absorb st msg = (tokens msg).foldl Token.absorb st := by
  unfold absorb tokens
  induction msg generalizing st with
  | nil => rfl
  | cons b msg ih =>
    rw [List.foldl_cons, ih, List.flatMap_cons, List.foldl_append, absorbByte_eq]
    rfl

theorem length_tokens (msg : List UInt8) : (tokens msg).length = 2 * msg.length := by
  induction msg with
  | nil => rfl
  | cons b msg ih =>
    rw [tokens, List.flatMap_cons, List.length_append, ← tokens, ih, List.length_cons,
      List.length_cons, List.length_cons, List.length_nil]
    omega

theorem byte_ext {b c : UInt8} (hlow : low b = low c) (hhigh : high b = high c) : b = c := by
  apply UInt8.toNat_inj.mp
  have h1 := congrArg Fin.val hlow
  have h2 := congrArg Fin.val hhigh
  simp only [low, high] at h1 h2
  omega

theorem tokens_injective : Function.Injective tokens := by
  intro msg
  induction msg with
  | nil =>
    intro msg' h
    have hl := congrArg List.length h
    rw [length_tokens, length_tokens] at hl
    exact (List.length_eq_zero_iff.mp (by simpa using hl.symm)).symm
  | cons b msg ih =>
    intro msg' h
    cases msg' with
    | nil => cases h
    | cons c msg' =>
      rw [tokens, tokens, List.flatMap_cons, List.flatMap_cons] at h
      obtain ⟨hlow, h⟩ := List.cons.inj h
      obtain ⟨hhigh, h⟩ := List.cons.inj h
      rw [byte_ext (Token.nibble.inj hlow) (Token.nibble.inj hhigh), ih h]

/-- The state has taken in `n` tokens and has not been shuffled since it was initialized: the
rest of the first half of the table is still in order. -/
structure Fresh (n : ℕ) (st : State) : Prop where
  wellFormed : st.WellFormed
  counter : st.a.toNat = n
  rest : ∀ v : UInt8, n ≤ v.toNat → v.toNat < 128 → st.read v = v

theorem fresh_initializeState : Fresh 0 initializeState :=
  ⟨wellFormed_initializeState, rfl, fun v _ _ ↦ read_initializeState v⟩

theorem toNat_add_one {a : UInt8} (h : a.toNat < 128) : (a + 1).toNat = a.toNat + 1 := by
  simp only [UInt8.toNat_add, UInt8.reduceToNat]
  omega

theorem toNat_place (x : Fin 16) : (128 + x.val.toUInt8).toNat = 128 + x.val := by
  have h := x.isLt
  simp only [UInt8.toNat_add, Nat.toUInt8_eq, UInt8.toNat_ofNat', UInt8.reduceToNat]
  omega

theorem swap_self (st : State) (x : UInt8) : st.swap x x = st := by
  have hreg : SameRegisters (st.swap x x) st := ⟨rfl, rfl, rfl, rfl, rfl, rfl⟩
  refine hreg.eq (funext fun y ↦ ?_)
  rw [read_swap, Equiv.swap_self, Equiv.refl_apply]

theorem place_injective {a : UInt8} (ha : a.toNat < 128) :
    Function.Injective (Token.place a) := by
  have hne (x : Fin 16) : a ≠ 128 + x.val.toUInt8 := by
    intro h
    have hx := congrArg UInt8.toNat h
    rw [toNat_place] at hx
    omega
  intro t t' h
  cases t with
  | stop =>
    cases t' with
    | stop => rfl
    | nibble x => exact absurd h (hne x)
  | nibble x =>
    cases t' with
    | stop => exact absurd h.symm (hne x)
    | nibble y =>
      have hxy := congrArg UInt8.toNat h
      simp only [Token.place, toNat_place] at hxy
      rw [Fin.ext (Nat.add_left_cancel hxy)]

namespace Fresh

variable {n : ℕ} {st st' : State} {t t' : Token}

theorem absorb_eq (h : Fresh n st) (hn : n < 128) (t : Token) : Token.absorb st t =
    { st.swap st.a (Token.place st.a t) with a := st.a + 1 } := by
  have ha : st.a ≠ 128 := by
    intro ha
    have hc := h.counter
    rw [ha] at hc
    change 128 = n at hc
    omega
  cases t with
  | stop =>
    simp only [Token.absorb, absorbStop, if_neg ha, Token.place, swap_self]
  | nibble x =>
    simp only [Token.absorb, absorbNibble, if_neg ha, Token.place, swap_a]

theorem read_absorb (h : Fresh n st) (hn : n < 128) (t : Token) (x : UInt8) :
    (Token.absorb st t).read x = st.read (Equiv.swap st.a (Token.place st.a t) x) := by
  rw [h.absorb_eq hn]
  exact read_swap st _ _ x

theorem step (h : Fresh n st) (hn : n < 128) (t : Token) : Fresh (n + 1) (Token.absorb st t) := by
  refine ⟨?_, ?_, fun v hv hlt ↦ ?_⟩
  · cases t with
    | stop => exact wellFormed_absorbStop h.wellFormed
    | nibble x => exact wellFormed_absorbNibble h.wellFormed _
  · rw [h.absorb_eq hn, ← h.counter]
    exact toNat_add_one (h.counter ▸ hn)
  · have hva : v ≠ st.a := by
      rintro rfl
      rw [h.counter] at hv
      omega
    have hvp : v ≠ Token.place st.a t := by
      cases t with
      | stop => exact hva
      | nibble x =>
        rintro rfl
        rw [Token.place, toNat_place] at hlt
        omega
    rw [h.read_absorb hn, Equiv.swap_apply_of_ne_of_ne hva hvp]
    exact h.rest v (Nat.le_of_succ_le hv) hlt

/-- The token is found again where the entry of the counter has gone. -/
theorem read_place (h : Fresh n st) (hn : n < 128) (t : Token) :
    (Token.absorb st t).read (Token.place st.a t) = st.a := by
  rw [h.read_absorb hn, Equiv.swap_apply_right]
  exact h.rest st.a h.counter.ge (h.counter ▸ hn)

theorem step_injective (h : Fresh n st) (h' : Fresh n st') (hn : n < 128)
    (he : Token.absorb st t = Token.absorb st' t') : st = st' ∧ t = t' := by
  have ha : st.a = st'.a := UInt8.toNat_inj.mp (h.counter.trans h'.counter.symm)
  have hp : Token.place st.a t = Token.place st.a t' := by
    apply (h.step hn t).wellFormed.injective
    rw [h.read_place hn t, he, ha, h'.read_place hn t']
  obtain rfl := place_injective (h.counter.symm ▸ hn) hp
  rw [h.absorb_eq hn, h'.absorb_eq hn, ← ha] at he
  have hfield (f : State → UInt8) := congrArg f he
  have hreg : SameRegisters st st' :=
    ⟨ha, hfield State.i, hfield State.j, hfield State.k, hfield State.w, hfield State.z⟩
  have htable : (st.swap st.a (Token.place st.a t)).read =
      (st'.swap st.a (Token.place st.a t)).read := funext fun x ↦ hfield fun st ↦ st.read x
  exact ⟨hreg.eq (read_swap_injective htable), rfl⟩

end Fresh

/-- The first half of the table takes 128 tokens before it is shuffled. -/
def absorption : Sponge.Absorption State Token where
  start := initializeState
  step := Token.absorb
  capacity := 128
  Holds := Fresh
  holds_start := fresh_initializeState
  holds_step := fun t hn h ↦ h.step hn t
  holds_unique := fun h h' ↦ h.counter.symm.trans h'.counter
  step_injective := fun hn h h' he ↦ h.step_injective h' hn he

theorem keySetup_eq (key : List UInt8) : keySetup key = absorption.absorb (tokens key) :=
  absorb_eq_tokens _ _

/-- Absorbing a stop and another message behind the tokens absorbed so far. -/
theorem absorb_stop_message (l : List Token) (msg : List UInt8) :
    absorb (absorbStop (absorption.absorb l)) msg =
      absorption.absorb (l ++ Token.stop :: tokens msg) := by
  have happend : absorption.absorb (l ++ Token.stop :: tokens msg) =
      (Token.stop :: tokens msg).foldl absorption.step (absorption.absorb l) := List.foldl_append
  rw [absorb_eq_tokens]
  exact happend.symm

theorem session_eq (nonce key : List UInt8) :
    session nonce key = absorption.absorb (tokens key ++ Token.stop :: tokens nonce) := by
  rw [session, keySetup_eq, absorb_stop_message]

theorem hashState_eq (r : UInt8) (msg : List UInt8) :
    hashState r msg = absorption.absorb (tokens msg ++ Token.stop :: tokens [r]) := by
  rw [hashState, absorb_eq_tokens initializeState]
  exact absorb_stop_message (tokens msg) [r]

theorem authState_eq (r : UInt8) (msg key : List UInt8) : authState r msg key =
    absorption.absorb ((tokens key ++ Token.stop :: tokens msg) ++ Token.stop :: tokens [r]) := by
  rw [authState, keySetup_eq, absorb_stop_message, absorb_stop_message]

/-- A message in front of the first stop, and what follows it. -/
theorem tokens_stop_inj {msg msg' : List UInt8} {l l' : List Token}
    (h : tokens msg ++ Token.stop :: l = tokens msg' ++ Token.stop :: l') :
    msg = msg' ∧ l = l' := by
  induction msg generalizing msg' with
  | nil =>
    cases msg' with
    | nil => exact ⟨rfl, (List.cons.inj h).2⟩
    | cons c msg' => cases h
  | cons b msg ih =>
    cases msg' with
    | nil => cases h
    | cons c msg' =>
      obtain ⟨hlow, h⟩ := List.cons.inj h
      obtain ⟨hhigh, h⟩ := List.cons.inj h
      obtain ⟨rfl, hl⟩ := ih h
      exact ⟨by rw [byte_ext (Token.nibble.inj hlow) (Token.nibble.inj hhigh)], hl⟩

/-- Different nonces or different keys start a message from different states, up to the
length at which the first shuffle mixes the table. -/
theorem session_injective {nonce nonce' key key' : List UInt8}
    (hl : 2 * key.length + 2 * nonce.length < 128) (hl' : 2 * key'.length + 2 * nonce'.length < 128)
    (h : session nonce key = session nonce' key') : nonce = nonce' ∧ key = key' := by
  rw [session_eq, session_eq] at h
  have htok := absorption.absorb_injective
    (by simp only [List.length_append, List.length_cons, length_tokens, absorption]; omega)
    (by simp only [List.length_append, List.length_cons, length_tokens, absorption]; omega) h
  obtain ⟨hkey, hnonce⟩ := tokens_stop_inj htok
  exact ⟨tokens_injective hnonce, hkey⟩

theorem hashState_injective {r r' : UInt8} {msg msg' : List UInt8}
    (hl : 2 * msg.length + 3 ≤ 128) (hl' : 2 * msg'.length + 3 ≤ 128)
    (h : hashState r msg = hashState r' msg') : r = r' ∧ msg = msg' := by
  rw [hashState_eq, hashState_eq] at h
  have htok := absorption.absorb_injective
    (by simp only [List.length_append, List.length_cons, length_tokens, absorption,
          List.length_nil]; omega)
    (by simp only [List.length_append, List.length_cons, length_tokens, absorption,
          List.length_nil]; omega) h
  obtain ⟨hmsg, hr⟩ := tokens_stop_inj htok
  exact ⟨(List.cons.inj (tokens_injective hr)).1, hmsg⟩

theorem authState_injective {r r' : UInt8} {msg msg' key key' : List UInt8}
    (hl : 2 * key.length + 2 * msg.length + 4 ≤ 128)
    (hl' : 2 * key'.length + 2 * msg'.length + 4 ≤ 128)
    (h : authState r msg key = authState r' msg' key') : r = r' ∧ msg = msg' ∧ key = key' := by
  rw [authState_eq, authState_eq] at h
  have htok := absorption.absorb_injective
    (by simp only [List.length_append, List.length_cons, length_tokens, absorption,
          List.length_nil]; omega)
    (by simp only [List.length_append, List.length_cons, length_tokens, absorption,
          List.length_nil]; omega) h
  rw [List.append_assoc, List.append_assoc] at htok
  obtain ⟨hkey, hrest⟩ := tokens_stop_inj htok
  obtain ⟨hmsg, hr⟩ := tokens_stop_inj hrest
  exact ⟨(List.cons.inj (tokens_injective hr)).1, hmsg, hkey⟩

end BootstrapWifi.Spritz
