import BootstrapWifi.AppReader
import BootstrapWifi.BoundedSecret
import BootstrapWifi.Keystream
import BootstrapWifi.SpritzAbsorb
import BootstrapWifi.StoreOrigin

namespace BootstrapWifi

open Mealy ByteBuffer Spritz StreamCipher

variable {L : Layout} {s t u : Instance} {d d₀ : Device} {e : Event} {h : List LibraryMove}
  {list list₁ list₂ : List WifiListEntry} {out out₁ out₂ : List UInt8}

/-- A call while the session lasts that neither resets the device nor brings a key. -/
structure WithinSession (L : Layout) (m : LibraryMove) : Prop where
  contained : Contained L m
  noReset : ¬ Resets m
  noKey : ∀ key, ¬ BringsKey L key m
  valid : ¬ SessionOpen m.input.now m.pre.inst

/-- Packets to the app are enciphered with the same nonce and the same secret. -/
structure SameCipher (s t : Instance) : Prop where
  prvAppNonce : t.state.prvAppNonce = s.state.prvAppNonce
  secretField : t.secretField = s.secretField

theorem SameCipher.trans (hst : SameCipher s t) (htu : SameCipher t u) : SameCipher s u :=
  ⟨htu.prvAppNonce.trans hst.prvAppNonce, htu.secretField.trans hst.secretField⟩

theorem SameCipher.secret (hs : SameCipher s t) (hlen : s.cryptoSecretLen.toNat ≤ bindkeyMaxSize) :
    t.secret L = s.secret L := by
  have hkey : t.cryptoSecret = s.cryptoSecret := congrArg Prod.fst hs.secretField
  have hl : t.cryptoSecretLen = s.cryptoSecretLen := congrArg Prod.snd hs.secretField
  rw [Instance.secret_of_le L hlen, Instance.secret_of_le L (hl ▸ hlen), hkey, hl]

/-- While a session is valid, an app that is not its own does not change the nonce. -/
theorem InputEffect.sameCipher {now : Time} {random : UInt64} {data : List UInt8}
    (heff : InputEffect L now random data s t) (hvalid : ¬ SessionOpen now s)
    (hkey : ∀ pkt, ¬ BindAccepted L now data pkt s) : SameCipher s t := by
  cases heff with
  | ignored => exact ⟨rfl, rfl⟩
  | expired hlt => exact absurd (.inr hlt.le) hvalid
  | hello pkt =>
    unfold Instance.helloDone
    rw [if_neg hvalid]
    exact ⟨rfl, rfl⟩
  | bind pkt hb => exact absurd hb (hkey pkt)
  | setData pkt => exact ⟨rfl, rfl⟩

theorem WithinSession.step (hm : WithinSession L ((library L).move d e)) :
    SameCipher d.inst ((library L).step e d).1.inst := by
  have hnonce : (∀ data random, e.call ≠ .networkInput data random) →
      ((library L).step e d).1.inst.state.prvAppNonce = d.inst.state.prvAppNonce := by
    intro hc
    cases moveEffect L d e hm.contained.1 with
    | reset hr => exact absurd hr hm.noReset
    | input data random hin => exact absurd hin (hc data random)
    | quiet _ _ hs => exact hs.prvAppNonce
  obtain ⟨now, call⟩ := e
  cases call with
  | setup o data key => exact absurd (.inl trivial) hm.noReset
  | periodic conn =>
    refine ⟨hnonce nofun, ?_⟩
    rw [step_periodic L rfl]
    refine ((bstPeriodic_effect L now conn d.inst).same_data fun hf ↦ hm.noReset ?_).2.1
    refine .inr ⟨.enterWaitForBootstrapMode, ?_, trivial⟩
    rw [move_output, step_periodic L rfl, bstPeriodic_factoryReset L conn hf.1 hf.2,
      serveFactoryReset_eq L hf.1]
    simp
  | networkInput data random =>
    rw [step_networkInput L rfl]
    exact (networkInput_effect L now random data d.inst).sameCipher hm.valid
      fun pkt hb ↦ hm.noKey _ ⟨data, random, pkt, rfl, hb, rfl⟩
  | _ => exact ⟨rfl, rfl⟩

theorem sameCipher_of_run (r : (library L).Run d₀ h d) (hm : ∀ m ∈ h, WithinSession L m) :
    SameCipher d₀.inst d.inst :=
  r.keeps (P := fun d ↦ SameCipher d₀.inst d.inst) ⟨rfl, rfl⟩ fun m hx he hs ↦ by
    have hwithin := hm m hx
    rw [he] at hwithin ⊢
    exact hs.trans hwithin.step

theorem secretBounded_of_run (r : (library L).Run .off h d)
    (hinit : ∀ m ∈ h, InitialSecretFits m) (hb : ∀ m ∈ h, BindFits L m) : SecretBounded d :=
  r.invariant (G := fun m ↦ InitialSecretFits m ∧ BindFits L m) secretBounded_off
    (fun _ _ hd hg ↦ hd.step hg.1 hg.2) fun m hm ↦ ⟨hinit m hm, hb m hm⟩

theorem length_secret (hlen : s.cryptoSecretLen.toNat ≤ bindkeyMaxSize) :
    (s.secret L).length ≤ bindkeyMaxSize := by
  rw [Instance.secret_of_le L hlen]
  exact (List.length_take_le _ _).trans hlen

/-- Packets of any two devices, in either direction, start from one state of the cipher only
if both the nonces and the secrets are the same: neither can make up for the other. -/
theorem sessions_apart {h' : List LibraryMove} {d' : Device}
    (r : (library L).Run .off h d) (hinit : ∀ m ∈ h, InitialSecretFits m)
    (hb : ∀ m ∈ h, BindFits L m) (r' : (library L).Run .off h' d')
    (hinit' : ∀ m ∈ h', InitialSecretFits m) (hb' : ∀ m ∈ h', BindFits L m)
    (nonce nonce' : Buffer nonceSize) :
    session nonce.bytes (d.inst.secret L) = session nonce'.bytes (d'.inst.secret L) ↔
      nonce = nonce' ∧ d.inst.secret L = d'.inst.secret L := by
  have hkey := length_secret (L := L) (secretBounded_of_run r hinit hb).secret
  have hkey' := length_secret (L := L) (secretBounded_of_run r' hinit' hb').secret
  have hshort {key : List UInt8} (hk : key.length ≤ bindkeyMaxSize) (n : Buffer nonceSize) :
      2 * key.length + 2 * n.bytes.length < 128 := by
    rw [n.length_bytes]
    exact (Nat.add_le_add_right (Nat.mul_le_mul_left 2 hk) _).trans_lt (by decide)
  constructor
  · intro heq
    obtain ⟨hn, hk⟩ := session_injective (hshort hkey nonce) (hshort hkey' nonce') heq
    exact ⟨Buffer.ext hn, hk⟩
  · intro heq
    rw [heq.1, heq.2]

/-- What the sample device sends is not protected like what it receives. -/
theorem sample_sessions_apart :
    session sampleDevice.inst.state.prvAppNonce.bytes (sampleDevice.inst.secret lp64) ≠
      session sampleDevice.inst.state.prvDeviceNonce.bytes (sampleDevice.inst.secret lp64) := by
  intro heq
  obtain ⟨hn, -⟩ := (sessions_apart run_sample sampleHistory_initialSecretFits
    (greeting_bindFits sampleOptions_ready) run_sample sampleHistory_initialSecretFits
    (greeting_bindFits sampleOptions_ready) _ _).mp heq
  exact absurd hn (by decide)

/-- The part of a list packet that is enciphered, in the clear. -/
def listContent (list : List WifiListEntry) (s : Instance) : List UInt8 :=
  (wifiListPacket list s).payload

theorem content_sent_list (h : .networkOutput out ∈ bstWifiNetworkList L list s) :
    content out = spritzEncrypt (listContent list s) s.state.prvAppNonce.bytes (s.secret L) := by
  have hcontent : content (wifiListPacket list s).bytes = listContent list s := content_bytes rfl
  have hlen : receivePktSize ≤ (wifiListPacket list s).bytes.length := by
    rw [length_wifiListPacket]
    decide
  rw [sent_of_networkOutput h, content_sent hlen, hcontent]

theorem scanned (hc : e.call = .wifiNetworkList list) :
    ((library L).move d e).post = d ∧
      ((library L).move d e).output = bstWifiNetworkList L list d.inst := by
  obtain ⟨now, call⟩ := e
  obtain rfl : call = .wifiNetworkList list := hc
  refine ⟨?_, rfl⟩
  rw [move_post, step_wifiNetworkList]

/-- All the lists that a device sends during a session are enciphered with one key stream,
although it renews its own nonce with every HELLO: whoever subtracts two of the packets has
the difference of their contents. -/
theorem session_reuses_keystream {later mid earlier : List LibraryMove} {m₁ m₂ : LibraryMove}
    (r : (library L).Run .off (later ++ m₂ :: (mid ++ m₁ :: earlier)) d)
    (hinit : ∀ m ∈ earlier, InitialSecretFits m) (hb : ∀ m ∈ earlier, BindFits L m)
    (hmid : ∀ x ∈ mid, WithinSession L x)
    (h₁ : m₁.input.call = .wifiNetworkList list₁) (h₂ : m₂.input.call = .wifiNetworkList list₂)
    (hout₁ : .networkOutput out₁ ∈ m₁.output) (hout₂ : .networkOutput out₂ ∈ m₂.output) :
    List.zipWith (· - ·) (content out₂) (content out₁) =
      List.zipWith (· - ·) (listContent list₂ m₂.pre.inst) (listContent list₁ m₁.pre.inst) := by
  obtain ⟨r', he₂, -⟩ := r.split
  obtain ⟨hearlier, he₁, rmid⟩ := r'.split
  have hbounded := secretBounded_of_run hearlier hinit hb
  obtain ⟨hpost, hsent₁⟩ := scanned (L := L) (d := m₁.pre) h₁
  obtain ⟨-, hsent₂⟩ := scanned (L := L) (d := m₂.pre) h₂
  rw [← he₁] at hpost hsent₁
  rw [← he₂] at hsent₂
  rw [hsent₁] at hout₁
  rw [hsent₂] at hout₂
  have hsame : SameCipher m₁.pre.inst m₂.pre.inst := by
    have hs := sameCipher_of_run rmid hmid
    rwa [hpost] at hs
  rw [content_sent_list hout₁, content_sent_list hout₂, hsame.prvAppNonce,
    hsame.secret hbounded.secret]
  exact zipWith_apply (fun _ _ _ ↦ by grind) _ _ _

theorem not_bringsKey_of_received {m : LibraryMove} {random : UInt64} {data pkt : List UInt8}
    (hc : m.input.call = .networkInput data random) (hr : Received L data pkt m.pre.inst)
    (hcmd : command pkt ≠ cmdBind) (key : List UInt8) : ¬ BringsKey L key m := by
  intro hb
  obtain ⟨data', random', pkt', hc', hacc, -⟩ := hb
  rw [hc] at hc'
  cases hc'
  rw [hr.unique hacc.1] at hcmd
  exact hcmd hacc.2.1

/-- The sample app reads a list, says HELLO once more and reads another one. -/
def sampleScan : LibraryMove := (library lp64).move sampleDevice ⟨2, .wifiNetworkList homeScan⟩

def sampleRenewal : LibraryMove :=
  (library lp64).move sampleScan.post ⟨3, .networkInput (plainPkt cmdHello sampleNonce) 9⟩

def sampleRescan : LibraryMove :=
  (library lp64).move sampleRenewal.post ⟨4, .wifiNetworkList []⟩

theorem sampleScan_post : sampleScan.post = sampleDevice := by
  rw [sampleScan, move_post, step_wifiNetworkList]

theorem sampleRenewal_within : WithinSession lp64 sampleRenewal := by
  have hr : Received lp64 (plainPkt cmdHello sampleNonce) (plainPkt cmdHello sampleNonce)
      sampleRenewal.pre.inst := by
    rw [sampleRenewal, move_pre, sampleScan_post]
    exact received_receivePkt rfl
  refine ⟨⟨nofun, bindFits_of_received rfl hr nofun⟩, not_resets id ?_,
    not_bringsKey_of_received rfl hr (by decide), ?_⟩
  · rw [sampleRenewal, move_output, step_networkInput lp64 rfl]
    exact List.forall_mem_nil _
  · rw [sampleRenewal, move_pre, sampleScan_post]
    decide

theorem sampleRenewal_post : sampleRenewal.post =
    { sampleDevice with
      inst := sampleDevice.inst.helloDone 3 9 (plainPkt cmdHello sampleNonce) } := by
  have hh : HelloAccepted lp64 3 (plainPkt cmdHello sampleNonce) (plainPkt cmdHello sampleNonce)
      sampleDevice.inst := helloAccepted_receivePkt rfl rfl (.inr rfl)
  rw [sampleRenewal, move_post, sampleScan_post, step_networkInput lp64 rfl,
    networkInput_of_hello hh]
  rfl

def sessionAnswer (m : LibraryMove) (list : List WifiListEntry) : List UInt8 :=
  prvAddChecksumAndEncrypt lp64 (wifiListPacket list m.pre.inst).bytes m.pre.inst

theorem sessionAnswer_mem (hm : d.inst.state.state = .waitingForData)
    (hc : e.call = .wifiNetworkList list) :
    .networkOutput (sessionAnswer ((library lp64).move d e) list) ∈
      ((library lp64).move d e).output := by
  rw [(scanned hc).2, sent_of_waiting hm]
  exact List.mem_singleton_self _

theorem sample_session_reuses_keystream :
    sampleRescan.pre.inst.state.prvDeviceNonce ≠ sampleScan.pre.inst.state.prvDeviceNonce ∧
      List.zipWith (· - ·) (content (sessionAnswer sampleRescan []))
          (content (sessionAnswer sampleScan homeScan)) =
        List.zipWith (· - ·) (listContent [] sampleRescan.pre.inst)
          (listContent homeScan sampleScan.pre.inst) := by
  have r : (library lp64).Run .off
      ([] ++ sampleRescan :: ([sampleRenewal] ++ sampleScan :: sampleHistory))
      sampleRescan.post := ((run_sample.snoc _).snoc _).snoc _
  have hwaiting : sampleRenewal.post.inst.state.state = .waitingForData := by
    rw [sampleRenewal_post]
    rfl
  constructor
  · rw [sampleRescan, move_pre, sampleRenewal_post]
    decide
  · exact session_reuses_keystream r sampleHistory_initialSecretFits
      (greeting_bindFits sampleOptions_ready) (List.forall_mem_singleton.mpr sampleRenewal_within)
      rfl rfl (sessionAnswer_mem rfl rfl)
      (sessionAnswer_mem hwaiting rfl)

end BootstrapWifi
