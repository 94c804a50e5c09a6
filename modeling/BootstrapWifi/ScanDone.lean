import BootstrapWifi.AppReader

namespace BootstrapWifi

open ByteBuffer

inductive AuthMode
  | open
  | wep
  | wpaPsk
  | wpa2Psk
  | wpaWpa2Psk
  | max
deriving DecidableEq

def bssSsidSize : ℕ := 32

/-- What `prv_scanDone` uses of a `bss_info` of the SDK, and what follows its `ssid` in memory:
that array ends where `ssid_len` begins, with a NUL only if the name is shorter. -/
structure BssInfo where
  ssid : Buffer bssSsidSize
  ssidLen : UInt8
  channel : UInt8
  rssi : Int8
  behind : List UInt8
  authmode : AuthMode

/-- `(char*)it->ssid`, as far as `strlen` finds its end. -/
def BssInfo.ssidString (it : BssInfo) : CString :=
  ⟨Delimited.head 0 (it.ssid.bytes ++ it.ssidLen :: it.channel :: it.rssi.toUInt8 :: it.behind),
    Delimited.not_mem_head _⟩

def quality (dBm : ℤ) : ℤ :=
  if dBm ≤ -100 then 0 else if dBm ≥ -50 then 100 else 2 * (dBm + 100)

def AuthMode.encryptionMode : AuthMode → UInt8
  | .open => 0
  | .wep => 1
  | .wpaPsk | .wpa2Psk | .wpaWpa2Psk => 2
  | .max => 255

def BssInfo.entry (it : BssInfo) : WifiListEntry :=
  ⟨it.ssidString, .ofInt (quality it.rssi.toInt), it.authmode.encryptionMode⟩

/-- The list that `prv_scanDone` hands to `bst_wifi_network_list`, if it calls it at all. -/
def prvScanDone (ok : Bool) (result : List BssInfo) : Option (List WifiListEntry) :=
  if ok = false then none
  else if result = [] then none
  else some (result.map BssInfo.entry)

/-- The SDK has found a network of this name. -/
structure BssInfo.Names (it : BssInfo) (name : CString) : Prop where
  ssidLen : it.ssidLen.toNat = name.bytes.length
  ssid : it.ssid.bytes = name.bytes ++ List.replicate (bssSsidSize - name.bytes.length) 0

variable {it : BssInfo} {name : CString}

theorem BssInfo.Names.length_le (h : it.Names name) : name.bytes.length ≤ bssSsidSize := by
  have hl := it.ssid.length_bytes
  rw [h.ssid, List.length_append] at hl
  exact Nat.le.intro hl

theorem BssInfo.Names.ssidString_of_lt (h : it.Names name)
    (hl : name.bytes.length < bssSsidSize) : it.ssidString = name := by
  have hpos : bssSsidSize - name.bytes.length ≠ 0 := (Nat.sub_pos_of_lt hl).ne'
  obtain ⟨k, hk⟩ := Nat.exists_eq_succ_of_ne_zero hpos
  obtain ⟨bytes, hnul⟩ := name
  unfold BssInfo.ssidString
  congr 1
  rw [h.ssid, hk, List.replicate_succ, List.append_assoc, List.cons_append]
  exact Delimited.head_append hnul _

/-- A name that fills the array goes on with its own length. -/
theorem BssInfo.Names.ssidString_ne (h : it.Names name) (hl : bssSsidSize ≤ name.bytes.length) :
    it.ssidString ≠ name := by
  intro he
  have hlen : it.ssidLen ≠ 0 := by
    intro hz
    have hn := h.ssidLen
    rw [hz] at hn
    rw [← hn] at hl
    exact absurd hl (by decide)
  have hfull : it.ssid.bytes = name.bytes := by
    rw [h.ssid, Nat.sub_eq_zero_of_le hl, List.replicate_zero, List.append_nil]
  have hbytes : it.ssidString.bytes = name.bytes ++ it.ssidLen ::
      Delimited.head 0 (it.channel :: it.rssi.toUInt8 :: it.behind) := by
    change Delimited.head 0 (it.ssid.bytes ++ _) = _
    rw [hfull, Delimited.head_append_left name.nul_free, Delimited.head_cons_of_ne hlen]
  rw [he] at hbytes
  have hlong := congrArg List.length hbytes
  rw [List.length_append, List.length_cons] at hlong
  omega

/-- Only a name that leaves room for its terminator is passed on as it is. -/
theorem BssInfo.Names.ssidString_eq_iff (h : it.Names name) :
    it.ssidString = name ↔ name.bytes.length < bssSsidSize :=
  ⟨fun he ↦ Nat.lt_of_not_le fun hl ↦ h.ssidString_ne hl he, h.ssidString_of_lt⟩

theorem quality_eq (dBm : ℤ) : quality dBm = max 0 (min 100 (2 * (dBm + 100))) := by
  unfold quality
  split
  · omega
  · split <;> omega

theorem quality_range (dBm : ℤ) : 0 ≤ quality dBm ∧ quality dBm ≤ 100 := by
  rw [quality_eq]
  omega

theorem entry_strengthPercent (it : BssInfo) :
    (it.entry.strengthPercent.toNat : ℤ) = quality it.rssi.toInt := by
  obtain ⟨h₀, h₁⟩ := quality_range it.rssi.toInt
  have hmod : quality it.rssi.toInt % 2 ^ 8 = quality it.rssi.toInt :=
    Int.emod_eq_of_lt h₀ (by omega)
  have hlt : (quality it.rssi.toInt).toNat < 2 ^ 8 := by omega
  have hentry : it.entry.strengthPercent = UInt8.ofNat (quality it.rssi.toInt).toNat :=
    congrArg (fun q ↦ UInt8.ofNat (Int.toNat q)) hmod
  rw [hentry, UInt8.toNat_ofNat_of_lt' hlt, Int.toNat_of_nonneg h₀]

theorem fitting_sublist (bootstrapSsid : List UInt8) (room : ℕ) (list : List WifiListEntry) :
    (fitting bootstrapSsid room list).Sublist list := by
  induction list generalizing room with
  | nil => exact .slnil
  | cons it next ih =>
    unfold fitting
    split
    · exact List.nil_sublist _
    · split
      · exact (ih room).cons it
      · exact (ih _).cons_cons it

/-- An entry of the app's list says of a network what the radio has found out, but for names that
fill their array. -/
def BssInfo.Described (it : BssInfo) : Prop :=
  (it.entry.strengthPercent.toNat : ℤ) = quality it.rssi.toInt ∧
    ∀ name, it.Names name → (it.entry.ssid = name ↔ name.bytes.length < bssSsidSize)

theorem described (it : BssInfo) : it.Described :=
  ⟨entry_strengthPercent it, fun _ h ↦ h.ssidString_eq_iff⟩

/-- What an app learns from a scan are networks that the radio has found, in its order, with
the percentage of their signal: none is made up, doubled or put elsewhere. Their names are the
right ones up to 31 bytes, and wrong from 32 bytes on. -/
theorem app_reads_scan {L : Layout} {s : Instance} {result : List BssInfo}
    (hm : s.state.state = .waitingForData) (hne : result ≠ []) :
    ∃ list out p, ∃ told : List BssInfo, prvScanDone true result = some list ∧
      bstWifiNetworkList L list s = [.networkOutput out] ∧
      readSendPkt s.state.prvAppNonce.bytes (s.secret L) out = some p ∧
      told.Sublist result ∧ p.wifiList = some (told.map BssInfo.entry) ∧
      ∀ it ∈ told, it.Described := by
  obtain ⟨told, hsub, htold⟩ := List.sublist_map_iff.mp (fitting_sublist
    ((s.options.bootstrapSsid.map (·.bytes)).getD []) dataSize (result.map BssInfo.entry))
  have hread := readSendPkt_sent (L := L) (s := s)
    (p := wifiListPacket (result.map BssInfo.entry) s) rfl
  refine ⟨result.map BssInfo.entry, _, _, told, ?_, sent_of_waiting hm, hread, hsub, ?_,
    fun it _ ↦ described it⟩
  · rw [prvScanDone, if_neg (by decide), if_neg hne]
  · rw [← htold]
    exact (tellsList_wifiListPacket (result.map BssInfo.entry) s _).wifiList

/-- A short name, and one that fills its array: the app is told 35 bytes of it. -/
def kitchenScan : List BssInfo :=
  [⟨(Buffer.zero _).write [107, 105, 116], 3, 6, -73, [], .wpaWpa2Psk⟩,
    ⟨(Buffer.zero _).write (List.replicate 32 97), 32, 11, -60, [0], .wpa2Psk⟩]

example : kitchenScan.map (·.ssidString.bytes.length) = [3, 35] := by decide

theorem sample_app_reads_scan : ∃ list out p, ∃ told : List BssInfo,
    prvScanDone true kitchenScan = some list ∧
      bstWifiNetworkList lp64 list sampleDevice.inst = [.networkOutput out] ∧
      readSendPkt sampleDevice.inst.state.prvAppNonce.bytes (sampleDevice.inst.secret lp64) out =
        some p ∧
      told.Sublist kitchenScan ∧ p.wifiList = some (told.map BssInfo.entry) ∧
      ∀ it ∈ told, it.Described :=
  app_reads_scan rfl (by simp [kitchenScan])

end BootstrapWifi
