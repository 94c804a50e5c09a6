import BootstrapWifi.GreedyFill
import BootstrapWifi.WifiFraming

namespace BootstrapWifi

open Mealy GreedyFill

variable {own ssid : CString} {list es : List WifiListEntry} {s : Instance}

/-- The networks an app wants to hear of: all but the bootstrap network. -/
def isOther (own : CString) (it : WifiListEntry) : Bool := it.ssid ≠ own

/-- What an app reads back from the data area. -/
def entriesRead (list : List WifiListEntry) (s : Instance) : Option (List WifiListEntry) :=
  (Delimited.records readEntry (wifiListPacket list s).wifiListEntries.toNat
    (wifiListPacket list s).data.bytes).map Prod.fst

/-- The networks of the list whose name is not the one of the bootstrap network, up to the
first network that does not fit in. -/
def expected (own : CString) (list : List WifiListEntry) : List WifiListEntry :=
  fill WifiListEntry.size (isOther own) dataSize list

theorem matchesPrefix_iff (ssid own : CString) :
    matchesPrefix ssid.bytes own.bytes = true ↔ ssid.bytes <+: own.bytes := by
  rw [matchesPrefix, beq_iff_eq, ← List.prefix_iff_eq_take, List.prefix_concat_iff]
  constructor
  · intro h
    rcases h with hterminated | hprefix
    · refine absurd ?_ ssid.nul_free
      rw [hterminated]
      exact List.mem_append_right _ List.mem_cons_self
    · exact hprefix
  · exact .inr

theorem fitting_eq_fill (own : List UInt8) (room : ℕ) (list : List WifiListEntry) :
    fitting own room list =
      fill WifiListEntry.size (fun it ↦ !matchesPrefix it.ssid.bytes own) room list := by
  induction list generalizing room with
  | nil => exact rfl
  | cons it next ih =>
    unfold fitting fill
    rw [ih, ih]
    cases matchesPrefix it.ssid.bytes own <;> simp

theorem isOther_of_not_matchesPrefix (it : WifiListEntry)
    (h : (!matchesPrefix it.ssid.bytes own.bytes) = true) : isOther own it = true := by
  refine decide_eq_true fun heq ↦ ?_
  have hmatch := (matchesPrefix_iff it.ssid own).mpr (heq ▸ List.prefix_rfl)
  rw [hmatch] at h
  cases h

theorem offered_eq_fill (hb : s.options.bootstrapSsid = some own) (list : List WifiListEntry) :
    offered list s = fill WifiListEntry.size
      (fun it ↦ !matchesPrefix it.ssid.bytes own.bytes) dataSize list := by
  rw [offered, hb, Option.map_some, Option.getD_some]
  exact fitting_eq_fill _ _ _

theorem offered_eq_expected_iff (hb : s.options.bootstrapSsid = some own)
    (list : List WifiListEntry) :
    offered list s = expected own list ↔
      ∀ it ∈ expected own list, ¬ it.ssid.bytes <+: own.bytes := by
  rw [offered_eq_fill hb, expected, fill_eq_fill_iff isOther_of_not_matchesPrefix]
  refine forall₂_congr fun it _ ↦ ?_
  rw [Bool.not_eq_true', Bool.eq_false_iff, ne_eq, matchesPrefix_iff]

theorem entriesRead_fills_iff :
    (∃ es, entriesRead list s = some es ∧
      Fills WifiListEntry.size (isOther own) dataSize list es) ↔
        offered list s = expected own list := by
  have hread : entriesRead list s = some (offered list s) := records_offered list s
  rw [hread]
  constructor
  · intro h
    obtain ⟨es, hes, hfills⟩ := h
    rw [Option.some.inj hes]
    exact fills_iff.mp hfills
  · intro heq
    exact ⟨_, rfl, fills_iff.mpr heq⟩

/-- The app reads exactly the networks it wants to hear of if the name of the bootstrap
network begins with the name of none of them. -/
theorem networks_offered_iff (hb : s.options.bootstrapSsid = some own)
    (list : List WifiListEntry) :
    (∃ es, entriesRead list s = some es ∧
      Fills WifiListEntry.size (isOther own) dataSize list es) ↔
        ∀ it ∈ expected own list, ¬ it.ssid.bytes <+: own.bytes := by
  rw [entriesRead_fills_iff]
  exact offered_eq_expected_iff hb list

def sampleOwn : CString := sampleOptions.bootstrapSsid.getD .empty

def homeNetwork : WifiListEntry := ⟨.ofChars ['h', 'o', 'm', 'e'], 80, 2⟩

def shortNetwork : WifiListEntry := ⟨.ofChars ['B'], 80, 2⟩

theorem sample_networks_offered : ∃ es, entriesRead [homeNetwork] sampleDevice.inst = some es ∧
    Fills WifiListEntry.size (isOther sampleOwn) dataSize [homeNetwork] es := by
  refine (networks_offered_iff rfl [homeNetwork]).mpr fun it hit ↦ ?_
  obtain rfl := List.mem_singleton.mp hit
  decide

/-- Beside a bootstrap network `BST` the network `B` is never offered. -/
theorem short_network_left_out :
    (library lp64).Run .off sampleHistory sampleDevice ∧
      sampleDevice.inst.state.state = .waitingForData ∧
      sampleDevice.inst.options.bootstrapSsid = some sampleOwn ∧
      ¬ ∃ es, entriesRead [shortNetwork] sampleDevice.inst = some es ∧
        Fills WifiListEntry.size (isOther sampleOwn) dataSize [shortNetwork] es := by
  refine ⟨run_sample, rfl, rfl, fun h ↦ ?_⟩
  have hexact := (offered_eq_expected_iff rfl [shortNetwork]).mp (entriesRead_fills_iff.mp h)
  have hmem : shortNetwork ∈ expected sampleOwn [shortNetwork] := List.mem_cons_self
  have hprefix : shortNetwork.ssid.bytes <+: sampleOwn.bytes := by decide
  exact hexact shortNetwork hmem hprefix

end BootstrapWifi
