import BootstrapWifi.AppRun

namespace BootstrapWifi

open Mealy ByteBuffer

/-- The entries that fit, one after the other, into the room left, without those that the
bootstrap network's own name starts with; the first that does not fit ends the list. -/
def fitting (bootstrapSsid : List UInt8) : ℕ → List WifiListEntry → List WifiListEntry
  | _, [] => []
  | room, it :: next =>
    if it.size > room then []
    else if matchesPrefix it.ssid.bytes bootstrapSsid then fitting bootstrapSsid room next
    else it :: fitting bootstrapSsid (room - it.size) next

def totalSize (es : List WifiListEntry) : ℕ := (es.map WifiListEntry.size).sum

variable {bootstrapSsid : List UInt8} {c : ListCursor} {es list : List WifiListEntry}
  {it : WifiListEntry} {s : Instance}

@[simp] theorem totalSize_append (es es' : List WifiListEntry) :
    totalSize (es ++ es') = totalSize es + totalSize es' := by
  simp [totalSize]

@[simp] theorem totalSize_singleton (it : WifiListEntry) : totalSize [it] = it.size := by
  simp [totalSize]

@[simp] theorem WifiListEntry.length_encode (it : WifiListEntry) : it.encode.length = it.size := by
  simp [WifiListEntry.encode, WifiListEntry.size]

theorem length_flatMap_encode (es : List WifiListEntry) :
    (es.flatMap WifiListEntry.encode).length = totalSize es := by
  simp [totalSize, List.length_flatMap]

theorem length_le_totalSize (es : List WifiListEntry) : 3 * es.length ≤ totalSize es := by
  induction es with
  | nil => simp [totalSize]
  | cons it es ih =>
    have h : totalSize (it :: es) = it.size + totalSize es := by simp [totalSize]
    have h' : 3 ≤ it.size := Nat.le_add_left _ _
    rw [h, List.length_cons]
    omega

structure ListCursor.Holds (c : ListCursor) (es : List WifiListEntry) : Prop where
  wifiListEntries : c.wifiListEntries = es.length.toUInt8
  wifiListSizeInBytes : c.wifiListSizeInBytes = (totalSize es).toUInt8
  bufferP : c.bufferP = totalSize es
  fits : totalSize es ≤ dataSize
  data : c.data.bytes = es.flatMap WifiListEntry.encode ++ List.replicate (dataSize - totalSize es) 0
  copied : c.copied = es

theorem writeAt_used {b : Buffer dataSize} {used src : List UInt8}
    (hb : b.bytes = used ++ List.replicate (dataSize - used.length) 0)
    (hl : used.length + src.length ≤ dataSize) :
    (b.writeAt used.length src).bytes =
      used ++ src ++ List.replicate (dataSize - (used.length + src.length)) 0 := by
  rw [b.writeAt_bytes hl, hb, List.take_left, List.drop_append, List.drop_replicate,
    List.drop_of_length_le (by omega), List.nil_append, Nat.add_sub_cancel_left, Nat.sub_sub]

theorem ListCursor.Holds.add (h : c.Holds es) (hl : totalSize es + it.size ≤ dataSize) :
    (c.add it).Holds (es ++ [it]) where
  wifiListEntries := by
    rw [ListCursor.add, h.wifiListEntries, List.length_append]
    exact (UInt8.ofNat_add _ _).symm
  wifiListSizeInBytes := by
    rw [ListCursor.add, h.wifiListSizeInBytes, totalSize_append, totalSize_singleton]
    exact (UInt8.ofNat_add _ _).symm
  bufferP := by
    simp only [ListCursor.add, h.bufferP, totalSize_append, totalSize_singleton,
      WifiListEntry.size]
    omega
  fits := by rwa [totalSize_append, totalSize_singleton]
  data := by
    have hd := h.data
    rw [← length_flatMap_encode] at hd hl
    rw [← it.length_encode] at hl
    simp only [ListCursor.add, h.bufferP, totalSize_append, totalSize_singleton]
    rw [← length_flatMap_encode, writeAt_used hd hl, it.length_encode, List.flatMap_append,
      List.flatMap_singleton]
  copied := by rw [ListCursor.add, h.copied]

theorem ListCursor.Holds.loop (list : List WifiListEntry) (h : c.Holds es) :
    (listLoop bootstrapSsid list c).Holds
      (es ++ fitting bootstrapSsid (dataSize - totalSize es) list) := by
  induction list generalizing c es with
  | nil => simpa [listLoop, fitting] using h
  | cons it next ih =>
    have hroom : c.bufferP + it.ssid.bytes.length + 3 > dataSize ↔
        it.size > dataSize - totalSize es := by
      have hf := h.fits
      rw [h.bufferP, WifiListEntry.size]
      omega
    unfold listLoop fitting
    by_cases hfull : it.size > dataSize - totalSize es
    · rw [if_pos (hroom.mpr hfull), if_pos hfull, List.append_nil]
      exact h
    · rw [if_neg (hroom.not.mpr hfull), if_neg hfull]
      split
      · exact ih h
      · have hl : totalSize es + it.size ≤ dataSize := by
          have hf := h.fits
          omega
        have hadd := ih (h.add hl)
        rw [totalSize_append, totalSize_singleton, List.append_assoc, ← Nat.sub_sub] at hadd
        exact hadd

theorem ListCursor.holds_start : ListCursor.start.Holds [] := ⟨rfl, rfl, rfl, Nat.zero_le _, rfl, rfl⟩

def readString (mem : List UInt8) : Option (CString × List UInt8) :=
  if 0 ∈ mem then some (⟨Delimited.head 0 mem, Delimited.not_mem_head mem⟩, Delimited.rest 0 mem)
  else none

/-- The reader of the app: strength, encryption mode and a terminated ssid. -/
def readEntry : List UInt8 → Option (WifiListEntry × List UInt8)
  | strength :: mode :: mem => (readString mem).map fun r ↦ (⟨r.1, strength, mode⟩, r.2)
  | _ => none

theorem readString_append (str : CString) (mem : List UInt8) :
    readString (str.bytes ++ 0 :: mem) = some (str, mem) := by
  have hz : (0 : UInt8) ∈ str.bytes ++ 0 :: mem := by simp
  unfold readString
  rw [if_pos hz]
  simp only [Delimited.head_append str.nul_free, Delimited.rest_append str.nul_free]

theorem readEntry_encode (it : WifiListEntry) (mem : List UInt8) :
    readEntry (it.encode ++ mem) = some (it, mem) := by
  simp only [WifiListEntry.encode, List.cons_append, List.append_assoc, List.nil_append, readEntry,
    readString_append, Option.map_some]

def copiedEntries (list : List WifiListEntry) (s : Instance) : List WifiListEntry :=
  (listLoop ((s.options.bootstrapSsid.map (·.bytes)).getD []) list .start).copied

def RoomForLog (list : List WifiListEntry) (s : Instance) : Prop :=
  (listLoop ((s.options.bootstrapSsid.map (·.bytes)).getD []) list .start).bufferP +
    (logText s).length < dataSize

instance (list : List WifiListEntry) (s : Instance) : Decidable (RoomForLog list s) :=
  inferInstanceAs (Decidable (_ < _))

/-- The message of an error, else the device name. -/
def logString (s : Instance) : CString :=
  match s.state.errorLogMsg with
  | some msg => if s.state.lastError ≠ .ok then msg else s.options.name
  | none => s.options.name

/-- The packet says of itself what a reader needs to get list and log text back. -/
structure Framed (list : List WifiListEntry) (s : Instance) : Prop where
  entries : (wifiListPacket list s).wifiListEntries.toNat = (copiedEntries list s).length
  size : (wifiListPacket list s).wifiListSizeInBytes.toNat = totalSize (copiedEntries list s)
  read : (Delimited.records readEntry (wifiListPacket list s).wifiListEntries.toNat
    (wifiListPacket list s).data.bytes).map Prod.fst = some (copiedEntries list s)
  log : RoomForLog list s → (readString ((wifiListPacket list s).data.bytes.drop
    (wifiListPacket list s).wifiListSizeInBytes.toNat)).map Prod.fst = some (logString s)

def offered (list : List WifiListEntry) (s : Instance) : List WifiListEntry :=
  fitting ((s.options.bootstrapSsid.map (·.bytes)).getD []) dataSize list

theorem holds_offered (list : List WifiListEntry) (s : Instance) :
    (listLoop ((s.options.bootstrapSsid.map (·.bytes)).getD []) list .start).Holds
      (offered list s) := ListCursor.holds_start.loop list

theorem copiedEntries_eq (list : List WifiListEntry) (s : Instance) :
    copiedEntries list s = offered list s := (holds_offered list s).copied

theorem wifiListEntries_toNat (list : List WifiListEntry) (s : Instance) :
    (wifiListPacket list s).wifiListEntries.toNat = (offered list s).length := by
  have h := holds_offered list s
  have hlen := length_le_totalSize (offered list s)
  have hfit := h.fits
  simp only [dataSize_eq] at hfit
  change (listLoop _ list .start).wifiListEntries.toNat = _
  rw [h.wifiListEntries, toNat_toUInt8 (by omega)]

theorem wifiListSizeInBytes_toNat (list : List WifiListEntry) (s : Instance) :
    (wifiListPacket list s).wifiListSizeInBytes.toNat = totalSize (offered list s) % 256 := by
  change (listLoop _ list .start).wifiListSizeInBytes.toNat = _
  rw [(holds_offered list s).wifiListSizeInBytes]
  rfl

theorem logText_append (s : Instance) (k : ℕ) :
    ∃ mem, logText s ++ List.replicate (k + 1) 0 = (logString s).bytes ++ 0 :: mem := by
  have name : ∃ mem, s.options.name.bytes ++ List.replicate (k + 1) 0 =
      s.options.name.bytes ++ 0 :: mem := ⟨List.replicate k 0, rfl⟩
  unfold logText logString
  cases hm : s.state.errorLogMsg with
  | none => exact name
  | some msg =>
    by_cases hok : s.state.lastError ≠ .ok
    · simp only [if_pos hok]
      exact ⟨List.replicate (k + 1) 0, by simp⟩
    · simp only [if_neg hok]
      exact name

theorem wifiListPacket_data_log {list : List WifiListEntry} {s : Instance}
    (hroom : RoomForLog list s) :
    ∃ k, (wifiListPacket list s).data.bytes =
      (offered list s).flatMap WifiListEntry.encode ++
        (logText s ++ List.replicate (k + 1) 0) := by
  have h := holds_offered list s
  have hd := h.data
  rw [← length_flatMap_encode] at hd
  have hl : ((offered list s).flatMap WifiListEntry.encode).length + (logText s).length <
      dataSize := by
    rw [length_flatMap_encode, ← h.bufferP]
    exact hroom
  obtain ⟨k, hk⟩ : ∃ k, dataSize - (((offered list s).flatMap WifiListEntry.encode).length +
      (logText s).length) = k + 1 := ⟨_, (Nat.sub_add_cancel (Nat.sub_pos_of_lt hl)).symm⟩
  refine ⟨k, ?_⟩
  change (if RoomForLog list s then _ else _ : Buffer dataSize).bytes = _
  rw [if_pos hroom, h.bufferP, ← length_flatMap_encode, writeAt_used hd hl.le, hk,
    List.append_assoc]

theorem wifiListPacket_data_list {list : List WifiListEntry} {s : Instance}
    (hroom : ¬ RoomForLog list s) :
    (wifiListPacket list s).data.bytes = (offered list s).flatMap WifiListEntry.encode ++
      List.replicate (dataSize - totalSize (offered list s)) 0 := by
  change (if RoomForLog list s then _ else _ : Buffer dataSize).bytes = _
  rw [if_neg hroom]
  exact (holds_offered list s).data

/-- The data area: the list, the log text if there is room, and zeros. -/
theorem wifiListPacket_data (list : List WifiListEntry) (s : Instance) :
    ∃ mem, (wifiListPacket list s).data.bytes =
        (offered list s).flatMap WifiListEntry.encode ++ mem ∧
      (RoomForLog list s → ∃ after, mem = (logString s).bytes ++ 0 :: after) := by
  by_cases hroom : RoomForLog list s
  · obtain ⟨k, hbytes⟩ := wifiListPacket_data_log hroom
    exact ⟨_, hbytes, fun _ ↦ logText_append s k⟩
  · exact ⟨_, wifiListPacket_data_list hroom, fun hr ↦ absurd hr hroom⟩

theorem records_offered (list : List WifiListEntry) (s : Instance) :
    (Delimited.records readEntry (wifiListPacket list s).wifiListEntries.toNat
      (wifiListPacket list s).data.bytes).map Prod.fst = some (offered list s) := by
  obtain ⟨mem, hdata, -⟩ := wifiListPacket_data list s
  rw [wifiListEntries_toNat, hdata, Delimited.records_flatMap readEntry_encode]
  exact rfl

/-- The wifi list packet is framed in exactly the cases where the entries offered take no
more bytes than the size counter can hold. -/
theorem wifi_list_framed_iff (list : List WifiListEntry) (s : Instance) :
    Framed list s ↔ totalSize (offered list s) ≤ 255 := by
  constructor
  · intro h
    have hsize := h.size
    have hlt : (wifiListPacket list s).wifiListSizeInBytes.toNat < 256 := UInt8.toNat_lt _
    rw [copiedEntries_eq] at hsize
    omega
  · intro h
    have hentries := wifiListEntries_toNat list s
    have hsize := wifiListSizeInBytes_toNat list s
    rw [Nat.mod_eq_of_lt (Nat.lt_succ_of_le h)] at hsize
    obtain ⟨mem, hdata, hlog⟩ := wifiListPacket_data list s
    refine ⟨?_, ?_, ?_, fun hroom ↦ ?_⟩
    · rw [hentries, copiedEntries_eq]
    · rw [hsize, copiedEntries_eq]
    · rw [copiedEntries_eq]
      exact records_offered list s
    · obtain ⟨after, rfl⟩ := hlog hroom
      rw [hsize, hdata, ← length_flatMap_encode, List.drop_left, readString_append]
      rfl

def longScan : List WifiListEntry :=
  List.replicate 8 ⟨⟨List.replicate 32 97, by decide⟩, 80, 2⟩

/-- The list takes 280 bytes and its size counter says 24. -/
theorem long_scan_not_framed :
    (library lp64).Run .off sampleHistory sampleDevice ∧
      sampleDevice.inst.state.state = .waitingForData ∧
      (wifiListPacket longScan sampleDevice.inst).wifiListSizeInBytes = 24 ∧
      ¬ Framed longScan sampleDevice.inst := by
  have htotal : totalSize (offered longScan sampleDevice.inst) = 280 := by decide
  have hsize := wifiListSizeInBytes_toNat longScan sampleDevice.inst
  rw [htotal] at hsize
  refine ⟨run_sample, rfl, UInt8.toNat_inj.mp hsize, fun h ↦ ?_⟩
  have hframed := h.size
  rw [hsize, copiedEntries_eq, htotal] at hframed
  exact absurd hframed (by decide)

end BootstrapWifi
