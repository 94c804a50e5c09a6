import BootstrapWifi.SetupEffect
import BootstrapWifi.InputEffect

namespace BootstrapWifi

open ByteBuffer Delimited AccessLog

variable {storedData mem f : List UInt8} {s : Instance} {off : ℕ}

/-- A string as the three pointers hold it: the empty one is NULL. -/
def nullIfEmpty (f : List UInt8) : Option (List UInt8) := if f = [] then none else some f

theorem head_drop_eq_nil : head 0 (mem.drop off) = [] ↔ mem.getD off 0 = 0 := by
  have hd : mem.getD off 0 = (mem.drop off).getD 0 0 := by
    rw [List.getD_eq_getElem?_getD, List.getD_eq_getElem?_getD, List.getElem?_drop, Nat.add_zero]
  rw [hd]
  cases mem.drop off with
  | nil => simp
  | cons b bs =>
    by_cases hb : b = 0
    · simp [hb, head_cons_self]
    · simp [hb, head_cons_of_ne hb]

/-- A turn of the pointer loop takes one field off the front of what is left. -/
theorem assignPointer_field (mem : List UInt8) (off : ℕ) :
    (assignPointer mem off).1.map (cString mem) = nullIfEmpty (head 0 (mem.drop off)) ∧
      mem.drop (assignPointer mem off).2 = rest 0 (mem.drop off) := by
  have hrest : rest 0 (mem.drop off) = mem.drop (off + ((head 0 (mem.drop off)).length + 1)) := by
    rw [rest_eq_drop, List.drop_drop]
  unfold assignPointer nullIfEmpty
  by_cases hz : mem.getD off 0 = 0
  · have hnil := head_drop_eq_nil.mpr hz
    rw [hnil] at hrest ⊢
    rw [if_pos hz, hrest]
    exact ⟨rfl, rfl⟩
  · have hcons := head_drop_eq_nil.not.mpr hz
    rw [if_neg hz, if_neg hcons, hrest, ← Nat.add_assoc]
    exact ⟨rfl, rfl⟩

def Instance.strings (s : Instance) : List (Option (List UInt8)) :=
  [s.ssidString, s.pwdString, s.additionalString]

/-- `prv_assign_data` splits what it keeps of the data into three terminated fields. -/
theorem prvAssignData_strings (c : List UInt8) (s : Instance) :
    (prvAssignData c s).strings = (fields 0 3 (c.take (assignedLen c))).map nullIfEmpty := by
  have hfields : fields 0 3 (c.take (assignedLen c)) = fields 0 3 (assignedStorage c).bytes :=
    (fields_pad 3 _ _).symm
  generalize hmem : (assignedStorage c).bytes = mem at hfields
  obtain ⟨hssid, hnext⟩ := assignPointer_field mem 0
  obtain ⟨hpwd, hlast⟩ := assignPointer_field mem (assignPointer mem 0).2
  obtain ⟨hadd, -⟩ := assignPointer_field mem (assignPointer mem (assignPointer mem 0).2).2
  rw [hnext] at hpwd hlast
  rw [hlast] at hadd
  rw [List.drop_zero] at hssid hpwd hadd
  have hstrings : (prvAssignData c s).strings =
      [(assignPointer mem 0).1.map (cString mem),
        (assignPointer mem (assignPointer mem 0).2).1.map (cString mem),
        (assignPointer mem (assignPointer mem (assignPointer mem 0).2).2).1.map (cString mem)] := by
    rw [← hmem]
    rfl
  rw [hstrings, hssid, hpwd, hadd, hfields]
  rfl

/-- An access to a byte of `storage`, by its index. -/
inductive StorageAccess
  | read (i : ℕ)
  | write (i : ℕ)
deriving DecidableEq

def StorageAccess.InBounds : StorageAccess → Prop
  | .read i | .write i => i < storageRamSize

/-- `memcpy` or `memset` of `n` bytes to `storage + off` -/
def fillStorage (off n : ℕ) : Logged StorageAccess Unit where
  val := ()
  log := (List.range' off n).map .write

def readStorage (storage : List UInt8) (off : ℕ) : Logged StorageAccess UInt8 where
  val := storage.getD off 0
  log := [.read off]

/-- `strlen` also reads the terminator. -/
def strlenStorage (storage : List UInt8) (off : ℕ) : Logged StorageAccess ℕ where
  val := (cString storage off).length
  log := (List.range' off ((cString storage off).length + 1)).map .read

/-- `assignPointer` with the bytes it touches. -/
def assignPointerLogged (storage : List UInt8) (dataP : ℕ) :
    Logged StorageAccess (Option ℕ × ℕ) := do
  let b ← readStorage storage dataP
  if b = 0 then return (none, dataP + 1)
  else
    let len ← strlenStorage storage dataP
    return (some dataP, dataP + len + 1)

/-- `prvAssignData` with the bytes it touches. -/
def prvAssignDataLogged (storedData : List UInt8) (s : Instance) :
    Logged StorageAccess Instance := do
  let storageLen := assignedLen storedData
  fillStorage 0 storageLen
  fillStorage storageLen (storageRamSize - storageLen)
  let storage := assignedStorage storedData
  let ssid ← assignPointerLogged storage.bytes 0
  let pwd ← assignPointerLogged storage.bytes ssid.2
  let additional ← assignPointerLogged storage.bytes pwd.2
  return { s with
    storage := storage
    ssid := ssid.1
    pwd := pwd.1
    additional := additional.1
    storageLen := storageLen }

theorem val_assignPointerLogged (mem : List UInt8) (off : ℕ) :
    (assignPointerLogged mem off).val = assignPointer mem off := by
  unfold assignPointerLogged assignPointer
  rw [Logged.val_bind, Logged.val_ite]
  rfl

theorem val_prvAssignDataLogged (storedData : List UInt8) (s : Instance) :
    (prvAssignDataLogged storedData s).val = prvAssignData storedData s := by
  simp only [prvAssignDataLogged, Logged.val_bind, Logged.val_pure, val_assignPointerLogged]
  rfl

theorem within_fillStorage {n : ℕ} (h : off + n ≤ storageRamSize) :
    (fillStorage off n).Within StorageAccess.InBounds := Logged.within_range' rfl (fun _ ↦ id) h

theorem within_strlenStorage (h : off + (cString mem off).length < storageRamSize) :
    (strlenStorage mem off).Within StorageAccess.InBounds :=
  Logged.within_range' rfl (fun _ ↦ id) h

/-- The last three bytes of `storage` stay NUL. -/
theorem assignedStorage_end (storedData : List UInt8) {i : ℕ} (hi : storageRamSize - 3 ≤ i) :
    (assignedStorage storedData).bytes.getD i 0 = 0 := by
  have hlen : (storedData.take (assignedLen storedData)).length ≤ i := by
    refine (List.length_take_le _ _).trans ?_
    exact (Nat.min_le_right _ _).trans hi
  rw [List.getD_eq_getElem?_getD, assignedStorage, List.getElem?_append_right hlen,
    List.getElem?_replicate]
  split <;> rfl

/-- A string of `storage` ends before the last two bytes. -/
theorem length_cString_le (storedData : List UInt8) (off : ℕ) :
    (cString (assignedStorage storedData).bytes off).length ≤ storageRamSize - 3 - off := by
  refine length_head_le_of_getD ?_
  have hend := assignedStorage_end storedData (i := off + (storageRamSize - 3 - off)) (by omega)
  rwa [List.getD_eq_getElem?_getD, ← List.getElem?_drop, ← List.getD_eq_getElem?_getD] at hend

theorem lt_of_getD_ne_zero (h : (assignedStorage storedData).bytes.getD off 0 ≠ 0) :
    off < storageRamSize - 3 := by
  by_contra hoff
  exact h (assignedStorage_end storedData (not_lt.mp hoff))

theorem assignPointer_next_le (storedData : List UInt8) (off : ℕ) :
    (assignPointer (assignedStorage storedData).bytes off).2 ≤
      max (off + 1) (storageRamSize - 2) := by
  unfold assignPointer
  split
  · exact Nat.le_max_left _ _
  next hz =>
    have hoff := lt_of_getD_ne_zero hz
    have hlen := length_cString_le storedData off
    refine le_trans ?_ (Nat.le_max_right _ _)
    simp only [storageRamSize] at *
    omega

theorem within_assignPointerLogged (h : off < storageRamSize) :
    (assignPointerLogged (assignedStorage storedData).bytes off).Within
      StorageAccess.InBounds := by
  unfold assignPointerLogged
  rw [Logged.within_bind]
  constructor
  · intro a ha
    rw [List.mem_singleton.mp ha]
    exact h
  · split
    · exact Logged.within_pure _ _
    next hz =>
      have hoff := lt_of_getD_ne_zero hz
      have hlen := length_cString_le storedData off
      rw [Logged.within_bind]
      refine ⟨within_strlenStorage ?_, Logged.within_pure _ _⟩
      simp only [storageRamSize] at *
      omega

theorem within_prvAssignDataLogged (storedData : List UInt8) (s : Instance) :
    (prvAssignDataLogged storedData s).Within StorageAccess.InBounds := by
  have hlen := assignedLen_le storedData
  have hpwd := assignPointer_next_le storedData 0
  have hadd := assignPointer_next_le storedData
    (assignPointer (assignedStorage storedData).bytes 0).2
  simp only [prvAssignDataLogged, Logged.within_bind, Logged.within_pure, and_true,
    val_assignPointerLogged]
  refine ⟨within_fillStorage (by omega), within_fillStorage (by omega),
    within_assignPointerLogged (by decide), within_assignPointerLogged ?_,
    within_assignPointerLogged ?_⟩
  · simp only [storageRamSize] at *
    omega
  · simp only [storageRamSize] at *
    omega

/-- NULL for an empty field, else the place of a terminated copy of it. -/
structure PointsTo (mem f : List UInt8) (p : Option ℕ) : Prop where
  null : p = none ↔ f = []
  copy : ∀ off, p = some off → off + f.length < storageRamSize ∧
    (mem.drop off).take (f.length + 1) = f ++ [0]

theorem assignPointer_pointsTo (storedData : List UInt8) (off : ℕ) :
    PointsTo (assignedStorage storedData).bytes
      (head 0 ((assignedStorage storedData).bytes.drop off))
      (assignPointer (assignedStorage storedData).bytes off).1 := by
  have hlen := length_cString_le storedData off
  unfold assignPointer
  by_cases hz : (assignedStorage storedData).bytes.getD off 0 = 0
  · rw [if_pos hz, head_drop_eq_nil.mpr hz]
    exact ⟨iff_of_true rfl rfl, fun _ h ↦ by cases h⟩
  · have hoff := lt_of_getD_ne_zero hz
    have hroom : off + (cString (assignedStorage storedData).bytes off).length <
        storageRamSize := by
      simp only [storageRamSize] at *
      omega
    rw [if_neg hz]
    refine ⟨iff_of_false (fun h ↦ by cases h) (head_drop_eq_nil.not.mpr hz), fun p hp ↦ ?_⟩
    obtain rfl := Option.some.inj hp
    refine ⟨hroom, take_head ?_⟩
    rw [List.length_drop, Buffer.length_bytes]
    exact Nat.lt_sub_of_add_lt (Nat.add_comm off _ ▸ hroom)

theorem prvAssignData_pointsTo (storedData : List UInt8) (s : Instance) :
    List.Forall₂ (PointsTo (prvAssignData storedData s).storage.bytes)
      (fields 0 3 (storedData.take (assignedLen storedData)))
      [(prvAssignData storedData s).ssid, (prvAssignData storedData s).pwd,
        (prvAssignData storedData s).additional] := by
  have hfields : fields 0 3 (storedData.take (assignedLen storedData)) =
      fields 0 3 (assignedStorage storedData).bytes := (fields_pad 3 _ _).symm
  have hssid := assignPointer_pointsTo storedData 0
  have hpwd := assignPointer_pointsTo storedData
    (assignPointer (assignedStorage storedData).bytes 0).2
  have hadd := assignPointer_pointsTo storedData
    (assignPointer (assignedStorage storedData).bytes
      (assignPointer (assignedStorage storedData).bytes 0).2).2
  obtain ⟨-, hnext⟩ := assignPointer_field (assignedStorage storedData).bytes 0
  obtain ⟨-, hlast⟩ := assignPointer_field (assignedStorage storedData).bytes
    (assignPointer (assignedStorage storedData).bytes 0).2
  rw [hnext] at hpwd hlast
  rw [hlast] at hadd
  rw [List.drop_zero] at hssid hpwd hadd
  rw [hfields]
  exact .cons hssid (.cons hpwd (.cons hadd .nil))

/-- The parser of the stored data stays inside `storage` whatever the data are, its three
pointers stand for the first three fields of what it keeps, and what it keeps parses to
the same again. -/
theorem stored_data_parsed (storedData : List UInt8) (s : Instance) :
    (prvAssignDataLogged storedData s).Within StorageAccess.InBounds ∧
      ∃ t, (prvAssignDataLogged storedData s).val = t ∧ prvAssignData storedData s = t ∧
        t.storageLen = min storedData.length 509 ∧
        List.Forall₂ (PointsTo t.storage.bytes)
          (fields 0 3 (storedData.take (min storedData.length 509)))
          [t.ssid, t.pwd, t.additional] ∧
        ∀ s', (prvAssignData (t.storage.bytes.take t.storageLen) s').credentials =
          t.credentials := by
  refine ⟨within_prvAssignDataLogged storedData s, prvAssignData storedData s,
    val_prvAssignDataLogged storedData s, rfl, rfl, prvAssignData_pointsTo storedData s,
    fun s' ↦ ?_⟩
  have hkept : (prvAssignData storedData s).storage.bytes.take
      (prvAssignData storedData s).storageLen = storedData.take (assignedLen storedData) :=
    take_assignedStorage storedData
  rw [hkept, prvAssignData_take storedData le_rfl]
  exact rfl

end BootstrapWifi
