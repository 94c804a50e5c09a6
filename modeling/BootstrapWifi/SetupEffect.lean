import BootstrapWifi.Setup

namespace BootstrapWifi

open ByteBuffer

variable {L : Layout} {now : Time} {o : Options} {data key : List UInt8} {s : Instance}

theorem copySecret_of_le (h : key.length ≤ bindkeyMaxSize) :
    copySecret L key s = { s with cryptoSecret := s.cryptoSecret.write key } := by
  simp only [copySecret, List.drop_of_length_le h, L.spill_nil, Instance.behind]

/-- The secret a device starts with. -/
def chosenSecret (o : Options) (boundKey : List UInt8) : List UInt8 :=
  if boundKey.take bindkeyMaxSize ≠ [] then boundKey.take bindkeyMaxSize
  else (o.initialCryptoSecret.map (·.bytes)).getD []

def Options.SecretFits (o : Options) : Prop :=
  ∀ i, o.initialCryptoSecret = some i → i.bytes.length ≤ bindkeyMaxSize

theorem Options.SecretFits.length_chosenSecret (h : o.SecretFits) (key : List UInt8) :
    (chosenSecret o key).length ≤ bindkeyMaxSize := by
  unfold chosenSecret
  split
  · exact List.length_take_le _ _
  · cases hi : o.initialCryptoSecret with
    | none => simp
    | some i => simpa using h i hi

theorem setupSecret_eq (hl : s.cryptoSecretLen = 0) :
    setupSecret L key s = { copySecret L (chosenSecret s.options key) s with
      cryptoSecretLen := (chosenSecret s.options key).length.toUInt8 } := by
  unfold setupSecret chosenSecret
  by_cases hk : key.take bindkeyMaxSize = []
  · simp only [hk, ne_eq, not_true_eq_false, if_false]
    cases hi : s.options.initialCryptoSecret with
    | some i => rfl
    | none =>
      have hw : s.cryptoSecret.write [] = s.cryptoSecret := by
        ext1
        rw [s.cryptoSecret.write_bytes (by simp)]
        simp
      simp only [Option.map_none, Option.getD_none]
      rw [copySecret_of_le (by simp), hw]
      cases s
      simpa using hl
  · simp only [ne_eq, hk, not_false_eq_true, if_true]

/-- The zeroed instance with options, stored data and secret in place. -/
def loaded (L : Layout) (o : Options) (data key : List UInt8) : Instance :=
  setupSecret L key (prvAssignData data { Instance.zero with options := o })

theorem loaded_eq : loaded L o data key =
    { copySecret L (chosenSecret o key) (prvAssignData data { Instance.zero with options := o }) with
      cryptoSecretLen := (chosenSecret o key).length.toUInt8 } := setupSecret_eq rfl

@[simp] theorem loaded_options : (loaded L o data key).options = o := by rw [loaded_eq]; rfl

theorem loaded_ssid : (loaded L o data key).ssid = (prvAssignData data .zero).ssid := by
  rw [loaded_eq]; rfl

theorem loaded_credentials :
    (loaded L o data key).credentials = (prvAssignData data .zero).credentials := by
  rw [loaded_eq]
  rfl

theorem take_assignedStorage (c : List UInt8) :
    (assignedStorage c).bytes.take (assignedLen c) = c.take (assignedLen c) := by
  have hl : (c.take (assignedLen c)).length = assignedLen c :=
    List.length_take_of_le (Nat.min_le_left _ _)
  exact List.take_left' hl

theorem assignedLen_cons (b : UInt8) (bs : List UInt8) :
    assignedLen (b :: bs) = min bs.length (storageRamSize - 4) + 1 := by
  simp only [assignedLen, List.length_cons, storageRamSize]
  omega

theorem assignedStorage_head (data : List UInt8) :
    (assignedStorage data).bytes.getD 0 0 = data.getD 0 0 := by
  cases data with
  | nil => rfl
  | cons b bs =>
    simp only [assignedStorage]
    rw [assignedLen_cons, List.take_succ_cons]
    rfl

theorem prvAssignData_ssid (data : List UInt8) (s : Instance) :
    (prvAssignData data s).ssid =
      if (assignedStorage data).bytes.getD 0 0 = 0 then none else some 0 := by
  simp only [prvAssignData, assignPointer]
  split <;> rfl

theorem loaded_ssid_nil (L : Layout) (o : Options) (key : List UInt8) :
    (loaded L o [] key).ssid = none := by
  rw [loaded_ssid, prvAssignData_ssid]
  rfl

/-- A secret that `bst_setup` lets run over is followed by a mode entry, which clears what lies
behind. -/
def SetupContained (o : Options) (data key : List UInt8) : Prop :=
  o.bootstrapSsid.isSome ∨ (prvAssignData data .zero).ssid.isSome ∨
    (chosenSecret o key).length ≤ bindkeyMaxSize

theorem loaded_of_idle (L : Layout) (h : SetupContained o data key)
    (hs : (loaded L o data key).ssid = none) (hb : o.bootstrapSsid = none) :
    (loaded L o data key).state = .zero ∧ (loaded L o data key).flags = .zero := by
  rw [loaded_ssid] at hs
  rw [SetupContained, hs, hb] at h
  have hfit : (chosenSecret o key).length ≤ bindkeyMaxSize :=
    (h.resolve_left Bool.false_ne_true).resolve_left Bool.false_ne_true
  rw [loaded_eq, copySecret_of_le hfit]
  exact ⟨rfl, rfl⟩

/-- The options once stored data has been found: asking only at the first start turns
into not asking. -/
def Options.bootstrapped (o : Options) : Options :=
  if o.externalConfirmationMode = .requiredFirstStart then
    { o with externalConfirmationMode := .notRequired } else o

@[simp] theorem Options.bootstrapped_bootstrapSsid (o : Options) :
    o.bootstrapped.bootstrapSsid = o.bootstrapSsid := by
  unfold Options.bootstrapped
  split <;> rfl

@[simp] theorem Options.bootstrapped_initialCryptoSecret (o : Options) :
    o.bootstrapped.initialCryptoSecret = o.initialCryptoSecret := by
  unfold Options.bootstrapped
  split <;> rfl

inductive SetupEffect (L : Layout) (now : Time) (o : Options) (data key : List UInt8) :
    Instance × List Action → Prop
  | bootstrapped : (loaded L o data key).ssid.isSome → SetupEffect L now o data key
      (prvEnterBootstrappedMode now { loaded L o data key with options := o.bootstrapped })
  | waiting : (loaded L o data key).ssid = none → o.bootstrapSsid.isSome →
      SetupEffect L now o data key (prvEnterWaitForBootstrapMode now .ok none (loaded L o data key))
  | idle : (loaded L o data key).ssid = none → o.bootstrapSsid = none →
      SetupEffect L now o data key (loaded L o data key, [])

theorem enterBootstrapped_edited (s : Instance) :
    (if s.options.externalConfirmationMode = .requiredFirstStart then
      prvEnterBootstrappedMode now { s with options.externalConfirmationMode := .notRequired }
    else prvEnterBootstrappedMode now s) =
      prvEnterBootstrappedMode now { s with options := s.options.bootstrapped } := by
  unfold Options.bootstrapped
  split <;> rfl

theorem bstSetup_effect (L : Layout) (now : Time) (o : Options) (data key : List UInt8) :
    SetupEffect L now o data key (bstSetup L now o data key) := by
  have ho : (loaded L o data key).options = o := loaded_options
  have he : bstSetup L now o data key =
      if (loaded L o data key).ssid.isSome then
        prvEnterBootstrappedMode now { loaded L o data key with options := o.bootstrapped }
      else if o.bootstrapSsid.isSome then
        prvEnterWaitForBootstrapMode now .ok none (loaded L o data key)
      else (loaded L o data key, []) := by
    change (if (loaded L o data key).ssid.isSome then
        if (loaded L o data key).options.externalConfirmationMode = .requiredFirstStart then
          prvEnterBootstrappedMode now
            { loaded L o data key with options.externalConfirmationMode := .notRequired }
        else prvEnterBootstrappedMode now (loaded L o data key)
      else if (loaded L o data key).options.bootstrapSsid.isSome then _ else _) = _
    rw [enterBootstrapped_edited, ho]
    rfl
  rw [he]
  by_cases hs : (loaded L o data key).ssid.isSome
  · rw [if_pos hs]
    exact .bootstrapped hs
  · have hn : (loaded L o data key).ssid = none := by simpa using hs
    rw [if_neg hs]
    split
    next hb => exact .waiting hn hb
    next hb => exact .idle hn (by simpa using hb)

theorem toNat_toUInt8 {n : ℕ} (h : n < 256) : n.toUInt8.toNat = n :=
  UInt8.toNat_ofNat_of_lt' h

theorem bstSetup_credentials (L : Layout) (now : Time) (o : Options) (data key : List UInt8) :
    (bstSetup L now o data key).1.credentials = (prvAssignData data .zero).credentials := by
  have h := bstSetup_effect L now o data key
  generalize bstSetup L now o data key = r at h ⊢
  cases h <;> exact loaded_credentials

theorem bstSetup_secretField (L : Layout) (now : Time) (o : Options) (data key : List UInt8) :
    (bstSetup L now o data key).1.secretField =
      ((Buffer.zero _).write (chosenSecret o key), (chosenSecret o key).length.toUInt8) := by
  have hl : (loaded L o data key).secretField =
      ((Buffer.zero _).write (chosenSecret o key), (chosenSecret o key).length.toUInt8) := by
    rw [loaded_eq]
    rfl
  have h := bstSetup_effect L now o data key
  generalize bstSetup L now o data key = r at h ⊢
  cases h <;> exact hl

theorem bstSetup_options (L : Layout) (now : Time) (o : Options) (data key : List UInt8) :
    (bstSetup L now o data key).1.options =
      if (prvAssignData data .zero).ssid.isSome then o.bootstrapped else o := by
  have h := bstSetup_effect L now o data key
  generalize bstSetup L now o data key = r at h ⊢
  cases h with
  | bootstrapped h =>
    rw [loaded_ssid] at h
    rw [if_pos h]
    rfl
  | waiting h =>
    rw [loaded_ssid] at h
    rw [h]
    exact loaded_options
  | idle h =>
    rw [loaded_ssid] at h
    rw [h]
    exact loaded_options

theorem bstSetup_options_nil (L : Layout) (now : Time) (o : Options) (key : List UInt8) :
    (bstSetup L now o [] key).1.options = o := by
  have hn : (prvAssignData [] .zero).ssid = none := rfl
  rw [bstSetup_options, hn]
  rfl

/-- Without stored data the device waits for its app. -/
theorem bstSetup_nil (L : Layout) (now : Time) (key : List UInt8) (ho : o.bootstrapSsid.isSome) :
    bstSetup L now o [] key = prvEnterWaitForBootstrapMode now .ok none (loaded L o [] key) := by
  have h := bstSetup_effect L now o [] key
  generalize bstSetup L now o [] key = r at h ⊢
  cases h with
  | bootstrapped hs =>
    rw [loaded_ssid_nil] at hs
    cases hs
  | waiting => rfl
  | idle _ hn =>
    rw [hn] at ho
    cases ho

theorem bstSetup_cleared (L : Layout) (now : Time) (data key : List UInt8)
    (ho : SetupContained o data key) :
    (bstSetup L now o data key).1.flags = .zero ∧
      (bstSetup L now o data key).1.state.timeNonceValid = 0 := by
  have h := bstSetup_effect L now o data key
  generalize bstSetup L now o data key = r at h
  cases h with
  | bootstrapped => exact ⟨rfl, rfl⟩
  | waiting => exact ⟨rfl, rfl⟩
  | idle hs hn =>
    obtain ⟨hstate, hflags⟩ := loaded_of_idle L ho hs hn
    refine ⟨hflags, ?_⟩
    rw [hstate]
    rfl

theorem bstSetup_flags (L : Layout) (now : Time) (data key : List UInt8)
    (ho : o.bootstrapSsid.isSome) : (bstSetup L now o data key).1.flags = .zero :=
  (bstSetup_cleared L now data key (.inl ho)).1

end BootstrapWifi
