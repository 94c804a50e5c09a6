import BootstrapWifi.Instance
import BootstrapWifi.Delimited

namespace BootstrapWifi

open ByteBuffer

variable (L : Layout)

/-- One turn of the loop over the three pointers: the pointer assigned and the
next value of `dataP`. -/
def assignPointer (storage : List UInt8) (dataP : ℕ) : Option ℕ × ℕ :=
  if storage.getD dataP 0 = 0 then (none, dataP + 1)
  else (some dataP, dataP + (cString storage dataP).length + 1)

/-- The length both copies of the stored data are cut to. -/
def assignedLen (storedData : List UInt8) : ℕ := min storedData.length (storageRamSize - 3)

theorem assignedLen_le (storedData : List UInt8) : assignedLen storedData ≤ storageRamSize :=
  (Nat.min_le_right _ _).trans (Nat.sub_le _ _)

def assignedStorage (storedData : List UInt8) : Buffer storageRamSize where
  bytes := storedData.take (assignedLen storedData) ++
    List.replicate (storageRamSize - assignedLen storedData) 0
  length_eq := by
    have h := assignedLen_le storedData
    have h' : assignedLen storedData ≤ storedData.length := Nat.min_le_left _ _
    simp only [List.length_append, List.length_take, List.length_replicate]
    omega

def prvAssignData (storedData : List UInt8) (s : Instance) : Instance :=
  let storage := assignedStorage storedData
  let ssid := assignPointer storage.bytes 0
  let pwd := assignPointer storage.bytes ssid.2
  let additional := assignPointer storage.bytes pwd.2
  { s with
    storage := storage
    ssid := ssid.1
    pwd := pwd.1
    additional := additional.1
    storageLen := assignedLen storedData }

/-- `memcpy` to `crypto_secret`. Bytes that do not fit land behind the array. -/
def copySecret (key : List UInt8) (s : Instance) : Instance :=
  let behind := L.spill (key.drop bindkeyMaxSize) s.behind
  { s with
    cryptoSecret := s.cryptoSecret.write key
    state := behind.state
    flags := behind.flags
    padding := behind.padding }

def prvEnterWaitForBootstrapMode (now : Time) (lastErrorCode : ErrorState)
    (lastErrorMessage : Option CString) (s : Instance) : Instance × List Action :=
  ({ s with
      flags := .zero
      state := { InnerState.zero with
        errorLogMsg := lastErrorMessage
        lastError := lastErrorCode
        state := .connectingToBootstrap
        timeoutConnecting := now + s.options.timeoutConnectingStateMs } },
    [.enterWaitForBootstrapMode,
      .connectToWifi (s.options.bootstrapSsid.map (·.bytes)) (s.options.bootstrapKey.map (·.bytes))])

def prvEnterBootstrappedMode (now : Time) (s : Instance) : Instance × List Action :=
  ({ s with
      flags := .zero
      state := { InnerState.zero with
        state := .connectingToDest
        timeoutConnecting := now + s.options.timeoutConnectingStateMs } },
    [.enterBootstrappedMode, .connectToWifi s.ssidString s.pwdString])

def setupSecret (boundKey : List UInt8) (s : Instance) : Instance :=
  let boundKey := boundKey.take bindkeyMaxSize
  if boundKey ≠ [] then
    { copySecret L boundKey s with cryptoSecretLen := boundKey.length.toUInt8 }
  else
    match s.options.initialCryptoSecret with
    | some initial =>
      { copySecret L initial.bytes s with cryptoSecretLen := initial.bytes.length.toUInt8 }
    | none => s

def bstSetup (now : Time) (options : Options) (bstData boundKey : List UInt8) :
    Instance × List Action :=
  let s := setupSecret L boundKey (prvAssignData bstData { Instance.zero with options := options })
  if s.ssid.isSome then
    if s.options.externalConfirmationMode = .requiredFirstStart then
      prvEnterBootstrappedMode now { s with options.externalConfirmationMode := .notRequired }
    else prvEnterBootstrappedMode now s
  else if s.options.bootstrapSsid.isSome then prvEnterWaitForBootstrapMode now .ok none s
  else (s, [])

end BootstrapWifi
