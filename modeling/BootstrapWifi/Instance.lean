import BootstrapWifi.ByteBuffer
import Mathlib.Algebra.Order.Group.Int

namespace BootstrapWifi

open ByteBuffer

/-- Readings of `bst_get_system_time_ms` and the deadlines computed from them. -/
abbrev Time := ℤ

def storageRamSize : ℕ := 512
def nonceSize : ℕ := 8
def uidSize : ℕ := 6
def crcSize : ℕ := 2
def bindkeyMaxSize : ℕ := 32
def networkPacketSize : ℕ := 512

/-- What a 64 bit compiler adds between the fields of `state`, and behind `crypto_secret_len`
and `flags`. -/
def statePaddingSize : ℕ := 7
def instancePaddingSize : ℕ := 14

def networkHeader : List UInt8 := [0x42, 0x53, 0x54, 0x77, 0x69, 0x66, 0x69, 0x31]

/-- A NUL-terminated string without its terminator. -/
structure CString where
  bytes : List UInt8
  nul_free : 0 ∉ bytes
deriving DecidableEq

def CString.empty : CString := ⟨[], List.not_mem_nil⟩

def CString.ofChars (cs : List Char) (h : 0 ∉ cs.map (·.toNat.toUInt8) := by decide) : CString :=
  ⟨cs.map (·.toNat.toUInt8), h⟩

/-- The bytes at `initial_crypto_secret`; their number is a `uint8_t`. -/
structure InitialSecret where
  bytes : List UInt8
  length_lt : bytes.length < 256
deriving DecidableEq

inductive ConnectState
  | noConnection
  | failedSsidNotFound
  | failedCredentialsWrong
  | failedAdvanced
  | connected
  | connectedAdvanced
  | connecting
deriving DecidableEq

inductive BstState
  | uninitialized
  | connectingToBootstrap
  | waitingForData
  | connectingToDest
  | destinationConnected
deriving DecidableEq

inductive ConfirmationMode
  | notRequired
  | requiredFirstStart
  | alwaysRequired
deriving DecidableEq

inductive ErrorState
  | ok
  | hello
  | bootstrapOk
  | errorUnspecified
  | errorBinding
  | errorBootstrapData
  | errorWifiList
  | errorWifiNotFound
  | errorWifiCredentialsWrong
  | errorAdvanced
deriving DecidableEq

def ErrorState.code : ErrorState → UInt8
  | .ok => 0
  | .hello => 1
  | .bootstrapOk => 2
  | .errorUnspecified => 3
  | .errorBinding => 4
  | .errorBootstrapData => 5
  | .errorWifiList => 6
  | .errorWifiNotFound => 7
  | .errorWifiCredentialsWrong => 8
  | .errorAdvanced => 9

/-- `bst_connect_options`. Pointers the library tests against NULL are optional. -/
structure Options where
  name : CString
  uniqueDeviceId : Buffer uidSize
  initialCryptoSecret : Option InitialSecret
  bootstrapSsid : Option CString
  bootstrapKey : Option CString
  timeoutConnectingStateMs : ℤ
  timeoutNonceMs : ℤ
  needAdvancedConnection : Bool
  externalConfirmationMode : ConfirmationMode
  retryConnectingToBootstrapNetwork : UInt8
  retryConnectingToDestinationNetwork : UInt8
deriving DecidableEq

/-- The inner struct `state`. The three deadlines of its union are one field. Only what runs
over `crypto_secret` writes to the padding. -/
structure InnerState where
  errorLogMsg : Option CString
  prvAppNonce : Buffer nonceSize
  prvDeviceNonce : Buffer nonceSize
  countConnectionAttempts : UInt8
  state : BstState
  lastError : ErrorState
  timeoutConnecting : Time
  timeNonceValid : Time
  padding : Buffer statePaddingSize
deriving DecidableEq

structure Flags where
  requestWifiList : Bool
  requestSetWifi : Bool
  requestBind : Bool
  requestFactoryReset : Bool
  externalConfirmation : Bool
deriving DecidableEq

/-- `prv_instance`. The pointers into `storage` are offsets. -/
structure Instance where
  options : Options
  storage : Buffer storageRamSize
  storageLen : ℕ
  ssid : Option ℕ
  pwd : Option ℕ
  additional : Option ℕ
  cryptoSecret : Buffer bindkeyMaxSize
  cryptoSecretLen : UInt8
  state : InnerState
  flags : Flags
  padding : Buffer instancePaddingSize
deriving DecidableEq

def Options.zero : Options where
  name := .empty
  uniqueDeviceId := .zero _
  initialCryptoSecret := none
  bootstrapSsid := none
  bootstrapKey := none
  timeoutConnectingStateMs := 0
  timeoutNonceMs := 0
  needAdvancedConnection := false
  externalConfirmationMode := .notRequired
  retryConnectingToBootstrapNetwork := 0
  retryConnectingToDestinationNetwork := 0

def InnerState.zero : InnerState where
  errorLogMsg := none
  prvAppNonce := .zero _
  prvDeviceNonce := .zero _
  countConnectionAttempts := 0
  state := .uninitialized
  lastError := .ok
  timeoutConnecting := 0
  timeNonceValid := 0
  padding := .zero _

def Flags.zero : Flags := ⟨false, false, false, false, false⟩

/-- `prv_instance` after `memset` with 0, as it also is before the first `bst_setup`. -/
def Instance.zero : Instance where
  options := .zero
  storage := .zero _
  storageLen := 0
  ssid := none
  pwd := none
  additional := none
  cryptoSecret := .zero _
  cryptoSecretLen := 0
  state := .zero
  flags := .zero
  padding := .zero _

/-- The most bytes a `uint8_t` length can reach behind the 32 byte secret. -/
def overrunSize : ℕ := 255 - bindkeyMaxSize

/-- What follows `crypto_secret` and its length in `prv_instance`. -/
structure Behind where
  state : InnerState
  flags : Flags
  padding : Buffer instancePaddingSize
deriving DecidableEq

def Instance.behind (s : Instance) : Behind := ⟨s.state, s.flags, s.padding⟩

/-- What the compiler's memory layout decides: the bytes that a read finds behind
`crypto_secret` or behind a received packet, and what bytes written behind
`crypto_secret` do to what is placed there. -/
structure Layout where
  behindSecret : Instance → Buffer overrunSize
  behindPacket : List UInt8 → Buffer overrunSize
  spill : List UInt8 → Behind → Behind
  spill_nil : ∀ x, spill [] x = x

/-- The `crypto_secret_len` bytes at `crypto_secret`. -/
def Instance.secret (L : Layout) (s : Instance) : List UInt8 :=
  (s.cryptoSecret.bytes ++ (L.behindSecret s).bytes).take s.cryptoSecretLen.toNat

theorem Instance.secret_of_le (L : Layout) {s : Instance}
    (h : s.cryptoSecretLen.toNat ≤ bindkeyMaxSize) :
    s.secret L = s.cryptoSecret.bytes.take s.cryptoSecretLen.toNat :=
  List.take_append_of_le_length (by simpa using h)

def cString (mem : List UInt8) (off : ℕ) : List UInt8 := (mem.drop off).takeWhile (· ≠ 0)

def Instance.ssidString (s : Instance) : Option (List UInt8) := s.ssid.map (cString s.storage.bytes)

def Instance.pwdString (s : Instance) : Option (List UInt8) := s.pwd.map (cString s.storage.bytes)

def Instance.additionalString (s : Instance) : Option (List UInt8) :=
  s.additional.map (cString s.storage.bytes)

/-- What SET_DATA writes. -/
def Instance.credentials (s : Instance) :
    Buffer storageRamSize × ℕ × Option ℕ × Option ℕ × Option ℕ :=
  (s.storage, s.storageLen, s.ssid, s.pwd, s.additional)

/-- What BIND writes. -/
def Instance.secretField (s : Instance) : Buffer bindkeyMaxSize × UInt8 :=
  (s.cryptoSecret, s.cryptoSecretLen)

/-- What an API call does towards its platform, and the mode entries it runs. -/
inductive Action
  | enterWaitForBootstrapMode
  | enterBootstrappedMode
  | connectToWifi (ssid pwd : Option (List UInt8))
  | connectAdvanced (data : Option (List UInt8))
  | connectedToBootstrapNetwork
  | requestWifiNetworkList
  | storeBootstrapData (data : List UInt8)
  | storeCryptoSecret (secret : List UInt8)
  /-- An unencrypted packet: the header, two uninitialised bytes and the code. -/
  | sendMessage (state : ErrorState)
  | networkOutput (data : List UInt8)
deriving DecidableEq

end BootstrapWifi
