import BootstrapWifi.AppSession
import BootstrapWifi.Setup

namespace BootstrapWifi

open ByteBuffer

variable (L : Layout)

def errFailedAdvanced : CString := .ofChars
  ['F', 'a', 'i', 'l', 'e', 'd', ' ', 't', 'o', ' ', 'c', 'o', 'n', 'n', 'e', 'c', 't', ' ',
    't', 'o', ' ', 'a', 'd', 'v', 'a', 'n', 'c', 'e', 'd']

def errFailedWifiCred : CString := .ofChars
  ['W', 'i', 'F', 'i', ' ', 'C', 'r', 'e', 'd', 'e', 'n', 't', 'i', 'a', 'l', 's', ' ',
    'w', 'r', 'o', 'n', 'g']

def errFailedWifiNotFound : CString := .ofChars
  ['W', 'i', 'F', 'i', ' ', 'n', 'o', 't', ' ', 'f', 'o', 'u', 'n', 'd']

/-- Give up the destination network; a message set by the user wins over the default. -/
def fallBack (now : Time) (code : ErrorState) (message : CString) (s : Instance) :
    Instance × List Action :=
  prvEnterWaitForBootstrapMode now code (some (s.state.errorLogMsg.getD message)) s

def ConnectState.isConnected : ConnectState → Bool
  | .connected | .connectedAdvanced => true
  | _ => false

/-- `case BST_MODE_WAITING_FOR_DATA` -/
def pollWaitingForData (now : Time) (conn : ConnectState) (s : Instance) :
    Instance × List Action :=
  if conn ≠ .connected then ({ s with state.state := .connectingToBootstrap }, [])
  else if s.state.timeoutConnecting > now then (s, [])
  else
    let s := { s with state.timeoutConnecting := now + s.options.timeoutConnectingStateMs }
    if s.ssid.isSome then
      let session := prvIsAppSessionValid now s
      if session.1 then (session.2, []) else prvEnterBootstrappedMode now session.2
    else (s, [])

/-- `case BST_MODE_CONNECTING_TO_BOOTSTRAP`; a connected device falls through to the
next case. -/
def pollConnectingToBootstrap (now : Time) (conn : ConnectState) (s : Instance) :
    Instance × List Action :=
  if conn.isConnected then
    let r := pollWaitingForData now conn { s with state.state := .waitingForData }
    (r.1, .connectedToBootstrapNetwork :: .sendMessage .hello :: r.2)
  else if s.state.timeoutConnecting > now then (s, [])
  else
    let s := { s with state.timeoutConnecting := now + s.options.timeoutConnectingStateMs }
    let connect : Action :=
      .connectToWifi (s.options.bootstrapSsid.map (·.bytes)) (s.options.bootstrapKey.map (·.bytes))
    if s.ssid.isNone then (s, [connect])
    else
      let s := { s with state.countConnectionAttempts := s.state.countConnectionAttempts + 1 }
      if s.state.countConnectionAttempts ≤ s.options.retryConnectingToBootstrapNetwork then
        (s, [connect])
      else prvEnterBootstrappedMode now s

/-- `case BST_MODE_DESTINATION_CONNECTED` -/
def pollDestinationConnected (now : Time) (conn : ConnectState) (s : Instance) :
    Instance × List Action :=
  match conn with
  | .failedSsidNotFound => fallBack now .errorWifiNotFound errFailedWifiNotFound s
  | .failedCredentialsWrong => fallBack now .errorWifiCredentialsWrong errFailedWifiCred s
  | .failedAdvanced => fallBack now .errorAdvanced errFailedAdvanced s
  | .connected =>
    if s.options.needAdvancedConnection then
      if s.state.countConnectionAttempts > s.options.retryConnectingToDestinationNetwork then
        fallBack now .errorAdvanced errFailedAdvanced s
      else if now ≥ s.state.timeoutConnecting then
        ({ s with
            state.countConnectionAttempts := s.state.countConnectionAttempts + 1
            state.timeoutConnecting := s.options.timeoutConnectingStateMs + now },
          [.connectAdvanced s.additionalString])
      else (s, [])
    else (s, [])
  | .connectedAdvanced => ({ s with state.errorLogMsg := none, state.lastError := .ok }, [])
  | .connecting | .noConnection => ({ s with state.state := .connectingToDest }, [])

/-- `case BST_MODE_CONNECTING_TO_DEST`; unless the deadline branch is taken it falls
through to the next case, connected or not. -/
def pollConnectingToDest (now : Time) (conn : ConnectState) (s : Instance) :
    Instance × List Action :=
  if conn.isConnected then
    let s := { s with state.state := .destinationConnected }
    if s.options.needAdvancedConnection then
      pollDestinationConnected now conn
        { s with
          state.timeoutConnecting := 0
          state.countConnectionAttempts := 0
          state.errorLogMsg := none
          state.lastError := .ok }
    else pollDestinationConnected now conn s
  else if now > s.state.timeoutConnecting then
    let s :=
      { s with
        state.timeoutConnecting := s.options.timeoutConnectingStateMs + now
        state.countConnectionAttempts := s.state.countConnectionAttempts + 1 }
    if s.state.countConnectionAttempts ≥ s.options.retryConnectingToDestinationNetwork then
      fallBack now .errorWifiNotFound errFailedWifiNotFound s
    else (s, [.connectToWifi s.ssidString s.pwdString])
  else pollDestinationConnected now conn s

def poll (now : Time) (conn : ConnectState) (s : Instance) : Instance × List Action :=
  match s.state.state with
  | .connectingToBootstrap => pollConnectingToBootstrap now conn s
  | .waitingForData => pollWaitingForData now conn s
  | .connectingToDest => pollConnectingToDest now conn s
  | .destinationConnected => pollDestinationConnected now conn s
  | .uninitialized => (s, [])

/-- The branch of a pending `request_factory_reset`. -/
def serveFactoryReset (now : Time) (s : Instance) : Instance × List Action :=
  let r := bstSetup L now s.options [] []
  (r.1, .storeBootstrapData [] :: .storeCryptoSecret [] :: r.2)

/-- The branch of a pending `request_bind`. -/
def serveBind (s : Instance) : Instance × List Action :=
  let s := { s with flags.requestBind := false, state.lastError := .ok }
  (s, [.storeCryptoSecret (s.secret L), .requestWifiNetworkList])

/-- The branch of a pending `request_set_wifi`. -/
def serveSetWifi (now : Time) (s : Instance) : Instance × List Action :=
  let r := prvEnterBootstrappedMode now s
  (r.1, .sendMessage .bootstrapOk ::
    .storeBootstrapData (s.storage.bytes.take s.storageLen) :: r.2)

def bstPeriodic (now : Time) (conn : ConnectState) (s : Instance) : Instance × List Action :=
  if s.options.bootstrapSsid.isNone ∨ s.options.initialCryptoSecret.isNone then (s, [])
  else if s.flags.requestFactoryReset then serveFactoryReset L now s
  else if s.flags.requestBind then serveBind L s
  else if s.flags.requestWifiList then
    ({ s with flags.requestWifiList := false }, [.requestWifiNetworkList])
  else if s.flags.requestSetWifi then serveSetWifi now s
  else poll now conn s

end BootstrapWifi
