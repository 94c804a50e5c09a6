import BootstrapWifi.Mealy
import BootstrapWifi.NetworkInput
import BootstrapWifi.Periodic
import BootstrapWifi.WifiList

namespace BootstrapWifi

open Mealy

variable (L : Layout)

inductive Call
  | setup (options : Options) (bstData boundKey : List UInt8)
  | periodic (conn : ConnectState)
  | networkInput (data : List UInt8) (random : UInt64)
  | wifiNetworkList (list : List WifiListEntry)
  | setErrorMessage (mesg : Option CString)
  | factoryReset
  | confirmBootstrap

structure Event where
  now : Time
  call : Call

structure Flash where
  data : List UInt8
  key : List UInt8
deriving DecidableEq

def Flash.record (f : Flash) : Action → Flash
  | .storeBootstrapData data => { f with data := data }
  | .storeCryptoSecret secret => { f with key := secret }
  | _ => f

/-- The instance, the platform store, and the arguments of the last `bst_setup` that the
platform called. -/
structure Device where
  inst : Instance
  flash : Flash
  options : Options
  bstData : List UInt8
  boundKey : List UInt8
deriving DecidableEq

def Device.off : Device := ⟨.zero, ⟨[], []⟩, .zero, [], []⟩

def bstSetErrorMessage (mesg : Option CString) (s : Instance) : Instance :=
  { s with state.errorLogMsg := mesg }

def bstFactoryReset (s : Instance) : Instance := { s with flags.requestFactoryReset := true }

def bstConfirmBootstrap (s : Instance) : Instance := { s with flags.externalConfirmation := true }

def Device.after (d : Device) (r : Instance × List Action) : Device × List Action :=
  ({ d with inst := r.1, flash := r.2.foldl Flash.record d.flash }, r.2)

def Device.step (e : Event) (d : Device) : Device × List Action :=
  match e.call with
  | .setup o data key =>
    Device.after ⟨d.inst, ⟨data, key⟩, o, data, key⟩ (bstSetup L e.now o data key)
  | .periodic conn => d.after (bstPeriodic L e.now conn d.inst)
  | .networkInput data random => d.after ((bstNetworkInput L e.now random data d.inst).val, [])
  | .wifiNetworkList list => d.after (d.inst, bstWifiNetworkList L list d.inst)
  | .setErrorMessage mesg => d.after (bstSetErrorMessage mesg d.inst, [])
  | .factoryReset => d.after (bstFactoryReset d.inst, [])
  | .confirmBootstrap => d.after (bstConfirmBootstrap d.inst, [])

/-- All runs of the library, from the moment its memory is zeroed. -/
def library : Machine Device Event (List Action) := ⟨.off, Device.step L⟩

abbrev LibraryMove := Move Device Event (List Action)

end BootstrapWifi
