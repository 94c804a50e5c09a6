import BootstrapWifi.AppRun
import BootstrapWifi.Commands

namespace BootstrapWifi

open Mealy

variable {L : Layout} {now : Time} {conn : ConnectState} {random : UInt64} {data : List UInt8}
  {s : Instance} {d d₀ : Device} {e : Event}

/-- A call other than `bst_setup` and `bst_periodic` that writes no byte behind the secret. -/
structure Between (L : Layout) (m : LibraryMove) : Prop where
  noSetup : ¬ m.input.call.IsSetup
  noPeriodic : ∀ conn, m.input.call ≠ .periodic conn
  fits : BindFits L m

/-- A factory reset that `bst_periodic` has yet to serve. -/
structure ResetWaits (o : Options) (s : Instance) : Prop where
  flag : s.flags.requestFactoryReset = true
  options : s.options = o

theorem ResetWaits.step {o : Options} (hs : ResetWaits o d.inst)
    (hm : Between L ((library L).move d e)) : ResetWaits o ((library L).step e d).1.inst := by
  obtain ⟨now, call⟩ := e
  cases call with
  | setup => exact absurd trivial hm.noSetup
  | periodic conn => exact absurd rfl (hm.noPeriodic conn)
  | networkInput data random =>
    have heff := networkInput_effect L now random data d.inst
    rw [step_networkInput L rfl, Device.after_inst]
    exact ⟨(heff.requestFactoryReset fun pkt ↦ hm.fits data random pkt rfl).trans hs.flag,
      heff.options.trans hs.options⟩
  | wifiNetworkList => exact hs
  | setErrorMessage => exact ⟨hs.flag, hs.options⟩
  | factoryReset => exact ⟨rfl, hs.options⟩
  | confirmBootstrap => exact ⟨hs.flag, hs.options⟩

theorem resetWaits_of_call (hcall : e.call = .factoryReset) :
    ResetWaits d.inst.options ((library L).step e d).1.inst := by
  obtain ⟨now, call⟩ := e
  cases hcall
  exact ⟨rfl, rfl⟩

/-- Whatever an app and the platform do between `bst_factory_reset` and the next
`bst_periodic`, that call serves the reset before every other request: the store is erased and
the device starts over with its options. -/
theorem reset_never_lost {later mid earlier : List LibraryMove} {m m₀ : LibraryMove}
    (r : (library L).Run d₀ (later ++ m :: (mid ++ m₀ :: earlier)) d)
    (hcall : m₀.input.call = .factoryReset) (hmid : ∀ x ∈ mid, Between L x)
    (hc : m.input.call = .periodic conn) (ho : m₀.pre.inst.options.Ready) :
    m.post.inst = (bstSetup L m.input.now m₀.pre.inst.options [] []).1 ∧
      m.output = .storeBootstrapData [] :: .storeCryptoSecret [] ::
        (bstSetup L m.input.now m₀.pre.inst.options [] []).2 ∧
      m.post.flash = ⟨[], []⟩ := by
  obtain ⟨r', he, -⟩ := r.split
  obtain ⟨-, he₀, rmid⟩ := r'.split
  have hstart : ResetWaits m₀.pre.inst.options m₀.post.inst := by
    rw [he₀, move_post]
    exact resetWaits_of_call hcall
  have hwaits : ResetWaits m₀.pre.inst.options m.pre.inst := by
    refine rmid.keeps (P := fun d ↦ ResetWaits m₀.pre.inst.options d.inst) hstart
      fun x hx he hs ↦ ?_
    have hx' := hmid x hx
    rw [he] at hx' ⊢
    exact hs.step hx'
  have hready : m.pre.inst.options.Ready := hwaits.options ▸ ho
  have hserve : bstPeriodic L m.input.now conn m.pre.inst =
      serveFactoryReset L m.input.now m.pre.inst :=
    bstPeriodic_factoryReset L conn hready hwaits.flag
  have hstep : (library L).step m.input m.pre =
      m.pre.after (serveFactoryReset L m.input.now m.pre.inst) := by
    rw [step_periodic L hc, hserve]
  rw [he, move_post, move_output, move_input, hstep, ← hwaits.options]
  refine ⟨rfl, rfl, ?_⟩
  rw [serveFactoryReset_eq L hready]
  rfl

/-- The application resets the sample device, the app binds it to a key, and `bst_periodic`
comes. -/
def sampleResetCall : LibraryMove := (library lp64).move sampleDevice ⟨2, .factoryReset⟩

def sampleResetBind : LibraryMove :=
  (library lp64).move sampleResetCall.post (bindEvent lp64 sampleResetCall.post 3 [9, 9])

def sampleResetServed : LibraryMove :=
  (library lp64).move sampleResetBind.post ⟨4, .periodic .connected⟩

theorem run_sampleReset : (library lp64).Run .off
    ([] ++ sampleResetServed :: ([sampleResetBind] ++ sampleResetCall :: sampleHistory))
    sampleResetServed.post :=
  ((run_sample.snoc _).snoc _).snoc _

theorem sample_reset_never_lost : sampleResetServed.post.flash = ⟨[], []⟩ :=
  (reset_never_lost run_sampleReset rfl
    (List.forall_mem_singleton.mpr ⟨id, nofun, bindFits_bindEvent rfl (by decide)⟩) rfl
    sampleOptions_ready).2.2

end BootstrapWifi
