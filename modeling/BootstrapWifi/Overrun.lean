import BootstrapWifi.AppRun

namespace BootstrapWifi

open Mealy

variable {now : Time} {d : Device}

/-- A key that fills the secret and goes on with a state and flags of the app's choice. -/
def forgedKey (st : InnerState) (f : Flags) : List UInt8 :=
  List.replicate bindkeyMaxSize 7 ++ frontBytes 97 ⟨st, f, .zero _⟩

theorem length_forgedKey (st : InnerState) (f : Flags) : (forgedKey st f).length = 97 := by
  rw [forgedKey, List.length_append, List.length_replicate, length_frontBytes]
  rfl

/-- With this key the app of a session takes over the whole state of the device. -/
theorem step_forgedBind {st : InnerState} (f : Flags) (hm : d.inst.state.state = .waitingForData)
    (ht : now ≤ d.inst.state.timeNonceValid) (hf : d.inst.flags.requestBind = false)
    (hmsg : st.errorLogMsg = none) (hc : FitsTime st.timeoutConnecting)
    (hv : FitsTime st.timeNonceValid) :
    ((library lp64).step (bindEvent lp64 d now (forgedKey st f)) d).1 =
      { d with
        inst.cryptoSecret := d.inst.cryptoSecret.write (forgedKey st f)
        inst.cryptoSecretLen := 97
        inst.state := st
        inst.flags := { f with requestBind := true }
        inst.padding := d.inst.padding.write (List.replicate 7 0) } := by
  have hk : (forgedKey st f).length ≤ 255 := by
    rw [length_forgedKey]
    decide
  have hdrop : (forgedKey st f).drop bindkeyMaxSize = frontBytes 97 ⟨st, f, .zero _⟩ :=
    List.drop_left' List.length_replicate
  have hlen : newBindKeyLen (plainPkt cmdBind (bindContent (forgedKey st f))) = 97 := by
    apply UInt8.toNat.inj
    rw [newBindKeyLen_bindContent hk, length_forgedKey]
    rfl
  rw [step_bindEvent hm ht hf hk]
  unfold Instance.bindDone copySecret
  rw [newBindKey_bindContent hk, hlen, hdrop, spill_frontBytes 97 _ hmsg hc hv]
  rfl

def guardedOptions : Options := { sampleOptions with externalConfirmationMode := .alwaysRequired }

theorem guardedOptions_ready : guardedOptions.Ready := ⟨rfl, rfl⟩

def guardedDevice : Device := greetedDevice lp64 guardedOptions [] 1 sampleNonce 7

def guardedHistory : List LibraryMove := greetingHistory lp64 guardedOptions [] 1 sampleNonce 7

def forgedState : InnerState :=
  { InnerState.zero with state := .waitingForData, timeNonceValid := 1000000 }

def forgedFlags : Flags := ⟨false, false, false, false, true⟩

def forgedBind : LibraryMove :=
  (library lp64).move guardedDevice
    (bindEvent lp64 guardedDevice 2 (forgedKey forgedState forgedFlags))

def forgedServed : LibraryMove := (library lp64).move forgedBind.post ⟨3, .periodic .connected⟩

/-- SET_DATA long after the only HELLO, without any confirmation. -/
def forgedSetData : LibraryMove :=
  (library lp64).move forgedServed.post (setDataEvent lp64 forgedServed.post 1000 [97])

theorem run_forged : (library lp64).Run .off
    (forgedSetData :: forgedServed :: forgedBind :: guardedHistory) forgedSetData.post :=
  (((run_greeting guardedOptions_ready rfl).snoc _).snoc _).snoc _

theorem forgedBind_post : forgedBind.post =
    { guardedDevice with
      inst.cryptoSecret := guardedDevice.inst.cryptoSecret.write (forgedKey forgedState forgedFlags)
      inst.cryptoSecretLen := 97
      inst.state := forgedState
      inst.flags := { forgedFlags with requestBind := true }
      inst.padding := guardedDevice.inst.padding.write (List.replicate 7 0) } :=
  step_forgedBind forgedFlags rfl (by decide) rfl rfl (by decide) (by decide)

theorem forgedServed_post : forgedServed.post.inst.state = forgedState ∧
    forgedServed.post.inst.flags = forgedFlags ∧
    forgedServed.post.inst.options = guardedOptions := by
  have hready : forgedBind.post.inst.options.Ready := by
    rw [forgedBind_post]
    exact guardedOptions_ready
  have hstep : forgedServed.post = (forgedBind.post.after (serveBind lp64 forgedBind.post.inst)).1 := by
    rw [forgedServed, move_post, step_periodic lp64 rfl,
      bstPeriodic_bind lp64 .connected hready (by rw [forgedBind_post]; rfl)
        (by rw [forgedBind_post])]
  rw [hstep, forgedBind_post]
  exact ⟨rfl, rfl, rfl⟩

theorem forgedSetData_post : forgedSetData.post.inst.flags.requestSetWifi = true := by
  obtain ⟨hs, hf, ho⟩ := forgedServed_post
  rw [forgedSetData, move_post, step_setDataEvent (by rw [hs]; rfl) (by rw [hs]; decide)
    (.inr (by rw [hf]; rfl)) (by rw [hf]; rfl)]
  rfl

end BootstrapWifi
