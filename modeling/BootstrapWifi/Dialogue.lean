import BootstrapWifi.Instructed

namespace BootstrapWifi

open Mealy ByteBuffer

variable {L : Layout} {T : Time} {a : App} {d : Device} {e : Event} {s : Instance} {key : List UInt8}
  {now : Time} {random : UInt64}

/-- How far the app has come: whether it knows the nonce of the device, whether it has bound the
device, and at last what it has told it. -/
inductive Phase
  | talking (acquainted rebound : Bool)
  | told (rebound : Bool) (data : List UInt8)

def Phase.Holds (T : Time) (a : App) (d : Device) : Phase → Prop
  | .talking acquainted rebound => InSession T a d.inst ∧
      (acquainted = true → d.inst.state.prvDeviceNonce = a.deviceNonce) ∧
      (rebound = true → KeyComing d)
  | .told rebound data => Instructed rebound data a d

theorem helloDone_app (h : SessionOpen now s ∨ s.state.prvAppNonce = a.appNonce) :
    (s.helloDone now random (plainPkt cmdHello a.appNonce.bytes)).state.prvAppNonce =
      a.appNonce := by
  by_cases ho : SessionOpen now s
  · ext1
    have hl : helloReceivePktSize ≤ (plainPkt cmdHello a.appNonce.bytes).length := by
      rw [length_plainPkt, a.appNonce.length_bytes]
      rfl
    rw [helloDone_of_open ho hl, appNonce_plainPkt a.appNonce.length_bytes]
  · unfold Instance.helloDone
    rw [if_neg ho]
    exact h.resolve_left ho

/-- Nothing but polls. -/
def polled (d : Device) (n : ℕ) : List LibraryMove × Device :=
  (library lp64).exec d ((List.replicate n (3, .connected)).map pollEvent)

end BootstrapWifi
