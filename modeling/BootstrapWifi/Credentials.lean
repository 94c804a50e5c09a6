import BootstrapWifi.StoredBlobs
import BootstrapWifi.BlobParser

namespace BootstrapWifi

open Mealy ByteBuffer Delimited

variable {L : Layout} {d d' : Device} {e e' : Event} {s : Instance} {data pkt c : List UInt8}
  {random : UInt64} {ssid pwd additional : CString} {m : LibraryMove} {h : List LibraryMove}

/-- `ssid NUL pwd NUL additional NUL` -/
def credentialsData (ssid pwd additional : CString) : List UInt8 :=
  encode 0 [ssid.bytes, pwd.bytes, additional.bytes]

/-- Only NUL bytes are at the end of the field that `prv_assign_data` cuts off. -/
def EndsInRoom (c : List UInt8) : Prop := ∀ b ∈ c.drop (storageRamSize - 3), b = 0

def Instance.HoldsTriple (s : Instance) (ssid pwd additional : CString) : Prop :=
  s.ssidString = some ssid.bytes ∧ s.pwdString = nullIfEmpty pwd.bytes ∧
    s.additionalString = nullIfEmpty additional.bytes

theorem fields_cut (hc : EndsInRoom c) (n : ℕ) :
    fields 0 n (c.take (assignedLen c)) = fields 0 n c := by
  by_cases hl : c.length ≤ storageRamSize - 3
  · rw [assignedLen, min_eq_left hl, List.take_length]
  · have hcut : c = c.take (assignedLen c) ++
        List.replicate (c.drop (storageRamSize - 3)).length 0 := by
      rw [assignedLen, min_eq_right (not_le.mp hl).le, ← List.eq_replicate_of_mem hc,
        List.take_append_drop]
    conv_rhs => rw [hcut]
    exact (fields_pad n _ _).symm

theorem endsInRoom_of_length_le (hl : c.length ≤ storageRamSize - 3) : EndsInRoom c := by
  intro b hb
  rw [List.drop_of_length_le hl] at hb
  cases hb

theorem endsInRoom_bootstrapData (hc : EndsInRoom c) : EndsInRoom (bootstrapData c) := by
  intro b hb
  rw [bootstrapData, List.drop_append] at hb
  rcases List.mem_append.mp hb with hb | hb
  · exact hc b hb
  · exact List.eq_of_mem_replicate (List.mem_of_mem_drop hb)

theorem fields_credentialsData :
    fields 0 3 (bootstrapData (credentialsData ssid pwd additional)) =
      [ssid.bytes, pwd.bytes, additional.bytes] := by
  have hnul : ∀ f ∈ [ssid.bytes, pwd.bytes, additional.bytes], 0 ∉ f := by
    simp [ssid.nul_free, pwd.nul_free, additional.nul_free]
  rw [bootstrapData, fields_pad]
  simpa [credentialsData] using fields_encode [ssid.bytes, pwd.bytes, additional.bytes] hnul []

theorem holdsTriple_assigned (hssid : ssid.bytes ≠ [])
    (hroom : EndsInRoom (credentialsData ssid pwd additional))
    (hc : s.credentials = (prvAssignData (bootstrapData (credentialsData ssid pwd additional))
      .zero).credentials) : s.HoldsTriple ssid pwd additional := by
  have hstrings := prvAssignData_strings (bootstrapData (credentialsData ssid pwd additional)) .zero
  rw [fields_cut (endsInRoom_bootstrapData hroom), fields_credentialsData] at hstrings
  simp only [Instance.strings, List.map_cons, List.map_nil, List.cons.injEq, and_true] at hstrings
  obtain ⟨h₁, h₂, h₃⟩ := strings_of_credentials hc
  rw [Instance.HoldsTriple, h₁, h₂, h₃, hstrings.1, hstrings.2.1, hstrings.2.2, nullIfEmpty,
    if_neg hssid]
  exact ⟨rfl, rfl, rfl⟩

theorem length_credentialsData (ssid pwd additional : CString) :
    (credentialsData ssid pwd additional).length =
      ssid.bytes.length + pwd.bytes.length + additional.bytes.length + 3 := by
  simp only [credentialsData, encode, List.length_append, List.length_cons, List.length_nil]
  omega

theorem setDataDone_strings (s : Instance) (pkt : List UInt8) :
    (s.setDataDone pkt).strings =
      (fields 0 3 ((content pkt).take (assignedLen (content pkt)))).map nullIfEmpty :=
  prvAssignData_strings (content pkt) s

/-- No additional data of more than 507 bytes come through. -/
theorem not_holdsTriple_of_long (s : Instance) (pkt : List UInt8)
    (hlong : 507 < additional.bytes.length) :
    ¬ (s.setDataDone pkt).HoldsTriple ssid pwd additional := by
  intro htriple
  obtain ⟨-, -, hadd⟩ := htriple
  have hstrings := setDataDone_strings s pkt
  simp only [Instance.strings, fields, List.map_cons, List.map_nil, List.cons.injEq, and_true]
    at hstrings
  generalize hl : (content pkt).take (assignedLen (content pkt)) = l at hstrings
  have hlen : l.length ≤ 509 := by
    rw [← hl, List.length_take]
    exact (Nat.min_le_left _ _).trans (Nat.min_le_right _ _)
  have hne : additional.bytes ≠ [] := List.ne_nil_of_length_pos (by omega)
  have hfield : nullIfEmpty (head 0 (rest 0 (rest 0 l))) = some additional.bytes := by
    rw [← hstrings.2.2, hadd, nullIfEmpty, if_neg hne]
  have hbytes : additional.bytes = head 0 (rest 0 (rest 0 l)) := by
    unfold nullIfEmpty at hfield
    split at hfield
    · cases hfield
    · exact (Option.some.inj hfield).symm
  have h₁ : additional.bytes.length ≤ (rest 0 (rest 0 l)).length := hbytes ▸ length_head_le _
  have h₂ := length_rest_le (z := (0 : UInt8)) (rest 0 l)
  have h₃ := length_rest_le (z := (0 : UInt8)) l
  omega

theorem credentials_of_pending (hc : ¬ e.call.IsSetup) (hpre : d.inst.flags.requestSetWifi = true)
    (hpost : ((library L).step e d).1.inst.flags.requestSetWifi = true) :
    ((library L).step e d).1.inst.credentials = d.inst.credentials := by
  obtain ⟨now, call⟩ := e
  cases call with
  | setup => exact absurd trivial hc
  | periodic conn =>
    rw [step_periodic L rfl] at hpost ⊢
    by_cases hf : d.inst.options.Ready ∧ d.inst.flags.requestFactoryReset = true
    · rw [bstPeriodic_factoryReset L conn hf.1 hf.2, serveFactoryReset_eq L hf.1] at hpost
      cases hpost
    · exact ((bstPeriodic_effect L now conn d.inst).same_data hf).1
  | networkInput data random =>
    rw [step_networkInput L rfl]
    rcases (networkInput_effect L now random data d.inst).credentials with hsame | ⟨pkt, hacc, -⟩
    · exact hsame
    · have hclear := hacc.2.2.2.2.2
      rw [hpre] at hclear
      cases hclear
  | _ => rfl

theorem credentials_of_pending_run (r : (library L).Run d h d')
    (hd : d.inst.flags.requestSetWifi = true)
    (hm : ∀ m ∈ h, ¬ m.input.call.IsSetup ∧ m.post.inst.flags.requestSetWifi = true) :
    d'.inst.credentials = d.inst.credentials := by
  have hkeep : d'.inst.flags.requestSetWifi = true ∧ d'.inst.credentials = d.inst.credentials := by
    refine r.keeps (P := fun x ↦ x.inst.flags.requestSetWifi = true ∧
      x.inst.credentials = d.inst.credentials) ⟨hd, rfl⟩ fun m hmem he ⟨hflag, hsame⟩ ↦ ?_
    obtain ⟨hset, hpost⟩ := hm m hmem
    rw [he] at hset hpost
    have hstep := credentials_of_pending hset hflag hpost
    rw [he]
    exact ⟨hpost, hstep.trans hsame⟩
  exact hkeep.2

/-- Credentials whose encoding leaves no byte but NULs in the last three places of the
field arrive unchanged, are the ones connected with, and come back from the store. -/
theorem credentials_arrive (hssid : ssid.bytes ≠ [])
    (hroom : EndsInRoom (credentialsData ssid pwd additional))
    (hc : e.call = .networkInput data random) (hacc : SetDataAccepted L e.now data pkt d.inst)
    (hpkt : content pkt = bootstrapData (credentialsData ssid pwd additional)) :
    ((library L).step e d).1.inst.HoldsTriple ssid pwd additional ∧
      ∀ h d' e', (library L).Run ((library L).step e d).1 h d' →
        (∀ m ∈ h, ¬ m.input.call.IsSetup ∧ m.post.inst.flags.requestSetWifi = true) →
        ExecutesSetData ((library L).move d' e') →
        ∃ blob, ((library L).step e' d').2 =
            [.sendMessage .bootstrapOk, .storeBootstrapData blob, .enterBootstrappedMode,
              .connectToWifi (some ssid.bytes) (nullIfEmpty pwd.bytes)] ∧
          ((library L).step e' d').1.flash.data = blob ∧
          ∀ now o key, (bstSetup L now o blob key).1.HoldsTriple ssid pwd additional := by
  have hpost : ((library L).step e d).1.inst = d.inst.setDataDone pkt := by
    rw [step_networkInput L hc, Device.after_inst, networkInput_of_setData hacc]
  have hflag : ((library L).step e d).1.inst.flags.requestSetWifi = true := by
    rw [hpost]
    rfl
  have hassigned : ((library L).step e d).1.inst.credentials =
      (prvAssignData (bootstrapData (credentialsData ssid pwd additional)) .zero).credentials := by
    rw [hpost, ← hpkt]
    rfl
  refine ⟨holdsTriple_assigned hssid hroom hassigned, fun h d' e' r hm hx ↦ ?_⟩
  have hkept := (credentials_of_pending_run r hflag hm).trans hassigned
  have htriple := holdsTriple_assigned hssid hroom hkept
  have hstorage : d'.inst.storage = assignedStorage _ := congrArg Prod.fst hkept
  have hlen : d'.inst.storageLen = assignedLen _ := congrArg (fun x ↦ x.2.1) hkept
  refine ⟨d'.inst.storage.bytes.take d'.inst.storageLen, ?_, ?_, fun now o key ↦ ?_⟩
  · rw [executesSetData_output hx, htriple.1, htriple.2.1]
  · rw [step_executesSetData hx]
    rfl
  · refine holdsTriple_assigned hssid hroom ?_
    rw [bstSetup_credentials, hstorage, hlen, take_assignedStorage, prvAssignData_cut]

def homeSsid : CString := .ofChars ['a']

def homePwd : CString := .ofChars ['b']

theorem sampleTold_accepted (data : List UInt8) :
    SetDataAccepted lp64 2 (receivePkt lp64 sampleDevice.inst cmdSetData (bootstrapData data))
      (plainPkt cmdSetData (bootstrapData data)) sampleDevice.inst :=
  setDataAccepted_receivePkt rfl (by decide) (.inl rfl) rfl

theorem sampleListed_run (data : List UInt8) :
    (library lp64).Run (sampleTold data).post [sampleListed data] (sampleListed data).post ∧
      ∀ m ∈ [sampleListed data],
        ¬ m.input.call.IsSetup ∧ m.post.inst.flags.requestSetWifi = true := by
  refine ⟨Machine.Run.nil.snoc _, List.forall_mem_singleton.mpr ⟨id, ?_⟩⟩
  rw [sampleListed_post, sampleTold_post]
  rfl

theorem sample_credentials_arrive :
    (sampleTold (credentialsData homeSsid homePwd .empty)).post.inst.HoldsTriple
        homeSsid homePwd .empty ∧
      .connectToWifi (some homeSsid.bytes) (nullIfEmpty homePwd.bytes) ∈
        (sampleExecuted (credentialsData homeSsid homePwd .empty)).output := by
  have hssid : homeSsid.bytes ≠ [] := by decide
  have hroom : EndsInRoom (credentialsData homeSsid homePwd .empty) := by
    refine endsInRoom_of_length_le ?_
    rw [length_credentialsData]
    decide
  generalize hdata : credentialsData homeSsid homePwd .empty = data
  have hpkt : content (plainPkt cmdSetData (bootstrapData data)) =
      bootstrapData (credentialsData homeSsid homePwd .empty) := by
    rw [content_plainPkt, hdata]
  obtain ⟨htriple, hrun⟩ := credentials_arrive (d := sampleDevice)
    (e := setDataEvent lp64 sampleDevice 2 data) hssid hroom rfl (sampleTold_accepted data) hpkt
  obtain ⟨hr, hmem⟩ := sampleListed_run data
  obtain ⟨blob, hout, -, -⟩ := hrun [sampleListed data] (sampleListed data).post
    ⟨4, .periodic .connected⟩ hr hmem (sampleExecuted_executes data)
  refine ⟨htriple, ?_⟩
  rw [sampleExecuted, move_output, hout]
  simp

/-- The longest additional data that the field can carry beside a name of one letter. -/
def longData : CString where
  bytes := List.replicate 508 98
  nul_free h := absurd (List.eq_of_mem_replicate h) (by decide)

/-- Of 508 bytes of additional data two are lost. -/
theorem long_credentials_cut :
    (library lp64).Run .off
        (sampleTold (credentialsData homeSsid .empty longData) :: sampleHistory)
        (sampleTold (credentialsData homeSsid .empty longData)).post ∧
      SetDataAccepted lp64 2
        (receivePkt lp64 sampleDevice.inst cmdSetData
          (bootstrapData (credentialsData homeSsid .empty longData)))
        (plainPkt cmdSetData (bootstrapData (credentialsData homeSsid .empty longData)))
        sampleDevice.inst ∧
      homeSsid.bytes ≠ [] ∧ (credentialsData homeSsid .empty longData).length = storageRamSize ∧
      ¬ (sampleTold (credentialsData homeSsid .empty longData)).post.inst.HoldsTriple
        homeSsid .empty longData := by
  have hlong : longData.bytes.length = 508 := List.length_replicate
  refine ⟨run_sample.snoc _, sampleTold_accepted _, by decide, ?_, ?_⟩
  · rw [length_credentialsData, hlong]
    rfl
  · rw [sampleTold_post]
    exact not_holdsTriple_of_long sampleDevice.inst _ (by rw [hlong]; decide)

end BootstrapWifi
