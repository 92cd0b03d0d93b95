import Xrdp.Chansrv.Devredir

/-!
# What an answer does to its request

A record owes its caller a callback until it has been called, and holds a file of the client's from the answer
that gives it until it is closed.

* `Irp.owes`, `Irp.files` — the two, read off a record.
* `Irp.given`, `Irp.lost` — the file that an answer gives, and the one that nothing will close.
* `Answered` — what a record may come to.
* `procDeviceIocompletion_answered` — an awaited answer calls what is owed, or leaves it owed; a file that was
  held or is given is closed, held or lost.
-/

namespace Xrdp.Chansrv.Devredir

variable {φ : Type}

/-- The caller that a call is the last one for. -/
def Called.fip : Called φ → List φ
  | .enumDirAddEntry .. => []
  | .enumDirDone fip _ => fip.toList
  | .lookupEntry fip _ _ => fip.toList
  | .setattr fip _ => fip.toList
  | .createFile fip _ _ _ => fip.toList
  | .openFile fip _ _ _ => fip.toList
  | .readFile fip _ _ => fip.toList
  | .writeFile fip _ _ _ => fip.toList
  | .rmdirOrFile fip _ => fip.toList
  | .renameFile fip _ => fip.toList
  | .fileClose fip => fip.toList
  | .scardReturn userData _ _ _ => userData.toList

/-- The file that a message closes, with its drive. -/
def Sent.closes : Sent → List (UInt32 × UInt32)
  | .close deviceId fileId _ => [(deviceId, fileId)]
  | _ => []

namespace Irp

/-- The record is that of a file that is open. -/
def IsOpen (r : Irp φ) : Prop :=
  r.callback = false ∧ (r.completionType = .CID_CREATE_REQ ∨ r.completionType = .CID_OPEN_REQ) ∧ r.fileId ≠ 0

instance (r : Irp φ) : Decidable r.IsOpen := by
  unfold IsOpen
  infer_instance

/-- The record is that of a transfer, which has the id of a file of another record. -/
def IsTransfer (r : Irp φ) : Prop := r.completionType = .CID_READ ∨ r.completionType = .CID_WRITE

/-- Who is still to be called. -/
def owes (r : Irp φ) : List φ :=
  if r.callback then r.userData.toList
  else if r.IsOpen ∨ r.completionType = .CID_CLOSE ∨ r.completionType = .unset then []
  else r.fuseInfo.toList

/-- The answer is to give a file. -/
def WantsFile (r : Irp φ) : Prop :=
  r.callback = false ∧ match r.completionType with
    | .CID_CREATE_DIR_REQ | .CID_CREATE_REQ | .CID_OPEN_REQ | .CID_RMDIR_OR_FILE | .CID_RENAME_FILE => True
    | .CID_LOOKUP | .CID_SETATTR => r.state = .getFh
    | _ => False

instance (r : Irp φ) : Decidable r.WantsFile := by
  unfold WantsFile
  cases r.completionType <;> infer_instance

/-- The file that the record holds, with its drive. -/
def files (r : Irp φ) : List (UInt32 × UInt32) :=
  if r.callback then []
  else match r.completionType with
    | .CID_DIRECTORY_CONTROL | .CID_RMDIR_OR_FILE_RESP | .CID_RENAME_FILE_RESP => [(r.deviceId, r.fileId)]
    | .CID_CREATE_REQ | .CID_OPEN_REQ => if r.fileId = 0 then [] else [(r.deviceId, r.fileId)]
    | .CID_LOOKUP | .CID_SETATTR => if r.state = .getFh then [] else [(r.deviceId, r.fileId)]
    | _ => []

/-- The file that an answer gives. -/
def given (r : Irp φ) (s : List UInt8) (status : UInt32) : List (UInt32 × UInt32) :=
  if r.WantsFile ∧ status = NT_STATUS_SUCCESS then
    match xstreamRdU32 s with
    | .ok (fileId, _) => [(r.deviceId, fileId)]
    | .error _ => []
  else []

/-- The file that an answer leaves open for good: that of a directory that has been made, and that of a file
that was to be removed or renamed, and was not. -/
def lost (r : Irp φ) (s : List UInt8) (status : UInt32) : List (UInt32 × UInt32) :=
  if r.callback then []
  else match r.completionType with
    | .CID_CREATE_REQ => if r.creatingDir then r.given s status else []
    | .CID_RMDIR_OR_FILE_RESP | .CID_RENAME_FILE_RESP =>
      if status = NT_STATUS_SUCCESS then [] else [(r.deviceId, r.fileId)]
    | _ => []

/-- What holds of every record: a listing has its pattern, and a lookup and a change of attributes have a file
just if they have been given one. -/
@[mk_iff]
structure Wf (r : Irp φ) : Prop where
  pattern : r.completionType = .CID_CREATE_DIR_REQ → r.pathname ≠ none
  file : r.completionType = .CID_LOOKUP ∨ r.completionType = .CID_SETATTR → (r.fileId = 0 ↔ r.state = .getFh)

/-- **An answer that is awaited**: it is from the drive of the request, whose file is not open already, and a
file that it gives has an id other than 0. -/
structure Awaits (r : Irp φ) (s : List UInt8) (deviceId status : UInt32) : Prop where
  drive : deviceId = r.deviceId
  waits : ¬ r.IsOpen
  file : ∀ f ∈ r.given s status, f.2 ≠ 0

/-- What an answer does to a record. -/
structure Answered (r : Irp φ) (s : List UInt8) (status : UInt32) (h : Handled φ) : Prop where
  owes : h.calls.flatMap Called.fip ++ h.irp.toList.flatMap Irp.owes = r.owes
  files : h.sent.flatMap Sent.closes ++ h.irp.toList.flatMap Irp.files ++ r.lost s status =
    r.files ++ r.given s status
  wf : ∀ r' ∈ h.irp, r'.Wf
  fileId : ∀ r' ∈ h.irp, r'.fileId = r.fileId ∨ (r.deviceId, r'.fileId) ∈ r.given s status
  transfer : ∀ r' ∈ h.irp, ¬ r.IsTransfer

/-! ## How a record goes on -/

section

variable {r r' : Irp φ} {s s' : List UInt8} {deviceId status fileId : UInt32} {h : Handled φ} {call : Called φ}

/-- The record is deleted, with a last call. -/
theorem Answered.over (howes : call.fip = r.owes) (hfiles : r.lost s status = r.files ++ r.given s status) :
    r.Answered s status ⟨none, [call], []⟩ where
  owes := by simp [howes]
  files := by simp [hfiles]
  wf := by simp
  fileId := by simp
  transfer := by simp

/-- The record is kept, and owes what it did. -/
theorem Answered.goesOn {calls : List (Called φ)} {sent : List Sent} (hcalls : calls.flatMap Called.fip = [])
    (hsent : sent.flatMap Sent.closes = []) (howes : r'.owes = r.owes)
    (hfiles : r'.files ++ r.lost s status = r.files ++ r.given s status) (hwf : r'.Wf)
    (hfileId : r'.fileId = r.fileId ∨ (r.deviceId, r'.fileId) ∈ r.given s status)
    (htransfer : ¬ r.IsTransfer) : r.Answered s status ⟨some r', calls, sent⟩ where
  owes := by simp [howes, hcalls]
  files := by simp [hfiles, hsent]
  wf := by simpa using hwf
  fileId := by simpa using hfileId
  transfer := by simpa using htransfer

/-- The last call is made, and the file closed. -/
theorem Answered.closing (hr' : r'.callback = false) (howes : call.fip = r.owes)
    (hfiles : (r'.deviceId, r'.fileId) :: r.lost s status = r.files ++ r.given s status)
    (hfileId : r'.fileId = r.fileId ∨ (r.deviceId, r'.fileId) ∈ r.given s status) (htransfer : ¬ r.IsTransfer) :
    r.Answered s status ⟨some { r' with completionType := .CID_CLOSE }, [call], [r'.sendClose r'.deviceId]⟩ where
  owes := by simp [howes, Irp.owes, hr']
  files := by simpa [sendClose, Sent.closes, Irp.files, hr'] using hfiles
  wf := by simp [wf_iff]
  fileId := by simpa using hfileId
  transfer := by simpa using htransfer

/-! ## What a record owes and holds -/

theorem owes_fuseInfo (hcallback : r.callback = false) (hopen : ¬ r.IsOpen) (hclose : r.completionType ≠ .CID_CLOSE)
    (hunset : r.completionType ≠ .unset) : r.owes = r.fuseInfo.toList := by
  simp [owes, hcallback, hopen, hclose, hunset]

/-- A record that is to be given a file has none. -/
theorem WantsFile.files (hwants : r.WantsFile) (hopen : ¬ r.IsOpen) : r.files = [] := by
  obtain ⟨hcallback, htype⟩ := hwants
  cases hkind : r.completionType <;> simp_all [Irp.files, IsOpen]

theorem given_of_not_wants (hwants : ¬ r.WantsFile) : r.given s status = [] := if_neg fun h => hwants h.1

theorem given_of_failed (hstatus : status ≠ NT_STATUS_SUCCESS) : r.given s status = [] :=
  if_neg fun h => hstatus h.2

theorem given_of_read (hwants : r.WantsFile) (hread : xstreamRdU32 s = .ok (fileId, s')) :
    r.given s NT_STATUS_SUCCESS = [(r.deviceId, fileId)] := by
  rw [given, if_pos ⟨hwants, rfl⟩, hread]

/-! ## Each kind of request -/

theorem scard_answered (hcallback : r.callback = true) (hrun : r.scardHandleReturn s deviceId status = .ok h)
    (hdrive : deviceId = r.deviceId) : r.Answered s status h := by
  rw [scardHandleReturn, if_neg (not_not_intro hdrive)] at hrun
  obtain ⟨⟨len, s'⟩, -, hrun⟩ := bind_eq_ok.1 hrun
  cases hrun
  apply Answered.over
  · simp [Irp.owes, hcallback, Called.fip]
  · simp [Irp.lost, Irp.files, Irp.given, WantsFile, hcallback]

/-- A directory or a file has been made, or a file opened. -/
theorem open_answered (hcallback : r.callback = false)
    (htype : r.completionType = .CID_CREATE_REQ ∨ r.completionType = .CID_OPEN_REQ)
    (hawaits : r.Awaits s deviceId status) (hread : xstreamRdU32 s = .ok (fileId, s'))
    (hcall : call.fip = r.fuseInfo.toList) {made : Prop} [Decidable made]
    (hmade : made ↔ r.completionType = .CID_CREATE_REQ ∧ r.creatingDir) :
    r.Answered s status ⟨if made ∨ status ≠ NT_STATUS_SUCCESS then none else some { r with fileId }, [call], []⟩ := by
  have hwants : r.WantsFile := ⟨hcallback, by rcases htype with h | h <;> simp [h]⟩
  have hfiles := hwants.files hawaits.waits
  have howes : call.fip = r.owes := by
    rw [hcall, owes_fuseInfo hcallback hawaits.waits] <;> rcases htype with h | h <;> simp [h]
  by_cases hstatus : status = NT_STATUS_SUCCESS
  · subst hstatus
    have hgiven := given_of_read hwants hread
    have hfile := hawaits.file
    rw [hgiven, List.forall_mem_singleton] at hfile
    by_cases hm : made
    · rw [if_pos (.inl hm)]
      obtain ⟨hcreate, hdir⟩ := hmade.1 hm
      exact .over howes (by simp [hfiles, Irp.lost, hcallback, hcreate, hdir])
    · rw [if_neg (by simpa using hm)]
      have hopen : ({ r with fileId } : Irp φ).IsOpen := ⟨hcallback, htype, hfile⟩
      have hlost : r.lost s NT_STATUS_SUCCESS = [] := by
        rcases htype with h | h <;> simp_all [Irp.lost]
      have hnone : ({ r with fileId } : Irp φ).owes = [] := by
        rw [Irp.owes, if_neg (by simp [hcallback]), if_pos (.inl hopen)]
      constructor
      · simp [howes, hnone]
      · rw [hlost, hfiles, hgiven]
        rcases htype with h | h <;> simpa [Irp.files, hcallback, h] using hfile
      · rcases htype with h | h <;> simp [wf_iff, h]
      · simp [hgiven]
      · rcases htype with h | h <;> simp [IsTransfer, h]
  · rw [if_pos (.inr hstatus)]
    refine .over howes ?_
    rw [hfiles, given_of_failed hstatus]
    rcases htype with h | h <;> simp [Irp.lost, hcallback, h, given_of_failed hstatus]

/-- A directory has been opened, and is read. -/
theorem createDir_answered (hcallback : r.callback = false) (htype : r.completionType = .CID_CREATE_DIR_REQ)
    (hwf : r.Wf) (hread : xstreamRdU32 s = .ok (fileId, s')) :
    r.Answered s NT_STATUS_SUCCESS (({ r with fileId } : Irp φ).sendDriveDirRequest deviceId true r.pathname) := by
  have hwants : r.WantsFile := ⟨hcallback, by simp [htype]⟩
  have hopen : ¬ r.IsOpen := fun h => by simp [IsOpen, htype] at h
  have hgiven := given_of_read hwants hread
  rw [sendDriveDirRequest, if_neg fun h => hwf.pattern htype h.2]
  refine .goesOn rfl rfl ?_ ?_ (by simp [wf_iff]) (by simp [hgiven]) (by simp [IsTransfer, htype])
  · rw [owes_fuseInfo hcallback hopen (by simp [htype]) (by simp [htype])]
    simp [Irp.owes, hcallback, IsOpen]
  · simp [hgiven, Irp.files, Irp.lost, hcallback, htype]

/-- A directory has been read on. -/
theorem queryDir_answered (hcallback : r.callback = false) (htype : r.completionType = .CID_DIRECTORY_CONTROL)
    (hdrive : deviceId = r.deviceId) (hrun : r.procQueryDirResponse s deviceId status = .ok h) :
    r.Answered s status h := by
  have hopen : ¬ r.IsOpen := fun h => by simp [IsOpen, htype] at h
  have howes : r.owes = r.fuseInfo.toList := owes_fuseInfo hcallback hopen (by simp [htype]) (by simp [htype])
  have hgiven : r.given s status = [] := given_of_not_wants (by simp [WantsFile, htype])
  have hlost : r.lost s status = [] := by simp [Irp.lost, hcallback, htype]
  have hfiles : r.files = [(r.deviceId, r.fileId)] := by simp [Irp.files, hcallback, htype]
  obtain ⟨⟨length, s'⟩, -, hrun⟩ := bind_eq_ok.1 hrun
  dsimp only at hrun
  split at hrun
  · obtain ⟨entries, -, hrun⟩ := bind_eq_ok.1 hrun
    cases hrun
    refine .goesOn ?_ rfl ?_ ?_ (by simp [wf_iff]) (.inl rfl) (by simp [IsTransfer, htype])
    · simp [List.flatMap_map, Called.fip]
    · rw [howes]
      simp [Irp.owes, hcallback, IsOpen]
    · rw [hlost, hgiven, hfiles]
      simp [Irp.files, hcallback]
  · cases hrun
    subst hdrive
    exact .closing hcallback howes.symm (by rw [hlost, hgiven, hfiles]; rfl) (.inl rfl) (by simp [IsTransfer, htype])

/-- The file that is to be removed or renamed has been opened. -/
theorem set_answered (hcallback : r.callback = false) {resp : CompletionType}
    (htype : r.completionType = .CID_RMDIR_OR_FILE ∨ r.completionType = .CID_RENAME_FILE)
    (hresp : resp = .CID_RMDIR_OR_FILE_RESP ∨ resp = .CID_RENAME_FILE_RESP)
    (hread : xstreamRdU32 s = .ok (fileId, s')) (hcall : call.fip = r.fuseInfo.toList) (info : SetInfo) :
    r.Answered s status (({ r with fileId } : Irp φ).procCidSet status call resp info) := by
  have hwants : r.WantsFile := ⟨hcallback, by rcases htype with h | h <;> simp [h]⟩
  have hopen : ¬ r.IsOpen := fun h => by rcases htype with hk | hk <;> simp [IsOpen, hk] at h
  have howes : r.owes = r.fuseInfo.toList := by
    rw [owes_fuseInfo hcallback hopen] <;> rcases htype with h | h <;> simp [h]
  have hlost : r.lost s status = [] := by rcases htype with h | h <;> simp [Irp.lost, hcallback, h]
  rw [procCidSet]
  split
  case isTrue hstatus =>
    exact .over (hcall.trans howes.symm) (by rw [hlost, hwants.files hopen, given_of_failed hstatus]; rfl)
  case isFalse hstatus =>
    obtain rfl := not_not.1 hstatus
    have hgiven := given_of_read hwants hread
    refine .goesOn rfl rfl ?_ ?_ ?_ (by simp [hgiven]) ?_
    · rw [howes]
      rcases hresp with rfl | rfl <;> simp [Irp.owes, hcallback, IsOpen]
    · rw [hlost, hwants.files hopen, hgiven]
      rcases hresp with rfl | rfl <;> simp [Irp.files, hcallback]
    · rcases hresp with rfl | rfl <;> simp [wf_iff]
    · rcases htype with h | h <;> simp [IsTransfer, h]

/-- A file has been removed or renamed, or was not. -/
theorem setResp_answered (hcallback : r.callback = false)
    (htype : r.completionType = .CID_RMDIR_OR_FILE_RESP ∨ r.completionType = .CID_RENAME_FILE_RESP)
    (hcall : call.fip = r.fuseInfo.toList) : r.Answered s status (r.procCidSetResp status call) := by
  have hopen : ¬ r.IsOpen := fun h => by rcases htype with hk | hk <;> simp [IsOpen, hk] at h
  have howes : r.owes = r.fuseInfo.toList := by
    rw [owes_fuseInfo hcallback hopen] <;> rcases htype with h | h <;> simp [h]
  have hgiven : r.given s status = [] :=
    given_of_not_wants (by rcases htype with h | h <;> simp [WantsFile, h])
  have hfiles : r.files = [(r.deviceId, r.fileId)] := by
    rcases htype with h | h <;> simp [Irp.files, hcallback, h]
  rw [procCidSetResp]
  split
  case isTrue hstatus =>
    refine .over (hcall.trans howes.symm) ?_
    rw [hfiles, hgiven]
    rcases htype with h | h <;> simp [Irp.lost, hcallback, h, hstatus]
  case isFalse hstatus =>
    obtain rfl := not_not.1 hstatus
    refine .closing hcallback (hcall.trans howes.symm) ?_ (.inl rfl) ?_
    · rw [hfiles, hgiven]
      rcases htype with h | h <;> simp [Irp.lost, hcallback, h]
    · rcases htype with h | h <;> simp [IsTransfer, h]

/-- A lookup, and a change of attributes, is no transfer. -/
theorem attr_transfer (htype : r.completionType = .CID_LOOKUP ∨ r.completionType = .CID_SETATTR) :
    ¬ r.IsTransfer := by
  rcases htype with h | h <;> simp [IsTransfer, h]

/-- A lookup, or a change of attributes, has one file or none, and loses none. -/
theorem attr_facts (s : List UInt8) (status : UInt32) (hcallback : r.callback = false)
    (htype : r.completionType = .CID_LOOKUP ∨ r.completionType = .CID_SETATTR) (hwf : r.Wf) :
    r.owes = r.fuseInfo.toList ∧ r.lost s status = [] ∧
      r.files = if r.fileId = 0 then [] else [(r.deviceId, r.fileId)] := by
  have hopen : ¬ r.IsOpen := fun h => by rcases htype with hk | hk <;> simp [IsOpen, hk] at h
  refine ⟨?_, ?_, ?_⟩
  · rw [owes_fuseInfo hcallback hopen] <;> rcases htype with h | h <;> simp [h]
  · rcases htype with h | h <;> simp [Irp.lost, hcallback, h]
  · have hfile := hwf.file htype
    rcases htype with h | h <;> simp [Irp.files, hcallback, h, hfile]

/-- The request is over, and the file closed if there is one. -/
theorem done_answered (hr' : r'.callback = false) (hcall : call.fip = r.owes)
    (hfiles : (if r'.fileId = 0 then [] else [(r'.deviceId, r'.fileId)]) ++ r.lost s status =
      r.files ++ r.given s status)
    (hfileId : r'.fileId = r.fileId ∨ (r.deviceId, r'.fileId) ∈ r.given s status) (htransfer : ¬ r.IsTransfer) :
    r.Answered s status (r'.done call) := by
  rw [done]
  split
  case isTrue hzero =>
    rw [if_pos hzero] at hfiles
    exact .over hcall hfiles
  case isFalse hzero =>
    rw [if_neg hzero] at hfiles
    exact .closing hr' hcall hfiles hfileId htransfer

/-- The request goes on with the file that it has. -/
theorem attr_goesOn (hcallback : r.callback = false)
    (htype : r.completionType = .CID_LOOKUP ∨ r.completionType = .CID_SETATTR) (hwf : r.Wf)
    {sent : List Sent} (hsent : sent.flatMap Sent.closes = []) (hr' : r'.callback = false)
    (htype' : r'.completionType = r.completionType) (hinfo : r'.fuseInfo = r.fuseInfo) (hstate : r'.state ≠ .getFh)
    (hne : r'.fileId ≠ 0) (hfiles : [(r'.deviceId, r'.fileId)] = r.files ++ r.given s status)
    (hfileId : r'.fileId = r.fileId ∨ (r.deviceId, r'.fileId) ∈ r.given s status) :
    r.Answered s status ⟨some r', [], sent⟩ := by
  have hwf' : r'.Wf := by
    constructor
    · intro hk
      rcases htype with h | h <;> simp [htype', h] at hk
    · exact fun _ => iff_of_false hne hstate
  obtain ⟨howes, hlost, -⟩ := attr_facts s status hcallback htype hwf
  obtain ⟨howes', -, hfiles'⟩ := attr_facts s status hr' (htype' ▸ htype) hwf'
  refine .goesOn rfl hsent ?_ ?_ hwf' hfileId (attr_transfer htype)
  · rw [howes, howes', hinfo]
  · rw [hfiles', if_neg hne, hlost, List.append_nil]
    exact hfiles

/-- A lookup goes on, or is over. -/
theorem lookup_answered (hcallback : r.callback = false) (htype : r.completionType = .CID_LOOKUP) (hwf : r.Wf)
    (hawaits : r.Awaits s deviceId status) (hrun : r.procCidLookup s status = .ok h) : r.Answered s status h := by
  obtain ⟨howes, hlost, hfiles⟩ := attr_facts s status hcallback (.inl htype) hwf
  have hover : ∀ {r' : Irp φ} (status' : UInt32), r'.callback = false → r'.fuseInfo = r.fuseInfo →
      r'.deviceId = r.deviceId → r'.fileId = r.fileId → r.given s status = [] →
      r.Answered s status (r'.lookupDone status') := by
    intro r' status' hr' hinfo hdev hid hgiven
    refine done_answered hr' ?_ ?_ (.inl hid) (attr_transfer (.inl htype))
    · rw [howes, Called.fip, hinfo]
    · rw [hlost, hgiven, hfiles, hdev, hid]
  rw [procCidLookup] at hrun
  split at hrun
  case isTrue hstatus =>
    cases hrun
    exact hover _ hcallback rfl rfl rfl (given_of_failed hstatus)
  case isFalse hstatus =>
    obtain rfl := not_not.1 hstatus
    have hkept : r.state ≠ .getFh → r.given s NT_STATUS_SUCCESS = [] ∧ r.fileId ≠ 0 := by
      intro hstate
      refine ⟨given_of_not_wants (by simp [WantsFile, htype, hstate]), ?_⟩
      exact fun hzero => hstate ((hwf.file (.inl htype)).1 hzero)
    cases hstate : r.state with
    | getFh =>
      rw [hstate] at hrun
      obtain ⟨⟨fileId, s'⟩, hread, hrun⟩ := bind_eq_ok.1 hrun
      cases hrun
      have hgiven := given_of_read ⟨hcallback, by simp [htype, hstate]⟩ hread
      have hzero := (hwf.file (.inl htype)).2 hstate
      have hfile := hawaits.file
      rw [hgiven, List.forall_mem_singleton] at hfile
      refine attr_goesOn hcallback (.inl htype) hwf rfl hcallback rfl rfl (by simp) hfile ?_ ?_
      · rw [hgiven, hfiles, if_pos hzero]
        rfl
      · simp [hgiven]
    | checkBasic =>
      obtain ⟨hgiven, hne⟩ := hkept (by simp [hstate])
      rw [hstate] at hrun
      obtain ⟨⟨length, s₁⟩, -, hrun⟩ := bind_eq_ok.1 hrun
      dsimp only at hrun
      split at hrun
      · cases hrun
        exact hover _ hcallback rfl rfl rfl hgiven
      · obtain ⟨⟨lastAccessTime, s₂⟩, -, hrun⟩ := bind_eq_ok.1 hrun
        obtain ⟨⟨lastWriteTime, s₃⟩, -, hrun⟩ := bind_eq_ok.1 hrun
        obtain ⟨⟨fileAttributes, s₄⟩, -, hrun⟩ := bind_eq_ok.1 hrun
        cases hrun
        refine attr_goesOn hcallback (.inl htype) hwf rfl hcallback rfl rfl (by simp) hne ?_ (.inl rfl)
        rw [hgiven, hfiles, if_neg hne, List.append_nil]
    | checkEof =>
      obtain ⟨hgiven, -⟩ := hkept (by simp [hstate])
      rw [hstate] at hrun
      obtain ⟨⟨length, s₁⟩, -, hrun⟩ := bind_eq_ok.1 hrun
      dsimp only at hrun
      split at hrun
      · cases hrun
        exact hover _ hcallback rfl rfl rfl hgiven
      · obtain ⟨⟨endOfFile, s₂⟩, -, hrun⟩ := bind_eq_ok.1 hrun
        cases hrun
        exact hover _ hcallback rfl rfl rfl hgiven

/-- The next attributes are set, or the change is over. -/
theorem setattrNext_answered (hcallback : r.callback = false) (htype : r.completionType = .CID_SETATTR)
    (hwf : r.Wf) (hr' : r'.callback = false) (htype' : r'.completionType = r.completionType)
    (hinfo : r'.fuseInfo = r.fuseInfo) (hne : r'.fileId ≠ 0)
    (hfiles : [(r'.deviceId, r'.fileId)] = r.files ++ r.given s status)
    (hfileId : r'.fileId = r.fileId ∨ (r.deviceId, r'.fileId) ∈ r.given s status) (status' : UInt32) :
    r.Answered s status (r'.setattrNext status') := by
  obtain ⟨howes, hlost, -⟩ := attr_facts s status hcallback (.inr htype) hwf
  unfold setattrNext
  split
  · exact attr_goesOn hcallback (.inr htype) hwf rfl hr' htype' hinfo (by simp) hne hfiles hfileId
  · split
    · exact attr_goesOn hcallback (.inr htype) hwf rfl hr' htype' hinfo (by simp) hne hfiles hfileId
    · refine done_answered hr' ?_ ?_ hfileId (attr_transfer (.inr htype))
      · rw [howes, Called.fip, hinfo]
      · rw [if_neg hne, hlost, List.append_nil]
        exact hfiles

/-- A change of attributes goes on, or is over. -/
theorem setattr_answered (hcallback : r.callback = false) (htype : r.completionType = .CID_SETATTR) (hwf : r.Wf)
    (hawaits : r.Awaits s deviceId status) (hrun : r.procCidSetattr s status = .ok h) : r.Answered s status h := by
  obtain ⟨howes, hlost, hfiles⟩ := attr_facts s status hcallback (.inr htype) hwf
  rw [procCidSetattr] at hrun
  split at hrun
  case isTrue hstatus =>
    cases hrun
    refine done_answered hcallback ?_ ?_ (.inl rfl) (attr_transfer (.inr htype))
    · rw [howes, Called.fip]
    · rw [hlost, given_of_failed hstatus, hfiles]
  case isFalse hstatus =>
    obtain rfl := not_not.1 hstatus
    obtain ⟨⟨v, s'⟩, hread, hrun⟩ := bind_eq_ok.1 hrun
    have hkept : r.state ≠ .getFh →
        r.fileId ≠ 0 ∧ [(r.deviceId, r.fileId)] = r.files ++ r.given s NT_STATUS_SUCCESS := by
      intro hstate
      have hne : r.fileId ≠ 0 := fun hzero => hstate ((hwf.file (.inr htype)).1 hzero)
      refine ⟨hne, ?_⟩
      rw [given_of_not_wants (by simp [WantsFile, htype, hstate]), hfiles, if_neg hne, List.append_nil]
    cases hrun
    split
    case h_1 hstate =>
      have hgiven := given_of_read ⟨hcallback, by simp [htype, hstate]⟩ hread
      have hzero := (hwf.file (.inr htype)).2 hstate
      have hfile := hawaits.file
      rw [hgiven, List.forall_mem_singleton] at hfile
      apply setattrNext_answered hcallback htype hwf
      · exact hcallback
      · rfl
      · rfl
      · exact hfile
      · rw [hgiven, hfiles, if_pos hzero]
        rfl
      · simp [hgiven]
    case h_2 hstate =>
      obtain ⟨hne, hheld⟩ := hkept (by simp [hstate])
      apply setattrNext_answered hcallback htype hwf
      exacts [hcallback, rfl, rfl, hne, hheld, .inl rfl]
    case h_3 hstate =>
      obtain ⟨hne, hheld⟩ := hkept (by simp [hstate])
      apply setattrNext_answered hcallback htype hwf
      exacts [hcallback, rfl, rfl, hne, hheld, .inl rfl]

/-- **An awaited answer** calls who is owed a callback, or leaves it owed; and a file that the record holds or
is given is closed, held on to or lost. -/
theorem procDeviceIocompletion_answered (hwf : r.Wf) (hawaits : r.Awaits s deviceId status)
    (hrun : r.procDeviceIocompletion s deviceId status = .ok h) : r.Answered s status h := by
  rw [procDeviceIocompletion] at hrun
  split at hrun
  · exact scard_answered ‹_› hrun hawaits.drive
  have hcallback : r.callback = false := Bool.eq_false_of_not_eq_true ‹_›
  have hplain : ∀ {call : Called φ}, ¬ r.IsOpen → r.completionType ≠ .CID_CLOSE → r.completionType ≠ .unset →
      call.fip = r.fuseInfo.toList → ¬ r.WantsFile → r.files = [] → r.lost s status = [] →
      r.Answered s status ⟨none, [call], []⟩ := by
    intro call hopen hclose hunset hcall hwants hfiles hlost
    refine .over (hcall.trans (owes_fuseInfo hcallback hopen hclose hunset).symm) ?_
    rw [hlost, hfiles, given_of_not_wants hwants]
    rfl
  have hwaits := hawaits.waits
  split at hrun
  case h_1 htype =>
    dsimp only at hrun
    split at hrun
    case isTrue hstatus =>
      cases hrun
      refine .over ?_ ?_
      · rw [owes_fuseInfo hcallback hwaits (by simp [htype]) (by simp [htype])]
        rfl
      · simp [given_of_failed hstatus, Irp.files, Irp.lost, hcallback, htype]
    case isFalse hstatus =>
      obtain rfl := not_not.1 hstatus
      obtain ⟨⟨fileId, s'⟩, hread, hrun⟩ := bind_eq_ok.1 hrun
      cases hrun
      exact createDir_answered hcallback htype hwf hread
  case h_2 htype =>
    obtain ⟨⟨fileId, s'⟩, hread, hrun⟩ := bind_eq_ok.1 hrun
    cases hrun
    have hmade : (r.creatingDir = true) ↔ r.completionType = .CID_CREATE_REQ ∧ r.creatingDir := by simp [htype]
    exact open_answered hcallback (.inl htype) hawaits hread rfl hmade
  case h_3 htype =>
    obtain ⟨⟨fileId, s'⟩, hread, hrun⟩ := bind_eq_ok.1 hrun
    cases hrun
    have hmade : False ↔ r.completionType = .CID_CREATE_REQ ∧ r.creatingDir := by simp [htype]
    simpa only [false_or] using open_answered hcallback (.inr htype) hawaits hread rfl hmade
  case h_4 htype =>
    obtain ⟨⟨length, s'⟩, -, hrun⟩ := bind_eq_ok.1 hrun
    cases hrun
    exact hplain hwaits (by simp [htype]) (by simp [htype]) rfl (by simp [WantsFile, htype])
      (by simp [Irp.files, hcallback, htype]) (by simp [Irp.lost, hcallback, htype])
  case h_5 htype =>
    obtain ⟨⟨length, s'⟩, -, hrun⟩ := bind_eq_ok.1 hrun
    cases hrun
    exact hplain hwaits (by simp [htype]) (by simp [htype]) rfl (by simp [WantsFile, htype])
      (by simp [Irp.files, hcallback, htype]) (by simp [Irp.lost, hcallback, htype])
  case h_6 htype =>
    cases hrun
    constructor <;> simp [Irp.owes, Irp.files, Irp.lost, Irp.given, WantsFile, hcallback, htype]
  case h_7 htype =>
    cases hrun
    exact hplain hwaits (by simp [htype]) (by simp [htype]) rfl (by simp [WantsFile, htype])
      (by simp [Irp.files, hcallback, htype]) (by simp [Irp.lost, hcallback, htype])
  case h_8 htype =>
    exact queryDir_answered hcallback htype hawaits.drive hrun
  case h_9 htype =>
    obtain ⟨⟨fileId, s'⟩, hread, hrun⟩ := bind_eq_ok.1 hrun
    cases hrun
    exact set_answered hcallback (.inl htype) (.inl rfl) hread rfl _
  case h_10 htype =>
    cases hrun
    exact setResp_answered hcallback (.inl htype) rfl
  case h_11 htype =>
    obtain ⟨⟨fileId, s'⟩, hread, hrun⟩ := bind_eq_ok.1 hrun
    cases hrun
    exact set_answered hcallback (.inr htype) (.inr rfl) hread rfl _
  case h_12 htype =>
    cases hrun
    exact setResp_answered hcallback (.inr htype) rfl
  case h_13 htype =>
    exact lookup_answered hcallback htype hwf hawaits hrun
  case h_14 htype =>
    exact setattr_answered hcallback htype hwf hawaits hrun
  case h_15 htype =>
    cases hrun
    refine .goesOn rfl rfl rfl ?_ hwf (.inl rfl) (by simp [IsTransfer, htype])
    simp [Irp.files, Irp.lost, Irp.given, WantsFile, hcallback, htype]

end

end Irp

end Xrdp.Chansrv.Devredir
