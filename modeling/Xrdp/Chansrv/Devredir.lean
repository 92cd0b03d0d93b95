import Xrdp.Chansrv.Irps
import Xrdp.Lib.Wire

/-!
# Drive redirection

`sesman/chansrv/devredir.c` turns what FUSE wants of a drive into requests to the client.  A request has a
record, which the client's answers find by its completion id; most take several answers, and end in a call of
`chansrv_fuse.c`.

* `Redir` — the records, the next completion id, the calls made and the messages sent so far.
* `devredirGetDirListing`, …, `devredirFileRename` — the functions for FUSE; `scardSend` — those of `smartcard.c`.
* `devredirProcDeviceIocompletion` — an answer of the client.
* `Redir.step` — any of these.

Paths and names are bytes: their conversion to and from the client's characters is left out, and so are the
bytes of the messages.
-/

namespace Xrdp.Chansrv.Devredir

open Wire

/-! ## Constants -/

def NT_STATUS_SUCCESS : UInt32 := 0x00000000
def NT_STATUS_UNSUCCESSFUL : UInt32 := 0xC0000001
def NT_STATUS_NO_MORE_FILES : UInt32 := 0x80000006
def FileBasicInformation : UInt32 := 4
def FileStandardInformation : UInt32 := 5
def FILE_BASIC_INFORMATION_SIZE : UInt32 := 36
def FILE_STD_INFORMATION_SIZE : UInt32 := 22
def FILE_END_OF_FILE_INFORMATION_SIZE : UInt32 := 8
def TO_SET_MODE : UInt32 := 1
def TO_SET_SIZE : UInt32 := 2
def TO_SET_ATIME : UInt32 := 4
def TO_SET_MTIME : UInt32 := 8
def TO_SET_BASIC_ATTRS : UInt32 := TO_SET_MODE ||| TO_SET_ATIME ||| TO_SET_MTIME
def S_IFDIR : UInt32 := 0o040000
def S_IFREG : UInt32 := 0o100000
def DA_FILE_READ_DATA : UInt32 := 0x00000001
def DA_FILE_WRITE_DATA : UInt32 := 0x00000002
def DA_FILE_READ_ATTRIBUTES : UInt32 := 0x00000080
def DA_FILE_WRITE_ATTRIBUTES : UInt32 := 0x00000100
def DA_DELETE : UInt32 := 0x00010000
def DA_SYNCHRONIZE : UInt32 := 0x00100000
def CO_FILE_DIRECTORY_FILE : UInt32 := 0x00000001
def CO_FILE_SYNCHRONOUS_IO_NONALERT : UInt32 := 0x00000020
def CD_FILE_OPEN : UInt32 := 0x00000001

/-! ## Conversions -/

/-- `WindowsToLinuxFilePerm`. -/
def windowsToLinuxFilePerm (wperm : UInt32) : UInt32 :=
  let result :=
    if wperm &&& 0x10 ≠ 0 then S_IFDIR ||| 0o555
    else if wperm &&& 0x04 ≠ 0 then S_IFREG ||| 0o444 ||| 0o111
    else S_IFREG ||| 0o444
  if wperm &&& 0x01 = 0 then result ||| 0o222 else result

/-- `LinuxToWindowsFilePerm`. -/
def linuxToWindowsFilePerm (lperm : UInt32) : UInt32 :=
  let result : UInt32 := if lperm &&& 0o200 = 0 then 0x01 else 0
  if lperm &&& S_IFDIR ≠ 0 then result ||| 0x10
  else
    let result := if lperm &&& 0o100 ≠ 0 then result ||| 0x04 else result
    if result = 0 then 0x80 else result

def windowsToLinuxTime (t : UInt64) : UInt64 := t / 10000000 - 11644473600
def linuxToWindowsTime (t : UInt64) : UInt64 := (t + 11644473600) * 10000000

/-- `devredir_cvt_slash`. -/
def devredirCvtSlash (path : List UInt8) : List UInt8 := path.map fun c => if c = 47 then 92 else c

/-! ## What comes of the requests -/

/-- The calls of `chansrv_fuse.c`, and of the functions that `smartcard.c` has set. -/
inductive Called (φ : Type) where
  | enumDirAddEntry (fip : Option φ) (filename : List UInt8) (fattr : FileAttr)
  | enumDirDone (fip : Option φ) (status : UInt32)
  | lookupEntry (fip : Option φ) (status : UInt32) (fattr : FileAttr)
  | setattr (fip : Option φ) (status : UInt32)
  | createFile (fip : Option φ) (status deviceId fileId : UInt32)
  | openFile (fip : Option φ) (status deviceId fileId : UInt32)
  | readFile (fip : Option φ) (buf : List UInt8) (length : UInt32)
  | writeFile (fip : Option φ) (status : UInt32) (offset : UInt64) (length : UInt32)
  | rmdirOrFile (fip : Option φ) (status : UInt32)
  | renameFile (fip : Option φ) (status : UInt32)
  | fileClose (fip : Option φ)
  | scardReturn (userData : Option φ) (status len : UInt32) (s : List UInt8)

/-- What `IRP_MJ_SET_INFORMATION` sets. -/
inductive SetInfo where
  | disposition
  | rename (newName : List UInt8)
  | basic (atime mtime : UInt64) (fileAttributes : UInt32)
  | endOfFile (size : UInt64)

/-- The requests to the client. -/
inductive Sent where
  | create (deviceId : UInt32) (path : List UInt8)
      (desiredAccess createOptions fileAttributes createDisposition completionId : UInt32)
  | close (deviceId fileId completionId : UInt32)
  | queryDirectory (deviceId fileId completionId : UInt32) (path : Option (List UInt8))
  | queryInformation (deviceId fileId completionId lookupType bytes : UInt32)
  | setInformation (deviceId fileId completionId : UInt32) (info : SetInfo)
  | read (deviceId fileId completionId length : UInt32) (offset : UInt64)
  | write (deviceId fileId completionId : UInt32) (offset : UInt64) (buf : List UInt8)
  | scard (deviceId completionId : UInt32)

/-- The records, `g_completion_id`, and what has been called and sent. -/
structure Redir (φ : Type) where
  irps : IrpMemory φ
  completionId : UInt32
  called : List (Called φ)
  sent : List Sent

variable {φ : Type}

/-- No record. -/
def Redir.start : Redir φ := ⟨.empty, 1, [], []⟩

/-! ## Requests -/

namespace Redir

/-- A record is allocated and filled in, and what is asked is sent; `-1` if there is no memory. -/
def request (g : Redir φ) (alloc : Option Nat) (pathname : Option (List UInt8)) (fields : Irp φ → Irp φ)
    (message : UInt32 → Sent) : Checked (Int × Redir φ) := do
  match ← g.irps.devredirIrpNew alloc pathname with
  | (none, irps) => return (-1, { g with irps })
  | (some irp, irps) => do
    let r ← irps.read irp
    let irps ← irps.write irp { fields r with completionId := g.completionId }
    return (0, { g with irps, completionId := g.completionId + 1, sent := g.sent ++ [message g.completionId] })

/-- `devredir_get_dir_listing`.  The pattern is appended once the directory has been asked for. -/
def devredirGetDirListing (g : Redir φ) (alloc : Option Nat) (fusep : φ) (deviceId : UInt32) (path : List UInt8) :
    Checked (Int × Redir φ) :=
  let pathname := devredirCvtSlash path
  let pattern := if pathname.getLast? = some 92 then pathname ++ [42] else pathname ++ [92, 42]
  g.request alloc (some pattern)
    (fun irp => { irp with completionType := .CID_CREATE_DIR_REQ, deviceId, fuseInfo := some fusep })
    (.create deviceId pathname (DA_FILE_READ_DATA ||| DA_SYNCHRONIZE)
      (CO_FILE_DIRECTORY_FILE ||| CO_FILE_SYNCHRONOUS_IO_NONALERT) 0 CD_FILE_OPEN)

/-- `devredir_lookup_entry`. -/
def devredirLookupEntry (g : Redir φ) (alloc : Option Nat) (fusep : φ) (deviceId : UInt32) (path : List UInt8) :
    Checked (Int × Redir φ) :=
  g.request alloc (some (devredirCvtSlash path))
    (fun irp => { irp with
      completionType := .CID_LOOKUP, deviceId, state := .getFh, fuseInfo := some fusep })
    (.create deviceId (devredirCvtSlash path) (DA_FILE_READ_ATTRIBUTES ||| DA_SYNCHRONIZE) 0 0 CD_FILE_OPEN)

/-- `devredir_setattr_for_entry`. -/
def devredirSetattrForEntry (g : Redir φ) (alloc : Option Nat) (fusep : φ) (deviceId : UInt32)
    (filename : List UInt8) (fattr : FileAttr) (toSet : UInt32) : Checked (Int × Redir φ) :=
  let desiredAccess := DA_FILE_WRITE_ATTRIBUTES ||| if toSet &&& TO_SET_SIZE ≠ 0 then DA_FILE_WRITE_DATA else 0
  g.request alloc (some (devredirCvtSlash filename))
    (fun irp => { irp with
      completionType := .CID_SETATTR, deviceId, fuseInfo := some fusep, state := .getFh, toSet, fattr })
    (.create deviceId (devredirCvtSlash filename) desiredAccess 0 0 CD_FILE_OPEN)

/-- `devredir_file_create`. -/
def devredirFileCreate (g : Redir φ) (alloc : Option Nat) (fusep : φ) (deviceId : UInt32) (path : List UInt8)
    (mode : UInt32) : Checked (Int × Redir φ) :=
  let creatingDir := decide (mode &&& S_IFDIR ≠ 0)
  let createOptions :=
    if creatingDir then CO_FILE_DIRECTORY_FILE ||| CO_FILE_SYNCHRONOUS_IO_NONALERT else 0x44
  g.request alloc (some (devredirCvtSlash path))
    (fun irp => { irp with completionType := .CID_CREATE_REQ, deviceId, fuseInfo := some fusep, creatingDir })
    (.create deviceId path 0x0016019f createOptions (linuxToWindowsFilePerm mode) 0x02)

/-- `devredir_file_open`. -/
def devredirFileOpen (g : Redir φ) (alloc : Option Nat) (fusep : φ) (deviceId : UInt32) (path : List UInt8)
    (flags : UInt32) : Checked (Int × Redir φ) :=
  let desiredAccess :=
    if flags &&& 3 = 0 then DA_FILE_READ_DATA ||| DA_SYNCHRONIZE
    else if flags &&& 3 = 1 then DA_FILE_WRITE_DATA ||| DA_SYNCHRONIZE
    else DA_FILE_READ_DATA ||| DA_FILE_WRITE_DATA ||| DA_SYNCHRONIZE ||| 0x00000010
  g.request alloc (some (devredirCvtSlash path))
    (fun irp => { irp with completionType := .CID_OPEN_REQ, deviceId, fuseInfo := some fusep })
    (.create deviceId path desiredAccess CO_FILE_SYNCHRONOUS_IO_NONALERT 0 CD_FILE_OPEN)

/-- `devredir_file_close`: the record of the file is used again. -/
def devredirFileClose (g : Redir φ) (fusep : φ) (deviceId fileId : UInt32) : Checked (Int × Redir φ) := do
  match ← g.irps.devredirIrpFindByFileid fileId with
  | none => return (-1, g)
  | some irp => do
    let r ← g.irps.read irp
    let irps ← g.irps.write irp { r with completionType := .CID_FILE_CLOSE, deviceId, fuseInfo := some fusep }
    return (0, { g with irps, sent := g.sent ++ [.close deviceId fileId r.completionId] })

/-- `devredir_rmdir_or_file`. -/
def devredirRmdirOrFile (g : Redir φ) (alloc : Option Nat) (fusep : φ) (deviceId : UInt32) (path : List UInt8) :
    Checked (Int × Redir φ) :=
  g.request alloc (some (devredirCvtSlash path))
    (fun irp => { irp with completionType := .CID_RMDIR_OR_FILE, deviceId, fuseInfo := some fusep })
    (.create deviceId path 0x00100080 0x020 0 0x01)

/-- `devredir_file_read` and `devredir_file_write`: the file has to have a record, and the request gets its own. -/
def transfer (g : Redir φ) (alloc : Option Nat) (fileId : UInt32) (failed : Called φ) (fields : Irp φ → Irp φ)
    (message : UInt32 → Sent) : Checked (Int × Redir φ) := do
  match ← g.irps.devredirIrpFindByFileid fileId with
  | none => return (-1, { g with called := g.called ++ [failed] })
  | some _ =>
    match ← g.request alloc none fields message with
    | (0, g) => return (0, g)
    | (rval, g) => return (rval, { g with called := g.called ++ [failed] })

/-- `devredir_file_read`. -/
def devredirFileRead (g : Redir φ) (alloc : Option Nat) (fusep : φ) (deviceId fileId length : UInt32)
    (offset : UInt64) : Checked (Int × Redir φ) :=
  g.transfer alloc fileId (.readFile (some fusep) [] 0)
    (fun irp => { irp with deviceId, fileId, completionType := .CID_READ, fuseInfo := some fusep })
    (fun completionId => .read deviceId fileId completionId length offset)

/-- `devredir_file_write`. -/
def devredirFileWrite (g : Redir φ) (alloc : Option Nat) (fusep : φ) (deviceId fileId : UInt32)
    (buf : List UInt8) (offset : UInt64) : Checked (Int × Redir φ) :=
  g.transfer alloc fileId (.writeFile (some fusep) NT_STATUS_UNSUCCESSFUL 0 0)
    (fun irp => { irp with deviceId, fileId, completionType := .CID_WRITE, fuseInfo := some fusep, offset })
    (fun completionId => .write deviceId fileId completionId offset buf)

/-- `devredir_file_rename`. -/
def devredirFileRename (g : Redir φ) (alloc : Option Nat) (fusep : φ) (deviceId : UInt32)
    (oldName newName : List UInt8) : Checked (Int × Redir φ) :=
  g.request alloc (some (devredirCvtSlash oldName))
    (fun irp => { irp with
      completionType := .CID_RENAME_FILE, deviceId, fuseInfo := some fusep, newName := devredirCvtSlash newName })
    (.create deviceId oldName (DA_FILE_WRITE_ATTRIBUTES ||| DA_DELETE) 0 0 CD_FILE_OPEN)

/-- The functions `scard_send_…` of `smartcard.c`, with `g_device_id`. -/
def scardSend (g : Redir φ) (alloc : Option Nat) (userData : φ) (deviceId : UInt32) : Checked (Int × Redir φ) :=
  g.request alloc none
    (fun irp => { irp with deviceId, callback := true, userData := some userData }) (.scard deviceId)

end Redir

/-! ## Answers -/

/-- `xstream_rd_u32_le` and the like. -/
def xstreamRd (n : Nat) (s : List UInt8) : Checked (Nat × List UInt8) :=
  if n ≤ s.length then .ok (leVal (s.take n), s.drop n) else .error .noData

def xstreamRdU32 (s : List UInt8) : Checked (UInt32 × List UInt8) := do
  let (v, s) ← xstreamRd 4 s
  return (UInt32.ofNat v, s)

def xstreamRdU64 (s : List UInt8) : Checked (UInt64 × List UInt8) := do
  let (v, s) ← xstreamRd 8 s
  return (UInt64.ofNat v, s)

/-- What becomes of a record, which may be deleted, and what is called and sent. -/
structure Handled (φ : Type) where
  irp : Option (Irp φ)
  calls : List (Called φ)
  sent : List Sent

namespace Irp

/-- The request to close the file, by the record. -/
def sendClose (irp : Irp φ) (deviceId : UInt32) : Sent := .close deviceId irp.fileId irp.completionId

/-- `devredir_send_drive_dir_request`. -/
def sendDriveDirRequest (irp : Irp φ) (deviceId : UInt32) (initialQuery : Bool) (path : Option (List UInt8)) :
    Handled φ :=
  if initialQuery ∧ path = none then ⟨some irp, [], []⟩
  else ⟨some { irp with completionType := .CID_DIRECTORY_CONTROL }, [],
    [.queryDirectory deviceId irp.fileId irp.completionId (if initialQuery then path else none)]⟩

/-- The loop of `devredir_proc_query_dir_response`.  The name is read where the next entry is read too. -/
def entriesLoop : Nat → UInt32 → UInt32 → List UInt8 → Checked (List (List UInt8 × FileAttr))
  | 0, _, _, _ => .error .endless
  | n + 1, i, length, s =>
    if i < length then do
      let (lastAccessTime, s) ← xstreamRdU64 (s.drop 16)
      let (lastWriteTime, s) ← xstreamRdU64 s
      let (endOfFile, s) ← xstreamRdU64 (s.drop 8)
      let (fileAttributes, s) ← xstreamRdU32 (s.drop 8)
      let (fileNameLength, s) ← xstreamRdU32 s
      let chars := if fileNameLength < 2 ^ 31 then (fileNameLength.toNat + 1) / 2 * 2 else 0
      if s.length < chars then .error .noData
      else do
        let rest ← entriesLoop n (i + (64 + fileNameLength) + 1) length s
        return (s.take chars, ⟨windowsToLinuxFilePerm fileAttributes, endOfFile, windowsToLinuxTime lastAccessTime,
          windowsToLinuxTime lastWriteTime⟩) :: rest
    else return []

/-- `devredir_proc_query_dir_response`. -/
def procQueryDirResponse (irp : Irp φ) (s : List UInt8) (deviceId status : UInt32) : Checked (Handled φ) := do
  let (length, s) ← xstreamRdU32 s
  if status = NT_STATUS_SUCCESS then do
    let entries ← entriesLoop (s.length + 1) 0 length s
    let handled := irp.sendDriveDirRequest deviceId false none
    return { handled with calls := entries.map fun e => .enumDirAddEntry irp.fuseInfo e.1 e.2 }
  else
    let status := if status = NT_STATUS_NO_MORE_FILES then NT_STATUS_SUCCESS else status
    return ⟨some { irp with completionType := .CID_CLOSE }, [.enumDirDone irp.fuseInfo status],
      [irp.sendClose deviceId]⟩

/-- `devredir_proc_cid_rmdir_or_file` and `devredir_proc_cid_rename_file`. -/
def procCidSet (irp : Irp φ) (status : UInt32) (failed : Called φ) (resp : CompletionType) (info : SetInfo) :
    Handled φ :=
  if status ≠ NT_STATUS_SUCCESS then ⟨none, [failed], []⟩
  else ⟨some { irp with completionType := resp }, [],
    [.setInformation irp.deviceId irp.fileId irp.completionId info]⟩

/-- `devredir_proc_cid_rmdir_or_file_resp` and `devredir_proc_cid_rename_file_resp`. -/
def procCidSetResp (irp : Irp φ) (status : UInt32) (call : Called φ) : Handled φ :=
  if status ≠ NT_STATUS_SUCCESS then ⟨none, [call], []⟩
  else ⟨some { irp with completionType := .CID_CLOSE }, [call], [irp.sendClose irp.deviceId]⟩

/-- The end of `lookup_done` and `setattr_done`: the file is closed if it has been opened. -/
def done (irp : Irp φ) (call : Called φ) : Handled φ :=
  if irp.fileId = 0 then ⟨none, [call], []⟩
  else ⟨some { irp with completionType := .CID_CLOSE }, [call], [irp.sendClose irp.deviceId]⟩

/-- `lookup_done`. -/
def lookupDone (irp : Irp φ) (status : UInt32) : Handled φ := irp.done (.lookupEntry irp.fuseInfo status irp.fattr)

/-- `issue_lookup`. -/
def issueLookup (irp : Irp φ) (lookupType bytes : UInt32) : Sent :=
  .queryInformation irp.deviceId irp.fileId irp.completionId lookupType bytes

/-- `devredir_proc_cid_lookup`. -/
def procCidLookup (irp : Irp φ) (s : List UInt8) (status : UInt32) : Checked (Handled φ) :=
  if status ≠ NT_STATUS_SUCCESS then return irp.lookupDone status
  else match irp.state with
    | .getFh => do
      let (fileId, _) ← xstreamRdU32 s
      let irp := { irp with fileId, state := .checkBasic }
      return ⟨some irp, [], [irp.issueLookup FileBasicInformation FILE_BASIC_INFORMATION_SIZE]⟩
    | .checkBasic => do
      let (length, s) ← xstreamRdU32 s
      if length ≠ FILE_BASIC_INFORMATION_SIZE then return irp.lookupDone NT_STATUS_UNSUCCESSFUL
      else do
        -- `lookup_read_basic_attributes`
        let (lastAccessTime, s) ← xstreamRdU64 (s.drop 8)
        let (lastWriteTime, s) ← xstreamRdU64 s
        let (fileAttributes, _) ← xstreamRdU32 (s.drop 8)
        let irp := { irp with
          state := .checkEof
          fattr := { irp.fattr with
            mode := windowsToLinuxFilePerm fileAttributes
            atime := windowsToLinuxTime lastAccessTime
            mtime := windowsToLinuxTime lastWriteTime } }
        return ⟨some irp, [], [irp.issueLookup FileStandardInformation FILE_STD_INFORMATION_SIZE]⟩
    | .checkEof => do
      let (length, s) ← xstreamRdU32 s
      if length ≠ FILE_STD_INFORMATION_SIZE then return irp.lookupDone NT_STATUS_UNSUCCESSFUL
      else do
        -- `lookup_read_standard_attributes`
        let (endOfFile, _) ← xstreamRdU64 (s.drop 8)
        return ({ irp with fattr := { irp.fattr with size := endOfFile } } : Irp φ).lookupDone status

/-- `setattr_done`. -/
def setattrDone (irp : Irp φ) (status : UInt32) : Handled φ := irp.done (.setattr irp.fuseInfo status)

/-- The end of `devredir_proc_cid_setattr`: the next call to issue, with `issue_setattr_basic` and
`issue_setattr_eof`. -/
def setattrNext (irp : Irp φ) (status : UInt32) : Handled φ :=
  if irp.toSet &&& TO_SET_BASIC_ATTRS ≠ 0 then
    let atime := if irp.toSet &&& TO_SET_ATIME ≠ 0 then linuxToWindowsTime irp.fattr.atime else 0
    let mtime := if irp.toSet &&& TO_SET_MTIME ≠ 0 then linuxToWindowsTime irp.fattr.mtime else 0
    let fileAttributes := if irp.toSet &&& TO_SET_MODE ≠ 0 then linuxToWindowsFilePerm irp.fattr.mode else 0
    ⟨some { irp with state := .checkBasic }, [],
      [.setInformation irp.deviceId irp.fileId irp.completionId (.basic atime mtime fileAttributes)]⟩
  else if irp.toSet &&& TO_SET_SIZE ≠ 0 then
    ⟨some { irp with state := .checkEof }, [],
      [.setInformation irp.deviceId irp.fileId irp.completionId (.endOfFile irp.fattr.size)]⟩
  else irp.setattrDone status

/-- `devredir_proc_cid_setattr`. -/
def procCidSetattr (irp : Irp φ) (s : List UInt8) (status : UInt32) : Checked (Handled φ) :=
  if status ≠ NT_STATUS_SUCCESS then return irp.setattrDone status
  else do
    let (v, _) ← xstreamRdU32 s
    -- a length that is not the right one is only logged
    return match irp.state with
      | .getFh => ({ irp with fileId := v } : Irp φ).setattrNext status
      | .checkBasic => ({ irp with toSet := irp.toSet &&& ~~~TO_SET_BASIC_ATTRS } : Irp φ).setattrNext status
      | .checkEof => ({ irp with toSet := irp.toSet &&& ~~~TO_SET_SIZE } : Irp φ).setattrNext status

/-- The callbacks that `smartcard.c` sets, `scard_handle_…_Return`. -/
def scardHandleReturn (irp : Irp φ) (s : List UInt8) (deviceId status : UInt32) : Checked (Handled φ) :=
  if deviceId ≠ irp.deviceId then return ⟨some irp, [], []⟩
  else do
    let (len, s) ← xstreamRdU32 s
    return ⟨none, [.scardReturn irp.userData status len s], []⟩

/-- What `devredir_proc_device_iocompletion` does with a record. -/
def procDeviceIocompletion (irp : Irp φ) (s : List UInt8) (deviceId status : UInt32) : Checked (Handled φ) :=
  if irp.callback then irp.scardHandleReturn s deviceId status
  else match irp.completionType with
    | .CID_CREATE_DIR_REQ =>
      if status ≠ NT_STATUS_SUCCESS then return ⟨none, [.enumDirDone irp.fuseInfo status], []⟩
      else do
        let (fileId, _) ← xstreamRdU32 s
        return ({ irp with fileId } : Irp φ).sendDriveDirRequest deviceId true irp.pathname
    | .CID_CREATE_REQ => do
      let (fileId, _) ← xstreamRdU32 s
      return ⟨if irp.creatingDir ∨ status ≠ NT_STATUS_SUCCESS then none else some { irp with fileId },
        [.createFile irp.fuseInfo status deviceId fileId], []⟩
    | .CID_OPEN_REQ => do
      let (fileId, _) ← xstreamRdU32 s
      return ⟨if status ≠ NT_STATUS_SUCCESS then none else some { irp with fileId },
        [.openFile irp.fuseInfo status deviceId fileId], []⟩
    | .CID_READ => do
      let (length, s) ← xstreamRdU32 s
      return ⟨none, [.readFile irp.fuseInfo s length], []⟩
    | .CID_WRITE => do
      let (length, _) ← xstreamRdU32 s
      return ⟨none, [.writeFile irp.fuseInfo status irp.offset length], []⟩
    | .CID_CLOSE => return ⟨none, [], []⟩
    | .CID_FILE_CLOSE => return ⟨none, [.fileClose irp.fuseInfo], []⟩
    | .CID_DIRECTORY_CONTROL => irp.procQueryDirResponse s deviceId status
    | .CID_RMDIR_OR_FILE => do
      let (fileId, _) ← xstreamRdU32 s
      return ({ irp with fileId } : Irp φ).procCidSet status (.rmdirOrFile irp.fuseInfo status)
        .CID_RMDIR_OR_FILE_RESP .disposition
    | .CID_RMDIR_OR_FILE_RESP => return irp.procCidSetResp status (.rmdirOrFile irp.fuseInfo status)
    | .CID_RENAME_FILE => do
      let (fileId, _) ← xstreamRdU32 s
      return ({ irp with fileId } : Irp φ).procCidSet status (.renameFile irp.fuseInfo status)
        .CID_RENAME_FILE_RESP (.rename irp.newName)
    | .CID_RENAME_FILE_RESP => return irp.procCidSetResp status (.renameFile irp.fuseInfo status)
    | .CID_LOOKUP => irp.procCidLookup s status
    | .CID_SETATTR => irp.procCidSetattr s status
    | .unset => return ⟨some irp, [], []⟩

end Irp

/-- The head of an answer: its device, its completion id and its status. -/
def answerHead (s : List UInt8) : Checked ((UInt32 × UInt32 × UInt32) × List UInt8) := do
  let (deviceId, s) ← xstreamRdU32 s
  let (completionId, s) ← xstreamRdU32 s
  let (status, s) ← xstreamRdU32 s
  return ((deviceId, completionId, status), s)

namespace Redir

/-- `devredir_proc_device_iocompletion`. -/
def devredirProcDeviceIocompletion (g : Redir φ) (s : List UInt8) : Checked (Redir φ) := do
  let ((deviceId, completionId, status), s) ← answerHead s
  match ← g.irps.devredirIrpFind completionId with
  | none => return g
  | some irp => do
    let r ← g.irps.read irp
    let handled ← r.procDeviceIocompletion s deviceId status
    let g := { g with called := g.called ++ handled.calls, sent := g.sent ++ handled.sent }
    match handled.irp with
    | none => do
      let (_, irps) ← g.irps.devredirIrpDelete irp
      return { g with irps }
    | some r => do
      let irps ← g.irps.write irp r
      return { g with irps }

end Redir

/-! ## Steps -/

/-- What is asked of a drive, or of a smart card. -/
inductive Call where
  | getDirListing (deviceId : UInt32) (path : List UInt8)
  | lookupEntry (deviceId : UInt32) (path : List UInt8)
  | setattrForEntry (deviceId : UInt32) (filename : List UInt8) (fattr : FileAttr) (toSet : UInt32)
  | fileCreate (deviceId : UInt32) (path : List UInt8) (mode : UInt32)
  | fileOpen (deviceId : UInt32) (path : List UInt8) (flags : UInt32)
  | fileClose (deviceId fileId : UInt32)
  | rmdirOrFile (deviceId : UInt32) (path : List UInt8)
  | fileRead (deviceId fileId length : UInt32) (offset : UInt64)
  | fileWrite (deviceId fileId : UInt32) (buf : List UInt8) (offset : UInt64)
  | fileRename (deviceId : UInt32) (oldName newName : List UInt8)
  | scardSend (deviceId : UInt32)

/-- A call, which brings what its callback is to be given and the address `g_malloc` has for a record, or an
answer of the client. -/
inductive Event (φ : Type) where
  | call (alloc : Option Nat) (fusep : φ) (c : Call)
  | answer (s : List UInt8)

/-- A call. -/
def Redir.call (g : Redir φ) (alloc : Option Nat) (fusep : φ) : Call → Checked (Int × Redir φ)
  | .getDirListing deviceId path => g.devredirGetDirListing alloc fusep deviceId path
  | .lookupEntry deviceId path => g.devredirLookupEntry alloc fusep deviceId path
  | .setattrForEntry deviceId filename fattr toSet =>
    g.devredirSetattrForEntry alloc fusep deviceId filename fattr toSet
  | .fileCreate deviceId path mode => g.devredirFileCreate alloc fusep deviceId path mode
  | .fileOpen deviceId path flags => g.devredirFileOpen alloc fusep deviceId path flags
  | .fileClose deviceId fileId => g.devredirFileClose fusep deviceId fileId
  | .rmdirOrFile deviceId path => g.devredirRmdirOrFile alloc fusep deviceId path
  | .fileRead deviceId fileId length offset => g.devredirFileRead alloc fusep deviceId fileId length offset
  | .fileWrite deviceId fileId buf offset => g.devredirFileWrite alloc fusep deviceId fileId buf offset
  | .fileRename deviceId oldName newName => g.devredirFileRename alloc fusep deviceId oldName newName
  | .scardSend deviceId => g.scardSend alloc fusep deviceId

/-- What comes of an event. -/
def Redir.step (g : Redir φ) : Event φ → Checked (Redir φ)
  | .call alloc fusep c => do
    let (_, g) ← g.call alloc fusep c
    return g
  | .answer s => g.devredirProcDeviceIocompletion s

end Xrdp.Chansrv.Devredir
