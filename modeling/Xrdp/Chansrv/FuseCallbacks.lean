import Xrdp.Chansrv.Fuse

/-!
# Completion of requests

* `xfuseDevredirCbLookupEntry`, `xfuseDevredirCbSetattr`, … — what is done when the client has answered.
* `FuseAction`, `fuseStep` — requests, their completion, and other changes of the file system, in any order.
-/

namespace Xrdp.Chansrv

open XfsFs Function

/-- What the client has answered, and whether the memory is found that is needed then. -/
structure ClientReply where
  ioStatus : UInt32
  fileInfo : FileAttr
  deviceId : UInt32
  fileId : UInt32
  offset : Int
  length : Nat
  handle : Bool
  allocs : AddAllocs
  now : Int

variable (s : Xfuse) (req : Nat) (c : ClientReply)

/-- The local copy of what is not there any more is removed. -/
def removeExisting (existingInum : Nat) (existingGeneration : UInt32) : Run Xfuse :=
  if existingInum = 0 then pure s
  else do
    match ← xfsGet s.xfs existingInum with
    | none => pure s
    | some xinode =>
      if xinode.generation = existingGeneration then do
        let xfs ← xfsRemoveEntry s.xfs existingInum
        pure (s.setXfs xfs)
      else pure s

/-- The entry that is there of the name is brought up to date, or removed if it is of another type. -/
def refreshEntry (pinum : Nat) (name : List UInt8) : Run (Option Nat × Xfuse) := do
  match ← xfsLookupInDir s.xfs pinum name with
  | none => pure (none, s)
  | some xinode => do
    let x ← s.xfs.deref xinode
    if x.mode &&& (S_IFREG ||| S_IFDIR) = c.fileInfo.mode &&& (S_IFREG ||| S_IFDIR) then do
      let count ← xfsGetFileOpenCount s.xfs x.inum
      -- the attributes of an open file are more up to date here
      if count > 0 then pure (some x.inum, s)
      else do
        let s ← s.updateInodeFileAttributes c.fileInfo TO_SET_ALL x.inum c.now
        pure (some x.inum, s)
    else do
      let xfs ← xfsRemoveEntry s.xfs x.inum
      pure (none, s.setXfs xfs)

/-- A new entry has the attributes that the client has sent. -/
def addLookedUp (pinum : Nat) (name : List UInt8) : Run (Option Nat × Xfuse) := do
  let (result, s) ← s.addEntry pinum name c.fileInfo.mode c.allocs c.now
  match result with
  | none => pure (none, s)
  | some inum =>
    let attr : XfsAttr :=
      ⟨c.fileInfo.size, c.fileInfo.atime, c.fileInfo.mtime, c.fileInfo.mtime⟩
    pure (some inum, { s with attr := update s.attr inum attr })

/-- The reply to a lookup of the entry `xinode`, if there is one. -/
def replyLookedUp (xinode : Option Nat) : Run Xfuse :=
  match xinode with
  | none => pure (s.replyErr req EIO)
  | some inum => do
    let x ← s.xfs.deref inum
    pure (s.reply req (s.entryReply x))

/-- `xfuse_devredir_cb_lookup_entry`. -/
def xfuseDevredirCbLookupEntry (pinum : Nat) (name : List UInt8) (existingInum : Nat)
    (existingGeneration : UInt32) : Run Xfuse :=
  if c.ioStatus ≠ NT_STATUS_SUCCESS then
    if c.ioStatus = NT_STATUS_SHARING_VIOLATION ∨ c.ioStatus = NT_STATUS_ACCESS_DENIED then
      pure (s.replyErr req EACCES)
    else if c.ioStatus = NT_STATUS_UNSUCCESSFUL then pure (s.replyErr req ENOENT)
    else if c.ioStatus = NT_STATUS_NO_SUCH_FILE then do
      let s ← removeExisting s existingInum existingGeneration
      pure (s.replyErr req ENOENT)
    else pure (s.replyErr req EIO)
  else do
    match ← xfsGet s.xfs pinum with
    | none => pure (s.replyErr req ENOENT)
    | some _ => do
      let (xinode, s) ← refreshEntry s c pinum name
      match xinode with
      | some inum => replyLookedUp s req (some inum)
      | none => do
        let (xinode, s) ← addLookedUp s c pinum name
        replyLookedUp s req xinode

/-- `xfuse_devredir_cb_setattr`. -/
def xfuseDevredirCbSetattr (inum : Nat) (fattr : FileAttr) (changeMask : UInt32) : Run Xfuse :=
  if c.ioStatus ≠ NT_STATUS_SUCCESS then
    if c.ioStatus = NT_STATUS_SHARING_VIOLATION ∨ c.ioStatus = NT_STATUS_ACCESS_DENIED then
      pure (s.replyErr req EACCES)
    else if c.ioStatus = NT_STATUS_UNSUCCESSFUL ∨ c.ioStatus = NT_STATUS_NO_SUCH_FILE then
      pure (s.replyErr req ENOENT)
    else pure (s.replyErr req EIO)
  else do
    match ← xfsGet s.xfs inum with
    | none => pure (s.replyErr req ENOENT)
    | some _ => do
      let s ← s.updateInodeFileAttributes fattr changeMask inum c.now
      let x ← s.xfs.deref inum
      pure (s.reply req (s.attrReply x))

/-- The status of a file that could not be created or opened. -/
def openStatus (ioStatus : UInt32) : Nat :=
  if ioStatus = NT_STATUS_ACCESS_DENIED then EACCES
  else if ioStatus = NT_STATUS_OBJECT_NAME_INVALID ∨ ioStatus = NT_STATUS_OBJECT_NAME_NOT_FOUND then
    ENOENT
  else EIO

/-- The entry is made, or one that has been looked up in the meantime is used. -/
def addCreated (pinum : Nat) (name : List UInt8) (mode : UInt32) : Run (Option Nat × Xfuse) := do
  let (result, s) ← s.addEntry pinum name mode c.allocs c.now
  match result with
  | some inum => pure (some inum, s)
  | none =>
    match ← xfsLookupInDir s.xfs pinum name with
    | none => pure (none, s)
    | some xinode => do
      let xfs ← s.xfs.modify xinode fun x => { x with mode := mode }
      pure (some xinode, s.setXfs xfs)

/-- `xfuse_devredir_cb_create_file`. -/
def xfuseDevredirCbCreateFile (pinum : Nat) (name : List UInt8) (mode : UInt32) : Run Xfuse :=
  if c.ioStatus ≠ 0 then pure (s.replyErr req (openStatus c.ioStatus))
  else if mode &&& S_IFREG ≠ 0 ∧ !c.handle then pure (s.replyErr req ENOMEM)
  else do
    let (xinode, s) ← addCreated s c pinum name mode
    match xinode with
    | none => pure (s.replyErr req ENOMEM)
    | some inum => do
      let x ← s.xfs.deref inum
      if mode &&& S_IFDIR ≠ 0 then pure (s.reply req (s.entryReply x))
      else do
        let s := s.reply req (.create x.inum x.generation (x.mode &&& ~~~s.umask) (s.attr x.inum)
          ⟨c.deviceId, c.fileId, false⟩)
        let xfs ← xfsIncrementFileOpenCount s.xfs x.inum
        pure (s.setXfs xfs)

/-- `xfuse_devredir_cb_open_file`. -/
def xfuseDevredirCbOpenFile (inum : Nat) : Run Xfuse :=
  if c.ioStatus ≠ 0 then pure (s.replyErr req (openStatus c.ioStatus))
  else if !c.handle then pure (s.replyErr req ENOMEM)
  else do
    let xfs ← xfsIncrementFileOpenCount s.xfs inum
    pure ((s.setXfs xfs).reply req (.open_ ⟨c.deviceId, c.fileId, false⟩))

/-- `xfuse_devredir_cb_write_file`. -/
def xfuseDevredirCbWriteFile (inum : Nat) : Run Xfuse :=
  if c.ioStatus ≠ NT_STATUS_SUCCESS then pure (s.replyErr req EIO)
  else do
    let newSize := c.offset + c.length
    let s := s.reply req (.write c.length)
    match ← xfsGet s.xfs inum with
    | none => pure s
    | some _ =>
      if newSize > (s.attr inum).size then
        pure { s with attr := update s.attr inum { s.attr inum with size := newSize } }
      else pure s

/-- `xfuse_devredir_cb_rmdir_or_file`; the inode is not looked at before its number is. -/
def xfuseDevredirCbRmdirOrFile (inum : Nat) : Run Xfuse := do
  let xinode ← xfsGet s.xfs inum
  if c.ioStatus = NT_STATUS_SUCCESS ∨ c.ioStatus = NT_STATUS_NO_SUCH_FILE then
    match xinode with
    | none => .error .outOfBounds
    | some x => do
      let xfs ← xfsRemoveEntry s.xfs x.inum
      pure ((s.setXfs xfs).replyErr req 0)
  else if c.ioStatus = NT_STATUS_SHARING_VIOLATION ∨ c.ioStatus = NT_STATUS_ACCESS_DENIED then
    pure (s.replyErr req EACCES)
  else pure (s.replyErr req EBADF)

/-- `xfuse_devredir_cb_rename_file`. -/
def xfuseDevredirCbRenameFile (pinum newPinum : Nat) (name : List UInt8) : Run Xfuse :=
  if c.ioStatus ≠ NT_STATUS_SUCCESS then
    pure (s.replyErr req (if c.ioStatus = NT_STATUS_SHARING_VIOLATION then EBUSY
      else if c.ioStatus = NT_STATUS_ACCESS_DENIED then EACCES else EEXIST))
  else do
    let (status, xfs) ← xfsMoveEntry s.xfs pinum newPinum name
    pure ((s.setXfs xfs).replyErr req status)

/-- `xfuse_devredir_cb_file_close`. -/
def xfuseDevredirCbFileClose (inum : Nat) : Run Xfuse := do
  let s := s.replyErr req 0
  let xfs ← xfsDecrementFileOpenCount s.xfs inum
  pure (s.setXfs xfs)

/-- The callback of a request. -/
def completion : Fip → Run Xfuse
  | .stateLookup pinum name existingInum existingGeneration =>
    xfuseDevredirCbLookupEntry s req c pinum name existingInum existingGeneration
  | .stateSetattr inum fattr changeMask => xfuseDevredirCbSetattr s req c inum fattr changeMask
  | .stateOpen inum => xfuseDevredirCbOpenFile s req c inum
  | .stateCreate pinum name mode => xfuseDevredirCbCreateFile s req c pinum name mode
  | .stateWrite inum => xfuseDevredirCbWriteFile s req c inum
  | .stateRemove inum => xfuseDevredirCbRmdirOrFile s req c inum
  | .stateRename pinum newPinum name => xfuseDevredirCbRenameFile s req c pinum newPinum name
  | .stateClose inum => xfuseDevredirCbFileClose s req inum

/-! ## Steps -/

/-- What happens next: a request, the client's answer to one that waits, or any other change of the file
system, such as the removal of a device. -/
inductive FuseAction where
  | request (r : FuseRequest) (c : Circumstances)
  | complete (req : Nat) (c : ClientReply)
  | other (change : Change)

/-- The request that waits of a number. -/
def Xfuse.find (s : Xfuse) (req : Nat) : Option Waiting := s.waiting.find? fun w => w.req = req

/-- A request is answered, or waits with what its numbers mean now. -/
def settle (s : Xfuse) (outcome : Outcome) : Xfuse :=
  match outcome with
  | .reply r => { s.reply s.requests r with requests := s.requests + 1 }
  | .wait fip => { s with
      waiting := s.waiting ++ [⟨s.requests, fip, s.denotes⟩]
      requests := s.requests + 1 }

/-- A step; an answer to a request that does not wait is not looked at. -/
def fuseStep (s : Xfuse) : FuseAction → Run Xfuse
  | .request r c => do
    let (s, outcome) ← fuseRequest s c r
    pure (settle s outcome)
  | .complete req c =>
    match s.find req with
    | none => pure s
    | some w => do
      let s ← completion s req c w.fip
      pure { s with waiting := s.waiting.filter fun v => v.req ≠ req }
  | .other c => do
    let xfs ← change s.xfs c
    pure (s.setXfs xfs)

def FuseNext (s : Xfuse) (a : FuseAction) (s' : Xfuse) : Prop := fuseStep s a = .ok s'

/-- A file system that no request has been made to. -/
def Xfuse.new (umask : UInt32) (uid gid : Nat) (attr : Nat → XfsAttr) : Xfuse :=
  ⟨created umask, attr, umask, uid, gid, 0, [], [], 1, fun _ => 0⟩

end Xrdp.Chansrv
