import Xrdp.Chansrv.XfsOpenFiles

/-!
# Requests to the file system

* `Xfuse` — the file system with the attributes of its inodes, and the requests that wait for the client.
* `xfuseCbLookup`, `xfuseCbOpen`, … — a request is answered at once, or sent to the client with what has to
  be remembered.

Left out: two slips when memory has run out.  `xfuse_cb_unlink` frees `full_path` twice if there is a path but
no `fip`, and `xfuse_cb_open` writes to the handle of a local file without a look whether there is one.
-/

namespace Xrdp.Chansrv

open XfsFs Function

def EPERM : Nat := 1
def ENOENT : Nat := 2
def EIO : Nat := 5
def EBADF : Nat := 9
def ENOMEM : Nat := 12
def EACCES : Nat := 13
def EBUSY : Nat := 16
def EEXIST : Nat := 17
def EISDIR : Nat := 21
def ENAMETOOLONG : Nat := 36
def ENOTEMPTY : Nat := 39
def EREMOTEIO : Nat := 121

def NT_STATUS_SUCCESS : UInt32 := 0x00000000
def NT_STATUS_UNSUCCESSFUL : UInt32 := 0xC0000001
def NT_STATUS_NO_SUCH_FILE : UInt32 := 0xC000000F
def NT_STATUS_ACCESS_DENIED : UInt32 := 0xC0000022
def NT_STATUS_OBJECT_NAME_INVALID : UInt32 := 0xC0000033
def NT_STATUS_OBJECT_NAME_NOT_FOUND : UInt32 := 0xC0000034
def NT_STATUS_SHARING_VIOLATION : UInt32 := 0xC0000043

def TO_SET_MODE : UInt32 := 1
def TO_SET_SIZE : UInt32 := 2
def TO_SET_ATIME : UInt32 := 4
def TO_SET_MTIME : UInt32 := 8
def TO_SET_ALL : UInt32 := TO_SET_MODE ||| TO_SET_SIZE ||| TO_SET_ATIME ||| TO_SET_MTIME

def FUSE_SET_ATTR_MODE : UInt32 := 1
def FUSE_SET_ATTR_UID : UInt32 := 2
def FUSE_SET_ATTR_GID : UInt32 := 4
def FUSE_SET_ATTR_SIZE : UInt32 := 8
def FUSE_SET_ATTR_ATIME : UInt32 := 16
def FUSE_SET_ATTR_MTIME : UInt32 := 32

/-- `struct file_attr`. -/
structure FileAttr where
  mode : UInt32
  size : Int
  atime : Int
  mtime : Int

/-- The fields of an inode that only requests look at. -/
structure XfsAttr where
  size : Int
  atime : Int
  mtime : Int
  ctime : Int

/-- `XFUSE_HANDLE`. -/
structure XfuseHandle where
  deviceId : UInt32
  fileId : UInt32
  isLocResource : Bool

/-- A reply to a request; an inode in it is that of the time. -/
inductive Reply where
  | err (status : Nat)
  | entry (inum : Nat) (generation mode : UInt32) (attr : XfsAttr)
  | attr (inum : Nat) (mode : UInt32) (attr : XfsAttr)
  | create (inum : Nat) (generation mode : UInt32) (attr : XfsAttr) (handle : XfuseHandle)
  | open_ (handle : XfuseHandle)
  | write (length : Nat)

/-- What is remembered of a request until the client answers. -/
inductive Fip where
  | stateLookup (pinum : Nat) (name : List UInt8) (existingInum : Nat) (existingGeneration : UInt32)
  | stateSetattr (inum : Nat) (fattr : FileAttr) (changeMask : UInt32)
  | stateOpen (inum : Nat)
  | stateCreate (pinum : Nat) (name : List UInt8) (mode : UInt32)
  | stateWrite (inum : Nat)
  | stateRemove (inum : Nat)
  | stateRename (pinum newPinum : Nat) (name : List UInt8)
  | stateClose (inum : Nat)

/-- A request that waits; `denoted` tells which entries its numbers meant, and is not in the code. -/
structure Waiting where
  req : Nat
  fip : Fip
  denoted : Nat → Option Nat

/-- The file system with its requests, which are numbered.  The `clock` counts the changes, and `born` is
when a number that is in use was last free; they are not in the code. -/
structure Xfuse where
  xfs : XfsFs
  attr : Nat → XfsAttr
  umask : UInt32
  uid : Nat
  gid : Nat
  requests : Nat
  waiting : List Waiting
  replies : List (Nat × Reply)
  clock : Nat
  born : Nat → Nat

namespace Xfuse

/-- The entry that a number means. -/
def denotes (s : Xfuse) (i : Nat) : Option Nat := (s.xfs.inodeTable i).map fun _ => s.born i

/-- After a change of the file system. -/
def setXfs (s : Xfuse) (xfs : XfsFs) : Xfuse :=
  { s with
    xfs := xfs
    clock := s.clock + 1
    born := fun i => if (s.xfs.inodeTable i).isSome then s.born i else s.clock }

def reply (s : Xfuse) (req : Nat) (r : Reply) : Xfuse := { s with replies := s.replies ++ [(req, r)] }

def replyErr (s : Xfuse) (req status : Nat) : Xfuse := s.reply req (.err status)

/-- `make_fuse_entry_reply`. -/
def entryReply (s : Xfuse) (x : XfsInode) : Reply :=
  .entry x.inum x.generation (x.mode &&& ~~~s.umask) (s.attr x.inum)

/-- `make_fuse_attr_reply`. -/
def attrReply (s : Xfuse) (x : XfsInode) : Reply :=
  .attr x.inum (x.mode &&& ~~~s.umask) (s.attr x.inum)

/-- `xfs_add_entry`, with the attributes of the new inode. -/
def addEntry (s : Xfuse) (parentInum : Nat) (name : List UInt8) (mode : UInt32) (allocs : AddAllocs)
    (now : Int) : Run (Option Nat × Xfuse) := do
  let (result, xfs) ← xfsAddEntry s.xfs parentInum name mode allocs
  let s := s.setXfs xfs
  match result with
  | none => pure (none, s)
  | some inum =>
    let size := if mode &&& S_IFDIR ≠ 0 then 4096 else 0
    pure (some inum, { s with attr := update s.attr inum ⟨size, now, now, now⟩ })

/-- `update_inode_file_attributes`. -/
def updateInodeFileAttributes (s : Xfuse) (fattr : FileAttr) (changeMask : UInt32) (inum : Nat)
    (now : Int) : Run Xfuse := do
  let x ← s.xfs.deref inum
  let a := s.attr inum
  let setMode := decide (changeMask &&& TO_SET_MODE ≠ 0 ∧ x.mode ≠ fattr.mode)
  let setSize := decide (changeMask &&& TO_SET_SIZE ≠ 0 ∧ a.size ≠ fattr.size)
  let setAtime := decide (changeMask &&& TO_SET_ATIME ≠ 0 ∧ a.atime ≠ fattr.atime)
  let setMtime := decide (changeMask &&& TO_SET_MTIME ≠ 0 ∧ a.mtime ≠ fattr.mtime)
  let xfs ← s.xfs.modify inum fun x => { x with mode := if setMode then fattr.mode else x.mode }
  let s := s.setXfs xfs
  pure { s with attr := update s.attr inum {
    size := if setSize then fattr.size else a.size
    atime := if setAtime then fattr.atime else a.atime
    mtime := if setMtime then fattr.mtime else a.mtime
    ctime := if setMode || setSize || setAtime || setMtime then now else a.ctime } }

end Xfuse

/-! ## Requests -/

/-- A request of the kernel. -/
inductive FuseRequest where
  | lookup (parent : Nat) (name : List UInt8)
  | open_ (ino flags : Nat)
  | mkdir (parent : Nat) (name : List UInt8) (mode : UInt32)
  | create (parent : Nat) (name : List UInt8) (mode : UInt32)
  | setattr (ino : Nat) (attr : FileAttr) (uid gid : Nat) (toSet : UInt32)
  | unlink (parent : Nat) (name : List UInt8)
  | rename (oldParent : Nat) (oldName : List UInt8) (newParent : Nat) (newName : List UInt8)
  | release (ino : Nat) (handle : XfuseHandle)
  | write (ino : Nat) (handle : Option XfuseHandle)

/-- Whether the memory is found that a request needs, whether the call can be sent to the client, and the
time. -/
structure Circumstances where
  fip : Bool
  path : Bool
  newPath : Bool
  handle : Bool
  sent : Bool
  now : Int

/-- A request is answered at once, or waits. -/
inductive Outcome where
  | reply (r : Reply)
  | wait (fip : Fip)

variable (s : Xfuse) (c : Circumstances)

/-- `get_name_for_entry_in_parent`. -/
def getNameForEntryInParent (parent : Nat) (name : List UInt8) : Run (Option (List UInt8)) := do
  match ← xfsGetFullPath s.xfs parent c.newPath with
  | none => pure none
  | some path => pure (some (path ++ 0x2f :: name))

/-- The end of a request to the client: the path it is about is needed, and memory. -/
def sendToClient (path : Option (List UInt8)) (fip : Fip) : Outcome :=
  if c.fip && path.isSome then if c.sent then .wait fip else .reply (.err EREMOTEIO)
  else .reply (.err ENOMEM)

/-- `xfuse_cb_lookup`. -/
def xfuseCbLookup (parent : Nat) (name : List UInt8) : Run Outcome :=
  if name.length > XFS_MAXFILENAMELEN then pure (.reply (.err ENAMETOOLONG))
  else do
    match ← xfsGet s.xfs parent with
    | none => pure (.reply (.err ENOENT))
    | some parentXinode =>
      if parentXinode.deviceId = 0 then
        match ← xfsLookupInDir s.xfs parent name with
        | some xinode => do
          let x ← s.xfs.deref xinode
          pure (.reply (s.entryReply x))
        | none => pure (.reply (.err ENOENT))
      else do
        let path ← getNameForEntryInParent s c parent name
        match ← xfsLookupInDir s.xfs parent name with
        | some xinode => do
          let x ← s.xfs.deref xinode
          pure (sendToClient c path (.stateLookup parent name x.inum x.generation))
        | none => pure (sendToClient c path (.stateLookup parent name 0 0))

/-- `xfuse_cb_open`; the access mode is in the two lowest flags. -/
def xfuseCbOpen (ino flags : Nat) : Run Outcome := do
  match ← xfsGet s.xfs ino with
  | none => pure (.reply (.err ENOENT))
  | some xinode =>
    if xinode.isDir then pure (.reply (.err EISDIR))
    else if flags % 4 = 3 then pure (.reply (.err EINVAL))
    else if xinode.deviceId = 0 then pure (.reply (.open_ ⟨0, 0, true⟩))
    else do
      let path ← xfsGetFullPath s.xfs ino c.path
      pure (sendToClient c path (.stateOpen ino))

/-- `xfuse_create_dir_or_file`. -/
def xfuseCreateDirOrFile (parent : Nat) (name : List UInt8) (mode : UInt32) : Run Outcome :=
  if name.length > XFS_MAXFILENAMELEN then pure (.reply (.err ENAMETOOLONG))
  else if parent = FUSE_ROOT_ID then pure (.reply (.err ENOENT))
  else do
    match ← xfsGet s.xfs parent with
    | none => pure (.reply (.err ENOENT))
    | some xinode =>
      if !xinode.isDir then pure (.reply (.err ENOENT))
      else if xinode.deviceId = 0 then pure (.reply (.err EINVAL))
      else do
        let path ← getNameForEntryInParent s c parent name
        pure (sendToClient c path (.stateCreate parent name (sanitised mode)))

/-- `xfuse_cb_mkdir`. -/
def xfuseCbMkdir (parent : Nat) (name : List UInt8) (mode : UInt32) : Run Outcome := do
  match ← xfsLookupInDir s.xfs parent name with
  | some xinode => do
    let x ← s.xfs.deref xinode
    pure (.reply (s.entryReply x))
  | none => xfuseCreateDirOrFile s c parent name (mode ||| S_IFDIR)

/-- `xfuse_cb_create`. -/
def xfuseCbCreate (parent : Nat) (name : List UInt8) (mode : UInt32) : Run Outcome :=
  xfuseCreateDirOrFile s c parent name (mode &&& ~~~S_IFDIR)

/-- The changes that `xfuse_cb_setattr` finds. -/
def changeMaskOf (x : XfsInode) (a : XfsAttr) (attr : FileAttr) (toSet : UInt32) : UInt32 :=
  (if toSet &&& FUSE_SET_ATTR_MODE ≠ 0 ∧ x.mode ≠ attr.mode then TO_SET_MODE else 0) |||
    (if toSet &&& FUSE_SET_ATTR_SIZE ≠ 0 ∧ a.size ≠ attr.size then TO_SET_SIZE else 0) |||
    (if toSet &&& FUSE_SET_ATTR_ATIME ≠ 0 ∧ a.atime ≠ attr.atime then TO_SET_ATIME else 0) |||
    (if toSet &&& FUSE_SET_ATTR_MTIME ≠ 0 ∧ a.mtime ≠ attr.mtime then TO_SET_MTIME else 0)

/-- `xfuse_cb_setattr`; the fields that are not to be set are not looked at later. -/
def xfuseCbSetattr (ino : Nat) (attr : FileAttr) (uid gid : Nat) (toSet : UInt32) :
    Run (Xfuse × Outcome) := do
  match ← xfsGet s.xfs ino with
  | none => pure (s, .reply (.err ENOENT))
  | some xinode =>
    if (toSet &&& FUSE_SET_ATTR_UID ≠ 0 ∧ uid ≠ s.uid) ∨
        (toSet &&& FUSE_SET_ATTR_GID ≠ 0 ∧ gid ≠ s.gid) then
      pure (s, .reply (.err EPERM))
    else if toSet &&& FUSE_SET_ATTR_MODE ≠ 0 ∧
        attr.mode &&& ~~~(0o777 ||| S_IFDIR ||| S_IFREG) ≠ 0 then
      pure (s, .reply (.err EINVAL))
    else
      let changeMask := changeMaskOf xinode (s.attr ino) attr toSet
      if changeMask = 0 then pure (s, .reply (s.attrReply xinode))
      else if xinode.deviceId = 0 then do
        let s ← s.updateInodeFileAttributes attr changeMask ino c.now
        let x ← s.xfs.deref ino
        pure (s, .reply (s.attrReply x))
      else do
        let path ← xfsGetFullPath s.xfs ino c.path
        if c.fip && path.isSome then
          pure (s, if c.sent then .wait (.stateSetattr ino attr changeMask) else .reply (.err EIO))
        else pure (s, .reply (.err ENOMEM))

/-- `xfuse_cb_unlink`, also for directories. -/
def xfuseCbUnlink (parent : Nat) (name : List UInt8) : Run Outcome :=
  if name.length > XFS_MAXFILENAMELEN then pure (.reply (.err ENAMETOOLONG))
  else do
    match ← xfsLookupInDir s.xfs parent name with
    | none => pure (.reply (.err ENOENT))
    | some xinode => do
      let x ← s.xfs.deref xinode
      let empty ← xfsIsDirEmpty s.xfs x.inum
      if x.isDir ∧ !empty then pure (.reply (.err ENOTEMPTY))
      else if x.deviceId = 0 then pure (.reply (.err EINVAL))
      else do
        let path ← xfsGetFullPath s.xfs x.inum c.path
        pure (sendToClient c path (.stateRemove x.inum))

/-- `xfuse_cb_rename`. -/
def xfuseCbRename (oldParent : Nat) (oldName : List UInt8) (newParent : Nat) (newName : List UInt8) :
    Run Outcome :=
  if oldName.length > XFS_MAXFILENAMELEN ∨ newName.length > XFS_MAXFILENAMELEN then
    pure (.reply (.err ENAMETOOLONG))
  else do
    match ← xfsLookupInDir s.xfs oldParent oldName with
    | none => pure (.reply (.err ENOENT))
    | some oldXinode => do
      let old ← s.xfs.deref oldXinode
      match ← xfsGet s.xfs newParent with
      | none => pure (.reply (.err EINVAL))
      | some newParentXinode => do
        let passes ← xfsCheckMoveEntry s.xfs old.inum newParent newName
        if !passes then pure (.reply (.err EINVAL))
        else if newParentXinode.deviceId ≠ old.deviceId then pure (.reply (.err EINVAL))
        else if old.deviceId = 0 then pure (.reply (.err EINVAL))
        else do
          let oldPath ← xfsGetFullPath s.xfs old.inum c.path
          let newPath ← getNameForEntryInParent s c newParent newName
          pure (if oldPath.isSome then
            sendToClient c newPath (.stateRename old.inum newParent newName)
          else .reply (.err ENOMEM))

/-- `xfuse_cb_release`. -/
def xfuseCbRelease (ino : Nat) (_handle : XfuseHandle) : Run Outcome := do
  match ← xfsGet s.xfs ino with
  | none => pure (.reply (.err ENOENT))
  | some xinode =>
    if xinode.deviceId = 0 then pure (.reply (.err 0))
    else if !c.fip then pure (.reply (.err ENOMEM))
    else pure (if c.sent then .wait (.stateClose ino) else .reply (.err EREMOTEIO))

/-- `xfuse_cb_write`, which is not told whether the call could be sent. -/
def xfuseCbWrite (ino : Nat) (handle : Option XfuseHandle) : Outcome :=
  match handle with
  | none => .reply (.err EINVAL)
  | some handle =>
    if handle.isLocResource then .reply (.err EINVAL)
    else if !c.fip then .reply (.err ENOMEM)
    else .wait (.stateWrite ino)

def fuseRequest : FuseRequest → Run (Xfuse × Outcome)
  | .lookup parent name => do pure (s, ← xfuseCbLookup s c parent name)
  | .open_ ino flags => do pure (s, ← xfuseCbOpen s c ino flags)
  | .mkdir parent name mode => do pure (s, ← xfuseCbMkdir s c parent name mode)
  | .create parent name mode => do pure (s, ← xfuseCbCreate s c parent name mode)
  | .setattr ino attr uid gid toSet => xfuseCbSetattr s c ino attr uid gid toSet
  | .unlink parent name => do pure (s, ← xfuseCbUnlink s c parent name)
  | .rename oldParent oldName newParent newName => do
    pure (s, ← xfuseCbRename s c oldParent oldName newParent newName)
  | .release ino handle => do pure (s, ← xfuseCbRelease s c ino handle)
  | .write ino handle => pure (s, xfuseCbWrite c ino handle)

end Xrdp.Chansrv
