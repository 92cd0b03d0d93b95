import Xrdp.Memory
import Mathlib.Logic.Function.Basic

/-!
# The file system of redirected drives

* `XfsInode`, `XfsFs` — the inodes, the table of them and the free list.
* `growXfs`, `addInodeToList`, `removeInodeFromList` — the table and the lists of directories.
* `xfsCreateXfsFs`, `xfsAddEntry`, `xfsRemoveEntry`, `xfsDeleteEntriesWithDeviceId` — the file system.
-/

namespace Xrdp.Chansrv

def INODE_TABLE_ALLOCATION_INITIAL : Nat := 4096
def INODE_TABLE_ALLOCATION_GRANULARITY : Nat := 100
def FUSE_ROOT_ID : Nat := 1
def DELETE_PENDING_ID : Nat := 2
def XFS_MAXFILENAMELEN : Nat := 255
def S_IFDIR : UInt32 := 0o040000
def S_IFREG : UInt32 := 0o100000

/-- `struct xfs_inode_all`; a pointer to an inode is its number. -/
structure XfsInode where
  inum : Nat
  mode : UInt32
  name : List UInt8
  generation : UInt32
  deviceId : UInt32
  parent : Option Nat
  next : Option Nat
  previous : Option Nat
  dirBegin : Option Nat
  dirEnd : Option Nat
  openCount : UInt32
  deriving DecidableEq

def XfsInode.isDir (x : XfsInode) : Bool := x.mode &&& S_IFDIR ≠ 0
def XfsInode.isReg (x : XfsInode) : Bool := x.mode &&& S_IFREG ≠ 0

/-- `struct xfs_fs`: the inodes that there are, each in the entry of its number; the sizes of the
allocations of the table and of the free list; the free list from its top. -/
structure XfsFs where
  inodeTable : Nat → Option XfsInode
  tableSize : Nat
  freeList : List Nat
  freeSize : Nat
  inodeCount : Nat
  generation : UInt32

namespace XfsFs

/-- An entry of the table. -/
def tableAt (xfs : XfsFs) (inum : Nat) : Run (Option XfsInode) :=
  if inum < xfs.tableSize then .ok (xfs.inodeTable inum) else .error .outOfBounds

/-- What a pointer points at. -/
def deref (xfs : XfsFs) (p : Nat) : Run XfsInode :=
  match xfs.inodeTable p with
  | none => .error .outOfBounds
  | some x => .ok x

/-- A write through a pointer. -/
def modify (xfs : XfsFs) (p : Nat) (f : XfsInode → XfsInode) : Run XfsFs :=
  match xfs.inodeTable p with
  | none => .error .outOfBounds
  | some x => .ok { xfs with inodeTable := Function.update xfs.inodeTable p (some (f x)) }

end XfsFs

/-! ## The table -/

/-- `grow_xfs`; `table` and `free` are whether the memory is found.  Reallocating to nothing frees. -/
def growXfs (xfs : XfsFs) (extraInodes : Nat) (table free : Bool) : Run (Bool × XfsFs) :=
  let newCount := (xfs.inodeCount + extraInodes) % 2 ^ 32
  if newCount = 0 then .ok (false, { xfs with tableSize := 0 })
  else if !table then .ok (false, xfs)
  else
    let xfs := { xfs with
      tableSize := newCount
      inodeTable := fun i =>
        if xfs.inodeCount ≤ i ∧ i < newCount then none else xfs.inodeTable i }
    if !free then .ok (false, xfs)
    -- the new numbers are pushed from the last to the first
    else if xfs.freeList.length + (newCount - xfs.inodeCount) ≤ newCount then
      .ok (true, { xfs with
        freeList := List.range' xfs.inodeCount (newCount - xfs.inodeCount) ++ xfs.freeList
        freeSize := newCount
        inodeCount := newCount })
    else .error .outOfBounds

/-! ## The list of a directory -/

/-- The loop of `add_inode_to_list`. -/
def findPredecessor (xfs : XfsFs) (inum : Nat) : Nat → Option Nat → Run (Option Nat)
  | 0, _ => .error .outOfFuel
  | fuel + 1, predecessor =>
    match predecessor with
    | none => .ok none
    | some p => do
      let x ← xfs.deref p
      if x.inum > inum then findPredecessor xfs inum fuel x.previous else pure (some p)

/-- `add_inode_to_list`, with the list of the directory `dinode`. -/
def addInodeToList (xfs : XfsFs) (dinode xino : Nat) : Run XfsFs := do
  let x ← xfs.deref xino
  let list ← xfs.deref dinode
  let predecessor ← findPredecessor xfs x.inum (xfs.inodeCount + 1) list.dirEnd
  match predecessor with
  | none => do
    let xfs ← xfs.modify xino fun x => { x with next := list.dirBegin, previous := none }
    let xfs ← match list.dirBegin with
      | none => xfs.modify dinode fun d => { d with dirEnd := some xino }
      | some first => xfs.modify first fun x => { x with previous := some xino }
    xfs.modify dinode fun d => { d with dirBegin := some xino }
  | some predecessor => do
    let p ← xfs.deref predecessor
    let xfs ← xfs.modify xino fun x => { x with next := p.next, previous := some predecessor }
    let xfs ← match p.next with
      | none => xfs.modify dinode fun d => { d with dirEnd := some xino }
      | some next => xfs.modify next fun x => { x with previous := some xino }
    xfs.modify predecessor fun x => { x with next := some xino }

/-- `remove_inode_from_list`, with the list of the directory `dinode`. -/
def removeInodeFromList (xfs : XfsFs) (dinode xino : Nat) : Run XfsFs := do
  let x ← xfs.deref xino
  let xfs ← match x.previous with
    | none => xfs.modify dinode fun d => { d with dirBegin := x.next }
    | some previous => xfs.modify previous fun p => { p with next := x.next }
  match x.next with
  | none => xfs.modify dinode fun d => { d with dirEnd := x.previous }
  | some next => xfs.modify next fun n => { n with previous := x.previous }

/-- `link_inode_into_directory_node`. -/
def linkInodeIntoDirectoryNode (xfs : XfsFs) (dinode xino : Nat) : Run XfsFs := do
  let xfs ← xfs.modify xino fun x => { x with parent := some dinode }
  addInodeToList xfs dinode xino

/-- `unlink_inode_from_parent`. -/
def unlinkInodeFromParent (xfs : XfsFs) (xino : Nat) : Run XfsFs := do
  let x ← xfs.deref xino
  match x.parent with
  | none => .error .outOfBounds
  | some parent => do
    let xfs ← removeInodeFromList xfs parent xino
    xfs.modify xino fun x => { x with next := none, previous := none, parent := none }

/-! ## The file system -/

/-- The inode of a directory that is there from the start. -/
def fixedInode (inum : Nat) (umask : UInt32) (name : List UInt8) (generation : UInt32) : XfsInode where
  inum := inum
  mode := (S_IFDIR ||| 0o777) &&& ~~~umask
  name := name
  generation := generation
  deviceId := 0
  parent := none
  next := none
  previous := none
  dirBegin := none
  dirEnd := none
  openCount := 0

/-- Whether the memory is found that `xfs_create_xfs_fs` asks for. -/
structure CreateAllocs where
  xfs : Bool
  table : Bool
  free : Bool
  xino1 : Bool
  xino2 : Bool

/-- `xfs_create_xfs_fs`. -/
def xfsCreateXfsFs (umask : UInt32) (allocs : CreateAllocs) : Run (Option XfsFs) :=
  if !allocs.xfs then .ok none
  else do
    let (grown, xfs) ← growXfs ⟨fun _ => none, 0, [], 0, 0, 1⟩ INODE_TABLE_ALLOCATION_INITIAL
      allocs.table allocs.free
    if !grown || !allocs.xino1 || !allocs.xino2 then pure none
    else
      -- the first three numbers are taken off the free list
      pure (some { xfs with
        freeList := xfs.freeList.drop 3
        inodeTable := fun i =>
          if i = FUSE_ROOT_ID then some (fixedInode i umask [0x2e] xfs.generation)
          else if i = DELETE_PENDING_ID then
            some (fixedInode i umask ".delete-pending".toUTF8.data.toList xfs.generation)
          else if i = 0 then none
          else xfs.inodeTable i })

/-- The loop of `xfs_lookup_in_dir`. -/
def lookupLoop (xfs : XfsFs) (name : List UInt8) : Nat → Option Nat → Run (Option Nat)
  | 0, _ => .error .outOfFuel
  | fuel + 1, p =>
    match p with
    | none => .ok none
    | some p => do
      let x ← xfs.deref p
      if x.name = name then pure (some p) else lookupLoop xfs name fuel x.next

/-- `xfs_lookup_in_dir`. -/
def xfsLookupInDir (xfs : XfsFs) (inum : Nat) (name : List UInt8) : Run (Option Nat) :=
  if inum < xfs.inodeCount then do
    match ← xfs.tableAt inum with
    | none => pure none
    | some xino =>
      if xino.isDir then lookupLoop xfs name (xfs.inodeCount + 1) xino.dirBegin else pure none
  else .ok none

/-- Whether the memory is found that `xfs_add_entry` asks for. -/
structure AddAllocs where
  table : Bool
  free : Bool
  xino : Bool

/-- The end of `xfs_add_entry`, when there is space: the number on top of the free list is used. -/
def addEntry (xfs : XfsFs) (parentInum : Nat) (parent : XfsInode) (name : List UInt8) (mode : UInt32) :
    Run (Option Nat × XfsFs) :=
  match xfs.freeList with
  | [] => .error .outOfBounds
  | inum :: freeList => do
    let _old ← xfs.tableAt inum
    let xino : XfsInode := {
      inum := inum, mode := mode, name := name, generation := xfs.generation
      deviceId := parent.deviceId, parent := none, next := none, previous := none
      dirBegin := none, dirEnd := none, openCount := 0 }
    let xfs ← linkInodeIntoDirectoryNode
      { xfs with freeList := freeList, inodeTable := Function.update xfs.inodeTable inum (some xino) }
      parentInum inum
    pure (some inum, xfs)

/-- `xfs_add_entry`: the number of the new entry, if there is one. -/
def xfsAddEntry (xfs : XfsFs) (parentInum : Nat) (name : List UInt8) (mode : UInt32)
    (allocs : AddAllocs) : Run (Option Nat × XfsFs) :=
  if parentInum < xfs.inodeCount then do
    match ← xfs.tableAt parentInum with
    | none => pure (none, xfs)
    | some parent =>
      if parent.isDir ∧ parentInum ≠ DELETE_PENDING_ID ∧ name.length ≤ XFS_MAXFILENAMELEN then
        match ← xfsLookupInDir xfs parentInum name with
        | some _ => pure (none, xfs)
        | none =>
          let mode := if mode &&& S_IFDIR ≠ 0 then (mode &&& 0o777) ||| S_IFDIR
            else (mode &&& 0o777) ||| S_IFREG
          let (space, xfs) ← if xfs.freeList ≠ [] then pure (true, xfs)
            else growXfs xfs INODE_TABLE_ALLOCATION_GRANULARITY allocs.table allocs.free
          if space && allocs.xino then addEntry xfs parentInum parent name mode
          else pure (none, xfs)
      else pure (none, xfs)
  else .ok (none, xfs)

mutual

/-- The loop of `xfs_remove_directory_contents`. -/
def removeContentsLoop : Nat → XfsFs → Nat → Run XfsFs
  | 0, _, _ => .error .outOfFuel
  | fuel + 1, xfs, inum => do
    let xino ← xfs.deref inum
    match xino.dirEnd with
    | none => pure xfs
    | some e => do
      let x ← xfs.deref e
      let xfs ← removeEntryAux fuel xfs x.inum
      removeContentsLoop fuel xfs inum

/-- `xfs_remove_directory_contents`, no more than `fuel` calls and turns deep. -/
def removeDirectoryContentsAux : Nat → XfsFs → Nat → Run XfsFs
  | 0, _, _ => .error .outOfFuel
  | fuel + 1, xfs, inum =>
    if inum < xfs.inodeCount then do
      match ← xfs.tableAt inum with
      | none => pure xfs
      | some xino => if xino.isDir then removeContentsLoop fuel xfs inum else pure xfs
    else .ok xfs

/-- `xfs_remove_entry`, no more than `fuel` calls and turns deep. -/
def removeEntryAux : Nat → XfsFs → Nat → Run XfsFs
  | 0, _, _ => .error .outOfFuel
  | fuel + 1, xfs, inum =>
    if inum < xfs.inodeCount then do
      match ← xfs.tableAt inum with
      | none => pure xfs
      | some xino => do
        let xfs ← if xino.isDir then removeDirectoryContentsAux fuel xfs inum else pure xfs
        let xfs ← unlinkInodeFromParent xfs inum
        let xino ← xfs.deref inum
        if xino.isReg ∧ xino.openCount > 0 then
          match ← xfs.tableAt DELETE_PENDING_ID with
          | none => .error .outOfBounds
          | some _ => linkInodeIntoDirectoryNode xfs DELETE_PENDING_ID inum
        else if xfs.freeList.length < xfs.freeSize then
          pure { xfs with
            freeList := inum :: xfs.freeList
            inodeTable := Function.update xfs.inodeTable inum none
            generation := xfs.generation + 1 }
        else .error .outOfBounds
    else .ok xfs

end

/-- Calls and turns that are enough, as every three of them remove an inode. -/
def removeFuel (xfs : XfsFs) : Nat := 3 * xfs.inodeCount + 3

/-- `xfs_remove_directory_contents`. -/
def xfsRemoveDirectoryContents (xfs : XfsFs) (inum : Nat) : Run XfsFs :=
  removeDirectoryContentsAux (removeFuel xfs) xfs inum

/-- `xfs_remove_entry`. -/
def xfsRemoveEntry (xfs : XfsFs) (inum : Nat) : Run XfsFs := removeEntryAux (removeFuel xfs) xfs inum

/-- `xfs_get`. -/
def xfsGet (xfs : XfsFs) (inum : Nat) : Run (Option XfsInode) :=
  if inum < xfs.inodeCount then xfs.tableAt inum else .ok none

/-- `xfs_increment_file_open_count`. -/
def xfsIncrementFileOpenCount (xfs : XfsFs) (inum : Nat) : Run XfsFs :=
  if inum < xfs.inodeCount then do
    match ← xfs.tableAt inum with
    | none => pure xfs
    | some xino =>
      if xino.isReg then xfs.modify inum fun x => { x with openCount := x.openCount + 1 } else pure xfs
  else .ok xfs

/-- `xfs_decrement_file_open_count`. -/
def xfsDecrementFileOpenCount (xfs : XfsFs) (inum : Nat) : Run XfsFs :=
  if inum < xfs.inodeCount then do
    match ← xfs.tableAt inum with
    | none => pure xfs
    | some xino =>
      if xino.isReg then do
        let xfs ← if xino.openCount > 0 then
            xfs.modify inum fun x => { x with openCount := x.openCount - 1 }
          else pure xfs
        let xino ← xfs.deref inum
        if xino.openCount = 0 then do
          let pending ← xfs.tableAt DELETE_PENDING_ID
          -- the parent is what the entry of the table points at
          if xino.parent = pending.map fun _ => DELETE_PENDING_ID then xfsRemoveEntry xfs inum
          else pure xfs
        else pure xfs
      else pure xfs
  else .ok xfs

/-- A turn of the first loop of `xfs_delete_entries_with_device_id`. -/
def clearOpenCount (deviceId : UInt32) (xfs : XfsFs) (inum : Nat) : Run XfsFs := do
  match ← xfs.tableAt inum with
  | none => pure xfs
  | some xino =>
    if xino.deviceId = deviceId ∧ xino.isReg then
      xfs.modify inum fun x => { x with openCount := 0 }
    else pure xfs

/-- A turn of the second. -/
def removeWithDeviceId (deviceId : UInt32) (xfs : XfsFs) (inum : Nat) : Run XfsFs := do
  match ← xfs.tableAt inum with
  | none => pure xfs
  | some xino => if xino.deviceId = deviceId then xfsRemoveEntry xfs xino.inum else pure xfs

/-- `xfs_delete_entries_with_device_id`; the number of inodes stays the same. -/
def xfsDeleteEntriesWithDeviceId (xfs : XfsFs) (deviceId : UInt32) : Run XfsFs :=
  if deviceId ≠ 0 then do
    let inums := List.range' FUSE_ROOT_ID (xfs.inodeCount - FUSE_ROOT_ID)
    let xfs ← inums.foldlM (clearOpenCount deviceId) xfs
    inums.foldlM (removeWithDeviceId deviceId) xfs
  else .ok xfs

/-- A caller sets the device of an entry, as `xfuse_create_share` does. -/
def setDeviceId (xfs : XfsFs) (inum : Nat) (deviceId : UInt32) : Run XfsFs :=
  if inum < xfs.inodeCount then do
    match ← xfs.tableAt inum with
    | none => pure xfs
    | some _ => xfs.modify inum fun x => { x with deviceId := deviceId }
  else .ok xfs

end Xrdp.Chansrv
