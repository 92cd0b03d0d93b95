import Xrdp.Lib.Liberal
import Xrdp.Recv.ProcessData

/-!
# The logon packet

`xrdp_sec_process_logon_info` in `libxrdp/xrdp_sec.c`: every length of the packet is checked against
what is left of it before anything is read.

* `xrdpSecProcessLogonInfo` — what is read into `client_info`.
* `logonInfo_reads` — the position is inside the packet behind it.
-/

namespace Xrdp.Recv

open Liberal

/-- `client_info`, as far as it is read from the logon packet or tells how to read it. -/
structure ClientInfo where
  isMce : Bool
  useBulkComp : Bool
  requireCredentials : Bool
  soundCode : Bool
  railEnable : Bool
  rdpAutologin : Bool
  rdpCompression : Bool
  domain : List UInt8
  username : List UInt8
  password : List UInt8
  program : List UInt8
  directory : List UInt8
  rdp5Performanceflags : Nat
  deriving DecidableEq, Repr

def RDP_LOGON_AUTO : Nat := 0x0008
def RDP_LOGON_NORMAL : Nat := 0x0033
def RDP_COMPRESSION : Nat := 0x0080
def RDP_LOGON_BLOB : Nat := 0x0100
def RDP_LOGON_LEAVE_AUDIO : Nat := 0x2000
def RDP_LOGON_RAIL : Nat := 0x8000

/-- A 16 bit value, if it is there. -/
def checkedUint16Le : In Nat := do
  checkRem 2
  inUint16Le

/-- The loop of `unicode_utf16_in`. -/
def inChars : Nat → In (List Nat)
  | 0 => pure []
  | n + 1 => do
    let c ← checkedUint16Le
    let cs ← inChars n
    return c :: cs

/-- `wcstombs` of the characters up to the first 0, into an array of some size; `none` is -1. -/
abbrev Wcstombs := List Nat → Nat → Option (List UInt8)

variable (wcstombs : Wcstombs)

/-- `unicode_utf16_in`; all the arrays have 255 bytes for characters.  Without characters the array
stays as it is. -/
def unicodeUtf16In (srcBytes : Int) (dst : List UInt8) : In (List UInt8) :=
  if srcBytes = 0 then do
    checkRem 2
    inUint8s 2
    return dst
  else do
    let src ← inChars ((srcBytes + 2).toNat / 2)
    return (wcstombs src 255).getD []

/-- What the flags tell. -/
def ClientInfo.setFlags (info : ClientInfo) (flags : Nat) : ClientInfo :=
  { info with
    soundCode := info.soundCode || decide (flags &&& RDP_LOGON_LEAVE_AUDIO ≠ 0)
    railEnable := info.railEnable || decide (flags &&& RDP_LOGON_RAIL ≠ 0)
    rdpAutologin := info.rdpAutologin || (decide (flags &&& RDP_LOGON_AUTO ≠ 0) && !info.isMce)
    rdpCompression := info.rdpCompression || (decide (flags &&& RDP_COMPRESSION ≠ 0) && info.useBulkComp) }

/-- A length of a text of the packet. -/
def inLength : In Nat := do
  let len ← checkedUint16Le
  if len > 511 then fail else pure len

/-- The password, which is skipped without `RDP_LOGON_AUTO`. -/
def inPassword (info : ClientInfo) (flags lenPassword : Nat) : In ClientInfo :=
  if flags &&& RDP_LOGON_AUTO ≠ 0 then do
    let password ← unicodeUtf16In wcstombs lenPassword info.password
    return { info with password }
  else do
    checkRem (lenPassword + 2)
    inUint8s (lenPassword + 2)
    -- "credentials on cmd line is mandatory"
    if info.requireCredentials then fail else pure info

/-- What follows the texts with `RDP_LOGON_BLOB`. -/
def inBlob (info : ClientInfo) : In ClientInfo := do
  checkRem 4
  inUint8s 2
  let lenIp ← inUint16Le
  let tmpdata ← unicodeUtf16In wcstombs ((lenIp : Int) - 2) []
  checkRem 2
  -- the check is made twice
  let lenDll ← checkedUint16Le
  let _ ← unicodeUtf16In wcstombs ((lenDll : Int) - 2) tmpdata
  checkRem (4 + 62 + 22 + 62 + 26 + 4)
  inUint8s 4
  inUint8s 62
  inUint8s 22
  inUint8s 62
  inUint8s 26
  let rdp5Performanceflags ← inUint32Le
  return { info with rdp5Performanceflags }

/-- `xrdp_sec_process_logon_info`. -/
def xrdpSecProcessLogonInfo (info : ClientInfo) : In ClientInfo := do
  checkRem 8
  inUint8s 4
  let flags ← inUint32Le
  -- "this is the first test that the decrypt is working"
  if flags &&& RDP_LOGON_NORMAL ≠ RDP_LOGON_NORMAL then fail
  else do
    let info := info.setFlags flags
    let lenDomain ← inLength
    let lenUser ← inLength
    let info := if lenUser = 0 then { info with rdpAutologin := false } else info
    let lenPassword ← inLength
    let lenProgram ← inLength
    let lenDirectory ← inLength
    let domain ← unicodeUtf16In wcstombs lenDomain info.domain
    let username ← unicodeUtf16In wcstombs lenUser info.username
    let info ← inPassword wcstombs { info with domain, username } flags lenPassword
    let program ← unicodeUtf16In wcstombs lenProgram info.program
    let directory ← unicodeUtf16In wcstombs lenDirectory info.directory
    let info := { info with program, directory }
    if flags &&& RDP_LOGON_BLOB ≠ 0 then inBlob wcstombs info else pure info

/-! ## Reading inside the packet -/

/-- The position is at most at the end. -/
def Session.Inside (s : Session) : Prop := (s.p : Int) ≤ s.end_

/-- Nothing but the position is another; it is further on, and in the packet. -/
structure ReadsIn (s₀ s : Session) : Prop where
  eq : s = { s₀ with p := s.p }
  le : s₀.p ≤ s.p
  inside : s.Inside

section

variable {α : Type} {n : Nat} {s : Session}

@[simp] theorem wlp_fail {Q : α → Session → Prop} : Wlp (fail : In α) Q s ↔ True :=
  iff_true_intro (wlp_of_none rfl)

theorem checkRem_of_le (h : (s.p + n : Int) ≤ s.end_) : checkRem n s = some ((), s) := if_pos h

theorem checkRem_of_not_le (h : ¬ (s.p + n : Int) ≤ s.end_) : checkRem n s = none := if_neg h

@[simp] theorem wlp_checkRem {Q : Unit → Session → Prop} :
    Wlp (checkRem n) Q s ↔ ((s.p + n : Int) ≤ s.end_ → Q () s) := by
  by_cases hrem : (s.p + n : Int) ≤ s.end_
  · rw [wlp_of_eq (checkRem_of_le hrem)]
    exact (imp_iff_right hrem).symm
  · exact iff_of_true (wlp_of_none (checkRem_of_not_le hrem)) fun h => absurd h hrem

@[simp] theorem wlp_inUint8s {Q : Unit → Session → Prop} :
    Wlp (inUint8s n) Q s ↔ Q () { s with p := s.p + n } := wlp_of_eq rfl

@[simp] theorem wlp_inUint8 {Q : Nat → Session → Prop} :
    Wlp inUint8 Q s ↔ Q (s.byte 0) { s with p := s.p + 1 } := wlp_of_eq rfl

@[simp] theorem wlp_inUint16Le {Q : Nat → Session → Prop} :
    Wlp inUint16Le Q s ↔ Q (s.byte 0 + 256 * s.byte 1) { s with p := s.p + 2 } := wlp_of_eq rfl

@[simp] theorem wlp_inUint32Le {Q : Nat → Session → Prop} :
    Wlp inUint32Le Q s ↔
      Q (s.byte 0 + 256 * s.byte 1 + 65536 * s.byte 2 + 16777216 * s.byte 3)
        { s with p := s.p + 4 } := wlp_of_eq rfl

end

section

variable {s₀ : Session}

/-- Reading on, as far as has been checked. -/
theorem ReadsIn.add {s : Session} (h : ReadsIn s₀ s) {n : Nat} (hrem : (s.p + n : Int) ≤ s.end_) :
    ReadsIn s₀ { s with p := s.p + n } := by
  refine ⟨?_, h.le.trans (Nat.le_add_right s.p n), by simpa [Session.Inside] using hrem⟩
  conv_lhs => rw [h.eq]

theorem fail_reads {α : Type} : Keeps (ReadsIn s₀) (fail : In α) := fun _ _ => wlp_fail.2 trivial

theorem checkedUint16Le_reads : Keeps (ReadsIn s₀) checkedUint16Le := by
  intro s hs
  simp only [checkedUint16Le, wlp_bind, wlp_checkRem, wlp_inUint16Le]
  exact hs.add

/-- What is checked may be skipped. -/
theorem skipped_reads (n : Nat) {α : Type} {rest : In α} (h : Keeps (ReadsIn s₀) rest) :
    Keeps (ReadsIn s₀) (do checkRem n; inUint8s n; rest) := by
  intro s hs
  rw [wlp_bind, wlp_checkRem]
  intro hrem
  rw [wlp_bind, wlp_inUint8s]
  exact h _ (hs.add hrem)

theorem inChars_reads (n : Nat) : Keeps (ReadsIn s₀) (inChars n) := by
  induction n with
  | zero => exact .pure
  | succ n ih => exact .bind checkedUint16Le_reads fun _ => .bind ih fun _ => .pure

theorem unicodeUtf16In_reads (srcBytes : Int) (dst : List UInt8) :
    Keeps (ReadsIn s₀) (unicodeUtf16In wcstombs srcBytes dst) := by
  unfold unicodeUtf16In
  refine .ite (fun _ => skipped_reads 2 .pure) fun _ => ?_
  exact .bind (inChars_reads _) fun _ => .pure

theorem inLength_reads : Keeps (ReadsIn s₀) inLength := by
  unfold inLength
  exact .bind checkedUint16Le_reads fun len => .ite (fun _ => fail_reads) fun _ => .pure

theorem inPassword_reads (info : ClientInfo) (flags lenPassword : Nat) :
    Keeps (ReadsIn s₀) (inPassword wcstombs info flags lenPassword) := by
  unfold inPassword
  refine .ite (fun _ => ?_) fun _ => ?_
  · exact .bind (unicodeUtf16In_reads wcstombs _ _) fun _ => .pure
  · exact skipped_reads _ (.ite (fun _ => fail_reads) fun _ => .pure)

theorem inBlob_reads (info : ClientInfo) : Keeps (ReadsIn s₀) (inBlob wcstombs info) := by
  intro s hs
  unfold inBlob
  simp only [wlp_bind, wlp_checkRem, wlp_inUint8s, wlp_inUint16Le]
  intro hrem
  refine (unicodeUtf16In_reads wcstombs _ _ _ (hs.add hrem)).mono fun tmpdata s₁ hs₁ => ?_
  simp only [wlp_bind, wlp_checkRem]
  intro _
  refine (checkedUint16Le_reads s₁ hs₁).mono fun lenDll s₂ hs₂ => ?_
  rw [wlp_bind]
  refine (unicodeUtf16In_reads wcstombs _ _ s₂ hs₂).mono fun _ s₃ hs₃ => ?_
  simp only [wlp_bind, wlp_checkRem, wlp_inUint8s, wlp_pure, wlp_inUint32Le]
  exact hs₃.add

/-- **The logon packet**: it is read on to a position in the packet, wherever this was before. -/
theorem logonInfo_reads (info : ClientInfo) (s : Session) :
    Wlp (xrdpSecProcessLogonInfo wcstombs info) (fun _ => ReadsIn s) s := by
  unfold xrdpSecProcessLogonInfo
  simp only [wlp_bind, wlp_checkRem, wlp_inUint8s, wlp_inUint32Le]
  intro hrem
  refine Keeps.ite (fun _ => fail_reads) (fun _ => ?_) _ ⟨rfl, ?_, ?_⟩
  · refine .bind inLength_reads fun lenDomain => .bind inLength_reads fun lenUser => ?_
    refine .bind inLength_reads fun lenPassword => .bind inLength_reads fun lenProgram => ?_
    refine .bind inLength_reads fun lenDirectory => ?_
    refine .bind (unicodeUtf16In_reads wcstombs _ _) fun domain => ?_
    refine .bind (unicodeUtf16In_reads wcstombs _ _) fun username => ?_
    refine .bind (inPassword_reads wcstombs _ _ _) fun info => ?_
    refine .bind (unicodeUtf16In_reads wcstombs _ _) fun program => ?_
    refine .bind (unicodeUtf16In_reads wcstombs _ _) fun directory => ?_
    exact .ite (fun _ => inBlob_reads wcstombs _) fun _ => .pure
  · simp only
    omega
  · simp only [Session.Inside]
    omega

end

/-! ## What is not read -/

@[simp] theorem setFlags_isMce (info : ClientInfo) (flags : Nat) :
    (info.setFlags flags).isMce = info.isMce := rfl

theorem inPassword_isMce (info : ClientInfo) (flags lenPassword : Nat) (s : Session) :
    Wlp (inPassword wcstombs info flags lenPassword) (fun info' _ => info'.isMce = info.isMce) s := by
  unfold inPassword
  rw [wlp_ite]
  split
  · exact .bind_any fun _ _ => wlp_pure.2 rfl
  · refine .bind_any fun _ _ => .bind_any fun _ _ => ?_
    rw [wlp_ite]
    split
    · exact wlp_fail.2 trivial
    · exact wlp_pure.2 rfl

theorem inBlob_isMce (info : ClientInfo) (s : Session) :
    Wlp (inBlob wcstombs info) (fun info' _ => info'.isMce = info.isMce) s := by
  unfold inBlob
  refine .bind_any fun _ _ => .bind_any fun _ _ => .bind_any fun _ _ => .bind_any fun _ _ => ?_
  refine .bind_any fun _ _ => .bind_any fun _ _ => .bind_any fun _ _ => .bind_any fun _ _ => ?_
  refine .bind_any fun _ _ => .bind_any fun _ _ => .bind_any fun _ _ => .bind_any fun _ _ => ?_
  exact .bind_any fun _ _ => .bind_any fun _ _ => wlp_pure.2 rfl

/-- The kind of the client is not told by its logon packet. -/
theorem logonInfo_isMce (info : ClientInfo) (s : Session) :
    Wlp (xrdpSecProcessLogonInfo wcstombs info) (fun info' _ => info'.isMce = info.isMce) s := by
  unfold xrdpSecProcessLogonInfo
  refine .bind_any fun _ _ => .bind_any fun _ _ => .bind_any fun flags _ => ?_
  rw [wlp_ite]
  split
  · exact wlp_fail.2 trivial
  refine .bind_any fun _ _ => .bind_any fun lenUser _ => .bind_any fun lenPassword _ => ?_
  refine .bind_any fun _ _ => .bind_any fun _ _ => .bind_any fun domain _ => ?_
  refine .bind_any fun username s₁ => wlp_bind.2 ?_
  refine (inPassword_isMce wcstombs _ flags lenPassword s₁).mono fun info' _ hinfo => ?_
  have hmce : info'.isMce = info.isMce := by
    rw [hinfo]
    split <;> rfl
  refine .bind_any fun program _ => .bind_any fun directory s₂ => ?_
  rw [wlp_ite]
  split
  · exact (inBlob_isMce wcstombs _ s₂).mono fun _ _ h => h.trans hmce
  · exact wlp_pure.2 hmce

end Xrdp.Recv
