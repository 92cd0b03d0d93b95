import Xrdp.Lib.Overlay
import Xrdp.Scp.LoginRoundTrip

/-!
# Messages of SCP version 1

What the functions of `libscp_v1c.c`, `libscp_v1s.c` and their counterparts for management share.

* `OutStream`, `outBytes`, `inBytes` — a stream that is written, and its pointer.
* `recvMessage` — a message comes in.
* `recvMessage_append` — so does one that is whole, and nothing behind it.
* `ScpClientState` — how the functions of a client end.
-/

namespace Xrdp.Scp

open Wire Overlay StateTRules

/-! ## Streams that are written -/

/-- A stream with its pointer. -/
structure OutStream where
  data : List UInt8
  p : Nat

/-- Writing to a stream. -/
abbrev Wr := StateT OutStream Run

/-- `out_uint8` and the others. -/
def outBytes (bytes : List UInt8) : Wr Unit := fun s =>
  if s.p + bytes.length ≤ s.data.length then
    .ok ((), ⟨overlay s.data s.p bytes, s.p + bytes.length⟩)
  else .error .outOfBounds

/-- `in_uint8a` and the others, on a stream that is written. -/
def inBytes (n : Nat) : Wr { bytes : List UInt8 // bytes.length = n } := fun s =>
  if h : s.p + n ≤ s.data.length then
    .ok (⟨(s.data.drop s.p).take n, by rw [List.length_take, List.length_drop]; omega⟩,
      ⟨s.data, s.p + n⟩)
  else .error .outOfBounds

/-- The pointer, as `init_stream`, `s_push_layer` and `s_pop_layer` leave it. -/
def setPointer (p : Nat) : Wr Unit := fun s => .ok ((), { s with p })

/-- `scp_tcp_force_send` of a stream. -/
def sendStream (len : Int) : Wr (List UInt8) := fun s => do
  let sent ← scpTcpForceSend s.data len
  pure (sent, s)

/-- What begins a message. -/
def messageHead (size cmdset cmd : Nat) : List UInt8 :=
  beBytes 4 1 ++ beBytes 4 size ++ beBytes 2 cmdset ++ beBytes 2 cmd

/-- `init_stream`, a message of `size` bytes, and `scp_tcp_force_send` with `len`. -/
def sendMessage (outS : List UInt8) (message : List UInt8) (len : Int) :
    Run (List UInt8 × List UInt8) := do
  let outS ← putBytes outS message
  let sent ← scpTcpForceSend outS len
  pure (sent, outS)

/-! ## Messages that come in -/

/-- Why no message comes in. -/
inductive MessageErr where
  | network
  | version
  | size
  deriving DecidableEq

/-- The version and the size of a message of no less than `least` bytes, and the rest of it, which is
at the start of the stream then.  Some functions do not check the size. -/
def recvMessage (least : Nat) (inS sck : List UInt8) :
    Run (Except MessageErr (List UInt8 × List UInt8)) := do
  match ← scpTcpForceRecv sck inS 8 with
  | none => pure (.error .network)
  | some (inS, sck) => do
    let (version, p) ← inUint32Be inS
    if version ≠ 1 then pure (.error .version)
    else do
      let (size, _) ← inUint32Be p
      if size.toNat < least then pure (.error .size)
      else do
        match ← scpTcpForceRecv sck inS (int (size - 8).toNat) with
        | none => pure (.error .network)
        | some message => pure (.ok message)

/-- `enum SCP_CLIENT_STATES_E`, as far as it is used. -/
inductive ScpClientState where
  | ok
  | networkErr
  | versionErr
  | sequenceErr
  | sizeErr
  | internalErr
  | sessionList
  | listOk
  | resendCredentials
  | connectionDenied
  | pwdChangeReq
  deriving DecidableEq

def MessageErr.clientState : MessageErr → ScpClientState
  | .network => .networkErr
  | .version => .versionErr
  | .size => .sizeErr

/-! ## Messages that are whole -/

@[simp] theorem messageHead_length (size cmdset cmd : Nat) :
    (messageHead size cmdset cmd).length = 12 := by
  simp [messageHead]

theorem inUint16Be_nat {n : Nat} (hn : n < 2 ^ 16) (rest : List UInt8) :
    inUint16Be (beBytes 2 n ++ rest) = .ok (UInt16.ofNat n, rest) := by
  have h := inUint16Be_append rest (UInt16.ofNat n)
  rwa [UInt16.toNat_ofNat_of_lt' hn] at h

theorem inUint32Be_nat {n : Nat} (hn : n < 2 ^ 32) (rest : List UInt8) :
    inUint32Be (beBytes 4 n ++ rest) = .ok (UInt32.ofNat n, rest) := by
  have h := inUint32Be_append rest (UInt32.ofNat n)
  rwa [UInt32.toNat_ofNat_of_lt' hn] at h

/-- **A message that is whole comes in** with what the stream held before behind it. -/
theorem recvMessage_append {least : Nat} {inS body : List UInt8} (rest : List UInt8)
    (hin : 8 ≤ inS.length) (hbody : body.length ≤ inS.length) (hleast : least ≤ body.length + 8)
    (hlt : body.length + 8 < 2 ^ 31) : ∃ stale, stale.length + body.length = inS.length ∧
      recvMessage least inS (beBytes 4 1 ++ (beBytes 4 (body.length + 8) ++ (body ++ rest))) =
        .ok (.ok (body ++ stale, rest)) := by
  obtain ⟨data, hdata⟩ : ∃ data, data =
    beBytes 4 1 ++ (beBytes 4 (body.length + 8) ++ inS.drop 8) := ⟨_, rfl⟩
  have hdataLen : data.length = inS.length := by
    rw [hdata, List.length_append, List.length_append, List.length_drop, beBytes_length,
      beBytes_length]
    omega
  have hfirst : scpTcpForceRecv (beBytes 4 1 ++ (beBytes 4 (body.length + 8) ++ (body ++ rest)))
      inS 8 = .ok (some (data, body ++ rest)) := by
    have hhead : (beBytes 4 1 ++ beBytes 4 (body.length + 8)).length = 8 := by simp
    have h := @scpTcpForceRecv_append _ (body ++ rest) inS 8 hhead hin
    rw [List.append_assoc, List.append_assoc, ← hdata] at h
    exact h
  have hsecond := @scpTcpForceRecv_append body rest data body.length rfl (by omega)
  have hsize : (UInt32.ofNat (body.length + 8)).toNat = body.length + 8 :=
    UInt32.toNat_ofNat_of_lt' (by rw [UInt32.size]; omega)
  have hrest : (UInt32.ofNat (body.length + 8) - 8).toNat = body.length := by
    rw [UInt32.toNat_sub_of_le _ _ (by rw [UInt32.le_iff_toNat_le, hsize]; exact Nat.le_add_left 8 _),
      hsize]
    exact Nat.add_sub_cancel ..
  refine ⟨data.drop body.length, ?_, ?_⟩
  · rw [List.length_drop]
    omega
  · rw [recvMessage, hfirst, Run.ok_bind]
    dsimp only
    conv => lhs; rw [hdata]
    rw [inUint32Be_nat (by decide), Run.ok_bind]
    dsimp only
    rw [if_neg (by decide), inUint32Be_nat (by omega), Run.ok_bind]
    dsimp only
    rw [if_neg (by rw [hsize]; omega), hrest, int_of_small (by omega), ← hdata, hsecond, Run.ok_bind]
    rfl

end Xrdp.Scp
