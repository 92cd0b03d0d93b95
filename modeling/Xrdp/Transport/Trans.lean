import Mathlib

/-!
# The output queue of a transport

`common/trans.c`: what cannot be sent right away is copied into streams that wait behind each other
in `wait_s`.  The transports of a session share a `source_info`, which counts what waits on behalf
of each source.

* `transSendWaiting`, `transWriteCopyS` — the code, with an `Answer` for each time it turns to the
  socket.
* `World` — the transports of a session, and what they have been asked to write.
-/

namespace Xrdp.Transport

/-- An index into `source`: `XRDP_SOURCE_*`. -/
abbrev Source := Fin 7

def XRDP_SOURCE_NONE : Source := 0
def XRDP_SOURCE_CLIENT : Source := 1

/-- `struct source_info`. -/
structure SourceInfo where
  curSource : Source
  source : Source → Int32

/-- A stream that waits. -/
structure Waiting where
  /-- From `p` to `end`. -/
  bytes : List UInt8
  /-- The counter `source` points to. -/
  source : Option Source
  /-- The current source when it was written. -/
  writtenFor : Source

/-- `TRANS_STATUS_*`. -/
inductive Status where
  | DOWN
  | UP
  deriving DecidableEq

/-- `struct trans`. -/
structure Trans where
  status : Status
  /-- What the socket has accepted. -/
  sck : List UInt8
  /-- `out_s`, from `data` to `end`. -/
  outS : List UInt8
  waitS : List Waiting
  /-- `si` is not null. -/
  si : Bool
  mySource : Source

/-- What happens when the socket is turned to. -/
inductive Answer where
  /-- It cannot be sent to; `is_term` may be asked then. -/
  | cannotSend (term : Bool)
  /-- It accepts up to `n` bytes. -/
  | room (n : Nat)
  | wouldBlock
  | fails

/-- The return value, if the function has returned, and the state then. -/
structure Outcome where
  rv : Option Int
  self : Trans
  si : SourceInfo

/-! ## Sending -/

/-- `source[0] -= sent`. -/
def SourceInfo.sub (si : SourceInfo) (source : Option Source) (sent : Nat) : SourceInfo :=
  match source with
  | none => si
  | some k => { si with source := Function.update si.source k (si.source k - Int32.ofNat sent) }

/-- `source[cur_source] += size`. -/
def SourceInfo.add (si : SourceInfo) (source : Option Source) (size : Nat) : SourceInfo :=
  match source with
  | none => si
  | some k => { si with source := Function.update si.source k (si.source k + Int32.ofNat size) }

/-- The stream without the bytes that have been sent, or the next one. -/
def advance (tempS : Waiting) (sent : Nat) (next : List Waiting) : List Waiting :=
  if tempS.bytes.length ≤ sent then next
  else { tempS with bytes := tempS.bytes.drop sent } :: next

/-- `trans_send_waiting`; it has not returned if there are too few answers. -/
def transSendWaiting (block : Bool) : List Answer → Trans → SourceInfo → Outcome
  | answers, self, si =>
    match self.waitS with
    | [] => ⟨some 0, self, si⟩
    | tempS :: next =>
      match answers with
      | [] => ⟨none, self, si⟩
      | answer :: answers =>
        match answer with
        | .room n =>
          let sent := min n tempS.bytes.length
          if 0 < sent then
            let si := si.sub tempS.source sent
            let self := { self with
              sck := self.sck ++ tempS.bytes.take sent, waitS := advance tempS sent next }
            if block then transSendWaiting block answers self si else ⟨some 0, self, si⟩
          else ⟨some 1, self, si⟩
        | .wouldBlock => if block then transSendWaiting block answers self si else ⟨some 0, self, si⟩
        | .fails => ⟨some 1, self, si⟩
        | .cannotSend term =>
          if block then
            if term then ⟨some 1, self, si⟩ else transSendWaiting block answers self si
          else ⟨some 0, self, si⟩

/-- The counter for what is written now. -/
def Trans.accountTo (self : Trans) (si : SourceInfo) : Option Source :=
  if self.si ∧ si.curSource ≠ XRDP_SOURCE_NONE ∧ si.curSource ≠ self.mySource then
    some si.curSource
  else none

/-- The end of `trans_write_copy_s`: a copy of what is left waits behind the others. -/
def Trans.enqueue (self : Trans) (si : SourceInfo) (outData : List UInt8) : Outcome :=
  if outData.length < 1 then ⟨some 0, self, si⟩
  else
    let source := self.accountTo si
    ⟨some 0, { self with waitS := self.waitS ++ [⟨outData, source, si.curSource⟩] },
      si.add source outData.length⟩

/-- `trans_write_copy_s`, with the answers when what waits and the new data are sent. -/
def transWriteCopyS (self : Trans) (si : SourceInfo) (outS : List UInt8)
    (waiting fresh : Answer) : Outcome :=
  if self.status ≠ .UP then ⟨some 1, self, si⟩
  else
    let r := transSendWaiting false [waiting] self si
    if r.rv ≠ some 0 then ⟨some 1, { r.self with status := .DOWN }, r.si⟩
    else if r.self.waitS.isEmpty then
      match fresh with
      | .cannotSend _ => r.self.enqueue r.si outS
      | .wouldBlock => r.self.enqueue r.si outS
      | .fails => ⟨some 1, r.self, r.si⟩
      | .room n =>
        let sent := min n outS.length
        if 0 < sent then
          { r.self with sck := r.self.sck ++ outS.take sent }.enqueue r.si (outS.drop sent)
        else ⟨some 1, r.self, r.si⟩
    else r.self.enqueue r.si outS

/-- `trans_write_copy`. -/
def transWriteCopy (self : Trans) (si : SourceInfo) (waiting fresh : Answer) : Outcome :=
  transWriteCopyS self si self.outS waiting fresh

/-! ## The transports of a session -/

/-- The transports, and what has been written to them. -/
structure World (ι : Type) where
  si : SourceInfo
  trans : ι → Trans
  /-- The messages of all calls. -/
  asked : ι → List UInt8
  /-- The messages of the calls that have returned 0. -/
  written : ι → List UInt8

/-- What may happen in a session. -/
inductive Event (ι : Type) where
  | curSource (k : Source)
  | outStream (i : ι) (data : List UInt8)
  | sendWaiting (i : ι) (block : Bool) (answers : List Answer)
  | writeCopyS (i : ι) (outS : List UInt8) (waiting fresh : Answer)
  | writeCopy (i : ι) (waiting fresh : Answer)

section

variable {ι : Type} [DecidableEq ι]

/-- A session whose transports have nothing to send. -/
def World.start (curSource : Source) (si : ι → Bool) (mySource : ι → Source) : World ι where
  si := ⟨curSource, fun _ => 0⟩
  trans i := ⟨.UP, [], [], [], si i, mySource i⟩
  asked _ := []
  written _ := []

def World.put (w : World ι) (i : ι) (r : Outcome) : World ι :=
  { w with si := r.si, trans := Function.update w.trans i r.self }

/-- A call has written `outS`, or not. -/
def World.wrote (w : World ι) (i : ι) (outS : List UInt8) (r : Outcome) : World ι :=
  { w.put i r with
    asked := Function.update w.asked i (w.asked i ++ outS)
    written := if r.rv = some 0 then Function.update w.written i (w.written i ++ outS)
      else w.written }

/-- One event. -/
def World.step (w : World ι) : Event ι → World ι
  | .curSource k => { w with si := { w.si with curSource := k } }
  | .outStream i data =>
    { w with trans := Function.update w.trans i { w.trans i with outS := data } }
  | .sendWaiting i block answers => w.put i (transSendWaiting block answers (w.trans i) w.si)
  | .writeCopyS i outS waiting fresh =>
    w.wrote i outS (transWriteCopyS (w.trans i) w.si outS waiting fresh)
  | .writeCopy i waiting fresh =>
    w.wrote i (w.trans i).outS (transWriteCopy (w.trans i) w.si waiting fresh)

/-- A run. -/
def World.run (w : World ι) (es : List (Event ι)) : World ι := es.foldl World.step w

end

/-! ## What waits -/

/-- The bytes that wait. -/
def Trans.queued (self : Trans) : List UInt8 := self.waitS.flatMap (·.bytes)

/-- The number of bytes that wait and were written while `k` was the current source. -/
def Trans.unsent (self : Trans) (k : Source) : Nat :=
  ((self.waitS.filter (·.writtenFor = k)).map (·.bytes.length)).sum

/-- What `k` writes to this transport is counted. -/
def Trans.Counts (self : Trans) (k : Source) : Prop :=
  self.si = true ∧ k ≠ XRDP_SOURCE_NONE ∧ k ≠ self.mySource

instance (self : Trans) (k : Source) : Decidable (self.Counts k) :=
  inferInstanceAs (Decidable (_ ∧ _ ∧ _))

section

variable {ι : Type} [Fintype ι]

/-- The bytes that wait on behalf of `k`, in the transports that share the counters. -/
def World.unsent (w : World ι) (k : Source) : Nat :=
  ∑ i, if (w.trans i).si then (w.trans i).unsent k else 0

/-- Those of them that `k` has written to other transports than its own. -/
def World.unsentElsewhere (w : World ι) (k : Source) : Nat :=
  ∑ i, if (w.trans i).Counts k then (w.trans i).unsent k else 0

end

/-- Partial sends and would-block results only. -/
def Answer.Live : Answer → Prop
  | .cannotSend _ => True
  | .room n => 0 < n
  | .wouldBlock => True
  | .fails => False

def Event.Live {ι : Type} : Event ι → Prop
  | .curSource _ => True
  | .outStream .. => True
  | .sendWaiting _ _ answers => ∀ a ∈ answers, a.Live
  | .writeCopyS _ _ waiting fresh => waiting.Live ∧ fresh.Live
  | .writeCopy _ waiting fresh => waiting.Live ∧ fresh.Live

end Xrdp.Transport
