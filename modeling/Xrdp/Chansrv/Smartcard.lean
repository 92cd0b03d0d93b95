import Xrdp.Lib.Tables
import Xrdp.Lib.Wire

/-!
# Smart cards

`sesman/chansrv/smartcard_pcsc.c` stands in for the daemon that programs with smart cards talk to: a
request of a program is sent on to the client, and what the client answers is handed to the program.
Contexts and cards of the client get handles of their own, which are looked up in the tables of the
program's connection.

* `Pcsc` — the connections with their tables, and the requests that the client has not answered.
* `pcscStep` — a connection opens, sends a request or closes, or the client answers.
-/

namespace Xrdp.Chansrv.Smartcard

open Tables Wire

/-! ## State -/

/-- `struct pcsc_card`. -/
structure PcscCard where
  appCard : Nat
  card : List UInt8
  deriving DecidableEq, Repr

/-- `struct pcsc_context`. -/
structure PcscContext where
  appContext : Nat
  context : List UInt8
  cards : List PcscCard
  deriving DecidableEq, Repr

/-- `struct pcsc_uds_client`.  `connect_context` is the handle of the context that it points to, which
no other context gets. -/
structure UdsClient where
  udsClientId : Nat
  contexts : List PcscContext
  connectContext : Option Nat
  deriving DecidableEq, Repr

/-- The commands that are sent on. -/
inductive Command where
  | establishContext
  | releaseContext
  | listReaders
  | connect
  | disconnect
  | beginTransaction
  | endTransaction
  | transmit
  | control
  | status
  | getStatusChange
  | cancel
  deriving DecidableEq, Repr

/-- `SCARD_ESTABLISH_CONTEXT`, … -/
def Command.code : Command → Nat
  | .establishContext => 0x01
  | .releaseContext => 0x02
  | .listReaders => 0x03
  | .connect => 0x04
  | .disconnect => 0x06
  | .beginTransaction => 0x07
  | .endTransaction => 0x08
  | .transmit => 0x09
  | .control => 0x0A
  | .status => 0x0B
  | .getStatusChange => 0x0C
  | .cancel => 0x0D

/-- A request that has been sent to the client: whose it is and its callback, the context and the card
in it, and the handle that the program has named. -/
structure Irp where
  userData : Nat
  command : Command
  context : List UInt8
  card : List UInt8
  handle : Nat
  deriving DecidableEq, Repr

/-- `g_autoinc`, `g_uds_clients`, and the requests that wait for an answer. -/
structure Pcsc where
  autoinc : Nat
  udsClients : List UdsClient
  irps : List Irp
  deriving DecidableEq, Repr

def Pcsc.start : Pcsc := ⟨0, [], []⟩

/-- Why a step has no result. -/
inductive Fault where
  /-- `g_autoinc` is the greatest `int`. -/
  | overflow
  /-- A context is used that has been freed. -/
  | freed
  | outOfBounds
  deriving DecidableEq, Repr

def INT_MAX : Nat := 2 ^ 31 - 1

/-- An answer of the client: `IoStatus`, `OutputBufferLength`, and what is in the stream behind it, of
which the client has sent `received` bytes. -/
structure Answer where
  status : Nat
  len : Nat
  cells : Nat → UInt8
  received : Nat

/-- `OutputBufferLength` as the callbacks take it, an `int`. -/
def Answer.intLen (a : Answer) : Int := (a.len : Int).bmod (2 ^ 32)

def Answer.bytes (a : Answer) (off n : Nat) : List UInt8 := (List.range n).map fun i => a.cells (off + i)

def Answer.uint32 (a : Answer) (off : Nat) : Nat := leVal (a.bytes off 4)

/-- A message to a program. -/
inductive Message where
  | establishContext (appContext status : Nat)
  | connect (hCard dwActiveProtocol status : Nat)
  /-- The other commands. -/
  | other (command : Command) (status : Nat)
  deriving DecidableEq, Repr

/-! ## Tables -/

/-- `get_uds_client_by_id`. -/
def getUdsClientById (s : Pcsc) (udsClientId : Nat) : Option UdsClient :=
  if udsClientId = 0 then none else find UdsClient.udsClientId udsClientId s.udsClients

/-- `get_pcsc_context_by_app_context`. -/
def getPcscContextByAppContext (u : UdsClient) (appContext : Nat) : Option PcscContext :=
  find PcscContext.appContext appContext u.contexts

/-- `get_pcsc_card_by_app_card`. -/
def getPcscCardByAppCard (u : UdsClient) (appCard : Nat) : Option (PcscContext × PcscCard) :=
  u.contexts.findSome? fun x => (find PcscCard.appCard appCard x.cards).map fun y => (x, y)

/-- `g_autoinc++`. -/
def nextHandle (s : Pcsc) : Except Fault (Nat × Pcsc) :=
  if s.autoinc < INT_MAX then .ok (s.autoinc + 1, { s with autoinc := s.autoinc + 1 })
  else .error .overflow

def setClient (s : Pcsc) (u : UdsClient) : Pcsc :=
  { s with udsClients := put UdsClient.udsClientId u s.udsClients }

/-- `create_uds_client`, and `my_pcsc_trans_conn_in`. -/
def createUdsClient (s : Pcsc) : Except Fault Pcsc := do
  let (udsClientId, s) ← nextHandle s
  return { s with udsClients := s.udsClients ++ [⟨udsClientId, [], none⟩] }

/-! The tables of a connection with a context, without one, and with a card. -/

def UdsClient.addContext (u : UdsClient) (x : PcscContext) : UdsClient :=
  { u with contexts := u.contexts ++ [x] }

def UdsClient.removeContext (u : UdsClient) (appContext : Nat) : UdsClient :=
  { u with contexts := remove PcscContext.appContext appContext u.contexts }

def UdsClient.addCard (u : UdsClient) (x : PcscContext) (y : PcscCard) : UdsClient :=
  { u with contexts := put PcscContext.appContext { x with cards := x.cards ++ [y] } u.contexts }

def UdsClient.setConnectContext (u : UdsClient) (appContext : Nat) : UdsClient :=
  { u with connectContext := some appContext }

/-- `uds_client_add_context`. -/
def udsClientAddContext (s : Pcsc) (u : UdsClient) (context : List UInt8) : Except Fault (Nat × Pcsc) := do
  let (appContext, s) ← nextHandle s
  return (appContext, setClient s (u.addContext ⟨appContext, context, []⟩))

/-- `uds_client_remove_context`. -/
def udsClientRemoveContext (s : Pcsc) (u : UdsClient) (appContext : Nat) : Pcsc :=
  setClient s (u.removeContext appContext)

/-- `context_add_card`; `acontext` is what the context is known by. -/
def contextAddCard (s : Pcsc) (u : UdsClient) (acontext : Option Nat) (card : List UInt8) :
    Except Fault (Nat × Pcsc) := do
  let (appCard, s) ← nextHandle s
  if 16 < card.length then .error .outOfBounds
  else
    match acontext.bind (getPcscContextByAppContext u) with
    | none => .error .freed
    | some x => return (appCard, setClient s (u.addCard x ⟨appCard, card⟩))

/-! ## Requests of programs -/

/-- A request is sent to the client. -/
def sendIrp (s : Pcsc) (irp : Irp) : Pcsc := { s with irps := s.irps ++ [irp] }

/-- `free_uds_client`, and its place in the list. -/
def freeUdsClient (s : Pcsc) (u : UdsClient) : Pcsc :=
  { s with
    udsClients := remove UdsClient.udsClientId u.udsClientId s.udsClients
    irps := s.irps ++ u.contexts.flatMap fun x =>
      [⟨0, .cancel, x.context, [], x.appContext⟩, ⟨0, .releaseContext, x.context, [], x.appContext⟩] }

/-- What a program asks for, with the context or card that it names. -/
inductive Request where
  | establishContext
  | releaseContext (hContext : Nat)
  | listReaders (hContext : Nat)
  | connect (hContext : Nat)
  | disconnect (hCard : Nat)
  | beginTransaction (hCard : Nat)
  | endTransaction (hCard : Nat)
  | transmit (hCard : Nat)
  | control (hCard : Nat)
  | status (hCard : Nat)
  | getStatusChange (hContext : Nat) (cReaders : Int)
  | cancel (hContext : Nat)
  /-- `SCARD_RECONNECT`, `SCARD_CANCEL_TRANSACTION`, `SCARD_GET_ATTRIB`, `SCARD_SET_ATTRIB`. -/
  | ignored
  | unknown
  deriving DecidableEq, Repr

/-- The command that a request is sent on with. -/
def Request.command : Request → Option Command
  | .establishContext => some .establishContext
  | .releaseContext _ => some .releaseContext
  | .listReaders _ => some .listReaders
  | .connect _ => some .connect
  | .disconnect _ => some .disconnect
  | .beginTransaction _ => some .beginTransaction
  | .endTransaction _ => some .endTransaction
  | .transmit _ => some .transmit
  | .control _ => some .control
  | .status _ => some .status
  | .getStatusChange _ _ => some .getStatusChange
  | .cancel _ => some .cancel
  | .ignored => none
  | .unknown => none

/-- A request about a context, or an error. -/
def processOfContext (s : Pcsc) (u : UdsClient) (command : Command) (hContext : Nat) : Option Pcsc :=
  (getPcscContextByAppContext u hContext).map fun x =>
    sendIrp s ⟨u.udsClientId, command, x.context, [], hContext⟩

/-- A request about a card, or an error. -/
def processOfCard (s : Pcsc) (u : UdsClient) (command : Command) (hCard : Nat) : Option Pcsc :=
  (getPcscCardByAppCard u hCard).map fun (x, y) =>
    sendIrp s ⟨u.udsClientId, command, x.context, y.card, hCard⟩

def scardProcessEstablishContext (s : Pcsc) (u : UdsClient) : Option Pcsc :=
  some (sendIrp s ⟨u.udsClientId, .establishContext, [], [], 0⟩)

def scardProcessReleaseContext (s : Pcsc) (u : UdsClient) (hContext : Nat) : Option Pcsc :=
  (processOfContext s u .releaseContext hContext).map fun s => udsClientRemoveContext s u hContext

def scardProcessListReaders (s : Pcsc) (u : UdsClient) (hContext : Nat) : Option Pcsc :=
  processOfContext s u .listReaders hContext

def scardProcessConnect (s : Pcsc) (u : UdsClient) (hContext : Nat) : Option Pcsc :=
  (processOfContext s u .connect hContext).map fun s => setClient s (u.setConnectContext hContext)

def scardProcessDisconnect (s : Pcsc) (u : UdsClient) (hCard : Nat) : Option Pcsc :=
  processOfCard s u .disconnect hCard

def scardProcessBeginTransaction (s : Pcsc) (u : UdsClient) (hCard : Nat) : Option Pcsc :=
  processOfCard s u .beginTransaction hCard

def scardProcessEndTransaction (s : Pcsc) (u : UdsClient) (hCard : Nat) : Option Pcsc :=
  processOfCard s u .endTransaction hCard

def scardProcessTransmit (s : Pcsc) (u : UdsClient) (hCard : Nat) : Option Pcsc :=
  processOfCard s u .transmit hCard

def scardProcessControl (s : Pcsc) (u : UdsClient) (hCard : Nat) : Option Pcsc :=
  processOfCard s u .control hCard

def scardProcessStatus (s : Pcsc) (u : UdsClient) (hCard : Nat) : Option Pcsc :=
  processOfCard s u .status hCard

def scardProcessGetStatusChange (s : Pcsc) (u : UdsClient) (hContext : Nat) (cReaders : Int) :
    Option Pcsc :=
  if cReaders < 0 ∨ cReaders > 16 then none else processOfContext s u .getStatusChange hContext

def scardProcessCancel (s : Pcsc) (u : UdsClient) (hContext : Nat) : Option Pcsc :=
  processOfContext s u .cancel hContext

/-- `scard_process_msg`. -/
def scardProcessMsg (s : Pcsc) (u : UdsClient) : Request → Option Pcsc
  | .establishContext => scardProcessEstablishContext s u
  | .releaseContext hContext => scardProcessReleaseContext s u hContext
  | .listReaders hContext => scardProcessListReaders s u hContext
  | .connect hContext => scardProcessConnect s u hContext
  | .disconnect hCard => scardProcessDisconnect s u hCard
  | .beginTransaction hCard => scardProcessBeginTransaction s u hCard
  | .endTransaction hCard => scardProcessEndTransaction s u hCard
  | .transmit hCard => scardProcessTransmit s u hCard
  | .control hCard => scardProcessControl s u hCard
  | .status hCard => scardProcessStatus s u hCard
  | .getStatusChange hContext cReaders => scardProcessGetStatusChange s u hContext cReaders
  | .cancel hContext => scardProcessCancel s u hContext
  | .ignored => some s
  | .unknown => none

/-! ## Answers of the client -/

def SCARD_E_PROTO_MISMATCH : Nat := 0x8010000F

/-- `scard_function_establish_context_return`: no message if the context is too long. -/
def scardFunctionEstablishContextReturn (s : Pcsc) (u : UdsClient) (a : Answer) :
    Except Fault (Option Message × Pcsc) :=
  if a.status = 0 then
    let contextBytes := a.uint32 28
    -- a length that is negative as an `int` is not greater than 16
    if INT_MAX < contextBytes then .error .outOfBounds
    else if 16 < contextBytes then .ok (none, s)
    else do
      let (appContext, s) ← udsClientAddContext s u (a.bytes 32 contextBytes)
      return (some (.establishContext appContext 0), s)
  else .ok (some (.establishContext 0 a.status), s)

/-- `scard_function_connect_return`. -/
def scardFunctionConnectReturn (s : Pcsc) (u : UdsClient) (a : Answer) :
    Except Fault (Option Message × Pcsc) :=
  if a.status = 0 then
    if 40 < a.intLen then do
      let (hCard, s) ← contextAddCard s u u.connectContext (a.bytes 44 (a.uint32 40))
      return (some (.connect hCard (a.uint32 36) 0), s)
    else .ok (some (.connect 0 (a.uint32 36) SCARD_E_PROTO_MISMATCH), s)
  else .ok (some (.connect 0 0 a.status), s)

/-- `scard_function_disconnect_return`, …: the tables stay as they are. -/
def scardFunctionReturn (s : Pcsc) (u : UdsClient) (a : Answer) :
    Command → Except Fault (Option Message × Pcsc)
  | .establishContext => scardFunctionEstablishContextReturn s u a
  | .connect => scardFunctionConnectReturn s u a
  | command => .ok (some (.other command a.status), s)

/-- What happens. -/
inductive Event where
  | open
  | request (udsClientId : Nat) (r : Request)
  | close (udsClientId : Nat)
  /-- The client answers one of the requests that wait. -/
  | answer (index : Nat) (a : Answer)

/-- What a step comes to: a message to a program, and whether a connection has been closed. -/
structure Outcome where
  message : Option Message
  closed : Bool
  deriving DecidableEq, Repr

def pcscStep (s : Pcsc) : Event → Except Fault (Outcome × Pcsc)
  | .open => do
    let s ← createUdsClient s
    return (⟨none, false⟩, s)
  | .request udsClientId r =>
    match getUdsClientById s udsClientId with
    | none => .ok (⟨none, false⟩, s)
    | some u =>
      match scardProcessMsg s u r with
      | none => .ok (⟨none, true⟩, freeUdsClient s u)
      | some s => .ok (⟨none, false⟩, s)
  | .close udsClientId =>
    match getUdsClientById s udsClientId with
    | none => .ok (⟨none, false⟩, s)
    | some u => .ok (⟨none, true⟩, freeUdsClient s u)
  | .answer index a =>
    match s.irps[index]? with
    | none => .ok (⟨none, false⟩, s)
    | some irp =>
      let s := { s with irps := s.irps.eraseIdx index }
      match getUdsClientById s irp.userData with
      | none => .ok (⟨none, false⟩, s)
      | some u => do
        let (message, s) ← scardFunctionReturn s u a irp.command
        return (⟨message, false⟩, s)

end Xrdp.Chansrv.Smartcard
