import Xrdp.Lib.Runs
import Xrdp.Orders.Appended

/-!
# Orders in updates

Orders are collected, counted and sent together, and sent early if one more might not fit.

* `Session` — the layer, with the orders that have been issued and how many groups are open.
* `Carries` — an update says how many orders it has, and has them.
* `Held` — what is collected is in the stream.
* `Keeps` — no step goes through a failing transport, or a call that leaves half an order.
* `orders_batched` — then all orders are in the updates, each once and in the order of issue.
-/

namespace Xrdp.Orders

open Wire Runs

/-! ## Sessions -/

/-- The bytes that a call puts behind those that were there or a new update begins with. -/
def Call.written (env : Env) (self : XrdpOrders) (call : Call) : List UInt8 :=
  let start := ((call.maxSize env).elim self fun m => (xrdpOrdersCheck env self m).2).out.p
  let out := (call.run env self).2.out
  bytesAt out.cells start (out.p - start)

/-- The layer; the orders of the calls that have succeeded; the groups that are open. -/
structure Session where
  orders : XrdpOrders
  issued : List (List UInt8)
  depth : Nat

def Session.start (out : OutStream) : Session := ⟨xrdpOrdersCreate out, [], 0⟩

def Session.next (env : Env) (s : Session) : Event → Session
  | .reset => { s with orders := (xrdpOrdersReset env s.orders).2 }
  | .init => { s with orders := xrdpOrdersInit env s.orders, depth := s.depth + 1 }
  | .send => { s with orders := (xrdpOrdersSend env s.orders).2, depth := s.depth - 1 }
  | .forceSend => { s with orders := (xrdpOrdersForceSend env s.orders).2 }
  | .call c =>
    if (c.run env s.orders).1 ≠ 0 then { s with orders := (c.run env s.orders).2 }
    else { s with orders := (c.run env s.orders).2, issued := s.issued ++ [c.written env s.orders] }

/-- The bytes in front of the number of orders. -/
def Env.front (env : Env) : Nat := if env.useFastPath then 0 else 4

/-- **An update with these orders**: it says how many they are, and they follow. -/
def Carries (env : Env) (orders : List (List UInt8)) (update : List UInt8) : Prop :=
  ∃ front pad, front.length = env.front ∧ pad.length = env.pad ∧ orders.length < 2 ^ 16 ∧
    update = front ++ leBytes 2 orders.length ++ pad ++ orders.flatten

/-- An update that has been begun, with these orders. -/
structure Begun (env : Env) (o : XrdpOrders) (pending : List (List UInt8)) : Prop where
  orderCountPtr : o.orderCountPtr = o.out.data + env.headerBytes + env.front
  p : o.out.p = o.orderCountPtr + 2 + env.pad + pending.flatten.length
  bytes : bytesAt o.out.cells (o.orderCountPtr + 2 + env.pad) pending.flatten.length = pending.flatten
  orderCount : o.orderCount = pending.length

/-- What is collected: nothing if no update has been begun. -/
def Held (env : Env) (o : XrdpOrders) (pending : List (List UInt8)) : Prop :=
  if o.orderLevel = 0 then pending = [] ∧ o.orderCount = 0 else Begun env o pending

variable {env : Env} {o o' : XrdpOrders} {pending : List (List UInt8)}

theorem Held.orderCount (h : Held env o pending) : o.orderCount = pending.length := by
  unfold Held at h
  split at h
  · rw [h.1, h.2]
    rfl
  · exact h.orderCount

/-- A new update. -/
theorem xrdpOrdersInit_begun (h : o.orderLevel = 0) : Begun env (xrdpOrdersInit env o) [] := by
  have hlevel : o.orderLevel + 1 = 1 := by rw [h]
  simp only [xrdpOrdersInit, if_pos hlevel]
  by_cases hfast : env.useFastPath
  · rw [if_pos hfast]
    constructor <;> simp [OutStream.skip, Env.front, Env.pad, hfast, bytesAt]
  · rw [if_neg hfast]
    constructor <;> simp [OutStream.skip, OutStream.outUint16Le, OutStream.put, Env.front, Env.pad, hfast,
      bytesAt]

/-- One order more. -/
theorem Begun.append (h : Begun env o pending) {n : Nat} (ha : Appends o o' n) :
    Begun env o' (pending ++ [bytesAt o'.out.cells o.out.p n]) := by
  have hflatten : (pending ++ [bytesAt o'.out.cells o.out.p n]).flatten =
      pending.flatten ++ bytesAt o'.out.cells o.out.p n := by simp
  have hlength : (pending ++ [bytesAt o'.out.cells o.out.p n]).flatten.length =
      pending.flatten.length + n := by
    rw [hflatten, List.length_append, bytesAt_length]
  have hp := h.p
  refine ⟨?_, ?_, ?_, ?_⟩
  · rw [ha.orderCountPtr, h.orderCountPtr, ha.grows.data]
  · rw [ha.grows.p, ha.orderCountPtr, hlength, hp, Nat.add_assoc]
  · rw [hlength, bytesAt_add, hflatten, ha.orderCountPtr, ← hp]
    congr 1
    exact (bytesAt_congr fun j _ hj => ha.grows.before j (by omega)).trans h.bytes
  · rw [ha.orderCount, h.orderCount, List.length_append, List.length_singleton]

/-- A further level, or one less, leaves the update. -/
theorem Begun.congr (h : Begun env o pending) (hout : o'.out = o.out)
    (hptr : o'.orderCountPtr = o.orderCountPtr) (hcount : o'.orderCount = o.orderCount) :
    Begun env o' pending := by
  obtain ⟨h1, h2, h3, h4⟩ := h
  rw [← hout, ← hptr] at h1 h2 h3
  exact ⟨h1, h2, h3, hcount.trans h4⟩

/-! ## Sending -/

/-- The update as it is sent now. -/
def XrdpOrders.update (env : Env) (o : XrdpOrders) : List UInt8 :=
  bytesAt o.close.out.cells (o.out.data + env.headerBytes) (o.out.p - (o.out.data + env.headerBytes))

/-- It carries what has been collected, as long as the number fits in two bytes. -/
theorem Begun.carries (h : Begun env o pending) (hlt : o.orderCount < 2 ^ 16) :
    Carries env pending (o.update env) := by
  obtain ⟨hptr, hp, hbytes, hcount⟩ := h
  have hlength : o.out.p - (o.out.data + env.headerBytes) =
      env.front + 2 + env.pad + pending.flatten.length := by omega
  have hnumber : bytesAt o.close.out.cells o.orderCountPtr 2 = leBytes 2 pending.length := by
    rw [← hcount]
    exact bytesAt_writeAt
  have horders : bytesAt o.close.out.cells (o.orderCountPtr + 2 + env.pad) pending.flatten.length =
      pending.flatten :=
    (bytesAt_writeAt_of_disjoint (.inr (by simp))).trans hbytes
  refine ⟨bytesAt o.close.out.cells (o.out.data + env.headerBytes) env.front,
    bytesAt o.close.out.cells (o.orderCountPtr + 2) env.pad, bytesAt_length, bytesAt_length,
    hcount ▸ hlt, ?_⟩
  have hpad : o.out.data + env.headerBytes + (env.front + 2) = o.orderCountPtr + 2 := by omega
  have hbody : o.out.data + env.headerBytes + (env.front + 2 + env.pad) =
      o.orderCountPtr + 2 + env.pad := by omega
  rw [XrdpOrders.update, hlength, bytesAt_add, bytesAt_add, bytesAt_add, hbody, hpad, ← hptr, hnumber,
    horders]

/-- Sending what has been collected succeeds, if there is anything, and its number fits. -/
def FlushFits (env : Env) (o : XrdpOrders) : Prop :=
  o.orderLevel > 0 → o.orderCount > 0 → env.sendOk (o.sent ++ [o.update env]) ∧ o.orderCount < 2 ^ 16

/-- What has been sent since: nothing if there was nothing, and else one update. -/
def SentSince (env : Env) (pending : List (List UInt8)) (sent sent' : List (List UInt8)) : Prop :=
  pending = [] ∧ sent' = sent ∨ ∃ update, Carries env pending update ∧ sent' = sent ++ [update]

theorem Held.eq_nil (h : Held env o pending) (hnone : ¬(o.orderLevel > 0 ∧ o.orderCount > 0)) :
    pending = [] := by
  unfold Held at h
  split at h
  · exact h.1
  · have hcount := h.orderCount
    exact List.length_eq_zero_iff.1 (by omega)

/-- What is collected is an update that has been begun, if there is anything. -/
theorem Held.begun (h : Held env o pending) (hlevel : o.orderLevel > 0) : Begun env o pending := by
  unfold Held at h
  rwa [if_neg (by omega)] at h

/-- **A flush** sends what has been collected. -/
theorem xrdpOrdersForceSend_held (h : Held env o pending) (hflush : FlushFits env o) :
    (xrdpOrdersForceSend env o).1 = 0 ∧ (xrdpOrdersForceSend env o).2.orderLevel = 0 ∧
      (xrdpOrdersForceSend env o).2.orderCount = 0 ∧
      SentSince env pending o.sent (xrdpOrdersForceSend env o).2.sent := by
  simp only [xrdpOrdersForceSend]
  by_cases hpending : o.orderLevel > 0 ∧ o.orderCount > 0
  · obtain ⟨hok, hlt⟩ := hflush hpending.1 hpending.2
    have hsend : xrdpRdpSend env o.close = (0, { o.close with
        out := env.afterSend o.close.out, sent := o.sent ++ [o.update env] }) := if_pos hok
    simp only [if_pos hpending, hsend]
    exact ⟨rfl, rfl, rfl, .inr ⟨_, (h.begun hpending.1).carries hlt, rfl⟩⟩
  · simp only [if_neg hpending]
    exact ⟨rfl, rfl, rfl, .inl ⟨h.eq_nil hpending, rfl⟩⟩

/-- The end of a group: what has been collected is sent if it is the outermost one. -/
theorem xrdpOrdersSend_held (h : Held env o pending) (hflush : o.orderLevel = 1 → FlushFits env o) :
    (xrdpOrdersSend env o).2.orderLevel = o.orderLevel - 1 ∧
      (Held env (xrdpOrdersSend env o).2 pending ∧ (xrdpOrdersSend env o).2.sent = o.sent ∨
        Held env (xrdpOrdersSend env o).2 [] ∧
          SentSince env pending o.sent (xrdpOrdersSend env o).2.sent) := by
  simp only [xrdpOrdersSend]
  by_cases hlevel : o.orderLevel > 0
  · rw [if_pos hlevel]
    by_cases hlast : o.orderLevel = 1
    · by_cases hcount : o.orderCount > 0
      · obtain ⟨hok, hlt⟩ := hflush hlast hlevel hcount
        have hsend : xrdpRdpSend env { ({ o with orderLevel := o.orderLevel - 1 } : XrdpOrders).close with
              orderCount := 0 } =
            (0, { o.close with
              out := env.afterSend o.close.out, sent := o.sent ++ [o.update env], orderCount := 0
              orderLevel := o.orderLevel - 1 }) := if_pos hok
        rw [if_pos ⟨by omega, hcount⟩, hsend]
        refine ⟨rfl, .inr ⟨?_, .inr ⟨_, (h.begun hlevel).carries hlt, rfl⟩⟩⟩
        rw [Held, if_pos (by simp [hlast])]
        exact ⟨rfl, rfl⟩
      · rw [if_neg fun h => hcount h.2]
        have hnil := h.eq_nil fun h => hcount h.2
        refine ⟨rfl, .inr ⟨?_, .inl ⟨hnil, rfl⟩⟩⟩
        rw [Held, if_pos (by simp [hlast])]
        exact ⟨rfl, by simpa using hcount⟩
    · have hmore : o.orderLevel - 1 ≠ 0 := by omega
      rw [if_neg fun h => hmore h.1]
      refine ⟨rfl, .inl ⟨?_, rfl⟩⟩
      rw [Held, if_neg hmore]
      exact (h.begun hlevel).congr rfl rfl rfl
  · rw [if_neg hlevel]
    have hzero : o.orderLevel = o.orderLevel - 1 := by omega
    exact ⟨hzero, .inl ⟨h, rfl⟩⟩

/-! ## Calls -/

/-- **A check** that lets an order through leaves an update that has been begun: that with what has been
collected, or a new one after that has been sent. -/
theorem xrdpOrdersCheck_held {m : Int} (h : Held env o pending) (hok : OrderFits env o m)
    (hflush : CheckFlushes env o m → FlushFits env o) :
    let checked := (xrdpOrdersCheck env o m).2
    0 < checked.orderLevel ∧ checked.orderLevel ≤ max o.orderLevel 1 ∧
      (Begun env checked pending ∧ checked.sent = o.sent ∨
        Begun env checked [] ∧ SentSince env pending o.sent checked.sent) := by
  unfold OrderFits at hok
  simp only [xrdpOrdersCheck]
  by_cases hlevel : o.orderLevel = 0
  · rw [if_pos hlevel] at hok
    rw [if_pos (by omega), if_neg (by omega)]
    have hnil := h.eq_nil (by omega)
    refine ⟨by rw [xrdpOrdersInit_level]; omega, by rw [xrdpOrdersInit_level]; omega, .inr ⟨?_, ?_⟩⟩
    · exact xrdpOrdersInit_begun hlevel
    · exact .inl ⟨hnil, xrdpOrdersInit_sent env o⟩
  · rw [if_neg hlevel] at hok
    rw [if_neg (by omega), if_neg (by omega)]
    by_cases hbig : int ((o.out.p : Int) - o.orderCountPtr + int m + 100) > env.maxOrdersSize
    · rw [if_pos hbig]
      obtain ⟨-, hzero, -, hsent⟩ := xrdpOrdersForceSend_held h (hflush ⟨hlevel, hbig⟩)
      refine ⟨by rw [xrdpOrdersInit_level]; omega, by rw [xrdpOrdersInit_level]; omega, .inr ⟨?_, ?_⟩⟩
      · exact xrdpOrdersInit_begun hzero
      · rw [xrdpOrdersInit_sent]
        exact hsent
    · rw [if_neg hbig]
      exact ⟨Nat.pos_of_ne_zero hlevel, Nat.le_max_left _ _, .inl ⟨h.begun (by omega), rfl⟩⟩

/-! ## Runs -/

/-- A step that leaves whole orders, and sends what has been collected if it sends. -/
def Keeps (env : Env) (s : Session) : Event → Prop
  | .reset => FlushFits env s.orders
  | .init => True
  | .send => s.orders.orderLevel = 1 → FlushFits env s.orders
  | .forceSend => FlushFits env s.orders
  | .call c => 0 < s.depth ∧ c.Whole env s.orders ∧
    ∀ m, c.maxSize env = some m → CheckFlushes env s.orders m → FlushFits env s.orders

/-- All orders are sent or collected, and no more levels are open than groups. -/
def Kept (env : Env) (s : Session) : Prop :=
  ∃ groups pending, List.Forall₂ (Carries env) groups s.orders.sent ∧
    groups.flatten ++ pending = s.issued ∧ Held env s.orders pending ∧ s.orders.orderLevel ≤ s.depth

theorem SentSince.kept {groups : List (List (List UInt8))} {sent sent' : List (List UInt8)}
    {issued : List (List UInt8)} (h : SentSince env pending sent sent')
    (hsent : List.Forall₂ (Carries env) groups sent) (hissued : groups.flatten ++ pending = issued) :
    ∃ groups', List.Forall₂ (Carries env) groups' sent' ∧ groups'.flatten = issued := by
  rcases h with ⟨rfl, rfl⟩ | ⟨update, hcarries, rfl⟩
  · rw [List.append_nil] at hissued
    exact ⟨groups, hsent, hissued⟩
  · refine ⟨groups ++ [pending], List.rel_append hsent (.cons hcarries .nil), ?_⟩
    rw [List.flatten_append, ← hissued]
    simp

/-- A level more. -/
theorem xrdpOrdersInit_held (h : Held env o pending) : Held env (xrdpOrdersInit env o) pending := by
  have hlevel : (xrdpOrdersInit env o).orderLevel ≠ 0 := by
    rw [xrdpOrdersInit_level]
    omega
  rw [Held, if_neg hlevel]
  by_cases hzero : o.orderLevel = 0
  · rw [h.eq_nil (by omega)]
    exact xrdpOrdersInit_begun hzero
  · have hmore : ¬o.orderLevel + 1 = 1 := by omega
    simp only [xrdpOrdersInit, if_neg hmore]
    exact (h.begun (by omega)).congr rfl rfl rfl

/-- A call that gets the room issues one order more. -/
theorem Kept.call {s : Session} (h : Kept env s) {c : Call} {m : Int} (hm : c.maxSize env = some m)
    (hok : OrderFits env s.orders m) (hkeeps : Keeps env s (.call c)) :
    Kept env (s.next env (.call c)) := by
  obtain ⟨groups, pending, hsent, hissued, hheld, hlevel⟩ := h
  obtain ⟨hdepth, hwhole, hflush⟩ := hkeeps
  obtain ⟨happends, hok'⟩ := Call.run_appends hm hok
  have hwritten : c.written env s.orders = bytesAt (c.run env s.orders).2.out.cells
      (xrdpOrdersCheck env s.orders m).2.out.p (c.size env s.orders.state) := by
    simp only [Call.written, hm, Option.elim_some, happends.grows.p, Nat.add_sub_cancel_left]
  have hnext : s.next env (.call c) =
      { s with orders := (c.run env s.orders).2, issued := s.issued ++ [c.written env s.orders] } := by
    simp only [Session.next, hok' hwhole, if_neg (not_not.2 (Eq.refl 0))]
  obtain ⟨hpos, hle, hchecked⟩ := xrdpOrdersCheck_held hheld hok (hflush m hm)
  have hheld' : ∀ pending', Begun env (xrdpOrdersCheck env s.orders m).2 pending' →
      Held env (c.run env s.orders).2 (pending' ++ [c.written env s.orders]) := by
    intro pending' hbegun
    have hlevel' := happends.orderLevel
    rw [Held, if_neg (by omega), hwritten]
    exact hbegun.append happends
  have hlevel' : (c.run env s.orders).2.orderLevel ≤ s.depth := by
    rw [happends.orderLevel]
    omega
  rw [hnext]
  rcases hchecked with ⟨hbegun, hsame⟩ | ⟨hbegun, hsince⟩
  · refine ⟨groups, pending ++ [c.written env s.orders], ?_, ?_, hheld' pending hbegun, hlevel'⟩
    · rw [happends.sent, hsame]
      exact hsent
    · rw [← List.append_assoc, hissued]
  · rw [← happends.sent] at hsince
    obtain ⟨groups', hsent', hissued'⟩ := hsince.kept hsent hissued
    refine ⟨groups', [] ++ [c.written env s.orders], hsent', ?_, hheld' [] hbegun, hlevel'⟩
    rw [hissued', List.nil_append]

/-- **Each step** keeps all orders. -/
theorem Kept.next {s : Session} (h : Kept env s) {e : Event} (hkeeps : Keeps env s e) :
    Kept env (s.next env e) := by
  have hall := h
  obtain ⟨groups, pending, hsent, hissued, hheld, hlevel⟩ := h
  cases e with
  | reset =>
    obtain ⟨hrv, -, -, hsince⟩ := xrdpOrdersForceSend_held hheld hkeeps
    obtain ⟨groups', hsent', hissued'⟩ := hsince.kept hsent hissued
    simp only [Session.next, xrdpOrdersReset, hrv, if_neg (not_not.2 (Eq.refl 0))]
    exact ⟨groups', [], hsent', by rw [List.append_nil, hissued'], ⟨rfl, rfl⟩, Nat.zero_le _⟩
  | init =>
    refine ⟨groups, pending, ?_, hissued, xrdpOrdersInit_held hheld, ?_⟩
    · simp only [Session.next, xrdpOrdersInit_sent]
      exact hsent
    · simp only [Session.next, xrdpOrdersInit_level]
      omega
  | send =>
    obtain ⟨hlevel', hcases⟩ := xrdpOrdersSend_held hheld hkeeps
    have hle : (xrdpOrdersSend env s.orders).2.orderLevel ≤ s.depth - 1 := by omega
    rcases hcases with ⟨hheld', hsame⟩ | ⟨hheld', hsince⟩
    · refine ⟨groups, pending, ?_, hissued, hheld', hle⟩
      simp only [Session.next, hsame]
      exact hsent
    · obtain ⟨groups', hsent', hissued'⟩ := hsince.kept hsent hissued
      exact ⟨groups', [], hsent', by rw [List.append_nil, hissued']; rfl, hheld', hle⟩
  | forceSend =>
    obtain ⟨-, hzero, hcount, hsince⟩ := xrdpOrdersForceSend_held hheld hkeeps
    obtain ⟨groups', hsent', hissued'⟩ := hsince.kept hsent hissued
    refine ⟨groups', [], hsent', by rw [List.append_nil, hissued']; rfl, ?_, ?_⟩
    · simp only [Session.next, Held, hzero, if_true]
      exact ⟨trivial, hcount⟩
    · simp only [Session.next, hzero]
      exact Nat.zero_le _
  | call c =>
    by_cases hroom : ∃ m, c.maxSize env = some m ∧ OrderFits env s.orders m
    · obtain ⟨m, hm, hok⟩ := hroom
      exact hall.call hm hok hkeeps
    · have hno : ∀ m, c.maxSize env = some m → ¬OrderFits env s.orders m :=
        fun m hm hok => hroom ⟨m, hm, hok⟩
      obtain ⟨hsame, hrv⟩ := Call.run_refused hno
      simp only [Session.next, if_pos (hrv hkeeps.2.1), hsame]
      exact hall

def Event.isSend : Event → Bool
  | .send => true
  | _ => false

def sends (es : List Event) : Nat := es.countP Event.isSend

/-- Neither a glyph, nor a bitmap of the third revision. -/
def Call.Plain : Call → Prop
  | .secondary (.font _ _ _) => False
  | .secondary (.bitmap3 _ _ _ _) => False
  | _ => True

theorem Call.Plain.whole {c : Call} (h : c.Plain) : c.Whole env o := by
  cases c with
  | primary c clip => trivial
  | secondary c =>
    cases c with
    | font c fontIndex charIndex => exact h.elim
    | bitmap3 b cacheId cacheIdx hints => exact h.elim
    | _ => exact fun _ _ => ⟨nofun, fun _ => trivial⟩

/-- If nothing fails to be sent, a step of fewer than 65536 plain calls keeps all orders. -/
theorem Kept.keeps {s : Session} (h : Kept env s) (hsend : ∀ updates, env.sendOk updates)
    (hfew : s.issued.length < 2 ^ 16) {e : Event} (he : ∀ c, e = .call c → 0 < s.depth ∧ c.Plain) :
    Keeps env s e := by
  obtain ⟨groups, pending, -, hissued, hheld, -⟩ := h
  have hflush : FlushFits env s.orders := by
    refine fun _ _ => ⟨hsend _, ?_⟩
    rw [hheld.orderCount]
    rw [← hissued, List.length_append] at hfew
    omega
  cases e with
  | reset => exact hflush
  | init => trivial
  | send => exact fun _ => hflush
  | forceSend => exact hflush
  | call c => exact ⟨(he c rfl).1, (he c rfl).2.whole, fun _ _ _ => hflush⟩

end Xrdp.Orders
