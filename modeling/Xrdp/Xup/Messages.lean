import Xrdp.Lib.Runs
import Xrdp.Lib.Yields
import Xrdp.Xup.Orders

/-!
# The messages of the X server

`lib_mod_process_message` in `xup/xup.c` reads as many orders as the header of a message says; neither
the end of the message nor the length of an order is looked at.

* `Message`, `libModProcessMessage` — the three types of messages.
* `MessageRight` — what is promised of a message.
* `message_right_iff` — the messages for which it holds.
-/

namespace Xrdp.Xup

open Wire Formats Runs

/-- A message as `lib_data_in` has it: it is as long as its header says. -/
structure Message where
  bytes : List UInt8
  whole : bytes.length = 8 + leVal ((bytes.drop 4).take 4)
  max : leVal ((bytes.drop 4).take 4) ≤ 128 * 1024

/-! ## The loops -/

/-- The length that an order is said to have, what has been read of it, and what there is. -/
structure Length where
  said : Nat
  used : Nat
  room : Nat
  deriving DecidableEq, Repr

/-- The loop over the orders: the module, the calls so far, what is left of the message, what has been
returned, and the lengths that have been taken. -/
structure Walk where
  mod : Mod
  calls : List ServerCall
  rest : List UInt8
  rv : Int
  lengths : List Length
  clientInfoSent : Bool

/-- The type of an order, or a length. -/
def inUint16Le : In Nat := do
  let bs ← takeBytes Stuck.outOfBounds 2
  return leVal bs

def inTypeLen : In (Nat × Nat) := do
  let type ← inUint16Le
  let len ← inUint16Le
  return (type, len)

/-- The walk with what has come of an order. -/
def Walk.handled (w : Walk) (r : Handled) : Walk :=
  { w with mod := r.mod, calls := r.calls, rest := r.rest, rv := r.rv }

/-- A pass of the loop of message type 1; an order with an error is the last one. -/
def orderStep (env : Env) (w : Walk) : Run Walk :=
  if w.rv ≠ 0 then .ok w
  else do
    let (type, s) ← inUint16Le w.rest
    let r ← libModProcessOrders env w.mod w.calls type s
    return w.handled r

/-- `s->p = phold + len`. -/
def Walk.goOn (w : Walk) (phold : List UInt8) (len : Nat) (rest : List UInt8) : Walk :=
  { w with
    rest := phold.drop len
    lengths := w.lengths ++ [⟨len, phold.length - rest.length, phold.length⟩] }

/-- A pass of the loop of message type 2; no type of capability is known. -/
def capStep (w : Walk) : Run Walk := do
  let ((_, len), s) ← inTypeLen w.rest
  return w.goOn w.rest len s

/-- A pass of the loop of message type 3. -/
def lenOrderStep (env : Env) (w : Walk) : Run Walk :=
  if w.rv ≠ 0 then .ok w
  else do
    let ((type, len), s) ← inTypeLen w.rest
    let r ← libModProcessOrders env w.mod w.calls type s
    return if r.rv ≠ 0 then w.handled r else (w.handled r).goOn w.rest len r.rest

/-- The header of a message. -/
def Message.type (m : Message) : Nat := leVal (m.bytes.take 2)

def Message.numOrders (m : Message) : Nat := leVal ((m.bytes.drop 2).take 2)

/-- Behind the header. -/
def Message.start (m : Message) (mod : Mod) : Walk := ⟨mod, [], m.bytes.drop 8, 0, [], false⟩

/-- So many passes of a loop. -/
def loop (step : Walk → Run Walk) (n : Nat) (w : Walk) : Run Walk :=
  (List.range n).foldlM (fun w _ => step w) w

/-- `lib_mod_process_message`. -/
def libModProcessMessage (env : Env) (mod : Mod) (m : Message) : Run Walk :=
  match m.type with
  | 1 => loop (orderStep env) m.numOrders (m.start mod)
  | 2 => do
    let w ← loop capStep m.numOrders (m.start mod)
    return { w with clientInfoSent := true }
  | 3 => loop (lenOrderStep env) m.numOrders (m.start mod)
  | _ => .ok (m.start mod)

/-! ## What is promised -/

/-- The length covers what has been read of the order, and is inside the message. -/
def Length.Right (l : Length) : Prop := l.used ≤ l.said ∧ l.said ≤ l.room

/-- No length has been taken that is not right. -/
def Walk.Right (w : Walk) : Prop := ∀ l ∈ w.lengths, l.Right

/-- The loop ends without a read outside of the message or a copy outside of an array, and no
inconsistent length is passed over. -/
def MessageRight (env : Env) (mod : Mod) (m : Message) : Prop :=
  (libModProcessMessage env mod m).Yields Walk.Right

/-! ## When it holds -/

/-- The bytes of an order are there. -/
def BodyFits (type : Nat) (s : List UInt8) : Prop := ∃ n, bodySize type s = some n ∧ n ≤ s.length

/-- In a message of type 1 each order is whole. -/
def OrderFits (w : Walk) : Prop :=
  w.rv = 0 → 2 ≤ w.rest.length ∧ BodyFits (leVal (w.rest.take 2)) (w.rest.drop 2)

/-- A capability is as long as its header at least, and whole. -/
def CapFits (w : Walk) : Prop :=
  4 ≤ leVal ((w.rest.drop 2).take 2) ∧ leVal ((w.rest.drop 2).take 2) ≤ w.rest.length

/-- An order is not refused by what is called with it. -/
def Accepted (env : Env) (w : Walk) (type : Nat) (s : List UInt8) : Prop :=
  ∀ r, libModProcessOrders env w.mod w.calls type s = .ok r → r.rv = 0

/-- In a message of type 3 each order is whole, and one that is not refused has a length that covers it
and is in the message. -/
def LenOrderFits (env : Env) (w : Walk) : Prop :=
  w.rv = 0 → 4 ≤ w.rest.length ∧
    ∃ n, bodySize (leVal (w.rest.take 2)) (w.rest.drop 4) = some n ∧ n ≤ (w.rest.drop 4).length ∧
      (Accepted env w (leVal (w.rest.take 2)) (w.rest.drop 4) →
        4 + n ≤ leVal ((w.rest.drop 2).take 2) ∧ leVal ((w.rest.drop 2).take 2) ≤ w.rest.length)

/-- A pass of a loop. -/
def Pass (step : Walk → Run Walk) (w : Walk) (_ : Nat) (w' : Walk) : Prop := step w = .ok w'

/-- The passes of a loop each meet their condition, in the state before them. -/
def LoopFits (step : Walk → Run Walk) (fits : Walk → Prop) (n : Nat) (w : Walk) : Prop :=
  AllFit (Pass step) (fun w _ => fits w) w (List.range n)

/-- The condition on a message. -/
def MessageFits (env : Env) (mod : Mod) (m : Message) : Prop :=
  match m.type with
  | 1 => LoopFits (orderStep env) OrderFits m.numOrders (m.start mod)
  | 2 => LoopFits capStep CapFits m.numOrders (m.start mod)
  | 3 => LoopFits (lenOrderStep env) (LenOrderFits env) m.numOrders (m.start mod)
  | _ => True

/-! ## Headers -/

theorem inUint16Le_takes (s : List UInt8) : TakesAt inUint16Le s (some 2) := (takeBytes_takes 2).map

theorem inUint16Le_eq {s : List UInt8} (h : 2 ≤ s.length) :
    inUint16Le s = .ok (leVal (s.take 2), s.drop 2) := by
  have htake : takeBytes Stuck.outOfBounds 2 s = .ok (s.take 2, s.drop 2) := if_pos h
  exact bind_ok htake

theorem inUint16Le_short {s : List UInt8} (h : ¬ 2 ≤ s.length) (r : Nat × List UInt8) :
    inUint16Le s ≠ .ok r := by
  intro hr
  obtain ⟨n, hn, hle⟩ := (inUint16Le_takes s).of_ok r.1 r.2 hr
  cases hn
  exact h hle

theorem inTypeLen_eq {s : List UInt8} (h : 4 ≤ s.length) :
    inTypeLen s = .ok ((leVal (s.take 2), leVal ((s.drop 2).take 2)), s.drop 4) := by
  have hsecond : inUint16Le (s.drop 2) = .ok (leVal ((s.drop 2).take 2), s.drop 4) := by
    rw [inUint16Le_eq (by rw [List.length_drop]; omega), List.drop_drop]
  unfold inTypeLen
  rw [bind_ok (inUint16Le_eq (by omega)), bind_ok hsecond]
  rfl

theorem inTypeLen_short {s : List UInt8} (h : ¬ 4 ≤ s.length) (r : (Nat × Nat) × List UInt8) :
    inTypeLen s ≠ .ok r := by
  intro hr
  have htakes : TakesAt inTypeLen s (some (2 + 2)) :=
    TakesAt.bind (k := some 2) (inUint16Le_takes s) fun _ _ => (inUint16Le_takes (s.drop 2)).map
  obtain ⟨n, hn, hle⟩ := htakes.of_ok r.1 r.2 hr
  cases hn
  exact h hle

/-! ## Passes -/

/-- What comes of an order: it takes its bytes, or it has no result. -/
theorem libModProcessOrders_cases (env : Env) (mod : Mod) (calls : List ServerCall) (type : Nat)
    (s : List UInt8) :
    (∃ n r, bodySize type s = some n ∧ n ≤ s.length ∧
      libModProcessOrders env mod calls type s = .ok r ∧ r.rest = s.drop n) ∨
    (¬ BodyFits type s ∧ ∃ e, libModProcessOrders env mod calls type s = .error e) := by
  have htakes := readOrder_takes type s
  cases hread : readOrder type s with
  | error e =>
    refine .inr ⟨?_, e, by rw [libModProcessOrders, hread]; rfl⟩
    rintro ⟨n, hn, hle⟩
    obtain ⟨a, ha⟩ := htakes.ok n hn hle
    rw [hread] at ha
    cases ha
  | ok r =>
    obtain ⟨call, rest⟩ := r
    obtain ⟨n, hn, hle⟩ := htakes.of_ok call rest hread
    have hrest : rest = s.drop n := ((hn ▸ htakes : TakesAt _ _ (some n)).eq_drop hread).2
    cases call with
    | none => exact .inl ⟨n, ⟨0, mod, calls, rest⟩, hn, hle, by rw [libModProcessOrders, hread]; rfl, hrest⟩
    | some call =>
      exact .inl ⟨n, ⟨(mod.perform env calls call).1, (mod.perform env calls call).2, calls ++ [call], rest⟩,
        hn, hle, by rw [libModProcessOrders, hread]; rfl, hrest⟩

theorem handled_right {w : Walk} {r : Handled} : (w.handled r).Right ↔ w.Right := Iff.rfl

theorem goOn_right {w : Walk} {phold rest : List UInt8} {len : Nat} :
    (w.goOn phold len rest).Right ↔ w.Right ∧ phold.length - rest.length ≤ len ∧ len ≤ phold.length := by
  unfold Walk.Right Walk.goOn Length.Right
  rw [List.forall_mem_append, List.forall_mem_singleton]

theorem orderStep_iff (env : Env) {w : Walk} (h : w.Right) :
    (orderStep env w).Yields Walk.Right ↔ OrderFits w := by
  unfold orderStep OrderFits
  by_cases hrv : w.rv = 0
  · rw [if_neg (not_not_intro hrv), imp_iff_right hrv]
    by_cases hheader : 2 ≤ w.rest.length
    · rw [inUint16Le_eq hheader, and_iff_right hheader]
      simp only [Run.ok_bind]
      rcases libModProcessOrders_cases env w.mod w.calls (leVal (w.rest.take 2)) (w.rest.drop 2) with
        ⟨n, r, hn, hle, hr, -⟩ | ⟨hnot, e, he⟩
      · rw [hr]
        exact iff_of_true (Except.yields_ok.2 h) ⟨n, hn, hle⟩
      · rw [he]
        exact iff_of_false (fun h => Except.yields_error.1 h) hnot
    · refine iff_of_false ?_ fun h => hheader h.1
      rintro ⟨w', hw', -⟩
      obtain ⟨r, hr, -⟩ := Run.bind_eq_ok.1 hw'
      exact inUint16Le_short hheader r hr
  · rw [if_pos hrv]
    exact iff_of_true (Except.yields_ok.2 h) fun h0 => absurd h0 hrv

theorem capStep_iff {w : Walk} (h : w.Right) : (capStep w).Yields Walk.Right ↔ CapFits w := by
  unfold capStep CapFits
  by_cases hheader : 4 ≤ w.rest.length
  · rw [inTypeLen_eq hheader]
    simp only [Run.ok_bind]
    refine (Except.yields_pure.trans goOn_right).trans ?_
    rw [and_iff_right h, List.length_drop]
    omega
  · refine iff_of_false ?_ fun h => hheader (h.1.trans h.2)
    rintro ⟨w', hw', -⟩
    obtain ⟨r, hr, -⟩ := Run.bind_eq_ok.1 hw'
    exact inTypeLen_short hheader r hr

theorem lenOrderStep_iff (env : Env) {w : Walk} (h : w.Right) :
    (lenOrderStep env w).Yields Walk.Right ↔ LenOrderFits env w := by
  unfold lenOrderStep LenOrderFits Accepted
  by_cases hrv : w.rv = 0
  · rw [if_neg (not_not_intro hrv), imp_iff_right hrv]
    by_cases hheader : 4 ≤ w.rest.length
    · rw [inTypeLen_eq hheader, and_iff_right hheader]
      simp only [Run.ok_bind]
      rcases libModProcessOrders_cases env w.mod w.calls (leVal (w.rest.take 2)) (w.rest.drop 4) with
        ⟨n, r, hn, hle, hr, hrest⟩ | ⟨hnot, e, he⟩
      · rw [hr]
        refine Except.yields_pure.trans ?_
        rw [List.length_drop] at hle
        by_cases herror : r.rv = 0
        · rw [if_neg (not_not_intro herror), goOn_right, handled_right, and_iff_right h, hrest,
            List.length_drop, List.length_drop]
          constructor
          · rintro ⟨hused, hroom⟩
            exact ⟨n, hn, hle, fun _ => ⟨by omega, hroom⟩⟩
          · rintro ⟨n', hn', -, hlen⟩
            rw [hn] at hn'
            cases hn'
            obtain ⟨hused, hroom⟩ := hlen fun r' hr' => by cases hr'; exact herror
            exact ⟨by omega, hroom⟩
        · rw [if_pos herror, handled_right]
          refine iff_of_true h ⟨n, hn, by rw [List.length_drop]; exact hle, fun haccepted => ?_⟩
          exact absurd (haccepted r rfl) herror
      · rw [he]
        exact iff_of_false (fun h => Except.yields_error.1 h) fun ⟨n, hn, hle, _⟩ => hnot ⟨n, hn, hle⟩
    · refine iff_of_false ?_ fun h => hheader h.1
      rintro ⟨w', hw', -⟩
      obtain ⟨r, hr, -⟩ := Run.bind_eq_ok.1 hw'
      exact inTypeLen_short hheader r hr
  · rw [if_pos hrv]
    exact iff_of_true (Except.yields_ok.2 h) fun h0 => absurd h0 hrv

/-! ## Loops -/

theorem orderStep_back {env : Env} {w w' : Walk} (h : orderStep env w = .ok w') (hw' : w'.Right) :
    w.Right := by
  unfold orderStep at h
  split at h
  · cases h
    exact hw'
  · obtain ⟨r, -, h⟩ := Run.bind_eq_ok.1 h
    obtain ⟨r', -, h⟩ := Run.bind_eq_ok.1 h
    cases h
    exact hw'

theorem capStep_back {w w' : Walk} (h : capStep w = .ok w') (hw' : w'.Right) : w.Right := by
  obtain ⟨r, -, h⟩ := Run.bind_eq_ok.1 h
  cases h
  exact (goOn_right.1 hw').1

theorem lenOrderStep_back {env : Env} {w w' : Walk} (h : lenOrderStep env w = .ok w')
    (hw' : w'.Right) : w.Right := by
  unfold lenOrderStep at h
  split at h
  · cases h
    exact hw'
  · obtain ⟨r, -, h⟩ := Run.bind_eq_ok.1 h
    obtain ⟨r', -, h⟩ := Run.bind_eq_ok.1 h
    cases h
    split at hw'
    · exact hw'
    · exact (goOn_right.1 hw').1

/-- A loop is right if each pass of it meets its condition. -/
theorem loop_right_iff {step : Walk → Run Walk} {fits : Walk → Prop}
    (hstep : ∀ w : Walk, w.Right → ((step w).Yields Walk.Right ↔ fits w))
    (hback : ∀ w w' : Walk, step w = .ok w' → w'.Right → w.Right) (n : Nat) {w : Walk} (h : w.Right) :
    (loop step n w).Yields Walk.Right ↔ LoopFits step fits n w := by
  have hdet : ∀ w i w₁ w₂, Pass step w i w₁ → Pass step w i w₂ → w₁ = w₂ :=
    fun w i w₁ w₂ h₁ h₂ => Except.ok.inj (Eq.trans (Eq.symm h₁) h₂)
  have hleads : (loop step n w).Yields Walk.Right ↔
      ∃ w', Leads (Pass step) w (List.range n) w' ∧ w'.Right :=
    exists_congr fun w' => and_congr_left fun _ => Iff.symm leads_except
  rw [hleads, ← always_iff_last hdet fun w _ w' => hback w w']
  exact always_iff hdet (fun _ h => h) (fun w i hw => ⟨hstep w hw, fun _ _ h => h⟩) h _

/-- **The messages of the X server**: every order is read inside the message, with its copies inside
their arrays, and no inconsistent length is passed over, just if every order is whole and has a length
that covers it and is in the message. -/
theorem message_right_iff (env : Env) (mod : Mod) (m : Message) :
    MessageRight env mod m ↔ MessageFits env mod m := by
  have hstart : (m.start mod).Right := fun _ h => nomatch h
  unfold MessageRight MessageFits libModProcessMessage
  split
  · exact loop_right_iff (fun _ => orderStep_iff env) (fun _ _ => orderStep_back) _ hstart
  · refine Iff.trans ?_ (loop_right_iff (fun _ => capStep_iff) (fun _ _ => capStep_back) _ hstart)
    rw [Except.yields_bind]
    exact Except.yields_congr fun w _ => Except.yields_pure
  · exact loop_right_iff (fun _ => lenOrderStep_iff env) (fun _ _ => lenOrderStep_back) _ hstart
  · exact iff_of_true (Except.yields_ok.2 hstart) trivial

/-- A message with one order, to fill a rectangle, of which only the type is there. -/
def truncatedMessage : Message where
  bytes := [1, 0, 1, 0, 2, 0, 0, 0, 3, 0]
  whole := by decide
  max := by decide

/-- The rectangle is read behind the message. -/
theorem order_behind_message :
    ¬ MessageRight ⟨fun _ => 0, fun _ => none⟩ ⟨false, 0, none⟩ truncatedMessage := by
  rintro ⟨w, hw, -⟩
  cases hw

end Xrdp.Xup
