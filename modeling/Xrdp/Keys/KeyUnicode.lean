import Mathlib.Logic.Function.Basic
import Mathlib.Tactic.Common

/-!
# Keys for characters

`xrdp/xrdp_wm.c` and `xrdp/lang.c`: a client sends a character instead of a key.  It is searched in the
tables of the keymap, and the key is pressed, after shift and alt where the table needs them.

* `getKeyInfoFromScanCode` — what a key means, with the keys that are down and the locks.
* `xrdpWmKey`, `xrdpWmKeyUnicode` — a key, and a character.
* `PairRight` — the module gets the character, and the keys and locks are as before when it is up again.
* `pair_right_iff` — that is so just if the tables that are looked up have the character where it was
  found, and none of the keys was down before.  With caps lock on it is not: the table that is searched
  is not the one that is looked up.
-/

namespace Xrdp.Keys

def KBD_FLAG_EXT : Nat := 0x0100
def KBD_FLAG_DOWN : Nat := 0x4000
def KBD_FLAG_UP : Nat := 0x8000
def XR_MIN_KEY_CODE : Nat := 8
def XR_MAX_KEY_CODE : Nat := 256
def XR_RDP_SCAN_LSHIFT : Nat := 42
def XR_RDP_SCAN_ALT : Nat := 56

/-- `struct xrdp_key_info`. -/
structure KeyInfo where
  sym : Int
  chr : Int
  deriving DecidableEq, Repr

/-- `struct xrdp_keymap`. -/
structure Keymap where
  keysNoshift : Nat → KeyInfo
  keysShift : Nat → KeyInfo
  keysAltgr : Nat → KeyInfo
  keysShiftaltgr : Nat → KeyInfo
  keysCapslock : Nat → KeyInfo
  keysCapslockaltgr : Nat → KeyInfo
  keysShiftcapslock : Nat → KeyInfo
  keysShiftcapslockaltgr : Nat → KeyInfo

/-- `g_map`: "code1 is regular scancode, code2 is extended scancode". -/
def gMap : List (Nat × Nat) :=
  [(0, 0), (9, 0), (10, 0), (11, 0), (12, 0), (13, 0), (14, 0), (15, 0),
    (16, 0), (17, 0), (18, 0), (19, 0), (20, 0), (21, 0), (22, 0), (23, 0),
    (24, 0), (25, 0), (26, 0), (27, 0), (28, 0), (29, 0), (30, 0), (31, 0),
    (32, 0), (33, 0), (34, 0), (35, 0), (36, 108), (37, 109), (38, 0), (39, 0),
    (40, 0), (41, 0), (42, 0), (43, 0), (44, 0), (45, 0), (46, 0), (47, 0),
    (48, 0), (49, 0), (50, 0), (51, 0), (52, 0), (53, 0), (54, 0), (55, 0),
    (56, 0), (57, 0), (58, 0), (59, 0), (60, 0), (61, 112), (62, 0), (63, 111),
    (64, 113), (65, 0), (66, 0), (67, 0), (68, 0), (69, 0), (70, 0), (71, 0),
    (72, 0), (73, 0), (74, 0), (75, 0), (76, 0), (77, 0), (78, 0), (79, 97),
    (80, 98), (81, 99), (82, 0), (83, 100), (84, 0), (85, 102), (86, 0), (87, 103),
    (88, 104), (89, 105), (90, 106), (91, 107), (92, 0), (93, 0), (94, 0), (95, 0),
    (96, 0), (97, 0), (98, 0), (0, 115), (0, 116), (0, 117), (102, 0), (103, 0),
    (104, 0), (105, 0), (106, 0), (107, 0), (108, 0), (109, 0), (110, 0), (111, 0),
    (112, 0), (113, 0), (114, 0), (115, 0), (116, 0), (117, 0), (118, 0), (119, 0),
    (120, 0), (121, 0), (122, 0), (123, 0), (124, 0), (125, 0), (126, 0), (127, 0),
    (128, 0), (129, 0), (130, 0), (131, 0), (132, 0), (133, 0), (134, 0), (135, 0)]

/-- The key code of a scan code. -/
def keyCode (deviceFlags scanCode : Nat) : Nat :=
  let pair := gMap.getD (scanCode % 128) (0, 0)
  if deviceFlags &&& KBD_FLAG_EXT ≠ 0 then pair.2 else pair.1

/-- The table that is looked up; "keymap file is created with numlock off so we have to do this". -/
def Keymap.select (keymap : Keymap) (numLock capsLock shift altgr : Bool) (index : Nat) : KeyInfo :=
  if 79 ≤ index ∧ index ≤ 91 then
    if numLock then keymap.keysShift index else keymap.keysNoshift index
  else if shift && capsLock && altgr then keymap.keysShiftcapslockaltgr index
  else if shift && capsLock then keymap.keysShiftcapslock index
  else if shift && altgr then keymap.keysShiftaltgr index
  else if shift then keymap.keysShift index
  else if capsLock && altgr then keymap.keysCapslockaltgr index
  else if capsLock then keymap.keysCapslock index
  else if altgr then keymap.keysAltgr index
  else keymap.keysNoshift index

def shiftDown (keys : Nat → Nat) : Bool := keys 42 != 0 || keys 54 != 0

/-- "right alt". -/
def altgrDown (keys : Nat → Nat) : Bool := keys 56 &&& KBD_FLAG_EXT != 0

/-- `get_key_info_from_scan_code`. -/
def getKeyInfoFromScanCode (deviceFlags scanCode : Nat) (keys : Nat → Nat) (capsLock numLock : Bool)
    (keymap : Keymap) : KeyInfo :=
  keymap.select numLock capsLock (shiftDown keys) (altgrDown keys) (keyCode deviceFlags scanCode)

/-- `WM_KEYDOWN` and `WM_KEYUP`. -/
inductive Msg where
  | keydown
  | keyup
  deriving DecidableEq, Repr

/-- `mod_event` of the module, or `xrdp_bitmap_def_proc` of the focused window. -/
inductive Call where
  | modEvent (msg : Msg) (chr sym : Int) (scanCode deviceFlags : Nat)
  | defProc (msg : Msg) (scanCode deviceFlags : Nat)
  deriving DecidableEq, Repr

/-- `mm->mod` and its `mod_event`. -/
inductive Module where
  | none
  | noEvents
  | events
  deriving DecidableEq, Repr

/-- `struct xrdp_wm`, as far as keys go. -/
structure Wm where
  keymap : Keymap
  keys : Nat → Nat
  capsLock : Bool
  numLock : Bool
  scrollLock : Bool
  popupWnd : Bool
  mod : Module
  focusedWindow : Bool
  calls : List Call

/-- The calls for a key. -/
def Wm.report (w : Wm) (msg : Msg) (deviceFlags scanCode : Nat) : List Call :=
  match w.mod with
  | .events =>
    let ki := getKeyInfoFromScanCode deviceFlags scanCode w.keys w.capsLock w.numLock w.keymap
    [.modEvent msg ki.chr ki.sym scanCode deviceFlags]
  | .noEvents => []
  | .none => if w.focusedWindow then [.defProc msg scanCode deviceFlags] else []

/-- A key that goes down, and its lock. -/
def Wm.keyDown (w : Wm) (deviceFlags scanCode : Nat) : Wm :=
  { w with
    keys := Function.update w.keys scanCode (1 ||| deviceFlags)
    capsLock := if scanCode = 58 then !w.capsLock else w.capsLock
    numLock := if scanCode = 69 then !w.numLock else w.numLock
    scrollLock := if scanCode = 70 then !w.scrollLock else w.scrollLock }

/-- `xrdp_wm_key`. -/
def Wm.xrdpWmKey (w : Wm) (deviceFlags scanCode : Nat) : Wm :=
  let scanCode := scanCode % 128
  if w.popupWnd then { w with popupWnd := false }
  else if deviceFlags &&& KBD_FLAG_UP ≠ 0 then
    let w := { w with keys := Function.update w.keys scanCode 0 }
    { w with calls := w.calls ++ w.report .keyup deviceFlags scanCode }
  else
    let w := w.keyDown deviceFlags scanCode
    { w with calls := w.calls ++ w.report .keydown deviceFlags scanCode }

/-- A loop of `xrdp_wm_key_unicode` over a table. -/
def findCode (table : Nat → KeyInfo) (unicode : Int) : Option Nat :=
  (List.range' XR_MIN_KEY_CODE (XR_MAX_KEY_CODE - XR_MIN_KEY_CODE)).find? fun index =>
    unicode = (table index).chr

/-- `xrdp_wm_key_unicode`. -/
def Wm.xrdpWmKeyUnicode (w : Wm) (deviceFlags : Nat) (unicode : Int) : Wm :=
  match findCode w.keymap.keysNoshift unicode with
  | some index => w.xrdpWmKey deviceFlags (index - XR_MIN_KEY_CODE)
  | none =>
  match findCode w.keymap.keysShift unicode with
  | some index =>
    if deviceFlags &&& KBD_FLAG_UP ≠ 0 then
      (w.xrdpWmKey deviceFlags (index - XR_MIN_KEY_CODE)).xrdpWmKey KBD_FLAG_UP XR_RDP_SCAN_LSHIFT
    else
      (w.xrdpWmKey KBD_FLAG_DOWN XR_RDP_SCAN_LSHIFT).xrdpWmKey deviceFlags (index - XR_MIN_KEY_CODE)
  | none =>
  match findCode w.keymap.keysAltgr unicode with
  | some index =>
    if deviceFlags &&& KBD_FLAG_UP ≠ 0 then
      (w.xrdpWmKey deviceFlags (index - XR_MIN_KEY_CODE)).xrdpWmKey (KBD_FLAG_UP ||| KBD_FLAG_EXT)
        XR_RDP_SCAN_ALT
    else
      (w.xrdpWmKey (KBD_FLAG_DOWN ||| KBD_FLAG_EXT) XR_RDP_SCAN_ALT).xrdpWmKey deviceFlags
        (index - XR_MIN_KEY_CODE)
  | none =>
  match findCode w.keymap.keysShiftaltgr unicode with
  | some index =>
    if deviceFlags &&& KBD_FLAG_UP ≠ 0 then
      ((w.xrdpWmKey deviceFlags (index - XR_MIN_KEY_CODE)).xrdpWmKey (KBD_FLAG_UP ||| KBD_FLAG_EXT)
        XR_RDP_SCAN_ALT).xrdpWmKey KBD_FLAG_UP XR_RDP_SCAN_LSHIFT
    else
      ((w.xrdpWmKey KBD_FLAG_DOWN XR_RDP_SCAN_LSHIFT).xrdpWmKey (KBD_FLAG_DOWN ||| KBD_FLAG_EXT)
        XR_RDP_SCAN_ALT).xrdpWmKey deviceFlags (index - XR_MIN_KEY_CODE)
  | none => w

/-! ## What is promised -/

/-- A table that is searched. -/
inductive Table where
  | noshift
  | shift
  | altgr
  | shiftaltgr
  deriving DecidableEq, Repr

def Keymap.table (keymap : Keymap) : Table → Nat → KeyInfo
  | .noshift => keymap.keysNoshift
  | .shift => keymap.keysShift
  | .altgr => keymap.keysAltgr
  | .shiftaltgr => keymap.keysShiftaltgr

/-- A character is in one of the tables. -/
def Keymap.Appears (keymap : Keymap) (unicode : Int) : Prop :=
  ∃ t index, index < 256 ∧ (keymap.table t index).chr = unicode

/-- The module has got a key event with the character. -/
def Received (w w' : Wm) (unicode : Int) : Prop :=
  ∃ new, w'.calls = w.calls ++ new ∧
    ∃ sym scanCode deviceFlags, .modEvent .keydown unicode sym scanCode deviceFlags ∈ new

/-- The keys and the locks are the same. -/
def SameKeys (w w' : Wm) : Prop :=
  w'.keys = w.keys ∧ w'.capsLock = w.capsLock ∧ w'.numLock = w.numLock ∧ w'.scrollLock = w.scrollLock

/-- A character goes down, and up again. -/
def PairRight (w : Wm) (down up : Nat) (unicode : Int) : Prop :=
  Received w (w.xrdpWmKeyUnicode down unicode) unicode ∧
    SameKeys w ((w.xrdpWmKeyUnicode down unicode).xrdpWmKeyUnicode up unicode)

/-! ## When it holds -/

/-- The tables that are searched before. -/
def Table.earlier : Table → List Table
  | .noshift => []
  | .shift => [.noshift]
  | .altgr => [.noshift, .shift]
  | .shiftaltgr => [.noshift, .shift, .altgr]

/-- Where a character is found: the first code of the first table that has it, from code 8 on. -/
structure FoundAt (keymap : Keymap) (unicode : Int) (t : Table) (index : Nat) : Prop where
  low : 8 ≤ index
  high : index < 256
  chr : (keymap.table t index).chr = unicode
  first : ∀ j, 8 ≤ j → j < index → (keymap.table t j).chr ≠ unicode
  before : ∀ t' ∈ t.earlier, ∀ j, 8 ≤ j → j < 256 → (keymap.table t' j).chr ≠ unicode

/-- A key that is pressed. -/
structure Press where
  deviceFlags : Nat
  scanCode : Nat
  deriving DecidableEq, Repr

/-- The keys that a table needs. -/
def Table.modifiers : Table → List Press
  | .noshift => []
  | .shift => [⟨KBD_FLAG_DOWN, XR_RDP_SCAN_LSHIFT⟩]
  | .altgr => [⟨KBD_FLAG_DOWN ||| KBD_FLAG_EXT, XR_RDP_SCAN_ALT⟩]
  | .shiftaltgr =>
    [⟨KBD_FLAG_DOWN, XR_RDP_SCAN_LSHIFT⟩, ⟨KBD_FLAG_DOWN ||| KBD_FLAG_EXT, XR_RDP_SCAN_ALT⟩]

/-- The keys for a character, one after another. -/
def Table.presses (t : Table) (down index : Nat) : List Press :=
  t.modifiers ++ [⟨down, (index - 8) % 128⟩]

/-- A key is down. -/
def Press.hold (keys : Nat → Nat) (p : Press) : Nat → Nat :=
  Function.update keys p.scanCode (1 ||| p.deviceFlags)

/-- One of the keys has the character, in the table for the locks and for the keys that are down with it. -/
def Means (keymap : Keymap) (numLock capsLock : Bool) (unicode : Int) : (Nat → Nat) → List Press → Prop
  | _, [] => False
  | keys, p :: ps =>
    (keymap.select numLock capsLock (shiftDown (p.hold keys)) (altgrDown (p.hold keys))
      (keyCode p.deviceFlags p.scanCode)).chr = unicode ∨
    Means keymap numLock capsLock unicode (p.hold keys) ps

/-- The keys of a character were up, none is a lock, and one of them has the character; a popup takes
the first of them. -/
def PressesFit (w : Wm) (unicode : Int) (presses : List Press) : Prop :=
  w.mod = .events ∧ (∀ p ∈ presses, p.scanCode ∉ [58, 69, 70] ∧ w.keys p.scanCode = 0) ∧
    Means w.keymap w.numLock w.capsLock unicode w.keys (if w.popupWnd then presses.tail else presses)

/-! ## Where a character is found -/

theorem findCode_some {table : Nat → KeyInfo} {unicode : Int} {index : Nat} :
    findCode table unicode = some index ↔ 8 ≤ index ∧ index < 256 ∧ (table index).chr = unicode ∧
      ∀ j, 8 ≤ j → j < index → (table j).chr ≠ unicode := by
  rw [findCode, List.find?_range'_eq_some]
  simp only [decide_eq_true_eq, List.mem_range'_1, XR_MIN_KEY_CODE, XR_MAX_KEY_CODE, Bool.not_eq_eq_eq_not,
    Bool.not_true, decide_eq_false_iff_not]
  constructor
  · rintro ⟨hchr, ⟨hlow, hhigh⟩, hfirst⟩
    exact ⟨hlow, by omega, hchr.symm, fun j hj hlt heq => hfirst j hj hlt heq.symm⟩
  · rintro ⟨hlow, hhigh, hchr, hfirst⟩
    exact ⟨hchr.symm, ⟨hlow, by omega⟩, fun j hj hlt heq => hfirst j hj hlt heq.symm⟩

theorem findCode_none {table : Nat → KeyInfo} {unicode : Int} :
    findCode table unicode = none ↔ ∀ j, 8 ≤ j → j < 256 → (table j).chr ≠ unicode := by
  rw [findCode, List.find?_range'_eq_none]
  simp only [XR_MIN_KEY_CODE, XR_MAX_KEY_CODE, Bool.not_eq_eq_eq_not, Bool.not_true, decide_eq_false_iff_not]
  exact ⟨fun h j hj hlt heq => h j hj (by omega) heq.symm, fun h j hj hlt heq => h j hj (by omega) heq.symm⟩

/-- The code of a table, and none in those before. -/
theorem FoundAt.find {keymap : Keymap} {unicode : Int} {t : Table} {index : Nat}
    (h : FoundAt keymap unicode t index) : findCode (keymap.table t) unicode = some index ∧
      ∀ t' ∈ t.earlier, findCode (keymap.table t') unicode = none :=
  ⟨findCode_some.2 ⟨h.low, h.high, h.chr, h.first⟩, fun t' ht' => findCode_none.2 (h.before t' ht')⟩

theorem foundAt_of_find {keymap : Keymap} {unicode : Int} {t : Table} {index : Nat}
    (h : findCode (keymap.table t) unicode = some index)
    (hbefore : ∀ t' ∈ t.earlier, findCode (keymap.table t') unicode = none) :
    FoundAt keymap unicode t index := by
  obtain ⟨hlow, hhigh, hchr, hfirst⟩ := findCode_some.1 h
  exact ⟨hlow, hhigh, hchr, hfirst, fun t' ht' => findCode_none.1 (hbefore t' ht')⟩

/-! ## Keys one after another -/

/-- The keys of a list. -/
def Wm.pressAll (w : Wm) (ps : List Press) : Wm := ps.foldl (fun w p => w.xrdpWmKey p.deviceFlags p.scanCode) w

/-- The keys for a character that goes up. -/
def Table.releases (t : Table) (up index : Nat) : List Press :=
  ⟨up, (index - 8) % 128⟩ ::
    match t with
    | .noshift => []
    | .shift => [⟨KBD_FLAG_UP, XR_RDP_SCAN_LSHIFT⟩]
    | .altgr => [⟨KBD_FLAG_UP ||| KBD_FLAG_EXT, XR_RDP_SCAN_ALT⟩]
    | .shiftaltgr => [⟨KBD_FLAG_UP ||| KBD_FLAG_EXT, XR_RDP_SCAN_ALT⟩, ⟨KBD_FLAG_UP, XR_RDP_SCAN_LSHIFT⟩]

theorem xrdpWmKey_mod (w : Wm) (deviceFlags scanCode : Nat) :
    w.xrdpWmKey deviceFlags (scanCode % 128) = w.xrdpWmKey deviceFlags scanCode := by
  rw [Wm.xrdpWmKey, Wm.xrdpWmKey, Nat.mod_mod]

section Found

variable {w : Wm} {unicode : Int} {t : Table} {index : Nat}

theorem keyUnicode_down (h : FoundAt w.keymap unicode t index) {down : Nat} (hdown : down &&& KBD_FLAG_UP = 0) :
    w.xrdpWmKeyUnicode down unicode = w.pressAll (t.presses down index) := by
  obtain ⟨hfind, hbefore⟩ := h.find
  unfold Wm.xrdpWmKeyUnicode
  cases t <;> simp_all [Wm.pressAll, Table.presses, Table.modifiers, Table.earlier, Keymap.table, xrdpWmKey_mod,
    XR_MIN_KEY_CODE]

theorem keyUnicode_up (h : FoundAt w.keymap unicode t index) {up : Nat} (hup : up &&& KBD_FLAG_UP ≠ 0) :
    w.xrdpWmKeyUnicode up unicode = w.pressAll (t.releases up index) := by
  obtain ⟨hfind, hbefore⟩ := h.find
  unfold Wm.xrdpWmKeyUnicode
  cases t <;> simp_all [Wm.pressAll, Table.releases, Table.earlier, Keymap.table, xrdpWmKey_mod,
    XR_MIN_KEY_CODE]

/-- A character that is not found does nothing. -/
theorem found_or_same (w : Wm) (unicode : Int) :
    (∃ t index, FoundAt w.keymap unicode t index) ∨
      ∀ deviceFlags, w.xrdpWmKeyUnicode deviceFlags unicode = w := by
  cases hnoshift : findCode w.keymap.keysNoshift unicode with
  | some index => exact .inl ⟨.noshift, index, foundAt_of_find hnoshift (by simp [Table.earlier])⟩
  | none =>
  cases hshift : findCode w.keymap.keysShift unicode with
  | some index =>
    exact .inl ⟨.shift, index, foundAt_of_find hshift (by simp [Table.earlier, Keymap.table, hnoshift])⟩
  | none =>
  cases haltgr : findCode w.keymap.keysAltgr unicode with
  | some index =>
    exact .inl ⟨.altgr, index, foundAt_of_find haltgr (by
      simp [Table.earlier, Keymap.table, hnoshift, hshift])⟩
  | none =>
  cases hshiftaltgr : findCode w.keymap.keysShiftaltgr unicode with
  | some index =>
    exact .inl ⟨.shiftaltgr, index, foundAt_of_find hshiftaltgr (by
      simp [Table.earlier, Keymap.table, hnoshift, hshift, haltgr])⟩
  | none =>
    refine .inr fun deviceFlags => ?_
    simp only [Wm.xrdpWmKeyUnicode, hnoshift, hshift, haltgr, hshiftaltgr]

end Found

/-! ## Keys that go down -/

/-- A key that goes down, and is not a lock. -/
def Press.Plain (p : Press) : Prop :=
  p.deviceFlags &&& KBD_FLAG_UP = 0 ∧ p.scanCode < 128 ∧ p.scanCode ∉ [58, 69, 70]

/-- The character is in one of the calls. -/
def HasChr (unicode : Int) (calls : List Call) : Prop :=
  ∃ sym scanCode deviceFlags, .modEvent .keydown unicode sym scanCode deviceFlags ∈ calls

theorem hasChr_append {unicode : Int} {calls calls' : List Call} :
    HasChr unicode (calls ++ calls') ↔ HasChr unicode calls ∨ HasChr unicode calls' := by
  simp [HasChr, exists_or]

theorem hasChr_report {w : Wm} {unicode : Int} {deviceFlags scanCode : Nat} :
    HasChr unicode (w.report .keydown deviceFlags scanCode) ↔ w.mod = .events ∧
      (getKeyInfoFromScanCode deviceFlags scanCode w.keys w.capsLock w.numLock w.keymap).chr = unicode := by
  unfold Wm.report HasChr
  cases w.mod with
  | none => cases w.focusedWindow <;> simp
  | noEvents => simp
  | events => simp [eq_comm]

/-- What a key does that goes down. -/
theorem xrdpWmKey_down {w : Wm} (hpopup : w.popupWnd = false) {deviceFlags scanCode : Nat}
    (hdown : deviceFlags &&& KBD_FLAG_UP = 0) (hscan : scanCode < 128) :
    w.xrdpWmKey deviceFlags scanCode =
      { w.keyDown deviceFlags scanCode with
        calls := w.calls ++ (w.keyDown deviceFlags scanCode).report .keydown deviceFlags scanCode } := by
  simp [Wm.xrdpWmKey, hpopup, hdown, Nat.mod_eq_of_lt hscan, Wm.keyDown]

/-- What a key does that goes up. -/
theorem xrdpWmKey_up {w : Wm} (hpopup : w.popupWnd = false) {deviceFlags scanCode : Nat}
    (hup : deviceFlags &&& KBD_FLAG_UP ≠ 0) (hscan : scanCode < 128) :
    ∃ calls, w.xrdpWmKey deviceFlags scanCode =
      { w with keys := Function.update w.keys scanCode 0, calls := calls } := by
  refine ⟨w.calls ++ ({ w with keys := Function.update w.keys scanCode 0 } : Wm).report .keyup deviceFlags
    scanCode, ?_⟩
  simp [Wm.xrdpWmKey, hpopup, hup, Nat.mod_eq_of_lt hscan]

theorem keyDown_plain {w : Wm} {p : Press} (h : p.Plain) :
    w.keyDown p.deviceFlags p.scanCode = { w with keys := p.hold w.keys } := by
  obtain ⟨-, -, hlock⟩ := h
  simp only [List.mem_cons, List.not_mem_nil, or_false, not_or] at hlock
  simp [Wm.keyDown, Press.hold, hlock]

/-- What a key comes to that is not a lock. -/
theorem xrdpWmKey_plain {w : Wm} (hpopup : w.popupWnd = false) {p : Press} (h : p.Plain) (unicode : Int) :
    ∃ new, w.xrdpWmKey p.deviceFlags p.scanCode =
        { w with keys := p.hold w.keys, calls := w.calls ++ new } ∧
      (HasChr unicode new ↔ w.mod = .events ∧
        (w.keymap.select w.numLock w.capsLock (shiftDown (p.hold w.keys)) (altgrDown (p.hold w.keys))
          (keyCode p.deviceFlags p.scanCode)).chr = unicode) := by
  refine ⟨({ w with keys := p.hold w.keys } : Wm).report .keydown p.deviceFlags p.scanCode, ?_, hasChr_report⟩
  rw [xrdpWmKey_down hpopup h.1 h.2.1, keyDown_plain h]

/-- What keys do not change that go down. -/
structure Frame (w w' : Wm) (ps : List Press) : Prop where
  keymap : w'.keymap = w.keymap
  popupWnd : w'.popupWnd = false
  keys : ∀ k, (∀ p ∈ ps, p.scanCode ≠ k) → w'.keys k = w.keys k

theorem pressAll_frame {w : Wm} (hpopup : w.popupWnd = false) {ps : List Press}
    (h : ∀ p ∈ ps, p.deviceFlags &&& KBD_FLAG_UP = 0 ∧ p.scanCode < 128) : Frame w (w.pressAll ps) ps := by
  induction ps generalizing w with
  | nil => exact ⟨rfl, hpopup, fun _ _ => rfl⟩
  | cons p ps ih =>
    obtain ⟨hp, hps⟩ := List.forall_mem_cons.1 h
    have hkey := xrdpWmKey_down hpopup hp.1 hp.2
    have hrun : w.pressAll (p :: ps) = (w.xrdpWmKey p.deviceFlags p.scanCode).pressAll ps := rfl
    have hpopup' : (w.xrdpWmKey p.deviceFlags p.scanCode).popupWnd = false := by
      rw [hkey]
      exact hpopup
    obtain ⟨hkeymap, hpopup'', hkeys⟩ := ih hpopup' hps
    rw [hrun]
    refine ⟨?_, hpopup'', fun k hk => ?_⟩
    · rw [hkeymap, hkey]
      rfl
    · obtain ⟨hkp, hkps⟩ := List.forall_mem_cons.1 hk
      rw [hkeys k hkps, hkey]
      exact Function.update_of_ne (Ne.symm hkp) _ _

/-- What keys come to that go down and are no locks: the module gets the character if one means it. -/
structure WentDown (w w' : Wm) (unicode : Int) (ps : List Press) : Prop where
  capsLock : w'.capsLock = w.capsLock
  numLock : w'.numLock = w.numLock
  scrollLock : w'.scrollLock = w.scrollLock
  calls : ∃ new, w'.calls = w.calls ++ new ∧ (HasChr unicode new ↔
    w.mod = .events ∧ Means w.keymap w.numLock w.capsLock unicode w.keys ps)

theorem pressAll_down {w : Wm} (hpopup : w.popupWnd = false) {ps : List Press} (h : ∀ p ∈ ps, p.Plain)
    (unicode : Int) : WentDown w (w.pressAll ps) unicode ps := by
  induction ps generalizing w with
  | nil => exact ⟨rfl, rfl, rfl, [], by simp [Wm.pressAll], by simp [HasChr, Means]⟩
  | cons p ps ih =>
    obtain ⟨hp, hps⟩ := List.forall_mem_cons.1 h
    obtain ⟨first, hkey, hfirst⟩ := xrdpWmKey_plain hpopup hp unicode
    have hrun : w.pressAll (p :: ps) = (w.xrdpWmKey p.deviceFlags p.scanCode).pressAll ps := rfl
    rw [hrun, hkey]
    obtain ⟨hcaps, hnum, hscroll, new, hnew, hmeans⟩ :=
      ih (w := { w with keys := p.hold w.keys, calls := w.calls ++ first }) hpopup hps
    refine ⟨hcaps, hnum, hscroll, first ++ new, ?_, ?_⟩
    · rw [hnew, List.append_assoc]
    · rw [hasChr_append, hfirst, hmeans, Means, ← and_or_left]

/-- What keys come to that go up. -/
theorem pressAll_up {w : Wm} (hpopup : w.popupWnd = false) {ps : List Press}
    (h : ∀ p ∈ ps, p.deviceFlags &&& KBD_FLAG_UP ≠ 0 ∧ p.scanCode < 128) :
    ∃ calls, w.pressAll ps =
      { w with keys := fun k => if k ∈ ps.map Press.scanCode then 0 else w.keys k, calls := calls } := by
  induction ps generalizing w with
  | nil => exact ⟨w.calls, by simp [Wm.pressAll]⟩
  | cons p ps ih =>
    obtain ⟨hp, hps⟩ := List.forall_mem_cons.1 h
    obtain ⟨calls, hkey⟩ := xrdpWmKey_up hpopup hp.1 hp.2
    have hrun : w.pressAll (p :: ps) = (w.xrdpWmKey p.deviceFlags p.scanCode).pressAll ps := rfl
    rw [hrun, hkey]
    obtain ⟨calls', hrest⟩ := ih (w := { w with keys := Function.update w.keys p.scanCode 0, calls := calls })
      hpopup hps
    refine ⟨calls', hrest.trans ?_⟩
    congr 1
    funext k
    by_cases hk : k = p.scanCode
    · simp [hk]
    · simp [hk]

/-! ## A character -/

/-- A popup takes the first key. -/
theorem pressAll_popup {w : Wm} {ps : List Press} (h : ps ≠ []) : w.pressAll ps =
    ({ w with popupWnd := false } : Wm).pressAll (if w.popupWnd then ps.tail else ps) := by
  obtain ⟨p, ps, rfl⟩ := List.exists_cons_of_ne_nil h
  cases hpopup : w.popupWnd with
  | false =>
    congr 1
    rw [← hpopup]
  | true =>
    have hkey : w.xrdpWmKey p.deviceFlags p.scanCode = { w with popupWnd := false } := by
      simp [Wm.xrdpWmKey, hpopup]
    exact congrArg (fun w : Wm => w.pressAll ps) hkey

section Pair

variable {w : Wm} {unicode : Int} {t : Table} {down up index : Nat}

theorem modifiers_plain : ∀ p ∈ t.modifiers, p.Plain := by
  cases t <;> simp [Table.modifiers, Press.Plain, KBD_FLAG_DOWN, KBD_FLAG_UP, KBD_FLAG_EXT,
    XR_RDP_SCAN_LSHIFT, XR_RDP_SCAN_ALT]

theorem releases_up (hup : up &&& KBD_FLAG_UP ≠ 0) :
    ∀ p ∈ t.releases up index, p.deviceFlags &&& KBD_FLAG_UP ≠ 0 ∧ p.scanCode < 128 := by
  have hscan : (index - 8) % 128 < 128 := Nat.mod_lt _ (by decide)
  cases t <;> simp [Table.releases, KBD_FLAG_UP, KBD_FLAG_EXT, XR_RDP_SCAN_LSHIFT, XR_RDP_SCAN_ALT, hscan] <;>
    exact hup

/-- The keys that go up are those that have gone down. -/
theorem mem_releases {k : Nat} : k ∈ (t.releases up index).map Press.scanCode ↔
    k ∈ (t.presses down index).map Press.scanCode := by
  cases t <;> simp [Table.releases, Table.presses, Table.modifiers] <;> tauto

/-- The keys that go down after a popup has taken the first. -/
theorem presses_reached {b : Bool} : (if b then (t.presses down index).tail else t.presses down index) = [] ∨
    ∃ before, (∀ p ∈ before, p.Plain) ∧
      (if b then (t.presses down index).tail else t.presses down index) =
        before ++ [⟨down, (index - 8) % 128⟩] := by
  have hplain : ∀ p ∈ t.modifiers, p.Plain := modifiers_plain
  cases b with
  | false => exact .inr ⟨t.modifiers, hplain, rfl⟩
  | true =>
    cases hmods : t.modifiers with
    | nil => exact .inl (by simp [Table.presses, hmods])
    | cons p ps =>
      rw [hmods] at hplain
      exact .inr ⟨ps, (List.forall_mem_cons.1 hplain).2, by simp [Table.presses, hmods]⟩

/-- A key that is a lock is not put back. -/
theorem lock_of_down {ps : List Press} (hpopup : w.popupWnd = false) (hps : ∀ p ∈ ps, p.Plain)
    (hdown : down &&& KBD_FLAG_UP = 0) {scanCode : Nat} (hscan : scanCode < 128)
    (hcaps : (w.pressAll (ps ++ [⟨down, scanCode⟩])).capsLock = w.capsLock)
    (hnum : (w.pressAll (ps ++ [⟨down, scanCode⟩])).numLock = w.numLock)
    (hscroll : (w.pressAll (ps ++ [⟨down, scanCode⟩])).scrollLock = w.scrollLock) :
    scanCode ∉ [58, 69, 70] := by
  have hbefore := pressAll_down hpopup hps 0
  have hframe := pressAll_frame hpopup fun p hp => ⟨(hps p hp).1, (hps p hp).2.1⟩
  have hrun : w.pressAll (ps ++ [⟨down, scanCode⟩]) = (w.pressAll ps).xrdpWmKey down scanCode :=
    List.foldl_append
  rw [hrun, xrdpWmKey_down hframe.popupWnd hdown hscan] at hcaps hnum hscroll
  simp only [Wm.keyDown, hbefore.capsLock, hbefore.numLock, hbefore.scrollLock] at hcaps hnum hscroll
  simp only [List.mem_cons, List.not_mem_nil, or_false, not_or]
  refine ⟨fun h => ?_, fun h => ?_, fun h => ?_⟩
  · simp [h] at hcaps
  · simp [h] at hnum
  · simp [h] at hscroll

theorem presses_down (hdown : down &&& KBD_FLAG_UP = 0) :
    ∀ p ∈ t.presses down index, p.deviceFlags &&& KBD_FLAG_UP = 0 ∧ p.scanCode < 128 := by
  intro p hp
  rcases List.mem_append.1 hp with hp | hp
  · exact ⟨(modifiers_plain p hp).1, (modifiers_plain p hp).2.1⟩
  · rw [List.mem_singleton.1 hp]
    exact ⟨hdown, Nat.mod_lt _ (by decide)⟩

theorem mem_reached {b : Bool} {ps : List Press} {p : Press} (h : p ∈ if b then ps.tail else ps) : p ∈ ps := by
  cases b with
  | false => exact h
  | true => exact List.mem_of_mem_tail h

/-- What is left of the keys when the character is up again. -/
theorem keyUnicode_pair (h : FoundAt w.keymap unicode t index) (hdown : down &&& KBD_FLAG_UP = 0)
    (hup : up &&& KBD_FLAG_UP ≠ 0) {w' : Wm} (hw' : w.xrdpWmKeyUnicode down unicode = w') :
    SameKeys w (w'.xrdpWmKeyUnicode up unicode) ↔ (∀ p ∈ t.presses down index, w.keys p.scanCode = 0) ∧
      w'.capsLock = w.capsLock ∧ w'.numLock = w.numLock ∧ w'.scrollLock = w.scrollLock := by
  have hnonempty : t.presses down index ≠ [] := List.append_ne_nil_of_right_ne_nil _ (List.cons_ne_nil _ _)
  rw [keyUnicode_down h hdown, pressAll_popup hnonempty] at hw'
  have hframe := @pressAll_frame { w with popupWnd := false } rfl
    (if w.popupWnd then (t.presses down index).tail else t.presses down index)
    fun p hp => presses_down hdown p (mem_reached hp)
  rw [hw'] at hframe
  obtain ⟨hkeymap, hpopup, hkeys⟩ := hframe
  have hfound : FoundAt w'.keymap unicode t index := hkeymap ▸ h
  obtain ⟨calls, hreleased⟩ := pressAll_up hpopup (@releases_up t up index hup)
  rw [keyUnicode_up hfound hup, hreleased]
  refine and_congr_left fun _ => ?_
  constructor
  · intro heq p hp
    have hmem : p.scanCode ∈ (t.releases up index).map Press.scanCode :=
      (@mem_releases t down up index p.scanCode).2 (List.mem_map_of_mem hp)
    rw [← congrFun heq p.scanCode]
    exact if_pos hmem
  · intro hzero
    funext k
    dsimp only
    split
    · rename_i hmem
      obtain ⟨p, hp, rfl⟩ := List.mem_map.1 ((@mem_releases t down up index k).1 hmem)
      exact (hzero p hp).symm
    · rename_i hnot
      refine hkeys k fun p hp heq => hnot ?_
      rw [@mem_releases t down up index, ← heq]
      exact List.mem_map_of_mem (mem_reached hp)

/-- A character that is found. -/
theorem pair_of_found (h : FoundAt w.keymap unicode t index) (hdown : down &&& KBD_FLAG_UP = 0)
    (hup : up &&& KBD_FLAG_UP ≠ 0) :
    PairRight w down up unicode ↔ PressesFit w unicode (t.presses down index) := by
  have hnonempty : t.presses down index ≠ [] := List.append_ne_nil_of_right_ne_nil _ (List.cons_ne_nil _ _)
  have hw' := (keyUnicode_down h hdown).trans (pressAll_popup hnonempty)
  rw [PairRight, keyUnicode_pair h hdown hup rfl, hw']
  -- without a lock among the keys, the module gets what one of them means
  have hplain (hlock : (index - 8) % 128 ∉ [58, 69, 70]) : ∀ p ∈ t.presses down index, p.Plain := by
    intro p hp
    rcases List.mem_append.1 hp with hp | hp
    · exact modifiers_plain p hp
    · rw [List.mem_singleton.1 hp]
      exact ⟨hdown, Nat.mod_lt _ (by decide), hlock⟩
  have hwent (hlock : (index - 8) % 128 ∉ [58, 69, 70]) :=
    @pressAll_down { w with popupWnd := false } rfl
      (if w.popupWnd then (t.presses down index).tail else t.presses down index)
      (fun p hp => hplain hlock p (mem_reached hp)) unicode
  constructor
  · rintro ⟨⟨new, hnew, hchr⟩, hzero, hcaps, hnum, hscroll⟩
    have hlock : (index - 8) % 128 ∉ [58, 69, 70] := by
      rcases @presses_reached t down index w.popupWnd with
        hnil | ⟨before, hbefore, hreached⟩
      · rw [hnil] at hnew
        obtain ⟨sym, scanCode, deviceFlags, hmem⟩ := hchr
        rw [List.self_eq_append_right.1 hnew] at hmem
        cases hmem
      · rw [hreached] at hcaps hnum hscroll
        exact lock_of_down rfl hbefore hdown (Nat.mod_lt _ (by decide)) hcaps hnum hscroll
    obtain ⟨-, -, -, new', hnew', hmeans⟩ := hwent hlock
    rw [hnew'] at hnew
    rw [← List.append_cancel_left hnew] at hchr
    obtain ⟨hmod, hmeans⟩ := hmeans.1 hchr
    exact ⟨hmod, fun p hp => ⟨(hplain hlock p hp).2.2, hzero p hp⟩, hmeans⟩
  · rintro ⟨hmod, hpresses, hmeans⟩
    have hlock : (index - 8) % 128 ∉ [58, 69, 70] :=
      (hpresses _ (List.mem_append_right _ (List.mem_singleton_self _))).1
    obtain ⟨hcaps, hnum, hscroll, new, hnew, hchr⟩ := hwent hlock
    exact ⟨⟨new, hnew, hchr.2 ⟨hmod, hmeans⟩⟩, fun p hp => (hpresses p hp).2, hcaps, hnum, hscroll⟩

end Pair

/-- **A character goes down and up**: the module gets it, and the keys and the locks are as before, just if
its keys were up, are no locks, and one of them means it in the table for the locks and the keys that
are down. -/
theorem pair_right_iff (w : Wm) (unicode : Int) (down up : Nat) (hdown : down &&& KBD_FLAG_UP = 0)
    (hup : up &&& KBD_FLAG_UP ≠ 0) :
    PairRight w down up unicode ↔
      ∃ t index, FoundAt w.keymap unicode t index ∧ PressesFit w unicode (t.presses down index) := by
  constructor
  · intro hpair
    rcases found_or_same w unicode with ⟨t, index, hfound⟩ | hsame
    · exact ⟨t, index, hfound, (pair_of_found hfound hdown hup).1 hpair⟩
    · obtain ⟨⟨new, hnew, sym, scanCode, deviceFlags, hmem⟩, -⟩ := hpair
      rw [hsame] at hnew
      rw [List.self_eq_append_right.1 hnew] at hmem
      cases hmem
  · rintro ⟨t, index, hfound, hfits⟩
    exact (pair_of_found hfound hdown hup).2 hfits

/-- Keys that mean one character without caps lock, and another with it. -/
def Keymap.ofA : Keymap :=
  let none : Nat → KeyInfo := fun _ => ⟨0, 0⟩
  let a (chr : Int) : Nat → KeyInfo := fun index => if index = 38 then ⟨chr, chr⟩ else ⟨0, 0⟩
  ⟨a 97, a 65, none, none, a 65, none, a 97, none⟩

def Wm.ofA (capsLock : Bool) : Wm := ⟨.ofA, fun _ => 0, capsLock, false, false, false, .events, false, []⟩

theorem pair_right_a : 0 &&& KBD_FLAG_UP = 0 ∧ KBD_FLAG_UP &&& KBD_FLAG_UP ≠ 0 ∧
    PairRight (.ofA false) 0 KBD_FLAG_UP 97 := by
  refine ⟨by decide, by decide, (pair_right_iff (.ofA false) 97 0 KBD_FLAG_UP (by decide) (by decide)).2 ?_⟩
  exact ⟨.noshift, 38, foundAt_of_find (by decide) (by decide), rfl, by decide, .inl rfl⟩

/-- With caps lock on the module gets another character. -/
theorem capslock_not_right : ¬ ∀ (w : Wm) (unicode : Int) (down up : Nat), w.mod = .events →
    w.keymap.Appears unicode → down &&& KBD_FLAG_UP = 0 → up &&& KBD_FLAG_UP ≠ 0 →
    PairRight w down up unicode := by
  intro h
  obtain ⟨⟨new, hnew, sym, scanCode, deviceFlags, hmem⟩, -⟩ := h (.ofA true) 97 0 KBD_FLAG_UP rfl
    ⟨.noshift, 38, by decide, rfl⟩ (by decide) (by decide)
  have hcalls : ((Wm.ofA true).xrdpWmKeyUnicode 0 97).calls = [] ++ [.modEvent .keydown 65 65 30 0] := by
    decide
  rw [hcalls] at hnew
  rw [← List.append_cancel_left hnew, List.mem_singleton] at hmem
  cases hmem

end Xrdp.Keys
