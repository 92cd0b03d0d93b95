import Mathlib
import Xrdp.Lib.DLinks

/-!
# Request records

`sesman/chansrv/irp.c` keeps a record for every request that the client has not done with, in a list that is
linked both ways, with the newest at the end.

* `IrpMemory` — the records that are allocated, and their links; `devredirIrpNew`, `devredirIrpFind`,
  `devredirIrpFindByFileid`, `devredirIrpDelete`.
* `IrpMemory.Keeps` — the memory keeps a list of records, and nothing else.
* `Keeps.new`, `Keeps.find`, `Keeps.write`, `Keeps.delete` — what the functions do to the list.
-/

namespace Xrdp.Chansrv.Devredir

open DLinks Function

/-! ## Records -/

/-- `enum COMPLETION_TYPE`; a record that has been allocated has no type yet. -/
inductive CompletionType where
  | unset
  | CID_CREATE_DIR_REQ
  | CID_DIRECTORY_CONTROL
  | CID_CREATE_REQ
  | CID_OPEN_REQ
  | CID_READ
  | CID_WRITE
  | CID_CLOSE
  | CID_FILE_CLOSE
  | CID_RMDIR_OR_FILE
  | CID_RMDIR_OR_FILE_RESP
  | CID_RENAME_FILE
  | CID_RENAME_FILE_RESP
  | CID_LOOKUP
  | CID_SETATTR
  deriving DecidableEq

/-- `struct file_attr`. -/
structure FileAttr where
  mode : UInt32
  size : UInt64
  atime : UInt64
  mtime : UInt64
  deriving DecidableEq

/-- `enum irp_lookup_state` and `enum irp_setattr_state`. -/
inductive AttrState where
  | getFh
  | checkBasic
  | checkEof
  deriving DecidableEq

/-- `struct irp`, but for the links.  A record uses the members of `gen` that are for its kind. -/
structure Irp (φ : Type) where
  completionId : UInt32
  deviceId : UInt32
  fileId : UInt32
  completionType : CompletionType
  pathname : Option (List UInt8)
  /-- `gen.lookup.state` or `gen.setattr.state`. -/
  state : AttrState
  /-- `gen.lookup.fattr` or `gen.setattr.fattr`. -/
  fattr : FileAttr
  toSet : UInt32
  offset : UInt64
  creatingDir : Bool
  newName : List UInt8
  fuseInfo : Option φ
  /-- A callback is set: the request is one of `smartcard.c`. -/
  callback : Bool
  userData : Option φ

/-- What `g_malloc` fills with zeros. -/
def Irp.zero {φ : Type} (pathname : Option (List UInt8)) : Irp φ where
  completionId := 0
  deviceId := 0
  fileId := 0
  completionType := .unset
  pathname := pathname
  state := .getFh
  fattr := ⟨0, 0, 0, 0⟩
  toSet := 0
  offset := 0
  creatingDir := false
  newName := []
  fuseInfo := none
  callback := false
  userData := none

/-! ## Memory -/

/-- Why a function has no result: it follows a pointer to no record, reads on where a message has ended, or
does not end. -/
inductive Fault where
  | noRecord
  | noData
  | endless
  deriving DecidableEq

/-- Results of functions that may go wrong. -/
abbrev Checked := Except Fault

@[simp] theorem ok_bind {α β : Type} (a : α) (f : α → Checked β) : ((.ok a : Checked α) >>= f) = f a := rfl

@[simp] theorem error_bind {α β : Type} (e : Fault) (f : α → Checked β) :
    ((.error e : Checked α) >>= f) = .error e := rfl

@[simp] theorem pure_eq {α : Type} (a : α) : (pure a : Checked α) = .ok a := rfl

theorem bind_eq_ok {α β : Type} {x : Checked α} {f : α → Checked β} {b : β} :
    (x >>= f) = .ok b ↔ ∃ a, x = .ok a ∧ f a = .ok b := by
  cases x <;> simp

/-- The records that are allocated, by their addresses, their links, and `g_irp_head`. -/
structure IrpMemory (φ : Type) where
  irps : Nat → Option (Irp φ)
  next : Nat → Option Nat
  prev : Nat → Option Nat
  head : Option Nat
  /-- How many records are allocated. -/
  count : Nat

namespace IrpMemory

variable {φ : Type}

/-- Nothing is allocated. -/
def empty : IrpMemory φ := ⟨fun _ => none, fun _ => none, fun _ => none, none, 0⟩

/-- `*irp`. -/
def read (m : IrpMemory φ) (irp : Nat) : Checked (Irp φ) :=
  match m.irps irp with
  | none => .error .noRecord
  | some r => .ok r

/-- The fields of `*irp` are written. -/
def write (m : IrpMemory φ) (irp : Nat) (r : Irp φ) : Checked (IrpMemory φ) := do
  let _ ← m.read irp
  return { m with irps := update m.irps irp (some r) }

/-- `irp->next = next`. -/
def setNext (m : IrpMemory φ) (irp : Nat) (next : Option Nat) : Checked (IrpMemory φ) := do
  let _ ← m.read irp
  return { m with next := update m.next irp next }

/-- `irp->prev = prev`. -/
def setPrev (m : IrpMemory φ) (irp : Nat) (prev : Option Nat) : Checked (IrpMemory φ) := do
  let _ ← m.read irp
  return { m with prev := update m.prev irp prev }

/-- `g_free(irp)`. -/
def free (m : IrpMemory φ) (irp : Nat) : Checked (IrpMemory φ) := do
  let _ ← m.read irp
  return { m with irps := update m.irps irp none, count := m.count - 1 }

/-- `g_malloc` of a record at this address. -/
def malloc (m : IrpMemory φ) (irp : Nat) (pathname : Option (List UInt8)) : IrpMemory φ :=
  { m with
    irps := update m.irps irp (some (.zero pathname))
    next := update m.next irp none
    prev := update m.prev irp none
    count := m.count + 1 }

/-- The loops over the list, up to a record that is looked for. -/
def findLoop (m : IrpMemory φ) (p : Nat → Irp φ → Bool) : Nat → Option Nat → Checked (Option Nat)
  | _, none => .ok none
  | 0, some _ => .error .endless
  | n + 1, some irp => do
    let r ← m.read irp
    if p irp r then .ok (some irp) else m.findLoop p n (m.next irp)

/-- `devredir_irp_find`. -/
def devredirIrpFind (m : IrpMemory φ) (completionId : UInt32) : Checked (Option Nat) :=
  m.findLoop (fun _ r => r.completionId == completionId) m.count m.head

/-- `devredir_irp_find_by_fileid`. -/
def devredirIrpFindByFileid (m : IrpMemory φ) (fileId : UInt32) : Checked (Option Nat) :=
  m.findLoop (fun _ r => r.fileId == fileId) m.count m.head

/-- `devredir_irp_get_last`. -/
def devredirIrpGetLast (m : IrpMemory φ) : Checked (Option Nat) :=
  m.findLoop (fun irp _ => m.next irp == none) m.count m.head

/-- `devredir_irp_new`, and with a path `devredir_irp_with_pathname_new`; `g_malloc` has a record or none. -/
def devredirIrpNew (m : IrpMemory φ) (alloc : Option Nat) (pathname : Option (List UInt8)) :
    Checked (Option Nat × IrpMemory φ) :=
  match alloc with
  | none => .ok (none, m)
  | some irp => do
    let m := m.malloc irp pathname
    match ← m.devredirIrpGetLast with
    | none => return (some irp, { m with head := some irp })
    | some irpLast => do
      let m ← m.setNext irpLast (some irp)
      let m ← m.setPrev irp (some irpLast)
      return (some irp, m)

/-- `devredir_irp_delete`. -/
def devredirIrpDelete (m : IrpMemory φ) (irp : Nat) : Checked (Int × IrpMemory φ) := do
  match ← m.findLoop (fun lirp _ => lirp == irp) m.count m.head with
  | none => return (-1, m)
  | some lirp =>
    match m.prev lirp, m.next lirp with
    | none, none => do
      let m ← m.free lirp
      return (0, { m with head := none })
    | none, some next => do
      let m ← m.setPrev next none
      let m ← ({ m with head := some next } : IrpMemory φ).free lirp
      return (0, m)
    | some prev, none => do
      let m ← m.setNext prev none
      let m ← m.free lirp
      return (0, m)
    | some prev, some next => do
      let m ← m.setNext prev (some next)
      let m ← m.setPrev next (some prev)
      let m ← m.free lirp
      return (0, m)

/-! ## The list that the memory keeps -/

/-- The memory keeps these records, in this order, and nothing else. -/
structure Keeps (m : IrpMemory φ) (l : List (Nat × Irp φ)) : Prop where
  head : m.head = front some (l.map Prod.fst) none
  irps : ∀ a r, m.irps a = some r ↔ (a, r) ∈ l
  links : Seg some m.next m.prev none (l.map Prod.fst) none
  nodup : (l.map Prod.fst).Nodup
  count : m.count = l.length

variable {m : IrpMemory φ} {l pre suf : List (Nat × Irp φ)} {a : Nat} {r : Irp φ}

theorem read_ok (h : m.irps a = some r) : m.read a = .ok r := by rw [read, h]

/-- The loop finds the first record of its kind. -/
theorem findLoop_seg (p : Nat → Irp φ → Bool) (hirps : ∀ x ∈ l, m.irps x.1 = some x.2) {q : Option Nat}
    (hseg : Seg some m.next m.prev q (l.map Prod.fst) none) {n : Nat} (hn : l.length ≤ n) :
    m.findLoop p n (front some (l.map Prod.fst) none) = .ok ((l.find? fun x => p x.1 x.2).map Prod.fst) := by
  induction l generalizing q n with
  | nil => cases n <;> rfl
  | cons x l ih =>
    obtain ⟨n, rfl⟩ : ∃ k, n = k + 1 := ⟨n - 1, by rw [List.length_cons] at hn; omega⟩
    rw [List.map_cons, seg_cons] at hseg
    rw [List.map_cons, front_cons, findLoop, read_ok (hirps x List.mem_cons_self), ok_bind, List.find?_cons]
    by_cases hp : p x.1 x.2
    · simp [hp]
    · have hrest := ih (fun y hy => hirps y (List.mem_cons_of_mem _ hy)) hseg.2.2 (n := n) (by
        rw [List.length_cons] at hn
        omega)
      rw [if_neg hp, hseg.2.1, hrest]
      simp [hp]

theorem Keeps.record (h : m.Keeps l) : ∀ x ∈ l, m.irps x.1 = some x.2 := fun x hx => (h.irps x.1 x.2).2 hx

/-- **What is looked for is the first record with it.** -/
theorem Keeps.findLoop (h : m.Keeps l) (p : Nat → Irp φ → Bool) :
    m.findLoop p m.count m.head = .ok ((l.find? fun x => p x.1 x.2).map Prod.fst) := by
  rw [h.head]
  exact findLoop_seg p h.record h.links h.count.ge

theorem Keeps.absent (h : m.Keeps (pre ++ (a, r) :: suf)) : ∀ x ∈ pre ++ suf, x.1 ≠ a := by
  intro x hx heq
  have hnodup := h.nodup
  rw [List.map_append, List.map_cons, List.nodup_middle, List.nodup_cons, ← List.map_append] at hnodup
  exact hnodup.1 (List.mem_map.2 ⟨x, hx, heq⟩)

theorem Keeps.read (h : m.Keeps (pre ++ (a, r) :: suf)) : m.read a = .ok r :=
  read_ok ((h.irps a r).2 (by simp))

/-- **A record is written.** -/
theorem Keeps.write (h : m.Keeps (pre ++ (a, r) :: suf)) (r' : Irp φ) :
    ∃ m', m.write a r' = .ok m' ∧ m'.Keeps (pre ++ (a, r') :: suf) := by
  refine ⟨{ m with irps := update m.irps a (some r') }, ?_, ?_⟩
  · rw [IrpMemory.write, h.read, ok_bind, pure_eq]
  have habsent := h.absent
  constructor
  · simpa using h.head
  · intro b s
    by_cases hb : b = a
    · subst hb
      have hnew : (b, s) ∉ pre ++ suf := fun hmem => habsent _ hmem rfl
      rw [List.mem_append, not_or] at hnew
      simp [hnew.1, hnew.2, eq_comm]
    · show update m.irps a _ b = _ ↔ _
      rw [update_of_ne hb, h.irps]
      simp [hb]
  · simpa using h.links
  · simpa using h.nodup
  · simpa using h.count

/-- The last record is the one that nothing follows. -/
theorem getLast_seg (hhead : m.head = front some (l.map Prod.fst) none) (hirps : ∀ x ∈ l, m.irps x.1 = some x.2)
    (hseg : Seg some m.next m.prev none (l.map Prod.fst) none) (hn : l.length ≤ m.count) :
    m.devredirIrpGetLast = .ok (l.map Prod.fst).getLast? := by
  have hlast : ∀ (l : List (Nat × Irp φ)) {q : Option Nat}, Seg some m.next m.prev q (l.map Prod.fst) none →
      (l.find? fun x => m.next x.1 == none).map Prod.fst = (l.map Prod.fst).getLast? := by
    intro l
    induction l with
    | nil => exact fun _ => rfl
    | cons x l ih =>
      intro q hseg
      rw [List.map_cons, seg_cons] at hseg
      rw [List.find?_cons, hseg.2.1]
      cases l with
      | nil => simp
      | cons y l =>
        have hrest := ih hseg.2.2
        simpa using hrest
  rw [devredirIrpGetLast, hhead, findLoop_seg _ hirps hseg hn, hlast l hseg]

/-- **A new record is the last one.** -/
theorem Keeps.new (h : m.Keeps l) (hfree : m.irps a = none) (pathname : Option (List UInt8)) :
    ∃ m', m.devredirIrpNew (some a) pathname = .ok (some a, m') ∧ m'.Keeps (l ++ [(a, .zero pathname)]) := by
  have hne : ∀ x ∈ l, x.1 ≠ a := by
    intro x hx heq
    have hrecord := h.record x hx
    rw [heq, hfree] at hrecord
    cases hrecord
  have hna : a ∉ l.map Prod.fst := by
    intro hmem
    obtain ⟨x, hx, heq⟩ := List.mem_map.1 hmem
    exact hne x hx heq
  have hirps : ∀ b s, update m.irps a (some (.zero pathname)) b = some s ↔
      (b, s) ∈ l ++ [(a, .zero pathname)] := by
    intro b s
    by_cases hb : b = a
    · subst hb
      have hnew : (b, s) ∉ l := fun hmem => hne _ hmem rfl
      simp [hnew, eq_comm]
    · rw [update_of_ne hb, h.irps]
      simp [hb]
  have hnodup : ((l ++ [(a, (.zero pathname : Irp φ))]).map Prod.fst).Nodup := by
    rw [List.map_append, List.map_singleton]
    exact h.nodup.append (List.nodup_singleton a) (List.disjoint_singleton.2 hna)
  have hout : ∀ x ∈ l, update m.irps a (some (.zero pathname)) x.1 = some x.2 := by
    intro x hx
    rw [update_of_ne (hne x hx)]
    exact h.record x hx
  have hlast : (m.malloc a pathname).devredirIrpGetLast = .ok ((l.map Prod.fst).getLast?) := by
    refine getLast_seg h.head hout (h.links.congr fun b hb => ?_) ?_
    · have hba : b ≠ a := fun heq => hna (heq ▸ hb)
      exact ⟨update_of_ne hba _ _, update_of_ne hba _ _⟩
    · exact h.count.ge.trans (Nat.le_succ _)
  rw [devredirIrpNew, hlast, ok_bind]
  rcases List.eq_nil_or_concat l with rfl | ⟨l, x, rfl⟩
  · refine ⟨_, rfl, ?_⟩
    constructor
    · rfl
    · exact hirps
    · simp [malloc]
    · exact hnodup
    · simp [malloc, h.count]
  · rw [List.concat_eq_append] at *
    have hx : x.1 ≠ a := hne x (by simp)
    rw [List.map_append, List.map_singleton, List.getLast?_concat]
    dsimp only
    rw [setNext, read_ok (hout x (by simp)), ok_bind, pure_eq, ok_bind, setPrev,
      read_ok (update_self ..), ok_bind, pure_eq, ok_bind, pure_eq]
    refine ⟨_, rfl, ?_⟩
    constructor
    · have hhead := h.head
      cases l <;> simpa [malloc] using hhead
    · exact hirps
    · have hnew : (l ++ [x] ++ [(a, (.zero pathname : Irp φ))]).map Prod.fst = (l ++ [x]).map Prod.fst ++ [a] := by
        simp
      have hend : ((l ++ [x]).map Prod.fst).getLast? = some x.1 := by simp
      rw [hnew]
      refine h.links.snoc h.nodup (fun b hb hbx => ?_) (fun b hb => ?_) (fun b hb => ?_) ?_ ?_
      · have hba : b ≠ a := fun heq => hna (heq ▸ hb)
        rw [hend] at hbx
        have hbx' : b ≠ x.1 := fun heq => hbx (heq ▸ rfl)
        simp [malloc, hba, hbx']
      · have hba : b ≠ a := fun heq => hna (heq ▸ hb)
        simp [malloc, hba]
      · rw [hend, Option.mem_some_iff] at hb
        simp [malloc, hb]
      · simp [malloc, hx.symm]
      · simp [malloc]
    · exact hnodup
    · simp [malloc, h.count]

/-- **A record is deleted.** -/
theorem Keeps.delete (h : m.Keeps (pre ++ (a, r) :: suf)) :
    ∃ m', m.devredirIrpDelete a = .ok (0, m') ∧ m'.Keeps (pre ++ suf) := by
  have habsent := h.absent
  have hfound : m.findLoop (fun lirp _ => lirp == a) m.count m.head = .ok (some a) := by
    have hnone : pre.find? (fun x => x.1 == a) = none := by
      rw [List.find?_eq_none]
      exact fun x hx => by simpa using habsent x (List.mem_append_left _ hx)
    rw [h.findLoop, List.find?_append, hnone]
    simp
  have hirps : ∀ b s, update m.irps a none b = some s ↔ (b, s) ∈ pre ++ suf := by
    intro b s
    by_cases hb : b = a
    · subst hb
      have hnew : (b, s) ∉ pre ++ suf := fun hmem => habsent _ hmem rfl
      simpa using hnew
    · rw [update_of_ne hb, h.irps]
      simp [hb]
  have hnodup : ((pre ++ suf).map Prod.fst).Nodup := by
    refine h.nodup.sublist (List.Sublist.map _ ?_)
    exact List.Sublist.append_left (List.sublist_cons_self _ _) _
  have hcount : m.count - 1 = (pre ++ suf).length := by
    rw [h.count]
    simp
  have hlinks := h.links
  rw [List.map_append, List.map_cons] at hlinks
  have hends := hlinks
  rw [seg_append, seg_cons] at hends
  obtain ⟨-, hprev, hnext, -⟩ := hends
  have hrecord : ∀ x ∈ pre ++ suf, m.irps x.1 = some x.2 := by
    intro x hx
    refine h.record x ?_
    rw [List.mem_append] at hx ⊢
    exact hx.imp_right (List.mem_cons_of_mem _)
  have hfree : ∀ m' : IrpMemory φ, m'.irps = m.irps →
      m'.free a = .ok { m' with irps := update m.irps a none, count := m'.count - 1 } := by
    intro m' hsame
    rw [free, read_ok (by rw [hsame]; exact (h.irps a r).2 (by simp)), ok_bind, pure_eq, hsame]
  have hnextSet : ∀ (m' : IrpMemory φ) (v : Option Nat), m'.irps = m.irps → ∀ x ∈ pre ++ suf,
      m'.setNext x.1 v = .ok { m' with next := update m'.next x.1 v } := by
    intro m' v hsame x hx
    rw [setNext, read_ok (by rw [hsame]; exact hrecord x hx), ok_bind, pure_eq]
  have hprevSet : ∀ (m' : IrpMemory φ) (v : Option Nat), m'.irps = m.irps → ∀ x ∈ pre ++ suf,
      m'.setPrev x.1 v = .ok { m' with prev := update m'.prev x.1 v } := by
    intro m' v hsame x hx
    rw [setPrev, read_ok (by rw [hsame]; exact hrecord x hx), ok_bind, pure_eq]
  have hkeeps : ∀ next prev : Nat → Option Nat,
      (∀ b ∈ (pre ++ suf).map Prod.fst, b ∉ (pre.map Prod.fst).getLast? → next b = m.next b) →
      (∀ b ∈ (pre ++ suf).map Prod.fst, b ∉ (suf.map Prod.fst).head? → prev b = m.prev b) →
      (∀ b ∈ (pre.map Prod.fst).getLast?, next b = m.next a) →
      (∀ b ∈ (suf.map Prod.fst).head?, prev b = m.prev a) →
      Keeps ⟨update m.irps a none, next, prev, front some ((pre ++ suf).map Prod.fst) none, m.count - 1⟩
        (pre ++ suf) := by
    intro next prev hn hp hjoin hjoin'
    refine ⟨rfl, hirps, ?_, hnodup, hcount⟩
    rw [List.map_append] at hn hp hnodup ⊢
    exact hlinks.remove hnodup hn hp hjoin hjoin'
  have hhead := h.head
  rw [devredirIrpDelete, hfound, ok_bind]
  dsimp only
  rw [hprev, hnext]
  rcases List.eq_nil_or_concat pre with rfl | ⟨pre, y, rfl⟩
  · cases suf with
    | nil =>
      have hkept := hkeeps m.next m.prev (by simp) (by simp) (by simp) (by simp)
      refine ⟨_, ?_, hkept⟩
      simp only [List.map_nil, back_nil, front_nil]
      rw [hfree m rfl, ok_bind]
      rfl
    | cons z suf =>
      have hz : z.1 ∉ suf.map Prod.fst := (List.nodup_cons.1 hnodup).1
      have hkept := hkeeps m.next (update m.prev z.1 none) (by simp)
        (fun b hb hbz => update_of_ne (by simpa [eq_comm] using hbz) _ _) (by simp) (by simpa using hprev.symm)
      refine ⟨_, ?_, hkept⟩
      simp only [List.map_nil, back_nil, List.map_cons, front_cons]
      rw [hprevSet m none rfl z (by simp), ok_bind, hfree _ (by rfl), ok_bind]
      rfl
  · rw [List.concat_eq_append] at *
    have hend : ((pre ++ [y]).map Prod.fst).getLast? = some y.1 := by simp
    have hback : back some none ((pre ++ [y]).map Prod.fst) = some y.1 := by simp
    have hfront : m.head = front some ((pre ++ [y] ++ suf).map Prod.fst) none := by
      rw [hhead]
      cases pre <;> simp
    rw [hback] at hprev ⊢
    rw [hend] at hkeeps
    cases suf with
    | nil =>
      have hkept := hkeeps (update m.next y.1 none) m.prev
        (fun b hb hby => update_of_ne (by simpa [eq_comm] using hby) _ _) (by simp) (by simpa using hnext.symm)
        (by simp)
      refine ⟨_, ?_, hkept⟩
      simp only [List.map_nil, front_nil]
      rw [hnextSet m none rfl y (by simp), ok_bind, hfree _ (by rfl), ok_bind, ← hfront]
      rfl
    | cons z suf =>
      have hkept := hkeeps (update m.next y.1 (some z.1)) (update m.prev z.1 (some y.1))
        (fun b hb hby => update_of_ne (by simpa [eq_comm] using hby) _ _)
        (fun b hb hbz => update_of_ne (by simpa [eq_comm] using hbz) _ _) (by simpa using hnext.symm)
        (by simpa using hprev.symm)
      refine ⟨_, ?_, hkept⟩
      simp only [List.map_cons, front_cons]
      rw [hnextSet m _ rfl y (by simp), ok_bind, hprevSet _ _ (by rfl) z (by simp), ok_bind, hfree _ (by rfl), ok_bind]
      rw [← hfront]
      rfl

end IrpMemory

end Xrdp.Chansrv.Devredir
