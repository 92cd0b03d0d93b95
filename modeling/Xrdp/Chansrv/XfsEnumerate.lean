import Xrdp.Chansrv.XfsReaddir

/-!
# Enumerations of directories that change

* `Enumeration`, `enumStep` — calls that read a directory, each with the offset from the one before,
  and changes in between.
* `Enumerates` — what an enumeration should come to.
* `readdir_enumerates` — it comes to that if the changes fit, and the number and the generation of the
  directory are never given to a new entry.
* `generation_reused` — they may be, after `2 ^ 32` removals.
* `xfuseCbReaddir_calls` — a request is a row of calls.
-/

namespace Xrdp.Chansrv

open Forest Function XfsFs

/-- An enumeration: the file system, the last offset and the entries returned. -/
structure Enumeration where
  xfs : XfsFs
  off : Int
  returned : List Nat

inductive EnumAction where
  | change (c : Change)
  | readdir

def EnumAction.isReaddir : EnumAction → Bool
  | .change _ => false
  | .readdir => true

def enumStep (handle : XfsDirHandle) (s : Enumeration) : EnumAction → Run Enumeration
  | .change c => do
    let xfs ← change s.xfs c
    pure { s with xfs := xfs }
  | .readdir => do
    let (result, off) ← xfsReaddir s.xfs handle s.off
    pure { s with off := off, returned := s.returned ++ result.toList }

def EnumNext (handle : XfsDirHandle) (s : Enumeration) (a : EnumAction) (s' : Enumeration) : Prop :=
  enumStep handle s a = .ok s'

/-- The change fits, and does not make a new entry of the number and the generation of the directory. -/
def EnumFits (handle : XfsDirHandle) (s : Enumeration) : EnumAction → Prop
  | .change c => c.Fits s.xfs ∧ ¬c.Makes s.xfs handle.inum handle.generation
  | .readdir => True

/-! ## What an enumeration should come to -/

/-- What should hold when an enumeration has come from `s` to `s'`. -/
structure Enumerated (handle : XfsDirHandle) (s : Enumeration) (as : List EnumAction)
    (s' : Enumeration) : Prop where
  /-- No inode is returned twice, and the numbers increase. -/
  ascending : s'.returned.Pairwise (· < ·)
  /-- What was in the directory all the time has been returned in the end. -/
  complete : ∀ i, (∀ before s₁, before <+: as → Runs.Leads (EnumNext handle) s before s₁ →
    s₁.xfs.tree.parent i = some handle.inum) → s'.off = -1 → i ∈ s'.returned
  /-- Nothing more is returned when the directory has been removed. -/
  removed : ∀ before s₁, before <+: as → Runs.Leads (EnumNext handle) s before s₁ →
    s₁.xfs.tree handle.inum = none → s'.returned = s₁.returned
  /-- The end stays the end, -/
  ended : ∀ before s₁, before <+: as → Runs.Leads (EnumNext handle) s before s₁ → s₁.off = -1 →
    s'.off = -1 ∧ s'.returned = s₁.returned
  /-- and comes. -/
  ends : 2 ^ 32 ≤ as.countP EnumAction.isReaddir → s'.off = -1

/-- The enumeration can go on, and comes to what it should. -/
def Enumerates (handle : XfsDirHandle) (s : Enumeration) (as : List EnumAction) : Prop :=
  ∃ s', Runs.Leads (EnumNext handle) s as s' ∧ Enumerated handle s as s'

/-! ## The invariant -/

/-- What holds of an enumeration. -/
structure EnumInv (s : Enumeration) : Prop where
  inv : Inv s.xfs
  ascending : s.returned.Pairwise (· < ·)
  /-- The offset is behind what has been returned. -/
  off : s.off = -1 ∨ ∃ k : Nat, k < 2 ^ 32 ∧ s.off = k ∧ ∀ i ∈ s.returned, i < k

variable {handle : XfsDirHandle} {s s' : Enumeration}

theorem enumNext_unique (s : Enumeration) (a : EnumAction) (s₁ s₂ : Enumeration)
    (h₁ : EnumNext handle s a s₁) (h₂ : EnumNext handle s a s₂) : s₁ = s₂ :=
  Except.ok.inj ((Eq.symm h₁).trans h₂)

/-- What a call can come to: the entry returned, and the new offset. -/
inductive Reads (handle : XfsDirHandle) (s : Enumeration) : Option Nat → Int → Prop
  | nothing : (¬handle.Opened s.xfs.tree ∨ s.off = -1 ∨
      ∃ k : Nat, s.off = k ∧ childrenFrom s.xfs handle.inum k = []) → Reads handle s none (-1)
  | last (k r : Nat) : handle.Opened s.xfs.tree → s.off = k →
      childrenFrom s.xfs handle.inum k = [r] → Reads handle s (some r) (-1)
  | more (k r n : Nat) (rest : List Nat) : handle.Opened s.xfs.tree → s.off = k →
      childrenFrom s.xfs handle.inum k = r :: n :: rest → Reads handle s (some r) n

/-- **What a call comes to.** -/
theorem readdir_cases (handle : XfsDirHandle) (h : EnumInv s) :
    ∃ result off, xfsReaddir s.xfs handle s.off = .ok (result, off) ∧ Reads handle s result off := by
  by_cases hopened : handle.Opened s.xfs.tree
  · rcases h.off with hend | ⟨k, hk, hoff, -⟩
    · rw [hend, xfsReaddir_end h.inv]
      exact ⟨none, -1, rfl, .nothing (.inr (.inl hend))⟩
    · rw [hoff, xfsReaddir_opened h.inv hopened (by omega)]
      cases hfrom : childrenFrom s.xfs handle.inum k with
      | nil => exact ⟨none, -1, rfl, .nothing (.inr (.inr ⟨k, hoff, hfrom⟩))⟩
      | cons r rest =>
        cases rest with
        | nil => exact ⟨some r, -1, rfl, .last k r hopened hoff hfrom⟩
        | cons n rest => exact ⟨some r, n, rfl, .more k r n rest hopened hoff hfrom⟩
  · rw [xfsReaddir_closed h.inv hopened]
    exact ⟨none, -1, rfl, .nothing (.inl hopened)⟩

/-- An ascending list goes on with a number behind all others. -/
theorem ascending_concat {L : List Nat} {k r : Nat} (hL : L.Pairwise (· < ·)) (hk : ∀ i ∈ L, i < k)
    (hr : k ≤ r) : (L ++ [r]).Pairwise (· < ·) := by
  rw [List.pairwise_append]
  refine ⟨hL, List.pairwise_singleton _ _, fun i hi j hj => ?_⟩
  rw [List.mem_singleton.1 hj]
  exact Nat.lt_of_lt_of_le (hk i hi) hr

/-- The enumeration after a call. -/
def Enumeration.read (s : Enumeration) (result : Option Nat) (off : Int) : Enumeration :=
  { s with off := off, returned := s.returned ++ result.toList }

/-- **A call keeps the invariant**, and the offset increases. -/
theorem Reads.inv (h : EnumInv s) {result : Option Nat} {off : Int}
    (hreads : Reads handle s result off) : EnumInv (s.read result off) := by
  have hbehind : ∀ k : Nat, s.off = k → ∀ i ∈ s.returned, i < k := by
    intro k hoff
    rcases h.off with hend | ⟨k', -, hoff', hall⟩
    · omega
    · obtain rfl : k' = k := by omega
      exact hall
  cases hreads with
  | nothing =>
    refine ⟨h.inv, ?_, .inl rfl⟩
    rw [Enumeration.read, Option.toList_none, List.append_nil]
    exact h.ascending
  | last k r _ hoff hfrom =>
    have hr := (mem_childrenFrom.1 (hfrom ▸ List.mem_cons_self)).1
    exact ⟨h.inv, ascending_concat h.ascending (hbehind k hoff) hr, .inl rfl⟩
  | more k r n rest _ hoff hfrom =>
    have hr := (mem_childrenFrom.1 (hfrom ▸ List.mem_cons_self)).1
    have hn : n ∈ childrenFrom s.xfs handle.inum k := by
      rw [hfrom]
      exact List.mem_cons_of_mem _ List.mem_cons_self
    have hlt := (mem_childrenFrom.1 hn).2.1
    have hcount := h.inv.count.2
    have hsorted := @childrenFrom_sorted s.xfs handle.inum k
    rw [hfrom, List.pairwise_cons] at hsorted
    have hrn := hsorted.1 n List.mem_cons_self
    refine ⟨h.inv, ascending_concat h.ascending (hbehind k hoff) hr,
      .inr ⟨n, by omega, rfl, fun i hi => ?_⟩⟩
    rcases List.mem_append.1 hi with hi | hi
    · have hik := hbehind k hoff i hi
      omega
    · rw [List.mem_singleton.1 hi]
      exact hrn

/-- **A step that fits** can be taken and keeps the invariant. -/
theorem enumStep_spec (h : EnumInv s) (a : EnumAction) (hfits : EnumFits handle s a) :
    ∃ s', EnumNext handle s a s' ∧ EnumInv s' := by
  cases a with
  | readdir =>
    obtain ⟨result, off, hread, hreads⟩ := readdir_cases handle h
    refine ⟨s.read result off, ?_, hreads.inv h⟩
    rw [EnumNext, enumStep, hread]
    rfl
  | change c =>
    obtain ⟨xfs', hrun, hinv', -⟩ := change_spec h.inv hfits.1
    refine ⟨{ s with xfs := xfs' }, ?_, hinv', h.ascending, h.off⟩
    rw [EnumNext, enumStep, hrun]
    rfl

/-- What a change comes to. -/
theorem change_cases (h : EnumInv s) {c : Change} (hfits : EnumFits handle s (.change c))
    (hnext : EnumNext handle s (.change c) s') :
    s'.off = s.off ∧ s'.returned = s.returned ∧ Arises s.xfs c s'.xfs := by
  obtain ⟨xfs', hrun, -, harises⟩ := change_spec h.inv hfits.1
  rw [EnumNext, enumStep, hrun] at hnext
  cases hnext
  exact ⟨rfl, rfl, harises⟩

theorem readdir_reads (h : EnumInv s) (hnext : EnumNext handle s .readdir s') :
    ∃ result off, s' = s.read result off ∧ Reads handle s result off := by
  obtain ⟨result, off, hread, hreads⟩ := readdir_cases handle h
  rw [EnumNext, enumStep, hread] at hnext
  cases hnext
  exact ⟨result, off, rfl, hreads⟩

/-! ## The directory -/

/-- The directory that was opened stays the one that was opened, as long as there is one. -/
theorem opened_step (h : EnumInv s) {a : EnumAction} (hfits : EnumFits handle s a)
    (hnext : EnumNext handle s a s') (hopened : handle.Opened s.xfs.tree)
    (hlive : (s'.xfs.tree handle.inum).isSome) : handle.Opened s'.xfs.tree := by
  cases a with
  | readdir =>
    obtain ⟨result, off, rfl, -⟩ := readdir_reads h hnext
    exact hopened
  | change c =>
    obtain ⟨-, -, harises⟩ := change_cases h hfits hnext
    obtain ⟨y', hy'⟩ := Option.isSome_iff_exists.1 hlive
    obtain ⟨y, hy, hdir, hgeneration⟩ := hopened
    rcases harises handle.inum y' hy' with ⟨w, hw, hgeneration', hmode⟩ | ⟨hnone, -⟩
    · rw [hy] at hw
      cases hw
      refine ⟨y', hy', ?_, hgeneration.trans hgeneration'.symm⟩
      rw [Entry.isDir, hmode]
      exact hdir
    · rw [hy] at hnone
      cases hnone

/-- **A directory that is gone is not there again.** -/
theorem closed_step (h : EnumInv s) {a : EnumAction} (hfits : EnumFits handle s a)
    (hnext : EnumNext handle s a s') (hclosed : ¬handle.Opened s.xfs.tree) :
    ¬handle.Opened s'.xfs.tree := by
  cases a with
  | readdir =>
    obtain ⟨result, off, rfl, -⟩ := readdir_reads h hnext
    exact hclosed
  | change c =>
    obtain ⟨-, -, harises⟩ := change_cases h hfits hnext
    rintro ⟨y', hy', hdir, hgeneration⟩
    rcases harises handle.inum y' hy' with ⟨y, hy, hgeneration', hmode⟩ | ⟨-, hmakes⟩
    · refine hclosed ⟨y, hy, ?_, hgeneration.trans hgeneration'⟩
      rw [Entry.isDir, hmode] at hdir
      exact hdir
    · rw [← hgeneration] at hmakes
      exact hfits.2 hmakes

/-- A step after the end, or when the directory is gone. -/
theorem quiet_step (h : EnumInv s) {a : EnumAction} (hfits : EnumFits handle s a)
    (hnext : EnumNext handle s a s') (hquiet : ¬handle.Opened s.xfs.tree ∨ s.off = -1) :
    s'.returned = s.returned ∧ (s.off = -1 → s'.off = -1) := by
  cases a with
  | change c =>
    obtain ⟨hoff, hreturned, -⟩ := change_cases h hfits hnext
    exact ⟨hreturned, fun hend => hoff.trans hend⟩
  | readdir =>
    have hnever : ∀ {k : Nat}, handle.Opened s.xfs.tree → s.off = k → False := by
      intro k hopened hoff
      rcases hquiet with hclosed | hend
      · exact hclosed hopened
      · omega
    obtain ⟨result, off, rfl, hreads⟩ := readdir_reads h hnext
    cases hreads with
    | nothing => exact ⟨List.append_nil _, fun _ => rfl⟩
    | last k r hopened hoff => exact (hnever hopened hoff).elim
    | more k r n rest hopened hoff => exact (hnever hopened hoff).elim

/-- **Nothing is returned after the end, or when the directory is gone.** -/
theorem quiet_run (h : EnumInv s) {as : List EnumAction}
    (hfits : Runs.AllFit (EnumNext handle) (EnumFits handle) s as)
    (hleads : Runs.Leads (EnumNext handle) s as s')
    (hquiet : ¬handle.Opened s.xfs.tree ∨ s.off = -1) :
    s'.returned = s.returned ∧ (s.off = -1 → s'.off = -1) := by
  induction as generalizing s with
  | nil =>
    cases hleads
    exact ⟨rfl, id⟩
  | cons a as ih =>
    obtain ⟨s₁, hnext, hrest⟩ := hleads
    obtain ⟨s₂, hnext₂, hinv⟩ := enumStep_spec h a hfits.1
    obtain rfl := enumNext_unique s a s₂ s₁ hnext₂ hnext
    obtain ⟨hreturned, hoff⟩ := quiet_step h hfits.1 hnext hquiet
    obtain ⟨hreturned', hoff'⟩ := ih hinv (hfits.2 _ hnext) hrest
      (hquiet.imp (closed_step h hfits.1 hnext) hoff)
    exact ⟨hreturned'.trans hreturned, fun hend => hoff' (hoff hend)⟩

/-! ## What is in the directory all the time -/

/-- The entry has been returned, or the offset is not behind it. -/
def Ahead (s : Enumeration) (i : Nat) : Prop := i ∈ s.returned ∨ ∃ k : Nat, s.off = k ∧ k ≤ i

/-- A step does not leave an entry of the directory out. -/
theorem ahead_step (h : EnumInv s) {i : Nat} {a : EnumAction} (hfits : EnumFits handle s a)
    (hnext : EnumNext handle s a s') (hopened : handle.Opened s.xfs.tree)
    (hin : s.xfs.tree.parent i = some handle.inum) (hahead : Ahead s i) : Ahead s' i := by
  cases a with
  | change c =>
    obtain ⟨hoff, hreturned, -⟩ := change_cases h hfits hnext
    rw [Ahead, hoff, hreturned]
    exact hahead
  | readdir =>
    obtain ⟨result, off, rfl, hreads⟩ := readdir_reads h hnext
    rcases hahead with hmem | ⟨k, hoff, hki⟩
    · exact .inl (List.mem_append_left _ hmem)
    · have hi : i ∈ childrenFrom s.xfs handle.inum k :=
        mem_childrenFrom.2 ⟨hki, h.inv.lt_count (Tree.isSome_of_parent hin), hin⟩
      have hsame : ∀ {k' : Nat}, s.off = k' → k' = k := by
        intro k' hoff'
        omega
      cases hreads with
      | nothing hwhy =>
        rcases hwhy with hclosed | hend | ⟨k', hoff', hnone⟩
        · exact absurd hopened hclosed
        · omega
        · rw [hsame hoff'] at hnone
          rw [hnone] at hi
          cases hi
      | last k' r _ hoff' hfrom =>
        rw [hsame hoff'] at hfrom
        rw [hfrom] at hi
        exact .inl (List.mem_append_right _ hi)
      | more k' r n rest _ hoff' hfrom =>
        rw [hsame hoff'] at hfrom
        rw [hfrom, List.mem_cons] at hi
        rcases hi with rfl | hi
        · exact .inl (List.mem_append_right _ List.mem_cons_self)
        · refine .inr ⟨n, rfl, ?_⟩
          have hsorted := @childrenFrom_sorted s.xfs handle.inum k
          rw [hfrom, List.pairwise_cons, List.pairwise_cons] at hsorted
          rcases List.mem_cons.1 hi with rfl | hi
          · exact Nat.le_refl _
          · exact Nat.le_of_lt (hsorted.2.1 i hi)

/-- **What is in the directory all the time is not left out.** -/
theorem ahead_run (h : EnumInv s) {i : Nat} {as : List EnumAction}
    (hfits : Runs.AllFit (EnumNext handle) (EnumFits handle) s as)
    (hleads : Runs.Leads (EnumNext handle) s as s') (hopened : handle.Opened s.xfs.tree)
    (hin : ∀ before s₁, before <+: as → Runs.Leads (EnumNext handle) s before s₁ →
      s₁.xfs.tree.parent i = some handle.inum) (hahead : Ahead s i) : Ahead s' i := by
  induction as generalizing s with
  | nil =>
    cases hleads
    exact hahead
  | cons a as ih =>
    obtain ⟨s₁, hnext, hrest⟩ := hleads
    obtain ⟨s₂, hnext₂, hinv⟩ := enumStep_spec h a hfits.1
    obtain rfl := enumNext_unique s a s₂ s₁ hnext₂ hnext
    have hin' : ∀ before s₃, before <+: as → Runs.Leads (EnumNext handle) s₂ before s₃ →
        s₃.xfs.tree.parent i = some handle.inum := fun before s₃ hbefore hleads =>
      hin (a :: before) s₃ (List.cons_prefix_cons.2 ⟨rfl, hbefore⟩) ⟨s₂, hnext, hleads⟩
    have hlive := hinv.inv.isSome_parent (hin' [] s₂ List.nil_prefix rfl)
    exact ih hinv (hfits.2 _ hnext) hrest (opened_step h hfits.1 hnext hopened hlive) hin'
      (ahead_step h hfits.1 hnext hopened (hin [] s List.nil_prefix rfl) hahead)

/-! ## The end -/

/-- A call that is not the last one returns an entry. -/
theorem count_step (h : EnumInv s) {a : EnumAction} (hfits : EnumFits handle s a)
    (hnext : EnumNext handle s a s') (hoff : s'.off ≠ -1) :
    s'.returned.length = s.returned.length + [a].countP EnumAction.isReaddir ∧ s.off ≠ -1 := by
  cases a with
  | change c =>
    obtain ⟨hsame, hreturned, -⟩ := change_cases h hfits hnext
    rw [hreturned, ← hsame]
    exact ⟨rfl, hoff⟩
  | readdir =>
    obtain ⟨result, off, rfl, hreads⟩ := readdir_reads h hnext
    cases hreads with
    | nothing => exact absurd rfl hoff
    | last => exact absurd rfl hoff
    | more k r n rest _ hk =>
      refine ⟨List.length_append, ?_⟩
      omega

theorem count_run (h : EnumInv s) {as : List EnumAction}
    (hfits : Runs.AllFit (EnumNext handle) (EnumFits handle) s as)
    (hleads : Runs.Leads (EnumNext handle) s as s') (hoff : s'.off ≠ -1) :
    EnumInv s' ∧ s'.returned.length = s.returned.length + as.countP EnumAction.isReaddir ∧
      s.off ≠ -1 := by
  induction as generalizing s with
  | nil =>
    cases hleads
    exact ⟨h, rfl, hoff⟩
  | cons a as ih =>
    obtain ⟨s₁, hnext, hrest⟩ := hleads
    obtain ⟨s₂, hnext₂, hinv⟩ := enumStep_spec h a hfits.1
    obtain rfl := enumNext_unique s a s₂ s₁ hnext₂ hnext
    obtain ⟨hinv', hlen, hoff'⟩ := ih hinv (hfits.2 _ hnext) hrest
    obtain ⟨hlen', hoff''⟩ := count_step h hfits.1 hnext hoff'
    refine ⟨hinv', ?_, hoff''⟩
    have hcons : (a :: as).countP EnumAction.isReaddir =
        [a].countP EnumAction.isReaddir + as.countP EnumAction.isReaddir :=
      @List.countP_append _ EnumAction.isReaddir [a] as
    omega

/-- Ascending numbers below `k` are no more than `k`. -/
theorem length_le_of_ascending {L : List Nat} {k : Nat} (hL : L.Pairwise (· < ·))
    (hk : ∀ i ∈ L, i < k) : L.length ≤ k := by
  have hnodup : L.Nodup := hL.imp Nat.ne_of_lt
  have hlen := (List.subperm_of_subset hnodup fun i hi => List.mem_range.2 (hk i hi)).length_le
  rwa [List.length_range] at hlen

/-- **Enumerations of directories that change**: every enumeration of a directory that has been opened
ends, in ascending order and with all that was in the directory all the time, and returns nothing after
the directory has been removed, if the changes fit and the number and the generation of the directory
are never given to a new entry. -/
theorem readdir_enumerates {xfs : XfsFs} (hinv : Inv xfs) {dir : Nat}
    (hopen : xfsOpendir xfs dir = .ok (some handle)) {as : List EnumAction}
    (hfits : Runs.AllFit (EnumNext handle) (EnumFits handle) ⟨xfs, 0, []⟩ as) :
    Enumerates handle ⟨xfs, 0, []⟩ as := by
  obtain ⟨-, hopened⟩ := xfsOpendir_opened hinv hopen
  have hstart : EnumInv ⟨xfs, 0, []⟩ :=
    ⟨hinv, .nil, .inr ⟨0, by decide, rfl, fun i hi => absurd hi List.not_mem_nil⟩⟩
  have hall := Runs.always_of_fits (fun s a h hfit => enumStep_spec h a hfit) hstart hfits
  obtain ⟨s', hleads, hinv'⟩ := hall as List.prefix_rfl
  -- what a run comes to after a state in which nothing more should be returned
  have hquiet : ∀ before s₁, before <+: as → Runs.Leads (EnumNext handle) ⟨xfs, 0, []⟩ before s₁ →
      ¬handle.Opened s₁.xfs.tree ∨ s₁.off = -1 →
        s'.returned = s₁.returned ∧ (s₁.off = -1 → s'.off = -1) := by
    rintro before s₁ ⟨rest, rfl⟩ hbefore hquiet
    obtain ⟨s₂, hbefore₂, hinv₁⟩ := hall before ⟨rest, rfl⟩
    obtain rfl := Runs.leads_unique enumNext_unique hbefore₂ hbefore
    obtain ⟨s₃, hbefore₃, hrest⟩ := Runs.leads_append.1 hleads
    obtain rfl := Runs.leads_unique enumNext_unique hbefore₃ hbefore
    exact quiet_run hinv₁ (Runs.allFit_of_append hfits hbefore) hrest hquiet
  refine ⟨s', hleads, hinv'.ascending, fun i hin hend => ?_, fun before s₁ hprefix hbefore hnone => ?_,
    fun before s₁ hprefix hbefore hend => ?_, fun hcount => ?_⟩
  · have hahead : Ahead ⟨xfs, 0, []⟩ i := .inr ⟨0, rfl, Nat.zero_le i⟩
    rcases ahead_run hstart hfits hleads hopened hin hahead with hmem | ⟨k, hoff, -⟩
    · exact hmem
    · omega
  · refine (hquiet before s₁ hprefix hbefore (.inl ?_)).1
    rintro ⟨y, hy, -⟩
    rw [hnone] at hy
    cases hy
  · obtain ⟨hreturned, hoff⟩ := hquiet before s₁ hprefix hbefore (.inr hend)
    exact ⟨hoff hend, hreturned⟩
  · by_contra hoff
    obtain ⟨-, hlen, -⟩ := count_run hstart hfits hleads hoff
    rcases hinv'.off with hend | ⟨k, hk, -, hbelow⟩
    · exact hoff hend
    · have hle := length_le_of_ascending hinv'.ascending hbelow
      rw [List.length_nil] at hlen
      omega

/-! ## Requests -/

/-- The loop of `xfuse_cb_readdir`, with the entries in the buffer `b`; `fits` is whether there is room
for another one with its offset. -/
def xfuseCbReaddirLoop (xfs : XfsFs) (handle : XfsDirHandle)
    (fits : List (Nat × Int) → Nat × Int → Bool) :
    Nat → List (Nat × Int) → Int → Run (List (Nat × Int))
  | 0, _, _ => .error .outOfFuel
  | fuel + 1, b, off => do
    let (result, newOff) ← xfsReaddir xfs handle off
    match result with
    | none => pure b
    | some inum =>
      if fits b (inum, newOff) then
        xfuseCbReaddirLoop xfs handle fits fuel (b ++ [(inum, newOff)]) newOff
      else pure b

/-- `xfuse_cb_readdir`: the entries with their offsets, or `ENOENT`. -/
def xfuseCbReaddir (xfs : XfsFs) (handle : XfsDirHandle) (ino : Nat)
    (fits : List (Nat × Int) → Nat × Int → Bool) (off : Int) : Run (Option (List (Nat × Int))) := do
  let xino ← xfsGet xfs ino
  if off = 0 ∧ xino.isNone then pure none
  else do
    let b ← xfuseCbReaddirLoop xfs handle fits (xfs.inodeCount + 1) [] off
    pure (some b)

/-- The offset after the entries of a buffer. -/
def lastOff (off : Int) (b : List (Nat × Int)) : Int := (b.getLast?.map Prod.snd).getD off

/-- The entries that the loop puts into the buffer are those of as many calls.  By induction on the
turns; less of the table is left after each of them. -/
theorem xfuseCbReaddirLoop_calls (fits : List (Nat × Int) → Nat × Int → Bool) (h : EnumInv s)
    {fuel : Nat} (hpos : 0 < fuel)
    (hfuel : ∀ k : Nat, s.off = k → s.xfs.inodeCount < fuel + k) (b : List (Nat × Int)) :
    ∃ more, xfuseCbReaddirLoop s.xfs handle fits fuel b s.off = .ok (b ++ more) ∧
      Runs.Leads (EnumNext handle) s (List.replicate more.length .readdir)
        ⟨s.xfs, lastOff s.off more, s.returned ++ more.map Prod.fst⟩ := by
  induction fuel generalizing s b with
  | zero => exact absurd hpos (Nat.lt_irrefl 0)
  | succ fuel ih =>
    obtain ⟨result, off, hread, hreads⟩ := readdir_cases handle h
    have hdone : b = b ++ [] := (List.append_nil b).symm
    have hstay : Runs.Leads (EnumNext handle) s [] ⟨s.xfs, lastOff s.off [], s.returned ++ []⟩ := by
      rw [List.append_nil]
      rfl
    rw [xfuseCbReaddirLoop, hread, Run.ok_bind]
    cases result with
    | none => exact ⟨[], congrArg Except.ok hdone, hstay⟩
    | some inum =>
      dsimp only
      split
      case isFalse => exact ⟨[], congrArg Except.ok hdone, hstay⟩
      case isTrue =>
        have hnext : EnumNext handle s .readdir (s.read (some inum) off) := by
          rw [EnumNext, enumStep, hread]
          rfl
        -- after the entry the offset is the end, or further on in the table
        have hfurther : 0 < fuel ∧ ∀ k : Nat, off = k → s.xfs.inodeCount < fuel + k := by
          cases hreads with
          | last k r _ hoff hfrom =>
            obtain ⟨hkr, hr, -⟩ := mem_childrenFrom.1 (hfrom ▸ List.mem_cons_self)
            have hk := hfuel k hoff
            exact ⟨by omega, fun k' hk' => by omega⟩
          | more k r n rest _ hoff hfrom =>
            obtain ⟨hkr, -, -⟩ := mem_childrenFrom.1 (hfrom ▸ List.mem_cons_self)
            have hn : n ∈ childrenFrom s.xfs handle.inum k := by
              rw [hfrom]
              exact List.mem_cons_of_mem _ List.mem_cons_self
            obtain ⟨-, hn, -⟩ := mem_childrenFrom.1 hn
            have hsorted := @childrenFrom_sorted s.xfs handle.inum k
            rw [hfrom, List.pairwise_cons] at hsorted
            have hrn := hsorted.1 n List.mem_cons_self
            have hk := hfuel k hoff
            exact ⟨by omega, fun k' hk' => by omega⟩
        obtain ⟨more, hloop, hleads⟩ := ih (hreads.inv h) hfurther.1 hfurther.2 (b ++ [(inum, off)])
        refine ⟨(inum, off) :: more, ?_, s.read (some inum) off, hnext, ?_⟩
        · have hcons : b ++ (inum, off) :: more = b ++ [(inum, off)] ++ more := List.append_cons ..
          rw [hcons]
          exact hloop
        · have hlast : lastOff off more = lastOff s.off ((inum, off) :: more) := by
            cases more with
            | nil => rfl
            | cons e more =>
              rw [lastOff, lastOff, List.getLast?_cons_cons]
              rfl
          have hreturned : s.returned ++ ((inum, off) :: more).map Prod.fst =
              s.returned ++ [inum] ++ more.map Prod.fst := by
            rw [List.map_cons]
            exact List.append_cons ..
          rw [← hlast, hreturned]
          exact hleads

/-- **A request is a row of calls**, from the offset that the kernel has got with the last entry. -/
theorem xfuseCbReaddir_calls (fits : List (Nat × Int) → Nat × Int → Bool) (h : EnumInv s)
    (ino : Nat) (hlive : s.off = 0 → (s.xfs.tree ino).isSome) :
    ∃ b, xfuseCbReaddir s.xfs handle ino fits s.off = .ok (some b) ∧
      Runs.Leads (EnumNext handle) s (List.replicate b.length .readdir)
        ⟨s.xfs, lastOff s.off b, s.returned ++ b.map Prod.fst⟩ := by
  obtain ⟨b, hloop, hleads⟩ := @xfuseCbReaddirLoop_calls handle s fits h (s.xfs.inodeCount + 1)
    (Nat.succ_pos _) (fun k _ => by omega) []
  refine ⟨b, ?_, hleads⟩
  have hsome : ¬(s.off = 0 ∧ (s.xfs.inodeTable ino).isNone) := by
    rintro ⟨hzero, hnone⟩
    have hino := hlive hzero
    rw [isSome_tree] at hino
    rw [Option.isNone_iff_eq_none.1 hnone] at hino
    cases hino
  rw [xfuseCbReaddir, h.inv.xfsGet_eq, Run.ok_bind, if_neg hsome, hloop]
  rfl

/-! ## A directory that is made again and again -/

/-- The directory of generation `g`. -/
def dirEntry (g : UInt32) : Entry := ⟨S_IFDIR, [0x61], g, 0, some FUSE_ROOT_ID, 0⟩

/-- A file system with nothing in the root. -/
structure Without (g : UInt32) (xfs : XfsFs) : Prop where
  inv : Inv xfs
  tree : xfs.tree = (created 0).tree
  freeList : xfs.freeList = 3 :: List.range' 4 4092
  generation : xfs.generation = g

/-- A file system with nothing but the directory, which has the generation `g`. -/
structure With (g : UInt32) (xfs : XfsFs) : Prop where
  inv : Inv xfs
  tree : xfs.tree = update (created 0).tree 3 (some (dirEntry g))
  freeList : xfs.freeList = List.range' 4 4092
  generation : xfs.generation = g

variable {xfs : XfsFs} {g : UInt32}

theorem created_without : Without 1 (created 0) := ⟨created_inv 0, rfl, rfl, rfl⟩

theorem not_fixed_three : ¬Tree.Fixed 3 := by
  rintro (h | h)
  · exact absurd h (by decide)
  · exact absurd h (by decide)

def addDir : Op := .add FUSE_ROOT_ID [0x61] S_IFDIR ⟨true, true, true⟩

def removeDir : Op := .removeEntry 3 not_fixed_three

/-- The directory is made. -/
theorem Without.add (h : Without g xfs) : ∃ xfs', step xfs addDir = .ok xfs' ∧ With g xfs' ∧
    xfsAddEntry xfs FUSE_ROOT_ID [0x61] S_IFDIR ⟨true, true, true⟩ = .ok (some 3, xfs') := by
  have hroot : xfs.tree FUSE_ROOT_ID = some (fixedInode 1 0 [0x2e] 1).entry := by
    rw [h.tree]
    rfl
  obtain ⟨z, hz, hentry, -⟩ := exists_inode h.inv.numbered hroot
  have hdir : z.isDir := by
    have hmode : z.mode = (fixedInode 1 0 [0x2e] 1).mode := congrArg Entry.mode hentry
    rw [XfsInode.isDir, hmode]
    decide
  have hdevice : z.deviceId = 0 := congrArg Entry.deviceId hentry
  obtain ⟨found, hlookup, hfound, -⟩ := xfsLookupInDir_spec h.inv hz hdir [0x61]
  have hnone : found = none := hfound.2 fun i w hw hp => by
    rw [h.tree] at hw
    rw [created_parent i w hw] at hp
    cases hp
  rw [hnone] at hlookup
  have hchecks : AddChecks xfs FUSE_ROOT_ID [0x61] z :=
    ⟨hz, hdir, by decide, by decide, hlookup⟩
  have hfree : xfs.freeList ≠ [] := by
    rw [h.freeList]
    exact List.cons_ne_nil _ _
  obtain ⟨result, xfs', hrun, hadded⟩ := xfsAddEntry_spec h.inv hchecks
    (fun hnil => absurd hnil hfree) S_IFDIR ⟨true, true, true⟩
  obtain ⟨inum, rfl⟩ := Option.ne_none_iff_exists'.1 (hadded.memory rfl rfl rfl)
  obtain ⟨hinum, -, htree⟩ := hadded.added inum rfl
  have hlist := hadded.freeList rfl rfl rfl
  rw [if_neg hfree, h.freeList] at hlist
  rw [h.freeList] at hinum
  obtain rfl : inum = 3 := hinum
  refine ⟨xfs', ?_, ⟨hadded.inv, ?_, hlist.2, hadded.generation.trans h.generation⟩, hrun⟩
  · rw [addDir, step, hrun]
    rfl
  · rw [htree, h.tree, newEntry, hdevice, h.generation]
    rfl

/-- The directory is removed. -/
theorem With.remove (h : With g xfs) : ∃ xfs', step xfs removeDir = .ok xfs' ∧ Without (g + 1) xfs' := by
  have hself : xfs.tree 3 = some (dirEntry g) := by rw [h.tree, update_self]
  have hlive : (xfs.tree 3).isSome := by
    rw [hself]
    rfl
  have hempty : ∀ i, xfs.tree.parent i ≠ some 3 := by
    intro i hp
    obtain ⟨y, hy⟩ := Option.isSome_iff_exists.1 (Tree.isSome_of_parent hp)
    rw [Tree.parent_of_eq hy] at hp
    by_cases hi : i = 3
    · rw [hi, hself] at hy
      cases hy
      cases hp
    · rw [h.tree, update_of_ne hi] at hy
      rw [created_parent i y hy] at hp
      cases hp
  obtain ⟨xfs', hrun, hinv', -, hremoved, hfreed⟩ :=
    removeEmptied_spec h.inv hlive not_fixed_three hempty
  have hnone : xfs'.tree 3 = none := by
    have hreg : (dirEntry g).isReg = false := by
      show decide (S_IFDIR &&& S_IFREG ≠ 0) = false
      decide
    rw [hremoved.gone 3 rfl, hself, Option.bind_some, Entry.removed, hreg]
    exact if_neg fun hboth => Bool.false_ne_true hboth.1
  obtain ⟨hlist, hgeneration⟩ := hfreed hnone
  refine ⟨xfs', ?_, hinv', ?_, ?_, ?_⟩
  · rw [removeDir, step, xfsRemoveEntry_empty h.inv hlive hempty, hrun]
  · funext i
    by_cases hi : i = 3
    · rw [hi, hnone]
      rfl
    · rw [hremoved.same i hi, h.tree, update_of_ne hi]
  · rw [hlist, h.freeList]
  · rw [hgeneration, h.generation]

/-- The directory is removed and made again, `n` times. -/
def cycles : Nat → List EnumAction
  | 0 => []
  | n + 1 => .change (.call removeDir) :: .change (.call addDir) :: cycles n

theorem enumNext_change {c : Change} {xfs' : XfsFs} (hrun : change s.xfs c = .ok xfs') :
    EnumNext handle s (.change c) { s with xfs := xfs' } := by
  rw [EnumNext, enumStep, hrun]
  rfl

/-- **The generation has been counted up** after that. -/
theorem cycles_leads (n : Nat) (h : With g s.xfs) :
    ∃ xfs', Runs.Leads (EnumNext handle) s (cycles n) { s with xfs := xfs' } ∧
      With (g + UInt32.ofNat n) xfs' := by
  induction n generalizing g s with
  | zero =>
    refine ⟨s.xfs, rfl, ?_⟩
    have hzero : UInt32.ofNat 0 = 0 := rfl
    rw [hzero, UInt32.add_zero]
    exact h
  | succ n ih =>
    obtain ⟨xfs₁, hremove, hwithout⟩ := h.remove
    obtain ⟨xfs₂, hadd, hwith, -⟩ := hwithout.add
    obtain ⟨xfs', hleads, hlast⟩ := ih (s := ⟨xfs₂, s.off, s.returned⟩) hwith
    refine ⟨xfs', ⟨⟨xfs₁, s.off, s.returned⟩, enumNext_change hremove, ⟨xfs₂, s.off, s.returned⟩,
      enumNext_change hadd, hleads⟩, ?_⟩
    have hsucc : g + UInt32.ofNat (n + 1) = g + 1 + UInt32.ofNat n := by
      rw [UInt32.ofNat_add, UInt32.add_comm (UInt32.ofNat n), ← UInt32.add_assoc]
      rfl
    rw [hsucc]
    exact hlast

/-- A file is added to the directory. -/
def addInDir : EnumAction := .change (.call (.add 3 [0x62] 0 ⟨true, true, true⟩))

theorem With.addInDir (h : With g s.xfs) :
    ∃ xfs', EnumNext handle s addInDir { s with xfs := xfs' } ∧ Inv xfs' ∧
      xfs'.tree 3 = some (dirEntry g) ∧ xfs'.tree.parent 4 = some 3 := by
  have hself : s.xfs.tree 3 = some (dirEntry g) := by rw [h.tree, update_self]
  obtain ⟨z, hz, hentry, -⟩ := exists_inode h.inv.numbered hself
  have hdir : z.isDir := by
    have hmode : z.mode = S_IFDIR := congrArg Entry.mode hentry
    rw [XfsInode.isDir, hmode]
    decide
  obtain ⟨found, hlookup, hfound, -⟩ := xfsLookupInDir_spec h.inv hz hdir [0x62]
  have hnone : found = none := hfound.2 fun i w hw hp => by
    by_cases hi : i = 3
    · rw [hi, hself] at hw
      cases hw
      cases hp
    · rw [h.tree, update_of_ne hi] at hw
      rw [created_parent i w hw] at hp
      cases hp
  rw [hnone] at hlookup
  have hfree : s.xfs.freeList ≠ [] := by
    rw [h.freeList]
    exact List.cons_ne_nil _ _
  obtain ⟨result, xfs', hrun, hadded⟩ := xfsAddEntry_spec h.inv
    ⟨hz, hdir, by decide, by decide, hlookup⟩ (fun hnil => absurd hnil hfree) 0 ⟨true, true, true⟩
  obtain ⟨inum, rfl⟩ := Option.ne_none_iff_exists'.1 (hadded.memory rfl rfl rfl)
  obtain ⟨hinum, -, htree⟩ := hadded.added inum rfl
  rw [h.freeList] at hinum
  obtain rfl : inum = 4 := hinum
  refine ⟨xfs', enumNext_change ?_, hadded.inv, ?_, ?_⟩
  · rw [change, step, hrun]
    rfl
  · rw [htree, update_of_ne (by decide), hself]
  · rw [Tree.parent, htree, update_self]
    rfl

/-- The handle of the directory of generation 1. -/
def dirHandle : XfsDirHandle := ⟨3, 1⟩

theorem With.opendir (h : With 1 xfs) : xfsOpendir xfs 3 = .ok (some dirHandle) := by
  have hself : xfs.tree 3 = some (dirEntry 1) := by rw [h.tree, update_self]
  obtain ⟨z, hz, hentry, hnum⟩ := exists_inode h.inv.numbered hself
  have hlt := h.inv.lt_count (i := 3) (by rw [hself]; rfl)
  have hmode : z.mode = S_IFDIR := congrArg Entry.mode hentry
  have hgeneration : z.generation = 1 := congrArg Entry.generation hentry
  have hdir : z.isDir := by
    rw [XfsInode.isDir, hmode]
    decide
  rw [xfsOpendir, if_pos hlt, h.inv.tableAt_eq hlt, Run.ok_bind, hz]
  dsimp only
  rw [if_pos hdir, hnum, hgeneration]
  rfl

/-- A file is put into the directory, and read. -/
theorem readdir_enumerates_file : ∃ xfs,
    xfsAddEntry (created 0) FUSE_ROOT_ID [0x61] S_IFDIR ⟨true, true, true⟩ = .ok (some 3, xfs) ∧
      Enumerates dirHandle ⟨xfs, 0, []⟩ [addInDir, .readdir] := by
  obtain ⟨xfs, -, hwith, hrun⟩ := created_without.add
  refine ⟨xfs, hrun, readdir_enumerates hwith.inv hwith.opendir ⟨⟨fun hnil => ?_, ?_⟩,
    fun _ _ => ⟨trivial, fun _ _ => trivial⟩⟩⟩
  · rw [hwith.freeList] at hnil
    cases hnil
  · rintro ⟨hnumber, -⟩
    rw [hwith.freeList] at hnumber
    have hfour : (4 : Nat) = 3 := hnumber
    exact absurd hfour (by decide)

/-- **After `2 ^ 32` removals the directory seems to be there again**, and another one is read. -/
theorem generation_reused : ∃ xfs,
    xfsAddEntry (created 0) FUSE_ROOT_ID [0x61] S_IFDIR ⟨true, true, true⟩ = .ok (some 3, xfs) ∧
      xfsOpendir xfs 3 = .ok (some dirHandle) ∧
      ¬Enumerates dirHandle ⟨xfs, 0, []⟩ (cycles (2 ^ 32) ++ [addInDir, .readdir]) := by
  obtain ⟨xfs, -, hwith, hrun⟩ := created_without.add
  refine ⟨xfs, hrun, hwith.opendir, ?_⟩
  rintro ⟨s', hleads, henumerated⟩
  obtain ⟨n, hn⟩ : ∃ n, 2 ^ 32 = n + 1 := ⟨2 ^ 32 - 1, rfl⟩
  have hround : (1 : UInt32) + UInt32.ofNat (n + 1) = 1 := by
    rw [← hn]
    rfl
  rw [hn] at hleads henumerated
  -- the directory is removed first
  obtain ⟨xfs₁, hremove, hwithout⟩ := hwith.remove
  have hfirst : Runs.Leads (EnumNext dirHandle) ⟨xfs, 0, []⟩ [.change (.call removeDir)]
      ⟨xfs₁, 0, []⟩ := ⟨_, enumNext_change hremove, rfl⟩
  have hnone : xfs₁.tree dirHandle.inum = none := by
    rw [hwithout.tree]
    rfl
  have hprefix : [.change (.call removeDir)] <+: cycles (n + 1) ++ [addInDir, .readdir] :=
    List.cons_prefix_cons.2 ⟨rfl, List.nil_prefix⟩
  have hreturned : s'.returned = [] := henumerated.removed _ _ hprefix hfirst hnone
  -- and is there in the end
  obtain ⟨xfs₂, hcycles, hwith₂⟩ := @cycles_leads dirHandle ⟨xfs, 0, []⟩ 1 (n + 1) hwith
  rw [hround] at hwith₂
  obtain ⟨xfs₃, hadd, hinv₃, hself, hparent⟩ := With.addInDir (s := ⟨xfs₂, 0, []⟩) hwith₂
  obtain ⟨s₂, hcycles₂, s₃, hadd₂, s₄, hreaddir, hend⟩ := Runs.leads_append.1 hleads
  obtain rfl := Runs.leads_unique enumNext_unique hcycles₂ hcycles
  obtain rfl := enumNext_unique _ _ _ _ hadd₂ hadd
  have hinv : EnumInv ⟨xfs₃, 0, []⟩ :=
    ⟨hinv₃, .nil, .inr ⟨0, by decide, rfl, fun i hi => absurd hi List.not_mem_nil⟩⟩
  have hopened : dirHandle.Opened xfs₃.tree := ⟨_, hself, by decide, rfl⟩
  have hmem : 4 ∈ childrenFrom xfs₃ 3 0 :=
    mem_childrenFrom.2 ⟨Nat.zero_le 4, hinv₃.lt_count (Tree.isSome_of_parent hparent), hparent⟩
  obtain ⟨result, off, rfl, hreads⟩ := readdir_reads hinv hreaddir
  cases hend
  cases hreads with
  | nothing hwhy =>
    rcases hwhy with hclosed | hoff | ⟨k, hk, hnil⟩
    · exact hclosed hopened
    · have hzero : (0 : Int) = -1 := hoff
      omega
    · have hzero : (0 : Int) = k := hk
      obtain rfl : k = 0 := by omega
      have hempty : childrenFrom xfs₃ 3 0 = [] := hnil
      rw [hempty] at hmem
      cases hmem
  | last => exact absurd hreturned (List.cons_ne_nil _ _)
  | more => exact absurd hreturned (List.cons_ne_nil _ _)

end Xrdp.Chansrv
