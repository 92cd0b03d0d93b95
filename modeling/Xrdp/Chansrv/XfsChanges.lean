import Xrdp.Chansrv.XfsMove

/-!
# Changes of the file system

* `Change`, `change` — the calls that change it, in any order.
* `Change.Fits` — a change that keeps the file system as it should be.
* `change_spec` — after such a change an entry is one from before, with its mode and generation, or has
  been added.
-/

namespace Xrdp.Chansrv

open Forest Function XfsFs

/-- A call that changes the file system. -/
inductive Change where
  | call (op : Op)
  | move (inum newParentInum : Nat) (name : List UInt8)

def change (xfs : XfsFs) : Change → Run XfsFs
  | .call op => step xfs op
  | .move inum newParentInum name => do
    let (_result, xfs) ← xfsMoveEntry xfs inum newParentInum name
    pure xfs

/-- The table does not have to grow to `2 ^ 32` inodes, and a move does not go wrong. -/
def Change.Fits (xfs : XfsFs) : Change → Prop
  | .call op => TableHolds xfs op
  | .move inum newParentInum name => MoveFits xfs inum newParentInum name

/-- The entry that an add would make gets the number `inum` and the generation `generation`. -/
def Change.Makes (xfs : XfsFs) (inum : Nat) (generation : UInt32) : Change → Prop
  | .call (.add _ _ _ _) => xfs.freeList.headD xfs.inodeCount = inum ∧ xfs.generation = generation
  | _ => False

/-- An entry after a change is one from before, or has been added. -/
def Arises (xfs : XfsFs) (c : Change) (xfs' : XfsFs) : Prop :=
  ∀ i y', xfs'.tree i = some y' →
    (∃ y, xfs.tree i = some y ∧ y'.generation = y.generation ∧ y'.mode = y.mode) ∨
      xfs.tree i = none ∧ c.Makes xfs i y'.generation

variable {xfs : XfsFs}

theorem Persists.arises {xfs' : XfsFs} (h : Persists xfs.tree xfs'.tree) (c : Change) :
    Arises xfs c xfs' := fun i y' hy' => .inl (h i y' hy')

theorem Moved.persists {t t' : Tree} {x d : Nat} {name : List UInt8} (h : Moved t t' x d name) :
    Persists t t' := by
  intro i y' hy'
  by_cases hi : i = x
  · obtain ⟨y, hy, hmoved⟩ := h.entry
    rw [hi, hmoved] at hy'
    cases hy'
    exact ⟨y, hi ▸ hy, rfl, rfl⟩
  · by_cases hreplaced : Replaced t x d name i
    · rw [h.replaced i hreplaced] at hy'
      obtain ⟨y, hy, hremoved⟩ := Option.bind_eq_some_iff.1 hy'
      exact ⟨y, hy, Entry.removed_same hremoved⟩
    · rw [h.same i hi hreplaced] at hy'
      exact ⟨y', hy', rfl, rfl⟩

/-- **A change that fits** can be made, keeps the invariant, and gives no entry another generation. -/
theorem change_spec (hinv : Inv xfs) {c : Change} (hfits : c.Fits xfs) :
    ∃ xfs', change xfs c = .ok xfs' ∧ Inv xfs' ∧ Arises xfs c xfs' := by
  -- a call that adds nothing
  have hkeeps : ∀ op, Keeps xfs (step xfs op) →
      ∃ xfs', change xfs (.call op) = .ok xfs' ∧ Inv xfs' ∧ Arises xfs (.call op) xfs' := by
    rintro op ⟨xfs', hrun, hinv', -, hpersists⟩
    exact ⟨xfs', hrun, hinv', hpersists.arises _⟩
  cases c with
  | move inum newParentInum name =>
    by_cases hchecks : MoveChecks xfs inum newParentInum name
    · obtain ⟨hdx, hfixed, hkept⟩ := hfits hchecks
      obtain ⟨xfs', hrun, hinv', hmoved⟩ := moveEntry_moves hinv hchecks hdx hfixed hkept
      refine ⟨xfs', ?_, hinv', hmoved.persists.arises _⟩
      rw [change, hrun]
      rfl
    · refine ⟨xfs, ?_, hinv, (Persists.refl _).arises _⟩
      rw [change, moveEntry_refused hinv hchecks]
      rfl
  | call op =>
    cases op with
    | removeEntry inum h => exact hkeeps _ (xfsRemoveEntry_removes hinv h).keeps
    | removeDirectoryContents inum h =>
      exact hkeeps _ (xfsRemoveDirectoryContents_removes hinv h).keeps
    | incrementFileOpenCount inum => exact hkeeps _ (xfsIncrementFileOpenCount_inv hinv inum)
    | decrementFileOpenCount inum => exact hkeeps _ (xfsDecrementFileOpenCount_inv hinv inum)
    | deleteEntriesWithDeviceId deviceId =>
      exact hkeeps _ (xfsDeleteEntriesWithDeviceId_inv hinv deviceId)
    | setDeviceId inum h deviceId => exact hkeeps _ (setDeviceId_inv hinv h deviceId)
    | add parentInum name mode allocs =>
      by_cases hchecks : ∃ parent, AddChecks xfs parentInum name parent
      · obtain ⟨parent, hparent⟩ := hchecks
        obtain ⟨result, xfs', hrun, hadded⟩ := xfsAddEntry_spec hinv hparent
          (fun hfree => hfits hfree ⟨parent, hparent⟩) mode allocs
        refine ⟨xfs', ?_, hadded.inv, ?_⟩
        · rw [change, step, hrun]
          rfl
        · intro i y' hy'
          cases result with
          | none =>
            rw [hadded.failed rfl] at hy'
            exact .inl ⟨y', hy', rfl, rfl⟩
          | some inum =>
            obtain ⟨hnumber, hnone, htree⟩ := hadded.added inum rfl
            rw [htree] at hy'
            by_cases hi : i = inum
            · rw [hi, update_self] at hy'
              cases hy'
              refine .inr ⟨?_, hnumber.symm.trans hi.symm, rfl⟩
              rw [hi, tree, hnone]
              rfl
            · rw [update_of_ne hi] at hy'
              exact .inl ⟨y', hy', rfl, rfl⟩
      · refine ⟨xfs, ?_, hinv, (Persists.refl _).arises _⟩
        rw [change, step, xfsAddEntry_of_not_checks hinv fun parent hp => hchecks ⟨parent, hp⟩]
        rfl

end Xrdp.Chansrv
