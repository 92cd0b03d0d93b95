import Xrdp.Surface.OsSurface
import Xrdp.Lib.Runs

/-!
# The pointers to offscreen bitmaps

* `Frame` — what sending orders leaves as it is.
* `Live` — the pointers are good; `Live.call` — a call of a module keeps them so.
* `run_live` — in every run the target is never a bitmap that has been deleted.
-/

namespace Xrdp.Surface

/-! ## Frames -/

/-- Only what the client knows, the orders and the current surface have changed. -/
structure Frame (s s' : Wm) : Prop where
  noOrders : s'.noOrders = s.noOrders
  allocated : s'.allocated = s.allocated
  freed : s'.freed = s.freed
  items : s'.osBitmapItems = s.osBitmapItems
  target : s'.targetSurface = s.targetSurface
  painter : s'.painter = s.painter
  bitmap : ∀ a, ∃ tabStop, s'.bitmaps a = { s.bitmaps a with tabStop }

theorem Frame.refl (s : Wm) : Frame s s := ⟨rfl, rfl, rfl, rfl, rfl, rfl, fun _ => ⟨_, rfl⟩⟩

theorem Frame.trans {s s' s'' : Wm} (h : Frame s s') (h' : Frame s' s'') : Frame s s'' := by
  refine ⟨h'.noOrders.trans h.noOrders, h'.allocated.trans h.allocated, h'.freed.trans h.freed,
    h'.items.trans h.items, h'.target.trans h.target, h'.painter.trans h.painter, fun a => ?_⟩
  obtain ⟨t, ht⟩ := h.bitmap a
  obtain ⟨t', ht'⟩ := h'.bitmap a
  exact ⟨t', by rw [ht', ht]⟩

theorem Frame.id {s s' : Wm} (h : Frame s s') (a : Nat) :
    (s'.bitmaps a).id = (s.bitmaps a).id := by
  obtain ⟨t, ht⟩ := h.bitmap a
  rw [ht]

theorem Frame.itemIndex {s s' : Wm} (h : Frame s s') (a : Nat) :
    (s'.bitmaps a).itemIndex = (s.bitmaps a).itemIndex := by
  obtain ⟨t, ht⟩ := h.bitmap a
  rw [ht]

section

variable {s s' : Wm} {a : Nat}

theorem deref_eq_ok {p : Option Nat} {b : OsBitmap} (h : s.deref p = .ok b) :
    ∃ a, p = some a ∧ s.freed a = false ∧ b = s.bitmaps a := by
  unfold Wm.deref at h
  split at h
  · cases h
  · split at h
    · cases h
    · rename_i a hfreed
      cases h
      exact ⟨a, rfl, by simpa using hfreed, rfl⟩

theorem deref_ok (h : s.freed a = false) : s.deref (some a) = .ok (s.bitmaps a) := by
  unfold Wm.deref
  dsimp only
  rw [if_neg (by simp [h])]

theorem sendSwitch_frame (id : Nat) : Frame s (s.sendSwitchOsSurface id) :=
  ⟨rfl, rfl, rfl, rfl, rfl, rfl, fun _ => ⟨_, rfl⟩⟩

theorem send_frame (orders : List Order) : Frame s (s.send orders) :=
  ⟨rfl, rfl, rfl, rfl, rfl, rfl, fun _ => ⟨_, rfl⟩⟩

theorem sendCreate_frame (h : s.sendCreateOsSurface a = .ok s') : Frame s s' := by
  unfold Wm.sendCreateOsSurface at h
  obtain ⟨b, hb, h⟩ := Run.bind_eq_ok.1 h
  obtain ⟨delList, -, h⟩ := Run.bind_eq_ok.1 h
  obtain ⟨_, hsome, -, rfl⟩ := deref_eq_ok hb
  cases hsome
  cases h
  refine ⟨rfl, rfl, rfl, rfl, rfl, rfl, fun a' => ?_⟩
  by_cases ha : a' = a
  · subst ha
    exact ⟨true, Function.update_self ..⟩
  · exact ⟨_, Function.update_of_ne ha ..⟩

theorem ensureCreated_frame (h : s.ensureCreated a = .ok s') : Frame s s' := by
  unfold Wm.ensureCreated at h
  obtain ⟨b, -, h⟩ := Run.bind_eq_ok.1 h
  split at h
  · cases h
    exact .refl s
  · exact sendCreate_frame h

theorem wmPainterSetTarget_frame (h : wmPainterSetTarget s = .ok s') : Frame s s' := by
  unfold wmPainterSetTarget at h
  split at h
  · cases h
    exact .refl s
  · split at h
    · split at h
      · cases h
        exact sendSwitch_frame _
      · cases h
        exact .refl s
    · obtain ⟨b, -, h⟩ := Run.bind_eq_ok.1 h
      split at h
      · obtain ⟨s₁, hcreated, h⟩ := Run.bind_eq_ok.1 h
        cases h
        exact (ensureCreated_frame hcreated).trans (sendSwitch_frame _)
      · cases h
        exact .refl s

theorem setTarget_frame (h : s.setTarget = .ok s') : Frame s s' := by
  unfold Wm.setTarget at h
  split at h
  · exact wmPainterSetTarget_frame h
  · cases h
    exact .refl s

theorem ensureSource_frame (h : s.ensureSource a = .ok s') : Frame s s' := by
  unfold Wm.ensureSource at h
  obtain ⟨b, -, h⟩ := Run.bind_eq_ok.1 h
  split at h
  · cases h
    exact .refl s
  · exact ensureCreated_frame h

theorem drawTarget_frame {n : Nat} (h : s.drawTarget n = .ok s') : Frame s s' := by
  unfold Wm.drawTarget at h
  split at h
  · cases h
    split
    · exact .refl s
    · exact send_frame _
  · obtain ⟨b, -, h⟩ := Run.bind_eq_ok.1 h
    cases h
    split
    · exact .refl s
    · exact send_frame _

/-! ## Pointers -/

/-- The pointers to offscreen bitmaps are good. -/
structure Live (s : Wm) : Prop where
  items : ∀ r a, s.osBitmapItems r = some a → s.freed a = false ∧ a < s.allocated ∧
    (s.bitmaps a).id = r ∧ (s.bitmaps a).itemIndex = r ∧ r < 2000
  target : ∀ a, s.targetSurface = some a → s.freed a = false ∧ a < s.allocated ∧
    (s.bitmaps a).itemIndex = (s.bitmaps a).id ∧ (s.bitmaps a).id < 2000
  fresh : ∀ a, s.allocated ≤ a → s.freed a = false

theorem Live.frame (h : Live s) (hf : Frame s s') : Live s' := by
  refine ⟨fun r a hr => ?_, fun a ha => ?_, fun a ha => ?_⟩
  · rw [hf.items] at hr
    rw [hf.freed, hf.allocated, hf.id, hf.itemIndex]
    exact h.items r a hr
  · rw [hf.target] at ha
    rw [hf.freed, hf.allocated, hf.id, hf.itemIndex]
    exact h.target a ha
  · rw [hf.allocated] at ha
    rw [hf.freed]
    exact h.fresh a ha

theorem live_create (noOrders : Bool) : Live (.create noOrders) :=
  ⟨fun _ _ h => (Option.some_ne_none _ h.symm).elim,
    fun _ h => (Option.some_ne_none _ h.symm).elim, fun _ _ => rfl⟩

theorem Live.screen (h : Live s) : Live { s with targetSurface := none } :=
  ⟨h.items, fun _ ha => (Option.some_ne_none _ ha.symm).elim, h.fresh⟩

theorem get_eq_some {rdpindex : Int} (h : xrdpCacheGetOsBitmap s rdpindex = some a) :
    s.osBitmapItems rdpindex.toNat = some a ∧ inRange rdpindex = true := by
  unfold xrdpCacheGetOsBitmap at h
  split at h
  · exact ⟨h, ‹_›⟩
  · cases h

theorem Live.switched (h : Live s) {r : Nat} (hr : s.osBitmapItems r = some a) :
    Live { s with targetSurface := some a } := by
  refine ⟨h.items, fun a' ha' => ?_, h.fresh⟩
  cases ha'
  obtain ⟨hfreed, hallocated, hid, hindex, hlt⟩ := h.items r a hr
  exact ⟨hfreed, hallocated, hindex.trans hid.symm, hid ▸ hlt⟩

theorem Live.created (h : Live s) (rdpindex width height : Int) :
    Live (serverCreateOsSurface s rdpindex width height) := by
  unfold serverCreateOsSurface
  split
  · rename_i hrange
    have hlt : rdpindex.toNat < 2000 := by
      unfold inRange at hrange
      rw [decide_eq_true_iff] at hrange
      omega
    refine ⟨fun r a hr => ?_, fun a ha => ?_, fun a ha => h.fresh a (Nat.le_of_succ_le ha)⟩
    · dsimp only at hr ⊢
      by_cases hr' : r = rdpindex.toNat
      · subst hr'
        rw [Function.update_self] at hr
        cases hr
        rw [Function.update_self]
        exact ⟨h.fresh _ le_rfl, Nat.lt_succ_self _, rfl, rfl, hlt⟩
      · rw [Function.update_of_ne hr'] at hr
        obtain ⟨hfreed, hallocated, hrest⟩ := h.items r a hr
        rw [Function.update_of_ne hallocated.ne]
        exact ⟨hfreed, Nat.lt_succ_of_lt hallocated, hrest⟩
    · obtain ⟨hfreed, hallocated, hrest⟩ := h.target a ha
      dsimp only
      rw [Function.update_of_ne hallocated.ne]
      exact ⟨hfreed, Nat.lt_succ_of_lt hallocated, hrest⟩
  · refine ⟨fun r a hr => ?_, fun a ha => ?_, fun a ha => h.fresh a (Nat.le_of_succ_le ha)⟩
    · obtain ⟨hfreed, hallocated, hrest⟩ := h.items r a hr
      exact ⟨hfreed, Nat.lt_succ_of_lt hallocated, hrest⟩
    · obtain ⟨hfreed, hallocated, hrest⟩ := h.target a ha
      exact ⟨hfreed, Nat.lt_succ_of_lt hallocated, hrest⟩

/-- The target is not to be deleted. -/
def TargetStays (s : Wm) (rdpindex : Int) : Prop :=
  ∀ a, s.targetSurface = some a → ((s.bitmaps a).id : Int) ≠ rdpindex

theorem leaveTarget_live {rdpindex : Int} (h : Live s) (hok : s.leaveTarget rdpindex = .ok s') :
    Live s' ∧ TargetStays s' rdpindex := by
  unfold Wm.leaveTarget at hok
  split at hok
  · rename_i hnone
    cases hok
    refine ⟨h, fun a ha => ?_⟩
    rw [hnone] at ha
    cases ha
  · rename_i a htarget
    obtain ⟨b, hb, hok⟩ := Run.bind_eq_ok.1 hok
    obtain ⟨_, hsome, -, rfl⟩ := deref_eq_ok hb
    cases hsome
    split at hok
    · have hframe := setTarget_frame hok
      refine ⟨h.screen.frame hframe, fun a ha => ?_⟩
      rw [hframe.target] at ha
      cases ha
    · rename_i hne
      cases hok
      refine ⟨h, fun a' ha' => ?_⟩
      rw [htarget] at ha'
      cases ha'
      exact hne

/-- What a removal does. -/
theorem remove_eq_ok {rdpindex : Int} (hrange : inRange rdpindex = true)
    (hok : xrdpCacheRemoveOsBitmap s rdpindex = .ok s') :
    ∃ a delList, s.osBitmapItems rdpindex.toNat = some a ∧ s' = { s with
      xrdpOsDelList := delList
      freed := fun a' => s.freed a' || some a = some a'
      osBitmapItems := Function.update s.osBitmapItems rdpindex.toNat none } := by
  unfold xrdpCacheRemoveOsBitmap at hok
  rw [if_neg (by simp [hrange])] at hok
  obtain ⟨b, hb, hok⟩ := Run.bind_eq_ok.1 hok
  obtain ⟨a, hitem, -, rfl⟩ := deref_eq_ok hb
  obtain ⟨delList, -, hok⟩ := Run.bind_eq_ok.1 hok
  cases hok
  exact ⟨a, delList, hitem, by rw [hitem]⟩

theorem Live.removed {rdpindex : Int} (h : Live s) (hstays : TargetStays s rdpindex)
    (hok : xrdpCacheRemoveOsBitmap s rdpindex = .ok s') : Live s' := by
  by_cases hrange : inRange rdpindex = true
  · obtain ⟨a, delList, hitem, rfl⟩ := remove_eq_ok hrange hok
    obtain ⟨-, hallocated, hid, -, -⟩ := h.items _ a hitem
    have hpos : (rdpindex.toNat : Int) = rdpindex := by
      unfold inRange at hrange
      rw [decide_eq_true_iff] at hrange
      omega
    refine ⟨fun r a' hr => ?_, fun a' ha' => ?_, fun a' ha' => ?_⟩
    · dsimp only at hr ⊢
      by_cases hr' : r = rdpindex.toNat
      · subst hr'
        rw [Function.update_self] at hr
        cases hr
      · rw [Function.update_of_ne hr'] at hr
        obtain ⟨hfreed, hrest⟩ := h.items r a' hr
        have hne : a ≠ a' := by
          rintro rfl
          exact hr' (hrest.2.1.symm.trans hid)
        refine ⟨?_, hrest⟩
        simp [hfreed, hne]
    · obtain ⟨hfreed, hrest⟩ := h.target a' ha'
      have hne : a ≠ a' := by
        rintro rfl
        exact hstays a ha' (by rw [hid, hpos])
      refine ⟨?_, hrest⟩
      simp [hfreed, hne]
    · have hne : a ≠ a' := (lt_of_lt_of_le hallocated ha').ne
      simp [h.fresh a' ha', hne]
  · unfold xrdpCacheRemoveOsBitmap at hok
    rw [if_pos (by simpa using hrange)] at hok
    cases hok
    exact h

/-- **A call keeps the pointers good** -/
theorem Live.call (h : Live s) {c : Call} (hok : s.call c = .ok s') : Live s' := by
  cases c with
  | beginUpdate =>
    have hpainter : Live { s with painter := true } := ⟨h.items, h.target, h.fresh⟩
    exact hpainter.frame (wmPainterSetTarget_frame hok)
  | endUpdate =>
    cases hok
    exact ⟨h.items, h.target, h.fresh⟩
  | createOsSurface rdpindex width height =>
    cases hok
    exact h.created rdpindex width height
  | switchOsSurface rdpindex =>
    change serverSwitchOsSurface s rdpindex = .ok s' at hok
    unfold serverSwitchOsSurface at hok
    split at hok
    · exact h.screen.frame (setTarget_frame hok)
    · split at hok
      · rename_i a hget
        exact (h.switched (get_eq_some hget).1).frame (setTarget_frame hok)
      · cases hok
        exact h
  | deleteOsSurface rdpindex =>
    obtain ⟨s₁, hleave, hremove⟩ := Run.bind_eq_ok.1 hok
    obtain ⟨hlive, hstays⟩ := leaveTarget_live h hleave
    exact hlive.removed hstays hremove
  | draw n =>
    change serverDraw s n = .ok s' at hok
    unfold serverDraw at hok
    split at hok
    · exact h.frame (drawTarget_frame hok)
    · cases hok
      exact h
  | paintRectOs rdpindex n =>
    change serverPaintRectOs s rdpindex n = .ok s' at hok
    unfold serverPaintRectOs at hok
    split at hok
    · split at hok
      · cases hok
        exact h
      · obtain ⟨s₁, hsource, hdraw⟩ := Run.bind_eq_ok.1 hok
        exact h.frame ((ensureSource_frame hsource).trans (drawTarget_frame hdraw))
    · cases hok
      exact h
  | composite srcidx mskidx n =>
    change serverComposite s srcidx mskidx n = .ok s' at hok
    unfold serverComposite at hok
    split at hok
    · split at hok
      · cases hok
        exact h
      · obtain ⟨b, -, hok⟩ := Run.bind_eq_ok.1 hok
        obtain ⟨msk, -, hdraw⟩ := Run.bind_eq_ok.1 hok
        exact h.frame (drawTarget_frame hdraw)
    · cases hok
      exact h
  | reset a =>
    cases hok
    unfold serverReset
    split
    · exact h
    · split
      · exact h
      · split
        · exact h
        · exact ⟨fun _ _ hr => (Option.some_ne_none _ hr.symm).elim, h.target, h.fresh⟩

end

/-- **No pointer to a deleted bitmap**: in every run, whatever the module does. -/
theorem run_live {noOrders : Bool} {calls : List Call} {s : Wm}
    (hok : (Wm.create noOrders).run calls = .ok s) : Live s := by
  have hleads := Runs.leads_except.2 hok
  exact Runs.leads_inv (fun s c s' (h : Live s) hcall => h.call hcall) (live_create noOrders) hleads

end Xrdp.Surface
