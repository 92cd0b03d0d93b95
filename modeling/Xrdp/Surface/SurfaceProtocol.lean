import Xrdp.Surface.OsPointers

/-!
# What the client knows of the surfaces

* `Client.receive` — what the orders do at the client; `DrawsOk` — every drawing order meets the
  surface it is meant for.
* `Told` — the client knows what the window manager believes it knows.
* `Kept` — the current surface is the screen or a bitmap that has not been deleted.
* `surface_protocol` — the runs in which every drawing order meets its surface.
-/

namespace Xrdp.Surface

/-! ## The client -/

/-- What the client has: its offscreen surfaces with their sizes, and the current one. -/
structure Client where
  surfaces : Nat → Option (Int × Int)
  current : Nat

def Client.start : Client := ⟨fun _ => none, SCREEN⟩

def Client.receive (c : Client) : Order → Client
  | .createOsSurface id width height delList =>
    let kept i := if i ∈ delList then none else c.surfaces i
    { c with surfaces := Function.update kept id (some (width, height)) }
  | .switchOsSurface id => { c with current := id }
  | .draw _ => c

/-- A drawing order for an offscreen surface finds it current and of its size. -/
def Client.Meets (c : Client) : Order → Prop
  | .draw (some (id, width, height)) => c.surfaces id = some (width, height) ∧ c.current = id
  | _ => True

instance (c : Client) : (o : Order) → Decidable (c.Meets o)
  | .draw (some (id, width, height)) =>
    inferInstanceAs (Decidable (c.surfaces id = some (width, height) ∧ c.current = id))
  | .draw none => inferInstanceAs (Decidable True)
  | .createOsSurface _ _ _ _ => inferInstanceAs (Decidable True)
  | .switchOsSurface _ => inferInstanceAs (Decidable True)

/-- All drawing orders do. -/
def DrawsOk : Client → List Order → Prop
  | _, [] => True
  | c, o :: orders => c.Meets o ∧ DrawsOk (c.receive o) orders

instance decidableDrawsOk : (c : Client) → (orders : List Order) → Decidable (DrawsOk c orders)
  | _, [] => inferInstanceAs (Decidable True)
  | c, o :: orders =>
    have := decidableDrawsOk (c.receive o) orders
    inferInstanceAs (Decidable (c.Meets o ∧ DrawsOk (c.receive o) orders))

theorem drawsOk_append {c : Client} {orders orders' : List Order} :
    DrawsOk c (orders ++ orders') ↔
      DrawsOk c orders ∧ DrawsOk (orders.foldl Client.receive c) orders' := by
  induction orders generalizing c with
  | nil => exact (and_iff_right trivial).symm
  | cons o orders ih =>
    rw [List.cons_append, DrawsOk, DrawsOk, ih, List.foldl_cons, and_assoc]

theorem receive_draws (c : Client) (target : Option (Nat × Int × Int)) (n : Nat) :
    (List.replicate n (Order.draw target)).foldl Client.receive c = c := by
  induction n with
  | zero => rfl
  | succ n ih =>
    rw [List.replicate_succ, List.foldl_cons]
    exact ih

theorem drawsOk_draws {c : Client} {target : Option (Nat × Int × Int)}
    (h : c.Meets (.draw target)) (n : Nat) : DrawsOk c (List.replicate n (.draw target)) := by
  induction n with
  | zero => trivial
  | succ n ih =>
    rw [List.replicate_succ]
    exact ⟨h, ih⟩

/-- The client after the orders sent. -/
def Wm.client (s : Wm) : Client := s.sent.foldl Client.receive .start

@[simp] theorem client_send (s : Wm) (orders : List Order) :
    (s.send orders).client = orders.foldl Client.receive s.client :=
  List.foldl_append

/-! ## What the window manager believes -/

/-- The target and the bitmaps in the cache. -/
def Reach (s : Wm) (a : Nat) : Prop :=
  s.targetSurface = some a ∨ ∃ r, s.osBitmapItems r = some a

/-- The client knows what the window manager believes it knows. -/
structure Told (s : Wm) : Prop where
  draws : DrawsOk .start s.sent
  current : s.client.current = s.currentSurfaceIndex
  created : ∀ a, Reach s a → (s.bitmaps a).tabStop = true →
    s.client.surfaces (s.bitmaps a).id = some ((s.bitmaps a).width, (s.bitmaps a).height)
  /-- What is current at the client has been created there. -/
  here : ∀ a, Reach s a → (s.bitmaps a).id = s.currentSurfaceIndex → (s.bitmaps a).tabStop = true
  unique : ∀ a a', Reach s a → Reach s a' → (s.bitmaps a).id = (s.bitmaps a').id → a = a'
  /-- What is to be deleted is not in use. -/
  deleted : ∀ delList, s.xrdpOsDelList = some delList → ∀ a, Reach s a →
    (s.bitmaps a).tabStop = true → (s.bitmaps a).id ∉ delList
  list : ∀ r a, s.osBitmapItems r = some a → (s.bitmaps a).tabStop = true →
    s.xrdpOsDelList ≠ none

/-- Within an update, the target is current at the client. -/
def Painted (s : Wm) : Prop :=
  s.painter = true → s.noOrders = false → ∀ a, s.targetSurface = some a →
    (s.bitmaps a).id = s.currentSurfaceIndex

section

variable {s s' : Wm} {a : Nat}

theorem Live.reach (h : Live s) (ha : Reach s a) : s.freed a = false ∧ a < s.allocated ∧
    (s.bitmaps a).itemIndex = (s.bitmaps a).id ∧ (s.bitmaps a).id < 2000 := by
  rcases ha with ha | ⟨r, ha⟩
  · exact h.target a ha
  · obtain ⟨hfreed, hallocated, hid, hindex, hlt⟩ := h.items r a ha
    exact ⟨hfreed, hallocated, hindex.trans hid.symm, hid ▸ hlt⟩

theorem Frame.reach (h : Frame s s') : Reach s' a ↔ Reach s a := by
  unfold Reach
  rw [h.target, h.items]

/-- Fewer bitmaps are in use. -/
theorem Told.mono (h : Told s) (hsent : s'.sent = s.sent) (hbitmaps : s'.bitmaps = s.bitmaps)
    (hcurrent : s'.currentSurfaceIndex = s.currentSurfaceIndex)
    (hreach : ∀ a, Reach s' a → Reach s a)
    (hdeleted : ∀ delList, s'.xrdpOsDelList = some delList → ∀ a, Reach s' a →
      (s.bitmaps a).tabStop = true → (s.bitmaps a).id ∉ delList)
    (hlist : ∀ r a, s'.osBitmapItems r = some a → (s.bitmaps a).tabStop = true →
      s'.xrdpOsDelList ≠ none) : Told s' := by
  have hclient : s'.client = s.client := by rw [Wm.client, hsent, Wm.client]
  rw [← hbitmaps] at hdeleted hlist
  constructor
  · rw [hsent]
    exact h.draws
  · rw [hclient, hcurrent]
    exact h.current
  · rw [hclient, hbitmaps]
    exact fun a ha => h.created a (hreach a ha)
  · rw [hcurrent, hbitmaps]
    exact fun a ha => h.here a (hreach a ha)
  · rw [hbitmaps]
    exact fun a a' ha ha' => h.unique a a' (hreach a ha) (hreach a' ha')
  · exact hdeleted
  · exact hlist

/-! ## The painter -/

/-- A bitmap is created at the client. -/
theorem Told.sendCreate (hl : Live s) (h : Told s) (ha : Reach s a)
    (hlist : s.xrdpOsDelList ≠ none) : ∃ s', s.sendCreateOsSurface a = .ok s' ∧ Told s' ∧
      s'.currentSurfaceIndex = s.currentSurfaceIndex ∧ (s'.bitmaps a).tabStop = true := by
  obtain ⟨delList, hdelList⟩ := Option.ne_none_iff_exists'.1 hlist
  obtain ⟨hfreed, -, hindex, -⟩ := hl.reach ha
  have hok : s.sendCreateOsSurface a = .ok { s.send [.createOsSurface (s.bitmaps a).itemIndex
      (s.bitmaps a).width (s.bitmaps a).height (delList.erase (s.bitmaps a).itemIndex)] with
      bitmaps := Function.update s.bitmaps a { s.bitmaps a with tabStop := true }
      xrdpOsDelList := some [] } := by
    unfold Wm.sendCreateOsSurface Wm.derefDelList
    rw [deref_ok hfreed, Run.ok_bind, hdelList, Run.ok_bind]
  have hframe := sendCreate_frame hok
  have hself : ∀ (f : Nat → OsBitmap) (b : OsBitmap), Function.update f a b a = b :=
    fun _ _ => Function.update_self ..
  have hother : ∀ a', a' ≠ a → ∀ (f : Nat → OsBitmap) (b : OsBitmap),
      Function.update f a b a' = f a' := fun _ hne _ _ => Function.update_of_ne hne ..
  refine ⟨_, hok, ?_, rfl, congrArg OsBitmap.tabStop (hself _ _)⟩
  constructor
  · exact drawsOk_append.2 ⟨h.draws, trivial, trivial⟩
  · rw [Wm.client]
    dsimp only [Wm.send]
    rw [List.foldl_append]
    exact h.current
  · intro a' ha' htab
    have ha' := hframe.reach.1 ha'
    rw [Wm.client]
    dsimp only [Wm.send] at htab ⊢
    rw [List.foldl_append, List.foldl_cons, List.foldl_nil, Client.receive]
    by_cases hne : a' = a
    · subst hne
      rw [hself, hindex]
      dsimp only
      rw [Function.update_self]
    · rw [hother a' hne] at htab ⊢
      have hid : (s.bitmaps a').id ≠ (s.bitmaps a).itemIndex := by
        rw [hindex]
        exact fun hid => hne (h.unique a' a ha' ha hid)
      have hkept : (s.bitmaps a').id ∉ delList.erase (s.bitmaps a).itemIndex :=
        fun hmem => h.deleted delList hdelList a' ha' htab (List.mem_of_mem_erase hmem)
      dsimp only
      rw [Function.update_of_ne hid, if_neg hkept]
      exact h.created a' ha' htab
  · intro a' ha' hcurrent
    have ha' := hframe.reach.1 ha'
    dsimp only at hcurrent ⊢
    by_cases hne : a' = a
    · subst hne
      rw [hself]
    · rw [hother a' hne] at hcurrent ⊢
      exact h.here a' ha' hcurrent
  · intro a₁ a₂ h₁ h₂ hid
    rw [hframe.id, hframe.id] at hid
    exact h.unique a₁ a₂ (hframe.reach.1 h₁) (hframe.reach.1 h₂) hid
  · intro l hl' a' _ _
    cases hl'
    exact List.not_mem_nil
  · intro r a' _ _ hnone
    cases hnone

theorem Told.ensureCreated (hl : Live s) (h : Told s) (ha : Reach s a)
    (hlist : (s.bitmaps a).tabStop = false → s.xrdpOsDelList ≠ none) :
    ∃ s', s.ensureCreated a = .ok s' ∧ Told s' ∧
      s'.currentSurfaceIndex = s.currentSurfaceIndex ∧ (s'.bitmaps a).tabStop = true := by
  have hderef := deref_ok (hl.reach ha).1
  unfold Wm.ensureCreated
  rw [hderef, Run.ok_bind]
  split
  · exact ⟨s, rfl, h, rfl, ‹_›⟩
  · rename_i htab
    exact h.sendCreate hl ha (hlist (by simpa using htab))

/-- The client is told of another current surface. -/
theorem Told.sendSwitch (h : Told s) {id : Nat}
    (hcreated : ∀ a, Reach s a → (s.bitmaps a).id = id → (s.bitmaps a).tabStop = true) :
    Told (s.sendSwitchOsSurface id) := by
  have hsurfaces : (s.sendSwitchOsSurface id).client.surfaces = s.client.surfaces := by
    change (s.send _).client.surfaces = _
    rw [client_send]
    rfl
  constructor
  · exact drawsOk_append.2 ⟨h.draws, trivial, trivial⟩
  · change (s.send _).client.current = _
    rw [client_send]
    rfl
  · rw [hsurfaces]
    exact h.created
  · exact hcreated
  · exact h.unique
  · exact h.deleted
  · exact h.list

/-- **`wm_painter_set_target`** -/
theorem Told.wmPainterSetTarget (hl : Live s) (h : Told s)
    (hlist : s.noOrders = false → ∀ a, s.targetSurface = some a →
      (s.bitmaps a).tabStop = false → s.xrdpOsDelList ≠ none) :
    ∃ s', Surface.wmPainterSetTarget s = .ok s' ∧ Told s' ∧ Painted s' := by
  unfold Surface.wmPainterSetTarget
  by_cases hno : s.noOrders = true
  · rw [if_pos hno]
    refine ⟨s, rfl, h, fun _ hno' => ?_⟩
    rw [hno] at hno'
    cases hno'
  · rw [if_neg hno]
    have hno : s.noOrders = false := by simpa using hno
    cases htarget : s.targetSurface with
    | none =>
      have htold : Told (s.sendSwitchOsSurface SCREEN) := by
        apply h.sendSwitch
        intro a ha hid
        have hlt := (hl.reach ha).2.2.2
        rw [hid] at hlt
        exact absurd hlt (by decide)
      dsimp only
      split
      · refine ⟨_, rfl, htold, fun _ _ a ha => ?_⟩
        change s.targetSurface = some a at ha
        rw [htarget] at ha
        cases ha
      · refine ⟨_, rfl, h, fun _ _ a ha => ?_⟩
        rw [htarget] at ha
        cases ha
    | some a =>
      have ha : Reach s a := .inl htarget
      obtain ⟨hfreed, -, hindex, -⟩ := hl.reach ha
      dsimp only
      rw [deref_ok hfreed, Run.ok_bind, hindex]
      split
      · obtain ⟨s₁, hok, htold, -, htab⟩ := h.ensureCreated hl ha (hlist hno a htarget)
        have hframe := ensureCreated_frame hok
        rw [hok, Run.ok_bind]
        refine ⟨_, rfl, htold.sendSwitch fun a' ha' hid => ?_, fun _ _ a' ha' => ?_⟩
        · rw [hframe.id] at hid
          have hsame := h.unique a' a (hframe.reach.1 ha') ha hid
          rw [hsame]
          exact htab
        · change s₁.targetSurface = some a' at ha'
          rw [hframe.target, htarget] at ha'
          cases ha'
          exact hframe.id a
      · rename_i hcurrent
        refine ⟨s, rfl, h, fun _ _ a' ha' => ?_⟩
        rw [htarget] at ha'
        cases ha'
        exact not_not.1 hcurrent

theorem Told.setTarget (hl : Live s) (h : Told s)
    (hlist : s.painter = true → s.noOrders = false → ∀ a, s.targetSurface = some a →
      (s.bitmaps a).tabStop = false → s.xrdpOsDelList ≠ none) :
    ∃ s', s.setTarget = .ok s' ∧ Told s' ∧ Painted s' := by
  unfold Wm.setTarget
  split
  · exact h.wmPainterSetTarget hl (hlist ‹_›)
  · rename_i hpainter
    exact ⟨s, rfl, h, fun hpainter' => absurd hpainter' hpainter⟩

/-- **Drawing** -/
theorem Told.drawTarget (hl : Live s) (h : Told s) (hp : Painted s) (hpainter : s.painter = true)
    (n : Nat) : ∃ s', s.drawTarget n = .ok s' ∧ Told s' ∧ Painted s' := by
  have hsend : ∀ target, s.client.Meets (.draw target) →
      Told (s.send (List.replicate n (.draw target))) := by
    intro target hmeets
    have hclient : (s.send (List.replicate n (.draw target))).client = s.client := by
      rw [client_send, receive_draws]
    constructor
    · exact drawsOk_append.2 ⟨h.draws, drawsOk_draws hmeets n⟩
    · rw [hclient]
      exact h.current
    · rw [hclient]
      exact h.created
    · exact h.here
    · exact h.unique
    · exact h.deleted
    · exact h.list
  unfold Wm.drawTarget
  cases htarget : s.targetSurface with
  | none =>
    dsimp only
    split
    · exact ⟨s, rfl, h, hp⟩
    · exact ⟨_, rfl, hsend none trivial, hp⟩
  | some a =>
    have ha : Reach s a := .inl htarget
    obtain ⟨hfreed, -, hindex, -⟩ := hl.reach ha
    dsimp only
    rw [deref_ok hfreed, Run.ok_bind]
    split
    · exact ⟨s, rfl, h, hp⟩
    · rename_i hno
      have hcurrent := hp hpainter (by simpa using hno) a htarget
      refine ⟨_, rfl, hsend _ ⟨?_, ?_⟩, hp⟩
      · rw [hindex]
        exact h.created a ha (h.here a ha hcurrent)
      · rw [hindex, hcurrent]
        exact h.current

/-! ## The calls -/

/-- If a bitmap has still to be created at the client, there is a deletion list. -/
def Wm.CanCreate (s : Wm) (a : Nat) : Prop :=
  (s.bitmaps a).tabStop = false → s.xrdpOsDelList ≠ none

/-- The condition on a call. -/
def Wm.CallFits (s : Wm) : Call → Prop
  | .beginUpdate => s.noOrders = false → ∀ a ∈ s.targetSurface, s.CanCreate a
  -- the number is free, and so it is at the client
  | .createOsSurface rdpindex _ _ => inRange rdpindex = true →
    s.osBitmapItems rdpindex.toNat = none ∧ rdpindex.toNat ≠ s.currentSurfaceIndex ∧
      ∀ a ∈ s.targetSurface, (s.bitmaps a).id ≠ rdpindex.toNat
  | .switchOsSurface rdpindex => s.painter = true → s.noOrders = false →
    ∀ a ∈ xrdpCacheGetOsBitmap s rdpindex, s.CanCreate a
  -- outside of an update the client stays on its surface
  | .deleteOsSurface rdpindex => inRange rdpindex = true → s.osBitmapItems rdpindex.toNat ≠ none ∧
    (s.painter = false → rdpindex.toNat ≠ s.currentSurfaceIndex)
  | .paintRectOs rdpindex _ => s.painter = true → s.noOrders = false →
    ∀ a ∈ xrdpCacheGetOsBitmap s rdpindex, s.CanCreate a
  | _ => True

instance (s : Wm) (a : Nat) : Decidable (s.CanCreate a) :=
  inferInstanceAs (Decidable ((s.bitmaps a).tabStop = false → s.xrdpOsDelList ≠ none))

instance (s : Wm) : (c : Call) → Decidable (s.CallFits c)
  | .beginUpdate =>
    inferInstanceAs (Decidable (s.noOrders = false → ∀ a ∈ s.targetSurface, s.CanCreate a))
  | .createOsSurface rdpindex _ _ =>
    inferInstanceAs (Decidable (inRange rdpindex = true →
      s.osBitmapItems rdpindex.toNat = none ∧ rdpindex.toNat ≠ s.currentSurfaceIndex ∧
        ∀ a ∈ s.targetSurface, (s.bitmaps a).id ≠ rdpindex.toNat))
  | .switchOsSurface rdpindex =>
    inferInstanceAs (Decidable (s.painter = true → s.noOrders = false →
      ∀ a ∈ xrdpCacheGetOsBitmap s rdpindex, s.CanCreate a))
  | .deleteOsSurface rdpindex =>
    inferInstanceAs (Decidable (inRange rdpindex = true → s.osBitmapItems rdpindex.toNat ≠ none ∧
      (s.painter = false → rdpindex.toNat ≠ s.currentSurfaceIndex)))
  | .paintRectOs rdpindex _ =>
    inferInstanceAs (Decidable (s.painter = true → s.noOrders = false →
      ∀ a ∈ xrdpCacheGetOsBitmap s rdpindex, s.CanCreate a))
  | .endUpdate => inferInstanceAs (Decidable True)
  | .draw _ => inferInstanceAs (Decidable True)
  | .composite _ _ _ => inferInstanceAs (Decidable True)
  | .reset _ => inferInstanceAs (Decidable True)

/-- All calls meet the condition, each in the state before it. -/
def Wm.Fits : Wm → List Call → Prop := Runs.AllFit (fun s c s' => s.call c = .ok s') Wm.CallFits

theorem Told.screen (h : Told s) : Told { s with targetSurface := none } :=
  h.mono rfl rfl rfl (fun _ ha => ha.elim (fun ha => nomatch ha) .inr)
    (fun delList hdelList a ha => h.deleted delList hdelList a
      (ha.elim (fun ha => nomatch ha) .inr)) h.list

theorem Told.switched (h : Told s) {r : Nat} (hr : s.osBitmapItems r = some a) :
    Told { s with targetSurface := some a } := by
  have hreach : ∀ a', Reach { s with targetSurface := some a } a' → Reach s a' := by
    rintro a' (ha' | ha')
    · cases ha'
      exact .inr ⟨r, hr⟩
    · exact .inr ha'
  exact h.mono rfl rfl rfl hreach
    (fun delList hdelList a' ha' => h.deleted delList hdelList a' (hreach a' ha')) h.list

theorem Told.createdSurface (hl : Live s) (h : Told s) (hp : Painted s)
    {rdpindex width height : Int} (hfits : s.CallFits (.createOsSurface rdpindex width height)) :
    Told (serverCreateOsSurface s rdpindex width height) ∧
      Painted (serverCreateOsSurface s rdpindex width height) := by
  unfold serverCreateOsSurface
  split
  · rename_i hrange
    obtain ⟨hfree, hcurrent, htarget⟩ := hfits hrange
    have hold : ∀ a, Reach s a → Function.update s.bitmaps s.allocated
        ⟨width, height, rdpindex.toNat, rdpindex.toNat, false⟩ a = s.bitmaps a :=
      fun a ha => Function.update_of_ne (hl.reach ha).2.1.ne ..
    have hitems : ∀ r a, Function.update s.osBitmapItems rdpindex.toNat (some s.allocated) r =
        some a → a = s.allocated ∨ s.osBitmapItems r = some a ∧ r ≠ rdpindex.toNat := by
      intro r a hr
      by_cases hr' : r = rdpindex.toNat
      · subst hr'
        rw [Function.update_self] at hr
        cases hr
        exact .inl rfl
      · rw [Function.update_of_ne hr'] at hr
        exact .inr ⟨hr, hr'⟩
    have hreach : ∀ a, (s.targetSurface = some a ∨ ∃ r, Function.update s.osBitmapItems
        rdpindex.toNat (some s.allocated) r = some a) →
        a = s.allocated ∨ Reach s a ∧ (s.bitmaps a).id ≠ rdpindex.toNat := by
      rintro a (ha | ⟨r, ha⟩)
      · exact .inr ⟨.inl ha, htarget a ha⟩
      · rcases hitems r a ha with ha | ⟨ha, hr⟩
        · exact .inl ha
        · exact .inr ⟨.inr ⟨r, ha⟩, by rw [(hl.items r a ha).2.2.1]; exact hr⟩
    constructor
    · constructor
      · exact h.draws
      · exact h.current
      · intro a ha htab
        rcases hreach a ha with rfl | ⟨ha, -⟩
        · dsimp only at htab
          rw [Function.update_self] at htab
          cases htab
        · dsimp only at htab ⊢
          rw [hold a ha] at htab ⊢
          exact h.created a ha htab
      · intro a ha hid
        rcases hreach a ha with rfl | ⟨ha, -⟩
        · dsimp only at hid
          rw [Function.update_self] at hid
          exact absurd hid hcurrent
        · dsimp only at hid ⊢
          rw [hold a ha] at hid ⊢
          exact h.here a ha hid
      · intro a a' ha ha' hid
        dsimp only at hid
        rcases hreach a ha with rfl | ⟨ha, hne⟩
        · rcases hreach a' ha' with rfl | ⟨ha', hne'⟩
          · rfl
          · rw [Function.update_self, hold a' ha'] at hid
            exact absurd hid.symm hne'
        · rcases hreach a' ha' with rfl | ⟨ha', -⟩
          · rw [Function.update_self, hold a ha] at hid
            exact absurd hid hne
          · rw [hold a ha, hold a' ha'] at hid
            exact h.unique a a' ha ha' hid
      · intro delList hdelList a ha htab
        rcases hreach a ha with rfl | ⟨ha, -⟩
        · dsimp only at htab
          rw [Function.update_self] at htab
          cases htab
        · dsimp only at htab ⊢
          rw [hold a ha] at htab ⊢
          exact h.deleted delList hdelList a ha htab
      · intro r a hr htab
        rcases hitems r a hr with rfl | ⟨hr, -⟩
        · dsimp only at htab
          rw [Function.update_self] at htab
          cases htab
        · dsimp only at htab
          rw [hold a (.inr ⟨r, hr⟩)] at htab
          exact h.list r a hr htab
    · intro hpainter hno a ha
      dsimp only
      rw [hold a (.inl ha)]
      exact hp hpainter hno a ha
  · exact ⟨h.mono rfl rfl rfl (fun _ ha => ha) h.deleted h.list, hp⟩

theorem Told.leaveTarget (hl : Live s) (h : Told s) (hp : Painted s) (rdpindex : Int) :
    ∃ s', s.leaveTarget rdpindex = .ok s' ∧ Told s' ∧ Painted s' := by
  unfold Wm.leaveTarget
  cases htarget : s.targetSurface with
  | none => exact ⟨s, rfl, h, hp⟩
  | some a =>
    dsimp only
    rw [deref_ok (hl.target a htarget).1, Run.ok_bind]
    split
    · exact h.screen.setTarget hl.screen fun _ _ _ ha => nomatch ha
    · exact ⟨s, rfl, h, hp⟩

/-- The deletion list after a removal. -/
theorem noteDeletion_spec (h : Told s) {r : Nat} (ha : s.osBitmapItems r = some a) :
    ∃ delList, s.noteDeletion (s.bitmaps a) r = .ok delList ∧
      (∀ l, delList = some l → ∃ l₀, s.xrdpOsDelList = some l₀ ∧ ∀ x ∈ l, x ∈ l₀ ∨ x = r) ∧
      (s.xrdpOsDelList ≠ none → delList ≠ none) := by
  unfold Wm.noteDeletion
  split
  · rename_i htab
    obtain ⟨l₀, hl₀⟩ := Option.ne_none_iff_exists'.1 (h.list r a ha htab)
    unfold Wm.derefDelList
    rw [hl₀, Run.ok_bind]
    refine ⟨_, rfl, fun l hl => ⟨l₀, rfl, fun x hx => ?_⟩, fun _ hnone => nomatch hnone⟩
    cases hl
    split at hx
    · exact .inl hx
    · rcases List.mem_append.1 hx with hx | hx
      · exact .inl hx
      · exact .inr (List.mem_singleton.1 hx)
  · exact ⟨_, rfl, fun l hl => ⟨l, hl, fun _ hx => .inl hx⟩, id⟩

theorem Told.removed (hl : Live s) (h : Told s) (hp : Painted s) {rdpindex : Int}
    (hstays : TargetStays s rdpindex)
    (hitem : inRange rdpindex = true → s.osBitmapItems rdpindex.toNat ≠ none) :
    ∃ s', xrdpCacheRemoveOsBitmap s rdpindex = .ok s' ∧ Told s' ∧ Painted s' := by
  unfold xrdpCacheRemoveOsBitmap
  split
  · exact ⟨s, rfl, h, hp⟩
  · rename_i hrange
    have hrange : inRange rdpindex = true := by simpa using hrange
    have hpos : (rdpindex.toNat : Int) = rdpindex := by
      unfold inRange at hrange
      rw [decide_eq_true_iff] at hrange
      omega
    obtain ⟨a, ha⟩ := Option.ne_none_iff_exists'.1 (hitem hrange)
    obtain ⟨delList, hnote, hmem, hne⟩ := noteDeletion_spec h ha
    rw [ha]
    dsimp only
    rw [deref_ok (hl.items _ a ha).1, Run.ok_bind, hnote, Run.ok_bind]
    have hitems : ∀ r a', Function.update s.osBitmapItems rdpindex.toNat none r = some a' →
        s.osBitmapItems r = some a' ∧ r ≠ rdpindex.toNat := by
      intro r a' hr
      by_cases hr' : r = rdpindex.toNat
      · subst hr'
        rw [Function.update_self] at hr
        cases hr
      · rw [Function.update_of_ne hr'] at hr
        exact ⟨hr, hr'⟩
    have hreach : ∀ a', (s.targetSurface = some a' ∨ ∃ r, Function.update s.osBitmapItems
        rdpindex.toNat none r = some a') → Reach s a' ∧ (s.bitmaps a').id ≠ rdpindex.toNat := by
      rintro a' (ha' | ⟨r, hr⟩)
      · refine ⟨.inl ha', fun hid => hstays a' ha' ?_⟩
        rw [hid, hpos]
      · obtain ⟨hr, hr'⟩ := hitems r a' hr
        exact ⟨.inr ⟨r, hr⟩, by rw [(hl.items r a' hr).2.2.1]; exact hr'⟩
    refine ⟨_, rfl, h.mono rfl rfl rfl (fun a' ha' => (hreach a' ha').1) ?_ ?_, hp⟩
    · intro l hl' a' ha' htab hid
      obtain ⟨ha', hid'⟩ := hreach a' ha'
      obtain ⟨l₀, hl₀, hsub⟩ := hmem l hl'
      rcases hsub _ hid with hid | hid
      · exact h.deleted l₀ hl₀ a' ha' htab hid
      · exact hid' hid
    · intro r a' hr htab
      exact hne (h.list r a' (hitems r a' hr).1 htab)

theorem leaveTarget_items {rdpindex : Int} (hok : s.leaveTarget rdpindex = .ok s') :
    s'.osBitmapItems = s.osBitmapItems := by
  unfold Wm.leaveTarget at hok
  split at hok
  · cases hok
    rfl
  · obtain ⟨b, -, hok⟩ := Run.bind_eq_ok.1 hok
    split at hok
    · exact (setTarget_frame hok).items
    · cases hok
      rfl

theorem leaveTarget_painter {rdpindex : Int} (hok : s.leaveTarget rdpindex = .ok s') :
    s'.painter = s.painter := by
  unfold Wm.leaveTarget at hok
  split at hok
  · cases hok
    rfl
  · obtain ⟨b, -, hok⟩ := Run.bind_eq_ok.1 hok
    split at hok
    · exact (setTarget_frame hok).painter
    · cases hok
      rfl

/-- What is painted from is created at the client. -/
theorem Told.ensureSource (hl : Live s) (h : Told s) (hp : Painted s) (ha : Reach s a)
    (hcan : s.noOrders = false → s.CanCreate a) :
    ∃ s', s.ensureSource a = .ok s' ∧ Told s' ∧ Painted s' := by
  unfold Wm.ensureSource
  rw [deref_ok (hl.reach ha).1, Run.ok_bind]
  split
  · exact ⟨s, rfl, h, hp⟩
  · rename_i hno
    obtain ⟨s₁, hok, htold, hcurrent, -⟩ := h.ensureCreated hl ha (hcan (by simpa using hno))
    have hframe := ensureCreated_frame hok
    refine ⟨s₁, hok, htold, fun hpainter hno a' ha' => ?_⟩
    rw [hframe.painter] at hpainter
    rw [hframe.noOrders] at hno
    rw [hframe.target] at ha'
    rw [hframe.id, hcurrent]
    exact hp hpainter hno a' ha'

theorem derefMask_ok (hl : Live s) (mskidx : Option Int) :
    ∃ msk, s.derefMask mskidx = .ok msk := by
  unfold Wm.derefMask
  cases hget : mskidx.bind (xrdpCacheGetOsBitmap s) with
  | none => exact ⟨none, rfl⟩
  | some a =>
    obtain ⟨i, -, hget⟩ := Option.bind_eq_some_iff.1 hget
    dsimp only
    rw [deref_ok (hl.items _ a (get_eq_some hget).1).1]
    exact ⟨_, rfl⟩

/-- **A call keeps the client told** -/
theorem Told.call (hl : Live s) (h : Told s) (hp : Painted s) {c : Call} (hfits : s.CallFits c) :
    ∃ s', s.call c = .ok s' ∧ Told s' ∧ Painted s' := by
  cases c with
  | beginUpdate =>
    have hpainter : Live { s with painter := true } := ⟨hl.items, hl.target, hl.fresh⟩
    have htold : Told { s with painter := true } :=
      h.mono rfl rfl rfl (fun _ ha => ha) h.deleted h.list
    exact htold.wmPainterSetTarget hpainter hfits
  | endUpdate =>
    refine ⟨_, rfl, h.mono rfl rfl rfl (fun _ ha => ha) h.deleted h.list, fun hpainter => ?_⟩
    cases hpainter
  | createOsSurface rdpindex width height => exact ⟨_, rfl, h.createdSurface hl hp hfits⟩
  | switchOsSurface rdpindex =>
    change ∃ s', serverSwitchOsSurface s rdpindex = .ok s' ∧ _
    unfold serverSwitchOsSurface
    split
    · exact h.screen.setTarget hl.screen fun _ _ _ ha => nomatch ha
    · cases hget : xrdpCacheGetOsBitmap s rdpindex with
      | none => exact ⟨s, rfl, h, hp⟩
      | some a =>
        have hitem := (get_eq_some hget).1
        refine (h.switched hitem).setTarget (hl.switched hitem) fun hpainter hno a' ha' => ?_
        cases ha'
        exact hfits hpainter hno a hget
  | deleteOsSurface rdpindex =>
    obtain ⟨s₁, hleave, htold, hpainted⟩ := h.leaveTarget hl hp rdpindex
    obtain ⟨hlive, hstays⟩ := leaveTarget_live hl hleave
    obtain ⟨s₂, hremove, hrest⟩ := htold.removed hlive hpainted hstays
      (by rw [leaveTarget_items hleave]; exact fun hrange => (hfits hrange).1)
    exact ⟨s₂, Run.bind_eq_ok.2 ⟨s₁, hleave, hremove⟩, hrest⟩
  | draw n =>
    change ∃ s', serverDraw s n = .ok s' ∧ _
    unfold serverDraw
    split
    · exact h.drawTarget hl hp ‹_› n
    · exact ⟨s, rfl, h, hp⟩
  | paintRectOs rdpindex n =>
    change ∃ s', serverPaintRectOs s rdpindex n = .ok s' ∧ _
    unfold serverPaintRectOs
    split
    · rename_i hpainter
      cases hget : xrdpCacheGetOsBitmap s rdpindex with
      | none => exact ⟨s, rfl, h, hp⟩
      | some a =>
        obtain ⟨s₁, hsource, htold, hpainted⟩ := h.ensureSource hl hp
          (.inr ⟨_, (get_eq_some hget).1⟩) fun hno => hfits hpainter hno a hget
        have hframe := ensureSource_frame hsource
        dsimp only
        rw [hsource, Run.ok_bind]
        exact htold.drawTarget (hl.frame hframe) hpainted (hframe.painter.trans hpainter) n
    · exact ⟨s, rfl, h, hp⟩
  | composite srcidx mskidx n =>
    change ∃ s', serverComposite s srcidx mskidx n = .ok s' ∧ _
    unfold serverComposite
    split
    · rename_i hpainter
      cases hget : xrdpCacheGetOsBitmap s srcidx with
      | none => exact ⟨s, rfl, h, hp⟩
      | some a =>
        obtain ⟨msk, hmsk⟩ := derefMask_ok hl mskidx
        dsimp only
        rw [deref_ok (hl.items _ a (get_eq_some hget).1).1, Run.ok_bind, hmsk, Run.ok_bind]
        exact h.drawTarget hl hp hpainter n
    · exact ⟨s, rfl, h, hp⟩
  | reset a =>
    refine ⟨_, rfl, ?_⟩
    unfold serverReset
    split
    · exact ⟨h, hp⟩
    · split
      · exact ⟨h, hp⟩
      · split
        · exact ⟨h, hp⟩
        · refine ⟨h.mono rfl rfl rfl (fun a ha => .inl (ha.elim id fun ⟨_, ha⟩ => nomatch ha))
            (fun _ hnone => nomatch hnone) (fun _ _ ha => nomatch ha), hp⟩

/-! ## The current surface -/

/-- What `current_surface_index` names: the screen, or a bitmap that has been created at the client and has
not been deleted. -/
def Wm.NamesCurrent (s : Wm) : Prop :=
  s.currentSurfaceIndex = SCREEN ∨ ∃ a, a < s.allocated ∧ s.freed a = false ∧
    (s.bitmaps a).tabStop = true ∧ (s.bitmaps a).id = s.currentSurfaceIndex

/-- The current surface has not been deleted, and is left for the screen within an update. -/
structure Kept (s : Wm) : Prop where
  names : s.NamesCurrent
  noOrders : s.noOrders = true → s.currentSurfaceIndex = SCREEN
  screen : s.painter = true → s.targetSurface = none → s.currentSurfaceIndex = SCREEN

/-- What the client has been told of stays so. -/
structure Keeps (s s' : Wm) : Prop extends Frame s s' where
  tabStop : ∀ a, (s.bitmaps a).tabStop = true → (s'.bitmaps a).tabStop = true

theorem Keeps.names (hk : Keeps s s') (h : s.NamesCurrent)
    (hcurrent : s'.currentSurfaceIndex = s.currentSurfaceIndex) : s'.NamesCurrent := by
  unfold Wm.NamesCurrent
  rw [hcurrent, hk.allocated, hk.freed]
  refine h.imp id ?_
  rintro ⟨a, hlt, hfreed, htab, hid⟩
  exact ⟨a, hlt, hfreed, hk.tabStop a htab, by rw [hk.toFrame.id, hid]⟩

theorem Kept.frame (h : Kept s) (hk : Keeps s s')
    (hcurrent : s'.currentSurfaceIndex = s.currentSurfaceIndex) : Kept s' where
  names := hk.names h.names hcurrent
  noOrders := by
    rw [hk.noOrders, hcurrent]
    exact h.noOrders
  screen := by
    rw [hk.painter, hk.target, hcurrent]
    exact h.screen

theorem ensureCreated_keeps (hok : s.ensureCreated a = .ok s') :
    Keeps s s' ∧ s'.currentSurfaceIndex = s.currentSurfaceIndex ∧ (s'.bitmaps a).tabStop = true := by
  have hframe := ensureCreated_frame hok
  unfold Wm.ensureCreated at hok
  obtain ⟨b, hb, hok⟩ := Run.bind_eq_ok.1 hok
  obtain ⟨_, hsome, -, rfl⟩ := deref_eq_ok hb
  cases hsome
  split at hok
  · cases hok
    exact ⟨⟨hframe, fun _ htab => htab⟩, rfl, ‹_›⟩
  · unfold Wm.sendCreateOsSurface at hok
    obtain ⟨b, -, hok⟩ := Run.bind_eq_ok.1 hok
    obtain ⟨delList, -, hok⟩ := Run.bind_eq_ok.1 hok
    cases hok
    refine ⟨⟨hframe, fun a' htab => ?_⟩, rfl, by simp⟩
    by_cases ha : a' = a
    · subst ha
      simp
    · simpa [Function.update_of_ne ha] using htab

/-- What sets the target keeps the current surface, or makes the target it. -/
theorem Kept.wmPainterSetTarget (hl : Live s) (hnames : s.NamesCurrent)
    (hno : s.noOrders = true → s.currentSurfaceIndex = SCREEN)
    (hok : Surface.wmPainterSetTarget s = .ok s') : Kept s' := by
  unfold Surface.wmPainterSetTarget at hok
  split at hok
  · cases hok
    exact ⟨hnames, hno, fun _ _ => hno ‹_›⟩
  · rename_i horders
    cases htarget : s.targetSurface with
    | none =>
      simp only [htarget, Except.ok.injEq] at hok
      subst hok
      split
      · exact ⟨.inl rfl, fun _ => rfl, fun _ _ => rfl⟩
      · rename_i hcurrent
        exact ⟨hnames, hno, fun _ _ => not_not.1 hcurrent⟩
    | some a =>
      obtain ⟨hfreed, hlt, hindex, -⟩ := hl.target a htarget
      simp only [htarget, deref_ok hfreed, Run.ok_bind] at hok
      split at hok
      · obtain ⟨s₁, hcreated, hok⟩ := Run.bind_eq_ok.1 hok
        obtain ⟨hk, -, htab⟩ := ensureCreated_keeps hcreated
        cases hok
        refine ⟨.inr ⟨a, ?_, ?_, htab, ?_⟩, fun h => ?_, fun _ hnone => ?_⟩
        · exact hk.allocated ▸ hlt
        · exact hk.freed ▸ hfreed
        · exact (hk.toFrame.id a).trans hindex.symm
        · exact absurd (hk.noOrders ▸ h) horders
        · change s₁.targetSurface = none at hnone
          rw [hk.target, htarget] at hnone
          cases hnone
      · cases hok
        refine ⟨hnames, hno, fun _ hnone => ?_⟩
        rw [htarget] at hnone
        cases hnone

theorem Kept.setTarget (hl : Live s) (hnames : s.NamesCurrent)
    (hno : s.noOrders = true → s.currentSurfaceIndex = SCREEN) (hok : s.setTarget = .ok s') :
    Kept s' := by
  unfold Wm.setTarget at hok
  split at hok
  · exact .wmPainterSetTarget hl hnames hno hok
  · rename_i hpainter
    cases hok
    exact ⟨hnames, hno, fun h => absurd h hpainter⟩

theorem Kept.drawTarget (h : Kept s) {n : Nat} (hok : s.drawTarget n = .ok s') : Kept s' := by
  have hkeeps : Keeps s s' ∧ s'.currentSurfaceIndex = s.currentSurfaceIndex := by
    have hframe := drawTarget_frame hok
    unfold Wm.drawTarget at hok
    split at hok
    · cases hok
      refine ⟨⟨hframe, fun a' htab => ?_⟩, ?_⟩ <;> split <;> first | rfl | exact htab
    · obtain ⟨b, -, hok⟩ := Run.bind_eq_ok.1 hok
      cases hok
      refine ⟨⟨hframe, fun a' htab => ?_⟩, ?_⟩ <;> split <;> first | rfl | exact htab
  exact h.frame hkeeps.1 hkeeps.2

theorem Kept.ensureSource (h : Kept s) (hok : s.ensureSource a = .ok s') : Kept s' := by
  unfold Wm.ensureSource at hok
  obtain ⟨b, -, hok⟩ := Run.bind_eq_ok.1 hok
  split at hok
  · cases hok
    exact h
  · obtain ⟨hk, hcurrent, -⟩ := ensureCreated_keeps hok
    exact h.frame hk hcurrent

theorem Kept.created (h : Kept s) (rdpindex width height : Int) :
    Kept (serverCreateOsSurface s rdpindex width height) := by
  unfold serverCreateOsSurface
  split
  · refine ⟨h.names.imp id ?_, h.noOrders, h.screen⟩
    rintro ⟨a, hlt, hfreed, hrest⟩
    refine ⟨a, Nat.lt_succ_of_lt hlt, hfreed, ?_⟩
    dsimp only
    rwa [Function.update_of_ne hlt.ne]
  · refine ⟨h.names.imp id ?_, h.noOrders, h.screen⟩
    rintro ⟨a, hlt, hrest⟩
    exact ⟨a, Nat.lt_succ_of_lt hlt, hrest⟩

theorem Kept.leaveTarget (hl : Live s) (h : Kept s) {rdpindex : Int}
    (hok : s.leaveTarget rdpindex = .ok s') :
    Kept s' ∧ (s.painter = false → s'.currentSurfaceIndex = s.currentSurfaceIndex) := by
  unfold Wm.leaveTarget at hok
  split at hok
  · cases hok
    exact ⟨h, fun _ => rfl⟩
  · obtain ⟨b, -, hok⟩ := Run.bind_eq_ok.1 hok
    split at hok
    · refine ⟨.setTarget hl.screen h.names h.noOrders hok, fun hpainter => ?_⟩
      rw [Wm.setTarget, if_neg (by simp [hpainter])] at hok
      cases hok
      rfl
    · cases hok
      exact ⟨h, fun _ => rfl⟩

/-- Within an update, what is not the target is not the current surface. -/
theorem Kept.current_ne (h : Kept s) (hp : Painted s) {rdpindex : Int} (hrange : inRange rdpindex = true)
    (hstays : TargetStays s rdpindex) (hpainter : s.painter = true) :
    rdpindex.toNat ≠ s.currentSurfaceIndex := by
  unfold inRange at hrange
  rw [decide_eq_true_iff] at hrange
  have hscreen : rdpindex.toNat ≠ SCREEN := by
    rw [SCREEN]
    omega
  by_cases hno : s.noOrders = true
  · rwa [h.noOrders hno]
  · cases htarget : s.targetSurface with
    | none => rwa [h.screen hpainter htarget]
    | some a =>
      rw [← hp hpainter (by simpa using hno) a htarget]
      have := hstays a htarget
      omega

theorem Kept.removed (hl : Live s) (h : Kept s) {rdpindex : Int}
    (hcurrent : inRange rdpindex = true → rdpindex.toNat ≠ s.currentSurfaceIndex)
    (hok : xrdpCacheRemoveOsBitmap s rdpindex = .ok s') : Kept s' := by
  by_cases hrange : inRange rdpindex = true
  · obtain ⟨a, delList, hitem, rfl⟩ := remove_eq_ok hrange hok
    obtain ⟨-, -, hid, -, -⟩ := hl.items _ a hitem
    refine ⟨h.names.imp id ?_, h.noOrders, h.screen⟩
    rintro ⟨a', hlt, hfreed, htab, hid'⟩
    -- the bitmap that is deleted has another number
    have hne : a ≠ a' := by
      rintro rfl
      exact hcurrent hrange (hid.symm.trans hid')
    exact ⟨a', hlt, by simp [hfreed, hne], htab, hid'⟩
  · unfold xrdpCacheRemoveOsBitmap at hok
    rw [if_pos (by simpa using hrange)] at hok
    cases hok
    exact h

/-- **A call keeps the current surface.** -/
theorem Kept.call (hl : Live s) (ht : Told s) (hp : Painted s) (h : Kept s) {c : Call}
    (hfits : s.CallFits c) (hok : s.call c = .ok s') : Kept s' := by
  cases c with
  | beginUpdate =>
    have hpainter : Live { s with painter := true } := ⟨hl.items, hl.target, hl.fresh⟩
    exact .wmPainterSetTarget hpainter h.names h.noOrders hok
  | endUpdate =>
    cases hok
    exact ⟨h.names, h.noOrders, fun hpainter => absurd hpainter Bool.false_ne_true⟩
  | createOsSurface rdpindex width height =>
    cases hok
    exact h.created rdpindex width height
  | switchOsSurface rdpindex =>
    change serverSwitchOsSurface s rdpindex = .ok s' at hok
    unfold serverSwitchOsSurface at hok
    split at hok
    · exact .setTarget hl.screen h.names h.noOrders hok
    · split at hok
      · rename_i a hget
        exact .setTarget (hl.switched (get_eq_some hget).1) h.names h.noOrders hok
      · cases hok
        exact h
  | deleteOsSurface rdpindex =>
    obtain ⟨s₁, hleave, hremove⟩ := Run.bind_eq_ok.1 hok
    obtain ⟨hlive, hstays⟩ := leaveTarget_live hl hleave
    obtain ⟨hkept, hsame⟩ := h.leaveTarget hl hleave
    obtain ⟨s₁', hleave', -, hpainted⟩ := ht.leaveTarget hl hp rdpindex
    obtain rfl := Except.ok.inj (hleave.symm.trans hleave')
    refine hkept.removed hlive (fun hrange => ?_) hremove
    by_cases hpainter : s₁.painter = true
    · exact hkept.current_ne hpainted hrange hstays hpainter
    · have hoff : s.painter = false := by
        rw [← leaveTarget_painter hleave]
        simpa using hpainter
      rw [hsame hoff]
      exact (hfits hrange).2 hoff
  | draw n =>
    change serverDraw s n = .ok s' at hok
    unfold serverDraw at hok
    split at hok
    · exact h.drawTarget hok
    · cases hok
      exact h
  | paintRectOs rdpindex n =>
    change serverPaintRectOs s rdpindex n = .ok s' at hok
    unfold serverPaintRectOs at hok
    split at hok
    · split at hok
      · cases hok
        exact h
      · obtain ⟨s₁, hsource, hdraw⟩ := Run.bind_eq_ok.1 hok
        exact (h.ensureSource hsource).drawTarget hdraw
    · cases hok
      exact h
  | composite srcidx mskidx n =>
    change serverComposite s srcidx mskidx n = .ok s' at hok
    unfold serverComposite at hok
    split at hok
    · split at hok
      · cases hok
        exact h
      · obtain ⟨b, -, hok⟩ := Run.bind_eq_ok.1 hok
        obtain ⟨msk, -, hdraw⟩ := Run.bind_eq_ok.1 hok
        exact h.drawTarget hdraw
    · cases hok
      exact h
  | reset a =>
    cases hok
    unfold serverReset
    split
    · exact h
    · split
      · exact h
      · split
        · exact h
        · exact ⟨h.names, h.noOrders, h.screen⟩

end

/-- What is promised: every drawing order meets the surface it is meant for, and neither the target nor the
current surface is a bitmap that has been deleted. -/
structure Wm.Protocol (s : Wm) : Prop where
  draws : DrawsOk .start s.sent
  target : ∀ a, s.targetSurface = some a → s.freed a = false
  current : s.NamesCurrent

theorem told_create (noOrders : Bool) : Told (.create noOrders) := by
  have hreach : ∀ a, ¬ Reach (.create noOrders) a := by
    rintro a (ha | ⟨r, ha⟩)
    · cases ha
    · cases ha
  exact ⟨trivial, rfl, fun a ha => absurd ha (hreach a), fun a ha => absurd ha (hreach a),
    fun a _ ha => absurd ha (hreach a), fun _ _ a ha => absurd ha (hreach a),
    fun r a ha => absurd (.inr ⟨r, ha⟩) (hreach a)⟩

theorem kept_create (noOrders : Bool) : Kept (.create noOrders) :=
  ⟨.inl rfl, fun _ => rfl, fun _ _ => rfl⟩

/-- **Offscreen surfaces**: if all calls of a module meet the condition, then at all times every
drawing order sent for an offscreen target has met at the client a surface of that number and of
the target's size as the current one, and neither the target nor the current surface is a bitmap that
has been deleted. The condition: a number under which a bitmap is created is free in the cache, is not the
current one at the client and not the target's; a bitmap that is deleted is there, and outside of an update
it is not the current one; and if a bitmap has to be created at the client, there is a deletion list, which
there is not after a reset. -/
theorem surface_protocol (noOrders : Bool) (calls : List Call)
    (hfits : (Wm.create noOrders).Fits calls) {before : List Call} (hbefore : before <+: calls) :
    ∃ s, (Wm.create noOrders).run before = .ok s ∧ s.Protocol := by
  have hstep : ∀ (s : Wm) (c : Call), Live s ∧ Told s ∧ Painted s ∧ Kept s → s.CallFits c →
      ∃ s', s.call c = .ok s' ∧ Live s' ∧ Told s' ∧ Painted s' ∧ Kept s' := by
    rintro s c ⟨hl, h, hp, hk⟩ hf
    obtain ⟨s', hok, htold, hpainted⟩ := h.call hl hp hf
    exact ⟨s', hok, hl.call hok, htold, hpainted, hk.call hl h hp hf hok⟩
  have hstart : Live (.create noOrders) ∧ Told (.create noOrders) ∧ Painted (.create noOrders) ∧
      Kept (.create noOrders) :=
    ⟨live_create noOrders, told_create noOrders, fun hpainter => absurd hpainter Bool.false_ne_true,
      kept_create noOrders⟩
  obtain ⟨s, hrun, hl, h, -, hk⟩ := Runs.always_of_fits hstep hstart hfits before hbefore
  exact ⟨s, Runs.leads_except.1 hrun, h.draws, fun a ha => (hl.target a ha).1, hk.names⟩

/-- A bitmap is created, drawn on, deleted and created again in another size. -/
theorem surface_protocol_again :
    ∃ s, (Wm.create false).run [.createOsSurface 0 8 8, .switchOsSurface 0, .beginUpdate, .draw 1,
        .deleteOsSurface 0, .createOsSurface 0 9 9, .switchOsSurface 0, .draw 1] = .ok s ∧
      s.Protocol := by
  refine surface_protocol false _ ?_ (List.prefix_refl _)
  apply Runs.allFit_cons (by decide) rfl
  apply Runs.allFit_cons (by decide) rfl
  apply Runs.allFit_cons (by decide) rfl
  apply Runs.allFit_cons (by decide) rfl
  apply Runs.allFit_cons (by decide) rfl
  apply Runs.allFit_cons (by decide) rfl
  apply Runs.allFit_cons (by decide) rfl
  exact Runs.allFit_cons (by decide) rfl trivial

/-- **Where the client is not told**: a bitmap that replaces the target in the cache, and a bitmap
that replaces one deleted outside of an update, are drawn on in a surface of another size; a bitmap
that is deleted outside of an update stays the current one; and after a reset no bitmap can be created at
the client. -/
theorem surface_protocol_broken :
    (∃ s, (Wm.create false).run [.beginUpdate, .createOsSurface 0 8 8, .switchOsSurface 0,
        .createOsSurface 0 9 9, .switchOsSurface 0, .draw 1] = .ok s ∧ ¬ s.Protocol) ∧
      (∃ s, (Wm.create false).run [.createOsSurface 0 8 8, .switchOsSurface 0, .beginUpdate,
        .endUpdate, .deleteOsSurface 0, .createOsSurface 0 9 9, .switchOsSurface 0, .beginUpdate,
        .draw 1] = .ok s ∧ ¬ s.Protocol) ∧
      (∃ s, (Wm.create false).run [.createOsSurface 0 8 8, .switchOsSurface 0, .beginUpdate,
        .endUpdate, .deleteOsSurface 0] = .ok s ∧ ¬ s.Protocol) ∧
      (Wm.create false).run [.beginUpdate, .reset ⟨false, false, true⟩, .createOsSurface 0 8 8,
        .switchOsSurface 0] = .error .outOfBounds := by
  refine ⟨⟨_, rfl, fun h => ?_⟩, ⟨_, rfl, fun h => ?_⟩, ⟨_, rfl, fun h => ?_⟩, rfl⟩
  · exact absurd h.draws (by decide)
  · exact absurd h.draws (by decide)
  · -- there has been one bitmap only
    rcases h.current with hscreen | ⟨a, hlt, hfreed, -⟩
    · exact absurd hscreen (by decide)
    · obtain rfl : a = 0 := by
        have hone : a < 1 := hlt
        omega
      exact absurd hfreed (by decide)

end Xrdp.Surface
