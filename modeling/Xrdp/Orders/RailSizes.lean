import Xrdp.Orders.Failures
import Xrdp.Orders.Rail

/-!
# The sizes of orders for remote windows

A client goes from one order to the next by the size in front, and over the parts of an order by the
counts before them.

* `RailOrder.parts` — what is to be in an order behind its size.
* `Exact` — as many bytes are written as the check was asked for and as the order says, and the counts
  that a client finds are those of what has been written.
* `Adds` — what is written has the size that has been added up, just if a condition holds.
* `RailOrder.exact_iff` — when an order that is let through is exact.
-/

namespace Xrdp.Orders

open Wire Charsets Counted

/-! ## Parts -/

/-- A text, whose bytes are counted: two for a character. -/
def unicodePart (cs : Charset) (text : CharArrays.Text) : Part :=
  .counted 2 1 [2 * ((cs.decode text.bytes).getD []).length]

/-- The parts of an icon: the bytes of the colors, if there are any, of the mask and of the pixels are counted. -/
def iconParts (icon : RailIconInfo) : List Part :=
  [.fixed 8, .counted 2 1
    ((if icon.UseCmap then [icon.cmapBytes.toNat] else []) ++ [icon.maskBytes.toNat, icon.dataBytes.toNat])]

def windowUpdateParts (cs : Charset) (st : RailWindowStateOrder) (flags : UInt32) : List Part :=
  (if Present flags WINDOW_ORDER_FIELD_OWNER then [Part.fixed 4] else []) ++
  (if Present flags WINDOW_ORDER_FIELD_STYLE then [Part.fixed 8] else []) ++
  (if Present flags WINDOW_ORDER_FIELD_SHOW then [Part.fixed 1] else []) ++
  (if Present flags WINDOW_ORDER_FIELD_TITLE then [unicodePart cs st.titleInfo] else []) ++
  (if Present flags WINDOW_ORDER_FIELD_CLIENT_AREA_OFFSET then [Part.fixed 8] else []) ++
  (if Present flags WINDOW_ORDER_FIELD_CLIENT_AREA_SIZE then [Part.fixed 8] else []) ++
  (if Present flags WINDOW_ORDER_FIELD_RP_CONTENT then [Part.fixed 1] else []) ++
  (if Present flags WINDOW_ORDER_FIELD_ROOT_PARENT then [Part.fixed 4] else []) ++
  (if Present flags WINDOW_ORDER_FIELD_WND_OFFSET then [Part.fixed 8] else []) ++
  (if Present flags WINDOW_ORDER_FIELD_WND_CLIENT_DELTA then [Part.fixed 8] else []) ++
  (if Present flags WINDOW_ORDER_FIELD_WND_SIZE then [Part.fixed 8] else []) ++
  (if Present flags WINDOW_ORDER_FIELD_WND_RECTS then [Part.counted 2 8 [st.numWindowRects.toNat]] else []) ++
  (if Present flags WINDOW_ORDER_FIELD_VIS_OFFSET then [Part.fixed 8] else []) ++
  (if Present flags WINDOW_ORDER_FIELD_VISIBILITY then [Part.counted 2 8 [st.numVisibilityRects.toNat]]
    else [])

def notifyUpdateParts (cs : Charset) (st : RailNotifyStateOrder) (flags : UInt32) : List Part :=
  (if Present flags WINDOW_ORDER_FIELD_NOTIFY_VERSION then [Part.fixed 4] else []) ++
  (if Present flags WINDOW_ORDER_FIELD_NOTIFY_TIP then [unicodePart cs st.toolTip] else []) ++
  (if Present flags WINDOW_ORDER_FIELD_NOTIFY_INFO_TIP then
    [Part.fixed 8, unicodePart cs st.infotip.text, unicodePart cs st.infotip.title] else []) ++
  (if Present flags WINDOW_ORDER_FIELD_NOTIFY_STATE then [Part.fixed 4] else []) ++
  (if Present flags WINDOW_ORDER_ICON then iconParts st.iconInfo else []) ++
  (if Present flags WINDOW_ORDER_CACHED_ICON then [Part.fixed 3] else [])

def desktopParts (mdo : RailMonitoredDesktopOrder) (flags : UInt32) : List Part :=
  (if Present flags WINDOW_ORDER_FIELD_DESKTOP_ACTIVE_WND then [Part.fixed 4] else []) ++
  (if Present flags WINDOW_ORDER_FIELD_DESKTOP_ZORDER then [Part.counted 1 4 [mdo.numWindowIds.toNat]]
    else [])

/-- What is to be behind the size of an order: the flags, the ids, and what the flags say. -/
def RailOrder.parts (cs : Charset) : RailOrder → List Part
  | windowDelete _ => [.fixed 8]
  | windowCachedIcon _ _ _ _ => [.fixed 11]
  | windowIcon _ _ _ iconInfo _ => [.fixed 8] ++ iconParts iconInfo
  | windowNewUpdate _ st flags => [.fixed 8] ++ windowUpdateParts cs st (flags ||| WINDOW_ORDER_TYPE_WINDOW)
  | notifyDelete _ _ => [.fixed 12]
  | notifyNewUpdate _ _ st flags => [.fixed 12] ++ notifyUpdateParts cs st (flags ||| WINDOW_ORDER_TYPE_NOTIFY)
  | monitoredDesktop mdo flags => [.fixed 4] ++ desktopParts mdo (flags ||| WINDOW_ORDER_TYPE_DESKTOP)

/-! ## Exactness -/

/-- As many bytes are put behind what there was as have been asked for and as the order says, and its counts
are those of what it holds. -/
def Exact (env : Env) (self : XrdpOrders) (orderSize : Int) (ps : List Part)
    (r : Option (Nat × XrdpOrders)) : Prop :=
  ∃ bytes, r.map (fun r => (r.1, r.2.out)) =
      some (0, (xrdpOrdersCheck env self orderSize).2.out.put bytes) ∧
    (bytes.length : Int) = orderSize ∧
    leVal ((bytes.drop 1).take 2) = bytes.length ∧
    skim (.fixed 3 :: ps) bytes = some (ps.flatMap Part.counts, [])

/-- An order is written: it has fields, and its size is let through. -/
def RailOrder.Written (cs : Charset) (env : Env) (self : XrdpOrders) (o : RailOrder) : Prop :=
  (∀ windowId st flags, o = windowNewUpdate windowId st flags → 12 ≤ o.orderSize cs) ∧
    OrderFits env self (o.orderSize cs)

/-! ## Conditions -/

/-- The text is characters. -/
def Decodable (cs : Charset) (text : CharArrays.Text) : Prop := (cs.decode text.bytes).isSome

/-- The numbers of bytes are not negative. -/
def RailIconInfo.Sound (icon : RailIconInfo) : Prop :=
  0 ≤ icon.maskBytes ∧ (icon.UseCmap → 0 ≤ icon.cmapBytes) ∧ 0 ≤ icon.dataBytes

def RailWindowStateOrder.Sound (cs : Charset) (st : RailWindowStateOrder) (flags : UInt32) : Prop :=
  (Present flags WINDOW_ORDER_FIELD_TITLE → Decodable cs st.titleInfo) ∧
  (Present flags WINDOW_ORDER_FIELD_WND_RECTS → 0 ≤ st.numWindowRects) ∧
  (Present flags WINDOW_ORDER_FIELD_VISIBILITY → 0 ≤ st.numVisibilityRects)

def RailNotifyStateOrder.Sound (cs : Charset) (st : RailNotifyStateOrder) (flags : UInt32) : Prop :=
  (Present flags WINDOW_ORDER_FIELD_NOTIFY_TIP → Decodable cs st.toolTip) ∧
  (Present flags WINDOW_ORDER_FIELD_NOTIFY_INFO_TIP →
    Decodable cs st.infotip.text ∧ Decodable cs st.infotip.title) ∧
  (Present flags WINDOW_ORDER_ICON → st.iconInfo.Sound)

def RailMonitoredDesktopOrder.Sound (mdo : RailMonitoredDesktopOrder) (flags : UInt32) : Prop :=
  Present flags WINDOW_ORDER_FIELD_DESKTOP_ZORDER → 0 ≤ mdo.numWindowIds

/-- The texts that are present are characters, and the numbers that are present are not negative. -/
def RailOrder.Sound (cs : Charset) : RailOrder → Prop
  | windowIcon _ _ _ icon _ => icon.Sound
  | windowNewUpdate _ st flags => st.Sound cs (flags ||| WINDOW_ORDER_TYPE_WINDOW)
  | notifyNewUpdate _ _ st flags => st.Sound cs (flags ||| WINDOW_ORDER_TYPE_NOTIFY)
  | monitoredDesktop mdo flags => mdo.Sound (flags ||| WINDOW_ORDER_TYPE_DESKTOP)
  | _ => True

/-- An order can be exact: it is sound, every count fits in its field, and so does the size. -/
def RailOrder.Countable (cs : Charset) (o : RailOrder) : Prop :=
  o.Sound cs ∧ (∀ p ∈ o.parts cs, p.Fits) ∧ 3 + size (o.parts cs) < 65536

/-! ## Sizes that have been added up -/

/-- What is written is these parts, and has the size that has been added up, if the condition holds; and it
is longer if it does not. -/
structure Adds (sum : Int) (fields : Option (List UInt8)) (ps : List Part) (good : Prop) : Prop where
  lays : good → ∃ bs, fields = some bs ∧ Lays ps bs
  le : ∀ bs, fields = some bs → sum ≤ bs.length
  eq_iff : ∀ bs, fields = some bs → ((bs.length : Int) = sum ↔ good)

namespace Adds

variable {sum sum' : Int} {fields fields' : Option (List UInt8)} {ps ps' : List Part} {good good' : Prop}
  {bs : List UInt8} {n : Nat}

theorem fixed (h : bs.length = n) : Adds n (some bs) [.fixed n] True where
  lays _ := ⟨bs, rfl, .of_length h⟩
  le _ hbs := by
    cases hbs
    omega
  eq_iff _ hbs := by
    cases hbs
    simpa using h

/-- What is written behind something else. -/
theorem append (h : Adds sum fields ps good) (h' : Adds sum' fields' ps' good') :
    Adds (sum + sum') (fields.bind fun a => fields'.map (a ++ ·)) (ps ++ ps') (good ∧ good') where
  lays := by
    rintro ⟨hgood, hgood'⟩
    obtain ⟨bs, rfl, hlays⟩ := h.lays hgood
    obtain ⟨bs', rfl, hlays'⟩ := h'.lays hgood'
    exact ⟨bs ++ bs', rfl, hlays.append hlays'⟩
  le bs hbs := by
    obtain ⟨a, ha, hbs⟩ := Option.bind_eq_some_iff.1 hbs
    obtain ⟨b, hb, rfl⟩ := Option.map_eq_some_iff.1 hbs
    have := h.le a ha
    have := h'.le b hb
    rw [List.length_append]
    omega
  eq_iff bs hbs := by
    obtain ⟨a, ha, hbs⟩ := Option.bind_eq_some_iff.1 hbs
    obtain ⟨b, hb, rfl⟩ := Option.map_eq_some_iff.1 hbs
    have := h.le a ha
    have := h'.le b hb
    rw [← h.eq_iff a ha, ← h'.eq_iff b hb, List.length_append]
    omega

/-- What is written if a flag says that it is present. -/
theorem ite {c : Prop} [Decidable c] (h : Adds sum fields ps good) :
    Adds (if c then sum else 0) (if c then fields else some []) (if c then ps else []) (c → good) := by
  by_cases hc : c
  · simpa [hc] using h
  · simp only [hc, if_false, false_imp_iff]
    refine ⟨fun _ => ⟨[], rfl, .nil⟩, ?_, ?_⟩
    all_goals
      intro bs hbs
      cases hbs
      simp

theorem iteSome {c : Prop} [Decidable c] (h : Adds sum (some bs) ps good) :
    Adds (if c then sum else 0) (some (if c then bs else [])) (if c then ps else []) (c → good) := by
  have key := Adds.ite (c := c) h
  rwa [← apply_ite some] at key

theorem congr (h : Adds sum fields ps good) (hgood : good ↔ good') : Adds sum fields ps good' :=
  ⟨fun hg => h.lays (hgood.2 hg), h.le, fun bs hbs => (h.eq_iff bs hbs).trans hgood⟩

/-- What is written behind so many bytes. -/
theorem behind (front : List UInt8) (hn : front.length = n) (h : Adds sum fields ps good) :
    Adds (n + sum) (fields.map (front ++ ·)) ([.fixed n] ++ ps) good :=
  ((fixed hn).append h).congr (by simp)

end Adds

/-- Behind its size, an order is exact just if the condition holds and everything fits. -/
theorem windowOrder_exact_iff {env : Env} {self : XrdpOrders} {sum orderSize : Int}
    {fields : Option (List UInt8)} {ps : List Part} {good : Prop} (h : Adds sum fields ps good)
    (hsum : 3 + sum = orderSize) (hfits : OrderFits env self orderSize) :
    Exact env self orderSize ps (windowOrder env self orderSize fields) ↔
      good ∧ (∀ p ∈ ps, p.Fits) ∧ 3 + size ps < 65536 := by
  subst hsum
  have hcheck := xrdpOrdersCheck_eq_zero.2 hfits
  have hheader : (outLe 1 (TS_SECONDARY ||| 0xb <<< 2 : Nat) ++ outLe 2 (3 + sum)).length = 3 := by simp
  have horder : (windowOrder env self (3 + sum) fields).map (fun r => (r.1, r.2.out)) =
      fields.map fun bs => (0, (xrdpOrdersCheck env self (3 + sum)).2.out.put
        (outLe 1 (TS_SECONDARY ||| 0xb <<< 2 : Nat) ++ outLe 2 (3 + sum) ++ bs)) := by
    simp [windowOrder, hcheck, Function.comp_def]
  have hfield : ∀ bs : List UInt8, leVal ((((outLe 1 (TS_SECONDARY ||| 0xb <<< 2 : Nat) ++
      outLe 2 (3 + sum)) ++ bs).drop 1).take 2) = ((3 + sum) % 65536).toNat := by
    intro bs
    rw [List.append_assoc, List.drop_left' (by simp), List.take_left' (by simp), outLe, leVal_leBytes]
    omega
  unfold Exact
  rw [horder]
  constructor
  · rintro ⟨bytes, hbytes, hlen, hsize, hskim⟩
    obtain ⟨bs, rfl, hput⟩ := Option.map_eq_some_iff.1 hbytes
    have heq := OutStream.put_injective (Prod.mk.inj hput).2
    subst heq
    rw [hfield] at hsize
    rw [List.length_append, hheader] at hlen hsize
    have hgood := (h.eq_iff bs rfl).1 (by omega)
    obtain ⟨_, ⟨⟩, hlays⟩ := h.lays hgood
    rw [skim_cons_fixed hheader] at hskim
    refine ⟨hgood, hlays.skim_iff.1 hskim, ?_⟩
    rw [← hlays.length]
    omega
  · rintro ⟨hgood, hfit, hsmall⟩
    obtain ⟨bs, rfl, hlays⟩ := h.lays hgood
    have hlen := (h.eq_iff bs rfl).2 hgood
    rw [← hlays.length] at hsmall
    refine ⟨_, rfl, ?_, ?_, ?_⟩
    · rw [List.length_append, hheader]
      omega
    · rw [hfield, List.length_append, hheader]
      omega
    · rw [skim_cons_fixed hheader]
      exact hlays.skim_iff.2 hfit

/-! ## Texts, rectangles and icons -/

theorem leBytes_mod (n v : Nat) : leBytes n (v % 256 ^ n) = leBytes n v := by
  induction n generalizing v with
  | zero => rfl
  | succ n ih =>
    have hdiv : v % 256 ^ (n + 1) / 256 = v / 256 % 256 ^ n := by
      rw [Nat.pow_succ, Nat.mul_comm, Nat.mod_mul_right_div_self]
    have hmod : v % 256 ^ (n + 1) % 256 = v % 256 :=
      Nat.mod_mod_of_dvd v (Dvd.intro_left (256 ^ n) rfl)
    rw [leBytes, leBytes, hdiv, ih]
    congr 1
    rw [← UInt8.toNat_inj, UInt8.toNat_ofNat', UInt8.toNat_ofNat']
    exact hmod

theorem outLe_of_nonneg {n : Nat} {v : Int} (h : 0 ≤ v) : outLe n v = leBytes n v.toNat := by
  obtain ⟨k, rfl⟩ := Int.eq_ofNat_of_zero_le h
  rw [outLe, ← leBytes_mod n (Int.toNat k)]
  norm_cast

/-- A text is as long as has been added up if it is characters; else two bytes too long. -/
theorem unicode_adds (cs : Charset) (text : CharArrays.Text) :
    Adds (xrdpOrdersGetUnicodeBytes cs text) (some (xrdpOrdersSendAsUnicode cs text))
      [unicodePart cs text] (Decodable cs text) := by
  unfold Decodable xrdpOrdersGetUnicodeBytes gMbstowcsCount xrdpOrdersSendAsUnicode gMbstowcs unicodePart
  cases h : cs.decode text.bytes with
  | none =>
    refine ⟨fun hnone => (by cases hnone), ?_, ?_⟩
    all_goals
      intro bs hbs
      cases hbs
      simp
  | some ws =>
    have hroom : ws.take (text.bytes.length + 1) = ws :=
      List.take_of_length_le (Nat.le_succ_of_le (cs.decode_length_le h))
    have hlen : (ws.flatMap fun w : Nat => outLe 2 w).length = 2 * ws.length := by
      simp [List.length_flatMap, Nat.mul_comm]
    have htext : (if ws.length > 0 then outLe 2 (ws.length * 2 : Nat) ++ ws.flatMap fun w : Nat => outLe 2 w
        else outLe 2 0) = [2 * ws.length].flatMap (leBytes 2) ++ ws.flatMap fun w : Nat => outLe 2 w := by
      cases ws with
      | nil => rfl
      | cons w ws =>
        rw [if_pos (by simp), outLe_of_nonneg (by omega), Int.toNat_natCast, Nat.mul_comm]
        simp
    simp only [Option.map_some, hroom, htext, Option.getD_some, Option.isSome_some]
    rw [if_neg (by omega)]
    refine ⟨fun _ => ⟨_, rfl, .of_counts (by rw [hlen]; simp)⟩, ?_, ?_⟩
    all_goals
      intro bs hbs
      cases hbs
      rw [List.length_append, hlen]
      simp
      omega

/-- Elements and their number before them, which there are not as many of if it is negative. -/
theorem count_adds {w unit : Nat} (hunit : 0 < unit) {count : Int} {elements : List UInt8}
    (h : elements.length = count.toNat * unit) :
    Adds (w + unit * count) (some (outLe w count ++ elements)) [.counted w unit [count.toNat]]
      (0 ≤ count) where
  lays hcount := by
    rw [outLe_of_nonneg hcount]
    have hlays := @Lays.of_counts elements [count.toNat] w unit (by simpa using h)
    exact ⟨_, rfl, by simpa using hlays⟩
  le _ hbs := by
    cases hbs
    rw [List.length_append, outLe_length, h]
    push_cast
    have := Int.mul_le_mul_of_nonneg_left (Int.self_le_toNat count) (Int.natCast_nonneg unit)
    rw [Int.mul_comm (count.toNat : Int)]
    omega
  eq_iff _ hbs := by
    cases hbs
    rw [List.length_append, outLe_length, h]
    push_cast
    rw [Int.mul_comm (unit : Int), Int.add_right_inj, Int.mul_eq_mul_right_iff (by omega)]
    omega

theorem outRects_length (rects : Nat → Rect) (n : Int) : (outRects rects n).length = n.toNat * 8 := by
  simp [outRects, List.length_flatMap]

theorem rects_adds (rects : Nat → Rect) (n : Int) :
    Adds (2 + 8 * n) (some (outLe 2 n ++ outRects rects n)) [.counted 2 8 [n.toNat]] (0 ≤ n) :=
  count_adds (by decide) (outRects_length rects n)

/-- What is read of an icon, and the counts before it. -/
theorem xrdpOrdersSendTsIcon_eq_some {cacheEntry cacheId : Int} {icon : RailIconInfo} {bs : List UInt8} :
    xrdpOrdersSendTsIcon cacheEntry cacheId icon = some bs ↔
      icon.Sound ∧
        outLe 2 cacheEntry ++ outLe 1 cacheId ++ outLe 1 icon.bpp ++ outLe 2 icon.width ++
          outLe 2 icon.height ++ (if icon.UseCmap then outLe 2 icon.cmapBytes else []) ++
          outLe 2 icon.maskBytes ++ outLe 2 icon.dataBytes ++ bytesAt icon.mask 0 icon.maskBytes.toNat ++
          (if icon.UseCmap then bytesAt icon.cmap 0 icon.cmapBytes.toNat else []) ++
          bytesAt icon.data 0 icon.dataBytes.toNat = bs := by
  unfold xrdpOrdersSendTsIcon RailIconInfo.Sound outUint8p
  by_cases hmask : icon.maskBytes < 0
  · simp [hmask]
  · by_cases hcmap : icon.UseCmap
    · by_cases hneg : icon.cmapBytes < 0
      · simp [hmask, hcmap, hneg]
      · by_cases hdata : icon.dataBytes < 0
        · simp [hmask, hcmap, hneg, hdata]
        · simp [hmask, hcmap, hneg, hdata]
          omega
    · by_cases hdata : icon.dataBytes < 0
      · simp [hmask, hcmap, hdata]
      · simp [hmask, hcmap, hdata]
        omega

/-- An icon cannot be written if a number of bytes is negative. -/
theorem icon_adds (cacheEntry cacheId : Int) (icon : RailIconInfo) :
    Adds (12 + icon.size) (xrdpOrdersSendTsIcon cacheEntry cacheId icon) (iconParts icon) icon.Sound := by
  have hlength : ∀ bs, xrdpOrdersSendTsIcon cacheEntry cacheId icon = some bs →
      icon.Sound ∧ (bs.length : Int) = 12 + icon.size := by
    intro bs hbs
    obtain ⟨hsound, rfl⟩ := xrdpOrdersSendTsIcon_eq_some.1 hbs
    refine ⟨hsound, ?_⟩
    obtain ⟨hmask, hcmap, hdata⟩ := hsound
    unfold RailIconInfo.size
    by_cases huse : icon.UseCmap
    · have := hcmap huse
      simp [huse]
      omega
    · simp [huse]
      omega
  refine ⟨fun hsound => ⟨_, xrdpOrdersSendTsIcon_eq_some.2 ⟨hsound, rfl⟩, ?_⟩,
    fun bs hbs => (hlength bs hbs).2.ge, fun bs hbs => iff_of_true (hlength bs hbs).2 (hlength bs hbs).1⟩
  obtain ⟨hmask, hcmap, hdata⟩ := hsound
  have hfront : (outLe 2 cacheEntry ++ outLe 1 cacheId ++ outLe 1 icon.bpp ++ outLe 2 icon.width ++
      outLe 2 icon.height).length = 8 := by simp
  unfold iconParts
  by_cases huse : icon.UseCmap
  · have hlays := (Lays.of_length hfront).append
      (@Lays.of_counts (bytesAt icon.mask 0 icon.maskBytes.toNat ++ bytesAt icon.cmap 0 icon.cmapBytes.toNat ++
        bytesAt icon.data 0 icon.dataBytes.toNat)
        [icon.cmapBytes.toNat, icon.maskBytes.toNat, icon.dataBytes.toNat] 2 1 (by simp; omega))
    simpa [huse, outLe_of_nonneg hmask, outLe_of_nonneg hdata, outLe_of_nonneg (hcmap huse)] using hlays
  · have hlays := (Lays.of_length hfront).append
      (@Lays.of_counts (bytesAt icon.mask 0 icon.maskBytes.toNat ++
        bytesAt icon.data 0 icon.dataBytes.toNat)
        [icon.maskBytes.toNat, icon.dataBytes.toNat] 2 1 (by simp))
    simpa [huse, outLe_of_nonneg hmask, outLe_of_nonneg hdata] using hlays

/-! ## The orders -/

variable (cs : Charset) (flags : UInt32)

theorem word_adds (a : Int) : Adds 4 (some (outLe 4 a)) [.fixed 4] True := Adds.fixed (n := 4) (by simp)

theorem pair_adds (a b : Int) : Adds (4 + 4) (some (outLe 4 a ++ outLe 4 b)) [.fixed 8] True :=
  Adds.fixed (n := 8) (by simp)

theorem byte_adds (a : Int) : Adds 1 (some (outLe 1 a)) [.fixed 1] True := Adds.fixed (n := 1) (by simp)

theorem windowUpdate_adds (st : RailWindowStateOrder) :
    Adds (windowUpdateSize cs st flags) (some (windowUpdateFields cs st flags)) (windowUpdateParts cs st flags)
      (st.Sound cs flags) := by
  have h := (word_adds st.ownerWindowId).iteSome (c := Present flags WINDOW_ORDER_FIELD_OWNER)
  have h := h.append ((pair_adds st.style st.extendedStyle).iteSome
    (c := Present flags WINDOW_ORDER_FIELD_STYLE))
  have h := h.append ((byte_adds st.showState).iteSome (c := Present flags WINDOW_ORDER_FIELD_SHOW))
  have h := h.append ((unicode_adds cs st.titleInfo).iteSome (c := Present flags WINDOW_ORDER_FIELD_TITLE))
  have h := h.append ((pair_adds st.clientOffsetX st.clientOffsetY).iteSome
    (c := Present flags WINDOW_ORDER_FIELD_CLIENT_AREA_OFFSET))
  have h := h.append ((pair_adds st.clientAreaWidth st.clientAreaHeight).iteSome
    (c := Present flags WINDOW_ORDER_FIELD_CLIENT_AREA_SIZE))
  have h := h.append ((byte_adds st.rpContent).iteSome (c := Present flags WINDOW_ORDER_FIELD_RP_CONTENT))
  have h := h.append ((word_adds st.rootParentHandle).iteSome
    (c := Present flags WINDOW_ORDER_FIELD_ROOT_PARENT))
  have h := h.append ((pair_adds st.windowOffsetX st.windowOffsetY).iteSome
    (c := Present flags WINDOW_ORDER_FIELD_WND_OFFSET))
  have h := h.append ((pair_adds st.windowClientDeltaX st.windowClientDeltaY).iteSome
    (c := Present flags WINDOW_ORDER_FIELD_WND_CLIENT_DELTA))
  have h := h.append ((pair_adds st.windowWidth st.windowHeight).iteSome
    (c := Present flags WINDOW_ORDER_FIELD_WND_SIZE))
  have h := h.append ((rects_adds st.windowRects st.numWindowRects).iteSome
    (c := Present flags WINDOW_ORDER_FIELD_WND_RECTS))
  have h := h.append ((pair_adds st.visibleOffsetX st.visibleOffsetY).iteSome
    (c := Present flags WINDOW_ORDER_FIELD_VIS_OFFSET))
  have h := h.append ((rects_adds st.visibilityRects st.numVisibilityRects).iteSome
    (c := Present flags WINDOW_ORDER_FIELD_VISIBILITY))
  exact h.congr (by simp only [RailWindowStateOrder.Sound, implies_true, true_and, and_true, and_assoc])

/-- An icon is in the middle. -/
theorem notifyUpdate_adds (st : RailNotifyStateOrder) :
    Adds (notifyUpdateSize cs st flags) (notifyUpdateFields cs st flags) (notifyUpdateParts cs st flags)
      (st.Sound cs flags) := by
  have htips := ((pair_adds st.infotip.timeout st.infotip.flags).append
    (unicode_adds cs st.infotip.text)).append (unicode_adds cs st.infotip.title)
  have hsize : xrdpOrdersGetUnicodeBytes cs st.infotip.title + xrdpOrdersGetUnicodeBytes cs st.infotip.text
      + 8 = 4 + 4 + xrdpOrdersGetUnicodeBytes cs st.infotip.text +
        xrdpOrdersGetUnicodeBytes cs st.infotip.title := by omega
  have hcached : Adds 3 (some (outLe 2 st.iconCacheEntry ++ outLe 1 st.iconCacheId)) [.fixed 3] True :=
    Adds.fixed (n := 3) (by simp)
  have h := (word_adds st.version).iteSome (c := Present flags WINDOW_ORDER_FIELD_NOTIFY_VERSION)
  have h := h.append ((unicode_adds cs st.toolTip).iteSome
    (c := Present flags WINDOW_ORDER_FIELD_NOTIFY_TIP))
  have h := h.append (htips.iteSome (c := Present flags WINDOW_ORDER_FIELD_NOTIFY_INFO_TIP))
  have h := h.append ((word_adds st.state).iteSome (c := Present flags WINDOW_ORDER_FIELD_NOTIFY_STATE))
  have h := h.append ((icon_adds st.iconCacheEntry st.iconCacheId st.iconInfo).ite
    (c := Present flags WINDOW_ORDER_ICON))
  have h := h.append (hcached.iteSome (c := Present flags WINDOW_ORDER_CACHED_ICON))
  have h : Adds _ _ _ (st.Sound cs flags) := h.congr (by
    simp only [RailNotifyStateOrder.Sound, implies_true, true_and, and_true, and_assoc])
  unfold notifyUpdateSize notifyUpdateFields
  rw [hsize]
  change Adds _ ((Option.bind _ fun a => (notifyIcon st flags).map (a ++ ·)).bind _) _ _ at h
  cases hicon : notifyIcon st flags with
  | none =>
    rw [hicon] at h
    exact h
  | some icon =>
    rw [hicon] at h
    exact h

theorem desktop_adds (mdo : RailMonitoredDesktopOrder) :
    Adds (desktopSize mdo flags) (some (desktopFields mdo flags)) (desktopParts mdo flags)
      (mdo.Sound flags) := by
  have hids : Adds (1 + mdo.numWindowIds * 4) (some (outLe 1 mdo.numWindowIds ++
      (List.range mdo.numWindowIds.toNat).flatMap fun i => outLe 4 (mdo.windowIds i)))
      [.counted 1 4 [mdo.numWindowIds.toNat]] (0 ≤ mdo.numWindowIds) := by
    rw [Int.mul_comm]
    exact @count_adds 1 4 (by decide) _ _ (by simp [List.length_flatMap])
  have h := (word_adds mdo.activeWindowId).iteSome
    (c := Present flags WINDOW_ORDER_FIELD_DESKTOP_ACTIVE_WND)
  have h := h.append (hids.iteSome (c := Present flags WINDOW_ORDER_FIELD_DESKTOP_ZORDER))
  exact h.congr (by simp only [RailMonitoredDesktopOrder.Sound, implies_true, true_and])

/-- Every order that is let through is exact just if it is sound and can be counted. -/
theorem RailOrder.exact_iff {cs : Charset} {env : Env} {self : XrdpOrders} {o : RailOrder}
    (h : o.Written cs env self) :
    Exact env self (o.orderSize cs) (o.parts cs) (o.send cs env self) ↔ o.Countable cs := by
  obtain ⟨hsent, hfits⟩ := h
  cases o with
  | windowDelete windowId =>
    exact windowOrder_exact_iff (Adds.fixed (n := 8) (by simp)) rfl hfits
  | windowCachedIcon windowId cacheEntry cacheId flags =>
    exact windowOrder_exact_iff (Adds.fixed (n := 11) (by simp)) rfl hfits
  | windowIcon windowId cacheEntry cacheId icon flags =>
    have hadds := (icon_adds cacheEntry cacheId icon).behind
      (outLe 4 (flags ||| WINDOW_ORDER_TYPE_WINDOW ||| WINDOW_ORDER_ICON).toNat ++ outLe 4 windowId)
      (n := 8) (by simp)
    refine windowOrder_exact_iff hadds ?_ hfits
    show 3 + ((8 : Nat) + (12 + icon.size)) = 23 + icon.size
    omega
  | windowNewUpdate windowId st flags =>
    have hsize : ¬ 11 + windowUpdateSize cs st (flags ||| WINDOW_ORDER_TYPE_WINDOW) < 12 :=
      Int.not_lt.2 (hsent _ _ _ rfl)
    have hadds := (windowUpdate_adds cs (flags ||| WINDOW_ORDER_TYPE_WINDOW) st).behind
      (outLe 4 (flags ||| WINDOW_ORDER_TYPE_WINDOW).toNat ++ outLe 4 windowId) (n := 8) (by simp)
    simp only [send, xrdpOrdersSendWindowNewUpdate, if_neg hsize]
    refine windowOrder_exact_iff hadds ?_ hfits
    show 3 + ((8 : Nat) + windowUpdateSize cs st _) = 11 + windowUpdateSize cs st _
    omega
  | notifyDelete windowId notifyId =>
    exact windowOrder_exact_iff (Adds.fixed (n := 12) (by simp)) rfl hfits
  | notifyNewUpdate windowId notifyId st flags =>
    have hadds := (notifyUpdate_adds cs (flags ||| WINDOW_ORDER_TYPE_NOTIFY) st).behind
      (outLe 4 (flags ||| WINDOW_ORDER_TYPE_NOTIFY).toNat ++ outLe 4 windowId ++ outLe 4 notifyId)
      (n := 12) (by simp)
    refine windowOrder_exact_iff hadds ?_ hfits
    show 3 + ((12 : Nat) + notifyUpdateSize cs st _) = 15 + notifyUpdateSize cs st _
    omega
  | monitoredDesktop mdo flags =>
    have hadds := (desktop_adds (flags ||| WINDOW_ORDER_TYPE_DESKTOP) mdo).behind
      (outLe 4 (flags ||| WINDOW_ORDER_TYPE_DESKTOP).toNat) (n := 4) (by simp)
    refine windowOrder_exact_iff hadds ?_ hfits
    show 3 + ((4 : Nat) + desktopSize mdo _) = 7 + desktopSize mdo _
    omega

/-- The title of a window is no text: two bytes of it are written that have not been added up. -/
theorem undecodable_title_longer :
    let env : Env := {
      maxFastpathFragBytes := 16 * 1024, useFastPath := true, op2 := true, useCacheGlyphV2 := true
      v3CodecId := 0, rfxCodecId := 0, jpegCodecId := 0, compress := fun _ _ => (0, [])
      rfxCompress := none, jpegCompress := none, rfxMinPixel := 64 * 32, headerBytes := 6
      sendOk := fun _ => true, afterSend := id }
    let self := xrdpOrdersInit env (xrdpOrdersCreate ⟨fun _ => 0, 0, 0, 0, 0, 0⟩)
    let rect : Nat → Rect := fun _ => ⟨0, 0, 0, 0⟩
    let o : RailOrder := .windowNewUpdate 1
      ⟨0, 0, 0, 0, ⟨[0xFF], by decide⟩, 0, 0, 0, 0, 0, 0, 0, 0, 0, 0, 0, 0, 0, rect, 0, 0, 0, rect⟩
      (WINDOW_ORDER_FIELD_OWNER ||| WINDOW_ORDER_FIELD_TITLE)
    ¬(o.Written ascii env self →
      Exact env self (o.orderSize ascii) (o.parts ascii) (o.send ascii env self)) := by
  intro env self rect o h
  have hsize : o.orderSize ascii = 15 := by decide
  have hwritten : o.Written ascii env self := by
    refine ⟨fun _ _ _ _ => by rw [hsize]; decide, ?_⟩
    rw [hsize]
    show 6 ≤ 6 + 2
    omega
  obtain ⟨⟨htitle, -⟩, -⟩ := (RailOrder.exact_iff hwritten).1 (h hwritten)
  exact absurd (htitle (by decide)) (by unfold Decodable; decide)

/-- **The sizes of orders are exact**: an order that is written has as many bytes as the check has been
asked for and as it says, and the counts of its parts are those of what it holds, just if the texts that are
present are characters, no number that is present is negative, and the counts and the size fit in their
fields. -/
theorem rail_orders_exact_iff (cs : Charset) (env : Env) (self : XrdpOrders) (o : RailOrder) :
    (o.Written cs env self →
      Exact env self (o.orderSize cs) (o.parts cs) (o.send cs env self)) ↔
    (o.Written cs env self → o.Countable cs) :=
  forall_congr' fun h => RailOrder.exact_iff h

end Xrdp.Orders
