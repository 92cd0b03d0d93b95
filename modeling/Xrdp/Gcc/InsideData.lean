import Xrdp.Gcc.ClientData

/-!
# Inside the received data

* `core_spec`, `security_spec`, `channels_spec`, `monitors_eq` — what each parser reads.
* `BlockFits` — a block is as long as the fields that are read of it; `block_fits_iff` — just then
  its parser stays inside the data, and the block, or returns an error.
* `inside_iff` — so does the whole of `xrdp_sec_process_mcs_data`.
-/

namespace Xrdp.Gcc

open Wire
open Dvc (signed32)

/-! ## Readers -/

/-- What no parser but the one of network data changes, nor the configuration. -/
structure Kept (s s' : Sec) : Prop where
  channelList : s'.channelList = s.channelList
  channelsAllowed : s'.info.channelsAllowed = s.info.channelsAllowed

theorem Kept.trans {s₁ s₂ s₃ : Sec} (h : Kept s₁ s₂) (h' : Kept s₂ s₃) : Kept s₁ s₃ :=
  ⟨h'.channelList.trans h.channelList, h'.channelsAllowed.trans h.channelsAllowed⟩

section

variable {data : List UInt8} {α : Type} {s : Sec}

@[simp] theorem In.pure_apply (a : α) : (pure a : In α) s = .ok (a, s) := rfl

@[simp] theorem modifyInfo_bind (f : ClientInfo → ClientInfo) (k : Unit → In α) :
    (modifyInfo f >>= k) s = k () { s with info := f s.info } := rfl

theorem inUintLe_bind (n : Nat) (k : Nat → In α) :
    (inUintLe data n >>= k) s = if s.p + n ≤ data.length then
      k (leAt data s.p n) { s with p := s.p + n } else .error .outOfBounds := by
  change (inUintLe data n s >>= fun r => k r.1 r.2) = _
  unfold inUintLe
  split
  · rfl
  · rfl

theorem inSint32Le_bind (k : Int → In α) :
    (inSint32Le data >>= k) s = if s.p + 4 ≤ data.length then
      k (signed32 (leAt data s.p 4)) { s with p := s.p + 4 } else .error .outOfBounds := by
  unfold inSint32Le
  rw [bind_assoc, inUintLe_bind]
  rfl

theorem ifRem_apply (n : Nat) (rv : Int) (k : In Int) :
    ifRem data n rv k s = if s.p + n ≤ data.length then k s else .ok (rv, s) := rfl

/-- The characters are read as far as they go. -/
theorem utf16Chars_spec (n : Nat) (s : Sec) :
    ∃ rv m, utf16Chars data n s = .ok (rv, { s with p := s.p + 2 * m }) ∧ m ≤ n ∧
      (m = n ∨ data.length < s.p + 2 * m + 2) := by
  induction n generalizing s with
  | zero => exact ⟨0, 0, rfl, Nat.le_refl 0, .inl rfl⟩
  | succ n ih =>
    unfold utf16Chars
    rw [ifRem_apply]
    split
    · rename_i hrem
      obtain ⟨rv, m, hm, hle, hend⟩ := ih { s with p := s.p + 2 }
      refine ⟨rv, m + 1, ?_, Nat.succ_le_succ hle, ?_⟩
      · rw [inUintLe_bind, if_pos hrem, hm]
        dsimp only
        rw [show s.p + 2 + 2 * m = s.p + 2 * (m + 1) by omega]
      · dsimp only at hend
        omega
    · exact ⟨1, 0, rfl, Nat.zero_le _, .inr (by omega)⟩

end

/-! ## Core data -/

/-- The optional fields that are in `rem` bytes. -/
def optExtent : List Nat → Nat → Nat
  | [], _ => 0
  | n :: ns, rem => if n ≤ rem then n + optExtent ns (rem - n) else 0

/-- The optional fields of core data. -/
def coreOptional : List Nat := [2, 4, 2, 2, 2, 64, 1, 1, 4, 4, 4, 2]

/-- A reader of optional fields. -/
def ReadsOptional (data : List UInt8) (ns : List Nat) (s : Sec) (r : Run (Int × Sec)) : Prop :=
  ∃ s', r = .ok (0, s') ∧ s'.p = s.p + optExtent ns (data.length - s.p) ∧ Kept s s'

section

variable {data : List UInt8} {s : Sec}

theorem ReadsOptional.done : ReadsOptional data [] s (.ok (0, s)) :=
  ⟨s, rfl, rfl, rfl, rfl⟩

/-- A field that is read if it is there, and the fields behind it. -/
theorem ReadsOptional.field {n : Nat} {ns : List Nat} {k : In Int} (hn : 0 < n) (s₁ : Sec)
    (hp : s₁.p = s.p + n) (hkept : Kept s s₁)
    (hk : s.p + n ≤ data.length → ReadsOptional data ns s₁ (k s)) :
    ReadsOptional data (n :: ns) s (ifRem data n 0 k s) := by
  rw [ifRem_apply]
  split
  · rename_i hrem
    obtain ⟨s', hr, hp', hkept'⟩ := hk hrem
    have hrest : data.length - s₁.p = data.length - s.p - n := by omega
    refine ⟨s', hr, ?_, hkept.trans hkept'⟩
    rw [hp', hrest, hp, optExtent, if_pos (by omega), Nat.add_assoc]
  · rename_i hrem
    refine ⟨s, rfl, ?_, rfl, rfl⟩
    rw [optExtent, if_neg (by omega)]
    rfl

/-- A field that is skipped if it is there, and the fields behind it. -/
theorem ReadsOptional.skip {n : Nat} {ns : List Nat} {k : Unit → In Int} (hn : 0 < n)
    (hk : ∀ s, ReadsOptional data ns s (k () s)) :
    ReadsOptional data (n :: ns) s (ifRem data n 0 (inUint8s n >>= k) s) :=
  .field hn { s with p := s.p + n } rfl ⟨rfl, rfl⟩ fun _ => hk _

/-- A field that is used if it is there, and the fields behind it. -/
theorem ReadsOptional.read {n : Nat} {ns : List Nat} {k : Nat → In Int} (hn : 0 < n)
    (hk : ∀ v s, ReadsOptional data ns s (k v s)) :
    ReadsOptional data (n :: ns) s (ifRem data n 0 (inUintLe data n >>= k) s) := by
  refine .field hn { s with p := s.p + n } rfl ⟨rfl, rfl⟩ fun hrem => ?_
  rw [inUintLe_bind, if_pos hrem]
  exact hk _ _

theorem ReadsOptional.modify {ns : List Nat} {k : Unit → In Int} {f : ClientInfo → ClientInfo}
    (hf : (f s.info).channelsAllowed = s.info.channelsAllowed)
    (hk : ∀ s, ReadsOptional data ns s (k () s)) :
    ReadsOptional data ns s ((modifyInfo f >>= k) s) := by
  obtain ⟨s', hr, hp, hkept⟩ := hk { s with info := f s.info }
  exact ⟨s', hr, hp, hkept.channelList, hkept.channelsAllowed.trans hf⟩

theorem csCoreRest_spec (s : Sec) : ReadsOptional data [1, 4, 4, 4, 2] s (csCoreRest data s) := by
  unfold csCoreRest
  refine .skip (by decide) fun s => ?_
  refine .skip (by decide) fun s => ?_
  refine .skip (by decide) fun s => ?_
  refine .skip (by decide) fun s => ?_
  refine .skip (by decide) fun s => ?_
  exact .done

theorem csCoreOptional_spec (s : Sec) :
    ReadsOptional data coreOptional s (csCoreOptional data s) := by
  unfold csCoreOptional coreOptional
  refine .skip (by decide) fun s => ?_
  refine .skip (by decide) fun s => ?_
  refine .read (by decide) fun highColorDepth s => ?_
  refine .modify rfl fun s => ?_
  refine .read (by decide) fun supportedColorDepths s => ?_
  refine .read (by decide) fun earlyCapabilityFlags s => ?_
  refine .modify rfl fun s => ?_
  refine .skip (by decide) fun s => ?_
  refine .read (by decide) fun connectionType s => ?_
  refine .modify rfl fun s => ?_
  exact csCoreRest_spec s

/-! ### Fields that are read without a check -/

/-- A reader of `n` bytes, and of optional fields behind them. -/
def Reads (data : List UInt8) (n : Nat) (ns : List Nat) (s : Sec) (r : Run (Int × Sec)) : Prop :=
  (s.p + n ≤ data.length → ∃ s', r = .ok (0, s') ∧
    s'.p = s.p + n + optExtent ns (data.length - (s.p + n)) ∧ Kept s s') ∧
  (¬ s.p + n ≤ data.length → r = .error .outOfBounds)

variable {n m : Nat} {ns : List Nat}

theorem Reads.move {r : Run (Int × Sec)} (s₁ : Sec) (hp : s₁.p = s.p + m) (hkept : Kept s s₁)
    (h : Reads data n ns s₁ r) : Reads data (n + m) ns s r := by
  have hsum : s.p + (n + m) = s₁.p + n := by omega
  constructor
  · intro hlen
    obtain ⟨s', hr, hp', hkept'⟩ := h.1 (by omega)
    refine ⟨s', hr, ?_, hkept.trans hkept'⟩
    rw [hp', hsum]
  · exact fun hlen => h.2 (by omega)

theorem Reads.skip {k : Unit → In Int} (hk : ∀ s, Reads data n ns s (k () s)) :
    Reads data (n + m) ns s ((inUint8s m >>= k) s) :=
  .move { s with p := s.p + m } rfl ⟨rfl, rfl⟩ (hk _)

theorem Reads.read {k : Nat → In Int} (hk : ∀ v s, Reads data n ns s (k v s)) :
    Reads data (n + m) ns s ((inUintLe data m >>= k) s) := by
  rw [inUintLe_bind]
  split
  · exact .move { s with p := s.p + m } rfl ⟨rfl, rfl⟩ (hk _ _)
  · exact ⟨fun hlen => absurd hlen (by omega), fun _ => rfl⟩

theorem Reads.modify {k : Unit → In Int} {f : ClientInfo → ClientInfo}
    (hf : (f s.info).channelsAllowed = s.info.channelsAllowed)
    (hk : ∀ s, Reads data n ns s (k () s)) : Reads data n ns s ((modifyInfo f >>= k) s) := by
  obtain ⟨hok, herror⟩ := hk { s with info := f s.info }
  constructor
  · intro hlen
    obtain ⟨s', hr, hp, hkept⟩ := hok hlen
    exact ⟨s', hr, hp, hkept.channelList, hkept.channelsAllowed.trans hf⟩
  · exact herror

/-- A name that is cut off is skipped, but not what is read behind it. -/
theorem Reads.name {k : Int → In Int} (hn : 2 ≤ n) (hk : ∀ v s, Reads data n ns s (k v s)) :
    Reads data (n + 32) ns s ((unicodeUtf16In data (INFO_CLIENT_NAME_BYTES - 2) >>= k) s) := by
  obtain ⟨rv, j, hj, hle, hend⟩ := @utf16Chars_spec data 16 s
  have hbind : (unicodeUtf16In data (INFO_CLIENT_NAME_BYTES - 2) >>= k) s =
      k rv { s with p := s.p + 2 * j } := by
    change (utf16Chars data 16 s >>= fun r => k r.1 r.2) = _
    rw [hj]
    rfl
  rw [hbind]
  rcases hend with rfl | hend
  · exact .move { s with p := s.p + 2 * 16 } rfl ⟨rfl, rfl⟩ (hk _ _)
  · have hcut := (hk rv { s with p := s.p + 2 * j }).2
    exact ⟨fun hlen => absurd hlen (by omega), fun _ => hcut (by dsimp only; omega)⟩

/-- The last field that is read without a check. -/
theorem Reads.last {k : Nat → In Int} (hk : ∀ v s, ReadsOptional data ns s (k v s)) :
    Reads data m ns s ((inUintLe data m >>= k) s) := by
  rw [inUintLe_bind]
  split
  · rename_i hlen
    obtain ⟨s', hr, hp, hkept⟩ := hk (leAt data s.p m) { s with p := s.p + m }
    exact ⟨fun _ => ⟨s', hr, hp, hkept.channelList, hkept.channelsAllowed⟩,
      fun hno => absurd hlen hno⟩
  · rename_i hno
    exact ⟨fun hlen => absurd hlen hno, fun _ => rfl⟩

theorem csCoreBehindName_spec (s : Sec) :
    Reads data (2 + 64 + 4 + 4 + 4) coreOptional s (csCoreBehindName data s) := by
  unfold csCoreBehindName
  refine .skip fun s => ?_
  refine .skip fun s => ?_
  refine .skip fun s => ?_
  refine .skip fun s => ?_
  refine .last fun postBeta2ColorDepth s => ?_
  exact .modify rfl csCoreOptional_spec

/-- The bytes of core data that are read without a check, the last field first. -/
def coreMandatory : Nat := 2 + 64 + 4 + 4 + 4 + 32 + 4 + 4 + 2 + 2 + 2 + 2 + 4

/-- **Core data** -/
theorem core_spec (s : Sec) :
    Reads data coreMandatory coreOptional s (xrdpSecProcessMcsDataCsCore data s) := by
  unfold xrdpSecProcessMcsDataCsCore coreMandatory
  refine .skip fun s => ?_
  refine .read fun width s => ?_
  refine .read fun height s => ?_
  refine .read fun colorDepth s => ?_
  refine .modify rfl fun s => ?_
  refine .skip fun s => ?_
  refine .skip fun s => ?_
  refine .skip fun s => ?_
  refine .name (by decide) fun rv s => ?_
  exact csCoreBehindName_spec s

/-- **Security data** -/
theorem security_spec (s : Sec) :
    Reads data 4 [] s (xrdpSecProcessMcsDataCsSecurity data s) := by
  unfold xrdpSecProcessMcsDataCsSecurity
  refine .last fun client s => ?_
  exact ⟨_, rfl, rfl, rfl, rfl⟩

/-! ## Network data -/

/-- The name and the flags of a channel. -/
abbrev ChannelDef := List UInt8 × Int

/-- The channels that are defined from an offset on. -/
def channelDefsAt (data : List UInt8) : Nat → Nat → List ChannelDef
  | _, 0 => []
  | p, n + 1 => ((data.drop p).take 8, signed32 (leAt data (p + 8) 4)) ::
      channelDefsAt data (p + 12) n

/-- What becomes of channel definitions, the first of which is the `index`-th of its block. -/
def channelItems : Nat → List ChannelDef → List McsChannelItem
  | _, [] => []
  | index, (name, flags) :: defs =>
    if 0 < (cString name).length then
      ⟨cString name, flags, MCS_GLOBAL_CHANNEL + (index + 1)⟩ :: channelItems (index + 1) defs
    else channelItems (index + 1) defs

theorem addChannel_bind {α : Type} (name : List UInt8) (flags : Int) (index : Nat)
    (k : Unit → In α) : (addChannel name flags index >>= k) s =
      k () { s with channelList := s.channelList ++ channelItems index [(name, flags)] } := by
  change k () (if 0 < (cString name).length then _ else s) = _
  unfold channelItems
  split
  · rfl
  · simp [channelItems]

theorem inUint8a_bind {α : Type} (n : Nat) (k : List UInt8 → In α) :
    (inUint8a data n >>= k) s = if s.p + n ≤ data.length then
      k ((data.drop s.p).take n) { s with p := s.p + n } else .error .outOfBounds := by
  change (inUint8a data n s >>= fun r => k r.1 r.2) = _
  unfold inUint8a
  split
  · rfl
  · rfl

theorem channelItems_cons (index : Nat) (d : ChannelDef) (defs : List ChannelDef) :
    channelItems index (d :: defs) = channelItems index [d] ++ channelItems (index + 1) defs := by
  by_cases h : 0 < (cString d.1).length
  · simp [channelItems, h]
  · simp [channelItems, h]

/-- The channels are added as far as they are there. -/
theorem channelsLoop_spec (n index : Nat) (s : Sec) (hp : s.p ≤ data.length) :
    (s.p + 12 * n ≤ data.length → channelsLoop data n index s = .ok (0, { s with
      p := s.p + 12 * n
      channelList := s.channelList ++ channelItems index (channelDefsAt data s.p n) })) ∧
    (¬ s.p + 12 * n ≤ data.length → ∃ s', channelsLoop data n index s = .ok (1, s')) := by
  induction n generalizing index s with
  | zero =>
    refine ⟨fun _ => ?_, fun h => absurd hp h⟩
    simp [channelsLoop, channelDefsAt, channelItems]
  | succ n ih =>
    unfold channelsLoop
    rw [ifRem_apply]
    split
    · rename_i hrem
      rw [inUint8a_bind, if_pos (by omega), inSint32Le_bind, if_pos (by dsimp only; omega),
        addChannel_bind]
      obtain ⟨hok, hno⟩ := ih (index + 1) { s with
        p := s.p + 8 + 4
        channelList := s.channelList ++ channelItems index
          [((data.drop s.p).take 8, signed32 (leAt data (s.p + 8) 4))] } hrem
      dsimp only at hok hno
      constructor
      · intro hlen
        rw [hok (by omega), List.append_assoc, ← channelItems_cons]
        have hend : s.p + 8 + 4 + 12 * n = s.p + 12 * (n + 1) := by omega
        rw [hend]
        rfl
      · exact fun hlen => hno (by omega)
    · rename_i hrem
      refine ⟨fun hlen => absurd hlen (by omega), fun _ => ⟨s, rfl⟩⟩

/-- The number of channels in network data. -/
def channelCount (data : List UInt8) (p : Nat) : Int := signed32 (leAt data p 4)

/-- The channels are added: there are some, and all of them are there. -/
def AddsChannels (data : List UInt8) (s : Sec) : Prop :=
  s.info.channelsAllowed ≠ 0 ∧ s.p + 4 ≤ data.length ∧ channelCount data s.p ≤ 31 ∧
    s.p + 4 + 12 * (channelCount data s.p).toNat ≤ data.length

/-- **Network data** -/
theorem channels_spec (s : Sec) :
    (s.info.channelsAllowed = 0 → xrdpSecProcessMcsDataChannels data s = .ok (0, s)) ∧
    (AddsChannels data s → xrdpSecProcessMcsDataChannels data s = .ok (0, { s with
      p := s.p + 4 + 12 * (channelCount data s.p).toNat
      channelList := s.channelList ++ channelItems 0
        (channelDefsAt data (s.p + 4) (channelCount data s.p).toNat) })) ∧
    (s.info.channelsAllowed ≠ 0 → ¬ AddsChannels data s →
      ∃ s', xrdpSecProcessMcsDataChannels data s = .ok (1, s')) := by
  have hget : xrdpSecProcessMcsDataChannels data s = (if s.info.channelsAllowed = 0 then pure 0
      else ifRem data 4 1 do
        let numChannels ← inSint32Le data
        if numChannels > 31 then pure 1 else channelsLoop data numChannels.toNat 0 : In Int) s :=
    rfl
  rw [hget]
  refine ⟨fun h => ?_, fun h => ?_, fun h hno => ?_⟩
  · rw [if_pos h]
    rfl
  · obtain ⟨hallowed, hrem, hcount, hlen⟩ := h
    rw [if_neg hallowed, ifRem_apply, if_pos hrem, inSint32Le_bind, if_pos hrem]
    have hle : ¬ signed32 (leAt data s.p 4) > 31 := Int.not_lt.2 hcount
    rw [if_neg hle]
    exact (channelsLoop_spec _ 0 { s with p := s.p + 4 } hrem).1 hlen
  · rw [if_neg h, ifRem_apply]
    split
    · rename_i hrem
      rw [inSint32Le_bind, if_pos hrem]
      split
      · exact ⟨_, rfl⟩
      · rename_i hcount
        refine (channelsLoop_spec _ 0 { s with p := s.p + 4 } hrem).2 fun hlen => ?_
        exact hno ⟨h, hrem, Int.not_lt.1 hcount, hlen⟩
    · exact ⟨s, rfl⟩

/-! ## Monitor data -/

/-- The monitors that are described from an offset on. -/
def monitorsAt (data : List UInt8) : Nat → Nat → List MonitorInfo
  | _, 0 => []
  | p, n + 1 =>
    ⟨signed32 (leAt data p 4), signed32 (leAt data (p + 4) 4), signed32 (leAt data (p + 8) 4),
      signed32 (leAt data (p + 12) 4), signed32 (leAt data (p + 16) 4)⟩ ::
      monitorsAt data (p + 20) n

theorem readMonitors_bind (n : Nat) {α : Type} (k : List MonitorInfo → In α) (s : Sec)
    (hp : s.p ≤ data.length) :
    (readMonitors data n >>= k) s = if s.p + 20 * n ≤ data.length then
      k (monitorsAt data s.p n) { s with p := s.p + 20 * n } else .error .outOfBounds := by
  induction n generalizing k s with
  | zero =>
    rw [if_pos (show s.p + 20 * 0 ≤ data.length from hp)]
    rfl
  | succ n ih =>
    unfold readMonitors
    simp only [bind_assoc, inSint32Le_bind, pure_bind]
    by_cases hlen : s.p + 20 ≤ data.length
    · rw [if_pos (by omega), if_pos (by omega), if_pos (by omega), if_pos (by omega),
        if_pos (by omega), ih _ _ hlen]
      have hend : s.p + 4 + 4 + 4 + 4 + 4 + 20 * n = s.p + 20 * (n + 1) := by omega
      dsimp only
      rw [hend]
      rfl
    · rw [if_neg (show ¬ s.p + 20 * (n + 1) ≤ data.length by omega)]
      split_ifs
      all_goals rfl

/-- The parser stays inside the data, and inside a block of `size` bytes unless it returns an
error. -/
def Inside (size : Nat) (s : Sec) (r : Run (Int × Sec)) : Prop :=
  ∃ rv s', r = .ok (rv, s') ∧ (s'.p ≤ s.p + (size - 4) ∨ rv ≠ 0)

theorem inside_ok {size : Nat} {s' : Sec} {rv : Int} :
    Inside size s (.ok (rv, s')) ↔ s'.p ≤ s.p + (size - 4) ∨ rv ≠ 0 := by
  constructor
  · rintro ⟨rv', s'', h, hin⟩
    cases h
    exact hin
  · exact fun h => ⟨rv, s', rfl, h⟩

theorem not_inside_error {size : Nat} {e : Stuck} : ¬ Inside size s (.error e) := by
  rintro ⟨rv, s', h, -⟩
  cases h

theorem Reads.inside_iff {size : Nat} {r : Run (Int × Sec)} (h : Reads data n ns s r)
    (hsize : s.p + (size - 4) ≤ data.length) :
    Inside size s r ↔ n + optExtent ns (data.length - (s.p + n)) ≤ size - 4 := by
  by_cases hlen : s.p + n ≤ data.length
  · obtain ⟨s', hr, hp, -⟩ := h.1 hlen
    rw [hr, inside_ok, hp]
    constructor
    · rintro (hin | hin)
      · omega
      · exact absurd rfl hin
    · exact fun hin => .inl (by omega)
  · rw [h.2 hlen]
    exact iff_of_false not_inside_error (by omega)

/-- Network data is as long as the channels in it, if they are added. -/
def ChannelsFit (data : List UInt8) (s : Sec) (size : Nat) : Prop :=
  AddsChannels data s → 4 + 12 * (channelCount data s.p).toNat ≤ size - 4

theorem channels_inside_iff (s : Sec) (size : Nat) :
    Inside size s (xrdpSecProcessMcsDataChannels data s) ↔ ChannelsFit data s size := by
  obtain ⟨hoff, hadds, hno⟩ := @channels_spec data s
  by_cases hallowed : s.info.channelsAllowed = 0
  · rw [hoff hallowed, inside_ok]
    exact iff_of_true (.inl (Nat.le_add_right _ _)) fun h => absurd hallowed h.1
  · by_cases hadd : AddsChannels data s
    · rw [hadds hadd, inside_ok]
      constructor
      · rintro (hin | hin)
        · intro _
          dsimp only at hin
          omega
        · exact absurd rfl hin
      · intro hfit
        have := hfit hadd
        exact .inl (by dsimp only; omega)
    · obtain ⟨s', hr⟩ := hno hallowed hadd
      rw [hr, inside_ok]
      exact iff_of_true (.inr one_ne_zero) fun h => absurd h hadd

/-- The number of monitors in monitor data. -/
def monitorCountAt (data : List UInt8) (p : Nat) : Int := signed32 (leAt data (p + 4) 4)

/-- Monitor data is as long as what is read of it without a check, and as long as the monitors in
it unless they are refused. -/
def MonitorsFit (data : List UInt8) (s : Sec) (size : Nat) : Prop :=
  s.info.multimon = 1 → s.p + 4 ≤ data.length ∧ (signed32 (leAt data s.p 4) = 0 →
    s.p + 8 ≤ data.length ∧ (monitorCountAt data s.p ≤ 16 →
      s.p + 8 + 20 * (monitorCountAt data s.p).toNat ≤ data.length ∧
      (¬ badDesktop s.info (monitorsAt data (s.p + 8) (monitorCountAt data s.p).toNat) →
        8 + 20 * (monitorCountAt data s.p).toNat ≤ size - 4)))

/-- What is done with the monitors does not move the cursor. -/
theorem takeMonitors_spec (read : List MonitorInfo) (s : Sec) :
    ∃ rv s', takeMonitors read s = .ok (rv, s') ∧ s'.p = s.p ∧ Kept s s' ∧
      (rv = 0 ↔ ¬ badDesktop s.info read) := by
  unfold takeMonitors
  dsimp only
  split
  · rename_i hbad
    exact ⟨_, _, rfl, rfl, ⟨rfl, rfl⟩, iff_of_false one_ne_zero (not_not.2 hbad)⟩
  · rename_i hbad
    exact ⟨_, _, rfl, rfl, ⟨rfl, rfl⟩, iff_of_true rfl hbad⟩

theorem monitors_eq (s : Sec) : xrdpSecProcessMcsDataMonitors data s =
    (if s.info.multimon ≠ 1 then pure 0
      else do
        let flags ← inSint32Le data
        if flags ≠ 0 then pure 1
        else do
          let monitorCount ← inSint32Le data
          if monitorCount > 16 then pure 1
          else do
            modifyInfo fun info => { info with monitorCount }
            let minfo ← readMonitors data monitorCount.toNat
            takeMonitors minfo : In Int) s := rfl

theorem monitors_inside_iff (s : Sec) (size : Nat) :
    Inside size s (xrdpSecProcessMcsDataMonitors data s) ↔ MonitorsFit data s size := by
  rw [monitors_eq]
  unfold MonitorsFit monitorCountAt
  by_cases hmulti : s.info.multimon = 1
  · rw [if_neg (not_not.2 hmulti), inSint32Le_bind, forall_prop_of_true hmulti]
    split
    · rename_i h4
      rw [and_iff_right h4]
      by_cases hflags : signed32 (leAt data s.p 4) = 0
      · rw [if_neg (not_not.2 hflags), inSint32Le_bind, forall_prop_of_true hflags]
        dsimp only
        split
        · rename_i h8
          rw [and_iff_right h8]
          by_cases hcount : signed32 (leAt data (s.p + 4) 4) ≤ 16
          · rw [if_neg (Int.not_lt.2 hcount), modifyInfo_bind, forall_prop_of_true hcount,
              readMonitors_bind _ _ _ h8]
            split
            · rename_i hall
              obtain ⟨rv, s', hr, hp, -, hrv⟩ := takeMonitors_spec
                (monitorsAt data (s.p + 4 + 4) (signed32 (leAt data (s.p + 4) 4)).toNat)
                { s with
                  p := s.p + 4 + 4 + 20 * (signed32 (leAt data (s.p + 4) 4)).toNat
                  info := { s.info with monitorCount := signed32 (leAt data (s.p + 4) 4) } }
              have hbad : rv = 0 ↔ ¬ badDesktop s.info
                (monitorsAt data (s.p + 8) (signed32 (leAt data (s.p + 4) 4)).toNat) := hrv
              rw [hr, inside_ok, hp, ← hbad]
              dsimp only at hall ⊢
              constructor
              · intro hin
                refine ⟨by omega, fun hzero => ?_⟩
                rcases hin with hin | hin
                · omega
                · exact absurd hzero hin
              · rintro ⟨-, hfit⟩
                by_cases hzero : rv = 0
                · have := hfit hzero
                  exact .inl (by omega)
                · exact .inr hzero
            · rename_i hall
              exact iff_of_false not_inside_error fun h => hall h.1
          · rw [if_pos (Int.not_le.1 hcount), In.pure_apply, inside_ok]
            exact iff_of_true (.inr one_ne_zero) fun h => absurd h hcount
        · rename_i h8
          exact iff_of_false not_inside_error fun h => h8 h.1
      · rw [if_pos hflags, In.pure_apply, inside_ok]
        exact iff_of_true (.inr one_ne_zero) fun h => absurd h hflags
    · rename_i h4
      exact iff_of_false not_inside_error fun h => h4 h.1
  · rw [if_pos hmulti, In.pure_apply, inside_ok]
    exact iff_of_true (.inl (Nat.le_add_right _ _)) fun h => absurd h hmulti

/-! ## Blocks -/

/-- A block of `size` bytes, the header of which has been read, is as long as the fields that are
read of it. -/
def BlockFits (data : List UInt8) (s : Sec) (tag size : Nat) : Prop :=
  if tag = SEC_TAG_CLI_INFO then
    coreMandatory + optExtent coreOptional (data.length - (s.p + coreMandatory)) ≤ size - 4
  else if tag = SEC_TAG_CLI_CRYPT then 4 ≤ size - 4
  else if tag = SEC_TAG_CLI_CHANNELS then ChannelsFit data s size
  else if tag = SEC_TAG_CLI_MONITOR then MonitorsFit data s size
  else True

/-- **A block**: its parser stays inside the data, and inside the block unless it returns an error,
just if the block is as long as the fields that are read of it. -/
theorem block_fits_iff {size : Nat} (tag : Nat) (hsize : s.p + (size - 4) ≤ data.length) :
    Inside size s (parseBlock data tag s) ↔ BlockFits data s tag size := by
  unfold parseBlock BlockFits
  split
  · exact (core_spec s).inside_iff hsize
  · split
    · exact (security_spec s).inside_iff hsize
    · split
      · exact channels_inside_iff s size
      · split
        · exact monitors_inside_iff s size
        · exact iff_of_true ⟨0, s, rfl, .inl (Nat.le_add_right _ _)⟩ trivial

end

/-! ## The loop -/

/-- The parser has stayed inside the block, or has returned an error. -/
def BlockCall.Ok (c : BlockCall) : Prop := c.stop ≤ c.holdP + c.size ∨ c.rv ≠ 0

/-- The loop stays inside the data; the parsers stay inside their blocks or return an error, which
is then returned. -/
def InsideData (r : Run (Int × List BlockCall × Sec)) : Prop :=
  ∃ rv calls s', r = .ok (rv, calls, s') ∧ (∀ c ∈ calls, c.Ok) ∧
    ((∃ c ∈ calls, c.rv ≠ 0) → rv ≠ 0)

/-- There is a block at the cursor. -/
def BlockAt (data : List UInt8) (s : Sec) (tag size : Nat) : Prop :=
  s.p + 4 ≤ data.length ∧ tag = leAt data s.p 2 ∧ size = leAt data (s.p + 2) 2 ∧ 4 ≤ size ∧
    s.p + size ≤ data.length

/-- All blocks the loop comes to are as long as the fields that are read of them. -/
def AllFit (data : List UInt8) : Nat → Sec → Prop
  | 0, _ => True
  | fuel + 1, s => ∀ tag size, BlockAt data s tag size →
    BlockFits data { s with p := s.p + 4 } tag size ∧
    ∀ s', parseBlock data tag { s with p := s.p + 4 } = .ok (0, s') →
      AllFit data fuel { s' with p := s.p + size }

section

variable {data : List UInt8}

theorem loop_end {fuel : Nat} {s : Sec} (h : ¬ ∃ tag size, BlockAt data s tag size) :
    ∃ s', mcsDataLoop data (fuel + 1) s = .ok (0, [], s') := by
  unfold mcsDataLoop
  split
  · rename_i hrem
    dsimp only
    split
    · exact ⟨_, rfl⟩
    · rename_i hsize
      exact absurd ⟨_, _, hrem, rfl, rfl, by omega, by omega⟩ h
  · exact ⟨s, rfl⟩

theorem loop_block {fuel tag size : Nat} {s : Sec} (h : BlockAt data s tag size) :
    mcsDataLoop data (fuel + 1) s = (do
      let (rv, s') ← parseBlock data tag { s with p := s.p + 4 }
      let call := ⟨tag, size, s.p, s'.p, rv⟩
      if rv ≠ 0 then .ok (1, [call], s')
      else do
        let (rv, calls, s') ← mcsDataLoop data fuel { s' with p := s.p + size }
        .ok (rv, call :: calls, s')) := by
  obtain ⟨hrem, rfl, rfl, hsize, hlen⟩ := h
  rw [mcsDataLoop, if_pos hrem]
  dsimp only
  rw [if_neg (by omega)]

theorem insideData_ok {rv : Int} {calls : List BlockCall} {s' : Sec} :
    InsideData (.ok (rv, calls, s')) ↔
      (∀ c ∈ calls, c.Ok) ∧ ((∃ c ∈ calls, c.rv ≠ 0) → rv ≠ 0) := by
  constructor
  · rintro ⟨rv', calls', s'', h, hin⟩
    cases h
    exact hin
  · exact fun h => ⟨rv, calls, s', rfl, h⟩

theorem not_insideData_error {e : Stuck} : ¬ InsideData (.error e) := by
  rintro ⟨rv, calls, s', h, -⟩
  cases h

/-- A block that has been parsed without an error, and what follows. -/
theorem insideData_cons {c : BlockCall} (hc : c.rv = 0)
    {r : Run (Int × List BlockCall × Sec)} :
    InsideData (do
      let (rv, calls, s') ← r
      .ok (rv, c :: calls, s')) ↔ c.Ok ∧ InsideData r := by
  cases r with
  | error e => exact iff_of_false not_insideData_error fun h => not_insideData_error h.2
  | ok r =>
    obtain ⟨rv, calls, s'⟩ := r
    change InsideData (.ok (rv, c :: calls, s')) ↔ _
    rw [insideData_ok, insideData_ok]
    simp only [List.mem_cons, forall_eq_or_imp, exists_eq_or_imp, hc, ne_eq, not_true_eq_false,
      false_or, and_assoc]

/-- **The loop** -/
theorem loop_inside_iff (fuel : Nat) (s : Sec) (hp : s.p ≤ data.length)
    (hfuel : data.length < s.p + fuel) :
    InsideData (mcsDataLoop data fuel s) ↔ AllFit data fuel s := by
  induction fuel generalizing s with
  | zero => omega
  | succ fuel ih =>
    by_cases hblock : ∃ tag size, BlockAt data s tag size
    · obtain ⟨tag, size, hat⟩ := hblock
      obtain ⟨hrem, htag, hsize, h4, hlen⟩ := hat
      have hfits := @block_fits_iff data { s with p := s.p + 4 } size tag
        (by dsimp only; omega)
      have hall : AllFit data (fuel + 1) s ↔ BlockFits data { s with p := s.p + 4 } tag size ∧
          ∀ s', parseBlock data tag { s with p := s.p + 4 } = .ok (0, s') →
            AllFit data fuel { s' with p := s.p + size } := by
        constructor
        · exact fun h => h tag size ⟨hrem, htag, hsize, h4, hlen⟩
        · rintro h tag' size' ⟨-, rfl, rfl, -, -⟩
          rw [← htag, ← hsize]
          exact h
      rw [hall, ← hfits, loop_block ⟨hrem, htag, hsize, h4, hlen⟩]
      cases hr : parseBlock data tag { s with p := s.p + 4 } with
      | error e => exact iff_of_false not_insideData_error fun h => not_inside_error h.1
      | ok r =>
        obtain ⟨rv, s'⟩ := r
        have hok : (⟨tag, size, s.p, s'.p, rv⟩ : BlockCall).Ok ↔
            Inside size { s with p := s.p + 4 } (.ok (rv, s')) := by
          rw [inside_ok]
          have hend : s.p + 4 + (size - 4) = s.p + size := by omega
          dsimp only
          rw [hend]
          rfl
        rw [Run.ok_bind, ← hok]
        dsimp only
        by_cases hrv : rv = 0
        · subst hrv
          rw [if_neg (not_not.2 rfl), insideData_cons rfl, ih _ hlen (by dsimp only; omega)]
          simp only [Except.ok.injEq, Prod.mk.injEq, true_and, forall_eq']
        · rw [if_pos hrv, insideData_ok]
          simp [hrv]
    · obtain ⟨s', hr⟩ := @loop_end data fuel s hblock
      rw [hr, insideData_ok]
      exact iff_of_true (by simp) fun tag size hat => absurd ⟨tag, size, hat⟩ hblock

end

/-- All blocks of the client's user data are as long as the fields that are read of them. -/
def UserDataFits (data : List UInt8) (s : Sec) : Prop :=
  23 ≤ data.length → AllFit data data.length { s with p := 23 }

/-- **The client's user data**: whatever has been received, `xrdp_sec_process_mcs_data` and the
parsers of blocks read nothing at or beyond its end, and return an error when a block is shorter
than what is read of it, just if every block they come to is as long as the fields that are read of
it. -/
theorem user_data_inside_iff (data : List UInt8) (s : Sec) :
    InsideData (xrdpSecProcessMcsData data s) ↔ UserDataFits data s := by
  unfold xrdpSecProcessMcsData UserDataFits
  split
  · rename_i hlen
    rw [forall_prop_of_true hlen, ← loop_inside_iff _ _ hlen (by dsimp only; omega)]
    cases hr : mcsDataLoop data data.length { s with p := 23 } with
    | error e => exact iff_of_false not_insideData_error not_insideData_error
    | ok r =>
      obtain ⟨rv, calls, s'⟩ := r
      rw [Run.ok_bind]
      dsimp only
      split
      · rfl
      · rename_i hrv
        rw [insideData_ok, insideData_ok, not_not.1 hrv]
  · rename_i hlen
    rw [insideData_ok]
    exact iff_of_true (by simp) fun h => absurd h hlen

/-- A server that is configured as usual. -/
def usualSec : Sec where
  p := 0
  cryptMethod := CRYPT_METHOD_128BIT
  cryptLevel := CRYPT_LEVEL_HIGH
  channelList := []
  info := ⟨1024, 768, 24, 32, 0, 0, 1, 1, 0, [], []⟩

/-- **Four bytes behind the header**: security data without a body is read beyond the end. -/
theorem user_data_outside :
    xrdpSecProcessMcsData (List.replicate 23 0 ++ [0x02, 0xC0, 0x04, 0x00]) usualSec =
        .error .outOfBounds ∧
      ¬ InsideData (xrdpSecProcessMcsData (List.replicate 23 0 ++ [0x02, 0xC0, 0x04, 0x00])
        usualSec) := by
  have hrun : xrdpSecProcessMcsData (List.replicate 23 0 ++ [0x02, 0xC0, 0x04, 0x00]) usualSec =
      .error .outOfBounds := rfl
  refine ⟨hrun, ?_⟩
  rw [hrun]
  exact not_insideData_error

end Xrdp.Gcc
