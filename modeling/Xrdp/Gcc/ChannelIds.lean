import Xrdp.Gcc.InsideData

/-!
# The numbers of static channels

The ids of static channels are given out while the client's network data is parsed, looked up by
position in the list of channels, and announced and confirmed to the client by counting.

* `xrdpMcsIncoming` — the connection sequence in `libxrdp/xrdp_mcs.c`.
* `loop_channels` — the list of channels after the client's user data.
* `channel_ids_iff` — for which clients the numbers agree.
-/

namespace Xrdp.Gcc

open Wire
open Dvc (signed32)

/-! ## The connection sequence -/

def SEC_TAG_SRV_CHANNELS : Nat := 0x0C03
def MCS_USERCHANNEL_BASE : Nat := 1001
def MCS_EDRQ : Nat := 1
def MCS_AURQ : Nat := 10
def MCS_CJRQ : Nat := 14
def MCS_CJCF : Nat := 15

/-- The channels in `xrdp_mcs_out_gcc_data`. -/
def outChannels (numChannels : Nat) : List UInt8 :=
  let numChannelsEven := numChannels + (numChannels &&& 1)
  leBytes 2 SEC_TAG_SRV_CHANNELS ++ leBytes 2 (8 + numChannelsEven * 2) ++ leBytes 2 1003 ++
    leBytes 2 numChannels ++ (List.range numChannelsEven).flatMap fun index =>
      leBytes 2 (if index < numChannels then 1003 + (index + 1) else 0)

/-- The user id at the end of a request, if it has one. -/
def inUserid (opcode : UInt8) (userid : Nat) (s : List UInt8) : Option Nat :=
  if opcode.toNat &&& 2 ≠ 0 then
    match s with
    | [a, b] => some (256 * a.toNat + b.toNat)
    | _ => none
  else if s = [] then some userid else none

/-- `xrdp_mcs_recv_edrq`: the user id afterwards. -/
def xrdpMcsRecvEdrq (userid : Nat) (s : List UInt8) : Option Nat :=
  match s with
  | [] => none
  | opcode :: s =>
    if opcode.toNat / 4 ≠ MCS_EDRQ then none
    else if s.length < 4 then none
    else inUserid opcode userid (s.drop 4)

/-- `xrdp_mcs_recv_aurq`: the user id afterwards. -/
def xrdpMcsRecvAurq (userid : Nat) (s : List UInt8) : Option Nat :=
  match s with
  | [] => none
  | opcode :: s =>
    if opcode.toNat / 4 ≠ MCS_AURQ then none else inUserid opcode userid s

/-- `xrdp_mcs_recv_cjrq`. -/
def xrdpMcsRecvCjrq (s : List UInt8) : Bool :=
  match s with
  | [] => false
  | opcode :: s =>
    opcode.toNat / 4 = MCS_CJRQ ∧ s.length = if opcode.toNat &&& 2 ≠ 0 then 6 else 4

/-- The message of `xrdp_mcs_send_cjcf`. -/
def xrdpMcsSendCjcf (userid chanid : Nat) : List UInt8 :=
  [UInt8.ofNat (MCS_CJCF * 4 + 2), 0] ++ beBytes 2 userid ++ beBytes 2 chanid ++ beBytes 2 chanid

/-- What a connection has come to. -/
structure Connected where
  channelList : List McsChannelItem
  /-- The channels announced in the connect response. -/
  announced : List UInt8
  userid : Nat
  /-- The confirmations of channel joins. -/
  confirmed : List (List UInt8)

/-- `xrdp_mcs_incoming`, with the user data of the client and its requests; `none` if it fails. -/
def xrdpMcsIncoming (sec : Sec) (data edrq aurq : List UInt8) (cjrq : Nat → List UInt8) :
    Run (Option Connected) := do
  let (rv, _, sec) ← xrdpSecProcessMcsData data sec
  if rv ≠ 0 then pure none
  else
    let count := sec.channelList.length
    match (xrdpMcsRecvEdrq 1 edrq).bind fun userid => xrdpMcsRecvAurq userid aurq with
    | none => pure none
    | some userid =>
      let indices := List.range (count + 2)
      if indices.all fun index => xrdpMcsRecvCjrq (cjrq index) then
        pure (some ⟨sec.channelList, outChannels count, userid,
          indices.map fun index => xrdpMcsSendCjcf userid (userid + MCS_USERCHANNEL_BASE + index)⟩)
      else pure none

/-- `xrdp_channel_get_item`. -/
def xrdpChannelGetItem (channelList : List McsChannelItem) (channelId : Int) :
    Option McsChannelItem :=
  if channelId < 0 then none else channelList[channelId.toNat]?

/-- The channel that `xrdp_channel_process` finds for an id. -/
def channelOf (channelList : List McsChannelItem) (chanid : Int) : Option McsChannelItem :=
  xrdpChannelGetItem channelList (chanid - MCS_GLOBAL_CHANNEL - 1)

/-! ## What the client reads -/

/-- The ids in the channels of a connect response. -/
def announcedIds (block : List UInt8) : List Nat :=
  (List.range (leAt block 6 2)).map fun i => leAt block (8 + 2 * i) 2

/-- The id in the confirmation of a channel join. -/
def confirmedId (msg : List UInt8) : Option Nat := (getBe 2 (msg.drop 6)).map (·.1)

/-- The ids of channels agree: a lookup yields the channel of the id; the ids announced are the
ones that are looked up, and so are the ids confirmed, next to the user's own channel and the
global one. -/
structure Connected.Agrees (c : Connected) : Prop where
  lookup : ∀ chanid item, channelOf c.channelList chanid = some item → item.chanid = chanid
  announced : ∀ id : Nat, id ∈ announcedIds c.announced ↔ (channelOf c.channelList id).isSome
  confirmed : ∀ id : Nat, some id ∈ c.confirmed.map confirmedId ↔
    id = c.userid + MCS_USERCHANNEL_BASE ∨ (id : Int) = MCS_GLOBAL_CHANNEL ∨
      (channelOf c.channelList id).isSome

/-! ## What the client says -/

/-- The channel definitions in the blocks of network data, from an offset on. -/
def networkData (data : List UInt8) : Nat → Nat → List (List ChannelDef)
  | 0, _ => []
  | fuel + 1, p =>
    let size := leAt data (p + 2) 2
    if p + 4 ≤ data.length ∧ 4 ≤ size ∧ p + size ≤ data.length then
      if leAt data p 2 = SEC_TAG_CLI_CHANNELS then
        channelDefsAt data (p + 8) (channelCount data (p + 4)).toNat ::
          networkData data fuel (p + size)
      else networkData data fuel (p + size)
    else []

/-- The places, each in its block, of the channels that have a name. -/
def namePlaces (blocks : List (List ChannelDef)) : List Nat :=
  blocks.flatMap fun defs =>
    (defs.zipIdx.filter fun d => 0 < (cString d.1.1).length).map (·.2)

/-- The channels with names are the first ones, block after block. -/
def InOrder (sec : Sec) (data : List UInt8) : Prop :=
  sec.info.channelsAllowed = 0 ∨
    ∀ n place : Nat, (namePlaces (networkData data data.length 23))[n]? = some place → place = n

/-! ## The list of channels -/

section

variable {data : List UInt8} {s s' : Sec}

theorem Reads.kept {n : Nat} {ns : List Nat} {r : Run (Int × Sec)} {rv : Int}
    (h : Reads data n ns s r) (hr : r = .ok (rv, s')) : Kept s s' := by
  by_cases hlen : s.p + n ≤ data.length
  · obtain ⟨s'', hr', -, hkept⟩ := h.1 hlen
    rw [hr'] at hr
    cases hr
    exact hkept
  · rw [h.2 hlen] at hr
    cases hr

theorem monitors_kept {rv : Int} (h : xrdpSecProcessMcsDataMonitors data s = .ok (rv, s')) :
    Kept s s' := by
  rw [monitors_eq] at h
  split at h
  · cases h
    exact ⟨rfl, rfl⟩
  · rw [inSint32Le_bind] at h
    split at h
    · split at h
      · cases h
        exact ⟨rfl, rfl⟩
      · rw [inSint32Le_bind] at h
        split at h
        · rename_i h8
          split at h
          · cases h
            exact ⟨rfl, rfl⟩
          · rw [modifyInfo_bind, readMonitors_bind _ _ _ h8] at h
            split at h
            · obtain ⟨rv', s'', hr, -, hkept, -⟩ := takeMonitors_spec _ _
              rw [hr] at h
              cases h
              exact ⟨hkept.channelList, hkept.channelsAllowed⟩
            · cases h
        · cases h
    · cases h

/-- The channels a block adds. -/
def addedBy (data : List UInt8) (s : Sec) (tag : Nat) : List ChannelDef :=
  if tag = SEC_TAG_CLI_CHANNELS ∧ s.info.channelsAllowed ≠ 0 then
    channelDefsAt data (s.p + 4) (channelCount data s.p).toNat
  else []

theorem channelDefsAt_length (data : List UInt8) (p n : Nat) :
    (channelDefsAt data p n).length = n := by
  induction n generalizing p with
  | zero => rfl
  | succ n ih => rw [channelDefsAt, List.length_cons, ih]

/-- **A block** that has been parsed without an error. -/
theorem block_channels {tag : Nat} (h : parseBlock data tag s = .ok (0, s')) :
    s'.info.channelsAllowed = s.info.channelsAllowed ∧
      s'.channelList = s.channelList ++ channelItems 0 (addedBy data s tag) ∧
      (addedBy data s tag).length ≤ 31 := by
  have hkept : Kept s s' → (tag ≠ SEC_TAG_CLI_CHANNELS ∨ s.info.channelsAllowed = 0) →
      s'.info.channelsAllowed = s.info.channelsAllowed ∧
        s'.channelList = s.channelList ++ channelItems 0 (addedBy data s tag) ∧
        (addedBy data s tag).length ≤ 31 := by
    intro hk htag
    have hnone : addedBy data s tag = [] := by
      refine if_neg fun hno => ?_
      rcases htag with htag | htag
      · exact htag hno.1
      · exact hno.2 htag
    rw [hnone, channelItems, List.append_nil]
    exact ⟨hk.channelsAllowed, hk.channelList, Nat.zero_le _⟩
  unfold parseBlock at h
  split at h
  · rename_i htag
    exact hkept ((core_spec s).kept h) (.inl (by rw [htag]; decide))
  · split at h
    · rename_i htag
      exact hkept ((security_spec s).kept h) (.inl (by rw [htag]; decide))
    · split at h
      · rename_i htag
        obtain ⟨hoff, hadds, hno⟩ := @channels_spec data s
        by_cases hallowed : s.info.channelsAllowed = 0
        · rw [hoff hallowed] at h
          cases h
          exact hkept ⟨rfl, rfl⟩ (.inr hallowed)
        · by_cases hadd : AddsChannels data s
          · rw [hadds hadd] at h
            cases h
            have hdefs : addedBy data s tag =
                channelDefsAt data (s.p + 4) (channelCount data s.p).toNat :=
              if_pos ⟨htag, hallowed⟩
            have hcount := hadd.2.2.1
            rw [hdefs, channelDefsAt_length]
            exact ⟨rfl, rfl, by omega⟩
          · obtain ⟨s'', hr⟩ := hno hallowed hadd
            rw [hr] at h
            cases h
      · split at h
        · rename_i htag
          exact hkept (monitors_kept h) (.inl (by rw [htag]; decide))
        · rename_i htag _
          cases h
          exact hkept ⟨rfl, rfl⟩ (.inl (by assumption))

/-- The channels that are added, block after block. -/
def addedDefs (data : List UInt8) (fuel : Nat) (s : Sec) : List (List ChannelDef) :=
  if s.info.channelsAllowed = 0 then [] else networkData data fuel s.p

/-- A block adds its channels in front of those of the blocks behind it. -/
theorem addedDefs_block {fuel tag size : Nat} (h : BlockAt data s tag size)
    (hp : s'.p = s.p + size) (hallowed : s'.info.channelsAllowed = s.info.channelsAllowed) :
    (addedDefs data (fuel + 1) s).flatMap (channelItems 0) =
        channelItems 0 (addedBy data { s with p := s.p + 4 } tag) ++
          (addedDefs data fuel s').flatMap (channelItems 0) ∧
      ∀ defs ∈ addedDefs data (fuel + 1) s,
        defs = addedBy data { s with p := s.p + 4 } tag ∨ defs ∈ addedDefs data fuel s' := by
  obtain ⟨hrem, htag, hsize, h4, hlen⟩ := h
  unfold addedDefs addedBy
  rw [hallowed, hp]
  by_cases hoff : s.info.channelsAllowed = 0
  · simp [hoff, channelItems]
  · rw [if_neg hoff, if_neg hoff, networkData]
    dsimp only
    rw [← hsize, ← htag, if_pos ⟨hrem, h4, hlen⟩]
    by_cases hnet : tag = SEC_TAG_CLI_CHANNELS
    · rw [if_pos hnet, if_pos ⟨hnet, hoff⟩]
      exact ⟨rfl, fun defs hdefs => List.mem_cons.1 hdefs⟩
    · rw [if_neg hnet, if_neg fun hno => hnet hno.1, channelItems, List.nil_append]
      exact ⟨rfl, fun defs hdefs => .inr hdefs⟩

theorem addedDefs_end {fuel : Nat} (h : ¬ ∃ tag size, BlockAt data s tag size) :
    addedDefs data fuel s = [] := by
  unfold addedDefs
  split
  · rfl
  · cases fuel with
    | zero => rfl
    | succ fuel =>
      rw [networkData]
      exact if_neg fun hno => h ⟨_, _, hno.1, rfl, rfl, hno.2.1, hno.2.2⟩

theorem loop_end_channels {fuel : Nat} {calls : List BlockCall} {rv : Int}
    (hno : ¬ ∃ tag size, BlockAt data s tag size)
    (h : mcsDataLoop data (fuel + 1) s = .ok (rv, calls, s')) : s'.channelList = s.channelList := by
  unfold mcsDataLoop at h
  split at h
  · rename_i hrem
    dsimp only at h
    split at h
    · cases h
      rfl
    · rename_i hsize
      exact absurd ⟨_, _, hrem, rfl, rfl, by omega, by omega⟩ hno
  · cases h
    rfl

/-- **The list of channels** after the loop. -/
theorem loop_channels (fuel : Nat) (s : Sec) {calls : List BlockCall}
    (h : mcsDataLoop data fuel s = .ok (0, calls, s')) :
    s'.channelList = s.channelList ++ (addedDefs data fuel s).flatMap (channelItems 0) ∧
      ∀ defs ∈ addedDefs data fuel s, defs.length ≤ 31 := by
  induction fuel generalizing s calls with
  | zero => cases h
  | succ fuel ih =>
    by_cases hblock : ∃ tag size, BlockAt data s tag size
    · obtain ⟨tag, size, hat⟩ := hblock
      rw [loop_block hat] at h
      cases hr : parseBlock data tag { s with p := s.p + 4 } with
      | error e =>
        rw [hr] at h
        cases h
      | ok r =>
        obtain ⟨rv, s₁⟩ := r
        rw [hr, Run.ok_bind] at h
        dsimp only at h
        split at h
        · cases h
        · rename_i hrv
          rw [not_not.1 hrv] at hr
          obtain ⟨hallowed, hlist, hcount⟩ := block_channels hr
          obtain ⟨⟨rv₂, calls₂, s₂⟩, hrest, h⟩ := Run.bind_eq_ok.1 h
          cases h
          obtain ⟨hlist₂, hcount₂⟩ := ih _ hrest
          obtain ⟨hdefs, hmem⟩ := @addedDefs_block data s { s₁ with p := s.p + size } fuel tag size
            hat rfl hallowed
          dsimp only at hlist hlist₂
          rw [hdefs, hlist₂, hlist, List.append_assoc]
          refine ⟨rfl, fun defs hd => ?_⟩
          rcases hmem defs hd with rfl | hd
          · exact hcount
          · exact hcount₂ defs hd
    · rw [addedDefs_end hblock, loop_end_channels hblock h]
      exact ⟨by simp, by simp⟩

/-! ## Places -/

/-- The id for a place. -/
def chanidAt (place : Nat) : Int := MCS_GLOBAL_CHANNEL + (place + 1)

theorem channelItems_chanid (index : Nat) (defs : List ChannelDef) :
    (channelItems index defs).map (·.chanid) =
      (((defs.zipIdx index).filter fun d => 0 < (cString d.1.1).length).map (·.2)).map
        chanidAt := by
  induction defs generalizing index with
  | nil => rfl
  | cons d defs ih =>
    by_cases h : 0 < (cString d.1).length
    · simp [channelItems, h, ih, List.zipIdx_cons, chanidAt]
    · simp [channelItems, h, ih, List.zipIdx_cons]

/-- The ids of the channels say the places of their names. -/
theorem chanids_eq (blocks : List (List ChannelDef)) :
    (blocks.flatMap (channelItems 0)).map (·.chanid) = (namePlaces blocks).map chanidAt := by
  induction blocks with
  | nil => rfl
  | cons defs blocks ih =>
    rw [List.flatMap_cons, List.map_append, ih, channelItems_chanid, namePlaces, namePlaces,
      List.flatMap_cons, List.map_append]

/-- A place is one of a block's. -/
theorem place_lt {blocks : List (List ChannelDef)} (h : ∀ defs ∈ blocks, defs.length ≤ 31)
    {place : Nat} (hplace : place ∈ namePlaces blocks) : place < 31 := by
  simp only [namePlaces, List.mem_flatMap, List.mem_map, List.mem_filter] at hplace
  obtain ⟨defs, hdefs, d, ⟨hd, -⟩, rfl⟩ := hplace
  have := List.snd_lt_of_mem_zipIdx hd
  have := h defs hdefs
  omega

end

/-! ## What is looked up, announced and confirmed -/

section

variable {channelList : List McsChannelItem} {places : List Nat}

theorem channelOf_eq_some {chanid : Int} {item : McsChannelItem} :
    channelOf channelList chanid = some item ↔
      ∃ n : Nat, chanid = chanidAt n ∧ channelList[n]? = some item := by
  unfold channelOf xrdpChannelGetItem chanidAt
  constructor
  · intro h
    split at h
    · cases h
    · exact ⟨_, by omega, h⟩
  · rintro ⟨n, rfl, h⟩
    have hn : (MCS_GLOBAL_CHANNEL + (n + 1) - MCS_GLOBAL_CHANNEL - 1 : Int) = n := by omega
    rw [hn, if_neg (by omega)]
    exact h

theorem channelOf_isSome {chanid : Int} :
    (channelOf channelList chanid).isSome ↔ ∃ n < channelList.length, chanid = chanidAt n := by
  rw [Option.isSome_iff_exists]
  constructor
  · rintro ⟨item, h⟩
    obtain ⟨n, hn, hitem⟩ := channelOf_eq_some.1 h
    exact ⟨n, (List.getElem?_eq_some_iff.1 hitem).1, hn⟩
  · rintro ⟨n, hlt, hn⟩
    exact ⟨channelList[n], channelOf_eq_some.2 ⟨n, hn, List.getElem?_eq_getElem hlt⟩⟩

/-- Lookups yield the channels of the ids just if each id says the place of its channel. -/
theorem lookup_iff (h : channelList.map (·.chanid) = places.map chanidAt) :
    (∀ chanid item, channelOf channelList chanid = some item → item.chanid = chanid) ↔
      ∀ n place : Nat, places[n]? = some place → place = n := by
  have hat : ∀ n : Nat, channelList[n]?.map (·.chanid) = places[n]?.map chanidAt := by
    intro n
    rw [← List.getElem?_map, ← List.getElem?_map, h]
  constructor
  · intro hlookup n place hplace
    have hn := hat n
    rw [hplace, Option.map_some] at hn
    obtain ⟨item, hitem, hid⟩ := Option.map_eq_some_iff.1 hn
    have := hlookup _ item (channelOf_eq_some.2 ⟨n, rfl, hitem⟩)
    unfold chanidAt at hid this
    omega
  · intro hplaces chanid item hitem
    obtain ⟨n, rfl, hget⟩ := channelOf_eq_some.1 hitem
    have hn := hat n
    rw [hget, Option.map_some] at hn
    obtain ⟨place, hplace, hid⟩ := Option.map_eq_some_iff.1 hn.symm
    rw [← hid, hplaces n place hplace]

theorem leAt_append {n : Nat} (first : List UInt8) (v : Nat) (rest : List UInt8) {i : Nat}
    (hi : first.length = i) : leAt (first ++ (leBytes n v ++ rest)) i n = v % 256 ^ n := by
  rw [leAt, ← hi, List.drop_left, getLe_leBytes]
  rfl

/-- The fields of a list of ids. -/
theorem leAt_fields (first : List UInt8) (ids : List Nat) (i : Nat) (hi : i < ids.length) :
    leAt (first ++ ids.flatMap (leBytes 2)) (first.length + 2 * i) 2 = ids[i] % 65536 := by
  induction ids generalizing first i with
  | nil => cases hi
  | cons id ids ih =>
    rw [List.flatMap_cons]
    cases i with
    | zero => exact leAt_append first id _ rfl
    | succ i =>
      have := ih (first ++ leBytes 2 id) i (by simpa using hi)
      rw [List.append_assoc, List.length_append, leBytes_length] at this
      rw [List.getElem_cons_succ, ← this]
      congr 1
      omega

/-- The ids announced are the ones from 1004 on. -/
theorem announcedIds_outChannels {count : Nat} (hcount : count ≤ 31) :
    announcedIds (outChannels count) = (List.range count).map fun n => 1003 + (n + 1) := by
  obtain ⟨even, heven⟩ : ∃ even, even = count + (count &&& 1) := ⟨_, rfl⟩
  obtain ⟨ids, hids⟩ : ∃ ids, ids = (List.range even).map fun index =>
      if index < count then 1003 + (index + 1) else 0 := ⟨_, rfl⟩
  obtain ⟨first, hfirst⟩ : ∃ first, first = leBytes 2 SEC_TAG_SRV_CHANNELS ++
      leBytes 2 (8 + even * 2) ++ leBytes 2 1003 := ⟨_, rfl⟩
  have hout : outChannels count = first ++ (leBytes 2 count ++ ids.flatMap (leBytes 2)) := by
    rw [outChannels, hids, List.flatMap_map, ← List.append_assoc, hfirst, heven]
  have hlen : first.length = 6 := by simp [hfirst]
  have hnum : leAt (outChannels count) 6 2 = count := by
    rw [hout, leAt_append first count _ hlen]
    omega
  rw [announcedIds, hnum]
  refine List.map_congr_left fun i hi => ?_
  have hi := List.mem_range.1 hi
  have hget : i < ids.length := by
    rw [hids, List.length_map, List.length_range]
    omega
  have hfield := leAt_fields (first ++ leBytes 2 count) ids i hget
  rw [List.append_assoc, ← hout, List.length_append, leBytes_length, hlen] at hfield
  rw [hfield]
  simp only [hids, List.getElem_map, List.getElem_range, if_pos hi]
  omega

theorem confirmedId_sendCjcf (userid chanid : Nat) :
    confirmedId (xrdpMcsSendCjcf userid chanid) = some (chanid % 65536) := by
  have hdrop : (xrdpMcsSendCjcf userid chanid).drop 6 = beBytes 2 chanid ++ [] := by
    have hfirst : ([UInt8.ofNat (MCS_CJCF * 4 + 2), 0] ++ beBytes 2 userid ++
        beBytes 2 chanid).length = 6 := by simp
    rw [List.append_nil, xrdpMcsSendCjcf, ← hfirst, List.drop_left]
  rw [confirmedId, hdrop, getBe_beBytes]
  rfl

theorem confirmedIds_eq (userid count : Nat) :
    ((List.range (count + 2)).map fun index =>
        xrdpMcsSendCjcf userid (userid + MCS_USERCHANNEL_BASE + index)).map confirmedId =
      (List.range (count + 2)).map fun index => some ((userid + 1001 + index) % 65536) := by
  rw [List.map_map]
  exact List.map_congr_left fun index _ => confirmedId_sendCjcf _ _

/-- The joins of the channels are confirmed, and no others, just if the user id is the one the
server starts with. -/
theorem confirmed_iff {userid : Nat} (hcount : channelList.length ≤ 31) (huser : userid < 65536) :
    (∀ id : Nat, some id ∈ ((List.range (channelList.length + 2)).map fun index =>
        xrdpMcsSendCjcf userid (userid + MCS_USERCHANNEL_BASE + index)).map confirmedId ↔
      id = userid + MCS_USERCHANNEL_BASE ∨ (id : Int) = MCS_GLOBAL_CHANNEL ∨
        (channelOf channelList id).isSome) ↔ userid = 1 := by
  simp only [confirmedIds_eq, channelOf_isSome, List.mem_map, List.mem_range, Option.some.injEq]
  unfold chanidAt MCS_GLOBAL_CHANNEL MCS_USERCHANNEL_BASE
  constructor
  · intro h
    have hfirst := (h ((userid + 1001 + 1) % 65536)).1 ⟨1, by omega, rfl⟩
    have hlast := (h ((userid + 1001 + (channelList.length + 1)) % 65536)).1
      ⟨channelList.length + 1, by omega, rfl⟩
    rcases hfirst with hfirst | hfirst | ⟨n, hn, hfirst⟩
    · omega
    · omega
    · rcases hlast with hlast | hlast | ⟨m, hm, hlast⟩
      · omega
      · omega
      · omega
  · rintro rfl id
    constructor
    · rintro ⟨index, hindex, rfl⟩
      by_cases h2 : 2 ≤ index
      · exact .inr (.inr ⟨index - 2, by omega, by omega⟩)
      · omega
    · rintro (rfl | hid | ⟨n, hn, hid⟩)
      · exact ⟨0, by omega, rfl⟩
      · exact ⟨1, by omega, by omega⟩
      · exact ⟨n + 2, by omega, by omega⟩

theorem userid_lt {userid userid' : Nat} {opcode : UInt8} {s : List UInt8}
    (huser : userid < 65536) (h : inUserid opcode userid s = some userid') : userid' < 65536 := by
  unfold inUserid at h
  split at h
  · split at h
    · rename_i a b
      cases h
      have := a.toNat_lt
      have := b.toNat_lt
      omega
    · cases h
  · split at h
    · cases h
      exact huser
    · cases h

theorem requests_userid_lt {edrq aurq : List UInt8} {userid : Nat}
    (h : ((xrdpMcsRecvEdrq 1 edrq).bind fun userid => xrdpMcsRecvAurq userid aurq) =
      some userid) : userid < 65536 := by
  obtain ⟨first, hfirst, hsecond⟩ := Option.bind_eq_some_iff.1 h
  have hlt : first < 65536 := by
    unfold xrdpMcsRecvEdrq at hfirst
    split at hfirst
    · cases hfirst
    · split at hfirst
      · cases hfirst
      · split at hfirst
        · cases hfirst
        · exact userid_lt (by omega) hfirst
  unfold xrdpMcsRecvAurq at hsecond
  split at hsecond
  · cases hsecond
  · split at hsecond
    · cases hsecond
    · exact userid_lt hlt hsecond

end

theorem limitBpp_channelList (s : Sec) : s.limitBpp.channelList = s.channelList := by
  unfold Sec.limitBpp
  split
  · rfl
  · rfl

/-- **The list of channels** after the client's user data. -/
theorem user_data_channels {data : List UInt8} {s s' : Sec} {calls : List BlockCall}
    (h : xrdpSecProcessMcsData data s = .ok (0, calls, s')) :
    s'.channelList = s.channelList ++
        (addedDefs data data.length { s with p := 23 }).flatMap (channelItems 0) ∧
      ∀ defs ∈ addedDefs data data.length { s with p := 23 }, defs.length ≤ 31 := by
  unfold xrdpSecProcessMcsData at h
  split at h
  · obtain ⟨⟨rv, calls', s₁⟩, hloop, h⟩ := Run.bind_eq_ok.1 h
    dsimp only at h
    split at h
    · rename_i hrv
      cases h
      exact absurd rfl hrv
    · rename_i hrv
      rw [not_not.1 hrv] at hloop
      cases h
      obtain ⟨hlist, hcount⟩ := loop_channels _ _ hloop
      rw [← hlist]
      exact ⟨limitBpp_channelList s₁, hcount⟩
  · cases h

/-- **What a connection has come to.** -/
theorem incoming_spec {sec : Sec} {data edrq aurq : List UInt8} {cjrq : Nat → List UInt8}
    {c : Connected} (h : xrdpMcsIncoming sec data edrq aurq cjrq = .ok (some c)) :
    ((xrdpMcsRecvEdrq 1 edrq).bind fun userid => xrdpMcsRecvAurq userid aurq) = some c.userid ∧
      c.channelList = sec.channelList ++
        (addedDefs data data.length { sec with p := 23 }).flatMap (channelItems 0) ∧
      (∀ defs ∈ addedDefs data data.length { sec with p := 23 }, defs.length ≤ 31) ∧
      c.announced = outChannels c.channelList.length ∧
      c.confirmed = (List.range (c.channelList.length + 2)).map fun index =>
        xrdpMcsSendCjcf c.userid (c.userid + MCS_USERCHANNEL_BASE + index) := by
  unfold xrdpMcsIncoming at h
  obtain ⟨⟨rv, calls, s'⟩, hdata, h⟩ := Run.bind_eq_ok.1 h
  dsimp only at h
  split at h
  · cases h
  · rename_i hrv
    rw [not_not.1 hrv] at hdata
    obtain ⟨hlist, hcount⟩ := user_data_channels hdata
    split at h
    · cases h
    · rename_i userid huser
      split at h
      · cases h
        exact ⟨huser, hlist, hcount, rfl, rfl⟩
      · cases h

/-- **The numbers of static channels**, once a client has connected: each id looks up the channel
that has it, and the ids announced and confirmed to the client are the ones that are looked up,
just if the channels with names are the first ones of the client's network data, block after block,
and the client's requests name no other user than the server. -/
theorem channel_numbers_iff {sec : Sec} {data edrq aurq : List UInt8} {cjrq : Nat → List UInt8}
    {c : Connected} (hsec : sec.channelList = [])
    (h : xrdpMcsIncoming sec data edrq aurq cjrq = .ok (some c)) :
    c.Agrees ↔ InOrder sec data ∧
      ((xrdpMcsRecvEdrq 1 edrq).bind fun userid => xrdpMcsRecvAurq userid aurq) = some 1 := by
  obtain ⟨huser, hlist, hcount, hann, hconf⟩ := incoming_spec h
  rw [hsec, List.nil_append] at hlist
  have hids : c.channelList.map (·.chanid) =
      (namePlaces (addedDefs data data.length { sec with p := 23 })).map chanidAt := by
    rw [hlist, chanids_eq, hsec]
  have horder : InOrder sec data ↔ ∀ n place : Nat,
      (namePlaces (addedDefs data data.length { sec with p := 23 }))[n]? = some place →
        place = n := by
    unfold InOrder addedDefs
    by_cases hoff : sec.info.channelsAllowed = 0
    · simp [hoff, namePlaces]
    · simp [hoff]
  have hlen : InOrder sec data → c.channelList.length ≤ 31 := by
    intro hin
    have hsame := congrArg List.length hids
    rw [List.length_map, List.length_map] at hsame
    rw [hsame]
    -- the last name is at the place of its number
    by_contra hmore
    have hget := List.getElem?_eq_getElem (show 31 < _ from not_le.1 hmore)
    have hplace := horder.1 hin 31 _ hget
    have hlt := place_lt hcount (List.mem_of_getElem? hget)
    omega
  rw [huser, Option.some.injEq]
  constructor
  · intro hagrees
    have hin := horder.2 ((lookup_iff hids).1 hagrees.lookup)
    refine ⟨hin, (confirmed_iff (hlen hin) (requests_userid_lt huser)).1 ?_⟩
    rw [← hconf]
    exact hagrees.confirmed
  · rintro ⟨hin, hone⟩
    refine ⟨(lookup_iff hids).2 (horder.1 hin), fun id => ?_, ?_⟩
    · rw [hann, announcedIds_outChannels (hlen hin), channelOf_isSome]
      unfold chanidAt MCS_GLOBAL_CHANNEL
      simp only [List.mem_map, List.mem_range]
      constructor
      · rintro ⟨n, hn, rfl⟩
        exact ⟨n, hn, by omega⟩
      · rintro ⟨n, hn, hid⟩
        exact ⟨n, hn, by omega⟩
    · rw [hconf]
      exact (confirmed_iff (hlen hin) (requests_userid_lt huser)).2 hone

/-- The user data of a client with two channels. -/
def twoChannels (first : UInt8) : List UInt8 :=
  List.replicate 23 0 ++ [0x03, 0xC0, 32, 0, 2, 0, 0, 0,
    first, 0, 0, 0, 0, 0, 0, 0, 0, 0, 0, 0, 0x62, 0, 0, 0, 0, 0, 0, 0, 0, 0, 0, 0]

/-- A connection of such a client. -/
def connect (first : UInt8) : Run (Option Connected) :=
  xrdpMcsIncoming usualSec (twoChannels first) [4, 0, 0, 0, 0] [40] fun _ => [56, 0, 0, 0, 0]

theorem channel_numbers_two : ∃ c, connect 0x61 = .ok (some c) ∧
    (c.Agrees ↔ InOrder usualSec (twoChannels 0x61) ∧
      ((xrdpMcsRecvEdrq 1 [4, 0, 0, 0, 0]).bind fun userid => xrdpMcsRecvAurq userid [40]) =
        some 1) :=
  ⟨_, rfl, @channel_numbers_iff usualSec (twoChannels 0x61) [4, 0, 0, 0, 0] [40]
    (fun _ => [56, 0, 0, 0, 0]) _ rfl rfl⟩

/-- **A channel without a name** in front of another: the id that is announced for the other, 1004,
looks up a channel whose id is 1005. -/
theorem channel_numbers_shifted : ∃ c, connect 0 = .ok (some c) ∧
    announcedIds c.announced = [1004] ∧
    channelOf c.channelList 1004 = some ⟨[0x62], 0, 1005⟩ ∧ ¬ c.Agrees := by
  refine ⟨_, rfl, rfl, rfl, fun h => ?_⟩
  exact absurd (h.lookup 1004 ⟨[0x62], 0, 1005⟩ rfl) (by decide)

end Xrdp.Gcc
