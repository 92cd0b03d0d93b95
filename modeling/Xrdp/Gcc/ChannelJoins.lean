import Xrdp.Gcc.ChannelIds

/-!
# Joins of channels

* `requestedId` — the channel that a request to join is about.
* `Connected.Joins` — each confirmation is about the channel of its request, and the sequence ends when
  all channels have been joined.
* `joins_iff` — for which requests this is so: those that the server has counted on.
-/

namespace Xrdp.Gcc

open Wire

/-- The id in a request to join a channel, behind its first byte and the id of the user. -/
def requestedId (msg : List UInt8) : Option Nat := (getBe 2 (msg.drop 3)).map (·.1)

/-- The channels that can be joined: the user's own, the global one and the ones announced. -/
def Connected.joinable (c : Connected) : List Nat :=
  [c.userid + MCS_USERCHANNEL_BASE, 1003] ++
    (List.range c.channelList.length).map fun index => 1003 + (index + 1)

/-- The channels of the first `n` requests. -/
def joined (cjrq : Nat → List UInt8) (n : Nat) : List (Option Nat) :=
  (List.range n).map fun index => requestedId (cjrq index)

/-- **Each confirmation names the channel of its request**, and after a number of requests the sequence
has come to its end just if every channel has been joined. -/
structure Connected.Joins (c : Connected) (cjrq : Nat → List UInt8) : Prop where
  confirmed : c.confirmed.map confirmedId = joined cjrq c.confirmed.length
  ends : ∀ n ≤ c.confirmed.length,
    n = c.confirmed.length ↔ ∀ id ∈ c.joinable, some id ∈ joined cjrq n

/-- What the server counts on: the channels in the order of their numbers. -/
def InAscendingOrder (userid count : Nat) (cjrq : Nat → List UInt8) : Prop :=
  userid = 1 ∧ ∀ index < count + 2, requestedId (cjrq index) = some (1002 + index)

variable {cjrq : Nat → List UInt8}

theorem requestedId_lt {msg : List UInt8} {id : Nat} (h : requestedId msg = some id) : id < 65536 := by
  obtain ⟨⟨v, rest⟩, hget, rfl⟩ := Option.map_eq_some_iff.1 h
  obtain ⟨⟨block, rest'⟩, hblock, hv⟩ := Option.bind_eq_some_iff.1 hget
  obtain ⟨⟨v', rest''⟩, hle, heq⟩ := Option.map_eq_some_iff.1 hv
  cases heq
  exact getLe_lt hle

theorem mem_joined {n id : Nat} : some id ∈ joined cjrq n ↔ ∃ i < n, requestedId (cjrq i) = some id := by
  simp [joined]

theorem mem_joinable {c : Connected} {id : Nat} : id ∈ c.joinable ↔
    id = c.userid + 1001 ∨ id = 1003 ∨ ∃ i < c.channelList.length, 1004 + i = id := by
  simp only [Connected.joinable, MCS_USERCHANNEL_BASE, List.mem_append, List.mem_cons, List.not_mem_nil,
    or_false, List.mem_map, List.mem_range, or_assoc]
  refine or_congr_right (or_congr_right (exists_congr fun i => and_congr_right fun _ => ?_))
  omega

/-- **The numbers that the server counts** are those of the channels, and all are needed to have them,
just if the user has the id that the server starts with. -/
theorem counted_starts {userid count : Nat} (huser : userid < 65536) :
    (∀ n ≤ count + 2, n = count + 2 ↔ ∀ id, (id = userid + 1001 ∨ id = 1003 ∨
        ∃ i < count, 1004 + i = id) → ∃ i < n, (userid + 1001 + i) % 65536 = id) →
      userid = 1 ∧ count ≤ 64532 := by
  intro h
  have hall := (h (count + 2) (Nat.le_refl _)).1 rfl
  have hmost := mt (h (count + 1) (Nat.le_succ _)).2 (by omega)
  obtain ⟨i₁, hi₁, hown⟩ := hall _ (.inl rfl)
  obtain ⟨i₂, hi₂, hglobal⟩ := hall _ (.inr (.inl rfl))
  -- one channel is joined by the last request only
  have hlast : ∃ id, (id = userid + 1001 ∨ id = 1003 ∨ ∃ i < count, 1004 + i = id) ∧
      ∀ i < count + 1, (userid + 1001 + i) % 65536 ≠ id := by
    by_contra hnone
    push Not at hnone
    exact hmost hnone
  obtain ⟨id, hid, hnot⟩ := hlast
  have hlt : id < 65536 := by
    obtain ⟨i, -, hi⟩ := hall id hid
    omega
  have hcount : 0 < count → count ≤ 64532 := by
    intro hpos
    obtain ⟨i, -, hi⟩ := hall (1003 + count) (.inr (.inr ⟨count - 1, by omega, by omega⟩))
    omega
  refine ⟨?_, by omega⟩
  by_contra hone
  rcases Nat.lt_or_ge userid 3 with hsmall | hlarge
  · rcases Nat.lt_or_gt_of_ne hone with hlow | htwo
    · -- the last channel that was announced is not among the numbers
      rcases Nat.eq_zero_or_pos count with hzero | hpos
      · omega
      · obtain ⟨i, hi, hthird⟩ := hall (1003 + count) (.inr (.inr ⟨count - 1, by omega, by omega⟩))
        omega
    · -- the last number is that of no channel
      rcases hid with hid | hid | ⟨i, hi, hid⟩
      · exact hnot 0 (by omega) (by omega)
      · exact hnot 0 (by omega) (by omega)
      · exact hnot (i + 1) (by omega) (by omega)
  · -- the numbers start behind the global channel, and do not come round to all others
    obtain ⟨v, hv⟩ : ∃ v, v + 65536 = userid + 1003 + count := ⟨userid + 1003 + count - 65536, by omega⟩
    obtain ⟨i, hi, hround⟩ := hall v (.inr (.inr ⟨v - 1004, by omega, by omega⟩))
    omega

/-- **The numbers counted up** are those of the channels. -/
theorem counted_ascending {count n : Nat} (hn : n ≤ count + 2) : n = count + 2 ↔
    ∀ id, (id = 1 + 1001 ∨ id = 1003 ∨ ∃ i < count, 1004 + i = id) → ∃ i < n, 1002 + i = id := by
  constructor
  · rintro rfl id (rfl | rfl | ⟨i, hi, rfl⟩)
    · exact ⟨0, by omega, rfl⟩
    · exact ⟨1, by omega, rfl⟩
    · exact ⟨i + 2, by omega, by omega⟩
  · intro hall
    rcases Nat.eq_zero_or_pos count with hzero | hpos
    · obtain ⟨i, hi, hid⟩ := hall 1003 (.inr (.inl rfl))
      omega
    · obtain ⟨i, hi, hid⟩ := hall (1003 + count) (.inr (.inr ⟨count - 1, by omega, by omega⟩))
      omega

/-- **When the joins are confirmed faithfully**, once a client has connected: just if it joins its
channels in the order of their numbers, as the user that the server starts with. -/
theorem joins_iff {sec : Sec} {data edrq aurq : List UInt8} {cjrq : Nat → List UInt8} {c : Connected}
    (h : xrdpMcsIncoming sec data edrq aurq cjrq = .ok (some c)) :
    c.Joins cjrq ↔ InAscendingOrder c.userid c.channelList.length cjrq := by
  obtain ⟨huser, -, -, -, hconf⟩ := incoming_spec h
  have hlt := requests_userid_lt huser
  have hlength : c.confirmed.length = c.channelList.length + 2 := by rw [hconf]; simp
  have hconfirmed : c.confirmed.map confirmedId = joined cjrq c.confirmed.length ↔
      ∀ i < c.channelList.length + 2,
        requestedId (cjrq i) = some ((c.userid + 1001 + i) % 65536) := by
    rw [hlength, hconf, confirmedIds_eq, joined]
    simp [List.map_inj_left, eq_comm]
  constructor
  · rintro ⟨hsame, hends⟩
    have hids := hconfirmed.1 hsame
    obtain ⟨hone, hcount⟩ : c.userid = 1 ∧ c.channelList.length ≤ 64532 := by
      apply counted_starts hlt
      intro n hn
      have hend := hends n (by rw [hlength]; exact hn)
      rw [hlength] at hend
      rw [hend]
      refine forall_congr' fun id => ?_
      rw [mem_joinable, mem_joined]
      refine imp_congr_right fun _ => exists_congr fun i => and_congr_right fun hi => ?_
      rw [hids i (by omega), Option.some.injEq]
    refine ⟨hone, fun i hi => ?_⟩
    rw [hids i hi, hone]
    exact congrArg some (by omega)
  · rintro ⟨hone, hids⟩
    constructor
    · apply hconfirmed.2
      intro i hi
      have hlt := requestedId_lt (hids i hi)
      rw [hids i hi, hone]
      exact congrArg some (by omega)
    · intro n hn
      rw [hlength] at hn ⊢
      rw [counted_ascending hn]
      refine forall_congr' fun id => ?_
      rw [mem_joinable, mem_joined, hone]
      refine imp_congr_right fun _ => exists_congr fun i => and_congr_right fun hi => ?_
      rw [hids i (by omega), Option.some.injEq]

/-- A client with two channels joins its own channel, the global one and both. -/
def joinFour : Nat → List UInt8
  | 0 => [56, 0, 1, 3, 0xEA]
  | 1 => [56, 0, 1, 3, 0xEB]
  | 2 => [56, 0, 1, 3, 0xEC]
  | _ => [56, 0, 1, 3, 0xED]

theorem joins_in_order : ∃ c,
    xrdpMcsIncoming usualSec (twoChannels 0x61) [4, 0, 0, 0, 0] [40] joinFour = .ok (some c) ∧
      c.channelList.length = 2 ∧ c.Joins joinFour := by
  refine ⟨_, rfl, rfl, (@joins_iff usualSec (twoChannels 0x61) [4, 0, 0, 0, 0] [40] joinFour _ rfl).2
    ⟨rfl, fun i hi => ?_⟩⟩
  have hi : i < 4 := hi
  interval_cases i <;> rfl

/-- A client without channels joins its own channel and the global one. -/
def joinBoth (first second : UInt8) : Nat → List UInt8
  | 0 => [56, 0, 1, 3, first]
  | _ => [56, 0, 1, 3, second]

def noChannels : List UInt8 := List.replicate 23 0

/-- **The global channel is joined first**: the confirmation is about the other. -/
theorem joins_out_of_order : ∃ c,
    xrdpMcsIncoming usualSec noChannels [4, 0, 0, 0, 0] [40] (joinBoth 0xEB 0xEA) = .ok (some c) ∧
      requestedId (joinBoth 0xEB 0xEA 0) = some 1003 ∧
      c.confirmed[0]?.bind confirmedId = some 1002 ∧ ¬c.Joins (joinBoth 0xEB 0xEA) := by
  refine ⟨_, rfl, rfl, rfl, fun h => ?_⟩
  exact absurd h.confirmed (by decide)

end Xrdp.Gcc
