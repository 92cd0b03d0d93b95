import Xrdp.Lib.Wire

/-!
# Messages with counted parts

A message is a row of parts: so many bytes, or counts with as many elements behind them.  Whoever knows
what parts there are goes over the message by its counts.

* `Part` — a part, with what is to be counted; `Lays` — parts as bytes.
* `skim` — what the counts are that are found, and what is behind the parts.
* `Lays.skim_iff` — they are what has been counted if they fit in their fields, and only then.
-/

namespace Counted

open Wire

/-- A part of a message. -/
inductive Part where
  | fixed (n : Nat)
  /-- Counts of `w` bytes, and elements of `unit` bytes for all of them. -/
  | counted (w unit : Nat) (counts : List Nat)
  deriving DecidableEq, Repr

namespace Part

def size : Part → Nat
  | fixed n => n
  | counted w unit counts => w * counts.length + counts.sum * unit

def counts : Part → List Nat
  | fixed _ => []
  | counted _ _ counts => counts

/-- The counts fit in their fields. -/
def Fits : Part → Prop
  | fixed _ => True
  | counted w _ counts => ∀ c ∈ counts, c < 256 ^ w

instance : (p : Part) → Decidable p.Fits
  | fixed _ => inferInstanceAs (Decidable True)
  | counted w _ counts => inferInstanceAs (Decidable (∀ c ∈ counts, c < 256 ^ w))

end Part

def size (ps : List Part) : Nat := (ps.map Part.size).sum

/-! ## Parts as bytes -/

/-- The parts as bytes; of a count that does not fit, the lower bytes are there. -/
inductive Lays : List Part → List UInt8 → Prop
  | nil : Lays [] []
  | fixed {n : Nat} {bs : List UInt8} {ps : List Part} {rest : List UInt8} :
      bs.length = n → Lays ps rest → Lays (.fixed n :: ps) (bs ++ rest)
  | counted {w unit : Nat} {counts : List Nat} {bs : List UInt8} {ps : List Part} {rest : List UInt8} :
      bs.length = counts.sum * unit → Lays ps rest →
        Lays (.counted w unit counts :: ps) (counts.flatMap (leBytes w) ++ bs ++ rest)

variable {ps qs : List Part} {bs cs rest : List UInt8} {counts : List Nat} {w unit n : Nat}

theorem Lays.append (h : Lays ps bs) (h' : Lays qs cs) : Lays (ps ++ qs) (bs ++ cs) := by
  induction h with
  | nil => exact h'
  | fixed hlen _ ih =>
    rw [List.append_assoc]
    exact .fixed hlen ih
  | counted hlen _ ih =>
    rw [List.append_assoc]
    exact .counted hlen ih

theorem Lays.of_length (h : bs.length = n) : Lays [.fixed n] bs := by
  have hlays := Lays.fixed h .nil
  rwa [List.append_nil] at hlays

theorem Lays.of_counts (h : bs.length = counts.sum * unit) :
    Lays [.counted w unit counts] (counts.flatMap (leBytes w) ++ bs) := by
  have hlays := Lays.counted (w := w) h .nil
  rwa [List.append_nil] at hlays

theorem Lays.length (h : Lays ps bs) : bs.length = size ps := by
  induction h with
  | nil => rfl
  | fixed hlen _ ih =>
    simp only [size, List.map_cons, List.sum_cons, List.length_append, Part.size] at ih ⊢
    omega
  | counted hlen _ ih =>
    simp only [size, List.map_cons, List.sum_cons, List.length_append, Part.size,
      leBytes_flatMap_length] at ih ⊢
    omega

/-! ## Going over a message -/

def skimPart : Part → List UInt8 → Option (List Nat × List UInt8)
  | .fixed n, bs => (getBytes n bs).map fun r => ([], r.2)
  | .counted w unit counts, bs =>
    (getLes w counts.length bs).bind fun c =>
      (getBytes (c.1.sum * unit) c.2).map fun r => (c.1, r.2)

/-- The counts that are found, and what is behind the parts. -/
def skim : List Part → List UInt8 → Option (List Nat × List UInt8)
  | [], bs => some ([], bs)
  | p :: ps, bs => (skimPart p bs).bind fun c => (skim ps c.2).map fun r => (c.1 ++ r.1, r.2)

theorem skim_cons_fixed (h : bs.length = n) :
    skim (.fixed n :: ps) (bs ++ rest) = skim ps rest := by
  simp [skim, skimPart, getBytes_append h]

theorem map_mod_iff {m : Nat} : counts.map (· % m) = counts ↔ ∀ c ∈ counts, c % m = c := by
  conv_lhs => rw [← List.map_id counts, List.map_map]
  rw [List.map_inj_left]
  rfl

/-- The counts that are found are those that have been counted just if they fit. -/
theorem Lays.skim_iff (h : Lays ps bs) :
    skim ps bs = some (ps.flatMap Part.counts, []) ↔ ∀ p ∈ ps, p.Fits := by
  induction h with
  | nil => simp [skim]
  | fixed hlen _ ih =>
    rw [skim_cons_fixed hlen, List.forall_mem_cons]
    exact ih.trans ⟨fun hrest => ⟨trivial, hrest⟩, And.right⟩
  | @counted w unit counts bs ps rest hlen _ ih =>
    have hmod : (∀ c ∈ counts, c < 256 ^ w) ↔ counts.map (· % 256 ^ w) = counts := by
      rw [map_mod_iff]
      exact forall₂_congr fun c _ => Nat.mod_eq_iff_lt (by positivity) |>.symm
    rw [List.forall_mem_cons]
    simp only [skim, skimPart, List.append_assoc, getLes_leBytes, Option.bind_some]
    constructor
    · intro hskim
      obtain ⟨⟨found, behind⟩, hfound, hmore⟩ := Option.bind_eq_some_iff.1 hskim
      obtain ⟨_, _, heq⟩ := Option.map_eq_some_iff.1 hfound
      cases heq
      obtain ⟨⟨more, left⟩, hmore, heq⟩ := Option.map_eq_some_iff.1 hmore
      have heq := (Prod.mk.inj heq).1
      have hsame : counts.map (· % 256 ^ w) = counts :=
        (List.append_inj heq (by simp [Part.counts])).1
      refine ⟨hmod.2 hsame, ih.1 ?_⟩
      rw [hsame, getBytes_append hlen] at hskim
      obtain ⟨⟨more, left⟩, hmore, heq⟩ := Option.map_eq_some_iff.1 hskim
      obtain ⟨hcounts, hleft⟩ := Prod.mk.inj heq
      have hmore : skim ps rest = some (more, left) := hmore
      have hcounts : more = ps.flatMap Part.counts := List.append_cancel_left hcounts
      have hleft : left = [] := hleft
      rw [hmore, hcounts, hleft]
    · rintro ⟨hfit, hrest⟩
      rw [hmod.1 hfit, getBytes_append hlen, Option.map_some, Option.bind_some, ih.2 hrest]
      rfl

end Counted
