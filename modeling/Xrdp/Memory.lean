import Xrdp.Lib.Bits

/-!
# Checked buffers

A heap buffer of the program is its allocated size and its cells; every read and write goes
through a bounds check, so that a run of a modelled function that would touch memory outside the
allocation stops with `Stuck.outOfBounds` instead of returning.
-/

namespace Xrdp

/-- Why a run of a modelled function has no result. -/
inductive Stuck where
  | outOfBounds
  | outOfFuel
  deriving DecidableEq, Repr

/-- Results of functions that touch memory or loop. -/
abbrev Run := Except Stuck

@[simp] theorem Run.ok_bind {α β : Type} (a : α) (f : α → Run β) :
    ((.ok a : Run α) >>= f) = f a := rfl

@[simp] theorem Run.error_bind {α β : Type} (e : Stuck) (f : α → Run β) :
    ((.error e : Run α) >>= f) = .error e := rfl

@[simp] theorem Run.pure_eq {α : Type} (a : α) : (pure a : Run α) = .ok a := rfl

theorem Run.bind_eq_ok {α β : Type} {x : Run α} {f : α → Run β} {b : β} :
    (x >>= f) = .ok b ↔ ∃ a, x = .ok a ∧ f a = .ok b := by
  cases x with
  | error e => simp
  | ok a => simp

/-- `r` has a result with `P`, or has left a buffer, which it does only if `full`. -/
def Run.Ends {α : Type} (full : Prop) (r : Run α) (P : α → Prop) : Prop :=
  (∃ a, r = .ok a ∧ P a) ∨ (r = .error .outOfBounds ∧ full)

theorem Run.Ends.ok {α : Type} {full : Prop} {a : α} {P : α → Prop} (h : P a) :
    Run.Ends full (.ok a) P := .inl ⟨a, rfl, h⟩

theorem Run.Ends.bind {α β : Type} {full : Prop} {r : Run α} {f : α → Run β} {P : α → Prop}
    {Q : β → Prop} (h : Run.Ends full r P) (hf : ∀ a, P a → Run.Ends full (f a) Q) :
    Run.Ends full (r >>= f) Q := by
  rcases h with ⟨a, rfl, ha⟩ | ⟨rfl, hfull⟩
  · exact hf a ha
  · exact .inr ⟨rfl, hfull⟩

theorem Run.Ends.mono {α : Type} {full full' : Prop} {r : Run α} {P Q : α → Prop}
    (h : Run.Ends full r P) (hfull : full → full') (hP : ∀ a, P a → Q a) :
    Run.Ends full' r Q := by
  rcases h with ⟨a, ha, hp⟩ | ⟨he, hf⟩
  · exact .inl ⟨a, ha, hP a hp⟩
  · exact .inr ⟨he, hfull hf⟩

/-- A buffer of `size` cells. -/
structure Buf (α : Type) where
  size : Nat
  cells : Nat → α

namespace Buf

variable {α : Type}

/-- `g_malloc(size, 1)`: zero filled. -/
def alloc [Zero α] (size : Nat) : Buf α := ⟨size, fun _ => 0⟩

/-- `b[i]`. -/
def read (b : Buf α) (i : Nat) : Run α :=
  if i < b.size then .ok (b.cells i) else .error .outOfBounds

/-- `b[i] = v`. -/
def write (b : Buf α) (i : Nat) (v : α) : Run (Buf α) :=
  if i < b.size then .ok { b with cells := fun j => if j = i then v else b.cells j }
  else .error .outOfBounds

/-- `g_memset(b, 0, n)`. -/
def memset0 [Zero α] (b : Buf α) (n : Nat) : Run (Buf α) :=
  if n ≤ b.size then .ok { b with cells := fun j => if j < n then 0 else b.cells j }
  else .error .outOfBounds

/-- `g_memcpy(b + off, src, n)` with a source of exactly `n` cells. -/
def memcpy (b : Buf α) (off : Nat) (src : List α) : Run (Buf α) :=
  if off + src.length ≤ b.size then
    .ok { b with
      cells := fun j => if off ≤ j then (src[j - off]?).getD (b.cells j) else b.cells j }
  else .error .outOfBounds

/-- `b[i] |= x` on bytes. -/
def orByte (b : Buf UInt8) (i x : Nat) : Run (Buf UInt8) :=
  if i < b.size then .ok { b with cells := BitString.orAt b.cells i x }
  else .error .outOfBounds

theorem read_ok {b : Buf α} {i : Nat} (h : i < b.size) : b.read i = .ok (b.cells i) := if_pos h

theorem read_eq_ok {b : Buf α} {i : Nat} {v : α} (h : b.read i = .ok v) :
    i < b.size ∧ v = b.cells i := by
  unfold read at h
  split at h
  · cases h; exact ⟨‹_›, rfl⟩
  · cases h

theorem write_ok {b : Buf α} {i : Nat} (h : i < b.size) (v : α) :
    b.write i v = .ok { b with cells := fun j => if j = i then v else b.cells j } := if_pos h

theorem memset0_ok [Zero α] {b : Buf α} {n : Nat} (h : n ≤ b.size) :
    b.memset0 n = .ok { b with cells := fun j => if j < n then 0 else b.cells j } := if_pos h

theorem memcpy_ok {b : Buf α} {off : Nat} {src : List α} (h : off + src.length ≤ b.size) :
    b.memcpy off src = .ok { b with
      cells := fun j => if off ≤ j then (src[j - off]?).getD (b.cells j) else b.cells j } :=
  if_pos h

/-! ## Windows -/

/-- The cells from `off` on are `bs`. -/
structure Holds (b : Buf α) (off : Nat) (bs : List α) : Prop where
  fits : off + bs.length ≤ b.size
  cells : ∀ i, (h : i < bs.length) → b.cells (off + i) = bs[i]

/-- `b'` is `b` but for the `n` cells from `off` on. -/
structure Touched (b b' : Buf α) (off n : Nat) : Prop where
  size : b'.size = b.size
  cells : ∀ j, j < off ∨ off + n ≤ j → b'.cells j = b.cells j

theorem Holds.touched {b b' : Buf α} {off off' n : Nat} {bs : List α} (h : b.Holds off bs)
    (ht : b.Touched b' off' n) (hd : off + bs.length ≤ off' ∨ off' + n ≤ off) :
    b'.Holds off bs := by
  refine ⟨ht.size ▸ h.fits, fun i hi => ?_⟩
  rw [ht.cells _ (by omega), h.cells i hi]

theorem Holds.append {b : Buf α} {off : Nat} {bs cs : List α} (h : b.Holds off bs)
    (h' : b.Holds (off + bs.length) cs) : b.Holds off (bs ++ cs) := by
  have hfits := h'.fits
  refine ⟨by simp; omega, fun i hi => ?_⟩
  rw [List.length_append] at hi
  rcases Nat.lt_or_ge i bs.length with hlt | hge
  · rw [List.getElem_append_left hlt, h.cells i hlt]
  · rw [List.getElem_append_right hge, ← h'.cells (i - bs.length) (by omega)]
    congr 1
    omega

theorem Holds.nil {b : Buf α} {off : Nat} (h : off ≤ b.size) : b.Holds off [] :=
  ⟨h, fun _ hi => absurd hi (Nat.not_lt_zero _)⟩

theorem Touched.trans {b b' b'' : Buf α} {off n m : Nat} (h : b.Touched b' off n)
    (h' : b'.Touched b'' (off + n) m) : b.Touched b'' off (n + m) := by
  refine ⟨h'.size.trans h.size, fun j hj => ?_⟩
  rw [h'.cells j (by omega), h.cells j (by omega)]

theorem Holds.sub {buf : Buf α} {off : Nat} {bytes : List α} (h : buf.Holds off bytes)
    (n m : Nat) (hn : n ≤ bytes.length) : buf.Holds (off + n) ((bytes.drop n).take m) := by
  have hfits := h.fits
  refine ⟨by simp; omega, fun i hi => ?_⟩
  simp only [List.length_take, List.length_drop] at hi
  rw [Nat.add_assoc, h.cells (n + i) (by omega)]
  simp

theorem memcpy_spec {b : Buf α} {off : Nat} {src : List α} (h : off + src.length ≤ b.size) :
    ∃ b', b.memcpy off src = .ok b' ∧ b'.Holds off src ∧ b.Touched b' off src.length := by
  refine ⟨_, memcpy_ok h, ⟨h, fun i hi => ?_⟩, ⟨rfl, fun j hj => ?_⟩⟩
  · simp [hi]
  · rcases hj with hj | hj
    · exact if_neg (by omega)
    · have : src[j - off]? = none := List.getElem?_eq_none (by omega)
      simp [this]

theorem write_spec {b : Buf α} {off : Nat} (h : off < b.size) (v : α) :
    ∃ b', b.write off v = .ok b' ∧ b'.Holds off [v] ∧ b.Touched b' off 1 := by
  refine ⟨_, write_ok h v, ⟨h, fun i hi => ?_⟩, ⟨rfl, fun j hj => ?_⟩⟩
  · have : i = 0 := by simpa using hi
    simp [this]
  · exact if_neg (by omega)

end Buf

/-! ## Loops -/

theorem Run.mapM_ok {ι α : Type} {f : ι → Run α} {g : ι → α} {l : List ι}
    (h : ∀ i ∈ l, f i = .ok (g i)) : l.mapM f = .ok (l.map g) := by
  induction l with
  | nil => rfl
  | cons i l ih =>
    obtain ⟨hi, hl⟩ := List.forall_mem_cons.1 h
    rw [List.mapM_cons, hi, Run.ok_bind, ih hl, Run.ok_bind]
    rfl

theorem Run.mapM_eq_ok {ι α : Type} [Inhabited α] {f : ι → Run α} {l : List ι} {as : List α}
    (h : l.mapM f = .ok as) : ∃ g : ι → α, (∀ i ∈ l, f i = .ok (g i)) ∧ as = l.map g := by
  have hf : ∀ i ∈ l, ∃ a, f i = .ok a := by
    induction l generalizing as with
    | nil => exact fun _ hi => absurd hi List.not_mem_nil
    | cons j l ih =>
      rw [List.mapM_cons, Run.bind_eq_ok] at h
      obtain ⟨a, ha, hrest⟩ := h
      obtain ⟨as, has, -⟩ := Run.bind_eq_ok.1 hrest
      exact List.forall_mem_cons.2 ⟨⟨a, ha⟩, ih has⟩
  choose! g hg using hf
  refine ⟨g, hg, ?_⟩
  have := Run.mapM_ok hg
  rw [h] at this
  cases this
  rfl

/-- A loop over the parts of a buffer: what is done to a part needs `Pre` of it, gives `Post`, and
leaves both of every other part. -/
theorem Run.foldlM_parts {ι σ : Type} {f : σ → ι → Run σ} {Pre Post : ι → σ → Prop}
    {Apart : ι → ι → Prop}
    (hf : ∀ p s, Pre p s → ∃ s', f s p = .ok s' ∧ Post p s' ∧
      ∀ q, Apart p q ∨ Apart q p → (Pre q s → Pre q s') ∧ (Post q s → Post q s'))
    {parts : List ι} (hap : parts.Pairwise Apart) {s : σ} (hpre : ∀ p ∈ parts, Pre p s) :
    ∃ s', parts.foldlM f s = .ok s' ∧ (∀ p ∈ parts, Post p s') ∧
      ∀ q, (∀ p ∈ parts, Apart p q ∨ Apart q p) → Post q s → Post q s' := by
  induction parts generalizing s with
  | nil => exact ⟨s, rfl, fun _ h => absurd h List.not_mem_nil, fun _ _ h => h⟩
  | cons p parts ih =>
    obtain ⟨hp, hparts⟩ := List.pairwise_cons.1 hap
    obtain ⟨s₁, h₁, hpost, hkeep⟩ := hf p s (hpre p List.mem_cons_self)
    obtain ⟨s₂, h₂, hposts, hkeeps⟩ := ih hparts (s := s₁) fun q hq =>
      (hkeep q (.inl (hp q hq))).1 (hpre q (List.mem_cons_of_mem _ hq))
    refine ⟨s₂, by rw [List.foldlM_cons, h₁, Run.ok_bind, h₂], ?_, ?_⟩
    · intro q hq
      rcases List.mem_cons.1 hq with rfl | hq
      · exact hkeeps q (fun r hr => .inr (hp r hr)) hpost
      · exact hposts q hq
    · intro q hq hs
      exact hkeeps q (fun r hr => hq r (List.mem_cons_of_mem _ hr))
        ((hkeep q (hq p List.mem_cons_self)).2 hs)

end Xrdp
