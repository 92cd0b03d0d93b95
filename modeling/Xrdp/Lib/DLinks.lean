import Mathlib.Data.List.Nodup
import Mathlib.Tactic.Tauto

/-!
# Doubly linked lists kept in tables

* `Seg` — a list of nodes is a segment of the links `nxt`, `prv`: every node points at the next
  and back at the one before, the ends at whatever encloses the segment.
* `seg_append` — a segment splits wherever its list does.
* `Seg.relink` — links changed at the ends only leave a segment with other ends.
* `Seg.snoc`, `Seg.remove` — a node is hooked up behind the last one, or unhooked.
* `Seg.moveToBack` — unhooking a node and hooking it up behind the last one.
-/

namespace DLinks

variable {ι β : Type*} (ptr : ι → β)

/-- What the link into the front of `l` is, if `q` follows `l`. -/
def front (l : List ι) (q : β) : β := (l.head?.map ptr).getD q

/-- What the link back into the end of `l` is, if `p` comes before `l`. -/
def back (p : β) (l : List ι) : β := (l.getLast?.map ptr).getD p

/-- `l` is linked in order, behind `p` and before `q`. -/
def Seg (nxt prv : ι → β) : β → List ι → β → Prop
  | _, [], _ => True
  | p, a :: l, q => prv a = p ∧ nxt a = front ptr l q ∧ Seg nxt prv (ptr a) l q

variable {ptr} {nxt prv nxt' prv' : ι → β} {p p' q q' : β}

@[simp] theorem front_nil (q : β) : front ptr [] q = q := rfl

@[simp] theorem front_cons (a : ι) (l : List ι) (q : β) : front ptr (a :: l) q = ptr a := rfl

@[simp] theorem back_nil (p : β) : back ptr p [] = p := rfl

@[simp] theorem back_concat (p : β) (l : List ι) (a : ι) : back ptr p (l ++ [a]) = ptr a := by
  simp [back]

theorem front_append (l m : List ι) (q : β) :
    front ptr (l ++ m) q = front ptr l (front ptr m q) := by
  cases l <;> rfl

theorem back_cons (p : β) (a : ι) (l : List ι) : back ptr p (a :: l) = back ptr (ptr a) l := by
  cases l with
  | nil => rfl
  | cons b l => simp [back, List.getLast?_cons]

@[simp] theorem seg_nil : Seg ptr nxt prv p [] q := trivial

@[simp] theorem seg_cons {a : ι} {l : List ι} : Seg ptr nxt prv p (a :: l) q ↔
    prv a = p ∧ nxt a = front ptr l q ∧ Seg ptr nxt prv (ptr a) l q := Iff.rfl

/-- **A segment splits wherever its list does.** -/
theorem seg_append {l m : List ι} : Seg ptr nxt prv p (l ++ m) q ↔
    Seg ptr nxt prv p l (front ptr m q) ∧ Seg ptr nxt prv (back ptr p l) m q := by
  induction l generalizing p with
  | nil => simp
  | cons a l ih =>
    rw [List.cons_append, seg_cons, seg_cons, ih, front_append, back_cons]
    tauto

/-- **Links changed at the ends of a segment.** -/
theorem Seg.relink {l : List ι} (h : Seg ptr nxt prv p l q)
    (hhead : ∀ a ∈ l.head?, prv' a = p') (htail : ∀ a ∈ l.tail, prv' a = prv a)
    (hinit : ∀ a ∈ l.dropLast, nxt' a = nxt a) (hlast : ∀ a ∈ l.getLast?, nxt' a = q') :
    Seg ptr nxt' prv' p' l q' := by
  induction l generalizing p p' with
  | nil => trivial
  | cons a l ih =>
    obtain ⟨-, hnxt, hseg⟩ := h
    refine ⟨hhead a rfl, ?_, ?_⟩
    · cases l with
      | nil => exact hlast a rfl
      | cons b l => exact (hinit a (by simp)).trans hnxt
    · cases l with
      | nil => trivial
      | cons b l =>
        apply ih hseg
        · intro c hc
          obtain rfl : b = c := by simpa using hc
          exact (htail b (by simp)).trans hseg.1
        · exact fun c hc => htail c (List.mem_cons_of_mem _ hc)
        · exact fun c hc => hinit c (by
            rw [List.dropLast_cons_of_ne_nil (by simp)]
            exact List.mem_cons_of_mem _ hc)
        · exact fun c hc => hlast c (by rwa [List.getLast?_cons_cons])

/-- The links of a segment are those of its nodes. -/
theorem Seg.congr {l : List ι} (h : Seg ptr nxt prv p l q)
    (hsame : ∀ a ∈ l, nxt' a = nxt a ∧ prv' a = prv a) : Seg ptr nxt' prv' p l q := by
  induction l generalizing p with
  | nil => trivial
  | cons a l ih =>
    obtain ⟨hprv, hnxt, hseg⟩ := h
    obtain ⟨hn, hp⟩ := hsame a List.mem_cons_self
    exact ⟨hp.trans hprv, hn.trans hnxt, ih hseg fun b hb => hsame b (List.mem_cons_of_mem _ hb)⟩

theorem notMem_head?_of_mem_tail {l : List ι} {a : ι} (h : l.Nodup) (ha : a ∈ l.tail) :
    a ∉ l.head? := by
  intro hs
  cases l with
  | nil => cases hs
  | cons b l =>
    obtain rfl : b = a := by simpa using hs
    exact (List.nodup_cons.1 h).1 ha

theorem notMem_getLast?_of_mem_dropLast {l : List ι} {a : ι} (h : l.Nodup)
    (ha : a ∈ l.dropLast) : a ∉ l.getLast? := by
  intro hlst
  obtain ⟨l, rfl⟩ := List.getLast?_eq_some_iff.1 hlst
  rw [List.dropLast_concat] at ha
  exact (List.nodup_append.1 h).2.2 a ha a List.mem_cons_self rfl

theorem Seg.prv_head {l : List ι} (h : Seg ptr nxt prv p l q) {a : ι} (ha : a ∈ l.head?) :
    prv a = p := by
  cases l with
  | nil => cases ha
  | cons b l =>
    obtain rfl : b = a := by simpa using ha
    exact h.1

/-- **A node behind the last one.** -/
theorem Seg.snoc {l : List ι} {x : ι} (h : Seg ptr nxt prv p l q) (hnodup : l.Nodup)
    (hnxt : ∀ a ∈ l, a ∉ l.getLast? → nxt' a = nxt a) (hprv : ∀ a ∈ l, prv' a = prv a)
    (hlast : ∀ a ∈ l.getLast?, nxt' a = ptr x) (hx : nxt' x = q') (hx' : prv' x = back ptr p l) :
    Seg ptr nxt' prv' p (l ++ [x]) q' := by
  refine seg_append.2 ⟨?_, hx', hx, trivial⟩
  apply h.relink
  · intro a ha
    rw [hprv a (List.mem_of_mem_head? ha)]
    exact h.prv_head ha
  · exact fun a ha => hprv a (List.mem_of_mem_tail ha)
  · intro a ha
    exact hnxt a (List.dropLast_subset _ ha) (notMem_getLast?_of_mem_dropLast hnodup ha)
  · exact hlast

/-- **A node unhooked.** The node before it and the node behind it are joined. -/
theorem Seg.remove {pre suf : List ι} {x : ι} (h : Seg ptr nxt prv p (pre ++ x :: suf) q)
    (hnodup : (pre ++ suf).Nodup) (hnxt : ∀ a ∈ pre ++ suf, a ∉ pre.getLast? → nxt' a = nxt a)
    (hprv : ∀ a ∈ pre ++ suf, a ∉ suf.head? → prv' a = prv a)
    (hjoin : ∀ a ∈ pre.getLast?, nxt' a = nxt x) (hjoin' : ∀ b ∈ suf.head?, prv' b = prv x) :
    Seg ptr nxt' prv' p (pre ++ suf) q := by
  rw [List.nodup_append] at hnodup
  obtain ⟨hpre, hsuf, hdisj⟩ := hnodup
  rw [seg_append, seg_cons] at h
  obtain ⟨hl, hxprv, hxnxt, hr⟩ := h
  rw [seg_append]
  constructor
  · apply hl.relink
    · intro a ha
      have hin := List.mem_of_mem_head? ha
      rw [hprv a (List.mem_append_left _ hin) fun hs => hdisj a hin a (List.mem_of_mem_head? hs) rfl]
      exact hl.prv_head ha
    · intro a ha
      have hin := List.mem_of_mem_tail ha
      exact hprv a (List.mem_append_left _ hin) fun hs => hdisj a hin a (List.mem_of_mem_head? hs) rfl
    · intro a ha
      exact hnxt a (List.mem_append_left _ (List.dropLast_subset _ ha))
        (notMem_getLast?_of_mem_dropLast hpre ha)
    · exact fun a ha => (hjoin a ha).trans hxnxt
  · apply hr.relink
    · exact fun b hb => (hjoin' b hb).trans hxprv
    · intro a ha
      exact hprv a (List.mem_append_right _ (List.mem_of_mem_tail ha))
        (notMem_head?_of_mem_tail hsuf ha)
    · intro a ha
      have hin := List.dropLast_subset _ ha
      exact hnxt a (List.mem_append_right _ hin) fun hs => hdisj a (List.mem_of_getLast? hs) a hin rfl
    · intro a ha
      have hin := List.mem_of_getLast? ha
      rw [hnxt a (List.mem_append_right _ hin) fun hs => hdisj a (List.mem_of_getLast? hs) a hin rfl]
      obtain ⟨l, rfl⟩ := List.getLast?_eq_some_iff.1 ha
      exact (seg_append.1 hr).2.2.1

open Classical in
/-- **A node moved to the back**: it is unhooked and hooked up behind the last one. -/
theorem Seg.moveToBack {pre suf : List ι} {x : ι} (h : Seg ptr nxt prv p (pre ++ x :: suf) q)
    (hsuf : suf ≠ []) (hnodup : (pre ++ x :: suf).Nodup)
    (hnxt : ∀ a, a ≠ x → a ∉ pre.getLast? → a ∉ suf.getLast? → nxt' a = nxt a)
    (hprv : ∀ a, a ≠ x → a ∉ suf.head? → prv' a = prv a)
    (hjoin : ∀ a ∈ pre.getLast?, nxt' a = nxt x) (hjoin' : ∀ b ∈ suf.head?, prv' b = prv x)
    (hlast : ∀ t ∈ suf.getLast?, nxt' t = ptr x) (hx : nxt' x = q)
    (hx' : prv' x = back ptr p suf) :
    Seg ptr nxt' prv' p (pre ++ suf ++ [x]) q := by
  obtain ⟨hxmem, hnd⟩ := List.nodup_middle.1 hnodup |> List.nodup_cons.1
  have hne : ∀ a ∈ pre ++ suf, a ≠ x := fun a ha heq => hxmem (heq ▸ ha)
  have hback : (pre ++ suf).getLast? = suf.getLast? := List.getLast?_append_of_ne_nil _ hsuf
  -- in between, the last node still points where it did
  have hseg : Seg ptr (fun a => if a ∈ suf.getLast? then nxt a else nxt' a) prv' p (pre ++ suf) q := by
    refine h.remove hnd (fun a ha hpre => ?_) (fun a ha => hprv a (hne a ha)) (fun a ha => ?_) hjoin'
    · by_cases hs : a ∈ suf.getLast?
      · exact if_pos hs
      · exact (if_neg hs).trans (hnxt a (hne a ha) hpre hs)
    · have hs : a ∉ suf.getLast? := fun hs => (List.nodup_append.1 hnd).2.2 a
        (List.mem_of_getLast? ha) a (List.mem_of_getLast? hs) rfl
      exact (if_neg hs).trans (hjoin a ha)
  refine hseg.snoc hnd (fun a _ hs => ?_) (fun _ _ => rfl) (hback ▸ hlast) hx ?_
  · exact (if_neg (hback ▸ hs)).symm
  · rw [hx', back, back, hback]

attribute [irreducible] Seg

end DLinks
