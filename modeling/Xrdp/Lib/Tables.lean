import Mathlib.Data.List.Nodup

/-!
# Lists of records with a key

* `Keyed` — no two records of a list have the same key.
* `find_iff`, `mem_put`, `find_put`, `mem_remove` — what is found in a list, and what is in it after it has
  been changed and shortened by key.
-/

namespace Tables

variable {α κ : Type} [DecidableEq κ] {key : α → κ} {l : List α}

/-- No two records have the same key. -/
def Keyed (key : α → κ) (l : List α) : Prop := (l.map key).Nodup

/-- The record with a key. -/
def find (key : α → κ) (k : κ) (l : List α) : Option α := l.find? fun a => key a = k

/-- A record in place of the one with its key. -/
def put (key : α → κ) (a : α) (l : List α) : List α := l.map fun b => if key b = key a then a else b

/-- The record with a key is taken out. -/
def remove (key : α → κ) (k : κ) (l : List α) : List α := l.eraseP fun a => key a = k

omit [DecidableEq κ] in
theorem keyed_nil : Keyed key [] := List.nodup_nil

omit [DecidableEq κ] in
theorem Keyed.unique (h : Keyed key l) {a b : α} (ha : a ∈ l) (hb : b ∈ l) (hkey : key a = key b) :
    a = b := List.inj_on_of_nodup_map h ha hb hkey

theorem Keyed.put (h : Keyed key l) (a : α) : Keyed key (put key a l) := by
  have hkeys : (Tables.put key a l).map key = l.map key := by
    rw [Tables.put, List.map_map]
    apply List.map_congr_left
    intro b _
    show key (if key b = key a then a else b) = key b
    split
    · exact Eq.symm ‹_›
    · rfl
  rwa [Keyed, hkeys]

theorem Keyed.remove (h : Keyed key l) (k : κ) : Keyed key (remove key k l) :=
  List.Nodup.sublist (List.eraseP_sublist.map key) h

omit [DecidableEq κ] in
theorem Keyed.append_one (h : Keyed key l) {a : α} (hfresh : ∀ b ∈ l, key b ≠ key a) :
    Keyed key (l ++ [a]) := by
  rw [Keyed, List.map_append, List.map_singleton]
  apply List.Nodup.append h (List.nodup_singleton _)
  rw [List.disjoint_singleton]
  intro hmem
  obtain ⟨b, hb, hkey⟩ := List.mem_map.1 hmem
  exact hfresh b hb hkey

theorem mem_of_find {k : κ} {a : α} (h : find key k l = some a) : a ∈ l ∧ key a = k := by
  have hkey := List.find?_some h
  exact ⟨List.mem_of_find?_eq_some h, of_decide_eq_true hkey⟩

theorem find_iff (h : Keyed key l) {k : κ} {a : α} : find key k l = some a ↔ a ∈ l ∧ key a = k := by
  constructor
  · exact mem_of_find
  · rintro ⟨ha, rfl⟩
    cases hfind : find key (key a) l with
    | none => exact absurd (decide_eq_true rfl) (List.find?_eq_none.1 hfind a ha)
    | some b =>
      obtain ⟨hb, hkey⟩ := mem_of_find hfind
      rw [h.unique hb ha hkey]

theorem find_eq_none {k : κ} : find key k l = none ↔ ∀ a ∈ l, key a ≠ k := by
  simp [find]

theorem mem_put {a b : α} :
    b ∈ put key a l ↔ (b = a ∧ ∃ c ∈ l, key c = key a) ∨ (b ∈ l ∧ key b ≠ key a) := by
  rw [put, List.mem_map]
  constructor
  · rintro ⟨c, hc, rfl⟩
    by_cases hkey : key c = key a
    · exact .inl ⟨if_pos hkey, c, hc, hkey⟩
    · rw [if_neg hkey]
      exact .inr ⟨hc, hkey⟩
  · rintro (⟨rfl, c, hc, hkey⟩ | ⟨hb, hkey⟩)
    · exact ⟨c, hc, if_pos hkey⟩
    · exact ⟨b, hb, if_neg hkey⟩

theorem find_put (k : κ) (a : α) (l : List α) :
    find key k (put key a l) = (find key k l).map fun b => if key b = key a then a else b := by
  rw [find, put, List.find?_map]
  congr 2
  funext b
  show decide (key (if key b = key a then a else b) = k) = decide (key b = k)
  split
  case isTrue heq => rw [heq]
  case isFalse => rfl

theorem mem_remove (h : Keyed key l) {k : κ} {a : α} :
    a ∈ remove key k l ↔ a ∈ l ∧ key a ≠ k := by
  induction l with
  | nil => exact iff_of_false List.not_mem_nil fun hmem => List.not_mem_nil hmem.1
  | cons b l ih =>
    obtain ⟨hb, hl⟩ := List.nodup_cons.1 h
    rw [remove, List.eraseP_cons]
    by_cases hkey : key b = k
    · -- the others have other keys
      have hothers : ∀ a ∈ l, key a ≠ k := fun a ha heq => hb (hkey ▸ heq ▸ List.mem_map_of_mem ha)
      rw [decide_eq_true hkey, cond_true, List.mem_cons]
      constructor
      · exact fun ha => ⟨.inr ha, hothers a ha⟩
      · rintro ⟨rfl | ha, hne⟩
        · exact absurd hkey hne
        · exact ha
    · rw [decide_eq_false hkey, cond_false, List.mem_cons, ← remove, ih hl, List.mem_cons]
      constructor
      · rintro (rfl | ⟨ha, hne⟩)
        · exact ⟨.inl rfl, hkey⟩
        · exact ⟨.inr ha, hne⟩
      · rintro ⟨rfl | ha, hne⟩
        · exact .inl rfl
        · exact .inr ⟨ha, hne⟩

end Tables
