import Mathlib

/-!
# Texts in arrays of characters

A text in an array goes on up to the first zero, which has to be there.

* `text`, `Terminated` — what is before the zero, and that there is one.
* `Text` — characters without a zero; `Chars` — arrays; `Chars.put` — some are overwritten.
* `tokens` — what separators leave of a text, one after another.
-/

namespace CharArrays

/-! ## Texts -/

/-- What is before the first zero. -/
def text (bs : List UInt8) : List UInt8 := bs.takeWhile (· ≠ 0)

/-- There is a zero. -/
def Terminated (bs : List UInt8) : Prop := 0 ∈ bs

instance (bs : List UInt8) : Decidable (Terminated bs) := inferInstanceAs (Decidable (0 ∈ bs))

theorem zero_notMem_text (bs : List UInt8) : 0 ∉ text bs := by
  intro hmem
  have hne := List.mem_takeWhile_imp hmem
  simp at hne

theorem text_length_le (bs : List UInt8) : (text bs).length ≤ bs.length :=
  (List.takeWhile_prefix _).length_le

/-- A text is what it has been written as. -/
theorem text_append_zero {s : List UInt8} (hs : 0 ∉ s) (rest : List UInt8) :
    text (s ++ 0 :: rest) = s := by
  have hall : ∀ c ∈ s, decide (c ≠ 0) = true := by
    intro c hc
    rw [decide_eq_true_eq]
    rintro rfl
    exact hs hc
  show List.takeWhile _ _ = s
  rw [List.takeWhile_append_of_pos hall]
  simp

theorem terminated_append_zero (s rest : List UInt8) : Terminated (s ++ 0 :: rest) := by
  simp [Terminated]

/-- Zeros behind a text change nothing. -/
theorem text_append_replicate (bs : List UInt8) (n : Nat) :
    text (bs ++ List.replicate n 0) = text bs := by
  induction bs with
  | nil =>
    cases n with
    | zero => rfl
    | succ n => simp [text, List.replicate_succ]
  | cons b bs ih =>
    show List.takeWhile _ (b :: (bs ++ List.replicate n 0)) = List.takeWhile _ (b :: bs)
    rw [List.takeWhile_cons, List.takeWhile_cons]
    split
    · exact congrArg (b :: ·) ih
    · rfl

/-- The zero takes a place too. -/
theorem text_length_lt {bs : List UInt8} (h : Terminated bs) : (text bs).length < bs.length := by
  refine lt_of_le_of_ne (text_length_le bs) fun heq => ?_
  have hall : text bs = bs := (List.takeWhile_prefix _).eq_of_length heq
  exact zero_notMem_text bs (by rw [hall]; exact h)

/-- Characters without a zero. -/
structure Text where
  bytes : List UInt8
  noZero : 0 ∉ bytes

theorem Text.bytes_inj {s t : Text} : s.bytes = t.bytes ↔ s = t := by
  constructor
  · intro h
    cases s
    cases t
    cases h
    rfl
  · exact congrArg _

instance : DecidableEq Text := fun _ _ => decidable_of_iff _ Text.bytes_inj

/-! ## Arrays -/

/-- An array of characters. -/
abbrev Chars (n : Nat) := List.Vector UInt8 n

namespace Chars

variable {n : Nat}

/-- All are zero. -/
def zero (n : Nat) : Chars n := .replicate n 0

/-- The first characters are overwritten. -/
def put (a : Chars n) (s : List UInt8) (h : s.length ≤ n) : Chars n :=
  ⟨s ++ a.toList.drop s.length, by simp; omega⟩

theorem toList_put (a : Chars n) {s : List UInt8} (h : s.length ≤ n) :
    (a.put s h).toList = s ++ a.toList.drop s.length := rfl

/-- The text in the array. -/
def text (a : Chars n) : List UInt8 := CharArrays.text a.toList

def Terminated (a : Chars n) : Prop := CharArrays.Terminated a.toList

instance (a : Chars n) : Decidable a.Terminated :=
  inferInstanceAs (Decidable (CharArrays.Terminated a.toList))

/-- A text and its zero are overwritten with. -/
theorem text_put (a : Chars n) {s : List UInt8} (hs : 0 ∉ s) (h : (s ++ [0]).length ≤ n) :
    (a.put (s ++ [0]) h).text = s ∧ (a.put (s ++ [0]) h).Terminated := by
  unfold text Terminated
  rw [toList_put, List.append_assoc]
  exact ⟨text_append_zero hs _, terminated_append_zero s _⟩

/-- A text is put into an array of zeros. -/
theorem text_put_zero {s : List UInt8} (hs : 0 ∉ s) (h : s.length < n) :
    ((zero n).put s h.le).text = s ∧ ((zero n).put s h.le).Terminated := by
  have hrest : ((zero n).put s h.le).toList = s ++ 0 :: List.replicate (n - s.length - 1) 0 := by
    rw [toList_put, zero, List.Vector.replicate]
    show s ++ (List.replicate n 0).drop s.length = _
    rw [List.drop_replicate, ← List.replicate_succ]
    congr 2
    omega
  unfold text Terminated
  rw [hrest]
  exact ⟨text_append_zero hs _, terminated_append_zero s _⟩

/-- There is no place for the zero of a text that fills the array. -/
theorem not_terminated_put {s : List UInt8} (hs : 0 ∉ s) (a : Chars n) (h : s.length = n) :
    ¬ (a.put s h.le).Terminated := by
  unfold Terminated
  rw [toList_put, List.drop_eq_nil_of_le (by simp [h]), List.append_nil]
  exact hs

end Chars

/-! ## Tokens -/

variable {α : Type*}

/-- A token, and what comes after the separator that ends it. -/
def nextToken (sep : α → Bool) (s : List α) : Option (List α × List α) :=
  match s.dropWhile sep with
  | [] => none
  | c :: cs => some ((c :: cs).takeWhile (!sep ·), ((c :: cs).dropWhile (!sep ·)).drop 1)

/-- The parts of a text with a token. -/
theorem nextToken_spec {sep : α → Bool} {s tok rest : List α} (h : nextToken sep s = some (tok, rest)) :
    ∃ seps tail, s = seps ++ (tok ++ tail) ∧ (∀ c ∈ seps, sep c = true) ∧ tok ≠ [] ∧
      (∀ c ∈ tok, sep c = false) ∧
      (tail = [] ∧ rest = [] ∨ ∃ c, sep c = true ∧ tail = c :: rest) := by
  unfold nextToken at h
  split at h
  · cases h
  rename_i c cs hdrop
  cases h
  have hc : sep c = false := by
    have hhead := List.head_dropWhile_not sep (by rw [hdrop]; exact List.cons_ne_nil c cs)
    simpa [hdrop] using hhead
  refine ⟨s.takeWhile sep, (c :: cs).dropWhile (!sep ·), ?_, fun d hd => List.mem_takeWhile_imp hd, ?_,
    ?_, ?_⟩
  · rw [List.takeWhile_append_dropWhile, ← hdrop, List.takeWhile_append_dropWhile]
  · simp [hc]
  · intro d hd
    have hnot := List.mem_takeWhile_imp hd
    simpa using hnot
  · cases htail : (c :: cs).dropWhile (!sep ·) with
    | nil => exact .inl ⟨rfl, rfl⟩
    | cons d ds =>
      have hhead := List.head_dropWhile_not (!sep ·) (by rw [htail]; exact List.cons_ne_nil d ds)
      exact .inr ⟨d, by simpa [htail] using hhead, rfl⟩

theorem nextToken_none {sep : α → Bool} {s : List α} (h : nextToken sep s = none) :
    ∀ c ∈ s, sep c = true := by
  unfold nextToken at h
  split at h
  · rename_i hdrop
    exact List.dropWhile_eq_nil_iff.1 hdrop
  · cases h

theorem nextToken_length {sep : α → Bool} {s tok rest : List α}
    (h : nextToken sep s = some (tok, rest)) : rest.length < s.length := by
  obtain ⟨seps, tail, rfl, -, hne, -, htail⟩ := nextToken_spec h
  have htok := List.length_pos_iff.2 hne
  rw [List.length_append, List.length_append]
  rcases htail with ⟨-, rfl⟩ | ⟨c, -, rfl⟩
  · rw [List.length_nil]
    omega
  · rw [List.length_cons]
    omega

/-- The tokens of a text. -/
def tokens (sep : α → Bool) (s : List α) : List (List α) :=
  match _h : nextToken sep s with
  | none => []
  | some (tok, rest) => tok :: tokens sep rest
termination_by s.length
decreasing_by exact nextToken_length _h

/-- Separators before a text leave nothing. -/
theorem parts_append {sep : α → Bool} {seps : List α} (hseps : ∀ c ∈ seps, sep c = true) (s : List α) :
    ((seps ++ s).splitOnP sep).filter (!·.isEmpty) = (s.splitOnP sep).filter (!·.isEmpty) := by
  induction seps with
  | nil => rfl
  | cons c seps ih =>
    rw [List.cons_append, List.splitOnP_cons_eq_if_modifyHead, if_pos (hseps c List.mem_cons_self)]
    exact ih fun d hd => hseps d (List.mem_cons_of_mem c hd)

/-- The tokens are the parts between separators that are not empty. -/
theorem tokens_eq (sep : α → Bool) (s : List α) :
    tokens sep s = (s.splitOnP sep).filter (!·.isEmpty) := by
  induction hlen : s.length using Nat.strong_induction_on generalizing s with
  | _ n ih =>
    subst hlen
    unfold tokens
    split
    · rename_i hnone
      have hparts := parts_append (nextToken_none hnone) []
      rw [List.append_nil] at hparts
      rw [hparts]
      rfl
    · rename_i tok rest hsome
      rw [ih _ (nextToken_length hsome) rest rfl]
      obtain ⟨seps, tail, rfl, hseps, hne, htok, htail⟩ := nextToken_spec hsome
      have hkept : ∀ l, (tok :: l).filter (!·.isEmpty) = tok :: l.filter (!·.isEmpty) := by
        intro l
        exact List.filter_cons_of_pos (by simpa using hne)
      rw [parts_append hseps]
      rcases htail with ⟨rfl, rfl⟩ | ⟨c, hc, rfl⟩
      · rw [List.append_nil, List.splitOnP_eq_singleton htok, hkept]
        rfl
      · rw [List.splitOnP_append_cons_of_forall_mem htok c hc, hkept]

/-- A token has none but its characters, and is no longer than the text. -/
theorem mem_tokens {sep : α → Bool} {s tok : List α} (h : tok ∈ tokens sep s) : tok <:+: s := by
  induction hlen : s.length using Nat.strong_induction_on generalizing s with
  | _ n ih =>
    subst hlen
    unfold tokens at h
    split at h
    · cases h
    · rename_i t rest hsome
      have hlt := nextToken_length hsome
      obtain ⟨seps, tail, hs, -, -, -, htail⟩ := nextToken_spec hsome
      rcases List.mem_cons.1 h with rfl | hrest
      · exact ⟨seps, tail, by rw [hs, List.append_assoc]⟩
      · have hsuffix : rest <:+ s := by
          rcases htail with ⟨-, rfl⟩ | ⟨c, -, rfl⟩
          · exact List.nil_suffix
          · exact ⟨seps ++ (t ++ [c]), by rw [hs]; simp⟩
        exact (ih _ hlt hrest rfl).trans hsuffix.isInfix

end CharArrays
