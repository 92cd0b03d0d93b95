import Xrdp.Listen.ListenPp

/-!
# Which lists of addresses are read right

* `Entry`, `IsList` — a list of addresses, and how it is written.
* `ListenRight` — the calls end inside the arrays, give what is in the list, and take no part of an address from
  another entry.
* `Fits` — the strings for which they do.
* `take_iff` — one call; `listen_right_iff` — all calls.
-/

namespace Xrdp.Listen

/-! ## What is promised -/

/-- A comma or a blank, which no file name has. -/
def isSeparator (c : UInt8) : Bool := ! isFilename c

/-- A text without separators. -/
def Clean (t : List UInt8) : Prop := ∀ c ∈ t, isSeparator c = false

instance (t : List UInt8) : Decidable (Clean t) := inferInstanceAs (Decidable (∀ c ∈ t, isSeparator c = false))

/-- What has been copied is in the entry in which the form begins. -/
def WithinEntry (str : List UInt8) (a : Answer) : Prop :=
  ∀ s ∈ a.copied, Clean ((str.drop a.start).take (s.1 + s.2))

instance (str : List UInt8) (a : Answer) : Decidable (WithinEntry str a) :=
  inferInstanceAs (Decidable (∀ s ∈ a.copied, Clean ((str.drop a.start).take (s.1 + s.2))))

/-- An address to listen on. -/
inductive Entry where
  | bare (port : List UInt8)
  | unix (path : List UInt8)
  | tcpLocal (port : List UInt8)
  | tcpAny (port : List UInt8)
  | tcp (address port : List UInt8)
  | tcp6Local (port : List UInt8)
  | tcp6Any (port : List UInt8)
  | tcp6 (address port : List UInt8)
  | vsock (cid port : List UInt8)

/-- A number of fewer than 128 digits. -/
def IsNumber (t : List UInt8) : Prop := t ≠ [] ∧ (∀ c ∈ t, isDigit c = true) ∧ t.length < 128

/-- A number that may have a sign. -/
def IsSigned (t : List UInt8) : Prop := IsNumber t ∨ ∃ u, t = 0x2D :: u ∧ IsNumber u ∧ t.length < 128

/-- Digits and dots, the first a digit. -/
def IsIpv4 (t : List UInt8) : Prop :=
  t.head?.any isDigit ∧ (∀ c ∈ t, isDigit c ∨ c = 0x2E) ∧ t.length < 128

/-- What can be between braces. -/
def IsIpv6 (t : List UInt8) : Prop := t ≠ [] ∧ (∀ c ∈ t, isFilename c ∧ c ≠ 0x7D) ∧ t.length < 128

def IsPath (t : List UInt8) : Prop := t ≠ [] ∧ (∀ c ∈ t, isFilename c) ∧ t.length < 128

namespace Entry

def WellFormed : Entry → Prop
  | bare port => IsNumber port
  | unix path => IsPath path
  | tcpLocal port => IsNumber port
  | tcpAny port => IsNumber port
  | tcp address port => IsIpv4 address ∧ IsNumber port
  | tcp6Local port => IsNumber port
  | tcp6Any port => IsNumber port
  | tcp6 address port => IsIpv6 address ∧ IsNumber port
  | vsock cid port => IsSigned cid ∧ IsSigned port

/-- How it is written. -/
def text : Entry → List UInt8
  | bare port => port
  | unix path => chars "unix://." ++ path
  | tcpLocal port => chars "tcp://.:" ++ port
  | tcpAny port => chars "tcp://:" ++ port
  | tcp address port => chars "tcp://" ++ (address ++ 0x3A :: port)
  | tcp6Local port => chars "tcp6://.:" ++ port
  | tcp6Any port => chars "tcp6://:" ++ port
  | tcp6 address port => chars "tcp6://" ++ 0x7B :: (address ++ 0x7D :: 0x3A :: port)
  | vsock cid port => chars "vsock://" ++ (cid ++ 0x3A :: port)

/-- Its mode, address and port. -/
def listensOn (useVsock : Bool) : Entry → Mode × List UInt8 × List UInt8
  | bare port => (if useVsock then .vsock else .tcp, chars "0.0.0.0", port)
  | unix path => (.unix, [], path)
  | tcpLocal port => (.tcp4, chars "127.0.0.1", port)
  | tcpAny port => (.tcp4, chars "0.0.0.0", port)
  | tcp address port => (.tcp4, address, port)
  | tcp6Local port => (.tcp6, chars "::1", port)
  | tcp6Any port => (.tcp6, chars "::", port)
  | tcp6 address port => (.tcp6, address, port)
  | vsock cid port => (.vsock, cid, port)

end Entry

def Answer.listensOn (a : Answer) : Mode × List UInt8 × List UInt8 := (a.mode, a.address, a.port)

/-- The string is a list of these entries: separators are before each, between two of them and behind the last. -/
inductive IsList : List Entry → List UInt8 → Prop
  | nil {gap : List UInt8} : (∀ c ∈ gap, isSeparator c = true) → IsList [] gap
  | cons {gap rest : List UInt8} {e : Entry} {es : List Entry} : (∀ c ∈ gap, isSeparator c = true) →
      e.WellFormed → (∀ c ∈ rest.head?, isSeparator c = true) → IsList es rest →
        IsList (e :: es) (gap ++ (e.text ++ rest))

/-- **What is promised**: the calls end, and nothing is written behind an array; what a call gives is from one
entry; and if the string is a list, it is what the entries say, and nothing else. -/
def ListenRight (useVsock : Bool) (str : List UInt8) : Prop :=
  ∃ answers, listenCalls useVsock str (str.length + 1) 0 = .ok answers ∧
    (∀ a ∈ answers, WithinEntry str a) ∧
    ∀ es, IsList es str → answers.map Answer.listensOn = es.map (Entry.listensOn useVsock)

/-! ## The condition -/

/-- What a form has behind its prefix. -/
def Form.scanners (f : Form) : List Scanner :=
  match f.address with
  | .inl _ => [f.port]
  | .inr scanner => [scanner, f.port]

/-- Every field that there is has fewer than 128 characters, and is found before the next separator. -/
def FieldsFit : List Scanner → List UInt8 → Prop
  | [], _ => True
  | k :: ks, t =>
    match k.field t with
    | none => True
    | some F => Clean (F.before ++ F.text) ∧ F.text.length < 128 ∧ FieldsFit ks F.behind

/-- What is behind the fields. -/
def behindFields : List Scanner → List UInt8 → List UInt8
  | [], t => t
  | k :: ks, t =>
    match k.field t with
    | none => []
    | some F => behindFields ks F.behind

/-- The condition: from the first form on, the fields of every form that is not within another one fit. -/
inductive Fits (useVsock : Bool) : List UInt8 → Prop
  | nil : Fits useVsock []
  | skip {c : UInt8} {str : List UInt8} : formAt useVsock (c :: str) = none → Fits useVsock str →
      Fits useVsock (c :: str)
  | form {str : List UInt8} {f : Form} : formAt useVsock str = some f →
      FieldsFit f.scanners (str.drop f.pre.length) →
      Fits useVsock (behindFields f.scanners (str.drop f.pre.length)) → Fits useVsock str

/-! ## Forms -/

variable {useVsock : Bool} {str t : List UInt8} {f : Form} {k : Scanner} {F : Field}

/-- A form begins with its prefix, in which there is no separator. -/
theorem formAt_prefix (h : formAt useVsock str = some f) : f.pre <+: str ∧ Clean f.pre := by
  have hall : (forms.all fun f => f.pre.all fun c => ! isSeparator c) = true := by rfl
  have hclean : ∀ f ∈ forms, Clean f.pre := by simpa [Clean] using hall
  unfold formAt at h
  split at h
  · next g hfind =>
    cases h
    have hprefix := List.find?_some hfind
    exact ⟨List.isPrefixOf_iff_prefix.1 hprefix, hclean _ (List.mem_of_find?_eq_some hfind)⟩
  · split_ifs at h
    cases h
    exact ⟨List.nil_prefix, fun _ hc => nomatch hc⟩

theorem isDigit_separator {c : UInt8} (hc : isSeparator c = true) : isDigit c = false := by
  by_contra hdigit
  unfold isSeparator isFilename at hc
  unfold isDigit at hdigit
  simp [Int8.lt_iff_toInt_lt] at hc hdigit
  have hrange : 48 ≤ c.toNat ∧ c.toNat ≤ 57 := hdigit
  have hvalue : c.toInt8.toInt = c.toNat := BitVec.toInt_eq_toNat_of_lt (by show 2 * c.toNat < 2 ^ 8; omega)
  rcases hc with hlow | rfl
  · omega
  · exact absurd hrange (by decide)

theorem forms_pre_ne_nil {f : Form} (hf : f ∈ forms) : f.pre ≠ [] := by
  have hall : (forms.all fun f => ! f.pre.isEmpty) = true := by rfl
  simpa using List.all_eq_true.1 hall f hf

theorem field_nil (k : Scanner) : k.field [] = none := by cases k <;> rfl

theorem field_length (h : k.field t = some F) : F.behind.length ≤ t.length := by
  rw [field_eq h, List.length_append, List.length_append]
  omega

theorem behindFields_length (ks : List Scanner) (t : List UInt8) : (behindFields ks t).length ≤ t.length := by
  induction ks generalizing t with
  | nil => exact Nat.le_refl _
  | cons k ks ih =>
    rw [behindFields]
    cases hfield : k.field t with
    | none => exact Nat.zero_le _
    | some F => exact (ih F.behind).trans (field_length hfield)

/-- A form takes something off the string. -/
theorem behindFields_lt (h : formAt useVsock str = some f) :
    (behindFields f.scanners (str.drop f.pre.length)).length < str.length := by
  have hle := behindFields_length f.scanners (str.drop f.pre.length)
  unfold formAt at h
  split at h
  · next g hfind =>
    cases h
    have hpre := List.length_pos_of_ne_nil (forms_pre_ne_nil (List.mem_of_find?_eq_some hfind))
    have hprefix := List.find?_some hfind
    have hlength := (List.isPrefixOf_iff_prefix.1 hprefix).length_le
    rw [List.length_drop] at hle
    omega
  · split_ifs at h with hdigit
    cases h
    -- the digit is the first of the number
    cases str with
    | nil => cases hdigit
    | cons c str =>
      have hc : isDigit c = true := by simpa using hdigit
      have hfield : Scanner.integer.field (c :: str) = some ⟨[], c :: str.takeWhile isDigit, str.dropWhile isDigit⟩ := by
        simp [Scanner.field, fieldOf, hc]
      show (behindFields [.integer] (c :: str)).length < _
      rw [behindFields, hfield]
      exact Nat.lt_succ_of_le (List.length_dropWhile_le ..)

/-! ## One call -/

/-- What a scanner has copied is in the entry just if there is no separator up to its end. -/
theorem place_iff {pre : List UInt8} (hpre : Clean pre) (hfield : k.field t = some F) (count : Nat) :
    (∀ s ∈ Scanned.place pre.length ⟨F.text, count, some F.before.length⟩, Clean ((pre ++ t).take (s.1 + s.2))) ↔
      Clean (F.before ++ F.text) := by
  have htake : (pre ++ t).take (pre.length + F.before.length + F.text.length) = pre ++ (F.before ++ F.text) := by
    have hsplit : pre ++ t = (pre ++ (F.before ++ F.text)) ++ F.behind := by
      rw [field_eq hfield, List.append_assoc, List.append_assoc]
    have hlength : (pre ++ (F.before ++ F.text)).length = pre.length + F.before.length + F.text.length := by
      rw [List.length_append, List.length_append, Nat.add_assoc]
    rw [hsplit, ← hlength, List.take_left]
  simp only [Scanned.place, Option.toList_some, List.map_cons, List.map_nil, List.mem_singleton, forall_eq, htake]
  constructor
  · exact fun h c hc => h c (List.mem_append_right _ hc)
  · rintro h c hc
    rcases List.mem_append.1 hc with hc | hc
    · exact hpre c hc
    · exact h c hc

/-- A form with one field. -/
theorem take_one (str : List UInt8) {address : List UInt8} (haddress : f.address = .inl address) (lindex : Nat) :
    f.take str lindex = match f.port.field (str.drop f.pre.length) with
      | none => .ok ⟨f.mode, address, [], lindex + f.pre.length + (str.drop f.pre.length).length, lindex, []⟩
      | some F =>
        if F.text.length < 128 then
          .ok ⟨f.mode, address, F.text, lindex + f.pre.length + (F.before.length + F.text.length), lindex,
            Scanned.place f.pre.length ⟨F.text, F.before.length + F.text.length, some F.before.length⟩⟩
        else .error .outOfBounds := by
  unfold Form.take
  rw [haddress]
  dsimp only
  cases hfield : f.port.field (str.drop f.pre.length) with
  | none =>
    rw [parse_none 127 hfield]
    rfl
  | some F =>
    rw [parse_some 127 hfield]
    dsimp only
    split <;> rfl

/-- The second field of a form with two. -/
theorem take_two (str : List UInt8) {scanner : Scanner} (haddress : f.address = .inr scanner)
    (hfield : scanner.field (str.drop f.pre.length) = some F) (hlt : F.text.length < 128) (lindex : Nat) :
    f.take str lindex = match f.port.field F.behind with
      | none => .ok ⟨f.mode, F.text, [],
          lindex + f.pre.length + (F.before.length + F.text.length) + F.behind.length, lindex,
          Scanned.place f.pre.length ⟨F.text, F.before.length + F.text.length, some F.before.length⟩⟩
      | some G =>
        if G.text.length < 128 then
          .ok ⟨f.mode, F.text, G.text,
            lindex + f.pre.length + (F.before.length + F.text.length) + (G.before.length + G.text.length), lindex,
            Scanned.place f.pre.length ⟨F.text, F.before.length + F.text.length, some F.before.length⟩ ++
              Scanned.place (f.pre.length + (F.before.length + F.text.length))
                ⟨G.text, G.before.length + G.text.length, some G.before.length⟩⟩
        else .error .outOfBounds := by
  have hbehind : str.drop (f.pre.length + (F.before.length + F.text.length)) = F.behind := by
    rw [← List.drop_drop, field_eq hfield, ← List.append_assoc, List.drop_left' List.length_append]
  unfold Form.take
  rw [haddress]
  dsimp only
  rw [parse_some 127 hfield, if_pos hlt]
  simp only [Run.ok_bind, hbehind]
  cases hport : f.port.field F.behind with
  | none =>
    rw [parse_none 127 hport]
    simp [Scanned.place]
  | some G =>
    rw [parse_some 127 hport]
    dsimp only
    split <;> rfl

/-- There is no first field, and hence no second one. -/
theorem take_none (str : List UInt8) {scanner : Scanner} (haddress : f.address = .inr scanner)
    (hfield : scanner.field (str.drop f.pre.length) = none) (lindex : Nat) :
    f.take str lindex =
      .ok ⟨f.mode, [], [], lindex + f.pre.length + (str.drop f.pre.length).length, lindex, []⟩ := by
  have hbehind : str.drop (f.pre.length + (str.drop f.pre.length).length) = [] := by
    rw [← List.drop_drop, List.drop_length]
  unfold Form.take
  rw [haddress]
  dsimp only
  rw [parse_none 127 hfield]
  simp only [Run.ok_bind, hbehind]
  rw [parse_none 127 (field_nil f.port)]
  simp [Scanned.place]

/-- **A call is all right just if the fields fit**, and then it ends behind them. -/
theorem take_iff (hpre : f.pre <+: str) (hclean : Clean f.pre) (lindex : Nat) :
    ((∃ a, f.take str lindex = .ok a ∧ ∀ s ∈ a.copied, Clean (str.take (s.1 + s.2))) ↔
      FieldsFit f.scanners (str.drop f.pre.length)) ∧
    ∀ a, f.take str lindex = .ok a → a.start = lindex ∧ ∃ n, a.index = lindex + n ∧
      str.drop n = behindFields f.scanners (str.drop f.pre.length) := by
  obtain ⟨t, rfl⟩ := hpre
  have hdrop : (f.pre ++ t).drop f.pre.length = t := List.drop_left
  have hend : ∀ n, (f.pre ++ t).drop (f.pre.length + n) = t.drop n := fun n => by
    rw [← List.drop_drop, hdrop]
  cases haddress : f.address with
  | inl address =>
    have htake := take_one (f.pre ++ t) haddress lindex
    have hscanners : f.scanners = [f.port] := by
      unfold Form.scanners
      rw [haddress]
    rw [hdrop] at htake ⊢
    rw [hscanners, FieldsFit, behindFields]
    cases hfield : f.port.field t with
    | none =>
      rw [hfield] at htake
      refine ⟨iff_of_true ⟨_, htake, fun _ hs => nomatch hs⟩ trivial, fun a ha => ?_⟩
      cases htake.symm.trans ha
      exact ⟨rfl, f.pre.length + t.length, Nat.add_assoc .., by rw [hend, List.drop_length]⟩
    | some F =>
      rw [hfield] at htake
      dsimp only at htake ⊢
      have hplace := place_iff hclean hfield (F.before.length + F.text.length)
      split_ifs at htake with hlt
      · rw [htake]
        constructor
        · simp only [Except.ok.injEq, exists_eq_left', hplace, FieldsFit, hlt, and_true]
        · rintro a ha
          cases ha
          refine ⟨rfl, f.pre.length + (F.before.length + F.text.length), Nat.add_assoc .., ?_⟩
          rw [hend, field_eq hfield, ← List.append_assoc, List.drop_left' List.length_append]
          rfl
      · rw [htake]
        refine ⟨iff_of_false ?_ fun h => hlt h.2.1, fun a ha => nomatch ha⟩
        rintro ⟨a, ha, -⟩
        cases ha
  | inr scanner =>
    have hscanners : f.scanners = [scanner, f.port] := by
      unfold Form.scanners
      rw [haddress]
    have hone := take_none (f.pre ++ t) haddress
    have htwo := fun F => @take_two f F (f.pre ++ t)
    rw [hdrop] at hone ⊢
    simp only [hdrop] at htwo
    rw [hscanners, FieldsFit, behindFields]
    cases hfield : scanner.field t with
    | none =>
      have htake := hone hfield lindex
      refine ⟨iff_of_true ⟨_, htake, fun _ hs => nomatch hs⟩ trivial, fun a ha => ?_⟩
      cases htake.symm.trans ha
      exact ⟨rfl, f.pre.length + t.length, Nat.add_assoc .., by rw [hend, List.drop_length]⟩
    | some F =>
      dsimp only
      by_cases hlt : F.text.length < 128
      · have htake := htwo F haddress hfield hlt lindex
        have hplace := place_iff hclean hfield (F.before.length + F.text.length)
        have hmiddle : f.pre ++ t = (f.pre ++ (F.before ++ F.text)) ++ F.behind := by
          rw [field_eq hfield, List.append_assoc, List.append_assoc]
        have hlength : (f.pre ++ (F.before ++ F.text)).length = f.pre.length + (F.before.length + F.text.length) := by
          rw [List.length_append, List.length_append]
        have hsecond : ∀ n, (f.pre ++ t).drop (f.pre.length + (F.before.length + F.text.length) + n) =
            F.behind.drop n := fun n => by
          rw [← List.drop_drop, hmiddle, ← hlength, List.drop_left]
        rw [FieldsFit, behindFields]
        cases hport : f.port.field F.behind with
        | none =>
          rw [hport] at htake
          rw [htake]
          constructor
          · simp only [Except.ok.injEq, exists_eq_left', hplace, hlt, and_true]
          · rintro a ha
            cases ha
            refine ⟨rfl, f.pre.length + (F.before.length + F.text.length) + F.behind.length, by dsimp only; omega, ?_⟩
            rw [hsecond, List.drop_length]
        | some G =>
          rw [hport] at htake
          dsimp only at htake ⊢
          split_ifs at htake with hlt'
          · rw [htake]
            constructor
            · simp only [Except.ok.injEq, exists_eq_left', List.forall_mem_append, hplace, hlt, hlt', true_and,
                FieldsFit, and_true]
              refine and_congr_right fun hfirst => ?_
              have hclean' : Clean (f.pre ++ (F.before ++ F.text)) := List.forall_mem_append.2 ⟨hclean, hfirst⟩
              have hplace' := place_iff hclean' hport (G.before.length + G.text.length)
              rwa [hlength, ← hmiddle] at hplace'
            · rintro a ha
              cases ha
              refine ⟨rfl, f.pre.length + (F.before.length + F.text.length) + (G.before.length + G.text.length),
                by dsimp only; omega, ?_⟩
              rw [hsecond, field_eq hport, ← List.append_assoc, List.drop_left' List.length_append]
              rfl
          · rw [htake]
            refine ⟨iff_of_false ?_ fun h => hlt' h.2.2.2.1, fun a ha => nomatch ha⟩
            rintro ⟨a, ha, -⟩
            cases ha
      · have htake : f.take (f.pre ++ t) lindex = .error .outOfBounds := by
          unfold Form.take
          rw [haddress]
          dsimp only
          rw [hdrop, parse_some 127 hfield, if_neg hlt]
          rfl
        rw [htake]
        refine ⟨iff_of_false ?_ fun h => hlt h.2.1, fun a ha => nomatch ha⟩
        rintro ⟨a, ha, -⟩
        cases ha

/-! ## All calls -/

/-- Where no form begins, a call begins with the next character. -/
theorem listenCalls_skip {c : UInt8} {rest : List UInt8} (hform : formAt useVsock (c :: rest) = none) {index : Nat}
    (hstr : str.drop index = c :: rest) (n : Nat) :
    listenCalls useVsock str n index = listenCalls useVsock str n (index + 1) := by
  have hnext : str.drop (index + 1) = rest := by
    rw [← List.drop_drop, hstr]
    rfl
  cases n with
  | zero => rfl
  | succ n =>
    unfold listenCalls xrdpListenPp
    rw [hnext, hstr, ppLoop, hform]

/-- A form is found. -/
theorem listenCalls_form {c : UInt8} {rest : List UInt8} (hform : formAt useVsock (c :: rest) = some f) {index : Nat}
    (hstr : str.drop index = c :: rest) (n : Nat) :
    listenCalls useVsock str (n + 1) index = (do
      let a ← f.take (c :: rest) index
      let answers ← listenCalls useVsock str n a.index
      return a :: answers) := by
  rw [listenCalls, xrdpListenPp, hstr, ppLoop, hform]
  dsimp only
  cases f.take (c :: rest) index <;> rfl

theorem listenCalls_nil {index : Nat} (hstr : str.drop index = []) (n : Nat) :
    listenCalls useVsock str (n + 1) index = .ok [] := by
  rw [listenCalls, xrdpListenPp, hstr]
  rfl

/-- **The calls for the rest of a string** are all right just if it meets the condition. -/
theorem listenCalls_iff (rest : List UInt8) {index n : Nat} (hstr : str.drop index = rest) (hn : rest.length < n) :
    (∃ answers, listenCalls useVsock str n index = .ok answers ∧ ∀ a ∈ answers, WithinEntry str a) ↔
      Fits useVsock rest := by
  induction hlen : rest.length using Nat.strong_induction_on generalizing rest index n with
  | _ m ih =>
    subst hlen
    obtain ⟨n, rfl⟩ : ∃ k, n = k + 1 := ⟨n - 1, by omega⟩
    cases rest with
    | nil =>
      rw [listenCalls_nil hstr]
      exact iff_of_true ⟨[], rfl, fun _ ha => nomatch ha⟩ .nil
    | cons c rest =>
      cases hform : formAt useVsock (c :: rest) with
      | none =>
        have hnext : str.drop (index + 1) = rest := by
          rw [← List.drop_drop, hstr]
          rfl
        rw [listenCalls_skip hform hstr, ih rest.length (Nat.lt_succ_self _) rest hnext (by simp at hn; omega) rfl]
        constructor
        · exact .skip hform
        · intro h
          cases h with
          | skip _ hrest => exact hrest
          | form hform' => exact absurd (hform.symm.trans hform') (by simp)
      | some f =>
        obtain ⟨hpre, hclean⟩ := formAt_prefix hform
        obtain ⟨hiff, hbehind⟩ := take_iff hpre hclean index
        have hlt := behindFields_lt hform
        have hfits : Fits useVsock (c :: rest) ↔ FieldsFit f.scanners ((c :: rest).drop f.pre.length) ∧
            Fits useVsock (behindFields f.scanners ((c :: rest).drop f.pre.length)) := by
          constructor
          · intro h
            cases h with
            | skip hform' => exact absurd (hform.symm.trans hform') (by simp)
            | form hform' hfields hrest =>
              cases hform.symm.trans hform'
              exact ⟨hfields, hrest⟩
          · exact fun h => .form hform h.1 h.2
        rw [listenCalls_form hform hstr, hfits, ← hiff]
        cases htake : f.take (c :: rest) index with
        | error e =>
          refine iff_of_false ?_ ?_
          · rintro ⟨answers, h, -⟩
            cases h
          · rintro ⟨⟨a, h, -⟩, -⟩
            cases h
        | ok a =>
          obtain ⟨hstart, k, hindex, hrest⟩ := hbehind a htake
          have hdrop : str.drop a.index = behindFields f.scanners ((c :: rest).drop f.pre.length) := by
            rw [hindex, ← List.drop_drop, hstr, hrest]
          have hwithin : WithinEntry str a ↔ ∀ s ∈ a.copied, Clean ((c :: rest).take (s.1 + s.2)) := by
            unfold WithinEntry
            rw [hstart, hstr]
          have hrec := ih _ hlt _ hdrop (n := n) (by omega) rfl
          rw [← hrec, Run.ok_bind]
          simp only [Except.ok.injEq, exists_eq_left', ← hwithin]
          constructor
          · rintro ⟨answers, hanswers, hall⟩
            obtain ⟨more, hmore, heq⟩ := Run.bind_eq_ok.1 hanswers
            cases heq
            obtain ⟨ha, hmore'⟩ := List.forall_mem_cons.1 hall
            exact ⟨ha, more, hmore, hmore'⟩
          · rintro ⟨ha, more, hmore, hmore'⟩
            refine ⟨a :: more, ?_, List.forall_mem_cons.2 ⟨ha, hmore'⟩⟩
            rw [hmore]
            rfl

/-! ## Lists -/

/-- No form begins with a separator. -/
theorem formAt_separator {c : UInt8} (hc : isSeparator c = true) (rest : List UInt8) :
    formAt useVsock (c :: rest) = none := by
  cases hform : formAt useVsock (c :: rest) with
  | none => rfl
  | some f =>
    obtain ⟨hpre, hclean⟩ := formAt_prefix hform
    unfold formAt at hform
    split at hform
    · next g hfind =>
      cases hform
      have hne := forms_pre_ne_nil (List.mem_of_find?_eq_some hfind)
      obtain ⟨d, pre, hd⟩ := List.exists_cons_of_ne_nil hne
      rw [hd] at hpre hclean
      obtain rfl := (List.cons_prefix_cons.1 hpre).1
      exact absurd (hclean d List.mem_cons_self) (by simp [hc])
    · split_ifs at hform with hdigit
      have hdigit : isDigit c = true := by simpa using hdigit
      exact absurd (hdigit.symm.trans (isDigit_separator hc)) (by decide)

theorem fieldOf_mk {begins continues : UInt8 → Bool} {before cs rest : List UInt8} {c : UInt8}
    (hbefore : ∀ x ∈ before, begins x = false) (hc : begins c = true) (hcs : ∀ x ∈ cs, continues x = true)
    (hrest : ∀ x ∈ rest.head?, continues x = false) :
    fieldOf begins continues (before ++ c :: (cs ++ rest)) = some ⟨before, c :: cs, rest⟩ := by
  have hskip : ∀ x ∈ before, (! begins x) = true := fun x hx => by rw [hbefore x hx]; rfl
  have hstop : rest.takeWhile continues = [] ∧ rest.dropWhile continues = rest := by
    cases rest with
    | nil => exact ⟨rfl, rfl⟩
    | cons x rest =>
      have hx : ¬ continues x = true := by simp [hrest x rfl]
      exact ⟨List.takeWhile_cons_of_neg hx, List.dropWhile_cons_of_neg hx⟩
  unfold fieldOf
  rw [List.dropWhile_append_of_pos hskip, List.dropWhile_cons_of_neg (by simp [hc]),
    List.takeWhile_append_of_pos hskip, List.takeWhile_cons_of_neg (by simp [hc]), List.append_nil]
  dsimp only
  rw [List.takeWhile_append_of_pos hcs, List.dropWhile_append_of_pos hcs, hstop.1, hstop.2, List.append_nil]

/-- A number behind other characters. -/
theorem field_number {before port rest : List UInt8} (hbefore : ∀ x ∈ before, isDigit x = false) (hport : IsNumber port)
    (hrest : ∀ x ∈ rest.head?, isDigit x = false) :
    Scanner.integer.field (before ++ (port ++ rest)) = some ⟨before, port, rest⟩ := by
  obtain ⟨hne, hdigits, -⟩ := hport
  obtain ⟨c, cs, rfl⟩ := List.exists_cons_of_ne_nil hne
  obtain ⟨hc, hcs⟩ := List.forall_mem_cons.1 hdigits
  exact fieldOf_mk hbefore hc hcs hrest

theorem field_signed {before cid rest : List UInt8}
    (hbefore : ∀ x ∈ before, (isDigit x || x == 0x2D) = false) (hcid : IsSigned cid)
    (hrest : ∀ x ∈ rest.head?, isDigit x = false) :
    Scanner.vsock.field (before ++ (cid ++ rest)) = some ⟨before, cid, rest⟩ := by
  rcases hcid with ⟨hne, hdigits, -⟩ | ⟨u, rfl, ⟨-, hdigits, -⟩, -⟩
  · obtain ⟨c, cs, rfl⟩ := List.exists_cons_of_ne_nil hne
    obtain ⟨hc, hcs⟩ := List.forall_mem_cons.1 hdigits
    exact fieldOf_mk hbefore (by simp [hc]) hcs hrest
  · exact fieldOf_mk hbefore rfl hdigits hrest

section

attribute [local simp] formAt forms Form.unix Form.tcpLocal Form.tcpAny Form.tcp Form.tcp6Local Form.tcp6Any Form.tcp6
  Form.vsock chars

theorem formAt_bare {c : UInt8} (hc : isDigit c = true) (rest : List UInt8) :
    formAt useVsock (c :: rest) = some (.bare useVsock) := by
  have hletter : c ≠ 0x75 ∧ c ≠ 0x74 ∧ c ≠ 0x76 := by
    refine ⟨?_, ?_, ?_⟩ <;> rintro rfl <;> cases hc
  simp [List.isPrefixOf, hc, hletter.1.symm, hletter.2.1.symm, hletter.2.2.symm]

theorem formAt_unix (t : List UInt8) : formAt useVsock (chars "unix://." ++ t) = some .unix := by simp

theorem formAt_tcpLocal (t : List UInt8) : formAt useVsock (chars "tcp://.:" ++ t) = some .tcpLocal := by simp

theorem formAt_tcpAny (t : List UInt8) : formAt useVsock (chars "tcp://:" ++ t) = some .tcpAny := by simp

theorem formAt_tcp {c : UInt8} (hc : isDigit c = true) (t : List UInt8) :
    formAt useVsock (chars "tcp://" ++ c :: t) = some .tcp := by
  have hsign : c ≠ 0x2E ∧ c ≠ 0x3A := by
    refine ⟨?_, ?_⟩ <;> rintro rfl <;> cases hc
  simp [hsign.1.symm, hsign.2.symm]

theorem formAt_tcp6Local (t : List UInt8) : formAt useVsock (chars "tcp6://.:" ++ t) = some .tcp6Local := by simp

theorem formAt_tcp6Any (t : List UInt8) : formAt useVsock (chars "tcp6://:" ++ t) = some .tcp6Any := by simp

theorem formAt_tcp6 (t : List UInt8) : formAt useVsock (chars "tcp6://" ++ 0x7B :: t) = some .tcp6 := by simp

theorem formAt_vsock (t : List UInt8) : formAt useVsock (chars "vsock://" ++ t) = some .vsock := by simp

end

/-- A form with one field, behind which the rest is. -/
theorem take_form_one {address port rest : List UInt8} (haddress : f.address = .inl address)
    (hfield : f.port.field (port ++ rest) = some ⟨[], port, rest⟩) (hlt : port.length < 128) (lindex : Nat) :
    ∃ a, f.take (f.pre ++ (port ++ rest)) lindex = .ok a ∧ a.listensOn = (f.mode, address, port) ∧
      a.index = lindex + (f.pre ++ port).length := by
  have htake := take_one (f.pre ++ (port ++ rest)) haddress lindex
  rw [List.drop_left, hfield] at htake
  dsimp only at htake
  rw [if_pos hlt] at htake
  refine ⟨_, htake, rfl, ?_⟩
  simp [Nat.add_assoc]

/-- A form with two fields. -/
theorem take_form_two {scanner : Scanner} {G : Field} (haddress : f.address = .inr scanner)
    (hfield : scanner.field t = some F) (hport : f.port.field F.behind = some G) (hlt : F.text.length < 128)
    (hlt' : G.text.length < 128) (lindex : Nat) :
    ∃ a, f.take (f.pre ++ t) lindex = .ok a ∧ a.listensOn = (f.mode, F.text, G.text) ∧
      a.index = lindex + (f.pre ++ (F.before ++ (F.text ++ (G.before ++ G.text)))).length := by
  have htake := take_two (f.pre ++ t) haddress (by rw [List.drop_left]; exact hfield) hlt lindex
  rw [hport] at htake
  dsimp only at htake
  rw [if_pos hlt'] at htake
  refine ⟨_, htake, rfl, ?_⟩
  simp only [List.length_append]
  omega

/-- **An entry is read as it is written.** -/
theorem take_entry (useVsock : Bool) {e : Entry} (he : e.WellFormed) {rest : List UInt8} (hrest : ∀ c ∈ rest.head?, isSeparator c = true)
    (lindex : Nat) : ∃ f a, formAt useVsock (e.text ++ rest) = some f ∧ f.take (e.text ++ rest) lindex = .ok a ∧
      a.listensOn = e.listensOn useVsock ∧ a.index = lindex + e.text.length := by
  have hdigit : ∀ x ∈ rest.head?, isDigit x = false := fun x hx => isDigit_separator (hrest x hx)
  -- forms with a constant address and a number
  have hone : ∀ (g : Form) (address port : List UInt8), g.address = .inl address → g.port = .integer →
      IsNumber port → formAt useVsock (g.pre ++ (port ++ rest)) = some g → ∃ f a,
        formAt useVsock ((g.pre ++ port) ++ rest) = some f ∧ f.take ((g.pre ++ port) ++ rest) lindex = .ok a ∧
          a.listensOn = (g.mode, address, port) ∧ a.index = lindex + (g.pre ++ port).length := by
    intro g address port haddress hscanner hport hform
    have hfield := @field_number [] port rest (by simp) hport hdigit
    rw [← hscanner] at hfield
    obtain ⟨a, ha⟩ := take_form_one haddress hfield hport.2.2 lindex
    rw [List.append_assoc]
    exact ⟨g, a, hform, ha⟩
  cases e with
  | bare port =>
    refine hone (.bare useVsock) (chars "0.0.0.0") port rfl rfl he ?_
    obtain ⟨hne, hdigits, -⟩ := he
    obtain ⟨c, cs, rfl⟩ := List.exists_cons_of_ne_nil hne
    exact formAt_bare (hdigits c List.mem_cons_self) _
  | unix path =>
    obtain ⟨hne, hchars, hlt⟩ := he
    obtain ⟨c, cs, rfl⟩ := List.exists_cons_of_ne_nil hne
    obtain ⟨hc, hcs⟩ := List.forall_mem_cons.1 hchars
    have hfield : Scanner.filename.field (c :: cs ++ rest) = some ⟨[], c :: cs, rest⟩ :=
      @fieldOf_mk isFilename isFilename [] cs rest c (fun _ h => nomatch h) hc hcs
        fun x hx => by simpa [isSeparator] using hrest x hx
    obtain ⟨a, ha⟩ := take_form_one (f := .unix) rfl hfield hlt lindex
    refine ⟨.unix, a, ?_, ?_⟩
    · exact formAt_unix _
    · simp only [Entry.text, List.append_assoc]
      exact ha
  | tcpLocal port =>
    refine hone .tcpLocal _ port rfl rfl he (formAt_tcpLocal _)
  | tcpAny port =>
    refine hone .tcpAny _ port rfl rfl he (formAt_tcpAny _)
  | tcp address port =>
    obtain ⟨⟨hfirst, haddress, hlt⟩, hport⟩ := he
    cases address with
    | nil => cases hfirst
    | cons c cs =>
      have hc : isDigit c = true := by simpa using hfirst
      have hfield : Scanner.ipv4.field (c :: (cs ++ 0x3A :: (port ++ rest))) =
          some ⟨[], c :: cs, 0x3A :: (port ++ rest)⟩ := by
        refine @fieldOf_mk isDigit _ [] cs _ c (fun _ h => nomatch h) hc (fun x hx => ?_) fun x hx => ?_
        · simpa using haddress x (List.mem_cons_of_mem _ hx)
        · cases hx
          rfl
      have hnumber := @field_number [0x3A] port rest (by simp [isDigit]) hport hdigit
      obtain ⟨a, ha⟩ := take_form_two (f := .tcp) rfl hfield hnumber hlt
        hport.2.2 lindex
      refine ⟨.tcp, a, ?_, ?_⟩
      · simp only [Entry.text, List.append_assoc, List.cons_append]
        exact formAt_tcp hc _
      · simp only [Entry.text, List.append_assoc, List.cons_append]
        exact ha
  | tcp6Local port =>
    refine hone .tcp6Local _ port rfl rfl he (formAt_tcp6Local _)
  | tcp6Any port =>
    refine hone .tcp6Any _ port rfl rfl he (formAt_tcp6Any _)
  | tcp6 address port =>
    obtain ⟨⟨hne, haddress, hlt⟩, hport⟩ := he
    have hbrace : ∀ x ∈ address, (x != 0x7D) = true := fun x hx => by simpa using (haddress x hx).2
    have hfield : Scanner.ipv6.field (0x7B :: (address ++ 0x7D :: 0x3A :: (port ++ rest))) =
        some ⟨[0x7B], address, 0x7D :: 0x3A :: (port ++ rest)⟩ := by
      simp [Scanner.field, field6, List.takeWhile_append_of_pos hbrace, List.dropWhile_append_of_pos hbrace]
    have hnumber := @field_number [0x7D, 0x3A] port rest (by simp [isDigit]) hport hdigit
    obtain ⟨a, ha⟩ := take_form_two (f := .tcp6) rfl hfield hnumber hlt
      hport.2.2 lindex
    refine ⟨.tcp6, a, ?_, ?_⟩
    · simp only [Entry.text, List.append_assoc, List.cons_append]
      exact formAt_tcp6 _
    · simp only [Entry.text, List.append_assoc, List.cons_append]
      exact ha
  | vsock cid port =>
    obtain ⟨hcid, hport⟩ := he
    have hlt : ∀ t, IsSigned t → t.length < 128 := by
      rintro t (h | ⟨u, -, -, h⟩)
      · exact h.2.2
      · exact h
    have hfield := @field_signed [] cid (0x3A :: (port ++ rest)) (by simp) hcid (by simp [isDigit])
    have hnumber := @field_signed [0x3A] port rest (by simp [isDigit]) hport hdigit
    obtain ⟨a, ha⟩ := take_form_two (f := .vsock) rfl hfield hnumber
      (hlt cid hcid) (hlt port hport) lindex
    refine ⟨.vsock, a, ?_, ?_⟩
    · simp only [Entry.text, List.append_assoc, List.cons_append]
      exact formAt_vsock _
    · simp only [Entry.text, List.append_assoc, List.cons_append]
      exact ha

theorem Entry.text_pos {e : Entry} (he : e.WellFormed) : 0 < e.text.length := by
  cases e with
  | bare port => exact List.length_pos_of_ne_nil he.1
  | _ => simp [Entry.text, chars]

/-- **A list is read as it is written.** -/
theorem listenCalls_list {es : List Entry} {rest : List UInt8} (h : IsList es rest) {index n : Nat}
    (hstr : str.drop index = rest) (hn : rest.length < n) : ∃ answers,
      listenCalls useVsock str n index = .ok answers ∧ answers.map Answer.listensOn = es.map (Entry.listensOn useVsock) := by
  -- separators are skipped
  have hgap : ∀ (gap rest : List UInt8) (index : Nat), (∀ c ∈ gap, isSeparator c = true) →
      str.drop index = gap ++ rest → ∀ n, listenCalls useVsock str n index =
        listenCalls useVsock str n (index + gap.length) := by
    intro gap rest
    induction gap with
    | nil => exact fun _ _ _ _ => rfl
    | cons c gap ih =>
      intro index hsep hstr n
      obtain ⟨hc, hsep⟩ := List.forall_mem_cons.1 hsep
      have hnext : str.drop (index + 1) = gap ++ rest := by
        rw [← List.drop_drop, hstr]
        rfl
      rw [listenCalls_skip (formAt_separator hc _) hstr, ih (index + 1) hsep hnext, List.length_cons,
        Nat.add_assoc, Nat.add_comm 1]
  induction h generalizing index n with
  | @nil gap hsep =>
    obtain ⟨n, rfl⟩ : ∃ k, n = k + 1 := ⟨n - 1, by omega⟩
    rw [hgap gap [] index hsep (by rw [List.append_nil]; exact hstr)]
    refine ⟨[], listenCalls_nil ?_ n, rfl⟩
    rw [← List.drop_drop, hstr, List.drop_length]
  | @cons gap rest e es hsep he hrest hlist ih =>
    obtain ⟨n, rfl⟩ : ∃ k, n = k + 1 := ⟨n - 1, by omega⟩
    obtain ⟨f, a, hform, htake, hsays, hindex⟩ := take_entry useVsock he hrest (index + gap.length)
    have hstr' : str.drop (index + gap.length) = e.text ++ rest := by
      rw [← List.drop_drop, hstr, List.drop_left]
    have hrest' : str.drop a.index = rest := by
      rw [hindex, ← List.drop_drop, hstr', List.drop_left]
    have hlt := behindFields_lt hform
    have hpos : rest.length < n := by
      have htext := Entry.text_pos he
      simp only [List.length_append] at hn
      omega
    obtain ⟨answers, hanswers, hlist'⟩ := ih hrest' hpos
    refine ⟨a :: answers, ?_, by rw [List.map_cons, List.map_cons, hsays, hlist']⟩
    cases htext : e.text ++ rest with
    | nil =>
      rw [htext] at hlt
      exact absurd hlt (Nat.not_lt_zero _)
    | cons c cs =>
      rw [htext] at hform htake hstr'
      rw [hgap gap (e.text ++ rest) index hsep hstr, listenCalls_form hform hstr', htake, Run.ok_bind, hanswers]
      rfl

/-! ## The string -/

/-- **The calls for a string keep the promise just if it meets the condition.** -/
theorem listen_right_iff (useVsock : Bool) (str : List UInt8) : ListenRight useVsock str ↔ Fits useVsock str := by
  have hiff := @listenCalls_iff useVsock str str 0 (str.length + 1) rfl (Nat.lt_succ_self _)
  constructor
  · rintro ⟨answers, hanswers, hwithin, -⟩
    exact hiff.1 ⟨answers, hanswers, hwithin⟩
  · intro h
    obtain ⟨answers, hanswers, hwithin⟩ := hiff.2 h
    refine ⟨answers, hanswers, hwithin, fun es hlist => ?_⟩
    obtain ⟨answers', hanswers', heq⟩ :=
      @listenCalls_list useVsock str es str hlist 0 (str.length + 1) rfl (Nat.lt_succ_self _)
    cases hanswers.symm.trans hanswers'
    exact heq

set_option maxRecDepth 4000 in
/-- A number has 128 digits; an address has no port, and another entry follows. -/
theorem over_long_and_cut : ¬ ListenRight false (List.replicate 128 0x33) ∧ ¬ ListenRight false (chars "tcp://1.2.3.4,5") := by
  constructor
  · rintro ⟨answers, hanswers, -⟩
    have hcalls : listenCalls false (List.replicate 128 0x33) 129 0 = .error .outOfBounds := by rfl
    cases hcalls.symm.trans hanswers
  · rintro ⟨answers, hanswers, hwithin, -⟩
    -- the port is that of the other entry
    have hcalls : listenCalls false (chars "tcp://1.2.3.4,5") 16 0 =
        .ok [⟨.tcp4, chars "1.2.3.4", chars "5", 15, 0, [(6, 7), (14, 1)]⟩] := by rfl
    cases hcalls.symm.trans hanswers
    have hcut := hwithin _ List.mem_cons_self (14, 1) (by decide)
    exact absurd (hcut 0x2C (by decide)) (by decide)

end Xrdp.Listen
