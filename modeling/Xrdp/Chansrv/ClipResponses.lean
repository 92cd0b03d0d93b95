import Xrdp.Chansrv.ClipAnswers
import Xrdp.Lib.Runs

/-!
# Answers to the client

A request of the client becomes a conversion of the selection, which X answers once; responses say
nothing of their request, so that they have to come in the order of the requests.

* `ToClient.Holds` — the responses so far are those to the first requests, and there is something that
  will come to a response for each of the others.
* `ClientFits` — the condition on an event; `ToClient.step_answers` — what a step comes to.
* `clip_requests_iff` — the runs in which all requests of both sides are answered once and rightly.
-/

namespace Xrdp.Chansrv.ClipRequests

open ClipIn (ClipType)
open Runs

/-! ## What is promised -/

/-- What a request for a format should be answered with. -/
def FormatRight (format : Nat) : ResponseContent → Prop
  | .failed => True
  | .ok clipType data size => formatType format = some clipType ∧ size = data.length

namespace ToClient

/-- Something will come to the response to request `k`. -/
def Pending (s : ToClient) (k : Nat) : Prop :=
  (∃ c ∈ s.conversions, c.request = some k) ∨ (s.s2c.incrInProgress = true ∧ s.incrFor = some k)

/-- The responses are those to the first requests, and no other request is lost. -/
structure Holds (s : ToClient) : Prop where
  right : ∀ k (resp : DataResponse), s.responses[k]? = some resp → resp.request = some k ∧
    ∃ format, s.dataRequests[k]? = some format ∧ FormatRight format resp.content
  kept : ∀ k, s.responses.length ≤ k → k < s.dataRequests.length → s.Pending k

/-- All is as in a run that keeps the promise, but for a request that has just been taken out. -/
structure Owes (o : Option Nat) (s : ToClient) : Prop where
  right : ∀ k (resp : DataResponse), s.responses[k]? = some resp → resp.request = some k ∧
    ∃ format, s.dataRequests[k]? = some format ∧ FormatRight format resp.content
  kept : ∀ k, s.responses.length ≤ k → k < s.dataRequests.length → o ≠ some k → s.Pending k
  owed : ∀ k, o = some k → s.responses.length ≤ k ∧ k < s.dataRequests.length ∧ ¬ s.Pending k
  nodup : (s.conversions.filterMap (·.request)).Nodup
  range : ∀ k, s.Pending k → s.responses.length ≤ k ∧ k < s.dataRequests.length
  incr : ∀ k, s.s2c.incrInProgress = true → s.incrFor = some k →
    k ∉ s.conversions.filterMap (·.request)
  converted : s.s2c.converted = false
  total : s.s2c.totalBytes = (s.s2c.data.getD []).length

/-- What there is at any time in a run that keeps the promise. -/
def Good (s : ToClient) : Prop := Owes none s

theorem Owes.holds {s : ToClient} (h : Owes none s) : Holds s :=
  ⟨h.right, fun k hle hlt => h.kept k hle hlt (by simp)⟩

theorem good_start : Good .start := by
  show Owes none .start
  constructor
  · exact fun _ _ h => (nomatch h)
  · exact fun k _ hlt => absurd hlt (Nat.not_lt_zero k)
  · exact fun _ h => (nomatch h)
  · exact List.nodup_nil
  · rintro k (⟨c, hc, -⟩ | ⟨hin, -⟩)
    · cases hc
    · cases hin
  · exact fun _ h => (nomatch h)
  · rfl
  · rfl

/-- What a step comes to. -/
structure Answers (s' : ToClient) (fits : Prop) : Prop where
  iff : Holds s' ↔ fits
  good : Holds s' → Good s'

theorem Answers.of_good {s' : ToClient} {fits : Prop} (h : Good s') (hfits : fits) : Answers s' fits :=
  ⟨iff_of_true h.holds hfits, fun _ => h⟩

theorem Answers.of_not {s' : ToClient} {fits : Prop} (h : ¬ Holds s') (hfits : ¬ fits) :
    Answers s' fits :=
  ⟨iff_of_false h hfits, fun h' => absurd h' h⟩

theorem Answers.congr {s' : ToClient} {p q : Prop} (h : Answers s' p) (hpq : p ↔ q) : Answers s' q :=
  ⟨h.iff.trans hpq, h.good⟩

/-! ## Kinds of steps -/

/-- Requests, responses and what is to come stay. -/
structure Same (s s' : ToClient) : Prop where
  dataRequests : s'.dataRequests = s.dataRequests
  responses : s'.responses = s.responses
  conversions : s'.conversions = s.conversions
  incrFor : s'.incrFor = s.incrFor
  incr : s'.s2c.incrInProgress = s.s2c.incrInProgress

theorem Same.refl (s : ToClient) : Same s s := ⟨rfl, rfl, rfl, rfl, rfl⟩

theorem Same.pending {s s' : ToClient} (h : Same s s') {k : Nat} : s'.Pending k ↔ s.Pending k := by
  unfold Pending
  rw [h.conversions, h.incr, h.incrFor]

theorem Owes.same {o : Option Nat} {s s' : ToClient} (h : Owes o s) (hsame : Same s s')
    (hconverted : s'.s2c.converted = false)
    (htotal : s'.s2c.totalBytes = (s'.s2c.data.getD []).length) : Owes o s' := by
  constructor
  · rw [hsame.responses, hsame.dataRequests]
    exact h.right
  · rw [hsame.responses, hsame.dataRequests]
    exact fun k hle hlt hne => hsame.pending.2 (h.kept k hle hlt hne)
  · rw [hsame.responses, hsame.dataRequests]
    intro k hk
    obtain ⟨hle, hlt, hnot⟩ := h.owed k hk
    exact ⟨hle, hlt, fun hpending => hnot (hsame.pending.1 hpending)⟩
  · rw [hsame.conversions]
    exact h.nodup
  · rw [hsame.responses, hsame.dataRequests]
    exact fun k hpending => h.range k (hsame.pending.1 hpending)
  · rw [hsame.incr, hsame.incrFor, hsame.conversions]
    exact h.incr
  · exact hconverted
  · exact htotal

/-- No response is sent. -/
theorem Owes.quiet {o : Option Nat} {s : ToClient} (h : Owes o s) : Answers s (o = none) := by
  cases o with
  | none => exact .of_good h rfl
  | some k =>
    obtain ⟨hle, hlt, hnot⟩ := h.owed k rfl
    exact .of_not (fun hholds => hnot (hholds.kept k hle hlt)) (by simp)

/-- It is the turn of a request, and the content is right for it. -/
def Due (s : ToClient) (o : Option Nat) (content : ResponseContent) : Prop :=
  o = some s.responses.length ∧
    ∃ format, s.dataRequests[s.responses.length]? = some format ∧ FormatRight format content

/-- A response is sent. -/
theorem Owes.send {o : Option Nat} {s : ToClient} (h : Owes o s) (content : ResponseContent) :
    Answers (s.sendResponse o content) (s.Due o content) := by
  have hpending : ∀ k, (s.sendResponse o content).Pending k ↔ s.Pending k := fun _ => Iff.rfl
  have hlength : (s.sendResponse o content).responses.length = s.responses.length + 1 := by
    show (s.responses ++ [_]).length = _
    rw [List.length_append, List.length_singleton]
  have hlast : (s.sendResponse o content).responses[s.responses.length]? = some ⟨content, o⟩ := by
    show (s.responses ++ [_])[s.responses.length]? = _
    rw [List.getElem?_append_right (Nat.le_refl _), Nat.sub_self]
    rfl
  by_cases hdue : s.Due o content
  · obtain ⟨rfl, format, hformat, hright⟩ := hdue
    have hgood : Good (s.sendResponse (some s.responses.length) content) := by
      constructor
      · intro k resp hresp
        rcases Nat.lt_trichotomy k s.responses.length with hlt | heq | hgt
        · refine h.right k resp ?_
          rw [← hresp]
          exact (List.getElem?_append_left hlt).symm
        · rw [heq, hlast] at hresp
          cases hresp
          exact ⟨by rw [heq], format, by rw [heq]; exact hformat, hright⟩
        · rw [List.getElem?_eq_none (by omega)] at hresp
          cases hresp
      · intro k hle hlt _
        refine h.kept k (by omega) hlt fun heq => ?_
        cases heq
        omega
      · exact fun _ heq => (nomatch heq)
      · exact h.nodup
      · intro k hk
        obtain ⟨hle, hlt⟩ := h.range k hk
        refine ⟨?_, hlt⟩
        have hne : k ≠ s.responses.length := by
          rintro rfl
          exact (h.owed _ rfl).2.2 hk
        omega
      · exact h.incr
      · exact h.converted
      · exact h.total
    exact .of_good hgood ⟨rfl, format, hformat, hright⟩
  · refine .of_not (fun hholds => hdue ?_) hdue
    obtain ⟨hrequest, format, hformat, hright⟩ := hholds.right _ _ hlast
    exact ⟨hrequest, format, hformat, hright⟩

/-- Data begin to come piece by piece; what came so before is lost. -/
theorem Owes.startIncr {o : Option Nat} {s : ToClient} (h : Owes o s) (target : Target)
    (property : Nat) :
    Answers (s.startIncr o target property) (s.s2c.incrInProgress = true → s.incrFor = none) := by
  have hpending : ∀ k, (s.startIncr o target property).Pending k ↔
      (∃ c ∈ s.conversions, c.request = some k) ∨ o = some k := by
    intro k
    show _ ∨ (true = true ∧ o = some k) ↔ _
    rw [eq_self_iff_true, true_and]
    exact Iff.rfl
  by_cases hfits : s.s2c.incrInProgress = true → s.incrFor = none
  · have hgood : Good (s.startIncr o target property) := by
      constructor
      · exact h.right
      · intro k hle hlt _
        rw [hpending]
        by_cases heq : o = some k
        · exact .inr heq
        · rcases h.kept k hle hlt heq with hconversion | ⟨hin, hfor⟩
          · exact .inl hconversion
          · rw [hfits hin] at hfor
            cases hfor
      · exact fun _ heq => (nomatch heq)
      · exact h.nodup
      · intro k hk
        rcases (hpending k).1 hk with hconversion | heq
        · exact h.range k (.inl hconversion)
        · exact ⟨(h.owed k heq).1, (h.owed k heq).2.1⟩
      · intro k _ heq hmem
        obtain ⟨c, hc, hrequest⟩ := List.mem_filterMap.1 hmem
        exact (h.owed k heq).2.2 (.inl ⟨c, hc, hrequest⟩)
      · exact h.converted
      · rfl
    exact .of_good hgood hfits
  · refine .of_not (fun hholds => ?_) hfits
    obtain ⟨hin, hfor⟩ := Classical.not_imp.1 hfits
    obtain ⟨k, hk⟩ := Option.ne_none_iff_exists'.1 hfor
    obtain ⟨hle, hlt⟩ := h.range k (.inr ⟨hin, hk⟩)
    rcases (hpending k).1 (hholds.kept k hle hlt) with ⟨c, hc, hrequest⟩ | heq
    · exact h.incr k hin hk (List.mem_filterMap.2 ⟨c, hc, hrequest⟩)
    · exact (h.owed k heq).2.2 (.inr ⟨hin, hk⟩)

/-- The conversion that X answers is taken out of those that it has to. -/
theorem mem_eraseP_iff {l : List Conversion} {p : Conversion → Bool}
    (hnodup : (l.filterMap (·.request)).Nodup) {k : Nat} :
    (∃ c ∈ l.eraseP p, c.request = some k) ↔
      (∃ c ∈ l, c.request = some k) ∧ (l.find? p).bind (·.request) ≠ some k := by
  induction l with
  | nil => simp
  | cons c l ih =>
    have hnodup' : (l.filterMap (·.request)).Nodup :=
      hnodup.sublist (List.Sublist.filterMap _ (List.sublist_cons_self c l))
    by_cases hp : p c = true
    · rw [List.eraseP_cons_of_pos hp, List.find?_cons_of_pos hp]
      show _ ↔ _ ∧ c.request ≠ some k
      constructor
      · rintro ⟨d, hd, hrequest⟩
        refine ⟨⟨d, List.mem_cons_of_mem c hd, hrequest⟩, fun heq => ?_⟩
        rw [List.filterMap_cons_some heq, List.nodup_cons] at hnodup
        exact hnodup.1 (List.mem_filterMap.2 ⟨d, hd, hrequest⟩)
      · rintro ⟨⟨d, hd, hrequest⟩, hne⟩
        rcases List.mem_cons.1 hd with rfl | hd'
        · exact absurd hrequest hne
        · exact ⟨d, hd', hrequest⟩
    · rw [List.eraseP_cons_of_neg hp, List.find?_cons_of_neg hp]
      constructor
      · rintro ⟨d, hd, hrequest⟩
        rcases List.mem_cons.1 hd with rfl | hd'
        · refine ⟨⟨d, List.mem_cons_self, hrequest⟩, fun heq => ?_⟩
          obtain ⟨e, he, hrequest'⟩ := Option.bind_eq_some_iff.1 heq
          rw [List.filterMap_cons_some hrequest, List.nodup_cons] at hnodup
          exact hnodup.1 (List.mem_filterMap.2 ⟨e, List.mem_of_find?_eq_some he, hrequest'⟩)
        · obtain ⟨⟨e, he, hrequest'⟩, hne⟩ := (ih hnodup').1 ⟨d, hd', hrequest⟩
          exact ⟨⟨e, List.mem_cons_of_mem c he, hrequest'⟩, hne⟩
      · rintro ⟨⟨d, hd, hrequest⟩, hne⟩
        rcases List.mem_cons.1 hd with rfl | hd'
        · exact ⟨d, List.mem_cons_self, hrequest⟩
        · obtain ⟨e, he, hrequest'⟩ := (ih hnodup').2 ⟨⟨d, hd', hrequest⟩, hne⟩
          exact ⟨e, List.mem_cons_of_mem c he, hrequest'⟩

theorem notified_owes {s : ToClient} (h : Good s) (target : Target) :
    Owes (s.convertedFor target) (s.notified target) := by
  have hpending : ∀ k, (s.notified target).Pending k ↔
      ((∃ c ∈ s.conversions, c.request = some k) ∧ s.convertedFor target ≠ some k) ∨
        (s.s2c.incrInProgress = true ∧ s.incrFor = some k) := by
    intro k
    exact or_congr_left (mem_eraseP_iff h.nodup)
  have hfound : ∀ k, s.convertedFor target = some k → ∃ c ∈ s.conversions, c.request = some k := by
    intro k hk
    obtain ⟨c, hc, hrequest⟩ := Option.bind_eq_some_iff.1 hk
    exact ⟨c, List.mem_of_find?_eq_some hc, hrequest⟩
  have hsub : ∀ k, (s.notified target).Pending k → s.Pending k := by
    intro k hk
    rcases (hpending k).1 hk with ⟨hconversion, -⟩ | hin
    · exact .inl hconversion
    · exact .inr hin
  constructor
  · exact h.right
  · intro k hle hlt hne
    rw [hpending]
    rcases h.kept k hle hlt (by simp) with hconversion | hin
    · exact .inl ⟨hconversion, hne⟩
    · exact .inr hin
  · intro k hk
    obtain ⟨c, hc, hrequest⟩ := hfound k hk
    obtain ⟨hle, hlt⟩ := h.range k (.inl ⟨c, hc, hrequest⟩)
    refine ⟨hle, hlt, fun hpend => ?_⟩
    rcases (hpending k).1 hpend with ⟨-, hne⟩ | ⟨hin, hfor⟩
    · exact hne hk
    · exact h.incr k hin hfor (List.mem_filterMap.2 ⟨c, hc, hrequest⟩)
  · exact h.nodup.sublist (List.Sublist.filterMap _ List.eraseP_sublist)
  · exact fun k hk => h.range k (hsub k hk)
  · intro k hin hfor hmem
    exact h.incr k hin hfor
      ((List.Sublist.filterMap _ List.eraseP_sublist).subset hmem)
  · exact h.converted
  · exact h.total

/-- Data come piece by piece no more. -/
def stopIncr (s : ToClient) : ToClient :=
  { s with s2c := { s.s2c with incrInProgress := false }, incrFor := none }

theorem stopIncr_owes {s : ToClient} (h : Good s) (hin : s.s2c.incrInProgress = true) :
    Owes s.incrFor s.stopIncr := by
  have hpending : ∀ k, s.stopIncr.Pending k ↔ ∃ c ∈ s.conversions, c.request = some k := by
    intro k
    constructor
    · rintro (hconversion | ⟨hfalse, -⟩)
      · exact hconversion
      · cases hfalse
    · exact .inl
  constructor
  · exact h.right
  · intro k hle hlt hne
    rw [hpending]
    rcases h.kept k hle hlt (by simp) with hconversion | ⟨-, hfor⟩
    · exact hconversion
    · exact absurd hfor hne
  · intro k hk
    obtain ⟨hle, hlt⟩ := h.range k (.inr ⟨hin, hk⟩)
    refine ⟨hle, hlt, fun hpend => ?_⟩
    obtain ⟨c, hc, hrequest⟩ := (hpending k).1 hpend
    exact h.incr k hin hk (List.mem_filterMap.2 ⟨c, hc, hrequest⟩)
  · exact h.nodup
  · exact fun k hk => h.range k (.inl ((hpending k).1 hk))
  · exact fun _ hfalse => (nomatch hfalse)
  · exact h.converted
  · exact h.total

/-! ## Steps -/

/-- It is the turn of a request for a format of that kind. -/
def Turn (s : ToClient) (o : Option Nat) (clipType : ClipType) : Prop :=
  o = some s.responses.length ∧
    ∃ format, s.dataRequests[s.responses.length]? = some format ∧ formatType format = some clipType

/-- The kind of the response that is sent with data that have come at once, if one is sent. -/
def sentKind (s : ToClient) (target : Target) (data : List UInt8) : Option ClipType :=
  if s.s2c.incrInProgress then none
  else match target with
    | .utf8 => if data = [] then none
      else some (if s.s2c.xrdpClipType = .file then .file else .text)
    | .string => if data = [] then none else some .text
    | .imageBmp => if data.length ≤ 14 then none else some .bitmap
    | .file1 => if data = [] then none else some .file
    | .file2 => if data = [] then none else some .file
    | _ => none

/-- What a SelectionNotify needs.  One that nothing is sent with is not of a request of the client; data
come piece by piece for one request at a time; and a response is one in its turn, of the kind asked
for. -/
def NotifyFits (P : Setup) (s : ToClient) (clipboard : Bool) (target : Target) (property : Nat)
    (value : Property) : Prop :=
  let o := s.convertedFor target
  if P.restrictOutbound = true ∨ property = 0 then o = none
  else match value with
    | .failed => o = none
    | .incr => s.s2c.incrInProgress = true → s.incrFor = none
    | .value data _ =>
      match if clipboard then s.sentKind target data else none with
      | none => o = none
      | some clipType => s.Turn o clipType

/-- What the end of data needs that come piece by piece. -/
def EndFits (s : ToClient) : Prop :=
  match s.s2c.type with
  | .imageBmp => s.Turn s.incrFor .bitmap ∧ 14 ≤ s.s2c.totalBytes
  | .string => if s.s2c.data = none then s.incrFor = none else s.Turn s.incrFor .text
  | .utf8 => if s.s2c.data = none then s.incrFor = none else s.Turn s.incrFor .text
  | _ => s.incrFor = some s.responses.length

/-- The condition on an event: a request for an unknown format comes when all others have been
answered, and none is taken for bytes that go straight on; the others as above. -/
def ClientFits (P : Setup) (s : ToClient) : ClientEvent → Prop
  | .dataRequest format =>
    formatType format = none → s.responses.length = s.dataRequests.length
  | .swallowedRequest _ => False
  | .ownerNotify _ => True
  | .selectionNotify clipboard target property value => NotifyFits P s clipboard target property value
  | .propertyNew window atom piece =>
    s.s2c.incrInProgress = true ∧ window = P.wnd ∧ atom = s.s2c.property ∧ piece = some [] → EndFits s

/-- There are at least as many requests as responses. -/
theorem Owes.length_le {o : Option Nat} {s : ToClient} (h : Owes o s) :
    s.responses.length ≤ s.dataRequests.length := by
  by_contra hlt
  obtain ⟨resp, hresp⟩ : ∃ resp, s.responses[s.dataRequests.length]? = some resp :=
    ⟨_, List.getElem?_eq_getElem (Nat.not_le.1 hlt)⟩
  obtain ⟨-, format, hformat, -⟩ := h.right _ _ hresp
  rw [List.getElem?_eq_none (Nat.le_refl _)] at hformat
  cases hformat

theorem getElem?_append_some {l : List Nat} {k a b : Nat} (h : l[k]? = some a) :
    (l ++ [b])[k]? = some a := by
  obtain ⟨hlt, -⟩ := List.getElem?_eq_some_iff.1 h
  rw [List.getElem?_append_left hlt]
  exact h

/-- A request has been counted, and nothing done about it. -/
theorem counted_owes {s : ToClient} (h : Good s) (format : Nat) :
    Owes (some s.dataRequests.length) { s with dataRequests := s.dataRequests ++ [format] } := by
  have hlength : (s.dataRequests ++ [format]).length = s.dataRequests.length + 1 := by
    rw [List.length_append, List.length_singleton]
  constructor
  · intro k resp hresp
    obtain ⟨hrequest, f, hf, hright⟩ := h.right k resp hresp
    exact ⟨hrequest, f, getElem?_append_some hf, hright⟩
  · intro k hle hlt hne
    refine h.kept k hle ?_ (by simp)
    have hlt' : k < s.dataRequests.length + 1 := hlength ▸ hlt
    have hne' : k ≠ s.dataRequests.length := fun heq => hne (by rw [heq])
    omega
  · intro k hk
    cases hk
    refine ⟨h.length_le, ?_, fun hpending => ?_⟩
    · show _ < (s.dataRequests ++ [format]).length
      omega
    · have hlt := (h.range _ hpending).2
      omega
  · exact h.nodup
  · intro k hk
    obtain ⟨hle, hlt⟩ := h.range k hk
    refine ⟨hle, ?_⟩
    show k < (s.dataRequests ++ [format]).length
    omega
  · exact h.incr
  · exact h.converted
  · exact h.total

/-- A conversion is asked for. -/
theorem Owes.convert {o : Option Nat} {s : ToClient} (h : Owes o s) (c : Conversion)
    (hc : c.request = o) : Good { s with conversions := s.conversions ++ [c] } := by
  have hpending : ∀ k, ToClient.Pending { s with conversions := s.conversions ++ [c] } k ↔
      s.Pending k ∨ o = some k := by
    intro k
    constructor
    · rintro (⟨d, hd, hrequest⟩ | hin)
      · rcases List.mem_append.1 hd with hold | hnew
        · exact .inl (.inl ⟨d, hold, hrequest⟩)
        · rw [List.mem_singleton.1 hnew, hc] at hrequest
          exact .inr hrequest
      · exact .inl (.inr hin)
    · rintro ((⟨d, hd, hrequest⟩ | hin) | heq)
      · exact .inl ⟨d, List.mem_append_left _ hd, hrequest⟩
      · exact .inr hin
      · exact .inl ⟨c, List.mem_append_right _ (List.mem_singleton_self c), hc.trans heq⟩
  constructor
  · exact h.right
  · intro k hle hlt _
    rw [hpending]
    by_cases heq : o = some k
    · exact .inr heq
    · exact .inl (h.kept k hle hlt heq)
  · exact fun _ heq => (nomatch heq)
  · show ((s.conversions ++ [c]).filterMap (·.request)).Nodup
    rw [List.filterMap_append]
    refine h.nodup.append ?_ ?_
    · cases hrequest : c.request <;> simp [hrequest]
    · intro k hold hnew
      obtain ⟨d, hd, hrequest⟩ := List.mem_filterMap.1 hnew
      rw [List.mem_singleton.1 hd, hc] at hrequest
      obtain ⟨e, he, hrequest'⟩ := List.mem_filterMap.1 hold
      exact (h.owed k hrequest).2.2 (.inl ⟨e, he, hrequest'⟩)
  · intro k hk
    rcases (hpending k).1 hk with hold | heq
    · exact h.range k hold
    · exact ⟨(h.owed k heq).1, (h.owed k heq).2.1⟩
  · intro k hin hfor hmem
    obtain ⟨d, hd, hrequest⟩ := List.mem_filterMap.1 hmem
    rcases List.mem_append.1 hd with hold | hnew
    · exact h.incr k hin hfor (List.mem_filterMap.2 ⟨d, hold, hrequest⟩)
    · rw [List.mem_singleton.1 hnew, hc] at hrequest
      exact (h.owed k hrequest).2.2 (.inr ⟨hin, hfor⟩)
  · exact h.converted
  · exact h.total

theorem dataRequest_answers {s : ToClient} (h : Good s) (format : Nat) :
    Answers (s.dataRequest format)
      (formatType format = none → s.responses.length = s.dataRequests.length) := by
  have howes := counted_owes h format
  unfold dataRequest answerDataRequest
  cases hformat : formatType format with
  | none =>
    refine (howes.send .failed).congr ?_
    rw [imp_iff_right rfl]
    constructor
    · rintro ⟨heq, -⟩
      exact (Option.some.inj heq).symm
    · intro heq
      refine ⟨congrArg some heq.symm, format, ?_, trivial⟩
      show (s.dataRequests ++ [format])[s.responses.length]? = some format
      rw [heq, List.getElem?_append_right (Nat.le_refl _), Nat.sub_self]
      rfl
  | some clipType =>
    dsimp only
    have hnot : ¬ (s.s2c.xrdpClipType = clipType ∧ s.s2c.converted = true) := by
      rw [h.converted]
      exact fun hboth => Bool.false_ne_true hboth.2
    rw [if_neg hnot]
    refine .of_good ?_ (fun heq => (nomatch heq))
    have hkept : Owes (some s.dataRequests.length)
        { s with
          dataRequests := s.dataRequests ++ [format]
          s2c := { s.s2c with xrdpClipType := clipType } } :=
      howes.same ⟨rfl, rfl, rfl, rfl, rfl⟩ h.converted h.total
    exact hkept.convert ⟨_, some s.dataRequests.length⟩ rfl

theorem offered_same (s : ToClient) (atoms : List Target) (h : s.s2c.converted = false) :
    Same s (s.offered atoms) ∧ (s.offered atoms).s2c.converted = false ∧
      (s.offered atoms).s2c.totalBytes = s.s2c.totalBytes ∧
      (s.offered atoms).s2c.data = s.s2c.data := by
  unfold offered
  dsimp only
  split
  · exact ⟨⟨rfl, rfl, rfl, rfl, rfl⟩, rfl, rfl, rfl⟩
  · split
    · exact ⟨⟨rfl, rfl, rfl, rfl, rfl⟩, rfl, rfl, rfl⟩
    · split
      · exact ⟨⟨rfl, rfl, rfl, rfl, rfl⟩, rfl, rfl, rfl⟩
      · split
        · exact ⟨⟨rfl, rfl, rfl, rfl, rfl⟩, rfl, rfl, rfl⟩
        · exact ⟨.refl s, h, rfl, rfl⟩

/-- Data are kept and sent, if there are enough and none come piece by piece. -/
theorem keepAndSend_answers {o : Option Nat} {s : ToClient} (h : Owes o s) (data : List UInt8)
    (clipType : ClipType) (skip : Nat) :
    Answers (s.keepAndSend o data clipType skip)
      (if s.s2c.incrInProgress = false ∧ skip < data.length then s.Turn o clipType else o = none) := by
  unfold keepAndSend
  split
  · rename_i hfits
    have hkept : Owes o
        { s with s2c := { s.s2c with data := some data, totalBytes := data.length } } :=
      h.same ⟨rfl, rfl, rfl, rfl, rfl⟩ h.converted rfl
    refine (hkept.send _).congr ?_
    refine and_congr_right fun _ => exists_congr fun format => and_congr_right fun _ => ?_
    refine and_iff_left ?_
    rw [List.length_drop]
    omega
  · exact h.quiet

theorem handleValue_answers {o : Option Nat} {s : ToClient} (h : Owes o s) (target : Target)
    (data : List UInt8) (atoms : Option (List Target)) :
    Answers (s.handleValue o target data atoms)
      (match s.sentKind target data with
        | none => o = none
        | some clipType => s.Turn o clipType) := by
  have hsend : ∀ (clipType : ClipType) (skip : Nat) (kind : Option ClipType),
      (kind = if s.s2c.incrInProgress = false ∧ skip < data.length then some clipType else none) →
      Answers (s.keepAndSend o data clipType skip) (match kind with
        | none => o = none
        | some clipType => s.Turn o clipType) := by
    intro clipType skip kind hkind
    refine (keepAndSend_answers h data clipType skip).congr ?_
    rw [hkind]
    split <;> exact Iff.rfl
  have hempty : ∀ kind : Option ClipType,
      (if s.s2c.incrInProgress = true then none else if data = [] then none else kind) =
        if s.s2c.incrInProgress = false ∧ 0 < data.length then kind else none := by
    intro kind
    cases s.s2c.incrInProgress <;> cases data <;> simp
  have hshort : ∀ kind : Option ClipType,
      (if s.s2c.incrInProgress = true then none else if data.length ≤ 14 then none else kind) =
        if s.s2c.incrInProgress = false ∧ 14 < data.length then kind else none := by
    intro kind
    rcases Nat.lt_or_ge 14 data.length with hlt | hge
    · cases s.s2c.incrInProgress <;> simp [hlt]
    · cases s.s2c.incrInProgress <;> simp [hge, Nat.not_lt.2 hge]
  have hquiet : Answers s (match (if s.s2c.incrInProgress = true then none else none : Option ClipType) with
      | none => o = none
      | some clipType => s.Turn o clipType) := by
    rw [ite_self]
    exact h.quiet
  cases target with
  | targets =>
    cases atoms with
    | none => exact hquiet
    | some atoms =>
      obtain ⟨hsame, hconverted, htotal, hdata⟩ := offered_same s atoms h.converted
      have hoffered : Owes o (s.offered atoms) :=
        h.same hsame hconverted (by rw [htotal, hdata]; exact h.total)
      refine hoffered.quiet.congr ?_
      show o = none ↔ match (if s.s2c.incrInProgress = true then none else none : Option ClipType) with
        | none => o = none
        | some clipType => s.Turn o clipType
      rw [ite_self]
  | utf8 => exact hsend _ 0 _ (hempty _)
  | string => exact hsend _ 0 _ (hempty _)
  | imageBmp => exact hsend _ 14 _ (hshort _)
  | file1 => exact hsend _ 0 _ (hempty _)
  | file2 => exact hsend _ 0 _ (hempty _)
  | timestamp => exact hquiet
  | multiple => exact hquiet
  | other atom => exact hquiet

/-- X has answered a conversion. -/
theorem selectionNotify_answers (P : Setup) {s : ToClient} (h : Good s) (clipboard : Bool)
    (target : Target) (property : Nat) (value : Property) :
    Answers (s.selectionNotify P clipboard target property value)
      (NotifyFits P s clipboard target property value) := by
  have howes := notified_owes h target
  have hquiet : Answers (s.notified target) (s.convertedFor target = none) := howes.quiet
  unfold selectionNotify NotifyFits
  dsimp only
  by_cases hrestrict : P.restrictOutbound = true
  · rw [if_pos hrestrict, if_pos (.inl hrestrict)]
    exact hquiet
  rw [if_neg hrestrict]
  by_cases hproperty : property = 0
  · rw [if_pos hproperty, if_pos (.inr hproperty)]
    exact hquiet
  rw [if_neg hproperty, if_neg (not_or.2 ⟨hrestrict, hproperty⟩)]
  cases value with
  | failed => exact hquiet
  | incr => exact howes.startIncr target property
  | value data atoms =>
    cases clipboard with
    | false => exact hquiet
    | true => exact handleValue_answers howes target data atoms

/-- Data that have come piece by piece are sent as text, if there have been any. -/
theorem sendText_answers {o : Option Nat} {s : ToClient} (h : Owes o s) :
    Answers (s.sendDataResponse o .text s.s2c.data s.s2c.totalBytes)
      (if s.s2c.data = none then o = none else s.Turn o .text) := by
  have htotal := h.total
  unfold sendDataResponse
  cases hdata : s.s2c.data with
  | none => exact h.quiet
  | some data =>
    rw [hdata] at htotal
    refine (h.send _).congr ?_
    show s.Due o _ ↔ s.Turn o .text
    exact and_congr_right fun _ => exists_congr fun format => and_congr_right fun _ =>
      and_iff_left htotal

/-- The end of data that come piece by piece. -/
theorem endIncr_answers {s : ToClient} (h : Good s) (hin : s.s2c.incrInProgress = true) :
    Answers s.endIncr (EndFits s) := by
  have howes := stopIncr_owes h hin
  have hkind : ∀ clipType, Owes s.incrFor
      { s.stopIncr with s2c := { s.stopIncr.s2c with xrdpClipType := clipType } } :=
    fun _ => howes.same ⟨rfl, rfl, rfl, rfl, rfl⟩ h.converted h.total
  have hfailed : Answers (s.stopIncr.sendResponse s.incrFor .failed)
      (s.incrFor = some s.responses.length) := by
    refine (howes.send .failed).congr ⟨And.left, fun heq => ⟨heq, ?_⟩⟩
    have hlt : s.responses.length < s.dataRequests.length := (howes.owed _ heq).2.1
    exact ⟨_, List.getElem?_eq_getElem hlt, trivial⟩
  unfold endIncr
  dsimp only
  split
  · rename_i htype
    have htotal := h.total
    refine ((hkind .bitmap).send _).congr ?_
    unfold EndFits
    rw [htype]
    show _ ∧ (∃ format, _ ∧ _ ∧ _) ↔ (_ ∧ ∃ format, _) ∧ _
    rw [and_assoc, ← exists_and_right]
    refine and_congr_right fun _ => exists_congr fun format => ?_
    rw [and_assoc]
    refine and_congr_right fun _ => and_congr_right fun _ => ?_
    rw [List.length_drop, htotal]
    omega
  · rename_i htype
    refine (sendText_answers (hkind .text)).congr ?_
    unfold EndFits
    rw [htype]
    exact Iff.rfl
  · rename_i htype
    refine (sendText_answers (hkind .text)).congr ?_
    unfold EndFits
    rw [htype]
    exact Iff.rfl
  · rename_i himage hstring hutf8
    refine hfailed.congr ?_
    unfold EndFits
    split
    · rename_i htype
      exact absurd htype himage
    · rename_i htype
      exact absurd htype hstring
    · rename_i htype
      exact absurd htype hutf8
    · exact Iff.rfl

/-- A piece has come. -/
theorem propertyNew_answers (P : Setup) {s : ToClient} (h : Good s) (window atom : Nat)
    (piece : Option (List UInt8)) :
    Answers (s.propertyNew P window atom piece)
      (s.s2c.incrInProgress = true ∧ window = P.wnd ∧ atom = s.s2c.property ∧ piece = some [] →
        EndFits s) := by
  unfold propertyNew
  by_cases hours : s.s2c.incrInProgress = true ∧ window = P.wnd ∧ atom = s.s2c.property
  · rw [if_pos hours]
    obtain ⟨hin, hwindow, hatom⟩ := hours
    cases piece with
    | none => exact .of_good h fun hall => (nomatch hall.2.2.2)
    | some piece =>
      cases piece with
      | nil => exact (endIncr_answers h hin).congr (by simp [hin, hwindow, hatom])
      | cons b piece =>
        refine .of_good ?_ fun hall => (nomatch hall.2.2.2)
        refine Owes.same h ⟨rfl, rfl, rfl, rfl, rfl⟩ h.converted ?_
        show s.s2c.totalBytes + ((b :: piece).length : Int) =
          ((s.s2c.data.getD [] ++ b :: piece).length : Int)
        rw [h.total, List.length_append, Nat.cast_add]
  · rw [if_neg hours]
    exact .of_good h fun hall => absurd ⟨hall.1, hall.2.1, hall.2.2.1⟩ hours

theorem ownerNotify_good (P : Setup) {s : ToClient} (h : Good s) (owner : Nat) :
    Good (s.ownerNotify P owner) := by
  unfold ownerNotify
  split
  · exact h
  · exact Owes.convert h ⟨.targets, none⟩ rfl

/-- **A step towards the client** keeps the promise just if its event meets its condition. -/
theorem step_answers (P : Setup) {s : ToClient} (h : Good s) (e : ClientEvent) :
    Answers (s.step P e) (ClientFits P s e) := by
  cases e with
  | dataRequest format => exact dataRequest_answers h format
  | swallowedRequest format => exact (counted_owes h format).quiet.congr (by simp [ClientFits])
  | ownerNotify owner => exact .of_good (ownerNotify_good P h owner) trivial
  | selectionNotify clipboard target property value =>
    exact selectionNotify_answers P h clipboard target property value
  | propertyNew window atom piece => exact propertyNew_answers P h window atom piece

end ToClient

/-! ## Both directions -/

namespace Clipboard

/-- All requests have been answered once and rightly, or will be. -/
def Holds (P : Setup) (s : Clipboard) : Prop := s.toProgram.Holds P ∧ s.toClient.Holds

def Good (P : Setup) (s : Clipboard) : Prop := s.toProgram.Good P ∧ s.toClient.Good

/-- The condition on an event, for either direction. -/
def EventFits (P : Setup) (s : Clipboard) (e : ClipEvent) : Prop :=
  (∀ pe ∈ s.programEvent e, s.toProgram.ProgramFits P pe) ∧
    ∀ ce ∈ s.clientEvent e, s.toClient.ClientFits P ce

/-- A first part of a response is one only where nothing goes straight on. -/
theorem programEvent_possible (s : Clipboard) (e : ClipEvent) :
    ∀ pe ∈ s.programEvent e, s.toProgram.Possible pe := by
  intro pe hpe
  cases e with
  | chunk bytes last carried =>
    by_cases hdoing : s.toProgram.c2s.doingResponseSs = true
    · cases carried <;> simp [programEvent, hdoing] at hpe <;> subst hpe <;> trivial
    · have hnot : s.toProgram.c2s.doingResponseSs = false := by simpa using hdoing
      cases carried <;> simp [programEvent, hnot] at hpe <;> subst hpe <;> trivial
  | selectionRequest requestor property target time =>
    cases hpe
    trivial
  | propertyDelete window atom =>
    cases hpe
    trivial
  | ownerNotify owner => cases hpe
  | selectionNotify clipboard target property value => cases hpe
  | propertyNew window atom piece => cases hpe

theorem program_step {P : Setup} {s : Clipboard} (h : s.Good P) (e : ClipEvent) :
    ToProgram.Answers P (clipStep P s e).toProgram
      (∀ pe ∈ s.programEvent e, s.toProgram.ProgramFits P pe) := by
  have hpossible := s.programEvent_possible e
  unfold clipStep
  cases hpe : s.programEvent e with
  | none => exact (ToProgram.Answers.of_good h.1).congr (by simp)
  | some pe => exact (ToProgram.step_answers h.1 pe (hpossible pe hpe)).congr (by simp)

theorem client_step {P : Setup} {s : Clipboard} (h : s.Good P) (e : ClipEvent) :
    ToClient.Answers (clipStep P s e).toClient
      (∀ ce ∈ s.clientEvent e, s.toClient.ClientFits P ce) := by
  unfold clipStep
  cases hce : s.clientEvent e with
  | none => exact .of_good h.2 (fun _ hmem => (nomatch hmem))
  | some ce => exact (ToClient.step_answers P h.2 ce).congr (by simp)

end Clipboard

theorem clipNext_det (P : Setup) (s : Clipboard) (e : ClipEvent) (s₁ s₂ : Clipboard)
    (h₁ : ClipNext P s e s₁) (h₂ : ClipNext P s e s₂) : s₁ = s₂ := Eq.trans (Eq.symm h₁) h₂

/-- **Requests for the clipboard**: in all states of a run each request of a program has been answered
once, with its own data or a refusal, and each of the client has, or the answer is to come, just if
every event meets its condition. -/
theorem clip_requests_iff (P : Setup) (es : List ClipEvent) :
    Always (ClipNext P) (Clipboard.Holds P) .start es ↔
      AllFit (ClipNext P) (Clipboard.EventFits P) .start es := by
  have hholds : ∀ s : Clipboard, s.Good P → s.Holds P :=
    fun s h => ⟨h.1.toHolds, ToClient.Owes.holds h.2⟩
  refine always_iff (clipNext_det P) hholds ?_ ?_ es
  · intro s e h
    obtain ⟨hprogram, hprogram'⟩ := Clipboard.program_step h e
    obtain ⟨hclient, hclient'⟩ := Clipboard.client_step h e
    exact .of_next (clipNext_det P) rfl (and_congr hprogram hclient)
      fun hok => ⟨hprogram' hok.1, hclient' hok.2⟩
  · exact ⟨ToProgram.good_start P, ToClient.good_start⟩

/-- Characters below 128 are written as they are, and there are no lists of files. -/
def plainSetup : Setup where
  encode := fun c => if c < 128 then some [UInt8.ofNat c] else none
  fileList := fun _ => none
  incrMaxReqSize := 262120
  large := by decide
  restrictOutbound := false
  wnd := 1

/-- Two programs ask for text before the client has answered: there is one place for a request, so that
the first program gets nothing and the second one gets both answers. -/
theorem second_request_takes_place :
    ∃ s', Leads (ClipNext plainSetup) .start
      [.selectionRequest 5 300 .utf8 10, .selectionRequest 6 301 .utf8 11,
        .chunk [] true (.dataResponse ⟨false, [104, 0, 0, 0]⟩),
        .chunk [] true (.dataResponse ⟨false, [105, 0, 0, 0]⟩)] s' ∧
      s'.toProgram.notifies.map (·.requestor) = [6, 6] ∧ ¬ s'.Holds plainSetup := by
  refine ⟨_, leads_fun.2 rfl, by decide, fun h => ?_⟩
  have honce := h.1.once
  revert honce
  decide

end Xrdp.Chansrv.ClipRequests
