import Mathlib.Data.List.Nodup
import Xrdp.Chansrv.ClipRequests

/-!
# Answers to programs

There is one place for a request that the client has been asked for.  A second one that comes before
the answer takes it, and an answer without data leaves the first one without any.

* `Right` — what a SelectionNotify should be.
* `ToProgram.Holds` — each request is answered once and rightly, or it is the one that is kept while
  the client has been asked; and nothing but the responses is read for it.
* `ProgramFits` — the condition on an event; `ToProgram.step_answers` — what a step comes to.
-/

namespace Xrdp.Chansrv.ClipRequests

open ClipIn (ClipType gBmpImageHeader lowBytes)

/-! ## What is promised -/

/-- The data of a response for a target, if there are any. -/
def convert (P : Setup) (target : Target) (content : List UInt8) : Option (List UInt8) :=
  match target with
  | .string => if content = [] then none else decodeText P content
  | .utf8 => if content = [] then none else decodeText P content
  | .imageBmp => if content = [] then none else some (gBmpImageHeader ++ content)
  | .file1 => (P.fileList content).map (filePrefix .file1 ++ ·)
  | .file2 => (P.fileList content).map (filePrefix .file2 ++ ·)
  | _ => none

/-- The kept data are made of a response to a request for that target, which the client has given since
its last announce; and the bytes are its data, if they are there. -/
def Given (P : Setup) (target : Target) (source : Option Source) (announce : Nat)
    (bytes : Option (List UInt8)) : Prop :=
  ∃ src, source = some src ∧ src.target = target ∧ src.failed = false ∧ src.announce = announce ∧
    ∀ b ∈ bytes, convert P target src.content = some b

/-- What a request should be answered with. -/
def ContentRight (P : Setup) (r : Request) (n : Notify) : Prop :=
  match n.content with
  | .refused => n.property = 0
  | .atoms _ => n.property = r.property ∧ r.target = .targets
  | .time _ => n.property = r.property ∧ r.target = .timestamp
  | .data type bytes =>
    n.property = r.property ∧ type = r.target ∧ Given P r.target n.source n.announce (some bytes)
  | .incr type bytes =>
    n.property = r.property ∧ type = r.target ∧ Given P r.target n.source n.announce bytes

/-- A SelectionNotify goes to the program of its request, with data of the requested target or a
refusal. -/
structure Right (P : Setup) (r : Request) (n : Notify) : Prop where
  requestor : n.requestor = r.requestor
  target : n.target = r.target
  time : n.time = r.time
  content : ContentRight P r n

namespace ToProgram

/-- The request has been answered. -/
def Answered (s : ToProgram) (r : Request) : Prop := r.serial ∈ s.notifies.map (·.serial)

/-- Each request is answered once and rightly, or the client has been asked for it and it is kept; what
is read of the responses is in them. -/
structure Holds (P : Setup) (s : ToProgram) : Prop where
  right : ∀ n ∈ s.notifies, ∃ r ∈ s.requests, r.serial = n.serial ∧ Right P r n
  once : (s.notifies.map (·.serial)).Nodup
  kept : ∀ r ∈ s.requests, s.Answered r ∨ (s.asked ≠ [] ∧ s.saved = r)
  inside : s.overread = false

end ToProgram

/-- The kinds of data that the client is asked for. -/
def clipTypeOf : Target → Option ClipType
  | .string => some .text
  | .utf8 => some .text
  | .imageBmp => some .bitmap
  | .file1 => some .file
  | .file2 => some .file
  | _ => none

namespace ToProgram

/-- The kept request is the one that the client has been asked for. -/
structure Waits (s : ToProgram) : Prop where
  asked : s.asked = [s.saved]
  mem : s.saved ∈ s.requests
  unanswered : ¬ s.Answered s.saved
  type : s.c2s.type = s.saved.target
  clipType : clipTypeOf s.saved.target = some s.c2s.xrdpClipType

/-- What there is at any time in a run that keeps the promise. -/
structure Good (P : Setup) (s : ToProgram) : Prop extends Holds P s where
  serials : s.requests.map (·.serial) = List.range' 1 s.requests.length
  asked : s.asked = [] ∨ s.Waits
  saved : s.saved = .zero ∨ s.saved ∈ s.requests
  inRequest : s.c2s.inRequest = true → s.c2s.doingResponseSs = true ∨ s.asked ≠ []

theorem good_start (P : Setup) : Good P .start :=
  ⟨⟨fun _ h => (nomatch h), List.nodup_nil, fun _ h => (nomatch h), rfl⟩, rfl, .inl rfl, .inl rfl,
    fun h => (nomatch h)⟩

theorem Good.serial_le {P : Setup} {s : ToProgram} (h : Good P s) {r : Request}
    (hr : r ∈ s.requests) : 1 ≤ r.serial ∧ r.serial ≤ s.requests.length := by
  have hmem : r.serial ∈ s.requests.map (·.serial) := List.mem_map_of_mem hr
  rw [h.serials, List.mem_range'_1] at hmem
  omega

theorem Good.serial_inj {P : Setup} {s : ToProgram} (h : Good P s) {r r' : Request}
    (hr : r ∈ s.requests) (hr' : r' ∈ s.requests) (heq : r.serial = r'.serial) : r = r' := by
  have hnodup : (s.requests.map (·.serial)).Nodup := by
    rw [h.serials]
    exact List.nodup_range'
  exact List.inj_on_of_nodup_map hnodup hr hr' heq

/-- A notify is of a request that there has been. -/
theorem Good.answered_le {P : Setup} {s : ToProgram} (h : Good P s) {i : Nat}
    (hi : i ∈ s.notifies.map (·.serial)) : i ≤ s.requests.length := by
  obtain ⟨n, hn, rfl⟩ := List.mem_map.1 hi
  obtain ⟨r, hr, hserial, -⟩ := h.right n hn
  have hle := h.serial_le hr
  omega

/-! ## Kinds of steps -/

/-- What a step comes to. -/
structure Answers (P : Setup) (s' : ToProgram) (fits : Prop) : Prop where
  iff : Holds P s' ↔ fits
  good : Holds P s' → Good P s'

/-- The requests, and what has been answered and asked for, stay. -/
structure Same (s s' : ToProgram) : Prop where
  requests : s'.requests = s.requests
  notifies : s'.notifies = s.notifies
  saved : s'.saved = s.saved
  type : s'.c2s.type = s.c2s.type
  clipType : s'.c2s.xrdpClipType = s.c2s.xrdpClipType
  overread : s'.overread = s.overread

theorem Same.refl (s : ToProgram) : Same s s := ⟨rfl, rfl, rfl, rfl, rfl, rfl⟩

theorem Same.trans {s s' s'' : ToProgram} (h : Same s s') (h' : Same s' s'') : Same s s'' :=
  ⟨h'.requests.trans h.requests, h'.notifies.trans h.notifies, h'.saved.trans h.saved,
    h'.type.trans h.type, h'.clipType.trans h.clipType, h'.overread.trans h.overread⟩

/-- Nothing is asked for or answered. -/
theorem Good.same {P : Setup} {s s' : ToProgram} (h : Good P s) (hsame : Same s s')
    (hasked : s'.asked = s.asked)
    (hin : s'.c2s.inRequest = true → s'.c2s.doingResponseSs = true ∨ s'.asked ≠ []) : Good P s' := by
  constructor
  · constructor
    · rw [hsame.notifies, hsame.requests]
      exact h.right
    · rw [hsame.notifies]
      exact h.once
    · unfold Answered
      rw [hsame.notifies, hsame.requests, hasked, hsame.saved]
      exact h.kept
    · rw [hsame.overread]
      exact h.inside
  · rw [hsame.requests]
    exact h.serials
  · rw [hasked]
    refine h.asked.imp_right fun hwaits => ?_
    constructor
    · rw [hasked, hsame.saved]
      exact hwaits.asked
    · rw [hsame.saved, hsame.requests]
      exact hwaits.mem
    · unfold Answered
      rw [hsame.saved, hsame.notifies]
      exact hwaits.unanswered
    · rw [hsame.type, hsame.saved]
      exact hwaits.type
    · rw [hsame.clipType, hsame.saved]
      exact hwaits.clipType
  · rw [hsame.saved, hsame.requests]
    exact h.saved
  · exact hin

theorem Answers.of_good {P : Setup} {s' : ToProgram} (h : Good P s') : Answers P s' True :=
  ⟨iff_true_intro h.toHolds, fun _ => h⟩

theorem Answers.of_not {P : Setup} {s' : ToProgram} {fits : Prop} (h : ¬ Holds P s') (hfits : ¬ fits) :
    Answers P s' fits :=
  ⟨iff_of_false h hfits, fun h' => absurd h' h⟩

/-- A new request is answered at once. -/
theorem answers_new {P : Setup} {s s' : ToProgram} {req : Request} {n : Notify} (h : Good P s)
    (hserial : req.serial = s.requests.length + 1) (hn : n.serial = req.serial)
    (hrequests : s'.requests = s.requests ++ [req]) (hnotifies : s'.notifies = s.notifies ++ [n])
    (hasked : s'.asked = s.asked) (hsaved : s'.saved = s.saved) (htype : s'.c2s.type = s.c2s.type)
    (hclip : s'.c2s.xrdpClipType = s.c2s.xrdpClipType)
    (hin : s'.c2s.inRequest = s.c2s.inRequest)
    (hdoing : s'.c2s.doingResponseSs = s.c2s.doingResponseSs) (hover : s'.overread = s.overread) :
    Answers P s' (Right P req n) := by
  have hfresh : n.serial ∉ s.notifies.map (·.serial) := by
    intro hmem
    have hle := h.answered_le hmem
    omega
  have hmono : ∀ r, s.Answered r → s'.Answered r := fun r hr => by
    show r.serial ∈ s'.notifies.map (·.serial)
    rw [hnotifies, List.map_append]
    exact List.mem_append_left _ hr
  have hgood : Right P req n → Good P s' := by
    intro hright
    constructor
    · constructor
      · rw [hnotifies, hrequests]
        intro n' hn'
        rcases List.mem_append.1 hn' with hold | hnew
        · obtain ⟨r, hr, hr'⟩ := h.right n' hold
          exact ⟨r, List.mem_append_left _ hr, hr'⟩
        · rw [List.mem_singleton.1 hnew]
          exact ⟨req, List.mem_append_right _ (List.mem_singleton_self req), hn.symm, hright⟩
      · rw [hnotifies, List.map_append]
        exact h.once.append (List.nodup_singleton _)
          (List.disjoint_singleton.2 hfresh)
      · rw [hrequests, hasked, hsaved]
        intro r hr
        rcases List.mem_append.1 hr with hold | hnew
        · exact (h.kept r hold).imp_left (hmono r)
        · left
          show r.serial ∈ s'.notifies.map (·.serial)
          rw [List.mem_singleton.1 hnew, hnotifies, List.map_append, ← hn]
          exact List.mem_append_right _ (List.mem_singleton_self _)
      · rw [hover]
        exact h.inside
    · rw [hrequests, List.map_append, h.serials, List.length_append, List.length_singleton,
        List.range'_concat]
      simp [hserial, Nat.add_comm]
    · rw [hasked]
      refine h.asked.imp_right fun hwaits => ?_
      constructor
      · rw [hasked, hsaved]
        exact hwaits.asked
      · rw [hsaved, hrequests]
        exact List.mem_append_left _ hwaits.mem
      · show ¬ s'.saved.serial ∈ s'.notifies.map (·.serial)
        rw [hsaved, hnotifies, List.map_append, List.mem_append, not_or]
        refine ⟨hwaits.unanswered, ?_⟩
        have hle := (h.serial_le hwaits.mem).2
        rw [List.map_singleton, List.mem_singleton]
        omega
      · rw [htype, hsaved]
        exact hwaits.type
      · rw [hclip, hsaved]
        exact hwaits.clipType
    · rw [hsaved, hrequests]
      exact h.saved.imp_right fun hmem => List.mem_append_left _ hmem
    · rw [hin, hdoing, hasked]
      exact h.inRequest
  have hiff : Holds P s' → Right P req n := by
    intro hholds
    obtain ⟨r, hr, heq, hright⟩ := hholds.right n (by
      rw [hnotifies]
      exact List.mem_append_right _ (List.mem_singleton_self n))
    rw [hrequests] at hr
    rcases List.mem_append.1 hr with hold | hnew
    · have hle := (h.serial_le hold).2
      omega
    · rwa [List.mem_singleton.1 hnew] at hright
  exact ⟨⟨hiff, fun hright => (hgood hright).toHolds⟩, fun hholds => hgood (hiff hholds)⟩

/-- The client is asked for a new request. -/
theorem answers_ask {P : Setup} {s : ToProgram} {req : Request} {clipType : ClipType} (h : Good P s)
    (hserial : req.serial = s.requests.length + 1) (hclip : clipTypeOf req.target = some clipType) :
    Answers P ({ s with requests := s.requests ++ [req] }.sendDataRequest req clipType)
      (s.asked = []) := by
  have hfresh : req.serial ∉ s.notifies.map (·.serial) := by
    intro hmem
    have hle := h.answered_le hmem
    omega
  have hlast : req ∈ s.requests ++ [req] := List.mem_append_right _ (List.mem_singleton_self req)
  rcases h.asked with hnone | hwaits
  · have hgood : Good P ({ s with requests := s.requests ++ [req] }.sendDataRequest req clipType) := by
      constructor
      · constructor
        · intro n hn
          obtain ⟨r, hr, hr'⟩ := h.right n hn
          exact ⟨r, List.mem_append_left _ hr, hr'⟩
        · exact h.once
        · intro r hr
          rcases List.mem_append.1 hr with hold | hnew
          · left
            rcases h.kept r hold with hanswered | ⟨hasked, -⟩
            · exact hanswered
            · exact absurd hnone hasked
          · right
            rw [List.mem_singleton.1 hnew]
            refine ⟨?_, rfl⟩
            show s.asked ++ [req] ≠ []
            simp
        · exact h.inside
      · show (s.requests ++ [req]).map (·.serial) = List.range' 1 (s.requests ++ [req]).length
        rw [List.map_append, h.serials, List.length_append, List.length_singleton,
          List.range'_concat]
        simp [hserial, Nat.add_comm]
      · right
        constructor
        · show s.asked ++ [req] = [req]
          rw [hnone, List.nil_append]
        · exact hlast
        · exact hfresh
        · rfl
        · exact hclip
      · exact .inr hlast
      · intro _
        right
        show s.asked ++ [req] ≠ []
        simp
    exact ⟨iff_of_true hgood.toHolds hnone, fun _ => hgood⟩
  · -- The request that is kept is lost.
    refine .of_not (fun hholds => ?_) (by rw [hwaits.asked]; simp)
    rcases hholds.kept s.saved (List.mem_append_left _ hwaits.mem) with hanswered | ⟨-, heq⟩
    · exact hwaits.unanswered hanswered
    · have hle := (h.serial_le hwaits.mem).2
      have heq' : req = s.saved := heq
      rw [← heq', hserial] at hle
      omega

/-- The kept request is answered. -/
theorem answers_saved {P : Setup} {s s' : ToProgram} {n : Notify} (h : Good P s) (hwaits : s.Waits)
    (hn : n.serial = s.saved.serial) (hrequests : s'.requests = s.requests)
    (hnotifies : s'.notifies = s.notifies ++ [n]) (hasked : s'.asked = [])
    (hsaved : s'.saved = s.saved) (hin : s'.c2s.inRequest = true → s'.c2s.doingResponseSs = true)
    (hover : s'.overread = s.overread) : Answers P s' (Right P s.saved n) := by
  have hgood : Right P s.saved n → Good P s' := by
    intro hright
    constructor
    · constructor
      · rw [hnotifies, hrequests]
        intro n' hn'
        rcases List.mem_append.1 hn' with hold | hnew
        · exact h.right n' hold
        · rw [List.mem_singleton.1 hnew]
          exact ⟨s.saved, hwaits.mem, hn.symm, hright⟩
      · rw [hnotifies, List.map_append]
        refine h.once.append (List.nodup_singleton _) (List.disjoint_singleton.2 ?_)
        show n.serial ∉ _
        rw [hn]
        exact hwaits.unanswered
      · rw [hrequests]
        intro r hr
        left
        show r.serial ∈ s'.notifies.map (·.serial)
        rw [hnotifies, List.map_append, List.mem_append]
        rcases h.kept r hr with hanswered | ⟨-, heq⟩
        · exact .inl hanswered
        · right
          rw [← heq, ← hn]
          exact List.mem_singleton_self _
      · rw [hover]
        exact h.inside
    · rw [hrequests]
      exact h.serials
    · exact .inl hasked
    · rw [hsaved, hrequests]
      exact h.saved
    · exact fun hin' => .inl (hin hin')
  have hiff : Holds P s' → Right P s.saved n := by
    intro hholds
    obtain ⟨r, hr, heq, hright⟩ := hholds.right n (by
      rw [hnotifies]
      exact List.mem_append_right _ (List.mem_singleton_self n))
    rw [hrequests] at hr
    rwa [h.serial_inj hr hwaits.mem (heq.trans hn)] at hright
  exact ⟨⟨hiff, fun hright => (hgood hright).toHolds⟩, fun hholds => hgood (hiff hholds)⟩

/-- The client has answered, and the kept request has not been. -/
theorem not_holds_of_lost {P : Setup} {s s' : ToProgram} (hwaits : s.Waits)
    (hrequests : s'.requests = s.requests) (hnotifies : s'.notifies = s.notifies)
    (hasked : s'.asked = []) : ¬ Holds P s' := by
  intro hholds
  rcases hholds.kept s.saved (hrequests ▸ hwaits.mem) with hanswered | ⟨hne, -⟩
  · refine hwaits.unanswered ?_
    show s.saved.serial ∈ s.notifies.map (·.serial)
    rw [← hnotifies]
    exact hanswered
  · exact hne hasked

/-- A request is answered that has been answered, or that there has not been. -/
theorem not_holds_of_unasked {P : Setup} {s s' : ToProgram} {n : Notify} (h : Good P s)
    (hnone : s.asked = []) (hn : n.serial = s.saved.serial) (hrequests : s'.requests = s.requests)
    (hnotifies : s'.notifies = s.notifies ++ [n]) : ¬ Holds P s' := by
  intro hholds
  rcases h.saved with hzero | hmem
  · obtain ⟨r, hr, heq, -⟩ := hholds.right n (by
      rw [hnotifies]
      exact List.mem_append_right _ (List.mem_singleton_self n))
    rw [hrequests] at hr
    have hle := (h.serial_le hr).1
    rw [heq, hn, hzero] at hle
    exact absurd hle (by decide)
  · have hanswered : s.Answered s.saved := by
      rcases h.kept s.saved hmem with hanswered | ⟨hasked, -⟩
      · exact hanswered
      · exact absurd hnone hasked
    have honce := hholds.once
    rw [hnotifies, List.map_append, List.map_singleton, hn] at honce
    exact (List.nodup_append.1 honce).2.2 _ hanswered _ (List.mem_singleton_self _) rfl

theorem Answers.congr {P : Setup} {s' : ToProgram} {p q : Prop} (h : Answers P s' p) (hpq : p ↔ q) :
    Answers P s' q := ⟨h.iff.trans hpq, h.good⟩

/-! ## Requests -/

/-- A notify that is made from a request is right if what the program finds is. -/
theorem right_iff {P : Setup} {req : Request} {property : Nat} {content : Content}
    {source : Option Source} {announce : Nat} :
    Right P req ⟨req.requestor, property, req.target, req.time, content, req.serial, source, announce⟩ ↔
      ContentRight P req
        ⟨req.requestor, property, req.target, req.time, content, req.serial, source, announce⟩ :=
  ⟨fun h => h.content, fun h => ⟨rfl, rfl, rfl, h⟩⟩

/-- The data that are kept are right for a target. -/
def Kept (P : Setup) (s : ToProgram) (target : Target) : Prop :=
  Given P target s.source s.announces (some (s.c2s.data.take s.c2s.totalBytes.toNat))

/-- The kept data are given to a request, at once or piece by piece. -/
structure Provided (P : Setup) (s s' : ToProgram) (req : Request) (n : Notify) : Prop where
  serial : n.serial = req.serial
  right : Right P req n ↔ Kept P s req.target
  requests : s'.requests = s.requests
  notifies : s'.notifies = s.notifies ++ [n]
  asked : s'.asked = s.asked
  saved : s'.saved = s.saved
  type : s.c2s.type = req.target → s'.c2s.type = s.c2s.type
  clipType : s'.c2s.xrdpClipType = s.c2s.xrdpClipType
  inRequest : s'.c2s.inRequest = s.c2s.inRequest
  doing : s'.c2s.doingResponseSs = s.c2s.doingResponseSs
  overread : s'.overread = s.overread

theorem provideSelectionC2s_provided (P : Setup) (s : ToProgram) (req : Request) :
    ∃ n, Provided P s (s.provideSelectionC2s P req req.target) req n := by
  unfold provideSelectionC2s
  dsimp only
  split
  · refine ⟨_, rfl, ?_, rfl, rfl, rfl, rfl, fun _ => rfl, rfl, rfl, rfl, rfl⟩
    rw [right_iff]
    exact ⟨fun h => h.2.2, fun h => ⟨rfl, rfl, h⟩⟩
  · refine ⟨_, rfl, ?_, rfl, rfl, rfl, rfl, fun htype => htype.symm, rfl, rfl, rfl, rfl⟩
    rw [right_iff]
    exact ⟨fun h => h.2.2, fun h => ⟨rfl, rfl, h⟩⟩

/-- What a request needs: the kept data are given only if they are right, and the client is asked only
if it has answered the requests before. -/
def RequestFits (P : Setup) (s : ToProgram) (property : Nat) (target : Target) : Prop :=
  property ≠ 0 → match clipTypeOf target with
    | none => True
    | some clipType =>
      if clipType ≠ .text ∧ s.c2s.type = target ∧ s.c2s.converted then Kept P s target
      else s.asked = []

/-- A new request is answered with what does not come from the client. -/
theorem sendNotify_answers {P : Setup} {s : ToProgram} {req : Request} {property : Nat}
    {content : Content} (h : Good P s) (hserial : req.serial = s.requests.length + 1)
    (hright : ∀ n : Notify, n.content = content → n.property = property → ContentRight P req n) :
    Answers P ({ s with requests := s.requests ++ [req] }.sendNotify req property content) True := by
  have hnew : Answers P ({ s with requests := s.requests ++ [req] }.sendNotify req property content)
      (Right P req _) := answers_new h hserial rfl rfl rfl rfl rfl rfl rfl rfl rfl rfl
  refine hnew.congr ?_
  rw [right_iff]
  exact iff_true_intro (hright _ rfl rfl)

theorem refuse_answers {P : Setup} {s : ToProgram} {req : Request} (h : Good P s)
    (hserial : req.serial = s.requests.length + 1) :
    Answers P ({ s with requests := s.requests ++ [req] }.refuseSelection req) True := by
  refine sendNotify_answers h hserial fun n hn hp => ?_
  rw [ContentRight, hn]
  exact hp

theorem provideSelection_answers {P : Setup} {s : ToProgram} {req : Request} {length : Nat}
    {content : Content} (h : Good P s) (hserial : req.serial = s.requests.length + 1)
    (hlength : length ≤ 8) (hright : ∀ n : Notify, n.content = content → n.property = req.property →
      ContentRight P req n) :
    Answers P ({ s with requests := s.requests ++ [req] }.provideSelection P req length content)
      True := by
  have hlarge := P.large
  rw [provideSelection, if_pos (by omega)]
  exact sendNotify_answers h hserial hright

theorem cachedOrAsk_answers {P : Setup} {s : ToProgram} {req : Request} {clipType : ClipType}
    (h : Good P s) (hserial : req.serial = s.requests.length + 1)
    (hclip : clipTypeOf req.target = some clipType) :
    Answers P ({ s with requests := s.requests ++ [req] }.cachedOrAsk P req clipType)
      (if s.c2s.type = req.target ∧ s.c2s.converted then Kept P s req.target else s.asked = []) := by
  rw [cachedOrAsk]
  by_cases hcached : s.c2s.type = req.target ∧ s.c2s.converted = true
  · rw [if_pos hcached, if_pos hcached]
    obtain ⟨n, hn⟩ := provideSelectionC2s_provided P { s with requests := s.requests ++ [req] } req
    exact (answers_new h hserial hn.serial hn.requests hn.notifies hn.asked hn.saved
      (hn.type hcached.1) hn.clipType hn.inRequest hn.doing hn.overread).congr hn.right
  · rw [if_neg hcached, if_neg hcached]
    exact answers_ask h hserial hclip

theorem length_targets (s : ToProgram) : s.targets.length ≤ 8 := by
  unfold targets
  split <;> split <;> decide

theorem selectionRequest_answers {P : Setup} {s : ToProgram} (h : Good P s)
    (requestor property : Nat) (target : Target) (time : Nat) :
    Answers P (s.selectionRequest P requestor property target time)
      (RequestFits P s property target) := by
  unfold selectionRequest RequestFits answerRequest
  dsimp only
  by_cases hproperty : property = 0
  · rw [if_pos hproperty]
    exact (refuse_answers h rfl).congr (by simp [hproperty])
  · rw [if_neg hproperty]
    cases target with
    | targets =>
      refine (provideSelection_answers h rfl (length_targets _) fun n hn hp => ?_).congr (by simp [clipTypeOf])
      rw [ContentRight, hn]
      exact ⟨hp, rfl⟩
    | timestamp =>
      refine (provideSelection_answers h rfl (by decide) fun n hn hp => ?_).congr (by simp [clipTypeOf])
      rw [ContentRight, hn]
      exact ⟨hp, rfl⟩
    | multiple => exact (refuse_answers h rfl).congr (by simp [clipTypeOf])
    | string => exact (answers_ask h rfl rfl).congr (by simp [clipTypeOf, hproperty])
    | utf8 => exact (answers_ask h rfl rfl).congr (by simp [clipTypeOf, hproperty])
    | imageBmp => exact (cachedOrAsk_answers h rfl rfl).congr (by simp [clipTypeOf, hproperty])
    | file1 => exact (cachedOrAsk_answers h rfl rfl).congr (by simp [clipTypeOf, hproperty])
    | file2 => exact (cachedOrAsk_answers h rfl rfl).congr (by simp [clipTypeOf, hproperty])
    | other atom => exact (refuse_answers h rfl).congr (by simp [clipTypeOf])

/-! ## Responses -/

/-- A SelectionNotify is sent with a response. -/
def Sends (P : Setup) (s : ToProgram) (r : Response) : Prop :=
  match s.c2s.xrdpClipType with
  | .bitmap => r.content ≠ [] ∧ s.c2s.type = .imageBmp
  | .file => True
  | _ => r.content ≠ [] ∧ decodeText P r.content ≠ none

/-- The response has data for the request that it is to.  An image never does: its last 14 bytes are
left out. -/
def HasData (P : Setup) (s : ToProgram) (r : Response) : Prop :=
  match s.c2s.xrdpClipType with
  | .bitmap => False
  | .file => P.fileList r.content ≠ none
  | _ => r.content ≠ [] ∧ decodeText P r.content ≠ none

/-- A text ends with a zero, if there is one. -/
def Ends (s : ToProgram) (r : Response) : Prop :=
  match s.c2s.xrdpClipType with
  | .bitmap => True
  | .file => True
  | _ => r.content ≠ [] → 0 ∈ ClipIn.units r.content

/-- What a response needs: as a text, that it ends; if the client has not been asked, that nothing is
made of it; else that it has not failed, and has data. -/
def ResponseFits (P : Setup) (s : ToProgram) (r : Response) : Prop :=
  Ends s r ∧ if s.asked = [] then ¬ Sends P s r else r.failed = false ∧ HasData P s r

/-- What a handler does with a response: the saved request is answered with the data, if there are any
for it; or nothing is sent; or bytes behind the response are read. -/
inductive Handled (P : Setup) (s s' : ToProgram) (r : Response) : Prop
  | sent (n : Notify) (bytes : List UInt8) (serial : n.serial = s.saved.serial)
      (requests : s'.requests = s.requests) (notifies : s'.notifies = s.notifies ++ [n])
      (asked : s'.asked = s.asked) (saved : s'.saved = s.saved)
      (inRequest : s'.c2s.inRequest = s.c2s.inRequest) (overread : s'.overread = s.overread)
      (right : Right P s.saved n ↔
        Given P s.saved.target (s.sourceOf r) s.announces (some bytes))
      (ends : Ends s r) (sends : Sends P s r)
      (hasData : s.Waits → (convert P s.saved.target r.content = some bytes ↔ HasData P s r))
  | quiet (same : Same s s') (asked : s'.asked = s.asked)
      (inRequest : s'.c2s.inRequest = s.c2s.inRequest) (ends : Ends s r) (sends : ¬ Sends P s r)
      (hasData : ¬ HasData P s r)
  | beyond (overread : s'.overread = true) (ends : ¬ Ends s r)

/-- A response is kept, and given to the saved request. -/
theorem keepAndProvide_handled {P : Setup} {s : ToProgram} {r : Response} {data : List UInt8}
    {len : Nat} (hends : Ends s r) (hsends : Sends P s r)
    (hdata : s.Waits →
      (convert P s.saved.target r.content = some (data.take len) ↔ HasData P s r)) :
    Handled P s (s.keepAndProvide P r data len) r := by
  obtain ⟨n, hn⟩ := provideSelectionC2s_provided P
    { s with
      c2s := { s.c2s with data := data, totalBytes := len, readBytesDone := len }
      source := s.sourceOf r } s.saved
  exact .sent n _ hn.serial hn.requests hn.notifies hn.asked hn.saved hn.inRequest hn.overread hn.right
    hends hsends hdata

theorem length_lt_one {l : List UInt8} : l.length < 1 ↔ l = [] := by
  rw [Nat.lt_one_iff, List.length_eq_zero_iff]

theorem handleText_handled {P : Setup} {s : ToProgram} {r : Response}
    (hsends : Sends P s r ↔ r.content ≠ [] ∧ decodeText P r.content ≠ none)
    (hdata : HasData P s r ↔ r.content ≠ [] ∧ decodeText P r.content ≠ none)
    (hends : Ends s r ↔ (r.content ≠ [] → 0 ∈ ClipIn.units r.content))
    (hclip : clipTypeOf s.saved.target = some s.c2s.xrdpClipType →
      convert P s.saved.target r.content =
        if r.content = [] then none else decodeText P r.content) :
    Handled P s (s.handleText P r) r := by
  unfold handleText
  split
  · rename_i hlen
    have hnil := length_lt_one.1 hlen
    exact .quiet (.refl s) rfl rfl (hends.2 fun hne => absurd hnil hne)
      (fun h => (hsends.1 h).1 hnil) fun h => (hdata.1 h).1 hnil
  · rename_i hlen
    have hne : r.content ≠ [] := fun hnil => hlen (length_lt_one.2 hnil)
    dsimp only
    by_cases hzero : 0 ∈ ClipIn.units r.content
    · rw [readText, if_pos hzero]
      have hends' : Ends s r := hends.2 fun _ => hzero
      cases hdecode : decodeText P r.content with
      | none =>
        exact .quiet ⟨rfl, rfl, rfl, rfl, rfl, rfl⟩ rfl rfl hends' (fun h => (hsends.1 h).2 hdecode)
          fun h => (hdata.1 h).2 hdecode
      | some text =>
        have hboth : r.content ≠ [] ∧ decodeText P r.content ≠ none :=
          ⟨hne, by rw [hdecode]; exact Option.some_ne_none text⟩
        refine keepAndProvide_handled hends' (hsends.2 hboth) fun hwaits => ?_
        rw [hclip hwaits.clipType, if_neg hne, hdecode, List.take_length]
        exact iff_of_true rfl (hdata.2 hboth)
    · have hover : (s.readText r.content).overread = true := by rw [readText, if_neg hzero]
      have hnot : ¬ Ends s r := fun h => hzero (hends.1 h hne)
      cases decodeText P r.content with
      | none => exact .beyond hover hnot
      | some text =>
        obtain ⟨n, hn⟩ := provideSelectionC2s_provided P
          { s.readText r.content with
            c2s := { (s.readText r.content).c2s with
              data := text, totalBytes := text.length, readBytesDone := text.length }
            source := (s.readText r.content).sourceOf r } (s.readText r.content).saved
        exact .beyond (hn.overread.trans hover) hnot

theorem handleResponse_handled {P : Setup} {s : ToProgram} {r : Response} :
    Handled P s (s.handleResponse P r) r := by
  have htext : clipTypeOf s.saved.target = some .text →
      convert P s.saved.target r.content =
        if r.content = [] then none else decodeText P r.content := by
    intro hclip
    cases htarget : s.saved.target <;> rw [htarget] at hclip <;> first | rfl | cases hclip
  unfold handleResponse
  cases hclip : s.c2s.xrdpClipType with
  | bitmap =>
    have hsends : Sends P s r ↔ r.content ≠ [] ∧ s.c2s.type = .imageBmp := by
      unfold Sends
      rw [hclip]
    have hdata : ¬ HasData P s r := by
      unfold HasData
      rw [hclip]
      exact id
    have hends : Ends s r := by
      unfold Ends
      rw [hclip]
      trivial
    show Handled P s (s.handleImage P r) r
    unfold handleImage
    split
    · rename_i hlen
      exact .quiet (.refl s) rfl rfl hends (fun h => (hsends.1 h).1 (length_lt_one.1 hlen)) hdata
    · rename_i hlen
      have hne : r.content ≠ [] := fun hnil => hlen (length_lt_one.2 hnil)
      split
      · rename_i htype
        exact .quiet (.refl s) rfl rfl hends (fun h => htype (hsends.1 h).2) hdata
      · rename_i htype
        refine keepAndProvide_handled hends (hsends.2 ⟨hne, not_not.1 htype⟩) fun hwaits => ?_
        rw [← hwaits.type, not_not.1 htype]
        refine iff_of_false (fun h => ?_) hdata
        rw [convert, if_neg hne] at h
        have hlength := congrArg List.length (Option.some.inj h)
        have hheader : gBmpImageHeader.length = 14 := rfl
        rw [List.length_take, List.length_append, hheader] at hlength
        omega
  | file =>
    have hdata : HasData P s r ↔ P.fileList r.content ≠ none := by
      unfold HasData
      rw [hclip]
    refine keepAndProvide_handled ?_ ?_ fun hwaits => ?_
    · unfold Ends
      rw [hclip]
      trivial
    · unfold Sends
      rw [hclip]
      trivial
    · rw [List.take_length, hdata, hwaits.type]
      have hfile := hwaits.clipType
      rw [hclip] at hfile
      cases htarget : s.saved.target <;> rw [htarget] at hfile <;> try cases hfile
      all_goals cases hlist : P.fileList r.content <;> simp [convert, fileText, hlist]
  | text =>
    refine handleText_handled ?_ ?_ ?_ fun h => htext (h.trans (congrArg some hclip))
    all_goals
      first | unfold Sends | unfold HasData | unfold Ends
      rw [hclip]
  | none =>
    refine handleText_handled ?_ ?_ ?_ fun h => ?_
    · unfold Sends
      rw [hclip]
    · unfold HasData
      rw [hclip]
    · unfold Ends
      rw [hclip]
    · rw [hclip] at h
      cases htarget : s.saved.target <;> rw [htarget] at h <;> cases h

/-- A response to the saved request is right if it has not failed, and the data are its own. -/
theorem given_iff {P : Setup} {s : ToProgram} (hwaits : s.Waits) (r : Response)
    (bytes : List UInt8) : Given P s.saved.target (s.sourceOf r) s.announces (some bytes) ↔
      r.failed = false ∧ convert P s.saved.target r.content = some bytes := by
  have hsource : s.sourceOf r = some ⟨s.saved.target, r.failed, r.content, s.announces⟩ := by
    unfold sourceOf
    rw [hwaits.asked]
    rfl
  rw [hsource]
  constructor
  · rintro ⟨src, hsrc, -, hfailed, -, hbytes⟩
    cases hsrc
    exact ⟨hfailed, hbytes _ rfl⟩
  · rintro ⟨hfailed, hbytes⟩
    refine ⟨_, rfl, rfl, hfailed, rfl, fun b hb => ?_⟩
    cases hb
    exact hbytes

/-- What comes of what a handler does. -/
theorem Handled.answers {P : Setup} {s s' : ToProgram} {r : Response} (hs : Handled P s s' r)
    (h : Good P s) (hin : s.c2s.inRequest = false) : Answers P s'.answered (ResponseFits P s r) := by
  cases hs with
  | beyond hover hends =>
    refine .of_not (fun hholds => ?_) fun hfits => hends hfits.1
    have hinside : s'.overread = false := hholds.inside
    rw [hover] at hinside
    cases hinside
  | sent n bytes hserial hrequests hnotifies hasked hsaved hin' hover hright hends hsends hdata =>
    rcases h.asked with hnone | hwaits
    · refine .of_not (not_holds_of_unasked h hnone hserial hrequests hnotifies) ?_
      rw [ResponseFits, if_pos hnone]
      exact fun hfits => hfits.2 hsends
    · have htail : s'.answered.asked = [] := by
        show s'.asked.tail = []
        rw [hasked, hwaits.asked]
        rfl
      have hfalse : s'.answered.c2s.inRequest = true →
          s'.answered.c2s.doingResponseSs = true := by
        intro htrue
        have htrue' : s'.c2s.inRequest = true := htrue
        rw [hin', hin] at htrue'
        cases htrue'
      have hanswers : Answers P s'.answered (Right P s.saved n) :=
        answers_saved h hwaits hserial hrequests hnotifies htail hsaved hfalse hover
      refine hanswers.congr ?_
      rw [hright, given_iff hwaits, hdata hwaits, ResponseFits, if_neg (by rw [hwaits.asked]; simp),
        and_iff_right hends]
  | quiet hsame hasked hin' hends hsends hdata =>
    rcases h.asked with hnone | hwaits
    · have hgood : Good P s'.answered := by
        refine h.same ⟨hsame.requests, hsame.notifies, hsame.saved, hsame.type, hsame.clipType, hsame.overread⟩ ?_ ?_
        · show s'.asked.tail = s.asked
          rw [hasked, hnone]
          rfl
        · intro htrue
          have htrue' : s'.c2s.inRequest = true := htrue
          rw [hin', hin] at htrue'
          cases htrue'
      refine (Answers.of_good hgood).congr ?_
      rw [ResponseFits, if_pos hnone]
      exact iff_of_true trivial ⟨hends, hsends⟩
    · refine .of_not (not_holds_of_lost hwaits hsame.requests hsame.notifies ?_) ?_
      · show s'.asked.tail = []
        rw [hasked, hwaits.asked]
        rfl
      · rw [ResponseFits, if_neg (by rw [hwaits.asked]; simp)]
        exact fun hfits => hdata hfits.2.2

theorem dataResponse_answers {P : Setup} {s : ToProgram} (h : Good P s) (r : Response) :
    Answers P (s.dataResponse P r) (ResponseFits P s r) := by
  have hgood : Good P { s with c2s := { s.c2s with inRequest := false } } :=
    h.same ⟨rfl, rfl, rfl, rfl, rfl, rfl⟩ rfl fun hin => (nomatch hin)
  exact handleResponse_handled.answers hgood rfl

/-! ## Bytes that go straight on -/

theorem ssMore_same (P : Setup) (s : ToProgram) : Same s (s.ssMore P) ∧ (s.ssMore P).asked = s.asked ∧
    (s.ssMore P).c2s.inRequest = s.c2s.inRequest ∧
    (s.ssMore P).c2s.doingResponseSs = s.c2s.doingResponseSs := by
  unfold ssMore
  split
  · exact ⟨.refl s, rfl, rfl, rfl⟩
  · split
    · exact ⟨.refl s, rfl, rfl, rfl⟩
    · exact ⟨⟨rfl, rfl, rfl, rfl, rfl, rfl⟩, rfl, rfl, rfl⟩

theorem ssPart_same (P : Setup) (s : ToProgram) (data : List UInt8) :
    Same s (s.ssPart P data) ∧ (s.ssPart P data).asked = s.asked ∧
      (s.ssPart P data).c2s.inRequest = s.c2s.inRequest ∧
      (s.ssPart P data).c2s.doingResponseSs = s.c2s.doingResponseSs := by
  unfold ssPart
  dsimp only
  obtain ⟨hsame, hasked, hin, hdoing⟩ := ssMore_same P { s with
    c2s := { s.c2s with
      data := s.c2s.data.take s.c2s.readBytesDone.toNat ++
        if s.c2s.type = .utf8 then lowBytes data else data
      readBytesDone := s.c2s.readBytesDone +
        (if s.c2s.type = .utf8 then lowBytes data else data).length }
    source := s.source.map fun src : Source => src.more data }
  exact ⟨⟨hsame.requests, hsame.notifies, hsame.saved, hsame.type, hsame.clipType, hsame.overread⟩, hasked, hin,
    hdoing⟩

theorem ssEnd_same (P : Setup) (s : ToProgram) : Same s (s.ssEnd P) ∧ (s.ssEnd P).asked = s.asked ∧
    (s.ssEnd P).c2s.inRequest = false := by
  obtain ⟨hsame, hasked, hin, -⟩ := ssMore_same P { s with
    c2s := { s.c2s with doingResponseSs := false, inRequest := false } }
  exact ⟨⟨hsame.requests, hsame.notifies, hsame.saved, hsame.type, hsame.clipType, hsame.overread⟩, hasked, hin⟩

theorem partIn_same {P : Setup} {s : ToProgram} (h : Good P s) (data : List UInt8) (last : Bool) :
    Good P (s.partIn P data last) ∧ Same s (s.partIn P data last) ∧
      (s.partIn P data last).asked = s.asked := by
  unfold partIn
  split
  · rename_i hdoing
    obtain ⟨hsame, hasked, hin, hdoing'⟩ := ssPart_same P s data
    have hpart : Good P (s.ssPart P data) :=
      h.same hsame hasked fun _ => .inl (hdoing'.trans hdoing)
    cases last with
    | false => exact ⟨hpart, hsame, hasked⟩
    | true =>
      obtain ⟨hsame', hasked', hin'⟩ := ssEnd_same P (s.ssPart P data)
      have hend : Good P ((s.ssPart P data).ssEnd P) :=
        hpart.same hsame' hasked' fun htrue => (nomatch hin'.symm.trans htrue)
      exact ⟨hend, hsame.trans hsame', hasked'.trans hasked⟩
  · exact ⟨h, .refl s, rfl⟩

/-- An answer that goes straight on is announced to the saved request. -/
theorem ssStart_answers {P : Setup} {s : ToProgram} (h : Good P s) (hwaits : s.Waits) (failed : Bool)
    (data : List UInt8) (totalBytes : Int) :
    Answers P (s.ssStart P failed data totalBytes) (failed = false) := by
  obtain ⟨hsame, hasked, -, hdoing⟩ := ssPart_same P (s.ssBegin failed totalBytes) data
  have htail : (s.ssStart P failed data totalBytes).asked = [] := by
    show ((s.ssBegin failed totalBytes).ssPart P data).asked.tail = []
    rw [hasked]
    show s.asked.tail = []
    rw [hwaits.asked]
    rfl
  have hanswers : Answers P (s.ssStart P failed data totalBytes) (Right P s.saved _) :=
    answers_saved h hwaits rfl hsame.requests hsame.notifies htail hsame.saved (fun _ => hdoing)
      hsame.overread
  refine hanswers.congr ?_
  have hsource : s.sourceOf ⟨failed, []⟩ = some ⟨s.saved.target, failed, [], s.announces⟩ := by
    unfold sourceOf
    rw [hwaits.asked]
    rfl
  rw [right_iff]
  constructor
  · rintro ⟨-, -, src, hsrc, -, hfailed, -⟩
    rw [← Option.some.inj (hsource.symm.trans hsrc)] at hfailed
    exact hfailed
  · intro hfailed
    exact ⟨rfl, rfl, _, hsource, rfl, hfailed, rfl, fun b hb => (nomatch hb)⟩

/-! ## Steps -/

/-- The condition on an event: on a request and a response, as above; a first part is not of a response
that has failed; and no response is taken for bytes to go straight on while the client has been asked. -/
def ProgramFits (P : Setup) (s : ToProgram) : ProgramEvent → Prop
  | .selectionRequest _ property target _ => RequestFits P s property target
  | .dataResponse r => ResponseFits P s r
  | .firstOfResponse failed _ _ => s.c2s.inRequest = true → failed = false
  | .swallowed _ _ true => s.asked = []
  | _ => True

theorem propertyDelete_good {P : Setup} {s : ToProgram} (h : Good P s) (window atom : Nat) :
    Good P (s.propertyDelete P window atom) := by
  unfold propertyDelete
  split
  · split
    · exact h
    · dsimp only
      split
      · exact h.same ⟨rfl, rfl, rfl, rfl, rfl, rfl⟩ rfl h.inRequest
      · split
        · exact h.same ⟨rfl, rfl, rfl, rfl, rfl, rfl⟩ rfl h.inRequest
        · exact h.same ⟨rfl, rfl, rfl, rfl, rfl, rfl⟩ rfl h.inRequest
  · exact h

/-- A first part comes only where nothing goes straight on. -/
def Possible (s : ToProgram) : ProgramEvent → Prop
  | .firstOfResponse _ _ _ => s.c2s.doingResponseSs = false
  | _ => True

theorem swallowed_answers {P : Setup} {s : ToProgram} (h : Good P s) (data : List UInt8)
    (last response : Bool) : Answers P (s.step P (.swallowed data last response))
      (ProgramFits P s (.swallowed data last response)) := by
  obtain ⟨hgood, hsame, hasked⟩ := partIn_same h data last
  cases response with
  | false => exact .of_good (hgood.same ⟨rfl, rfl, rfl, rfl, rfl, rfl⟩ rfl hgood.inRequest)
  | true =>
    show Answers P ((s.partIn P data last).answered) (s.asked = [])
    rcases h.asked with hnone | hwaits
    · have hstep : Good P ((s.partIn P data last).answered) := by
        have hnone' : (s.partIn P data last).answered.asked = (s.partIn P data last).asked := by
          show (s.partIn P data last).asked.tail = (s.partIn P data last).asked
          rw [hasked, hnone]
          rfl
        refine hgood.same ⟨rfl, rfl, rfl, rfl, rfl, rfl⟩ hnone' fun hin => ?_
        rw [hnone']
        exact hgood.inRequest hin
      exact (Answers.of_good hstep).congr (iff_of_true trivial hnone)
    · refine .of_not (not_holds_of_lost hwaits hsame.requests hsame.notifies ?_) ?_
      · show (s.partIn P data last).asked.tail = []
        rw [hasked, hwaits.asked]
        rfl
      · rw [hwaits.asked]
        simp

/-- **A step towards programs** keeps the promise just if its event meets its condition. -/
theorem step_answers {P : Setup} {s : ToProgram} (h : Good P s) (e : ProgramEvent)
    (hpossible : s.Possible e) : Answers P (s.step P e) (ProgramFits P s e) := by
  cases e with
  | selectionRequest requestor property target time =>
    exact selectionRequest_answers h requestor property target time
  | formatAnnounce formats owner => exact .of_good (h.same ⟨rfl, rfl, rfl, rfl, rfl, rfl⟩ rfl h.inRequest)
  | dataResponse r => exact dataResponse_answers h r
  | firstOfResponse failed data totalBytes =>
    show Answers P (if s.c2s.inRequest then s.ssStart P failed data totalBytes else s)
      (s.c2s.inRequest = true → failed = false)
    split
    · rename_i hin
      have hwaits : s.Waits := by
        refine h.asked.resolve_left fun hnone => ?_
        rcases h.inRequest hin with hdoing | hne
        · have hnot : s.c2s.doingResponseSs = false := hpossible
          exact Bool.false_ne_true (hnot.symm.trans hdoing)
        · exact hne hnone
      exact (ssStart_answers h hwaits failed data totalBytes).congr (by simp [hin])
    · rename_i hin
      exact (Answers.of_good h).congr (by simp [hin])
  | part data last => exact .of_good (partIn_same h data last).1
  | swallowed data last response => exact swallowed_answers h data last response
  | propertyDelete window atom => exact .of_good (propertyDelete_good h window atom)

end ToProgram

end Xrdp.Chansrv.ClipRequests
