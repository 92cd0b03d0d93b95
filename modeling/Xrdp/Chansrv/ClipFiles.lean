import Mathlib.Algebra.Group.Int.Defs
import Mathlib.Algebra.Group.Nat.Defs
import Xrdp.Lib.Runs

/-!
# Reading files of the client's clipboard

Files that are on the client's clipboard show in a directory.  A read of one waits in a list
(`g_req_list` in `sesman/chansrv/chansrv_fuse.c`) until the client has answered those before it; a
request to the client says which file of its list is meant by its index, and the answer says nothing of
the request (`sesman/chansrv/clipboard_file.c`).

* `ClipFiles`, `clipStep` — the state, and what reads, new lists and answers do.
* `Right` — what a read should come to; `Holds` — that, in order, with one request at a time.
* `clip_reads_iff` — the runs in which it holds.
-/

namespace Xrdp.Chansrv

open Runs

/-! ## State -/

/-- `g_file_request_sent_type`. -/
inductive SentType where
  | none
  | size
  | range
  deriving DecidableEq, Repr

/-- What a number is as an `int`. -/
def asInt (v : Int) : Int := v.bmod (2 ^ 32)

/-- What FUSE asks for: `off_t off` and `size_t size`. -/
structure ReadRange where
  off : Int
  size : Nat
  deriving DecidableEq, Repr

/-- `struct req_list_item`, whose `off` and `size` are of type `int`, with what has been asked for and the
number of the list that the index is of. -/
structure ReqListItem where
  req : Nat
  streamId : Nat
  lindex : Nat
  off : Int
  size : Int
  range : ReadRange
  list : Nat
  deriving DecidableEq, Repr

/-- The item of a read. -/
def ReqListItem.ofRead (req lindex : Nat) (range : ReadRange) (list : Nat) : ReqListItem :=
  ⟨req, 0, lindex, asInt range.off, asInt range.size, range, list⟩

/-- A file-contents request, and the item that it has been sent for. -/
structure FileRequest where
  lindex : Nat
  nPositionLow : Nat
  nPositionHigh : Nat
  cbRequested : Nat
  item : ReqListItem
  deriving DecidableEq, Repr

/-- A file of the clipboard directory: its index, and the number of the list it has come with. -/
structure ClipFile where
  lindex : Nat
  list : Nat
  deriving DecidableEq, Repr

/-- A file-contents response: its status, its `clip_msg_len`, and what has been received behind the
header. -/
structure FileResponse where
  failed : Bool
  msgLen : Int
  received : List UInt8
  deriving DecidableEq, Repr

/-- What FUSE is given: `fuse_reply_buf` with what there is at the pointer and the length said, or an
error. -/
inductive ReadReply where
  | buf (data : List UInt8) (len : Int)
  | err (status : Nat)
  deriving DecidableEq, Repr

/-- An answer to a read, with the request that the client has responded to, the response, and the
number of lists by then. -/
structure ReadAnswer where
  item : ReqListItem
  reply : ReadReply
  response : Option (FileRequest × FileResponse)
  list : Nat
  deriving DecidableEq, Repr

/-- The globals, and what has gone on. -/
structure ClipFiles where
  sentType : SentType
  reqList : List ReqListItem
  inodes : Nat → Option ClipFile
  /-- How many lists there have been. -/
  list : Nat
  /-- The requests that the client has not responded to. -/
  outstanding : List FileRequest
  reads : List Nat
  answers : List ReadAnswer

def ClipFiles.start : ClipFiles := ⟨.none, [], fun _ => none, 0, [], [], []⟩

/-! ## Functions -/

/-- What `clipboard_request_file_data` sends: the upper half of the position is zero. -/
def ReqListItem.request (item : ReqListItem) : FileRequest where
  lindex := item.lindex
  nPositionLow := (item.off % 2 ^ 32).toNat
  nPositionHigh := 0
  cbRequested := (item.size % 2 ^ 32).toNat
  item := item

/-- `clipboard_request_file_data`. -/
def clipboardRequestFileData (s : ClipFiles) (item : ReqListItem) : ClipFiles :=
  { s with outstanding := s.outstanding ++ [item.request], sentType := .range }

/-- `xfuse_cb_read` of a file of the directory. -/
def xfuseCbReadClip (s : ClipFiles) (req ino : Nat) (range : ReadRange) : ClipFiles :=
  let s := { s with reads := s.reads ++ [req] }
  match s.inodes ino with
  | none =>
    { s with answers := s.answers ++ [⟨.ofRead req 0 range s.list, .buf [] 0, none, s.list⟩] }
  | some x =>
    let item := ReqListItem.ofRead req x.lindex range x.list
    let s := { s with reqList := s.reqList ++ [item] }
    if s.reqList.length = 1 then clipboardRequestFileData s item else s

/-- `xfuse_clear_clip_dir`: files that are open stay until they are closed. -/
def xfuseClearClipDir (s : ClipFiles) (isOpen : Nat → Bool) : ClipFiles :=
  { s with inodes := fun i => if isOpen i then s.inodes i else none, list := s.list + 1 }

/-- `xfuse_add_clip_dir_item`, which gets inode `ino`. -/
def xfuseAddClipDirItem (s : ClipFiles) (ino lindex : Nat) : ClipFiles :=
  { s with inodes := fun i => if i = ino then some ⟨lindex, s.list⟩ else s.inodes i }

/-- `clipboard_c2s_in_files`: the files that are not directories, with their inodes. -/
def clipboardC2sInFiles (s : ClipFiles) (isOpen : Nat → Bool) (files : List (Nat × Nat)) : ClipFiles :=
  files.foldl (fun s f => xfuseAddClipDirItem s f.1 f.2) (xfuseClearClipDir s isOpen)

/-- `xfuse_file_contents_range`; `response` is what the client has responded to, and how. -/
def xfuseFileContentsRange (s : ClipFiles) (data : List UInt8) (dataBytes : Int)
    (response : Option (FileRequest × FileResponse)) : ClipFiles :=
  match s.reqList with
  | [] => s
  | item :: rest =>
    let s := { s with
      answers := s.answers ++ [⟨item, .buf data dataBytes, response, s.list⟩], reqList := rest }
    match rest with
    | [] => s
    | item :: _ => clipboardRequestFileData s item

/-- `clipboard_process_file_response`: the status is not looked at. -/
def clipboardProcessFileResponse (s : ClipFiles) (r : FileResponse) : ClipFiles :=
  let response := s.outstanding.head?.map fun request => (request, r)
  let s := { s with outstanding := s.outstanding.tail }
  match s.sentType with
  | .size => { s with sentType := .none }
  | .range => xfuseFileContentsRange { s with sentType := .none } (r.received.drop 4) (r.msgLen - 4) response
  | .none => { s with sentType := .none }

/-- What happens. -/
inductive ClipEvent where
  | read (req ino : Nat) (range : ReadRange)
  /-- `clipboard_process_format_announce`. -/
  | announce (isOpen : Nat → Bool)
  | files (isOpen : Nat → Bool) (files : List (Nat × Nat))
  | response (r : FileResponse)

def clipStep (s : ClipFiles) : ClipEvent → ClipFiles
  | .read req ino range => xfuseCbReadClip s req ino range
  | .announce isOpen => xfuseClearClipDir s isOpen
  | .files isOpen files => clipboardC2sInFiles s isOpen files
  | .response r => clipboardProcessFileResponse s r

def ClipNext (s : ClipFiles) (e : ClipEvent) (s' : ClipFiles) : Prop := clipStep s e = s'

/-! ## What is promised -/

/-- A request is the read's own: it has been sent for it, and asks for that range of the file. -/
def FileRequest.Own (request : FileRequest) (item : ReqListItem) : Prop :=
  request.item = item ∧ request.lindex = item.lindex ∧
    (request.nPositionLow + 2 ^ 32 * request.nPositionHigh : Int) = item.range.off ∧
    request.cbRequested = item.range.size

/-- A read comes to the bytes of the response to its own request, and no more than there are; to an
error if that has failed, or there has been a new list since. -/
def Right (a : ReadAnswer) : Prop :=
  match a.response with
  | none => ∃ e, a.reply = .err e
  | some (asked, r) =>
    asked.Own a.item ∧
      if r.failed ∨ a.item.list ≠ a.list then ∃ e, a.reply = .err e
      else ∃ len : Int, a.reply = .buf (r.received.drop 4) len ∧ 0 ≤ len ∧
        len ≤ (r.received.drop 4).length

/-- One request at a time; each read is answered once, in its turn, and rightly. -/
structure Holds (s : ClipFiles) : Prop where
  outstanding : s.outstanding.length ≤ 1
  order : s.answers.map (·.item.req) ++ s.reqList.map (·.req) = s.reads
  right : ∀ a ∈ s.answers, Right a

/-- The first read that waits is the one the client has been asked for. -/
structure Good (s : ClipFiles) : Prop extends Holds s where
  asked : s.outstanding = (s.reqList.take 1).map ReqListItem.request
  sentType : s.sentType = if s.reqList = [] then .none else .range
  items : ∀ item ∈ s.reqList, item = .ofRead item.req item.lindex item.range item.list

theorem good_start : Good .start :=
  ⟨⟨Nat.zero_le _, rfl, fun _ h => absurd h List.not_mem_nil⟩, rfl, rfl,
    fun _ h => absurd h List.not_mem_nil⟩

/-- The range can be said in a request: the position in its lower half, and the size. -/
def ReadRange.Fits (range : ReadRange) : Prop :=
  0 ≤ range.off ∧ range.off < 2 ^ 32 ∧ range.size < 2 ^ 32

instance (range : ReadRange) : Decidable range.Fits := by unfold ReadRange.Fits; infer_instance

/-- The condition: a read is of a file that there is; the range of a read that is responded to can be said in a
request, and the response has not failed, comes while the list of the read is the last one, and says a length
that it has. -/
def ClipFits (s : ClipFiles) : ClipEvent → Prop
  | .read _ ino _ => s.inodes ino ≠ none
  | .response r => ∀ item ∈ s.reqList.head?, item.range.Fits ∧ r.failed = false ∧ item.list = s.list ∧
      4 ≤ r.msgLen ∧ r.msgLen - 4 ≤ (r.received.drop 4).length
  | _ => True

/-! ## Steps -/

theorem clipNext_unique (s : ClipFiles) (e : ClipEvent) (s₁ s₂ : ClipFiles) (h₁ : ClipNext s e s₁)
    (h₂ : ClipNext s e s₂) : s₁ = s₂ := h₁.symm.trans h₂

/-- What a new list does to the reads. -/
theorem Good.congr {s s' : ClipFiles} (h : Good s) (hsent : s'.sentType = s.sentType)
    (hreq : s'.reqList = s.reqList) (hout : s'.outstanding = s.outstanding)
    (hreads : s'.reads = s.reads) (hans : s'.answers = s.answers) : Good s' where
  outstanding := hout ▸ h.outstanding
  order := by rw [hans, hreq, hreads, h.order]
  right := hans ▸ h.right
  asked := by rw [hout, hreq, h.asked]
  sentType := by rw [hsent, hreq, h.sentType]
  items := hreq ▸ h.items

theorem clipboardC2sInFiles_good {s : ClipFiles} (h : Good s) (isOpen : Nat → Bool)
    (files : List (Nat × Nat)) : Good (clipboardC2sInFiles s isOpen files) := by
  have hclear : Good (xfuseClearClipDir s isOpen) := h.congr rfl rfl rfl rfl rfl
  rw [clipboardC2sInFiles]
  generalize xfuseClearClipDir s isOpen = s' at hclear
  induction files generalizing s' with
  | nil => exact hclear
  | cons f files ih => exact ih _ (hclear.congr rfl rfl rfl rfl rfl)

/-- A read of a file that there is waits, and the client is asked for it if it is the only one. -/
theorem xfuseCbReadClip_good {s : ClipFiles} (h : Good s) {req ino : Nat} {range : ReadRange}
    (hino : s.inodes ino ≠ none) : Good (xfuseCbReadClip s req ino range) := by
  obtain ⟨x, hx⟩ := Option.ne_none_iff_exists'.1 hino
  have hitems : ∀ item ∈ s.reqList ++ [.ofRead req x.lindex range x.list],
      item = .ofRead item.req item.lindex item.range item.list := by
    intro item hitem
    rcases List.mem_append.1 hitem with hitem | hitem
    · exact h.items item hitem
    · rw [List.mem_singleton.1 hitem]
      rfl
  simp only [xfuseCbReadClip, hx]
  split
  case isTrue hone =>
    have hnil : s.reqList = [] := by
      simpa using hone
    constructor
    · constructor
      · show (s.outstanding ++ [_]).length ≤ 1
        rw [h.asked, hnil]
        rfl
      · show s.answers.map _ ++ (s.reqList ++ [_]).map _ = s.reads ++ [req]
        rw [List.map_append, ← List.append_assoc, h.order]
        rfl
      · exact h.right
    · show s.outstanding ++ [_] = ((s.reqList ++ [_]).take 1).map _
      rw [h.asked, hnil]
      rfl
    · show SentType.range = if s.reqList ++ [_] = [] then .none else .range
      rw [if_neg (List.append_ne_nil_of_right_ne_nil _ (List.cons_ne_nil _ _))]
    · exact hitems
  case isFalse hone =>
    have hne : s.reqList ≠ [] := by
      intro hnil
      exact hone (by simp [hnil])
    constructor
    · constructor
      · exact h.outstanding
      · show s.answers.map _ ++ (s.reqList ++ [_]).map _ = s.reads ++ [req]
        rw [List.map_append, ← List.append_assoc, h.order]
        rfl
      · exact h.right
    · show s.outstanding = ((s.reqList ++ [_]).take 1).map _
      rw [h.asked, List.take_append_of_le_length (List.length_pos_of_ne_nil hne)]
    · show s.sentType = if s.reqList ++ [_] = [] then .none else .range
      rw [h.sentType, if_neg hne,
        if_neg (List.append_ne_nil_of_right_ne_nil _ (List.cons_ne_nil _ _))]
    · exact hitems

/-- A read of a file that there is not is answered with nothing, and not with an error. -/
theorem xfuseCbReadClip_not_holds {s : ClipFiles} {req ino : Nat} {range : ReadRange}
    (hino : s.inodes ino = none) : ¬ Holds (xfuseCbReadClip s req ino range) := by
  intro h
  simp only [xfuseCbReadClip, hino] at h
  obtain ⟨e, he⟩ := h.right _ (List.mem_append_right _ (List.mem_singleton_self _))
  cases he

/-- A response answers the first read, and the client is asked for the next. -/
theorem clipboardProcessFileResponse_eq {s : ClipFiles} (h : Good s) {item : ReqListItem}
    {rest : List ReqListItem} (hreq : s.reqList = item :: rest) (r : FileResponse) :
    clipboardProcessFileResponse s r = { s with
      outstanding := (rest.take 1).map ReqListItem.request
      sentType := if rest = [] then .none else .range
      reqList := rest
      answers := s.answers ++
        [⟨item, .buf (r.received.drop 4) (r.msgLen - 4), some (item.request, r), s.list⟩] } := by
  have hsent : s.sentType = .range := by
    rw [h.sentType, hreq]
    rfl
  have hout : s.outstanding = [item.request] := by
    rw [h.asked, hreq]
    rfl
  simp only [clipboardProcessFileResponse, hsent, hout, xfuseFileContentsRange, hreq]
  cases rest with
  | nil => rfl
  | cons next rest => rfl

/-- A response that nothing has been asked for does nothing. -/
theorem clipboardProcessFileResponse_nil {s : ClipFiles} (h : Good s) (hreq : s.reqList = [])
    (r : FileResponse) : clipboardProcessFileResponse s r = s := by
  have hsent : s.sentType = .none := by
    rw [h.sentType, if_pos hreq]
  have hout : s.outstanding = [] := by
    rw [h.asked, hreq]
    rfl
  obtain ⟨sentType, reqList, inodes, list, outstanding, reads, answers⟩ := s
  cases hsent
  cases hout
  rfl

theorem asInt_emod (v : Int) : asInt v % 2 ^ 32 = v % 2 ^ 32 := Int.bmod_emod

/-- The request for a read asks for the range that a request can say. -/
theorem own_iff {item : ReqListItem} {req lindex list : Nat} {range : ReadRange}
    (hitem : item = .ofRead req lindex range list) : item.request.Own item ↔ item.range.Fits := by
  subst hitem
  simp only [FileRequest.Own, ReqListItem.request, ReqListItem.ofRead, ReadRange.Fits, asInt_emod, true_and]
  constructor
  · rintro ⟨hoff, hsize⟩
    omega
  · rintro ⟨hlow, hhigh, hsize⟩
    omega

/-- When the answer that a response leads to is right. -/
theorem right_iff {item : ReqListItem} (hitem : item = .ofRead item.req item.lindex item.range item.list)
    (r : FileResponse) (list : Nat) :
    Right ⟨item, .buf (r.received.drop 4) (r.msgLen - 4), some (item.request, r), list⟩ ↔
      item.range.Fits ∧ r.failed = false ∧ item.list = list ∧ 4 ≤ r.msgLen ∧
        r.msgLen - 4 ≤ (r.received.drop 4).length := by
  simp only [Right]
  refine and_congr (own_iff hitem) ?_
  split
  case isTrue hbad =>
    refine iff_of_false (fun ⟨e, he⟩ => nomatch he) ?_
    rintro ⟨hfailed, hlist, -⟩
    rcases hbad with hbad | hbad
    · exact Bool.false_ne_true (hfailed.symm.trans hbad)
    · exact hbad hlist
  case isFalse hgood =>
    obtain ⟨hfailed, hlist⟩ := not_or.1 hgood
    constructor
    · rintro ⟨len, heq, hlow, hhigh⟩
      cases heq
      exact ⟨Bool.eq_false_iff.2 hfailed, not_not.1 hlist, by omega, hhigh⟩
    · rintro ⟨-, -, hlow, hhigh⟩
      exact ⟨_, rfl, by omega, hhigh⟩

theorem clipboardProcessFileResponse_stepIff {s : ClipFiles} (h : Good s) (r : FileResponse) :
    StepIff ClipNext Holds Good ClipFits s (.response r) := by
  cases hreq : s.reqList with
  | nil =>
    have hnext : ClipNext s (.response r) s := clipboardProcessFileResponse_nil h hreq r
    refine StepIff.of_next clipNext_unique hnext (iff_of_true h.toHolds ?_) (fun _ => h)
    intro item hitem
    rw [hreq] at hitem
    cases hitem
  | cons item rest =>
    have horder := h.order
    rw [hreq] at horder
    have heq := clipboardProcessFileResponse_eq h hreq r
    have hfits : ClipFits s (.response r) ↔
        Right ⟨item, .buf (r.received.drop 4) (r.msgLen - 4), some (item.request, r), s.list⟩ := by
      have hitem := h.items item (by simp [hreq])
      rw [right_iff hitem]
      simp [ClipFits, hreq]
    refine StepIff.of_next clipNext_unique heq ?_ ?_
    · rw [hfits]
      constructor
      · intro hok
        exact hok.right _ (List.mem_append_right _ (List.mem_singleton_self _))
      · intro hright
        have hone : (List.map ReqListItem.request (List.take 1 rest)).length ≤ 1 := by
          rw [List.length_map, List.length_take]
          exact Nat.min_le_left 1 _
        refine ⟨hone, by simpa using horder, ?_⟩
        intro a ha
        rcases List.mem_append.1 ha with ha | ha
        · exact h.right a ha
        · rwa [List.mem_singleton.1 ha]
    · exact fun hok => ⟨hok, rfl, rfl, fun item' hitem' => h.items item' (by simp [hreq, hitem'])⟩

theorem clipNext_stepIff (s : ClipFiles) (e : ClipEvent) (h : Good s) :
    StepIff ClipNext Holds Good ClipFits s e := by
  cases e with
  | read req ino range =>
    by_cases hino : s.inodes ino = none
    · refine StepIff.of_next clipNext_unique rfl ?_ ?_
      · exact iff_of_false (xfuseCbReadClip_not_holds hino) (not_not.2 hino)
      · exact fun hok => absurd hok (xfuseCbReadClip_not_holds hino)
    · have hgood := @xfuseCbReadClip_good s h req ino range hino
      exact StepIff.of_next clipNext_unique rfl (iff_of_true hgood.toHolds hino) (fun _ => hgood)
  | announce isOpen =>
    have hgood : Good (xfuseClearClipDir s isOpen) := h.congr rfl rfl rfl rfl rfl
    exact StepIff.of_next clipNext_unique rfl (iff_of_true hgood.toHolds trivial) (fun _ => hgood)
  | files isOpen files =>
    have hgood := clipboardC2sInFiles_good h isOpen files
    exact StepIff.of_next clipNext_unique rfl (iff_of_true hgood.toHolds trivial) (fun _ => hgood)
  | response r => exact clipboardProcessFileResponse_stepIff h r

/-! ## Runs -/

/-- **Reads get their own data** just in the runs whose reads are of files that there are, and whose
responses to reads are to ranges that a request can say, have not failed, come before a new list, and are as
long as they say. -/
theorem clip_reads_iff (es : List ClipEvent) :
    Always ClipNext Holds .start es ↔ AllFit ClipNext ClipFits .start es :=
  always_iff clipNext_unique (fun _ h => h.toHolds) clipNext_stepIff good_start es

/-- The client says that it cannot read the file, and the program is given an empty one. -/
theorem failed_response_read : ¬ Always ClipNext Holds .start
    [.files (fun _ => false) [(17, 0)], .read 1 17 ⟨0, 4096⟩, .response ⟨true, 4, [0, 0, 0, 0]⟩] := by
  intro h
  obtain ⟨s, hleads, hholds⟩ := h _ (List.prefix_refl _)
  obtain rfl := leads_fun.1 hleads
  let item := ReqListItem.ofRead 1 0 ⟨0, 4096⟩ 1
  have hanswer : (⟨item, .buf [] 0, some (item.request, ⟨true, 4, [0, 0, 0, 0]⟩), 1⟩ : ReadAnswer) ∈
      (clipStep (clipStep (clipStep .start (.files (fun _ => false) [(17, 0)]))
        (.read 1 17 ⟨0, 4096⟩)) (.response ⟨true, 4, [0, 0, 0, 0]⟩)).answers :=
    List.mem_singleton_self _
  have hitem : item = .ofRead item.req item.lindex item.range item.list := rfl
  have hright := (right_iff hitem ⟨true, 4, [0, 0, 0, 0]⟩ 1).1 (hholds.right _ hanswer)
  exact Bool.noConfusion hright.2.1

end Xrdp.Chansrv
