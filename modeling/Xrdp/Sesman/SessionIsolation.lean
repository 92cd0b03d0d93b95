import Xrdp.Scp.LoginRoundTrip
import Xrdp.Sesman.Session

/-!
# Whose sessions a user gets

* `Created` — a session in the table, with the user it was created for.
* `Isolated` — in no table does one user get or list the sessions of another.
* `TellsApart` — how the lookups compare names: those for reconnecting look at 255 characters,
  those for listing do not tell upper from lower case.
* `session_isolation_iff` — the users that are isolated.
-/

namespace Xrdp.Sesman

open Xrdp.Scp

/-- A session in the table, and the user it was created for. -/
structure Created where
  owner : CString
  item : SessionItem
  stored : item.name = storedString (some owner) 255

/-- The chain of a table. -/
def chainOf (table : List Created) : List SessionItem := table.map (·.item)

/-- Whatever the policy and the table, a user neither gets nor lists the sessions that were created
for another. -/
structure Isolated (name other : CString) : Prop where
  /-- `session_get_bydata` returns none of them. -/
  get : ∀ cfg (table : List Created) (r : DataRequest), r.name = name →
    ∀ k, sessionGetBydata cfg (chainOf table) r = some k →
      ∀ e, table[k]? = some e → e.owner ≠ other
  /-- `session_get_byuser` lists what it would list if there were none of them. -/
  list : ∀ (table : List Created) flags memory,
    sessionGetByuser (chainOf table) (some name) flags memory =
      sessionGetByuser (chainOf (table.filter (·.owner ≠ other))) (some name) flags memory

/-- The names differ in their first 255 characters, and, up to case, the name is not what is stored
of the other. -/
structure TellsApart (name other : CString) : Prop where
  get : name.chars.take 255 ≠ other.chars.take 255
  list : name.chars.length ≤ 255 →
    name.chars.map toLower ≠ (other.chars.take 255).map toLower

/-- What is stored of a name. -/
theorem storedString_chars (s : CString) (n : Nat) :
    (storedString (some s) n).chars = s.chars.take n := by
  let cut : CString := ⟨s.chars.take n, fun h => s.noNul (List.mem_of_mem_take h)⟩
  have hzeros : gStrncpy s n = cut.chars ++ List.replicate (n - s.chars.length + 1) 0 := by
    rw [gStrncpy, List.append_assoc, List.replicate_succ']
  have hbuf : storedString (some s) n = cut := by
    change CString.ofBuf (gStrncpy s n) = cut
    rw [hzeros]
    exact cut.ofBuf_append _
  rw [hbuf]

section

variable {name : CString} {e : Created}

/-- The comparison when a session is looked for. -/
theorem gStrncmpZero_stored :
    gStrncmpZero name e.item.name 255 = true ↔ name.chars.take 255 = e.owner.chars.take 255 := by
  rw [gStrncmpZero, decide_eq_true_iff, e.stored, storedString_chars, List.take_take, Nat.min_self]

/-- The comparison when sessions are listed. -/
theorem gStrncasecmpZero_stored :
    gStrncasecmpZero name e.item.name 256 = true ↔ name.chars.length ≤ 255 ∧
      name.chars.map toLower = (e.owner.chars.take 255).map toLower := by
  have hstored : (e.owner.chars.take 255).take 256 = e.owner.chars.take 255 := by
    rw [List.take_take]
    rfl
  rw [gStrncasecmpZero, decide_eq_true_iff, e.stored, storedString_chars, hstored]
  constructor
  · intro h
    have hlen := congrArg List.length h
    rw [List.length_map, List.length_map, List.length_take, List.length_take] at hlen
    have hle : name.chars.length ≤ 255 := by omega
    rw [List.take_of_length_le (by omega)] at h
    exact ⟨hle, h⟩
  · rintro ⟨hle, h⟩
    rwa [List.take_of_length_le (by omega)]

end

/-! ## Names that are told apart -/

theorem TellsApart.isolated {name other : CString} (h : TellsApart name other) :
    Isolated name other := by
  constructor
  · rintro cfg table r rfl k hk e he rfl
    unfold sessionGetBydata at hk
    obtain ⟨type, -, hfind⟩ := Option.bind_eq_some_iff.1 hk
    obtain ⟨item, hitem, hmatch⟩ : ∃ item, (chainOf table)[k]? = some item ∧
        item.matchesData _ type r = true := by
      obtain ⟨hlt, hmatch, -⟩ := List.findIdx?_eq_some_iff_getElem.1 hfind
      exact ⟨_, List.getElem?_eq_getElem hlt, hmatch⟩
    have hsame : e.item = item := by
      rw [chainOf, List.getElem?_map, he] at hitem
      exact Option.some_inj.1 hitem
    subst hsame
    simp only [SessionItem.matchesData, Bool.and_eq_true] at hmatch
    exact h.get (gStrncmpZero_stored.1 hmatch.1.1.1.1.1)
  · intro table flags memory
    unfold sessionGetByuser
    cases memory with
    | false => rfl
    | true =>
      rw [if_pos rfl, if_pos rfl]
      congr 1
      induction table with
      | nil => rfl
      | cons e table ih =>
        by_cases he : e.owner = other
        · -- the session of the other does not match
          have hno : ¬ e.item.matchesUser (some name) flags = true := by
            intro hmatch
            simp only [SessionItem.matchesUser, Bool.and_eq_true] at hmatch
            obtain ⟨hle, hname⟩ := gStrncasecmpZero_stored.1 hmatch.1
            exact h.list hle (he ▸ hname)
          rw [List.filter_cons_of_neg (by simpa using he), ← ih, chainOf, List.map_cons,
            List.filter_cons, if_neg hno]
          rfl
        · rw [List.filter_cons_of_pos (by simpa using he), chainOf, chainOf, List.map_cons,
            List.map_cons, List.filter_cons, List.filter_cons]
          rw [chainOf, chainOf] at ih
          rw [ih]

/-! ## Names that are not -/

/-- A session that a user has started. -/
def Created.ofStart (owner : CString) : Created where
  owner := owner
  item := StartRequest.newItem
    { data := 0, type := SESMAN_SESSION_TYPE_XRDP, width := 800, height := 600, bpp := 24,
      clientIp := none, username := some owner, guid := List.replicate 16 0 } 1000 10
    { year := 2020, month := 1, day := 1, hour := 0, minute := 0 }
  stored := rfl

/-- What another user asks for. -/
def askFor (name : CString) : DataRequest where
  name := name
  width := 800
  height := 600
  bpp := 24
  type := SCP_SESSION_TYPE_XRDP
  clientIp := ⟨[], noNul_nil⟩

theorem Isolated.tellsApart {name other : CString} (h : Isolated name other) :
    TellsApart name other := by
  constructor
  · intro hsame
    let cfg : SessConfig := { x11DisplayOffset := 10, maxSessions := 50, policy := ⟨false, false, false⟩ }
    have hzero : gStrncmpZero name (Created.ofStart other).item.name 255 = true :=
      gStrncmpZero_stored.2 hsame
    have hmatch : (Created.ofStart other).item.matchesData ⟨false, false, false⟩
        SESMAN_SESSION_TYPE_XRDP (askFor name) = true := by
      simp only [SessionItem.matchesData, Bool.and_eq_true]
      exact ⟨⟨⟨⟨⟨hzero, rfl⟩, rfl⟩, rfl⟩, rfl⟩, rfl⟩
    have hget : sessionGetBydata cfg (chainOf [.ofStart other]) (askFor name) = some 0 := by
      change (some SESMAN_SESSION_TYPE_XRDP).bind (fun type => List.findIdx?
        (·.matchesData ⟨false, false, false⟩ type (askFor name)) [(Created.ofStart other).item]) =
          some 0
      rw [Option.bind_some, List.findIdx?_cons]
      exact if_pos hmatch
    exact h.get cfg [.ofStart other] (askFor name) rfl 0 hget _ rfl rfl
  · intro hle hsame
    have hzero : gStrncasecmpZero name (Created.ofStart other).item.name 256 = true :=
      gStrncasecmpZero_stored.2 ⟨hle, hsame⟩
    have hmatch : (Created.ofStart other).item.matchesUser (some name) SESMAN_SESSION_STATUS_ALL =
        true := by
      simp only [SessionItem.matchesUser, Bool.and_eq_true]
      refine ⟨hzero, ?_⟩
      change (SESMAN_SESSION_STATUS_ACTIVE &&& SESMAN_SESSION_STATUS_ALL != 0) = true
      decide
    have hlist := h.list [.ofStart other] SESMAN_SESSION_STATUS_ALL true
    have hnone : [Created.ofStart other].filter (·.owner ≠ other) = [] := by
      simp [Created.ofStart]
    rw [hnone] at hlist
    change ([(Created.ofStart other).item].filter _).map _ = [] at hlist
    rw [List.filter_cons, if_pos hmatch] at hlist
    cases hlist

/-- A user is isolated from another just if the lookups tell their names apart. -/
theorem session_isolation_iff (name other : CString) :
    Isolated name other ↔ TellsApart name other :=
  ⟨fun h => h.tellsApart, fun h => h.isolated⟩

/-- `alice` lists the sessions of `Alice`. -/
theorem alice_not_isolated : ∃ name other : CString, name ≠ other ∧ ¬ Isolated name other := by
  refine ⟨⟨[0x61, 0x6C, 0x69, 0x63, 0x65], by decide⟩, ⟨[0x41, 0x6C, 0x69, 0x63, 0x65], by decide⟩,
    by decide, fun h => ?_⟩
  have hlist := h.list [.ofStart ⟨[0x41, 0x6C, 0x69, 0x63, 0x65], by decide⟩]
    SESMAN_SESSION_STATUS_ALL true
  revert hlist
  decide

end Xrdp.Sesman
