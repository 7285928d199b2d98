/-
The general form of addresses in normal form.

Where an address is sent, it is only looked at for its general form, by other
rules than those it was read by. What is escaped in a normal form satisfies them,
and its colons and brackets are few and at their places. What can fail is the
length, and the host: a domain keeps quotes, backticks and braces, which the
general form does not allow there.
-/
import Mathlib.Data.List.TakeWhile
import SearchRest.Url.Syntax
import SearchRest.Proofs.Url.Rereading

set_option autoImplicit false

namespace SearchRest.AddressSyntax

/-! ## The scan of a host -/

/-- Whether the scan of a host only counts the character, if it is a colon, or notes that it was
there, if it is a percent sign. -/
def isCounted (c : Char) : Bool := isHostChar c && !"[]@".toList.contains c

/-- The scan behind a text that it only counts. -/
def HostScan.behind (s : HostScan) (text : List Char) : HostScan :=
  { s with colons := s.colons + text.count ':', percent := s.percent || text.contains '%' }

theorem isCounted_iff {c : Char} :
    isCounted c = true ↔ isHostChar c = true ∧ c ≠ '[' ∧ c ≠ ']' ∧ c ≠ '@' := by
  simp [isCounted]

namespace HostScan

theorem step_of_isCounted {s : HostScan} {c : Char} (hc : isCounted c = true)
    (hcolons : (s.behind [c]).colons ≤ 8) : s.step c = .ok (s.behind [c]) := by
  obtain ⟨hhost, hopen, hclose, hat⟩ := isCounted_iff.1 hc
  obtain ⟨colons, opened, closed, percent⟩ := s
  unfold step
  rw [if_neg (by simp [hhost])]
  by_cases hcolon : c = ':'
  · subst hcolon
    rw [if_pos rfl, if_neg (Nat.not_le.2 hcolons)]
    simp [behind]
  · rw [if_neg hcolon, if_neg hopen, if_neg hclose, if_neg hat]
    by_cases hpercent : c = '%'
    · simp [hpercent, behind]
    · simp [hpercent, hcolon, behind, Ne.symm hpercent]

theorem behind_cons (s : HostScan) (c : Char) (text : List Char) :
    s.behind (c :: text) = (s.behind [c]).behind text := by
  obtain ⟨colons, opened, closed, percent⟩ := s
  simp [behind, List.count_cons, Bool.or_assoc]
  omega

/-- **A text that is only counted is passed over** if it does not hold too many colons. -/
theorem foldlM_append {s : HostScan} {text : List Char} (h : ∀ c ∈ text, isCounted c = true)
    (hcolons : (s.behind text).colons ≤ 8) (rest : List Char) :
    (text ++ rest).foldlM step s = rest.foldlM step (s.behind text) := by
  induction text generalizing s with
  | nil =>
    obtain ⟨colons, opened, closed, percent⟩ := s
    simp [behind]
  | cons c text ih =>
    obtain ⟨hc, htext⟩ := List.forall_mem_cons.1 h
    rw [behind_cons] at hcolons ⊢
    -- there are no more colons behind the first character than behind all of them
    have hfirst : (s.behind [c]).colons ≤ 8 := Nat.le_trans (Nat.le_add_right _ _) hcolons
    rw [List.cons_append, List.foldlM_cons, step_of_isCounted hc hfirst]
    exact ih htext hcolons

/-- What is scanned to its end holds nothing but characters of hosts. -/
theorem isHostChar_of_foldlM {s s' : HostScan} {cs : List Char}
    (h : cs.foldlM step s = .ok s') : ∀ c ∈ cs, isHostChar c = true := by
  induction cs generalizing s with
  | nil => exact List.forall_mem_nil _
  | cons c cs ih =>
    rw [List.foldlM_cons] at h
    obtain ⟨next, hstep, hrest⟩ := bind_eq_ok_iff.1 h
    refine List.forall_mem_cons.2 ⟨?_, ih hrest⟩
    by_contra hc
    rw [step, if_pos (by simpa using hc)] at hstep
    cases hstep

end HostScan

/-! ## Hosts in normal form -/

open Url

theorem isCounted_of_isPlain {c : Char} (hplain : Domain.isPlain c = true)
    (hhost : isHostChar c = true) : isCounted c = true ∧ c ≠ ':' ∧ c ≠ '%' := by
  obtain ⟨-, hat, hcolon, hopen, hclose⟩ := isAuthorityChar_of_isPlain hplain
  exact ⟨isCounted_iff.2 ⟨hhost, hopen, hclose, hat⟩, hcolon, ne_of_holds hplain (by decide)⟩

theorem isCounted_of_isGroupChar {c : Char} (h : Host.isGroupChar c = true) :
    isCounted c = true ∧ c ≠ '%' := by
  have hlt : c.toNat < 128 := by
    unfold Host.isGroupChar Text.hexValue? at h
    by_contra hge
    have habove : ∀ d : Char, d.toNat < 128 → ¬ c ≤ d := by
      intro d hd hle
      have : c.toNat ≤ d.toNat := hle
      omega
    have hcolon : c ≠ ':' := by
      rintro rfl
      exact hge (by decide)
    simp [habove '9' (by decide), habove 'f' (by decide), habove 'F' (by decide), hcolon] at h
  have hchar : Host.isGroupChar c = true → isCounted c = true ∧ c ≠ '%' :=
    Text.holds_of_lt c hlt (by decide)
  exact hchar h

/-- Groups have one colon less than they are. -/
theorem count_shown_le (l : List Nat) : (Host.shown l).count ':' ≤ l.length := by
  have hnone : ∀ n, (Text.hexDigits n).count ':' = 0 := fun n =>
    List.count_eq_zero.2 Host.not_mem_hexDigits.1
  unfold Host.shown
  induction l with
  | nil => exact Nat.le_refl 0
  | cons n l ih =>
    cases l with
    | nil => simp [Text.joined, hnone]
    | cons m l =>
      rw [List.map_cons, List.map_cons, Text.joined_cons_cons, List.count_append, hnone,
        List.count_cons_self, List.length_cons]
      rw [List.map_cons] at ih
      omega

theorem count_ipv6Text_le {l : List Nat} (h : Host.IsGroups l) :
    (Host.ipv6Text l).count ':' ≤ 8 := by
  unfold Host.ipv6Text
  dsimp only
  split
  · rename_i hzeros
    -- what is left out is longer than the double colon that stands for it
    have hlength := congrArg List.length (Host.take_append_zeros_append_drop hzeros)
    rw [List.length_append, List.length_append, List.length_replicate, h.1] at hlength
    have hleft := count_shown_le (l.take (Host.longestZeros l).1)
    have hright := count_shown_le (l.drop ((Host.longestZeros l).1 + (Host.longestZeros l).2))
    unfold Host.shown at hleft hright
    rw [List.count_append, List.count_cons_self, List.count_cons_self]
    omega
  · exact h.1 ▸ count_shown_le l

/-- The escapes before a host make no colon. -/
theorem isCounted_of_mem_escape {cs : List Char} {c : Char} (h : c ∈ escape userinfoEscapes cs) :
    isCounted c = true ∧ c ≠ ':' := by
  have hkeeps := (mem_escape (by decide) h).1
  have hchar : keeps userinfoEscapes c = true → isCounted c = true ∧ c ≠ ':' :=
    Text.holds_of_lt (k := 127) c (lt_of_keeps hkeeps).2 (by decide)
  exact hchar hkeeps

/-- A user is counted and holds one colon at most, before the password. -/
theorem exists_userinfoText_eq (cs : List Char) :
    userinfoText cs = [] ∨ ∃ user, userinfoText cs = user ++ ['@'] ∧
      (∀ c ∈ user, isCounted c = true) ∧ user.count ':' ≤ 1 := by
  have hnone : ∀ cs, (escape userinfoEscapes cs).count ':' = 0 := fun cs =>
    List.count_eq_zero.2 fun h => (isCounted_of_mem_escape h).2 rfl
  have hmarked : ∀ text : List Char, (∀ c ∈ text, isCounted c = true) → text.count ':' ≤ 1 →
      (if text.isEmpty then [] else text ++ ['@']) = [] ∨
        ∃ user, (if text.isEmpty then [] else text ++ ['@']) = user ++ ['@'] ∧
          (∀ c ∈ user, isCounted c = true) ∧ user.count ':' ≤ 1 := by
    intro text htext hcount
    split
    · exact .inl rfl
    · exact .inr ⟨text, rfl, htext, hcount⟩
  unfold userinfoText
  split
  · exact hmarked _ (fun c hc => (isCounted_of_mem_escape hc).1) (by rw [hnone]; decide)
  · refine hmarked _ (fun c hc => ?_) ?_
    · rcases List.mem_append.1 hc with hc | hc
      · exact (isCounted_of_mem_escape hc).1
      · rcases List.mem_cons.1 hc with rfl | hc
        · decide
        · exact (isCounted_of_mem_escape hc).1
    · rw [List.count_append, List.count_cons_self, hnone, hnone]
  · exact hmarked _ (fun c hc => (isCounted_of_mem_escape hc).1) (by rw [hnone]; decide)

/-- A port is counted and holds one colon at most. -/
theorem isCounted_portText (port : Option Nat) :
    (∀ c ∈ portText port, isCounted c = true ∧ c ≠ '%') ∧ (portText port).count ':' ≤ 1 := by
  have hdigit : ∀ d : Fin 10, isCounted (Text.digitChar d) = true ∧ Text.digitChar d ≠ '%' ∧
      Text.digitChar d ≠ ':' := by decide
  cases port with
  | none => exact ⟨List.forall_mem_nil _, Nat.zero_le 1⟩
  | some n =>
    have hdigits : ∀ c ∈ Text.decimalDigits n, isCounted c = true ∧ c ≠ '%' ∧ c ≠ ':' := by
      intro c hc
      obtain ⟨d, hd, rfl⟩ := Text.mem_decimalDigits hc
      exact hdigit ⟨d, hd⟩
    constructor
    · intro c hc
      rcases List.mem_cons.1 hc with rfl | hc
      · decide
      · exact ⟨(hdigits c hc).1, (hdigits c hc).2.1⟩
    · have hnone : (Text.decimalDigits n).count ':' = 0 :=
        List.count_eq_zero.2 fun h => (hdigits _ h).2.2 rfl
      rw [portText, List.count_cons_self, hnone]

namespace HostScan

/-- Where the scan begins. -/
def start : HostScan := ⟨0, false, false, false⟩

/-- A user is passed over, with the mark behind it. -/
theorem foldlM_userinfoText (cs rest : List Char) :
    (userinfoText cs ++ rest).foldlM step start = rest.foldlM step start := by
  rcases exists_userinfoText_eq cs with h | ⟨user, h, hcounted, hcount⟩
  · rw [h, List.nil_append]
  · have hcolons : (start.behind user).colons ≤ 8 := by
      show 0 + user.count ':' ≤ 8
      omega
    rw [h, List.append_assoc, foldlM_append hcounted hcolons, List.singleton_append,
      List.foldlM_cons]
    rfl

/-- A host is passed over, if its characters may stand in hosts. No colon and no percent sign is
left, and the brackets are closed. -/
theorem exists_foldlM_host {host : List Char} (h : Host.IsForm host)
    (hchars : ∀ c ∈ host, isHostChar c = true) : ∃ s : HostScan,
      s.colons = 0 ∧ s.percent = false ∧ s.opened = s.closed ∧
        ∀ rest, (host ++ rest).foldlM step start = rest.foldlM step s := by
  rcases h with ⟨-, hplain⟩ | ⟨l, hl, rfl⟩
  · have hcounted := fun c hc => isCounted_of_isPlain (hplain c hc) (hchars c hc)
    have hcolons : host.count ':' = 0 := List.count_eq_zero.2 fun h => (hcounted _ h).2.1 rfl
    have hpercent : '%' ∉ host := fun h => (hcounted _ h).2.2 rfl
    have hbehind : start.behind host = start := by
      simp [behind, start, hcolons, hpercent]
    refine ⟨start, rfl, rfl, rfl, fun rest => ?_⟩
    rw [foldlM_append (fun c hc => (hcounted c hc).1) (by rw [hbehind]; decide), hbehind]
  · have hcounted : ∀ c ∈ Host.ipv6Text l, isCounted c = true ∧ c ≠ '%' := fun c hc =>
      isCounted_of_isGroupChar (Host.isGroupChar_of_mem_ipv6Text hc)
    have hopened : start.step '[' = .ok ⟨0, true, false, false⟩ := rfl
    have hcolons : (behind ⟨0, true, false, false⟩ (Host.ipv6Text l)).colons ≤ 8 := by
      have := count_ipv6Text_le hl
      show 0 + _ ≤ 8
      omega
    refine ⟨⟨0, true, true, false⟩, rfl, rfl, rfl, fun rest => ?_⟩
    rw [List.cons_append, List.append_assoc, List.foldlM_cons, hopened, List.singleton_append]
    show (Host.ipv6Text l ++ ']' :: rest).foldlM step ⟨0, true, false, false⟩ = _
    rw [foldlM_append (fun c hc => (hcounted c hc).1) hcolons, List.foldlM_cons]
    -- the closing bracket makes the colons before it forgotten
    rfl

end HostScan

/-- **What stands before the path of a normal form** has the general form just if the host is made
of characters that may stand there. -/
theorem checkHost_iff (cs : List Char) {host : List Char} (h : Host.IsForm host)
    (port : Option Nat) :
    checkHost (userinfoText cs ++ (host ++ portText port)) = .ok () ↔
      ∀ c ∈ host, isHostChar c = true := by
  constructor
  · intro hcheck c hc
    unfold checkHost at hcheck
    split at hcheck
    · cases hcheck
    · rename_i s hscan
      refine HostScan.isHostChar_of_foldlM hscan c ?_
      exact List.mem_append_right _ (List.mem_append_left _ hc)
  · intro hchars
    obtain ⟨s, hcolons, hpercent, hbrackets, hhost⟩ := HostScan.exists_foldlM_host h hchars
    obtain ⟨hcounted, hcount⟩ := isCounted_portText port
    have hport : (s.behind (portText port)).colons ≤ 1 := by
      show s.colons + _ ≤ 1
      omega
    have hscan : (userinfoText cs ++ (host ++ portText port)).foldlM HostScan.step
        ⟨0, false, false, false⟩ = .ok (s.behind (portText port)) := by
      have := HostScan.foldlM_append (fun c hc => (hcounted c hc).1)
        (Nat.le_trans hport (by decide)) []
      rw [List.append_nil] at this
      exact (HostScan.foldlM_userinfoText cs _).trans ((hhost _).trans this)
    have hlast : (userinfoText cs ++ (host ++ portText port)).getLast? ≠ some '@' := by
      have hne : host ++ portText port ≠ [] := List.append_ne_nil_of_left_ne_nil h.ne_nil _
      rw [List.getLast?_append_of_ne_nil _ hne]
      intro hat
      rcases List.mem_append.1 (List.mem_of_getLast? hat) with hm | hm
      · exact (isAuthorityChar_of_isForm h _ hm).2 rfl
      · exact (isAuthorityChar_of_mem_portText hm).2 rfl
    have hnoPercent : (s.behind (portText port)).percent = false := by
      have hnone : '%' ∉ portText port := fun hm => (hcounted _ hm).2 rfl
      simp [HostScan.behind, hpercent, hnone]
    unfold checkHost
    rw [hscan]
    dsimp only
    rw [if_neg]
    rintro (hb | hc | hl | hp)
    · exact hb hbrackets
    · omega
    · exact hlast hl
    · rw [hnoPercent] at hp
      cases hp

/-! ## Addresses in normal form -/

theorem dropScheme_web {scheme : String} (hscheme : scheme = "http" ∨ scheme = "https")
    (rest : List Char) :
    dropScheme (scheme.toList ++ ':' :: '/' :: '/' :: rest) = .ok (some rest) := by
  have hspan : (scheme.toList ++ ':' :: '/' :: '/' :: rest).takeWhile isSchemeChar = scheme.toList ∧
      (scheme.toList ++ ':' :: '/' :: '/' :: rest).dropWhile isSchemeChar
        = ':' :: '/' :: '/' :: rest := by
    rcases hscheme with rfl | rfl <;> exact ⟨rfl, rfl⟩
  have hshort : ¬ scheme.toList.length > 64 := by
    rcases hscheme with rfl | rfl <;> decide
  have hlong : (scheme.toList ++ ':' :: '/' :: '/' :: rest).length > 3 := by
    rcases hscheme with rfl | rfl <;> simp
  unfold dropScheme
  rw [hspan.1, hspan.2]
  exact (if_neg hshort).trans (if_pos hlong)

/-- An address with a scheme of the web has the general form if what stands before the path and what
follows have theirs. -/
theorem check_web {s scheme : String} (hscheme : scheme = "http" ∨ scheme = "https")
    {name tail : List Char} (hs : s.toList = scheme.toList ++ ':' :: '/' :: '/' :: (name ++ tail))
    (hname : ∀ c ∈ name, endsHost c = false) (hne : name ≠ [])
    (htail : ∀ c ∈ tail.head?, endsHost c = true) :
    check s = if s.utf8ByteSize > 65534 then .error .tooLong else
      match checkHost name with
      | .error e => .error e
      | .ok () => checkPath tail := by
  have hgoes : ∀ c ∈ name, (!endsHost c) = true := fun c hc => by simp [hname c hc]
  have hend : tail.takeWhile (fun c => !endsHost c) = [] ∧
      tail.dropWhile (fun c => !endsHost c) = tail := by
    cases tail with
    | nil => exact ⟨rfl, rfl⟩
    | cons c tail => simp [htail c rfl]
  -- a scheme begins with a letter
  have hfirst : ∀ c rest, scheme.toList ++ ':' :: '/' :: '/' :: (name ++ tail) = c :: rest →
      c = 'h' := by
    rcases hscheme with rfl | rfl <;> exact fun c rest h => (List.cons.inj h).1.symm
  unfold check
  rw [hs]
  split
  · rfl
  split
  · rename_i hnil
    exact absurd hnil (List.append_ne_nil_of_right_ne_nil _ (List.cons_ne_nil _ _))
  · rename_i hstar
    exact absurd (hfirst _ _ hstar) (by decide)
  · rename_i hslash
    exact absurd (hfirst _ _ hslash) (by decide)
  · rw [dropScheme_web hscheme]
    dsimp only
    rw [List.takeWhile_append_of_pos hgoes, List.dropWhile_append_of_pos hgoes, hend.1, hend.2,
      List.append_nil]
    cases checkHost name with
    | error e => rfl
    | ok u => exact if_neg (by simpa using hne)

/-- The text of an address is its front, its path and its query string. -/
theorem toList_write {u : Url} (hfragment : u.fragment = none) :
    u.write.toList = u.front ++ (u.path.toList ++ queryText (u.query.map String.toList)) := by
  unfold write front hostAndPort
  rw [hfragment]
  cases u.port <;> cases u.query <;>
    simp [portText, queryText, Text.decimal, String.toList_append]

/-- A path of segments and a query string that stand as they are have the general form. -/
theorem checkPath_eq {segments : List (List Char)} (h : ∀ s ∈ segments, IsSegment s)
    {query : Option (List Char)}
    (hquery : ∀ q, query = some q → ∀ c ∈ q, keeps queryEscapes c = true) :
    checkPath ((segments.flatMap fun s => '/' :: s) ++ queryText query) = .ok () := by
  have hpathChar : ∀ c ∈ segments.flatMap fun s => '/' :: s, isPathChar c = true := by
    intro c hc
    obtain ⟨s, hs, hc⟩ := List.mem_flatMap.1 hc
    rcases List.mem_cons.1 hc with rfl | hc
    · decide
    · have hkeeps := (h s hs c hc).1
      have hchar : keeps pathEscapes c = true → isPathChar c = true :=
        Text.holds_of_lt (k := 127) c (lt_of_keeps hkeeps).2 (by decide)
      exact hchar hkeeps
  have hqueryChar : ∀ q, query = some q → ∀ c ∈ q, isQueryChar c = true ∧ c ≠ '#' := by
    intro q hq c hc
    have hkeeps := hquery q hq c hc
    have hchar : keeps queryEscapes c = true → isQueryChar c = true ∧ c ≠ '#' :=
      Text.holds_of_lt (k := 127) c (lt_of_keeps hkeeps).2 (by decide)
    exact hchar hkeeps
  have hmarks := ne_of_mem_path h
  generalize (segments.flatMap fun s => '/' :: s) = path at *
  -- there is no fragment, and the path ends at the mark of the query string
  have hfront : (path ++ queryText query).takeWhile (· ≠ '#') = path ++ queryText query := by
    refine List.takeWhile_eq_self_iff.2 fun c hc => decide_eq_true ?_
    rcases List.mem_append.1 hc with hc | hc
    · exact (hmarks c hc).2
    · cases query with
      | none => cases hc
      | some q =>
        rcases List.mem_cons.1 hc with rfl | hc
        · decide
        · exact (hqueryChar q rfl c hc).2
  have hgoes : ∀ c ∈ path, decide (c ≠ '?') = true := fun c hc => decide_eq_true (hmarks c hc).1
  have hpath : (path ++ queryText query).takeWhile (· ≠ '?') = path ∧
      ((path ++ queryText query).dropWhile (· ≠ '?')).drop 1 = query.getD [] := by
    rw [List.takeWhile_append_of_pos hgoes, List.dropWhile_append_of_pos hgoes]
    cases query <;> simp [queryText]
  have hall : (query.getD []).all isQueryChar = true := by
    cases query with
    | none => rfl
    | some q => exact List.all_eq_true.2 fun c hc => (hqueryChar q rfl c hc).1
  unfold checkPath
  dsimp only
  rw [hfront, hpath.1, hpath.2, List.all_eq_true.2 hpathChar, hall]
  rfl

/-- **A normal form has the general form** just if it is not too long and its host is made of
characters that may stand there. -/
theorem check_write_iff {u : Url} (h : u.IsNormal) (hfragment : u.fragment = none)
    (hquery : ∀ q, u.query = some q → ∀ c ∈ q.toList, keeps queryEscapes c = true) :
    check u.write = .ok () ↔
      u.write.utf8ByteSize ≤ 65534 ∧ ∀ c ∈ u.host.toList, isHostChar c = true := by
  obtain ⟨user, huser⟩ := h.userinfo
  obtain ⟨host, hhost⟩ := h.host
  obtain ⟨segments, hne, hpath, hsegments⟩ := h.exists_segments
  have hquery' : ∀ q, u.query.map String.toList = some q →
      ∀ c ∈ q, keeps queryEscapes c = true := by
    intro q hq
    obtain ⟨text, htext, rfl⟩ := Option.map_eq_some_iff.1 hq
    exact hquery text htext
  have htext : u.write.toList = u.scheme.toList ++ ':' :: '/' :: '/' ::
      ((u.userinfo.toList ++ (u.host.toList ++ portText u.port)) ++
        (u.path.toList ++ queryText (u.query.map String.toList))) := by
    rw [toList_write hfragment, front]
    simp only [List.append_assoc, List.cons_append]
  have hname : ∀ c ∈ u.userinfo.toList ++ (u.host.toList ++ portText u.port),
      endsHost c = false := by
    intro c hc
    obtain ⟨-, hslash, hmark, hfragment, -⟩ := isAuthorityChar_iff.1 (h.isAuthorityChar c hc)
    simp [endsHost, hslash, hmark, hfragment]
  have htail : ∀ c ∈ (u.path.toList ++ queryText (u.query.map String.toList)).head?,
      endsHost c = true := by
    obtain ⟨s, segments, rfl⟩ := List.exists_cons_of_ne_nil hne
    rw [hpath]
    rintro c hc
    obtain rfl := Option.some.inj hc
    rfl
  have hcheck := check_web h.scheme htext hname h.name_ne_nil htail
  have hpathCheck := checkPath_eq (fun s hs => (hsegments s hs).1) hquery'
  have hhostCheck := checkHost_iff user (Host.isForm_of_parse hhost) u.port
  rw [← huser] at hhostCheck
  rw [hpath, hpathCheck] at hcheck
  rw [hcheck, ← hhostCheck]
  by_cases hlong : u.write.utf8ByteSize > 65534
  · rw [if_pos hlong]
    refine iff_of_false (fun h => ?_) fun h => Nat.not_le.2 hlong h.1
    cases h
  · rw [if_neg hlong]
    refine Iff.trans ?_ (and_iff_right (Nat.not_lt.1 hlong)).symm
    cases checkHost (u.userinfo.toList ++ (u.host.toList ++ portText u.port)) <;> simp

end SearchRest.AddressSyntax
