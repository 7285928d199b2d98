/-
Addresses of the web, read again.

What is read is brought to normal form, and what is in normal form is read like
its host, whatever is put behind its first slash: if the host is read again, so
is the address. With another path and query string it has the same scheme, host
and port. The path is resolved, so it is the one that was put there only if none
of its segments is dots; a query string of characters that may stand in one stays
as it is.
-/
import Mathlib.Data.List.TakeWhile
import SearchRest.Proofs.Url.Authority

set_option autoImplicit false

namespace SearchRest.Url

/-! ## Normal forms -/

/-- **An address of the web in normal form**, as far as the path. -/
structure IsNormal (u : Url) : Prop where
  /-- The scheme is that of a web address. -/
  scheme : u.scheme = "http" ∨ u.scheme = "https"
  /-- The user was escaped. -/
  userinfo : ∃ cs, u.userinfo.toList = userinfoText cs
  /-- The host was read. -/
  host : ∃ cs, Host.parse cs = .ok u.host
  /-- The port has to be said. -/
  port : IsPort u.scheme u.port
  /-- The path was resolved. -/
  path : ∃ cs, u.path.toList = normalPath cs

theorem port?_lt {n m : Nat} (hn : n < 65536) {cs : List Char} (h : port? n cs = some m) :
    m < 65536 := by
  induction cs generalizing n with
  | nil =>
    obtain rfl := Option.some.inj h
    exact hn
  | cons c cs ih =>
    rw [port?] at h
    split at h
    · split at h
      · rename_i hlt
        exact ih hlt h
      · cases h
    · cases h

/-- What is read before the path of a web address is in normal form. -/
theorem of_authority {scheme userinfo host : String} {port : Option Nat} {atEnd : Bool}
    {cs : List Char} (h : authority true scheme atEnd cs = .ok (userinfo, host, port)) :
    (∃ cs, userinfo.toList = userinfoText cs) ∧ (∃ cs, Host.parse cs = .ok host) ∧
      IsPort scheme port := by
  unfold authority at h
  split at h
  rename_i user rest _
  split at h
  · cases h
  dsimp only at h
  split at h
  · cases h
  rw [if_pos rfl] at h
  split at h
  · cases h
  rename_i found hfound
  split at h
  · obtain ⟨rfl, rfl, rfl⟩ := (Except.ok.inj h)
    refine ⟨⟨_, String.toList_ofList⟩, ⟨_, hfound⟩, ?_⟩
    intro n hn
    cases hn
  · split at h
    · cases h
    · rename_i n hn
      obtain ⟨rfl, rfl, rfl⟩ := (Except.ok.inj h)
      refine ⟨⟨_, String.toList_ofList⟩, ⟨_, hfound⟩, ?_⟩
      intro m hm
      split at hm
      · cases hm
      · rename_i hdefault
        obtain rfl := Option.some.inj hm
        exact ⟨port?_lt (by decide) hn, hdefault⟩

/-- **What is read as an address of the web is in normal form.** -/
theorem isNormal_of_parse {s : String} {u : Url} (h : parse s = .ok u)
    (hscheme : u.scheme = "http" ∨ u.scheme = "https") : u.IsNormal := by
  unfold parse at h
  split at h
  · cases h
  rename_i schemeChars rest _
  dsimp only at h
  split at h
  · unfold parseWeb at h
    split at h
    rename_i front query fragment _
    dsimp only at h
    split at h
    · cases h
    · rename_i userinfo host port hauthority
      obtain rfl := Except.ok.inj h
      obtain ⟨huser, hhost, hport⟩ := of_authority hauthority
      exact ⟨hscheme, huser, hhost, hport, ⟨_, String.toList_ofList⟩⟩
  · -- an address of another scheme keeps that scheme
    rename_i hweb
    have hother : u.scheme = String.ofList schemeChars := by
      generalize (if String.ofList schemeChars = "file" then checkFile rest
        else checkOther (String.ofList schemeChars) rest) = checked at h
      cases checked with
      | error e => cases h
      | ok _ =>
        obtain rfl := Except.ok.inj h
        rfl
    rw [← hother] at hweb
    rcases hscheme with h | h <;> rw [h] at hweb <;> exact absurd rfl hweb

/-! ## Parts -/

/-- The address up to its path. -/
def front (u : Url) : List Char :=
  u.scheme.toList ++ ':' :: '/' :: '/' :: (u.userinfo.toList ++ (u.host.toList ++ portText u.port))

/-- The query string behind its mark, if there is one. -/
def queryText : Option (List Char) → List Char
  | some q => '?' :: q
  | none => []

/-- Tabs and line ends are blanks or control characters. -/
theorem keeps_of_lt {c : Char} (h : 0x20 < c.toNat) :
    (!(decide (c = '\t') || decide (c = '\n') || decide (c = '\r'))) = true := by
  simp only [Bool.not_eq_true', Bool.or_eq_false_iff, decide_eq_false_iff_not]
  refine ⟨⟨?_, ?_⟩, ?_⟩ <;> rintro rfl <;> exact absurd h (by decide)

/-- Nothing is dropped before the first slash if there is no blank nor control character. -/
theorem exists_cleaned_eq {front : List Char} (h : ∀ c ∈ front, 0x20 < c.toNat)
    (rest : List Char) : ∃ kept, cleaned (front ++ '/' :: rest) = front ++ '/' :: kept := by
  have hstart : (front ++ '/' :: rest).dropWhile (fun c => decide (c.toNat ≤ 0x20))
      = front ++ '/' :: rest := by
    cases front with
    | nil => rfl
    | cons c front =>
      have hc := h c List.mem_cons_self
      rw [List.cons_append, List.dropWhile_cons, if_neg (by simpa using hc)]
  unfold cleaned
  dsimp only
  rw [hstart, Text.dropEndWhile_append (by decide), List.filter_append,
    List.filter_eq_self.2 fun c hc => keeps_of_lt (h c hc), List.filter_cons_of_pos (by decide)]
  exact ⟨_, rfl⟩

/-- Where there is no blank nor control character, nothing is dropped. -/
theorem cleaned_eq_self {cs : List Char} (h : ∀ c ∈ cs, 0x20 < c.toNat) : cleaned cs = cs := by
  have houter : ∀ c ∈ cs, decide (c.toNat ≤ 0x20) = false := fun c hc =>
    decide_eq_false (Nat.not_le.2 (h c hc))
  -- the same is dropped at both ends
  have hkeep : ∀ l : List Char, (∀ c ∈ l, decide (c.toNat ≤ 0x20) = false) →
      l.dropWhile (fun c => decide (c.toNat ≤ 0x20)) = l := by
    intro l hl
    cases l with
    | nil => rfl
    | cons c l => rw [List.dropWhile_cons, if_neg (by simp [hl c List.mem_cons_self])]
  unfold cleaned
  dsimp only
  rw [hkeep cs houter, Text.dropEndWhile,
    hkeep cs.reverse fun c hc => houter c (List.mem_reverse.1 hc), List.reverse_reverse]
  exact List.filter_eq_self.2 fun c hc => keeps_of_lt (h c hc)

theorem takeScheme?_web {scheme : String} (h : scheme = "http" ∨ scheme = "https")
    (rest : List Char) :
    takeScheme? (scheme.toList ++ ':' :: rest) = some (scheme.toList, rest) := by
  rcases h with rfl | rfl <;> rfl

theorem isWebScheme_web {scheme : String} (h : scheme = "http" ∨ scheme = "https") :
    isWebScheme scheme = true := by
  rcases h with rfl | rfl <;> rfl

theorem lt_of_mem_webScheme {scheme : String} (h : scheme = "http" ∨ scheme = "https") {c : Char}
    (hc : c ∈ scheme.toList) : 0x20 < c.toNat := by
  have hall : (scheme.toList.all fun c => 0x20 < c.toNat) = true := by
    rcases h with rfl | rfl <;> rfl
  exact of_decide_eq_true (List.all_eq_true.1 hall c hc)

/-- What holds no mark stands before the query string and the fragment. -/
theorem cutTail_append {front : List Char} (h : ∀ c ∈ front, c ≠ '?' ∧ c ≠ '#') (cs : List Char) :
    cutTail (front ++ cs) = (front ++ (cutTail cs).1, (cutTail cs).2) := by
  have hmark : '?' ∉ front := fun hmem => (h _ hmem).1 rfl
  have hfragment : '#' ∉ front := fun hmem => (h _ hmem).2 rfl
  unfold cutTail
  rw [Text.cutFirst_append_of_not_mem hfragment]
  cases Text.cutFirst '#' cs with
  | none =>
    dsimp only [Option.map_none]
    rw [Text.cutFirst_append_of_not_mem hmark]
    cases Text.cutFirst '?' cs <;> rfl
  | some cut =>
    dsimp only [Option.map_some]
    rw [Text.cutFirst_append_of_not_mem hmark]
    cases Text.cutFirst '?' cut.1 <;> rfl

theorem cutTail_queryText {query : Option (List Char)} (h : ∀ q, query = some q → '#' ∉ q) :
    cutTail (queryText query) = ([], query, none) := by
  cases query with
  | none => rfl
  | some q =>
    have hfragment : '#' ∉ '?' :: q := by
      intro hmem
      rcases List.mem_cons.1 hmem with hmem | hmem
      · cases hmem
      · exact h q rfl hmem
    rw [queryText, cutTail, Text.cutFirst_eq_none hfragment]
    rfl

/-! ## Reading again -/

/-- Neither mark of what follows a path occurs in it. -/
theorem ne_of_mem_path {segments : List (List Char)} (h : ∀ s ∈ segments, IsSegment s) :
    ∀ c ∈ segments.flatMap fun s => '/' :: s, c ≠ '?' ∧ c ≠ '#' := by
  intro c hc
  obtain ⟨s, hs, hc⟩ := List.mem_flatMap.1 hc
  rcases List.mem_cons.1 hc with rfl | hc
  · decide
  · have hkeeps := (h s hs c hc).1
    constructor <;> rintro rfl <;> exact absurd hkeeps (by decide)

theorem lt_of_mem_path {segments : List (List Char)} (h : ∀ s ∈ segments, IsSegment s) :
    ∀ c ∈ segments.flatMap fun s => '/' :: s, 0x20 < c.toNat := by
  intro c hc
  obtain ⟨s, hs, hc⟩ := List.mem_flatMap.1 hc
  rcases List.mem_cons.1 hc with rfl | hc
  · decide
  · exact (lt_of_keeps (h s hs c hc).1).1

theorem lt_of_mem_queryText {query : Option (List Char)}
    (h : ∀ q, query = some q → ∀ c ∈ q, keeps queryEscapes c = true) :
    ∀ c ∈ queryText query, 0x20 < c.toNat := by
  intro c hc
  cases query with
  | none => cases hc
  | some q =>
    rcases List.mem_cons.1 hc with rfl | hc
    · decide
    · exact (lt_of_keeps (h q rfl c hc)).1

/-- What stands before the path is cut off at its first slash. -/
theorem span_path {name : List Char} (hname : ∀ c ∈ name, isAuthorityChar c = true)
    (path : List Char) :
    ((name ++ '/' :: path).takeWhile fun c => !endsAuthority true c) = name ∧
      ((name ++ '/' :: path).dropWhile fun c => !endsAuthority true c) = '/' :: path := by
  have hgoes : ∀ c ∈ name, (!endsAuthority true c) = true := fun c hc =>
    (Bool.and_eq_true_iff.1 (hname c hc)).2
  rw [List.takeWhile_append_of_pos hgoes, List.dropWhile_append_of_pos hgoes]
  refine ⟨?_, rfl⟩
  rw [List.takeWhile_cons, if_neg (by decide), List.append_nil]

/-- The slashes after the scheme end at the first character of a name. -/
theorem dropWhile_slashes {name : List Char} (hne : name ≠ [])
    (hname : ∀ c ∈ name, isAuthorityChar c = true) (rest : List Char) :
    ('/' :: '/' :: (name ++ rest)).dropWhile (fun c => c = '/' || c = '\\') = name ++ rest := by
  obtain ⟨c, name, rfl⟩ := List.exists_cons_of_ne_nil hne
  have hc := (isAuthorityChar_iff.1 (hname c List.mem_cons_self)).2
  simp [hc.1, hc.2.2.2]

theorem ne_of_mem_name {name : List Char} (hname : ∀ c ∈ name, isAuthorityChar c = true) :
    ∀ c ∈ name, c ≠ '?' ∧ c ≠ '#' := by
  intro c hc
  obtain ⟨-, hmark, hfragment, -⟩ := (isAuthorityChar_iff.1 (hname c hc)).2
  exact ⟨hmark, hfragment⟩

/-- A host alone has neither user nor port. -/
theorem authority_host {scheme : String} {atEnd : Bool} {host : List Char} (hne : host ≠ [])
    (h : ∀ c ∈ host, c ≠ '@' ∧ c ≠ ':' ∧ c ≠ '[' ∧ c ≠ ']') :
    authority true scheme atEnd host = (Host.parse host).map fun found => ("", found, none) := by
  have hport : cutPort false host = (host, []) := by
    have hpass : ∀ c ∈ host, c ≠ '[' ∧ c ≠ ']' ∧ (false = false → c ≠ ':') := by
      intro c hc
      obtain ⟨-, hcolon, hopen, hclose⟩ := h c hc
      exact ⟨hopen, hclose, fun _ => hcolon⟩
    have hnil : cutPort false [] = ([], []) := rfl
    have hcut := cutPort_append hpass []
    rwa [hnil, List.append_nil] at hcut
  unfold authority
  rw [cutLastAt_of_not_mem fun hmem => (h _ hmem).1 rfl]
  dsimp only
  rw [if_neg (by simp), hport]
  dsimp only
  rw [if_neg (by simp [hne]), if_pos rfl]
  cases Host.parse host <;> rfl

/-- **An address that ends with its host** has that host, no user and no port, and the shortest
path. -/
theorem parse_host {scheme : String} (hscheme : scheme = "http" ∨ scheme = "https")
    {host : List Char} (hne : host ≠ [])
    (h : ∀ c ∈ host, isAuthorityChar c = true ∧ c ≠ '@' ∧ c ≠ ':' ∧ c ≠ '[' ∧ c ≠ ']') :
    parse (String.ofList (scheme.toList ++ ':' :: '/' :: '/' :: host))
      = (Host.parse host).map fun found => ⟨scheme, "", found, none, "/", none, none⟩ := by
  have hlow : ∀ c ∈ scheme.toList ++ ':' :: '/' :: '/' :: host, 0x20 < c.toNat := by
    intro c hc
    simp only [List.mem_append, List.mem_cons] at hc
    rcases hc with hc | rfl | rfl | rfl | hc
    · exact lt_of_mem_webScheme hscheme hc
    · decide
    · decide
    · decide
    · exact (isAuthorityChar_iff.1 (h c hc).1).1
  have hname : ∀ c ∈ host, isAuthorityChar c = true := fun c hc => (h c hc).1
  have hslashes := dropWhile_slashes hne hname []
  rw [List.append_nil] at hslashes
  have htail : cutTail host = (host, none, none) := by
    have hnil : cutTail [] = ([], none, none) := rfl
    have hcut := cutTail_append (ne_of_mem_name hname) []
    rwa [hnil, List.append_nil] at hcut
  have hgoes : ∀ c ∈ host, (!endsAuthority true c) = true := fun c hc =>
    (Bool.and_eq_true_iff.1 (hname c hc)).2
  unfold parse
  rw [String.toList_ofList, cleaned_eq_self hlow, takeScheme?_web hscheme]
  dsimp only
  rw [String.ofList_toList, if_pos (isWebScheme_web hscheme), parseWeb, hslashes, htail]
  dsimp only
  rw [List.takeWhile_eq_self_iff.2 hgoes, List.dropWhile_eq_nil_iff.2 hgoes,
    authority_host hne fun c hc => (h c hc).2]
  cases Host.parse host <;> rfl

namespace IsNormal

variable {u : Url}

/-- Nothing before the path ends what stands there. -/
theorem isAuthorityChar (h : u.IsNormal) :
    ∀ c ∈ u.userinfo.toList ++ (u.host.toList ++ portText u.port),
      Url.isAuthorityChar c = true := by
  obtain ⟨user, huser⟩ := h.userinfo
  obtain ⟨host, hhost⟩ := h.host
  intro c hc
  rcases List.mem_append.1 hc with hc | hc
  · rw [huser] at hc
    exact (userinfoText_eq user).2 c hc
  · rcases List.mem_append.1 hc with hc | hc
    · exact (isAuthorityChar_of_isForm (Host.isForm_of_parse hhost) c hc).1
    · exact (isAuthorityChar_of_mem_portText hc).1

theorem name_ne_nil (h : u.IsNormal) :
    u.userinfo.toList ++ (u.host.toList ++ portText u.port) ≠ [] := by
  obtain ⟨host, hhost⟩ := h.host
  intro hnil
  have hempty := (List.append_eq_nil_iff.1 (List.append_eq_nil_iff.1 hnil).2).1
  exact (Host.isForm_of_parse hhost).ne_nil hempty

/-- The path is made of segments that stand in it as they are. -/
theorem exists_segments (h : u.IsNormal) :
    ∃ segments, segments ≠ [] ∧ u.path.toList = (segments.flatMap fun s => '/' :: s) ∧
      ∀ s ∈ segments, IsSegment s ∧ isDots s = false := by
  obtain ⟨cs, hcs⟩ := h.path
  rw [hcs]
  exact exists_segments_normalPath cs

/-- **Whatever follows the first slash, an address is read like its host**: if the host is read
again, it is read back, with what follows as its path, its query string and its fragment. -/
theorem exists_parseWeb_eq (h : u.IsNormal) (rest : List Char) :
    ∃ userinfo, parseWeb u.scheme ('/' :: '/' :: (u.userinfo.toList ++
      (u.host.toList ++ portText u.port) ++ '/' :: rest))
      = (Host.parse u.host.toList).map fun again => ⟨u.scheme, userinfo, again, u.port,
          String.ofList (normalPath (cutTail rest).1),
          (cutTail rest).2.1.map fun q => String.ofList (escape queryEscapes q),
          (cutTail rest).2.2.map fun f => String.ofList (escape fragmentEscapes f)⟩ := by
  obtain ⟨user, huser⟩ := h.userinfo
  obtain ⟨host, hhost⟩ := h.host
  have hname := h.isAuthorityChar
  have hnameNe := h.name_ne_nil
  have hauthority := authority_eq (userinfoText_eq user).1 (Host.isForm_of_parse hhost) h.port
  rw [← huser] at hauthority
  generalize u.userinfo.toList ++ (u.host.toList ++ portText u.port) = name at *
  have hfront : ∀ c ∈ name ++ ['/'], c ≠ '?' ∧ c ≠ '#' := by
    intro c hc
    rcases List.mem_append.1 hc with hc | hc
    · exact ne_of_mem_name hname c hc
    · rw [List.mem_singleton.1 hc]
      decide
  have htail : cutTail (name ++ '/' :: rest)
      = (name ++ '/' :: (cutTail rest).1, (cutTail rest).2) := by
    have hcut := cutTail_append hfront rest
    rwa [List.append_assoc, List.append_assoc, List.singleton_append, List.singleton_append] at hcut
  obtain ⟨htake, hdrop⟩ := span_path hname (cutTail rest).1
  obtain ⟨again, hagain⟩ := hauthority
  refine ⟨again, ?_⟩
  unfold parseWeb
  rw [dropWhile_slashes hnameNe hname, htail]
  dsimp only
  rw [htake, hdrop, List.isEmpty_cons, Bool.false_and, Bool.false_and, hagain]
  -- the host is read anew
  cases Host.parse u.host.toList <;> rfl

/-- A web address is read after its scheme, once it is cleaned. -/
theorem parse_eq_parseWeb (h : u.IsNormal) {cs rest : List Char}
    (hcs : cleaned cs = u.front ++ '/' :: rest) :
    parse (String.ofList cs) = parseWeb u.scheme ('/' :: '/' :: (u.userinfo.toList ++
      (u.host.toList ++ portText u.port) ++ '/' :: rest)) := by
  have hfront : u.front ++ '/' :: rest = u.scheme.toList ++ ':' :: ('/' :: '/' ::
      (u.userinfo.toList ++ (u.host.toList ++ portText u.port) ++ '/' :: rest)) := by
    simp only [front, List.append_assoc, List.cons_append]
  unfold parse
  rw [String.toList_ofList, hcs, hfront, takeScheme?_web h.scheme]
  dsimp only
  rw [String.ofList_toList, if_pos (isWebScheme_web h.scheme)]

/-- There is no blank nor control character before the path. -/
theorem lt_of_mem_front (h : u.IsNormal) : ∀ c ∈ u.front, 0x20 < c.toNat := by
  intro c hc
  simp only [front, List.mem_append (s := u.scheme.toList), List.mem_cons] at hc
  rcases hc with hc | rfl | rfl | rfl | hc
  · exact lt_of_mem_webScheme h.scheme hc
  · decide
  · decide
  · decide
  · exact (isAuthorityChar_iff.1 (h.isAuthorityChar c hc)).1

/-- **Whatever follows its first slash, an address is read like its host.** -/
theorem exists_parse_front_eq (h : u.IsNormal) (rest : List Char) :
    ∃ userinfo path query fragment, parse (String.ofList (u.front ++ '/' :: rest))
      = (Host.parse u.host.toList).map fun again =>
          ⟨u.scheme, userinfo, again, u.port, path, query, fragment⟩ := by
  obtain ⟨kept, hkept⟩ := exists_cleaned_eq h.lt_of_mem_front rest
  obtain ⟨userinfo, hparse⟩ := h.exists_parseWeb_eq kept
  rw [h.parse_eq_parseWeb hkept, hparse]
  exact ⟨userinfo, _, _, _, rfl⟩

/-- **An address in normal form with another path and query string is read like its host.** -/
theorem exists_parse_eq (h : u.IsNormal) {segments : List (List Char)} (hne : segments ≠ [])
    (hsegments : ∀ s ∈ segments, IsSegment s) {query : Option (List Char)}
    (hquery : ∀ q, query = some q → ∀ c ∈ q, keeps queryEscapes c = true) :
    ∃ userinfo, parse (String.ofList
      (u.front ++ ((segments.flatMap fun s => '/' :: s) ++ queryText query)))
      = (Host.parse u.host.toList).map fun again => ⟨u.scheme, userinfo, again, u.port,
          String.ofList (normalPath (Text.joined '/' segments)),
          query.map String.ofList, none⟩ := by
  have hlow : ∀ c ∈ u.front ++ ((segments.flatMap fun s => '/' :: s) ++ queryText query),
      0x20 < c.toNat := by
    intro c hc
    rcases List.mem_append.1 hc with hc | hc
    · exact h.lt_of_mem_front c hc
    · rcases List.mem_append.1 hc with hc | hc
      · exact lt_of_mem_path hsegments c hc
      · exact lt_of_mem_queryText hquery c hc
  have hpath : (segments.flatMap fun s => '/' :: s) = '/' :: Text.joined '/' segments := by
    rw [← Text.drop_flatMap hne]
    obtain ⟨s, segments, rfl⟩ := List.exists_cons_of_ne_nil hne
    rfl
  -- the only mark is the one before the query string
  have htail : cutTail (Text.joined '/' segments ++ queryText query)
      = (Text.joined '/' segments, query, none) := by
    have hmarks : ∀ c ∈ Text.joined '/' segments, c ≠ '?' ∧ c ≠ '#' := fun c hc =>
      ne_of_mem_path hsegments c (hpath ▸ List.mem_cons_of_mem _ hc)
    rw [cutTail_append hmarks, cutTail_queryText fun q hq hmem =>
      absurd (hquery q hq '#' hmem) (by decide), List.append_nil]
  have hkept : (query.map fun q => String.ofList (escape queryEscapes q))
      = query.map String.ofList := by
    cases query with
    | none => rfl
    | some q => exact congrArg some (congrArg String.ofList (escape_eq_self (hquery q rfl)))
  obtain ⟨userinfo, hparse⟩ := h.exists_parseWeb_eq (Text.joined '/' segments ++ queryText query)
  have hcleaned := cleaned_eq_self hlow
  rw [htail, hkept] at hparse
  refine ⟨userinfo, ?_⟩
  rw [h.parse_eq_parseWeb (hcleaned.trans (by rw [hpath, List.cons_append])), hparse]
  rfl

/-- **An address in normal form with another path and query string is read back**, with its path
resolved. -/
theorem parse_eq (h : u.IsNormal) {segments : List (List Char)} (hne : segments ≠ [])
    (hsegments : ∀ s ∈ segments, IsSegment s) {query : Option (List Char)}
    (hquery : ∀ q, query = some q → ∀ c ∈ q, keeps queryEscapes c = true) {url : Url}
    (hurl : parse (String.ofList
      (u.front ++ ((segments.flatMap fun s => '/' :: s) ++ queryText query))) = .ok url) :
    url.scheme = u.scheme ∧ url.host = u.host ∧ url.port = u.port ∧
      url.path = String.ofList (normalPath (Text.joined '/' segments)) ∧
      url.query = query.map String.ofList := by
  obtain ⟨userinfo, hparse⟩ := h.exists_parse_eq hne hsegments hquery
  obtain ⟨host, hhost⟩ := h.host
  rw [hparse] at hurl
  -- if the host is read, it is the same
  obtain ⟨again, hagain, rfl⟩ := map_eq_ok_iff.1 hurl
  exact ⟨rfl, Host.parse_of_parse hhost hagain, rfl, rfl, rfl⟩

/-- **The address without slashes at its end** is the part up to the path, and the path without
them. -/
theorem dropEndWhile_write (h : u.IsNormal) (hquery : u.query = none)
    (hfragment : u.fragment = none) :
    Text.dropEndWhile (· = '/') u.write.toList
      = u.front ++ Text.dropEndWhile (· = '/') u.path.toList := by
  have hwrite : u.write.toList = u.front ++ u.path.toList := by
    unfold write front hostAndPort
    rw [hquery, hfragment]
    cases u.port <;> simp [portText, Text.decimal, String.toList_append]
  -- the last character before the path is no slash
  obtain ⟨init, c, hlast⟩ : ∃ init c,
      u.userinfo.toList ++ (u.host.toList ++ portText u.port) = init ++ [c] :=
    (List.eq_nil_or_concat' _).resolve_left h.name_ne_nil
  have hc : c ≠ '/' := by
    refine (isAuthorityChar_iff.1 (h.isAuthorityChar c ?_)).2.1
    rw [hlast]
    exact List.mem_append_right _ (List.mem_singleton_self c)
  have hfront : u.front = (u.scheme.toList ++ ':' :: '/' :: '/' :: init) ++ [c] := by
    simp only [front, hlast, List.append_assoc, List.cons_append]
  rw [hwrite, hfront, List.append_assoc _ [c], List.singleton_append,
    Text.dropEndWhile_append (by simpa using hc), List.append_assoc _ [c], List.singleton_append]

end IsNormal

end SearchRest.Url
