/-
What stands between the slashes and the path, read back.

The user, the host and the port of an address in normal form hold nothing that
would end them early: what is escaped before the host includes all marks that
have a meaning there, a host is plain or in brackets, and a port is digits. So
the last `@` is the one behind the user, and the first colon outside brackets the
one before the port.
-/
import SearchRest.Proofs.Url.Host
import SearchRest.Proofs.Url.Path

set_option autoImplicit false

namespace SearchRest.Url

/-! ## Characters -/

/-- Whether the character may stand before the path. -/
def isAuthorityChar (c : Char) : Bool := 0x20 < c.toNat && !endsAuthority true c

theorem isAuthorityChar_iff {c : Char} :
    isAuthorityChar c = true ↔ 0x20 < c.toNat ∧ c ≠ '/' ∧ c ≠ '?' ∧ c ≠ '#' ∧ c ≠ '\\' := by
  simp [isAuthorityChar, endsAuthority, and_assoc]

/-- A character with a property is none of those without it. -/
theorem ne_of_holds {p : Char → Bool} {c d : Char} (hc : p c = true) (hd : p d = false) :
    c ≠ d := by
  rintro rfl
  rw [hc] at hd
  cases hd

theorem isAuthorityChar_of_isPlain {c : Char} (h : Domain.isPlain c = true) :
    isAuthorityChar c = true ∧ c ≠ '@' ∧ c ≠ ':' ∧ c ≠ '[' ∧ c ≠ ']' := by
  have hlow : 0x20 < c.toNat := by
    have hforbidden := Domain.isForbidden_of_isPlain h
    simp only [Domain.isForbidden, Bool.or_eq_false_iff, decide_eq_false_iff_not] at hforbidden
    exact Nat.lt_of_not_le hforbidden.1.1
  refine ⟨isAuthorityChar_iff.2 ⟨hlow, ?_, ?_, ?_, ?_⟩, ?_, ?_, ?_, ?_⟩
  all_goals exact ne_of_holds h (by decide)

theorem isAuthorityChar_of_isGroupChar {c : Char} (h : Host.isGroupChar c = true) :
    isAuthorityChar c = true ∧ c ≠ '@' ∧ c ≠ '[' ∧ c ≠ ']' := by
  have hlow : 0x20 < c.toNat := by
    refine Nat.lt_of_not_le fun hle => ?_
    have hnone : Host.isGroupChar c = false :=
      Text.holds_of_lt c (Nat.lt_succ_of_le hle) (by decide)
    rw [h] at hnone
    cases hnone
  refine ⟨isAuthorityChar_iff.2 ⟨hlow, ?_, ?_, ?_, ?_⟩, ?_, ?_, ?_⟩
  all_goals exact ne_of_holds h (by decide)

/-- What is kept before the host ends nothing. -/
theorem isAuthorityChar_of_keeps {c : Char} (h : keeps userinfoEscapes c = true) :
    isAuthorityChar c = true := by
  refine isAuthorityChar_iff.2 ⟨(lt_of_keeps h).1, ?_, ?_, ?_, ?_⟩
  all_goals exact ne_of_holds h (by decide)

/-! ## The user -/

/-- **What stands before the host** is nothing, or ends in `@`. -/
theorem userinfoText_eq (cs : List Char) :
    (userinfoText cs = [] ∨ ∃ user, userinfoText cs = user ++ ['@']) ∧
      ∀ c ∈ userinfoText cs, isAuthorityChar c = true := by
  have hescape : ∀ {cs : List Char} {c : Char}, c ∈ escape userinfoEscapes cs →
      isAuthorityChar c = true := fun h =>
    isAuthorityChar_of_keeps (mem_escape (by decide) h).1
  have hmarked : ∀ text : List Char, (∀ c ∈ text, isAuthorityChar c = true) →
      ((if text.isEmpty then [] else text ++ ['@']) = [] ∨
        ∃ user, (if text.isEmpty then [] else text ++ ['@']) = user ++ ['@']) ∧
      ∀ c ∈ (if text.isEmpty then [] else text ++ ['@']), isAuthorityChar c = true := by
    intro text htext
    split
    · exact ⟨.inl rfl, List.forall_mem_nil _⟩
    · refine ⟨.inr ⟨text, rfl⟩, fun c hc => ?_⟩
      rcases List.mem_append.1 hc with hc | hc
      · exact htext c hc
      · rw [List.mem_singleton.1 hc]
        decide
  unfold userinfoText
  split
  · exact hmarked _ fun c hc => hescape hc
  · refine hmarked _ fun c hc => ?_
    rcases List.mem_append.1 hc with hc | hc
    · exact hescape hc
    · rcases List.mem_cons.1 hc with rfl | hc
      · decide
      · exact hescape hc
  · exact hmarked _ fun c hc => hescape hc

/-! ## The host and the port -/

/-- The port as it stands behind the host. -/
def portText : Option Nat → List Char
  | some n => ':' :: Text.decimalDigits n
  | none => []

/-- **A port that has to be said**: a number below 65536 that does not go without saying. -/
def IsPort (scheme : String) (port : Option Nat) : Prop :=
  ∀ n, port = some n → n < 65536 ∧ some n ≠ defaultPort? scheme

theorem digitValue?_digitChar {d : Nat} (h : d < 10) :
    Text.digitValue? (Text.digitChar d) = some d := by
  have : ∀ d : Fin 10, Text.digitValue? (Text.digitChar d) = some d.val := by decide
  exact this ⟨d, h⟩

theorem port?_append (n : Nat) (cs ds : List Char) :
    port? n (cs ++ ds) = (port? n cs).bind fun n => port? n ds := by
  induction cs generalizing n with
  | nil => rfl
  | cons c cs ih =>
    rw [List.cons_append, port?, port?]
    cases Text.digitValue? c with
    | none => rfl
    | some d =>
      dsimp only
      split
      · exact ih _
      · rfl

/-- **A port is read back.** -/
theorem port?_decimalDigits {n : Nat} (h : n < 65536) :
    port? 0 (Text.decimalDigits n) = some n := by
  have hone : ∀ {m d : Nat}, d < 10 → m * 10 + d < 65536 →
      port? m [Text.digitChar d] = some (m * 10 + d) := by
    intro m d hd hlt
    rw [port?, digitValue?_digitChar hd]
    exact if_pos hlt
  induction n using Nat.strongRecOn with
  | ind n ih =>
    rw [Text.decimalDigits]
    split
    · rename_i hn
      rw [hone hn (by omega), Nat.zero_mul, Nat.zero_add]
    · rename_i hn
      rw [port?_append, ih (n / 10) (by omega) (by omega), Option.bind_some,
        hone (Nat.mod_lt _ (by decide)) (by omega), Nat.div_add_mod']

theorem isAuthorityChar_of_mem_portText {port : Option Nat} {c : Char} (h : c ∈ portText port) :
    isAuthorityChar c = true ∧ c ≠ '@' := by
  cases port with
  | none => cases h
  | some n =>
    rcases List.mem_cons.1 h with rfl | h
    · decide
    · obtain ⟨d, hd, rfl⟩ := Text.mem_decimalDigits h
      have : ∀ d : Fin 10, isAuthorityChar (Text.digitChar d) = true ∧ Text.digitChar d ≠ '@' := by
        decide
      exact this ⟨d, hd⟩

theorem isAuthorityChar_of_isForm {host : List Char} (h : Host.IsForm host) :
    ∀ c ∈ host, isAuthorityChar c = true ∧ c ≠ '@' := by
  intro c hc
  rcases h with ⟨-, hplain⟩ | ⟨l, -, rfl⟩
  · have := isAuthorityChar_of_isPlain (hplain c hc)
    exact ⟨this.1, this.2.1⟩
  · rcases List.mem_cons.1 hc with rfl | hc
    · decide
    · rcases List.mem_append.1 hc with hc | hc
      · have := isAuthorityChar_of_isGroupChar (Host.isGroupChar_of_mem_ipv6Text hc)
        exact ⟨this.1, this.2.1⟩
      · rw [List.mem_singleton.1 hc]
        decide

theorem cutPort_portText (port : Option Nat) :
    cutPort false (portText port) = ([], portText port) := by
  cases port with
  | none => rfl
  | some n => exact if_pos ⟨rfl, rfl⟩

/-- A text without brackets, and outside brackets without colons, is passed over. -/
theorem cutPort_append {inBrackets : Bool} {front : List Char}
    (h : ∀ c ∈ front, c ≠ '[' ∧ c ≠ ']' ∧ (inBrackets = false → c ≠ ':')) (cs : List Char) :
    cutPort inBrackets (front ++ cs)
      = (front ++ (cutPort inBrackets cs).1, (cutPort inBrackets cs).2) := by
  induction front with
  | nil => rfl
  | cons c front ih =>
    obtain ⟨⟨hopen, hclose, hcolon⟩, hfront⟩ := List.forall_mem_cons.1 h
    have hstop : ¬ (c = ':' ∧ (!inBrackets) = true) := by
      rintro ⟨hc, hout⟩
      exact hcolon (by simpa using hout) hc
    rw [List.cons_append, cutPort, if_neg hstop]
    dsimp only
    rw [if_neg hopen, if_neg hclose, ih hfront]
    rfl

/-- **The host is cut off its port.** -/
theorem cutPort_host {host : List Char} (h : Host.IsForm host) (port : Option Nat) :
    cutPort false (host ++ portText port) = (host, portText port) := by
  rcases h with ⟨-, hplain⟩ | ⟨l, -, rfl⟩
  · have hfront : ∀ c ∈ host, c ≠ '[' ∧ c ≠ ']' ∧ (false = false → c ≠ ':') := by
      intro c hc
      obtain ⟨-, -, hcolon, hopen, hclose⟩ := isAuthorityChar_of_isPlain (hplain c hc)
      exact ⟨hopen, hclose, fun _ => hcolon⟩
    rw [cutPort_append hfront, cutPort_portText, List.append_nil]
  · have hinner : ∀ c ∈ Host.ipv6Text l, c ≠ '[' ∧ c ≠ ']' ∧ (true = false → c ≠ ':') := by
      intro c hc
      obtain ⟨-, -, hopen, hclose⟩ :=
        isAuthorityChar_of_isGroupChar (Host.isGroupChar_of_mem_ipv6Text hc)
      exact ⟨hopen, hclose, fun h => by cases h⟩
    have hclose : cutPort true (']' :: portText port) = ([']'], portText port) := by
      rw [cutPort, if_neg (by simp)]
      dsimp only
      rw [if_neg (by decide), if_pos rfl, cutPort_portText]
    rw [List.cons_append, List.append_assoc, List.singleton_append, cutPort,
      if_neg (by simp)]
    dsimp only
    rw [if_pos rfl, cutPort_append hinner, hclose]

theorem cutLastAt_of_not_mem {cs : List Char} (h : '@' ∉ cs) : cutLastAt cs = none := by
  rw [cutLastAt, Text.cutFirst_eq_none fun hm => h (List.mem_reverse.1 hm)]
  rfl

theorem cutLastAt_append (front : List Char) {back : List Char} (h : '@' ∉ back) :
    cutLastAt (front ++ '@' :: back) = some (front, back) := by
  have hreverse : (front ++ '@' :: back).reverse = back.reverse ++ '@' :: front.reverse := by simp
  rw [cutLastAt, hreverse, Text.cutFirst_append fun hm => h (List.mem_reverse.1 hm)]
  simp

/-- **What stands before the path is read back**, up to the host, which is read anew. -/
theorem authority_eq {scheme : String} {user host : List Char} {port : Option Nat}
    (huser : user = [] ∨ ∃ name, user = name ++ ['@']) (hhost : Host.IsForm host)
    (hport : IsPort scheme port) :
    ∃ userinfo, authority true scheme false (user ++ (host ++ portText port))
      = (Host.parse host).map fun again => (userinfo, again, port) := by
  have hat : '@' ∉ host ++ portText port := by
    intro h
    rcases List.mem_append.1 h with h | h
    · exact (isAuthorityChar_of_isForm hhost _ h).2 rfl
    · exact (isAuthorityChar_of_mem_portText h).2 rfl
  have hne := hhost.ne_nil
  have hempty : (host ++ portText port).isEmpty = false := by
    cases host with
    | nil => exact absurd rfl hne
    | cons c host => rfl
  have hread : ∀ n, port = some n → ∃ c digits, portText port = ':' :: c :: digits ∧
      port? 0 (c :: digits) = some n ∧ some n ≠ defaultPort? scheme := by
    rintro n rfl
    obtain ⟨hlt, hdefault⟩ := hport n rfl
    obtain ⟨c, digits, hdigits⟩ := List.exists_cons_of_ne_nil (Text.decimalDigits_ne_nil n)
    refine ⟨c, digits, ?_, ?_, hdefault⟩
    · rw [portText, hdigits]
    · rw [← hdigits]
      exact port?_decimalDigits hlt
  unfold authority
  rcases huser with rfl | ⟨name, rfl⟩
  case' inl => rw [List.nil_append, cutLastAt_of_not_mem hat]
  case' inr => rw [List.append_assoc, List.singleton_append, cutLastAt_append name hat]
  -- what follows the user is read alike with and without one
  all_goals
    dsimp only
    rw [if_neg (by simp [hempty]), cutPort_host hhost port]
    dsimp only
    rw [if_neg (by simp [hne]), if_pos rfl]
    cases Host.parse host with
    | error e => exact ⟨"", rfl⟩
    | ok again =>
      cases port with
      | none => exact ⟨_, rfl⟩
      | some n =>
        obtain ⟨c, digits, htext, hn, hdefault⟩ := hread n rfl
        rw [htext]
        simp only [List.drop_succ_cons, List.drop_zero, hn, if_neg hdefault]
        exact ⟨_, rfl⟩

end SearchRest.Url
