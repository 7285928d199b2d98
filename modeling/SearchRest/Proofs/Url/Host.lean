/-
Hosts in normal form.

What a web address is read to have as its host is a plain domain, an address of
version 4, which is plain too, or an address of version 6 in brackets. Each of
them is read as itself, if it is read at all: a domain because it is in normal
form and still does not end in a number, an address because its numbers are read
back.
-/
import SearchRest.Proofs.Url.Domain
import SearchRest.Proofs.Url.Numbers

set_option autoImplicit false

namespace SearchRest.Host

/-! ## What a host is made of -/

/-- The characters of an address of version 4 are plain. -/
theorem isPlain_of_mem_ipv4Text {n : Nat} {c : Char} (h : c ∈ ipv4Text n) :
    Domain.isPlain c = true := by
  rcases Text.mem_joined h with rfl | ⟨p, hp, hc⟩
  · decide
  · obtain ⟨m, -, rfl⟩ := List.mem_map.1 hp
    obtain ⟨d, hd, rfl⟩ := Text.mem_decimalDigits hc
    have : ∀ d : Fin 10, Domain.isPlain (Text.digitChar d) = true := by decide
    exact this ⟨d, hd⟩

theorem ipv4Text_ne_nil (n : Nat) : ipv4Text n ≠ [] := by
  intro h
  have hdotted := dotted_ipv4Text n
  rw [h] at hdotted
  exact absurd (congrArg List.length hdotted) (by simp [dotted, Text.pieces, ipv4Bytes])

/-- Whether the character occurs in addresses of version 6. -/
def isGroupChar (c : Char) : Bool := (Text.hexValue? c).isSome || c = ':'

theorem isGroupChar_of_mem_ipv6Text {l : List Nat} {c : Char} (h : c ∈ ipv6Text l) :
    isGroupChar c = true := by
  have hshown : ∀ {l : List Nat}, c ∈ shown l → isGroupChar c = true := by
    intro l h
    rcases Text.mem_joined h with rfl | ⟨p, hp, hc⟩
    · decide
    · obtain ⟨m, -, rfl⟩ := List.mem_map.1 hp
      obtain ⟨d, hd, rfl⟩ := Text.mem_hexDigits hc
      rw [isGroupChar, hexValue?_hexDigit hd]
      rfl
  unfold ipv6Text at h
  dsimp only at h
  split at h
  · simp only [List.mem_append, List.mem_cons] at h
    rcases h with h | rfl | rfl | h
    · exact hshown h
    · decide
    · decide
    · exact hshown h
  · exact hshown h

/-- **The forms of hosts**: a plain text, or an address of version 6 in brackets. -/
def IsForm (cs : List Char) : Prop :=
  (cs ≠ [] ∧ ∀ c ∈ cs, Domain.isPlain c = true) ∨
    ∃ l, IsGroups l ∧ cs = '[' :: (ipv6Text l ++ [']'])

theorem IsForm.ne_nil {cs : List Char} (h : IsForm cs) : cs ≠ [] := by
  rcases h with ⟨hne, -⟩ | ⟨l, -, rfl⟩
  · exact hne
  · exact List.cons_ne_nil _ _

/-! ## Reading -/

/-- What a plain text is read as: an address of version 4 if it ends in a number, and otherwise
itself. -/
theorem parse_of_isPlain {cs : List Char} (hplain : ∀ c ∈ cs, Domain.isPlain c = true)
    {host : String} (h : parse cs = .ok host) :
    (endsInNumber cs = false ∧ host = String.ofList cs) ∨
      (endsInNumber cs = true ∧ ∃ n, ipv4? cs = some n ∧ host = String.ofList (ipv4Text n)) := by
  unfold parse at h
  split at h
  · exact absurd (hplain '[' List.mem_cons_self) (by decide)
  split at h
  · cases h
  rename_i domain hdomain
  obtain rfl := Domain.normal?_of_isPlain hplain hdomain
  split at h
  · cases h
  split at h
  · rename_i hends
    split at h
    · rename_i n hn
      exact .inr ⟨hends, n, hn, (Except.ok.inj h).symm⟩
    · cases h
  · rename_i hends
    exact .inl ⟨Bool.eq_false_iff.2 hends, (Except.ok.inj h).symm⟩

/-- An address of version 6 in brackets is read as itself. -/
theorem parse_ipv6Text {l : List Nat} (h : IsGroups l) :
    parse ('[' :: (ipv6Text l ++ [']'])) = .ok (String.ofList ('[' :: (ipv6Text l ++ [']']))) := by
  unfold parse
  simp only [Text.dropLast?_append, Option.bind_some, ipv6?_ipv6Text h]
  rfl

/-- **What was read as a host**: an address of version 6, an address of version 4, or a domain in
normal form that does not end in a number. -/
theorem of_parse {cs : List Char} {host : String} (h : parse cs = .ok host) :
    (∃ l, IsGroups l ∧ host = String.ofList ('[' :: (ipv6Text l ++ [']']))) ∨
      (∃ n, n < 256 ^ 4 ∧ host = String.ofList (ipv4Text n)) ∨
      ∃ domain, domain ≠ [] ∧ Domain.normal? cs = some domain ∧
        endsInNumber domain = false ∧ host = String.ofList domain := by
  unfold parse at h
  split at h
  · split at h
    · rename_i groups hgroups
      obtain ⟨inner, -, hinner⟩ := Option.bind_eq_some_iff.1 hgroups
      exact .inl ⟨groups, isGroups_of_ipv6? hinner, (Except.ok.inj h).symm⟩
    · cases h
  split at h
  · cases h
  rename_i domain hdomain
  split at h
  · cases h
  rename_i hempty
  split at h
  · split at h
    · rename_i n hn
      exact .inr (.inl ⟨n, ipv4?_lt hn, (Except.ok.inj h).symm⟩)
    · cases h
  · rename_i hends
    refine .inr (.inr ⟨domain, ?_, hdomain, ?_, (Except.ok.inj h).symm⟩)
    · exact fun hnil => hempty (List.isEmpty_iff.2 hnil)
    · exact Bool.eq_false_iff.2 hends

/-- **The host of an address has one of the forms of hosts.** -/
theorem isForm_of_parse {cs : List Char} {host : String} (h : parse cs = .ok host) :
    IsForm host.toList := by
  rcases of_parse h with ⟨l, hl, rfl⟩ | ⟨n, -, rfl⟩ | ⟨domain, hne, hdomain, -, rfl⟩
  · rw [String.toList_ofList]
    exact .inr ⟨l, hl, rfl⟩
  · rw [String.toList_ofList]
    exact .inl ⟨ipv4Text_ne_nil n, fun c => isPlain_of_mem_ipv4Text⟩
  · rw [String.toList_ofList]
    exact .inl ⟨hne, Domain.isPlain_of_normal? hdomain⟩

/-- **A host is read as itself**, if it is read at all. -/
theorem parse_of_parse {cs : List Char} {host again : String} (h : parse cs = .ok host)
    (h' : parse host.toList = .ok again) : again = host := by
  rcases of_parse h with ⟨l, hl, rfl⟩ | ⟨n, hn, rfl⟩ | ⟨domain, -, hdomain, hends, rfl⟩
  · rw [String.toList_ofList, parse_ipv6Text hl] at h'
    exact (Except.ok.inj h').symm
  · rw [String.toList_ofList] at h'
    rcases parse_of_isPlain (fun c => isPlain_of_mem_ipv4Text) h' with ⟨-, rfl⟩ | ⟨-, m, hm, rfl⟩
    · rfl
    · rw [ipv4?_ipv4Text hn] at hm
      rw [Option.some.inj hm]
  · rw [String.toList_ofList] at h'
    rcases parse_of_isPlain (Domain.isPlain_of_normal? hdomain) h' with ⟨-, rfl⟩ | ⟨hends', -⟩
    · rfl
    · rw [hends] at hends'
      cases hends'

end SearchRest.Host
