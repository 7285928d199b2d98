/-
Which task ids are read back.

The reader cuts at the first colon, and what stands behind it has to be a
numeral, which holds no colon. So a text that is read has one colon, and the
node is what stands in front of it. A task id can be made of any node, and its
text has a colon besides those of its node. If it is read at all, then, its node
holds none, and what is read is the id that was written. The reader takes plus
signs and zeros in front of a number, which are never written, so a text may
change when it is read and written again, but the id does not.
-/
import Mathlib.Data.List.Basic
import SearchRest.Proofs.Json.Rereading
import SearchRest.Proofs.Text.Numeral
import SearchRest.Proofs.Text.Pieces
import SearchRest.TaskId

set_option autoImplicit false

namespace SearchRest

theorem Identifier.ofText?_eq_some_iff {k : IdentifierKind} {s : String} {i : Identifier k} :
    ofText? k s = some i ↔ s ≠ "" ∧ i.text = s := by
  rw [ofText?]
  split
  · rename_i h
    exact iff_of_false (fun hnone => nomatch hnone) fun hne => hne.1 h
  · rename_i h
    constructor
    · intro hi
      obtain rfl := Option.some.inj hi
      exact ⟨h, rfl⟩
    · rintro ⟨-, rfl⟩
      rfl

namespace TaskId

variable {s : String} {t : TaskId}

/-- **A node that can be read back**: it is not empty and holds no colon. -/
def IsNode (node : String) : Prop := node ≠ "" ∧ ':' ∉ node.toList

/-- **What the id of a task looks like**: a node, a colon, and a numeral of a word of 64 bits. -/
def IsWritten (s node : String) (n : Nat) : Prop :=
  IsNode node ∧
    ∃ numeral, s.toList = node.toList ++ ':' :: numeral ∧ Text.IsWordNumeral numeral n

/-! ## Reading -/

/-- **What is read is just what is written like an id**, with the node and the number in it. -/
theorem ofText?_eq_some_iff : ofText? s = some t ↔ IsWritten s t.node.text t.number.toNat := by
  constructor
  · intro h
    unfold ofText? at h
    split at h
    · rename_i front back hcut
      obtain ⟨hcolon, hs⟩ := Text.splitFirst_eq_some_iff.1 hcut
      split at h
      · rename_i node n hnode hn
        obtain rfl := Option.some.inj h
        obtain ⟨hne, rfl⟩ := Identifier.ofText?_eq_some_iff.1 hnode
        have hnumeral := Text.readWord_eq_ok_iff.1 hn
        refine ⟨⟨hne, hcolon⟩, back.toList, hs, ?_⟩
        rwa [UInt64.toNat_ofNat_of_lt' hnumeral.lt]
      · cases h
    · cases h
  · rintro ⟨⟨hne, hcolon⟩, numeral, hs, hnumeral⟩
    have hcut : Text.splitFirst ':' s = some (t.node.text, String.ofList numeral) :=
      Text.splitFirst_eq_some hcolon (by rw [hs, String.toList_ofList])
    have hnode : Identifier.ofText? .node t.node.text = some t.node :=
      Identifier.ofText?_eq_some_iff.2 ⟨hne, rfl⟩
    have hword : Text.readWord (String.ofList numeral) = .ok t.number.toNat :=
      Text.readWord_eq_ok_iff.2 (by rwa [String.toList_ofList])
    simp only [ofText?, hcut, hnode, hword, UInt64.ofNat_toNat]

theorem parse_eq_ok_iff : parse s = .ok t ↔ ofText? s = some t := by
  unfold parse
  split
  · rename_i t' ht'
    rw [ht']
    exact ⟨fun h => congrArg some (Except.ok.inj h), fun h => congrArg Except.ok (Option.some.inj h)⟩
  · rename_i hnone
    rw [hnone]
    exact iff_of_false (fun h => nomatch h) fun h => nomatch h

theorem parse_eq_error_iff {e : RequestError} :
    parse s = .error e ↔ ofText? s = none ∧ e = .invalidParameterValue s description := by
  unfold parse
  split
  · rename_i t' ht'
    rw [ht']
    exact iff_of_false (fun h => nomatch h) fun h => nomatch h.1
  · rename_i hnone
    rw [hnone, Except.error.injEq, eq_comm]
    exact (and_iff_right rfl).symm

theorem ofText?_eq_none_iff : ofText? s = none ↔ ¬ ∃ node n, IsWritten s node n := by
  rw [← not_iff_not, not_not, ← Ne, Option.ne_none_iff_exists']
  constructor
  · rintro ⟨t, ht⟩
    exact ⟨_, _, ofText?_eq_some_iff.1 ht⟩
  · rintro ⟨node, n, h⟩
    have hlt : n < 2 ^ 64 := h.2.elim fun _ hnumeral => hnumeral.2.lt
    refine ⟨⟨⟨node⟩, UInt64.ofNat n⟩, ofText?_eq_some_iff.2 ?_⟩
    rwa [UInt64.toNat_ofNat_of_lt' hlt]

/-! ## Reading back -/

theorem toList_display (t : TaskId) :
    t.display.toList = t.node.text.toList ++ ':' :: Text.decimalDigits t.number.toNat :=
  String.toList_ofList

/-- An id with such a node is written like one. -/
theorem isWritten_display (h : IsNode t.node.text) :
    IsWritten t.display t.node.text t.number.toNat :=
  ⟨h, _, toList_display t, Text.isWordNumeral_decimalDigits t.number.toNat_lt⟩

/-- **No other node is read in an id that was written**: the colons are those of the node and one
more, and what is read has only one. -/
theorem IsWritten.isNode {node : String} {n : Nat} (h : IsWritten t.display node n) :
    IsNode t.node.text := by
  obtain ⟨hnode, numeral, hlist, hnumeral⟩ := h
  have hcolon : ':' ∉ numeral := fun hmem => by
    rcases hnumeral.mem hmem with hplus | hdigit
    · exact absurd hplus (by decide)
    · exact absurd hdigit (by decide)
  rw [toList_display, eq_comm, List.append_cons_inj_of_notMem hnode.2 hcolon] at hlist
  rwa [← String.toList_inj.1 hlist.1]

/-- **An id is read back exactly when its node can be.** -/
theorem ofText?_display : ofText? t.display = some t ↔ IsNode t.node.text := by
  rw [ofText?_eq_some_iff]
  exact ⟨IsWritten.isNode, isWritten_display⟩

/-- Otherwise nothing is read. -/
theorem ofText?_display_eq_none (h : ¬ IsNode t.node.text) : ofText? t.display = none :=
  ofText?_eq_none_iff.2 fun ⟨_, _, hwritten⟩ => h hwritten.isNode

/-- The text of the stored form is read as the text of the id is. -/
theorem read?_write_toJson (t : TaskId) : Stored.read? t.toJson.write = ofText? t.display := by
  rw [Stored.read?_write rfl t.toJson trivial (Nat.zero_le _)]
  rfl

/-- **A task id is read back, or not at all.** A text is read exactly when it is a node that is not
empty and holds no colon, a colon, and a numeral below `2 ^ 64` with or without a plus sign, and what
is read has this node and this number; any other text is refused. Of the ids, made of whatever nodes
and numbers, those whose node is not empty and holds no colon are read back from their texts and from
their stored forms, and all others are refused: no other id is read in their place. An id that was
read from any text is read back from its own. -/
theorem parse_faithful :
    (∀ (s : String) (t : TaskId), parse s = .ok t ↔ IsWritten s t.node.text t.number.toNat) ∧
    (∀ (s : String) (e : RequestError), parse s = .error e ↔
      (¬ ∃ node n, IsWritten s node n) ∧ e = .invalidParameterValue s description) ∧
    (∀ t : TaskId,
      (parse t.display = .ok t ↔ IsNode t.node.text) ∧
      (Stored.read? t.toJson.write = some t ↔ IsNode t.node.text) ∧
      (¬ IsNode t.node.text →
        parse t.display = .error (.invalidParameterValue t.display description) ∧
          (Stored.read? t.toJson.write : Option TaskId) = none)) ∧
    ∀ (s : String) (t : TaskId), parse s = .ok t → parse t.display = .ok t := by
  refine ⟨fun s t => ?_, fun s e => ?_, fun t => ⟨?_, ?_, fun hnode => ⟨?_, ?_⟩⟩, fun s t h => ?_⟩
  · rw [parse_eq_ok_iff, ofText?_eq_some_iff]
  · rw [parse_eq_error_iff, ofText?_eq_none_iff]
  · rw [parse_eq_ok_iff, ofText?_display]
  · rw [read?_write_toJson, ofText?_display]
  · exact parse_eq_error_iff.2 ⟨ofText?_display_eq_none hnode, rfl⟩
  · rw [read?_write_toJson, ofText?_display_eq_none hnode]
  · have hwritten := ofText?_eq_some_iff.1 (parse_eq_ok_iff.1 h)
    exact parse_eq_ok_iff.2 (ofText?_display.2 hwritten.1)

/-- A text with a plus sign and zeros, and an id whose node holds a colon. -/
theorem parse_faithful_of_plus :
    let t : TaskId := ⟨⟨"n-1"⟩, 7⟩
    let u : TaskId := ⟨⟨"n:1"⟩, 7⟩
    parse "n-1:+007" = .ok t ∧ parse t.display = .ok t ∧ ¬ IsNode u.node.text ∧
      parse u.display = .error (.invalidParameterValue u.display description) := by
  intro t u
  have hread : parse "n-1:+007" = .ok t := by decide +kernel
  have hcolon : ¬ IsNode u.node.text := fun h => h.2 (by decide)
  exact ⟨hread, parse_faithful.2.2.2 _ t hread, hcolon, ((parse_faithful.2.2.1 u).2.2 hcolon).1⟩

end TaskId

end SearchRest
