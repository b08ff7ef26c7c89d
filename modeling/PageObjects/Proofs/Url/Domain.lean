/-
  PageObjects.Proofs.Url.Domain

  Domain names in their ASCII form. Mapping a character once is enough, and an encoded
  label is decoded as it was; so a domain name that was read is read as itself.

    * `mapChar_of_mem`: what a character is mapped to is mapped to itself.
    * `labelToAscii?_self`: the ASCII form of a label is its own ASCII form.
    * `domainToAscii?_settled`: the characters of a domain name are settled.
    * `domainToAscii?_self`: the ASCII form of a domain name is its own ASCII form.
-/

import PageObjects.Proofs.Text.Case
import PageObjects.Proofs.Text.Numeral
import PageObjects.Proofs.Url.Decode
import PageObjects.Proofs.Url.Punycode
import PageObjects.Url.Host

namespace PageObjects
namespace Host

variable {c m : Char} {s d label ascii : List Char}

-- ============================================================================
-- Characters
-- ============================================================================

/-- The character is one that a domain name keeps. -/
structure Settled (c : Char) : Prop where
  ascii : c.toNat < 0x80
  uncapital : IsUncapital c
  allowed : allowed c = true

theorem settled_iff : Settled c ↔ c.toNat < 0x80 ∧ IsUncapital c ∧ allowed c = true :=
  ⟨fun h => ⟨h.ascii, h.uncapital, h.allowed⟩, fun ⟨h_ascii, h_uncapital, h_allowed⟩ =>
    ⟨h_ascii, h_uncapital, h_allowed⟩⟩

instance (c : Char) : Decidable (Settled c) :=
  decidable_of_iff _ settled_iff.symm

/-- A character is mapped to ASCII, to one of two signs that stay, or to its folded form. -/
theorem mem_mapChar (h : m ∈ mapChar c) :
    m.toNat < 0x80 ∧ IsUncapital m ∨ m = Char.ofNat 0x307 ∨ m = Char.ofNat 0x3c2
      ∨ mapChar c = [m] ∧ m = Text.foldCase c ∧ ¬(0xff01 ≤ c.toNat ∧ c.toNat ≤ 0xff5e) := by
  rw [mapChar] at h ⊢
  split at h
  · exact absurd h List.not_mem_nil
  · rename_i h_kept
    rw [if_neg h_kept]
    split at h
    · rw [List.mem_singleton.mp h]
      exact .inl (by decide)
    · rename_i h_dot
      rw [if_neg h_dot]
      split at h
      · rename_i h_sigma
        refine .inr (.inr (.inl ?_))
        rw [List.mem_singleton.mp h, ← h_sigma, Char.ofNat_toNat]
      · rename_i h_sigma
        rw [if_neg h_sigma]
        split at h
        · rcases List.mem_cons.mp h with rfl | h
          · exact .inl (by decide)
          · exact .inr (.inl (List.mem_singleton.mp h))
        · rename_i h_dotted
          rw [if_neg h_dotted]
          split at h
          · rename_i h_wide
            have h_narrow : (Char.ofNat (c.toNat - 0xfee0)).toNat < 0x80 := by
              rcases Text.toNat_ofNat (c.toNat - 0xfee0) with h_valid | h_zero <;> omega
            rw [List.mem_singleton.mp h]
            exact .inl ⟨Text.ascii_foldCase h_narrow, Text.isUncapital_foldCase _⟩
          · rename_i h_wide
            rw [if_neg h_wide, List.mem_singleton.mp h]
            exact .inr (.inr (.inr ⟨rfl, rfl, h_wide⟩))

theorem isUncapital_of_mem_mapChar (h : m ∈ mapChar c) : IsUncapital m := by
  rcases mem_mapChar h with ⟨-, h_uncapital⟩ | rfl | rfl | ⟨-, rfl, -⟩
  · exact h_uncapital
  · decide
  · decide
  · exact Text.isUncapital_foldCase c

theorem mapChar_of_ascii (h_ascii : c.toNat < 0x80) (h : IsUncapital c) : mapChar c = [c] := by
  have h_kept : ignoredRanges.contains c = false := by
    rw [Text.CodeRanges.contains, ignoredRanges, Text.CodeRanges.covers, if_pos (by omega)]
  rw [mapChar, h_kept, if_neg Bool.false_ne_true, if_neg (by omega), if_neg (by omega),
    if_neg (by omega), if_neg (by omega), Text.foldCase_of_ascii h_ascii h]

/-- The code points that are dropped or mapped to anything but their folded form. -/
def mappedRanges : Text.CodeRanges :=
  ignoredRanges ++ [(0x130, 0x130), (0x3002, 0x3002), (0xff01, 0xff5e), (0xff61, 0xff61)]

theorem mapChar_of_folded (h : ∀ r ∈ mappedRanges, c.toNat < r.1 ∨ r.2 < c.toNat)
    (h_folded : Text.foldCase c = c) : mapChar c = [c] := by
  have h_kept : ignoredRanges.contains c = false := by
    rw [Bool.eq_false_iff]
    intro h_ignored
    obtain ⟨r, h_mem, h_in⟩ := Text.CodeRanges.exists_mem_of_covers h_ignored
    rcases h r (List.mem_append_left _ h_mem) with h_below | h_above <;> omega
  have h_dotted := h (0x130, 0x130) (by decide)
  have h_dot := h (0x3002, 0x3002) (by decide)
  have h_wide := h (0xff01, 0xff5e) (by decide)
  have h_half := h (0xff61, 0xff61) (by decide)
  dsimp only at h_dotted h_dot h_wide h_half
  rw [mapChar, h_kept, if_neg Bool.false_ne_true, if_neg (by omega), if_neg (c := _ = 0x130)
    (by omega), if_neg (c := _ ∧ _) (by omega), h_folded, ite_self]

/-- What a character is mapped to is mapped to itself. -/
theorem mapChar_of_mem (h : m ∈ mapChar c) : mapChar m = [m] := by
  -- wide forms of ASCII apart, no letter has a folded form that is mapped to something else
  have h_apart : ∀ run ∈ Text.foldRuns, (0xff01 ≤ run.1 ∧ run.2.1 ≤ 0xff5e)
      ∨ ∀ r ∈ mappedRanges, run.2.2.2 + (run.2.1 - run.1) < r.1 ∨ r.2 < run.2.2.2 := by
    decide +kernel
  rcases mem_mapChar h with ⟨h_ascii, h_uncapital⟩ | rfl | rfl | ⟨h_map, h_fold, h_wide⟩
  · exact mapChar_of_ascii h_ascii h_uncapital
  · decide +kernel
  · decide +kernel
  · have h_again : Text.foldCase m = m := by rw [h_fold, Text.foldCase_foldCase]
    rcases Text.foldCase_cases c with h_same | h_zero | ⟨run, h_mem, ⟨h_first, h_last, -⟩, h_moved⟩
    · rw [← h_fold] at h_same
      rw [h_same, h_map, ← h_same]
    · rw [← h_fold] at h_zero
      exact mapChar_of_ascii (by omega) (.inl (by omega))
    · rw [← h_fold] at h_moved
      refine mapChar_of_folded (fun r h_r => ?_) h_again
      rcases h_apart run h_mem with h_in | h_out
      · exact absurd ⟨by omega, by omega⟩ h_wide
      · rcases h_out r h_r with h_below | h_above
        · exact .inl (by omega)
        · exact .inr (by omega)

-- ============================================================================
-- Labels
-- ============================================================================

theorem settled_digitChar {n : Nat} (h : n < 36) : Settled (Punycode.digitChar n) := by
  have h_all : ∀ n < 36, Settled (Punycode.digitChar n) := by decide
  exact h_all n h

/-- A label is encoded with its own characters in ASCII, hyphens and digits. -/
theorem settled_encode (h : ∀ c ∈ label, c.toNat < 0x80 → Settled c) :
    ∀ c ∈ Punycode.encode label, Settled c := by
  intro c h_mem
  rcases Punycode.mem_encode h_mem with ⟨h_label, h_ascii⟩ | rfl | ⟨d, h_d, rfl⟩
  · exact h c h_label h_ascii
  · decide
  · exact settled_digitChar h_d

theorem encodedLabel?_eq_some {encoded : List Char} (h : encodedLabel? label = some encoded) :
    label = "xn--".toList ++ encoded := by
  unfold encodedLabel? at h
  split at h
  · rw [Option.some.inj h]
    rfl
  · cases h

/-- A label with an ASCII form is in ASCII already, or it is encoded. -/
theorem labelToAscii?_cases (h : labelToAscii? label = some ascii) :
    ascii = label ∧ (∀ c ∈ label, c.toNat < 0x80)
      ∨ ascii = "xn--".toList ++ Punycode.encode label ∧ label.any (0x80 ≤ ·.toNat) = true := by
  rw [labelToAscii?] at h
  cases h_encoded : encodedLabel? label with
  | some encoded =>
    rw [h_encoded] at h
    dsimp only at h
    cases h_decoded : Punycode.decode? encoded with
    | none => rw [h_decoded] at h; cases h
    | some decoded =>
      rw [h_decoded, Option.bind_eq_bind, Option.bind_some] at h
      split at h
      · refine .inl ⟨(Option.some.inj h).symm, ?_⟩
        rw [Punycode.decode?] at h_decoded
        split at h_decoded
        · rename_i h_all
          have h_mark : ∀ c ∈ "xn--".toList, c.toNat < 0x80 := Text.forall_mem_of_all (by decide)
          rw [encodedLabel?_eq_some h_encoded]
          exact List.forall_mem_append.mpr ⟨h_mark, fun c h_mem =>
            of_decide_eq_true (List.all_eq_true.mp h_all c h_mem)⟩
        · cases h_decoded
      · cases h
  | none =>
    rw [h_encoded] at h
    dsimp only at h
    split at h
    · rename_i h_all
      exact .inl ⟨(Option.some.inj h).symm, fun c h_mem =>
        of_decide_eq_true (List.all_eq_true.mp h_all c h_mem)⟩
    · rename_i h_other
      refine .inr ⟨(Option.some.inj h).symm, ?_⟩
      rw [Bool.not_eq_true, List.all_eq_false] at h_other
      obtain ⟨c, h_mem, h_c⟩ := h_other
      refine List.any_eq_true.mpr ⟨c, h_mem, decide_eq_true ?_⟩
      exact Nat.not_lt.mp fun h_ascii => h_c (decide_eq_true h_ascii)

theorem settled_labelToAscii? (h_label : ∀ c ∈ label, c.toNat < 0x80 → Settled c)
    (h : labelToAscii? label = some ascii) : ∀ c ∈ ascii, Settled c := by
  rcases labelToAscii?_cases h with ⟨rfl, h_ascii⟩ | ⟨rfl, -⟩
  · exact fun c h_mem => h_label c h_mem (h_ascii c h_mem)
  · have h_mark : ∀ c ∈ "xn--".toList, Settled c := Text.forall_mem_of_all (by decide)
    exact List.forall_mem_append.mpr ⟨h_mark, settled_encode h_label⟩

/-- Labels stay labels. -/
theorem dot_not_mem_labelToAscii? (h_label : '.' ∉ label) (h : labelToAscii? label = some ascii) :
    '.' ∉ ascii := by
  rcases labelToAscii?_cases h with ⟨rfl, -⟩ | ⟨rfl, -⟩
  · exact h_label
  · have h_digit : ∀ d < 36, '.' ≠ Punycode.digitChar d := by decide
    intro h_mem
    rcases List.mem_append.mp h_mem with h_mem | h_mem
    · exact absurd h_mem (by decide)
    · rcases Punycode.mem_encode h_mem with ⟨h_mem, -⟩ | h_hyphen | ⟨d, h_d, h_eq⟩
      · exact h_label h_mem
      · exact absurd h_hyphen (by decide)
      · exact h_digit d h_d h_eq

/-- The ASCII form of a label is its own ASCII form. -/
theorem labelToAscii?_self (h_label : ∀ c ∈ label, mapChar c = [c] ∧ allowed c = true)
    (h : labelToAscii? label = some ascii) : labelToAscii? ascii = some ascii := by
  rcases labelToAscii?_cases h with ⟨rfl, -⟩ | ⟨rfl, h_other⟩
  · exact h
  · have h_encoded : encodedLabel? ("xn--".toList ++ Punycode.encode label)
        = some (Punycode.encode label) := rfl
    have h_allowed : label.all allowed = true :=
      List.all_eq_true.mpr fun c h_mem => (h_label c h_mem).2
    have h_mapped : label.all (fun c => mapChar c == [c]) = true :=
      List.all_eq_true.mpr fun c h_mem => beq_iff_eq.mpr (h_label c h_mem).1
    rw [labelToAscii?, h_encoded]
    dsimp only
    rw [Punycode.decode?_encode, Option.bind_eq_bind, Option.bind_some, h_other, h_allowed,
      h_mapped, beq_self_eq_true]
    rfl

-- ============================================================================
-- Whole names
-- ============================================================================

/-- The characters of a domain name in its ASCII form are settled. -/
theorem domainToAscii?_settled (h : domainToAscii? s = some d) : ∀ c ∈ d, Settled c := by
  rw [domainToAscii?] at h
  split at h
  · rename_i h_all
    obtain ⟨labels, h_labels, rfl⟩ := Option.map_eq_some_iff.mp h
    have h_mapped : ∀ c ∈ s.flatMap mapChar, c.toNat < 0x80 → Settled c := by
      intro c h_mem h_ascii
      obtain ⟨origin, -, h_c⟩ := List.mem_flatMap.mp h_mem
      exact ⟨h_ascii, isUncapital_of_mem_mapChar h_c, List.all_eq_true.mp h_all c h_mem⟩
    intro c h_mem
    rcases Text.mem_of_mem_intercalate h_mem with rfl | ⟨ascii, h_ascii, h_c⟩
    · decide
    · obtain ⟨label, h_label, h_form⟩ := Text.exists_of_mem_mapM h_labels h_ascii
      exact settled_labelToAscii?
        (fun c h_c => h_mapped c (Text.mem_of_mem_parts h_label h_c)) h_form c h_c
  · cases h

/-- A settled name is its own ASCII form if its labels are. -/
theorem domainToAscii?_of_labels (h_settled : ∀ c ∈ s, Settled c)
    (h_labels : ∀ label ∈ Text.parts '.' s, labelToAscii? label = some label) :
    domainToAscii? s = some s := by
  have h_mapped : s.flatMap mapChar = s := by
    clear h_labels
    induction s with
    | nil => rfl
    | cons c rest ih =>
      obtain ⟨h_ascii, h_uncapital, -⟩ := h_settled c List.mem_cons_self
      rw [List.flatMap_cons, mapChar_of_ascii h_ascii h_uncapital,
        ih fun m h_mem => h_settled m (List.mem_cons_of_mem c h_mem)]
      rfl
  have h_all : s.all allowed = true :=
    List.all_eq_true.mpr fun c h_mem => (h_settled c h_mem).allowed
  rw [domainToAscii?, h_mapped, if_pos h_all, Text.mapM_of_forall (g := id) h_labels, List.map_id]
  exact congrArg some (Text.intercalate_parts '.' s)

/-- The ASCII form of a domain name is its own ASCII form. -/
theorem domainToAscii?_self (h : domainToAscii? s = some d) : domainToAscii? d = some d := by
  refine domainToAscii?_of_labels (domainToAscii?_settled h) fun ascii h_mem => ?_
  rw [domainToAscii?] at h
  split at h
  · rename_i h_all
    obtain ⟨labels, h_labels, rfl⟩ := Option.map_eq_some_iff.mp h
    have h_ne : labels ≠ [] := by
      obtain ⟨first, others, h_parts⟩ := Text.exists_parts '.' (s.flatMap mapChar)
      rintro rfl
      have h_length := (Text.forall₂_of_mapM h_labels).length_eq
      rw [h_parts] at h_length
      cases h_length
    have h_dots : ∀ ascii ∈ labels, '.' ∉ ascii := by
      intro ascii h_mem
      obtain ⟨label, h_label, h_form⟩ := Text.exists_of_mem_mapM h_labels h_mem
      exact dot_not_mem_labelToAscii? (Text.not_mem_of_mem_parts h_label) h_form
    rw [Text.parts_intercalate h_dots h_ne] at h_mem
    obtain ⟨label, h_label, h_form⟩ := Text.exists_of_mem_mapM h_labels h_mem
    refine labelToAscii?_self (fun c h_c => ?_) h_form
    have h_mapped := Text.mem_of_mem_parts h_label h_c
    obtain ⟨origin, -, h_origin⟩ := List.mem_flatMap.mp h_mapped
    exact ⟨mapChar_of_mem h_origin, List.all_eq_true.mp h_all c h_mapped⟩
  · cases h

end Host
end PageObjects
