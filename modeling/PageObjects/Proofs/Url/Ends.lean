/-
  PageObjects.Proofs.Url.Ends

  The two ends of an address. The text that counts ends with a character that is
  visible, and a text that starts and ends with one and has no line break counts as
  it is. The scheme is written back in lower case and is read as it is; the query and
  the fragment are encoded.

    * `schemeText_of_scheme?`, `scheme?_append`: schemes.
    * `cleanTail_queryAndFragment`: queries and fragments.
-/

import Mathlib.Data.List.Basic
import Mathlib.Data.List.DropRight
import PageObjects.Proofs.Text.Split
import PageObjects.Proofs.Url.Encode
import PageObjects.Url.Parser

namespace PageObjects

namespace Url

variable {kind : SchemeKind} {s rest : List Char} {scheme : String} {c : Char}

-- ============================================================================
-- The text that counts
-- ============================================================================

/-- The text is empty or ends with a visible character. -/
def EndsVisible (s : List Char) : Prop :=
  ∀ c ∈ s.getLast?, 0x20 < c.toNat

theorem endsVisible_of_append {a b : List Char} (h : EndsVisible (a ++ b)) : EndsVisible b := by
  intro c h_c
  obtain ⟨front, rfl⟩ := List.getLast?_eq_some_iff.mp h_c
  refine h c ?_
  rw [← List.append_assoc, List.getLast?_concat]
  rfl

theorem endsVisible_of_forall (h : ∀ c ∈ s, 0x20 < c.toNat) : EndsVisible s :=
  fun c h_c => h c (List.mem_of_getLast? h_c)

theorem endsVisible_append {a b : List Char} (h_a : ∀ c ∈ a, 0x20 < c.toNat) (h_b : EndsVisible b) :
    EndsVisible (a ++ b) := by
  intro c h_c
  cases b with
  | nil =>
    rw [List.append_nil] at h_c
    exact h_a c (List.mem_of_getLast? h_c)
  | cons d rest =>
    rw [List.getLast?_append_of_ne_nil _ (List.cons_ne_nil d rest)] at h_c
    exact h_b c h_c

theorem endsVisible_filter {keep : Char → Bool} (h : EndsVisible s)
    (h_keep : ∀ c, 0x20 < c.toNat → keep c = true) : EndsVisible (s.filter keep) := by
  rcases List.eq_nil_or_concat s with rfl | ⟨front, last, rfl⟩
  · exact h
  · rw [List.concat_eq_append] at h ⊢
    rw [EndsVisible, List.getLast?_concat] at h
    have h_last : 0x20 < last.toNat := h last rfl
    rw [List.filter_append, List.filter_cons_of_pos (h_keep last h_last), List.filter_nil,
      EndsVisible, List.getLast?_concat]
    exact h

/-- Blanks inside a text and visible characters are kept. -/
theorem isBreak_eq_false (h : 0x20 ≤ c.toNat) : (c == '\t' || c == '\n' || c == '\r') = false := by
  have h_ne : ∀ mark ∈ ['\t', '\n', '\r'], c ≠ mark := by
    rintro mark h_mem rfl
    have h_all : ∀ mark ∈ ['\t', '\n', '\r'], mark.toNat < 0x20 :=
      Text.forall_mem_of_all (by decide)
    exact Nat.not_le.mpr (h_all c h_mem) h
  rw [beq_eq_false_iff_ne.mpr (h_ne '\t' (by decide)),
    beq_eq_false_iff_ne.mpr (h_ne '\n' (by decide)),
    beq_eq_false_iff_ne.mpr (h_ne '\r' (by decide))]
  rfl

theorem endsVisible_encode {set : Char → Bool} (h : EndsVisible s) :
    EndsVisible (Percent.encode set s) := by
  rcases List.eq_nil_or_concat s with rfl | ⟨front, last, rfl⟩
  · exact h
  · rw [List.concat_eq_append] at h ⊢
    rw [EndsVisible, List.getLast?_concat] at h
    have h_ne : Percent.encode set [last] ≠ [] := Percent.encode_ne_nil (List.cons_ne_nil last [])
    intro c h_c
    rw [Percent.encode_append, List.getLast?_append_of_ne_nil _ h_ne] at h_c
    rcases Percent.mem_encode (List.mem_of_getLast? h_c) with ⟨h_mem, -⟩ | h_mem
    · rw [List.mem_singleton.mp h_mem]
      exact h last rfl
    · have h_all : ∀ c ∈ Percent.escapeChars, 0x20 < c.toNat := Text.forall_mem_of_all (by decide)
      exact h_all c h_mem

theorem endsVisible_significant (text : String) : EndsVisible (significant text) := by
  refine endsVisible_filter (fun c h_c => ?_) fun c h_c => by
    rw [isBreak_eq_false (Nat.le_of_lt h_c)]
    rfl
  rw [List.getLast?_reverse] at h_c
  have h_edge := List.head?_dropWhile_not (fun c : Char => decide (c.toNat ≤ 0x20))
    (text.toList.dropWhile fun c => decide (c.toNat ≤ 0x20)).reverse
  rw [h_c] at h_edge
  exact Nat.not_le.mp (of_decide_eq_false h_edge)

/-- A text of visible characters and blanks inside. -/
structure AllCount (s : List Char) : Prop where
  first : ∀ c ∈ s.head?, 0x20 < c.toNat
  last : EndsVisible s
  all : ∀ c ∈ s, 0x20 ≤ c.toNat

theorem AllCount.of_forall (h : ∀ c ∈ s, 0x20 < c.toNat) : AllCount s where
  first c h_c := h c (List.mem_of_head? h_c)
  last := endsVisible_of_forall h
  all c h_mem := Nat.le_of_lt (h c h_mem)

/-- Whether a character, though not at an end of the text, does not count. -/
def isBreak (c : Char) : Bool :=
  c == '\t' || c == '\n' || c == '\r'

/-- What counts of a text behind the beginning of an address: no blanks and control characters at
    its end, and no tabs and line breaks. -/
def keptText (s : List Char) : List Char :=
  (s.rdropWhile fun c => c.toNat ≤ 0x20).filter fun c => !isBreak c

theorem keptText_nil : keptText [] = [] := rfl

theorem dropWhile_visible (h : ∀ c ∈ s.head?, 0x20 < c.toNat) :
    s.dropWhile (fun c => decide (c.toNat ≤ 0x20)) = s :=
  Text.dropWhile_append_of_stop (fun _ h_c => absurd h_c List.not_mem_nil) fun c h_c =>
    decide_eq_false (Nat.not_le.mpr (h c h_c))

/-- Of a text before another one all counts, line breaks apart, if a visible character ends it. -/
theorem keptText_append (h : EndsVisible s) (rest : List Char) :
    keptText (s ++ rest) = s.filter (fun c => !isBreak c) ++ keptText rest := by
  have h_reverse : ∀ c ∈ s.reverse.head?, 0x20 < c.toNat := by
    rw [List.head?_reverse]
    exact h
  have h_trimmed : (s ++ rest).rdropWhile (fun c => c.toNat ≤ 0x20)
      = s ++ rest.rdropWhile fun c => c.toNat ≤ 0x20 := by
    rw [List.rdropWhile, List.reverse_append, List.dropWhile_append, dropWhile_visible h_reverse,
      List.rdropWhile]
    split
    · rename_i h_nil
      rw [List.isEmpty_iff.mp h_nil, List.reverse_reverse, List.reverse_nil, List.append_nil]
    · rw [List.reverse_append, List.reverse_reverse]
  rw [keptText, h_trimmed, List.filter_append, ← keptText]

theorem filter_isBreak (h : ∀ c ∈ s, 0x20 ≤ c.toNat) : s.filter (fun c => !isBreak c) = s := by
  refine List.filter_eq_self.mpr fun c h_mem => ?_
  rw [isBreak, isBreak_eq_false (h c h_mem)]
  rfl

/-- Before visible text, be it only one character, all counts, line breaks apart. -/
theorem keptText_append_cons (h : ∀ d ∈ c :: rest, 0x20 < d.toNat) (s : List Char) :
    keptText (s ++ c :: rest) = s.filter (fun c => !isBreak c) ++ c :: rest := by
  have h_last : EndsVisible (s ++ c :: rest) := by
    intro d h_d
    rw [List.getLast?_append_of_ne_nil _ (List.cons_ne_nil c rest)] at h_d
    exact h d (List.mem_of_getLast? h_d)
  have h_all := keptText_append h_last []
  rwa [keptText_nil, List.append_nil, List.append_nil, List.filter_append,
    filter_isBreak fun d h_mem => Nat.le_of_lt (h d h_mem)] at h_all

/-- What a text ends with makes no difference to what counts of its beginning. -/
theorem significant_append {text : String} (h : AllCount s) (h_ne : s ≠ [])
    (h_text : text.toList = s ++ rest) : significant text = s ++ keptText rest := by
  have h_first : ∀ c ∈ (s ++ rest).head?, 0x20 < c.toNat := by
    rw [List.head?_append_of_ne_nil _ h_ne]
    exact h.first
  have h_kept := keptText_append h.last rest
  rw [← dropWhile_visible h_first, ← h_text, filter_isBreak h.all] at h_kept
  exact h_kept

theorem significant_eq_self {text : String} (h : AllCount text.toList) :
    significant text = text.toList := by
  by_cases h_nil : text.toList = []
  · rw [significant, h_nil]
    rfl
  · rw [significant_append h h_nil (List.append_nil text.toList).symm, keptText_nil,
      List.append_nil]

-- ============================================================================
-- Schemes
-- ============================================================================

/-- Whether a scheme may hold `c`. -/
def isSchemeChar (c : Char) : Bool :=
  c.isAlphanum || c == '+' || c == '-' || c == '.'

/-- The text of a scheme, in lower case. -/
structure SchemeText (scheme : String) : Prop where
  first : ∃ c rest, scheme.toList = c :: rest ∧ c.isAlpha = true
  chars : ∀ c ∈ scheme.toList, isSchemeChar c = true ∧ c.toLower = c

theorem ascii_of_isSchemeChar (h : isSchemeChar c = true) : c.toNat < 0x80 := by
  rw [isSchemeChar, Bool.or_eq_true, Bool.or_eq_true, Bool.or_eq_true, beq_iff_eq, beq_iff_eq,
    beq_iff_eq] at h
  rcases h with ((h_alphanum | rfl) | rfl) | rfl
  · exact Text.ascii_of_isAlphanum h_alphanum
  · decide
  · decide
  · decide

theorem isSchemeChar_toLower (h : isSchemeChar c = true) :
    isSchemeChar c.toLower = true ∧ c.toLower.toLower = c.toLower := by
  refine Text.of_ascii (motive := fun c => isSchemeChar c = true →
    isSchemeChar c.toLower = true ∧ c.toLower.toLower = c.toLower) ?_ (ascii_of_isSchemeChar h) h
  decide

theorem isSchemeChar_of_isAlpha (h : c.isAlpha = true) : isSchemeChar c = true := by
  show (c.isAlpha || c.isDigit || c == '+' || c == '-' || c == '.') = true
  rw [h]
  rfl

theorem isAlpha_toLower (h : c.isAlpha = true) : c.toLower.isAlpha = true := by
  refine Text.of_ascii (motive := fun c => c.isAlpha = true → c.toLower.isAlpha = true) ?_
    (ascii_of_isSchemeChar (isSchemeChar_of_isAlpha h)) h
  decide

/-- The scheme that is read has a text of its own, and the rest follows its colon. -/
theorem schemeText_of_scheme? (h : scheme? s = some (scheme, rest)) :
    SchemeText scheme ∧ ∃ before, s = before ++ ':' :: rest := by
  unfold scheme? at h
  dsimp only at h
  split at h
  · cases h
  · rename_i c tail
    split at h
    · rename_i h_alpha
      split at h
      · rename_i behind h_drop
        obtain ⟨h_scheme, rfl⟩ := Prod.mk.inj (Option.some.inj h)
        have h_run : ∀ d ∈ (c :: tail).takeWhile isSchemeChar, isSchemeChar d = true :=
          fun d h_mem => List.mem_takeWhile_imp h_mem
        refine ⟨⟨?_, ?_⟩, (c :: tail).takeWhile isSchemeChar, ?_⟩
        · refine ⟨c.toLower, (tail.takeWhile isSchemeChar).map Char.toLower, ?_,
            isAlpha_toLower h_alpha⟩
          have h_first := List.takeWhile_cons_of_pos (l := tail) (isSchemeChar_of_isAlpha h_alpha)
          rw [← h_scheme, String.toList_ofList]
          exact congrArg (List.map Char.toLower) h_first
        · intro d h_mem
          rw [← h_scheme, String.toList_ofList] at h_mem
          obtain ⟨origin, h_origin, rfl⟩ := List.mem_map.mp h_mem
          exact isSchemeChar_toLower (h_run origin h_origin)
        · rw [← h_drop]
          exact (List.takeWhile_append_dropWhile).symm
      · cases h
    · cases h

theorem scheme?_append (h : SchemeText scheme) (rest : List Char) :
    scheme? (scheme.toList ++ ':' :: rest) = some (scheme, rest) := by
  obtain ⟨c, tail, h_text, h_alpha⟩ := h.first
  have h_stop : ∀ d ∈ (':' :: rest).head?, isSchemeChar d = false := by
    intro d h_d
    obtain rfl := Option.some.inj h_d
    decide
  have h_run := Text.takeWhile_append_of_stop (fun d h_mem => (h.chars d h_mem).1) h_stop
  have h_rest := Text.dropWhile_append_of_stop (fun d h_mem => (h.chars d h_mem).1) h_stop
  have h_lower : scheme.toList.map Char.toLower = scheme.toList :=
    (List.map_congr_left fun d h_mem => (h.chars d h_mem).2).trans (List.map_id _)
  have h_written : String.ofList (List.map Char.toLower
      (List.takeWhile isSchemeChar (scheme.toList ++ ':' :: rest))) = scheme := by
    rw [h_run, h_lower, String.ofList_toList]
  rw [h_text, List.cons_append] at h_rest h_written
  unfold scheme?
  rw [h_text, List.cons_append]
  dsimp only
  rw [if_pos h_alpha]
  split
  · rename_i behind h_drop
    obtain rfl : rest = behind := (List.cons.inj (h_rest.symm.trans h_drop)).2
    exact congrArg (fun written => some (written, rest)) h_written
  · rename_i h_none
    exact absurd h_rest (h_none rest)

-- ============================================================================
-- Queries and fragments
-- ============================================================================

theorem not_mark_iff : (c != '?' && c != '#') = true ↔ c ∉ "?#".toList := by
  rw [Bool.and_eq_true, bne_iff_ne, bne_iff_ne]
  constructor
  · rintro ⟨h_query, h_fragment⟩ h_mem
    rcases List.mem_cons.mp h_mem with h_eq | h_mem
    · exact h_query h_eq
    · exact h_fragment (List.mem_singleton.mp h_mem)
  · exact fun h => ⟨fun h_eq => h (h_eq ▸ by decide), fun h_eq => h (h_eq ▸ by decide)⟩

/-- The text up to the query or the fragment, and what starts there. -/
theorem body_spec (s : List Char) : (UrlPath.body s).1 ++ (UrlPath.body s).2 = s
    ∧ (∀ c ∈ (UrlPath.body s).1, c ∉ "?#".toList)
    ∧ ∀ c ∈ (UrlPath.body s).2.head?, c ∈ "?#".toList := by
  refine ⟨List.takeWhile_append_dropWhile, fun c h_mem => ?_, fun c h_c => ?_⟩
  · have h_path : (c != '?' && c != '#') = true :=
      List.mem_takeWhile_imp (p := fun c => c != '?' && c != '#') h_mem
    exact not_mark_iff.mp h_path
  · have h_stop := List.head?_dropWhile_not (fun c => c != '?' && c != '#') s
    have h_head : (s.dropWhile fun c => c != '?' && c != '#').head? = some c := h_c
    rw [h_head] at h_stop
    by_contra h_not
    exact Bool.false_ne_true (h_stop.symm.trans (not_mark_iff.mpr h_not))

theorem mark_of_nil : ∀ c ∈ ([] : List Char).head?, c ∈ "?#".toList :=
  fun _ h_c => nomatch h_c

/-- The text is split where its query or its fragment starts. -/
theorem body_append {path tail : List Char} (h_path : ∀ c ∈ path, c ∉ "?#".toList)
    (h_tail : ∀ c ∈ tail.head?, c ∈ "?#".toList) : UrlPath.body (path ++ tail) = (path, tail) := by
  have h_run : ∀ c ∈ path, (c != '?' && c != '#') = true := fun c h_mem =>
    not_mark_iff.mpr (h_path c h_mem)
  have h_stop : ∀ c ∈ tail.head?, (c != '?' && c != '#') = false := by
    intro c h_c
    rw [Bool.eq_false_iff]
    exact fun h_true => not_mark_iff.mp h_true (h_tail c h_c)
  rw [UrlPath.body, Text.takeWhile_append_of_stop h_run h_stop,
    Text.dropWhile_append_of_stop h_run h_stop]

/-- The address with the query and the fragment in a text. -/
def withTail (u : Url) (tail : List Char) : Url :=
  { u with
    query := (queryAndFragment (.of u.scheme) tail).1
    fragment := (queryAndFragment (.of u.scheme) tail).2 }

theorem visible_of_inFragment (h : Percent.inFragment c = false) : 0x20 < c.toNat := by
  simp only [Percent.inFragment, Bool.or_eq_false_iff, beq_eq_false_iff_ne] at h
  obtain ⟨⟨⟨⟨⟨h_controls, h_space⟩, -⟩, -⟩, -⟩, -⟩ := h
  exact Percent.visible_of_not_inControls h_controls h_space

theorem visible_of_inQuery (h : Percent.inQuery c = false) : 0x20 < c.toNat ∧ c ≠ '#' := by
  simp only [Percent.inQuery, Bool.or_eq_false_iff, beq_eq_false_iff_ne] at h
  obtain ⟨⟨⟨⟨⟨h_controls, h_space⟩, -⟩, h_mark⟩, -⟩, -⟩ := h
  exact ⟨Percent.visible_of_not_inControls h_controls h_space, h_mark⟩

theorem visible_of_inPath (h : Percent.inPath c = false) :
    0x20 < c.toNat ∧ c ≠ '#' ∧ c ≠ '?' := by
  simp only [Percent.inPath, Bool.or_eq_false_iff, beq_eq_false_iff_ne] at h
  obtain ⟨⟨⟨⟨h_fragment, h_hash⟩, h_mark⟩, -⟩, -⟩ := h
  exact ⟨visible_of_inFragment h_fragment, h_hash, h_mark⟩

/-- The set of the characters that are encoded in a query. -/
def querySet (kind : SchemeKind) : Char → Bool :=
  if kind.isSpecial then Percent.inSpecialQuery else Percent.inQuery

theorem sparesEscapes_querySet (kind : SchemeKind) : Percent.SparesEscapes (querySet kind) := by
  cases kind with
  | special => exact Percent.sparesEscapes_inSpecialQuery
  | file => exact Percent.sparesEscapes_inSpecialQuery
  | other => exact Percent.sparesEscapes_inQuery

theorem inQuery_of_querySet (h : querySet kind c = false) : Percent.inQuery c = false := by
  cases kind with
  | special => exact (Bool.or_eq_false_iff.mp h).1
  | file => exact (Bool.or_eq_false_iff.mp h).1
  | other => exact h

/-- The query and the fragment of an address have no character that is encoded in them. -/
structure CleanTail (kind : SchemeKind) (query fragment : Option String) : Prop where
  query : ∀ text ∈ query, ∀ c ∈ text.toList, querySet kind c = false
  fragment : ∀ text ∈ fragment, ∀ c ∈ text.toList, Percent.inFragment c = false

theorem CleanTail.query_visible {query fragment : Option String} {text : String}
    (h : CleanTail kind query fragment) (h_text : text ∈ query) (h_mem : c ∈ text.toList) :
    0x20 < c.toNat ∧ c ≠ '#' :=
  visible_of_inQuery (inQuery_of_querySet (h.query text h_text c h_mem))

/-- A query ends before the fragment. -/
theorem CleanTail.hash_not_mem {query fragment : Option String} {text : String}
    (h : CleanTail kind query fragment) (h_text : text ∈ query) : '#' ∉ text.toList :=
  fun h_mem => (h.query_visible h_text h_mem).2 rfl

theorem cleanTail_queryAndFragment (kind : SchemeKind) (s : List Char) :
    CleanTail kind (queryAndFragment kind s).1 (queryAndFragment kind s).2 := by
  have h_query : ∀ (written : List Char), ∀ c ∈ (String.ofList
      (Percent.encode (querySet kind) written)).toList, querySet kind c = false := by
    intro written c h_mem
    rw [String.toList_ofList] at h_mem
    exact Percent.not_set_of_mem_encode (sparesEscapes_querySet kind) h_mem
  have h_fragment : ∀ (written : List Char), ∀ c ∈ (String.ofList
      (Percent.encode Percent.inFragment written)).toList, Percent.inFragment c = false := by
    intro written c h_mem
    rw [String.toList_ofList] at h_mem
    exact Percent.not_set_of_mem_encode Percent.sparesEscapes_inFragment h_mem
  unfold queryAndFragment
  dsimp only
  split
  · rename_i rest
    refine ⟨fun text h_text => ?_, fun text h_text => ?_⟩
    · obtain rfl := Option.some.inj h_text
      exact h_query _
    · obtain ⟨written, -, rfl⟩ := Option.map_eq_some_iff.mp h_text
      exact h_fragment written
  · refine ⟨fun text h_text => (nomatch h_text), fun text h_text => ?_⟩
    obtain rfl := Option.some.inj h_text
    exact h_fragment _
  · exact ⟨fun text h_text => (nomatch h_text), fun text h_text => (nomatch h_text)⟩

end Url
end PageObjects
