/-
  PageObjects.Proofs.Url.Pairs

  The pairs of a query. Pairs that were put into their encoded form are read as they
  were, be it alone or behind other pairs and an ampersand, and also after the query
  was percent-encoded. Only an ampersand parts pairs: a question mark between two
  queries makes one pair of the last pair before it and the first one behind it.

    * `parse_encode`: percent-encoding does not change the pairs.
    * `parse_append_render`: pairs behind an ampersand follow those before it.
    * `parse_append_query`: two queries with a question mark between them have other
      pairs than the two on their own.
-/

import PageObjects.Proofs.Url.Decode
import PageObjects.Url.Form

namespace PageObjects
namespace Form

variable {mark : Char} {s : List Char} {set : Char → Bool}

-- ============================================================================
-- Names and values
-- ============================================================================

/-- What a character of a name or a value is decoded as, escapes apart. -/
def unplus (c : Char) : Char :=
  if c = '+' then ' ' else c

theorem decode_eq (s : List Char) :
    decode s = Utf8.decodeLossy (Percent.decode (s.map unplus)) := rfl

theorem decode_nil : decode [] = [] := by
  rw [decode_eq, List.map_nil, Percent.decode_nil, Utf8.decodeLossy, Utf8.units_nil, List.map_nil]

theorem unplus_of_ne {c : Char} (h : c ≠ '+') : unplus c = c :=
  if_neg h

/-- Escapes are written without a plus sign. -/
theorem map_unplus_escapesOf (c : Char) :
    ((Utf8.encodeChar c).flatMap Percent.encodeByte).map unplus
      = (Utf8.encodeChar c).flatMap Percent.encodeByte := by
  have h_all : ∀ d ∈ Percent.escapeChars, d ≠ '+' := Text.forall_mem_of_all (by decide)
  refine (List.map_congr_left fun d h_mem => ?_).trans (List.map_id _)
  obtain ⟨b, h_b, h_d⟩ := List.mem_flatMap.1 h_mem
  exact unplus_of_ne (h_all d (Percent.mem_encodeByte (Utf8.lt_of_mem_encodeChar h_b) h_d))

/-- A name or a value is read as it was before it was encoded. -/
theorem decode_encode (s : List Char) : decode (encode s) = s := by
  have h_bytes : Percent.decode ((encode s).map unplus) = Utf8.encode s := by
    induction s with
    | nil => exact Percent.decode_nil
    | cons c rest ih =>
      rw [encode, List.flatMap_cons, List.map_append, Utf8.encode, List.flatMap_cons]
      have h_rest : Percent.decode ((List.flatMap _ rest).map unplus)
          = rest.flatMap Utf8.encodeChar := ih
      split
      · rename_i h_plain
        have h_plus : c ≠ '+' := by
          rintro rfl
          exact absurd h_plain (by decide)
        have h_percent : c ≠ '%' := by
          rintro rfl
          exact absurd h_plain (by decide)
        rw [List.map_singleton, unplus_of_ne h_plus, List.singleton_append,
          Percent.decode_cons_of_ne h_percent, h_rest]
      · split
        · rename_i h_space
          rw [h_space]
          exact (Percent.decode_cons_of_ne (by decide) _).trans (congrArg _ h_rest)
        · rw [map_unplus_escapesOf, Percent.decode_escapesOf, h_rest]
  rw [decode_eq, h_bytes, Utf8.decodeLossy_encode]

/-- Percent-encoding with the set leaves alone what pairs are read by: the marks between them, the
    plus sign, and what escapes are written with. -/
structure SparesForm (set : Char → Bool) : Prop where
  digit : ∀ c, Text.digit? 16 c ≠ none → set c = false
  mark : ∀ c ∈ "%+&=".toList, set c = false

theorem SparesForm.ne {c d : Char} (h : SparesForm set) (h_set : set c = true)
    (h_d : d ∈ "%+&=".toList) : c ≠ d := by
  rintro rfl
  rw [h.mark c h_d] at h_set
  cases h_set

/-- A name or a value that is percent-encoded is read as before. -/
theorem decode_encoded (h : SparesForm set) (s : List Char) :
    decode (Percent.encode set s) = decode s := by
  have h_spelled : Percent.Respelled (s.map unplus) ((Percent.encode set s).map unplus) := by
    induction s with
    | nil => exact .nil
    | cons c rest ih =>
      rw [Percent.encode, List.flatMap_cons, List.map_append, List.map_cons]
      split
      · rename_i h_set
        have h_digit : Text.digit? 16 c = none := by
          by_contra h_some
          rw [h.digit c h_some] at h_set
          cases h_set
        rw [map_unplus_escapesOf, unplus_of_ne (h.ne h_set (by decide))]
        exact .escape (h.ne h_set (by decide)) h_digit ih
      · exact .same (unplus c) ih
  rw [decode_eq, decode_eq, h_spelled.decode_eq]

/-- What a mark stands between is read on its own. -/
structure Divides (mark : Char) : Prop where
  ascii : mark.toNat < 0x80
  ne_percent : mark ≠ '%'
  ne_plus : mark ≠ '+'
  digit : Text.digit? 16 mark = none

theorem divides_query : Divides '?' := ⟨by decide, by decide, by decide, by decide⟩
theorem divides_equals : Divides '=' := ⟨by decide, by decide, by decide, by decide⟩

theorem decode_append (h : Divides mark) (a b : List Char) :
    decode (a ++ mark :: b) = decode a ++ mark :: decode b := by
  have h_byte : Utf8.encodeChar mark = [mark.toNat] := if_pos h.ascii
  rw [decode_eq, List.map_append, List.map_cons, unplus_of_ne h.ne_plus,
    Percent.decode_append h.ne_percent h.digit, h_byte, List.singleton_append,
    Utf8.decodeLossy_append h.ascii, Char.ofNat_toNat]
  rfl

-- ============================================================================
-- Marks
-- ============================================================================

/-- A character of an encoded name or value stands for itself, for a space or in an escape. -/
theorem mem_encode {c : Char} (h : c ∈ encode s) :
    isPlain c = true ∨ c = '+' ∨ c ∈ Percent.escapeChars := by
  obtain ⟨d, -, h_c⟩ := List.mem_flatMap.1 h
  split at h_c
  · rename_i h_plain
    rw [List.mem_singleton.1 h_c]
    exact .inl h_plain
  · split at h_c
    · exact .inr (.inl (List.mem_singleton.1 h_c))
    · obtain ⟨b, h_b, h_c⟩ := List.mem_flatMap.1 h_c
      exact .inr (.inr (Percent.mem_encodeByte (Utf8.lt_of_mem_encodeChar h_b) h_c))

/-- The character is none that names and values are written with. -/
def isForeign (c : Char) : Bool :=
  !(isPlain c || c == '+' || Percent.escapeChars.contains c)

theorem not_mem_encode (h : isForeign mark = true) (s : List Char) : mark ∉ encode s := by
  simp only [isForeign, Bool.not_eq_true', Bool.or_eq_false_iff, beq_eq_false_iff_ne] at h
  obtain ⟨⟨h_plain, h_plus⟩, h_escape⟩ := h
  intro h_mem
  rcases mem_encode h_mem with h_c | h_c | h_c
  · rw [h_plain] at h_c
    cases h_c
  · exact h_plus h_c
  · rw [List.contains_iff_mem.2 h_c] at h_escape
    cases h_escape

theorem not_mem_renderPair (h : isForeign mark = true) (h_ne : mark ≠ '=')
    (pair : String × String) : mark ∉ renderPair pair := by
  intro h_mem
  rcases List.mem_append.1 h_mem with h_mem | h_mem
  · exact not_mem_encode h _ h_mem
  · rcases List.mem_cons.1 h_mem with h_eq | h_mem
    · exact h_ne h_eq
    · exact not_mem_encode h _ h_mem

/-- The text of pairs has no other marks than those between them. -/
theorem not_mem_render (h : isForeign mark = true) (h_ne : mark ≠ '=') (h_ne' : mark ≠ '&')
    (pairs : List (String × String)) : mark ∉ (render pairs).toList := by
  rw [render, String.toList_ofList]
  intro h_mem
  rcases Text.mem_of_mem_intercalate h_mem with h_eq | ⟨part, h_part, h_c⟩
  · exact h_ne' h_eq
  · obtain ⟨pair, -, rfl⟩ := List.mem_map.1 h_part
    exact not_mem_renderPair h h_ne pair h_c

-- ============================================================================
-- Pairs
-- ============================================================================

theorem parse_ofList (s : List Char) : parse (String.ofList s)
    = ((Text.parts '&' s).filter fun part => !part.isEmpty).map parsePair := by
  rw [parse, String.toList_ofList]

theorem parse_append (a b : List Char) :
    parse (String.ofList (a ++ '&' :: b)) = parse (String.ofList a) ++ parse (String.ofList b) := by
  simp only [parse_ofList, Text.parts_append_parts, List.filter_append, List.map_append]

theorem parsePair_renderPair (pair : String × String) : parsePair (renderPair pair) = pair := by
  have h_cut : Text.cut '=' (renderPair pair)
      = (encode pair.1.toList, some (encode pair.2.toList)) :=
    Text.cut_append (not_mem_encode (by decide) _) _
  rw [parsePair, h_cut]
  dsimp only
  rw [Option.getD_some, decode_encode, decode_encode, String.ofList_toList, String.ofList_toList]

/-- Pairs in their encoded form are read as they were. -/
theorem parse_renderPairs (pairs : List (String × String)) : parse (render pairs) = pairs := by
  cases pairs with
  | nil => rfl
  | cons pair pairs =>
    have h_parts : Text.parts '&' (['&'].intercalate ((pair :: pairs).map renderPair))
        = (pair :: pairs).map renderPair := by
      refine Text.parts_intercalate (fun part h_part => ?_) (List.cons_ne_nil _ _)
      obtain ⟨pair, -, rfl⟩ := List.mem_map.1 h_part
      exact not_mem_renderPair (by decide) (by decide) pair
    have h_full : ((pair :: pairs).map renderPair).filter (fun part => !part.isEmpty)
        = (pair :: pairs).map renderPair := by
      refine List.filter_eq_self.2 fun part h_part => ?_
      obtain ⟨pair, -, rfl⟩ := List.mem_map.1 h_part
      rw [renderPair]
      cases encode pair.1.toList <;> rfl
    rw [render, parse_ofList, h_parts, h_full, List.map_map]
    exact (List.map_congr_left fun pair _ => parsePair_renderPair pair).trans (List.map_id _)

/-- Pairs behind an ampersand follow those before it. -/
theorem parse_append_render (s : List Char) (pairs : List (String × String)) :
    parse (String.ofList (s ++ '&' :: (render pairs).toList))
      = parse (String.ofList s) ++ pairs := by
  rw [parse_append, String.ofList_toList, parse_renderPairs]

theorem parsePair_of_not_mem (h : '=' ∉ s) : parsePair s = (String.ofList (decode s), "") := by
  rw [parsePair, Text.cut_of_not_mem h]
  dsimp only
  rw [Option.getD_none, decode_nil]

theorem parsePair_append (h : '=' ∉ s) (value : List Char) : parsePair (s ++ '=' :: value)
    = (String.ofList (decode s), String.ofList (decode value)) := by
  rw [parsePair, Text.cut_append h]
  rfl

/-- A text is a name, or a name and a value. -/
theorem exists_nameValue (s : List Char) :
    '=' ∉ s ∨ ∃ name value, s = name ++ '=' :: value ∧ '=' ∉ name := by
  by_cases h : '=' ∈ s
  · obtain ⟨name, value, h_s, h_name⟩ := List.eq_append_cons_of_mem h
    exact .inr ⟨name, value, h_s, h_name⟩
  · exact .inl h

theorem parsePair_encode (h : SparesForm set) (s : List Char) :
    parsePair (Percent.encode set s) = parsePair s := by
  have h_apart : ∀ {s : List Char}, '=' ∉ s → '=' ∉ Percent.encode set s := fun h_s =>
    Percent.not_mem_encode (by decide) h_s
  rcases exists_nameValue s with h_s | ⟨name, value, rfl, h_name⟩
  · rw [parsePair_of_not_mem h_s, parsePair_of_not_mem (h_apart h_s), decode_encoded h]
  · rw [Percent.encode_append_cons (h.mark '=' (by decide)), parsePair_append h_name,
      parsePair_append (h_apart h_name), decode_encoded h, decode_encoded h]

theorem parse_of_not_mem (h : '&' ∉ s) (h_ne : s ≠ []) :
    parse (String.ofList s) = [parsePair s] := by
  have h_full : [s].filter (fun part => !part.isEmpty) = [s] := by
    refine List.filter_eq_self.2 fun part h_part => ?_
    rw [List.mem_singleton.1 h_part, List.isEmpty_eq_false_iff.2 h_ne]
    rfl
  rw [parse_ofList, Text.parts_of_not_mem h, h_full, List.map_singleton]

theorem parse_encode_of_not_mem (h : SparesForm set) (h_s : '&' ∉ s) :
    parse (String.ofList (Percent.encode set s)) = parse (String.ofList s) := by
  by_cases h_nil : s = []
  · rw [h_nil]
    rfl
  · rw [parse_of_not_mem h_s h_nil, parse_of_not_mem (Percent.not_mem_encode (by decide) h_s)
      (Percent.encode_ne_nil h_nil), parsePair_encode h]

/-- Percent-encoding does not change the pairs. -/
theorem parse_encode (h : SparesForm set) (s : List Char) :
    parse (String.ofList (Percent.encode set s)) = parse (String.ofList s) := by
  induction s using Text.parts_induction '&' with
  | last a h_a => exact parse_encode_of_not_mem h h_a
  | step a b h_a ih =>
    rw [Percent.encode_append_cons (h.mark '&' (by decide)), parse_append, parse_append, ih,
      parse_encode_of_not_mem h h_a]

-- ============================================================================
-- Two queries with a question mark between them
-- ============================================================================

/-- The number of characters in names and values. -/
def size : List (String × String) → Nat
  | [] => 0
  | (name, value) :: rest => name.length + value.length + size rest

theorem size_append (a b : List (String × String)) : size (a ++ b) = size a + size b := by
  induction a with
  | nil => rw [List.nil_append, size, Nat.zero_add]
  | cons pair rest ih =>
    obtain ⟨name, value⟩ := pair
    rw [List.cons_append, size, size, ih]
    omega

/-- The number of characters in the name and the value of one pair. -/
def pairSize (s : List Char) : Nat :=
  size [parsePair s]

theorem pairSize_of_not_mem (h : '=' ∉ s) : pairSize s = (decode s).length := by
  rw [pairSize, parsePair_of_not_mem h]
  simp [size]

theorem pairSize_append (h : '=' ∉ s) (value : List Char) :
    pairSize (s ++ '=' :: value) = (decode s).length + (decode value).length := by
  rw [pairSize, parsePair_append h]
  simp [size]

/-- As a value a text has all the characters it has as a pair. -/
theorem pairSize_le_length (s : List Char) : pairSize s ≤ (decode s).length := by
  rcases exists_nameValue s with h_s | ⟨name, value, rfl, h_name⟩
  · exact Nat.le_of_eq (pairSize_of_not_mem h_s)
  · rw [pairSize_append h_name, decode_append divides_equals, List.length_append, List.length_cons]
    omega

/-- A question mark in a pair is one of its characters. -/
theorem pairSize_append_query (a b : List Char) :
    pairSize a + pairSize b < pairSize (a ++ '?' :: b) := by
  rcases exists_nameValue a with h_a | ⟨name, value, rfl, h_name⟩
  · rcases exists_nameValue b with h_b | ⟨name, value, rfl, h_name⟩
    · have h_whole : '=' ∉ a ++ '?' :: b := by
        simp [h_a, h_b]
      rw [pairSize_of_not_mem h_a, pairSize_of_not_mem h_b, pairSize_of_not_mem h_whole,
        decode_append divides_query, List.length_append, List.length_cons]
      omega
    · have h_whole : '=' ∉ a ++ '?' :: name := by
        simp [h_a, h_name]
      rw [pairSize_of_not_mem h_a, pairSize_append h_name, ← List.cons_append,
        ← List.append_assoc, pairSize_append h_whole, decode_append divides_query,
        List.length_append, List.length_cons]
      omega
  · have h_value := pairSize_le_length b
    rw [pairSize_append h_name, List.append_assoc, List.cons_append, pairSize_append h_name,
      decode_append divides_query, List.length_append, List.length_cons]
    omega

theorem size_parse_of_not_mem (h : '&' ∉ s) : size (parse (String.ofList s)) = pairSize s := by
  by_cases h_nil : s = []
  · have h_none : parse (String.ofList []) = [] := rfl
    rw [h_nil, h_none, pairSize_of_not_mem List.not_mem_nil, decode_nil]
    rfl
  · rw [parse_of_not_mem h h_nil]
    rfl

theorem size_parse_append (a b : List Char) : size (parse (String.ofList (a ++ '&' :: b)))
    = size (parse (String.ofList a)) + size (parse (String.ofList b)) := by
  rw [parse_append, size_append]

theorem size_parse_append_query (a b : List Char) :
    size (parse (String.ofList a)) + size (parse (String.ofList b))
      < size (parse (String.ofList (a ++ '?' :: b))) := by
  induction a using Text.parts_induction '&' with
  | step front a _ ih =>
    rw [List.append_assoc, List.cons_append, size_parse_append, size_parse_append]
    omega
  | last a h_a =>
    -- the last pair before the question mark and the first one behind it become one
    induction b using Text.parts_induction '&' with
    | last b h_b =>
      have h_whole : '&' ∉ a ++ '?' :: b := by
        simp [h_a, h_b]
      rw [size_parse_of_not_mem h_a, size_parse_of_not_mem h_b, size_parse_of_not_mem h_whole]
      exact pairSize_append_query a b
    | step b behind h_b _ =>
      have h_whole : '&' ∉ a ++ '?' :: b := by
        simp [h_a, h_b]
      have h_pair := pairSize_append_query a b
      rw [← List.cons_append, ← List.append_assoc, size_parse_append, size_parse_append,
        size_parse_of_not_mem h_a, size_parse_of_not_mem h_b, size_parse_of_not_mem h_whole]
      omega

/-- Two queries with a question mark between them have other pairs than the two on their own. -/
theorem parse_append_query (a b : List Char) : parse (String.ofList (a ++ '?' :: b))
    ≠ parse (String.ofList a) ++ parse (String.ofList b) := by
  intro h_eq
  have h_size := size_parse_append_query a b
  rw [h_eq, size_append] at h_size
  exact Nat.lt_irrefl _ h_size

end Form
end PageObjects
