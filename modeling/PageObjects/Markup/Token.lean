/-
  PageObjects.Markup.Token

  The lexical level of markup. A text is cut into comments, declarations, start
  tags and end tags; whatever is none of these is a run of text, so every text has
  tokens and no character is lost.

    * A comment runs from `<!--` to the first `-->` behind it.
    * A declaration is `<!` before a word character, up to the next `>`.
    * A tag is a name, a list of attributes with optional values, and an optional
      slash before the closing `>`. Attributes are read twice: once to find the end of
      the tag, and once more, in a start tag, from the text that they take, where it
      does not matter what stands between them.

  An opening that does not become one of these is text, and the search for the
  next token goes on one character later.
-/

import PageObjects.Markup.Node
import PageObjects.Markup.Reference
import PageObjects.Text.WordChar

namespace PageObjects
namespace Markup

/-- A lexical unit of markup; names are in lower case. -/
inductive Token where
  | text (run : List Char)
  | comment (content : List Char)
  | declaration
  | endTag (name : String)
  | startTag (name : String) (attributes : List Attribute) (selfClosing : Bool)
deriving DecidableEq, Repr

namespace Token

/-! ## Character classes -/

/-- Whether `c` may stand behind the first letter of a tag name. -/
def isTagChar (c : Char) : Bool :=
  c.isAlphanum || c == ':' || c == '_' || c == '-'

/-- Whether `c` may stand in an attribute name. -/
def isNameChar (c : Char) : Bool :=
  !(Text.isBlank c || c == '"' || c == '\'' || c == '>' || c == '/' || c == '=')

/-- Whether `c` may stand in a value without quotes. -/
def isValueChar (c : Char) : Bool :=
  !(Text.isBlank c || c == '"' || c == '\'' || c == '=' || c == '<' || c == '>' || c == '`')

/-- The text in lower case, where only the letters of ASCII have two cases. -/
def lowerName (s : List Char) : String :=
  String.ofList (s.map Char.toLower)

/-! ## Attributes -/

/-- An attribute as written: its name, and its value if one is given. -/
abbrev Written := List Char × Option (List Char)

/-- Reads a value up to the quote that closes it; the opening quote is read already. -/
def quotedValue? (quote : Char) (s : List Char) : Option (List Char × List Char) :=
  match s.dropWhile (· != quote) with
  | _ :: rest => some (s.takeWhile (· != quote), rest)
  | [] => none

/-- Reads a value in double quotes, in single quotes, or without quotes. -/
def value? : List Char → Option (List Char × List Char)
  | '"' :: s => quotedValue? '"' s
  | '\'' :: s => quotedValue? '\'' s
  | s =>
    if (s.takeWhile isValueChar).isEmpty then none
    else some (s.takeWhile isValueChar, s.dropWhile isValueChar)

/-- Reads an equals sign and a value, with blanks around the sign. -/
def assigned? (s : List Char) : Option (List Char × List Char) :=
  match s.dropWhile Text.isBlank with
  | '=' :: rest => value? (rest.dropWhile Text.isBlank)
  | _ => none

/-- Reads a name and the value that it is given, if it is given one. -/
def assignment (s : List Char) : Written × List Char :=
  let name := s.takeWhile isNameChar
  let behind := s.dropWhile isNameChar
  match assigned? behind with
  | some (value, rest) => ((name, some value), rest)
  | none => ((name, none), behind)

/-- Reads one attribute with the blanks before it, of which there is at least one. -/
def attribute? : List Char → Option (Written × List Char)
  | [] => none
  | c :: s =>
    let body := s.dropWhile Text.isBlank
    if Text.isBlank c && !(body.takeWhile isNameChar).isEmpty then some (assignment body)
    else none

theorem length_le_of_quotedValue? {quote : Char} {s value rest : List Char}
    (h : quotedValue? quote s = some (value, rest)) : rest.length ≤ s.length := by
  unfold quotedValue? at h
  split at h
  · rename_i head tail h_drop
    have h_rest : tail = rest := (Prod.mk.inj (Option.some.inj h)).2
    have h_le := length_dropWhile_le (· != quote) s
    rw [h_drop, List.length_cons, h_rest] at h_le
    omega
  · cases h

theorem length_le_of_value? {s value rest : List Char}
    (h : value? s = some (value, rest)) : rest.length ≤ s.length := by
  unfold value? at h
  split at h
  · have := length_le_of_quotedValue? h
    simp only [List.length_cons]
    omega
  · have := length_le_of_quotedValue? h
    simp only [List.length_cons]
    omega
  · split at h
    · cases h
    · have h_rest := (Prod.mk.inj (Option.some.inj h)).2
      rw [← h_rest]
      exact length_dropWhile_le _ _

theorem length_le_of_assigned? {s value rest : List Char}
    (h : assigned? s = some (value, rest)) : rest.length ≤ s.length := by
  unfold assigned? at h
  split at h
  · rename_i tail h_drop
    have h_value := length_le_of_value? h
    have h_tail := length_dropWhile_le Text.isBlank tail
    have h_le := length_dropWhile_le Text.isBlank s
    rw [h_drop, List.length_cons] at h_le
    omega
  · cases h

theorem length_assignment_le (s : List Char) :
    (assignment s).2.length ≤ (s.dropWhile isNameChar).length := by
  rw [assignment]
  split
  · rename_i h_value
    exact length_le_of_assigned? h_value
  · exact Nat.le_refl _

/-- An attribute takes at least one character. -/
theorem length_lt_of_attribute? {s rest : List Char} {a : Written}
    (h : attribute? s = some (a, rest)) : rest.length < s.length := by
  cases s with
  | nil => cases h
  | cons c s =>
    have h_body := length_dropWhile_le Text.isBlank s
    have h_behind := length_dropWhile_le isNameChar (s.dropWhile Text.isBlank)
    have h_le := length_assignment_le (s.dropWhile Text.isBlank)
    simp only [attribute?] at h
    split at h
    · rw [Option.some.inj h] at h_le
      dsimp only at h_le
      simp only [List.length_cons]
      omega
    · cases h

/-- Reads as many attributes as there are; gives them with the text behind. -/
def attributes (s : List Char) : List Written × List Char :=
  match _h : attribute? s with
  | some (a, rest) =>
    let (as, behind) := attributes rest
    (a :: as, behind)
  | none => ([], s)
termination_by s.length
decreasing_by exact length_lt_of_attribute? (by assumption)

theorem length_le_attributes (s : List Char) : (attributes s).2.length ≤ s.length := by
  fun_induction attributes s with
  | case1 s a rest h as behind h_eq ih =>
    have := length_lt_of_attribute? h
    rw [h_eq] at ih
    simp only at ih ⊢
    omega
  | case2 s h => exact Nat.le_refl _

/-- Reads the attributes in a text, each from where its name starts. -/
def scanned (s : List Char) : List Written :=
  match _h : s.dropWhile fun c => !isNameChar c with
  | [] => []
  | c :: body => (assignment (c :: body)).1 :: scanned (assignment (c :: body)).2
termination_by s.length
decreasing_by
  have h_name : isNameChar c = true := by
    have h_head := List.head?_dropWhile_not (fun c => !isNameChar c) s
    rw [_h] at h_head
    simpa using h_head
  have h_start := length_dropWhile_le (fun c => !isNameChar c) s
  have h_body := length_dropWhile_le isNameChar body
  have h_le := length_assignment_le (c :: body)
  rw [List.dropWhile_cons_of_pos h_name] at h_le
  rw [_h, List.length_cons] at h_start
  omega

/-- The attributes of an element: names in lower case, references in values decoded, an absent
    value empty, and of attributes with one name only the first. -/
def distinct : List Written → List Attribute
  | [] => []
  | (name, value) :: rest =>
    (lowerName name, String.ofList (decodeChars (value.getD []))) ::
      (distinct rest).filter fun a => a.1 != lowerName name

/-! ## Tags, comments, declarations -/

/-- The end of a tag: an optional slash and the closing bracket. Tells whether there is a slash. -/
def tagEnd? : List Char → Option (Bool × List Char)
  | '>' :: rest => some (false, rest)
  | '/' :: '>' :: rest => some (true, rest)
  | _ => none

/-- Reads a tag behind its opening bracket and, for an end tag, its slash. -/
def named? (isEnd : Bool) : List Char → Option (Token × List Char)
  | [] => none
  | c :: s =>
    if c.isAlpha then
      let name := lowerName (c :: s.takeWhile isTagChar)
      let body := s.dropWhile isTagChar
      let behind := (attributes body).2
      let written := scanned (body.take (body.length - behind.length))
      (tagEnd? (behind.dropWhile Text.isBlank)).map fun (slash, rest) =>
        (if isEnd then .endTag name else .startTag name (distinct written) slash, rest)
    else none

/-- Reads a tag behind its opening bracket. -/
def tag? : List Char → Option (Token × List Char)
  | '/' :: s => named? true s
  | s => named? false s

/-- Splits the text at the first `-->`. -/
def commentEnd? : List Char → Option (List Char × List Char)
  | [] => none
  | c :: s =>
    match c, s with
    | '-', '-' :: '>' :: rest => some ([], rest)
    | _, _ => (commentEnd? s).map fun (content, rest) => (c :: content, rest)

/-- Reads a declaration behind its `<!`. -/
def declaration? : List Char → Option (Token × List Char)
  | [] => none
  | c :: s =>
    if Text.isWordChar c then
      match s.dropWhile (· != '>') with
      | _ :: rest => some (.declaration, rest)
      | [] => none
    else none

/-- Reads a comment, a declaration or a tag at the head of the text. -/
def next? : List Char → Option (Token × List Char)
  | '<' :: '!' :: '-' :: '-' :: s => (commentEnd? s).map fun (content, rest) => (.comment content, rest)
  | '<' :: '!' :: s => declaration? s
  | '<' :: s => tag? s
  | _ => none

theorem length_le_of_tagEnd? {s rest : List Char} {slash : Bool}
    (h : tagEnd? s = some (slash, rest)) : rest.length ≤ s.length := by
  unfold tagEnd? at h
  split at h
  · cases h; simp
  · cases h; simp only [List.length_cons]; omega
  · cases h

theorem length_le_of_named? {isEnd : Bool} {s rest : List Char} {t : Token}
    (h : named? isEnd s = some (t, rest)) : rest.length ≤ s.length := by
  cases s with
  | nil => cases h
  | cons c s =>
    simp only [named?] at h
    split at h
    · obtain ⟨⟨slash, behind⟩, h_end, h_eq⟩ := Option.map_eq_some_iff.1 h
      have h_rest : behind = rest := (Prod.mk.inj h_eq).2
      subst h_rest
      have h_tail := length_le_of_tagEnd? h_end
      have h_blank := length_dropWhile_le Text.isBlank (attributes (s.dropWhile isTagChar)).2
      have h_attrs := length_le_attributes (s.dropWhile isTagChar)
      have h_name := length_dropWhile_le isTagChar s
      simp only [List.length_cons]
      omega
    · cases h

theorem length_le_of_tag? {s rest : List Char} {t : Token}
    (h : tag? s = some (t, rest)) : rest.length ≤ s.length := by
  unfold tag? at h
  split at h
  · have := length_le_of_named? h
    simp only [List.length_cons]
    omega
  · exact length_le_of_named? h

theorem length_le_of_commentEnd? {s content rest : List Char}
    (h : commentEnd? s = some (content, rest)) : rest.length ≤ s.length := by
  induction s generalizing content with
  | nil => cases h
  | cons c s ih =>
    simp only [commentEnd?] at h
    split at h
    · cases h; simp only [List.length_cons]; omega
    · obtain ⟨⟨content', rest'⟩, h_tail, h_eq⟩ := Option.map_eq_some_iff.1 h
      have h_rest : rest' = rest := (Prod.mk.inj h_eq).2
      subst h_rest
      have := ih h_tail
      simp only [List.length_cons]
      omega

theorem length_le_of_declaration? {s rest : List Char} {t : Token}
    (h : declaration? s = some (t, rest)) : rest.length ≤ s.length := by
  cases s with
  | nil => cases h
  | cons c s =>
    simp only [declaration?] at h
    split at h
    · split at h
      · rename_i head tail h_drop
        have h_rest : tail = rest := (Prod.mk.inj (Option.some.inj h)).2
        have h_le := length_dropWhile_le (· != '>') s
        rw [h_drop, List.length_cons, h_rest] at h_le
        simp only [List.length_cons]
        omega
      · cases h
    · cases h

/-- A token takes at least one character. -/
theorem length_lt_of_next? {s rest : List Char} {t : Token}
    (h : next? s = some (t, rest)) : rest.length < s.length := by
  unfold next? at h
  split at h
  · obtain ⟨⟨content, rest'⟩, h_end, h_eq⟩ := Option.map_eq_some_iff.1 h
    have h_rest : rest' = rest := (Prod.mk.inj h_eq).2
    subst h_rest
    have := length_le_of_commentEnd? h_end
    simp only [List.length_cons]
    omega
  · have := length_le_of_declaration? h
    simp only [List.length_cons]
    omega
  · have := length_le_of_tag? h
    simp only [List.length_cons]
    omega
  · cases h

/-! ## The token list -/

/-- Puts a character of text before a list of tokens. -/
def consText (c : Char) : List Token → List Token
  | .text run :: rest => .text (c :: run) :: rest
  | tokens => .text [c] :: tokens

/-- The tokens of a text. -/
def ofChars (s : List Char) : List Token :=
  match s with
  | [] => []
  | c :: behind =>
    match _h : next? (c :: behind) with
    | some (token, rest) => token :: ofChars rest
    | none => consText c (ofChars behind)
termination_by s.length
decreasing_by
  · exact length_lt_of_next? (by assumption)
  · simp

end Token

end Markup
end PageObjects
