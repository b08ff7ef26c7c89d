/-
  PageObjects.Proofs.Url.Values

  What is read back from an address to which pairs were added. The values of a
  parameter are those of the address and then those of the pairs; so a number that is
  added as the parameter `id` names the object if no other one does, and so does a
  number that is the last part of the path.

    * `Written.reads_addParams`: the pairs of an address with pairs added to it.
    * `paramValues?_addParams`: the values of a parameter.
    * `Text.Decimal`, `number?_of_decimal`: the texts of a number, and what is read
      from them.
    * `objectId?_append`, `objectId?_addParams`: what is read as the number of an object.
    * `objectId?_of_decimal`: the number that is read.
-/

import PageObjects.Proofs.Url.Added

namespace PageObjects

-- ============================================================================
-- Decimal texts
-- ============================================================================

namespace Text

variable {s : List Char} {c : Char} {n : Int}

/-- The texts of a number: perhaps a sign, any zeros, and its digits. -/
inductive Decimal : List Char → Int → Prop
  | plain {s : List Char} {n : Nat} (h : Writes 10 s n) : Decimal s n
  | plus {s : List Char} {n : Nat} (h : Writes 10 s n) : Decimal ('+' :: s) n
  | minus {s : List Char} {n : Nat} (h : Writes 10 s n) : Decimal ('-' :: s) (-n)

theorem writes_toDigits (n : Nat) : Writes 10 (Nat.toDigits 10 n) n := by
  have h_lower : ∀ d < 10, d.digitChar.toLower = d.digitChar := by decide
  refine ⟨0, (List.map_congr_left fun c h_mem => ?_).trans (List.map_id _)⟩
  obtain ⟨d, h_d, rfl⟩ := exists_of_mem_toDigits (by decide) h_mem
  exact h_lower d h_d

/-- The usual text of a number is one of them. -/
theorem decimal_toString (n : Int) : Decimal (toString n).toList n := by
  cases n with
  | ofNat n =>
    have h_text : (toString (Int.ofNat n)).toList = Nat.toDigits 10 n := Nat.toList_repr
    rw [h_text]
    exact .plain (writes_toDigits n)
  | negSucc n =>
    have h_text : (toString (Int.negSucc n)).toList = '-' :: Nat.toDigits 10 (n + 1) := by
      show ("-" ++ Nat.repr (n + 1)).toList = _
      rw [String.toList_append, Nat.toList_repr]
      rfl
    rw [h_text]
    exact .minus (writes_toDigits (n + 1))

/-- A digit is its own code. -/
theorem digit?_ten_cases (h : digit? 10 c ≠ none) : c ∈ "0123456789".toList := by
  by_cases h_ascii : c.toNat < 0x80
  · exact of_ascii (motive := fun c => digit? 10 c ≠ none → c ∈ "0123456789".toList)
      (by decide) h_ascii h
  · refine absurd ?_ h
    simp only [digit?]
    rw [if_neg (by omega), if_neg (by omega), if_neg (by omega)]
    rfl

theorem mem_of_writes {n : Nat} (h : Writes 10 s n) (h_mem : c ∈ s) : c ∈ "0123456789".toList := by
  obtain ⟨d, h_d⟩ := exists_digit?_of_mem (digitsNat?_of_writes (by decide) readsDigits_ten h) h_mem
  refine digit?_ten_cases ?_
  rw [h_d]
  exact Option.some_ne_none d

theorem Decimal.chars (h : Decimal s n) (h_mem : c ∈ s) : c ∈ "+-0123456789".toList := by
  have h_digit : ∀ c ∈ "0123456789".toList, c ∈ "+-0123456789".toList :=
    forall_mem_of_all (by decide)
  cases h with
  | plain h => exact h_digit c (mem_of_writes h h_mem)
  | plus h =>
    rcases List.mem_cons.mp h_mem with rfl | h_mem
    · decide
    · exact h_digit c (mem_of_writes h h_mem)
  | minus h =>
    rcases List.mem_cons.mp h_mem with rfl | h_mem
    · decide
    · exact h_digit c (mem_of_writes h h_mem)

/-- A number is read from each of its texts. -/
theorem integer?_of_decimal (h : Decimal s n) : integer? s = some n := by
  cases h with
  | plus h =>
    rw [integer?, natural?, digitsNat?_of_writes (by decide) readsDigits_ten h]
    · rfl
    · exact fun rest h_eq => nomatch h_eq
  | minus h =>
    rw [integer?, digitsNat?_of_writes (by decide) readsDigits_ten h]
    rfl
  | plain h =>
    have h_read := digitsNat?_of_writes (by decide) readsDigits_ten h
    have h_first : ∀ rest, s ≠ '-' :: rest ∧ s ≠ '+' :: rest := by
      refine fun rest => ⟨?_, ?_⟩
      · rintro rfl
        exact absurd (mem_of_writes h List.mem_cons_self) (by decide)
      · rintro rfl
        exact absurd (mem_of_writes h List.mem_cons_self) (by decide)
    rw [integer?, natural?, h_read]
    · rfl
    · exact fun rest => (h_first rest).2
    · exact fun rest => (h_first rest).1

end Text

-- ============================================================================
-- Values of a parameter
-- ============================================================================

namespace Url

variable {text name : String} {u : Url} {params : List (String × String)} {s : List Char} {n : Int}

/-- The values of a name that are not empty, in the order of the pairs. -/
def valuesIn (pairs : List (String × String)) (name : String) : List String :=
  pairs.filterMap fun pair => if pair.1 = name ∧ pair.2 ≠ "" then some pair.2 else none

/-- A list, `none` if it is empty. -/
def nonempty? (values : List String) : Option (List String) :=
  if values = [] then none else some values

theorem valuesIn_append (a b : List (String × String)) (name : String) :
    valuesIn (a ++ b) name = valuesIn a name ++ valuesIn b name :=
  List.filterMap_append

theorem valuesIn_eq_nil (h : ∀ value, (name, value) ∈ params → value = "") :
    valuesIn params name = [] := by
  refine List.filterMap_eq_nil_iff.mpr fun pair h_mem => if_neg ?_
  rintro ⟨rfl, h_ne⟩
  exact h_ne (h pair.2 h_mem)

/-- The values of a parameter are those in the pairs of the address. -/
theorem paramValues?_of_parse (h : parse text = .ok u) (name : String) :
    paramValues? text name = nonempty? (valuesIn u.pairs name) := by
  have h_values : ((Form.parse (u.query.getD "")).filter fun pair =>
      pair.1 == name && !pair.2.isEmpty).map (·.2) = valuesIn u.pairs name := by
    rw [← List.filterMap_eq_map, List.filterMap_filter, valuesIn, pairs]
    refine List.filterMap_congr fun pair _ => ?_
    simp
  have h_read : parseLenient? text = some u := by rw [parseLenient?, h]
  rw [paramValues?, h_read, Option.bind_eq_bind, Option.bind_some]
  dsimp only
  rw [h_values, nonempty?]
  split <;> simp_all

/-- Behind an address without a fragment pairs follow its own ones, and they leave its path as it
    is. -/
theorem Written.reads_addParams (h : Written u) (h_fragment : u.fragment = none)
    (params : List (String × String)) : ∃ shown,
      parse (addParams u.render params) = .ok shown ∧ shown.pairs = u.pairs ++ params
        ∧ (¬u.LooseDrive → shown.path = u.path) := by
  obtain ⟨site, -, h_read, h_settled⟩ := h.reads_added "" params
  have h_query : ∀ text ∈ u.query, '#' ∉ text.toList := fun text h_text =>
    h.tail.hash_not_mem h_text
  have h_own : tailPairs (tailText u.query none) = u.pairs := by
    rw [pairs]
    cases h_q : u.query with
    | none => rfl
    | some query =>
      rw [tailText_query, tailPairs_query (h_query query h_q), String.ofList_toList,
        Option.getD_some]
  have h_plain := tailText_plain h_query
  rw [h_fragment] at h_read
  have h_tail : withQuery (tailText u.query none) ((asked? "").map (keptQuery params))
      = tailText u.query none := List.append_nil _
  rw [h_tail] at h_read
  refine ⟨_, h_read, ?_, fun h_drive => ?_⟩
  · rw [pairs_withTail, tailPairs_withPairs h_plain.1 h_plain.2, h_own]
  · rw [h_settled h_drive]
    rfl

/-- The values of a parameter of an address without a fragment to which pairs were added: those of
    the address, then those of the pairs. -/
theorem paramValues?_addParams (h : parse text = .ok u) (h_fragment : u.fragment = none)
    (params : List (String × String)) (name : String) :
    paramValues? (addParams u.render params) name
      = nonempty? (valuesIn u.pairs name ++ valuesIn params name) := by
  obtain ⟨shown, h_read, h_pairs, -⟩ := (written_parse h).reads_addParams h_fragment params
  rw [paramValues?_of_parse h_read, h_pairs, valuesIn_append]

/-- The orders with two tags, of which one is empty. -/
def taggedOrders : Url where
  scheme := "http"
  authority := some { userinfo := "", host := "shop.local", port := none }
  path := "/orders"
  query := some "tag=new&tag="
  fragment := none

/-- A value that is in the address already and one with marks of its own. -/
theorem paramValues?_addParams_tags :
    parse "http://shop.local/orders?tag=new&tag=" = .ok taggedOrders
      ∧ paramValues? (addParams taggedOrders.render
          [("tag", "a & b"), ("x", "1"), ("tag", "")]) "tag"
        = some ["new", "a & b"] := by
  have h_read : parse "http://shop.local/orders?tag=new&tag=" = .ok taggedOrders := by
    decide +kernel
  refine ⟨h_read, (paramValues?_addParams h_read rfl _ _).trans ?_⟩
  decide +kernel

-- ============================================================================
-- Numbers of objects
-- ============================================================================

/-- A number, `none` if it takes more than 64 bits. -/
def fitting? (n : Int) : Option Int :=
  if -0x8000000000000000 ≤ n ∧ n < 0x8000000000000000 then some n else none

theorem number?_of_decimal (h : Text.Decimal s n) : number? s = fitting? n := by
  have h_visible : ∀ c ∈ "+-0123456789".toList, Text.isBlank c = false :=
    Text.forall_mem_of_all (by decide)
  have h_stop : ∀ {s : List Char}, (∀ c ∈ s, Text.isBlank c = false) →
      s.dropWhile Text.isBlank = s := by
    intro s h_all
    cases s with
    | nil => rfl
    | cons c rest =>
      refine List.dropWhile_cons_of_neg ?_
      rw [h_all c List.mem_cons_self]
      exact Bool.false_ne_true
  have h_all : ∀ c ∈ s, Text.isBlank c = false := fun c h_mem => h_visible c (h.chars h_mem)
  have h_trim : Text.trimBlanks s = s := Text.trimBlanks_eq_self (h_stop h_all)
    (h_stop fun c h_mem => h_all c (List.mem_reverse.mp h_mem))
  have h_size : (Text.wordSize 63 : Int) = 0x8000000000000000 := by decide
  rw [number?, h_trim, Text.int64?, Text.integer?_of_decimal h, fitting?, h_size,
    Option.filter_some]
  simp only [decide_eq_true_eq]

/-- A text without dots and percent signs is no dot segment. -/
theorem no_dots (h : ∀ c ∈ s, c.toLower ∉ ".%".toList) :
    UrlPath.isSingleDot s = false ∧ UrlPath.isDoubleDot s = false := by
  have h_first : ∀ mark ∈ ".%".toList, ∀ rest, ¬s.map Char.toLower = mark :: rest := by
    intro mark h_mark rest h_eq
    obtain ⟨c, h_c, rfl⟩ := List.mem_map.mp (h_eq ▸ List.mem_cons_self : mark ∈ s.map Char.toLower)
    exact h c h_c h_mark
  have h_dot := h_first '.' (by decide)
  have h_percent := h_first '%' (by decide)
  rw [UrlPath.isSingleDot, UrlPath.isDoubleDot]
  simp only [Bool.or_eq_false_iff, beq_eq_false_iff_ne]
  exact ⟨⟨h_dot _, h_percent _⟩, ⟨⟨h_dot _, h_dot _⟩, h_percent _⟩, h_percent _⟩

theorem plain_of_decimal (h : Text.Decimal s n) :
    UrlPath.Plain s ∧ '/' ∉ s ∧ '\\' ∉ s := by
  have h_chars : ∀ c ∈ "+-0123456789".toList,
      Percent.inPath c = false ∧ c ∉ "/\\".toList ∧ c.toLower ∉ ".%".toList :=
    Text.forall_mem_of_all (by decide)
  have h_each := fun c h_mem => h_chars c (h.chars (c := c) h_mem)
  have h_slash : '/' ∉ s := fun h_mem => (h_each _ h_mem).2.1 (by decide)
  obtain ⟨h_single, h_double⟩ := no_dots fun c h_mem => (h_each c h_mem).2.2
  exact ⟨UrlPath.plain_of_not_mem h_slash h_single h_double fun c h_mem => (h_each c h_mem).1,
    h_slash, fun h_mem => (h_each _ h_mem).2.1 (by decide)⟩

/-- An address of a special scheme has a server and a path from its root. -/
theorem Canonical.special (h : Canonical u) (h_special : SchemeKind.of u.scheme = .special) :
    u.authority.isSome = true
      ∧ UrlPath.Rooted (SchemeKind.of u.scheme).isSpecial u.path.toList.reverse := by
  have h_kind : SchemeKind.of u.scheme ≠ .other := by
    rw [h_special]
    decide
  cases h.path with
  | rooted h_path h_server => exact ⟨h_server.resolve_left h_kind, h_path⟩
  | bare _ h_other => exact absurd h_other h_kind
  | flat _ h_other => exact absurd h_other h_kind

/-- A decimal text may stand behind the last slash of the path. -/
theorem Canonical.append_decimal (h : Canonical u) (h_special : SchemeKind.of u.scheme = .special)
    (h_slash : u.path.toList.getLast? = some '/') {id : String} (h_id : Text.Decimal id.toList n) :
    Canonical { u with path := u.path ++ id } := by
  obtain ⟨h_plain, -, h_clean⟩ := plain_of_decimal h_id
  obtain ⟨h_server, h_path⟩ := h.special h_special
  refine ⟨h.scheme, h.kind, h.authority, .rooted ?_ (.inr h_server), h.tail⟩
  obtain ⟨b, h_b⟩ := List.head?_eq_some_iff.mp (List.head?_reverse.trans h_slash)
  rw [h_b] at h_path
  have h_segment := h_path.append_segment h_plain fun _ => h_clean
  rwa [← h_b, ← List.reverse_append, ← String.toList_append] at h_segment

/-- Without a parameter `id` the last part of the path names the object. -/
theorem objectId?_of_path (h : parse text = .ok u) (h_id : valuesIn u.pairs "id" = [])
    {front last : List Char} (h_path : u.path.toList = front ++ '/' :: last) (h_last : '/' ∉ last) :
    objectId? text = number? last := by
  have h_read : parseLenient? text = some u := by rw [parseLenient?, h]
  have h_end : (u.path.toList.reverse.takeWhile (· != '/')).reverse = last := by
    have h_not : '/' ∉ last.reverse := fun h_mem => h_last (List.mem_reverse.mp h_mem)
    rw [h_path, List.reverse_append, List.reverse_cons, List.append_assoc, List.singleton_append,
      Text.takeWhile_bne_append h_not, List.reverse_reverse]
  rw [objectId?, paramValues?_of_parse h, h_id, nonempty?, if_pos rfl, h_read]
  dsimp only [Option.bind_eq_bind, Option.bind_some]
  rw [h_end]

/-- The first parameter `id` that is not empty names the object. -/
theorem objectId?_of_param (h : parse text = .ok u) {id : String} {others : List String}
    (h_id : valuesIn u.pairs "id" = id :: others) : objectId? text = number? id.toList := by
  rw [objectId?, paramValues?_of_parse h, h_id, nonempty?, if_neg (List.cons_ne_nil _ _)]

/-- The end of the text of an address with neither a query nor a fragment is that of its path. -/
theorem render_append (h_server : u.authority.isSome = true) (h_query : u.query = none)
    (h_fragment : u.fragment = none) (behind : String) :
    ({ u with path := u.path ++ behind } : Url).render = u.render ++ behind := by
  have h_same : ({ u with path := u.path ++ behind } : Url).server = u.server := by
    obtain ⟨a, h_a⟩ := Option.isSome_iff_exists.mp h_server
    rw [server, server]
    dsimp only
    rw [h_a]
  rw [← String.toList_inj, String.toList_append, toList_render, toList_render, toList_base,
    toList_base, h_same]
  dsimp only
  rw [h_query, h_fragment, String.toList_append]
  simp only [tailText, List.append_nil, List.append_assoc, List.cons_append]

theorem getLast?_path (h : u.render.toList.getLast? = some '/') (h_path : u.path ≠ "")
    (h_query : u.query = none) (h_fragment : u.fragment = none) :
    u.path.toList.getLast? = some '/' := by
  have h_ne : u.path.toList ≠ [] := fun h_nil => h_path (String.toList_eq_nil_iff.mp h_nil)
  have h_text : u.render.toList = (u.scheme.toList ++ ':' :: u.server.toList) ++ u.path.toList := by
    rw [toList_render, toList_base, h_query, h_fragment]
    simp only [tailText, List.append_nil, List.append_assoc, List.cons_append]
  rwa [h_text, List.getLast?_append_of_ne_nil _ h_ne] at h

/-- A number behind the last slash of the path is read, whatever else is added. -/
theorem objectId?_append (h : parse text = .ok u) (h_special : SchemeKind.of u.scheme = .special)
    (h_query : u.query = none) (h_fragment : u.fragment = none)
    (h_slash : u.render.toList.getLast? = some '/')
    (h_params : ∀ value, ("id", value) ∈ params → value = "") {id : String}
    (h_id : Text.Decimal id.toList n) :
    objectId? (addParams (u.render ++ id) params) = number? id.toList := by
  have h_canonical := (written_parse h).canonical (by rw [h_special]; decide)
  obtain ⟨h_server, h_path⟩ := h_canonical.special h_special
  have h_ne : u.path ≠ "" := by
    intro h_empty
    have h_head := UrlPath.head?_of_rooted h_path
    rw [h_empty] at h_head
    cases h_head
  have h_last := getLast?_path h_slash h_ne h_query h_fragment
  -- the text with the number behind it is that of a canonical address with a longer path
  have h_longer : Written { u with path := u.path ++ id } :=
    .server (h_canonical.append_decimal h_special h_last h_id)
  obtain ⟨shown, h_read, h_pairs, h_shown⟩ := h_longer.reads_addParams h_fragment params
  rw [render_append h_server h_query h_fragment] at h_read
  have h_settled : ¬({ u with path := u.path ++ id } : Url).LooseDrive :=
    not_looseDrive h_canonical.kind
  have h_none : valuesIn shown.pairs "id" = [] := by
    have h_own : ({ u with path := u.path ++ id } : Url).pairs = [] := by
      rw [pairs]
      dsimp only
      rw [h_query]
      rfl
    rw [h_pairs, h_own, List.nil_append, valuesIn_eq_nil h_params]
  obtain ⟨front, h_front⟩ := List.getLast?_eq_some_iff.mp h_last
  have h_whole : shown.path.toList = front ++ '/' :: id.toList := by
    rw [h_shown h_settled, String.toList_append, h_front, List.append_assoc, List.singleton_append]
  exact objectId?_of_path h_read h_none h_whole (plain_of_decimal h_id).2.1

/-- The first parameter `id` that is added is read, if it is the only one. -/
theorem objectId?_addParams (h : parse text = .ok u) (h_fragment : u.fragment = none)
    (h_none : ∀ value, ("id", value) ∈ u.pairs → value = "") {id : String} (h_ne : id ≠ "") :
    objectId? (addParams u.render [("id", id)]) = number? id.toList := by
  obtain ⟨shown, h_read, h_pairs, -⟩ := (written_parse h).reads_addParams h_fragment [("id", id)]
  have h_values : valuesIn shown.pairs "id" = [id] := by
    rw [h_pairs, valuesIn_append, valuesIn_eq_nil h_none, List.nil_append, valuesIn]
    exact List.filterMap_cons_some (if_pos ⟨rfl, h_ne⟩)
  exact objectId?_of_param h_read h_values

/-- A number that is the last part of the path, whatever is added, and one that is added as the
    parameter `id`, if no other one is there: it names the object if it takes no more than 64
    bits. -/
theorem objectId?_of_decimal {id : String} {n : Int} (h_id : Text.Decimal id.toList n) :
    (∀ (text : String) (u : Url) (params : List (String × String)), parse text = .ok u →
        SchemeKind.of u.scheme = .special → u.query = none → u.fragment = none →
        u.render.toList.getLast? = some '/' → (∀ value, ("id", value) ∈ params → value = "") →
        objectId? (addParams (u.render ++ id) params) = fitting? n)
      ∧ ∀ (text : String) (u : Url), parse text = .ok u → u.fragment = none →
        (∀ value, ("id", value) ∈ u.pairs → value = "") →
        objectId? (addParams u.render [("id", id)]) = fitting? n := by
  refine ⟨fun text u params h h_special h_query h_fragment h_slash h_params => ?_,
    fun text u h h_fragment h_none => ?_⟩
  · rw [objectId?_append h h_special h_query h_fragment h_slash h_params h_id,
      number?_of_decimal h_id]
  · have h_ne : id ≠ "" := by
      rintro rfl
      cases Text.integer?_of_decimal h_id
    rw [objectId?_addParams h h_fragment h_none h_ne, number?_of_decimal h_id]

/-- The orders without tags. -/
def orders : Url :=
  { taggedOrders with path := "/orders/", query := none }

/-- The last number of 64 bits names an object, the next one none. -/
theorem objectId?_of_decimal_limit :
    objectId? (addParams (orders.render ++ toString (0x7fffffffffffffff : Int))
          [("tag", "2"), ("id", "")])
        = some 0x7fffffffffffffff
      ∧ objectId? (addParams taggedOrders.render [("id", toString (0x8000000000000000 : Int))])
        = none := by
  have h_orders : parse "http://shop.local/orders/" = .ok orders := by decide +kernel
  have h_tagged : parse "http://shop.local/orders?tag=new&tag=" = .ok taggedOrders := by
    decide +kernel
  have h_params : ∀ value, ("id", value) ∈ [("tag", "2"), ("id", "")] → value = "" := by simp
  have h_pairs : ∀ value, ("id", value) ∈ taggedOrders.pairs → value = "" := by
    have h_own : taggedOrders.pairs = [("tag", "new"), ("tag", "")] := by decide +kernel
    rw [h_own]
    simp
  exact ⟨(objectId?_of_decimal (Text.decimal_toString _)).1 _ _ _ h_orders rfl rfl rfl (by decide)
      h_params,
    (objectId?_of_decimal (Text.decimal_toString _)).2 _ _ h_tagged rfl h_pairs⟩

end Url
end PageObjects
