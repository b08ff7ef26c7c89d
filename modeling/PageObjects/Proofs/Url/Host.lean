/-
  PageObjects.Proofs.Url.Host

  Hosts that were read. Whatever a host is read from, its text has no character that
  ends a host or the text around it, it ends at a colon, and reading it once more
  gives the same text. The last is shown for each kind of host: the two numeric ones,
  domain names, and the hosts of schemes that are not well known.

    * `Rereads`: what holds of the text of a host that was read.
    * `rereads_parseSpecial`, `rereads_parseOpaque`: the hosts of the two kinds of schemes.
-/

import PageObjects.Proofs.Url.Domain
import PageObjects.Proofs.Url.Ip
import PageObjects.Url.Parser

namespace PageObjects

-- ============================================================================
-- Text in ASCII
-- ============================================================================

/-- ASCII without escapes is decoded as it is. -/
theorem Percent.decode_ascii {s : List Char} (h : ∀ c ∈ s, c.toNat < 0x80 ∧ c ≠ '%') :
    Percent.decode s = s.map Char.toNat := by
  induction s with
  | nil => exact Percent.decode_nil
  | cons c rest ih =>
    obtain ⟨h_ascii, h_ne⟩ := h c List.mem_cons_self
    rw [Percent.decode_cons_of_ne h_ne, ih fun d h_mem => h d (List.mem_cons_of_mem c h_mem),
      Utf8.encodeChar, if_pos h_ascii]
    rfl

theorem Utf8.decode?_ascii {s : List Char} (h : ∀ c ∈ s, c.toNat < 0x80) :
    Utf8.decode? (s.map Char.toNat) = some s := by
  have h_bytes : s.map Char.toNat = Utf8.encode s := by
    induction s with
    | nil => rfl
    | cons c rest ih =>
      have h_char : Utf8.encodeChar c = [c.toNat] := if_pos (h c List.mem_cons_self)
      have h_rest := ih fun d h_mem => h d (List.mem_cons_of_mem c h_mem)
      rw [Utf8.encode, List.flatMap_cons, h_char, List.map_cons, h_rest]
      rfl
  rw [h_bytes, Utf8.decode?, Utf8.units_encode, List.mapM_map]
  have h_all := Text.mapM_of_forall (f := id ∘ some) (g := id) (l := s) fun c _ => rfl
  rw [List.map_id] at h_all
  exact h_all

-- ============================================================================
-- Where a host ends
-- ============================================================================

namespace Host

variable {c : Char} {s : List Char} {host : String}

theorem hostLength_of_not_mem {host rest : List Char} (h : ∀ c ∈ host, c ≠ ':' ∧ c ≠ '[')
    (h_rest : ∀ c ∈ rest.head?, c = ':') : Url.hostLength false (host ++ rest) = host.length := by
  induction host with
  | nil =>
    cases rest with
    | nil => rfl
    | cons c rest => exact if_pos ⟨h_rest c rfl, Bool.false_ne_true⟩
  | cons c host ih =>
    obtain ⟨h_colon, h_bracket⟩ := h c List.mem_cons_self
    have h_outside : (if c = '[' then true else if c = ']' then false else false) = false := by
      rw [if_neg h_bracket, ite_self]
    rw [List.cons_append, Url.hostLength, if_neg fun h_end => h_colon h_end.1, h_outside,
      ih fun m h_mem => h m (List.mem_cons_of_mem c h_mem), List.length_cons]

theorem hostLength_brackets {host rest : List Char} (h : ']' ∉ host)
    (h_rest : ∀ c ∈ rest.head?, c = ':') :
    Url.hostLength true (host ++ ']' :: rest) = host.length + 1 := by
  induction host with
  | nil =>
    have h_behind : Url.hostLength false rest = 0 :=
      hostLength_of_not_mem (fun c h_mem => absurd h_mem List.not_mem_nil) h_rest
    rw [List.nil_append, Url.hostLength, if_neg (by decide)]
    exact congrArg (· + 1) h_behind
  | cons c host ih =>
    have h_close : c ≠ ']' := fun h_eq => h (h_eq ▸ List.mem_cons_self)
    have h_inside : (if c = '[' then true else if c = ']' then false else true) = true := by
      rw [if_neg h_close, ite_self]
    rw [List.cons_append, Url.hostLength, if_neg (by simp), h_inside,
      ih fun h_mem => h (List.mem_cons_of_mem c h_mem), List.length_cons]

-- ============================================================================
-- Hosts
-- ============================================================================

/-- The text of a host that was read: it holds no character that ends it or the text around it,
    it ends at a colon, and it is read as itself. -/
structure Rereads (read : List Char → Except UrlFault String) (host : String) : Prop where
  clean : ∀ c ∈ host.toList, 0x20 < c.toNat ∧ c ∉ "/\\?#@".toList
  length : ∀ rest : List Char, (∀ c ∈ rest.head?, c = ':') →
    Url.hostLength false (host.toList ++ rest) = host.toList.length
  reads : read host.toList = .ok host

/-- No character of the text of a server ends that text. -/
theorem not_mem_ends {c : Char} (h : c ∉ "/\\?#@".toList) : c ∉ "/\\?#".toList := by
  have h_fewer : ∀ c ∈ "/\\?#".toList, c ∈ "/\\?#@".toList := Text.forall_mem_of_all (by decide)
  intro h_mem
  exact h (h_fewer c h_mem)

/-- A settled character is no blank and none of those with a meaning in addresses. -/
theorem Settled.clean (h : Settled c) : 0x20 < c.toNat ∧ c ∉ "%#/:<>?@[\\]^|".toList := by
  have h_allowed := h.allowed
  rw [Host.allowed, if_pos h.ascii] at h_allowed
  simp only [Bool.not_eq_true', Bool.or_eq_false_iff, decide_eq_false_iff_not] at h_allowed
  obtain ⟨⟨h_blank, -⟩, h_mark⟩ := h_allowed
  refine ⟨by omega, fun h_mem => ?_⟩
  rw [List.contains_iff_mem.mpr h_mem] at h_mark
  cases h_mark

theorem Settled.ne {mark : Char} (h : Settled c) (h_mark : mark ∈ "%#/:<>?@[\\]^|".toList) :
    c ≠ mark :=
  fun h_eq => h.clean.2 (h_eq ▸ h_mark)

/-! ## Numeric hosts -/

theorem bracketed?_of_not_mem (h : '[' ∉ s) : bracketed? s = none := by
  unfold bracketed?
  split
  · exact absurd List.mem_cons_self h
  · rfl

theorem exists_of_bracketed? (h : bracketed? s = some (.ok host)) :
    ∃ pieces, Ip.Sound pieces ∧ host = Ip.renderV6 pieces := by
  unfold bracketed? at h
  split at h
  · rename_i rest
    have h := Option.some.inj h
    split at h
    · cases h_pieces : Ip.parseV6? rest.dropLast with
      | none => rw [h_pieces] at h; cases h
      | some pieces =>
        rw [h_pieces] at h
        exact ⟨pieces, Ip.parseV6?_sound h_pieces, (Except.ok.inj h).symm⟩
    · cases h
  · cases h

theorem bracketed?_renderV6 {pieces : List Nat} (h : Ip.Sound pieces) :
    bracketed? (Ip.renderV6 pieces).toList = some (.ok (Ip.renderV6 pieces)) := by
  rw [Ip.toList_renderV6, bracketed?, if_pos List.getLast?_concat, List.dropLast_concat,
    Ip.parseV6?_inner h]

theorem rereads_renderV6 {read : List Char → Except UrlFault String}
    (h_read : ∀ s result, bracketed? s = some result → read s = result) {pieces : List Nat}
    (h : Ip.Sound pieces) : Rereads read (Ip.renderV6 pieces) := by
  have h_chars : ∀ c ∈ '[' :: ']' :: ":0123456789abcdef".toList,
      0x20 < c.toNat ∧ c ∉ "/\\?#@".toList := Text.forall_mem_of_all (by decide)
  have h_close : ']' ∉ Ip.inner pieces := fun h_mem => absurd (Ip.mem_inner h_mem) (by decide)
  refine ⟨fun c h_mem => h_chars c ?_, fun rest h_rest => ?_, h_read _ _ (bracketed?_renderV6 h)⟩
  · rw [Ip.toList_renderV6] at h_mem
    rcases List.mem_cons.mp h_mem with rfl | h_mem
    · exact List.mem_cons_self
    · rcases List.mem_append.mp h_mem with h_mem | h_mem
      · exact List.mem_cons_of_mem _ (List.mem_cons_of_mem _ (Ip.mem_inner h_mem))
      · exact List.mem_cons_of_mem _ (List.mem_singleton.mp h_mem ▸ List.mem_cons_self)
  · have h_length := hostLength_brackets h_close h_rest
    rw [Ip.toList_renderV6, List.cons_append, List.append_assoc, Url.hostLength,
      if_neg (by decide), if_pos rfl, List.singleton_append, h_length, List.length_cons,
      List.length_append, List.length_singleton]

theorem settled_renderV4 (address : Nat) : ∀ c ∈ (Ip.renderV4 address).toList, Settled c := by
  have h_all : ∀ c ∈ ".0123456789".toList, Settled c := Text.forall_mem_of_all (by decide)
  exact fun c h_mem => h_all c (Ip.mem_renderV4 h_mem)

/-! ## Hosts of well-known schemes -/

/-- The text of four bytes is a domain name in its ASCII form. -/
theorem domainToAscii?_renderV4 (address : Nat) :
    domainToAscii? (Ip.renderV4 address).toList = some (Ip.renderV4 address).toList := by
  refine domainToAscii?_of_labels (settled_renderV4 address) fun label h_label => ?_
  have h_in : ∀ c ∈ label, c ∈ ".0123456789".toList := fun c h_mem =>
    Ip.mem_renderV4 (Text.mem_of_mem_parts h_label h_mem)
  have h_encoded : encodedLabel? label = none := by
    unfold encodedLabel?
    split
    · exact absurd (h_in 'x' List.mem_cons_self) (by decide)
    · rfl
  have h_ascii : ∀ c ∈ ".0123456789".toList, c.toNat < 0x80 := Text.forall_mem_of_all (by decide)
  rw [labelToAscii?, h_encoded]
  exact if_pos (List.all_eq_true.mpr fun c h_mem => decide_eq_true (h_ascii c (h_in c h_mem)))

/-- A domain name in its ASCII form is read as itself, if it is not the number of something
    else. -/
theorem parseSpecial_self (h_ne : host ≠ "") (h_settled : ∀ c ∈ host.toList, Settled c)
    (h_name : domainToAscii? host.toList = some host.toList)
    (h_number : Ip.endsInNumber host.toList = true →
      ∃ address, Ip.parseV4? host.toList = some address ∧ Ip.renderV4 address = host) :
    parseSpecial host.toList = .ok host := by
  have h_bracket : '[' ∉ host.toList := fun h_mem => (h_settled _ h_mem).ne (by decide) rfl
  have h_decoded : Utf8.decode? (Percent.decode host.toList) = some host.toList := by
    rw [Percent.decode_ascii fun c h_mem =>
        ⟨(h_settled c h_mem).ascii, (h_settled c h_mem).ne (by decide)⟩,
      Utf8.decode?_ascii fun c h_mem => (h_settled c h_mem).ascii]
  rw [parseSpecial, bracketed?_of_not_mem h_bracket]
  dsimp only
  rw [h_decoded, Option.bind_some, h_name]
  split
  · rename_i h_none
    cases h_none
  · rename_i h_nil
    exact absurd (String.toList_eq_nil_iff.mp (Option.some.inj h_nil)) h_ne
  · rename_i domain _ h_some
    obtain rfl := Option.some.inj h_some
    split
    · rename_i h_ends
      obtain ⟨address, h_address, h_text⟩ := h_number h_ends
      rw [h_address]
      exact congrArg Except.ok h_text
    · rw [String.ofList_toList]

theorem rereads_of_settled (h_settled : ∀ c ∈ host.toList, Settled c)
    (h_reads : parseSpecial host.toList = .ok host) : Rereads parseSpecial host := by
  refine ⟨fun c h_mem => ⟨(h_settled c h_mem).clean.1, fun h_in => ?_⟩,
    fun rest h_rest => hostLength_of_not_mem (fun c h_mem => ?_) h_rest, h_reads⟩
  · have h_all : ∀ c ∈ "/\\?#@".toList, c ∈ "%#/:<>?@[\\]^|".toList :=
      Text.forall_mem_of_all (by decide)
    exact (h_settled c h_mem).clean.2 (h_all c h_in)
  · exact ⟨(h_settled c h_mem).ne (by decide), (h_settled c h_mem).ne (by decide)⟩

/-- Without brackets the host of a well-known scheme is an address of four bytes or a domain. -/
theorem exists_of_parseSpecial (h_none : bracketed? s = none) (h : parseSpecial s = .ok host) :
    (∃ address, host = Ip.renderV4 address) ∨ ∃ decoded domain,
      domainToAscii? decoded = some domain ∧ domain ≠ [] ∧ ¬Ip.endsInNumber domain = true
        ∧ host = String.ofList domain := by
  rw [parseSpecial, h_none] at h
  dsimp only at h
  split at h
  · cases h
  · cases h
  · rename_i domain h_nil h_domain
    obtain ⟨decoded, -, h_ascii⟩ := Option.bind_eq_some_iff.mp h_domain
    split at h
    · cases h_address : Ip.parseV4? domain with
      | none => rw [h_address] at h; cases h
      | some address =>
        rw [h_address] at h
        exact .inl ⟨address, (Except.ok.inj h).symm⟩
    · rename_i h_ends
      exact .inr ⟨decoded, domain, h_ascii, h_nil, h_ends, (Except.ok.inj h).symm⟩

/-- The characters of a host that is no address of eight pieces are settled. -/
theorem settled_of_parseSpecial (h_open : '[' ∉ s) (h : parseSpecial s = .ok host) :
    ∀ c ∈ host.toList, Settled c := by
  rcases exists_of_parseSpecial (bracketed?_of_not_mem h_open) h with
    ⟨address, rfl⟩ | ⟨decoded, domain, h_ascii, -, -, rfl⟩
  · exact settled_renderV4 address
  · rw [String.toList_ofList]
    exact domainToAscii?_settled h_ascii

theorem rereads_renderV4 (address : Nat) :
    Rereads parseSpecial (Ip.renderV4 address) ∧ Ip.renderV4 address ≠ "" := by
  have h_ne := Ip.renderV4_ne_empty address
  have h_settled := settled_renderV4 address
  exact ⟨rereads_of_settled h_settled (parseSpecial_self h_ne h_settled
    (domainToAscii?_renderV4 address) fun _ => Ip.exists_parseV4?_renderV4 address), h_ne⟩

theorem rereads_domain {decoded domain : List Char} (h_ascii : domainToAscii? decoded = some domain)
    (h_nil : domain ≠ []) (h_ends : ¬Ip.endsInNumber domain = true) :
    Rereads parseSpecial (String.ofList domain) ∧ String.ofList domain ≠ "" := by
  have h_text : (String.ofList domain).toList = domain := String.toList_ofList
  have h_ne : String.ofList domain ≠ "" := by
    intro h_empty
    rw [h_empty] at h_text
    exact h_nil h_text.symm
  have h_settled : ∀ c ∈ (String.ofList domain).toList, Settled c := by
    rw [h_text]
    exact domainToAscii?_settled h_ascii
  refine ⟨rereads_of_settled h_settled (parseSpecial_self h_ne h_settled ?_ ?_), h_ne⟩
  · rw [h_text]
    exact domainToAscii?_self h_ascii
  · rw [h_text]
    exact fun h_number => absurd h_number h_ends

/-- The host of a well-known scheme. -/
theorem rereads_parseSpecial (h : parseSpecial s = .ok host) :
    Rereads parseSpecial host ∧ host ≠ "" := by
  cases h_bracket : bracketed? s with
  | some result =>
    rw [parseSpecial, h_bracket] at h
    obtain rfl : result = .ok host := h
    obtain ⟨pieces, h_sound, rfl⟩ := exists_of_bracketed? h_bracket
    refine ⟨rereads_renderV6 (fun s result h_result => ?_) h_sound, fun h_empty => ?_⟩
    · rw [parseSpecial, h_result]
    · have h_text := Ip.toList_renderV6 pieces
      rw [h_empty] at h_text
      cases h_text
  | none =>
    rcases exists_of_parseSpecial h_bracket h with
      ⟨address, rfl⟩ | ⟨decoded, domain, h_ascii, h_nil, h_ends, rfl⟩
    · exact rereads_renderV4 address
    · exact rereads_domain h_ascii h_nil h_ends

/-! ## Hosts of other schemes -/

/-- A text of allowed characters that are written as they are is the host of any other scheme. -/
theorem rereads_of_allowed (h : ∀ c ∈ host.toList, c ∉ forbidden ∧ Percent.inControls c = false) :
    Rereads parseOpaque host := by
  have h_ne : ∀ mark ∈ forbidden, mark ∉ host.toList := fun mark h_mark h_mem =>
    (h mark h_mem).1 h_mark
  have h_ends : ∀ c ∈ "/\\?#@".toList, c ∈ forbidden := Text.forall_mem_of_all (by decide)
  refine ⟨fun c h_mem => ⟨?_, fun h_in => h_ne c (h_ends c h_in) h_mem⟩, fun rest h_rest => ?_, ?_⟩
  · have h_space : c ≠ ' ' := fun h_eq => h_ne ' ' (by decide) (h_eq ▸ h_mem)
    exact Percent.visible_of_not_inControls (h c h_mem).2 h_space
  · refine hostLength_of_not_mem (fun c h_mem => ⟨?_, ?_⟩) h_rest
    · exact fun h_colon => h_ne ':' (by decide) (h_colon ▸ h_mem)
    · exact fun h_bracket => h_ne '[' (by decide) (h_bracket ▸ h_mem)
  · have h_none : host.toList.any forbidden.contains = false := by
      rw [List.any_eq_false]
      exact fun c h_mem h_in => (h c h_mem).1 (List.contains_iff_mem.mp h_in)
    rw [parseOpaque, bracketed?_of_not_mem (h_ne '[' (by decide))]
    dsimp only
    rw [h_none, if_neg Bool.false_ne_true, Percent.encode_eq_self fun c h_mem => (h c h_mem).2,
      String.ofList_toList]

/-- The host of any other scheme. -/
theorem rereads_parseOpaque (h : parseOpaque s = .ok host) : Rereads parseOpaque host := by
  cases h_bracket : bracketed? s with
  | some result =>
    rw [parseOpaque, h_bracket] at h
    obtain rfl : result = .ok host := h
    obtain ⟨pieces, h_sound, rfl⟩ := exists_of_bracketed? h_bracket
    refine rereads_renderV6 (fun s result h_result => ?_) h_sound
    rw [parseOpaque, h_result]
  | none =>
    rw [parseOpaque, h_bracket] at h
    dsimp only at h
    split at h
    · cases h
    · rename_i h_any
      obtain rfl := Except.ok.inj h
      refine rereads_of_allowed fun c h_mem => ?_
      rw [String.toList_ofList] at h_mem
      refine ⟨?_, Percent.not_set_of_mem_encode Percent.sparesEscapes_inControls h_mem⟩
      rcases Percent.mem_encode h_mem with ⟨h_s, -⟩ | h_escape
      · exact fun h_in => h_any (List.any_eq_true.mpr ⟨c, h_s, List.contains_iff_mem.mpr h_in⟩)
      · have h_all : ∀ c ∈ Percent.escapeChars, c ∉ forbidden :=
          Text.forall_mem_of_all (by decide)
        exact h_all c h_escape

end Host
end PageObjects
