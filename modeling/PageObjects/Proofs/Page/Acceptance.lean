/-
  PageObjects.Proofs.Page.Acceptance

  Which addresses are taken for those of a page. The base of the shown address is
  searched for the valid addresses, slashes at their ends apart, and what stands before
  and behind the place where one is found does not matter. So the shown address is a
  valid one exactly if nothing stands before that place and only slashes behind it.

    * `trimEnd_append_eq_iff`: a text inside another one, and slashes at the end of both.
    * `checkOpened_accepts`: when a page counts as open, and when it is open then.
-/

import PageObjects.Proofs.Page.Arrival

namespace PageObjects

-- ============================================================================
-- Characters at the end
-- ============================================================================

namespace Text

variable {c : Char} {s before needle behind : List Char}

/-- A text is what is left of it and the characters that were cut off its end. -/
theorem exists_trimEnd_append (c : Char) (s : List Char) :
    ∃ tail, s = trimEnd c s ++ tail ∧ ∀ d ∈ tail, d = c := by
  refine ⟨(s.reverse.takeWhile (· == c)).reverse, ?_, fun d h_mem => ?_⟩
  · rw [trimEnd, ← List.reverse_append, List.takeWhile_append_dropWhile, List.reverse_reverse]
  · exact beq_iff_eq.mp (List.mem_takeWhile_imp (p := (· == c)) (List.mem_reverse.mp h_mem))

theorem trimEnd_append (h : ∀ d ∈ behind, d = c) : trimEnd c (s ++ behind) = trimEnd c s := by
  rw [trimEnd, List.reverse_append, List.dropWhile_append_of_pos fun d h_mem =>
    beq_iff_eq.mpr (h d (List.mem_reverse.mp h_mem)), ← trimEnd]

theorem getLast?_trimEnd_ne (c : Char) (s : List Char) : (trimEnd c s).getLast? ≠ some c := by
  rw [trimEnd, List.getLast?_reverse]
  intro h_head
  have h_stop := List.head?_dropWhile_not (· == c) s.reverse
  rw [h_head] at h_stop
  simp at h_stop

theorem trimEnd_eq_self (h : s.getLast? ≠ some c) : trimEnd c s = s := by
  rw [trimEnd, List.dropWhile_eq_self_iff.mpr, List.reverse_reverse]
  intro h_pos h_eq
  refine h ?_
  rw [← List.head?_reverse, List.head?_eq_getElem?, List.getElem?_eq_getElem h_pos]
  exact congrArg some (beq_iff_eq.mp h_eq)

/-- A text that does not end in `c` is what is left of a text around it exactly if it stands at its
    head, with nothing but `c` behind it. -/
theorem trimEnd_append_eq_iff (h_ne : needle ≠ []) (h_last : needle.getLast? ≠ some c) :
    trimEnd c (before ++ (needle ++ behind)) = needle ↔ before = [] ∧ ∀ d ∈ behind, d = c := by
  constructor
  · intro h_eq
    obtain ⟨tail, h_whole, h_tail⟩ := exists_trimEnd_append c (before ++ (needle ++ behind))
    rw [h_eq, ← List.append_assoc] at h_whole
    rcases List.append_eq_append_iff.mp h_whole
      with ⟨rest, h_needle, h_behind⟩ | ⟨rest, h_long, rfl⟩
    · -- the needle has no room for anything before it
      have h_length := congrArg List.length h_needle
      simp only [List.length_append] at h_length
      have h_before : before = [] := List.eq_nil_of_length_eq_zero (by omega)
      have h_rest : rest = [] := List.eq_nil_of_length_eq_zero (by omega)
      rw [h_rest, List.nil_append] at h_behind
      exact ⟨h_before, h_behind ▸ h_tail⟩
    · -- the last character of the needle would be one of those that were cut off
      obtain ⟨h_rest, h_behind⟩ := List.forall_mem_append.mp h_tail
      refine ⟨?_, h_behind⟩
      rcases List.eq_nil_or_concat rest with rfl | ⟨others, d, rfl⟩
      · exact List.append_left_eq_self.mp (h_long.trans (List.append_nil needle))
      · have h_end := congrArg List.getLast? h_long
        rw [List.getLast?_append_of_ne_nil _ h_ne, List.concat_eq_append, ← List.append_assoc,
          List.getLast?_concat] at h_end
        rw [h_rest d (by simp)] at h_end
        exact absurd h_end h_last
  · rintro ⟨rfl, h_behind⟩
    rw [List.nil_append, trimEnd_append h_behind, trimEnd_eq_self h_last]

end Text

-- ============================================================================
-- Texts of addresses
-- ============================================================================

namespace Url

theorem IsWritten.trimEnd_ne_nil {text : String} (h : IsWritten text) :
    Text.trimEnd '/' text.toList ≠ [] := by
  obtain ⟨u, -, rfl⟩ := h
  intro h_nil
  obtain ⟨tail, h_text, h_tail⟩ := Text.exists_trimEnd_append '/' u.render.toList
  rw [h_nil, List.nil_append] at h_text
  have h_colon : ':' ∈ u.render.toList := by
    rw [toList_render, toList_base]
    simp
  exact absurd (h_tail ':' (h_text ▸ h_colon)) (by decide)

end Url

-- ============================================================================
-- Accepted addresses
-- ============================================================================

namespace Page

/-- A valid address of the page, slashes at its end apart, stands in the base of an address. -/
structure StandsIn (page : Page) (url opened : String) (before behind : List Char) : Prop where
  valid : url ∈ page.config.validUrls
  base : (Url.baseOf opened).toList = before ++ (Text.trimEnd '/' url.toList ++ behind)

variable {W : Type} {page : Page} {url opened : String} {before behind : List Char}

theorem isAt_iff_exists (page : Page) (opened : String) :
    page.isAt opened = true ↔ ∃ url before behind, page.StandsIn url opened before behind := by
  rw [isAt_iff]
  constructor
  · rintro ⟨url, h_valid, before, behind, h_base⟩
    exact ⟨url, before, behind, h_valid, by rw [← h_base, List.append_assoc]⟩
  · rintro ⟨url, before, behind, h_valid, h_base⟩
    exact ⟨url, h_valid, before, behind, by rw [h_base, List.append_assoc]⟩

/-- A valid address that stands in a base has neither a query nor a fragment. -/
theorem StandsIn.plain (h : page.StandsIn url opened before behind) :
    (Url.splitText url.toList).1 = url.toList := by
  have h_trimmed : ∀ c ∈ Text.trimEnd '/' url.toList, c ∉ "?#".toList := by
    intro c h_mem
    refine Url.baseOf_marks opened c ?_
    rw [h.base]
    exact List.mem_append_right _ (List.mem_append_left _ h_mem)
  obtain ⟨tail, h_url, h_tail⟩ := Text.exists_trimEnd_append '/' url.toList
  have h_marks : ∀ c ∈ url.toList, c ∉ "?#".toList := by
    intro c h_mem
    rw [h_url] at h_mem
    rcases List.mem_append.mp h_mem with h_mem | h_mem
    · exact h_trimmed c h_mem
    · rw [h_tail c h_mem]
      decide
  have h_split := Url.splitText_append h_marks Url.mark_of_nil
  rw [List.append_nil] at h_split
  rw [h_split]

/-- A page counts as open exactly if one of its valid addresses stands anywhere in the base of the
    shown one. That address has no query and no fragment, and it is the base, slashes at the ends
    apart, exactly if nothing stands before it and only slashes behind it. -/
theorem checkOpened_accepts {spec : PageSpec} {settings : Settings}
    (h_page : Page.ofSpec spec settings = .ok page) (driver : Driver W) (run : Run W) :
    ((checkOpened ⟨driver, page⟩ run).1 = .ok () ↔
        ∃ opened, (driver.answer (.session .currentUrl) run.world).1 = .ok opened
          ∧ ∃ url before behind, page.StandsIn url opened before behind)
      ∧ ∀ url opened before behind, page.StandsIn url opened before behind →
        (Url.splitText url.toList).1 = url.toList
          ∧ (Text.trimEnd '/' (Url.baseOf opened).toList = Text.trimEnd '/' url.toList ↔
            before = [] ∧ ∀ c ∈ behind, c = '/') := by
  constructor
  · rw [checkOpened_ok_iff]
    simp only [isAt_iff_exists]
  · intro url opened before behind h_stands
    refine ⟨h_stands.plain, ?_⟩
    have h_written := (ofSpec_addresses h_page).written url h_stands.valid
    rw [h_stands.base]
    exact Text.trimEnd_append_eq_iff h_written.trimEnd_ne_nil (Text.getLast?_trimEnd_ne '/' _)

end Page

-- ============================================================================
-- Another host
-- ============================================================================

/-- The page at the root of the shop. -/
def PageSpec.front : PageSpec where
  name := "Front"
  config := { app := "shop", url := some "" }

/-- The page in the shop. -/
def Page.front : Page :=
  { Page.secondTab with
    name := "Front"
    config := { Page.secondTab.config with
      pageUrl := "http://shop.local/", validUrls := ["http://shop.local/"] } }

theorem ofSpec_front : Page.ofSpec .front .shop = .ok .front := by
  have h_config : PageSpec.front.config.resolve .shop = .ok Page.front.config := by
    decide +kernel
  show (PageSpec.front.config.resolve .shop >>= fun config => _) = _
  rw [h_config]
  rfl

/-- The page counts as open on a host whose name merely begins as that of the shop does. -/
theorem checkOpened_accepts_otherHost : ∃ page,
    Page.ofSpec .front .shop = .ok page
      ∧ (Page.checkOpened ⟨Browser.driver, page⟩
          { world := { url := "http://shop.local.example/" } }).1 = .ok ()
      ∧ ∀ url ∈ page.config.validUrls,
        Text.trimEnd '/' (Url.baseOf "http://shop.local.example/").toList
          ≠ Text.trimEnd '/' url.toList := by
  have h_stands : Page.front.StandsIn "http://shop.local/" "http://shop.local.example/" []
      ".example/".toList := ⟨List.mem_singleton_self _, by decide +kernel⟩
  obtain ⟨h_iff, h_same⟩ := Page.checkOpened_accepts ofSpec_front Browser.driver
    { world := { url := "http://shop.local.example/" } }
  refine ⟨.front, ofSpec_front, h_iff.mpr ⟨_, rfl, _, _, _, h_stands⟩, fun url h_url h_eq => ?_⟩
  obtain rfl := List.mem_singleton.mp h_url
  obtain ⟨-, h_slashes⟩ := ((h_same _ _ _ _ h_stands).2).mp h_eq
  exact absurd (h_slashes '.' List.mem_cons_self) (by decide)

end PageObjects
