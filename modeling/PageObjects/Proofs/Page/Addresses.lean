/-
  PageObjects.Proofs.Page.Addresses

  The addresses of a page. A page that is made from a declaration and settings has
  its own address among the valid ones, and each of them is the text of an address
  that was read on the address of its application.

    * `resolve_addresses`: the addresses of a configuration.
    * `ofSpec_addresses`: those of a page.
-/

import PageObjects.Page.Spec
import PageObjects.Proofs.Url.Params

namespace PageObjects

section
variable {ε α β : Type}

/-- A sequence that ends well has two steps that do. -/
theorem exists_of_bind_eq_ok {x : Except ε α} {f : α → Except ε β} {b : β} (h : x >>= f = .ok b) :
    ∃ a, x = .ok a ∧ f a = .ok b := by
  cases x with
  | error e => cases h
  | ok a => exact ⟨a, rfl, h⟩

/-- The results for the items of a list are those of its items. -/
theorem mem_of_mapM_eq_ok {f : α → Except ε β} {l : List α} {r : List β} (h : l.mapM f = .ok r) :
    (∀ b ∈ r, ∃ a ∈ l, f a = .ok b) ∧ ∀ a ∈ l, ∀ b, f a = .ok b → b ∈ r := by
  induction l generalizing r with
  | nil =>
    obtain rfl : [] = r := Except.ok.inj h
    exact ⟨fun b h_b => absurd h_b List.not_mem_nil, fun a h_a => absurd h_a List.not_mem_nil⟩
  | cons a rest ih =>
    rw [List.mapM_cons] at h
    obtain ⟨first, h_first, h⟩ := exists_of_bind_eq_ok h
    obtain ⟨others, h_others, h⟩ := exists_of_bind_eq_ok h
    obtain rfl : first :: others = r := Except.ok.inj h
    obtain ⟨h_from, h_to⟩ := ih h_others
    constructor
    · intro b h_b
      rcases List.mem_cons.mp h_b with rfl | h_b
      · exact ⟨a, List.mem_cons_self, h_first⟩
      · obtain ⟨d, h_d, h_f⟩ := h_from b h_b
        exact ⟨d, List.mem_cons_of_mem a h_d, h_f⟩
    · intro d h_d b h_b
      rcases List.mem_cons.mp h_d with rfl | h_d
      · rw [h_first] at h_b
        exact Except.ok.inj h_b ▸ List.mem_cons_self
      · exact List.mem_cons_of_mem first (h_to d h_d b h_b)

end

/-- The text of an address that was read. -/
def Url.IsWritten (text : String) : Prop :=
  ∃ u : Url, u.Written ∧ text = u.render

/-- The own address is a valid one, and all valid ones were read. -/
structure ResolvedConfig.Sound (config : ResolvedConfig) : Prop where
  own : config.pageUrl ∈ config.validUrls
  written : ∀ url ∈ config.validUrls, Url.IsWritten url

theorem PageConfig.written_of_joined {base : Url} (h_base : base.Written) {route text : String}
    (h : joined base route = .ok text) : Url.IsWritten text := by
  rw [joined, addressed] at h
  cases h_join : base.join route with
  | error e => rw [h_join] at h; cases h
  | ok u =>
    rw [h_join] at h
    exact ⟨u, Url.written_join h_base h_join, (Except.ok.inj h).symm⟩

theorem PageConfig.resolve_addresses {config : PageConfig} {settings : Settings}
    {resolved : ResolvedConfig} (h : config.resolve settings = .ok resolved) : resolved.Sound := by
  obtain ⟨app, -, h⟩ := exists_of_bind_eq_ok h
  obtain ⟨baseUrl, -, h⟩ := exists_of_bind_eq_ok h
  obtain ⟨base, h_base, h⟩ := exists_of_bind_eq_ok h
  have h_base : base.Written := by
    rw [addressed] at h_base
    cases h_parse : Url.parse baseUrl with
    | error e => rw [h_parse] at h_base; cases h_base
    | ok u =>
      rw [h_parse] at h_base
      obtain rfl := Except.ok.inj h_base
      exact Url.written_parse h_parse
  dsimp only at h
  split at h
  · obtain ⟨route, -, h⟩ := exists_of_bind_eq_ok h
    obtain ⟨pageUrl, h_page, h⟩ := exists_of_bind_eq_ok h
    obtain ⟨validUrls, h_valid, h⟩ := exists_of_bind_eq_ok h
    obtain ⟨pageLoader, -, h⟩ := exists_of_bind_eq_ok h
    obtain ⟨tableLoader, -, h⟩ := exists_of_bind_eq_ok h
    obtain ⟨modalVisible, -, h⟩ := exists_of_bind_eq_ok h
    obtain rfl := Except.ok.inj h
    obtain ⟨h_from, h_to⟩ := mem_of_mapM_eq_ok h_valid
    refine ⟨h_to route (List.mem_append_right _ List.mem_cons_self) pageUrl h_page, ?_⟩
    intro url h_url
    obtain ⟨other, -, h_joined⟩ := h_from url h_url
    exact written_of_joined h_base h_joined
  · cases h

theorem Page.ofSpec_addresses {spec : PageSpec} {settings : Settings} {page : Page}
    (h : Page.ofSpec spec settings = .ok page) : page.config.Sound := by
  unfold ofSpec at h
  dsimp only at h
  split at h
  · cases h
  · split at h
    · cases h
    · obtain ⟨config, h_config, h⟩ := exists_of_bind_eq_ok h
      obtain rfl := Except.ok.inj h
      exact PageConfig.resolve_addresses h_config

end PageObjects
