/-
  PageObjects.Proofs.Page.Cookies

  What a deletion of cookies leaves behind. The cookies are listed once and then looked at
  one by one, and each that matches is deleted by its name at once. So a cookie without
  the field that the pattern is for ends the deletion in an error when the cookies before
  it are gone already.

    * `Driver.StoresCookies`: a browser that stores cookies and meets no fault.
    * `Page.run_deleteMatching`: the result and the cookies that are left, by induction on
      the cookies that were listed.
    * `Page.deleteCookies_error`: when a deletion ends in an error, what it leaves then,
      and when that is all there was.
    * `Page.deleteCookies_leaves`: where all cookies have the field, those are left whose
      name no matching cookie has.
-/

import PageObjects.Browser.InMemory
import PageObjects.Page.Storage
import PageObjects.Proofs.Page.Acceptance

namespace PageObjects

open PageObjects.Action

variable {W : Type} {driver : Driver W} {page : Page} {stored : W → List Cookie}

-- ============================================================================
-- Cookies by their fields and names
-- ============================================================================

namespace Cookie

/-- Whether the cookie has a field. -/
def carries (key : String) (cookie : Cookie) : Bool :=
  (cookie.fieldText? key).isSome

/-- Whether the text of a field is wanted. -/
def isWanted (wanted : String → Bool) (key : String) (cookie : Cookie) : Bool :=
  (cookie.fieldText? key).any wanted

/-- The names of the wanted cookies of a list. -/
def doomed (wanted : String → Bool) (key : String) (cookies : List Cookie) : List String :=
  (cookies.filter (isWanted wanted key)).filterMap name?

/-- The cookies of a list without those that have one of some names. -/
def without (names : List String) (cookies : List Cookie) : List Cookie :=
  cookies.filter fun cookie => !cookie.name?.any names.contains

theorem carries_eq_false_iff {key : String} {cookie : Cookie} :
    cookie.carries key = false ↔ cookie.field? key = none := by
  rw [carries, fieldText?, Option.isSome_map, Option.isSome_eq_false_iff, Option.isNone_iff_eq_none]

variable {wanted : String → Bool} {key : String} {cookie : Cookie} {cookies : List Cookie}

theorem without_nil (cookies : List Cookie) : without [] cookies = cookies :=
  List.filter_eq_self.mpr fun cookie _ => by cases cookie.name? <;> rfl

/-- Names may be taken away one after the other. -/
theorem without_cons (name : String) (names : List String) (cookies : List Cookie) :
    without (name :: names) cookies
      = without names (cookies.filter fun cookie => cookie.name? != some name) := by
  rw [without, without, List.filter_filter]
  refine List.filter_congr fun cookie _ => ?_
  cases cookie.name? with
  | none => rfl
  | some other =>
    rw [Option.any_some, Option.any_some, List.contains_cons, Bool.not_or, Bool.and_comm]
    rfl

theorem doomed_cons_of_named {name : String} (h_wanted : cookie.isWanted wanted key = true)
    (h_name : cookie.name? = some name) :
    doomed wanted key (cookie :: cookies) = name :: doomed wanted key cookies := by
  rw [doomed, List.filter_cons_of_pos h_wanted, List.filterMap_cons_some h_name, doomed]

theorem doomed_cons_of_spared (h : cookie.isWanted wanted key = true → cookie.name? = none) :
    doomed wanted key (cookie :: cookies) = doomed wanted key cookies := by
  rw [doomed, List.filter_cons]
  split
  · rw [List.filterMap_cons_none (h ‹_›), doomed]
  · rfl

/-- Nothing is taken away exactly if no wanted cookie has a name. -/
theorem without_doomed_eq_self_iff {listed : List Cookie} (h_listed : ∀ c ∈ listed, c ∈ cookies) :
    without (doomed wanted key listed) cookies = cookies
      ↔ ∀ cookie ∈ listed, cookie.isWanted wanted key = true → cookie.name? = none := by
  constructor
  · intro h cookie h_mem h_wanted
    cases h_name : cookie.name? with
    | none => rfl
    | some name =>
      have h_doomed : name ∈ doomed wanted key listed :=
        List.mem_filterMap.mpr ⟨cookie, List.mem_filter.mpr ⟨h_mem, h_wanted⟩, h_name⟩
      have h_kept := List.filter_eq_self.mp h cookie (h_listed cookie h_mem)
      rw [h_name, Option.any_some, List.contains_iff_mem.mpr h_doomed] at h_kept
      cases h_kept
  · intro h
    have h_none : doomed wanted key listed = [] := by
      rw [doomed, List.filterMap_eq_nil_iff]
      intro cookie h_mem
      obtain ⟨h_mem, h_wanted⟩ := List.mem_filter.mp h_mem
      exact h cookie h_mem h_wanted
    rw [h_none, without_nil]

/-- The field under a key is a text that is wanted, or another value whose JSON form is. -/
def Matches (wanted : String → Bool) (key : String) (cookie : Cookie) : Prop :=
  (∃ text, cookie.field? key = some (.ofString text) ∧ wanted text = true)
    ∨ ∃ value, cookie.field? key = some value ∧ value.text? = none
      ∧ wanted value.sorted.render = true

/-- No cookie of a list that matches has the name of this one. -/
def IsSpared (wanted : String → Bool) (key : String) (cookies : List Cookie) (cookie : Cookie) :
    Prop :=
  ∀ other ∈ cookies, other.Matches wanted key →
    ∀ name, other.name? = some name → cookie.name? ≠ some name

theorem isWanted_iff_matches : cookie.isWanted wanted key = true ↔ cookie.Matches wanted key := by
  rw [isWanted, fieldText?, Matches]
  cases h_field : cookie.field? key with
  | none => simp
  | some value =>
    simp only [Option.map_some, Option.any_some, Option.some.injEq, exists_eq_left']
    cases h_text : value.text? with
    | none =>
      have h_not : ∀ text, value ≠ .ofString text := by
        rintro text rfl
        cases h_text
      simp [h_not]
    | some text =>
      obtain rfl : value = .ofString text := by
        cases value <;> simp only [Json.text?, reduceCtorEq] at h_text
        rw [h_text, Json.ofString]
      simp [Json.ofString]

theorem mem_doomed_iff {name : String} : name ∈ doomed wanted key cookies ↔
    ∃ cookie ∈ cookies, cookie.Matches wanted key ∧ cookie.name? = some name := by
  simp only [doomed, List.mem_filterMap, List.mem_filter, isWanted_iff_matches, and_assoc]

/-- The cookies that are left without the wanted ones are the spared ones. -/
theorem exists_without_doomed_eq (wanted : String → Bool) (key : String) (cookies : List Cookie) :
    ∃ stays : Cookie → Bool, (∀ cookie, stays cookie = true ↔ cookie.IsSpared wanted key cookies)
      ∧ without (doomed wanted key cookies) cookies = cookies.filter stays := by
  refine ⟨fun cookie => !cookie.name?.any (doomed wanted key cookies).contains, fun cookie => ?_, rfl⟩
  rw [Bool.not_eq_true', Option.any_eq_false, IsSpared]
  simp only [← Bool.not_eq_true, List.contains_iff_mem, mem_doomed_iff]
  constructor
  · intro h_free other h_mem h_matches name h_other h_name
    exact h_free name h_name ⟨other, h_mem, h_matches, h_other⟩
  · rintro h_spared name h_name ⟨other, h_mem, h_matches, h_other⟩
    exact h_spared other h_mem h_matches name h_other h_name

end Cookie

-- ============================================================================
-- Browsers with cookies
-- ============================================================================

/-- A browser that meets no fault when it shows the cookies that it stores and when it deletes those
    with a name. -/
structure Driver.StoresCookies (driver : Driver W) (stored : W → List Cookie) : Prop where
  shown : ∀ world, ∃ after, driver.answer (.session .cookies) world = (.ok (stored world), after)
    ∧ stored after = stored world
  deleted : ∀ world name, ∃ after,
    driver.answer (.session (.deleteCookie name)) world = (.ok (), after)
      ∧ stored after = (stored world).filter fun cookie => cookie.name? != some name

theorem Browser.storesCookies : Browser.driver.StoresCookies Browser.cookies where
  shown _ := ⟨_, rfl, rfl⟩
  deleted _ _ := ⟨_, rfl, rfl⟩

namespace Page

-- ============================================================================
-- Deletion by a field
-- ============================================================================

theorem run_deleteCookie (page : Page) (h : driver.StoresCookies stored)
    (name operation : String) (run : Run W) : ∃ after,
      pageCall (.deleteCookie name) operation ⟨driver, page⟩ run = (.ok (), after)
        ∧ stored after.world
          = (stored run.world).filter fun cookie => cookie.name? != some name := by
  obtain ⟨world, h_answer, h_stored⟩ := h.deleted run.world name
  rw [run_pageCall, Run.exchange, h_answer]
  exact ⟨_, rfl, h_stored⟩

section step

variable {wanted : String → Bool} {missing : PageError} {key : String} {cookie : Cookie}
  {rest : List Cookie}

theorem deleteMatching_of_missing (h : cookie.carries key = false) :
    (deleteMatching wanted missing key (cookie :: rest) : Action W Unit) = throw missing := by
  rw [Cookie.carries, Option.isSome_eq_false_iff, Option.isNone_iff_eq_none] at h
  simp only [deleteMatching, h]

/-- A cookie that is not wanted, or has no name, is passed over. -/
theorem deleteMatching_of_spared (h_carries : cookie.carries key = true)
    (h : cookie.isWanted wanted key = true → cookie.name? = none) :
    (deleteMatching wanted missing key (cookie :: rest) : Action W Unit)
      = deleteMatching wanted missing key rest := by
  obtain ⟨text, h_text⟩ := Option.isSome_iff_exists.mp h_carries
  rw [Cookie.isWanted, h_text, Option.any_some] at h
  simp only [deleteMatching, h_text]
  split
  · simp only [h ‹_›]
  · rfl

theorem deleteMatching_of_named (h_wanted : cookie.isWanted wanted key = true) {name : String}
    (h_name : cookie.name? = some name) :
    (deleteMatching wanted missing key (cookie :: rest) : Action W Unit) = (do
      pageCall (.deleteCookie name) "delete_cookie"
      deleteMatching wanted missing key rest) := by
  obtain ⟨text, h_text, h_text_wanted⟩ := (Option.any_eq_true _ _).mp h_wanted
  simp only [deleteMatching, h_text, if_pos h_text_wanted, h_name]

end step

/-- The deletion looks at the cookies up to the first one without the field. -/
theorem run_deleteMatching (page : Page) (h : driver.StoresCookies stored)
    (wanted : String → Bool) (missing : PageError) (key : String) (listed : List Cookie)
    (run : Run W) : ∃ after,
      deleteMatching wanted missing key listed ⟨driver, page⟩ run
        = (if listed.all (Cookie.carries key) then .ok () else .error missing, after)
      ∧ stored after.world = Cookie.without
          (Cookie.doomed wanted key (listed.takeWhile (Cookie.carries key)))
          (stored run.world) := by
  induction listed generalizing run with
  | nil => exact ⟨run, rfl, (Cookie.without_nil _).symm⟩
  | cons cookie rest ih =>
    cases h_carries : cookie.carries key with
    | false =>
      rw [deleteMatching_of_missing h_carries, List.all_cons, h_carries,
        List.takeWhile_cons_of_neg (by rw [h_carries]; exact Bool.false_ne_true)]
      exact ⟨run, rfl, (Cookie.without_nil _).symm⟩
    | true =>
      rw [List.all_cons, h_carries, Bool.true_and, List.takeWhile_cons_of_pos h_carries]
      by_cases h_spared : cookie.isWanted wanted key = true → cookie.name? = none
      · rw [deleteMatching_of_spared h_carries h_spared, Cookie.doomed_cons_of_spared h_spared]
        exact ih run
      · obtain ⟨h_wanted, h_named⟩ := Classical.not_imp.mp h_spared
        obtain ⟨name, h_name⟩ := Option.ne_none_iff_exists'.mp h_named
        obtain ⟨deleted, h_deleted, h_stored⟩ :=
          run_deleteCookie page h name "delete_cookie" run
        rw [deleteMatching_of_named h_wanted h_name, run_bind_ok h_deleted,
          Cookie.doomed_cons_of_named h_wanted h_name, Cookie.without_cons, ← h_stored]
        exact ih deleted

-- ============================================================================
-- Deletion by a pattern
-- ============================================================================

/-- The filter of a deletion, read without regard to case. -/
def cookiePattern? (filter : String) : Option Pattern :=
  Pattern.parse? filter { ignoreCase := true }

variable {filter : String}

theorem run_deleteCookies_of_invalid (context : Context W) (h : cookiePattern? filter = none)
    (key : String) (run : Run W) :
    ∃ message, deleteCookies filter key context run = (.error (.config message), run) := by
  rw [cookiePattern?] at h
  rw [deleteCookies, h]
  exact ⟨_, rfl⟩

/-- The error of a deletion that comes to a cookie without the field. -/
def missingField (filter key : String) : PageError :=
  .page ("Not found cookie by (value, key) = (" ++ filter ++ ", " ++ key ++ ")")

/-- Deletes the cookies whose field under a key is wanted, as they are listed at that moment. -/
def deleteWanted (wanted : String → Bool) (filter key : String) : Action W Unit := do
  let cookies ← pageCall .cookies "cookies"
  deleteMatching wanted (missingField filter key) key cookies

/-- A deletion looks at its filter only through what the filter matches. -/
theorem deleteCookies_of_pattern {pattern : Pattern} (h : cookiePattern? filter = some pattern)
    (key : String) :
    (deleteCookies filter key : Action W Unit) = deleteWanted pattern.occursIn filter key := by
  rw [cookiePattern?] at h
  rw [deleteCookies, h]
  rfl

theorem run_deleteWanted (page : Page) (h : driver.StoresCookies stored) (wanted : String → Bool)
    (filter key : String) (run : Run W) : ∃ after,
      deleteWanted wanted filter key ⟨driver, page⟩ run
        = (if (stored run.world).all (Cookie.carries key) then .ok ()
            else .error (missingField filter key), after)
      ∧ stored after.world = Cookie.without
          (Cookie.doomed wanted key ((stored run.world).takeWhile (Cookie.carries key)))
          (stored run.world) := by
  obtain ⟨world, h_answer, h_shown⟩ := h.shown run.world
  obtain ⟨listed, h_list, h_stored⟩ : ∃ listed,
      pageCall .cookies "cookies" ⟨driver, page⟩ run = (.ok (stored run.world), listed)
        ∧ stored listed.world = stored run.world := by
    rw [run_pageCall, Run.exchange, h_answer]
    exact ⟨_, rfl, h_shown⟩
  obtain ⟨after, h_after, h_left⟩ := run_deleteMatching page h wanted
    (missingField filter key) key (stored run.world) listed
  rw [h_stored] at h_left
  exact ⟨after, (run_bind_ok h_list).trans h_after, h_left⟩

theorem run_deleteCookies (page : Page) (h : driver.StoresCookies stored) {pattern : Pattern}
    (h_pattern : cookiePattern? filter = some pattern) (key : String) (run : Run W) : ∃ after,
      deleteCookies filter key ⟨driver, page⟩ run
        = (if (stored run.world).all (Cookie.carries key) then .ok ()
            else .error (missingField filter key), after)
      ∧ stored after.world = Cookie.without
          (Cookie.doomed pattern.occursIn key
            ((stored run.world).takeWhile (Cookie.carries key)))
          (stored run.world) := by
  rw [deleteCookies_of_pattern h_pattern]
  exact run_deleteWanted page h pattern.occursIn filter key run

/-- On a browser that meets no fault a deletion of cookies ends in an error exactly if its filter is
    no pattern or some cookie lacks the field. A filter that is no pattern leaves everything as it
    is. But where a cookie lacks the field, the matching cookies before the first such cookie
    are gone, and with them all others of their names; nothing has changed exactly if none of the
    matching ones there has a text for a name. -/
theorem deleteCookies_error (h : driver.StoresCookies stored) (page : Page) (filter key : String)
    (run : Run W) :
    ((∃ e, (deleteCookies filter key ⟨driver, page⟩ run).1 = .error e)
        ↔ cookiePattern? filter = none ∨ ∃ cookie ∈ stored run.world, cookie.field? key = none)
      ∧ (cookiePattern? filter = none → (deleteCookies filter key ⟨driver, page⟩ run).2 = run)
      ∧ ∀ pattern, cookiePattern? filter = some pattern →
        (∃ cookie ∈ stored run.world, cookie.field? key = none) →
        let before := (stored run.world).takeWhile (Cookie.carries key)
        let left := stored (deleteCookies filter key ⟨driver, page⟩ run).2.world
        (deleteCookies filter key ⟨driver, page⟩ run).1 = .error (missingField filter key)
          ∧ left = Cookie.without (Cookie.doomed pattern.occursIn key before) (stored run.world)
          ∧ (left = stored run.world ↔ ∀ cookie ∈ before,
            cookie.isWanted pattern.occursIn key = true → cookie.name? = none) := by
  cases h_pattern : cookiePattern? filter with
  | none =>
    obtain ⟨message, h_run⟩ := run_deleteCookies_of_invalid ⟨driver, page⟩ h_pattern key run
    rw [h_run]
    exact ⟨iff_of_true ⟨_, rfl⟩ (.inl rfl), fun _ => rfl, nofun⟩
  | some pattern =>
    obtain ⟨after, h_run, h_left⟩ := run_deleteCookies page h h_pattern key run
    have h_some : (∃ cookie ∈ stored run.world, cookie.field? key = none)
        ↔ (stored run.world).all (Cookie.carries key) = false := by
      simp only [← Cookie.carries_eq_false_iff, List.all_eq_false, Bool.not_eq_true]
    rw [h_run]
    refine ⟨?_, nofun, ?_⟩
    · rw [h_some]
      cases (stored run.world).all (Cookie.carries key) with
      | false => exact iff_of_true ⟨_, rfl⟩ (.inr rfl)
      | true => exact iff_of_false nofun nofun
    · rintro _ ⟨⟩ h_lacks
      refine ⟨by rw [h_some.mp h_lacks]; rfl, h_left, ?_⟩
      dsimp only
      rw [h_left]
      exact Cookie.without_doomed_eq_self_iff fun _ h_mem => List.takeWhile_subset _ h_mem

end Page

/-- A browser with two cookies, the second of them without a domain. -/
def Browser.hostOnly : Browser where
  cookies := [
    [(some "name", .ofString "a"), (some "value", .ofString "1"), (some "domain", .ofString "shop")],
    [(some "name", .ofString "b"), (some "value", .ofString "2")]]

/-- The deletion ends in an error at the second cookie, and the first one is gone. -/
theorem Page.deleteCookies_error_hostOnly :
    ∃ after, deleteCookies "shop" "domain" ⟨Browser.driver, .front⟩ { world := .hostOnly }
        = (.error (missingField "shop" "domain"), after)
      ∧ after.world.cookies = [[(some "name", .ofString "b"), (some "value", .ofString "2")]]
      ∧ after.world.cookies ≠ Browser.hostOnly.cookies := by
  obtain ⟨pattern, h_pattern⟩ : ∃ pattern, cookiePattern? "shop" = some pattern := ⟨_, rfl⟩
  obtain ⟨-, -, h_error⟩ :=
    deleteCookies_error Browser.storesCookies .front "shop" "domain" { world := .hostOnly }
  obtain ⟨h_result, h_left, h_same⟩ := h_error pattern h_pattern
    ⟨[(some "name", .ofString "b"), (some "value", .ofString "2")], .tail _ (.head _), rfl⟩
  cases h_pattern
  refine ⟨_, Prod.ext h_result rfl, h_left.trans rfl, fun h_eq => ?_⟩
  have h_none := h_same.mp h_eq _ (.head _) rfl
  cases h_none

-- ============================================================================
-- What is left
-- ============================================================================

/-- On a browser that meets no fault a deletion by a pattern looks at the fields only through what
    the pattern matches. Whatever that is, where all cookies have the field the deletion ends
    well, and in their order those cookies are left whose name is not that of any matching one. So a
    matching cookie that has no text for a name stays. -/
theorem Page.deleteCookies_leaves (h : driver.StoresCookies stored) (page : Page)
    (filter key : String) (run : Run W)
    (h_key : ∀ cookie ∈ stored run.world, cookie.field? key ≠ none) :
    (∀ pattern, cookiePattern? filter = some pattern →
        (deleteCookies filter key : Action W Unit) = deleteWanted pattern.occursIn filter key)
      ∧ ∀ wanted : String → Bool, ∃ after stays,
        deleteWanted wanted filter key ⟨driver, page⟩ run = (.ok (), after)
          ∧ (∀ cookie, stays cookie = true
            ↔ Cookie.IsSpared wanted key (stored run.world) cookie)
          ∧ stored after.world = (stored run.world).filter stays
          ∧ ∀ cookie ∈ stored run.world, cookie.name? = none → cookie ∈ stored after.world := by
  refine ⟨fun pattern h_pattern => deleteCookies_of_pattern h_pattern key, fun wanted => ?_⟩
  have h_all : ∀ cookie ∈ stored run.world, cookie.carries key = true := fun cookie h_mem =>
    Bool.of_not_eq_false fun h_lacks => h_key cookie h_mem (Cookie.carries_eq_false_iff.mp h_lacks)
  obtain ⟨after, h_run, h_left⟩ := run_deleteWanted page h wanted filter key run
  obtain ⟨stays, h_stays, h_without⟩ :=
    Cookie.exists_without_doomed_eq wanted key (stored run.world)
  rw [List.takeWhile_eq_self_iff.mpr h_all, h_without] at h_left
  rw [if_pos (List.all_eq_true.mpr h_all)] at h_run
  refine ⟨after, stays, h_run, h_stays, h_left, fun cookie h_mem h_name => ?_⟩
  rw [h_left, List.mem_filter, h_stays]
  refine ⟨h_mem, fun _ _ _ _ _ h_named => ?_⟩
  rw [h_name] at h_named
  cases h_named

/-- A browser with two cookies of one name, and one whose name is no text. -/
def Browser.twiceNamed : Browser where
  cookies := [
    [(some "name", .ofString "a"), (some "value", .ofString "1")],
    [(some "name", .ofNat 12), (some "value", .ofNat 12)],
    [(some "name", .ofString "b"), (some "value", .ofString "2")],
    [(some "name", .ofString "a"), (some "value", .ofNat 12)]]

/-- A deletion by a pattern that only the numbers match takes both cookies of the one name, and
    leaves the number without a name. -/
theorem Page.deleteCookies_leaves_twiceNamed :
    (∀ cookie ∈ Browser.twiceNamed.cookies, cookie.field? "value" ≠ none)
      ∧ ∃ after, deleteCookies "^12$" "value" ⟨Browser.driver, .front⟩ { world := .twiceNamed }
          = (.ok (), after)
        ∧ after.world.cookies = [
          [(some "name", .ofNat 12), (some "value", .ofNat 12)],
          [(some "name", .ofString "b"), (some "value", .ofString "2")]] := by
  have h_key : ∀ cookie ∈ Browser.twiceNamed.cookies, cookie.field? "value" ≠ none := by
    simp [Browser.twiceNamed, Cookie.field?, Json.member?]
  obtain ⟨pattern, h_pattern⟩ : ∃ pattern, cookiePattern? "^12$" = some pattern := ⟨_, rfl⟩
  obtain ⟨h_same, h_leaves⟩ := deleteCookies_leaves Browser.storesCookies .front "^12$" "value"
    { world := .twiceNamed } h_key
  obtain ⟨after, stays, h_run, h_stays, h_left, -⟩ := h_leaves pattern.occursIn
  refine ⟨h_key, after, by rw [h_same pattern h_pattern]; exact h_run, ?_⟩
  cases h_pattern
  have h_doomed : ∀ value, stays [(some "name", .ofString "a"), (some "value", value)] = false := by
    intro value
    rw [Bool.eq_false_iff, ne_eq, h_stays]
    intro h_spared
    exact h_spared [(some "name", .ofString "a"), (some "value", .ofNat 12)]
      (.tail _ (.tail _ (.tail _ (.head _)))) (.inr ⟨.ofNat 12, rfl, rfl, rfl⟩) "a" rfl rfl
  have h_nameless : stays [(some "name", .ofNat 12), (some "value", .ofNat 12)] = true :=
    (h_stays _).mpr fun _ _ _ _ _ => nofun
  have h_other : stays [(some "name", .ofString "b"), (some "value", .ofString "2")] = true := by
    rw [h_stays]
    intro other h_mem h_matches name h_name h_same_name
    rw [← Cookie.isWanted_iff_matches] at h_matches
    obtain rfl : "b" = name := Option.some.inj h_same_name
    simp only [Browser.twiceNamed, List.mem_cons, List.not_mem_nil, or_false] at h_mem
    rcases h_mem with rfl | rfl | rfl | rfl
    · exact absurd h_name (by decide)
    · cases h_name
    · cases h_matches
    · exact absurd h_name (by decide)
  refine h_left.trans ?_
  simp only [Browser.twiceNamed, List.filter_cons, List.filter_nil, h_doomed, h_nameless, h_other,
    Bool.false_eq_true, if_false, if_true]

end PageObjects
