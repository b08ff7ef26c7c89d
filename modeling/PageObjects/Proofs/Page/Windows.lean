/-
  PageObjects.Proofs.Page.Windows

  Keeping one of several tabs. A page closes a tab by going to it and closing whatever is
  current, so the tab to keep is safe only because each closing stands behind a switch to
  another tab that was answered well. That holds whatever was current before, and however
  far the calls get.

    * `Driver.HasWindows`: what a browser has to do with its windows; the browser in
      memory does it, and it still does with any cues.
    * `FollowsPlan`: an action makes the calls of a plan in order, up to the first fault.
    * `Page.closeTabs_open`: a tab that is not to be closed stays open, step by step.
    * `Page.run_closeTabs`: in memory, the tabs of a list are closed and no others.
    * `focus_keeps_chosen`: focusing keeps just the chosen tab, and a fault on the way
      does not cost it.
-/

import PageObjects.Browser.Rehearsal
import PageObjects.Page.Navigation
import PageObjects.Proofs.Action.Triple
import PageObjects.Proofs.Page.Acceptance

namespace PageObjects

open PageObjects.Action

variable {W α β : Type} {context : Context W} {driver : Driver W} {page : Page}

-- ============================================================================
-- Browsers with windows
-- ============================================================================

/-- What a browser does with its windows. It may answer any call with a fault, and it may change in
    any way meanwhile that closes no window. -/
structure Driver.HasWindows (driver : Driver W) (windows : W → List String)
    (current : W → String) : Prop where
  /-- The windows that it lists are open. -/
  listed : ∀ world tabs after, driver.answer (.session .windowHandles) world = (.ok tabs, after) →
    ∀ tab ∈ tabs, tab ∈ windows after
  /-- A window that it has switched to is current. -/
  switched : ∀ world tab after,
    driver.answer (.session (.switchToWindow tab)) world = (.ok (), after) → current after = tab
  /-- An open window stays open, unless it is current and the current one is to be closed. -/
  lasts : ∀ world call tab, tab ∈ windows world → (call = .closeWindow → current world ≠ tab) →
    tab ∈ windows (driver.answer (.session call) world).2

namespace Browser

theorem currentWindow_of_switched {browser after : Browser} {tab : String}
    (h : browser.sessionAnswer (.switchToWindow tab) = (.ok (), after)) :
    after.currentWindow = tab := by
  rw [sessionAnswer] at h
  split at h <;> cases h
  rfl

theorem mem_windows_of_sessionAnswer (browser : Browser) (call : SessionCall) {tab : String}
    (h_open : tab ∈ browser.windows)
    (h_close : call = .closeWindow → browser.currentWindow ≠ tab) :
    tab ∈ (browser.sessionAnswer call).2.windows := by
  cases call with
  | switchToWindow handle =>
    rw [sessionAnswer]
    split <;> exact h_open
  | closeWindow =>
    refine List.mem_filter.mpr ⟨h_open, ?_⟩
    exact bne_iff_ne.mpr (h_close rfl).symm
  | _ => exact h_open

theorem hasWindows : Browser.driver.HasWindows windows currentWindow where
  listed _ _ _ h_answer := by
    cases h_answer
    exact fun _ h_mem => h_mem
  switched _ _ _ h_answer := currentWindow_of_switched h_answer
  lasts browser call _ h_open h_close := browser.mem_windows_of_sessionAnswer call h_open h_close

/-! ## Changes from outside -/

theorem mem_windows_apply {browser : Browser} {tab : String} (h_open : tab ∈ browser.windows)
    (change : Change) : tab ∈ (browser.apply change).windows := by
  cases change with
  | openWindow handle => exact List.mem_append_left _ h_open
  | _ => exact h_open

theorem currentWindow_apply (browser : Browser) (change : Change) :
    (browser.apply change).currentWindow = browser.currentWindow := by
  cases change <;> rfl

/-- Changes close no window and switch to none. -/
theorem windows_applyAll {browser : Browser} {tab : String} (h_open : tab ∈ browser.windows)
    (changes : List Change) :
    tab ∈ (browser.applyAll changes).windows
      ∧ (browser.applyAll changes).currentWindow = browser.currentWindow := by
  induction changes generalizing browser with
  | nil => exact ⟨h_open, rfl⟩
  | cons change rest ih =>
    obtain ⟨h_open, h_current⟩ := ih (mem_windows_apply h_open change)
    exact ⟨h_open, h_current.trans (currentWindow_apply browser change)⟩

end Browser

namespace Rehearsal

/-- The cues for a call are followed first. Then it meets a fault, or the browser answers it. -/
theorem answer_cases (probesStale : Bool) (call : Call) (rehearsal : Rehearsal) :
    ∃ changes staged, staged.browser = rehearsal.browser.applyAll changes
      ∧ ((∃ fault, (Rehearsal.driver probesStale).answer call rehearsal = (.error fault, staged))
        ∨ (Rehearsal.driver probesStale).answer call rehearsal
          = ((staged.browserAnswer call).1,
            { staged with browser := (staged.browserAnswer call).2 })) := by
  show ∃ changes staged, _ ∧ ((∃ fault, Rehearsal.answer call rehearsal = _)
    ∨ Rehearsal.answer call rehearsal = _)
  rw [answer]
  dsimp only
  split
  · exact ⟨_, _, rfl, .inl ⟨_, rfl⟩⟩
  · exact ⟨_, _, rfl, .inr rfl⟩

/-- Cookies that are shown in the place of others change nothing. -/
theorem browserAnswer_snd (call : Call) (rehearsal : Rehearsal) :
    (rehearsal.browserAnswer call).2 = (rehearsal.browser.answer call).2 := by
  rw [browserAnswer.eq_def]
  split
  · split <;> rfl
  · rfl

/-- A rehearsal has the windows of its browser, whatever its cues are. -/
theorem hasWindows (probesStale : Bool) :
    (Rehearsal.driver probesStale).HasWindows (fun rehearsal => rehearsal.browser.windows)
      fun rehearsal => rehearsal.browser.currentWindow where
  listed rehearsal tabs after h := by
    obtain ⟨changes, staged, -, ⟨fault, h_answer⟩ | h_answer⟩ :=
      answer_cases probesStale (.session .windowHandles) rehearsal
    · cases h_answer.symm.trans h
    · cases h_answer.symm.trans h
      exact fun _ h_mem => h_mem
  switched rehearsal tab after h := by
    obtain ⟨changes, staged, -, ⟨fault, h_answer⟩ | h_answer⟩ :=
      answer_cases probesStale (.session (.switchToWindow tab)) rehearsal
    · cases h_answer.symm.trans h
    · obtain ⟨h_ok, rfl⟩ := Prod.mk.inj (h_answer.symm.trans h)
      exact Browser.currentWindow_of_switched (Prod.ext h_ok rfl)
  lasts rehearsal call tab h_open h_close := by
    obtain ⟨changes, staged, h_staged, h_answer⟩ :=
      answer_cases probesStale (.session call) rehearsal
    obtain ⟨h_staged_open, h_current⟩ := Browser.windows_applyAll h_open changes
    rw [← h_staged] at h_staged_open h_current
    rcases h_answer with ⟨fault, h_answer⟩ | h_answer
    · rw [h_answer]
      exact h_staged_open
    · rw [h_answer, browserAnswer_snd]
      apply Browser.mem_windows_of_sessionAnswer _ _ h_staged_open
      rw [h_current]
      exact h_close

end Rehearsal

-- ============================================================================
-- Actions that follow a plan
-- ============================================================================

/-- From one state to the other just these calls were made, in this order. -/
def Run.Calls (run after : Run W) (calls : List Call) : Prop :=
  ∃ made : List Exchange,
    after.transcript = made.reverse ++ run.transcript ∧ made.map (·.call) = calls

theorem Run.Calls.refl (run : Run W) : run.Calls run [] :=
  ⟨[], rfl, rfl⟩

theorem Run.Calls.exchange (run : Run W) (driver : Driver W) (call : Call) :
    run.Calls (run.exchange driver call).2 [call] :=
  ⟨[⟨call, (run.exchange driver call).1, run.memory⟩], rfl, rfl⟩

theorem Run.Calls.trans {run between after : Run W} {calls more : List Call}
    (h : run.Calls between calls) (h_more : between.Calls after more) :
    run.Calls after (calls ++ more) := by
  obtain ⟨made, h_made, rfl⟩ := h
  obtain ⟨made', h_made', rfl⟩ := h_more
  refine ⟨made ++ made', ?_, List.map_append⟩
  rw [h_made', h_made, List.reverse_append, List.append_assoc]

namespace Action

/-- The action makes the calls of a plan in order; it makes all of them unless it ends in an
    error. -/
def FollowsPlan (context : Context W) (plan : List Call) (action : Action W α) : Prop :=
  ∀ run, ∃ calls, run.Calls (action context run).2 calls ∧ calls <+: plan
    ∧ ∀ a, (action context run).1 = .ok a → calls = plan

theorem FollowsPlan.pure (a : α) : FollowsPlan context [] (Pure.pure a : Action W α) :=
  fun run => ⟨[], .refl run, List.prefix_refl [], fun _ _ => rfl⟩

theorem FollowsPlan.pageCall (call : SessionCall) (operation : String) :
    FollowsPlan context [.session call] (pageCall call operation) := by
  intro run
  rw [run_pageCall]
  exact ⟨_, .exchange run _ _, List.prefix_refl _, fun _ _ => rfl⟩

theorem FollowsPlan.bind {x : Action W α} {f : α → Action W β} {plan more : List Call}
    (h_x : FollowsPlan context plan x) (h_f : ∀ a, FollowsPlan context more (f a)) :
    FollowsPlan context (plan ++ more) (x >>= f) := by
  intro run
  obtain ⟨calls, h_calls, h_prefix, h_all⟩ := h_x run
  rw [run_bind]
  rcases h_step : x context run with ⟨e | a, between⟩
  · rw [h_step] at h_calls
    exact ⟨calls, h_calls, h_prefix.trans (List.prefix_append plan more), nofun⟩
  · rw [h_step] at h_calls h_all
    obtain rfl := h_all a rfl
    obtain ⟨calls', h_calls', h_prefix', h_all'⟩ := h_f a between
    refine ⟨calls ++ calls', h_calls.trans h_calls',
      (List.prefix_append_right_inj calls).mpr h_prefix', ?_⟩
    intro b h_b
    rw [h_all' b h_b]

end Action

-- ============================================================================
-- The calls of focusing
-- ============================================================================

/-- The windows that are closed by calls that are all answered well: each time the one that is
    current then. -/
def closings (current : String) : List Call → List String
  | [] => []
  | .session (.switchToWindow tab) :: rest => closings tab rest
  | .session .closeWindow :: rest => current :: closings current rest
  | _ :: rest => closings current rest

/-- The calls that close some tabs, one after the other. -/
def closingCalls : List String → List Call
  | [] => []
  | tab :: rest => .session (.switchToWindow tab) :: .session .closeWindow :: closingCalls rest

/-- The calls that keep one tab and close the others. -/
def focusingCalls (kept : String) (others : List String) : List Call :=
  .session .windowHandles :: closingCalls others ++ [.session (.switchToWindow kept)]

theorem closings_prefix {calls plan : List Call} (h : calls <+: plan) (current : String) :
    closings current calls <+: closings current plan := by
  obtain ⟨more, rfl⟩ := h
  fun_induction closings current calls with
  | case1 => exact List.nil_prefix
  | case2 _ _ _ ih => exact ih
  | case3 current _ ih => exact (List.prefix_cons_inj current).mpr ih
  | case4 _ call _ _ _ ih =>
    rw [List.cons_append, closings]
    · exact ih
    · assumption
    · assumption

theorem closings_focusingCalls (current kept : String) (others : List String) :
    closings current (focusingCalls kept others) = others := by
  show closings current (closingCalls others ++ _) = others
  induction others generalizing current with
  | nil => rfl
  | cons tab rest ih => exact congrArg (tab :: ·) (ih tab)

namespace Page

theorem closeTabs_follows (tabs : List String) :
    FollowsPlan context (closingCalls tabs) (closeTabs tabs) := by
  induction tabs with
  | nil => exact .pure ()
  | cons tab rest ih => exact .bind (.pageCall _ _) fun _ => .bind (.pageCall _ _) fun _ => ih

theorem keepTab_follows (context : Context W) (kept : String) (others : List String) :
    FollowsPlan context (closingCalls others ++ [.session (.switchToWindow kept)])
      (keepTab kept others) := by
  have h_forget : FollowsPlan context [] (forgetAll : Action W Unit) :=
    fun _ => ⟨[], ⟨[], rfl, rfl⟩, List.prefix_refl [], fun _ _ => rfl⟩
  have h_keep := h_forget.bind fun _ =>
    (closeTabs_follows others).bind fun _ => .pageCall (.switchToWindow kept) "switch_to_window"
  exact h_keep

-- ============================================================================
-- What stays open
-- ============================================================================

section stays

variable {windows : W → List String} {current : W → String}
  (h : driver.HasWindows windows current) {kept : String}

include h

/-- The switch to another tab is what makes the next closing harmless. -/
theorem closeTabs_open {others : List String} (h_kept : kept ∉ others) :
    Keeps ⟨driver, page⟩ (fun run => kept ∈ windows run.world) (closeTabs others) := by
  induction others with
  | nil => exact .pure ()
  | cons tab rest ih =>
    obtain ⟨h_tab, h_rest⟩ := List.ne_and_not_mem_of_not_mem_cons h_kept
    have h_switch : Triple ⟨driver, page⟩ (fun run => kept ∈ windows run.world)
        (pageCall (.switchToWindow tab) "switch_to_window")
        (fun _ run => kept ∈ windows run.world ∧ current run.world ≠ kept)
        fun _ run => kept ∈ windows run.world := by
      refine .pageCall _ fun run h_run => ?_
      have h_open := h.lasts run.world (.switchToWindow tab) kept h_run nofun
      refine ⟨fun _ h_ok => ⟨h_open, fun h_current => h_tab ?_⟩, fun _ _ => h_open⟩
      exact h_current.symm.trans (h.switched run.world tab _ (Prod.ext h_ok rfl))
    have h_close : Triple ⟨driver, page⟩
        (fun run => kept ∈ windows run.world ∧ current run.world ≠ kept)
        (pageCall .closeWindow "close_window") (fun _ run => kept ∈ windows run.world)
        fun _ run => kept ∈ windows run.world := by
      refine .pageCall _ fun run h_run => ?_
      have h_open := h.lasts run.world .closeWindow kept h_run.1 fun _ => h_run.2
      exact ⟨fun _ _ => h_open, fun _ _ => h_open⟩
    exact Triple.bind h_switch fun _ => Triple.bind h_close fun _ => ih h_rest

theorem keepTab_open {others : List String} (h_kept : kept ∉ others) :
    Keeps ⟨driver, page⟩ (fun run => kept ∈ windows run.world) (keepTab kept others) :=
  .bind (.modifyMemory fun _ h_run => h_run) fun _ => .bind (closeTabs_open h h_kept) fun _ =>
    .pageCall _ fun run h_run => h.lasts run.world _ kept h_run nofun

end stays

-- ============================================================================
-- What is closed in memory
-- ============================================================================

theorem run_switchToWindow (page : Page) {tab : String} {run : Run Browser}
    (h_open : tab ∈ run.world.windows) (operation : String) :
    ∃ after, pageCall (.switchToWindow tab) operation ⟨Browser.driver, page⟩ run = (.ok (), after)
      ∧ after.memory = run.memory
      ∧ after.world = { run.world with currentWindow := tab } := by
  have h_answer : Browser.driver.answer (.session (.switchToWindow tab)) run.world
      = (.ok (), { run.world with currentWindow := tab }) :=
    if_pos (List.contains_iff_mem.mpr h_open)
  rw [run_pageCall, Run.exchange, h_answer]
  exact ⟨_, rfl, rfl, rfl⟩

/-- In memory just the tabs of a list are closed, whichever tab is current before. -/
theorem run_closeTabs (page : Page) {others : List String} (h_distinct : others.Nodup)
    (run : Run Browser) (h_open : ∀ tab ∈ others, tab ∈ run.world.windows) :
    ∃ after current, closeTabs others ⟨Browser.driver, page⟩ run = (.ok (), after)
      ∧ after.memory = run.memory
      ∧ after.world = { run.world with
          windows := run.world.windows.filter fun window => !others.contains window
          currentWindow := current } := by
  induction others generalizing run with
  | nil =>
    have h_all : (run.world.windows.filter fun window => !([] : List String).contains window)
        = run.world.windows :=
      List.filter_eq_self.mpr fun _ _ => rfl
    refine ⟨run, run.world.currentWindow, rfl, rfl, ?_⟩
    rw [h_all]
  | cons tab rest ih =>
    obtain ⟨h_tab, h_rest⟩ := List.nodup_cons.mp h_distinct
    obtain ⟨switched, h_switch, h_memory, h_world⟩ :=
      run_switchToWindow page (h_open tab List.mem_cons_self) "switch_to_window"
    obtain ⟨closed, h_close, h_memory', h_world'⟩ : ∃ closed,
        pageCall .closeWindow "close_window" ⟨Browser.driver, page⟩ switched = (.ok (), closed)
          ∧ closed.memory = switched.memory
          ∧ closed.world = { switched.world with
              windows := switched.world.windows.filter (· != switched.world.currentWindow) } := by
      rw [run_pageCall]
      exact ⟨_, rfl, rfl, rfl⟩
    rw [h_world] at h_world'
    have h_open' : ∀ other ∈ rest, other ∈ closed.world.windows := by
      intro other h_other
      rw [h_world']
      refine List.mem_filter.mpr ⟨h_open other (List.mem_cons_of_mem _ h_other), bne_iff_ne.mpr ?_⟩
      rintro rfl
      exact h_tab h_other
    obtain ⟨after, current, h_after, h_memory'', h_world''⟩ := ih h_rest closed h_open'
    refine ⟨after, current, ?_, h_memory''.trans (h_memory'.trans h_memory), ?_⟩
    · rw [closeTabs, run_bind_ok h_switch, run_bind_ok h_close, h_after]
    · rw [h_world'', h_world', List.filter_filter]
      simp only [List.contains_cons, Bool.not_or, Bool.and_comm, bne]

theorem run_keepTab (page : Page) {kept : String} {others : List String}
    (h_distinct : others.Nodup) (run : Run Browser)
    (h_open : ∀ tab ∈ others, tab ∈ run.world.windows)
    (h_rest : (run.world.windows.filter fun window => !others.contains window) = [kept]) :
    ∃ after, keepTab kept others ⟨Browser.driver, page⟩ run = (.ok (), after)
      ∧ after.memory = {}
      ∧ after.world = { run.world with windows := [kept], currentWindow := kept } := by
  obtain ⟨closed, current, h_closed, h_memory, h_world⟩ :=
    run_closeTabs page h_distinct { run with memory := {} } h_open
  rw [h_rest] at h_world
  have h_kept : kept ∈ closed.world.windows := by
    rw [h_world]
    exact List.mem_singleton_self kept
  obtain ⟨after, h_after, h_memory', h_world'⟩ :=
    run_switchToWindow page h_kept "switch_to_window"
  refine ⟨after, ?_, h_memory'.trans h_memory, ?_⟩
  · exact (run_bind_ok rfl).trans ((run_bind_ok h_closed).trans h_after)
  · rw [h_world', h_world]

end Page

-- ============================================================================
-- The tab to keep
-- ============================================================================

/-- Which of the tabs of a browser is kept. -/
inductive TabChoice where
  | last
  | first

namespace TabChoice

/-- The tab that is kept of a list of tabs. -/
def kept? : TabChoice → List String → Option String
  | .last, tabs => tabs.getLast?
  | .first, tabs => tabs.head?

/-- Keeps only the chosen tab. -/
def focus : TabChoice → Action W Unit
  | .last => Page.focusLastTab
  | .first => Page.focusFirstTab

variable {choice : TabChoice} {tabs : List String} {kept : String}

theorem eq_of_kept?_last (h_distinct : tabs.Nodup)
    (h_kept : TabChoice.last.kept? tabs = some kept) :
    tabs = tabs.erase kept ++ [kept] := by
  obtain ⟨others, rfl⟩ := List.getLast?_eq_some_iff.mp h_kept
  have h_not : kept ∉ others := by
    intro h_mem
    exact (List.nodup_append.mp h_distinct).2.2 kept h_mem kept List.mem_cons_self rfl
  rw [List.erase_append_right _ h_not, List.erase_cons_head, List.append_nil]

theorem eq_of_kept?_first (h_kept : TabChoice.first.kept? tabs = some kept) :
    tabs = kept :: tabs.erase kept := by
  obtain ⟨others, rfl⟩ := List.head?_eq_some_iff.mp h_kept
  rw [List.erase_cons_head]

theorem filter_others (h_distinct : tabs.Nodup) (h_kept : choice.kept? tabs = some kept) :
    (tabs.filter fun tab => !(tabs.erase kept).contains tab) = [kept] := by
  have h_not : kept ∉ tabs.erase kept := h_distinct.not_mem_erase
  generalize h_others : tabs.erase kept = others at h_not
  have h_none : (others.filter fun tab => !others.contains tab) = [] := by
    simp
  cases choice with
  | last =>
    rw [eq_of_kept?_last h_distinct h_kept, h_others, List.filter_append, h_none]
    simp [h_not]
  | first =>
    rw [eq_of_kept?_first h_kept, h_others, List.filter_cons, h_none]
    simp [h_not]

section focus

variable {run : Run W} {windows : W → List String} {current : W → String}

/-- With several tabs all but the chosen one are closed. -/
theorem focus_of_several (h_distinct : tabs.Nodup) (h_several : 2 ≤ tabs.length)
    (h_kept : choice.kept? tabs = some kept)
    (h_tabs : (context.driver.answer (.session .windowHandles) run.world).1 = .ok tabs) :
    choice.focus context run = Page.keepTab kept (tabs.erase kept) context
      (run.exchange context.driver (.session .windowHandles)).2 := by
  have h_list : (pageCall .windowHandles "window_handles" : Action W (List String)) context run
      = (.ok tabs, (run.exchange context.driver (.session .windowHandles)).2) :=
    run_pageCall_of_ok h_tabs _
  cases choice with
  | last =>
    have h_eq : tabs = tabs.erase kept ++ [kept] := eq_of_kept?_last h_distinct h_kept
    rw [focus, Page.focusLastTab, run_bind_ok h_list]
    generalize tabs.erase kept = others at h_eq
    subst h_eq
    rcases others.eq_nil_or_concat with rfl | ⟨middle, second, rfl⟩
    · simp at h_several
    · rw [List.concat_eq_append, List.reverse_append, List.reverse_append]
      show Page.keepTab kept (second :: middle.reverse).reverse context _ = _
      rw [List.reverse_cons, List.reverse_reverse]
  | first =>
    have h_eq : tabs = kept :: tabs.erase kept := eq_of_kept?_first h_kept
    rw [focus, Page.focusFirstTab, run_bind_ok h_list]
    generalize tabs.erase kept = others at h_eq
    subst h_eq
    rcases others with _ | ⟨second, rest⟩
    · simp at h_several
    · rfl

/-- If the tabs cannot be listed, nothing is done. -/
theorem focus_of_fault (context : Context W) {fault : Fault}
    (h_fault : (context.driver.answer (.session .windowHandles) run.world).1 = .error fault) :
    (choice.focus context run).2
      = (run.exchange context.driver (.session .windowHandles)).2 := by
  have h_list : (pageCall .windowHandles "window_handles" : Action W (List String)) context run
      = (.error (.ofFault fault context.page.name "window_handles"),
        (run.exchange context.driver (.session .windowHandles)).2) :=
    run_pageCall_of_fault h_fault _
  cases choice
  · rw [focus, Page.focusLastTab, run_bind, h_list]
  · rw [focus, Page.focusFirstTab, run_bind, h_list]

theorem focus_calls (context : Context W) (h_distinct : tabs.Nodup)
    (h_several : 2 ≤ tabs.length) (h_kept : choice.kept? tabs = some kept)
    (h_tabs : (context.driver.answer (.session .windowHandles) run.world).1 = .ok tabs) :
    ∃ calls, run.Calls (choice.focus context run).2 calls
      ∧ calls <+: focusingCalls kept (tabs.erase kept)
      ∧ ∀ a, (choice.focus context run).1 = .ok a
        → calls = focusingCalls kept (tabs.erase kept) := by
  rw [focus_of_several h_distinct h_several h_kept h_tabs]
  obtain ⟨calls, h_calls, h_prefix, h_all⟩ := Page.keepTab_follows context kept
    (tabs.erase kept) (run.exchange context.driver (.session .windowHandles)).2
  refine ⟨_, (Run.Calls.exchange run _ _).trans h_calls,
    (List.prefix_append_right_inj _).mpr h_prefix, fun a h_a => ?_⟩
  rw [h_all a h_a]
  rfl

/-- The chosen tab stays open, however focusing ends. -/
theorem focus_open (context : Context W) (h : context.driver.HasWindows windows current)
    (h_distinct : tabs.Nodup) (h_several : 2 ≤ tabs.length) (h_kept : choice.kept? tabs = some kept)
    (h_tabs : (context.driver.answer (.session .windowHandles) run.world).1 = .ok tabs) :
    kept ∈ windows (choice.focus context run).2.world := by
  have h_mem : kept ∈ tabs := by
    cases choice with
    | last => exact List.mem_of_getLast? h_kept
    | first => exact List.mem_of_head? h_kept
  rw [focus_of_several h_distinct h_several h_kept h_tabs]
  apply Keeps.iff.mp (Page.keepTab_open h h_distinct.not_mem_erase)
  exact h.listed run.world tabs _ (Prod.ext h_tabs rfl) kept h_mem

/-- In memory the chosen tab is the only one in the end. -/
theorem focus_inMemory (h_distinct : tabs.Nodup) (h_several : 2 ≤ tabs.length)
    (h_kept : choice.kept? tabs = some kept) (page : Page) {run : Run Browser}
    (h_windows : run.world.windows = tabs) :
    ∃ after, choice.focus ⟨Browser.driver, page⟩ run = (.ok (), after)
      ∧ after.world = { run.world with windows := [kept], currentWindow := kept } := by
  subst h_windows
  rw [focus_of_several h_distinct h_several h_kept rfl]
  obtain ⟨after, h_after, -, h_world⟩ := Page.run_keepTab page
    (h_distinct.erase kept) (run.exchange Browser.driver (.session .windowHandles)).2
    (fun _ h_mem => List.mem_of_mem_erase h_mem) (filter_others h_distinct h_kept)
  exact ⟨after, h_after, h_world⟩

end focus

end TabChoice

/-- Of several distinct tabs, listed in any order with any of them current, focusing keeps just the
    chosen one.

    In memory it ends well, just that tab is open then, and it is current; each of the others was
    closed once. On any browser with windows, where every call may meet a fault, the calls of the
    same plan are made up to some call. Whichever that is, they close other tabs only, none of
    them twice, and the chosen tab is open when focusing ends. If the tabs cannot be listed, all
    tabs stay open. -/
theorem focus_keeps_chosen (choice : TabChoice) {tabs : List String} {kept : String}
    (h_distinct : tabs.Nodup) (h_several : 2 ≤ tabs.length)
    (h_kept : choice.kept? tabs = some kept) :
    (∀ (page : Page) (run : Run Browser), run.world.windows = tabs →
      ∃ after, choice.focus ⟨Browser.driver, page⟩ run = (.ok (), after)
        ∧ after.world = { run.world with windows := [kept], currentWindow := kept }
        ∧ run.Calls after (focusingCalls kept (tabs.erase kept))
        ∧ closings run.world.currentWindow (focusingCalls kept (tabs.erase kept))
          = tabs.erase kept)
    ∧ ∀ {W : Type} {driver : Driver W} {windows : W → List String} {current : W → String},
      driver.HasWindows windows current → ∀ (page : Page) (run : Run W),
        ((driver.answer (.session .windowHandles) run.world).1 = .ok tabs →
          kept ∈ windows (choice.focus ⟨driver, page⟩ run).2.world
          ∧ ∃ calls, run.Calls (choice.focus ⟨driver, page⟩ run).2 calls
            ∧ calls <+: focusingCalls kept (tabs.erase kept)
            ∧ closings (current run.world) calls <+: tabs.erase kept)
        ∧ ∀ fault, (driver.answer (.session .windowHandles) run.world).1 = .error fault →
          ∀ tab ∈ windows run.world, tab ∈ windows (choice.focus ⟨driver, page⟩ run).2.world := by
  refine ⟨fun page run h_windows => ?_, fun {W driver windows current} h page run =>
    ⟨fun h_tabs => ?_, fun fault h_fault tab h_tab => ?_⟩⟩
  · obtain ⟨after, h_after, h_world⟩ :=
      TabChoice.focus_inMemory h_distinct h_several h_kept page h_windows
    obtain ⟨calls, h_calls, -, h_all⟩ := TabChoice.focus_calls ⟨Browser.driver, page⟩ h_distinct
      h_several h_kept (congrArg Except.ok h_windows)
    rw [h_after] at h_calls h_all
    obtain rfl := h_all () rfl
    exact ⟨after, h_after, h_world, h_calls, closings_focusingCalls _ _ _⟩
  · obtain ⟨calls, h_calls, h_prefix, -⟩ :=
      TabChoice.focus_calls ⟨driver, page⟩ h_distinct h_several h_kept h_tabs
    refine ⟨TabChoice.focus_open ⟨driver, page⟩ h h_distinct h_several h_kept h_tabs,
      calls, h_calls, h_prefix, ?_⟩
    have h_closings := closings_prefix h_prefix (current run.world)
    rwa [closings_focusingCalls] at h_closings
  · rw [TabChoice.focus_of_fault ⟨driver, page⟩ h_fault]
    exact h.lasts run.world _ tab h_tab nofun

/-- Three tabs with the second one current. The second closing crashes. -/
def Rehearsal.crashing : Rehearsal where
  browser := { windows := ["a", "b", "c"], currentWindow := "b" }
  cues := [{ call := "close_window", occurrence := 2, fault := some (.other "crash") }]

/-- Without the crash just the last tab is left; with it the last tab is open as well. -/
theorem focus_keeps_chosen_crashing :
    (∃ after, Page.focusLastTab ⟨Browser.driver, .front⟩ { world := Rehearsal.crashing.browser }
        = (.ok (), after)
      ∧ after.world.windows = ["c"] ∧ after.world.currentWindow = "c")
    ∧ ∃ after : Run Rehearsal,
      Page.focusLastTab ⟨Rehearsal.driver false, .front⟩ { world := .crashing }
        = (.error (.ofFault (.other "crash") "Front" "close_window"), after)
      ∧ after.world.browser.windows = ["b", "c"]
      ∧ "c" ∈ after.world.browser.windows := by
  have h_tabs : ["a", "b", "c"].Nodup := by decide
  have h_kept : TabChoice.last.kept? ["a", "b", "c"] = some "c" := rfl
  obtain ⟨h_memory, h_faults⟩ := focus_keeps_chosen .last h_tabs (by decide) h_kept
  obtain ⟨after, h_after, h_world, -⟩ := h_memory .front { world := Rehearsal.crashing.browser } rfl
  obtain ⟨h_open, -⟩ := (h_faults (Rehearsal.hasWindows false) .front { world := .crashing }).1 rfl
  have h_fault : (Page.focusLastTab ⟨Rehearsal.driver false, .front⟩ { world := .crashing }).1
      = .error (.ofFault (.other "crash") "Front" "close_window") := by
    decide +kernel
  have h_windows : (Page.focusLastTab ⟨Rehearsal.driver false, .front⟩
      { world := .crashing }).2.world.browser.windows = ["b", "c"] := by
    decide +kernel
  rw [TabChoice.focus] at h_after h_open
  refine ⟨⟨after, h_after, congrArg Browser.windows h_world,
    congrArg Browser.currentWindow h_world⟩, ?_⟩
  rcases h_focus : Page.focusLastTab ⟨Rehearsal.driver false, .front⟩ { world := .crashing }
    with ⟨result, ended⟩
  rw [h_focus] at h_fault h_windows h_open
  exact ⟨ended, Prod.ext h_fault rfl, h_windows, h_open⟩

end PageObjects
