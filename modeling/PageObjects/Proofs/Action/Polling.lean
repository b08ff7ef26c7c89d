/-
  PageObjects.Proofs.Action.Polling

  Waits, poll by poll. A wait is determined by the states that it would poll in: each is
  the one before, as the predicate has left it, after a pause. The wait comes to a poll
  if every poll before it was undecided and came to its end in time, and the first poll
  of which that cannot be said is the last one.

    * `Wait.pollState` is the sequence of states, `Wait.ComesTo` how far a wait gets.
    * `Wait.outcome` is what the last poll makes of a wait. `Wait.yes?_eq_some_iff` says how a
      wait ends and `Wait.yes?_eq_none_iff` when it has no end.
    * `Wait.KeepsTime.exists_last`: there is a last poll if the clock moves on with every
      pause; then the number of polls is bounded by the timeout.
    * `Driver.KeepsTime`: the clock of a driver moves on with pauses and never back.
    * `Wait.Views`: a wait whose states say more than those of another one.
    * `Action.waitKeeping_of_done` and its companions: the same for a wait that keeps what
      its looks find.
-/

import PageObjects.Proofs.Action.Lasting

namespace PageObjects

namespace Wait

variable {σ : Type}

theorem eq_of_judge_done {answer : Except PageError Bool} (h : judge answer = .done) :
    answer = .ok true := by
  rcases answer with e | _ | _
  · rw [judge] at h
    split at h <;> cases h
  · cases h
  · rfl

-- ============================================================================
-- The polls of a wait
-- ============================================================================

section polls

variable (clock : Clock σ) (options : WaitOptions) (predicate : σ → Except PageError Bool × σ)
  (first : σ)

/-- The state in which a wait makes its poll number `n`, counted from 0, if it comes to that. -/
def pollState : (n : Nat) → σ
  | 0 => first
  | n + 1 => clock.pause options.pollMs (predicate (pollState n)).2

/-- The state behind poll number `n`. -/
def polledState (n : Nat) : σ :=
  (predicate (pollState clock options predicate first n)).2

/-- What the answer to poll number `n` means for the wait. -/
def verdict (n : Nat) : Verdict :=
  judge (predicate (pollState clock options predicate first n)).1

/-- How many milliseconds after the begin of the wait poll number `n` comes to its end. -/
def elapsed (n : Nat) : Nat :=
  clock.now (polledState clock options predicate first n) - clock.now first

/-- Another poll is made after poll number `n`. -/
def GoesOn (n : Nat) : Prop :=
  verdict clock options predicate first n = .notYet
    ∧ elapsed clock options predicate first n < options.timeoutMs

/-- What poll number `n` makes of a wait, if no poll is made after it. -/
def outcome (waitedFor : String) (n : Nat) : Option (Except PageError Nat) :=
  match verdict clock options predicate first n with
  | .done => some (.ok ((n + 1) % UInt32.size))
  | .failed e => some (.error e)
  | .notYet =>
    if options.timeoutMs ≤ elapsed clock options predicate first n then
      some (.error (.timeout options.timeoutMs waitedFor))
    else none

instance (n : Nat) : Decidable (GoesOn clock options predicate first n) :=
  inferInstanceAs (Decidable (_ ∧ _))

/-- The wait comes to poll number `n`. -/
def ComesTo (n : Nat) : Prop :=
  ∀ m < n, GoesOn clock options predicate first m

/-- The clock moves on with every pause, and the predicate does not turn it back. -/
structure KeepsTime : Prop where
  predicate : ∀ s, clock.now s ≤ clock.now (predicate s).2
  pause : ∀ s, clock.now s < clock.now (clock.pause options.pollMs s)

end polls

variable {clock : Clock σ} {options : WaitOptions} {waitedFor : String}
  {predicate : σ → Except PageError Bool × σ} {first : σ} {n : Nat}

theorem ComesTo.zero (first : σ) : ComesTo clock options predicate first 0 :=
  fun m h_m => absurd h_m (Nat.not_lt_zero m)

theorem ComesTo.succ (h : ComesTo clock options predicate first n)
    (h_on : GoesOn clock options predicate first n) :
    ComesTo clock options predicate first (n + 1) := by
  intro m h_m
  rcases Nat.lt_succ_iff_lt_or_eq.mp h_m with h_m | rfl
  · exact h m h_m
  · exact h_on

/-! ## One poll of a wait -/

theorem outcome_of_done (h_verdict : verdict clock options predicate first n = .done) :
    outcome clock options predicate first waitedFor n
      = some (.ok ((n + 1) % UInt32.size)) := by
  rw [outcome, h_verdict]

theorem outcome_of_failed {e : PageError}
    (h_verdict : verdict clock options predicate first n = .failed e) :
    outcome clock options predicate first waitedFor n = some (.error e) := by
  rw [outcome, h_verdict]

theorem outcome_of_late (h_verdict : verdict clock options predicate first n = .notYet)
    (h_late : options.timeoutMs ≤ elapsed clock options predicate first n) :
    outcome clock options predicate first waitedFor n
      = some (.error (.timeout options.timeoutMs waitedFor)) := by
  rw [outcome, h_verdict]
  exact if_pos h_late

theorem outcome_eq_none_iff : outcome clock options predicate first waitedFor n = none
    ↔ GoesOn clock options predicate first n := by
  rw [outcome, GoesOn]
  rcases verdict clock options predicate first n with _ | _ | e
  · exact iff_of_false nofun fun h => nomatch h.1
  · dsimp only
    split
    · exact iff_of_false nofun fun h => absurd h.2 (Nat.not_lt.mpr ‹_›)
    · exact iff_of_true rfl ⟨rfl, Nat.not_le.mp ‹_›⟩
  · exact iff_of_false nofun fun h => nomatch h.1

theorem exists_outcome (waitedFor : String) (h : ¬GoesOn clock options predicate first n) :
    ∃ result, outcome clock options predicate first waitedFor n = some result :=
  Option.ne_none_iff_exists'.mp (mt outcome_eq_none_iff.mp h)

theorem pollOnce_of_goesOn (h : GoesOn clock options predicate first n) (attempts : UInt32) :
    pollOnce clock options waitedFor predicate (clock.now first) attempts
        (pollState clock options predicate first n)
      = (none, pollState clock options predicate first (n + 1)) := by
  obtain ⟨h_verdict, h_elapsed⟩ := h
  rw [verdict] at h_verdict
  rw [elapsed, polledState] at h_elapsed
  simp only [pollOnce, h_verdict, if_neg (Nat.not_le.mpr h_elapsed)]
  rfl

theorem pollOnce_of_outcome {result : Except PageError Nat}
    (h : outcome clock options predicate first waitedFor n = some result) :
    pollOnce clock options waitedFor predicate (clock.now first) (.ofNat n)
        (pollState clock options predicate first n)
      = (some result, polledState clock options predicate first n) := by
  have h_count : (UInt32.ofNat n + 1).toNat = (n + 1) % UInt32.size := by
    rw [← UInt32.ofNat_one, ← UInt32.ofNat_add]
    exact UInt32.toNat_ofNat'
  rw [outcome, verdict] at h
  rw [pollOnce, h_count]
  split at h <;> rename_i h_verdict <;> simp only [h_verdict]
  · obtain rfl := Option.some.inj h
    rfl
  · obtain rfl := Option.some.inj h
    rfl
  · rw [elapsed, polledState] at h
    split at h <;> rename_i h_late
    · obtain rfl := Option.some.inj h
      simp only [if_pos h_late]
      rfl
    · cases h

/-! ## The last poll -/

/-- The first poll after which none is made, if it is among the first ones; else the wait comes to
    the next. -/
theorem exists_last_or_comesTo (clock : Clock σ) (options : WaitOptions)
    (predicate : σ → Except PageError Bool × σ) (first : σ) (n : Nat) :
    (∃ m < n, ComesTo clock options predicate first m ∧ ¬GoesOn clock options predicate first m)
      ∨ ComesTo clock options predicate first n := by
  induction n with
  | zero => exact .inr (.zero first)
  | succ n ih =>
    rcases ih with ⟨m, h_m, h_last⟩ | h_comes
    · exact .inl ⟨m, Nat.lt_succ_of_lt h_m, h_last⟩
    · by_cases h_on : GoesOn clock options predicate first n
      · exact .inr (h_comes.succ h_on)
      · exact .inl ⟨n, Nat.lt_succ_self n, h_comes, h_on⟩

theorem exists_last_of_not_goesOn (h : ¬GoesOn clock options predicate first n) :
    ∃ m, ComesTo clock options predicate first m ∧ ¬GoesOn clock options predicate first m := by
  rcases exists_last_or_comesTo clock options predicate first (n + 1) with ⟨m, -, h_last⟩ | h_comes
  · exact ⟨m, h_last⟩
  · exact absurd (h_comes n (Nat.lt_succ_self n)) h

/-! ## The end of a wait -/

/-- Polls that go on leave a wait with the end of the rest of it. -/
theorem ends_of_comesTo (h : ComesTo clock options predicate first n)
    {ended : Except PageError Nat × σ}
    (h_ends : Ends clock options waitedFor predicate (clock.now first) (.ofNat n)
      (pollState clock options predicate first n) ended) :
    Ends clock options waitedFor predicate (clock.now first) 0 first ended := by
  induction n with
  | zero => exact h_ends
  | succ n ih =>
    have h_before : ComesTo clock options predicate first n := by
      intro m h_m
      exact h m (Nat.lt_succ_of_lt h_m)
    rw [UInt32.ofNat_add] at h_ends
    exact ih h_before (.next (pollOnce_of_goesOn (h n (Nat.lt_succ_self n)) (.ofNat n)) h_ends)

/-- Polling comes to its end with a poll whose outcome that is. -/
theorem exists_outcome_of_ends {attempts : UInt32} {s : σ} {ended : Except PageError Nat × σ}
    (h_ends : Ends clock options waitedFor predicate (clock.now first) attempts s ended)
    (h_attempts : attempts = .ofNat n) (h_s : s = pollState clock options predicate first n)
    (h_comes : ComesTo clock options predicate first n) :
    ∃ last, ComesTo clock options predicate first last
      ∧ outcome clock options predicate first waitedFor last = some ended.1
      ∧ polledState clock options predicate first last = ended.2 := by
  induction h_ends generalizing n with
  | last h_poll =>
    subst h_attempts h_s
    by_cases h_on : GoesOn clock options predicate first n
    · rw [pollOnce_of_goesOn h_on] at h_poll
      cases h_poll
    · obtain ⟨result, h_result⟩ := exists_outcome waitedFor h_on
      rw [pollOnce_of_outcome h_result] at h_poll
      cases h_poll
      exact ⟨n, h_comes, h_result, rfl⟩
  | next h_poll _ ih =>
    subst h_attempts h_s
    by_cases h_on : GoesOn clock options predicate first n
    · rw [pollOnce_of_goesOn h_on] at h_poll
      cases h_poll
      exact ih (UInt32.ofNat_add n 1).symm rfl (h_comes.succ h_on)
    · obtain ⟨result, h_result⟩ := exists_outcome waitedFor h_on
      rw [pollOnce_of_outcome h_result] at h_poll
      cases h_poll

/-- A wait ends as one of the polls that it comes to makes it end. -/
theorem yes?_eq_some_iff {result : Except PageError Nat} {after : σ} :
    yes? clock options waitedFor predicate first = some (result, after)
      ↔ ∃ n, ComesTo clock options predicate first n
        ∧ outcome clock options predicate first waitedFor n = some result
        ∧ polledState clock options predicate first n = after := by
  rw [yes?_isEnd clock options waitedFor predicate first (result, after)]
  constructor
  · exact fun h_ends => exists_outcome_of_ends h_ends rfl rfl (.zero first)
  · rintro ⟨n, h_comes, h_result, rfl⟩
    exact ends_of_comesTo h_comes (.last (pollOnce_of_outcome h_result))

/-- A wait has no end exactly if it always goes on. -/
theorem yes?_eq_none_iff : yes? clock options waitedFor predicate first = none
    ↔ ∀ n, GoesOn clock options predicate first n := by
  constructor
  · refine fun h n => Classical.byContradiction fun h_on => ?_
    obtain ⟨m, h_comes, h_last⟩ := exists_last_of_not_goesOn h_on
    obtain ⟨result, h_result⟩ := exists_outcome waitedFor h_last
    rw [yes?_eq_some_iff.mpr ⟨m, h_comes, h_result, rfl⟩] at h
    cases h
  · intro h
    rw [Option.eq_none_iff_forall_ne_some]
    rintro ⟨result, after⟩ h_ended
    obtain ⟨n, -, h_result, -⟩ := yes?_eq_some_iff.mp h_ended
    rw [outcome_eq_none_iff.mpr (h n)] at h_result
    cases h_result

theorem yes?_of_outcome (h_comes : ComesTo clock options predicate first n)
    {result : Except PageError Nat}
    (h : outcome clock options predicate first waitedFor n = some result) :
    yes? clock options waitedFor predicate first
      = some (result, polledState clock options predicate first n) :=
  yes?_eq_some_iff.mpr ⟨n, h_comes, h, rfl⟩

theorem yes?_of_done (h_comes : ComesTo clock options predicate first n)
    (h_verdict : verdict clock options predicate first n = .done) :
    yes? clock options waitedFor predicate first
      = some (.ok ((n + 1) % UInt32.size), polledState clock options predicate first n) :=
  yes?_of_outcome h_comes (outcome_of_done h_verdict)

theorem yes?_of_failed (h_comes : ComesTo clock options predicate first n) {e : PageError}
    (h_verdict : verdict clock options predicate first n = .failed e) :
    yes? clock options waitedFor predicate first
      = some (.error e, polledState clock options predicate first n) :=
  yes?_of_outcome h_comes (outcome_of_failed h_verdict)

theorem yes?_of_late (h_comes : ComesTo clock options predicate first n)
    (h_verdict : verdict clock options predicate first n = .notYet)
    (h_late : options.timeoutMs ≤ elapsed clock options predicate first n) :
    yes? clock options waitedFor predicate first
      = some (.error (.timeout options.timeoutMs waitedFor),
        polledState clock options predicate first n) :=
  yes?_of_outcome h_comes (outcome_of_late h_verdict h_late)

theorem yes_of_yes? {ended : Except PageError Nat × σ}
    (h : yes? clock options waitedFor predicate first = some ended) :
    yes clock options waitedFor predicate first = ended := by
  rw [yes, h, Option.getD_some]

/-! ## Waits in time -/

theorem KeepsTime.now_le (h : KeepsTime clock options predicate) (n : Nat) :
    clock.now first + n ≤ clock.now (pollState clock options predicate first n) := by
  induction n with
  | zero => exact Nat.le_refl _
  | succ n ih =>
    have h_asked := h.predicate (pollState clock options predicate first n)
    have h_pause := h.pause (predicate (pollState clock options predicate first n)).2
    rw [pollState]
    omega

/-- Every pause takes time, so a wait makes no more polls than its timeout has milliseconds, and one
    more. -/
theorem KeepsTime.le_timeout (h : KeepsTime clock options predicate)
    (h_comes : ComesTo clock options predicate first n) : n ≤ options.timeoutMs := by
  cases n with
  | zero => exact Nat.zero_le _
  | succ n =>
    obtain ⟨-, h_elapsed⟩ := h_comes n (Nat.lt_succ_self n)
    have h_before : clock.now first + n ≤ clock.now (pollState clock options predicate first n) :=
      h.now_le n
    have h_asked := h.predicate (pollState clock options predicate first n)
    rw [elapsed, polledState] at h_elapsed
    omega

/-- A wait comes to a last poll if time goes by. -/
theorem KeepsTime.exists_last (h : KeepsTime clock options predicate) (first : σ) :
    ∃ n, ComesTo clock options predicate first n ∧ ¬GoesOn clock options predicate first n := by
  rcases exists_last_or_comesTo clock options predicate first (options.timeoutMs + 1) with
    ⟨n, -, h_last⟩ | h_comes
  · exact ⟨n, h_last⟩
  · exact absurd (h.le_timeout h_comes) (Nat.not_succ_le_self options.timeoutMs)

-- ============================================================================
-- Waits that carry more in their states
-- ============================================================================

section views

variable {τ : Type} {view : τ → σ} {clock' : Clock τ}
  {predicate' : τ → Except PageError Bool × τ}

/-- Seen through `view`, the states of a wait are those of another one, with the same answers. -/
structure Views (view : τ → σ) (clock' : Clock τ) (clock : Clock σ)
    (predicate' : τ → Except PageError Bool × τ) (predicate : σ → Except PageError Bool × σ) :
    Prop where
  now : ∀ s, clock.now (view s) = clock'.now s
  pause : ∀ ms s, clock.pause ms (view s) = view (clock'.pause ms s)
  predicate : ∀ s, predicate (view s) = ((predicate' s).1, view (predicate' s).2)

namespace Views

theorem pollState (h : Views view clock' clock predicate' predicate) (initial : τ) (n : Nat) :
    pollState clock options predicate (view initial) n
      = view (pollState clock' options predicate' initial n) := by
  induction n with
  | zero => rfl
  | succ n ih => rw [Wait.pollState, Wait.pollState, ih, h.predicate, h.pause]

theorem polledState (h : Views view clock' clock predicate' predicate) (initial : τ) (n : Nat) :
    polledState clock options predicate (view initial) n
      = view (polledState clock' options predicate' initial n) := by
  rw [Wait.polledState, Wait.polledState, h.pollState, h.predicate]

theorem verdict (h : Views view clock' clock predicate' predicate) (initial : τ) (n : Nat) :
    verdict clock options predicate (view initial) n
      = verdict clock' options predicate' initial n := by
  rw [Wait.verdict, Wait.verdict, h.pollState, h.predicate]

theorem elapsed (h : Views view clock' clock predicate' predicate) (initial : τ) (n : Nat) :
    elapsed clock options predicate (view initial) n
      = elapsed clock' options predicate' initial n := by
  rw [Wait.elapsed, Wait.elapsed, h.polledState, h.now, h.now]

theorem comesTo (h : Views view clock' clock predicate' predicate) (initial : τ) :
    ComesTo clock options predicate (view initial) n
      ↔ ComesTo clock' options predicate' initial n := by
  simp only [ComesTo, GoesOn, h.verdict, h.elapsed]

end Views

end views

end Wait

-- ============================================================================
-- Drivers that keep time
-- ============================================================================

/-- The clock of a driver is not turned back by a call, and a pause takes as long as was asked
    for. -/
structure Driver.KeepsTime {W : Type} (driver : Driver W) : Prop where
  answer : ∀ call world, driver.clock.now world ≤ driver.clock.now (driver.answer call world).2
  pause : ∀ ms world, driver.clock.now world + ms ≤ driver.clock.now (driver.clock.pause ms world)

namespace Driver.KeepsTime

open PageObjects.Action

variable {W α : Type} {context : Context W}

/-- It stays later than it has been, whatever is done with handles. -/
theorem lasting (h : context.driver.KeepsTime) (start : Nat) :
    Lasting context fun run => start ≤ (Run.clock context.driver).now run where
  exchange call run _ _ h_run := Nat.le_trans h_run (h.answer call run.world)
  pause ms run h_run :=
    Nat.le_trans h_run (Nat.le_trans (Nat.le_add_right _ ms) (h.pause ms run.world))
  forget _ h_run := h_run
  depart call run _ _ h_run := Nat.le_trans h_run (h.answer (.session call) run.world)

theorem steady (h : context.driver.KeepsTime) (start : Nat) :
    Steady context fun run => start ≤ (Run.clock context.driver).now run where
  toPassive := (h.lasting start).toPassive
  newHandle _ h_run := ⟨fun _ => h_run, fun _ _ h_later => h_later⟩

/-- It stays later during a call with all its recovery. -/
theorem perform (h : context.driver.KeepsTime) (start : Nat) (handle : Handle)
    (call : ElementCall) :
    Keeps context (fun run => start ≤ (Run.clock context.driver).now run)
      (handle.perform call) :=
  (h.steady start).perform
    (fun _ _ => ⟨fun _ _ h_run => h_run, fun _ _ _ _ h_run => h_run⟩)
    fun reference => .ask fun run h_run =>
      Nat.le_trans h_run (h.answer (.element reference call) run.world)

/-- A wait keeps time if its predicate does and it pauses. -/
theorem wait (h : context.driver.KeepsTime) {options : WaitOptions} (h_poll : 0 < options.pollMs)
    {predicate : Action W Bool}
    (h_predicate : ∀ start,
      Keeps context (fun run => start ≤ (Run.clock context.driver).now run) predicate) :
    Wait.KeepsTime (Run.clock context.driver) options (predicate context) where
  predicate run := Keeps.iff.mp (h_predicate _) run (Nat.le_refl _)
  pause run := Nat.lt_of_lt_of_le (Nat.lt_add_of_pos_right h_poll) (h.pause _ run.world)

end Driver.KeepsTime

namespace Browser

theorem clock_applyAll (changes : List Change) (browser : Browser) :
    (browser.applyAll changes).clock = browser.clock := by
  induction changes generalizing browser with
  | nil => rfl
  | cons change rest ih =>
    have h_change : (browser.apply change).clock = browser.clock := by cases change <;> rfl
    exact (ih (browser.apply change)).trans h_change

theorem clock_nodeAnswer (name : String) (node : Node) (browser : Browser) (call : ElementCall) :
    (browser.nodeAnswer name node call).2.clock = browser.clock := by
  cases call with
  | click => exact clock_applyAll _ _
  | _ => rfl

theorem clock_elementAnswer (reference : Reference) (browser : Browser) (call : ElementCall) :
    (browser.elementAnswer reference call).2.clock = browser.clock := by
  have h_reach : (browser.reach reference).2.clock = browser.clock := by
    obtain ⟨nodes, h_reach⟩ := exists_reach_eq reference browser
    rw [h_reach]
  rw [elementAnswer.eq_def]
  split
  · rfl
  · split <;> rename_i h_reached <;> rw [h_reached] at h_reach
    · exact h_reach
    · exact (clock_nodeAnswer _ _ _ _).trans h_reach

theorem clock_sessionAnswer (browser : Browser) (call : SessionCall) :
    (browser.sessionAnswer call).2.clock = browser.clock := by
  cases call with
  | switchToWindow handle =>
    rw [sessionAnswer]
    split <;> rfl
  | _ => rfl

/-- Time goes by in the browser in memory only while a test pauses. -/
theorem driver_keepsTime : Browser.driver.KeepsTime where
  answer call browser := by
    cases call with
    | provider call =>
      cases call with
      | quit => exact Nat.le_refl _
      | session fresh => cases fresh <;> exact Nat.le_refl _
    | session call => exact Nat.le_of_eq (clock_sessionAnswer browser call).symm
    | element reference call => exact Nat.le_of_eq (clock_elementAnswer reference browser call).symm
  pause ms browser := Nat.add_le_add_left (Nat.le_max_left ms 1) browser.clock

end Browser

-- ============================================================================
-- Waits for what a look finds
-- ============================================================================

namespace Action

variable {W α : Type} {context : Context W} {options : WaitOptions} {waitedFor : String}
  {initial : α} {look : Action W α} {judge : α → Action W Bool} {run : Run W} {n : Nat}

/-- The answer to one poll of a wait for a look that is judged well. -/
def judged (look : Action W α) (judge : α → Action W Bool) : Action W Bool := do
  judge (← look)

/-- One poll of a wait that keeps what its looks find. -/
def keeping (context : Context W) (look : Action W α) (judge : α → Action W Bool)
    (s : Run W × α) : Except PageError Bool × Run W × α :=
  match look context s.1 with
  | (.error e, run) => (.error e, run, s.2)
  | (.ok found, run) =>
    let (answer, run) := judge found context run
    (answer, run, found)

/-- The clock of a wait that keeps what its looks find. -/
def keepingClock (context : Context W) : Clock (Run W × α) :=
  ⟨fun s => (Run.clock context.driver).now s.1,
    fun ms s => ((Run.clock context.driver).pause ms s.1, s.2)⟩

/-- The runs of a wait that keeps what its looks find are those of a wait that does not. -/
theorem keeping_views (context : Context W) (look : Action W α) (judge : α → Action W Bool) :
    Wait.Views Prod.fst (keepingClock context) (Run.clock context.driver)
      (keeping context look judge) (judged look judge context) where
  now _ := rfl
  pause _ _ := rfl
  predicate := by
    rintro ⟨run, kept⟩
    rw [judged, run_bind, keeping]
    rcases look context run with ⟨e | found, behind⟩ <;> rfl

/-- A wait that keeps what its looks find is a wait of its own. -/
theorem run_waitKeeping (run : Run W) :
    waitKeeping options waitedFor initial look judge context run
      = (.ok ((Wait.yes (keepingClock context) options waitedFor (keeping context look judge)
            (run, initial)).1.map fun _ => (),
          (Wait.yes (keepingClock context) options waitedFor (keeping context look judge)
            (run, initial)).2.2),
        (Wait.yes (keepingClock context) options waitedFor (keeping context look judge)
          (run, initial)).2.1) := rfl

section last

variable
  (h_comes : Wait.ComesTo (Run.clock context.driver) options (judged look judge context) run n)

include h_comes

/-- A wait whose last poll says yes gives what this poll has found. -/
theorem waitKeeping_of_done {found : α} {between : Run W}
    (h_verdict : Wait.verdict (Run.clock context.driver) options
      (judged look judge context) run n = .done)
    (h_look : look context (Wait.pollState (Run.clock context.driver) options
      (judged look judge context) run n) = (.ok found, between)) :
    waitKeeping options waitedFor initial look judge context run
      = (.ok (.ok (), found), Wait.polledState (Run.clock context.driver) options
          (judged look judge context) run n) := by
  have h_views := keeping_views context look judge
  have h_kept : (Wait.polledState (keepingClock context) options (keeping context look judge)
      (run, initial) n).2 = found := by
    rw [h_views.pollState (run, initial)] at h_look
    simp only [Wait.polledState, keeping, h_look]
    rfl
  rw [h_views.verdict (run, initial)] at h_verdict
  rw [run_waitKeeping, Wait.yes_of_yes? (Wait.yes?_of_done
    ((h_views.comesTo (run, initial)).mp h_comes) h_verdict),
    h_views.polledState (run, initial), h_kept]
  rfl

/-- A wait whose last poll fails ends in its error. -/
theorem waitKeeping_of_failed {e : PageError}
    (h_verdict : Wait.verdict (Run.clock context.driver) options
      (judged look judge context) run n = .failed e) :
    ∃ kept, waitKeeping options waitedFor initial look judge context run
      = (.ok (.error e, kept), Wait.polledState (Run.clock context.driver) options
          (judged look judge context) run n) := by
  have h_views := keeping_views context look judge
  rw [h_views.verdict (run, initial)] at h_verdict
  rw [run_waitKeeping, Wait.yes_of_yes? (Wait.yes?_of_failed
    ((h_views.comesTo (run, initial)).mp h_comes) h_verdict),
    h_views.polledState (run, initial)]
  exact ⟨_, rfl⟩

/-- A wait whose last poll comes to its end too late ends in a timeout. -/
theorem waitKeeping_of_late
    (h_verdict : Wait.verdict (Run.clock context.driver) options
      (judged look judge context) run n = .notYet)
    (h_late : options.timeoutMs ≤ Wait.elapsed (Run.clock context.driver) options
      (judged look judge context) run n) :
    ∃ kept, waitKeeping options waitedFor initial look judge context run
      = (.ok (.error (.timeout options.timeoutMs waitedFor), kept),
        Wait.polledState (Run.clock context.driver) options
          (judged look judge context) run n) := by
  have h_views := keeping_views context look judge
  rw [h_views.verdict (run, initial)] at h_verdict
  rw [h_views.elapsed (run, initial)] at h_late
  rw [run_waitKeeping, Wait.yes_of_yes? (Wait.yes?_of_late
    ((h_views.comesTo (run, initial)).mp h_comes) h_verdict h_late),
    h_views.polledState (run, initial)]
  exact ⟨_, rfl⟩

end last

end Action
end PageObjects
