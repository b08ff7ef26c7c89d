/-
  PageObjects.Proofs.Action.Decision

  The answer that decides a wait. While there is time a wait passes over four kinds of
  answers, which `Passing` names; the first other answer decides it, and if the time is up
  before there is one, it ends in a timeout. Nothing is asked of the clock or of the
  number of polls: a wait whose clock stands still may make any number of them, and it has
  no end if no answer decides it. The polls are counted in 32 bits, so that the number
  that a wait gives is the number of its polls exactly as long as these bits hold it.

    * `judge_eq_notYet_iff` and its companions: what an answer means, by its kind.
    * `Decides`: how a wait for an answer has to end, poll by poll.
    * `decided_by_first_answer`: waits for "yes" and for "no" end like that.
    * `miscounted_and_foreign_timeout`: a wait of 2^32 polls gives the number 0, and a
      timeout may be an answer.
-/

import PageObjects.Proofs.Action.Polling

namespace PageObjects
namespace Wait

variable {σ : Type}

/-- The answers that a wait for the answer `wanted` passes over. -/
inductive Passing (wanted : Bool) : Except PageError Bool → Prop
  | other : Passing wanted (.ok (!wanted))
  | elementNotFound (locator : String) : Passing wanted (.error (.elementNotFound locator))
  | tableElementNotFound (message : String) :
    Passing wanted (.error (.tableElementNotFound message))
  | staleElement (context : String) : Passing wanted (.error (.staleElement context))

-- ============================================================================
-- What an answer means
-- ============================================================================

section meaning

variable {answer : Except PageError Bool} {e : PageError}

theorem isPassing_iff (wanted : Bool) : isPassing e = true ↔ Passing wanted (.error e) := by
  constructor
  · intro h
    cases e with
    | elementNotFound locator => exact .elementNotFound locator
    | tableElementNotFound message => exact .tableElementNotFound message
    | staleElement context => exact .staleElement context
    | _ => cases h
  · intro h
    cases h <;> rfl

theorem judge_error (e : PageError) :
    judge (.error e) = if isPassing e then .notYet else .failed e := rfl

theorem judge_eq_done_iff : judge answer = .done ↔ answer = .ok true := by
  refine ⟨eq_of_judge_done, ?_⟩
  rintro rfl
  rfl

theorem judge_eq_notYet_iff : judge answer = .notYet ↔ Passing true answer := by
  rcases answer with e | _ | _
  · rw [judge_error, ← isPassing_iff]
    split
    · exact iff_of_true rfl ‹_›
    · exact iff_of_false nofun ‹_›
  · exact iff_of_true rfl .other
  · exact iff_of_false nofun nofun

theorem judge_eq_failed_iff :
    judge answer = .failed e ↔ answer = .error e ∧ ¬Passing true (.error e) := by
  rcases answer with met | _ | _
  · rw [judge_error, ← isPassing_iff]
    split
    · refine iff_of_false nofun ?_
      rintro ⟨⟨⟩, h_not⟩
      exact h_not ‹_›
    · constructor
      · rintro ⟨⟩
        exact ⟨rfl, ‹_›⟩
      · rintro ⟨⟨⟩, -⟩
        rfl
  · exact iff_of_false nofun fun h => nomatch h.1
  · exact iff_of_false nofun fun h => nomatch h.1

/-- What is passed over in a wait for "no" is passed over in one for "yes" to the opposite. -/
theorem passing_map_not : Passing true (answer.map not) ↔ Passing false answer := by
  rcases answer with e | _ | _
  · exact (isPassing_iff true).symm.trans (isPassing_iff false)
  · exact iff_of_false nofun nofun
  · exact iff_of_true .other .other

theorem map_not_eq_ok_iff : answer.map not = .ok true ↔ answer = .ok false := by
  rcases answer with e | _ | _
  · exact iff_of_false nofun nofun
  · exact iff_of_true rfl rfl
  · exact iff_of_false nofun nofun

theorem map_not_eq_error_iff : answer.map not = .error e ↔ answer = .error e := by
  rcases answer with met | _ | _
  · rfl
  · exact iff_of_false nofun nofun
  · exact iff_of_false nofun nofun

end meaning

-- ============================================================================
-- How a wait has to end
-- ============================================================================

section decides

variable (clock : Clock σ) (options : WaitOptions) (waitedFor : String)
  (predicate : σ → Except PageError Bool × σ) (first : σ) (wanted : Bool)

/-- The answer to poll number `n`. -/
def answer (n : Nat) : Except PageError Bool :=
  (predicate (pollState clock options predicate first n)).1

/-- The answers to the first `n` polls are passed over, each of them with the clock below the
    timeout. -/
def PassesOver (n : Nat) : Prop :=
  ∀ m < n, Passing wanted (answer clock options predicate first m)
    ∧ elapsed clock options predicate first m < options.timeoutMs

/-- How a wait for the answer `wanted` has to end. The predicate is asked at least once, and poll
    number `n` is the one that asks it for the time `n + 1`. -/
structure Decides (ended : Option (Except PageError Nat × σ)) : Prop where
  /-- A wait ends well with the first answer that is not passed over, if that is the wanted one. -/
  success : ∀ after, (∃ attempts, ended = some (.ok attempts, after))
    ↔ ∃ n, PassesOver clock options predicate first wanted n
      ∧ answer clock options predicate first n = .ok wanted
      ∧ polledState clock options predicate first n = after
  /-- It gives the number of times that it has asked then, if 32 bits hold this number. -/
  counted : ∀ n, PassesOver clock options predicate first wanted n →
    answer clock options predicate first n = .ok wanted →
      (ended = some (.ok (n + 1), polledState clock options predicate first n)
        ↔ n + 1 < UInt32.size)
  /-- It ends in an error if that answer is one, which may be a timeout too, or if an answer is
      passed over for the last time with the clock at the timeout or past it. -/
  failure : ∀ e after, ended = some (.error e, after)
    ↔ ∃ n, PassesOver clock options predicate first wanted n
      ∧ polledState clock options predicate first n = after
      ∧ (answer clock options predicate first n = .error e ∧ ¬Passing wanted (.error e)
        ∨ Passing wanted (answer clock options predicate first n)
          ∧ options.timeoutMs ≤ elapsed clock options predicate first n
          ∧ e = .timeout options.timeoutMs waitedFor)
  /-- It has no end if every answer is passed over with the clock below the timeout. -/
  endless : ended = none ↔ ∀ n, PassesOver clock options predicate first wanted n

variable {clock options waitedFor predicate first wanted} {n : Nat}

/-! ## Waits for "yes" -/

theorem goesOn_iff : GoesOn clock options predicate first n
    ↔ Passing true (answer clock options predicate first n)
      ∧ elapsed clock options predicate first n < options.timeoutMs := by
  rw [GoesOn, ← judge_eq_notYet_iff]
  rfl

theorem comesTo_iff_passesOver :
    ComesTo clock options predicate first n ↔ PassesOver clock options predicate first true n :=
  forall_congr' fun _ => imp_congr_right fun _ => goesOn_iff

theorem answer_of_outcome_ok {attempts : Nat}
    (h : outcome clock options predicate first waitedFor n = some (.ok attempts)) :
    answer clock options predicate first n = .ok true := by
  rw [outcome] at h
  split at h <;> rename_i h_verdict
  · exact judge_eq_done_iff.mp h_verdict
  · cases h
  · split at h <;> cases h

theorem outcome_eq_error_iff {e : PageError} :
    outcome clock options predicate first waitedFor n = some (.error e)
      ↔ answer clock options predicate first n = .error e ∧ ¬Passing true (.error e)
        ∨ Passing true (answer clock options predicate first n)
          ∧ options.timeoutMs ≤ elapsed clock options predicate first n
          ∧ e = .timeout options.timeoutMs waitedFor := by
  rw [← judge_eq_failed_iff, ← judge_eq_notYet_iff]
  constructor
  · intro h
    rw [outcome] at h
    split at h <;> rename_i h_verdict
    · cases h
    · cases h
      exact .inl h_verdict
    · split at h <;> rename_i h_late <;> cases h
      exact .inr ⟨h_verdict, h_late, rfl⟩
  · rintro (h_verdict | ⟨h_verdict, h_late, rfl⟩)
    · exact outcome_of_failed h_verdict
    · exact outcome_of_late h_verdict h_late

/-- The number that a wait gives is the number of its polls without the higher bits. -/
theorem yes?_of_answer (h_passes : PassesOver clock options predicate first true n)
    (h_answer : answer clock options predicate first n = .ok true) :
    yes? clock options waitedFor predicate first
      = some (.ok ((n + 1) % UInt32.size), polledState clock options predicate first n) :=
  yes?_of_done (comesTo_iff_passesOver.mpr h_passes) (judge_eq_done_iff.mpr h_answer)

theorem decides_yes? : Decides clock options waitedFor predicate first true
    (yes? clock options waitedFor predicate first) where
  success after := by
    constructor
    · rintro ⟨attempts, h_ended⟩
      obtain ⟨n, h_comes, h_outcome, h_after⟩ := yes?_eq_some_iff.mp h_ended
      exact ⟨n, comesTo_iff_passesOver.mp h_comes, answer_of_outcome_ok h_outcome, h_after⟩
    · rintro ⟨n, h_passes, h_answer, rfl⟩
      exact ⟨_, yes?_of_answer h_passes h_answer⟩
  counted n h_passes h_answer := by
    rw [yes?_of_answer h_passes h_answer]
    simp only [Option.some.injEq, Prod.mk.injEq, Except.ok.injEq, and_true]
    exact Nat.mod_eq_iff_lt (by decide)
  failure e after := by
    rw [yes?_eq_some_iff]
    refine exists_congr fun n => ?_
    rw [comesTo_iff_passesOver, outcome_eq_error_iff, and_comm (b := _ = after)]
  endless := by
    rw [yes?_eq_none_iff]
    constructor
    · exact fun h n m _ => goesOn_iff.mp (h m)
    · exact fun h n => goesOn_iff.mpr (h (n + 1) n (Nat.lt_succ_self n))

/-! ## Waits for "no" -/

theorem pollState_negated (n : Nat) :
    pollState clock options (negated predicate) first n
      = pollState clock options predicate first n := by
  induction n with
  | zero => rfl
  | succ n ih => rw [pollState, pollState, ih]; rfl

theorem polledState_negated (n : Nat) :
    polledState clock options (negated predicate) first n
      = polledState clock options predicate first n := by
  rw [polledState, pollState_negated]
  rfl

theorem elapsed_negated (n : Nat) :
    elapsed clock options (negated predicate) first n
      = elapsed clock options predicate first n := by
  rw [elapsed, polledState_negated, ← elapsed]

theorem answer_negated (n : Nat) :
    answer clock options (negated predicate) first n
      = (answer clock options predicate first n).map not := by
  rw [answer, pollState_negated]
  rfl

theorem passesOver_negated :
    PassesOver clock options (negated predicate) first true n
      ↔ PassesOver clock options predicate first false n := by
  simp only [PassesOver, answer_negated, elapsed_negated, passing_map_not]

/-- A wait for "yes" to the opposite is a wait for "no". -/
theorem Decides.of_negated {ended : Option (Except PageError Nat × σ)}
    (h : Decides clock options waitedFor (negated predicate) first true ended) :
    Decides clock options waitedFor predicate first false ended where
  success after := by
    rw [h.success]
    simp only [passesOver_negated, answer_negated, polledState_negated, map_not_eq_ok_iff]
  counted n h_passes h_answer := by
    rw [← polledState_negated]
    refine h.counted n (passesOver_negated.mpr h_passes) ?_
    rw [answer_negated, map_not_eq_ok_iff, h_answer]
  failure e after := by
    rw [h.failure]
    simp only [passesOver_negated, answer_negated, polledState_negated, elapsed_negated,
      passing_map_not, map_not_eq_error_iff, ← isPassing_iff]
  endless := by
    rw [h.endless]
    simp only [passesOver_negated]

/-- A wait for "yes" that ends well ends with the first answer that it does not pass over. -/
theorem exists_answer_of_yes {attempts : Nat} {after : σ}
    (h : yes clock options waitedFor predicate first = (.ok attempts, after)) :
    ∃ n, PassesOver clock options predicate first true n
      ∧ answer clock options predicate first n = .ok true
      ∧ polledState clock options predicate first n = after := by
  rw [yes] at h
  cases h_ended : yes? clock options waitedFor predicate first with
  | none =>
    rw [h_ended] at h
    cases h
  | some ended =>
    rw [h_ended, Option.getD_some] at h
    subst h
    exact (decides_yes?.success after).mp ⟨attempts, h_ended⟩

end decides

/-- However often a wait has to ask and whatever the clock reads, it asks at least once, it passes
    over "no" and the three errors that say that something is not there yet while the clock is below
    the timeout, and the first other answer decides it: "yes" ends it well, with the number of times
    that it has asked as long as this number is below 2^32, and an error is given as it is. It ends
    in a timeout of its own if it has passed over an answer and the clock is at the timeout or past
    it then. A wait for "no" is the same with "yes" and "no" exchanged. The states of the wait may
    hold any two sequences, of answers and of readings. -/
theorem decided_by_first_answer (clock : Clock σ) (options : WaitOptions) (waitedFor : String)
    (predicate : σ → Except PageError Bool × σ) (first : σ) :
    Decides clock options waitedFor predicate first true
        (yes? clock options waitedFor predicate first)
      ∧ Decides clock options waitedFor predicate first false
        (no? clock options waitedFor predicate first)
      ∧ (∀ ended, yes? clock options waitedFor predicate first = some ended →
        yes clock options waitedFor predicate first = ended)
      ∧ ∀ ended, no? clock options waitedFor predicate first = some ended →
        no clock options waitedFor predicate first = ended :=
  ⟨decides_yes?, .of_negated decides_yes?, fun _ => yes_of_yes?, fun _ => yes_of_yes?⟩

/-- A "yes" that comes when the time is up is a success all the same. -/
example : yes? ⟨id, fun ms reading => reading + ms⟩ { timeoutMs := 7, pollMs := 5 } "button"
    (fun reading => (.ok (10 ≤ reading), reading + 2)) 3 = some (.ok 2, 12) := rfl

-- ============================================================================
-- Counts beyond 32 bits, timeouts as answers
-- ============================================================================

/-- The clock that stands still, for a wait that counts in its state how often it has asked. -/
def stillClock : Clock Nat :=
  ⟨fun _ => 0, fun _ asked => asked⟩

/-- The predicate that says "no" for some times and "yes" from then on. -/
def yesAfter (noes asked : Nat) : Except PageError Bool × Nat :=
  (.ok (noes ≤ asked), asked + 1)

/-- The predicate that fails with a timeout of its own and says "yes" from then on. -/
def timeoutFirst (asked : Nat) : Except PageError Bool × Nat :=
  (if asked = 0 then .error (.timeout 7 "m") else .ok true, asked + 1)

section still

variable {options : WaitOptions}

theorem elapsed_stillClock (predicate : Nat → Except PageError Bool × Nat) (first n : Nat) :
    elapsed stillClock options predicate first n = 0 := rfl

theorem pollState_yesAfter (noes n : Nat) :
    pollState stillClock options (yesAfter noes) 0 n = n := by
  induction n with
  | zero => rfl
  | succ n ih => rw [pollState, ih]; rfl

theorem answer_yesAfter (noes n : Nat) :
    answer stillClock options (yesAfter noes) 0 n = .ok (noes ≤ n) := by
  rw [answer, pollState_yesAfter, yesAfter]

theorem passesOver_yesAfter (h_time : 0 < options.timeoutMs) (noes : Nat) :
    PassesOver stillClock options (yesAfter noes) 0 true noes := by
  intro m h_m
  refine ⟨?_, h_time⟩
  rw [answer_yesAfter, decide_eq_false (Nat.not_le.mpr h_m)]
  exact .other

/-- Any number of polls is made if the clock stands still. -/
theorem yes?_yesAfter (h_time : 0 < options.timeoutMs) (waitedFor : String) (noes : Nat) :
    yes? stillClock options waitedFor (yesAfter noes) 0
      = some (.ok ((noes + 1) % UInt32.size), noes + 1) := by
  have h_answer : answer stillClock options (yesAfter noes) 0 noes = .ok true := by
    rw [answer_yesAfter, decide_eq_true (Nat.le_refl noes)]
  rw [yes?_of_answer (passesOver_yesAfter h_time noes) h_answer, polledState, pollState_yesAfter]
  rfl

end still

/-- A wait of 2^32 polls, of which the last one says "yes", gives the number 0. A wait whose first
    answer is a timeout of as many milliseconds as its own ends in this timeout, although there is
    no answer passed over with the clock at 7 milliseconds or past them. -/
theorem miscounted_and_foreign_timeout :
    (PassesOver stillClock {} (yesAfter (UInt32.size - 1)) 0 true (UInt32.size - 1)
        ∧ answer stillClock {} (yesAfter (UInt32.size - 1)) 0 (UInt32.size - 1) = .ok true
        ∧ yes? stillClock {} "d" (yesAfter (UInt32.size - 1)) 0 = some (.ok 0, UInt32.size))
      ∧ yes? stillClock { timeoutMs := 7, pollMs := 0 } "d" timeoutFirst 0
          = some (.error (.timeout 7 "m"), 1)
      ∧ ¬∃ n, Passing true
            (answer stillClock { timeoutMs := 7, pollMs := 0 } timeoutFirst 0 n)
          ∧ 7 ≤ elapsed stillClock { timeoutMs := 7, pollMs := 0 } timeoutFirst 0 n := by
  have h_time : 0 < ({} : WaitOptions).timeoutMs := by decide
  refine ⟨⟨passesOver_yesAfter h_time _, ?_, ?_⟩, rfl, ?_⟩
  · rw [answer_yesAfter, decide_eq_true (Nat.le_refl _)]
  · rw [yes?_yesAfter h_time]
    rfl
  · rintro ⟨n, -, h_late⟩
    rw [elapsed_stillClock] at h_late
    exact absurd h_late (by decide)

end Wait
end PageObjects
