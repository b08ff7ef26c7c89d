/-
  PageObjects.Wait

  Waiting by polling. A predicate is asked again and again, with a pause between
  two polls, until its answer decides the wait or the time is up. An answer decides
  unless it is "no" or an error that says that something is not there yet; the
  time is looked at only after an answer that does not decide, so there is always
  at least one poll, and a late success is a success.

  Nothing is known of the clock, so nothing bounds the polls of a wait: `Wait.Ends`
  says what polling ends in, and `Wait.pollOn` is the loop, which gives that end.
-/

import PageObjects.Error

namespace PageObjects

namespace Wait

/-- The pause between two polls where nothing else is said. -/
def defaultPollMs : Nat := 500

/-- The pause between two polls of a wait for an element. -/
def elementPollMs : Nat := 200

end Wait

/-- How a wait polls. -/
structure WaitOptions where
  timeoutMs : Nat := 60000
  pollMs : Nat := Wait.defaultPollMs
deriving DecidableEq, Repr

/-- A clock inside a state: its reading, and a pause of some milliseconds. -/
structure Clock (σ : Type) where
  now : σ → Nat
  pause : Nat → σ → σ

namespace Wait

/-- What an answer means for a wait. -/
inductive Verdict where
  | done
  | notYet
  | failed (error : PageError)
deriving DecidableEq, Repr

/-- Whether an error says that something is not there yet. -/
def isPassing (e : PageError) : Bool :=
  e.isNotFound || (match e with
    | .staleElement _ => true
    | _ => false)

/-- What an answer means for a wait. -/
def judge : Except PageError Bool → Verdict
  | .ok true => .done
  | .ok false => .notYet
  | .error e => if isPassing e then .notYet else .failed e

variable {σ : Type}

/-- Makes one poll of a wait that began when the clock read `start`, after `attempts` other ones.
    Gives the end of the wait, which is an error or the number of its polls, counted in 32 bits and
    so anew from 0 after 2^32 of them; `none` if another poll is to be made, and then the pause
    before it is over. -/
def pollOnce (clock : Clock σ) (options : WaitOptions) (waitedFor : String)
    (predicate : σ → Except PageError Bool × σ) (start : Nat) (attempts : UInt32) (s : σ) :
    Option (Except PageError Nat) × σ :=
  let (answer, s) := predicate s
  match judge answer with
  | .done => (some (.ok (attempts + 1).toNat), s)
  | .failed e => (some (.error e), s)
  | .notYet =>
    if options.timeoutMs ≤ clock.now s - start then
      (some (.error (.timeout options.timeoutMs waitedFor)), s)
    else (none, clock.pause options.pollMs s)

/-! ## Any number of polls -/

section polling

variable (clock : Clock σ) (options : WaitOptions) (waitedFor : String)
  (predicate : σ → Except PageError Bool × σ) (start : Nat)

/-- How polling ends, if another poll is made in a state after `attempts` other ones: in what its
    last poll gives, and in the state behind that poll. -/
inductive Ends : (attempts : UInt32) → σ → Except PageError Nat × σ → Prop
  | last {attempts s result after}
    (h_poll : pollOnce clock options waitedFor predicate start attempts s = (some result, after)) :
    Ends attempts s (result, after)
  | next {attempts s again ended}
    (h_poll : pollOnce clock options waitedFor predicate start attempts s = (none, again))
    (h_ends : Ends (attempts + 1) again ended) : Ends attempts s ended

/-- The end of polling if it has one, else `none`. -/
def IsEnd (attempts : UInt32) (s : σ) (ended? : Option (Except PageError Nat × σ)) : Prop :=
  ∀ ended, ended? = some ended ↔ Ends clock options waitedFor predicate start attempts s ended

variable {clock options waitedFor predicate start} {attempts : UInt32} {s : σ}

theorem Ends.of_last {result : Except PageError Nat} {after : σ}
    {ended : Except PageError Nat × σ}
    (h_poll : pollOnce clock options waitedFor predicate start attempts s = (some result, after))
    (h : Ends clock options waitedFor predicate start attempts s ended) :
    ended = (result, after) := by
  cases h with
  | last h_poll' =>
    rw [h_poll] at h_poll'
    cases h_poll'
    rfl
  | next h_poll' =>
    rw [h_poll] at h_poll'
    cases h_poll'

theorem Ends.of_next {again : σ} {ended : Except PageError Nat × σ}
    (h_poll : pollOnce clock options waitedFor predicate start attempts s = (none, again))
    (h : Ends clock options waitedFor predicate start attempts s ended) :
    Ends clock options waitedFor predicate start (attempts + 1) again ended := by
  cases h with
  | last h_poll' =>
    rw [h_poll] at h_poll'
    cases h_poll'
  | next h_poll' h_ends =>
    rw [h_poll] at h_poll'
    cases h_poll'
    exact h_ends

/-- Polling has at most one end. -/
theorem Ends.unique {ended ended' : Except PageError Nat × σ}
    (h : Ends clock options waitedFor predicate start attempts s ended)
    (h' : Ends clock options waitedFor predicate start attempts s ended') : ended = ended' := by
  induction h with
  | last h_poll => exact (h'.of_last h_poll).symm
  | next h_poll _ ih => exact ih (h'.of_next h_poll)

theorem IsEnd.of_last {result : Except PageError Nat} {after : σ}
    (h_poll : pollOnce clock options waitedFor predicate start attempts s = (some result, after)) :
    IsEnd clock options waitedFor predicate start attempts s (some (result, after)) := by
  intro ended
  constructor
  · intro h
    cases h
    exact .last h_poll
  · exact fun h => (h.of_last h_poll) ▸ rfl

theorem IsEnd.of_next {again : σ} {ended? : Option (Except PageError Nat × σ)}
    (h_poll : pollOnce clock options waitedFor predicate start attempts s = (none, again))
    (h : IsEnd clock options waitedFor predicate start (attempts + 1) again ended?) :
    IsEnd clock options waitedFor predicate start attempts s ended? :=
  fun ended => (h ended).trans ⟨.next h_poll, .of_next h_poll⟩

instance : Nonempty {ended? // IsEnd clock options waitedFor predicate start attempts s ended?} := by
  by_cases h : ∃ ended, Ends clock options waitedFor predicate start attempts s ended
  · obtain ⟨ended, h_ends⟩ := h
    refine ⟨some ended, fun ended' => ⟨?_, ?_⟩⟩
    · intro h_eq
      exact Option.some.inj h_eq ▸ h_ends
    · exact fun h_ends' => congrArg some (h_ends.unique h_ends')
  · exact ⟨none, fun ended => iff_of_false nofun (not_exists.mp h ended)⟩

variable (clock options waitedFor predicate start)

/-- Polls until the wait is over, however many polls that takes. Nothing bounds the recursion, so
    that it gives the end of polling is part of what it gives. -/
def pollOn : (attempts : UInt32) → (s : σ) →
    {ended? // IsEnd clock options waitedFor predicate start attempts s ended?} :=
  -- No relation has to be well-founded here, since there is only one value of this type.
  WellFounded.extrinsicFix₂ (fun _ _ => True) fun attempts s pollOn =>
    match h_poll : pollOnce clock options waitedFor predicate start attempts s with
    | (none, again) =>
      let ⟨ended?, h_end⟩ := pollOn (attempts + 1) again trivial
      ⟨ended?, .of_next h_poll h_end⟩
    | (some result, after) => ⟨some (result, after), .of_last h_poll⟩

/-- Polls until the wait is over, and counts out the first of the polls. The count changes nothing;
    a wait that is over within it can be evaluated. -/
def poll : (counted : Nat) → (attempts : UInt32) → σ → Option (Except PageError Nat × σ)
  | 0, attempts, s => (pollOn clock options waitedFor predicate start attempts s).val
  | counted + 1, attempts, s =>
    match pollOnce clock options waitedFor predicate start attempts s with
    | (none, again) => poll counted (attempts + 1) again
    | (some result, after) => some (result, after)

theorem poll_isEnd (counted : Nat) (attempts : UInt32) (s : σ) :
    IsEnd clock options waitedFor predicate start attempts s
      (poll clock options waitedFor predicate start counted attempts s) := by
  induction counted generalizing attempts s with
  | zero => exact (pollOn clock options waitedFor predicate start attempts s).property
  | succ counted ih =>
    rw [poll]
    split
    · exact .of_next ‹_› (ih _ _)
    · exact .of_last ‹_›

end polling

/-- Waits until the predicate says yes; gives the number of polls, and the state behind the last of
    them. There is no end if the answers never decide while the clock stands still. Where every
    pause takes a millisecond, one poll more than the timeout has milliseconds is enough. -/
def yes? (clock : Clock σ) (options : WaitOptions) (waitedFor : String)
    (predicate : σ → Except PageError Bool × σ) (s : σ) : Option (Except PageError Nat × σ) :=
  poll clock options waitedFor predicate (clock.now s) (options.timeoutMs + 1) 0 s

theorem yes?_isEnd (clock : Clock σ) (options : WaitOptions) (waitedFor : String)
    (predicate : σ → Except PageError Bool × σ) (s : σ) :
    IsEnd clock options waitedFor predicate (clock.now s) 0 s
      (yes? clock options waitedFor predicate s) :=
  poll_isEnd _ _ _ _ _ _ _ _

/-- The predicate that says no where another one says yes, and fails where that one does. -/
def negated (predicate : σ → Except PageError Bool × σ) : σ → Except PageError Bool × σ :=
  fun s => let (answer, s) := predicate s; (answer.map not, s)

/-- Waits until the predicate says no. -/
def no? (clock : Clock σ) (options : WaitOptions) (waitedFor : String)
    (predicate : σ → Except PageError Bool × σ) (s : σ) : Option (Except PageError Nat × σ) :=
  yes? clock options waitedFor (negated predicate) s

/-- Waits until the predicate says yes. What a wait without an end gives is never seen. -/
def yes (clock : Clock σ) (options : WaitOptions) (waitedFor : String)
    (predicate : σ → Except PageError Bool × σ) (s : σ) : Except PageError Nat × σ :=
  (yes? clock options waitedFor predicate s).getD
    (.error (.timeout options.timeoutMs waitedFor), s)

/-- Waits until the predicate says no. -/
def no (clock : Clock σ) (options : WaitOptions) (waitedFor : String)
    (predicate : σ → Except PageError Bool × σ) (s : σ) : Except PageError Nat × σ :=
  yes clock options waitedFor (negated predicate) s

/-- What a wait without a description waits for. -/
def condition : String := "condition"

end Wait
end PageObjects
