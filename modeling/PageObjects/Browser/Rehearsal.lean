/-
  PageObjects.Browser.Rehearsal

  A browser in memory with cues: at a certain call, counted by its text, changes
  are made before it is answered, or the call is made to fail. That is how a test
  shows what happens when the page moves under it.
-/

import PageObjects.Browser.InMemory

namespace PageObjects

/-- What happens at a call. -/
structure Cue where
  /-- The text of the call. -/
  call : String
  /-- Which of the calls with that text it is, counted from 1; 0 stands for all of them. -/
  occurrence : Nat := 1
  changes : List Change := []
  fault : Option Fault := none

/-- Whether the cue is for the call with this text and number. -/
def Cue.isFor (cue : Cue) (call : String) (occurrence : Nat) : Bool :=
  cue.call == call && (cue.occurrence == 0 || cue.occurrence == occurrence)

/-- A browser in memory with its cues. -/
structure Rehearsal where
  browser : Browser := {}
  cues : List Cue := []
  /-- How often each call was made, by its text. -/
  counts : Keyed String Nat := []
  /-- Cookies that the session shows in the place of its own. -/
  shownCookies : Option (List Cookie) := none

namespace Rehearsal

/-- The answer of the browser, with the cookies that are to be shown. -/
def browserAnswer (rehearsal : Rehearsal) : (call : Call) → Except Fault call.Answer × Browser
  | .session .cookies =>
    match rehearsal.shownCookies with
    | some cookies => (.ok cookies, rehearsal.browser)
    | none => rehearsal.browser.answer (.session .cookies)
  | call => rehearsal.browser.answer call

/-- The answer to a call: the cues for it are followed in order, and the last fault among them is
    the answer. -/
def answer (call : Call) (rehearsal : Rehearsal) : Except Fault call.Answer × Rehearsal :=
  let text := call.display
  let counts := rehearsal.counts.adjust text 0 (· + 1)
  let cues := rehearsal.cues.filter fun cue => cue.isFor text ((counts.find? text).getD 0)
  let rehearsal := { rehearsal with
    counts, browser := rehearsal.browser.applyAll (cues.flatMap (·.changes)) }
  match (cues.filterMap (·.fault)).getLast? with
  | some fault => (.error fault, rehearsal)
  | none =>
    let (answer, browser) := rehearsal.browserAnswer call
    (answer, { rehearsal with browser })

/-- The driver of a rehearsal. -/
def driver (probesStale : Bool) : Driver Rehearsal where
  answer := answer
  clock := {
    now := fun rehearsal => rehearsal.browser.clock
    pause := fun ms rehearsal => { rehearsal with browser := rehearsal.browser.pause ms } }
  probesStale := probesStale

end Rehearsal
end PageObjects
