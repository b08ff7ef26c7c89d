/-
  PageObjects.Page.Action

  What a test does on a page, step by step. An action reads the page and its
  driver, changes the state of the run, and may end in an error; the state after an
  error is the one that the action had come to. Every call to the browser goes
  through `Run.exchange`, which writes it down with its answer and with what the
  page remembered at that moment.
-/

import PageObjects.Browser.Driver
import PageObjects.Page.Memory

namespace PageObjects

/-- A call to the browser, its answer, and what the page remembered when the call was made. -/
structure Exchange where
  call : Call
  answer : Except Fault call.Answer
  memory : Memory

/-- The state of a run. -/
structure Run (W : Type) where
  /-- The state of the browser. -/
  world : W
  /-- The calls so far, the latest first. -/
  transcript : List Exchange := []
  memory : Memory := {}
  /-- The current reference of every handle, by the number of the handle. -/
  references : Keyed Nat Reference := []
  /-- The number of the next handle. -/
  nextId : Nat := 0
  /-- Whether the page is gone, while handles of its elements are still about. -/
  pageDropped : Bool := false

/-- Makes a call. -/
def Run.exchange {W : Type} (driver : Driver W) (call : Call) (run : Run W) :
    Except Fault call.Answer × Run W :=
  let (answer, world) := driver.answer call run.world
  (answer, { run with world, transcript := ⟨call, answer, run.memory⟩ :: run.transcript })

/-- The clock of the browser, as a clock of runs. -/
def Run.clock {W : Type} (driver : Driver W) : Clock (Run W) where
  now run := driver.clock.now run.world
  pause ms run := { run with world := driver.clock.pause ms run.world }

/-- What an action may read. -/
structure Context (W : Type) where
  driver : Driver W
  page : Page

/-- A step of a test on a page. -/
abbrev Action (W α : Type) :=
  ReaderT (Context W) (ExceptT PageError (StateM (Run W))) α

namespace Action

variable {W α : Type}

/-! ## Calls -/

/-- Makes a call and gives its answer, faults included. -/
def ask (call : Call) : Action W (Except Fault call.Answer) := do
  let context ← read
  modifyGet (Run.exchange context.driver call)

/-- The value of an answer, or the error of an operation on `context` that met a fault. -/
def answered (context operation : String) : Except Fault α → Action W α
  | .ok value => pure value
  | .error fault => throw (.ofFault fault context operation)

/-- Makes a call to the session for an operation on `context`. -/
def sessionCall (call : SessionCall) (context operation : String) : Action W call.Answer := do
  answered context operation (← ask (.session call))

/-- Makes a call to the session for an operation of the page. -/
def pageCall (call : SessionCall) (operation : String) : Action W call.Answer := do
  sessionCall call (← read).page.name operation

/-- Puts an error of its own in the place of one that says that an element is not there. -/
def orMiss (miss : PageError) (action : Action W α) : Action W α :=
  tryCatch action fun e => throw (if e.isNotFound then miss else e)

/-! ## Memory -/

/-- Changes what the page remembers. -/
def modifyMemory (f : Memory → Memory) : Action W Unit :=
  modify fun run => { run with memory := f run.memory }

/-- The value that the page remembers under a key. -/
def cached? (key : String) : Action W (Option Cached) := do
  return (← get).memory.cache.find? key

/-- Remembers a value under a key. -/
def remember (key : String) (value : Cached) : Action W Unit :=
  modifyMemory fun memory => { memory with cache := memory.cache.put key value }

/-- Forgets the value under a key. -/
def forget (key : String) : Action W Unit :=
  modifyMemory fun memory => { memory with cache := memory.cache.drop key }

/-- Forgets everything. -/
def forgetAll : Action W Unit :=
  modifyMemory fun _ => {}

/-! ## Waits -/

/-- Waits until a predicate says yes. -/
def wait (options : WaitOptions) (waitedFor : String) (predicate : Action W Bool) :
    Action W Unit := fun context run =>
  let (result, run) :=
    Wait.yes (Run.clock context.driver) options waitedFor (fun run => predicate context run) run
  (result.map fun _ => (), run)

/-- Waits until what a look finds is judged well; gives how the wait ended, and what the last look
    found that came to its end. -/
def waitKeeping (options : WaitOptions) (waitedFor : String) (initial : α) (look : Action W α)
    (judge : α → Action W Bool) : Action W (Except PageError Unit × α) := fun context run =>
  let clock := Run.clock context.driver
  let (result, run, kept) :=
    Wait.yes ⟨fun s => clock.now s.1, fun ms s => (clock.pause ms s.1, s.2)⟩ options waitedFor
      (fun s => match look context s.1 with
        | (.error e, run) => (.error e, run, s.2)
        | (.ok found, run) =>
          let (answer, run) := judge found context run
          (answer, run, found))
      (run, initial)
  (.ok (result.map fun _ => (), kept), run)

/-- Waits as the settings say until a predicate says yes. -/
def waitAsSet (waitedFor : String) (predicate : Action W Bool) : Action W Unit := do
  wait (← read).page.waitOptions waitedFor predicate

end Action

end PageObjects
