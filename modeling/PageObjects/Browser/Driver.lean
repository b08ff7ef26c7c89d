/-
  PageObjects.Browser.Driver

  What a test needs of a browser: an answer to every call, which may be a fault
  and may change the world behind it, and a clock. Everything that pages do is
  stated for any driver; the browser in memory is one of them.
-/

import PageObjects.Browser.Call
import PageObjects.Wait

namespace PageObjects

/-- A browser whose state is a value of `W`. -/
structure Driver (W : Type) where
  /-- The answer to a call. -/
  answer : (call : Call) → W → Except Fault call.Answer × W
  clock : Clock W
  /-- Whether references are asked for their tag to find out that they are stale. -/
  probesStale : Bool := false

end PageObjects
