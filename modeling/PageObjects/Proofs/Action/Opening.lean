/-
  PageObjects.Proofs.Action.Opening

  What the steps of opening a page keep. The waits behind a navigation make four
  kinds of steps: they run the script that tells whether the page is ready, look for
  an element, ask whether it is displayed, and pause. An invariant that each of
  these keeps (`Undisturbed`) is kept by the waits, whatever they end in.

    * `waitReady_keeps`, `waitLoaders_keeps`: the waits.
    * `checkOpened_keeps`: looking at the address that the browser shows.
-/

import PageObjects.Page.Navigation
import PageObjects.Proofs.Action.Triple

namespace PageObjects
namespace Page

open PageObjects.Action

variable {W : Type} {context : Context W} {inv : Run W → Prop}

/-- Each step of the waits for a page keeps the invariant. -/
structure Undisturbed (context : Context W) (inv : Run W → Prop) : Prop where
  script : ∀ run, inv run →
    inv (run.exchange context.driver (.session (.executeScript readyScript []))).2
  find : ∀ locator run, inv run → inv (run.exchange context.driver (.session (.find locator))).2
  isDisplayed : ∀ reference run, inv run →
    inv (run.exchange context.driver (.element reference .isDisplayed)).2
  pause : ∀ ms (run : Run W), inv run → inv ((Run.clock context.driver).pause ms run)

theorem waitReady_keeps (h : Undisturbed context inv) : Keeps context inv waitReady := by
  refine .bind .read fun context => ?_
  split
  · refine .tryCatch (.waitAsSet ?_ h.pause) fun e => .throw (notReady e)
    exact .bind (.pageCall "execute_script" h.script) fun _ => .pure _
  · exact .pure ()

theorem isInvisible_keeps (h : Undisturbed context inv) (locator : Locator) :
    Keeps context inv (isInvisible locator) := by
  refine .bind (.ask (h.find locator)) fun found => ?_
  split
  · exact .pure true
  · exact .pure true
  · exact .bind .read fun _ => .throw _
  · refine .bind (.ask (h.isDisplayed _)) fun displayed => ?_
    split
    · exact .pure true
    · exact .pure true
    · exact .bind .read fun _ => .throw _
    · exact .pure _

theorem waitInvisible_keeps (h : Undisturbed context inv) (className : String) :
    Keeps context inv (waitInvisible className) := by
  rw [waitInvisible]
  split
  · exact .pure ()
  · exact .waitAsSet (isInvisible_keeps h (.className className)) h.pause

theorem waitLoaders_keeps (h : Undisturbed context inv) : Keeps context inv waitLoaders :=
  .bind (.bind .read fun _ => waitInvisible_keeps h _) fun _ =>
    .bind .read fun _ => waitInvisible_keeps h _

/-! ## The address of the browser -/

theorem openedUrl_keeps
    (h : ∀ run, inv run → inv (run.exchange context.driver (.session .currentUrl)).2) :
    Keeps context inv openedUrl :=
  .pageCall "current_url" h

theorem checkOpened_keeps
    (h : ∀ run, inv run → inv (run.exchange context.driver (.session .currentUrl)).2) :
    Keeps context inv checkOpened := by
  refine .bind (openedUrl_keeps h) fun opened => .bind .read fun context => ?_
  dsimp only
  split
  · exact .pure ()
  · exact .throw _

end Page
end PageObjects
