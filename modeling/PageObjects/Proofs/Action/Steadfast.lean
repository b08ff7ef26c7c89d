/-
  PageObjects.Proofs.Action.Steadfast

  Invariants that do not care which handles a test has. A `Steadfast` invariant is kept by
  calls of any kind through handles of any origin, a `Cacheless` one whatever handles and
  tables are remembered, and a `Memoryless` one whatever is remembered. Then nothing that a
  test does breaks it.

    * `Cacheless.operation`: anything that a test does but to ask for members of groups.
    * `Memoryless.operation`: anything that a test does.
-/

import PageObjects.Proofs.Action.Lasting

namespace PageObjects

open PageObjects.Action

variable {W α : Type} {context : Context W} {inv : Run W → Prop}

/-- The invariant allows that any call is made to an element, and that any handle is found again. -/
structure Steadfast (context : Context W) (inv : Run W → Prop) : Prop
    extends Steady context inv, Lasting context inv where
  act : ∀ reference call run, inv run →
    inv (run.exchange context.driver (.element reference call)).2
  free : ∀ link : Link, link.Free inv

namespace Steadfast

theorem handleFree (h : Steadfast context inv) (handle : Handle) : handle.Free inv :=
  fun link _ => h.free link

theorem perform (h : Steadfast context inv) (handle : Handle) (call : ElementCall) :
    Keeps context inv (handle.perform call) :=
  h.toSteady.perform (h.handleFree handle) fun reference => .ask (h.act reference call)

/-- Every handle is good. -/
theorem workable (h : Steadfast context inv) : Workable context inv fun _ => True where
  toLasting := h.toLasting
  perform handle _ call := h.perform handle call
  find handle _ locator :=
    (h.toSteady.find (h.handleFree handle) locator).weaken fun _ _ => trivial
  findAll handle _ locator :=
    (Yields.of_keeps (h.toSteady.findAll (h.handleFree handle) locator)).weaken
      fun _ _ _ _ => trivial

end Steadfast

/-- The group slot and the indices of the member that an operation asks for, and whose binding it
    has the page remember. -/
def PageOperation.asks? : PageOperation → Option (String × List String)
  | groupBinding slot indices | groupMember slot indices => some (slot, indices)
  | _ => none

/-- What a whole operation asks for. -/
def Operation.asks? : Operation → Option (String × List String)
  | onPage operation => operation.asks?
  | _ => none

/-- The invariant says nothing of the handles and tables that are remembered at present. -/
structure Cacheless (context : Context W) (inv : Run W → Prop) : Prop
    extends Steadfast context inv where
  write : ∀ (cache : Keyed String Cached) (run : Run W), inv run →
    inv { run with memory := { run.memory with cache } }

namespace Cacheless

theorem keyFree (h : Cacheless context inv) (key : String) : KeyFree inv key :=
  fun _ run h_run => h.write _ run h_run

theorem resolve (h : Cacheless context inv) (slot : String) :
    Keeps context inv (Page.resolve slot) :=
  .bind (Steady.declared _ _ _) fun binding => h.resolveBinding binding (h.keyFree slot).slotFree

theorem reload (h : Cacheless context inv) (resolved : Resolved) :
    Keeps context inv (Page.reload resolved) := by
  refine .bind (.lift _) fun first => ?_
  dsimp only
  split
  · exact .bind (.modifyMemory fun run h_run => h.write _ run h_run) fun _ =>
      h.resolveBinding _ (h.keyFree _).slotFree
  · exact h.query _ _

theorem table (h : Cacheless context inv) (slot : String) :
    Keeps context inv (Page.table slot) :=
  h.rememberedTable (h.keyFree slot) <| .bind (Steady.declared _ _ _) fun _ =>
    .bind .read fun _ => h.load _ _ _

theorem nestedTable (h : Cacheless context inv) (slot : String) (index : Nat) :
    Keeps context inv (Page.nestedTable slot index) := by
  refine h.rememberedTable (h.keyFree _) <| .bind (Steady.declared _ _ _) fun nested =>
    .bind .read fun _ => ?_
  dsimp only
  split
  · exact .throw _
  · exact h.load _ _ _

/-- What a test does with the page, unless it asks for the member of a group. -/
theorem pageOperation (h : Cacheless context inv) {operation : PageOperation}
    (h_other : operation.asks? = none) : Keeps context inv operation.action := by
  cases operation with
  | groupBinding slot indices => cases h_other
  | groupMember slot indices => cases h_other
  | resolve slot => exact .map (h.resolve slot)
  | element slot => exact .map (.bind (h.resolve slot) fun _ => .lift _)
  | elementList slot => exact .map (.bind (h.resolve slot) fun _ => .pure _)
  | resolveBinding binding slot => exact .map (h.resolveBinding binding (h.keyFree slot).slotFree)
  | reload resolved => exact .map (h.reload resolved)
  | find locator => exact .map (.bind (h.query _ _) fun _ => .lift _)
  | findAll locator => exact .map (.bind (h.query _ _) fun _ => .pure _)
  | findNamed name => exact .map (.bind .read fun _ => .bind (h.query _ _) fun _ => .lift _)
  | groupRelative slot indices =>
    exact .map (.bind (Steady.declared _ _ _) fun group => .bind (.lift _) fun _ =>
      .bind .read fun _ => .bind (h.query _ _) fun _ => .lift _)
  | table slot => exact .map (h.table slot)
  | nestedTable slot index => exact .map (h.nestedTable slot index)
  | _ => exact (h.toLasting.pageOperation rfl).keeps

/-- Anything that a test does, unless it asks for the member of a group. -/
theorem operation (h : Cacheless context inv) {operation : Operation}
    (h_other : operation.asks? = none) : Keeps context inv operation.action := by
  cases operation with
  | onPage operation => exact h.pageOperation h_other
  | onHandle handle operation => exact (h.workable.handleOperation trivial operation).keeps
  | onTable table operation => exact (h.workable.tableOperation trivial operation).keeps
  | waitOneOf handles timeoutMs =>
    exact .map (h.workable.waitOneOf (fun _ _ => trivial) timeoutMs).keeps

end Cacheless

/-- The invariant says nothing of what is remembered at present. -/
structure Memoryless (context : Context W) (inv : Run W → Prop) : Prop
    extends Steadfast context inv where
  write : ∀ (memory : Memory) (run : Run W), inv run → inv { run with memory }

namespace Memoryless

theorem cacheless (h : Memoryless context inv) : Cacheless context inv where
  toSteadfast := h.toSteadfast
  write _ run h_run := h.write _ run h_run

theorem memberBinding (h : Memoryless context inv) (group : ElementGroup) (name : String) :
    Keeps context inv (Page.memberBinding group name) :=
  Steady.memberBinding group name fun _ run h_run => h.write _ run h_run

/-- What a test does with the page. -/
theorem pageOperation (h : Memoryless context inv) (operation : PageOperation) :
    Keeps context inv operation.action := by
  cases operation with
  | groupBinding slot indices =>
    exact .map (.bind (Steady.declared _ _ _) fun group => .bind (.lift _) fun _ =>
      h.memberBinding group _)
  | groupMember slot indices =>
    exact .map (.bind (Steady.declared _ _ _) fun group => .bind (.lift _) fun _ =>
      .bind (h.memberBinding group _) fun binding =>
        h.resolveBinding binding (h.cacheless.keyFree _).slotFree)
  | _ => exact h.cacheless.pageOperation rfl

/-- Anything that a test does. -/
theorem operation (h : Memoryless context inv) (operation : Operation) :
    Keeps context inv operation.action := by
  cases operation with
  | onPage operation => exact h.pageOperation operation
  | _ => exact h.cacheless.operation rfl

end Memoryless
end PageObjects
