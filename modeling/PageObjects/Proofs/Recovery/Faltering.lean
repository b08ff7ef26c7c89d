/-
  PageObjects.Proofs.Recovery.Faltering

  Recovery on a browser that falters: any call to an element may find its reference
  stale, and finds it good once the element has been found again. Every call through a
  placed handle reaches its node then, and it does so once.

    * `Driver.Falters`: such a driver, seen through the browser that it shows.
    * `Run.Moves`: what steps keep of a run, and what they change of the browser.
    * `Handle.request_reaches`: the call that is made last reaches the node; what is made
      before are calls that found a reference stale, and queries.
    * `Handle.perform_query`, `Handle.perform_act`: what such a call gives and does.
-/

import PageObjects.Proofs.Recovery.Attempts
import PageObjects.Proofs.Recovery.Abiding
import PageObjects.Proofs.Recovery.Finding

namespace PageObjects

open PageObjects.Action

variable {W : Type}

-- ============================================================================
-- Drivers
-- ============================================================================

/-- The calls that look for elements inside of one. -/
def ElementCall.isFind : ElementCall → Bool
  | .find _ | .findAll _ => true
  | _ => false

/-- The calls that look for elements. -/
def Call.isFind : Call → Bool
  | .session (.find _) | .session (.findAll _) => true
  | .element _ call => call.isFind
  | _ => false

namespace Driver

/-- States of a driver with nothing but calls between them that look for elements. -/
inductive Seeks (driver : Driver W) (start : W) : W → Prop
  | refl : Seeks driver start start
  | step {w : W} {call : Call} : Seeks driver start w → call.isFind = true →
      Seeks driver start (driver.answer call w).2

theorem Seeks.trans {driver : Driver W} {start between w : W} (h : driver.Seeks start between)
    (h' : driver.Seeks between w) : driver.Seeks start w := by
  induction h' with
  | refl => exact h
  | step _ h_find ih => exact .step ih h_find

/-- What every call keeps, calls that look for elements keep. -/
theorem Seeks.kept {driver : Driver W} {keep : W → Prop} {start w : W} (h : driver.Seeks start w)
    (h_keeps : ∀ call w, keep w → keep (driver.answer call w).2) (h_keep : keep start) :
    keep w := by
  induction h with
  | refl => exact h_keep
  | step _ _ ih => exact h_keeps _ _ ih

/-- A call through a reference is answered by the node of the reference. -/
def Reaches (driver : Driver W) (view : W → Browser) (reference : Reference) (call : ElementCall)
    (w : W) : Prop :=
  (driver.answer (.element reference call) w).map id view
    = (view w).nodeAnswer reference.node ((view w).node reference.node) call

/-- A call finds its reference stale and changes nothing. If it is made again through a reference
    to the same node that was found since, by the last of nothing but queries, it reaches the
    node. -/
structure Stumbles (driver : Driver W) (view : W → Browser) (reference : Reference)
    (call : ElementCall) (w : W) : Prop where
  answer_eq : (driver.answer (.element reference call) w).map id view = (.error .stale, view w)
  again : ∀ (w' : W) (query : Call) (memory : Memory) (found : Reference),
    driver.Seeks (driver.answer (.element reference call) w).2 w' → query.isFind = true →
    found ∈ (Exchange.mk query (driver.answer query w').1 memory).found →
    found.node = reference.node → driver.Reaches view found call (driver.answer query w').2

/-- While `keep` holds, the driver answers as the browser that it shows, except that a call to an
    element may be stale once. -/
structure Falters (driver : Driver W) (view : W → Browser) (keep : W → Prop) : Prop where
  quiet : ∀ w, keep w → (view w).Quiet
  keeps : ∀ call w, keep w → keep (driver.answer call w).2
  session : ∀ call w, keep w →
    (driver.answer (.session call) w).map id view = (view w).sessionAnswer call
  element : ∀ reference call w, keep w → call ≠ .isStale →
    driver.Reaches view reference call w ∨ driver.Stumbles view reference call w

end Driver

/-- What a query has found does not depend on what the page remembers. -/
theorem Exchange.found_eq (call : Call) (answer : Except Fault call.Answer)
    (memory memory' : Memory) :
    (Exchange.mk call answer memory).found = (Exchange.mk call answer memory').found := by
  cases call with
  | provider call => rfl
  | session call => cases call <;> cases answer <;> rfl
  | element reference call => cases call <;> cases answer <;> rfl

-- ============================================================================
-- Runs
-- ============================================================================

namespace Browser

variable {stage browser : Browser}

/-- The browser was looked at: searches of the document were counted. -/
def Looked (stage browser : Browser) : Prop :=
  ∃ queries, browser = { stage with queries }

/-- The browser was looked at, and then a node has answered a call. -/
def Acted (node : String) (call : ElementCall) (stage browser : Browser) : Prop :=
  ∃ seen : Browser, stage.Looked seen ∧ browser = (seen.nodeAnswer node (seen.node node) call).2

theorem Looked.refl (stage : Browser) : stage.Looked stage :=
  ⟨stage.queries, rfl⟩

theorem Looked.trans {other : Browser} (h : stage.Looked browser) (h' : browser.Looked other) :
    stage.Looked other := by
  obtain ⟨_, rfl⟩ := h
  obtain ⟨queries, rfl⟩ := h'
  exact ⟨queries, rfl⟩

theorem Looked.node_eq (h : stage.Looked browser) (name : String) :
    browser.node name = stage.node name := by
  obtain ⟨queries, rfl⟩ := h
  rfl

theorem Looked.sameFrame (h : stage.Looked browser) : stage.SameFrame browser := by
  obtain ⟨queries, rfl⟩ := h
  exact ⟨rfl, fun _ => rfl⟩

theorem Acted.sameFrame {node : String} {call : ElementCall} (h_quiet : stage.Quiet)
    (h : Acted node call stage browser) : stage.SameFrame browser := by
  obtain ⟨seen, h_looked, rfl⟩ := h
  exact h_looked.sameFrame.trans (.nodeAnswer (h_looked.sameFrame.quiet h_quiet) node call)

/-- A query is answered as before by a browser that was looked at, and changes nothing. -/
theorem Looked.nodeAnswer_eq (h : stage.Looked browser) (name : String) {call : ElementCall}
    (h_query : call.isQuery = true) :
    browser.nodeAnswer name (browser.node name) call
      = ((stage.nodeAnswer name (stage.node name) call).1, browser) := by
  obtain ⟨queries, rfl⟩ := h
  cases call with
  | click | sendKeys | clear | isStale => cases h_query
  | _ => rfl

/-- A node never finds itself stale. -/
theorem nodeAnswer_ne_stale (name : String) (node : Node) (browser : Browser)
    (call : ElementCall) : (browser.nodeAnswer name node call).1 ≠ .error .stale := by
  intro h_stale
  cases call with
  | find locator =>
    simp only [nodeAnswer, first] at h_stale
    split at h_stale <;> cases h_stale
  | _ => cases h_stale

end Browser

namespace Run

/-- The run with the browser that its driver shows. -/
def through (view : W → Browser) (run : Run W) : Run Browser where
  world := view run.world
  transcript := run.transcript
  memory := run.memory
  references := run.references
  nextId := run.nextId
  pageDropped := run.pageDropped

/-- A handle is in its place and names a node. -/
def Names (view : W → Browser) (run : Run W) (handle : Handle) (node : String) : Prop :=
  PageObjects.Names (view run.world) (run.through view) handle node

/-- The page is there and the driver is as it should be. -/
structure Ready (keep : W → Prop) (run : Run W) : Prop where
  kept : keep run.world
  present : run.pageDropped = false

/-- What steps keep of a run, with what they change of the browser. -/
structure Moves (view : W → Browser) (keep : W → Prop) (change : Browser → Browser → Prop)
    (start run : Run W) : Prop where
  ready : run.Ready keep
  world : change (view start.world) (view run.world)
  nextId_le : start.nextId ≤ run.nextId
  nodeAt_eq : ∀ id < start.nextId, run.nodeAt id = start.nodeAt id

/-- A query has found some references, and before it there were only queries. -/
structure Discovers (driver : Driver W) (view : W → Browser) (keep : W → Prop) (start run : Run W)
    (references : List Reference) : Prop where
  moves : start.Moves view keep Browser.Looked run
  last : ∃ (between : W) (query : Call) (memory : Memory), driver.Seeks start.world between
    ∧ query.isFind = true ∧ run.world = (driver.answer query between).2
    ∧ ∀ reference ∈ references,
      reference ∈ (Exchange.mk query (driver.answer query between).1 memory).found

variable {view : W → Browser} {keep : W → Prop} {driver : Driver W}
  {change change' change'' : Browser → Browser → Prop} {start between run : Run W}

namespace Moves

theorem refl (h : run.Ready keep) : run.Moves view keep Browser.Looked run :=
  ⟨h, .refl _, Nat.le_refl _, fun _ _ => rfl⟩

theorem trans (h : start.Moves view keep change between)
    (h' : between.Moves view keep change' run)
    (h_change : ∀ {b b' b''}, change b b' → change' b' b'' → change'' b b'') :
    start.Moves view keep change'' run := by
  refine ⟨h'.ready, h_change h.world h'.world, Nat.le_trans h.nextId_le h'.nextId_le, ?_⟩
  intro id h_lt
  rw [h'.nodeAt_eq id (Nat.lt_of_lt_of_le h_lt h.nextId_le), h.nodeAt_eq id h_lt]

theorem looked (h : start.Moves view keep Browser.Looked between)
    (h' : between.Moves view keep Browser.Looked run) : start.Moves view keep Browser.Looked run :=
  h.trans h' Browser.Looked.trans

theorem weaken (h : start.Moves view keep change run)
    (h_change : change (view start.world) (view run.world) →
      change' (view start.world) (view run.world)) : start.Moves view keep change' run :=
  ⟨h.ready, h_change h.world, h.nextId_le, h.nodeAt_eq⟩

/-- Handles stay in their places. -/
theorem placed (h : start.Moves view keep change run)
    (h_frame : (view start.world).SameFrame (view run.world)) {own : Link} {ancestors : List Link}
    (h_placed : Placed (view start.world) (start.through view) own ancestors) :
    Placed (view run.world) (run.through view) own ancestors :=
  (h_placed.of_sameFrame h_frame).of_nodeAt_eq h.nextId_le h.nodeAt_eq

theorem names (h : start.Moves view keep change run)
    (h_frame : (view start.world).SameFrame (view run.world)) {handle : Handle} {node : String}
    (h_names : start.Names view handle node) : run.Names view handle node := by
  obtain ⟨h_placed, rfl⟩ := h_names
  exact ⟨h.placed h_frame h_placed, h.nodeAt_eq _ h_placed.id_lt⟩

/-- A call changes the browser and nothing else of the run. -/
theorem exchange (h_falters : driver.Falters view keep) (h : run.Ready keep) {call : Call}
    (h_change : change (view run.world) (view (driver.answer call run.world).2)) :
    run.Moves view keep change (run.exchange driver call).2 :=
  ⟨⟨h_falters.keeps call run.world h.kept, h.present⟩, h_change, Nat.le_refl _, fun _ _ => rfl⟩

/-- The page may remember and forget. -/
theorem of_memory (h : run.Ready keep) (memory : Memory) :
    run.Moves view keep Browser.Looked { run with memory } :=
  ⟨⟨h.kept, h.present⟩, .refl _, Nat.le_refl _, fun _ _ => rfl⟩

/-- A handle may get another reference to the node that its reference names. -/
theorem of_reference (h : run.Ready keep) (id : Nat) {reference : Reference}
    (h_node : id < run.nextId → reference.node = run.nodeAt id) :
    run.Moves view keep Browser.Looked
      { run with references := run.references.put id reference } := by
  refine ⟨⟨h.kept, h.present⟩, .refl _, Nat.le_refl _, fun other h_lt => ?_⟩
  by_cases h_id : id = other
  · subst h_id
    rw [nodeAt, referenceAt, Keyed.find?_put_self]
    exact h_node h_lt
  · rw [nodeAt, referenceAt, Keyed.find?_put_of_ne h_id]
    rfl

end Moves

end Run

-- ============================================================================
-- Calls through a handle
-- ============================================================================

section requests

variable {context : Context W} {view : W → Browser} {keep : W → Prop} {run : Run W} {own : Link}
  {ancestors : List Link}

namespace Link

/-- The query of a handle, made again, finds the node that the handle stands for. -/
theorem refind_finds {names : List String} {node : String} {first : Action W Reference}
    {all : Action W (List Reference)}
    (h_first : ∀ name, names.head? = some name → ∃ reference found,
      first context run = (.ok reference, found) ∧ reference.node = name
        ∧ run.Discovers context.driver view keep found [reference])
    (h_all : ∃ references found, all context run = (.ok references, found)
      ∧ references.map Reference.node = names
      ∧ run.Discovers context.driver view keep found references)
    (h_match : matchAt own.position names = some node) :
    ∃ reference found, own.refind first all context run = (.ok reference, found)
      ∧ reference.node = node ∧ run.Discovers context.driver view keep found [reference] := by
  rw [refind]
  cases h_position : own.position with
  | none =>
    rw [h_position] at h_match
    exact h_first node h_match
  | some position =>
    rw [h_position] at h_match
    obtain ⟨references, found, h_run, rfl, h_moves, between, query, memory, h_last⟩ := h_all
    obtain ⟨reference, h_reference, rfl⟩ : ∃ reference, references[position]? = some reference
        ∧ reference.node = node := by
      have h_map : (references.map Reference.node)[position]? = some node := h_match
      rw [List.getElem?_map] at h_map
      exact Option.map_eq_some_iff.mp h_map
    refine ⟨reference, found, ?_, rfl, h_moves, between, query, memory, h_last.1, h_last.2.1,
      h_last.2.2.1, ?_⟩
    · refine (run_bind_ok h_run).trans ?_
      rw [pick, h_reference]
      rfl
    · intro other h_mem
      obtain rfl := List.mem_singleton.mp h_mem
      exact h_last.2.2.2 _ (List.mem_of_getElem? h_reference)

end Link

namespace Run.Discovers

variable {start between : Run W} {driver : Driver W} {references : List Reference}

/-- A query that comes after calls that look for elements. -/
theorem exchange (h_falters : driver.Falters view keep)
    (h_moves : start.Moves view keep Browser.Looked between)
    (h_seeks : driver.Seeks start.world between.world) {query : Call}
    (h_find : query.isFind = true)
    (h_looked : (view between.world).Looked (view (driver.answer query between.world).2))
    (h_found : ∀ reference ∈ references,
      reference ∈ (Exchange.mk query (driver.answer query between.world).1 between.memory).found) :
    start.Discovers driver view keep (between.exchange driver query).2 references :=
  ⟨h_moves.looked (.exchange h_falters h_moves.ready h_looked), between.world, query,
    between.memory, h_seeks, h_find, rfl, h_found⟩

end Run.Discovers

namespace Browser

/-- A first match is a reference to the node with the first of the names. -/
theorem first_references (browser : Browser) (locator : Locator) {names : List String}
    {name : String} (h_head : names.head? = some name) :
    first locator (browser.references names) = .ok ⟨name, browser.rendering⟩ := by
  obtain ⟨rest, rfl⟩ := List.head?_eq_some_iff.mp h_head
  rfl

end Browser

namespace Handle

/-- The query of a handle in the document finds the node that the handle stands for. -/
theorem refind_document (h_falters : context.driver.Falters view keep) (h : run.Ready keep)
    {node : String} (h_match : matchAt own.position ((view run.world).namesIn own.locator)
      = some node) :
    ∃ reference found,
      own.refind (Action.sessionCall (.find own.locator) own.context reloading)
          (Action.sessionCall (.findAll own.locator) own.context reloading) context run
        = (.ok reference, found)
      ∧ reference.node = node ∧ run.Discovers context.driver view keep found [reference] := by
  refine Link.refind_finds (fun name h_head => ?_) ?_ h_match
  · have h_answer := h_falters.session (.find own.locator) run.world h.kept
    obtain ⟨h_found, h_world⟩ := Prod.mk.inj h_answer
    have h_first : (context.driver.answer (.session (.find own.locator)) run.world).1
        = .ok ⟨name, (view run.world).rendering⟩ :=
      h_found.trans (Browser.first_references _ _ h_head)
    refine ⟨⟨name, (view run.world).rendering⟩, _, ?_, rfl,
      .exchange h_falters (.refl h) .refl rfl ⟨_, h_world⟩ ?_⟩
    · rw [run_sessionCall]
      show ((context.driver.answer (.session (.find own.locator)) run.world).1.mapError _, _) = _
      rw [h_first]
      rfl
    · rw [h_first]
      exact fun _ h_mem => h_mem
  · have h_answer := h_falters.session (.findAll own.locator) run.world h.kept
    obtain ⟨h_found, h_world⟩ := Prod.mk.inj h_answer
    have h_all : (context.driver.answer (.session (.findAll own.locator)) run.world).1
        = .ok ((view run.world).references ((view run.world).namesIn own.locator)) := h_found
    refine ⟨(view run.world).references ((view run.world).namesIn own.locator), _, ?_,
      Browser.map_node_references _ _, .exchange h_falters (.refl h) .refl rfl ⟨_, h_world⟩ ?_⟩
    · rw [run_sessionCall]
      show ((context.driver.answer (.session (.findAll own.locator)) run.world).1.mapError _, _) = _
      rw [h_all]
      rfl
    · rw [h_all]
      exact fun _ h_mem => h_mem

/-- A handle that memoizes itself changes nothing but what the page remembers. -/
theorem exists_memoize_eq (context : Context W) (handle : Handle) (run : Run W) :
    ∃ memory, memoize handle context run = (.ok (), { run with memory }) := by
  rw [memoize]
  cases handle.own.slot with
  | none => exact ⟨run.memory, rfl⟩
  | some slot =>
    cases h_memoizes : handle.own.memoizes with
    | false => exact ⟨run.memory, rfl⟩
    | true => exact ⟨_, rfl⟩

/-- What a call through a handle comes to: it reaches the node of the handle, after calls that
    change nothing; if it is a query, all of them look for elements. -/
structure ReachesNode (context : Context W) (view : W → Browser) (keep : W → Prop) (run : Run W)
    (own : Link) (operation : String) (call : ElementCall) (between : Run W)
    (reference : Reference) (ended : Except PageError call.Answer × Run W) : Prop where
  moves : run.Moves view keep Browser.Looked between
  seeks : call.isFind = true → context.driver.Seeks run.world between.world
  node_eq : reference.node = run.nodeAt own.id
  reaches : context.driver.Reaches view reference call between.world
  ended_eq : ended
    = ((between.exchange context.driver (.element reference call)).1.mapError
        fun fault => .ofFault fault own.context operation,
      (between.exchange context.driver (.element reference call)).2)

variable {operation : String} {call : ElementCall}

/-- A reload gives the handle the reference that was found. -/
theorem exists_reload_eq (own : Link) (ancestors : List Link) {refind : Action W Reference}
    {found : Run W} {reference : Reference}
    (h_present : run.pageDropped = false) (h_refind : refind context run = (.ok reference, found)) :
    ∃ memory, reload ⟨own, ancestors⟩ refind context run = (.ok (), { found with
      references := found.references.put own.id reference, memory }) := by
  obtain ⟨memory, h_memoize⟩ := exists_memoize_eq context ⟨own, ancestors⟩
    { found with references := found.references.put own.id reference }
  refine ⟨memory, ?_⟩
  rw [reload, run_bind_ok (Link.run_requirePage own h_present), run_bind_ok h_refind]
  exact h_memoize

/-- Given that its query finds the node again, a call through a handle reaches the node. -/
theorem recovering_reaches (h_falters : context.driver.Falters view keep) (h : run.Ready keep)
    (h_lt : own.id < run.nextId) (h_call : call ≠ .isStale) {refind : Action W Reference}
    (h_refind : ∀ asked, run.Moves view keep Browser.Looked asked →
      ∃ reference found, refind context asked = (.ok reference, found)
        ∧ reference.node = run.nodeAt own.id
        ∧ asked.Discovers context.driver view keep found [reference]) :
    ∃ between reference, ReachesNode context view keep run own operation call between reference
      (recovering ⟨own, ancestors⟩ refind operation call context run) := by
  rcases h_falters.element (run.referenceAt own.id) call run.world h.kept h_call with
    h_reaches | h_stumbles
  · -- the reference is good
    have h_answer : (run.exchange context.driver (.element (run.referenceAt own.id) call)).1
        ≠ .error .stale := by
      have h_node := congrArg Prod.fst h_reaches
      exact fun h_stale => Browser.nodeAnswer_ne_stale _ _ _ _ (h_node.symm.trans h_stale)
    exact ⟨run, run.referenceAt own.id, .refl h, fun _ => .refl, rfl, h_reaches,
      run_recovering_of_ne_stale rfl h_answer⟩
  · -- the reference is stale, and the element is found again
    obtain ⟨h_stale, h_world⟩ := Prod.mk.inj h_stumbles.answer_eq
    have h_asked : run.Moves view keep Browser.Looked
        (run.exchange context.driver (.element (run.referenceAt own.id) call)).2 :=
      .exchange h_falters h ⟨(view run.world).queries, h_world⟩
    obtain ⟨reference, found, h_found, h_node, h_moves, between, query, memory, h_seeks, h_find,
      h_last, h_mem⟩ := h_refind _ h_asked
    obtain ⟨remembered, h_reload⟩ :=
      exists_reload_eq own ancestors h_asked.ready.present h_found
    have h_set := (h_asked.looked h_moves).looked (.of_reference h_moves.ready own.id fun _ =>
      h_node.trans ((h_asked.looked h_moves).nodeAt_eq own.id h_lt).symm)
    have h_reached := h_stumbles.again between query memory reference h_seeks h_find
      (h_mem reference List.mem_cons_self) h_node
    rw [← h_last] at h_reached
    refine ⟨_, reference, h_set.looked (.of_memory h_set.ready remembered), fun h_query => ?_,
      h_node, h_reached, ?_⟩
    · have h_first : context.driver.Seeks run.world
          (context.driver.answer (.element (run.referenceAt own.id) call) run.world).2 :=
        .step .refl h_query
      rw [h_last]
      exact .step (h_first.trans h_seeks) h_find
    · have h_ask : run.exchange context.driver (.element (run.referenceAt own.id) call)
          = (.error .stale, _) := Prod.ext h_stale rfl
      rw [run_recovering_of_stale h_ask h_reload, Run.referenceAt, Keyed.find?_put_self]
      rfl

namespace ReachesNode

variable {between : Run W} {reference : Reference} {locator : Locator}

/-- A query is answered by the node as it was before the first call, and changes nothing. -/
theorem answer_eq {ended : Except PageError call.Answer × Run W}
    (h : ReachesNode context view keep run own operation call between reference ended)
    (h_query : call.isQuery = true) :
    (context.driver.answer (.element reference call) between.world).map id view
      = (((view run.world).nodeAnswer (run.nodeAt own.id)
          ((view run.world).node (run.nodeAt own.id)) call).1, view between.world) := by
  rw [h.reaches, h.node_eq]
  exact h.moves.world.nodeAnswer_eq _ h_query

/-- A query for the first child finds it. -/
theorem finds_first {ended : Except PageError Reference × Run W}
    (h_falters : context.driver.Falters view keep)
    (h : ReachesNode context view keep run own operation (.find locator) between reference ended)
    {child : String}
    (h_child : (((view run.world).node (run.nodeAt own.id)).namesIn locator).head? = some child) :
    ∃ reference found, ended = (.ok reference, found) ∧ reference.node = child
      ∧ run.Discovers context.driver view keep found [reference] := by
  obtain ⟨h_answer, h_world⟩ := Prod.mk.inj (h.answer_eq rfl)
  have h_first : (context.driver.answer (.element reference (.find locator)) between.world).1
      = .ok ⟨child, (view run.world).rendering⟩ :=
    h_answer.trans (Browser.first_references _ _ h_child)
  refine ⟨⟨child, (view run.world).rendering⟩, _, ?_, rfl,
    .exchange h_falters h.moves (h.seeks rfl) rfl ⟨_, h_world⟩ ?_⟩
  · rw [h.ended_eq]
    show ((context.driver.answer (.element reference (.find locator)) between.world).1.mapError _,
      _) = _
    rw [h_first]
    rfl
  · rw [h_first]
    exact fun _ h_mem => h_mem

/-- A query for all children finds them. -/
theorem finds_all {ended : Except PageError (List Reference) × Run W}
    (h_falters : context.driver.Falters view keep)
    (h : ReachesNode context view keep run own operation (.findAll locator) between reference
      ended) :
    ∃ references found, ended = (.ok references, found)
      ∧ references.map Reference.node = ((view run.world).node (run.nodeAt own.id)).namesIn locator
      ∧ run.Discovers context.driver view keep found references := by
  obtain ⟨h_answer, h_world⟩ := Prod.mk.inj (h.answer_eq rfl)
  have h_all : (context.driver.answer (.element reference (.findAll locator)) between.world).1
      = .ok ((view run.world).references
          (((view run.world).node (run.nodeAt own.id)).namesIn locator)) := h_answer
  refine ⟨(view run.world).references
      (((view run.world).node (run.nodeAt own.id)).namesIn locator), _, ?_,
    Browser.map_node_references _ _,
    .exchange h_falters h.moves (h.seeks rfl) rfl ⟨_, h_world⟩ ?_⟩
  · rw [h.ended_eq]
    show ((context.driver.answer (.element reference (.findAll locator))
      between.world).1.mapError _, _) = _
    rw [h_all]
    rfl
  · rw [h_all]
    exact fun _ h_mem => h_mem

end ReachesNode

/-- A call through a placed handle reaches the node of the handle. -/
theorem request_reaches (h_falters : context.driver.Falters view keep) (h : run.Ready keep)
    (h_placed : Placed (view run.world) (run.through view) own ancestors)
    (h_call : call ≠ .isStale) :
    ∃ between reference, ReachesNode context view keep run own operation call between reference
      (request own ancestors operation call context run) := by
  have h_denoted := h_placed.denoted
  induction ancestors generalizing run own operation call with
  | nil =>
    rw [request]
    refine recovering_reaches h_falters h h_placed.id_lt h_call fun asked h_asked => ?_
    refine refind_document h_falters h_asked.ready ?_
    have h_names := h_asked.world.sameFrame.namesIn_eq own.locator
    rw [h_names]
    exact h_denoted
  | cons parent rest ih =>
    have h_parent : Placed (view run.world) (run.through view) parent rest := h_placed.2.2
    rw [request]
    refine recovering_reaches h_falters h h_placed.id_lt h_call fun asked h_asked => ?_
    have h_outer := h_asked.placed h_asked.world.sameFrame h_parent
    have h_match : matchAt own.position
        (((view asked.world).node (asked.nodeAt parent.id)).namesIn own.locator)
          = some (run.nodeAt own.id) := by
      rw [h_asked.nodeAt_eq _ h_parent.id_lt, h_asked.world.node_eq]
      rw [Browser.denoted?, h_parent.denoted] at h_denoted
      exact h_denoted
    refine Link.refind_finds (fun child h_child => ?_) ?_ h_match
    · have h_request : ∃ between reference, ReachesNode context view keep asked parent reloading
          (.find own.locator) between reference _ :=
        ih h_asked.ready h_outer (fun h_stale => by cases h_stale) h_outer.denoted
      obtain ⟨between, reference, h_reaches⟩ := h_request
      exact h_reaches.finds_first h_falters h_child
    · have h_request : ∃ between reference, ReachesNode context view keep asked parent reloading
          (.findAll own.locator) between reference _ :=
        ih h_asked.ready h_outer (fun h_stale => by cases h_stale) h_outer.denoted
      obtain ⟨between, reference, h_reaches⟩ := h_request
      exact h_reaches.finds_all h_falters

variable {handle : Handle} {node : String}

/-- A query through a handle has the answer of its node. -/
theorem perform_query (h_falters : context.driver.Falters view keep) (h : run.Ready keep)
    (h_names : run.Names view handle node) (h_query : call.isQuery = true) {answer : call.Answer}
    (h_answer : ((view run.world).nodeAnswer node ((view run.world).node node) call).1
      = .ok answer) :
    ∃ run', handle.perform call context run = (.ok answer, run')
      ∧ run.Moves view keep Browser.Looked run' := by
  obtain ⟨h_placed, h_node⟩ := h_names
  have h_call : call ≠ .isStale := by
    rintro rfl
    cases h_query
  have h_request : ∃ between reference, ReachesNode context view keep run handle.own call.operation
      call between reference (handle.perform call context run) :=
    request_reaches h_falters h h_placed h_call
  obtain ⟨between, reference, h_reaches⟩ := h_request
  obtain ⟨h_reached, h_world⟩ := Prod.mk.inj (h_reaches.answer_eq h_query)
  have h_same : run.nodeAt handle.own.id = node := h_node
  rw [h_same, h_answer] at h_reached
  have h_ok : (between.exchange context.driver (.element reference call)).1 = .ok answer :=
    h_reached
  refine ⟨(between.exchange context.driver (.element reference call)).2, ?_, ?_⟩
  · rw [h_reaches.ended_eq, h_ok]
    rfl
  · exact h_reaches.moves.looked
      (.exchange h_falters h_reaches.moves.ready ⟨(view between.world).queries, h_world⟩)

/-- A call through a handle that every node answers alike acts on its node once. -/
theorem perform_act (h_falters : context.driver.Falters view keep) (h : run.Ready keep)
    (h_names : run.Names view handle node) (call : ElementCall) (h_call : call ≠ .isStale)
    {answer : call.Answer}
    (h_always : ∀ name shown (browser : Browser),
      (browser.nodeAnswer name shown call).1 = .ok answer) :
    ∃ run', handle.perform call context run = (.ok answer, run')
      ∧ run.Moves view keep (Browser.Acted node call) run' := by
  obtain ⟨h_placed, h_node⟩ := h_names
  have h_request : ∃ between reference, ReachesNode context view keep run handle.own call.operation
      call between reference (handle.perform call context run) :=
    request_reaches h_falters h h_placed h_call
  obtain ⟨between, reference, h_reaches⟩ := h_request
  have h_same : reference.node = node := h_reaches.node_eq.trans h_node
  obtain ⟨h_reached, h_world⟩ := Prod.ext_iff.mp h_reaches.reaches
  have h_ok : (between.exchange context.driver (.element reference call)).1 = .ok answer :=
    h_reached.trans (h_always _ _ _)
  refine ⟨(between.exchange context.driver (.element reference call)).2, ?_, ?_⟩
  · rw [h_reaches.ended_eq, h_ok]
    rfl
  · rw [h_same] at h_world
    have h_after : between.Moves view keep
        (fun seen browser => browser = (seen.nodeAnswer node (seen.node node) call).2)
        (between.exchange context.driver (.element reference call)).2 :=
      .exchange h_falters h_reaches.moves.ready h_world
    exact h_reaches.moves.trans h_after fun h_looked h_acted => ⟨_, h_looked, h_acted⟩

end Handle

end requests

end PageObjects
