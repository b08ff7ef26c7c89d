/-
  PageObjects.Proofs.Recovery.Attempts

  How often a call with recovery asks the browser, whatever the browser answers. The
  call is made on levels: level 0 is the handle, the levels behind it are the elements
  around it, where queries are made again, and the last level is the document. A
  recovery is a list of attempts, each with its level.

    * `Recovery` says which calls the attempts are; with `Recovery.transcript_eq` they
      are all the calls that were made.
    * `Spares` bounds the attempts on each level, and says which faults end a recovery
      at once. `Spares.outer` and `Spares.again` carry it one level outwards.
    * `request_recovers` puts these together, by induction on the elements around.
    * `perform_attempts` is the statement for a call through a handle of any depth.
-/

import PageObjects.Proofs.Recovery.Request

namespace PageObjects

-- ============================================================================
-- Levels
-- ============================================================================

namespace Link

/-- The query of a handle, made inside the element around it. -/
def elementQuery (link : Link) : ElementCall :=
  match link.position with
  | none => .find link.locator
  | some _ => .findAll link.locator

/-- The query of a handle, made in the document. -/
def sessionQuery (link : Link) : SessionCall :=
  match link.position with
  | none => .find link.locator
  | some _ => .findAll link.locator

end Link

/-- A level of a recovery: a call to the element of a handle, or the query of a handle in the
    document. -/
inductive Level where
  | element (link : Link) (operation : String) (call : ElementCall)
  | document (link : Link)

namespace Level

/-- The handle that the errors of a level name. -/
def link : Level → Link
  | element link _ _ => link
  | document link => link

/-- The call of a level; an element is called through the present reference of its handle. -/
def callIn {W : Type} (run : Run W) : Level → Call
  | element link _ call => .element (run.referenceAt link.id) call
  | document link => .session link.sessionQuery

/-- The error of a level that meets a fault and does not recover. -/
def error : Level → Fault → PageError
  | element link operation _, fault => .ofFault fault link.context operation
  | document link, fault => .ofFault fault link.context Handle.reloading

/-- How often a level is asked at most: an element may be found again, the document is not. -/
def limit : Level → Nat
  | element _ _ _ => 2
  | document _ => 1

theorem limit_le (level : Level) : level.limit ≤ 2 := by
  cases level with
  | element link operation call => exact Nat.le_refl 2
  | document link => exact Nat.le_succ 1

theorem error_stale (level : Level) : level.error .stale = .staleElement level.link.context := by
  cases level with
  | element link operation call => rfl
  | document link => rfl

end Level

/-- The levels of a call through a handle, from the handle to the document. -/
def Handle.levels : (own : Link) → (ancestors : List Link) → (operation : String) →
    (call : ElementCall) → List Level
  | own, [], operation, call => [.element own operation call, .document own]
  | own, parent :: rest, operation, call =>
    .element own operation call :: levels parent rest reloading own.elementQuery

theorem Handle.levels_zero (own : Link) (ancestors : List Link) (operation : String)
    (call : ElementCall) :
    (levels own ancestors operation call)[0]? = some (.element own operation call) := by
  cases ancestors with
  | nil => rfl
  | cons parent rest => rfl

/-- Every element around is asked for a query. -/
theorem Handle.levels_succ (own : Link) (ancestors : List Link) (operation : String)
    (call : ElementCall) {i : Nat} {around : Link} (h : ancestors[i]? = some around) :
    ∃ inner : Link, (levels own ancestors operation call)[i + 1]?
      = some (.element around reloading inner.elementQuery) := by
  induction ancestors generalizing own operation call i with
  | nil => cases h
  | cons parent rest ih =>
    cases i with
    | zero =>
      obtain rfl : parent = around := Option.some.inj h
      exact ⟨own, levels_zero parent rest reloading own.elementQuery⟩
    | succ i => exact ih parent reloading own.elementQuery h

/-- Behind the handle there are only queries. -/
theorem Handle.levels_harmless {own : Link} {ancestors : List Link} {operation : String}
    {call : ElementCall} {i : Nat} {level : Level}
    (h : (levels own ancestors operation call)[i + 1]? = some level) {W : Type} (run : Run W) :
    (level.callIn run).isHarmless = true := by
  induction ancestors generalizing own operation call i with
  | nil =>
    cases i with
    | zero =>
      obtain rfl := Option.some.inj h
      rfl
    | succ i => cases h
  | cons parent rest ih =>
    cases i with
    | zero =>
      rw [levels, List.getElem?_cons_succ, levels_zero] at h
      obtain rfl := Option.some.inj h
      rw [Level.callIn, Link.elementQuery]
      split <;> rfl
    | succ i => exact ih h

theorem Handle.levels_last (own : Link) (ancestors : List Link) (operation : String)
    (call : ElementCall) : ∃ outermost : Link,
      (levels own ancestors operation call)[ancestors.length + 1]?
        = some (.document outermost) := by
  induction ancestors generalizing own operation call with
  | nil => exact ⟨own, rfl⟩
  | cons parent rest ih => exact ih parent reloading own.elementQuery

-- ============================================================================
-- Attempts
-- ============================================================================

/-- The fault that a call met. -/
def Exchange.fault? (exchange : Exchange) : Option Fault :=
  match exchange.answer with
  | .ok _ => none
  | .error fault => some fault

/-- The references that a query has found. -/
def Exchange.found : Exchange → List Reference
  | ⟨.session (.find _), .ok reference, _⟩ => [reference]
  | ⟨.session (.findAll _), .ok references, _⟩ => references
  | ⟨.element _ (.find _), .ok reference, _⟩ => [reference]
  | ⟨.element _ (.findAll _), .ok references, _⟩ => references
  | _ => []

/-- A call that is made in a run, with its answer. -/
def Run.exchanged {W : Type} (driver : Driver W) (call : Call) (run : Run W) : Exchange :=
  ⟨call, (run.exchange driver call).1, run.memory⟩

/-- A call of a recovery, with the level that it was made on. -/
structure Attempt where
  level : Nat
  exchange : Exchange

namespace Attempt

/-- An attempt of the operation itself. -/
def ofOwn {call : ElementCall} (reference : Reference) (answer : Except Fault call.Answer)
    (memory : Memory) : Attempt :=
  ⟨0, ⟨.element reference call, answer, memory⟩⟩

/-- The attempt as seen from one level further in. -/
def deeper (attempt : Attempt) : Attempt :=
  { attempt with level := attempt.level + 1 }

/-- Whether the attempt was made on a level. -/
def isAt (level : Nat) (attempt : Attempt) : Bool :=
  attempt.level == level

/-- Whether the operation itself was carried out. -/
def succeeds (attempt : Attempt) : Bool :=
  attempt.isAt 0 && attempt.exchange.fault?.isNone

end Attempt

/-- The states of a recovery, with its attempts, the latest first. Between two attempts handles get
    references that the last attempt has found, and the page may remember handles. -/
inductive Recovery {W : Type} (driver : Driver W) (levels : List Level) (start : Run W) :
    List Attempt → Run W → Prop
  | start : Recovery driver levels start [] start
  | attempt {log : List Attempt} {run : Run W} (i : Nat) (level : Level) :
      Recovery driver levels start log run → levels[i]? = some level →
      Recovery driver levels start (⟨i, run.exchanged driver (level.callIn run)⟩ :: log)
        (run.exchange driver (level.callIn run)).2
  | refresh {log : List Attempt} {run : Run W} (i : Nat) (level : Level) {exchange : Exchange}
      {reference : Reference} :
      Recovery driver levels start (⟨i + 1, exchange⟩ :: log) run → levels[i]? = some level →
      reference ∈ exchange.found →
      Recovery driver levels start (⟨i + 1, exchange⟩ :: log)
        { run with references := run.references.put level.link.id reference }
  | remember {log : List Attempt} {run : Run W} (slot : String) (handle : Handle) :
      Recovery driver levels start log run →
      Recovery driver levels start log { run with memory :=
        { run.memory with cache := run.memory.cache.put slot (.elements (.one handle)) } }

/-- What a recovery with some result does at most: how often it asks each level, and which faults
    are the end of it. -/
structure Spares {α : Type} (levels : List Level) (log : List Attempt)
    (result : Except PageError α) : Prop where
  count_le : ∀ i level, levels[i]? = some level → log.countP (Attempt.isAt i) ≤ level.limit
  ends : ∀ attempt before level fault, attempt :: before <:+ log →
    levels[attempt.level]? = some level → attempt.exchange.fault? = some fault →
    fault ≠ .stale ∨ level.limit ≤ before.countP (Attempt.isAt attempt.level) + 1 →
    log = attempt :: before ∧ result = .error (level.error fault)

variable {W α β : Type} {driver : Driver W} {context : Context W} {levels : List Level}
  {level : Level} {start run run' : Run W} {log log' : List Attempt}

namespace Recovery

/-- The attempts are all the calls of a recovery. -/
theorem transcript_eq (h : Recovery driver levels start log run) :
    run.transcript = log.map Attempt.exchange ++ start.transcript := by
  induction h with
  | start => rfl
  | attempt i level _ _ ih =>
    show _ :: Run.transcript _ = _ :: (_ ++ _)
    rw [ih]
    rfl
  | refresh i level _ _ _ ih => exact ih
  | remember slot handle _ ih => exact ih

/-- Each attempt is the call of its level. -/
theorem exists_call {attempt : Attempt} (h : Recovery driver levels start log run)
    (h_mem : attempt ∈ log) : ∃ level before, levels[attempt.level]? = some level
      ∧ attempt.exchange.call = level.callIn (W := W) before := by
  induction h with
  | start => cases h_mem
  | attempt i level _ h_level ih =>
    rcases List.mem_cons.mp h_mem with rfl | h_mem
    · exact ⟨level, _, h_level, rfl⟩
    · exact ih h_mem
  | refresh i level _ _ _ ih => exact ih h_mem
  | remember slot handle _ ih => exact ih h_mem

theorem exists_level {attempt : Attempt} (h : Recovery driver levels start log run)
    (h_mem : attempt ∈ log) : ∃ level, levels[attempt.level]? = some level := by
  obtain ⟨level, -, h_level, -⟩ := h.exists_call h_mem
  exact ⟨level, h_level⟩

/-- A recovery of the levels behind the first goes on in one of all levels. -/
theorem within (h : Recovery driver (level :: levels) start log run)
    (h_inner : Recovery driver levels run log' run') :
    Recovery driver (level :: levels) start (log'.map Attempt.deeper ++ log) run' := by
  induction h_inner with
  | start => exact h
  | attempt i level _ h_level ih => exact .attempt (i + 1) level ih h_level
  | refresh i level _ h_level h_found ih => exact .refresh (i + 1) level ih h_level h_found
  | remember slot handle _ ih => exact .remember slot handle ih

end Recovery

namespace Attempt

theorem countP_deeper_zero (log : List Attempt) :
    (log.map deeper).countP (isAt 0) = 0 := by
  rw [List.countP_map, List.countP_eq_zero]
  intro attempt _ h_at
  exact Nat.succ_ne_zero attempt.level (eq_of_beq h_at)

theorem countP_deeper_succ (i : Nat) (log : List Attempt) :
    (log.map deeper).countP (isAt (i + 1)) = log.countP (isAt i) := by
  rw [List.countP_map]
  congr 1
  funext attempt
  simp [isAt, deeper]

theorem countP_deeper_succeeds (log : List Attempt) : (log.map deeper).countP succeeds = 0 := by
  rw [List.countP_map, List.countP_eq_zero]
  intro attempt _ h_succeeds
  simp [succeeds, isAt, deeper] at h_succeeds

theorem mapError_of_fault? {call : ElementCall} {reference : Reference}
    {answer : Except Fault call.Answer} {memory : Memory} {toError : Fault → PageError}
    (fault : Fault) (h : (ofOwn reference answer memory).exchange.fault? = some fault) :
    answer.mapError toError = .error (toError fault) := by
  cases answer with
  | ok value => cases h
  | error met =>
    obtain rfl : met = fault := Option.some.inj h
    rfl

end Attempt

-- ============================================================================
-- Bounds
-- ============================================================================

namespace Spares

variable {result : Except PageError α} {result' : Except PageError β}
  {first second : Attempt} {own : Link} {operation : String} {call : ElementCall}

theorem nil (levels : List Level) (result : Except PageError α) : Spares levels [] result := by
  refine ⟨fun i level _ => Nat.zero_le _, fun attempt before level fault h_suffix => ?_⟩
  cases List.suffix_nil.mp h_suffix

/-- The bounds hold of any result that is the error of the old one. -/
theorem of_error (h : Spares levels log result)
    (h_error : ∀ e, result = .error e → result' = .error e) : Spares levels log result' := by
  refine ⟨h.count_le, fun attempt before level fault h_suffix h_level h_fault h_end => ?_⟩
  obtain ⟨h_log, h_result⟩ := h.ends attempt before level fault h_suffix h_level h_fault h_end
  exact ⟨h_log, h_error _ h_result⟩

/-- One attempt, the fault of which is the error unless it is recovered from. -/
theorem one (h_first : first.level = 0) (h_limit : 1 ≤ level.limit)
    (h_error : ∀ fault, first.exchange.fault? = some fault → fault ≠ .stale ∨ level.limit ≤ 1 →
      result = .error (level.error fault)) : Spares (level :: levels) [first] result := by
  refine ⟨fun i other h_other => ?_,
    fun attempt before other fault h_suffix h_other h_fault h_end => ?_⟩
  · cases i with
    | zero =>
      obtain rfl : level = other := Option.some.inj h_other
      exact Nat.le_trans List.countP_le_length h_limit
    | succ i =>
      have h_none : [first].countP (Attempt.isAt (i + 1)) = 0 := by
        simp [Attempt.isAt, h_first]
      rw [h_none]
      exact Nat.zero_le _
  · obtain ⟨rfl, rfl⟩ : attempt = first ∧ before = [] := by
      rcases List.suffix_cons_iff.mp h_suffix with h_eq | h_nil
      · exact List.cons.inj h_eq
      · cases List.suffix_nil.mp h_nil
    rw [h_first] at h_other
    obtain rfl : level = other := Option.some.inj h_other
    exact ⟨rfl, h_error fault h_fault h_end⟩

/-- Behind a stale call the levels further in are recovered. -/
theorem outer (own : Link) (operation : String) (call : ElementCall)
    (h : Spares levels log result) (h_first : first.level = 0)
    (h_stale : first.exchange.fault? = some .stale) :
    Spares (.element own operation call :: levels) (log.map Attempt.deeper ++ [first]) result := by
  refine ⟨fun i level h_level => ?_,
    fun attempt before level fault h_suffix h_level h_fault h_end => ?_⟩
  · rw [List.countP_append]
    cases i with
    | zero =>
      obtain rfl : _ = level := Option.some.inj h_level
      have h_one : [first].countP (Attempt.isAt 0) ≤ 1 := List.countP_le_length
      rw [Attempt.countP_deeper_zero]
      show _ ≤ 2
      omega
    | succ i =>
      have h_none : [first].countP (Attempt.isAt (i + 1)) = 0 := by
        simp [Attempt.isAt, h_first]
      rw [Attempt.countP_deeper_succ, h_none]
      exact h.count_le i level h_level
  · rcases List.suffix_concat_iff.mp h_suffix with h_nil | ⟨_ | ⟨inner, before'⟩, h_eq, h_inner⟩
    · cases h_nil
    · -- the first call may be made once more
      obtain ⟨rfl, rfl⟩ : attempt = first ∧ before = [] := List.cons.inj h_eq
      rw [h_first] at h_level
      obtain rfl : _ = level := Option.some.inj h_level
      rw [h_stale] at h_fault
      obtain rfl : Fault.stale = fault := Option.some.inj h_fault
      rcases h_end with h_ne | h_limit
      · exact absurd rfl h_ne
      · cases Nat.le_of_succ_le_succ h_limit
    · obtain ⟨rfl, rfl⟩ : attempt = inner ∧ before = before' ++ [first] := List.cons.inj h_eq
      obtain ⟨_ | ⟨deep, before⟩, h_deep, h_map⟩ := List.suffix_map_iff.mp h_inner
      · cases h_map
      obtain ⟨rfl, rfl⟩ : attempt = deep.deeper ∧ before' = before.map Attempt.deeper :=
        List.cons.inj h_map
      have h_none : [first].countP (Attempt.isAt (deep.level + 1)) = 0 := by
        simp [Attempt.isAt, h_first]
      have h_count : (before.map Attempt.deeper ++ [first]).countP (Attempt.isAt (deep.level + 1))
          = before.countP (Attempt.isAt deep.level) := by
        rw [List.countP_append, Attempt.countP_deeper_succ, h_none]
        rfl
      have h_end' : fault ≠ .stale
          ∨ level.limit ≤ before.countP (Attempt.isAt deep.level) + 1 := by
        rw [← h_count]
        exact h_end
      obtain ⟨rfl, h_result⟩ := h.ends deep before level fault h_deep h_level h_fault h_end'
      exact ⟨rfl, h_result⟩

/-- Once the levels further in are recovered, the call is made a second time. -/
theorem again {a : α}
    (h : Spares (.element own operation call :: levels) log (.ok a : Except PageError α))
    (h_once : log.countP (Attempt.isAt 0) = 1) (h_second : second.level = 0)
    (h_error : ∀ fault, second.exchange.fault? = some fault →
      result' = .error (.ofFault fault own.context operation)) :
    Spares (.element own operation call :: levels) (second :: log) result' := by
  refine ⟨fun i level h_level => ?_,
    fun attempt before level fault h_suffix h_level h_fault h_end => ?_⟩
  · cases i with
    | zero =>
      obtain rfl : _ = level := Option.some.inj h_level
      rw [List.countP_cons, h_once]
      show 1 + (if second.isAt 0 then 1 else 0) ≤ 2
      split
      · exact Nat.le_refl 2
      · exact Nat.le_succ 1
    | succ i =>
      have h_other : ¬ (second.isAt (i + 1) = true) := by
        simp [Attempt.isAt, h_second]
      rw [List.countP_cons_of_neg h_other]
      exact h.count_le (i + 1) level h_level
  · rcases List.suffix_cons_iff.mp h_suffix with h_eq | h_earlier
    · obtain ⟨rfl, rfl⟩ := List.cons.inj h_eq
      rw [h_second] at h_level
      obtain rfl : _ = level := Option.some.inj h_level
      exact ⟨rfl, h_error fault h_fault⟩
    · obtain ⟨-, h_result⟩ := h.ends attempt before level fault h_earlier h_level h_fault h_end
      cases h_result

end Spares

-- ============================================================================
-- One level
-- ============================================================================

/-- From every run the action is a recovery that keeps to the bounds. -/
def Recovers (context : Context W) (levels : List Level) (action : Action W α)
    (post : List Attempt → Except PageError α → Prop) : Prop :=
  ∀ run, ∃ log, Recovery context.driver levels run log (action context run).2
    ∧ Spares levels log (action context run).1 ∧ post log (action context run).1

/-- The last attempt has found some references. -/
def LastFound (log : List Attempt) (found : List Reference) : Prop :=
  ∃ exchange earlier, log = ⟨0, exchange⟩ :: earlier ∧ exchange.found = found

/-- A result is a reference that the last attempt has found. -/
def Finds (log : List Attempt) (result : Except PageError Reference) : Prop :=
  ∀ reference, result = .ok reference → ∃ found, LastFound log found ∧ reference ∈ found

/-- A result is the answer of the last attempt, the only one that has carried out the operation;
    behind an error no attempt has. -/
structure Answers (call : ElementCall) (log : List Attempt)
    (result : Except PageError call.Answer) : Prop where
  error : ∀ e, result = .error e → log.countP Attempt.succeeds = 0
  ok : ∀ value, result = .ok value → log.countP Attempt.succeeds = 1
    ∧ ∃ reference memory earlier, log = .ofOwn reference (.ok value) memory :: earlier

/-- The last attempt decides the result. -/
theorem Answers.last {call : ElementCall} {before : List Attempt}
    (h_before : before.countP Attempt.succeeds = 0) (reference : Reference) (memory : Memory)
    (answer : Except Fault call.Answer) (toError : Fault → PageError) :
    Answers call (.ofOwn reference answer memory :: before) (answer.mapError toError) := by
  cases answer with
  | error fault =>
    refine ⟨fun e _ => ?_, fun value h_eq => nomatch h_eq⟩
    rw [List.countP_cons_of_neg Bool.false_ne_true]
    exact h_before
  | ok value =>
    refine ⟨fun e h_eq => (nomatch h_eq), fun other h_eq => ⟨?_, reference, memory, before, ?_⟩⟩
    · rw [List.countP_cons_of_pos rfl, h_before]
    · obtain rfl : value = other := Except.ok.inj h_eq
      rfl

namespace Handle

variable {own : Link} {ancestors : List Link} {refind : Action W Reference} {operation : String}
  {call : ElementCall}

/-- An error of the reload is passed on. -/
theorem run_recovering_of_reload_error {run run' run'' : Run W} {e : PageError}
    (h_ask : run.exchange context.driver (.element (run.referenceAt own.id) call)
      = (.error .stale, run'))
    (h_reload : reload ⟨own, ancestors⟩ refind context run' = (.error e, run'')) :
    recovering ⟨own, ancestors⟩ refind operation call context run = (.error e, run'') := by
  have h_reference : own.reference context run = (.ok (run.referenceAt own.id), run) := rfl
  have h_run : Action.ask (.element (run.referenceAt own.id) call) context run = _ :=
    Action.run_ask (.element (run.referenceAt own.id) call) run
  rw [h_ask] at h_run
  rw [recovering, Action.run_bind_ok h_reference, Action.run_bind_ok h_run]
  show (reload ⟨own, ancestors⟩ refind >>= fun _ => own.reference >>= fun reference =>
    Action.ask (.element reference call) >>= fun again =>
      Action.answered own.context operation again) context run' = _
  rw [Action.run_bind, h_reload]

/-- A handle that memoizes itself makes no call. -/
theorem memoize_recovery (own : Link) (ancestors : List Link)
    (h : Recovery context.driver levels start log run) :
    (memoize ⟨own, ancestors⟩ context run).1 = .ok ()
      ∧ Recovery context.driver levels start log (memoize ⟨own, ancestors⟩ context run).2 := by
  cases h_slot : own.slot with
  | none =>
    have h_run : memoize ⟨own, ancestors⟩ context run = (.ok (), run) := by
      simp only [memoize, h_slot]
      rfl
    rw [h_run]
    exact ⟨rfl, h⟩
  | some slot =>
    cases h_memoizes : own.memoizes with
    | false =>
      have h_run : memoize ⟨own, ancestors⟩ context run = (.ok (), run) := by
        simp only [memoize, h_slot, h_memoizes]
        rfl
      rw [h_run]
      exact ⟨rfl, h⟩
    | true =>
      have h_run : memoize ⟨own, ancestors⟩ context run = (.ok (), { run with memory :=
          { run.memory with cache :=
            run.memory.cache.put slot (.elements (.one ⟨own, ancestors⟩)) } }) := by
        simp only [memoize, h_slot, h_memoizes]
        rfl
      rw [h_run]
      exact ⟨rfl, .remember slot ⟨own, ancestors⟩ h⟩

/-- A reload is a recovery of the levels further in, unless the page is gone. -/
theorem reload_recovery (ancestors : List Link) (h_refind : Recovers context levels refind Finds)
    (h : Recovery context.driver (.element own operation call :: levels) start log run) :
    ∃ inner, Recovery context.driver (.element own operation call :: levels) start
        (inner.map Attempt.deeper ++ log) (reload ⟨own, ancestors⟩ refind context run).2
      ∧ Spares levels inner (reload ⟨own, ancestors⟩ refind context run).1 := by
  have h_page : own.requirePage context run
      = (if run.pageDropped then throw (.page ("page of " ++ own.context ++ " was dropped"))
          else pure () : Action W Unit) context run := rfl
  cases h_dropped : run.pageDropped with
  | true =>
    have h_reload : reload ⟨own, ancestors⟩ refind context run
        = (.error (.page ("page of " ++ own.context ++ " was dropped")), run) := by
      rw [reload, Action.run_bind, h_page, h_dropped]
      rfl
    rw [h_reload]
    exact ⟨[], h, .nil levels _⟩
  | false =>
    have h_present : own.requirePage context run = (.ok (), run) :=
      Link.run_requirePage own h_dropped
    obtain ⟨inner, h_inner, h_spares, h_finds⟩ := h_refind run
    have h_within := h.within h_inner
    refine ⟨inner, ?_⟩
    rcases h_found : refind context run with ⟨e | reference, run'⟩
    · rw [h_found] at h_spares h_within
      have h_reload : reload ⟨own, ancestors⟩ refind context run = (.error e, run') := by
        rw [reload, Action.run_bind_ok h_present, Action.run_bind, h_found]
      rw [h_reload]
      exact ⟨h_within, h_spares.of_error fun e' h_error => by cases h_error; rfl⟩
    · rw [h_found] at h_spares h_within h_finds
      obtain ⟨_, ⟨exchange, earlier, rfl, rfl⟩, h_mem⟩ := h_finds reference rfl
      have h_fresh : Recovery context.driver (.element own operation call :: levels) start
          ((⟨0, exchange⟩ :: earlier : List Attempt).map Attempt.deeper ++ log)
          { run' with references := run'.references.put own.id reference } :=
        .refresh 0 (.element own operation call) h_within rfl h_mem
      obtain ⟨h_ok, h_kept⟩ := memoize_recovery own ancestors h_fresh
      have h_reload : reload ⟨own, ancestors⟩ refind context run
          = memoize ⟨own, ancestors⟩ context
            { run' with references := run'.references.put own.id reference } := by
        rw [reload, Action.run_bind_ok h_present, Action.run_bind_ok h_found]
        rfl
      rw [h_reload]
      exact ⟨h_kept, h_spares.of_error fun e' h_error => by cases h_error⟩

/-- A call with recovery, given that its query is a recovery of the levels further in. -/
theorem recovering_recovers (own : Link) (ancestors : List Link) (operation : String)
    (call : ElementCall) (h_refind : Recovers context levels refind Finds) :
    Recovers context (.element own operation call :: levels)
      (recovering ⟨own, ancestors⟩ refind operation call) (Answers call) := by
  intro run
  have h_first : Recovery context.driver (.element own operation call :: levels) run
      [.ofOwn (run.referenceAt own.id)
        (run.exchange context.driver (.element (run.referenceAt own.id) call)).1 run.memory]
      (run.exchange context.driver (.element (run.referenceAt own.id) call)).2 :=
    .attempt 0 (.element own operation call) .start rfl
  rcases h_ask : run.exchange context.driver (.element (run.referenceAt own.id) call)
    with ⟨answer, asked⟩
  rw [h_ask] at h_first
  by_cases h_stale : answer = .error .stale
  · subst h_stale
    generalize h_call : Attempt.ofOwn (run.referenceAt own.id)
      (.error .stale : Except Fault call.Answer) run.memory = first at h_first
    have h_level : first.level = 0 := by rw [← h_call]; rfl
    have h_fault : first.exchange.fault? = some .stale := by rw [← h_call]; rfl
    obtain ⟨inner, h_inner, h_spares⟩ := reload_recovery ancestors h_refind h_first
    have h_outer := h_spares.outer own operation call h_level h_fault
    have h_none : (inner.map Attempt.deeper ++ [first]).countP Attempt.succeeds = 0 := by
      rw [List.countP_append, Attempt.countP_deeper_succeeds, ← h_call]
      rfl
    have h_once : (inner.map Attempt.deeper ++ [first]).countP (Attempt.isAt 0) = 1 := by
      rw [List.countP_append, Attempt.countP_deeper_zero, ← h_call]
      rfl
    rcases h_reload : reload ⟨own, ancestors⟩ refind context asked with ⟨e | _, found⟩
    · rw [h_reload] at h_inner h_outer
      rw [run_recovering_of_reload_error h_ask h_reload]
      exact ⟨_, h_inner, h_outer.of_error fun _ h_eq => by cases h_eq; rfl,
        fun _ _ => h_none, fun _ h_eq => nomatch h_eq⟩
    · rw [h_reload] at h_inner h_outer
      rw [run_recovering_of_stale h_ask h_reload]
      exact ⟨_, .attempt 0 (.element own operation call) h_inner rfl,
        h_outer.again h_once rfl Attempt.mapError_of_fault?, .last h_none _ _ _ _⟩
  · rw [run_recovering_of_ne_stale h_ask h_stale]
    refine ⟨_, h_first, .one rfl (Nat.le_succ 1) fun fault h_fault _ => ?_, .last rfl _ _ _ _⟩
    exact Attempt.mapError_of_fault? fault h_fault

end Handle

-- ============================================================================
-- All levels
-- ============================================================================

theorem Recovers.weaken {action : Action W α}
    {post post' : List Attempt → Except PageError α → Prop}
    (h : Recovers context levels action post)
    (h_post : ∀ log result, post log result → post' log result) :
    Recovers context levels action post' := by
  intro run
  obtain ⟨log, h_recovery, h_spares, h_end⟩ := h run
  exact ⟨log, h_recovery, h_spares, h_post _ _ h_end⟩

namespace Link

variable {own : Link} {first : Action W Reference} {all : Action W (List Reference)}

theorem run_refind_of_position {position : Nat} (h_position : own.position = some position)
    (run : Run W) :
    own.refind first all context run = match all context run with
      | (.ok found, run') => (own.pick position found, run')
      | (.error e, run') => (.error e, run') := by
  rw [refind, h_position]
  show (all >>= fun found => liftM (own.pick position found)) context run = _
  rw [Action.run_bind]
  rcases all context run with ⟨e | found, run'⟩
  · rfl
  · exact Action.run_lift _ run'

theorem mem_of_pick {position : Nat} {found : List Reference} {reference : Reference}
    (h : own.pick position found = .ok reference) : reference ∈ found := by
  rw [pick] at h
  split at h
  · rename_i picked h_picked
    obtain rfl : picked = reference := Except.ok.inj h
    exact List.mem_of_getElem? h_picked
  · cases h

/-- The query of a handle, made again, finds the reference that it gives. -/
theorem refind_recovers
    (h_first : own.position = none → Recovers context levels first fun log result =>
      ∀ reference, result = .ok reference → LastFound log [reference])
    (h_all : ∀ position, own.position = some position → Recovers context levels all
      fun log result => ∀ found, result = .ok found → LastFound log found) :
    Recovers context levels (own.refind first all) Finds := by
  cases h_position : own.position with
  | none =>
    rw [refind, h_position]
    refine (h_first h_position).weaken fun log result h_last reference h_ok => ?_
    exact ⟨[reference], h_last reference h_ok, List.mem_cons_self⟩
  | some position =>
    intro run
    obtain ⟨log, h_recovery, h_spares, h_last⟩ := h_all position h_position run
    refine ⟨log, ?_⟩
    rw [run_refind_of_position h_position]
    rcases h_run : all context run with ⟨e | found, run'⟩
    · rw [h_run] at h_recovery h_spares
      exact ⟨h_recovery, h_spares.of_error fun _ h_eq => by cases h_eq; rfl,
        fun _ h_eq => by cases h_eq⟩
    · rw [h_run] at h_recovery h_spares h_last
      refine ⟨h_recovery, h_spares.of_error fun _ h_eq => (by cases h_eq), fun reference h_ok => ?_⟩
      exact ⟨found, h_last found rfl, mem_of_pick h_ok⟩

end Link

namespace Handle

/-- The query of a handle in the document is one attempt. -/
theorem sessionCall_recovers (own : Link) (call : SessionCall) (h_call : own.sessionQuery = call) :
    Recovers context [.document own] (Action.sessionCall call own.context reloading)
      fun log result => ∀ value, result = .ok value →
        ∃ memory, log = [⟨0, ⟨.session call, .ok value, memory⟩⟩] := by
  subst h_call
  intro run
  have h_first : Recovery context.driver [.document own] run
      [⟨0, ⟨.session own.sessionQuery,
        (run.exchange context.driver (.session own.sessionQuery)).1, run.memory⟩⟩]
      (run.exchange context.driver (.session own.sessionQuery)).2 :=
    .attempt 0 (.document own) .start rfl
  rw [Action.run_sessionCall]
  rcases h_ask : run.exchange context.driver (.session own.sessionQuery) with ⟨answer, asked⟩
  rw [h_ask] at h_first
  refine ⟨_, h_first, .one rfl (Nat.le_refl 1) fun fault h_fault _ => ?_, fun value h_ok => ?_⟩
  · cases answer with
    | ok value => cases h_fault
    | error met =>
      obtain rfl : met = fault := Option.some.inj h_fault
      rfl
  · cases answer with
    | error met => cases h_ok
    | ok found =>
      obtain rfl : found = value := Except.ok.inj h_ok
      exact ⟨run.memory, rfl⟩

/-- A call with recovery keeps to the bounds, however many elements are around. -/
theorem request_recovers (own : Link) (ancestors : List Link) (operation : String)
    (call : ElementCall) :
    Recovers context (Handle.levels own ancestors operation call)
      (request own ancestors operation call) (Answers call) := by
  induction ancestors generalizing own operation call with
  | nil =>
    rw [request, Handle.levels]
    refine recovering_recovers own [] operation call (Link.refind_recovers ?_ ?_)
    · intro h_position
      have h_query : own.sessionQuery = .find own.locator := by rw [Link.sessionQuery, h_position]
      refine (sessionCall_recovers own _ h_query).weaken fun log result h_end reference h_ok => ?_
      obtain ⟨memory, rfl⟩ := h_end reference h_ok
      exact ⟨_, _, rfl, rfl⟩
    · intro position h_position
      have h_query : own.sessionQuery = .findAll own.locator := by
        rw [Link.sessionQuery, h_position]
      refine (sessionCall_recovers own _ h_query).weaken fun log result h_end found h_ok => ?_
      obtain ⟨memory, rfl⟩ := h_end found h_ok
      exact ⟨_, _, rfl, rfl⟩
  | cons parent rest ih =>
    rw [request, Handle.levels]
    refine recovering_recovers own (parent :: rest) operation call (Link.refind_recovers ?_ ?_)
    · intro h_position
      have h_query : own.elementQuery = .find own.locator := by rw [Link.elementQuery, h_position]
      rw [h_query]
      refine (ih parent reloading (.find own.locator)).weaken
        fun log result h_answers reference h_ok => ?_
      obtain ⟨-, _, memory, earlier, rfl⟩ := h_answers.ok reference h_ok
      exact ⟨_, _, rfl, rfl⟩
    · intro position h_position
      have h_query : own.elementQuery = .findAll own.locator := by
        rw [Link.elementQuery, h_position]
      rw [h_query]
      refine (ih parent reloading (.findAll own.locator)).weaken
        fun log result h_answers found h_ok => ?_
      obtain ⟨-, _, memory, earlier, rfl⟩ := h_answers.ok found h_ok
      exact ⟨_, _, rfl, rfl⟩

/-- However deep a handle is and whatever the browser answers, a call through it asks the handle and
    each element around it at most twice and the document at most once. It gives a value exactly if
    one of the calls to the handle succeeded, which was the last call then. A fault other than
    staleness is the end of it on every level, and so is a second staleness. -/
theorem perform_attempts (context : Context W) (handle : Handle) (call : ElementCall)
    (run : Run W) :
    ∃ log, Recovery context.driver
        (Handle.levels handle.own handle.ancestors call.operation call) run log
        (handle.perform call context run).2
      ∧ (handle.perform call context run).2.transcript
        = log.map Attempt.exchange ++ run.transcript
      ∧ (∀ i ≤ handle.ancestors.length, log.countP (Attempt.isAt i) ≤ 2)
      ∧ log.countP (Attempt.isAt (handle.ancestors.length + 1)) ≤ 1
      ∧ log.countP Attempt.succeeds = (if (handle.perform call context run).1.isOk then 1 else 0)
      ∧ (∀ value, (handle.perform call context run).1 = .ok value →
        ∃ reference memory earlier, log = .ofOwn reference (.ok value) memory :: earlier)
      ∧ ∀ attempt before, attempt :: before <:+ log → ∃ level,
        (Handle.levels handle.own handle.ancestors call.operation call)[attempt.level]? = some level
        ∧ (∀ fault, attempt.exchange.fault? = some fault → fault ≠ .stale →
          log = attempt :: before
            ∧ (handle.perform call context run).1 = .error (level.error fault))
        ∧ (attempt.exchange.fault? = some .stale →
          (∃ earlier ∈ before, earlier.level = attempt.level) →
          log = attempt :: before
            ∧ (handle.perform call context run).1 = .error (.staleElement level.link.context)) := by
  have h_recovers : Recovers context _ (handle.perform call) (Answers call) :=
    request_recovers handle.own handle.ancestors call.operation call
  obtain ⟨log, h_recovery, h_spares, h_answers⟩ := h_recovers run
  refine ⟨log, h_recovery, h_recovery.transcript_eq, fun i h_le => ?_, ?_, ?_,
    fun value h_ok => (h_answers.ok value h_ok).2, fun attempt before h_suffix => ?_⟩
  · cases i with
    | zero => exact h_spares.count_le 0 _ (levels_zero _ _ _ _)
    | succ i =>
      obtain ⟨inner, h_level⟩ := levels_succ handle.own handle.ancestors call.operation call
        (List.getElem?_eq_getElem (Nat.lt_of_succ_le h_le))
      exact h_spares.count_le (i + 1) _ h_level
  · obtain ⟨outermost, h_level⟩ :=
      levels_last handle.own handle.ancestors call.operation call
    exact h_spares.count_le _ _ h_level
  · cases h_result : (handle.perform call context run).1 with
    | error e => exact h_answers.error e h_result
    | ok value => exact (h_answers.ok value h_result).1
  · obtain ⟨level, h_level⟩ :=
      h_recovery.exists_level (h_suffix.subset (List.mem_cons_self (a := attempt)))
    refine ⟨level, h_level, fun fault h_fault h_ne => ?_, fun h_stale h_again => ?_⟩
    · exact h_spares.ends attempt before level fault h_suffix h_level h_fault (.inl h_ne)
    · obtain ⟨earlier, h_mem, h_same⟩ := h_again
      have h_count : 1 ≤ before.countP (Attempt.isAt attempt.level) :=
        List.countP_pos_iff.mpr ⟨earlier, h_mem, beq_iff_eq.mpr h_same⟩
      have h_limit := level.limit_le
      rw [← level.error_stale]
      exact h_spares.ends attempt before level .stale h_suffix h_level h_stale (.inr (by omega))

end Handle

end PageObjects
