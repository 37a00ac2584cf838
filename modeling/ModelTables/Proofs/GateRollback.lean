import ModelTables.Proofs.GateLedger
import Mathlib.Logic.Relation

/-! # A failed bootstrap leaves the gate as it was

When the connector refuses an alias, the bootstrap that asked for it closes the
connections it opened and fails.  Whatever other calls do meanwhile (while the
bootstrap holds the mutex they can only start, queue or `reset`) and however the
closes end:

* the connector was called for the configured aliases up to the refused one, in
  order, and for nothing else;
* `close` was called on each connection the bootstrap opened, and on nothing else;
* the gate is closed and publishes nothing, as it was when the bootstrap began;
* the call fails with `connectFailed` for the refused alias and the connector's
  reason;
* each failed close only adds an error to the log, with one warning after them.

The bootstrap is followed in two stretches: while it opens connections (`Opening`)
and while its closes run (`RollingBack`).  Each is kept by every step, from a state
with the invariant, and so along every run (`Steps.keep`).

Main statement: `failed_bootstrap_rolls_back`.
-/

namespace ModelTables

/-- The call a step continues, if any. -/
def GateAction.caller? : GateAction → Option Nat
  | .call _ | .reset => none
  | .resume i | .connected i _ | .settled i _ => some i

namespace GateState

/-- The states a gate reaches from another by any number of steps. -/
def Steps (target : TargetConfig) : GateState → GateState → Prop :=
  Relation.ReflTransGen fun s s' => ∃ a, s.step target a = some s'

variable {target : TargetConfig} {s s' base : GateState} {i : Nat} {a : GateAction}

/-! ## Steps of other calls -/

@[simp] theorem moveTo_logs (p : Phase) : (s.moveTo i p).logs = s.logs := rfl

@[simp] theorem record_logs (e : GateEvent) : (s.record e).logs = s.logs := rfl

@[simp] theorem settle_logs (reply : Except Failure Unit) : (s.settle i reply).logs = s.logs := rfl

theorem proceed_callers (opened : List Conn) (rest : List (String × TargetConnection)) :
    ∃ p, (s.proceed i opened rest).callers = (s.moveTo i p).callers := by
  cases rest with
  | nil => exact ⟨_, rfl⟩
  | cons next rest => exact ⟨_, rfl⟩

/-- A step that continues a call changes that call's phase and no other. -/
theorem step_callers_moveTo {j : Nat} (stepped : s.step target a = some s') (continues : a.caller? = some j) :
    ∃ p, s'.callers = (s.moveTo j p).callers := by
  cases a with
  | call _ | reset => cases continues
  | resume i =>
    cases continues
    obtain ⟨kind, -, -, rfl⟩ := step_resume_eq stepped
    cases kind
    all_goals
      simp only [resume]
      split
    all_goals first
      | exact ⟨_, rfl⟩
      | exact proceed_callers _ _
  | connected i answer =>
    cases continues
    obtain ⟨c, opened, current, rest, -, -, rfl⟩ := step_connected_eq stepped
    cases answer with
    | ok u => exact proceed_callers (s := { s.record _ with serial := s.serial + 1 }) _ _
    | error reason => exact ⟨_, rfl⟩
  | settled k fails =>
    cases continues
    obtain ⟨c, -, ⟨failure, closing, -, rfl⟩ | ⟨held, -, rfl⟩⟩ := step_settled_eq stepped
    · obtain ⟨logs, eq⟩ := rolledBack_eq (s := s) (i := j) failure closing fails
      exact ⟨_, by rw [eq]; rfl⟩
    · exact ⟨_, rfl⟩

/-- A step that does not continue call `i` leaves its phase as it was. -/
theorem phase?_step_of_ne (stepped : s.step target a = some s') (other : a.caller? ≠ some i) {p : Phase}
    (found : s.phase? i = some p) : s'.phase? i = some p := by
  cases continues : a.caller? with
  | some j =>
    obtain ⟨q, callers⟩ := step_callers_moveTo stepped continues
    have apart : j ≠ i := fun same => other (same ▸ continues)
    simpa [phase?, callers, apart] using found
  | none =>
    cases a with
    | call kind =>
      cases stepped
      obtain ⟨c, hc, rfl⟩ := Option.map_eq_some_iff.mp found
      have below : i < s.callers.length := (List.getElem?_eq_some_iff.mp hc).1
      rw [call_eq]
      split <;> simp [phase?, List.getElem?_append_left below, hc]
    | reset =>
      cases stepped
      exact found
    | _ => cases continues

/-- While call `i` is inside the mutex, a step of another call only starts or queues
a call or forgets the published connections: it records no event, logs nothing and
opens no connection. -/
theorem frame_of_critical (inv : Inv target s) {c : Caller} (hc : s.callers[i]? = some c)
    (critical : c.phase.isCritical = true) (stepped : s.step target a = some s') (other : a.caller? ≠ some i) :
    s'.events = s.events ∧ s'.logs = s.logs ∧ s'.serial = s.serial := by
  cases a with
  | call kind =>
    cases stepped
    rw [call_eq]
    split <;> exact ⟨rfl, rfl, rfl⟩
  | reset =>
    cases stepped
    exact ⟨rfl, rfl, rfl⟩
  | resume j =>
    obtain ⟨kind, first, -, -⟩ := step_resume_eq stepped
    rw [inv.critical_first i c hc critical] at first
    cases first
    exact absurd rfl other
  | connected j answer =>
    obtain ⟨d, opened, current, rest, hd, phase, -⟩ := step_connected_eq stepped
    obtain rfl := inv.critical_unique hc critical hd (by rw [phase]; rfl)
    exact absurd rfl other
  | settled j fails =>
    obtain ⟨d, hd, ⟨_, _, phase, -⟩ | ⟨_, phase, -⟩⟩ := step_settled_eq stepped
    all_goals
      obtain rfl := inv.critical_unique hc critical hd (by rw [phase]; rfl)
      exact absurd rfl other

/-- A call that has settled stays settled, with its reply. -/
theorem phase?_step_of_done (stepped : s.step target a = some s') {reply : Except Failure Unit}
    (found : s.phase? i = some (.done reply)) : s'.phase? i = some (.done reply) := by
  by_cases mine : a.caller? = some i
  · -- none of the call's own steps starts from a settled phase
    cases a with
    | call _ | reset => cases mine
    | resume j =>
      cases mine
      obtain ⟨kind, -, hc, -⟩ := step_resume_eq stepped
      simp [phase?, hc] at found
    | connected j answer =>
      cases mine
      obtain ⟨c, _, _, _, hc, phase, -⟩ := step_connected_eq stepped
      simp [phase?, hc, phase] at found
    | settled j fails =>
      cases mine
      obtain ⟨c, hc, ⟨_, _, phase, -⟩ | ⟨_, phase, -⟩⟩ := step_settled_eq stepped <;>
        simp [phase?, hc, phase] at found
  · exact phase?_step_of_ne stepped mine found

/-- When the closes of a call end, it settles. -/
theorem phase?_settled {fails : Conn → Bool} (stepped : s.step target (.settled i fails) = some s') :
    ∃ reply, s'.phase? i = some (.done reply) := by
  obtain ⟨c, hc, ⟨failure, closing, -, rfl⟩ | ⟨held, -, rfl⟩⟩ := step_settled_eq stepped
  · obtain ⟨logs, eq⟩ := rolledBack_eq (s := s) (i := i) failure closing fails
    rw [eq]
    exact ⟨_, phase?_settle_self hc _⟩
  · exact ⟨_, phase?_settle_self (s := s.logCloseFailures _) hc _⟩

/-- A property that every step keeps, from a state with the invariant, holds along
every run. -/
theorem Steps.keep {P : GateState → Prop} (distinct : (target.connections.map (·.1)).Nodup)
    (step : ∀ {s s' : GateState} {a : GateAction}, Inv target s → P s → s.step target a = some s' → P s')
    {t : GateState} (run : Steps target s t) (inv : Inv target s) (holds : P s) : Inv target t ∧ P t := by
  induction run with
  | refl => exact ⟨inv, holds⟩
  | tail _ stepped kept =>
    obtain ⟨a, stepped⟩ := stepped
    exact ⟨kept.1.step distinct stepped, step kept.1 kept.2 stepped⟩

/-! ## While a bootstrap opens connections -/

/-- The connector calls and returns of the connections a bootstrap has opened. -/
def openingEvents (opened : List Conn) : List GateEvent :=
  opened.flatMap fun c => [.connect c.aliasName, .opened c]

@[simp] theorem openingEvents_nil : openingEvents [] = [] := rfl

@[simp] theorem openingEvents_cons (c : Conn) (opened : List Conn) :
    openingEvents (c :: opened) = .connect c.aliasName :: .opened c :: openingEvents opened := rfl

@[simp] theorem openingEvents_append (opened opened' : List Conn) :
    openingEvents (opened ++ opened') = openingEvents opened ++ openingEvents opened' :=
  List.flatMap_append

@[simp] theorem connectCalls_openingEvents (opened : List Conn) :
    (openingEvents opened).filterMap GateEvent.connectAlias? = opened.map (·.aliasName) := by
  induction opened with
  | nil => rfl
  | cons c opened ih =>
    simp only [openingEvents_cons, List.filterMap_cons, GateEvent.connectAlias?_connect,
      GateEvent.connectAlias?_opened, ih, List.map_cons]

@[simp] theorem returned_openingEvents (opened : List Conn) :
    (openingEvents opened).filterMap GateEvent.openedConn? = opened := by
  induction opened with
  | nil => rfl
  | cons c opened ih =>
    simp only [openingEvents_cons, List.filterMap_cons, GateEvent.openedConn?_connect,
      GateEvent.openedConn?_opened, ih]

@[simp] theorem closeCalls_openingEvents (opened : List Conn) :
    (openingEvents opened).filterMap GateEvent.closedConn? = [] := by
  induction opened with
  | nil => rfl
  | cons c opened ih =>
    simp only [openingEvents_cons, List.filterMap_cons, GateEvent.closedConn?_connect,
      GateEvent.closedConn?_opened, ih]

/-- What call `i`'s bootstrap, which got the mutex in state `base`, has done while it
opens connections: it found the gate closed, opened `opened` under the serial numbers
that follow `base`'s, and asked for the alias it waits for; the gate has recorded and
logged nothing else since `base`. -/
def Opening (base : GateState) (i : Nat) (s : GateState) : Prop :=
  match s.phase? i with
  | none | some .queued => False
  | some (.connecting opened current _) =>
    base.initialized = false ∧ opened.map (·.serial) = List.range' base.serial opened.length ∧
      s.serial = base.serial + opened.length ∧
      s.events = base.events ++ openingEvents opened ++ [.connect current.1] ∧ s.logs = base.logs
  | some _ => True

/-- A queued `ensure` or `init` that gets the mutex starts a bootstrap, or settles. -/
theorem Opening.start {kind : GateCallKind} (hc : s.callers[i]? = some ⟨kind, .queued⟩)
    (notClose : kind ≠ .close) : Opening s i (s.resume target i kind) := by
  rw [resume_of_ne_close target notClose]
  split
  · simp [Opening, phase?, hc]
  · rename_i closed
    cases h : target.connections with
    | nil => simp [Opening, proceed, phase?, hc]
    | cons first rest =>
      simp [Opening, proceed, phase?, hc, closed]

/-- The connector answers a bootstrap that opens connections: on success the new
connection takes the next serial number and the next alias is asked for, or the
bootstrap ends; on failure it rolls back. -/
theorem Opening.connected (inv : Inv target s) (distinct : (target.connections.map (·.1)).Nodup)
    {c : Caller} {opened : List Conn} {current : String × TargetConnection}
    {rest : List (String × TargetConnection)} (hc : s.callers[i]? = some c)
    (phase : c.phase = .connecting opened current rest) (opening : Opening base i s)
    (answer : Except String Unit) : Opening base i (s.connected i opened current rest answer) := by
  have found : s.phase? i = some (.connecting opened current rest) := by simp [phase?, hc, phase]
  simp only [Opening, found] at opening
  obtain ⟨closed, serials, serial, events, logs⟩ := opening
  cases answer with
  | error reason => simp [Opening, GateState.connected, phase?, hc]
  | ok u =>
    show Opening base i ({ s.record (.opened ⟨current.1, s.serial⟩) with serial := s.serial + 1 }.proceed i
      (putConn opened ⟨current.1, s.serial⟩) rest)
    rw [putConn_of_fresh (inv.current_fresh distinct hc phase)]
    cases rest with
    | nil => simp [Opening, proceed, phase?, hc]
    | cons next rest =>
      simp only [Opening, proceed, phase?, getElem?_callers_moveTo, if_true, record_callers, hc,
        Option.map_some]
      refine ⟨closed, ?_, ?_, ?_, ?_⟩
      · rw [List.map_append, serials, List.length_append, List.length_singleton, List.range'_concat]
        simp [serial]
      · simp [serial]
        omega
      · simp [events, openingEvents]
      · simp [logs]

/-- Every step keeps what a bootstrap has done while it opens connections. -/
theorem Opening.step (inv : Inv target s) (distinct : (target.connections.map (·.1)).Nodup)
    (opening : Opening base i s) (stepped : s.step target a = some s') : Opening base i s' := by
  by_cases mine : a.caller? = some i
  · cases a with
    | call _ | reset => cases mine
    | resume j =>
      cases mine
      obtain ⟨kind, -, hc, -⟩ := step_resume_eq stepped
      simp [Opening, phase?, hc] at opening
    | connected j answer =>
      cases mine
      obtain ⟨c, opened, current, rest, hc, phase, rfl⟩ := step_connected_eq stepped
      exact opening.connected inv distinct hc phase answer
    | settled j fails =>
      cases mine
      obtain ⟨reply, settled⟩ := phase?_settled stepped
      simp [Opening, settled]
  · obtain ⟨p, found⟩ : ∃ p, s.phase? i = some p := by
      cases found : s.phase? i with
      | none => simp [Opening, found] at opening
      | some p => exact ⟨p, rfl⟩
    have same := phase?_step_of_ne stepped mine found
    unfold Opening at opening ⊢
    rw [found] at opening
    rw [same]
    cases p with
    | connecting opened current rest =>
      -- another call's step records, logs and opens nothing
      obtain ⟨c, hc, phase⟩ := Option.map_eq_some_iff.mp found
      obtain ⟨events, logs, serial⟩ := frame_of_critical inv hc (by rw [phase]; rfl) stepped mine
      rw [events, logs, serial]
      exact opening
    | _ => exact opening

/-! ## While a failed bootstrap closes what it opened -/

/-- Call `i` rolls back a bootstrap that failed with `failure`, closing `closing`, and
the gate has recorded `events` and logged `logs`; or the call has settled. -/
def RollingBack (i : Nat) (failure : Failure) (closing : List Conn) (events : List GateEvent)
    (logs : List LogEntry) (s : GateState) : Prop :=
  (s.phase? i = some (.rollingBack failure closing) ∧ s.events = events ∧ s.logs = logs) ∨
    ∃ reply, s.phase? i = some (.done reply)

/-- Until its closes end, a rollback is left alone: other calls record and log nothing. -/
theorem RollingBack.step {failure : Failure} {closing : List Conn} {events : List GateEvent}
    {logs : List LogEntry} (inv : Inv target s) (holds : RollingBack i failure closing events logs s)
    (stepped : s.step target a = some s') : RollingBack i failure closing events logs s' := by
  rcases holds with ⟨rolling, recorded, logged⟩ | ⟨reply, settled⟩
  · by_cases mine : a.caller? = some i
    · cases a with
      | call _ | reset => cases mine
      | resume j =>
        cases mine
        obtain ⟨kind, -, hc, -⟩ := step_resume_eq stepped
        simp [phase?, hc] at rolling
      | connected j answer =>
        cases mine
        obtain ⟨c, _, _, _, hc, phase, -⟩ := step_connected_eq stepped
        simp [phase?, hc, phase] at rolling
      | settled j fails =>
        cases mine
        exact .inr (phase?_settled stepped)
    · obtain ⟨c, hc, phase⟩ := Option.map_eq_some_iff.mp rolling
      obtain ⟨recorded', logged', -⟩ := frame_of_critical inv hc (by rw [phase]; rfl) stepped mine
      exact .inl ⟨phase?_step_of_ne stepped mine rolling, recorded' ▸ recorded, logged' ▸ logged⟩
  · exact .inr ⟨reply, phase?_step_of_done stepped settled⟩

/-! ## How a rollback ends -/

theorem rolledBack_events {failure : Failure} {closing : List Conn} {fails : Conn → Bool} :
    (s.rolledBack i failure closing fails).events = s.events := by
  obtain ⟨logs, eq⟩ := rolledBack_eq (s := s) (i := i) failure closing fails
  rw [eq]
  rfl

theorem rolledBack_initialized {failure : Failure} {closing : List Conn} {fails : Conn → Bool} :
    (s.rolledBack i failure closing fails).initialized = s.initialized := by
  obtain ⟨logs, eq⟩ := rolledBack_eq (s := s) (i := i) failure closing fails
  rw [eq]
  rfl

theorem rolledBack_connections {failure : Failure} {closing : List Conn} {fails : Conn → Bool} :
    (s.rolledBack i failure closing fails).connections = s.connections := by
  obtain ⟨logs, eq⟩ := rolledBack_eq (s := s) (i := i) failure closing fails
  rw [eq]
  rfl

/-- A rollback logs one error per failed close, then a warning when there was one. -/
theorem rolledBack_logs {failure : Failure} {closing : List Conn} {fails : Conn → Bool} :
    (s.rolledBack i failure closing fails).logs =
      s.logs ++ List.replicate (closing.filter fails).length ⟨.error, "Failed to close connection"⟩ ++
        (if (closing.filter fails).length > 0 then
          [⟨.warn, "Rollback after failed bootstrap did not close every connection"⟩] else []) := by
  simp only [rolledBack, logCloseFailures]
  split <;> simp

end GateState

theorem Failure.connectFailed_message (aliasName host database reason : String) :
    (Failure.connectFailed aliasName host database reason).message =
      "Failed to initialize connection '" ++ aliasName ++ "': " ++ reason := by
  -- the message quotes the alias; unfolding `message` by `simp` is slow, so by `rfl`
  have unfolded : (Failure.connectFailed aliasName host database reason).message =
      "Failed to initialize connection " ++ Failure.quoted aliasName ++ ": " ++ reason := rfl
  rw [unfolded, Failure.quoted]
  simp only [String.append_assoc]
  simp only [← String.append_assoc, String.reduceAppend]

/-- A failed bootstrap leaves the gate as it was.  Take a queued `ensure` or `init`
that gets the mutex, runs, with any other steps in between, until the connector
refuses the alias it waits for, and then, again with any other steps in between,
sees its closes end, each failing or not as `fails` says.  Then the connector was
called for the configured aliases up to the refused one, in order; the connections
the bootstrap opened got fresh serial numbers, and `close` was called on them and
on nothing else; the gate was closed and empty before and is after; the call fails
with `connectFailed` for the refused alias, its host and database, and the
connector's reason; and the log gains only the errors of the failed closes and one
warning after them. -/
theorem failed_bootstrap_rolls_back {target : TargetConfig} (distinct : (target.connections.map (·.1)).Nodup)
    {s t u u' w v : GateState} {i : Nat} {kind : GateCallKind} {opened : List Conn}
    {current : String × TargetConnection} {rest : List (String × TargetConnection)} {reason : String}
    {fails : Conn → Bool}
    (reach : GateReachable target (fun _ => True) s) (queued : s.callers[i]? = some ⟨kind, .queued⟩)
    (notClose : kind ≠ .close) (resumed : s.step target (.resume i) = some t)
    (opening : GateState.Steps target t u) (waiting : u.phase? i = some (.connecting opened current rest))
    (refused : u.step target (.connected i (.error reason)) = some u')
    (rollingBack : GateState.Steps target u' w) (closed : w.step target (.settled i fails) = some v) :
    ∃ before failure, target.connections = before ++ current :: rest ∧
      opened.map (·.aliasName) = before.map (·.1) ∧
      opened.map (·.serial) = List.range' s.serial opened.length ∧ opened.Nodup ∧
      v.connectCalls = s.connectCalls ++ (before.map (·.1) ++ [current.1]) ∧
      v.returned = s.returned ++ opened ∧ v.closeCalls = s.closeCalls ++ opened ∧
      s.initialized = false ∧ s.connections = [] ∧ v.initialized = false ∧ v.connections = [] ∧
      failure = .connectFailed current.1 current.2.host current.2.database reason ∧
      v.phase? i = some (.done (.error failure)) ∧ failure.kind = .connection ∧
      failure.message = "Failed to initialize connection '" ++ current.1 ++ "': " ++ reason ∧
      failure.details = some (Failure.textDetails
        [("alias", current.1), ("host", current.2.host), ("database", current.2.database)]) ∧
      v.logs = s.logs ++ List.replicate (opened.filter fails).length ⟨.error, "Failed to close connection"⟩ ++
        (if (opened.filter fails).length > 0 then
          [⟨.warn, "Rollback after failed bootstrap did not close every connection"⟩] else []) := by
  have inv := reach.inv distinct
  -- the bootstrap opens connections from the state where it got the mutex
  obtain ⟨kind', -, queued', rfl⟩ := GateState.step_resume_eq resumed
  rw [queued] at queued'
  cases queued'
  obtain ⟨invU, openingU⟩ := GateState.Steps.keep distinct
    (fun inv holds stepped => holds.step inv distinct stepped) opening (inv.step distinct resumed)
    (GateState.Opening.start queued notClose)
  simp only [GateState.Opening, waiting] at openingU
  obtain ⟨wasClosed, serials, -, eventsU, logsU⟩ := openingU
  obtain ⟨c, hc, phase⟩ := Option.map_eq_some_iff.mp waiting
  obtain ⟨before, split, aliases⟩ := invU.connecting_prefix i c opened current rest hc phase
  -- the connector refuses, and the bootstrap closes what it opened
  obtain ⟨c', opened', current', rest', hc', phase', rolled⟩ := GateState.step_connected_eq refused
  rw [hc] at hc'
  cases hc'
  rw [phase] at phase'
  cases phase'
  have rollingU : GateState.RollingBack i (.connectFailed current.1 current.2.host current.2.database reason)
      opened u'.events u'.logs u' :=
    .inl ⟨by simp [rolled, GateState.phase?, GateState.connected, hc], rfl, rfl⟩
  obtain ⟨invW, rollingW⟩ := GateState.Steps.keep distinct
    (fun inv holds stepped => GateState.RollingBack.step inv holds stepped) rollingBack
    (invU.step distinct refused) rollingU
  -- the closes end while the call still rolls back
  obtain ⟨d, hd, ⟨failure, closing, phaseW, rfl⟩ | ⟨held, phaseW, -⟩⟩ := GateState.step_settled_eq closed
  all_goals rcases rollingW with ⟨rollingPhase, eventsW, logsW⟩ | ⟨reply, settledW⟩
  rotate_left
  · simp [GateState.phase?, hd, phaseW] at settledW
  · simp [GateState.phase?, hd, phaseW] at rollingPhase
  · simp [GateState.phase?, hd, phaseW] at settledW
  simp only [GateState.phase?, hd, phaseW, Option.map_some, Option.some.injEq, Phase.rollingBack.injEq]
    at rollingPhase
  obtain ⟨failureIs, closingIs⟩ := rollingPhase
  subst failure closing
  have closedW := invW.critical_closed i d hd (by rw [phaseW]; rfl)
  have events : (w.rolledBack i (.connectFailed current.1 current.2.host current.2.database reason) opened
      fails).events = s.events ++ GateState.openingEvents opened ++ [.connect current.1] ++ opened.map GateEvent.close := by
    rw [GateState.rolledBack_events, eventsW, rolled]
    simp [GateState.connected, eventsU]
  -- the opened connections are numbered apart
  have apart : opened.Nodup := List.Nodup.of_map (·.serial) (by rw [serials]; exact List.nodup_range')
  refine ⟨before, _, split, aliases, serials, apart, ?_, ?_, ?_, wasClosed, inv.closed_empty wasClosed, ?_, ?_, rfl,
    ?_, rfl, Failure.connectFailed_message _ _ _ _, rfl, ?_⟩
  · simp [GateState.connectCalls, events, List.filterMap_map, aliases]
  · simp [GateState.returned, events]
  · simp only [GateState.closeCalls, events, List.filterMap_append, GateState.closeCalls_openingEvents,
      List.filterMap_cons, GateEvent.closedConn?_connect, List.filterMap_map,
      GateEvent.closedConn?_comp_close, List.filterMap_some, List.filterMap_nil, List.append_nil]
  · rw [GateState.rolledBack_initialized, closedW]
  · rw [GateState.rolledBack_connections, invW.closed_empty closedW]
  · obtain ⟨logs, eq⟩ := GateState.rolledBack_eq (s := w) (i := i) _ opened fails
    rw [eq]
    exact GateState.phase?_settle_self hd _
  · rw [GateState.rolledBack_logs, logsW, rolled]
    simp [GateState.connected, logsU]

/-- The connector opens the first of two databases and refuses the second, and the
close of the first fails. -/
theorem failed_bootstrap_on_pair :
    ∃ (s t u u' v : GateState) (opened : List Conn) (current : String × TargetConnection)
      (rest : List (String × TargetConnection)),
      (pairTarget.connections.map (·.1)).Nodup ∧ GateReachable pairTarget (fun _ => True) s ∧
      s.callers[0]? = some ⟨.ensure, .queued⟩ ∧ GateCallKind.ensure ≠ .close ∧
      s.step pairTarget (.resume 0) = some t ∧ GateState.Steps pairTarget t u ∧
      u.phase? 0 = some (.connecting opened current rest) ∧
      u.step pairTarget (.connected 0 (.error "connection refused")) = some u' ∧
      GateState.Steps pairTarget u' u' ∧ u'.step pairTarget (.settled 0 fun _ => true) = some v ∧
      ∃ before failure, pairTarget.connections = before ++ current :: rest ∧
        opened.map (·.aliasName) = before.map (·.1) ∧
        opened.map (·.serial) = List.range' s.serial opened.length ∧ opened.Nodup ∧
        v.connectCalls = s.connectCalls ++ (before.map (·.1) ++ [current.1]) ∧
        v.returned = s.returned ++ opened ∧ v.closeCalls = s.closeCalls ++ opened ∧
        s.initialized = false ∧ s.connections = [] ∧ v.initialized = false ∧ v.connections = [] ∧
        failure = .connectFailed current.1 current.2.host current.2.database "connection refused" ∧
        v.phase? 0 = some (.done (.error failure)) ∧ failure.kind = .connection ∧
        failure.message = "Failed to initialize connection '" ++ current.1 ++ "': " ++ "connection refused" ∧
        failure.details = some (Failure.textDetails
          [("alias", current.1), ("host", current.2.host), ("database", current.2.database)]) ∧
        v.logs = s.logs ++ List.replicate (opened.filter fun _ => true).length
            ⟨.error, "Failed to close connection"⟩ ++
          (if (opened.filter fun _ => true).length > 0 then
            [⟨.warn, "Rollback after failed bootstrap did not close every connection"⟩] else []) := by
  have reach : GateReachable pairTarget (fun _ => True) (({} : GateState).call .ensure) :=
    .step (a := .call .ensure) .start trivial rfl
  refine ⟨_, _, _, _, _, _, _, _, by decide, reach, rfl, by decide, rfl,
    .single ⟨.connected 0 (.ok ()), rfl⟩, rfl, rfl, .refl, rfl, ?_⟩
  exact failed_bootstrap_rolls_back (by decide) reach rfl (by decide) rfl
    (.single ⟨.connected 0 (.ok ()), rfl⟩) rfl rfl .refl rfl

end ModelTables
