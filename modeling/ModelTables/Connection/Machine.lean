import ModelTables.Config.Target
import ModelTables.Log

/-! # The connection gate, step by step

A gate opens the target connections lazily, at most once, and closes them on
request.  Its calls are asynchronous and may overlap, so the gate is modelled as a
machine whose steps are the pieces of its calls between two waits: code between
two waits runs without interruption, and everything else (which call goes next,
what the connector answers, how each `close` of a connection ends) is chosen by the
step taken.

* `ensure` and `init` check the gate first and return at once when it is open.
  Otherwise they queue on the gate's mutex; once they hold it they check again,
  and when the gate is still closed they bootstrap: call the connector for every
  configured alias in order, then publish the opened connections and open the
  gate.  When a connect fails, the connections opened so far are closed (each
  failure to close is logged, then a warning that the rollback was incomplete)
  and the call fails with the connector's reason; the gate stays closed.
* `close` queues on the mutex.  Holding it, it does nothing when the gate is
  closed; otherwise it takes the connections, marks the gate closed, calls `close`
  on every connection it took, and fails with the number of failed closes when
  there are any (each logged).
* `reset` forgets the connections at once, without closing them.

The mutex lets callers through one at a time, in the order they asked for it: its
queue lists the callers that wait for it or hold it, the first holding it.  A call
settles at its last step inside the gate; what carries its reply back to its
caller afterwards changes nothing the gate holds.

Connections are told apart by a serial number, so the record of events says which
connection each `close` was called on.
-/

namespace ModelTables

/-- A connection the connector returned: the alias it was opened for, and its serial
number among all the connections returned to the gate. -/
structure Conn where
  aliasName : String
  serial : Nat
  deriving DecidableEq, Inhabited, Repr

/-- What the gate does to the outside world, in order. -/
inductive GateEvent where
  /-- The connector is called for an alias. -/
  | connect (aliasName : String)
  /-- The connector returned a connection. -/
  | opened (conn : Conn)
  /-- A connection's `close` is called. -/
  | close (conn : Conn)
  deriving DecidableEq, Inhabited, Repr

namespace GateEvent

/-- The alias of a call to the connector. -/
def connectAlias? : GateEvent → Option String
  | .connect a => some a
  | _ => none

/-- The connection of a return from the connector. -/
def openedConn? : GateEvent → Option Conn
  | .opened c => some c
  | _ => none

/-- The connection of a call to `close`. -/
def closedConn? : GateEvent → Option Conn
  | .close c => some c
  | _ => none

end GateEvent

/-- The calls that may wait for the gate's mutex. -/
inductive GateCallKind where
  | ensure
  | init
  | close
  deriving DecidableEq, Inhabited, Repr

/-- Where a call stands. -/
inductive Phase where
  /-- Waiting for the mutex. -/
  | queued
  /-- Bootstrapping: the connections `opened` so far, the connector called for
  `current`, and the aliases still to open. -/
  | connecting (opened : List Conn) (current : String × TargetConnection)
      (rest : List (String × TargetConnection))
  /-- A bootstrap that failed with `failure`, closing what it had opened. -/
  | rollingBack (failure : Failure) (closing : List Conn)
  /-- A `close` closing the connections the gate held. -/
  | closing (held : List Conn)
  /-- Settled: resolved, or rejected with a failure. -/
  | done (reply : Except Failure Unit)
  deriving Inhabited

namespace Phase

/-- Whether the call has settled. -/
def isDone : Phase → Bool
  | .done _ => true
  | _ => false

/-- Whether the call is inside the mutex, between getting it and letting it go. -/
def isCritical : Phase → Bool
  | .connecting .. | .rollingBack .. | .closing _ => true
  | _ => false

/-- Whether the call is bootstrapping: opening connections or rolling them back. -/
def isBootstrap : Phase → Bool
  | .connecting .. | .rollingBack .. => true
  | _ => false

/-- The connections a call holds that nobody else knows of: those a bootstrap has
opened and not yet published. -/
def holding : Phase → List Conn
  | .connecting opened _ _ => opened
  | _ => []

end Phase

/-- A call to the gate: what it is and where it stands. -/
structure Caller where
  kind : GateCallKind
  phase : Phase
  deriving Inhabited

/-- A gate with the calls made to it so far. -/
structure GateState where
  initialized : Bool := false
  /-- The published connections, by alias, in insertion order. -/
  connections : List Conn := []
  /-- The mutex: callers by number, in the order they asked for it; the first holds
  it or is about to. -/
  queue : List Nat := []
  /-- Every call made so far, numbered by position. -/
  callers : List Caller := []
  /-- The serial number of the next connection. -/
  serial : Nat := 0
  events : List GateEvent := []
  logs : List LogEntry := []
  deriving Inhabited

/-- One step of the gate.  `call` starts a call and runs it up to its first wait;
the others continue caller `i` from where it waits. -/
inductive GateAction where
  | call (kind : GateCallKind)
  | reset
  /-- Caller `i`, first in the queue, gets the mutex. -/
  | resume (i : Nat)
  /-- The connector answers caller `i`'s connect: a connection, or a failure with
  its reason. -/
  | connected (i : Nat) (answer : Except String Unit)
  /-- Every close caller `i` started has ended; `fails c` says whether closing `c`
  failed. -/
  | settled (i : Nat) (fails : Conn → Bool)

namespace GateAction

/-- Whether the step continues a call already made. -/
def isInternal : GateAction → Bool
  | .call _ | .reset => false
  | _ => true

/-- Whether the step is a `reset`. -/
def isReset : GateAction → Bool
  | .reset => true
  | _ => false

/-- Whether the step starts a `close`. -/
def startsClose : GateAction → Bool
  | .call .close => true
  | _ => false

/-- Whether the step is a connect that failed. -/
def connectFails : GateAction → Bool
  | .connected _ (.error _) => true
  | _ => false

end GateAction

/-- Set a connection in a map keyed by alias: an alias already there keeps its
place and takes the new connection, a new one goes last. -/
def putConn (m : List Conn) (conn : Conn) : List Conn :=
  if m.any (·.aliasName == conn.aliasName) then
    m.map fun c => if c.aliasName == conn.aliasName then conn else c
  else m ++ [conn]

namespace GateState

/-- The phase of caller `i`. -/
def phase? (s : GateState) (i : Nat) : Option Phase := s.callers[i]?.map (·.phase)

/-- Record an event. -/
def record (s : GateState) (e : GateEvent) : GateState := { s with events := s.events ++ [e] }

/-- Move caller `i` to another phase. -/
def moveTo (s : GateState) (i : Nat) (p : Phase) : GateState :=
  { s with callers := s.callers.modify i fun c => { c with phase := p } }

/-- Caller `i` settles with a reply and lets the next caller have the mutex. -/
def settle (s : GateState) (i : Nat) (reply : Except Failure Unit) : GateState :=
  { s.moveTo i (.done reply) with queue := s.queue.tail }

/-- Log one error for each of `n` connections that failed to close. -/
def logCloseFailures (s : GateState) (n : Nat) : GateState :=
  { s with logs := s.logs ++ List.replicate n ⟨.error, "Failed to close connection"⟩ }

/-- Start a call: `ensure` and `init` return at once on an open gate; otherwise the
call queues on the mutex. -/
def call (s : GateState) (kind : GateCallKind) : GateState :=
  let queued : GateState :=
    { s with callers := s.callers ++ [⟨kind, .queued⟩], queue := s.queue ++ [s.callers.length] }
  match kind with
  | .close => queued
  | .ensure | .init =>
    if s.initialized then { s with callers := s.callers ++ [⟨kind, .done (.ok ())⟩] } else queued

/-- Go on with caller `i`'s bootstrap: call the connector for the next alias, or,
with none left, publish the opened connections and open the gate. -/
def proceed (s : GateState) (i : Nat) (opened : List Conn) :
    List (String × TargetConnection) → GateState
  | [] => { s.settle i (.ok ()) with connections := opened, initialized := true }
  | (a, c) :: rest => (s.record (.connect a)).moveTo i (.connecting opened (a, c) rest)

/-- Caller `i`, of the given kind, gets the mutex and checks the gate again. -/
def resume (target : TargetConfig) (s : GateState) (i : Nat) : GateCallKind → GateState
  | .close =>
    if s.initialized then
      ({ s with connections := [], initialized := false
                events := s.events ++ s.connections.map GateEvent.close }).moveTo i (.closing s.connections)
    else s.settle i (.ok ())
  | .ensure | .init => if s.initialized then s.settle i (.ok ()) else s.proceed i [] target.connections

/-- The connector answers caller `i`, which waits on it for `current`: a new
connection joins the opened ones and the bootstrap goes on; a failure closes the
opened ones and rolls back. -/
def connected (s : GateState) (i : Nat) (opened : List Conn) (current : String × TargetConnection)
    (rest : List (String × TargetConnection)) : Except String Unit → GateState
  | .ok () =>
    let conn : Conn := ⟨current.1, s.serial⟩
    ({ s.record (.opened conn) with serial := s.serial + 1 }).proceed i (putConn opened conn) rest
  | .error reason =>
    ({ s with events := s.events ++ opened.map GateEvent.close }).moveTo i
      (.rollingBack (.connectFailed current.1 current.2.host current.2.database reason) opened)

/-- The closes of a failed bootstrap have ended: failures are logged, with a warning
when there were any, and the call fails. -/
def rolledBack (s : GateState) (i : Nat) (failure : Failure) (closing : List Conn)
    (fails : Conn → Bool) : GateState :=
  let n := (closing.filter fails).length
  let logged := s.logCloseFailures n
  let warned := if n > 0 then
      { logged with logs := logged.logs ++
          [⟨.warn, "Rollback after failed bootstrap did not close every connection"⟩] }
    else logged
  warned.settle i (.error failure)

/-- The closes of a `close` have ended: failures are logged, and the call fails with
their number when there are any. -/
def closed (s : GateState) (i : Nat) (held : List Conn) (fails : Conn → Bool) : GateState :=
  let n := (held.filter fails).length
  (s.logCloseFailures n).settle i (if n > 0 then .error (.closeFailed n) else .ok ())

/-- Take a step, when it can be taken. -/
def step (target : TargetConfig) (s : GateState) : GateAction → Option GateState
  | .call kind => some (s.call kind)
  | .reset => some { s with connections := [], initialized := false }
  | .resume i =>
    match s.queue.head?, s.callers[i]? with
    | some j, some ⟨kind, .queued⟩ => if j = i then some (s.resume target i kind) else none
    | _, _ => none
  | .connected i answer =>
    match s.phase? i with
    | some (.connecting opened current rest) => some (s.connected i opened current rest answer)
    | _ => none
  | .settled i fails =>
    match s.phase? i with
    | some (.rollingBack failure closing) => some (s.rolledBack i failure closing fails)
    | some (.closing held) => some (s.closed i held fails)
    | _ => none

/-- The connections the connector returned, in order. -/
def returned (s : GateState) : List Conn := s.events.filterMap GateEvent.openedConn?

/-- The connections `close` was called on, in order. -/
def closeCalls (s : GateState) : List Conn := s.events.filterMap GateEvent.closedConn?

/-- The aliases the connector was called for, in order. -/
def connectCalls (s : GateState) : List String := s.events.filterMap GateEvent.connectAlias?

/-- Whether no step continues a call: every call has settled or waits on nothing
the gate can answer. -/
def Stuck (target : TargetConfig) (s : GateState) : Prop :=
  ∀ a : GateAction, a.isInternal = true → s.step target a = none

end GateState

/-- The states a gate reaches from a fresh one by steps that `allowed` admits. -/
inductive GateReachable (target : TargetConfig) (allowed : GateAction → Prop) : GateState → Prop
  | start : GateReachable target allowed {}
  | step {s s' : GateState} {a : GateAction} : GateReachable target allowed s → allowed a →
      s.step target a = some s' → GateReachable target allowed s'

end ModelTables
