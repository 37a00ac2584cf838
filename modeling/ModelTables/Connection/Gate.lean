import ModelTables.Connection.Machine

/-! # Scripts of gate calls

A script drives a gate (`GateState`) with a connector that answers from lists:
`connect` fails for every alias in `failConnect` and for the first attempt on an
alias in `failConnectOnce`, and a connection's `close` fails for every alias in
`failClose`.

Requests started together first do their immediate part, in order: reading the
state, forgetting it, finding the gate open, or queueing on the mutex.  The queued
ones then run in the order they were started, each to its end, with the connector
answering every wait: this is one of the schedules the gate's steps allow, and the
one a single-threaded caller sees when it starts the calls without waiting between
them.
-/

namespace ModelTables

/-- Which connections fail to open or close. -/
structure Connector where
  failConnect : List String := []
  failClose : List String := []
  failConnectOnce : List String := []
  deriving Inhabited

namespace Connector

/-- The connector's answer to a connect for an alias, with the aliases whose first
attempt has happened afterwards. -/
def answer (k : Connector) (attempted : List String) (aliasName : String) :
    Except String Unit × List String :=
  let once := k.failConnectOnce.contains aliasName && !attempted.contains aliasName
  let attempted := if once then attempted ++ [aliasName] else attempted
  if k.failConnect.contains aliasName || once then
    (.error ("connection refused for " ++ aliasName), attempted)
  else (.ok (), attempted)

/-- Whether closing a connection fails. -/
def closeFails (k : Connector) (conn : Conn) : Bool := k.failClose.contains conn.aliasName

end Connector

/-- A gate driven by a scripted connector. -/
structure GateWorld where
  target : TargetConfig
  connector : Connector
  /-- Aliases whose first attempt to open has happened. -/
  attempted : List String := []
  gate : GateState := {}
  deriving Inhabited

/-- Computations over a driven gate. -/
abbrev GateM := StateM GateWorld

/-- A request to a gate. -/
inductive GateCall where
  | ensure
  | init
  | close
  | reset
  | isInitialized
  | getConnection (aliasName : Option String)
  | getConnections
  deriving Inhabited, Repr

/-- A successful reply. -/
inductive GateReply where
  | done
  | flag (value : Bool)
  | connection (name : String)
  | aliases (names : List String)
  deriving Inhabited, Repr

namespace Gate

/-- The step that moves caller `i` on, with the connector's answer to what it waits
for and the connector's memory afterwards. -/
def nextAction (w : GateWorld) (i : Nat) : Option (GateAction × List String) :=
  match w.gate.phase? i with
  | some .queued => some (.resume i, w.attempted)
  | some (.connecting _ current _) =>
    let (answer, attempted) := w.connector.answer w.attempted current.1
    some (.connected i answer, attempted)
  | some (.rollingBack ..) | some (.closing _) => some (.settled i w.connector.closeFails, w.attempted)
  | _ => none

/-- Take caller `i`'s next step, if it has one. -/
def advance (i : Nat) : GateM Unit :=
  modify fun w =>
    match nextAction w i with
    | some (a, attempted) =>
      match w.gate.step w.target a with
      | some gate => { w with gate, attempted }
      | none => w
    | none => w

/-- Run caller `i` to its end: it takes at most one step to get the mutex, one per
alias, and one for its closes. -/
def finish (i : Nat) : GateM Unit := do
  let w ← get
  (List.replicate (w.target.connections.length + 2) ()).forM fun _ => advance i

/-- The reply of a settled caller. -/
def replyOf (gate : GateState) (i : Nat) : Except Failure GateReply :=
  match gate.phase? i with
  | some (.done reply) => reply.map fun _ => .done
  | _ => .ok .done

/-- Start a call that goes through the mutex: its reply when it settles at once,
else its number. -/
def enter (kind : GateCallKind) : GateM (Sum (Except Failure GateReply) Nat) := do
  let w ← get
  let i := w.gate.callers.length
  let gate := w.gate.call kind
  set { w with gate }
  match gate.phase? i with
  | some (.done reply) => return .inl (reply.map fun _ => .done)
  | _ => return .inr i

/-- The immediate part of a request: its reply, or the caller left waiting. -/
def start : GateCall → GateM (Sum (Except Failure GateReply) Nat)
  | .ensure => enter .ensure
  | .init => enter .init
  | .close => enter .close
  | .reset => do
    modify fun w => { w with gate := { w.gate with connections := [], initialized := false } }
    return .inl (.ok .done)
  | .isInitialized => return .inl (.ok (.flag (← get).gate.initialized))
  | .getConnection aliasName => do
    let gate := (← get).gate
    let missing : Failure :=
      if gate.initialized then .unknownAlias aliasName else .notInitialized aliasName
    match aliasName with
    | some a =>
      return .inl (if gate.connections.any (·.aliasName == a) then .ok (.connection a) else .error missing)
    | none => return .inl (.error missing)
  | .getConnections => return .inl (.ok (.aliases ((← get).gate.connections.map (·.aliasName))))

/-- Start requests together, then let the waiting ones run in order. -/
def together (calls : List GateCall) : GateM (List (Except Failure GateReply)) := do
  let started ← calls.mapM start
  started.mapM fun
    | .inl reply => pure reply
    | .inr i => do
      finish i
      return replyOf (← get).gate i

end Gate

/-- One step of a script: a request alone, or requests started together. -/
inductive GateStep where
  | one (call : GateCall)
  | together (calls : List GateCall)
  deriving Inhabited, Repr

/-- The outcome of a step: one reply or failure per request. -/
inductive GateOutcome where
  | one (reply : Except Failure GateReply)
  | together (replies : List (Except Failure GateReply))
  deriving Inhabited

/-- What a step did: its outcome, its events and log, and whether the gate is
open afterwards. -/
structure GateRecord where
  outcome : GateOutcome
  events : List String
  initialized : Bool
  logs : List LogEntry
  deriving Inhabited

/-- The text of an event the connector records: connects and closes. -/
def GateEvent.text? : GateEvent → Option String
  | .connect a => some ("connect " ++ a)
  | .opened _ => none
  | .close c => some ("close " ++ c.aliasName)

namespace Gate

/-- Run one step. -/
def step : GateStep → GateM GateOutcome
  | .one call => do
    match ← together [call] with
    | [reply] => return .one reply
    | _ => return .together []
  | .together calls => return .together (← together calls)

/-- Run a script on a closed gate, recording each step on its own. -/
def script (target : TargetConfig) (connector : Connector) (steps : List GateStep) :
    List GateRecord :=
  (steps.foldl (fun (acc : List GateRecord × GateWorld) s =>
    let before := acc.2.gate
    let (outcome, w) := (step s).run acc.2
    (acc.1 ++ [{ outcome
                 events := (w.gate.events.drop before.events.length).filterMap GateEvent.text?
                 initialized := w.gate.initialized
                 logs := w.gate.logs.drop before.logs.length }], w))
    ([], { target, connector })).1

end Gate

end ModelTables
