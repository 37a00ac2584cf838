/-! # The mutex, step by step

A promise-chain mutex lets the tasks given to it run one at a time.  It holds one
promise, its tail, which starts resolved.  A call to `runExclusive` takes the tail
as the promise it waits for, puts a new promise of its own in its place, and waits.
Once the promise it waits for is resolved, it calls its task; when the task has
settled, with a value or an error, the call resolves its own promise and settles
with the task's outcome.  A task that throws as it is called is caught the same
way, within the step that called it.

Calls overlap, so the mutex is modelled as a machine whose steps are the pieces of
its calls between two waits: which call goes next, and when and how each task
settles, is chosen by the step taken.  Promises are numbered in the order they are
made, the resolved tail the mutex starts with first.  The record of events says
when each task was called and settled, and how each call settled.
-/

namespace ModelTables

/-- Where a call of `runExclusive` stands. -/
inductive MutexPhase (α : Type) where
  /-- Waiting for the promise it took as the tail. -/
  | waiting
  /-- Its task was called and has not settled. -/
  | running
  /-- Its task settled with `outcome`, which the call has not yet taken up. -/
  | finishing (outcome : Except String α)
  /-- Settled with `reply`, its own promise resolved. -/
  | done (reply : Except String α)
  deriving Inhabited

namespace MutexPhase

variable {α : Type}

def isWaiting : MutexPhase α → Bool
  | .waiting => true
  | _ => false

/-- Whether the call's task was called and the call has not settled. -/
def isActive : MutexPhase α → Bool
  | .running | .finishing _ => true
  | _ => false

def isDone : MutexPhase α → Bool
  | .done _ => true
  | _ => false

end MutexPhase

/-- A call of `runExclusive`. -/
structure MutexCall (α : Type) where
  /-- The promise it waits for: the tail when it was called. -/
  previous : Nat
  /-- The promise it made, resolved once its task has settled. -/
  own : Nat
  phase : MutexPhase α
  deriving Inhabited

/-- What the mutex does that its callers see, in order. -/
inductive MutexEvent (α : Type) where
  /-- Caller `i`'s task is called. -/
  | started (i : Nat)
  /-- Caller `i`'s task settles, or throws as it is called. -/
  | taskSettled (i : Nat) (outcome : Except String α)
  /-- Caller `i`'s call settles. -/
  | replied (i : Nat) (reply : Except String α)

namespace MutexEvent

/-- The caller of a task that is called. -/
def started? {α : Type} : MutexEvent α → Option Nat
  | .started i => some i
  | _ => none

end MutexEvent

/-- A mutex with the calls made to it so far. -/
structure MutexState (α : Type) where
  tail : Nat := 0
  /-- The number of promises made so far. -/
  made : Nat := 1
  resolved : List Nat := [0]
  /-- Every call made so far, numbered by position. -/
  calls : List (MutexCall α) := []
  events : List (MutexEvent α) := []
  deriving Inhabited

/-- One step of the mutex.  `call` runs a new call up to its wait; the others
continue caller `i` from where it waits. -/
inductive MutexAction (α : Type) where
  | call
  /-- Caller `i`'s wait ends and it calls its task, which throws at once with
  `thrown` when that is given. -/
  | start (i : Nat) (thrown : Option String)
  /-- Caller `i`'s task settles. -/
  | settle (i : Nat) (outcome : Except String α)
  /-- Caller `i` takes up its task's outcome: it resolves its own promise and settles. -/
  | finish (i : Nat)

namespace MutexState

variable {α : Type}

/-- The phase of caller `i`. -/
def phase? (s : MutexState α) (i : Nat) : Option (MutexPhase α) := s.calls[i]?.map (·.phase)

def record (s : MutexState α) (e : MutexEvent α) : MutexState α := { s with events := s.events ++ [e] }

/-- Move caller `i` to another phase. -/
def moveTo (s : MutexState α) (i : Nat) (p : MutexPhase α) : MutexState α :=
  { s with calls := s.calls.modify i fun c => { c with phase := p } }

/-- Caller `i` resolves its promise `own` and settles with `reply`. -/
def release (s : MutexState α) (i own : Nat) (reply : Except String α) : MutexState α :=
  { (s.moveTo i (.done reply)).record (.replied i reply) with resolved := s.resolved ++ [own] }

/-- Make a call: it takes the tail as the promise it waits for and puts a new
promise of its own in its place. -/
def call (s : MutexState α) : MutexState α :=
  { s with tail := s.made, made := s.made + 1, calls := s.calls ++ [⟨s.tail, s.made, .waiting⟩] }

/-- Take a step, when it can be taken. -/
def step (s : MutexState α) : MutexAction α → Option (MutexState α)
  | .call => some s.call
  | .start i thrown =>
    match s.calls[i]? with
    | some ⟨previous, own, .waiting⟩ =>
      if s.resolved.contains previous then
        let started := s.record (.started i)
        match thrown with
        | none => some (started.moveTo i .running)
        | some e => some ((started.record (.taskSettled i (.error e))).release i own (.error e))
      else none
    | _ => none
  | .settle i outcome =>
    match s.calls[i]? with
    | some ⟨_, _, .running⟩ => some ((s.moveTo i (.finishing outcome)).record (.taskSettled i outcome))
    | _ => none
  | .finish i =>
    match s.calls[i]? with
    | some ⟨_, own, .finishing outcome⟩ => some (s.release i own outcome)
    | _ => none

/-- The state a sequence of steps reaches, when each can be taken. -/
def run (s : MutexState α) (actions : List (MutexAction α)) : Option (MutexState α) :=
  actions.foldlM step s

end MutexState

/-- The states a mutex reaches from a fresh one. -/
inductive MutexReachable {α : Type} : MutexState α → Prop
  | start : MutexReachable {}
  | step {s s' : MutexState α} {a : MutexAction α} : MutexReachable s → s.step a = some s' →
      MutexReachable s'

end ModelTables
