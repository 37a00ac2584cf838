import ModelTables.Connection.Machine
import Mathlib.Data.List.Nodup

/-! # One bootstrap at a time

Every state a gate reaches, whatever calls are made and however their steps
interleave, satisfies `GateState.Inv`:

* the mutex queue lists, without repeats, exactly the calls that have not settled;
* a call inside the mutex (bootstrapping, rolling back or closing) is first in the
  queue, so there is at most one, and the gate is closed while it runs;
* a closed gate holds no connection, and an open one holds one connection per
  configured alias, in order;
* a bootstrap has opened the aliases before the one it waits for.

Each kind of step keeps the invariant (`Inv.step`), so every reachable state has
it (`GateReachable.inv`).  From it: a call never stays stuck, since the first in
the queue can always move (`settled_of_stuck`), and every step that continues a
call brings the calls nearer their end (`work_lt`).  With only `ensure` and `init`
calls and a connector that never fails, the connector is called for a prefix of
the aliases, and once no call can move, every call has succeeded, the gate is open
and the connector was called exactly once per alias (`Smooth`).

Main statement: `single_bootstrap`.
-/

namespace ModelTables

namespace GateEvent

@[simp] theorem connectAlias?_connect (a : String) : (connect a).connectAlias? = some a := rfl
@[simp] theorem connectAlias?_opened (c : Conn) : (opened c).connectAlias? = none := rfl
@[simp] theorem connectAlias?_close (c : Conn) : (close c).connectAlias? = none := rfl
@[simp] theorem openedConn?_connect (a : String) : (connect a).openedConn? = none := rfl
@[simp] theorem openedConn?_opened (c : Conn) : (opened c).openedConn? = some c := rfl
@[simp] theorem openedConn?_close (c : Conn) : (close c).openedConn? = none := rfl
@[simp] theorem closedConn?_connect (a : String) : (connect a).closedConn? = none := rfl
@[simp] theorem closedConn?_opened (c : Conn) : (opened c).closedConn? = none := rfl
@[simp] theorem closedConn?_close (c : Conn) : (close c).closedConn? = some c := rfl

end GateEvent

/-- A call inside the mutex has not settled. -/
theorem Phase.isDone_of_isCritical {p : Phase} (critical : p.isCritical = true) : p.isDone = false := by
  cases p <;> simp_all [Phase.isCritical, Phase.isDone]

namespace GateState

variable {s : GateState} {i j : Nat}

/-! ## What each operation does -/

@[simp] theorem getElem?_callers_moveTo (p : Phase) :
    (s.moveTo i p).callers[j]? =
      if i = j then s.callers[j]?.map fun c => { c with phase := p } else s.callers[j]? := by
  simp only [moveTo, List.getElem?_modify]
  split <;> simp

@[simp] theorem length_callers_moveTo (p : Phase) : (s.moveTo i p).callers.length = s.callers.length := by
  simp [moveTo]

@[simp] theorem getElem?_callers_settle (reply : Except Failure Unit) :
    (s.settle i reply).callers[j]? =
      if i = j then s.callers[j]?.map fun c => { c with phase := .done reply } else s.callers[j]? := by
  simp [settle]

@[simp] theorem moveTo_queue (p : Phase) : (s.moveTo i p).queue = s.queue := rfl

@[simp] theorem moveTo_initialized (p : Phase) : (s.moveTo i p).initialized = s.initialized := rfl

@[simp] theorem moveTo_connections (p : Phase) : (s.moveTo i p).connections = s.connections := rfl

@[simp] theorem moveTo_events (p : Phase) : (s.moveTo i p).events = s.events := rfl

@[simp] theorem moveTo_serial (p : Phase) : (s.moveTo i p).serial = s.serial := rfl

@[simp] theorem settle_events (reply : Except Failure Unit) : (s.settle i reply).events = s.events := rfl

@[simp] theorem settle_queue (reply : Except Failure Unit) : (s.settle i reply).queue = s.queue.tail := rfl

@[simp] theorem settle_initialized (reply : Except Failure Unit) :
    (s.settle i reply).initialized = s.initialized := rfl

@[simp] theorem settle_connections (reply : Except Failure Unit) :
    (s.settle i reply).connections = s.connections := rfl

@[simp] theorem record_callers (e : GateEvent) : (s.record e).callers = s.callers := rfl

@[simp] theorem record_queue (e : GateEvent) : (s.record e).queue = s.queue := rfl

@[simp] theorem record_initialized (e : GateEvent) : (s.record e).initialized = s.initialized := rfl

@[simp] theorem record_connections (e : GateEvent) : (s.record e).connections = s.connections := rfl

@[simp] theorem record_events (e : GateEvent) : (s.record e).events = s.events ++ [e] := rfl

@[simp] theorem length_callers_settle (reply : Except Failure Unit) :
    (s.settle i reply).callers.length = s.callers.length := by
  simp [settle]

/-- A caller after a move: the one moved, or another one as it was. -/
theorem getElem?_callers_moveTo_eq_some {p : Phase} {c' : Caller}
    (hc : (s.moveTo i p).callers[j]? = some c') :
    (i = j ∧ ∃ c, s.callers[j]? = some c ∧ c' = { c with phase := p }) ∨
      (i ≠ j ∧ s.callers[j]? = some c') := by
  rw [getElem?_callers_moveTo] at hc
  split at hc
  · obtain ⟨c, found, rfl⟩ := Option.map_eq_some_iff.mp hc
    exact .inl ⟨‹_›, c, found, rfl⟩
  · exact .inr ⟨‹_›, hc⟩

/-- Starting a call adds one caller, which either has settled (an open gate seen by
`ensure` or `init`) or queues on the mutex. -/
theorem call_eq (kind : GateCallKind) :
    s.call kind = if kind ≠ .close ∧ s.initialized = true then
        { s with callers := s.callers ++ [⟨kind, .done (.ok ())⟩] }
      else { s with callers := s.callers ++ [⟨kind, .queued⟩], queue := s.queue ++ [s.callers.length] } := by
  cases kind <;> cases h : s.initialized <;> simp [call, h]

/-! ## What a step can do -/

/-- A call gets the mutex only when it is first in the queue and waits for it. -/
theorem step_resume_eq {target : TargetConfig} {s' : GateState}
    (stepped : s.step target (.resume i) = some s') :
    ∃ kind, s.queue.head? = some i ∧ s.callers[i]? = some ⟨kind, .queued⟩ ∧
      s' = s.resume target i kind := by
  simp only [GateState.step] at stepped
  cases first : s.queue.head? with
  | none => simp [first] at stepped
  | some j =>
    cases found : s.callers[i]? with
    | none => simp [first, found] at stepped
    | some c =>
      obtain ⟨kind, phase⟩ := c
      cases phase with
      | queued =>
        simp only [first, found, Option.ite_none_right_eq_some, Option.some.injEq] at stepped
        obtain ⟨rfl, rfl⟩ := stepped
        exact ⟨kind, rfl, rfl, rfl⟩
      | _ => simp [first, found] at stepped

/-- The connector answers only a call that waits on it. -/
theorem step_connected_eq {target : TargetConfig} {s' : GateState} {answer : Except String Unit}
    (stepped : s.step target (.connected i answer) = some s') :
    ∃ c opened current rest, s.callers[i]? = some c ∧ c.phase = .connecting opened current rest ∧
      s' = s.connected i opened current rest answer := by
  simp only [GateState.step] at stepped
  split at stepped
  · rename_i opened current rest found
    obtain ⟨c, hc, phase⟩ := Option.map_eq_some_iff.mp found
    exact ⟨c, opened, current, rest, hc, phase, (Option.some.inj stepped).symm⟩
  · cases stepped

/-- Closes end only for a call that rolls back or closes. -/
theorem step_settled_eq {target : TargetConfig} {s' : GateState} {fails : Conn → Bool}
    (stepped : s.step target (.settled i fails) = some s') :
    ∃ c, s.callers[i]? = some c ∧
      ((∃ failure closing, c.phase = .rollingBack failure closing ∧
          s' = s.rolledBack i failure closing fails) ∨
        ∃ held, c.phase = .closing held ∧ s' = s.closed i held fails) := by
  simp only [GateState.step] at stepped
  split at stepped
  · rename_i failure closing found
    obtain ⟨c, hc, phase⟩ := Option.map_eq_some_iff.mp found
    exact ⟨c, hc, .inl ⟨failure, closing, phase, (Option.some.inj stepped).symm⟩⟩
  · rename_i held found
    obtain ⟨c, hc, phase⟩ := Option.map_eq_some_iff.mp found
    exact ⟨c, hc, .inr ⟨held, phase, (Option.some.inj stepped).symm⟩⟩
  · cases stepped

/-- Caller `j` has not settled. -/
def Waiting (s : GateState) (j : Nat) : Prop := ∃ c, s.callers[j]? = some c ∧ c.phase.isDone = false

/-- The invariant of every reachable gate. -/
structure Inv (target : TargetConfig) (s : GateState) : Prop where
  /-- The mutex queue has no repeats ... -/
  queue_nodup : s.queue.Nodup
  /-- ... and lists exactly the calls that have not settled. -/
  mem_queue : ∀ j, j ∈ s.queue ↔ s.Waiting j
  /-- A call inside the mutex is first in the queue. -/
  critical_first : ∀ (j : Nat) (c : Caller), s.callers[j]? = some c → c.phase.isCritical = true → s.queue.head? = some j
  /-- The gate is closed while a call is inside the mutex. -/
  critical_closed : ∀ (j : Nat) (c : Caller), s.callers[j]? = some c → c.phase.isCritical = true → s.initialized = false
  /-- Only `close` calls close the gate's connections. -/
  closing_kind : ∀ (j : Nat) (c : Caller) held, s.callers[j]? = some c → c.phase = .closing held → c.kind = .close
  /-- A closed gate holds no connection. -/
  closed_empty : s.initialized = false → s.connections = []
  /-- An open gate holds one connection per configured alias, in order. -/
  open_full : s.initialized = true → s.connections.map (·.aliasName) = target.connections.map (·.1)
  /-- A bootstrap has opened, in order, the aliases before the one it waits for. -/
  connecting_prefix : ∀ (j : Nat) (c : Caller) opened current rest, s.callers[j]? = some c →
    c.phase = .connecting opened current rest →
    ∃ before, target.connections = before ++ current :: rest ∧
      opened.map (·.aliasName) = before.map (·.1)

variable {target : TargetConfig}

/-- The invariant reads only the queue, the calls and the gate's own fields. -/
theorem Inv.congr {t : GateState} (inv : Inv target s) (queue : t.queue = s.queue)
    (callers : t.callers = s.callers) (initialized : t.initialized = s.initialized)
    (connections : t.connections = s.connections) : Inv target t := by
  obtain ⟨nodup, mem, first, closed, kind, empty, full, prefix_⟩ := inv
  refine ⟨?_, ?_, ?_, ?_, ?_, ?_, ?_, ?_⟩ <;> simp only [Waiting, queue, callers, initialized, connections]
  exacts [nodup, mem, first, closed, kind, empty, full, prefix_]


/-- A caller after one more joined: one of the earlier ones, or the new one. -/
theorem getElem?_append_singleton_eq_some {xs : List Caller} {x y : Caller} :
    (xs ++ [x])[j]? = some y ↔ xs[j]? = some y ∨ (j = xs.length ∧ y = x) := by
  rw [List.getElem?_append]
  split
  · rename_i before
    simp [List.getElem?_eq_getElem before, Nat.ne_of_lt before]
  · rename_i after
    have absent : xs[j]? = none := List.getElem?_eq_none (Nat.le_of_not_lt after)
    rw [absent, List.getElem?_singleton]
    constructor
    · intro found
      split at found
      · cases found
        exact .inr ⟨by omega, rfl⟩
      · cases found
    · rintro (found | ⟨rfl, rfl⟩)
      · cases found
      · simp

/-- A call joins outside the mutex, settled or queued last, and keeps the invariant. -/
theorem Inv.join (inv : Inv target s) (d : Caller) (calm : d.phase.isCritical = false)
    {t : GateState} (callers : t.callers = s.callers ++ [d])
    (queue : t.queue = if d.phase.isDone then s.queue else s.queue ++ [s.callers.length])
    (initialized : t.initialized = s.initialized) (connections : t.connections = s.connections) :
    Inv target t := by
  -- every call in the queue is one already made
  have below : ∀ j ∈ s.queue, j < s.callers.length := by
    intro j member
    obtain ⟨c, hc, -⟩ := (inv.mem_queue j).mp member
    exact (List.getElem?_eq_some_iff.mp hc).1
  -- a call inside the mutex is an earlier one
  have old : ∀ (j : Nat) (c : Caller), t.callers[j]? = some c → c.phase.isCritical = true →
      s.callers[j]? = some c := by
    intro j c hc critical
    rw [callers, getElem?_append_singleton_eq_some] at hc
    rcases hc with hc | ⟨-, rfl⟩
    · exact hc
    · rw [calm] at critical
      cases critical
  have head : ∀ j, s.queue.head? = some j → t.queue.head? = some j := by
    intro j first
    rw [queue]
    split
    · exact first
    · rw [List.head?_append, first]
      rfl
  refine ⟨?_, ?_, ?_, ?_, ?_, ?_, ?_, ?_⟩
  · rw [queue]
    split
    · exact inv.queue_nodup
    · exact List.nodup_append.mpr ⟨inv.queue_nodup, List.nodup_singleton _,
        fun j member j' fresh same => by
          rw [List.mem_singleton] at fresh
          exact absurd (below j member) (by omega)⟩
  · intro j
    simp only [Waiting, callers, getElem?_append_singleton_eq_some]
    rw [queue]
    split
    · rename_i settled
      rw [inv.mem_queue j]
      simp only [Waiting]
      constructor
      · rintro ⟨c, hc, waiting⟩
        exact ⟨c, .inl hc, waiting⟩
      · rintro ⟨c, hc | ⟨-, rfl⟩, waiting⟩
        · exact ⟨c, hc, waiting⟩
        · rw [settled] at waiting
          cases waiting
    · rename_i waiting
      rw [List.mem_append, inv.mem_queue j, List.mem_singleton]
      simp only [Waiting]
      constructor
      · rintro (⟨c, hc, waiting⟩ | rfl)
        · exact ⟨c, .inl hc, waiting⟩
        · exact ⟨d, .inr ⟨rfl, rfl⟩, by simpa using waiting⟩
      · rintro ⟨c, hc | ⟨rfl, rfl⟩, waiting⟩
        · exact .inl ⟨c, hc, waiting⟩
        · exact .inr rfl
  · intro j c hc critical
    exact head j (inv.critical_first j c (old j c hc critical) critical)
  · intro j c hc critical
    rw [initialized]
    exact inv.critical_closed j c (old j c hc critical) critical
  · intro j c held hc closing
    have critical : c.phase.isCritical = true := by rw [closing]; rfl
    exact inv.closing_kind j c held (old j c hc critical) closing
  · intro closed
    rw [connections]
    exact inv.closed_empty (initialized ▸ closed)
  · intro open_
    rw [connections]
    exact inv.open_full (initialized ▸ open_)
  · intro j c opened current rest hc connecting
    have critical : c.phase.isCritical = true := by rw [connecting]; rfl
    exact inv.connecting_prefix j c opened current rest (old j c hc critical) connecting

/-- A new call, settled at once or queued, keeps the invariant. -/
theorem Inv.call (inv : Inv target s) (kind : GateCallKind) : Inv target (s.call kind) := by
  rw [call_eq]
  split
  · exact inv.join ⟨kind, .done (.ok ())⟩ rfl rfl rfl rfl rfl
  · exact inv.join ⟨kind, .queued⟩ rfl rfl rfl rfl rfl

/-- Forgetting the connections keeps the invariant. -/
theorem Inv.reset (inv : Inv target s) :
    Inv target { s with connections := [], initialized := false } :=
  ⟨inv.queue_nodup, inv.mem_queue, inv.critical_first, fun _ _ _ _ => rfl, inv.closing_kind,
    fun _ => rfl, fun open_ => absurd open_ (by simp), inv.connecting_prefix⟩

/-- Two calls inside the mutex are the same call. -/
theorem Inv.critical_unique (inv : Inv target s) {c d : Caller} (hc : s.callers[i]? = some c)
    (critical : c.phase.isCritical = true) (hd : s.callers[j]? = some d)
    (critical' : d.phase.isCritical = true) : i = j := by
  have first := inv.critical_first i c hc critical
  rw [inv.critical_first j d hd critical'] at first
  exact (Option.some.inj first).symm

/-- The first call in the queue settles and the gate's fields are handed over as
given: nothing is inside the mutex afterwards. -/
theorem Inv.settleHead (inv : Inv target s) (head : s.queue.head? = some i)
    (reply : Except Failure Unit) {t : GateState} (queue : t.queue = s.queue.tail)
    (callers : t.callers = (s.moveTo i (.done reply)).callers)
    (closedEmpty : t.initialized = false → t.connections = [])
    (openFull : t.initialized = true →
      t.connections.map (·.aliasName) = target.connections.map (·.1)) :
    Inv target t := by
  obtain ⟨rest, hq⟩ := List.head?_eq_some_iff.mp head
  have nodup := inv.queue_nodup
  rw [hq, List.nodup_cons] at nodup
  rw [hq, List.tail_cons] at queue
  -- after `i` settles, no call is inside the mutex
  have calm : ∀ (j : Nat) (c : Caller), t.callers[j]? = some c → c.phase.isCritical = false := by
    intro j c hc
    rw [callers] at hc
    rcases getElem?_callers_moveTo_eq_some hc with ⟨-, c', -, rfl⟩ | ⟨apart, hc⟩
    · rfl
    · cases critical : c.phase.isCritical
      · rfl
      · have first := inv.critical_first j c hc critical
        rw [head] at first
        exact absurd (Option.some.inj first) apart
  refine ⟨queue ▸ nodup.2, ?_, ?_, ?_, ?_, closedEmpty, openFull, ?_⟩
  · intro j
    simp only [Waiting, queue, callers]
    constructor
    · intro member
      have waiting := (inv.mem_queue j).mp (by rw [hq]; exact List.mem_cons_of_mem _ member)
      have apart : i ≠ j := fun same => nodup.1 (same ▸ member)
      simpa [Waiting, apart] using waiting
    · rintro ⟨c, hc, waiting⟩
      rcases getElem?_callers_moveTo_eq_some hc with ⟨-, c', -, rfl⟩ | ⟨apart, hc⟩
      · cases waiting
      · have member := (inv.mem_queue j).mpr ⟨c, hc, waiting⟩
        rw [hq] at member
        exact (List.mem_cons.mp member).resolve_left (Ne.symm apart)
  · intro j c hc critical
    exact absurd critical (by simp [calm j c hc])
  · intro j c hc critical
    exact absurd critical (by simp [calm j c hc])
  · intro j c held hc closing
    have := calm j c hc
    rw [closing] at this
    cases this
  · intro j c opened current rest' hc connecting
    have := calm j c hc
    rw [connecting] at this
    cases this

/-- The first call in the queue moves on inside the mutex, with the gate closed and
empty: it is then the only call inside. -/
theorem Inv.moveHead (inv : Inv target s) (head : s.queue.head? = some i) {c : Caller}
    (hc : s.callers[i]? = some c) (waiting : c.phase.isDone = false) {p : Phase}
    (critical : p.isCritical = true) (kind : ∀ held, p = .closing held → c.kind = .close)
    (prefix_ : ∀ opened current rest, p = .connecting opened current rest →
      ∃ before, target.connections = before ++ current :: rest ∧
        opened.map (·.aliasName) = before.map (·.1))
    {t : GateState} (queue : t.queue = s.queue) (callers : t.callers = (s.moveTo i p).callers)
    (initialized : t.initialized = false) (connections : t.connections = []) :
    Inv target t := by
  -- any other call inside the mutex would be first in the queue too
  have alone : ∀ j d, j ≠ i → s.callers[j]? = some d → d.phase.isCritical = false := by
    intro j d apart hd
    cases critical' : d.phase.isCritical
    · rfl
    · have first := inv.critical_first j d hd critical'
      rw [head] at first
      exact absurd (Option.some.inj first).symm apart
  refine ⟨queue ▸ inv.queue_nodup, ?_, ?_, fun _ _ _ _ => initialized, ?_,
    fun _ => connections, fun open_ => absurd open_ (by simp [initialized]), ?_⟩
  · intro j
    rw [queue, inv.mem_queue j]
    simp only [Waiting, callers]
    by_cases same : i = j
    · subst same
      simp only [getElem?_callers_moveTo, if_true, hc, Option.map_some, Option.some.injEq,
        exists_eq_left']
      exact ⟨fun _ => Phase.isDone_of_isCritical critical, fun _ => waiting⟩

    · simp [same]
  · intro j d hd critical'
    rw [callers] at hd
    rw [queue]
    rcases getElem?_callers_moveTo_eq_some hd with ⟨rfl, -⟩ | ⟨apart, hd⟩
    · exact head
    · exact absurd critical' (by simp [alone j d (Ne.symm apart) hd])
  · intro j d held hd closing
    rw [callers] at hd
    rcases getElem?_callers_moveTo_eq_some hd with ⟨rfl, c', found, rfl⟩ | ⟨apart, hd⟩
    · rw [hc] at found
      cases found
      exact kind held closing
    · exact inv.closing_kind j d held hd closing
  · intro j d opened current rest hd connecting
    rw [callers] at hd
    rcases getElem?_callers_moveTo_eq_some hd with ⟨rfl, c', -, rfl⟩ | ⟨apart, hd⟩
    · exact prefix_ opened current rest connecting
    · exact inv.connecting_prefix j d opened current rest hd connecting

/-- A bootstrap goes on: it waits for the next alias, or publishes what it opened
and opens the gate. -/
theorem Inv.proceed (inv : Inv target s) (head : s.queue.head? = some i) {c : Caller}
    (hc : s.callers[i]? = some c) (waiting : c.phase.isDone = false) (closed : s.initialized = false)
    {opened : List Conn} {before rest : List (String × TargetConnection)}
    (split : target.connections = before ++ rest)
    (prefix_ : opened.map (·.aliasName) = before.map (·.1)) :
    Inv target (s.proceed i opened rest) := by
  cases rest with
  | nil =>
    refine inv.settleHead head (.ok ()) rfl rfl (fun open_ => by cases open_) fun _ => ?_
    show opened.map (·.aliasName) = target.connections.map (·.1)
    rw [split, List.append_nil]
    exact prefix_
  | cons next rest =>
    refine inv.moveHead head hc waiting rfl (fun _ other => by cases other) ?_ rfl rfl closed
      (inv.closed_empty closed)
    intro opened' current rest' same
    cases same
    exact ⟨before, split, prefix_⟩

/-- How `ensure` and `init` go on once they hold the mutex. -/
theorem resume_of_ne_close (target : TargetConfig) {kind : GateCallKind} (notClose : kind ≠ .close) :
    s.resume target i kind =
      if s.initialized then s.settle i (.ok ()) else s.proceed i [] target.connections := by
  cases kind <;> simp_all [resume]

/-- A call that gets the mutex keeps the invariant. -/
theorem Inv.resume (inv : Inv target s) (head : s.queue.head? = some i) {kind : GateCallKind}
    (hc : s.callers[i]? = some ⟨kind, .queued⟩) : Inv target (s.resume target i kind) := by
  by_cases close : kind = .close
  · subst close
    simp only [GateState.resume]
    split
    · exact inv.moveHead head hc rfl rfl (fun _ _ => rfl) (fun _ _ _ other => by cases other)
        rfl rfl rfl rfl
    · rename_i closed
      have closed : s.initialized = false := by simpa using closed
      exact inv.settleHead head (.ok ()) rfl rfl (fun _ => inv.closed_empty closed)
        (fun open_ => absurd open_ (by simp [closed]))
  · rw [resume_of_ne_close target close]
    split
    · rename_i open_
      exact inv.settleHead head (.ok ()) rfl rfl (fun closed => absurd open_ (by simp_all))
        (fun _ => inv.open_full open_)
    · rename_i closed
      -- nothing is opened yet: no alias comes before the first
      have split : target.connections = [] ++ target.connections := rfl
      exact inv.proceed head hc rfl (by simpa using closed) split rfl

/-- Setting a connection under an alias the map lacks appends it. -/
theorem putConn_of_fresh {m : List Conn} {conn : Conn} (fresh : ∀ c ∈ m, c.aliasName ≠ conn.aliasName) :
    putConn m conn = m ++ [conn] := by
  have absent : m.any (·.aliasName == conn.aliasName) = false := by simpa using fresh
  simp [putConn, absent]

/-- The alias a bootstrap waits for is not among those it has opened, since the
configured aliases are distinct. -/
theorem Inv.current_fresh (inv : Inv target s) (distinct : (target.connections.map (·.1)).Nodup)
    {c : Caller} {opened : List Conn} {current : String × TargetConnection}
    {rest : List (String × TargetConnection)} (hc : s.callers[i]? = some c)
    (phase : c.phase = .connecting opened current rest) :
    ∀ d ∈ opened, d.aliasName ≠ current.1 := by
  obtain ⟨before, split, prefix_⟩ := inv.connecting_prefix i c opened current rest hc phase
  intro d member same
  have keys := distinct
  rw [split, List.map_append, List.nodup_append] at keys
  have listed : current.1 ∈ before.map (·.1) := by
    rw [← prefix_, ← same]
    exact List.mem_map_of_mem member
  exact keys.2.2 _ listed _ (List.mem_map_of_mem List.mem_cons_self) rfl

/-- The connector's answer keeps the invariant: the bootstrap goes on with one more
connection, or rolls back. -/
theorem Inv.connected (inv : Inv target s) (distinct : (target.connections.map (·.1)).Nodup)
    {c : Caller} {opened : List Conn} {current : String × TargetConnection}
    {rest : List (String × TargetConnection)} (hc : s.callers[i]? = some c)
    (phase : c.phase = .connecting opened current rest) (answer : Except String Unit) :
    Inv target (s.connected i opened current rest answer) := by
  have critical : c.phase.isCritical = true := by rw [phase]; rfl
  have head := inv.critical_first i c hc critical
  have closed := inv.critical_closed i c hc critical
  obtain ⟨before, split, prefix_⟩ := inv.connecting_prefix i c opened current rest hc phase
  cases answer with
  | ok u =>
    cases u
    have fresh := inv.current_fresh distinct hc phase
    show Inv target ({ s.record (.opened ⟨current.1, s.serial⟩) with serial := s.serial + 1 }.proceed i
      (putConn opened ⟨current.1, s.serial⟩) rest)
    rw [putConn_of_fresh fresh]
    have recorded : Inv target { s.record (.opened ⟨current.1, s.serial⟩) with serial := s.serial + 1 } :=
      inv.congr rfl rfl rfl rfl
    have split' : target.connections = (before ++ [current]) ++ rest := by simp [split]
    refine recorded.proceed head hc (Phase.isDone_of_isCritical critical) closed split' ?_
    simp [prefix_]
  | error reason =>
    exact inv.moveHead head hc (Phase.isDone_of_isCritical critical) rfl (fun _ other => by cases other)
      (fun _ _ _ other => by cases other) rfl rfl closed (inv.closed_empty closed)

/-- A rollback only adds to the log before the call settles. -/
theorem rolledBack_eq (failure : Failure) (closing : List Conn) (fails : Conn → Bool) :
    ∃ logs, s.rolledBack i failure closing fails = { s.settle i (.error failure) with logs } := by
  simp only [rolledBack, logCloseFailures]
  split <;> exact ⟨_, rfl⟩

/-- The closes of a call that held the mutex end: it settles, and the invariant holds. -/
theorem Inv.settleCritical (inv : Inv target s) {c : Caller} (hc : s.callers[i]? = some c)
    (critical : c.phase.isCritical = true) (reply : Except Failure Unit) (logs : List LogEntry) :
    Inv target { s.settle i reply with logs } := by
  have closed := inv.critical_closed i c hc critical
  exact inv.settleHead (inv.critical_first i c hc critical) reply rfl rfl
    (fun _ => inv.closed_empty closed) (fun open_ => absurd open_ (by simp_all))

/-- Every step keeps the invariant. -/
theorem Inv.step (inv : Inv target s) (distinct : (target.connections.map (·.1)).Nodup)
    {a : GateAction} {s' : GateState} (stepped : s.step target a = some s') : Inv target s' := by
  cases a with
  | call kind =>
    cases stepped
    exact inv.call kind
  | reset =>
    cases stepped
    exact inv.reset
  | resume i =>
    obtain ⟨kind, first, hc, rfl⟩ := step_resume_eq stepped
    exact inv.resume first hc
  | connected i answer =>
    obtain ⟨c, opened, current, rest, hc, phase, rfl⟩ := step_connected_eq stepped
    exact inv.connected distinct hc phase answer
  | settled i fails =>
    obtain ⟨c, hc, ⟨failure, closing, phase, rfl⟩ | ⟨held, phase, rfl⟩⟩ := step_settled_eq stepped
    · obtain ⟨logs, eq⟩ := rolledBack_eq (s := s) (i := i) failure closing fails
      rw [eq]
      exact inv.settleCritical hc (by rw [phase]; rfl) _ logs
    · exact inv.settleCritical hc (by rw [phase]; rfl) _ _

/-- A fresh gate satisfies the invariant. -/
theorem inv_start : Inv target {} :=
  ⟨List.nodup_nil, fun _ => by simp [Waiting], fun _ _ found => by simp at found,
    fun _ _ found => by simp at found, fun _ _ _ found => by simp at found, fun _ => rfl,
    fun open_ => (by cases open_), fun _ _ _ _ _ found => by simp at found⟩

end GateState

/-- Every reachable gate satisfies the invariant, whatever steps are allowed. -/
theorem GateReachable.inv {target : TargetConfig} {allowed : GateAction → Prop} {s : GateState}
    (distinct : (target.connections.map (·.1)).Nodup) (reach : GateReachable target allowed s) :
    s.Inv target := by
  induction reach with
  | start => exact GateState.inv_start
  | step _ _ stepped inv => exact inv.step distinct stepped

/-! ## Progress

The first call in the queue can always take a step, so the calls stop only when
every one of them has settled; and every step that continues a call lowers the
number of steps the calls can still take. -/

namespace GateState

variable {target : TargetConfig} {s : GateState}

/-- When no call can take a step, every call has settled. -/
theorem Inv.settled_of_stuck (inv : Inv target s) (stuck : s.Stuck target) {j : Nat} {c : Caller}
    (hc : s.callers[j]? = some c) : c.phase.isDone = true := by
  cases settled : c.phase.isDone
  · exfalso
    -- a call that has not settled is queued, so the queue has a first call
    have member := (inv.mem_queue j).mpr ⟨c, hc, settled⟩
    obtain ⟨i, rest, queue⟩ := List.exists_cons_of_ne_nil (List.ne_nil_of_mem member)
    have head : s.queue.head? = some i := by rw [queue]; rfl
    obtain ⟨⟨kind, phase⟩, hd, waiting⟩ := (inv.mem_queue i).mp (by rw [queue]; exact List.mem_cons_self)
    -- and that call can move, whatever it waits for
    cases phase with
    | queued =>
      have blocked := stuck (.resume i) rfl
      simp [GateState.step, head, hd] at blocked
    | connecting opened current rest' =>
      have blocked := stuck (.connected i (.ok ())) rfl
      simp [GateState.step, phase?, hd] at blocked
    | rollingBack failure closing =>
      have blocked := stuck (.settled i fun _ => false) rfl
      simp [GateState.step, phase?, hd] at blocked
    | closing held =>
      have blocked := stuck (.settled i fun _ => false) rfl
      simp [GateState.step, phase?, hd] at blocked
    | done reply => cases waiting
  · rfl

end GateState

/-- The most steps a call can still take: one to get the mutex, one per alias, and
one for its closes. -/
def Phase.remaining (aliases : Nat) : Phase → Nat
  | .queued => aliases + 2
  | .connecting _ _ rest => rest.length + 2
  | .rollingBack .. | .closing _ => 1
  | .done _ => 0

namespace GateState

variable {target : TargetConfig} {s s' : GateState} {i : Nat}

/-- The most steps the calls made so far can still take. -/
def work (target : TargetConfig) (s : GateState) : Nat :=
  (s.callers.map fun c => c.phase.remaining target.connections.length).foldr (· + ·) 0

/-- Changing one element of a list changes the sum of a measure by that element alone. -/
theorem foldr_add_map_modify {f : Caller → Caller} {g : Caller → Nat} :
    ∀ {l : List Caller} {i : Nat} {c : Caller}, l[i]? = some c →
      ((l.modify i f).map g).foldr (· + ·) 0 + g c = (l.map g).foldr (· + ·) 0 + g (f c)
  | [], _, _, found => by simp at found
  | d :: l, 0, c, found => by
    simp only [List.getElem?_cons_zero, Option.some.injEq] at found
    subst found
    simp only [List.modify_zero_cons, List.map_cons, List.foldr_cons]
    omega
  | d :: l, i + 1, c, found => by
    simp only [List.getElem?_cons_succ] at found
    have rest := foldr_add_map_modify (f := f) (g := g) found
    simp only [List.modify_succ_cons, List.map_cons, List.foldr_cons]
    omega

/-- A step that continues a call moves that call alone, nearer its end. -/
theorem step_internal {a : GateAction} (internal : a.isInternal = true)
    (stepped : s.step target a = some s') :
    ∃ i c p, s.callers[i]? = some c ∧ s'.callers = (s.moveTo i p).callers ∧
      p.remaining target.connections.length < c.phase.remaining target.connections.length := by
  cases a with
  | call kind => cases internal
  | reset => cases internal
  | resume i =>
    obtain ⟨kind, -, hc, rfl⟩ := step_resume_eq stepped
    by_cases close : kind = .close
    · subst close
      simp only [GateState.resume]
      split
      · exact ⟨i, _, _, hc, rfl, by simp [Phase.remaining]⟩
      · exact ⟨i, _, _, hc, rfl, by simp [Phase.remaining]⟩
    · rw [resume_of_ne_close target close]
      split
      · exact ⟨i, _, _, hc, rfl, by simp [Phase.remaining]⟩
      · cases h : target.connections with
        | nil => exact ⟨i, _, _, hc, rfl, by simp [Phase.remaining]⟩
        | cons first rest =>
          obtain ⟨a, conn⟩ := first
          exact ⟨i, _, _, hc, rfl, by simp [Phase.remaining]⟩
  | connected i answer =>
    obtain ⟨c, opened, current, rest, hc, phase, rfl⟩ := step_connected_eq stepped
    cases answer with
    | ok u =>
      cases rest with
      | nil => exact ⟨i, c, _, hc, rfl, by simp [Phase.remaining, phase]⟩
      | cons next rest =>
        obtain ⟨a, conn⟩ := next
        exact ⟨i, c, _, hc, rfl, by simp [Phase.remaining, phase]⟩
    | error reason => exact ⟨i, c, _, hc, rfl, by simp [Phase.remaining, phase]⟩
  | settled i fails =>
    obtain ⟨c, hc, ⟨failure, closing, phase, rfl⟩ | ⟨held, phase, rfl⟩⟩ := step_settled_eq stepped
    · obtain ⟨logs, eq⟩ := rolledBack_eq (s := s) (i := i) failure closing fails
      rw [eq]
      exact ⟨i, c, _, hc, rfl, by simp [Phase.remaining, phase]⟩
    · exact ⟨i, c, _, hc, rfl, by simp [Phase.remaining, phase]⟩

/-- Every step that continues a call lowers the work left. -/
theorem work_lt {a : GateAction} (internal : a.isInternal = true) (stepped : s.step target a = some s') :
    s'.work target < s.work target := by
  obtain ⟨i, c, p, hc, callers, nearer⟩ := step_internal internal stepped
  have moved := foldr_add_map_modify (f := fun c => { c with phase := p })
    (g := fun c => c.phase.remaining target.connections.length) hc
  simp only at moved
  simp only [work, callers, moveTo]
  omega

/-- No schedule continues the calls for ever: a run of steps that each continue a
call ends after at most as many steps as there is work left. -/
theorem no_endless_run (run : Nat → GateState)
    (steps : ∀ n, ∃ a, a.isInternal = true ∧ (run n).step target a = some (run (n + 1))) : False := by
  have bound : ∀ n, (run n).work target + n ≤ (run 0).work target := by
    intro n
    induction n with
    | zero => simp
    | succ n ih =>
      obtain ⟨a, internal, stepped⟩ := steps n
      have := work_lt internal stepped
      omega
  have := bound ((run 0).work target + 1)
  omega

end GateState

/-! ## What a call sees when it settles -/

namespace GateState

variable {target : TargetConfig} {s s' : GateState} {i j : Nat}

/-- A call that settles with success in a step that moves one call is that call,
moved to success. -/
theorem settles_of_moveTo {p : Phase} {kind : GateCallKind} (callers : s'.callers = (s.moveTo i p).callers)
    (settles : s'.callers[j]? = some ⟨kind, .done (.ok ())⟩)
    (before : ∀ c, s.callers[j]? = some c → c.phase.isDone = false) :
    j = i ∧ p = .done (.ok ()) ∧ ∃ c, s.callers[i]? = some c ∧ c.kind = kind := by
  rw [callers] at settles
  rcases getElem?_callers_moveTo_eq_some settles with ⟨rfl, c, hc, moved⟩ | ⟨-, hc⟩
  · simp only [Caller.mk.injEq] at moved
    exact ⟨rfl, moved.2.symm, c, hc, moved.1.symm⟩
  · cases before _ hc

/-- A call of `ensure` or `init` that settles with success sees the gate open at its
last step inside the gate: its first check, its check under the mutex, or the end
of its own bootstrap. -/
theorem Inv.settled_ok_open (inv : Inv target s) {a : GateAction} (stepped : s.step target a = some s')
    {kind : GateCallKind} (notClose : kind ≠ .close)
    (settles : s'.callers[j]? = some ⟨kind, .done (.ok ())⟩)
    (before : ∀ c, s.callers[j]? = some c → c.phase.isDone = false) : s'.initialized = true := by
  cases a with
  | call kind' =>
    cases stepped
    rw [call_eq] at settles ⊢
    by_cases fast : kind' ≠ .close ∧ s.initialized = true
    · rw [if_pos fast]
      exact fast.2
    · rw [if_neg fast] at settles
      rcases getElem?_append_singleton_eq_some.mp settles with hc | ⟨-, same⟩
      · cases before _ hc
      · simp at same
  | reset =>
    cases stepped
    cases before _ settles
  | resume i =>
    obtain ⟨kind', -, hc, rfl⟩ := step_resume_eq stepped
    by_cases close : kind' = .close
    · subst close
      simp only [GateState.resume] at settles ⊢
      split at settles
      · obtain ⟨-, moved, -⟩ := settles_of_moveTo rfl settles before
        cases moved
      · obtain ⟨-, -, c, found, same⟩ := settles_of_moveTo rfl settles before
        rw [hc] at found
        cases found
        exact absurd same.symm notClose
    · rw [resume_of_ne_close target close] at settles ⊢
      split
      · assumption
      · split at settles
        · contradiction
        · cases h : target.connections with
          | nil => rfl
          | cons first rest =>
            rw [h] at settles
            obtain ⟨-, moved, -⟩ := settles_of_moveTo rfl settles before
            cases moved
  | connected i answer =>
    obtain ⟨c, opened, current, rest, hc, phase, rfl⟩ := step_connected_eq stepped
    cases answer with
    | ok u =>
      cases rest with
      | nil => rfl
      | cons next rest =>
        obtain ⟨-, moved, -⟩ := settles_of_moveTo rfl settles before
        cases moved
    | error reason =>
      obtain ⟨-, moved, -⟩ := settles_of_moveTo rfl settles before
      cases moved
  | settled i fails =>
    obtain ⟨c, hc, ⟨failure, closing, phase, rfl⟩ | ⟨held, phase, rfl⟩⟩ := step_settled_eq stepped
    · obtain ⟨logs, eq⟩ := rolledBack_eq (s := s) (i := i) failure closing fails
      rw [eq] at settles
      obtain ⟨-, moved, -⟩ := settles_of_moveTo rfl settles before
      cases moved
    · -- only `close` calls close connections
      obtain ⟨-, -, c', found, same⟩ := settles_of_moveTo rfl settles before
      change s.callers[i]? = some c' at found
      rw [hc] at found
      cases found
      exact absurd (same ▸ inv.closing_kind i c held hc phase) notClose

/-- A queued `ensure` or `init` that finds the gate still closed when it gets the
mutex runs a bootstrap of its own: it calls the connector for the first alias, or,
with none configured, opens the gate at once. -/
theorem resume_bootstraps (stepped : s.step target (.resume i) = some s') {kind : GateCallKind}
    (hc : s.callers[i]? = some ⟨kind, .queued⟩) (notClose : kind ≠ .close)
    (closed : s.initialized = false) :
    (target.connections = [] ∧ s'.initialized = true ∧ s'.phase? i = some (.done (.ok ()))) ∨
      ∃ a c rest, target.connections = (a, c) :: rest ∧
        s'.phase? i = some (.connecting [] (a, c) rest) ∧ s'.connectCalls = s.connectCalls ++ [a] := by
  obtain ⟨kind', -, hc', rfl⟩ := step_resume_eq stepped
  rw [hc] at hc'
  cases hc'
  rw [resume_of_ne_close target notClose, if_neg (by simp [closed])]
  cases h : target.connections with
  | nil => exact .inl ⟨rfl, rfl, by simp [phase?, proceed, hc]⟩
  | cons first rest =>
    obtain ⟨a, c⟩ := first
    refine .inr ⟨a, c, rest, rfl, by simp [phase?, proceed, hc], ?_⟩
    simp [connectCalls, proceed, record, GateEvent.connectAlias?]

end GateState

/-! ## Runs where nothing fails

With only `ensure` and `init` calls and a connector that never fails, one bootstrap
runs to its end and opens the gate for good.  `Smooth` records what the connector
has been asked so far. -/

/-- A step of a run of `ensure` and `init` calls against a connector that never
fails. -/
def GateAction.Smooth (a : GateAction) : Prop :=
  a.isReset = false ∧ a.startsClose = false ∧ a.connectFails = false

namespace GateState

variable {target : TargetConfig} {s s' : GateState} {i j : Nat}

/-- What holds along a run where nothing fails. -/
structure Smooth (target : TargetConfig) (s : GateState) : Prop where
  /-- Every call is `ensure` or `init`. -/
  no_close : ∀ (j : Nat) (c : Caller), s.callers[j]? = some c → c.kind ≠ .close
  /-- No bootstrap rolls back. -/
  no_rollback : ∀ (j : Nat) (c : Caller) failure closing, s.callers[j]? = some c →
    c.phase ≠ .rollingBack failure closing
  /-- Every call that settled succeeded, and the gate has been open since. -/
  settled_ok : ∀ (j : Nat) (c : Caller), s.callers[j]? = some c → c.phase.isDone = true →
    c.phase = .done (.ok ()) ∧ s.initialized = true
  /-- The connector was called once for every alias of an open gate, in order ... -/
  connects_open : s.initialized = true → s.connectCalls = target.connections.map (·.1)
  /-- ... for the aliases a bootstrap opened and then the one it waits for ... -/
  connects_connecting : ∀ (j : Nat) (c : Caller) opened current rest, s.callers[j]? = some c →
    c.phase = .connecting opened current rest →
      s.connectCalls = opened.map (·.aliasName) ++ [current.1]
  /-- ... and never while the gate is closed and no bootstrap runs. -/
  connects_idle : s.initialized = false →
    (∀ (j : Nat) (c : Caller), s.callers[j]? = some c → c.phase.isCritical = false) →
      s.connectCalls = []

@[simp] theorem connectCalls_append (s : GateState) (es : List GateEvent) :
    ({ s with events := s.events ++ es } : GateState).connectCalls =
      s.connectCalls ++ es.filterMap GateEvent.connectAlias? := by
  simp [connectCalls]

@[simp] theorem connectCalls_record (s : GateState) (e : GateEvent) :
    (s.record e).connectCalls = s.connectCalls ++ e.connectAlias?.toList := by
  cases h : e.connectAlias? <;> simp [connectCalls, record, h]

@[simp] theorem connectCalls_moveTo (s : GateState) (p : Phase) :
    (s.moveTo i p).connectCalls = s.connectCalls := rfl

@[simp] theorem connectCalls_settle (s : GateState) (reply : Except Failure Unit) :
    (s.settle i reply).connectCalls = s.connectCalls := rfl

theorem smooth_start : Smooth target {} :=
  ⟨fun _ _ found => by simp at found, fun _ _ _ _ found => by simp at found,
    fun _ _ found => by simp at found, fun open_ => (by cases open_),
    fun _ _ _ _ _ found => by simp at found, fun _ _ => rfl⟩

/-- A new caller keeps a run smooth when it is no `close` call, neither connects nor
rolls back, and has settled only with success on an open gate. -/
theorem Smooth.append_caller (smooth : Smooth target s) {d : Caller} (queue : List Nat)
    (notClose : d.kind ≠ .close) (noRollback : ∀ failure closing, d.phase ≠ .rollingBack failure closing)
    (notConnecting : ∀ opened current rest, d.phase ≠ .connecting opened current rest)
    (settled : d.phase.isDone = true → d.phase = .done (.ok ()) ∧ s.initialized = true) :
    Smooth target { s with callers := s.callers ++ [d], queue := queue } := by
  -- the calls made before keep their places; the new one is last
  have old : ∀ {j : Nat} {c : Caller}, (s.callers ++ [d])[j]? = some c → s.callers[j]? = some c ∨ c = d := by
    intro j c found
    rcases getElem?_append_singleton_eq_some.mp found with found | ⟨-, rfl⟩
    · exact .inl found
    · exact .inr rfl
  refine ⟨?_, ?_, ?_, smooth.connects_open, ?_, fun closed calm => ?_⟩
  · intro j c found
    rcases old found with found | rfl
    · exact smooth.no_close j c found
    · exact notClose
  · intro j c failure closing found
    rcases old found with found | rfl
    · exact smooth.no_rollback j c failure closing found
    · exact noRollback failure closing
  · intro j c found done
    rcases old found with found | rfl
    · exact smooth.settled_ok j c found done
    · exact settled done
  · intro j c opened current rest found connecting
    rcases old found with found | rfl
    · exact smooth.connects_connecting j c opened current rest found connecting
    · exact absurd connecting (notConnecting opened current rest)
  · refine smooth.connects_idle closed fun j c found => calm j c ?_
    exact getElem?_append_singleton_eq_some.mpr (.inl found)

/-- A new `ensure` or `init` keeps a run smooth: it settles at once on an open gate,
and waits in the queue otherwise. -/
theorem Smooth.call (smooth : Smooth target s) {kind : GateCallKind} (notClose : kind ≠ .close) :
    Smooth target (s.call kind) := by
  rw [call_eq]
  split
  · next fast =>
    exact smooth.append_caller s.queue notClose (by simp) (by simp) fun _ => ⟨rfl, fast.2⟩
  · exact smooth.append_caller _ notClose (by simp) (by simp) fun queued => by cases queued

/-- While the first call in the queue waits for the mutex, no call is inside it. -/
theorem Inv.calm_of_head_queued (inv : Inv target s) (head : s.queue.head? = some i) {kind : GateCallKind}
    (hc : s.callers[i]? = some ⟨kind, .queued⟩) :
    ∀ (j : Nat) (d : Caller), s.callers[j]? = some d → d.phase.isCritical = false := by
  intro j d hd
  cases critical : d.phase.isCritical
  · rfl
  · have first := inv.critical_first j d hd critical
    rw [head] at first
    cases Option.some.inj first
    rw [hc] at hd
    cases hd
    cases critical

/-- A call other than the one moved is as it was. -/
theorem getElem?_callers_moveTo_of_ne {p : Phase} {c : Caller} (found : (s.moveTo i p).callers[j]? = some c)
    (apart : j ≠ i) : s.callers[j]? = some c := by
  rcases getElem?_callers_moveTo_eq_some found with ⟨same, -⟩ | ⟨-, found⟩
  · exact absurd same.symm apart
  · exact found

/-- The call moved has the phase it was moved to. -/
theorem phase_of_getElem?_moveTo_self {p : Phase} {c : Caller} (found : (s.moveTo i p).callers[i]? = some c) :
    c.phase = p := by
  rcases getElem?_callers_moveTo_eq_some found with ⟨-, c', -, rfl⟩ | ⟨apart, -⟩
  · rfl
  · exact absurd rfl apart

/-- When no call but `i` can be inside the mutex after `i` moves to `p`, a call that
connects after the move is `i`, connecting as `p` says. -/
theorem connecting_of_moveTo {p : Phase}
    (only : ∀ {j : Nat} {c : Caller}, (s.moveTo i p).callers[j]? = some c → c.phase.isCritical = true → j = i)
    {c : Caller} {opened : List Conn} {current : String × TargetConnection}
    {rest : List (String × TargetConnection)} (found : (s.moveTo i p).callers[j]? = some c)
    (connecting : c.phase = .connecting opened current rest) : j = i ∧ p = .connecting opened current rest := by
  obtain rfl := only found (by rw [connecting]; rfl)
  exact ⟨rfl, (phase_of_getElem?_moveTo_self found).symm.trans connecting⟩

/-- Moving a call of a smooth run keeps every call an `ensure` or an `init`. -/
theorem Smooth.kind_moveTo (smooth : Smooth target s) {p : Phase} {j : Nat} {d : Caller}
    (found : (s.moveTo i p).callers[j]? = some d) : d.kind ≠ .close := by
  rcases getElem?_callers_moveTo_eq_some found with ⟨rfl, c', found', rfl⟩ | ⟨-, found'⟩
  · exact smooth.no_close _ c' found'
  · exact smooth.no_close j d found'

/-- Moving a call of a smooth run to a phase that is no rollback leaves no call rolling
back. -/
theorem Smooth.no_rollback_moveTo (smooth : Smooth target s) {p : Phase}
    (notRollback : ∀ failure closing, p ≠ .rollingBack failure closing) {j : Nat} {d : Caller}
    {failure : Failure} {closing : List Conn} (found : (s.moveTo i p).callers[j]? = some d) :
    d.phase ≠ .rollingBack failure closing := by
  rcases getElem?_callers_moveTo_eq_some found with ⟨rfl, c', -, rfl⟩ | ⟨-, found⟩
  · exact notRollback failure closing
  · exact smooth.no_rollback j d failure closing found

/-- A call that gets the mutex keeps a run smooth: it finds the gate open, or runs
the bootstrap, which no other call runs. -/
theorem Smooth.resume (smooth : Smooth target s) (inv : Inv target s) (head : s.queue.head? = some i)
    {kind : GateCallKind} (hc : s.callers[i]? = some ⟨kind, .queued⟩) :
    Smooth target (s.resume target i kind) := by
  have notClose := smooth.no_close i _ hc
  have calm := inv.calm_of_head_queued head hc
  -- a call other than `i` that is inside the mutex after the step was inside it before
  have inside : ∀ {p : Phase} {j : Nat} {c : Caller}, (s.moveTo i p).callers[j]? = some c →
      c.phase.isCritical = true → j = i := by
    intro p j c found critical
    by_contra apart
    rw [calm j c (getElem?_callers_moveTo_of_ne found apart)] at critical
    cases critical
  rw [resume_of_ne_close target notClose]
  split
  · rename_i open_
    refine ⟨fun j c found => smooth.kind_moveTo found,
      fun j c failure closing found => smooth.no_rollback_moveTo (by simp) found, fun j c found settled => ?_,
      smooth.connects_open, fun j c opened current rest found connecting => ?_,
      fun closed => absurd open_ (by simp_all)⟩
    · rcases getElem?_callers_moveTo_eq_some found with ⟨rfl, c', -, rfl⟩ | ⟨-, found⟩
      · exact ⟨rfl, open_⟩
      · exact smooth.settled_ok j c found settled
    · cases (connecting_of_moveTo inside found connecting).2
  · rename_i closed
    have closed : s.initialized = false := by simpa using closed
    have idle := smooth.connects_idle closed calm
    cases h : target.connections with
    | nil =>
      refine ⟨fun j c found => smooth.kind_moveTo found,
        fun j c failure closing found => smooth.no_rollback_moveTo (by simp) found,
        fun j c found settled => ?_, fun _ => ?_, fun j c opened current rest found connecting => ?_,
        fun open_ => (by cases open_)⟩
      · rcases getElem?_callers_moveTo_eq_some found with ⟨rfl, c', -, rfl⟩ | ⟨-, found⟩
        · exact ⟨rfl, rfl⟩
        · exact ⟨(smooth.settled_ok j c found settled).1, rfl⟩
      · show s.connectCalls = target.connections.map (·.1)
        rw [idle, h]
        rfl
      · cases (connecting_of_moveTo inside found connecting).2
    | cons first rest =>
      obtain ⟨a, conn⟩ := first
      refine ⟨fun j c found => smooth.kind_moveTo found,
        fun j c failure closing found => smooth.no_rollback_moveTo (by simp) found,
        fun j c found settled => ?_, fun open_ => absurd open_ (by simp [proceed, closed]),
        fun j c opened current rest' found connecting => ?_, fun _ calm' => ?_⟩
      · rcases getElem?_callers_moveTo_eq_some found with ⟨rfl, c', -, rfl⟩ | ⟨-, found⟩
        · cases settled
        · have := (smooth.settled_ok j c found settled).2
          simp_all
      · obtain ⟨rfl, moved⟩ := connecting_of_moveTo inside found connecting
        cases moved
        simp [proceed, idle, GateEvent.connectAlias?]
      · have := calm' i { kind, phase := .connecting [] (a, conn) rest } (by simp [proceed, hc])
        cases this

/-- A connection the connector returns keeps a run smooth: the bootstrap calls the
connector for the next alias, or opens the gate once every alias is open. -/
theorem Smooth.connected (smooth : Smooth target s) (inv : Inv target s)
    (distinct : (target.connections.map (·.1)).Nodup) {c : Caller} {opened : List Conn}
    {current : String × TargetConnection} {rest : List (String × TargetConnection)}
    (hc : s.callers[i]? = some c) (phase : c.phase = .connecting opened current rest) :
    Smooth target (s.connected i opened current rest (.ok ())) := by
  have critical : c.phase.isCritical = true := by rw [phase]; rfl
  have closed := inv.critical_closed i c hc critical
  obtain ⟨before, split, prefix_⟩ := inv.connecting_prefix i c opened current rest hc phase
  have asked := smooth.connects_connecting i c opened current rest hc phase
  -- no other call is inside the mutex
  have alone : ∀ {p : Phase} {j : Nat} {d : Caller}, (s.moveTo i p).callers[j]? = some d →
      d.phase.isCritical = true → j = i := by
    intro p j d found critical'
    by_contra apart
    exact apart (inv.critical_unique (getElem?_callers_moveTo_of_ne found apart) critical' hc critical)
  have unsettled : ∀ (j : Nat) (d : Caller), s.callers[j]? = some d → d.phase.isDone = false := by
    intro j d found
    cases settled : d.phase.isDone
    · rfl
    · have := (smooth.settled_ok j d found settled).2
      simp_all
  -- the alias just opened is new, so the opened connections follow the aliases
  have fresh := inv.current_fresh distinct hc phase
  show Smooth target ({ s.record (.opened ⟨current.1, s.serial⟩) with serial := s.serial + 1 }.proceed i
    (putConn opened ⟨current.1, s.serial⟩) rest)
  rw [putConn_of_fresh fresh]
  cases rest with
  | nil =>
    refine ⟨fun j d found => smooth.kind_moveTo found,
      fun j d failure closing found => smooth.no_rollback_moveTo (by simp) found,
      fun j d found settled => ?_, fun _ => ?_, fun j d opened' current' rest' found connecting => ?_,
      fun open_ => (by cases open_)⟩
    · rcases getElem?_callers_moveTo_eq_some found with ⟨rfl, c', -, rfl⟩ | ⟨-, found⟩
      · exact ⟨rfl, rfl⟩
      · rw [unsettled j d found] at settled
        cases settled
    · show (s.record (.opened ⟨current.1, s.serial⟩)).connectCalls = target.connections.map (·.1)
      simp [asked, split, prefix_, GateEvent.connectAlias?]
    · cases (connecting_of_moveTo alone found connecting).2
  | cons next rest =>
    obtain ⟨a, conn⟩ := next
    refine ⟨fun j d found => smooth.kind_moveTo found,
      fun j d failure closing found => smooth.no_rollback_moveTo (by simp) found,
      fun j d found settled => ?_, fun open_ => absurd open_ (by simp [proceed, closed]),
      fun j d opened' current' rest' found connecting => ?_, fun _ calm => ?_⟩
    · rcases getElem?_callers_moveTo_eq_some found with ⟨rfl, c', -, rfl⟩ | ⟨-, found⟩
      · cases settled
      · rw [unsettled j d found] at settled
        cases settled
    · obtain ⟨rfl, moved⟩ := connecting_of_moveTo alone found connecting
      cases moved
      have asked : s.events.filterMap GateEvent.connectAlias? = _ := asked
      simp [proceed, connectCalls, asked, List.filterMap_cons]
    · have := calm i { c with phase := .connecting (opened ++ [⟨current.1, s.serial⟩]) (a, conn) rest }
        (by simp [proceed, hc])
      cases this

/-- Every step of a smooth run keeps it smooth. -/
theorem Smooth.step (smooth : Smooth target s) (inv : Inv target s)
    (distinct : (target.connections.map (·.1)).Nodup) {a : GateAction} (allowed : a.Smooth)
    (stepped : s.step target a = some s') : Smooth target s' := by
  obtain ⟨noReset, noClose, noFailure⟩ := allowed
  cases a with
  | call kind =>
    cases stepped
    exact smooth.call fun close => by simp [close, GateAction.startsClose] at noClose
  | reset => cases noReset
  | resume i =>
    obtain ⟨kind, first, hc, rfl⟩ := step_resume_eq stepped
    exact smooth.resume inv first hc
  | connected i answer =>
    obtain ⟨c, opened, current, rest, hc, phase, rfl⟩ := step_connected_eq stepped
    cases answer with
    | ok u => exact smooth.connected inv distinct hc phase
    | error reason => cases noFailure
  | settled i fails =>
    obtain ⟨c, hc, ⟨failure, closing, phase, -⟩ | ⟨held, phase, -⟩⟩ := step_settled_eq stepped
    · exact absurd phase (smooth.no_rollback i c failure closing hc)
    · exact absurd (inv.closing_kind i c held hc phase) (smooth.no_close i c hc)

/-- Along a smooth run the connector is asked for the aliases in order, each at most
once. -/
theorem Smooth.connectCalls_prefix (smooth : Smooth target s) (inv : Inv target s) :
    s.connectCalls <+: target.connections.map (·.1) := by
  cases open_ : s.initialized
  · by_cases calm : ∀ (j : Nat) (c : Caller), s.callers[j]? = some c → c.phase.isCritical = false
    · rw [smooth.connects_idle open_ calm]
      exact List.nil_prefix
    · -- the call inside the mutex is a bootstrap waiting on the connector
      obtain ⟨j, c, hc, critical⟩ : ∃ (j : Nat) (c : Caller), s.callers[j]? = some c ∧
          c.phase.isCritical = true := by
        simpa using calm
      obtain ⟨kind, phase⟩ := c
      cases phase with
      | connecting opened current rest =>
        obtain ⟨before, split, prefix_⟩ := inv.connecting_prefix j _ opened current rest hc rfl
        rw [smooth.connects_connecting j _ opened current rest hc rfl, prefix_, split]
        exact ⟨rest.map (·.1), by simp⟩
      | rollingBack failure closing => exact absurd rfl (smooth.no_rollback j _ failure closing hc)
      | closing held => exact absurd (inv.closing_kind j _ held hc rfl) (smooth.no_close j _ hc)
      | queued => cases critical
      | done reply => cases critical
  · simp only [smooth.connects_open open_, List.prefix_refl]

/-- Once no call of a smooth run can move, every call has succeeded, the gate is
open with one connection per alias, and the connector was asked once per alias. -/
theorem Smooth.finished (smooth : Smooth target s) (inv : Inv target s) (stuck : s.Stuck target)
    (called : s.callers ≠ []) :
    (∀ c ∈ s.callers, c.phase = .done (.ok ())) ∧ s.initialized = true ∧
      s.connections.map (·.aliasName) = target.connections.map (·.1) ∧
      s.connectCalls = target.connections.map (·.1) := by
  have succeeded : ∀ (j : Nat) (c : Caller), s.callers[j]? = some c →
      c.phase = .done (.ok ()) ∧ s.initialized = true :=
    fun j c hc => smooth.settled_ok j c hc (inv.settled_of_stuck stuck hc)
  obtain ⟨first, rest, callers⟩ := List.exists_cons_of_ne_nil called
  have open_ := (succeeded 0 first (by simp [callers])).2
  refine ⟨fun c member => ?_, open_, inv.open_full open_, smooth.connects_open open_⟩
  obtain ⟨j, below, hc⟩ := List.getElem_of_mem member
  exact (succeeded j c (by rw [List.getElem?_eq_some_iff]; exact ⟨below, hc⟩)).1

end GateState

/-- Every state of a smooth run satisfies the invariant and stays smooth. -/
theorem GateReachable.smooth {target : TargetConfig} {s : GateState}
    (distinct : (target.connections.map (·.1)).Nodup) (reach : GateReachable target GateAction.Smooth s) :
    s.Inv target ∧ s.Smooth target := by
  induction reach with
  | start => exact ⟨GateState.inv_start, GateState.smooth_start⟩
  | step _ allowed stepped holds =>
    exact ⟨holds.1.step distinct stepped, holds.2.step holds.1 distinct allowed stepped⟩

/-- A state reachable by some steps is reachable when every step is allowed. -/
theorem GateReachable.any {target : TargetConfig} {allowed : GateAction → Prop} {s : GateState}
    (reach : GateReachable target allowed s) : GateReachable target (fun _ => True) s := by
  induction reach with
  | start => exact .start
  | step _ _ stepped reach => exact .step reach trivial stepped

/-- One bootstrap at a time.  Over every interleaving of calls and of the
connector's and the closes' answers: a bootstrap runs only while the gate is closed
and never beside another bootstrap or a close; a call of `ensure` or `init` that
succeeds saw the gate open at its last step inside the gate; a queued call that
finds the gate still closed (after a failed bootstrap, say) runs a bootstrap of its
own; and the calls stop only when every one has settled, which they do after
finitely many steps.  With only `ensure` and `init` calls and a connector that never
fails, the connector is asked for a prefix of the aliases in order, and once the
calls stop every one has succeeded, the gate is open with one connection per alias
in order, and the connector was asked exactly once per alias. -/
theorem single_bootstrap {target : TargetConfig} (distinct : (target.connections.map (·.1)).Nodup) :
    (∀ s, GateReachable target (fun _ => True) s →
      (∀ (i : Nat) (c : Caller), s.callers[i]? = some c → c.phase.isBootstrap = true →
        s.initialized = false ∧
          ∀ (j : Nat) (d : Caller), s.callers[j]? = some d → d.phase.isCritical = true → j = i) ∧
      (∀ (a : GateAction) (s' : GateState) (j : Nat) (kind : GateCallKind), s.step target a = some s' →
        kind ≠ .close → s'.callers[j]? = some ⟨kind, .done (.ok ())⟩ →
        (∀ c, s.callers[j]? = some c → c.phase.isDone = false) → s'.initialized = true) ∧
      (∀ (i : Nat) (kind : GateCallKind) (s' : GateState), s.callers[i]? = some ⟨kind, .queued⟩ →
        kind ≠ .close → s.initialized = false → s.step target (.resume i) = some s' →
        (target.connections = [] ∧ s'.initialized = true ∧ s'.phase? i = some (.done (.ok ()))) ∨
          ∃ a c rest, target.connections = (a, c) :: rest ∧
            s'.phase? i = some (.connecting [] (a, c) rest) ∧ s'.connectCalls = s.connectCalls ++ [a]) ∧
      (s.Stuck target → ∀ (j : Nat) (c : Caller), s.callers[j]? = some c → c.phase.isDone = true) ∧
      ¬ ∃ run : Nat → GateState, run 0 = s ∧
        ∀ n, ∃ a, a.isInternal = true ∧ (run n).step target a = some (run (n + 1))) ∧
    (∀ s, GateReachable target GateAction.Smooth s →
      s.connectCalls <+: target.connections.map (·.1) ∧
      (s.Stuck target → s.callers ≠ [] →
        (∀ c ∈ s.callers, c.phase = .done (.ok ())) ∧ s.initialized = true ∧
          s.connections.map (·.aliasName) = target.connections.map (·.1) ∧
          s.connectCalls = target.connections.map (·.1))) := by
  refine ⟨fun s reach => ?_, fun s reach => ?_⟩
  · have inv := reach.inv distinct
    refine ⟨fun i c hc bootstrap => ?_, fun a s' j kind stepped notClose settles before =>
      inv.settled_ok_open stepped notClose settles before,
      fun i kind s' hc notClose closed stepped => GateState.resume_bootstraps stepped hc notClose closed,
      fun stuck j c hc => inv.settled_of_stuck stuck hc, ?_⟩
    · -- a bootstrap is inside the mutex
      have critical : c.phase.isCritical = true := by
        obtain ⟨kind, phase⟩ := c
        cases phase <;> simp_all [Phase.isBootstrap, Phase.isCritical]
      exact ⟨inv.critical_closed i c hc critical,
        fun j d hd critical' => inv.critical_unique hd critical' hc critical⟩
    · rintro ⟨run, rfl, steps⟩
      exact GateState.no_endless_run run steps
  · obtain ⟨inv, smooth⟩ := reach.smooth distinct
    exact ⟨smooth.connectCalls_prefix inv, fun stuck called => smooth.finished inv stuck called⟩

/-- Two databases, as the gate's own tests configure them. -/
def pairTarget : TargetConfig :=
  { appName := "mirror"
    connections := ["default", "reports"].map fun a =>
      (a, { aliasName := a, driver := .named "node-postgres", host := "localhost", port := 5432
            database := a ++ "_db", user := some "tester", password := some "test-secret", pool := {} }) }

theorem single_bootstrap_on_pair :
    (pairTarget.connections.map (·.1)).Nodup ∧
    (∀ s, GateReachable pairTarget (fun _ => True) s →
      (∀ (i : Nat) (c : Caller), s.callers[i]? = some c → c.phase.isBootstrap = true →
        s.initialized = false ∧
          ∀ (j : Nat) (d : Caller), s.callers[j]? = some d → d.phase.isCritical = true → j = i) ∧
      (∀ (a : GateAction) (s' : GateState) (j : Nat) (kind : GateCallKind), s.step pairTarget a = some s' →
        kind ≠ .close → s'.callers[j]? = some ⟨kind, .done (.ok ())⟩ →
        (∀ c, s.callers[j]? = some c → c.phase.isDone = false) → s'.initialized = true) ∧
      (∀ (i : Nat) (kind : GateCallKind) (s' : GateState), s.callers[i]? = some ⟨kind, .queued⟩ →
        kind ≠ .close → s.initialized = false → s.step pairTarget (.resume i) = some s' →
        (pairTarget.connections = [] ∧ s'.initialized = true ∧ s'.phase? i = some (.done (.ok ()))) ∨
          ∃ a c rest, pairTarget.connections = (a, c) :: rest ∧
            s'.phase? i = some (.connecting [] (a, c) rest) ∧ s'.connectCalls = s.connectCalls ++ [a]) ∧
      (s.Stuck pairTarget → ∀ (j : Nat) (c : Caller), s.callers[j]? = some c → c.phase.isDone = true) ∧
      ¬ ∃ run : Nat → GateState, run 0 = s ∧
        ∀ n, ∃ a, a.isInternal = true ∧ (run n).step pairTarget a = some (run (n + 1))) ∧
    (∀ s, GateReachable pairTarget GateAction.Smooth s →
      s.connectCalls <+: pairTarget.connections.map (·.1) ∧
      (s.Stuck pairTarget → s.callers ≠ [] →
        (∀ c ∈ s.callers, c.phase = .done (.ok ())) ∧ s.initialized = true ∧
          s.connections.map (·.aliasName) = pairTarget.connections.map (·.1) ∧
          s.connectCalls = pairTarget.connections.map (·.1))) :=
  ⟨by decide, single_bootstrap (by decide)⟩

end ModelTables
