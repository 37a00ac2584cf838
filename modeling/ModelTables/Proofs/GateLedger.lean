import ModelTables.Proofs.Gate

/-! # No connection leaked, none closed twice

A gate that is never `reset` keeps a ledger of the connections the connector
returned (`GateState.Ledger`): each was returned once, and each has had `close`
called on it, is published by the gate, or is held by the bootstrap that opened
it, in exactly one of these ways.  Every step but `reset` keeps the ledger
(`Ledger.step`); `reset` forgets the published connections without closing them.

From the ledger: `close` is called on a connection at most once, and only on one
the connector returned; and once no call is in flight, the connections opened and
not yet closed are exactly the published ones.  A `close` call takes the published
connections, closes the gate, calls `close` on each of them, and fails with the
number of closes that failed when there are any.

Main statement: `gate_lifecycle`.
-/

namespace ModelTables

open List

namespace GateEvent

@[simp] theorem closedConn?_comp_close : closedConn? ∘ close = some := rfl

end GateEvent

namespace GateState

/-- The connections opened and not yet closed that the gate keeps: the published
ones and those bootstraps hold. -/
def live (s : GateState) : List Conn := s.connections ++ s.callers.flatMap (·.phase.holding)

/-- Every connection the connector returned was returned once, with a serial number
below the next one, and is either closed or live, not both and not twice. -/
structure Ledger (s : GateState) : Prop where
  accounted : s.returned ~ s.closeCalls ++ s.live
  returned_nodup : s.returned.Nodup
  serial_lt : ∀ c ∈ s.returned, c.serial < s.serial

variable {target : TargetConfig} {s s' : GateState} {i : Nat}

@[simp] theorem settle_serial (reply : Except Failure Unit) : (s.settle i reply).serial = s.serial := rfl

@[simp] theorem record_serial (e : GateEvent) : (s.record e).serial = s.serial := rfl

/-- A call that settles shows its reply. -/
theorem phase?_settle_self {c : Caller} (hc : s.callers[i]? = some c) (reply : Except Failure Unit) :
    (s.settle i reply).phase? i = some (.done reply) := by
  simp [phase?, hc]

/-- Changing one element of a list changes what a `flatMap` collects by that
element's part alone. -/
theorem flatMap_modify_perm {f : Caller → Caller} {g : Caller → List Conn} :
    ∀ {l : List Caller} {i : Nat} {c : Caller}, l[i]? = some c →
      g c ++ (l.modify i f).flatMap g ~ g (f c) ++ l.flatMap g
  | [], _, _, found => by simp at found
  | d :: l, 0, c, found => by
    simp only [List.getElem?_cons_zero, Option.some.injEq] at found
    subst found
    simp only [List.modify_zero_cons, List.flatMap_cons]
    exact List.perm_append_comm_assoc _ _ _
  | d :: l, i + 1, c, found => by
    simp only [List.getElem?_cons_succ] at found
    simp only [List.modify_succ_cons, List.flatMap_cons]
    calc g c ++ (g d ++ (l.modify i f).flatMap g)
        ~ g d ++ (g c ++ (l.modify i f).flatMap g) := List.perm_append_comm_assoc _ _ _
      _ ~ g d ++ (g (f c) ++ l.flatMap g) := (flatMap_modify_perm found).append_left _
      _ ~ g (f c) ++ (g d ++ l.flatMap g) := List.perm_append_comm_assoc _ _ _

/-- A step that returns the connections `fresh`, calls `close` on `closedNow`, and
otherwise moves live connections between their places keeps the ledger. -/
theorem Ledger.advance (ledger : Ledger s) {t : GateState} (fresh closedNow : List Conn)
    (returned : t.returned = s.returned ++ fresh) (closeCalls : t.closeCalls = s.closeCalls ++ closedNow)
    (live : closedNow ++ t.live ~ s.live ++ fresh) (serial : s.serial ≤ t.serial)
    (numbered : ∀ c ∈ fresh, s.serial ≤ c.serial ∧ c.serial < t.serial) (fresh_nodup : fresh.Nodup) :
    Ledger t := by
  refine ⟨?_, ?_, ?_⟩
  · rw [returned, closeCalls, List.append_assoc]
    calc s.returned ++ fresh
        ~ s.closeCalls ++ s.live ++ fresh := ledger.accounted.append_right fresh
      _ = s.closeCalls ++ (s.live ++ fresh) := List.append_assoc _ _ _
      _ ~ s.closeCalls ++ (closedNow ++ t.live) := live.symm.append_left _
  · rw [returned]
    -- a fresh connection is numbered past every one returned before
    refine List.nodup_append.mpr ⟨ledger.returned_nodup, fresh_nodup, fun c old c' new same => ?_⟩
    have below := ledger.serial_lt c old
    have past := (numbered c' new).1
    rw [same] at below
    omega
  · intro c member
    rw [returned, List.mem_append] at member
    rcases member with old | new
    · exact Nat.lt_of_lt_of_le (ledger.serial_lt c old) serial
    · exact (numbered c new).2

/-- A step that returns nothing and closes nothing keeps the ledger when the live
connections stay the same. -/
theorem Ledger.keep (ledger : Ledger s) {t : GateState} (returned : t.returned = s.returned)
    (closeCalls : t.closeCalls = s.closeCalls) (live : t.live ~ s.live) (serial : t.serial = s.serial) :
    Ledger t :=
  ledger.advance [] [] (by simpa using returned) (by simpa using closeCalls)
    (by simpa using live) (Nat.le_of_eq serial.symm) (by simp) List.nodup_nil

/-- A step that moves caller `i` from `c` to phase `p` keeps the ledger when the
connections it returns, those it closes, the published ones and those the caller
holds balance: what the caller gave up is closed or published, and what it took is
fresh or was published before. -/
theorem Ledger.move (ledger : Ledger s) {c : Caller} (hc : s.callers[i]? = some c) (p : Phase)
    {t : GateState} (fresh closedNow : List Conn) (callers : t.callers = (s.moveTo i p).callers)
    (returned : t.returned = s.returned ++ fresh) (closeCalls : t.closeCalls = s.closeCalls ++ closedNow)
    (balance : closedNow ++ t.connections ++ p.holding ~ s.connections ++ c.phase.holding ++ fresh)
    (serial : s.serial ≤ t.serial) (numbered : ∀ c ∈ fresh, s.serial ≤ c.serial ∧ c.serial < t.serial)
    (fresh_nodup : fresh.Nodup) : Ledger t := by
  have held := flatMap_modify_perm (f := fun c => { c with phase := p }) (g := (·.phase.holding)) hc
  refine ledger.advance fresh closedNow returned closeCalls ?_ serial numbered fresh_nodup
  simp only [live, callers, moveTo]
  -- count each connection on both sides
  rw [List.perm_iff_count]
  intro conn
  have := held.count_eq conn
  have := balance.count_eq conn
  simp only [List.count_append] at *
  omega

/-- A caller that holds no connection settling keeps the ledger. -/
theorem Ledger.settle (ledger : Ledger s) {c : Caller} (hc : s.callers[i]? = some c)
    (empty : c.phase.holding = []) (reply : Except Failure Unit) {t : GateState}
    (callers : t.callers = (s.moveTo i (.done reply)).callers) (events : t.events = s.events)
    (connections : t.connections = s.connections) (serial : t.serial = s.serial) : Ledger t :=
  ledger.move hc (.done reply) [] [] callers
    (by simp [returned, events]) (by simp [closeCalls, events])
    (by rw [connections, empty]; simp [Phase.holding]) (Nat.le_of_eq serial.symm) (by simp) List.nodup_nil

/-- A new call holds nothing and keeps the ledger. -/
theorem Ledger.call (ledger : Ledger s) (kind : GateCallKind) : Ledger (s.call kind) := by
  rw [call_eq]
  split
  · exact ledger.keep rfl rfl (by simp [live, Phase.holding]) rfl
  · exact ledger.keep rfl rfl (by simp [live, Phase.holding]) rfl

/-- A call that gets the mutex keeps the ledger: a `close` calls `close` on every
published connection as it takes them, and a bootstrap starts holding nothing. -/
theorem Ledger.resume (ledger : Ledger s) (inv : Inv target s) {kind : GateCallKind}
    (hc : s.callers[i]? = some ⟨kind, .queued⟩) : Ledger (s.resume target i kind) := by
  by_cases close : kind = .close
  · subst close
    simp only [GateState.resume]
    split
    · refine ledger.move hc (.closing s.connections) [] s.connections rfl
        (by simp [returned, List.filterMap_map]) (by simp [closeCalls, List.filterMap_map])
        (by simp [Phase.holding]) (Nat.le_refl _) (by simp) List.nodup_nil
    · exact ledger.settle hc rfl (.ok ()) rfl rfl rfl rfl
  · rw [resume_of_ne_close target close]
    split
    · exact ledger.settle hc rfl (.ok ()) rfl rfl rfl rfl
    · rename_i closed
      have empty := inv.closed_empty (by simpa using closed)
      cases h : target.connections with
      | nil => exact ledger.settle hc rfl (.ok ()) rfl rfl (by simp [proceed, empty]) rfl
      | cons first rest =>
        obtain ⟨a, c⟩ := first
        exact ledger.move hc _ [] [] rfl
          (by simp [returned, proceed]) (by simp [closeCalls, proceed])
          (by simp [proceed, Phase.holding]) (Nat.le_refl _) (by simp) List.nodup_nil

/-- The connector's answer keeps the ledger: a new connection, numbered past every
earlier one, joins what the bootstrap holds or, with the last alias, is published
with the rest; a failure calls `close` on everything the bootstrap held. -/
theorem Ledger.connected (ledger : Ledger s) (inv : Inv target s)
    (distinct : (target.connections.map (·.1)).Nodup) {c : Caller} {opened : List Conn}
    {current : String × TargetConnection} {rest : List (String × TargetConnection)}
    (hc : s.callers[i]? = some c) (phase : c.phase = .connecting opened current rest)
    (answer : Except String Unit) : Ledger (s.connected i opened current rest answer) := by
  have critical : c.phase.isCritical = true := by rw [phase]; rfl
  -- the gate publishes nothing while a bootstrap runs
  have empty := inv.closed_empty (inv.critical_closed i c hc critical)
  cases answer with
  | ok u =>
    cases u
    show Ledger ({ s.record (.opened ⟨current.1, s.serial⟩) with serial := s.serial + 1 }.proceed i
      (putConn opened ⟨current.1, s.serial⟩) rest)
    rw [putConn_of_fresh (inv.current_fresh distinct hc phase)]
    cases rest with
    | nil =>
      exact ledger.move hc (.done (.ok ())) [⟨current.1, s.serial⟩] [] rfl
        (by simp [returned, proceed]) (by simp [closeCalls, proceed])
        (by simp [proceed, phase, empty, Phase.holding]) (by simp [proceed]) (by simp [proceed])
        (List.nodup_singleton _)
    | cons next rest =>
      obtain ⟨a, conn⟩ := next
      exact ledger.move hc _ [⟨current.1, s.serial⟩] [] rfl
        (by simp [returned, proceed]) (by simp [closeCalls, proceed])
        (by simp [proceed, phase, Phase.holding]) (by simp [proceed]) (by simp [proceed])
        (List.nodup_singleton _)
  | error reason =>
    exact ledger.move hc _ [] opened rfl
      (by simp [GateState.connected, returned, List.filterMap_map])
      (by simp [GateState.connected, closeCalls, List.filterMap_map])
      (by simpa [GateState.connected, phase, Phase.holding] using List.perm_append_comm) (Nat.le_refl _) (by simp)
      List.nodup_nil

/-- Every step but `reset` keeps the ledger. -/
theorem Ledger.step (ledger : Ledger s) (inv : Inv target s) (distinct : (target.connections.map (·.1)).Nodup)
    {a : GateAction} (notReset : a.isReset = false) (stepped : s.step target a = some s') : Ledger s' := by
  cases a with
  | call kind =>
    cases stepped
    exact ledger.call kind
  | reset => cases notReset
  | resume i =>
    obtain ⟨kind, -, hc, rfl⟩ := step_resume_eq stepped
    exact ledger.resume inv hc
  | connected i answer =>
    obtain ⟨c, opened, current, rest, hc, phase, rfl⟩ := step_connected_eq stepped
    exact ledger.connected inv distinct hc phase answer
  | settled i fails =>
    obtain ⟨c, hc, ⟨failure, closing, phase, rfl⟩ | ⟨held, phase, rfl⟩⟩ := step_settled_eq stepped
    · obtain ⟨logs, eq⟩ := rolledBack_eq (s := s) (i := i) failure closing fails
      rw [eq]
      exact ledger.settle hc (by rw [phase]; rfl) _ rfl rfl rfl rfl
    · exact ledger.settle hc (by rw [phase]; rfl) _ rfl rfl rfl rfl

/-- A fresh gate has returned nothing. -/
theorem ledger_start : Ledger {} := ⟨by simp [returned, closeCalls, live], List.nodup_nil, by simp [returned]⟩

end GateState

/-- Every gate reached without `reset` keeps the ledger. -/
theorem GateReachable.ledger {target : TargetConfig} {s : GateState}
    (distinct : (target.connections.map (·.1)).Nodup)
    (reach : GateReachable target (fun a => a.isReset = false) s) : s.Ledger := by
  induction reach with
  | start => exact GateState.ledger_start
  | step reach notReset stepped ledger => exact ledger.step (reach.inv distinct) distinct notReset stepped

/-- A settled call holds no connection. -/
theorem Phase.holding_eq_nil_of_isDone {p : Phase} (settled : p.isDone = true) : p.holding = [] := by
  cases p <;> first | rfl | cases settled

namespace GateState

variable {target : TargetConfig} {s s' : GateState} {i : Nat}

/-- `close` is called on each connection at most once ... -/
theorem Ledger.closeCalls_nodup (ledger : Ledger s) : s.closeCalls.Nodup :=
  (List.nodup_append.mp (ledger.accounted.nodup_iff.mp ledger.returned_nodup)).1

/-- ... and only on connections the connector returned. -/
theorem Ledger.returned_of_closed (ledger : Ledger s) {conn : Conn} (closed : conn ∈ s.closeCalls) :
    conn ∈ s.returned :=
  ledger.accounted.mem_iff.mpr (List.mem_append_left _ closed)

/-- Once every call has settled, the connections opened and not yet closed are
exactly the published ones. -/
theorem Ledger.open_iff_published (ledger : Ledger s) (settled : ∀ c ∈ s.callers, c.phase.isDone = true)
    (conn : Conn) : conn ∈ s.returned ∧ conn ∉ s.closeCalls ↔ conn ∈ s.connections := by
  -- settled calls hold nothing, so the live connections are the published ones
  have idle : s.live = s.connections := by
    rw [live, List.flatMap_eq_nil_iff.mpr fun c member => Phase.holding_eq_nil_of_isDone (settled c member),
      List.append_nil]
  have accounted := ledger.accounted
  rw [idle] at accounted
  have apart := List.nodup_append.mp (accounted.nodup_iff.mp ledger.returned_nodup)
  rw [accounted.mem_iff, List.mem_append]
  constructor
  · rintro ⟨closed | published, open_⟩
    · exact absurd closed open_
    · exact published
  · intro published
    exact ⟨.inr published, fun closed => apart.2.2 conn closed conn published rfl⟩

/-- A `close` that gets the mutex closes the gate, takes the published connections
and calls `close` on each of them; on a closed gate, which publishes none, it
succeeds at once. -/
theorem Inv.resume_close (inv : Inv target s) (hc : s.callers[i]? = some ⟨.close, .queued⟩)
    (stepped : s.step target (.resume i) = some s') :
    s'.initialized = false ∧ s'.connections = [] ∧ s'.closeCalls = s.closeCalls ++ s.connections ∧
      s'.phase? i = some (if s.initialized then .closing s.connections else .done (.ok ())) := by
  obtain ⟨kind, -, hc', rfl⟩ := step_resume_eq stepped
  rw [hc] at hc'
  cases hc'
  simp only [GateState.resume]
  cases open_ : s.initialized
  · have empty := inv.closed_empty open_
    simp [empty, open_, phase?, hc, closeCalls]
  · simp [phase?, hc, closeCalls, List.filterMap_map]

/-- The closes of a `close` end: the gate stays closed, and the call fails with
`Failed to close n connection(s)` exactly when `n > 0` of the closes failed. -/
theorem Inv.settled_closing (inv : Inv target s) {held : List Conn} {fails : Conn → Bool}
    (closing : s.phase? i = some (.closing held)) (stepped : s.step target (.settled i fails) = some s') :
    s'.initialized = false ∧ s'.closeCalls = s.closeCalls ∧
      ∃ reply, s'.phase? i = some (.done reply) ∧ (reply = .ok () ↔ (held.filter fails).length = 0) ∧
        ∀ f, reply = .error f →
          f.message = "Failed to close " ++ toString (held.filter fails).length ++ " connection(s)" := by
  simp only [GateState.step, closing, Option.some.injEq] at stepped
  subst stepped
  obtain ⟨c, hc, phase⟩ := Option.map_eq_some_iff.mp closing
  have critical : c.phase.isCritical = true := by rw [phase]; rfl
  refine ⟨inv.critical_closed i c hc critical, rfl, _, phase?_settle_self (s := s.logCloseFailures _) hc _, ?_, ?_⟩
  · split
    · rename_i failed
      exact ⟨fun same => (by cases same), fun none_ => absurd none_ (Nat.pos_iff_ne_zero.mp failed)⟩
    · rename_i none_
      exact ⟨fun _ => Nat.eq_zero_of_not_pos none_, fun _ => rfl⟩
  · intro f failed
    split at failed
    · cases failed
      rfl
    · cases failed

end GateState

/-- The gate's life cycle, over every interleaving of `ensure`, `init` and `close`
calls and every answer of the connector and of each connection's `close`: an open
gate publishes one connection per configured alias, in order, and a closed one
none; `close` is called at most once on a connection, and only on one the connector
returned; once every call has settled, the connections opened and not yet closed
are exactly the published ones; and a `close` that gets the mutex closes the gate,
calls `close` on every connection the gate published, and once those closes end
leaves the gate closed and fails with `Failed to close n connection(s)` exactly
when `n > 0` of them failed. -/
theorem gate_lifecycle {target : TargetConfig} (distinct : (target.connections.map (·.1)).Nodup) :
    ∀ s, GateReachable target (fun a => a.isReset = false) s →
      (s.initialized = true → s.connections.map (·.aliasName) = target.connections.map (·.1)) ∧
      (s.initialized = false → s.connections = []) ∧
      s.closeCalls.Nodup ∧ (∀ conn ∈ s.closeCalls, conn ∈ s.returned) ∧
      ((∀ c ∈ s.callers, c.phase.isDone = true) →
        ∀ conn, conn ∈ s.returned ∧ conn ∉ s.closeCalls ↔ conn ∈ s.connections) ∧
      (∀ (i : Nat) (s' : GateState), s.callers[i]? = some ⟨.close, .queued⟩ →
        s.step target (.resume i) = some s' →
        s'.initialized = false ∧ s'.connections = [] ∧ s'.closeCalls = s.closeCalls ++ s.connections ∧
          s'.phase? i = some (if s.initialized then .closing s.connections else .done (.ok ()))) ∧
      (∀ (i : Nat) (held : List Conn) (fails : Conn → Bool) (s' : GateState),
        s.phase? i = some (.closing held) → s.step target (.settled i fails) = some s' →
        s'.initialized = false ∧ s'.closeCalls = s.closeCalls ∧
          ∃ reply, s'.phase? i = some (.done reply) ∧ (reply = .ok () ↔ (held.filter fails).length = 0) ∧
            ∀ f, reply = .error f →
              f.message = "Failed to close " ++ toString (held.filter fails).length ++ " connection(s)") := by
  intro s reach
  have inv := (GateReachable.any reach).inv distinct
  have ledger := reach.ledger distinct
  exact ⟨inv.open_full, inv.closed_empty, ledger.closeCalls_nodup, fun conn => ledger.returned_of_closed,
    fun settled => ledger.open_iff_published settled,
    fun i s' hc stepped => inv.resume_close hc stepped,
    fun i held fails s' closing stepped => inv.settled_closing closing stepped⟩

theorem gate_lifecycle_on_pair :
    (pairTarget.connections.map (·.1)).Nodup ∧
    ∀ s, GateReachable pairTarget (fun a => a.isReset = false) s →
      (s.initialized = true → s.connections.map (·.aliasName) = pairTarget.connections.map (·.1)) ∧
      (s.initialized = false → s.connections = []) ∧
      s.closeCalls.Nodup ∧ (∀ conn ∈ s.closeCalls, conn ∈ s.returned) ∧
      ((∀ c ∈ s.callers, c.phase.isDone = true) →
        ∀ conn, conn ∈ s.returned ∧ conn ∉ s.closeCalls ↔ conn ∈ s.connections) ∧
      (∀ (i : Nat) (s' : GateState), s.callers[i]? = some ⟨.close, .queued⟩ →
        s.step pairTarget (.resume i) = some s' →
        s'.initialized = false ∧ s'.connections = [] ∧ s'.closeCalls = s.closeCalls ++ s.connections ∧
          s'.phase? i = some (if s.initialized then .closing s.connections else .done (.ok ()))) ∧
      (∀ (i : Nat) (held : List Conn) (fails : Conn → Bool) (s' : GateState),
        s.phase? i = some (.closing held) → s.step pairTarget (.settled i fails) = some s' →
        s'.initialized = false ∧ s'.closeCalls = s.closeCalls ∧
          ∃ reply, s'.phase? i = some (.done reply) ∧ (reply = .ok () ↔ (held.filter fails).length = 0) ∧
            ∀ f, reply = .error f →
              f.message = "Failed to close " ++ toString (held.filter fails).length ++ " connection(s)") :=
  ⟨by decide, gate_lifecycle (by decide)⟩

end ModelTables
