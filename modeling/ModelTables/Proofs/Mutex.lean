import ModelTables.Connection.Mutex

/-! # The mutex serves its callers one at a time, in order

Main statement, `mutex_serves_calls_in_order`: in every state a mutex reaches, the
record of events is each call's own story, call after call (its task started, its
task settled, the call settled with what its task settled with); a call that has
left its wait comes after settled calls only, so at most one task runs; a waiting
call may go on exactly when every call before it has settled, however their tasks
ended; and when no task is running, the calls have all settled or one of them can
go on.

The invariant `MutexState.Inv`: caller `i` waits for promise `i` and made promise
`i + 1`; the resolved promises are the first and those of the settled calls; a call
that has left its wait comes after settled calls only; and the record is the
history of the calls.  A step that moves one call on keeps it (`Inv.advance`), so
every step does (`Inv.step`) and every reachable state has it (`MutexReachable.inv`).
-/

namespace ModelTables

/-- What a call in a phase has done that its caller sees, in order. -/
def MutexPhase.trace {α : Type} (i : Nat) : MutexPhase α → List (MutexEvent α)
  | .waiting => []
  | .running => [.started i]
  | .finishing outcome => [.started i, .taskSettled i outcome]
  | .done reply => [.started i, .taskSettled i reply, .replied i reply]

namespace MutexState

variable {α : Type} {s s' : MutexState α}

/-- What the calls have done, call after call. -/
def history (s : MutexState α) : List (MutexEvent α) :=
  s.calls.zipIdx.flatMap fun entry => entry.1.phase.trace entry.2

/-! ## What each update changes -/

@[simp] theorem record_calls (e : MutexEvent α) : (s.record e).calls = s.calls := rfl
@[simp] theorem record_events (e : MutexEvent α) : (s.record e).events = s.events ++ [e] := rfl
@[simp] theorem record_resolved (e : MutexEvent α) : (s.record e).resolved = s.resolved := rfl
@[simp] theorem moveTo_events (i : Nat) (p : MutexPhase α) : (s.moveTo i p).events = s.events := rfl
@[simp] theorem moveTo_resolved (i : Nat) (p : MutexPhase α) : (s.moveTo i p).resolved = s.resolved := rfl
@[simp] theorem moveTo_tail (i : Nat) (p : MutexPhase α) : (s.moveTo i p).tail = s.tail := rfl
@[simp] theorem moveTo_made (i : Nat) (p : MutexPhase α) : (s.moveTo i p).made = s.made := rfl
@[simp] theorem call_calls : s.call.calls = s.calls ++ [⟨s.tail, s.made, .waiting⟩] := rfl
@[simp] theorem call_events : s.call.events = s.events := rfl
@[simp] theorem call_resolved : s.call.resolved = s.resolved := rfl
@[simp] theorem call_tail : s.call.tail = s.made := rfl
@[simp] theorem call_made : s.call.made = s.made + 1 := rfl

theorem calls_moveTo_self (i : Nat) (p : MutexPhase α) :
    (s.moveTo i p).calls[i]? = s.calls[i]?.map fun c => { c with phase := p } := by
  simp [moveTo]

theorem calls_moveTo_ne {i j : Nat} (p : MutexPhase α) (other : i ≠ j) :
    (s.moveTo i p).calls[j]? = s.calls[j]? := by
  simp [moveTo, other]

theorem phase?_moveTo_self {i : Nat} {c : MutexCall α} (at_i : s.calls[i]? = some c) (p : MutexPhase α) :
    (s.moveTo i p).phase? i = some p := by
  simp [phase?, calls_moveTo_self, at_i]

theorem phase?_moveTo_ne {i j : Nat} (p : MutexPhase α) (other : i ≠ j) :
    (s.moveTo i p).phase? j = s.phase? j := by
  simp [phase?, calls_moveTo_ne p other]

theorem phase?_of_calls {i : Nat} {c : MutexCall α} (at_i : s.calls[i]? = some c) :
    s.phase? i = some c.phase := by
  simp [phase?, at_i]

private theorem modify_middle {β : Type} (f : β → β) :
    ∀ (pre : List β) (c : β) (post : List β), (pre ++ c :: post).modify pre.length f = pre ++ f c :: post
  | [], _, _ => by simp
  | d :: pre, c, post => by simp [modify_middle f pre c post]

/-! ## One step -/

/-- What a step can do: make a call, let a waiting call whose promise is resolved
call its task (which runs, or throws at once), settle a running task, or let a call
whose task settled resolve its promise and settle. -/
theorem step_eq_some {a : MutexAction α} (stepped : s.step a = some s') :
    (a = .call ∧ s' = s.call) ∨
    (∃ i c, a = .start i none ∧ s.calls[i]? = some c ∧ c.phase = .waiting ∧ c.previous ∈ s.resolved ∧
      s' = (s.record (.started i)).moveTo i .running) ∨
    (∃ i c e, a = .start i (some e) ∧ s.calls[i]? = some c ∧ c.phase = .waiting ∧
      c.previous ∈ s.resolved ∧
      s' = ((s.record (.started i)).record (.taskSettled i (.error e))).release i c.own (.error e)) ∨
    (∃ i c o, a = .settle i o ∧ s.calls[i]? = some c ∧ c.phase = .running ∧
      s' = (s.moveTo i (.finishing o)).record (.taskSettled i o)) ∨
    (∃ i c o, a = .finish i ∧ s.calls[i]? = some c ∧ c.phase = .finishing o ∧
      s' = s.release i c.own o) := by
  cases a with
  | call => exact .inl ⟨rfl, (Option.some.inj stepped).symm⟩
  | start i thrown =>
    simp only [step] at stepped
    split at stepped
    · rename_i previous own found
      split at stepped
      · rename_i ready
        have ready : previous ∈ s.resolved := List.contains_iff_mem.mp ready
        cases thrown with
        | none => exact .inr (.inl ⟨i, _, rfl, found, rfl, ready, (Option.some.inj stepped).symm⟩)
        | some e => exact .inr (.inr (.inl ⟨i, _, e, rfl, found, rfl, ready, (Option.some.inj stepped).symm⟩))
      · cases stepped
    · cases stepped
  | settle i o =>
    simp only [step] at stepped
    split at stepped
    · rename_i found
      exact .inr (.inr (.inr (.inl ⟨i, _, o, rfl, found, rfl, (Option.some.inj stepped).symm⟩)))
    · cases stepped
  | finish i =>
    simp only [step] at stepped
    split at stepped
    · rename_i own outcome found
      exact .inr (.inr (.inr (.inr ⟨i, _, outcome, rfl, found, rfl, (Option.some.inj stepped).symm⟩)))
    · cases stepped

theorem phase?_congr {t : MutexState α} (same : s'.calls = t.calls) (j : Nat) : s'.phase? j = t.phase? j := by
  simp [phase?, same]

theorem isWaiting_eq_false {p : MutexPhase α} (left : p ≠ .waiting) : p.isWaiting = false := by
  cases p <;> simp_all [MutexPhase.isWaiting]

theorem eq_waiting_of_isWaiting {p : MutexPhase α} (waits : p.isWaiting = true) : p = .waiting := by
  cases p <;> simp_all [MutexPhase.isWaiting]

theorem isDone_iff {p : MutexPhase α} : p.isDone = true ↔ ∃ r, p = .done r := by
  cases p <;> simp [MutexPhase.isDone]

/-- The history of calls split around one of them. -/
theorem history_split {pre post : List (MutexCall α)} {c : MutexCall α} (split : s.calls = pre ++ c :: post) :
    s.history = (pre.zipIdx.flatMap fun entry => entry.1.phase.trace entry.2) ++ c.phase.trace pre.length ++
      (post.zipIdx (pre.length + 1)).flatMap fun entry => entry.1.phase.trace entry.2 := by
  simp only [history, split, List.zipIdx_append, Nat.zero_add, List.zipIdx_cons, List.flatMap_append,
    List.flatMap_cons, List.append_assoc]

/-- Calls that all wait have done nothing a caller sees. -/
theorem flatMap_trace_waiting {calls : List (MutexCall α)} (idle : ∀ d ∈ calls, d.phase = .waiting) (k : Nat) :
    ((calls.zipIdx k).flatMap fun entry => entry.1.phase.trace entry.2) = [] := by
  refine List.flatMap_eq_nil_iff.mpr fun entry member => ?_
  rw [idle entry.1 (List.fst_mem_of_mem_zipIdx member)]
  rfl

/-! ## The invariant -/

/-- What every state a mutex reaches satisfies. -/
structure Inv (s : MutexState α) : Prop where
  /-- Caller `i` waits for promise `i` and made promise `i + 1`. -/
  promises : ∀ i c, s.calls[i]? = some c → c.previous = i ∧ c.own = i + 1
  tail_eq : s.tail = s.calls.length
  made_eq : s.made = s.calls.length + 1
  /-- The resolved promises are the first one and those of the settled calls. -/
  resolved_iff : ∀ q, q ∈ s.resolved ↔ q = 0 ∨ ∃ i r, q = i + 1 ∧ s.phase? i = some (.done r)
  /-- A call that has left its wait comes after settled calls only. -/
  served : ∀ i j p, j < i → s.phase? i = some p → p.isWaiting = false → ∃ r, s.phase? j = some (.done r)
  /-- The record is the history of the calls. -/
  recorded : s.events = s.history

theorem inv_fresh : ({} : MutexState α).Inv where
  promises := by simp
  tail_eq := rfl
  made_eq := rfl
  resolved_iff := by simp [phase?]
  served := by simp [phase?]
  recorded := rfl

/-- A call whose promise is resolved comes after settled calls only. -/
theorem Inv.earlier_settled (inv : s.Inv) {i : Nat} {c : MutexCall α} (at_i : s.calls[i]? = some c)
    (ready : c.previous ∈ s.resolved) : ∀ j < i, ∃ r, s.phase? j = some (.done r) := by
  intro j before
  rw [(inv.promises i c at_i).1, inv.resolved_iff] at ready
  rcases ready with rfl | ⟨k, r, rfl, settled⟩
  · omega
  · rcases Nat.lt_succ_iff_lt_or_eq.mp before with earlier | rfl
    · exact inv.served k j (.done r) earlier settled rfl
    · exact ⟨r, settled⟩

/-- A call that has left its wait comes after settled calls only. -/
theorem Inv.earlier_of_left (inv : s.Inv) {i : Nat} {c : MutexCall α} (at_i : s.calls[i]? = some c)
    (left : c.phase.isWaiting = false) : ∀ j < i, ∃ r, s.phase? j = some (.done r) :=
  fun j before => inv.served i j c.phase before (phase?_of_calls at_i) left

/-- Once every call before it has settled, a call's promise is resolved. -/
theorem Inv.ready_of_settled (inv : s.Inv) {i : Nat} {c : MutexCall α} (at_i : s.calls[i]? = some c)
    (earlier : ∀ j < i, ∃ r, s.phase? j = some (.done r)) : c.previous ∈ s.resolved := by
  rw [(inv.promises i c at_i).1, inv.resolved_iff]
  cases i with
  | zero => exact .inl rfl
  | succ k =>
    obtain ⟨r, settled⟩ := earlier k (Nat.lt_succ_self k)
    exact .inr ⟨k, r, rfl, settled⟩

/-- Every call after one that has not settled still waits. -/
theorem Inv.split (inv : s.Inv) {i : Nat} {c : MutexCall α} (at_i : s.calls[i]? = some c)
    (unsettled : c.phase.isDone = false) :
    ∃ pre post, s.calls = pre ++ c :: post ∧ pre.length = i ∧ ∀ d ∈ post, d.phase = .waiting := by
  obtain ⟨within, found⟩ := List.getElem?_eq_some_iff.mp at_i
  refine ⟨s.calls.take i, s.calls.drop (i + 1), ?_, by simp; omega, fun d later => ?_⟩
  · rw [← found, ← List.drop_eq_getElem_cons within, List.take_append_drop]
  · obtain ⟨k, atLater⟩ := List.mem_iff_getElem?.mp later
    rw [List.getElem?_drop] at atLater
    -- a later call that had left its wait would need this one settled
    refine eq_waiting_of_isWaiting (Bool.not_eq_false _ ▸ fun left => ?_)
    obtain ⟨r, settled⟩ := inv.served (i + 1 + k) i d.phase (by omega) (phase?_of_calls atLater) left
    rw [phase?_of_calls at_i, Option.some.injEq] at settled
    simp [settled, MutexPhase.isDone] at unsettled

/-- A new call waits, last. -/
theorem Inv.after_call (inv : s.Inv) : s.call.Inv := by
  -- the phases of the calls made before are kept; the new one waits
  have phaseOf : ∀ j p, s.call.phase? j = some p → p.isWaiting = false → s.phase? j = some p := by
    intro j p found left
    simp only [phase?, call_calls, List.getElem?_append, List.getElem?_singleton] at found
    split at found
    · exact found
    · split at found
      · simp only [Option.map_some, Option.some.injEq] at found
        subst found
        simp [MutexPhase.isWaiting] at left
      · simp at found
  have kept : ∀ j r, s.phase? j = some (.done r) → s.call.phase? j = some (.done r) := by
    intro j r settled
    have within : j < s.calls.length := by
      simp only [phase?, Option.map_eq_some_iff] at settled
      obtain ⟨c, found, -⟩ := settled
      exact (List.getElem?_eq_some_iff.mp found).1
    simpa [phase?, List.getElem?_append_left within] using settled
  refine ⟨fun j d found => ?_, by simp [inv.made_eq], by simp [inv.made_eq], fun q => ?_,
    fun k j p before found left => ?_, ?_⟩
  · simp only [call_calls, List.getElem?_append, List.getElem?_singleton] at found
    split at found
    · exact inv.promises j d found
    · split at found
      · cases found
        constructor <;> simp [inv.tail_eq, inv.made_eq] <;> omega
      · cases found
  · rw [call_resolved, inv.resolved_iff]
    constructor
    · rintro (rfl | ⟨j, r, rfl, settled⟩)
      · exact .inl rfl
      · exact .inr ⟨j, r, rfl, kept j r settled⟩
    · rintro (rfl | ⟨j, r, rfl, settled⟩)
      · exact .inl rfl
      · exact .inr ⟨j, r, rfl, phaseOf j _ settled rfl⟩
  · obtain ⟨r, settled⟩ := inv.served k j p before (phaseOf k p found left) left
    exact ⟨r, kept j r settled⟩
  · rw [call_events, inv.recorded]
    simp [history, List.zipIdx_append, MutexPhase.trace]

/-- A step that moves one unsettled call, all of whose predecessors have settled, out
of its wait or further on, adding `new` to its story, keeps the invariant. -/
theorem Inv.advance (inv : s.Inv) (p : MutexPhase α) (new : List (MutexEvent α)) {i : Nat}
    {c : MutexCall α} (at_i : s.calls[i]? = some c) (unsettled : c.phase.isDone = false)
    (earlier : ∀ j < i, ∃ r, s.phase? j = some (.done r)) (left : p.isWaiting = false)
    (extended : p.trace i = c.phase.trace i ++ new)
    (moved : s'.calls = (s.moveTo i p).calls) (tail : s'.tail = s.tail) (made : s'.made = s.made)
    (recorded : s'.events = s.events ++ new)
    (resolves : ∀ q, q ∈ s'.resolved ↔ q ∈ s.resolved ∨ p.isDone = true ∧ q = i + 1) : s'.Inv := by
  have phaseAt : ∀ j, s'.phase? j = if i = j then some p else s.phase? j := by
    intro j
    rw [phase?_congr moved]
    split
    · rename_i same
      subst same
      exact phase?_moveTo_self at_i p
    · exact phase?_moveTo_ne p ‹_›
  have notDone : ∀ r, s.phase? i ≠ some (.done r) := by
    intro r settled
    rw [phase?_of_calls at_i, Option.some.injEq] at settled
    simp [settled, MutexPhase.isDone] at unsettled
  -- a settled call other than the moved one keeps its reply
  have kept : ∀ j r, s.phase? j = some (.done r) → s'.phase? j = some (.done r) := by
    intro j r settled
    have other : i ≠ j := fun same => notDone r (same ▸ settled)
    rw [phaseAt, if_neg other]
    exact settled
  refine ⟨fun j d found => ?_, by rw [tail, inv.tail_eq, moved]; simp [moveTo],
    by rw [made, inv.made_eq, moved]; simp [moveTo], fun q => ?_, fun k j q before found left' => ?_, ?_⟩
  · rw [moved] at found
    by_cases same : i = j
    · subst same
      rw [calls_moveTo_self, at_i] at found
      cases found
      exact inv.promises i c at_i
    · rw [calls_moveTo_ne p same] at found
      exact inv.promises j d found
  · rw [resolves, inv.resolved_iff]
    constructor
    · rintro ((rfl | ⟨j, r, rfl, settled⟩) | ⟨done, rfl⟩)
      · exact .inl rfl
      · exact .inr ⟨j, r, rfl, kept j r settled⟩
      · obtain ⟨r, rfl⟩ := isDone_iff.mp done
        exact .inr ⟨i, r, rfl, by rw [phaseAt, if_pos rfl]⟩
    · rintro (rfl | ⟨j, r, rfl, settled⟩)
      · exact .inl (.inl rfl)
      · rw [phaseAt] at settled
        split at settled
        · rename_i same
          subst same
          cases settled
          exact .inr ⟨rfl, rfl⟩
        · exact .inl (.inr ⟨j, r, rfl, settled⟩)
  · rw [phaseAt] at found
    split at found
    · rename_i same
      subst same
      obtain ⟨r, settled⟩ := earlier j before
      exact ⟨r, kept j r settled⟩
    · obtain ⟨r, settled⟩ := inv.served k j q before found left'
      exact ⟨r, kept j r settled⟩
  · -- the moved call's story grows by `new`; the calls after it still wait
    obtain ⟨pre, post, split, rfl, idle⟩ := inv.split at_i unsettled
    have movedSplit : s'.calls = pre ++ { c with phase := p } :: post := by
      rw [moved, moveTo, split, modify_middle]
    rw [recorded, inv.recorded, history_split split, history_split movedSplit, flatMap_trace_waiting idle]
    simp [extended]

/-- Every step keeps the invariant. -/
theorem Inv.step (inv : s.Inv) {a : MutexAction α} (stepped : s.step a = some s') : s'.Inv := by
  rcases step_eq_some stepped with
    ⟨-, rfl⟩ | ⟨i, c, -, at_i, waits, ready, rfl⟩ | ⟨i, c, e, -, at_i, waits, ready, rfl⟩ |
      ⟨i, c, o, -, at_i, runs, rfl⟩ | ⟨i, c, o, -, at_i, finishes, rfl⟩
  · exact inv.after_call
  · exact inv.advance .running [.started i] at_i (by simp [waits, MutexPhase.isDone])
      (inv.earlier_settled at_i ready) rfl (by simp [waits, MutexPhase.trace]) rfl rfl rfl rfl
      (by simp [MutexPhase.isDone])
  · -- the task throws as it is called, and the call settles at once
    exact inv.advance (.done (.error e)) [.started i, .taskSettled i (.error e), .replied i (.error e)] at_i
      (by simp [waits, MutexPhase.isDone]) (inv.earlier_settled at_i ready) rfl
      (by simp [waits, MutexPhase.trace]) rfl rfl rfl (by simp [release])
      (by simp [release, (inv.promises i c at_i).2, MutexPhase.isDone])
  · -- a running call has left its wait, so the calls before it have settled
    have earlier := inv.earlier_of_left at_i (by simp [runs, MutexPhase.isWaiting])
    exact inv.advance (.finishing o) [.taskSettled i o] at_i (by simp [runs, MutexPhase.isDone]) earlier rfl
      (by simp [runs, MutexPhase.trace]) rfl rfl rfl rfl (by simp [MutexPhase.isDone])
  · have earlier := inv.earlier_of_left at_i (by simp [finishes, MutexPhase.isWaiting])
    exact inv.advance (.done o) [.replied i o] at_i (by simp [finishes, MutexPhase.isDone]) earlier rfl
      (by simp [finishes, MutexPhase.trace]) rfl rfl rfl rfl
      (by simp [release, (inv.promises i c at_i).2, MutexPhase.isDone])

/-! ## What the invariant gives the callers -/

/-- The calls before one whose task runs have settled, so none of their tasks runs. -/
theorem Inv.inactive_before (inv : s.Inv) {i j : Nat} {p q : MutexPhase α} (at_i : s.phase? i = some p)
    (at_j : s.phase? j = some q) (active_j : q.isActive = true) (before : i < j) : p.isActive = false := by
  have left : q.isWaiting = false := by
    cases q <;> simp_all [MutexPhase.isActive, MutexPhase.isWaiting]
  obtain ⟨r, settled⟩ := inv.served j i q before at_j left
  rw [at_i, Option.some.injEq] at settled
  rw [settled]
  rfl

/-- At most one task runs. -/
theorem Inv.one_at_a_time (inv : s.Inv) {i j : Nat} {p q : MutexPhase α} (at_i : s.phase? i = some p)
    (at_j : s.phase? j = some q) (active_i : p.isActive = true) (active_j : q.isActive = true) : i = j := by
  rcases Nat.lt_trichotomy i j with before | same | after
  · simp [inv.inactive_before at_i at_j active_j before] at active_i
  · exact same
  · simp [inv.inactive_before at_j at_i active_i after] at active_j

/-- A waiting call can go on exactly when every call before it has settled. -/
theorem Inv.start_iff (inv : s.Inv) (i : Nat) (thrown : Option String) :
    (∃ s', s.step (.start i thrown) = some s') ↔
      s.phase? i = some .waiting ∧ ∀ j < i, ∃ r, s.phase? j = some (.done r) := by
  constructor
  · rintro ⟨s', stepped⟩
    rcases step_eq_some stepped with
      ⟨absurd, -⟩ | ⟨i', c, same, at_i, waits, ready, -⟩ | ⟨i', c, e, same, at_i, waits, ready, -⟩ |
        ⟨_, _, _, absurd, -⟩ | ⟨_, _, _, absurd, -⟩
    · cases absurd
    · cases same
      exact ⟨by rw [phase?_of_calls at_i, waits], inv.earlier_settled at_i ready⟩
    · cases same
      exact ⟨by rw [phase?_of_calls at_i, waits], inv.earlier_settled at_i ready⟩
    · cases absurd
    · cases absurd
  · rintro ⟨waits, earlier⟩
    obtain ⟨⟨previous, own, phase⟩, at_i, rfl⟩ := Option.map_eq_some_iff.mp waits
    have ready := inv.ready_of_settled at_i earlier
    -- the successor is whatever the step computes
    cases thrown <;> exact ⟨_, by simp [MutexState.step, at_i, ready]; rfl⟩

/-- A call whose task has settled can settle. -/
theorem finish_of_finishing {i : Nat} {o : Except String α} (finishes : s.phase? i = some (.finishing o)) :
    ∃ s', s.step (.finish i) = some s' := by
  obtain ⟨⟨previous, own, phase⟩, at_i, rfl⟩ := Option.map_eq_some_iff.mp finishes
  exact ⟨s.release i own o, by simp [MutexState.step, at_i]⟩

theorem phase?_of_lt {i j : Nat} {p : MutexPhase α} (at_i : s.phase? i = some p) (before : j < i) :
    ∃ q, s.phase? j = some q := by
  obtain ⟨c, found, -⟩ := Option.map_eq_some_iff.mp at_i
  have within := (List.getElem?_eq_some_iff.mp found).1
  exact ⟨_, phase?_of_calls (List.getElem?_eq_getElem (by omega))⟩

/-- With no task running, every call has settled or one of them can go on: the first
call that has not settled either waits, with every call before it settled, or has a
task that settled. -/
theorem Inv.progress (inv : s.Inv) (idle : ∀ i, s.phase? i ≠ some .running) :
    (∀ i p, s.phase? i = some p → p.isDone = true) ∨
      ∃ i, (∃ s', s.step (.start i none) = some s') ∨ ∃ s', s.step (.finish i) = some s' := by
  by_cases settled : ∀ i p, s.phase? i = some p → p.isDone = true
  · exact .inl settled
  · refine .inr ?_
    obtain ⟨i, p, at_i, unsettled⟩ : ∃ i p, s.phase? i = some p ∧ p.isDone = false := by
      simpa using settled
    -- down to the first call that has not settled
    induction i using Nat.strongRecOn generalizing p with
    | ind i ih =>
      by_cases earlier : ∀ j < i, ∃ r, s.phase? j = some (.done r)
      · cases p with
        | waiting => exact ⟨i, .inl ((inv.start_iff i none).mpr ⟨at_i, earlier⟩)⟩
        | running => exact absurd at_i (idle i)
        | finishing o => exact ⟨i, .inr (finish_of_finishing at_i)⟩
        | done r => simp [MutexPhase.isDone] at unsettled
      · obtain ⟨j, before, pending⟩ : ∃ j < i, ∀ r, s.phase? j ≠ some (.done r) := by
          simpa using earlier
        obtain ⟨q, at_j⟩ := phase?_of_lt at_i before
        refine ih j before q at_j ?_
        cases q with
        | done r => exact absurd at_j (pending r)
        | _ => rfl

/-- A call that settled with a reply had a task that settled with it. -/
theorem replied_own_outcome {i : Nat} {r : Except String α} (replied : MutexEvent.replied i r ∈ s.history) :
    MutexEvent.taskSettled i r ∈ s.history := by
  obtain ⟨entry, member, inTrace⟩ := List.mem_flatMap.mp replied
  -- only a settled call's story holds a reply, and it holds its task's outcome too
  refine List.mem_flatMap.mpr ⟨entry, member, ?_⟩
  cases phase : entry.1.phase <;> simp_all [MutexPhase.trace]

/-- What the mutex guarantees its callers in a state. -/
structure Serves (s : MutexState α) : Prop where
  /-- The record is each call's own story, call after call: its task started, its
  task settled, and the call settled with what its task settled with. -/
  recorded : s.events = s.history
  /-- A call settles with its own task's outcome. -/
  own_outcome : ∀ i r, MutexEvent.replied i r ∈ s.events → MutexEvent.taskSettled i r ∈ s.events
  /-- At most one task runs. -/
  one_at_a_time : ∀ i j p q, s.phase? i = some p → s.phase? j = some q → p.isActive = true →
    q.isActive = true → i = j
  /-- A call that has left its wait comes after settled calls only: the tasks start
  in the order of the calls, each after the one before has settled. -/
  in_order : ∀ i j p, j < i → s.phase? i = some p → p.isWaiting = false →
    ∃ r, s.phase? j = some (.done r)
  /-- A waiting call can go on exactly when every call before it has settled, however
  their tasks ended. -/
  start_iff : ∀ i thrown, (∃ s', s.step (.start i thrown) = some s') ↔
    s.phase? i = some .waiting ∧ ∀ j < i, ∃ r, s.phase? j = some (.done r)
  /-- With no task running, every call has settled or one of them can go on. -/
  progress : (∀ i, s.phase? i ≠ some .running) → (∀ i p, s.phase? i = some p → p.isDone = true) ∨
    ∃ i, (∃ s', s.step (.start i none) = some s') ∨ ∃ s', s.step (.finish i) = some s'

theorem Inv.serves (inv : s.Inv) : s.Serves where
  recorded := inv.recorded
  own_outcome _ _ replied := by
    rw [inv.recorded] at replied ⊢
    exact replied_own_outcome replied
  one_at_a_time _ _ _ _ := inv.one_at_a_time
  in_order := inv.served
  start_iff := inv.start_iff
  progress := inv.progress

end MutexState

/-- Every state a mutex reaches satisfies the invariant. -/
theorem MutexReachable.inv {α : Type} {s : MutexState α} (reach : MutexReachable s) : s.Inv := by
  induction reach with
  | start => exact MutexState.inv_fresh
  | step _ stepped ih => exact ih.step stepped

/-- A run of steps from a reachable state reaches a state. -/
theorem MutexReachable.run {α : Type} {s s' : MutexState α} :
    ∀ (actions : List (MutexAction α)), MutexReachable s → s.run actions = some s' → MutexReachable s'
  | [], reach, ran => by
    cases ran
    exact reach
  | a :: rest, reach, ran => by
    simp only [MutexState.run, List.foldlM_cons] at ran
    rcases stepped : s.step a with _ | next
    · simp [stepped] at ran
    · rw [stepped] at ran
      exact MutexReachable.run rest (reach.step stepped) ran

/-- Whatever calls are made and whenever, and however and whenever their tasks
settle, the mutex runs the tasks one at a time, in the order of the calls, each after
the one before has settled; every call settles with its own task's outcome; a call
goes on once the calls before it have settled, whether their tasks succeeded or
failed; and while no task runs, some call can go on until all have settled. -/
theorem mutex_serves_calls_in_order {α : Type} {s : MutexState α} (reach : MutexReachable s) : s.Serves :=
  reach.inv.serves

/-- Two calls whose first task throws as it is called: the second still runs and
settles with its value. -/
theorem mutex_serves_after_throw :
    let actions : List (MutexAction Nat) :=
      [.call, .call, .start 0 (some "boom"), .start 1 none, .settle 1 (.ok 7), .finish 1]
    ∃ s : MutexState Nat, ({} : MutexState Nat).run actions = some s ∧
      s.events = [.started 0, .taskSettled 0 (.error "boom"), .replied 0 (.error "boom"),
        .started 1, .taskSettled 1 (.ok 7), .replied 1 (.ok 7)] ∧ s.Serves := by
  intro actions
  exact ⟨_, rfl, rfl, mutex_serves_calls_in_order (MutexReachable.start.run actions rfl)⟩

end ModelTables
