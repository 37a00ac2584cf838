import ModelTables.Log
import Mathlib.Data.List.Forall2

/-! # Running logged computations

A `Run` threads the log through its steps and may stop with a failure.  These
lemmas say what the few combinators the library uses do to a log, and give the
one relational rule the renderers need: two folds over the same list whose
steps log alike and keep a relation between their states end related, with the
same log.  For plain `Except` computations, a bind, a map and a filter-map that
succeed are taken apart into the successes of their parts.
-/

namespace ModelTables.Run

variable {α β γ δ : Type}

@[simp] theorem run_pure (a : α) (log : List LogEntry) :
    (pure a : Run α).run.run log = (.ok a, log) := rfl

@[simp] theorem run_warn (message : String) (log : List LogEntry) :
    (Run.warn message).run.run log = (.ok (), log ++ [⟨.warn, message⟩]) := rfl

theorem run_bind_of_ok {x : Run α} {f : α → Run β} {log after : List LogEntry} {a : α}
    (first : x.run.run log = (.ok a, after)) : (x >>= f).run.run log = (f a).run.run after := by
  simp only [ExceptT.run_bind, StateT.run_bind, first]
  rfl

theorem run_bind_of_error {x : Run α} {f : α → Run β} {log after : List LogEntry} {failure : Failure}
    (first : x.run.run log = (.error failure, after)) :
    (x >>= f).run.run log = (.error failure, after) := by
  simp only [ExceptT.run_bind, StateT.run_bind, first]
  rfl

/-- A bind that succeeds is a first step that succeeds, then the rest. -/
theorem run_bind_eq_ok {x : Run α} {f : α → Run β} {log after : List LogEntry} {b : β}
    (ran : (x >>= f).run.run log = (.ok b, after)) :
    ∃ a middle, x.run.run log = (.ok a, middle) ∧ (f a).run.run middle = (.ok b, after) := by
  rcases first : x.run.run log with ⟨_ | a, middle⟩
  · rw [run_bind_of_error first] at ran
    cases ran
  · rw [run_bind_of_ok first] at ran
    exact ⟨a, middle, rfl, ran⟩

@[simp] theorem run_observing (x : Run α) (log : List LogEntry) :
    (observing x : Run (Except Failure α)).run.run log = (.ok (x.run.run log).1, (x.run.run log).2) := by
  simp only [observing, ExceptT.run_tryCatch, StateT.run_bind, ExceptT.run_bind]
  rcases x.run.run log with ⟨_ | _, after⟩ <;> rfl

/-- A lifted result that succeeds was a success, and logs nothing. -/
theorem lift_eq_ok {r : Except Failure α} {log after : List LogEntry} {a : α}
    (lifted : (Run.lift r).run.run log = (.ok a, after)) : r = .ok a ∧ after = log := by
  cases r with
  | ok b =>
    cases lifted
    exact ⟨rfl, rfl⟩
  | error e => cases lifted

/-- A fold whose steps on the list's elements keep `holds` of the state ends in a
state where it holds. -/
theorem foldlM_preserves {f : γ → α → Run γ} {holds : γ → Prop} (xs : List α)
    (step : ∀ x ∈ xs, ∀ a a' log after, holds a → (f a x).run.run log = (.ok a', after) → holds a') :
    ∀ a a' log after, holds a → (xs.foldlM f a).run.run log = (.ok a', after) → holds a' := by
  induction xs with
  | nil =>
    intro a a' log after start ran
    cases ran
    exact start
  | cons x rest ih =>
    intro a a' log after start ran
    rw [List.foldlM_cons] at ran
    obtain ⟨b, middle, first, ran⟩ := run_bind_eq_ok ran
    exact ih (fun y member => step y (List.mem_cons_of_mem x member)) b a' middle after
      (step x List.mem_cons_self a b log middle start first) ran

/-- A fold whose steps all succeed, each raising a measure by one exactly on the
elements `p` holds of, succeeds and raises the measure by the number of them. -/
theorem foldlM_count {f : γ → α → Run γ} (measure : γ → Nat) (p : α → Bool) (xs : List α)
    (step : ∀ x ∈ xs, ∀ a log, ∃ a' after, (f a x).run.run log = (.ok a', after) ∧
      measure a' = measure a + if p x then 1 else 0) :
    ∀ a log, ∃ a' after, (xs.foldlM f a).run.run log = (.ok a', after) ∧
      measure a' = measure a + xs.countP p := by
  induction xs with
  | nil => exact fun a log => ⟨a, log, rfl, rfl⟩
  | cons x rest ih =>
    intro a log
    obtain ⟨b, middle, first, raised⟩ := step x List.mem_cons_self a log
    obtain ⟨a', after, restRun, restRaised⟩ :=
      ih (fun y member => step y (List.mem_cons_of_mem x member)) b middle
    refine ⟨a', after, by rw [List.foldlM_cons, run_bind_of_ok first, restRun], ?_⟩
    rw [List.countP_cons, restRaised, raised]
    omega

/-- A fold whose steps all succeed succeeds. -/
theorem foldlM_ok {f : γ → α → Run γ} (xs : List α)
    (step : ∀ x ∈ xs, ∀ a log, ∃ a' after, (f a x).run.run log = (.ok a', after)) :
    ∀ a log, ∃ a' after, (xs.foldlM f a).run.run log = (.ok a', after) := by
  intro a log
  -- a fold that counts nothing
  have counted : ∀ x ∈ xs, ∀ a log, ∃ a' after, (f a x).run.run log = (.ok a', after) ∧
      (fun _ => 0) a' = (fun _ => 0) a + if (fun _ => false) x then 1 else 0 := by
    intro x member a log
    obtain ⟨a', after, ran⟩ := step x member a log
    exact ⟨a', after, ran, rfl⟩
  obtain ⟨a', after, ran, -⟩ := foldlM_count (fun _ => 0) (fun _ => false) xs counted a log
  exact ⟨a', after, ran⟩

/-- Two folds over one list, whose steps on the list's elements log alike and keep
`related` between the states, end with related states and the same log. -/
theorem foldlM_lockstep {f : γ → α → Run γ} {g : δ → α → Run δ} {related : γ → δ → Prop}
    (xs : List α)
    (step : ∀ x ∈ xs, ∀ a b log, related a b → ∃ a' b' after,
      (f a x).run.run log = (.ok a', after) ∧ (g b x).run.run log = (.ok b', after) ∧ related a' b') :
    ∀ a b log, related a b → ∃ a' b' after,
      (xs.foldlM f a).run.run log = (.ok a', after) ∧ (xs.foldlM g b).run.run log = (.ok b', after) ∧
      related a' b' := by
  induction xs with
  | nil => exact fun a b log start => ⟨a, b, log, rfl, rfl, start⟩
  | cons x rest ih =>
    intro a b log start
    obtain ⟨a', b', middle, first, second, kept⟩ := step x (List.mem_cons_self ..) a b log start
    obtain ⟨a'', b'', after, restFirst, restSecond, ended⟩ :=
      ih (fun y member => step y (List.mem_cons_of_mem x member)) a' b' middle kept
    refine ⟨a'', b'', after, ?_, ?_, ended⟩
    · rw [List.foldlM_cons, run_bind_of_ok first, restFirst]
    · rw [List.foldlM_cons, run_bind_of_ok second, restSecond]

end ModelTables.Run

namespace ModelTables

theorem Except.bind_eq_ok_iff {ε α β : Type} {x : Except ε α} {f : α → Except ε β} {b : β} :
    (x >>= f) = .ok b ↔ ∃ a, x = .ok a ∧ f a = .ok b := by
  cases x <;> simp [bind, Except.bind]

/-- A list mapped without failure corresponds to its results one by one. -/
theorem mapM_forall₂ {ε α β : Type} {f : α → Except ε β} :
    ∀ {xs : List α} {ys : List β}, xs.mapM f = .ok ys → List.Forall₂ (fun x y => f x = .ok y) xs ys
  | [], ys, mapped => by
    simp only [List.mapM_nil, pure, Except.pure, Except.ok.injEq] at mapped
    subst mapped
    exact .nil
  | x :: rest, ys, mapped => by
    rw [List.mapM_cons] at mapped
    obtain ⟨y, first, mapped⟩ := Except.bind_eq_ok_iff.mp mapped
    obtain ⟨ys', others, mapped⟩ := Except.bind_eq_ok_iff.mp mapped
    simp only [pure, Except.pure, Except.ok.injEq] at mapped
    subst mapped
    exact .cons first (mapM_forall₂ others)

/-- Every element of the right list corresponds to one of the left list. -/
theorem exists_of_forall₂ {α β : Type} {R : α → β → Prop} :
    ∀ {xs : List α} {ys : List β}, List.Forall₂ R xs ys → ∀ y ∈ ys, ∃ x ∈ xs, R x y
  | [], [], .nil => by simp
  | x :: _, _ :: _, .cons related rest => by
    intro y member
    rcases List.mem_cons.mp member with rfl | later
    · exact ⟨x, List.mem_cons_self .., related⟩
    · obtain ⟨x', within, related'⟩ := exists_of_forall₂ rest y later
      exact ⟨x', List.mem_cons_of_mem _ within, related'⟩

/-- What a list mapped without failure is made of: one result per element, each
the result of an element. -/
theorem mapM_eq_ok {ε α β : Type} {f : α → Except ε β} {xs : List α} {ys : List β}
    (mapped : xs.mapM f = .ok ys) : ys.length = xs.length ∧ ∀ y ∈ ys, ∃ x ∈ xs, f x = .ok y :=
  have each := mapM_forall₂ mapped
  ⟨each.length_eq.symm, exists_of_forall₂ each⟩

/-- A fold that succeeds, each of whose steps on the list's elements gives what a
plain step gives, ends where the plain fold ends. -/
theorem foldlM_eq_ok_foldl {ε α β : Type} {f : α → β → Except ε α} (step : α → β → α) :
    ∀ {xs : List β} {start last : α}, (∀ acc x next, x ∈ xs → f acc x = .ok next → next = step acc x) →
      xs.foldlM f start = .ok last → last = xs.foldl step start
  | [], start, last, _, folded => by
    simp only [List.foldlM_nil, pure, Except.pure, Except.ok.injEq] at folded
    simp [folded]
  | x :: rest, start, last, each, folded => by
    rw [List.foldlM_cons] at folded
    obtain ⟨next, first, folded⟩ := Except.bind_eq_ok_iff.mp folded
    rw [List.foldl_cons, ← each start x next List.mem_cons_self first]
    exact foldlM_eq_ok_foldl step (fun acc y next' member => each acc y next' (List.mem_cons_of_mem _ member))
      folded

/-- Each result of a filter-map that succeeds is kept from an element. -/
theorem filterMapM_eq_ok {ε α β : Type} {f : α → Except ε (Option β)} :
    ∀ {xs : List α} {ys : List β}, xs.filterMapM f = .ok ys → ∀ y ∈ ys, ∃ x ∈ xs, f x = .ok (some y)
  | [], ys, mapped => by
    simp only [List.filterMapM_nil, pure, Except.pure, Except.ok.injEq] at mapped
    simp [← mapped]
  | x :: rest, ys, mapped => by
    rw [List.filterMapM_cons] at mapped
    obtain ⟨kept, first, mapped⟩ := Except.bind_eq_ok_iff.mp mapped
    rcases kept with _ | y
    · intro z member
      obtain ⟨w, within, made⟩ := filterMapM_eq_ok mapped z member
      exact ⟨w, List.mem_cons_of_mem _ within, made⟩
    · obtain ⟨ys', others, mapped⟩ := Except.bind_eq_ok_iff.mp mapped
      simp only [pure, Except.pure, Except.ok.injEq] at mapped
      subst mapped
      intro z member
      rcases List.mem_cons.mp member with rfl | later
      · exact ⟨x, List.mem_cons_self .., first⟩
      · obtain ⟨w, within, made⟩ := filterMapM_eq_ok others z later
        exact ⟨w, List.mem_cons_of_mem _ within, made⟩

/-- A filter-map whose every step succeeds succeeds with the pure filter-map. -/
theorem filterMapM_of_ok {ε α β : Type} {f : α → Except ε (Option β)} {g : α → Option β} :
    ∀ {xs : List α}, (∀ x ∈ xs, f x = .ok (g x)) → xs.filterMapM f = .ok (xs.filterMap g)
  | [], _ => rfl
  | x :: rest, each => by
    rw [List.filterMapM_cons, each x List.mem_cons_self,
      filterMapM_of_ok fun y member => each y (List.mem_cons_of_mem x member), List.filterMap_cons]
    cases g x <;> rfl

/-- A filter-map that succeeds took a step that succeeded at every element. -/
theorem ok_of_filterMapM {ε α β : Type} {f : α → Except ε (Option β)} :
    ∀ {xs : List α} {ys : List β}, xs.filterMapM f = .ok ys → ∀ x ∈ xs, ∃ r, f x = .ok r
  | [], _, _ => by simp
  | x :: rest, ys, mapped => by
    rw [List.filterMapM_cons] at mapped
    obtain ⟨kept, first, mapped⟩ := Except.bind_eq_ok_iff.mp mapped
    have others : ∃ ys', rest.filterMapM f = .ok ys' := by
      rcases kept with _ | y
      · exact ⟨ys, mapped⟩
      · obtain ⟨ys', others, -⟩ := Except.bind_eq_ok_iff.mp mapped
        exact ⟨ys', others⟩
    obtain ⟨ys', others⟩ := others
    intro z member
    rcases List.mem_cons.mp member with rfl | later
    · exact ⟨kept, first⟩
    · exact ok_of_filterMapM others z later

/-- A filter-map that fails took a step that failed so at some element. -/
theorem error_of_filterMapM {ε α β : Type} {f : α → Except ε (Option β)} {e : ε} :
    ∀ {xs : List α}, xs.filterMapM f = .error e → ∃ x ∈ xs, f x = .error e
  | [], failed => by cases failed
  | x :: rest, failed => by
    rw [List.filterMapM_cons] at failed
    rcases first : f x with e' | kept
    · rw [first] at failed
      cases failed
      exact ⟨x, List.mem_cons_self, first⟩
    · rw [first] at failed
      -- the step at `x` succeeded, so the rest of the list failed
      have others : rest.filterMapM f = .error e := by
        rcases kept with _ | y
        · exact failed
        · rcases later : rest.filterMapM f with e'' | ys
          · rw [later] at failed
            exact failed
          · rw [later] at failed
            cases failed
      obtain ⟨w, within, made⟩ := error_of_filterMapM others
      exact ⟨w, List.mem_cons_of_mem _ within, made⟩

/-- Kept results, each read by a key it shares with the element it was kept from,
form a sublist of the elements' keys. -/
theorem filterMap_keys_sublist {α β γ : Type} {g : α → Option β} {key : α → γ} {key' : β → γ}
    (keeps : ∀ x y, g x = some y → key' y = key x) :
    ∀ xs : List α, ((xs.filterMap g).map key').Sublist (xs.map key)
  | [] => by simp
  | x :: rest => by
    rcases kept : g x with _ | y
    · simpa [List.filterMap_cons, kept] using (filterMap_keys_sublist keeps rest).cons (key x)
    · simp only [List.filterMap_cons, kept, List.map_cons, keeps x y kept]
      exact (filterMap_keys_sublist keeps rest).cons_cons _

/-- The results of a filter-map that succeeds, each read by a key it shares with its
element, form a sublist of the elements' keys. -/
theorem filterMapM_keys_sublist {ε α β γ : Type} {f : α → Except ε (Option β)} {key : α → γ}
    {key' : β → γ} (keeps : ∀ x y, f x = .ok (some y) → key' y = key x) :
    ∀ {xs : List α} {ys : List β}, xs.filterMapM f = .ok ys → (ys.map key').Sublist (xs.map key)
  | [], ys, mapped => by
    simp only [List.filterMapM_nil, pure, Except.pure, Except.ok.injEq] at mapped
    simp [← mapped]
  | x :: rest, ys, mapped => by
    rw [List.filterMapM_cons] at mapped
    obtain ⟨kept, first, mapped⟩ := Except.bind_eq_ok_iff.mp mapped
    rcases kept with _ | y
    · exact (filterMapM_keys_sublist keeps mapped).cons (key x)
    · obtain ⟨ys', others, mapped⟩ := Except.bind_eq_ok_iff.mp mapped
      simp only [pure, Except.pure, Except.ok.injEq] at mapped
      subst mapped
      rw [List.map_cons, List.map_cons, keeps x y first]
      exact (filterMapM_keys_sublist keeps others).cons_cons _

end ModelTables
