import ModelTables.Config.Target
import ModelTables.Proofs.Run
import ModelTables.Proofs.Keyed

/-! # Target connections of a configuration document

Main statement, `target_connects_aliases_in_order`: take a configuration document
that the reader accepts and the loader merges, whose members have distinct keys and
whose `databases` mapping is in object order, with no alias `__proto__` and no
engine named like a member every object inherits.  Then the merged configuration
has the document's aliases in the document's order, and building the targets
fails at the first alias with a problem (an engine with no driver, checked first,
then a port that is not a positive whole number) with that problem, or else
connects every alias, in order, through `node-postgres`.

On the way:

* where an entry goes when a mapping is set depends on the keys alone, so a mapping
  in object order is rebuilt as it is, also after its values change
  (`ofAssigned_map_of_ordered`);
* a loop that assigns computed values ends with every value assigned in order, or
  with the first failure (`assignEach_eq_ok`, `assignEach_eq_error`);
* a document's layer holds the settings its members give, in order, and the merged
  configuration takes a setting from the one member that gives it
  (`read_object_eq_ok`, `load_member`);
* an engine has a driver exactly when it is a built-in or a configured engine, and
  that driver is `node-postgres` (`lookup_engines`).
-/

namespace ModelTables

namespace Keyed

variable {α β : Type}

theorem contains_map (h : String → α → β) (xs : Keyed α) (key : String) :
    Keyed.contains (xs.map fun e => (e.1, h e.1 e.2)) key = Keyed.contains xs key := by
  simp [Keyed.contains, Function.comp_def]

/-- Setting an entry commutes with changing every value by a function of its key:
where an entry goes depends on the keys alone. -/
theorem set_map (h : String → α → β) (xs : Keyed α) (key : String) (v : α) :
    Keyed.set (xs.map fun e => (e.1, h e.1 e.2)) key (h key v) =
      (Keyed.set xs key v).map fun e => (e.1, h e.1 e.2) := by
  unfold Keyed.set
  rw [contains_map]
  split
  · simp only [List.map_map]
    refine List.map_congr_left fun e _ => ?_
    by_cases same : e.1 = key <;> simp [same]
  · split
    · simp
    · simp [List.takeWhile_map, Function.comp_def]

theorem ofPairs_map (h : String → α → β) (xs : Keyed α) :
    Keyed.ofPairs (xs.map fun e => (e.1, h e.1 e.2)) =
      (Keyed.ofPairs xs).map fun e => (e.1, h e.1 e.2) := by
  suffices fromAny : ∀ start : Keyed α,
      (xs.map fun e => (e.1, h e.1 e.2)).foldl (fun acc e => Keyed.set acc e.1 e.2)
          (start.map fun e => (e.1, h e.1 e.2)) =
        (xs.foldl (fun acc e => Keyed.set acc e.1 e.2) start).map fun e => (e.1, h e.1 e.2) from
    fromAny []
  induction xs with
  | nil => exact fun _ => rfl
  | cons e rest ih =>
    intro start
    simp only [List.map_cons, List.foldl_cons]
    rw [set_map, ih]

/-- With no `__proto__` among the keys, assigning the entries sets them. -/
theorem ofAssigned_eq_ofPairs {xs : Keyed α} (noProto : "__proto__" ∉ xs.map (·.1)) :
    Keyed.ofAssigned xs = Keyed.ofPairs xs := by
  suffices fromAny : ∀ start : Keyed α, xs.foldl (fun acc e => Keyed.assign acc e.1 e.2) start =
      xs.foldl (fun acc e => Keyed.set acc e.1 e.2) start from fromAny []
  induction xs with
  | nil => exact fun _ => rfl
  | cons e rest ih =>
    intro start
    simp only [List.map_cons, List.mem_cons, not_or] at noProto
    simp only [List.foldl_cons, assign_eq_set _ (Ne.symm noProto.1)]
    exact ih noProto.2 _

/-- A mapping in object order with no `__proto__` among its keys is rebuilt as it is
when its entries are assigned again, also after every value is changed by a
function of its key. -/
theorem ofAssigned_map_of_ordered {xs : Keyed α} (ordered : Keyed.ofPairs xs = xs)
    (noProto : "__proto__" ∉ xs.map (·.1)) (h : String → α → β) :
    Keyed.ofAssigned (xs.map fun e => (e.1, h e.1 e.2)) = xs.map fun e => (e.1, h e.1 e.2) := by
  have sameKeys : "__proto__" ∉ (xs.map fun e => (e.1, h e.1 e.2)).map (·.1) := by
    simpa [List.map_map, Function.comp_def] using noProto
  rw [ofAssigned_eq_ofPairs sameKeys, ofPairs_map, ordered]

/-- An assigned mapping holds only assigned entries. -/
theorem mem_ofAssigned {xs : Keyed α} {entry : String × α} (member : entry ∈ Keyed.ofAssigned xs) :
    entry ∈ xs := by
  suffices fromAny : ∀ start : Keyed α,
      entry ∈ xs.foldl (fun acc e => Keyed.assign acc e.1 e.2) start → entry ∈ start ∨ entry ∈ xs from
    (fromAny [] member).resolve_left List.not_mem_nil
  clear member
  induction xs with
  | nil => exact fun _ member => .inl member
  | cons e rest ih =>
    intro start member
    rw [List.foldl_cons] at member
    rcases ih _ member with early | later
    · rcases mem_assign early with rfl | old
      · exact .inr List.mem_cons_self
      · exact .inl old
    · exact .inr (List.mem_cons_of_mem _ later)

theorem mem_keys_assign {xs : Keyed α} {key k : String} (v : α) (notProto : k ≠ "__proto__") :
    k ∈ (Keyed.assign xs key v).keys ↔ k ∈ xs.keys ∨ k = key := by
  by_cases proto : key = "__proto__"
  · subst proto
    simp only [Keyed.assign, beq_self_eq_true, if_true]
    exact ⟨.inl, fun member => member.elim id fun same => absurd same notProto⟩
  · rw [assign_eq_set xs proto, mem_keys_set]

/-! ## Loops that assign computed values -/

variable {ε : Type}

private theorem foldlM_assign_ok {f : String → β → Except ε α} {h : String → β → α} :
    ∀ {entries : List (String × β)} (start : Keyed α), (∀ e ∈ entries, f e.1 e.2 = .ok (h e.1 e.2)) →
      entries.foldlM (fun acc entry => do pure (Keyed.assign acc entry.1 (← f entry.1 entry.2)))
          start =
        .ok ((entries.map fun e => (e.1, h e.1 e.2)).foldl (fun acc e => Keyed.assign acc e.1 e.2) start)
  | [], _, _ => rfl
  | e :: rest, start, each => by
    simp only [List.foldlM_cons, each e List.mem_cons_self]
    exact foldlM_assign_ok _ fun e' member => each e' (List.mem_cons_of_mem _ member)

/-- When every entry's value is computed, the loop assigns them all, in order. -/
theorem assignEach_eq_ok {entries : List (String × β)} {f : String → β → Except ε α}
    {h : String → β → α} (each : ∀ e ∈ entries, f e.1 e.2 = .ok (h e.1 e.2)) :
    Keyed.assignEach entries f = .ok (Keyed.ofAssigned (entries.map fun e => (e.1, h e.1 e.2))) :=
  foldlM_assign_ok [] each

private theorem foldlM_assign_error {f : String → β → Except ε α} {failure : ε} {key : String}
    {v : β} {after : List (String × β)} (fails : f key v = .error failure) :
    ∀ {before : List (String × β)} (start : Keyed α), (∀ e ∈ before, ∃ y, f e.1 e.2 = .ok y) →
      (before ++ (key, v) :: after).foldlM
          (fun acc entry => do pure (Keyed.assign acc entry.1 (← f entry.1 entry.2))) start =
        .error failure
  | [], _, _ => by
    simp only [List.nil_append, List.foldlM_cons, fails]
    rfl
  | e :: rest, start, fine => by
    obtain ⟨y, computed⟩ := fine e List.mem_cons_self
    simp only [List.cons_append, List.foldlM_cons, computed]
    exact foldlM_assign_error fails _ fun e' member => fine e' (List.mem_cons_of_mem _ member)

/-- The loop fails with the failure of the first entry whose value fails. -/
theorem assignEach_eq_error {entries before after : List (String × β)} {key : String} {v : β}
    {f : String → β → Except ε α} {failure : ε} (split : entries = before ++ (key, v) :: after)
    (fine : ∀ e ∈ before, ∃ y, f e.1 e.2 = .ok y) (fails : f key v = .error failure) :
    Keyed.assignEach entries f = .error failure := by
  rw [Keyed.assignEach, split]
  exact foldlM_assign_error fails [] fine

private theorem foldlM_assign_each {f : String → β → Except ε α} :
    ∀ {entries : List (String × β)} {start out : Keyed α},
      entries.foldlM (fun acc entry => do pure (Keyed.assign acc entry.1 (← f entry.1 entry.2)))
          start = .ok out →
        ∀ e ∈ entries, ∃ y, f e.1 e.2 = .ok y
  | [], _, _, _ => by simp
  | e :: rest, start, out, built => by
    rw [List.foldlM_cons] at built
    obtain ⟨acc, stepped, others⟩ := Except.bind_eq_ok_iff.mp built
    obtain ⟨y, computed, -⟩ := Except.bind_eq_ok_iff.mp stepped
    intro e' member
    rcases List.mem_cons.mp member with rfl | later
    · exact ⟨y, computed⟩
    · exact foldlM_assign_each others e' later

/-- A loop that succeeds computed every entry's value. -/
theorem assignEach_ok_each {entries : List (String × β)} {f : String → β → Except ε α} {out : Keyed α}
    (built : Keyed.assignEach entries f = .ok out) : ∀ e ∈ entries, ∃ y, f e.1 e.2 = .ok y :=
  foldlM_assign_each built

/-- A loop that succeeds computed every entry's value and assigned them in order. -/
theorem eq_ofAssigned_of_assignEach [Inhabited α] {entries : List (String × β)}
    {f : String → β → Except ε α} {out : Keyed α} (built : Keyed.assignEach entries f = .ok out) :
    out = Keyed.ofAssigned (entries.map fun e => (e.1, (f e.1 e.2).toOption.getD default)) := by
  have each : ∀ e ∈ entries, f e.1 e.2 = .ok ((f e.1 e.2).toOption.getD default) := by
    intro e member
    obtain ⟨y, computed⟩ := assignEach_ok_each built e member
    rw [computed]
    rfl
  rw [assignEach_eq_ok (h := fun k v => (f k v).toOption.getD default) each] at built
  injection built with same
  exact same.symm

end Keyed

/-! ## Reading a document into a configuration -/

namespace Setting

/-- The databases a setting sets, if it sets them. -/
def databases? : Setting → Option (Keyed DatabaseSettings)
  | .databases m => some m
  | _ => none

/-- The engine map a setting sets, if it sets one. -/
def engineMap? : Setting → Option (Keyed String)
  | .engineMap m => some m
  | _ => none

end Setting

namespace Layer

private theorem map_some_eq_ok {γ : Type} {x : Except Failure γ} {make : γ → Setting} {s : Setting}
    (read : x.map (some ∘ make) = .ok (some s)) : ∃ a, x = .ok a ∧ s = make a := by
  rcases x with failure | a
  · cases read
  · cases read
    exact ⟨a, rfl, rfl⟩

/-- Only the member `databases` sets the databases, with the mapping it reads as. -/
theorem settingOf_databases {key : String} {v : Value} {s : Setting} {m : Keyed DatabaseSettings}
    (read : settingOf key v = .ok (some s)) (sets : s.databases? = some m) :
    key = "databases" ∧ readDatabases v = .ok m := by
  unfold settingOf at read
  split at read
  · obtain ⟨_, _, rfl⟩ := map_some_eq_ok read; cases sets
  · obtain ⟨_, _, rfl⟩ := map_some_eq_ok read; cases sets
  · obtain ⟨_, _, rfl⟩ := map_some_eq_ok read; cases sets
  · obtain ⟨_, _, rfl⟩ := map_some_eq_ok read; cases sets
  · obtain ⟨_, _, rfl⟩ := map_some_eq_ok read; cases sets
  · obtain ⟨m', mapped, rfl⟩ := map_some_eq_ok read
    cases sets
    exact ⟨rfl, mapped⟩
  all_goals (repeat' split at read) <;> cases read <;> cases sets

/-- Only the member `engineMap` sets the engine map, with the mapping it reads as. -/
theorem settingOf_engineMap {key : String} {v : Value} {s : Setting} {m : Keyed String}
    (read : settingOf key v = .ok (some s)) (sets : s.engineMap? = some m) :
    key = "engineMap" ∧ readEngineMap v = .ok m := by
  unfold settingOf at read
  split at read
  · obtain ⟨_, _, rfl⟩ := map_some_eq_ok read; cases sets
  · obtain ⟨_, _, rfl⟩ := map_some_eq_ok read; cases sets
  · obtain ⟨m', mapped, rfl⟩ := map_some_eq_ok read
    cases sets
    exact ⟨rfl, mapped⟩
  · obtain ⟨_, _, rfl⟩ := map_some_eq_ok read; cases sets
  · obtain ⟨_, _, rfl⟩ := map_some_eq_ok read; cases sets
  · obtain ⟨_, _, rfl⟩ := map_some_eq_ok read; cases sets
  all_goals (repeat' split at read) <;> cases read <;> cases sets

/-- Reading one member gives the setting it stands for, logging at most a warning. -/
theorem readSetting_eq_ok {key : String} {v : Value} {log after : List LogEntry} {o : Option Setting}
    (ran : (readSetting key v).run.run log = (.ok o, after)) : settingOf key v = .ok o := by
  obtain ⟨setting, middle, lifted, rest⟩ := Run.run_bind_eq_ok ran
  obtain ⟨read, -⟩ := Run.lift_eq_ok lifted
  -- with or without a warning, the reply is the setting read
  dsimp only at rest
  split at rest
  · obtain ⟨_, _, -, finished⟩ := Run.run_bind_eq_ok rest
    cases finished
    exact read
  · cases rest
    exact read

private theorem foldlM_read_eq_ok :
    ∀ {fields : Fields} {start layer : Layer} {log after : List LogEntry},
      (fields.foldlM (fun acc (entry : String × Value) => do
          let setting ← readSetting entry.1 entry.2
          pure (acc ++ setting.toList)) start).run.run log = (.ok layer, after) →
        (∀ e ∈ fields, ∃ o, settingOf e.1 e.2 = .ok o) ∧
          layer = start ++ fields.filterMap fun e => (settingOf e.1 e.2).toOption.join
  | [], start, layer, log, after, ran => by
    cases ran
    simp
  | e :: rest, start, layer, log, after, ran => by
    rw [List.foldlM_cons] at ran
    obtain ⟨acc, middle, stepped, others⟩ := Run.run_bind_eq_ok ran
    obtain ⟨o, middle', readOne, finished⟩ := Run.run_bind_eq_ok stepped
    cases finished
    have first := readSetting_eq_ok readOne
    obtain ⟨each, rfl⟩ := foldlM_read_eq_ok others
    refine ⟨fun e' member => ?_, ?_⟩
    · rcases List.mem_cons.mp member with rfl | later
      · exact ⟨o, first⟩
      · exact each e' later
    · rcases o with _ | s <;> simp [first, Except.toOption]

/-- Every driver of an engine map read without failure is `node-postgres`. -/
theorem readEngineMap_drivers {v : Value} {m : Keyed String} (read : readEngineMap v = .ok m) :
    ∀ e ∈ m, e.2 = "node-postgres" := by
  obtain ⟨entries, -, checked⟩ := Except.bind_eq_ok_iff.mp read
  intro e member
  rw [Keyed.eq_ofAssigned_of_assignEach checked] at member
  obtain ⟨x, within, rfl⟩ := List.mem_map.mp (Keyed.mem_ofAssigned member)
  obtain ⟨y, computed⟩ := Keyed.assignEach_ok_each checked x within
  rw [computed]
  show y = "node-postgres"
  by_cases known : targetDrivers.contains x.2 = true
  · rw [if_pos known] at computed
    cases computed
    simpa [targetDrivers] using known
  · rw [if_neg known] at computed
    cases computed

/-- Databases read without failure from a mapping in object order with no alias
`__proto__` have the mapping's aliases, in its order, and are in object order. -/
theorem readDatabases_shape {v : Value} {m : Keyed DatabaseSettings} (read : readDatabases v = .ok m)
    (ordered : ∀ fields, v = .object fields → Fields.ofPairs fields = fields)
    (noProto : "__proto__" ∉ (v.asObject?.getD []).map (·.1)) :
    m.map (·.1) = (v.asObject?.getD []).map (·.1) ∧ Keyed.ofPairs m = m ∧ "__proto__" ∉ m.map (·.1) := by
  cases v with
  | object fields =>
    simp only [Value.asObject?, Option.getD_some] at noProto ⊢
    have fieldsOrdered : Keyed.ofPairs fields = fields := ordered fields rfl
    let settle := fun k v => (readDatabase k v).toOption.getD default
    have same := Keyed.eq_ofAssigned_of_assignEach read
    rw [Keyed.ofAssigned_map_of_ordered (h := settle) fieldsOrdered noProto] at same
    subst same
    refine ⟨by simp, by rw [Keyed.ofPairs_map (h := settle), fieldsOrdered], ?_⟩
    simpa [List.map_map, Function.comp_def] using noProto
  | date _ =>
    cases read
    simp [Value.asObject?, Keyed.ofPairs]
  | _ => cases read

/-- A document read without failure gives, in order, the settings of its members;
every member was read without failure. -/
theorem read_object_eq_ok {fields : Fields} {layer : Layer} {log : List LogEntry}
    (ran : (Layer.read (.object fields)).exec = (.ok layer, log)) :
    (∀ e ∈ fields, ∃ o, settingOf e.1 e.2 = .ok o) ∧
      layer = fields.filterMap fun e => (settingOf e.1 e.2).toOption.join := by
  simpa using foldlM_read_eq_ok ran

end Layer

namespace Config

/-- Merging takes a setting from the last setting of the layer that gives it. -/
theorem applyLayer_member {γ : Type} (get : Config → γ) (sel : Setting → Option γ)
    (step : ∀ c s, get (c.apply s) = (sel s).getD (get c)) (c : Config) (layer : Layer) :
    get (c.applyLayer layer) = ((layer.filterMap sel).getLast?).getD (get c) := by
  induction layer generalizing c with
  | nil => rfl
  | cons s rest ih =>
    rw [applyLayer, List.foldl_cons, ← applyLayer, ih, step]
    rcases chosen : sel s with _ | x
    · simp [chosen]
    · simp [chosen, List.getLast?_cons]

/-- Among members with distinct keys, only the member of a key can be kept when
only that key is kept. -/
private theorem filterMap_one_key {γ : Type} {key : String} {g : String × Value → Option γ} :
    ∀ {fields : Fields}, (fields.map (·.1)).Nodup → (∀ e x, g e = some x → e.1 = key) →
      fields.filterMap g = ((fields.find? (·.1 == key)).bind g).toList
  | [], _, _ => rfl
  | e :: rest, distinct, only => by
    simp only [List.map_cons, List.nodup_cons] at distinct
    by_cases here : e.1 = key
    · -- the rest has no member of the key, so it keeps nothing
      have none : rest.filterMap g = [] := by
        refine List.filterMap_eq_nil_iff.mpr fun e' member => ?_
        rcases kept : g e' with _ | x
        · rfl
        · exact absurd (here ▸ only e' x kept ▸ List.mem_map_of_mem member) distinct.1
      rcases kept : g e with _ | x <;> simp [kept, none, here]
    · have dropped : g e = none := by
        rcases kept : g e with _ | x
        · rfl
        · exact absurd (only e x kept) here
      simp [dropped, here, filterMap_one_key distinct.2 only]

/-- A configuration merged from one document takes a setting from the document's
member of that key, the only member that gives it, or keeps the default. -/
theorem load_member {fields : Fields} {layer : Layer} {log : List LogEntry} {config : Config}
    (ran : (Layer.read (.object fields)).exec = (.ok layer, log))
    (loaded : Config.load [some layer] = .ok config) (distinct : (fields.map (·.1)).Nodup)
    {γ : Type} (get : Config → γ) (sel : Setting → Option γ)
    (step : ∀ c s, get (c.apply s) = (sel s).getD (get c)) (key : String)
    (only : ∀ {k v s x}, Layer.settingOf k v = .ok (some s) → sel s = some x → k = key) :
    get config = (((Fields.get? fields key).bind fun v => (Layer.settingOf key v).toOption.join.bind sel)).getD
      (get defaults) := by
  have merged : config = defaults.applyLayer layer := by
    simp only [Config.load, List.foldl_cons, List.foldl_nil] at loaded
    by_cases empty : (defaults.applyLayer layer).appName.isEmpty = true
    · simp [empty] at loaded
    · simp only [empty, Bool.false_eq_true, if_false, Except.ok.injEq] at loaded
      exact loaded.symm
  -- a member keeps a setting of this kind only under its key
  have kept : ∀ (e : String × Value) x,
      ((Layer.settingOf e.1 e.2).toOption.join).bind sel = some x → e.1 = key := by
    intro e x chosen
    obtain ⟨s, setting, chosen⟩ := Option.bind_eq_some_iff.mp chosen
    have read : Layer.settingOf e.1 e.2 = .ok (some s) := by
      rcases computed : Layer.settingOf e.1 e.2 with failure | (_ | s')
      · simp [computed, Except.toOption] at setting
      · simp [computed, Except.toOption] at setting
      · simp only [computed, Except.toOption, Option.join_some, Option.some.injEq] at setting
        rw [setting]
    exact only read chosen
  obtain ⟨-, rfl⟩ := Layer.read_object_eq_ok ran
  rw [merged, applyLayer_member get sel step, List.filterMap_filterMap, filterMap_one_key distinct kept]
  rcases found : fields.find? (·.1 == key) with _ | e
  · simp [Fields.get?, found]
  · have sameKey : e.1 = key := by simpa using List.find?_some found
    subst sameKey
    simp only [Fields.get?, found, Option.bind_some, Option.map_some]
    rcases (Layer.settingOf e.1 e.2).toOption.join.bind sel with _ | x <;> rfl

/-! ## Engines and connections -/

/-- Whether an engine has a driver: it is one of the built-in engines or one the
configuration maps. -/
def knowsEngine (c : Config) (engine : String) : Bool :=
  builtinEngines.keys.contains engine || c.engineMap.keys.contains engine

/-- What a database must pass to get a connection: an engine with a driver, checked
first, then a port that is a positive whole number.  Passing gives the port. -/
def checkDatabase (c : Config) (aliasName : String) (db : DatabaseSettings) : Except Failure Float :=
  if c.knowsEngine db.engine then portOf aliasName db.port
  else .error (.unsupportedEngine aliasName db.engine (Text.sortByUnits c.engines.keys))

/-- The connection of a database that passes: the one driver, the host or
`localhost` when the host is empty or absent, the port read (5432 when there is
none), the database name or the empty text, the credentials as given and the
alias's pool settings. -/
def connectionFor (c : Config) (aliasName : String) (db : DatabaseSettings) : TargetConnection :=
  { aliasName, driver := .named "node-postgres", host := (db.host.filter (!·.isEmpty)).getD "localhost"
    port := (portOf aliasName db.port).toOption.getD defaultPort, database := db.name.getD ""
    user := db.user, password := db.password, pool := (Keyed.get? c.connectionPool aliasName).getD {} }

/-- The engines with a driver are the built-in ones and the configured ones. -/
theorem mem_engines_keys (c : Config) {engine : String} (notProto : engine ≠ "__proto__") :
    engine ∈ c.engines.keys ↔ engine ∈ builtinEngines.keys ∨ engine ∈ c.engineMap.keys := by
  -- assigned over any start, the configured entries add their keys
  suffices fromAny : ∀ (entries start : Keyed String),
      engine ∈ (entries.foldl (fun acc entry => Keyed.assign acc entry.1 entry.2) start).keys ↔
        engine ∈ start.keys ∨ engine ∈ entries.keys from fromAny c.engineMap builtinEngines
  intro entries
  induction entries with
  | nil => simp [Keyed.keys]
  | cons e rest ih =>
    intro start
    rw [List.foldl_cons, ih, Keyed.mem_keys_assign _ notProto]
    simp only [Keyed.keys, List.map_cons, List.mem_cons]
    exact or_assoc

/-- Every engine with a driver has `node-postgres`, the one driver a configuration
can name. -/
theorem engines_drivers (c : Config) (drivers : ∀ e ∈ c.engineMap, e.2 = "node-postgres") :
    ∀ e ∈ c.engines, e.2 = "node-postgres" := by
  suffices fromAny : ∀ (entries start : Keyed String), (∀ e ∈ start, e.2 = "node-postgres") →
      (∀ e ∈ entries, e.2 = "node-postgres") →
      ∀ e ∈ entries.foldl (fun acc entry => Keyed.assign acc entry.1 entry.2) start,
        e.2 = "node-postgres" from
    fromAny c.engineMap builtinEngines (by simp [builtinEngines]) drivers
  intro entries
  induction entries with
  | nil => exact fun start inStart _ => inStart
  | cons e rest ih =>
    intro start inStart inEntries
    refine ih _ (fun x member => ?_) (fun x member => inEntries x (List.mem_cons_of_mem e member))
    rcases Keyed.mem_assign member with rfl | old
    · exact inEntries _ List.mem_cons_self
    · exact inStart x old

/-- Reading an engine that no object inherits from the engine map finds
`node-postgres` when the engine is known, and nothing otherwise. -/
theorem lookup_engines (c : Config) (drivers : ∀ e ∈ c.engineMap, e.2 = "node-postgres")
    {engine : String} (plain : Inherited.of? engine = none) :
    Keyed.lookup c.engines engine = if c.knowsEngine engine then .own "node-postgres" else .missing := by
  have notProto : engine ≠ "__proto__" := by
    rintro rfl
    simp [Inherited.of?] at plain
  by_cases known : c.knowsEngine engine = true
  · have present : engine ∈ c.engines.keys := by
      rw [mem_engines_keys c notProto]
      simpa [knowsEngine] using known
    obtain ⟨driver, found⟩ := Option.isSome_iff_exists.mp (Keyed.get?_isSome_of_mem_keys present)
    have one : driver = "node-postgres" := engines_drivers c drivers _ (Keyed.mem_of_get?_eq_some found)
    simp [Keyed.lookup, found, known, one]
  · have absent : engine ∉ c.engines.keys := by
      rw [mem_engines_keys c notProto]
      simpa [knowsEngine] using known
    simp [Keyed.lookup, Keyed.get?_eq_none_of_not_mem_keys absent, plain, known]

/-- A database gets its connection when it passes, and fails as its check fails. -/
theorem connection_eq (c : Config) (drivers : ∀ e ∈ c.engineMap, e.2 = "node-postgres")
    (aliasName : String) {db : DatabaseSettings} (plain : Inherited.of? db.engine = none) :
    c.connection c.engines aliasName db = (c.checkDatabase aliasName db).map fun _ =>
      c.connectionFor aliasName db := by
  unfold connection checkDatabase
  rw [lookup_engines c drivers plain]
  by_cases known : c.knowsEngine db.engine = true
  · rcases ported : portOf aliasName db.port with failure | port
    · simp [known]
      rfl
    · rcases host : db.host with _ | h
      · simp [known, ported, connectionFor, host]
        rfl
      · by_cases empty : h.isEmpty = true
        · simp [known, ported, connectionFor, host, empty, Option.filter]
          rfl
        · simp [known, ported, connectionFor, host, empty, Option.filter]
          rfl
  · simp [known]
    rfl

/-- Building the targets fails at the first database that does not pass, as it fails. -/
theorem target_eq_error (c : Config) (drivers : ∀ e ∈ c.engineMap, e.2 = "node-postgres")
    (plain : ∀ e ∈ c.databases, Inherited.of? e.2.engine = none)
    {before after : Keyed DatabaseSettings} {aliasName : String} {db : DatabaseSettings}
    {failure : Failure} (split : c.databases = before ++ (aliasName, db) :: after)
    (pass : ∀ e ∈ before, ∃ port, c.checkDatabase e.1 e.2 = .ok port)
    (fails : c.checkDatabase aliasName db = .error failure) :
    c.target = .error failure := by
  have within : ∀ e ∈ before, e ∈ c.databases := fun e member => split ▸ List.mem_append_left _ member
  have failed : Keyed.assignEach c.databases (c.connection c.engines) = .error failure := by
    refine Keyed.assignEach_eq_error split (fun e member => ?_) ?_
    · obtain ⟨port, passed⟩ := pass e member
      rw [connection_eq c drivers e.1 (plain e (within e member)), passed]
      exact ⟨_, rfl⟩
    · have atAlias : (aliasName, db) ∈ c.databases := split ▸ List.mem_append_right _ List.mem_cons_self
      rw [connection_eq c drivers aliasName (plain _ atAlias), fails]
      rfl
  simp only [target, failed]
  rfl

/-- When every database passes, building the targets connects each, in the order of
the databases. -/
theorem target_eq_ok (c : Config) (drivers : ∀ e ∈ c.engineMap, e.2 = "node-postgres")
    (plain : ∀ e ∈ c.databases, Inherited.of? e.2.engine = none)
    (ordered : Keyed.ofPairs c.databases = c.databases) (noProto : "__proto__" ∉ c.databases.map (·.1))
    (pass : ∀ e ∈ c.databases, ∃ port, c.checkDatabase e.1 e.2 = .ok port) :
    c.target = .ok { connections := c.databases.map fun e => (e.1, c.connectionFor e.1 e.2)
                     appName := c.appName } := by
  have each : ∀ e ∈ c.databases, c.connection c.engines e.1 e.2 = .ok (c.connectionFor e.1 e.2) := by
    intro e member
    obtain ⟨port, passed⟩ := pass e member
    rw [connection_eq c drivers e.1 (plain e member), passed]
    rfl
  simp only [target, Keyed.assignEach_eq_ok each, Keyed.ofAssigned_map_of_ordered ordered noProto]
  rfl

/-! ## From a document to its targets -/

/-- A configuration merged from one document has the databases its `databases`
member reads as, none when it has none, and the engine map its `engineMap` member
reads as, or none. -/
theorem load_document {d : Value} {layer : Layer} {log : List LogEntry} {config : Config}
    (read : (Layer.read d).exec = (.ok layer, log)) (loaded : Config.load [some layer] = .ok config)
    (distinct : ∀ top, d = .object top → (top.map (·.1)).Nodup) :
    (d.field "databases" = .undefined ∧ config.databases = [] ∨
        Layer.readDatabases (d.field "databases") = .ok config.databases) ∧
      (config.engineMap = [] ∨ Layer.readEngineMap (d.field "engineMap") = .ok config.engineMap) := by
  cases d with
  | object top =>
    obtain ⟨each, -⟩ := Layer.read_object_eq_ok read
    have dbs := load_member read loaded (distinct top rfl) (·.databases) Setting.databases?
      (fun c s => by cases s <;> rfl) "databases" fun r sets => (Layer.settingOf_databases r sets).1
    have engines := load_member read loaded (distinct top rfl) (·.engineMap) Setting.engineMap?
      (fun c s => by cases s <;> rfl) "engineMap" fun r sets => (Layer.settingOf_engineMap r sets).1
    constructor
    · rcases found : Fields.get? top "databases" with _ | v
      · simp [found] at dbs
        exact .inl ⟨by simp [Value.field, Value.get?, found], by simpa [defaults] using dbs⟩
      · obtain ⟨o, computed⟩ := each _ (Keyed.mem_of_get?_eq_some found)
        rcases mapped : Layer.readDatabases v with failure | m
        · simp [Layer.settingOf, mapped, Except.map] at computed
        · simp [found, Layer.settingOf, mapped, Except.map, Except.toOption, Setting.databases?] at dbs
          exact .inr (by simp [Value.field, Value.get?, found, mapped, dbs])
    · rcases found : Fields.get? top "engineMap" with _ | v
      · simp [found] at engines
        exact .inl (by simpa [defaults] using engines)
      · obtain ⟨o, computed⟩ := each _ (Keyed.mem_of_get?_eq_some found)
        rcases mapped : Layer.readEngineMap v with failure | m
        · simp [Layer.settingOf, mapped, Except.map] at computed
        · simp [found, Layer.settingOf, mapped, Except.map, Except.toOption, Setting.engineMap?] at engines
          exact .inr (by simp [Value.field, Value.get?, found, mapped, engines])
  | null | undefined | date _ =>
    cases read
    simp only [Config.load, List.foldl_cons, List.foldl_nil, applyLayer, List.foldl_nil] at loaded
    cases loaded
    exact ⟨.inl ⟨rfl, rfl⟩, .inl rfl⟩
  | _ => cases read

/-- A configuration document read and merged without failure, whose members have
distinct keys and whose `databases` mapping is in object order, with no alias
`__proto__` and no engine named like a member every object inherits: the merged
configuration has the document's aliases in the document's order, and building its
targets fails at the first alias that does not pass, as that alias fails (an engine
with no driver first, then a port that is not a positive whole number), or, when
every alias passes, connects each of them, in order. -/
theorem target_connects_aliases_in_order {d : Value} {layer : Layer} {log : List LogEntry}
    {config : Config} (read : (Layer.read d).exec = (.ok layer, log))
    (loaded : Config.load [some layer] = .ok config)
    (distinct : ∀ top, d = .object top → (top.map (·.1)).Nodup)
    (ordered : ∀ fields, d.field "databases" = .object fields → Fields.ofPairs fields = fields)
    (noProto : "__proto__" ∉ ((d.field "databases").asObject?.getD []).map (·.1))
    (plain : ∀ e ∈ config.databases, Inherited.of? e.2.engine = none) :
    config.databases.map (·.1) = ((d.field "databases").asObject?.getD []).map (·.1) ∧
      (∀ before after aliasName db failure, config.databases = before ++ (aliasName, db) :: after →
        (∀ e ∈ before, ∃ port, config.checkDatabase e.1 e.2 = .ok port) →
        config.checkDatabase aliasName db = .error failure → config.target = .error failure) ∧
      ((∀ e ∈ config.databases, ∃ port, config.checkDatabase e.1 e.2 = .ok port) →
        config.target = .ok { connections := config.databases.map fun e => (e.1, config.connectionFor e.1 e.2)
                              appName := config.appName }) := by
  obtain ⟨dbs, engineMap⟩ := load_document read loaded distinct
  have drivers : ∀ e ∈ config.engineMap, e.2 = "node-postgres" := by
    rcases engineMap with empty | readMap
    · simp [empty]
    · exact Layer.readEngineMap_drivers readMap
  -- the databases keep the document's aliases and order
  have shape : config.databases.map (·.1) = ((d.field "databases").asObject?.getD []).map (·.1) ∧
      Keyed.ofPairs config.databases = config.databases ∧ "__proto__" ∉ config.databases.map (·.1) := by
    rcases dbs with ⟨absent, empty⟩ | readDbs
    · simp [absent, empty, Value.asObject?, Keyed.ofPairs]
    · exact Layer.readDatabases_shape readDbs ordered noProto
  obtain ⟨keys, orderedDbs, noProtoDbs⟩ := shape
  exact ⟨keys, fun _ _ _ _ _ split pass fails => target_eq_error config drivers plain split pass fails,
    target_eq_ok config drivers plain orderedDbs noProtoDbs⟩

/-- Two aliases on the built-in engine, the second on its own host: the document reads
and merges, and its aliases connect in its order. -/
theorem target_connects_two_aliases :
    let dbs : Keyed DatabaseSettings :=
      [("b", { engine := "postgres" }), ("a", { engine := "postgres", host := some "db" })]
    let d : Value := .object [("databases", .object [("b", .object [("engine", .string "postgres")]),
      ("a", .object [("engine", .string "postgres"), ("host", .string "db")])])]
    let config : Config := { defaults with databases := dbs }
    (Layer.read d).exec = (.ok [.databases dbs], []) ∧ Config.load [some [.databases dbs]] = .ok config ∧
      config.databases.map (·.1) = ((d.field "databases").asObject?.getD []).map (·.1) ∧
      config.target = .ok { connections := config.databases.map fun e => (e.1, config.connectionFor e.1 e.2)
                            appName := config.appName } := by
  intro dbs d config
  have read : (Layer.read d).exec = (.ok [.databases dbs], []) := rfl
  have loaded : Config.load [some [.databases dbs]] = .ok config := rfl
  have listed : ∀ e ∈ config.databases, e = ("b", { engine := "postgres" }) ∨
      e = ("a", { engine := "postgres", host := some "db" }) := by
    simp [config, dbs]
  obtain ⟨keys, -, connects⟩ := target_connects_aliases_in_order read loaded
    (fun _ h => by injection h with h; subst h; decide) (fun _ h => by injection h with h; subst h; rfl)
    (by decide)
    (fun e member => by rcases listed e member with rfl | rfl <;> rfl)
  exact ⟨read, loaded, keys,
    connects fun e member => by rcases listed e member with rfl | rfl <;> exact ⟨defaultPort, rfl⟩⟩

/-- A fractional port is refused, although the digits it starts with read as the
whole number 1: a port given as a number is checked as that number. -/
theorem fractional_port_refused :
    let db : DatabaseSettings := { engine := "postgres", port := some (.number 1.5) }
    let d : Value := .object [("databases", .object [("a", .object [("engine", .string "postgres"),
      ("port", .number 1.5)])])]
    let config : Config := { defaults with databases := [("a", db)] }
    (Config.leadingInteger "1.5" == 1) = true ∧ (Layer.read d).exec = (.ok [.databases [("a", db)]], []) ∧
      Config.load [some [.databases [("a", db)]]] = .ok config ∧
      config.target = .error (.invalidPort "a" (.number 1.5)) :=
  ⟨by decide +kernel, rfl, rfl, rfl⟩

end Config

end ModelTables
