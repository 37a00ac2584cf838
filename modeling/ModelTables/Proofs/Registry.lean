import ModelTables.Session
import ModelTables.Proofs.References
import Mathlib.Data.List.Induction

/-! # The registry's inverse law

A registry keeps four insertion-ordered tables: sources to targets, targets to
sources, labels to pairs and sources to labels.  Every registry reached by
requests from an empty one is the registry `ofEntries entries` of one list of
entries, held in the same order by all four tables, in which no source, target
or label occurs twice (`Distinct`).  Registering a pair keeps exactly the entries
that share none of its keys and appends the pair (`register_ofEntries`); clearing
empties the list; the lookups only read it.

So the lookups stay inverse to each other, a label finds the pair last registered
under it while that pair is in force, the size and the list of targets follow the
list of pairs, and a registration touches no entry that shares none of its keys
(`Registry.laws_after`).
-/

namespace ModelTables

namespace OrderedMap

variable {α β : Type}

/-- The lookup in a table built from a list reads the first element of that key. -/
theorem get?_map (xs : List β) (k : β → String) (v : β → α) (key : String) :
    get? (xs.map fun x => (k x, v x)) key = (xs.find? fun x => k x == key).map v := by
  simp [get?, List.find?_map, Function.comp_def]

/-- Removing a key from a table built from a list removes the elements of that key. -/
theorem erase_map (xs : List β) (k : β → String) (v : β → α) (key : String) :
    erase (xs.map fun x => (k x, v x)) key =
      (xs.filter fun x => k x != key).map fun x => (k x, v x) := by
  simp [erase, List.filter_map, Function.comp_def]

/-- Setting a key that a table built from a list lacks appends it. -/
theorem set_map_of_fresh (xs : List β) (k : β → String) (v : β → α) {key : String}
    (fresh : ∀ x ∈ xs, k x ≠ key) (a : α) :
    set (xs.map fun x => (k x, v x)) key a = (xs.map fun x => (k x, v x)) ++ [(key, a)] := by
  have absent : (xs.map fun x => (k x, v x)).any (·.1 == key) = false := by
    simpa using fresh
  simp only [set, absent, Bool.false_eq_true, if_false]

end OrderedMap

/-- Whether an entry shares none of the keys of a registration. -/
def RegistryEntry.apart (source target label : String) (e : RegistryEntry) : Bool :=
  e.source != source && e.target != target && e.label != label

@[simp] theorem RegistryEntry.mem_filter_apart {es : List RegistryEntry} {source target label : String}
    {e : RegistryEntry} :
    e ∈ es.filter (RegistryEntry.apart source target label) ↔
      e ∈ es ∧ e.source ≠ source ∧ e.target ≠ target ∧ e.label ≠ label := by
  simp [RegistryEntry.apart, and_assoc]

/-- The label a request registers a source under, if it registers that source. -/
def RegistryRequest.labelFor (source : String) : RegistryRequest → Option String
  | .register s _ label => if s = source then some label else none
  | _ => none

namespace Registry

/-- The registry whose four tables hold exactly `entries`, in order. -/
def ofEntries (entries : List RegistryEntry) : Registry :=
  { targets := entries.map fun e => (e.source, e.target)
    sources := entries.map fun e => (e.target, e.source)
    byLabel := entries.map fun e => (e.label, e)
    labels := entries.map fun e => (e.source, e.label) }

/-- Entries in which no source, no target and no label occurs twice. -/
structure Distinct (entries : List RegistryEntry) : Prop where
  sources : (entries.map (·.source)).Nodup
  targets : (entries.map (·.target)).Nodup
  labels : (entries.map (·.label)).Nodup

variable {es : List RegistryEntry}

@[simp] theorem allEntries_ofEntries (es : List RegistryEntry) : (ofEntries es).allEntries = es := by
  simp [ofEntries, allEntries, Function.comp_def]

@[simp] theorem allTargets_ofEntries (es : List RegistryEntry) :
    (ofEntries es).allTargets = es.map (·.target) := by
  simp [ofEntries, allTargets, Function.comp_def]

@[simp] theorem size_ofEntries (es : List RegistryEntry) : (ofEntries es).size = es.length := by
  simp [ofEntries, size]

theorem target?_ofEntries (es : List RegistryEntry) (source : String) :
    (ofEntries es).target? source = (es.find? (·.source == source)).map (·.target) :=
  OrderedMap.get?_map es _ _ source

theorem source?_ofEntries (es : List RegistryEntry) (target : String) :
    (ofEntries es).source? target = (es.find? (·.target == target)).map (·.source) :=
  OrderedMap.get?_map es _ _ target

theorem ofLabel?_ofEntries (es : List RegistryEntry) (label : String) :
    (ofEntries es).ofLabel? label = es.find? (·.label == label) := by
  simp [ofLabel?, ofEntries, OrderedMap.get?_map]

theorem Distinct.sublist {es' : List RegistryEntry} (distinct : Distinct es) (sub : es'.Sublist es) :
    Distinct es' :=
  ⟨distinct.sources.sublist (sub.map _), distinct.targets.sublist (sub.map _),
    distinct.labels.sublist (sub.map _)⟩

/-! ## Lookups by a key no two entries share -/

section Key

variable {key : RegistryEntry → String}

/-- A key that no two entries share finds the entry that has it. -/
theorem find?_key_eq_some_iff (distinct : (es.map key).Nodup) (value : String) (e : RegistryEntry) :
    es.find? (key · == value) = some e ↔ e ∈ es ∧ key e = value := by
  constructor
  · intro found
    exact ⟨List.mem_of_find?_eq_some found, by simpa using List.find?_some found⟩
  · rintro ⟨member, rfl⟩
    exact find?_of_nodup_keys distinct member

/-- Removing the entries with the key of a member removes that member only, whichever
of the keys no two entries share is used. -/
theorem filter_key_ne {key' : RegistryEntry → String} (distinct : (es.map key).Nodup)
    (distinct' : (es.map key').Nodup) {e : RegistryEntry} (member : e ∈ es) :
    es.filter (key · != key e) = es.filter (key' · != key' e) := by
  refine List.filter_congr fun x within => ?_
  have same : key x = key e ↔ key' x = key' e :=
    ⟨fun eq => by rw [List.inj_on_of_nodup_map distinct within member eq],
     fun eq => by rw [List.inj_on_of_nodup_map distinct' within member eq]⟩
  rw [Bool.eq_iff_iff]
  simp only [bne_iff_ne, ne_eq, same]

/-- Removing the entries with a key no entry has removes nothing. -/
theorem filter_key_ne_of_none {value : String} (none : es.find? (key · == value) = none) :
    es.filter (key · != value) = es :=
  List.filter_eq_self.mpr fun x member => by simpa using List.find?_eq_none.mp none x member

end Key

/-! ## What requests do to the list of entries -/

/-- Removing the pair of a source removes the entry of that source. -/
theorem unregister_ofEntries (distinct : Distinct es) (source : String) :
    (ofEntries es).unregister source = ofEntries (es.filter (·.source != source)) := by
  rcases found : es.find? (·.source == source) with _ | e
  · -- no entry has the source: nothing is removed
    simp only [unregister, ofEntries, OrderedMap.get?_map, OrderedMap.erase_map, found,
      Option.map_none, filter_key_ne_of_none found]
  · obtain ⟨member, rfl⟩ := (find?_key_eq_some_iff distinct.sources source e).mp found
    simp only [unregister, ofEntries, OrderedMap.get?_map, OrderedMap.erase_map, found,
      Option.map_some, filter_key_ne distinct.targets distinct.sources member,
      filter_key_ne distinct.labels distinct.sources member]

/-- Remove the pair that holds a target, if any. -/
def dropTarget (r : Registry) (target : String) : Registry :=
  match r.sources.get? target with
  | some previous => r.unregister previous
  | none => r

/-- Remove the pair registered under a label, if any. -/
def dropLabel (r : Registry) (label : String) : Registry :=
  match r.byLabel.get? label with
  | some previous => r.unregister previous.source
  | none => r

/-- A registration is the three removals, then one entry set in each table. -/
theorem register_eq_drop (r : Registry) (source target label : String) :
    r.register source target label =
      let r := ((r.unregister source).dropTarget target).dropLabel label
      { targets := r.targets.set source target, sources := r.sources.set target source
        byLabel := r.byLabel.set label { source, target, label }, labels := r.labels.set source label } :=
  rfl

/-- Removing the pair that holds a target removes the entry of that target. -/
theorem dropTarget_ofEntries (distinct : Distinct es) (target : String) :
    (ofEntries es).dropTarget target = ofEntries (es.filter (·.target != target)) := by
  rcases found : es.find? (·.target == target) with _ | e
  · simp only [dropTarget, ofEntries, OrderedMap.get?_map, found, Option.map_none,
      filter_key_ne_of_none found]
  · obtain ⟨member, rfl⟩ := (find?_key_eq_some_iff distinct.targets target e).mp found
    have held : (ofEntries es).sources.get? e.target = some e.source := by
      simp [ofEntries, OrderedMap.get?_map, found]
    simp only [dropTarget, held]
    rw [unregister_ofEntries distinct, filter_key_ne distinct.sources distinct.targets member]

/-- Removing the pair registered under a label removes the entry of that label. -/
theorem dropLabel_ofEntries (distinct : Distinct es) (label : String) :
    (ofEntries es).dropLabel label = ofEntries (es.filter (·.label != label)) := by
  rcases found : es.find? (·.label == label) with _ | e
  · simp only [dropLabel, ofEntries, OrderedMap.get?_map, found, Option.map_none,
      filter_key_ne_of_none found]
  · obtain ⟨member, rfl⟩ := (find?_key_eq_some_iff distinct.labels label e).mp found
    have held : (ofEntries es).byLabel.get? e.label = some e := by
      simp [ofEntries, OrderedMap.get?_map, found]
    simp only [dropLabel, held]
    rw [unregister_ofEntries distinct, filter_key_ne distinct.sources distinct.labels member]

/-- Registering a pair keeps the entries that share none of its keys, in order, and
appends the pair. -/
theorem register_ofEntries (distinct : Distinct es) (source target label : String) :
    (ofEntries es).register source target label =
      ofEntries (es.filter (RegistryEntry.apart source target label) ++ [⟨source, target, label⟩]) := by
  have distinct₁ : Distinct (es.filter (·.source != source)) := distinct.sublist List.filter_sublist
  have distinct₂ : Distinct ((es.filter (·.source != source)).filter (·.target != target)) :=
    distinct₁.sublist List.filter_sublist
  have kept : ((es.filter (·.source != source)).filter (·.target != target)).filter (·.label != label) =
      es.filter (RegistryEntry.apart source target label) := by
    simp only [List.filter_filter]
    congr 1
    funext e
    rw [RegistryEntry.apart]
    ac_rfl
  rw [register_eq_drop, unregister_ofEntries distinct, dropTarget_ofEntries distinct₁,
    dropLabel_ofEntries distinct₂, kept]
  -- each key of the pair is now missing from its table, so setting it appends
  have apart := fun e (member : e ∈ es.filter (RegistryEntry.apart source target label)) =>
    (RegistryEntry.mem_filter_apart.mp member).2
  simp only [ofEntries, List.map_append, List.map_cons, List.map_nil]
  rw [OrderedMap.set_map_of_fresh _ _ _ fun e member => (apart e member).1,
    OrderedMap.set_map_of_fresh _ _ _ fun e member => (apart e member).2.1,
    OrderedMap.set_map_of_fresh _ _ _ fun e member => (apart e member).2.2,
    OrderedMap.set_map_of_fresh _ _ _ fun e member => (apart e member).1]

/-- A registration keeps the keys of the entries distinct. -/
theorem Distinct.register (distinct : Distinct es) (source target label : String) :
    Distinct (es.filter (RegistryEntry.apart source target label) ++ [⟨source, target, label⟩]) := by
  have kept := distinct.sublist (List.filter_sublist (p := RegistryEntry.apart source target label))
  -- under each key, the pair's key is none of the kept entries' keys
  have fresh : ∀ key : RegistryEntry → String,
      (∀ e ∈ es.filter (RegistryEntry.apart source target label),
        key e ≠ key (⟨source, target, label⟩ : RegistryEntry)) →
      ((es.filter (RegistryEntry.apart source target label)).map key).Nodup →
      ((es.filter (RegistryEntry.apart source target label) ++
        [(⟨source, target, label⟩ : RegistryEntry)]).map key).Nodup := by
    intro key apartKey nodup
    rw [List.map_append, List.nodup_append]
    refine ⟨nodup, List.nodup_singleton _, ?_⟩
    simp only [List.map_cons, List.map_nil, List.mem_singleton, List.mem_map]
    rintro _ ⟨e, member, rfl⟩ _ rfl
    exact apartKey e member
  exact ⟨fresh (·.source) (fun e member => (RegistryEntry.mem_filter_apart.mp member).2.1) kept.sources,
    fresh (·.target) (fun e member => (RegistryEntry.mem_filter_apart.mp member).2.2.1) kept.targets,
    fresh (·.label) (fun e member => (RegistryEntry.mem_filter_apart.mp member).2.2.2) kept.labels⟩

/-! ## Runs of requests -/

/-- The registry after answering requests in order, from an empty one. -/
def after (requests : List RegistryRequest) : Registry :=
  requests.foldl (fun r request => (r.answer request).2) {}

theorem after_append (requests : List RegistryRequest) (request : RegistryRequest) :
    after (requests ++ [request]) = ((after requests).answer request).2 := by
  simp [after, List.foldl_append]

/-- The label of the last registration of a source among requests. -/
def lastLabel (requests : List RegistryRequest) (source : String) : Option String :=
  requests.foldl (fun last request => (request.labelFor source).or last) none

theorem lastLabel_append (requests : List RegistryRequest) (request : RegistryRequest) (source : String) :
    lastLabel (requests ++ [request]) source = (request.labelFor source).or (lastLabel requests source) := by
  simp [lastLabel, List.foldl_append]

/-- What holds after some requests: the tables hold one list of entries with
distinct keys, each registered last under its own label. -/
structure Holds (requests : List RegistryRequest) (r : Registry) : Prop where
  entries : r = ofEntries r.allEntries
  distinct : Distinct r.allEntries
  lastLabels : ∀ e ∈ r.allEntries, lastLabel requests e.source = some e.label

theorem holds_nil : Holds [] {} :=
  ⟨rfl, ⟨List.nodup_nil, List.nodup_nil, List.nodup_nil⟩, by simp [allEntries]⟩

variable {requests : List RegistryRequest} {r : Registry}

/-- A request that registers nothing keeps what holds. -/
theorem Holds.keep (holds : Holds requests r) {request : RegistryRequest}
    (silent : ∀ source, request.labelFor source = none) : Holds (requests ++ [request]) r :=
  ⟨holds.entries, holds.distinct, fun e member => by
    rw [lastLabel_append, silent, Option.none_or, holds.lastLabels e member]⟩

/-- Each request keeps what holds. -/
theorem Holds.answer (holds : Holds requests r) (request : RegistryRequest) :
    Holds (requests ++ [request]) (r.answer request).2 := by
  cases request with
  | register source target label =>
    -- the kept entries have other sources; the new one was registered last
    have registered : r.register source target label =
        ofEntries (r.allEntries.filter (RegistryEntry.apart source target label) ++
          [⟨source, target, label⟩]) := by
      rw [holds.entries, register_ofEntries holds.distinct, allEntries_ofEntries]
    show Holds _ (r.register source target label)
    refine ⟨by rw [registered, allEntries_ofEntries], ?_, ?_⟩
    · rw [registered, allEntries_ofEntries]
      exact holds.distinct.register source target label
    · intro e member
      rw [registered, allEntries_ofEntries, List.mem_append, RegistryEntry.mem_filter_apart,
        List.mem_singleton] at member
      rcases member with ⟨within, other, -, -⟩ | rfl
      · rw [lastLabel_append, holds.lastLabels e within]
        simp [RegistryRequest.labelFor, Ne.symm other]
      · simp [lastLabel_append, RegistryRequest.labelFor]
  | clear =>
    show Holds _ {}
    exact ⟨rfl, ⟨List.nodup_nil, List.nodup_nil, List.nodup_nil⟩, by simp [allEntries]⟩
  | target _ | source _ | entry _ | allTargets | allEntries | isRegistered _ | size =>
    exact holds.keep fun _ => rfl

/-- Every run of requests from an empty registry keeps what holds. -/
theorem holds_after (requests : List RegistryRequest) : Holds requests (after requests) := by
  induction requests using List.reverseRecOn with
  | nil => exact holds_nil
  | append_singleton requests request ih =>
    rw [after_append]
    exact ih.answer request

/-! ## The laws -/

theorem target?_eq_some_iff (distinct : Distinct es) (source target : String) :
    (ofEntries es).target? source = some target ↔ ∃ e ∈ es, e.source = source ∧ e.target = target := by
  rw [target?_ofEntries, Option.map_eq_some_iff]
  simp only [find?_key_eq_some_iff distinct.sources, and_assoc]

theorem source?_eq_some_iff (distinct : Distinct es) (source target : String) :
    (ofEntries es).source? target = some source ↔ ∃ e ∈ es, e.source = source ∧ e.target = target := by
  rw [source?_ofEntries, Option.map_eq_some_iff]
  simp only [find?_key_eq_some_iff distinct.targets, and_assoc]
  exact exists_congr fun e => and_congr_right fun _ => and_comm

theorem ofLabel?_eq_some_iff (distinct : Distinct es) (label : String) (e : RegistryEntry) :
    (ofEntries es).ofLabel? label = some e ↔ e ∈ es ∧ e.label = label := by
  rw [ofLabel?_ofEntries, find?_key_eq_some_iff distinct.labels]

/-- The laws of a registry after some requests: the two lookups are inverse; a label
finds the pair of a source exactly when the source's target is in force and the
source was last registered under that label; no source, target or label occurs in
two entries; the size and the targets follow the pairs; and a registration holds
its pair and keeps, in order, exactly the entries that share none of its keys. -/
structure Laws (requests : List RegistryRequest) (r : Registry) : Prop where
  inverse : ∀ source target, r.target? source = some target ↔ r.source? target = some source
  byLabel : ∀ source target label, r.ofLabel? label = some ⟨source, target, label⟩ ↔
    r.target? source = some target ∧ lastLabel requests source = some label
  distinct : Distinct r.allEntries
  counted : r.size = r.allEntries.length ∧ r.allTargets = r.allEntries.map (·.target)
  register : ∀ source target label,
    (r.register source target label).ofLabel? label = some ⟨source, target, label⟩ ∧
      (r.register source target label).allEntries =
        r.allEntries.filter (RegistryEntry.apart source target label) ++ [⟨source, target, label⟩]

theorem Holds.laws (holds : Holds requests r) : Laws requests r := by
  obtain ⟨entries, distinct, lastLabels⟩ := holds
  rw [entries]
  generalize r.allEntries = es at distinct lastLabels
  refine ⟨?inverse, ?byLabel, by simpa using distinct, by simp, ?register⟩
  case inverse =>
    intro source target
    rw [target?_eq_some_iff distinct, source?_eq_some_iff distinct]
  case byLabel =>
    intro source target label
    rw [ofLabel?_eq_some_iff distinct, target?_eq_some_iff distinct]
    constructor
    · rintro ⟨member, -⟩
      exact ⟨⟨_, member, rfl, rfl⟩, lastLabels _ member⟩
    · rintro ⟨⟨e, member, rfl, rfl⟩, last⟩
      -- the entry of the source was registered last under its own label
      have sameLabel : e.label = label := Option.some.inj ((lastLabels e member).symm.trans last)
      subst sameLabel
      exact ⟨member, rfl⟩
  case register =>
    intro source target label
    rw [register_ofEntries distinct, ofLabel?_eq_some_iff (distinct.register source target label)]
    simp

/-- Every registry reached by requests from an empty one obeys the laws. -/
theorem laws_after (requests : List RegistryRequest) : (after requests).Laws requests :=
  (holds_after requests).laws

/-- A pair registered again under a target another pair holds replaces both. -/
example : (after [.register "s1" "t1" "l1", .register "s2" "t2" "l2", .register "s1" "t2" "l3"]).allEntries =
    [⟨"s1", "t2", "l3"⟩] := by
  rfl

/-! ## Registering one pair after another -/

/-- Registering pairs one after another, when no source, target or label occurs
twice among them and the entries held, appends them in order. -/
theorem foldl_register_ofEntries :
    ∀ (pairs es : List RegistryEntry), Distinct (es ++ pairs) →
      pairs.foldl (fun r e => r.register e.source e.target e.label) (ofEntries es) = ofEntries (es ++ pairs)
  | [], es, _ => by simp
  | e :: rest, es, distinct => by
    have held : Distinct es := distinct.sublist (List.sublist_append_left _ _)
    -- under each key, the next pair's key is none of the held entries' keys
    have fresh : ∀ key : RegistryEntry → String, ((es ++ e :: rest).map key).Nodup →
        ∀ x ∈ es, key x ≠ key e := by
      intro key nodup x member
      rw [List.map_append, List.nodup_append] at nodup
      exact nodup.2.2 _ (List.mem_map_of_mem member) _ (List.mem_map_of_mem (List.mem_cons_self ..))
    have kept : es.filter (RegistryEntry.apart e.source e.target e.label) = es := by
      refine List.filter_eq_self.mpr fun x member => ?_
      simp [RegistryEntry.apart, fresh _ distinct.sources x member, fresh _ distinct.targets x member,
        fresh _ distinct.labels x member]
    rw [List.foldl_cons, register_ofEntries held, kept,
      foldl_register_ofEntries rest (es ++ [e]) (by simpa using distinct)]
    simp

/-- Answering registrations is registering their pairs one after another. -/
theorem after_registrations (pairs : List RegistryEntry) :
    after (pairs.map fun e => .register e.source e.target e.label) =
      pairs.foldl (fun r e => r.register e.source e.target e.label) {} := by
  simp only [after, List.foldl_map]
  rfl

end Registry

/-! ## The registry of built tables -/

/-- Building the tables of a plan of a built schema renders the plan and registers
every built model under its identity, its class name and its label: one entry per
built model, in order, and nothing else. -/
theorem Session.buildTables_registry {manifest : Manifest} {schema : Schema}
    (built : Schema.build manifest = .ok schema) (s : Session) (apps : AppSelection) {plan : Plan}
    (planned : s.plan schema apps = .ok plan) (log : List LogEntry) :
    ∃ out tables after, (plan.render (buildModel s.config.appName)).run.run log = (.ok out, after) ∧
      (s.buildTables schema apps).run.run log = (.ok tables, after) ∧
      tables.models = out.rendered.map (·.2) ∧
      tables.registry =
        Registry.after (out.rendered.map fun r => .register r.1.info.identity r.2.className r.1.label) ∧
      tables.registry.allEntries = out.rendered.map fun r => ⟨r.1.info.identity, r.2.className, r.1.label⟩ := by
  obtain ⟨out, after, rendered, settles⟩ := render_settles plan (buildModel s.config.appName) log
  have described := Schema.plan_described planned
  have planOrder := settles.ordered
  -- a rendered model is planned, labelled by its identity and built under its class name
  have identity : ∀ r ∈ out.rendered, r.1.info.identity = r.1.label := fun r member =>
    (described.labels r.1 (planOrder.subset (List.mem_map_of_mem member))).symm
  have className : ∀ r ∈ out.rendered, r.2.className = r.1.className := fun r member =>
    (holds_of_settles settles r member).className
  let entries := out.rendered.map fun r => (⟨r.1.info.identity, r.2.className, r.1.label⟩ : RegistryEntry)
  have labels : entries.map (·.label) = (out.rendered.map (·.1)).map (·.label) := by
    simp [entries, Function.comp_def]
  have sources : entries.map (·.source) = (out.rendered.map (·.1)).map (·.label) := by
    simpa [entries, Function.comp_def] using List.map_congr_left identity
  have targets : entries.map (·.target) = (out.rendered.map (·.1)).map (·.className) := by
    simpa [entries, Function.comp_def] using List.map_congr_left className
  have labelsNodup := Schema.plan_labels_nodup (Schema.build_wellFormed built).labels planned
  have distinct : Registry.Distinct entries :=
    ⟨sources ▸ labelsNodup.sublist (planOrder.map _), targets ▸ described.distinct.sublist (planOrder.map _),
      labels ▸ labelsNodup.sublist (planOrder.map _)⟩
  -- the session registers the labels, which are the identities
  have registered : out.rendered.foldl (fun r x => r.register x.1.label x.2.className x.1.label)
      ({} : Registry) = Registry.ofEntries entries := by
    rw [← List.nil_append entries, ← Registry.foldl_register_ofEntries entries [] (by simpa using distinct)]
    simp only [entries, List.foldl_map]
    exact List.foldl_ext _ _ _ fun acc r member => by rw [identity r member]
  have lifted : (Run.lift (s.plan schema apps)).run.run log = (.ok plan, log) := by
    rw [planned]
    rfl
  let tables : BuiltTables :=
    { models := out.rendered.map Prod.snd
      skipped := plan.skipped
      failed := out.failed
      registry := Registry.ofEntries entries }
  refine ⟨out, tables, after, rendered, ?run, rfl, ?registry,
    Registry.allEntries_ofEntries entries⟩
  case run =>
    rw [Session.buildTables, Run.run_bind_of_ok lifted, Run.run_bind_of_ok rendered]
    -- the session's fold takes each pair apart by a pattern, which is the same function
    erw [registered]
    rfl
  case registry =>
    have requests : (out.rendered.map fun r => RegistryRequest.register r.1.info.identity r.2.className
        r.1.label) = entries.map fun e => .register e.source e.target e.label := by
      simp [entries, Function.comp_def]
    rw [requests, Registry.after_registrations]
    exact (Registry.foldl_register_ofEntries entries [] (by simpa using distinct)).symm

end ModelTables

namespace ModelTables

/-- The registry's inverse law: every registry reached by requests from an empty one
obeys the laws; and building the tables of a plan of a built schema registers exactly
one entry per built model, in order, under its identity, its class name and its label,
through registrations that obey the laws in turn. -/
theorem registry_inverse_law :
    (∀ requests, (Registry.after requests).Laws requests) ∧
    ∀ (manifest : Manifest) (schema : Schema), Schema.build manifest = .ok schema →
      ∀ (s : Session) (apps : AppSelection) (plan : Plan), s.plan schema apps = .ok plan →
      ∀ log : List LogEntry, ∃ out tables after,
        (plan.render (buildModel s.config.appName)).run.run log = (.ok out, after) ∧
        (s.buildTables schema apps).run.run log = (.ok tables, after) ∧
        tables.models = out.rendered.map (·.2) ∧
        tables.registry =
          Registry.after (out.rendered.map fun r => .register r.1.info.identity r.2.className r.1.label) ∧
        tables.registry.allEntries = out.rendered.map fun r => ⟨r.1.info.identity, r.2.className, r.1.label⟩ :=
  ⟨Registry.laws_after, fun _ _ built s apps _ planned log => Session.buildTables_registry built s apps planned log⟩

/-- The session of the default configuration. -/
def defaultSession : Session := { config := Config.defaults, target := default }

theorem registry_inverse_law_on_chain :
    ∃ schema plan, Schema.build chainManifest = .ok schema ∧ defaultSession.plan schema .all = .ok plan ∧
      ∃ out tables after,
        (plan.render (buildModel defaultSession.config.appName)).run.run [] = (.ok out, after) ∧
        (defaultSession.buildTables schema .all).run.run [] = (.ok tables, after) ∧
        tables.models = out.rendered.map (·.2) ∧
        tables.registry =
          Registry.after (out.rendered.map fun r => .register r.1.info.identity r.2.className r.1.label) ∧
        tables.registry.allEntries = out.rendered.map fun r => ⟨r.1.info.identity, r.2.className, r.1.label⟩ := by
  refine ⟨_, _, rfl, rfl, ?_⟩
  exact registry_inverse_law.2 chainManifest _ rfl defaultSession .all _ rfl []

end ModelTables
