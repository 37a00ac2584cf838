/-! # The model registry

A registry pairs source models with the tables built for them, both named by
text, and keeps the label of each pair as a third key.  The three lookups are
kept exact inverses: registering a pair first removes every earlier pair that
shares its source, its target or its label.

Each lookup table is an insertion-ordered map: setting a present key keeps its
place, removing a key and setting it again moves it to the end.
-/

namespace ModelTables

/-- An insertion-ordered map from texts. -/
abbrev OrderedMap (α : Type) := List (String × α)

namespace OrderedMap

variable {α : Type}

/-- The entry of a key. -/
def get? (m : OrderedMap α) (key : String) : Option α :=
  (m.find? (·.1 == key)).map (·.2)

/-- Set an entry: a present key keeps its place, a new key goes last. -/
def set (m : OrderedMap α) (key : String) (v : α) : OrderedMap α :=
  if m.any (·.1 == key) then m.map fun entry => if entry.1 == key then (key, v) else entry
  else m ++ [(key, v)]

/-- Remove the entry of a key. -/
def erase (m : OrderedMap α) (key : String) : OrderedMap α := m.filter (·.1 != key)

end OrderedMap

/-- One registered pair with its label. -/
structure RegistryEntry where
  source : String
  target : String
  label : String
  deriving Inhabited, BEq, Repr

/-- Sources to targets, targets to sources, labels to pairs and sources to
labels. -/
structure Registry where
  targets : OrderedMap String := []
  sources : OrderedMap String := []
  byLabel : OrderedMap RegistryEntry := []
  labels : OrderedMap String := []
  deriving Inhabited

namespace Registry

/-- Remove the pair of a source, if any. -/
def unregister (r : Registry) (source : String) : Registry :=
  let sources := match r.targets.get? source with
    | some target => r.sources.erase target
    | none => r.sources
  let byLabel := match r.labels.get? source with
    | some label => r.byLabel.erase label
    | none => r.byLabel
  { targets := r.targets.erase source, sources, byLabel, labels := r.labels.erase source }

/-- Register a pair, removing first every pair that shares its source, its
target or its label. -/
def register (r : Registry) (source target label : String) : Registry :=
  let r := r.unregister source
  let r := match r.sources.get? target with
    | some previous => r.unregister previous
    | none => r
  let r := match r.byLabel.get? label with
    | some previous => r.unregister previous.source
    | none => r
  { targets := r.targets.set source target, sources := r.sources.set target source
    byLabel := r.byLabel.set label { source, target, label }, labels := r.labels.set source label }

/-- The target of a source. -/
def target? (r : Registry) (source : String) : Option String := r.targets.get? source

/-- The source of a target. -/
def source? (r : Registry) (target : String) : Option String := r.sources.get? target

/-- The pair of a label. -/
def ofLabel? (r : Registry) (label : String) : Option RegistryEntry := r.byLabel.get? label

/-- Every target, in registration order. -/
def allTargets (r : Registry) : List String := r.targets.map (·.2)

/-- Every pair, in label registration order. -/
def allEntries (r : Registry) : List RegistryEntry := r.byLabel.map (·.2)

/-- Whether a source is registered. -/
def isRegistered (r : Registry) (source : String) : Bool := (r.target? source).isSome

/-- The number of registered sources. -/
def size (r : Registry) : Nat := r.targets.length

end Registry

/-- A request to a registry. -/
inductive RegistryRequest where
  | register (source target label : String)
  | target (source : String)
  | source (target : String)
  | entry (label : String)
  | allTargets
  | allEntries
  | isRegistered (source : String)
  | size
  | clear
  deriving Inhabited, Repr

/-- The reply to a registry request. -/
inductive RegistryReply where
  /-- The size after a change. -/
  | changed (size : Nat)
  | name (value : Option String)
  | entry (value : Option RegistryEntry)
  | names (values : List String)
  | entries (values : List RegistryEntry)
  | flag (value : Bool)
  | count (value : Nat)
  deriving Inhabited, Repr

namespace Registry

/-- Answer one request, with the registry after it. -/
def answer (r : Registry) : RegistryRequest → RegistryReply × Registry
  | .register source target label =>
    let r := r.register source target label
    (.changed r.size, r)
  | .target source => (.name (r.target? source), r)
  | .source target => (.name (r.source? target), r)
  | .entry label => (.entry (r.ofLabel? label), r)
  | .allTargets => (.names r.allTargets, r)
  | .allEntries => (.entries r.allEntries, r)
  | .isRegistered source => (.flag (r.isRegistered source), r)
  | .size => (.count r.size, r)
  | .clear => (.changed 0, {})

/-- Answer requests in order, starting from an empty registry. -/
def answerAll (requests : List RegistryRequest) : List RegistryReply :=
  (requests.foldl (fun (acc : List RegistryReply × Registry) request =>
    let (reply, r) := acc.2.answer request
    (acc.1 ++ [reply], r)) ([], {})).1

end Registry

end ModelTables
