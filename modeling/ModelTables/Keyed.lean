import ModelTables.Value.Basic

/-! # Keyed lists in object order

Mappings read from documents (engine maps, databases, pool settings, relation
tables) are iterated the way object members are: index keys first in ascending
order, then the other keys in the order they were first set.  `Keyed.set` keeps a
list of pairs in that order, like `Fields.set` does for values.

A mapping built by assigning keys one by one (`Keyed.assign`) never holds the key
`__proto__`.  Reading a key that a mapping lacks finds the member of that name that
every object inherits, if there is one (`Keyed.lookup`): `toString` finds a method,
`__proto__` the prototype itself.
-/

namespace ModelTables

/-- A mapping from texts, in object iteration order. -/
abbrev Keyed (α : Type) := List (String × α)

/-- What a property read on a mapping finds. -/
inductive Found (α : Type) where
  /-- The mapping's own entry. -/
  | own (value : α)
  /-- A member every object inherits. -/
  | inherited (member : Inherited)
  /-- Nothing: the read gives `undefined`. -/
  | missing
  deriving Inhabited

namespace Keyed

variable {α : Type}

/-- The entry of a key. -/
def get? (xs : Keyed α) (key : String) : Option α :=
  (xs.find? (·.1 == key)).map (·.2)

/-- Whether a key has an entry. -/
def contains (xs : Keyed α) (key : String) : Bool := xs.any (·.1 == key)

/-- Set an entry: a present key keeps its place, a new index key goes before the
first entry that is not an index key or has a larger index, and any other new key
goes last. -/
def set (xs : Keyed α) (key : String) (v : α) : Keyed α :=
  if Keyed.contains xs key then xs.map fun entry => if entry.1 == key then (key, v) else entry
  else match indexKey? key with
    | none => xs ++ [(key, v)]
    | some n =>
      let before := xs.takeWhile fun entry =>
        match indexKey? entry.1 with
        | some m => m < n
        | none => false
      before ++ (key, v) :: xs.drop before.length

/-- Assign an entry as a property assignment on a fresh object does: like `set`,
except that the key `__proto__` is never stored, since assigning it replaces the
object's prototype instead of adding a member. -/
def assign (xs : Keyed α) (key : String) (v : α) : Keyed α :=
  if key == "__proto__" then xs else Keyed.set xs key v

/-- Build a mapping by assigning pairs in order. -/
def ofAssigned (pairs : List (String × α)) : Keyed α :=
  pairs.foldl (fun acc entry => Keyed.assign acc entry.1 entry.2) []

/-- Compute a value for every entry in order and assign it under the entry's key,
as a loop filling a fresh object does; the first failure ends the loop. -/
def assignEach {ε β : Type} (entries : List (String × β)) (f : String → β → Except ε α) :
    Except ε (Keyed α) :=
  entries.foldlM (fun acc entry => do pure (Keyed.assign acc entry.1 (← f entry.1 entry.2))) []

/-- What a plain property read finds: the entry of the key, else the member every
object inherits under that name, else nothing. -/
def lookup (xs : Keyed α) (key : String) : Found α :=
  match Keyed.get? xs key with
  | some v => .own v
  | none => match Inherited.of? key with
    | some m => .inherited m
    | none => .missing

/-- Build a mapping from pairs set in order. -/
def ofPairs (pairs : List (String × α)) : Keyed α :=
  pairs.foldl (fun acc entry => Keyed.set acc entry.1 entry.2) []

/-- The keys, in iteration order. -/
def keys (xs : Keyed α) : List String := xs.map (·.1)

end Keyed

end ModelTables
