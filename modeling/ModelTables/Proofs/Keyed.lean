import ModelTables.Keyed

/-! # Keys of keyed lists

Setting an entry adds its key and keeps the others, wherever the key lands in
object order; assigning does the same for every key but `__proto__`, and keeps
the mapping as it is for that one.  Either way every entry afterwards is the new
one or an old one.  A mapping built from pairs has exactly their keys, and a key
that a mapping has can be read.
-/

namespace ModelTables.Keyed

variable {α : Type}

private theorem mem_keys_insert {xs before : Keyed α} (front : before <+: xs) (key : String) (v : α)
    (k : String) : k ∈ keys (before ++ (key, v) :: xs.drop before.length) ↔ k ∈ xs.keys ∨ k = key := by
  obtain ⟨after, rfl⟩ := front
  simp only [keys, List.drop_left, List.map_append, List.map_cons, List.mem_append, List.mem_cons]
  constructor
  · rintro (early | rfl | late) <;> simp [*]
  · rintro ((early | late) | rfl) <;> simp [*]

theorem mem_keys_set (xs : Keyed α) (key : String) (v : α) (k : String) :
    k ∈ (Keyed.set xs key v).keys ↔ k ∈ xs.keys ∨ k = key := by
  unfold Keyed.set
  split
  · rename_i present
    -- a present key is overwritten in place, so the keys stay
    have present : key ∈ xs.keys := by
      simpa [Keyed.contains, Keyed.keys] using present
    have sameKeys : (xs.map fun entry => if entry.1 == key then (key, v) else entry).map (·.1) =
        xs.map (·.1) := by
      simp only [List.map_map]
      refine List.map_congr_left fun entry _ => ?_
      by_cases same : entry.1 = key <;> simp [same]
    rw [keys, sameKeys]
    constructor
    · exact Or.inl
    · rintro (member | rfl)
      · exact member
      · exact present
  · split
    · simp [keys]
    · -- a new index key goes between the smaller index keys and the rest
      exact mem_keys_insert (List.takeWhile_prefix _) key v k

theorem assign_eq_set (xs : Keyed α) {key : String} (notProto : key ≠ "__proto__") (v : α) :
    Keyed.assign xs key v = Keyed.set xs key v := by
  simp [Keyed.assign, notProto]

theorem ofPairs_append (pairs : List (String × α)) (key : String) (v : α) :
    Keyed.ofPairs (pairs ++ [(key, v)]) = Keyed.set (Keyed.ofPairs pairs) key v := by
  simp [Keyed.ofPairs, List.foldl_append]

theorem mem_set {xs : Keyed α} {key : String} {v : α} {entry : String × α}
    (member : entry ∈ Keyed.set xs key v) : entry = (key, v) ∨ entry ∈ xs := by
  unfold Keyed.set at member
  split at member
  · -- an overwritten entry becomes the new one
    obtain ⟨old, within, rewritten⟩ := List.mem_map.mp member
    by_cases same : old.1 = key
    · simp only [same, beq_self_eq_true, if_true] at rewritten
      exact .inl rewritten.symm
    · simp only [beq_iff_eq, same, if_false] at rewritten
      exact .inr (rewritten ▸ within)
  · split at member
    · rcases List.mem_append.mp member with old | new
      · exact .inr old
      · exact .inl (List.mem_singleton.mp new)
    · rcases List.mem_append.mp member with early | later
      · exact .inr ((List.takeWhile_prefix _).subset early)
      · rcases List.mem_cons.mp later with new | late
        · exact .inl new
        · exact .inr (List.mem_of_mem_drop late)

theorem mem_assign {xs : Keyed α} {key : String} {v : α} {entry : String × α}
    (member : entry ∈ Keyed.assign xs key v) : entry = (key, v) ∨ entry ∈ xs := by
  unfold Keyed.assign at member
  split at member
  · exact .inr member
  · exact mem_set member

theorem mem_keys_assign_of_mem (xs : Keyed α) (key : String) (v : α) {k : String}
    (present : k ∈ xs.keys) : k ∈ (Keyed.assign xs key v).keys := by
  unfold Keyed.assign
  split
  · exact present
  · exact (mem_keys_set xs key v k).mpr (.inl present)

theorem mem_keys_assign_self (xs : Keyed α) {key : String} (notProto : key ≠ "__proto__") (v : α) :
    key ∈ (Keyed.assign xs key v).keys := by
  rw [assign_eq_set xs notProto, mem_keys_set]
  exact .inr rfl

theorem get?_isSome_of_mem_keys {xs : Keyed α} {key : String} (present : key ∈ xs.keys) :
    (Keyed.get? xs key).isSome := by
  obtain ⟨entry, within, rfl⟩ := List.mem_map.mp present
  simp only [Keyed.get?, Option.isSome_map]
  exact List.find?_isSome.mpr ⟨entry, within, by simp⟩

/-- A key that a mapping lacks reads nothing of its own. -/
theorem get?_eq_none_of_not_mem_keys {xs : Keyed α} {key : String} (absent : key ∉ xs.keys) :
    Keyed.get? xs key = none := by
  simp only [Keyed.get?, Option.map_eq_none_iff, List.find?_eq_none, beq_iff_eq]
  exact fun e member same => absent (List.mem_map.mpr ⟨e, member, same⟩)

/-- A key's entry is a member. -/
theorem mem_of_get?_eq_some {xs : Keyed α} {key : String} {v : α}
    (found : Keyed.get? xs key = some v) : (key, v) ∈ xs := by
  obtain ⟨entry, first, rfl⟩ := Option.map_eq_some_iff.mp found
  have sameKey : entry.1 = key := by simpa using List.find?_some first
  rw [← sameKey]
  exact List.mem_of_find?_eq_some first

end ModelTables.Keyed
