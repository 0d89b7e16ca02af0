/-!
Entries by their keys: what a list of entries has for a key, from its first entry on and behind a change of the
list.
-/

namespace CompanionStyles.Entries

variable {α β : Type} [BEq α] [LawfulBEq α] [DecidableEq α]

theorem lookup_cons_ite (key : α) (value : β) (other : α) (entries : List (α × β)) :
    ((key, value) :: entries).lookup other = if other = key then some value else entries.lookup other := by
  rw [List.lookup_cons]
  by_cases same : other = key
  · simp [same]
  · have different : (other == key) = false := by simpa using same
    rw [different, if_neg same]

theorem lookup_filter_ne {key other : α} (entries : List (α × β)) :
    (entries.filter fun entry => entry.1 ≠ key).lookup other =
      if other = key then none else entries.lookup other := by
  induction entries with
  | nil => simp
  | cons entry entries ih =>
    obtain ⟨first, value⟩ := entry
    rw [lookup_cons_ite]
    by_cases same : first = key
    · rw [List.filter_cons_of_neg (by simpa using same), ih]
      by_cases here : other = key <;> simp [here, same]
    · rw [List.filter_cons_of_pos (by simpa using same), lookup_cons_ite, ih]
      by_cases here : other = first
      · rw [if_pos here, if_pos here, if_neg (by rw [here]; exact same)]
      · rw [if_neg here, if_neg here]

/-- Values that are changed by their keys are found changed. -/
theorem lookup_map (change : α → β → β) (entries : List (α × β)) (key : α) :
    (entries.map fun entry => (entry.1, change entry.1 entry.2)).lookup key =
      (entries.lookup key).map (change key) := by
  induction entries with
  | nil => rfl
  | cons entry entries ih =>
    obtain ⟨first, value⟩ := entry
    rw [List.map_cons, lookup_cons_ite, lookup_cons_ite, ih]
    by_cases same : key = first
    · simp [same]
    · simp [same]

theorem lookup_concat (entries : List (α × β)) (key : α) (value : β) (other : α) :
    (entries ++ [(key, value)]).lookup other =
      (entries.lookup other).or (if other = key then some value else none) := by
  induction entries with
  | nil => rw [List.nil_append, lookup_cons_ite, List.lookup_nil, Option.none_or]
  | cons entry entries ih =>
    obtain ⟨first, old⟩ := entry
    rw [List.cons_append, lookup_cons_ite, lookup_cons_ite, ih]
    split <;> rfl

theorem lookup_of_not_mem {entries : List (α × β)} {key : α} (absent : key ∉ entries.map Prod.fst) :
    entries.lookup key = none := by
  induction entries with
  | nil => rfl
  | cons entry entries ih =>
    obtain ⟨first, value⟩ := entry
    rw [List.map_cons, List.mem_cons, not_or] at absent
    rw [lookup_cons_ite, if_neg absent.1, ih absent.2]

end CompanionStyles.Entries
