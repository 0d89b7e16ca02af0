import CompanionStyles.Component.Parser

/-!
What is known of a parsed source: its tree has the source as its text, no leaf of it is empty, and up to
the first turn its leaves stand where a scan finds them.
-/

namespace CompanionStyles.Component

/-- A tree that is read is one node over all leaves. -/
theorem Reader.read?_eq_some {source : List Char} {r : Reader source Unit} {tree : Syntax}
    (parsed : r.read? = some tree) :
    ∃ children turned, tree = .node .other children ∧ Taken source tree.leaves [] turned := by
  unfold Reader.read? at parsed
  split at parsed
  · rename_i s _
    split at parsed
    · rename_i ended
      obtain rfl := Option.some.inj parsed
      have taken := s.settle_taken
      rw [ended.1, ended.2] at taken
      exact ⟨_, s.turned, rfl, by simpa using taken⟩
    · exact absurd parsed (by simp)
  · exact absurd parsed (by simp)

theorem exists_read? {d : Dialect} {source : List Char} {awaits : Bool} {tree : Syntax}
    (parsed : read? d source awaits = some tree) : ∃ r : Reader source Unit, r.read? = some tree := by
  unfold read? at parsed
  split at parsed
  · rename_i taken
    split at parsed
    · exact absurd parsed (by simp)
    · obtain rfl := Option.some.inj parsed
      exact ⟨_, taken⟩
  · exact absurd parsed (by simp)

/-- Whatever a source is read as, its tree is what a reader gives. -/
theorem exists_read?_of_parse? {d : Dialect} {source : List Char} {tree : Syntax}
    (parsed : parse? d source = some tree) : ∃ r : Reader source Unit, r.read? = some tree := by
  unfold parse? at parsed
  split at parsed
  · exact exists_read? parsed
  · exact exists_read? parsed
  · split at parsed
    · rename_i first
      split at parsed
      · exact exists_read? parsed
      · obtain rfl := Option.some.inj parsed
        exact exists_read? first
    · exact exists_read? (Option.filter_eq_some_iff.mp parsed).1

/-- Every tree that a source is parsed to is made of the leaves taken from the source. -/
theorem parse?_taken {d : Dialect} {source : List Char} {tree : Syntax}
    (parsed : parse? d source = some tree) : ∃ turned, Taken source tree.leaves [] turned := by
  obtain ⟨r, read⟩ := exists_read?_of_parse? parsed
  obtain ⟨_, turned, _, taken⟩ := Reader.read?_eq_some read
  exact ⟨turned, taken⟩

theorem parse?_root {d : Dialect} {source : List Char} {tree : Syntax}
    (parsed : parse? d source = some tree) : ∃ children, tree = .node .other children := by
  obtain ⟨r, read⟩ := exists_read?_of_parse? parsed
  obtain ⟨children, _, root, _⟩ := Reader.read?_eq_some read
  exact ⟨children, root⟩

theorem text_of_parse? {d : Dialect} {source : List Char} {tree : Syntax}
    (parsed : parse? d source = some tree) : tree.text = source := by
  obtain ⟨_, taken⟩ := parse?_taken parsed
  rw [← Syntax.flatMap_leaves]
  simpa using taken.whole

end CompanionStyles.Component
