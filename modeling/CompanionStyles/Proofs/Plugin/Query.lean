import CompanionStyles.Proofs.Echoes
import CompanionStyles.Proofs.Patch.Front
import CompanionStyles.Proofs.Plugin.Rebinding
import CompanionStyles.Proofs.Plugin.Validated
import CompanionStyles.Proofs.Text.Encoding

/-!
Queries of module ids. A component with a query is transformed as the one without is, step by step. What differs is
the id where it is told: in messages, as the source of the map, and in the tracker, which forgets both ids with the
component.
-/

namespace CompanionStyles

theorem modulePath_append_query {id : List Char} (plain : '?' ∉ id) (query : List Char) :
    modulePath (id ++ '?' :: query) = id := by
  have split : Text.splitFirst? '?' (id ++ '?' :: query) = some (id, query) :=
    Text.splitFirst?_eq_some_iff.mpr ⟨rfl, plain⟩
  rw [modulePath, split]

theorem modulePath_of_plain {id : List Char} (plain : '?' ∉ id) : modulePath id = id := by
  unfold modulePath
  split
  · rename_i path query split
    obtain ⟨spelled, _⟩ := Text.splitFirst?_eq_some_iff.mp split
    exact absurd (by rw [spelled]; simp) plain
  · rfl

theorem isPrefixOf_append_of_not_mem {front : List Char} {c : Char} (other : c ∉ front) (text rest : List Char) :
    front.isPrefixOf (text ++ c :: rest) = front.isPrefixOf text := by
  induction front generalizing text with
  | nil => rfl
  | cons a front ih =>
    have differs : c ≠ a := List.ne_of_not_mem_cons other
    have ih := ih (List.not_mem_of_not_mem_cons other)
    cases text with
    | nil =>
      have apart : (a == c) = false := beq_eq_false_iff_ne.mpr (Ne.symm differs)
      rw [List.nil_append, List.isPrefixOf_cons_cons, apart]
      rfl
    | cons b text => rw [List.cons_append, List.isPrefixOf_cons_cons, List.isPrefixOf_cons_cons, ih]

namespace Component

theorem Dialect.ofId_append_query {id : List Char} (plain : '?' ∉ id) (query : List Char) :
    ofId (id ++ '?' :: query) = ofId id := by
  have unmarked : (id ++ '?' :: query).dropWhile (· = '\x00') = id.dropWhile (· = '\x00') ++ '?' :: query := by
    rw [List.dropWhile_append]
    split
    · rename_i empty
      rw [List.isEmpty_iff.mp empty]
      rfl
    · rfl
  have plain' : '?' ∉ id.dropWhile (· = '\x00') := fun member => plain ((List.dropWhile_sublist _).subset member)
  unfold ofId
  rw [unmarked, modulePath_append_query plain', modulePath_of_plain plain']

/-- A component is rewritten by one patch, whatever query its id has. -/
theorem rewrite_append_query (source : List Char) {id : List Char} (plain : '?' ∉ id) (query : List Char)
    (m : Manifest) (styleId : List Char) :
    ∃ patch? : Option Patch, (∀ patch ∈ patch?, patch.original = source)
      ∧ (rewrite source id m styleId).output = patch?.map (·.finish? (String.ofList id))
      ∧ (rewrite source (id ++ '?' :: query) m styleId).output
        = patch?.map (·.finish? (String.ofList (id ++ '?' :: query)))
      ∧ List.Forall₂ (LogLine.Echoes id (id ++ '?' :: query)) (rewrite source id m styleId).log
        (rewrite source (id ++ '?' :: query) m styleId).log := by
  have original : (importPatch source styleId).original = source := by
    unfold importPatch
    split <;> rfl
  have dropped : ∀ patch : Patch, List.Forall₂ (LogLine.Echoes id (id ++ '?' :: query))
      (patch.log (String.ofList id)) (patch.log (String.ofList (id ++ '?' :: query))) := by
    intro patch
    refine List.forall₂_map_left_iff.mpr (List.forall₂_map_right_iff.mpr (List.forall₂_same.mpr fun e _ => ⟨rfl, ?_⟩))
    refine .of_eq ("dropping overlapping edit " ++ toString e.start ++ ".." ++ toString e.stop ++ " in ") "" ?_ ?_
    all_goals simp [Patch.droppedLine, toString]
  have counted : ∀ count,
      (rewritesLine id count).Echoes id (id ++ '?' :: query) (rewritesLine (id ++ '?' :: query) count) := by
    intro count
    refine ⟨rfl, .of_eq "" (": " ++ toString count ++ " class rewrites") ?_ ?_⟩
    all_goals simp [rewritesLine, toString, String.append_assoc]
  have edits : classEdits? source (id ++ '?' :: query) m = classEdits? source id m := by
    rw [classEdits?, classEdits?, Dialect.ofId_append_query plain]
  unfold rewrite
  by_cases empty : m.isEmpty = true
  · rw [if_pos empty, if_pos empty]
    exact ⟨some (importPatch source styleId), fun patch same => Option.some.inj same ▸ original, rfl, rfl, dropped _⟩
  · rw [if_neg empty, if_neg empty, edits]
    cases classEdits? source id m with
    | none => exact ⟨none, nofun, rfl, rfl, .nil⟩
    | some edits =>
      refine ⟨some (edits.foldl Patch.overwrite (importPatch source styleId)), fun patch same => ?_, rfl, rfl,
        .cons (counted _) (dropped _)⟩
      rw [← Option.some.inj same, Patch.foldl_overwrite_original, original]

end Component

/-- Two outputs for two ids: the text and the style are the same, the warnings tell the same of either id, and the
maps have the same mappings, each with its own id as the name of the source. -/
structure TransformOutput.Echoes (source id id' : List Char) (o o' : TransformOutput) : Prop where
  code : o'.code = o.code
  style : o'.style = o.style
  warnings : List.Forall₂ (CompanionStyles.Echoes id id') o.warnings o'.warnings
  map : ∃ mappings, o.map = String.ofList (SourceMap.toJson id source mappings)
    ∧ o'.map = String.ofList (SourceMap.toJson id' source mappings)

namespace Plugin

/-- How two transforms of one source end for two ids: both leave the plugin as it was, or both bind the component to
one style, whose text is served under one path, and record it in one directory, each by its own id. -/
inductive EndsAlike (p : Plugin) (source id id' : List Char) :
    Plugin × Option TransformOutput → Plugin × Option TransformOutput → Prop
  | unbound : EndsAlike p source id id' (p, none) (p, none)
  | bound {o o' : TransformOutput} (directory : Path) (css : List Char) (alike : o.Echoes source id id' o') :
      EndsAlike p source id id' (p.bound id directory o.style css, some o) (p.bound id' directory o.style css, some o')

theorem isForeign_append_query (id query : List Char) : isForeign (id ++ '?' :: query) = isForeign id := by
  have starts : ∀ text, VirtualModule.idPrefix.isPrefixOf (text ++ '?' :: query)
      = VirtualModule.idPrefix.isPrefixOf text :=
    fun text => isPrefixOf_append_of_not_mem (by decide) text query
  unfold isForeign VirtualModule.isVirtual
  cases id with
  | nil => rfl
  | cons c id =>
    rw [List.cons_append, VirtualModule.withoutMark, VirtualModule.withoutMark]
    by_cases marked : c = VirtualModule.resolvedMark
    · rw [if_pos marked, if_pos marked, starts]
      rfl
    · rw [if_neg marked, if_neg marked, ← List.cons_append, starts]
      rfl

variable {id id' : List Char}

theorem echoes_listing (p : Plugin) (tree : FileTree) (directory : Path) :
    (p.listing tree id directory).Echoes id id' Eq (p.listing tree id' directory) := by
  unfold listing
  split
  · exact .same _
  · split
    · exact .same _
    · exact .bind (.debug (.of_eq (name ++ ": no directory for ") "" (by simp) (by simp))) fun _ _ _ => .pure rfl
    · exact .bind (.debug (.of_eq (name ++ ": no directory for ") "" (by simp) (by simp))) fun _ _ _ => .pure rfl
    · exact .same _

theorem echoes_warnings (candidates : List Style.Candidate) :
    List.Forall₂ (CompanionStyles.Echoes id id') (warnings id candidates) (warnings id' candidates) := by
  rcases candidates with _ | ⟨first, _ | ⟨second, rest⟩⟩
  · exact .nil
  · exact .nil
  · refine .cons (.of_eq "Multiple style files match " (": " ++ ", ".intercalate ((first :: second :: rest).map
      fun c => c.path.lossy) ++ ". Using " ++ first.path.lossy) ?_ ?_) .nil
    all_goals simp only [String.append_assoc]

theorem echoes_pick (candidates : List Style.Candidate) :
    (pick id candidates).Echoes id id' Eq (pick id' candidates) := by
  unfold pick
  refine .bind (.write ?_) fun _ _ _ => ?_
  · refine List.forall₂_map_left_iff.mpr (List.forall₂_map_right_iff.mpr ?_)
    exact (echoes_warnings candidates).imp fun _ _ alike => ⟨rfl, alike⟩
  · cases candidates with
    | nil =>
      exact .bind (.debug (.of_eq (name ++ ": no style file for ") "" (by simp) (by simp))) fun _ _ _ => .pure rfl
    | cons first others => exact .pure rfl

theorem echoes_rewritten (source : List Char) (plain : '?' ∉ id) (query : List Char) (manifest : Manifest)
    (styleId : List Char) :
    (rewritten source id manifest styleId).Echoes id (id ++ '?' :: query)
      (fun output output' => output'.code = output.code ∧ ∃ mappings,
        output.map = String.ofList (SourceMap.toJson id source mappings)
          ∧ output'.map = String.ofList (SourceMap.toJson (id ++ '?' :: query) source mappings))
      (rewritten source (id ++ '?' :: query) manifest styleId) := by
  obtain ⟨patch?, original, output, output', log⟩ :=
    Component.rewrite_append_query source plain query manifest styleId
  unfold rewritten
  refine .bind (.write log) fun _ _ _ => ?_
  rw [output, output']
  cases patch? with
  | none => exact .fail (.component "invalid syntax")
  | some patch =>
    rw [Option.map_some, Option.map_some, Patch.finish?, Patch.finish?]
    cases patch.text? with
    | none => exact .fail (.component "invalid syntax")
    | some text =>
      refine .pure ⟨rfl, patch.mappings, ?_, ?_⟩
      all_goals rw [original patch rfl, String.toList_ofList]

theorem echoes_bind (p : Plugin) (tree : FileTree) (source : List Char) (plain : '?' ∉ id) (query : List Char)
    (directory : Path) (candidates : List Style.Candidate) :
    (p.bind tree source id directory candidates).Echoes id (id ++ '?' :: query)
      (EndsAlike p source id (id ++ '?' :: query))
      (p.bind tree source (id ++ '?' :: query) directory candidates) := by
  unfold bind
  refine .bind (echoes_pick candidates) fun picked _ same => ?_
  subst same
  cases picked with
  | none => exact .pure .unbound
  | some candidate =>
    refine .bind_same (p.styleOf tree candidate) fun style => ?_
    refine .bind (echoes_rewritten source plain query style.manifest _) fun output output' alike => ?_
    refine .bind (.debug (.of_eq (name ++ ": ") (" -> " ++ candidate.path.lossy ++ " ("
      ++ (if candidate.isModule then "module" else "plain") ++ ")") ?_ ?_)) fun _ _ _ => ?_
    · simp only [boundText, String.append_assoc]
    · simp only [boundText, String.append_assoc]
    · have outputs : TransformOutput.Echoes source id (id ++ '?' :: query)
          ⟨output.code, output.map, candidate.path, warnings id candidates⟩
          ⟨output'.code, output'.map, candidate.path, warnings (id ++ '?' :: query) candidates⟩ :=
        ⟨alike.1, rfl, echoes_warnings candidates, alike.2⟩
      have ends := EndsAlike.bound (p := p) directory style.css outputs
      exact .pure ends

theorem echoes_transform (p : Plugin) (tree : FileTree) (source : List Char) (plain : '?' ∉ id) (query : List Char) :
    (p.transform tree source id).Echoes id (id ++ '?' :: query) (EndsAlike p source id (id ++ '?' :: query))
      (p.transform tree source (id ++ '?' :: query)) := by
  unfold transform
  rw [isForeign_append_query, modulePath_append_query plain, modulePath_of_plain plain]
  by_cases foreign : isForeign id = true
  · rw [if_pos foreign, if_pos foreign]
    exact .pure .unbound
  · rw [if_neg foreign, if_neg foreign]
    refine .bind_same _ fun accepted => ?_
    split
    · rename_i directory _
      refine .bind (echoes_listing p tree directory) fun listed _ same => ?_
      subst same
      cases listed with
      | none => exact .pure .unbound
      | some paths => exact .bind_same _ fun candidates => echoes_bind p tree source plain query directory candidates
    · exact .pure .unbound

/-- Nothing is tracked in a build. -/
theorem tracker_after_of_not_dev {p : Plugin} (build : p.isDev = false) (action : Action) :
    (p.after action).tracker = p.tracker := by
  have notDev : ¬p.isDev = true := ne_true_of_eq_false build
  cases action with
  | configure config => rw [after_configure]
  | transform tree code id =>
    rw [after_transform]
    split
    · exact if_neg notDev
    · rfl
  | watch e =>
    unfold after watch
    dsimp only
    rw [if_neg notDev]
    rfl

theorem tracker_run_of_not_dev {p : Plugin} (actions : List Action) (build : (p.run actions).isDev = false) :
    (p.run actions).tracker = p.tracker := by
  induction actions generalizing p with
  | nil => rfl
  | cons action actions ih =>
    -- once components are worked on, they are for the rest of the run
    have before : p.isDev = false := by
      by_contra dev
      have dev := isDev_run (Bool.of_not_eq_false dev) (action :: actions)
      exact absurd (dev.symm.trans build) (by simp)
    rw [run_cons] at build ⊢
    rw [ih build, tracker_after_of_not_dev before]

/-- At every point of a run, the tracker forgets with a removed component every id that names it. -/
theorem Built.forgets {o : Options} {first : Plugin} (built : Built o first) (actions : List Action)
    {e : WatchEvent} {id : List Char} (removed : e.Removes id) (path : Path) :
    id ∉ ((first.run actions).after (.watch e)).tracker.componentsInDirectory path
      ∧ id ∉ ((first.run actions).after (.watch e)).tracker.componentsForStyle path := by
  by_cases dev : (first.run actions).isDev = true
  · rw [after_watch dev, Tracker.mem_componentsInDirectory_after_iff, Tracker.mem_componentsForStyle_after]
    exact ⟨fun kept => kept.1 (.inl removed), fun kept => kept.1 (.inl removed)⟩
  · have build : (first.run actions).isDev = false := (Bool.not_eq_true _).mp dev
    rw [tracker_after_of_not_dev build, tracker_run_of_not_dev actions build, built.tracker]
    exact ⟨List.not_mem_nil, List.not_mem_nil⟩

/-- A query changes only names. At every point of a run, over every tree of files, a module is transformed with a
query as it is without: neither is bound, or both fail for the same reason, or both are bound to one style, with the
same code, as many warnings, and the same text under the same path. The messages, the source of the map and what is
recorded tell of the id with the query instead of the one without. If the component is removed, the tracker
knows neither of them. -/
theorem transform_query {o : Options} {first : Plugin} (built : Built o first) (actions : List Action)
    (tree : FileTree) (source : List Char) {id : List Char} (plain : '?' ∉ id) (query : List Char) :
    ((first.run actions).transform tree source id).Echoes id (id ++ '?' :: query)
      (EndsAlike (first.run actions) source id (id ++ '?' :: query))
      ((first.run actions).transform tree source (id ++ '?' :: query))
    ∧ ∀ e : WatchEvent, e.kind = .unlink → e.component = id → ∀ other ∈ [id, id ++ '?' :: query], ∀ path,
      other ∉ ((first.run actions).after (.watch e)).tracker.componentsInDirectory path
        ∧ other ∉ ((first.run actions).after (.watch e)).tracker.componentsForStyle path := by
  refine ⟨echoes_transform _ tree source plain query, fun e unlinked component other among path => ?_⟩
  refine built.forgets actions ⟨unlinked, ?_⟩ path
  rw [component]
  rcases List.mem_pair.mp among with rfl | rfl
  · exact modulePath_of_plain plain
  · exact modulePath_append_query plain query

/-- If two transforms end alike and the first gives an output, so does the second. -/
theorem exists_answer {p : Plugin} {tree : FileTree} {source : List Char} {out : TransformOutput}
    (alike : (p.transform tree source id).Echoes id id' (EndsAlike p source id id') (p.transform tree source id'))
    (answered : p.answer tree ⟨source, id⟩ = .ok (some out)) :
    ∃ out', p.answer tree ⟨source, id'⟩ = .ok (some out') ∧ out.Echoes source id id' out' := by
  obtain ⟨_, _, result⟩ := alike
  unfold answer at answered ⊢
  dsimp only at answered ⊢
  generalize (p.transform tree source id).result = ends at answered result
  generalize (p.transform tree source id').result = ends' at result ⊢
  cases result with
  | error _ => exact nomatch answered
  | ok alike =>
    cases alike with
    | unbound => exact nomatch answered
    | bound directory css alike =>
      obtain rfl := Option.some.inj (Except.ok.inj answered)
      exact ⟨_, rfl, alike⟩

/-- The component with a query that looks like another path, with a query and an extension of its own. -/
def misleadingId : List Char :=
  cardCall.id ++ '?' :: "v=1?x/y.css".toList

theorem transform_query_misleading :
    ∃ (p : Plugin) (out out' : TransformOutput), Built (.ofSettings .default) p
      ∧ (p.run [.configure ⟨true, none⟩]).answer oldStyleTree cardCall = .ok (some out)
      ∧ (p.run [.configure ⟨true, none⟩]).answer oldStyleTree ⟨cardCall.code, misleadingId⟩ = .ok (some out')
      ∧ out.style = .ofText "s/Card.scss".toList ∧ out.Echoes cardCall.code cardCall.id misleadingId out'
      ∧ misleadingId ∉ (((p.run [.configure ⟨true, none⟩,
        .transform oldStyleTree cardCall.code misleadingId]).after
          (.watch ⟨.unlink, .ofText cardCall.id⟩)).tracker.componentsForStyle (.ofText "s/Card.scss".toList)) := by
  obtain ⟨p, p₀, out, _, created, configured, _, _, answered, style, _⟩ := exists_rebound
  have built : Built (.ofSettings .default) p := .create created
  have taken : p.run [.configure ⟨true, none⟩] = p₀ := by
    rw [run_cons, after, configured]
    rfl
  rw [← taken] at answered
  have plain : '?' ∉ cardCall.id := by decide
  have alike := (transform_query built [.configure ⟨true, none⟩] oldStyleTree cardCall.code plain
    "v=1?x/y.css".toList).1
  obtain ⟨out', answered', same⟩ := exists_answer alike answered
  refine ⟨p, out, out', built, answered, answered', style, same, ?_⟩
  have forgotten := (transform_query built [.configure ⟨true, none⟩,
    .transform oldStyleTree cardCall.code misleadingId] oldStyleTree cardCall.code plain
    "v=1?x/y.css".toList).2 ⟨.unlink, .ofText cardCall.id⟩ rfl (Utf8.decodeLossy_encode _)
  exact (forgotten misleadingId (List.mem_cons_of_mem _ List.mem_cons_self) _).2

end Plugin

end CompanionStyles
