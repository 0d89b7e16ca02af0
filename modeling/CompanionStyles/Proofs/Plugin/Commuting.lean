import CompanionStyles.Proofs.Plugin.Runs

/-!
Transforms in any order. What a transform answers does not depend on the transforms before it. What is
served under a path does, if styles with other texts were bound under the same path: a style and the
module of the same name share one.
-/

namespace CompanionStyles

namespace Plugin

def actions (tree : FileTree) (calls : List TransformCall) : List Action :=
  calls.map fun c => .transform tree c.code c.id

/-- The answers of transforms one after the other. -/
def answers (p : Plugin) (tree : FileTree) : List TransformCall → List (Except Failure (Option TransformOutput))
  | [] => []
  | c :: calls => p.answer tree c :: (p.after (.transform tree c.code c.id)).answers tree calls

theorem Alike.cssOf {p q : Plugin} (alike : p.Alike q) (key : List Char) (tree : FileTree)
    (code id : List Char) :
    p.cssOf key (.transform tree code id) = q.cssOf key (.transform tree code id) := by
  have same : p.bindingOf (.transform tree code id) = q.bindingOf (.transform tree code id) := by
    unfold bindingOf
    dsimp only
    rw [alike.binding]
  unfold Plugin.cssOf
  rw [same]

theorem answers_eq (p : Plugin) (tree : FileTree) (calls : List TransformCall) :
    p.answers tree calls = calls.map (p.answer tree) := by
  have each : ∀ (q : Plugin), q.Alike p → q.answers tree calls = calls.map (p.answer tree) := by
    induction calls with
    | nil => intro q _; rfl
    | cons c calls ih =>
      intro q alike
      rw [answers, List.map_cons, alike.answer, ih _ ((alike_after_transform q tree _ _).trans alike)]
  exact each p (.refl p)

/-- The last of several transforms that binds a style under a path counts. -/
theorem lastCss_actions (p : Plugin) (tree : FileTree) (key : List Char) (calls : List TransformCall) :
    p.lastCss key (actions tree calls) =
      calls.reverse.findSome? fun c => p.cssOf key (.transform tree c.code c.id) := by
  have each : ∀ (q : Plugin), q.Alike p → q.lastCss key (actions tree calls) =
      calls.reverse.findSome? fun c => p.cssOf key (.transform tree c.code c.id) := by
    induction calls with
    | nil => intro q _; rfl
    | cons c calls ih =>
      intro q alike
      have later := ih _ ((alike_after_transform q tree c.code c.id).trans alike)
      rw [List.reverse_cons, List.findSome?_append, ← later, List.findSome?_singleton, ← alike.cssOf]
      rfl
  exact each p (.refl p)

/-- If all values that are found are equal, it does not matter which one is found first. -/
theorem findSome?_of_agree {α β : Type} {f : α → Option β} {first second : List α}
    (agree : ∀ a ∈ first, ∀ b ∈ first, ∀ x y, f a = some x → f b = some y → x = y)
    (same : ∀ a, a ∈ first ↔ a ∈ second) : first.findSome? f = second.findSome? f := by
  cases found : second.findSome? f with
  | none =>
    rw [List.findSome?_eq_none_iff] at found ⊢
    exact fun a member => found a ((same a).mp member)
  | some y =>
    obtain ⟨b, member, value⟩ := List.exists_of_findSome?_eq_some found
    cases found' : first.findSome? f with
    | none =>
      rw [List.findSome?_eq_none_iff] at found'
      rw [found' b ((same b).mpr member)] at value
      exact absurd value (by simp)
    | some x =>
      obtain ⟨a, member', value'⟩ := List.exists_of_findSome?_eq_some found'
      rw [agree a member' b ((same b).mpr member) x y value' value]

theorem load_unnamed (p : Plugin) {id : List Char} (names : VirtualModule.Names id []) :
    p.load id = .error (.moduleNotFound id) := by
  rw [load, if_pos names.isVirtual, Registry.resolveContent, names.decodeId_nil]
  rfl

theorem load_missing {p : Plugin} {id key : List Char} (names : VirtualModule.Names id key)
    (named : key ≠ []) (absent : p.registry.get? key = none) :
    p.load id = .error (.moduleNotFound key) := by
  rw [load, if_pos names.isVirtual, Registry.resolveContent, names.decodeId named]
  simp only [absent]
  rfl

/-- A load of an id of a path tells what is registered for the path, and nothing else. -/
theorem load_eq_iff {p q : Plugin} {id key : List Char} (names : VirtualModule.Names id key)
    (named : key ≠ []) : p.load id = q.load id ↔ p.registry.get? key = q.registry.get? key := by
  constructor
  · intro same
    cases left : p.registry.get? key with
    | none =>
      cases right : q.registry.get? key with
      | none => rfl
      | some css =>
        rw [load_missing names named left, load_names names named right] at same
        exact absurd same (by simp)
    | some css =>
      cases right : q.registry.get? key with
      | none =>
        rw [load_names names named left, load_missing names named right] at same
        exact absurd same (by simp)
      | some css' =>
        rw [load_names names named left, load_names names named right] at same
        exact Except.ok.inj same
  · intro same
    cases left : p.registry.get? key with
    | none => rw [load_missing names named left, load_missing names named (same.symm.trans left)]
    | some css => rw [load_names names named left, load_names names named (same.symm.trans left)]

/-- After transforms, a path has the text that the last of them has bound under it. -/
theorem run_actions_get? (p : Plugin) (tree : FileTree) (calls : List TransformCall) (key : List Char) :
    (p.run (actions tree calls)).registry.get? key =
      (calls.reverse.findSome? fun c => p.cssOf key (.transform tree c.code c.id)).or
        (p.registry.get? key) := by
  rw [run_get?, lastCss_actions]

theorem run_actions_last {p : Plugin} {tree : FileTree} {c : TransformCall} {key css : List Char}
    (bound : p.cssOf key (.transform tree c.code c.id) = some css) (calls : List TransformCall) :
    (p.run (actions tree (calls ++ [c]))).registry.get? key = some css := by
  rw [run_actions_get?, List.reverse_append, List.findSome?_append, List.reverse_singleton,
    List.findSome?_singleton, bound]
  rfl

/-- A call can be the last one, and then its style is served. -/
theorem exists_order_last (p : Plugin) (tree : FileTree) {calls : List TransformCall} {c : TransformCall}
    (member : c ∈ calls) {key css : List Char}
    (bound : p.cssOf key (.transform tree c.code c.id) = some css) :
    ∃ order, order.Perm calls ∧ (p.run (actions tree order)).registry.get? key = some css := by
  obtain ⟨before, after, rfl⟩ := List.append_of_mem member
  refine ⟨before ++ after ++ [c], ?_, ?_⟩
  · rw [List.append_assoc]
    exact List.Perm.append_left before (List.perm_append_singleton c after)
  · exact run_actions_last bound (before ++ after)

theorem cssOf_eq_some_iff {p : Plugin} {tree : FileTree} {code id key css : List Char} :
    p.cssOf key (.transform tree code id) = some css ↔
      ∃ b, p.binding tree code id = .ok (some b) ∧ b.key = key ∧ b.style.css = css := by
  unfold cssOf bindingOf
  dsimp only
  cases p.binding tree code id with
  | error failure => simp
  | ok bound =>
    cases bound with
    | none => simp
    | some b => simp

theorem style_eq_of_candidate_eq {p : Plugin} {tree : FileTree} {a b : TransformCall} {first second : Binding}
    (left : p.binding tree a.code a.id = .ok (some first))
    (right : p.binding tree b.code b.id = .ok (some second))
    (same : first.candidate = second.candidate) : first.style = second.style := by
  obtain ⟨_, _, left⟩ := binding_eq_some left
  obtain ⟨_, _, right⟩ := binding_eq_some right
  have read := (bindingTo_eq_some left).2.2.1
  rw [same, (bindingTo_eq_some right).2.2.1] at read
  exact (Except.ok.inj read).symm

/-- An action that binds no style under a path leaves what is served under it. -/
theorem load_after_other (p : Plugin) (action : Action) {id key : List Char}
    (names : VirtualModule.Names id key)
    (other : ∀ b, p.bindingOf action = some b → b.key ≠ key) : (p.after action).load id = p.load id := by
  by_cases named : key = []
  · subst named
    rw [load_unnamed _ names, load_unnamed _ names]
  · rw [load_eq_iff names named, after_get?]
    have none : p.cssOf key action = none := by
      unfold cssOf
      split
      · rename_i b found
        exact if_neg (other b found)
      · rfl
    rw [none]
    rfl

/-- In every order, each of several transforms gives the answer that it gives alone. What is served under
a path is the same after all orders exactly if all styles that the transforms bind under it have one
text, as they do if they are one style; a transform that binds nothing under a path leaves what is served
under it. -/
theorem transforms_commute (p : Plugin) (tree : FileTree) (calls : List TransformCall) :
    (∀ order : List TransformCall, order.Perm calls →
      p.answers tree order = order.map (p.answer tree))
    ∧ (∀ key id, VirtualModule.Names id key →
      ((∀ first second : List TransformCall, first.Perm calls → second.Perm calls →
          (p.run (actions tree first)).load id = (p.run (actions tree second)).load id)
        ↔ key = [] ∨ ∀ a ∈ calls, ∀ b ∈ calls, ∀ x y,
          p.binding tree a.code a.id = .ok (some x) → p.binding tree b.code b.id = .ok (some y) →
          x.key = key → y.key = key → x.style.css = y.style.css))
    ∧ (∀ a ∈ calls, ∀ b ∈ calls, ∀ x y,
      p.binding tree a.code a.id = .ok (some x) → p.binding tree b.code b.id = .ok (some y) →
      x.candidate = y.candidate → x.style = y.style)
    ∧ ∀ (q : Plugin) (c : TransformCall) (key id : List Char), VirtualModule.Names id key →
      (∀ b, q.binding tree c.code c.id = .ok (some b) → b.key ≠ key) →
      (q.after (.transform tree c.code c.id)).load id = q.load id := by
  refine ⟨fun order _ => p.answers_eq tree order, ?_, ?_, ?_⟩
  · intro key id names
    by_cases named : key = []
    · subst named
      simp [load_unnamed _ names]
    · simp only [load_eq_iff names named, named, false_or]
      constructor
      · intro same a inA b inB x y left right xKey yKey
        obtain ⟨first, perm, served⟩ :=
          p.exists_order_last tree inA (cssOf_eq_some_iff.mpr ⟨x, left, xKey, rfl⟩)
        obtain ⟨second, perm', served'⟩ :=
          p.exists_order_last tree inB (cssOf_eq_some_iff.mpr ⟨y, right, yKey, rfl⟩)
        have equal := same first second perm perm'
        rw [served, served'] at equal
        exact Option.some.inj equal
      · intro agree first second perm perm'
        rw [run_actions_get?, run_actions_get?]
        congr 1
        refine findSome?_of_agree ?_ ?_
        · intro a inA b inB css css' left right
          obtain ⟨x, leftBound, xKey, rfl⟩ := cssOf_eq_some_iff.mp left
          obtain ⟨y, rightBound, yKey, rfl⟩ := cssOf_eq_some_iff.mp right
          exact agree a (perm.mem_iff.mp (List.mem_reverse.mp inA)) b
            (perm.mem_iff.mp (List.mem_reverse.mp inB)) x y leftBound rightBound xKey yKey
        · intro c
          rw [List.mem_reverse, List.mem_reverse, perm.mem_iff, perm'.mem_iff]
  · intro a _ b _ x y left right same
    exact style_eq_of_candidate_eq left right same
  · intro q c key id names other
    refine q.load_after_other _ names ?_
    intro b found
    refine other b ?_
    unfold bindingOf at found
    dsimp only at found
    split at found
    · rename_i bound here
      rw [here, found]
    · exact absurd found (by simp)

/-- A style and a module of one name. -/
def twinTree : FileTree :=
  (FileTree.empty.writeFile (.ofText "s/Card.css".toList) (Utf8.encode ".x".toList)).writeFile
    (.ofText "s/Card.module.css".toList) []

/-- Options by which a component has the style that is called like it. -/
def twinOptions : Options :=
  { Options.ofSettings .default with
    styleResolver := some fun query =>
      some (.classify (.ofText ("s/".toList ++ query.componentName ++ ".css".toList)) false) }

def twinCall : TransformCall :=
  ⟨"f()".toList, "s/Card.tsx".toList⟩

def twinModuleCall : TransformCall :=
  ⟨"g()".toList, "s/Card.module.tsx".toList⟩

/-- A style and a module of one name are served under one path: once the other component has been bound,
a component does not get the text of its style any more by the id that it imports. -/
theorem transforms_clash :
    ∃ (p : Plugin) (b c : Binding), (create twinOptions).result = .ok p
      ∧ twinCall.id ≠ twinModuleCall.id
      ∧ p.binding twinTree twinCall.code twinCall.id = .ok (some b)
      ∧ p.binding twinTree twinModuleCall.code twinModuleCall.id = .ok (some c)
      ∧ b.candidate.path ≠ c.candidate.path
      ∧ (p.run (actions twinTree [twinCall])).load b.styleId = .ok (some b.style.css)
      ∧ (p.run (actions twinTree [twinCall, twinModuleCall])).load b.styleId ≠ .ok (some b.style.css)
      ∧ (p.run (actions twinTree [twinModuleCall, twinCall])).load b.styleId
        = .ok (some b.style.css) := by
  have ends : Traced.passes (fun p => Traced.passes (fun first => first.any fun b =>
        Traced.passes (fun second => second.any fun c => decide (b.candidate.path ≠ c.candidate.path
          ∧ b.key = c.key ∧ b.key ≠ [] ∧ b.style.css ≠ c.style.css))
        (p.binding twinTree twinModuleCall.code twinModuleCall.id))
      (p.binding twinTree twinCall.code twinCall.id)) (create twinOptions).result = true := by
    decide +kernel
  obtain ⟨p, created, ends⟩ := Traced.passes_iff.mp ends
  obtain ⟨_, first, ends⟩ := Traced.passes_iff.mp ends
  obtain ⟨b, rfl, ends⟩ := (Option.any_eq_true _ _).mp ends
  obtain ⟨_, second, ends⟩ := Traced.passes_iff.mp ends
  obtain ⟨c, rfl, ends⟩ := (Option.any_eq_true _ _).mp ends
  obtain ⟨paths, keys, named, texts⟩ := of_decide_eq_true ends
  have names : VirtualModule.Names b.styleId b.key := ⟨some b.style.css, Or.inl rfl⟩
  have own := cssOf_eq_some_iff.mpr ⟨b, first, rfl, rfl⟩
  have other := cssOf_eq_some_iff.mpr ⟨c, second, keys.symm, rfl⟩
  refine ⟨p, b, c, created, by decide +kernel, first, second, paths, ?_, ?_, ?_⟩
  · exact load_names names named (run_actions_last own [])
  · have clobbered : (p.run (actions twinTree [twinCall, twinModuleCall])).load b.styleId =
        .ok (some c.style.css) :=
      load_names names named (run_actions_last other [twinCall])
    rw [clobbered]
    intro same
    exact texts (Option.some.inj (Except.ok.inj same)).symm
  · exact load_names names named (run_actions_last own [twinModuleCall])

end Plugin

end CompanionStyles
