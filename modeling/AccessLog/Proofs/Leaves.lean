import AccessLog.Proofs.Showable

/-!
# Nested values are shown by their leaves

The leaves of a value are what its lists and tuples hold, at any depth, and are neither lists
nor tuples. They alone decide whether a property is shown: one leaf that cannot be shown hides
the value, and one integer with too many digits makes it fail (`Property.render_leaves`). Where
the value holds no empty list or tuple, its text is the texts of the leaves, separated by
commas, so nothing of the nesting can be seen. An empty list inside another value does show, by
a comma.
-/

namespace AccessLog

/-! ## Leaves -/

namespace Value

/-- What a list or a tuple holds. -/
def items? : Value → Option (List Value)
  | .list vs => some vs
  | .tuple vs => some vs
  | _ => none

mutual

/-- Lists and tuples are trees; these are their leaves, from left to right. -/
def leaves : Value → List Value
  | .list vs => allLeaves vs
  | .tuple vs => allLeaves vs
  | v => [v]

def allLeaves : List Value → List Value
  | [] => []
  | v :: vs => leaves v ++ allLeaves vs

end

theorem allLeaves_eq_flatMap (vs : List Value) : allLeaves vs = vs.flatMap leaves := by
  induction vs with
  | nil => rfl
  | cons v vs ih => rw [allLeaves, ih, List.flatMap_cons]

section Items

variable {v : Value} {vs : List Value}

theorem leaves_of_items (h : v.items? = some vs) : v.leaves = vs.flatMap leaves := by
  cases v <;> cases h <;> exact allLeaves_eq_flatMap vs

theorem mem_leaves_iff (h : v.items? = some vs) {leaf : Value} :
    leaf ∈ v.leaves ↔ ∃ w ∈ vs, leaf ∈ w.leaves := by
  rw [leaves_of_items h, List.mem_flatMap]

theorem leaves_of_leaf (h : v.items? = none) : v.leaves = [v] := by
  cases v <;> first | rfl | cases h

end Items

mutual

/-- What holds of every leaf, and of a list and a tuple when it holds of all its items, holds
of every value. -/
@[elab_as_elim]
theorem items_induction {motive : Value → Prop}
    (leaf : ∀ v : Value, v.items? = none → motive v)
    (sequence : ∀ (v : Value) (vs : List Value), v.items? = some vs →
      (∀ w ∈ vs, motive w) → motive v) : (v : Value) → motive v
  | .list vs => sequence _ vs rfl (items_induction_all leaf sequence vs)
  | .tuple vs => sequence _ vs rfl (items_induction_all leaf sequence vs)
  | .null => leaf _ rfl
  | .bool _ => leaf _ rfl
  | .int _ => leaf _ rfl
  | .float _ => leaf _ rfl
  | .text _ => leaf _ rfl
  | .bytes _ => leaf _ rfl
  | .buffer _ => leaf _ rfl
  | .table _ => leaf _ rfl
  | .object _ => leaf _ rfl

theorem items_induction_all {motive : Value → Prop}
    (leaf : ∀ v : Value, v.items? = none → motive v)
    (sequence : ∀ (v : Value) (vs : List Value), v.items? = some vs →
      (∀ w ∈ vs, motive w) → motive v) : (vs : List Value) → ∀ w ∈ vs, motive w
  | [] => fun _ hw => absurd hw List.not_mem_nil
  | v :: vs => List.forall_mem_cons.mpr
      ⟨items_induction leaf sequence v, items_induction_all leaf sequence vs⟩

end

/-- No list or tuple in the value is empty, the value itself included. -/
inductive IsFilled : Value → Prop
  | leaf {v : Value} (h : v.items? = none) : IsFilled v
  | sequence {v : Value} {vs : List Value} (h : v.items? = some vs) (hne : vs ≠ [])
      (hall : ∀ w ∈ vs, IsFilled w) : IsFilled v

/-- No list or tuple inside the value is empty; the value itself may be. -/
def HasFilledItems (v : Value) : Prop := ∀ vs, v.items? = some vs → ∀ w ∈ vs, w.IsFilled

/-- A value without empty parts has a leaf. -/
theorem IsFilled.leaves_ne_nil {v : Value} (h : v.IsFilled) : v.leaves ≠ [] := by
  induction h with
  | leaf h =>
      rw [leaves_of_leaf h]
      exact List.cons_ne_nil _ _
  | sequence h hne hall ih =>
      rw [leaves_of_items h]
      obtain ⟨w, hw⟩ := List.exists_mem_of_ne_nil _ hne
      intro hnil
      exact ih w hw (List.flatMap_eq_nil_iff.mp hnil w hw)

theorem IsFilled.hasFilledItems {v : Value} (h : v.IsFilled) : v.HasFilledItems := by
  intro vs hvs
  cases h with
  | leaf h =>
      rw [h] at hvs
      cases hvs
  | sequence h hne hall =>
      rw [h] at hvs
      cases hvs
      exact hall

/-- The integer has more digits than are written out. -/
def IsOverlong (v : Value) : Prop :=
  ∃ n : Int, v = .int n ∧ ¬ n.natAbs < Nat.pow 10 Number.digitLimit

end Value

/-! ## Shown leaves -/

namespace Property

/-- The text that shows a leaf: bytes, texts and numbers have one, and a truth value is no
number. -/
def leafText? : Value → Option String
  | .bytes bs => some (Text.latin1 bs)
  | .text s => some s
  | .int n => some (Number.intText n)
  | .float x => some x.text
  | _ => none

theorem render_of_items {v : Value} {vs : List Value} (h : v.items? = some vs) :
    render v = (renderAll vs).map joinAll := by
  cases v <;> cases h <;> rw [render]

/-- A leaf that is not overlong is shown by its text, if it has one. -/
theorem render_of_leaf {v : Value} (h : v.items? = none) (hv : ¬ v.IsOverlong) :
    render v = .ok (leafText? v) := by
  cases v with
  | int n =>
      have hlt : n.natAbs < Nat.pow 10 Number.digitLimit :=
        Decidable.of_not_not fun hnot => hv ⟨n, rfl, hnot⟩
      rw [render, Value.intDisplay_of_lt hlt]
      rfl
  | list vs => cases h
  | tuple vs => cases h
  | _ => rfl

theorem render_of_isOverlong {v : Value} (h : v.IsOverlong) : render v = .error .malformed := by
  obtain ⟨n, rfl, hnot⟩ := h
  rw [render, Value.intDisplay_of_not_lt hnot]
  rfl

/-- The parts of items that do not fail, by what each of them shows. -/
theorem renderAll_eq_ok_of_forall {f : Value → Option String} :
    ∀ {vs : List Value}, (∀ w ∈ vs, render w = .ok (f w)) → renderAll vs = .ok (vs.map f)
  | [], _ => rfl
  | v :: vs, h => by
      obtain ⟨hv, hvs⟩ := List.forall_mem_cons.mp h
      rw [renderAll, hv, renderAll_eq_ok_of_forall hvs]
      rfl

/-- Items that do not fail have parts, and the part of an item that is hidden is missing. -/
theorem exists_renderAll_of_forall :
    ∀ {vs : List Value}, (∀ w ∈ vs, ∃ shown, render w = .ok shown) →
      ∃ parts, renderAll vs = .ok parts ∧ (none ∈ parts ↔ ∃ w ∈ vs, render w = .ok none)
  | [], _ => ⟨[], rfl, by simp⟩
  | v :: vs, h => by
      obtain ⟨⟨shown, hv⟩, hvs⟩ := List.forall_mem_cons.mp h
      obtain ⟨parts, hparts, hnone⟩ := exists_renderAll_of_forall hvs
      refine ⟨shown :: parts, ?_, ?_⟩
      · rw [renderAll, hv, hparts]
        rfl
      · simp only [List.mem_cons, exists_eq_or_imp, hv, hnone, Except.ok.injEq, @eq_comm _ none]

theorem exists_of_renderAll_eq_error {cause : Fault} :
    ∀ {vs : List Value}, renderAll vs = .error cause → ∃ w ∈ vs, render w = .error cause
  | [], h => by cases h
  | v :: vs, h => by
      cases hv : render v with
      | error c =>
          rw [renderAll, hv] at h
          cases h
          exact ⟨v, List.mem_cons_self .., hv⟩
      | ok shown =>
          cases hvs : renderAll vs with
          | error c =>
              rw [renderAll, hv, hvs] at h
              cases h
              obtain ⟨w, hw, hfailed⟩ := exists_of_renderAll_eq_error hvs
              exact ⟨w, List.mem_cons_of_mem _ hw, hfailed⟩
          | ok parts =>
              rw [renderAll, hv, hvs] at h
              cases h

/-- One item that fails is enough for all of them to fail. -/
theorem renderAll_ne_ok {w : Value} {cause : Fault} (hw : render w = .error cause) :
    ∀ {vs : List Value}, w ∈ vs → ∀ parts, renderAll vs ≠ .ok parts
  | v :: vs, hmem => by
      intro parts h
      obtain ⟨shown, hv, h⟩ := exists_of_bind_eq_ok h
      obtain ⟨rest, hvs, -⟩ := exists_of_bind_eq_ok h
      rcases List.mem_cons.mp hmem with rfl | hmem
      · rw [hw] at hv
        cases hv
      · exact renderAll_ne_ok hw hmem rest hvs

theorem joinAll_eq_none_iff {parts : List (Option String)} :
    joinAll parts = none ↔ none ∈ parts := by
  rw [joinAll]
  split
  · rename_i hall
    refine iff_of_false (fun h => by cases h) fun hnone => ?_
    exact absurd (List.all_eq_true.mp hall none hnone) Bool.false_ne_true
  · rename_i hall
    refine iff_of_true rfl ?_
    obtain ⟨part, hpart, hnone⟩ := List.all_eq_false.mp (Bool.eq_false_iff.mpr hall)
    cases part with
    | none => exact hpart
    | some s => exact absurd rfl hnone

/-- A value can only fail for a number that is too long. -/
theorem fault_of_render (v : Value) : ∀ {cause}, render v = .error cause → cause = .malformed := by
  induction v using Value.items_induction with
  | leaf v hv =>
      intro cause h
      by_cases hlong : v.IsOverlong
      · rw [render_of_isOverlong hlong] at h
        exact (Except.error.inj h).symm
      · rw [render_of_leaf hv hlong] at h
        cases h
  | sequence v vs hv ih =>
      intro cause h
      rw [render_of_items hv] at h
      cases hall : renderAll vs with
      | ok parts =>
          rw [hall] at h
          cases h
      | error c =>
          rw [hall] at h
          cases h
          obtain ⟨w, hw, hfailed⟩ := exists_of_renderAll_eq_error hall
          exact ih w hw hfailed

/-- An overlong leaf makes the value fail, whatever else is in it. -/
theorem render_of_overlong_leaf (v : Value) (h : ∃ leaf ∈ v.leaves, leaf.IsOverlong) :
    render v = .error .malformed := by
  induction v using Value.items_induction with
  | leaf v hv =>
      rw [Value.leaves_of_leaf hv] at h
      obtain ⟨leaf, hleaf, hlong⟩ := h
      obtain rfl := List.mem_singleton.mp hleaf
      exact render_of_isOverlong hlong
  | sequence v vs hv ih =>
      obtain ⟨leaf, hleaf, hlong⟩ := h
      obtain ⟨w, hw, hleaf⟩ := (Value.mem_leaves_iff hv).mp hleaf
      cases hrender : render v with
      | error cause => rw [fault_of_render v hrender]
      | ok shown =>
          rw [render_of_items hv] at hrender
          obtain ⟨parts, hparts, -⟩ := exists_of_map_eq_ok hrender
          exact absurd hparts (renderAll_ne_ok (ih w hw ⟨leaf, hleaf, hlong⟩) hw parts)

/-- Without an overlong leaf a value is shown, unless a leaf hides it. -/
theorem exists_render_of_leaves (v : Value) (h : ∀ leaf ∈ v.leaves, ¬ leaf.IsOverlong) :
    ∃ shown, render v = .ok shown ∧
      (shown = none ↔ ∃ leaf ∈ v.leaves, leafText? leaf = none) := by
  induction v using Value.items_induction with
  | leaf v hv =>
      rw [Value.leaves_of_leaf hv] at h ⊢
      exact ⟨leafText? v, render_of_leaf hv (h v (List.mem_singleton_self v)), by simp⟩
  | sequence v vs hv ih =>
      have hitems : ∀ w ∈ vs, ∃ shown, render w = .ok shown ∧
          (shown = none ↔ ∃ leaf ∈ w.leaves, leafText? leaf = none) := fun w hw =>
        ih w hw fun leaf hleaf => h leaf ((Value.mem_leaves_iff hv).mpr ⟨w, hw, hleaf⟩)
      obtain ⟨parts, hparts, hnone⟩ := exists_renderAll_of_forall fun w hw =>
        (hitems w hw).imp fun _ => And.left
      refine ⟨joinAll parts, by rw [render_of_items hv, hparts]; rfl, ?_⟩
      rw [joinAll_eq_none_iff, hnone]
      simp only [Value.mem_leaves_iff hv]
      constructor
      · rintro ⟨w, hw, hhidden⟩
        obtain ⟨shown, hshown, hiff⟩ := hitems w hw
        obtain rfl : shown = none := Except.ok.inj (hshown.symm.trans hhidden)
        obtain ⟨leaf, hleaf, htext⟩ := hiff.mp rfl
        exact ⟨leaf, ⟨w, hw, hleaf⟩, htext⟩
      · rintro ⟨leaf, ⟨w, hw, hleaf⟩, htext⟩
        obtain ⟨shown, hshown, hiff⟩ := hitems w hw
        obtain rfl := hiff.mpr ⟨leaf, hleaf, htext⟩
        exact ⟨w, hw, hshown⟩

/-- Whether a value fails, is hidden or is shown is told by its leaves. -/
theorem render_cases (v : Value) :
    ((∃ leaf ∈ v.leaves, leaf.IsOverlong) ∧ render v = .error .malformed) ∨
    ((∀ leaf ∈ v.leaves, ¬ leaf.IsOverlong) ∧ (∃ leaf ∈ v.leaves, leafText? leaf = none) ∧
      render v = .ok none) ∨
    ((∀ leaf ∈ v.leaves, ¬ leaf.IsOverlong ∧ leafText? leaf ≠ none) ∧
      ∃ shown, render v = .ok (some shown)) := by
  by_cases hlong : ∃ leaf ∈ v.leaves, leaf.IsOverlong
  · exact Or.inl ⟨hlong, render_of_overlong_leaf v hlong⟩
  · have hwritable : ∀ leaf ∈ v.leaves, ¬ leaf.IsOverlong := fun leaf hleaf hover =>
      hlong ⟨leaf, hleaf, hover⟩
    obtain ⟨shown, hshown, hhidden⟩ := exists_render_of_leaves v hwritable
    cases shown with
    | none => exact Or.inr (Or.inl ⟨hwritable, hhidden.mp rfl, hshown⟩)
    | some text =>
        refine Or.inr (Or.inr ⟨fun leaf hleaf => ⟨hwritable leaf hleaf, fun htext => ?_⟩,
          text, hshown⟩)
        exact Option.some_ne_none _ (hhidden.mpr ⟨leaf, hleaf, htext⟩)

section Iff

variable (v : Value)

theorem render_eq_error_iff {cause : Fault} :
    render v = .error cause ↔ cause = .malformed ∧ ∃ leaf ∈ v.leaves, leaf.IsOverlong := by
  rcases render_cases v with ⟨hlong, hrender⟩ | ⟨hwritable, -, hrender⟩ |
      ⟨hshown, shown, hrender⟩ <;> rw [hrender]
  · exact ⟨fun h => ⟨(Except.error.inj h).symm, hlong⟩, fun h => by rw [h.1]⟩
  · exact iff_of_false (fun h => by cases h) fun ⟨_, leaf, hleaf, hlong⟩ =>
      hwritable leaf hleaf hlong
  · exact iff_of_false (fun h => by cases h) fun ⟨_, leaf, hleaf, hlong⟩ =>
      (hshown leaf hleaf).1 hlong

theorem render_eq_none_iff :
    render v = .ok none ↔
      (∀ leaf ∈ v.leaves, ¬ leaf.IsOverlong) ∧ ∃ leaf ∈ v.leaves, leafText? leaf = none := by
  rcases render_cases v with ⟨⟨leaf, hleaf, hlong⟩, hrender⟩ | ⟨hwritable, hidden, hrender⟩ |
      ⟨hshown, shown, hrender⟩ <;> rw [hrender]
  · exact iff_of_false (fun h => by cases h) fun h => h.1 leaf hleaf hlong
  · exact iff_of_true rfl ⟨hwritable, hidden⟩
  · exact iff_of_false (fun h => by cases h) fun ⟨_, leaf, hleaf, hnone⟩ =>
      (hshown leaf hleaf).2 hnone

theorem exists_render_iff :
    (∃ shown, render v = .ok (some shown)) ↔
      ∀ leaf ∈ v.leaves, ¬ leaf.IsOverlong ∧ leafText? leaf ≠ none := by
  rcases render_cases v with ⟨⟨leaf, hleaf, hlong⟩, hrender⟩ | ⟨-, ⟨leaf, hleaf, hnone⟩, hrender⟩ |
      ⟨hshown, shown, hrender⟩ <;> rw [hrender]
  · exact iff_of_false (fun ⟨_, h⟩ => by cases h) fun h => (h leaf hleaf).1 hlong
  · exact iff_of_false (fun ⟨_, h⟩ => by cases h) fun h => (h leaf hleaf).2 hnone
  · exact iff_of_true ⟨shown, rfl⟩ hshown

end Iff

/-! ## Joined texts -/

/-- Parts that are joined by themselves first may as well be joined all at once, as long as
none of them is empty. -/
theorem intercalate_flatMap {α : Type} (separator : String) (f : α → List String) :
    ∀ {xs : List α}, (∀ x ∈ xs, f x ≠ []) →
      separator.intercalate (xs.map fun x => separator.intercalate (f x)) =
        separator.intercalate (xs.flatMap f)
  | [], _ => rfl
  | [x], _ => by simp
  | x :: y :: rest, h => by
      obtain ⟨hx, hrest⟩ := List.forall_mem_cons.mp h
      have hy : f y ≠ [] := hrest y (List.mem_cons_self ..)
      have hne : (y :: rest).flatMap f ≠ [] := by
        rw [List.flatMap_cons]
        exact List.append_ne_nil_of_left_ne_nil hy _
      rw [List.map_cons, List.flatMap_cons, String.intercalate_append_of_ne_nil hx hne,
        String.intercalate_cons_of_ne_nil (by simp), intercalate_flatMap separator f hrest]

theorem joinAll_map_some (texts : List String) :
    joinAll (texts.map some) = some (",".intercalate texts) := by
  simp [joinAll]

/-- The texts of all leaves, from left to right. -/
def leafTexts (v : Value) : List String := v.leaves.filterMap leafText?

theorem leafTexts_of_items {v : Value} {vs : List Value} (h : v.items? = some vs) :
    leafTexts v = vs.flatMap leafTexts := by
  rw [leafTexts, Value.leaves_of_items h, List.filterMap_flatMap]
  rfl

theorem leafTexts_ne_nil {v : Value} (h : v.IsFilled)
    (hshown : ∀ leaf ∈ v.leaves, ¬ leaf.IsOverlong ∧ leafText? leaf ≠ none) :
    leafTexts v ≠ [] := by
  obtain ⟨leaf, hleaf⟩ := List.exists_mem_of_ne_nil _ h.leaves_ne_nil
  obtain ⟨text, htext⟩ := Option.ne_none_iff_exists'.mp (hshown leaf hleaf).2
  exact List.ne_nil_of_mem (List.mem_filterMap.mpr ⟨leaf, hleaf, htext⟩)

/-- A value that can be shown is shown by the texts of its leaves, if its items are filled. -/
theorem render_of_hasFilledItems (v : Value) (h : v.HasFilledItems)
    (hshown : ∀ leaf ∈ v.leaves, ¬ leaf.IsOverlong ∧ leafText? leaf ≠ none) :
    render v = .ok (some (",".intercalate (leafTexts v))) := by
  induction v using Value.items_induction with
  | leaf v hv =>
      rw [Value.leaves_of_leaf hv] at hshown
      obtain ⟨hwritable, hne⟩ := hshown v (List.mem_singleton_self v)
      obtain ⟨text, htext⟩ := Option.ne_none_iff_exists'.mp hne
      rw [render_of_leaf hv hwritable, leafTexts, Value.leaves_of_leaf hv, htext]
      simp [htext]
  | sequence v vs hv ih =>
      have hitem : ∀ w ∈ vs, ∀ leaf ∈ w.leaves, ¬ leaf.IsOverlong ∧ leafText? leaf ≠ none :=
        fun w hw leaf hleaf => hshown leaf ((Value.mem_leaves_iff hv).mpr ⟨w, hw, hleaf⟩)
      have hitems : ∀ w ∈ vs, render w = .ok (some (",".intercalate (leafTexts w))) :=
        fun w hw => ih w hw (h vs hv w hw).hasFilledItems (hitem w hw)
      -- An item without texts would add a comma of its own.
      have hne : ∀ w ∈ vs, leafTexts w ≠ [] := fun w hw =>
        leafTexts_ne_nil (h vs hv w hw) (hitem w hw)
      rw [render_of_items hv, renderAll_eq_ok_of_forall hitems, leafTexts_of_items hv,
        ← intercalate_flatMap "," leafTexts hne, ← joinAll_map_some, List.map_map]
      rfl

/-- **Nested values.** Only a leaf that is an integer with too many digits makes a value fail.
Without one, the value is hidden when it has a leaf that is neither bytes nor a text nor a
number, and it is shown otherwise. Its text, if no list or tuple inside it is empty, is the
texts of its leaves from left to right, separated by commas; so two such values with the same
leaves are shown in the same way, however the leaves are nested. -/
theorem render_leaves (v : Value) :
    (∀ cause, render v = .error cause ↔
      cause = .malformed ∧ ∃ leaf ∈ v.leaves, leaf.IsOverlong) ∧
    (render v = .ok none ↔
      (∀ leaf ∈ v.leaves, ¬ leaf.IsOverlong) ∧ ∃ leaf ∈ v.leaves, leafText? leaf = none) ∧
    ((∃ shown, render v = .ok (some shown)) ↔
      ∀ leaf ∈ v.leaves, ¬ leaf.IsOverlong ∧ leafText? leaf ≠ none) ∧
    (v.HasFilledItems →
      (∀ shown, render v = .ok (some shown) → shown = ",".intercalate (leafTexts v)) ∧
      ∀ w : Value, w.HasFilledItems → w.leaves = v.leaves → render w = render v) := by
  refine ⟨fun cause => render_eq_error_iff v, render_eq_none_iff v, exists_render_iff v,
    fun hv => ⟨?joined, ?same⟩⟩
  case joined =>
    intro shown hshown
    have hleaves := (exists_render_iff v).mp ⟨shown, hshown⟩
    rw [render_of_hasFilledItems v hv hleaves] at hshown
    cases hshown
    rfl
  case same =>
    intro w hw hleaves
    rcases render_cases v with ⟨hlong, hfailed⟩ | ⟨hwritable, hidden, hnone⟩ | ⟨hshown, -⟩
    · rw [hfailed, render_eq_error_iff, hleaves]
      exact ⟨rfl, hlong⟩
    · rw [hnone, render_eq_none_iff, hleaves]
      exact ⟨hwritable, hidden⟩
    · have htexts : leafTexts w = leafTexts v := by rw [leafTexts, hleaves, leafTexts]
      rw [render_of_hasFilledItems v hv hshown, ← htexts]
      rw [← hleaves] at hshown
      exact render_of_hasFilledItems w hw hshown

/-- Three leaves, and the same leaves nested in another way. -/
def nestedValue : Value :=
  .list [.text "a", .tuple [.float (.infinite true), .list [.bytes [98]]]]

def regroupedValue : Value :=
  .tuple [.list [.text "a", .float (.infinite true)], .bytes [98]]

theorem isFilled_nestedValue : nestedValue.IsFilled := by
  refine .sequence rfl (List.cons_ne_nil _ _) (List.forall_mem_cons.mpr ⟨.leaf rfl, ?_⟩)
  refine List.forall_mem_singleton.mpr (.sequence rfl (List.cons_ne_nil _ _) ?_)
  refine List.forall_mem_cons.mpr ⟨.leaf rfl, List.forall_mem_singleton.mpr ?_⟩
  exact .sequence rfl (List.cons_ne_nil _ _) (List.forall_mem_singleton.mpr (.leaf rfl))

theorem isFilled_regroupedValue : regroupedValue.IsFilled := by
  refine .sequence rfl (List.cons_ne_nil _ _) (List.forall_mem_cons.mpr ⟨?_, ?_⟩)
  · exact .sequence rfl (List.cons_ne_nil _ _)
      (List.forall_mem_cons.mpr ⟨.leaf rfl, List.forall_mem_singleton.mpr (.leaf rfl)⟩)
  · exact List.forall_mem_singleton.mpr (.leaf rfl)

theorem render_leaves_regrouped :
    nestedValue.HasFilledItems ∧ regroupedValue.HasFilledItems ∧
      regroupedValue.leaves = nestedValue.leaves ∧
      (∃ shown, render nestedValue = .ok (some shown) ∧
        shown = ",".intercalate (leafTexts nestedValue)) ∧
      render regroupedValue = render nestedValue := by
  have hnested := isFilled_nestedValue.hasFilledItems
  have hregrouped := isFilled_regroupedValue.hasFilledItems
  have hleaves : regroupedValue.leaves = nestedValue.leaves := by decide
  obtain ⟨-, -, hshown, hfilled⟩ := render_leaves nestedValue
  obtain ⟨hjoined, hsame⟩ := hfilled hnested
  obtain ⟨shown, hrender⟩ : ∃ shown, render nestedValue = .ok (some shown) :=
    ⟨"a,-inf,b", rfl⟩
  exact ⟨hnested, hregrouped, hleaves, ⟨shown, hrender, hjoined shown hrender⟩,
    hsame regroupedValue hregrouped hleaves⟩

/-- An empty list inside another one leaves a comma behind. -/
example : render (.list [.text "a", .list []]) = .ok (some "a,") := rfl

/-- An integer of 4301 digits in a list. -/
def overlongItem : Value := .list [.int (Nat.pow 10 4300 : Nat)]

/-- All leaves of a value are integers, and still it is neither shown nor hidden. -/
theorem fails_of_overlong :
    overlongItem.HasFilledItems ∧ (∀ leaf ∈ overlongItem.leaves, ∃ n, leaf = .int n) ∧
      render overlongItem = .error .malformed := by
  refine ⟨?_, fun leaf hleaf => ⟨_, List.mem_singleton.mp hleaf⟩, ?_⟩
  · intro vs hvs
    cases hvs
    exact List.forall_mem_singleton.mpr (.leaf rfl)
  · exact render_of_overlong_leaf _ ⟨_, List.mem_singleton_self _, _, rfl, by decide +kernel⟩

end Property

end AccessLog
