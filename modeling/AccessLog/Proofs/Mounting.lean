import AccessLog.Exchange.Location

/-!
# Paths and the roots that they are mounted under

A gateway may hand over a path with its root or without it, and a mount moves a part of the
path to the root. The requested path is the same in all these cases, as long as the path
that is handed over cannot be mistaken for one that has the root in front already
(`requestedPath_mounted`). A path has its root in front when it does so segment by segment:
`/api` is in front of `/api/items`, and it is not in front of `/apiary`
(`isUnderRoot_iff_segments`).
-/

namespace AccessLog

/-! ## Segments -/

/-- What stands between the slashes of a path. -/
def pathSegments (path : String) : List (List Char) := path.toList.splitOn '/'

theorem pathSegments_append_slash (root rest : String) :
    pathSegments (root ++ "/" ++ rest) = pathSegments root ++ pathSegments rest := by
  have hpath : (root ++ "/" ++ rest).toList = root.toList ++ '/' :: rest.toList := by simp
  rw [pathSegments, hpath]
  exact List.splitOnP_append_cons _ _ rfl

/-- Two lists of segments that are joined have a separator where they meet. -/
theorem intercalate_append_cons (separator : Char) (last : List Char)
    (more : List (List Char)) : ∀ {segments : List (List Char)}, segments ≠ [] →
      [separator].intercalate (segments ++ last :: more) =
        [separator].intercalate segments ++ separator :: [separator].intercalate (last :: more)
  | [], h => absurd rfl h
  | [_], _ => by simp [List.intercalate_cons_cons]
  | segment :: next :: rest, _ => by
      have ih := intercalate_append_cons separator last more (List.cons_ne_nil next rest)
      rw [List.cons_append, List.cons_append, List.intercalate_cons_cons, ← List.cons_append, ih,
        List.intercalate_cons_cons]
      simp

theorem isUnderRoot_iff {root path : String} :
    isUnderRoot root path = true ↔ path = root ∨ (root ++ "/").toList <+: path.toList := by
  simp [isUnderRoot, List.isPrefixOf_iff_prefix]

/-- A path is under a root just when its segments begin with those of the root. -/
theorem isUnderRoot_iff_segments {root path : String} :
    isUnderRoot root path = true ↔ pathSegments root <+: pathSegments path := by
  rw [isUnderRoot_iff]
  constructor
  · rintro (rfl | ⟨rest, hrest⟩)
    · exact List.prefix_rfl
    · obtain rfl : root ++ "/" ++ String.ofList rest = path := by
        rw [← String.toList_inj]
        simpa using hrest
      rw [pathSegments_append_slash]
      exact List.prefix_append _ _
  · rintro ⟨more, hmore⟩
    have hjoined : ∀ s : String, ['/'].intercalate (pathSegments s) = s.toList :=
      fun s => List.intercalate_splitOn '/'
    have hne : ∀ s : String, pathSegments s ≠ [] := fun s => List.splitOn_ne_nil '/' s.toList
    cases more with
    | nil =>
        left
        rw [← String.toList_inj, ← hjoined, ← hjoined root, ← hmore, List.append_nil]
    | cons last more =>
        right
        refine ⟨['/'].intercalate (last :: more), ?_⟩
        rw [← hjoined path, ← hmore,
          intercalate_append_cons '/' last more (hne root), hjoined]
        simp

/-! ## Full paths -/

def StartsWithSlash (path : String) : Prop := ∃ rest, path = "/" ++ rest

/-- What may follow a root: nothing, or a path that starts with a slash. -/
def IsTail (path : String) : Prop := path = "" ∨ StartsWithSlash path

theorem StartsWithSlash.append {path : String} (h : StartsWithSlash path) (rest : String) :
    StartsWithSlash (path ++ rest) := by
  obtain ⟨inner, rfl⟩ := h
  exact ⟨inner ++ rest, String.append_assoc ..⟩

theorem isUnderRoot_append (root : String) {rest : String} (h : IsTail rest) :
    isUnderRoot root (root ++ rest) = true := by
  rw [isUnderRoot_iff]
  rcases h with rfl | ⟨inner, rfl⟩
  · simp
  · right
    exact ⟨inner.toList, by simp⟩

theorem append_ne_self {root : String} (hroot : root ≠ "") (path : String) : root ++ path ≠ path := by
  intro h
  have hnil : root.toList = [] := by
    rw [← String.toList_inj, String.toList_append] at h
    exact List.append_left_eq_self.mp h
  exact hroot (String.toList_eq_nil_iff.mp hnil)

section FullPath

variable {root path : String}

theorem fullPath_of_isUnderRoot (h : isUnderRoot root path = true) : fullPath root path = path := by
  simp [fullPath, h]

theorem fullPath_of_not_isUnderRoot (hroot : root ≠ "") (h : isUnderRoot root path = false) :
    fullPath root path = root ++ path := by
  simp [fullPath, hroot, h]

/-- Only a path that is under its root is kept. -/
theorem fullPath_eq_self_iff (hroot : root ≠ "") :
    fullPath root path = path ↔ isUnderRoot root path = true := by
  refine ⟨fun h => ?_, fullPath_of_isUnderRoot⟩
  cases hunder : isUnderRoot root path with
  | true => rfl
  | false =>
      rw [fullPath_of_not_isUnderRoot hroot hunder] at h
      exact absurd h (append_ne_self hroot path)

/-- Only a path that is not under its root gets the root in front. -/
theorem fullPath_eq_append_iff (hroot : root ≠ "") :
    fullPath root path = root ++ path ↔ ¬ isUnderRoot root path = true := by
  refine ⟨fun h hunder => ?_, fun h => fullPath_of_not_isUnderRoot hroot (Bool.eq_false_iff.mpr h)⟩
  rw [fullPath_of_isUnderRoot hunder] at h
  exact append_ne_self hroot path h.symm

/-- A path with its root in front is kept. -/
theorem fullPath_append (root : String) {rest : String} (h : IsTail rest) :
    fullPath root (root ++ rest) = root ++ rest :=
  fullPath_of_isUnderRoot (isUnderRoot_append root h)

theorem fullPath_fullPath (root : String) {path : String} (h : IsTail path) :
    fullPath root (fullPath root path) = fullPath root path := by
  by_cases hroot : root = ""
  · simp [fullPath, hroot]
  · cases hunder : isUnderRoot root path with
    | true => rw [fullPath_of_isUnderRoot hunder, fullPath_of_isUnderRoot hunder]
    | false => rw [fullPath_of_not_isUnderRoot hroot hunder, fullPath_append root h]

end FullPath

/-! ## Requested paths -/

/-- The scope hands over this path, and this root; what is missing is empty. -/
structure Table.Locates (scope : Table) (root path : String) : Prop where
  root : (scope.get "root_path").orElse (.text "") = .text root
  path : (scope.get "path").orElse (.text "") = .text path

/-- The path that the client of this scope asked for. -/
def Table.AsksFor (scope : Table) (path : String) : Prop := requestedPath scope = .ok (.text path)

theorem Table.Locates.asksFor_iff {scope : Table} {root path : String}
    (h : scope.Locates root path) (asked : String) :
    scope.AsksFor asked ↔ fullPath root path = asked := by
  rw [Table.AsksFor, requestedPath_of_texts h.path h.root]
  simp

/-- **Roots and mounts.** A path that is handed over is kept just when its segments begin
with those of the root, and gets the root in front otherwise; what comes of it is kept the
next time. A mount point may stand in the root, in the path or in both: the path that is
asked for has the root, the mount point and the rest once each, unless the path that is
handed over is under the root by itself. -/
theorem requestedPath_mounted (root : String) :
    (root ≠ "" → ∀ (scope : Table) (path : String), scope.Locates root path →
      (scope.AsksFor path ↔ pathSegments root <+: pathSegments path) ∧
      (¬ pathSegments root <+: pathSegments path → scope.AsksFor (root ++ path))) ∧
    (∀ (scope : Table) (path : String), scope.Locates root path → IsTail path →
      ∃ asked, scope.AsksFor asked ∧
        ∀ again : Table, again.Locates root asked → again.AsksFor asked) ∧
    ∀ mount rest, StartsWithSlash mount → IsTail rest →
      (∀ scope : Table, scope.Locates root (root ++ mount ++ rest) ∨
          scope.Locates (root ++ mount) (root ++ mount ++ rest) →
        scope.AsksFor (root ++ mount ++ rest)) ∧
      (∀ scope : Table, scope.Locates (root ++ mount) rest →
        (scope.AsksFor (root ++ mount ++ rest) ↔
          ¬ (rest = root ++ mount ∨ (root ++ mount ++ "/").toList <+: rest.toList))) ∧
      (root ≠ "" → ∀ scope : Table, scope.Locates root (mount ++ rest) →
        (scope.AsksFor (root ++ mount ++ rest) ↔
          ¬ (mount ++ rest = root ∨ (root ++ "/").toList <+: (mount ++ rest).toList))) := by
  refine ⟨?segments, ?again, fun mount rest hmount hrest => ⟨?kept, ?moved, ?mounted⟩⟩
  case segments =>
    intro hroot scope path hscope
    rw [hscope.asksFor_iff, hscope.asksFor_iff, fullPath_eq_self_iff hroot,
      ← isUnderRoot_iff_segments]
    exact ⟨Iff.rfl, (fullPath_eq_append_iff hroot).mpr⟩
  case again =>
    intro scope path hscope hpath
    refine ⟨fullPath root path, (hscope.asksFor_iff _).mpr rfl, fun again hagain => ?_⟩
    exact (hagain.asksFor_iff _).mpr (fullPath_fullPath root hpath)
  case kept =>
    rintro scope (hscope | hscope) <;> rw [hscope.asksFor_iff]
    · rw [String.append_assoc]
      exact fullPath_append root (Or.inr (hmount.append rest))
    · exact fullPath_append (root ++ mount) hrest
  case moved =>
    intro scope hscope
    have hne : root ++ mount ≠ "" := by
      obtain ⟨inner, rfl⟩ := hmount
      simp
    rw [hscope.asksFor_iff, fullPath_eq_append_iff hne, isUnderRoot_iff]
  case mounted =>
    intro hroot scope hscope
    rw [hscope.asksFor_iff, String.append_assoc, fullPath_eq_append_iff hroot, isUnderRoot_iff]

/-- A scope with a root and a path. -/
def rootedScope (root path : String) : Table :=
  [(.text "root_path", .text root), (.text "path", .text path)]

theorem locates_rootedScope (root path : String) : (rootedScope root path).Locates root path :=
  ⟨Value.orElse_text root, Value.orElse_text path⟩

theorem requestedPath_mounted_api :
    (¬ pathSegments "/api" <+: pathSegments "/apiary" ∧
      (rootedScope "/api" "/apiary").AsksFor ("/api" ++ "/apiary")) ∧
    (∃ asked, (rootedScope "/api" "/apiary").AsksFor asked ∧
      ∀ again : Table, again.Locates "/api" asked → again.AsksFor asked) ∧
    StartsWithSlash "/v1" ∧ IsTail "/items" ∧
    (rootedScope "/api" ("/api" ++ "/v1" ++ "/items")).AsksFor ("/api" ++ "/v1" ++ "/items") ∧
    (rootedScope ("/api" ++ "/v1") "/items").AsksFor ("/api" ++ "/v1" ++ "/items") ∧
    (rootedScope "/api" ("/v1" ++ "/items")).AsksFor ("/api" ++ "/v1" ++ "/items") := by
  obtain ⟨hsegments, hagain, hmounts⟩ := requestedPath_mounted "/api"
  have hmount : StartsWithSlash "/v1" := ⟨"v1", by decide⟩
  have hrest : IsTail "/items" := Or.inr ⟨"items", by decide⟩
  have hapart : ¬ pathSegments "/api" <+: pathSegments "/apiary" := by decide
  obtain ⟨hkept, hmoved, hmounted⟩ := hmounts "/v1" "/items" hmount hrest
  exact ⟨⟨hapart, (hsegments (by decide) _ _ (locates_rootedScope ..)).2 hapart⟩,
    hagain _ _ (locates_rootedScope ..) (Or.inr ⟨"apiary", by decide⟩), hmount, hrest,
    hkept _ (Or.inl (locates_rootedScope ..)),
    (hmoved _ (locates_rootedScope ..)).mpr (by decide),
    (hmounted (by decide) _ (locates_rootedScope ..)).mpr (by decide)⟩

end AccessLog
