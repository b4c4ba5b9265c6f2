import AccessLog.Options
import AccessLog.Proofs.Meaning

/-!
# What a configuration has to be

Arguments and settings are merged first, and an argument that is there counts whatever it is:
an empty format is no reason to fall back on the settings (`Merges`). What they come to has to
meet five requirements, each with a failure of its own. They are asked for in a fixed order, so
a requirement decides just when it is the first that is not met
(`build_of_isFirstUnmet`), and options come of a configuration that meets all of them
(`build_of_forall_isMet`).
-/

namespace AccessLog.Options

/-! ## Merging -/

/-- The value in force: an argument that is there, or else the standard value. -/
inductive InForce (standard : Value) : Value → Value → Prop
  | argument {v : Value} (h : v ≠ .null) : InForce standard v v
  | standard : InForce standard .null standard

theorem inForce_iff {standard argument v : Value} :
    InForce standard argument v ↔ v = orStandard argument standard := by
  by_cases hnull : argument = .null
  · subst hnull
    rw [orStandard, if_pos rfl]
    constructor
    · rintro (h | _)
      · exact absurd rfl h
      · rfl
    · rintro rfl
      exact .standard
  · rw [orStandard, if_neg hnull]
    constructor
    · rintro (h | _)
      · rfl
      · exact absurd rfl hnull
    · rintro rfl
      exact .argument hnull

/-- The configuration that arguments and settings come to. -/
structure Merges (a : Arguments) (settings : Settings) (merged : Arguments) : Prop where
  format : InForce (.text settings.format) a.format merged.format
  blacklist : InForce (.list (settings.blacklist.map .text)) a.blacklist merged.blacklist
  output : merged.output = a.output
  callback : merged.callback = a.callback

/-- Arguments and settings always come to one configuration. -/
theorem exists_merges_iff (a : Arguments) (settings : Settings) :
    ∃ c, ∀ c', Merges a settings c' ↔ c' = c := by
  refine ⟨{ a with
    format := orStandard a.format (.text settings.format)
    blacklist := orStandard a.blacklist (.list (settings.blacklist.map .text)) }, fun c' => ?_⟩
  constructor
  · rintro ⟨hformat, hblacklist, houtput, hcallback⟩
    rw [← inForce_iff.mp hformat, ← inForce_iff.mp hblacklist, ← houtput, ← hcallback]
  · rintro rfl
    exact ⟨inForce_iff.mpr rfl, inForce_iff.mpr rfl, rfl, rfl⟩

/-! ## Requirements -/

/-- What a configuration has to be. -/
inductive Requirement where
  | formatIsText
  | blacklistIsNoText
  | outputCanWrite
  | callbackCanBeCalled
  | elementsAreFixed

namespace Requirement

/-- The place of a requirement in the order in which they are asked for. -/
def place : Requirement → Nat
  | formatIsText => 0
  | blacklistIsNoText => 1
  | outputCanWrite => 2
  | callbackCanBeCalled => 3
  | elementsAreFixed => 4

def IsMet (c : Arguments) : Requirement → Prop
  | formatIsText => ∃ s, c.format = .text s
  | blacklistIsNoText => (∀ s, c.blacklist ≠ .text s) ∧ ∀ bs, c.blacklist ≠ .bytes bs
  | outputCanWrite => c.output.canWrite = true
  | callbackCanBeCalled => c.callback = .none ∨ ∃ who, c.callback = .given true who
  | elementsAreFixed => ∃ vs, c.blacklist.elements = .ok vs ∧ ∀ v ∈ vs, ¬ v.CanChange

/-- What a configuration that does not meet the requirement fails with. -/
def failure (c : Arguments) : Requirement → OptionsFailure
  | formatIsText => .configuration (.formatNotText c.format.kindName)
  | blacklistIsNoText => .configuration .blacklistIsText
  | outputCanWrite => .configuration .outputNotWritable
  | callbackCanBeCalled => .configuration .callbackNotCallable
  | elementsAreFixed => .fault .unsupported

structure IsFirstUnmet (c : Arguments) (r : Requirement) : Prop where
  unmet : ¬ r.IsMet c
  earlier : ∀ r' : Requirement, r'.place < r.place → r'.IsMet c

/-- Some requirement is the first that is not met, unless all of them are. -/
theorem forall_isMet_or_exists_isFirstUnmet (c : Arguments) :
    (∀ r, IsMet c r) ∨ ∃ r, IsFirstUnmet c r := by
  refine or_iff_not_imp_left.mpr fun hnot => ?_
  obtain ⟨r, hr⟩ := not_forall.mp hnot
  obtain ⟨first, hfirst, hleast⟩ :=
    (measure place).wf.has_min {r' | ¬ IsMet c r'} ⟨r, hr⟩
  refine ⟨first, hfirst, fun r' hplace => ?_⟩
  by_contra hunmet
  exact hleast r' hunmet hplace

end Requirement

/-! ## The checks -/

theorem isSingleText_eq_false_iff {v : Value} :
    isSingleText v = false ↔ (∀ s, v ≠ .text s) ∧ ∀ bs, v ≠ .bytes bs := by
  cases v <;> simp [isSingleText]

theorem isValid_iff {callback : Callback} :
    callback.isValid = true ↔ callback = .none ∨ ∃ who, callback = .given true who := by
  cases callback <;> simp [Callback.isValid]

theorem checkFormat_of_not_text {v : Value} (h : ¬ ∃ s, v = .text s) :
    checkFormat v = .error (.formatNotText v.kindName) := by
  cases v with
  | text s => exact absurd ⟨s, rfl⟩ h
  | _ => rfl

theorem toSet_of_elements {v : Value} {vs : List Value} (helements : v.elements = .ok vs)
    (hfixed : ∀ w ∈ vs, ¬ w.CanChange) : toSet v = .ok (Value.distinct vs) := by
  have hall : vs.all Value.isHashable = true :=
    List.all_eq_true.mpr fun w hw => (Value.isHashable_iff w).mpr (hfixed w hw)
  rw [toSet, helements]
  exact if_pos hall

theorem toSet_of_not_fixed {v : Value}
    (h : ¬ ∃ vs, v.elements = .ok vs ∧ ∀ w ∈ vs, ¬ w.CanChange) :
    toSet v = .error .unsupported := by
  cases helements : v.elements with
  | error cause =>
      rw [toSet, helements, Value.fault_of_elements helements]
      rfl
  | ok vs =>
      have hall : ¬ vs.all Value.isHashable = true := fun hall =>
        h ⟨vs, helements, fun w hw => (Value.isHashable_iff w).mp (List.all_eq_true.mp hall w hw)⟩
      rw [toSet, helements]
      exact if_neg hall

/-! ## Building -/

section

variable {a c : Arguments} {settings : Settings}

theorem build_of_firstError? (h : Merges a settings c) {e : ConfigurationError}
    (hfirst : firstError? c.format c.blacklist c.output c.callback = some e) :
    build a settings = .error (.configuration e) := by
  rw [build, ← inForce_iff.mp h.format, ← inForce_iff.mp h.blacklist, ← h.output, ← h.callback,
    hfirst]
  rfl

theorem build_of_no_firstError? (h : Merges a settings c) {s : String}
    (hformat : c.format = .text s)
    (hfirst : firstError? c.format c.blacklist c.output c.callback = none) :
    build a settings =
      ((toSet c.blacklist).mapError .fault).map fun blacklist =>
        { format := s, blacklist, output := c.output, callback := c.callback } := by
  rw [build, ← inForce_iff.mp h.format, ← inForce_iff.mp h.blacklist, ← h.output, ← h.callback,
    hfirst, hformat]
  rfl

theorem firstError?_eq_none
    (h : ∀ r : Requirement, r.place < Requirement.elementsAreFixed.place → r.IsMet c) :
    firstError? c.format c.blacklist c.output c.callback = none := by
  obtain ⟨s, hformat⟩ := h .formatIsText (by decide)
  have hsingle := isSingleText_eq_false_iff.mpr (h .blacklistIsNoText (by decide))
  have hwrite : c.output.canWrite = true := h .outputCanWrite (by decide)
  have hcall := isValid_iff.mpr (h .callbackCanBeCalled (by decide))
  rw [firstError?, hformat, hsingle, hwrite, hcall]
  rfl

theorem build_of_isFirstUnmet (h : Merges a settings c) {r : Requirement}
    (hr : r.IsFirstUnmet c) : build a settings = .error (r.failure c) := by
  obtain ⟨hunmet, hearlier⟩ := hr
  cases r with
  | formatIsText =>
      refine build_of_firstError? h ?_
      rw [firstError?, checkFormat_of_not_text hunmet]
  | blacklistIsNoText =>
      obtain ⟨s, hformat⟩ := hearlier .formatIsText (by decide)
      have hsingle : isSingleText c.blacklist = true :=
        Bool.of_not_eq_false fun hno => hunmet (isSingleText_eq_false_iff.mp hno)
      refine build_of_firstError? h ?_
      rw [firstError?, hformat, hsingle]
      rfl
  | outputCanWrite =>
      obtain ⟨s, hformat⟩ := hearlier .formatIsText (by decide)
      have hsingle := isSingleText_eq_false_iff.mpr (hearlier .blacklistIsNoText (by decide))
      have hwrite : c.output.canWrite = false := Bool.eq_false_of_not_eq_true hunmet
      refine build_of_firstError? h ?_
      rw [firstError?, hformat, hsingle, hwrite]
      rfl
  | callbackCanBeCalled =>
      obtain ⟨s, hformat⟩ := hearlier .formatIsText (by decide)
      have hsingle := isSingleText_eq_false_iff.mpr (hearlier .blacklistIsNoText (by decide))
      have hwrite : c.output.canWrite = true := hearlier .outputCanWrite (by decide)
      have hcall : c.callback.isValid = false :=
        Bool.eq_false_of_not_eq_true fun hvalid => hunmet (isValid_iff.mp hvalid)
      refine build_of_firstError? h ?_
      rw [firstError?, hformat, hsingle, hwrite, hcall]
      rfl
  | elementsAreFixed =>
      obtain ⟨s, hformat⟩ := hearlier .formatIsText (by decide)
      rw [build_of_no_firstError? h hformat (firstError?_eq_none hearlier),
        toSet_of_not_fixed hunmet]
      rfl

/-- The options that come of a configuration that meets every requirement. -/
theorem build_of_forall_isMet (h : Merges a settings c) (hmet : ∀ r, Requirement.IsMet c r) :
    ∃ s vs, c.format = .text s ∧ c.blacklist.elements = .ok vs ∧ (∀ w ∈ vs, ¬ w.CanChange) ∧
      build a settings =
        .ok { format := s, blacklist := Value.distinct vs, output := c.output,
              callback := c.callback } := by
  obtain ⟨s, hformat⟩ := hmet .formatIsText
  obtain ⟨vs, helements, hfixed⟩ := hmet .elementsAreFixed
  refine ⟨s, vs, hformat, helements, hfixed, ?_⟩
  rw [build_of_no_firstError? h hformat (firstError?_eq_none fun r _ => hmet r),
    toSet_of_elements helements hfixed]
  rfl

end

/-- Arguments and settings come to one configuration. The first requirement that it does not meet
decides how building fails, and options come of it when it meets all of them. They hold its
format, its output and its callback as they are, and of its blacklist the values that coincide
with an element. -/
theorem build_checks_requirements (a : Arguments) (settings : Settings) :
    ∃ c, (∀ c', Merges a settings c' ↔ c' = c) ∧
      (∀ e, build a settings = .error e ↔
        ∃ r : Requirement, r.IsFirstUnmet c ∧ e = r.failure c) ∧
      ((∃ o, build a settings = .ok o) ↔ ∀ r, Requirement.IsMet c r) ∧
      ∀ o, build a settings = .ok o →
        c.format = .text o.format ∧ o.output = c.output ∧ o.callback = c.callback ∧
        ∃ vs, c.blacklist.elements = .ok vs ∧
          ∀ v : Value, ¬ v.CanChange → v ≠ .float .nan →
            (v.isAmong o.blacklist = true ↔ ∃ w ∈ vs, v.Coincide w) := by
  obtain ⟨c, hmerges⟩ := exists_merges_iff a settings
  have h : Merges a settings c := (hmerges c).mpr rfl
  refine ⟨c, hmerges, ?_⟩
  rcases Requirement.forall_isMet_or_exists_isFirstUnmet c with hmet | ⟨r, hr⟩
  · obtain ⟨s, vs, hformat, helements, hfixed, hbuild⟩ := build_of_forall_isMet h hmet
    rw [hbuild]
    refine ⟨fun e => iff_of_false nofun ?_, iff_of_true ⟨_, rfl⟩ hmet, ?_⟩
    · rintro ⟨r, hr, -⟩
      exact hr.unmet (hmet r)
    · rintro o ⟨⟩
      refine ⟨hformat, rfl, rfl, vs, helements, fun v hv _ => ?_⟩
      exact Value.isAmong_distinct_iff ((Value.isHashable_iff v).mpr hv) fun w hw =>
        (Value.isHashable_iff w).mpr (hfixed w hw)
  · have hbuild := build_of_isFirstUnmet h hr
    have hnone : ∀ o, build a settings ≠ .ok o := fun o ho => by cases hbuild.symm.trans ho
    refine ⟨fun e => ⟨fun he => ⟨r, hr, ?_⟩, ?_⟩, iff_of_false ?_ ?_, ?_⟩
    · rw [hbuild] at he
      exact (Except.error.inj he).symm
    · rintro ⟨r', hr', rfl⟩
      exact build_of_isFirstUnmet h hr'
    · rintro ⟨o, ho⟩
      exact hnone o ho
    · exact fun hmet => hr.unmet (hmet r)
    · exact fun o ho => absurd ho (hnone o)

/-- An empty format and an empty blacklist are in force like any others. -/
example :
    build ⟨.text "", .list [], .standard, .none⟩ .standard = .ok ⟨"", [], .standard, .none⟩ := rfl

end AccessLog.Options
