import BuildWatch.Proofs.DialectLocations
import BuildWatch.Proofs.PathWalks

/-! Dots in paths. A path is climbed step by step on a stack of components, and what is left on the stack is spelled again. The
stack holds names over the root, or names over up steps, so climbing what has been spelled leaves the same stack. -/

namespace BuildWatch.Path
open Component

/-! ### Steps -/

/-- The names and up steps of a path. -/
def steps (path : Path) : List Component := (segments path.text.toList).filterMap componentOf

/-- What can stand between two slashes. -/
def IsStep (step : Component) : Prop := ∃ segment, '/' ∉ segment ∧ componentOf segment = some step

theorem segments_single {segment : List Char} (whole : '/' ∉ segment) : segments segment = [segment] := by
  induction segment with
  | nil => rfl
  | cons c rest ih =>
    obtain ⟨first, later⟩ := not_or.mp (fun member => whole (List.mem_cons.mpr member))
    simp only [segments, ih later, if_neg (Ne.symm first)]

theorem slash_not_mem_segments (text : List Char) : ∀ segment ∈ segments text, '/' ∉ segment := by
  induction text with
  | nil => simp [segments]
  | cons c rest ih =>
    obtain ⟨segment, later, shape⟩ := segments_some rest
    rw [shape] at ih
    obtain ⟨first, others⟩ := List.forall_mem_cons.mp ih
    simp only [segments, shape]
    split
    next => exact List.forall_mem_cons.mpr ⟨List.not_mem_nil, ih⟩
    next other => exact List.forall_mem_cons.mpr ⟨List.not_mem_cons_of_ne_of_not_mem (Ne.symm other) first, others⟩

theorem isStep_of_mem_steps {path : Path} {step : Component} (member : step ∈ path.steps) : IsStep step := by
  obtain ⟨segment, inside, stands⟩ := List.mem_filterMap.mp member
  exact ⟨segment, slash_not_mem_segments _ segment inside, stands⟩

theorem componentOf_cases {segment : List Char} {step : Component} (stands : componentOf segment = some step) :
    segment ≠ [] ∧ segment ≠ ['.'] ∧
      (segment = ['.', '.'] ∧ step = up ∨ segment ≠ ['.', '.'] ∧ step = name (String.ofList segment)) := by
  unfold componentOf at stands
  split at stands
  next => cases stands
  next other =>
    have given : segment ≠ [] ∧ segment ≠ ['.'] := by simpa using other
    refine ⟨given.1, given.2, ?_⟩
    split at stands
    next dots => exact .inl ⟨eq_of_beq dots, (Option.some.inj stands).symm⟩
    next dots => exact .inr ⟨fun same => dots (beq_iff_eq.mpr same), (Option.some.inj stands).symm⟩

theorem isAbsolute_iff (path : Path) : path.isAbsolute = true ↔ ∃ rest, path.text.toList = '/' :: rest := by
  unfold isAbsolute
  rw [beq_iff_eq, List.head?_eq_some_iff]

/-! ### Joined paths -/

theorem join_absolute {base inner : Path} (absolute : inner.isAbsolute = true) : base.join inner = inner := if_pos absolute

theorem eq_empty {path : Path} (none : path.text.toList = []) : path = ⟨""⟩ := by
  rw [← String.toList_inj.mp (none.trans String.toList_empty.symm)]

theorem join_empty (inner : Path) : join ⟨""⟩ inner = inner := by
  unfold join
  split
  next => rfl
  next => simp

theorem join_relative_absolute (base : Path) {inner : Path} (relative : inner.isAbsolute = false) :
    (base.join inner).isAbsolute = base.isAbsolute := by
  by_cases given : base.text.toList = []
  · rw [eq_empty given, join_empty, relative]
    rfl
  · exact join_isAbsolute given relative

theorem segments_join {base inner : Path} (given : base.text.toList ≠ []) (relative : inner.isAbsolute = false) :
    ∃ first later between, segments base.text.toList = first :: later ++ between ∧ between.filterMap componentOf = [] ∧
      segments (base.join inner).text.toList = first :: later ++ segments inner.text.toList := by
  -- Behind a slash at its end the base has one more piece, an empty one, whose place the inner path takes.
  rcases join_cases given relative with ⟨front, shape, joined⟩ | joined
  · obtain ⟨first, later, pieces⟩ := segments_some front
    refine ⟨first, later, [[]], ?_, rfl, ?_⟩
    · rw [shape, segments_slash, pieces]
      rfl
    · rw [joined, segments_slash, pieces]
  · obtain ⟨first, later, pieces⟩ := segments_some base.text.toList
    refine ⟨first, later, [], ?_, rfl, ?_⟩
    · rw [pieces, List.append_nil]
    · rw [joined, segments_slash, pieces]

theorem steps_join (base : Path) {inner : Path} (relative : inner.isAbsolute = false) :
    (base.join inner).steps = base.steps ++ inner.steps := by
  by_cases given : base.text.toList = []
  · rw [eq_empty given, join_empty]
    rfl
  · obtain ⟨first, later, between, shape, nothing, joined⟩ := segments_join given relative
    simp only [steps, joined, shape, List.filterMap_append, nothing, List.append_nil]

/-! ### Climbing -/

/-- Where a path sets out from. -/
def origin : Bool → List Component
  | true => [root]
  | false => []

/-- The dot that opens some relative paths. -/
def dot (path : Path) : List Component := if (segments path.text.toList).head? = some ['.'] then [here] else []

theorem components_eq (path : Path) : path.components = origin path.isAbsolute ++ path.dot ++ path.steps := by
  unfold components dot steps isAbsolute
  cases text : path.text.toList with
  | nil => rfl
  | cons c rest =>
    obtain ⟨piece, further, pieces⟩ := segments_some rest
    by_cases slash : c = '/'
    · simp [segments, pieces, slash, origin]
    · have relative : (c == '/') = false := beq_eq_false_iff_ne.mpr slash
      by_cases dotted : c :: piece = ['.']
      · obtain ⟨rfl, rfl⟩ := List.cons.inj dotted
        simp [segments, pieces, origin]
      · simp [segments, pieces, slash, relative, dotted, origin]

/-- The stack that is left when a path has been climbed. -/
def climbed (path : Path) : List Component := path.components.foldl climb []

theorem normalize_eq (path : Path) : path.normalize = ofComponents path.climbed.reverse := rfl

theorem climbed_eq (path : Path) : path.climbed = path.steps.foldl climb (origin path.isAbsolute) := by
  have begun : (origin path.isAbsolute).foldl climb [] = origin path.isAbsolute := by cases path.isAbsolute <;> rfl
  have dot (stack : List Component) : path.dot.foldl climb stack = stack := by
    unfold Path.dot
    split <;> rfl
  rw [climbed, components_eq, List.foldl_append, List.foldl_append, begun, dot]

theorem climbed_join (base : Path) {inner : Path} (relative : inner.isAbsolute = false) :
    (base.join inner).climbed = inner.steps.foldl climb base.climbed := by
  rw [climbed_eq, climbed_eq, steps_join base relative, join_relative_absolute base relative, List.foldl_append]

/-- A stack of components, top first: names over the root, or over up steps that nothing can cancel. -/
inductive Stands : Bool → List Component → Prop
  | root : Stands true [root]
  | ups (count : Nat) : Stands false (List.replicate count up)
  | named {absolute : Bool} {text : String} {stack : List Component} (step : IsStep (name text))
      (below : Stands absolute stack) : Stands absolute (name text :: stack)

theorem Stands.climb {absolute : Bool} {stack : List Component} (stands : Stands absolute stack) {step : Component}
    (is : IsStep step) : Stands absolute (climb stack step) := by
  obtain ⟨segment, whole, means⟩ := is
  obtain ⟨-, -, ⟨-, rfl⟩ | ⟨-, rfl⟩⟩ := componentOf_cases means
  · -- An up step is lost on the root, stays on other up steps, and takes a name away.
    cases stands with
    | root => exact .root
    | ups count =>
      cases count with
      | zero => exact .ups 1
      | succ count => exact .ups (count + 2)
    | named _ below => exact below
  · exact .named ⟨segment, whole, means⟩ stands

theorem climbed_stands (path : Path) : Stands path.isAbsolute path.climbed := by
  have continued (steps : List Component) (all : ∀ step ∈ steps, IsStep step) (stack : List Component)
      (stands : Stands path.isAbsolute stack) : Stands path.isAbsolute (steps.foldl Path.climb stack) := by
    induction steps generalizing stack with
    | nil => exact stands
    | cons step later ih =>
      obtain ⟨first, others⟩ := List.forall_mem_cons.mp all
      exact ih others _ (stands.climb first)
  have begun : Stands path.isAbsolute (origin path.isAbsolute) := by
    cases path.isAbsolute with
    | true => exact .root
    | false => exact .ups 0
  rw [climbed_eq]
  exact continued path.steps (fun _ => isStep_of_mem_steps) _ begun

theorem Stands.climbs {absolute : Bool} {stack : List Component} (stands : Stands absolute stack) :
    stack.reverse.foldl Path.climb [] = stack := by
  induction stands with
  | root => rfl
  | ups count =>
    induction count with
    | zero => rfl
    | succ count ih =>
      rw [List.replicate_succ, List.reverse_cons, List.foldl_append, ih]
      cases count <;> rfl
  | named _ _ ih =>
    rw [List.reverse_cons, List.foldl_append, ih]
    rfl

/-! ### Spelling -/

/-- A path that reads as these steps, without a dot at its beginning. -/
structure Spells (path : Path) (absolute : Bool) (steps : List Component) : Prop where
  absolute : path.isAbsolute = absolute
  dot : (segments path.text.toList).head? ≠ some ['.']
  steps : path.steps = steps

theorem Spells.components {path : Path} {absolute : Bool} {steps : List Component} (spells : Spells path absolute steps) :
    path.components = origin absolute ++ steps := by
  rw [components_eq, Path.dot, spells.absolute, if_neg spells.dot, List.append_nil, spells.steps]

theorem extend_step {segment : List Char} {step : Component} (means : componentOf segment = some step) (path : Path) :
    ofComponents.extend path step = path.join ⟨String.ofList segment⟩ := by
  obtain ⟨-, -, ⟨rfl, rfl⟩ | ⟨-, rfl⟩⟩ := componentOf_cases means
  · rfl
  · rfl

theorem Spells.extend {path : Path} {absolute : Bool} {steps : List Component} (spells : Spells path absolute steps)
    {step : Component} (is : IsStep step) : Spells (ofComponents.extend path step) absolute (steps ++ [step]) := by
  obtain ⟨segment, whole, means⟩ := is
  obtain ⟨-, plain, -⟩ := componentOf_cases means
  have relative : isAbsolute ⟨String.ofList segment⟩ = false := by
    rw [← Bool.not_eq_true, isAbsolute_iff]
    rintro ⟨rest, shape⟩
    rw [String.toList_ofList] at shape
    exact whole (shape ▸ List.mem_cons_self)
  have single : segments (⟨String.ofList segment⟩ : Path).text.toList = [segment] := by
    rw [String.toList_ofList, segments_single whole]
  rw [extend_step means]
  refine ⟨?_, ?_, ?_⟩
  · rw [join_relative_absolute path relative, spells.absolute]
  · by_cases given : path.text.toList = []
    · rw [eq_empty given, join_empty, single]
      simpa using plain
    · obtain ⟨first, later, between, shape, -, joined⟩ := segments_join given relative
      have leads := spells.dot
      rw [shape] at leads
      rw [joined]
      exact leads
  · rw [steps_join path relative, spells.steps, Path.steps, single]
    simp [means]

theorem Stands.spelled {absolute : Bool} {stack : List Component} (stands : Stands absolute stack) :
    ∃ steps, Spells (ofComponents stack.reverse) absolute steps ∧ origin absolute ++ steps = stack.reverse := by
  -- Names and up steps are spelled alike, so what stands below does not matter here.
  have extended {absolute : Bool} {stack : List Component} {step : Component} (is : IsStep step)
      (below : ∃ steps, Spells (ofComponents stack.reverse) absolute steps ∧ origin absolute ++ steps = stack.reverse) :
      ∃ steps, Spells (ofComponents (step :: stack).reverse) absolute steps ∧
        origin absolute ++ steps = (step :: stack).reverse := by
    obtain ⟨steps, spells, shape⟩ := below
    refine ⟨steps ++ [step], ?_, ?_⟩
    · rw [List.reverse_cons, ofComponents, List.foldl_append]
      exact spells.extend is
    · rw [← List.append_assoc, shape, List.reverse_cons]
  induction stands with
  | root => exact ⟨[], ⟨rfl, by decide, rfl⟩, rfl⟩
  | ups count =>
    induction count with
    | zero => exact ⟨[], ⟨rfl, by decide, rfl⟩, rfl⟩
    | succ count ih => exact extended ⟨['.', '.'], by decide, rfl⟩ ih
  | named step _ ih => exact extended step ih

theorem components_normalize (path : Path) : path.normalize.components = path.climbed.reverse := by
  obtain ⟨steps, spells, shape⟩ := path.climbed_stands.spelled
  rw [normalize_eq, spells.components, shape]

theorem normalize_isAbsolute (path : Path) : path.normalize.isAbsolute = path.isAbsolute := by
  obtain ⟨steps, spells, -⟩ := path.climbed_stands.spelled
  rw [normalize_eq, spells.absolute]

theorem climbed_normalize (path : Path) : path.normalize.climbed = path.climbed := by
  rw [climbed, components_normalize, path.climbed_stands.climbs]

/-- A name that no path reads as anything else. -/
structure IsName (text : String) : Prop where
  given : text ≠ ""
  whole : '/' ∉ text.toList
  dot : text ≠ "."
  dots : text ≠ ".."

theorem IsStep.isName {text : String} (step : IsStep (name text)) : IsName text := by
  obtain ⟨segment, whole, means⟩ := step
  obtain ⟨given, dot, ⟨-, other⟩ | ⟨dots, same⟩⟩ := componentOf_cases means
  · cases other
  · cases same
    have spelled {other : List Char} (different : segment ≠ other) : String.ofList segment ≠ String.ofList other := by
      intro same
      exact different (String.ofList_injective same)
    refine ⟨spelled given, ?_, spelled dot, spelled dots⟩
    rwa [String.toList_ofList]

/-- What is left of a path: the root or some up steps, and then names only. -/
def IsNormal (absolute : Bool) (components : List Component) : Prop :=
  ∃ (count : Nat) (names : List String), (∀ text ∈ names, IsName text) ∧
    components = (if absolute then [root] else List.replicate count up) ++ names.map name

theorem Stands.isNormal {absolute : Bool} {stack : List Component} (stands : Stands absolute stack) :
    IsNormal absolute stack.reverse := by
  induction stands with
  | root => exact ⟨0, [], by simp, rfl⟩
  | ups count => exact ⟨count, [], by simp, by simp⟩
  | @named absolute text stack step below ih =>
    obtain ⟨count, names, all, shape⟩ := ih
    refine ⟨count, names ++ [text], ?_, ?_⟩
    · intro other member
      rcases List.mem_append.mp member with early | last
      · exact all other early
      · rw [List.mem_singleton.mp last]
        exact step.isName
    · rw [List.reverse_cons, shape, List.map_append, List.append_assoc]
      rfl

theorem normalize_isNormal (path : Path) : IsNormal path.isAbsolute path.normalize.components := by
  rw [components_normalize]
  exact path.climbed_stands.isNormal

theorem normalize_normalize (path : Path) : path.normalize.normalize = path.normalize := by
  rw [normalize_eq, climbed_normalize, ← normalize_eq]

theorem normalize_join (base inner : Path) : (base.join inner).normalize = (base.normalize.join inner).normalize := by
  cases absolute : inner.isAbsolute with
  | true => rw [join_absolute absolute, join_absolute absolute]
  | false => rw [normalize_eq, normalize_eq, climbed_join base absolute, climbed_join _ absolute, climbed_normalize]

theorem normalize_of_equivalent {first second : Path} (same : first.normalize.equivalent second.normalize = true) :
    first.normalize = second.normalize := by
  have components : first.normalize.components = second.normalize.components := eq_of_beq same
  rw [components_normalize, components_normalize] at components
  rw [normalize_eq, normalize_eq, components]

end BuildWatch.Path

namespace BuildWatch.Dialect
open BuildWatch.Path

def Location.printed (location : Location) : Path := ⟨String.ofList location.file⟩

theorem resolve_relative {file root : Path} (relative : file.isAbsolute = false) :
    resolve file root = (root.join file).normalize := by
  rw [resolve, relative]
  rfl

theorem resolve_of_equivalent {root other : Path} (same : other.normalize.equivalent root.normalize = true) {file : Path}
    (relative : file.isAbsolute = false) : resolve file other = resolve file root := by
  rw [resolve_relative relative, resolve_relative relative, normalize_join other, normalize_join root,
    normalize_of_equivalent same]

/-- Under an absolute root nothing but names is left, whatever way the file goes up. -/
theorem resolve_rooted {file root : Path} (relative : file.isAbsolute = false) (rooted : root.isAbsolute = true) :
    (resolve file root).isAbsolute = true ∧ IsNormal true (resolve file root).components := by
  have joined : (root.join file).isAbsolute = true := (join_relative_absolute root relative).trans rooted
  have normal := normalize_isNormal (root.join file)
  rw [joined] at normal
  rw [resolve_relative relative]
  exact ⟨(normalize_isAbsolute _).trans joined, normal⟩

/-- Resolving the dots of a path leaves the root or some up steps, and then names only. An absolute path stays one, and there is
nothing left to resolve. What is seen from a path may as well be seen from what is left of it. So a file that is printed
relative is diagnosed under an absolute root, with no dots left, and no other spelling of the root changes that; an absolute
one is kept as it is printed. -/
theorem dots_are_resolved :
    (∀ path : Path, IsNormal path.isAbsolute path.normalize.components ∧ path.normalize.isAbsolute = path.isAbsolute ∧
      path.normalize.normalize = path.normalize) ∧
    (∀ base inner : Path, (base.join inner).normalize = (base.normalize.join inner).normalize) ∧
    ∀ (severity : Severity) (problem : String) (location : Location) (root : Path),
      locate problem.toList = some location → ∃ diagnostic, diagnose severity problem root = some diagnostic ∧
        (location.printed.isAbsolute = true → diagnostic.file = location.printed) ∧
        (location.printed.isAbsolute = false →
          (root.isAbsolute = true → diagnostic.file.isAbsolute = true ∧ IsNormal true diagnostic.file.components) ∧
          ∀ other, other.normalize.equivalent root.normalize = true →
            diagnose severity problem other = some diagnostic) := by
  refine ⟨fun path => ⟨path.normalize_isNormal, path.normalize_isAbsolute, path.normalize_normalize⟩, normalize_join, ?_⟩
  intro severity problem location root found
  have diagnosed (other : Path) : diagnose severity problem other = some (location.diagnostic severity other) := by
    rw [diagnose, found, Option.map_some]
  refine ⟨_, diagnosed root, ?_, ?_⟩
  · intro absolute
    exact if_pos absolute
  · intro relative
    refine ⟨resolve_rooted relative, ?_⟩
    intro other same
    have file : resolve location.printed other = resolve location.printed root := resolve_of_equivalent same relative
    rw [diagnosed other, Location.diagnostic, Location.diagnostic]
    exact congrArg (fun file => some (Diagnostic.mk file _ _ _)) file

/-- A file that goes up farther than its root is deep ends under the root of the file system, whatever the root is called. -/
theorem climbing_file_is_diagnosed : ∃ diagnostic,
    diagnose .error "../../../x//./../y.js 1:1\nboom" ⟨"/a/./b/../c"⟩ = some diagnostic ∧ diagnostic.file = ⟨"/y.js"⟩ ∧
    IsNormal true diagnostic.file.components ∧
    diagnose .error "../../../x//./../y.js 1:1\nboom" ⟨"/a//c/"⟩ = some diagnostic := by
  have unheaded : loader "../../../x//./../y.js 1:1\nboom".toList = none := loader_eq_none (by decide)
  have found : locate "../../../x//./../y.js 1:1\nboom".toList =
      some ⟨"../../../x//./../y.js".toList, ['1'], ['1'], "boom".toList⟩ := by
    rw [locate, unheaded]
    rfl
  obtain ⟨diagnostic, diagnosed, -, law⟩ := dots_are_resolved.2.2 .error _ _ ⟨"/a/./b/../c"⟩ found
  obtain ⟨rooted, others⟩ := law (by decide)
  have again := others ⟨"/a//c/"⟩ (by decide +kernel)
  refine ⟨diagnostic, diagnosed, ?_, (rooted (by decide)).2, again⟩
  rw [diagnose, found] at diagnosed
  rw [← Option.some.inj diagnosed]
  decide +kernel

end BuildWatch.Dialect
