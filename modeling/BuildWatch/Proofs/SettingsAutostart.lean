import BuildWatch.Proofs.WatchTargets
import BuildWatch.Settings

/-! Settings and the watch that takes them over. Both ask by themselves whether the configuration file is there: the settings
before they call for a start, and the watch when it starts. They ask for the same file, since the watch has taken over just
what the settings say and nothing is left of what it was told before. -/

namespace BuildWatch

namespace SettingsLayer

/-- What is given for a field by the last layer that gives anything. -/
def lastGiven (field : SettingsLayer → Option α) (layers : List SettingsLayer) : Option α :=
  (layers.filterMap field).getLast?

theorem lastGiven_snoc (field : SettingsLayer → Option α) (layers : List SettingsLayer) (upper : SettingsLayer) :
    lastGiven field (layers ++ [upper]) = (field upper).or (lastGiven field layers) := by
  cases given : field upper <;> simp [lastGiven, given]

theorem covered_by_last (layers : List SettingsLayer) :
    layers.foldl (fun lower upper => upper.covering lower) {} =
      ⟨lastGiven (·.executionDirectory) layers, lastGiven (·.configFile) layers,
        lastGiven (·.startOnActivation) layers, lastGiven (·.buildTool) layers⟩ := by
  induction layers using List.reverseRecOn with
  | nil => rfl
  | append_singleton layers upper ih =>
    rw [List.foldl_append, ih]
    simp only [List.foldl_cons, List.foldl_nil, covering, lastGiven_snoc]

end SettingsLayer

namespace Settings
open SettingsLayer

/-- In each field the last layer that gives anything counts, and without one the built-in value. -/
theorem ofLayers_eq (projectDirectory : Option Path) (layers : List SettingsLayer) :
    ofLayers projectDirectory layers =
      { projectDirectory
        executionDirectory := lastGiven (·.executionDirectory) layers
        configFileName := (lastGiven (·.configFile) layers).getD "webpack.config.js"
        startOnActivation := (lastGiven (·.startOnActivation) layers).getD true
        buildTool := (lastGiven (·.buildTool) layers).getD "webpack" } := by
  rw [ofLayers, covered_by_last]
  rfl

end Settings

namespace Change

theorem ofSetting_apply (setting held : Option α) : (ofSetting setting).apply held = setting := by
  cases setting <;> rfl

end Change

namespace Target

/-- Settings state both fields, so nothing of the target they change is left. -/
theorem change_toChange (settings : Settings) (target : Target) :
    target.change settings.toChange = ⟨settings.workingDirectory, settings.configFile⟩ := by
  simp only [Target.change, Settings.toChange, Change.ofSetting_apply]

end Target

namespace Watch
variable {surroundings : Surroundings} {watch : Watch}

theorem shouldAutostart_eq {settings : Settings} (target : watch.target = ⟨settings.workingDirectory, settings.configFile⟩)
    (pathExists : Path → Bool) :
    settings.shouldAutostart pathExists = (settings.startOnActivation && (watch.preconditions pathExists).isOk) := by
  unfold Settings.shouldAutostart preconditions
  rw [target]
  cases settings.workingDirectory with
  | none => rfl
  | some directory =>
    cases settings.configFile with
    | none => rfl
    | some file =>
      simp only
      split
      next seen => rw [seen]; rfl
      next missing => rw [Bool.eq_false_iff.mpr missing]; rfl

/-- A start that has got as far as the launch of a worker, which may still fail. -/
def Attempted (surroundings : Surroundings) (watch : Watch) (directory : Path) : Prop :=
  match surroundings.launchFailure directory with
  | none => .launch watch.launches watch.nextGeneration directory ∈ (watch.start surroundings).2
  | some reason => watch.start surroundings = ({ watch with nextGeneration := watch.nextGeneration + 1 },
      [.note (.of .error s!"worker launch failed: {reason}"), .alert s!"webpack error: '{reason}'"])

theorem start_ready (idle : watch.run = none) {directory file : Path}
    (ready : watch.preconditions surroundings.pathExists = .ok (directory, file)) :
    Attempted surroundings watch directory := by
  unfold Attempted
  split
  next success => simp [start, isActive, idle, ready, success]
  next reason failure => simp [start, isActive, idle, ready, failure]

theorem start_refused (idle : watch.run = none) {reason : StartError}
    (refused : watch.preconditions surroundings.pathExists = .error reason) :
    watch.start surroundings = (watch, [refusal reason]) := by
  simp [start, isActive, idle, refused]

theorem configure_run_idle (idle : watch.run = none) (change : TargetChange) :
    watch.configure surroundings change = ({ watch with target := watch.target.change change }, [.clearDiagnostics]) := by
  apply configure_same
  intro active
  simp [isActive, idle] at active

/-- In each field of the settings the last layer that gives anything counts. A watch that takes the settings over has just
their target, whatever it had before. When building is to start by itself, the settings call for it exactly if a start of the
idle watch goes on to launch a worker, and otherwise that start is refused and changes nothing. -/
theorem autostart_foretells_launch (projectDirectory : Option Path) (layers : List SettingsLayer) {watch : Watch}
    (idle : watch.run = none) (earlier surroundings : Surroundings) :
    let settings := Settings.ofLayers projectDirectory layers
    let configured := (watch.configure earlier settings.toChange).1
    settings =
      { projectDirectory
        executionDirectory := SettingsLayer.lastGiven (·.executionDirectory) layers
        configFileName := (SettingsLayer.lastGiven (·.configFile) layers).getD "webpack.config.js"
        startOnActivation := (SettingsLayer.lastGiven (·.startOnActivation) layers).getD true
        buildTool := (SettingsLayer.lastGiven (·.buildTool) layers).getD "webpack" } ∧
    configured = { watch with target := ⟨settings.workingDirectory, settings.configFile⟩ } ∧
    (settings.startOnActivation = true →
      (settings.shouldAutostart surroundings.pathExists = true ↔ ∃ directory file,
        configured.preconditions surroundings.pathExists = .ok (directory, file) ∧
          Attempted surroundings configured directory) ∧
      (settings.shouldAutostart surroundings.pathExists = false ↔ ∃ reason,
        configured.preconditions surroundings.pathExists = .error reason ∧
          configured.start surroundings = (configured, [refusal reason]))) := by
  intro settings configured
  have taken : configured = { watch with target := ⟨settings.workingDirectory, settings.configFile⟩ } := by
    rw [← Target.change_toChange settings watch.target]
    exact congrArg Prod.fst (configure_run_idle idle settings.toChange)
  have still : configured.run = none := by
    rw [taken]
    exact idle
  have target : configured.target = ⟨settings.workingDirectory, settings.configFile⟩ := by rw [taken]
  refine ⟨Settings.ofLayers_eq projectDirectory layers, taken, ?_⟩
  intro wanted
  -- Now both sides turn on the outcome of the same check.
  rw [shouldAutostart_eq target, wanted, Bool.true_and]
  cases checked : configured.preconditions surroundings.pathExists with
  | ok paths =>
    obtain ⟨directory, file⟩ := paths
    refine ⟨iff_of_true rfl ⟨directory, file, rfl, start_ready still checked⟩, iff_of_false Bool.noConfusion ?_⟩
    rintro ⟨reason, refused, -⟩
    cases refused
  | error reason =>
    refine ⟨iff_of_false Bool.noConfusion ?_, iff_of_true rfl ⟨reason, rfl, start_refused still checked⟩⟩
    rintro ⟨directory, file, ready, -⟩
    cases ready

/-- A later layer takes a field back and the last one gives it anew. The watch forgets its old target and tries to launch. -/
theorem last_layer_launches :
    let layers : List SettingsLayer :=
      [⟨some "old", some "a.js", some false, none⟩, ⟨some "pkg", some "", none, none⟩, ⟨none, some "w.js", some true, none⟩]
    let surroundings : Surroundings := ⟨fun path => path.text == "/p/pkg/w.js", fun _ => some "no", fun _ => none⟩
    let watch : Watch := { target := ⟨some ⟨"/q"⟩, some ⟨"b.js"⟩⟩, nextGeneration := 3 }
    let configured := (watch.configure surroundings (Settings.ofLayers (some ⟨"/p"⟩) layers).toChange).1
    configured.target = ⟨some ⟨"/p/pkg"⟩, some ⟨"w.js"⟩⟩ ∧ Attempted surroundings configured ⟨"/p/pkg"⟩ := by
  intro layers surroundings watch configured
  have idle : watch.run = none := rfl
  obtain ⟨-, taken, agree⟩ := autostart_foretells_launch (some ⟨"/p"⟩) layers idle surroundings surroundings
  have target : configured.target = ⟨some ⟨"/p/pkg"⟩, some ⟨"w.js"⟩⟩ := by
    rw [show configured = _ from taken]
    decide +kernel
  obtain ⟨directory, file, ready, attempted⟩ := (agree rfl).1.mp (by decide +kernel)
  cases (preconditions_ok ready).symm.trans target
  exact ⟨target, attempted⟩

end Watch

end BuildWatch
