import Mathlib
import LayeredUnits.Command.Run
import LayeredUnits.Proofs.SavedSettings

/-!
# Commands on the settings

A run loads the settings before it turns to its command, and a command on the
settings is no exception. So what it does to the settings file depends on what
the file holds: if the settings in it can be loaded, or if there is none, the
file can be overwritten and its path is told, and if not, the run ends before
it comes to that.

* `Settings.Usable`, `Settings.load_of_usable`, `Settings.load_of_unusable` —
  the files with which a run goes on.
* `Command.run_of_loaded`, `Command.run_of_unloaded` — how a run goes on, and how
  it ends if it does not.
* `Command.settings_tasks` — what becomes of the settings file.
-/

namespace LayeredUnits

namespace Settings

variable {volume : Volume} {path : String}

/-- Whether a run can go on with what is at the path of its settings file: nothing, or a text that
holds valid settings. -/
def Usable (volume : Volume) (path : String) : Prop :=
  volume.exists? path = true →
    ∃ text settings, volume.readText path = .ok text ∧ ofToml text = .ok settings

theorem load_of_usable (h : Usable volume path) :
    ∃ settings, (load volume path).1 = .ok settings := by
  unfold load
  split
  · next hthere =>
    obtain ⟨text, settings, htext, hread⟩ := h hthere
    refine ⟨settings, ?_⟩
    unfold loadFile
    rw [htext]
    dsimp only
    rw [hread]
  · exact ⟨standard, rfl⟩

theorem load_of_unusable (h : ¬ Usable volume path) :
    ∃ fault, (load volume path).1 = .error fault ∧
      ((∃ kind, volume.readText path = .error kind ∧
          fault = .io ("reading config from " ++ path) (.io kind)) ∨
        ∃ text defect, volume.readText path = .ok text ∧ ofToml text = .error defect ∧
          fault = .settingsInvalid path defect) := by
  obtain ⟨hthere, hnone⟩ := Classical.not_imp.mp h
  unfold load loadFile
  rw [if_pos hthere]
  cases htext : volume.readText path with
  | error kind => exact ⟨_, rfl, .inl ⟨kind, rfl, rfl⟩⟩
  | ok text =>
    dsimp only
    cases hread : ofToml text with
    | error defect => exact ⟨_, rfl, .inr ⟨text, defect, rfl, hread, rfl⟩⟩
    | ok settings => exact absurd ⟨text, settings, htext, hread⟩ hnone

end Settings

namespace Command

variable {environment : Environment} {words : List String} {arguments : Arguments}
  {volume : Volume} {settings : Settings} {path : String} {fault : Fault}

theorem run_of_read (h : Arguments.read words environment.settingsPath = .ok arguments) :
    run environment words volume = carryOut environment arguments volume := by
  unfold run
  rw [h]

/-- A run that has loaded the settings comes to what its command comes to. -/
theorem run_of_loaded (hread : Arguments.read words environment.settingsPath = .ok arguments)
    (hloaded : (Settings.load volume (environment.settingsFile arguments)).1 = .ok settings)
    {result : Result}
    (hresult : perform arguments (environment.settingsFile arguments) settings volume = result) :
    run environment words volume =
      { code := if result.fault.isSome then 1 else 0
        output := result.output
        report := (told arguments.verbosity
            (.settingsUsed (environment.settingsFile arguments) :: result.events)).map
              (logLine settings) ++ (result.fault.map faultLines).getD []
        volume := result.volume } := by
  subst hresult
  rw [run_of_read hread, carryOut, hloaded]

/-- A run that cannot load the settings ends there, whatever its command. -/
theorem run_of_unloaded (hread : Arguments.read words environment.settingsPath = .ok arguments)
    (hfailed : (Settings.load volume (environment.settingsFile arguments)).1 = .error fault) :
    run environment words volume =
      { code := 1, output := .empty, report := faultLines fault, volume := volume } := by
  rw [run_of_read hread, carryOut, hfailed]

/-- A settings file that is there stays as it is unless it is to be overwritten. -/
theorem createSettings_kept (hthere : volume.exists? path = true) :
    (createSettings false path volume).volume = volume := by
  rw [createSettings, hthere]
  rfl

/-- A settings file is overwritten with the standard settings, and a run that loads it
finds them. -/
theorem createSettings_overwritten (hmounted : volume.Mounted)
    (hsavable : Settings.Savable volume path) :
    (createSettings true path volume).fault = none ∧
      (createSettings true path volume).output =
        written [marked .ok ("Configuration initialized at " ++ path)] ∧
      (Settings.load (createSettings true path volume).volume path).1 = .ok .standard := by
  have hvalid : Settings.standard.validate = .ok () := rfl
  obtain ⟨text, after, -, hsaved, -, hloaded, -⟩ :=
    Settings.load_save hmounted hsavable hvalid (by decide)
  rw [createSettings, Bool.not_true, Bool.and_false, hsaved]
  exact ⟨rfl, rfl, by rw [if_neg (by decide), hloaded]⟩

/-- What becomes of the settings file. One that is usable, or absent, is overwritten with the
standard settings if that is asked for, and its path is told. With one that is not usable the run
ends at once and leaves everything as it is, whatever is asked for. In no case is a file that is
there changed unless it is to be overwritten. -/
theorem settings_tasks (environment : Environment) (words : List String) (arguments : Arguments)
    (volume : Volume) (path : String) (task : Option SettingsTask) (outcome : Outcome)
    (hread : Arguments.read words environment.settingsPath = .ok arguments)
    (htask : arguments.task = .settings task)
    (hpath : environment.settingsFile arguments = path)
    (houtcome : run environment words volume = outcome) :
    (Settings.Usable volume path → volume.Mounted → Settings.Savable volume path →
      task = some (.create true) →
        outcome.code = 0 ∧
        outcome.output = written [marked .ok ("Configuration initialized at " ++ path)] ∧
        (Settings.load outcome.volume path).1 = .ok .standard) ∧
      (volume.exists? path = true → task = some (.create false) → outcome.volume = volume) ∧
      (Settings.Usable volume path → task = some .locate →
        outcome.code = 0 ∧ outcome.output = written [path] ∧ outcome.volume = volume) ∧
      (¬ Settings.Usable volume path → ∃ fault, (Settings.load volume path).1 = .error fault ∧
        outcome = { code := 1, output := .empty, report := faultLines fault, volume := volume }) := by
  subst hpath houtcome
  have hperform : ∀ settings,
      perform arguments (environment.settingsFile arguments) settings volume =
      settingsTask (task.getD .print) (environment.settingsFile arguments) settings volume := by
    intro settings
    rw [perform, htask]
  refine ⟨fun husable hmounted hsavable hcreate => ?_, fun hthere hcreate => ?_,
    fun husable hlocate => ?_, fun hunusable => ?_⟩
  · obtain ⟨settings, hloaded⟩ := Settings.load_of_usable husable
    obtain ⟨hfault, hwritten, hstandard⟩ := createSettings_overwritten hmounted hsavable
    subst hcreate
    rw [run_of_loaded hread hloaded (hperform settings)]
    exact ⟨by rw [Option.getD_some, settingsTask, hfault]; rfl, hwritten, hstandard⟩
  · subst hcreate
    -- If the file is not usable, the run ends before it comes to that, and changes nothing either.
    by_cases husable : Settings.Usable volume (environment.settingsFile arguments)
    · obtain ⟨settings, hloaded⟩ := Settings.load_of_usable husable
      rw [run_of_loaded hread hloaded (hperform settings)]
      exact createSettings_kept hthere
    · obtain ⟨fault, hfailed, -⟩ := Settings.load_of_unusable husable
      rw [run_of_unloaded hread hfailed]
  · obtain ⟨settings, hloaded⟩ := Settings.load_of_usable husable
    subst hlocate
    rw [run_of_loaded hread hloaded (hperform settings)]
    exact ⟨rfl, rfl, rfl⟩
  · obtain ⟨fault, hfailed, -⟩ := Settings.load_of_unusable hunusable
    exact ⟨fault, hfailed, run_of_unloaded hread hfailed⟩

/-- A volume with a file of settings that breaks off in the middle of a header. -/
def brokenShelf : Volume := [Edit.file "/units/config.toml" "[loader\n".toUTF8].foldl Edit.apply {}

private theorem savable_brokenShelf : Settings.Savable brokenShelf "/units/config.toml" :=
  ⟨brokenShelf, by cbv, .inl ⟨["units", "config.toml"], 0, by cbv⟩⟩

private theorem load_brokenShelf : (Settings.load brokenShelf "/units/config.toml").1 =
    .error (.settingsInvalid "/units/config.toml" .malformed) := by cbv

/-- The settings file of the shelves, as the environment names it. -/
def shelved : Environment := { settingsPath := some "/units/config.toml" }

private theorem read_overwrite :
    Arguments.read ["config", "init", "--force"] shelved.settingsPath =
    .ok { task := .settings (some (.create true)) } := by cbv

/-- One file is overwritten, kept and told; another one is not even overwritten. -/
theorem settings_tasks_shelves :
    (Settings.load (run shelved ["config", "init", "--force"] Settings.shelf).volume
        "/units/config.toml").1 = .ok .standard ∧
      (run shelved ["config", "init"] Settings.shelf).volume = Settings.shelf ∧
      (run shelved ["config", "path"] Settings.shelf).output = written ["/units/config.toml"] ∧
      (run shelved ["config", "init", "--force"] brokenShelf).code = 1 := by
  have husable : Settings.Usable Settings.shelf "/units/config.toml" :=
    fun _ => ⟨"# none", .standard, by cbv, by cbv⟩
  have hunusable : ¬ Settings.Usable brokenShelf "/units/config.toml" := by
    intro husable
    obtain ⟨settings, hloaded⟩ := Settings.load_of_usable husable
    rw [load_brokenShelf] at hloaded
    cases hloaded
  have hmounted : Settings.shelf.Mounted := Volume.mounted_of_edits _
  have hsavable : Settings.Savable Settings.shelf "/units/config.toml" :=
    ⟨Settings.shelf, by cbv, .inl ⟨["units", "config.toml"], 0, by cbv⟩⟩
  obtain ⟨hover, -, -, -⟩ := settings_tasks shelved _ _ Settings.shelf "/units/config.toml" _ _
    read_overwrite rfl rfl rfl
  obtain ⟨-, hkept, -, -⟩ := settings_tasks shelved ["config", "init"]
    { task := .settings (some (.create false)) } Settings.shelf "/units/config.toml" _ _
    (by cbv) rfl rfl rfl
  obtain ⟨-, -, htold, -⟩ := settings_tasks shelved ["config", "path"]
    { task := .settings (some .locate) } Settings.shelf "/units/config.toml" _ _
    (by cbv) rfl rfl rfl
  obtain ⟨-, -, -, hended⟩ := settings_tasks shelved _ _ brokenShelf "/units/config.toml" _ _
    read_overwrite rfl rfl rfl
  obtain ⟨fault, -, houtcome⟩ := hended hunusable
  exact ⟨(hover husable hmounted hsavable rfl).2.2, hkept (by cbv) rfl, (htold husable rfl).2.1,
    by rw [houtcome]⟩

/-- Asking for it is not enough to have a settings file overwritten. -/
theorem overwriting_needs_usable_file :
    ¬ ∀ (environment : Environment) (words : List String) (arguments : Arguments) (volume : Volume),
      Arguments.read words environment.settingsPath = .ok arguments →
      arguments.task = .settings (some (.create true)) →
      volume.Mounted → Settings.Savable volume (environment.settingsFile arguments) →
      (run environment words volume).code = 0 ∧
        (Settings.load (run environment words volume).volume
          (environment.settingsFile arguments)).1 = .ok .standard := by
  intro hall
  obtain ⟨hcode, -⟩ := hall shelved _ _ brokenShelf read_overwrite rfl
    (Volume.mounted_of_edits _) savable_brokenShelf
  rw [run_of_unloaded read_overwrite load_brokenShelf] at hcode
  cases hcode

end Command

end LayeredUnits
