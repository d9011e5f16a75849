import Mathlib
import LayeredUnits.Proofs.Encoding
import LayeredUnits.Proofs.Learning
import LayeredUnits.Proofs.SettingsTasks

/-!
# The report on loaded units

A run that loads names asks one loader for all of them, and the loader
remembers what it has found and what it has missed. The report does not show
that: there is one row for each name that is asked for, and it says what the
sources resolve the name to, whatever was asked for before. How much of it is
shown depends on the format.

* `loadNames_told` — the names are looked up in order, also after a miss, and
  the rows say what came of it. The miss that counts is the first one
  (`Loading.IsTold.missed_of_first`).
* `Reports`, `loaded_names_are_reported` — what a run comes to that loads names,
  and how it ends if a source cannot be opened.
* `plain_rows_leave_domain_out` — a row in the plain format is a name and an
  origin.
-/

namespace LayeredUnits

namespace Command

/-! ## Loading names -/

/-- No format shows the identity of a domain, so reports can be compared without it. -/
theorem Row.report_bare (format : Format) (rows : List Row) :
    Row.report format (rows.map Row.bare) = Row.report format rows := by
  have htable : ∀ row : Row, row.bare.table = row.table := by
    rintro ⟨name, unit⟩
    cases unit <;> rfl
  have hjson : ∀ row : Row, row.bare.json = row.json := by
    rintro ⟨name, unit⟩
    cases unit <;> rfl
  have hplain : ∀ row : Row, row.bare.plain = row.plain := by
    rintro ⟨name, unit⟩
    cases unit <;> rfl
  cases format <;> simp [Row.report, Function.comp_def, List.flatMap_map, htable, hjson, hplain]

/-- The loads of these names, one after the other and each whatever the ones before it came to. -/
def loads (link : Bool) (layers : Layers) : List String → List (Layers.Step Reply)
  | [] => []
  | name :: rest =>
    let step := layers.call 0 (.load name link)
    step :: loads link step.layers rest

/-- Each name has been looked up, and its row tells the reply. The names stand in the order in which
they were given. -/
def Replies (sources : List Source) (row : String → Row) (names : List String)
    (steps : List (Layers.Step Reply)) : Prop :=
  List.Forall₂ (fun name step => ∃ result, step.reply = .unit result ∧ (row name).Tells sources result)
    names steps

/-- What has been loaded is told by these rows, one for each name, with the first miss if there is
any. -/
structure Loading.IsTold (sources : List Source) (row : String → Row) (names : List String)
    (steps : List (Layers.Step Reply)) (loading : Loading) : Prop where
  unfailed : loading.fault = none
  rows : loading.rows.map Row.bare = names.map row
  events : loading.events = steps.flatMap (·.events)
  missed : loading.missed.map Fault.bare =
    (names.find? fun name => (row name).unit.isNone).map fun name =>
      .unitNotFound ⟨⟨0, 0⟩, missAmong sources name⟩

theorem Loading.IsTold.after {sources : List Source} {row : String → Row} {rest : List String}
    {steps : List (Layers.Step Reply)} {loading : Loading} (h : loading.IsTold sources row rest steps)
    {name : String} {result : Except Fault (Shared CodeUnit)} (step : Layers.Step Reply)
    (hname : (row name).name = name) (htells : (row name).Tells sources result) :
    (loading.after name result step.events).IsTold sources row (name :: rest) (step :: steps) := by
  have hrow : row name = ⟨name, (row name).unit⟩ :=
    congrArg (fun named => Row.mk named (row name).unit) hname
  cases result with
  | ok unit =>
    have hunit : (row name).unit = some unit.value.bare := htells
    refine ⟨h.unfailed, ?_, congrArg (step.events ++ ·) h.events, ?_⟩
    · rw [List.map_cons, hrow, hunit, ← h.rows]
      rfl
    · rw [List.find?_cons, hunit]
      exact h.missed
  | error fault =>
    obtain ⟨hnone, miss, rfl, hmiss⟩ := htells
    rw [hname] at hmiss
    refine ⟨h.unfailed, ?_, congrArg (step.events ++ ·) h.events, ?_⟩
    · rw [List.map_cons, hrow, hnone, ← h.rows]
      rfl
    · rw [List.find?_cons, hnone]
      exact congrArg (fun value => some (Fault.unitNotFound ⟨⟨0, 0⟩, value⟩)) hmiss

/-- The loader goes from one name to the next with what it has learned, which changes no row. -/
theorem loadNames_told {volume : Volume} {limit : Nat} {sources : List Source} (link : Bool)
    (names : List String) : ∀ {layers : Layers} {loader : Loader},
      layers.Serves 0 volume .none loader → loader.IsFaithful volume limit sources →
      Replies sources (rowAmong volume limit sources) names (loads link layers names) ∧
        (loadNames link layers names).IsTold sources (rowAmong volume limit sources) names
          (loads link layers names) := by
  induction names with
  | nil => exact fun _ _ => ⟨.nil, rfl, rfl, rfl, rfl⟩
  | cons name rest ih =>
    intro layers loader hserves h
    obtain ⟨hreply, hlayers⟩ := Layers.call_of_serves hserves
      (show (Call.load name link).isForUnits = true from rfl)
    obtain ⟨htells, hfaithful⟩ := h.resolve name
    obtain ⟨hreplies, htold⟩ := ih hlayers hfaithful
    have hreply : (layers.call 0 (.load name link)).reply =
        .unit (loader.resolve volume name none).reply := hreply
    have hafter := htold.after (layers.call 0 (.load name link)) rfl htells
    refine ⟨.cons ⟨_, hreply, htells⟩ hreplies, ?_⟩
    unfold loads loadNames
    dsimp only
    generalize layers.call 0 (.load name link) = step at hreply hafter ⊢
    -- The row of this name comes in front of the others, with the unit or without one.
    obtain ⟨reply, later, events⟩ := step
    generalize (loader.resolve volume name none).reply = result at hreply htells hafter
    obtain rfl : reply = .unit result := hreply
    cases result with
    | ok unit => exact hafter
    | error fault =>
      obtain ⟨-, miss, rfl, -⟩ := htells
      exact hafter

theorem load_of_told {sources : List Source} {row : String → Row} {names : List String}
    {link : Bool} {steps : List (Layers.Step Reply)} {layers : Layers} (format : Format)
    (h : (loadNames link layers names).IsTold sources row names steps) :
    load names link format layers =
      { output := written (Row.report format (names.map row))
        fault := (loadNames link layers names).missed
        volume := layers.volume
        events := steps.flatMap (·.events) } := by
  unfold load
  dsimp only
  rw [h.unfailed, ← h.rows, ← h.events, Row.report_bare]

/-- No miss is left over if every name has a unit. -/
theorem Loading.IsTold.missed_of_found {sources : List Source} {row : String → Row}
    {names : List String} {steps : List (Layers.Step Reply)} {loading : Loading}
    (h : loading.IsTold sources row names steps) (hfound : ∀ name ∈ names, (row name).unit ≠ none) :
    loading.missed = none := by
  have hnone : (names.find? fun name => (row name).unit.isNone) = none := by
    rw [List.find?_eq_none]
    intro name hname
    rw [Option.isNone_iff_eq_none]
    exact hfound name hname
  have hmissed := h.missed
  rw [hnone] at hmissed
  exact Option.map_eq_none_iff.mp hmissed

/-- The miss is that of the first name that has no unit, however many come after it. -/
theorem Loading.IsTold.missed_of_first {sources : List Source} {row : String → Row}
    {before behind : List String} {name : String} {steps : List (Layers.Step Reply)}
    {loading : Loading} (h : loading.IsTold sources row (before ++ name :: behind) steps)
    (hfound : ∀ other ∈ before, (row other).unit ≠ none) (hnone : (row name).unit = none) :
    ∃ miss, loading.missed = some (.unitNotFound miss) ∧ miss.value = missAmong sources name := by
  have hfirst : ((before ++ name :: behind).find? fun name => (row name).unit.isNone) = some name := by
    rw [List.find?_eq_some_iff_append]
    refine ⟨by rw [hnone]; rfl, before, behind, rfl, ?_⟩
    intro other hother
    rw [Bool.not_eq_true', Option.isNone_eq_false_iff, Option.isSome_iff_ne_none]
    exact hfound other hother
  have hmissed := h.missed
  rw [hfirst] at hmissed
  obtain ⟨fault, hfault, hbare⟩ := Option.map_eq_some_iff.mp hmissed
  obtain ⟨miss, rfl, hmiss⟩ := Fault.miss_of_bare hbare
  exact ⟨miss, hfault, hmiss⟩

/-! ## The run -/

/-- The loader of a run when its sources are registered, over no host. -/
def started (arguments : Arguments) (settings : Settings) (volume : Volume) : Layers :=
  { volume := volume, layers := [⟨(openLoader arguments settings volume).loader, .none⟩] }

/-- The log of a run in which the registration of the sources is followed by these events. -/
def logged (environment : Environment) (arguments : Arguments) (settings : Settings)
    (volume : Volume) (events : List Event) : List String :=
  (told arguments.verbosity (.settingsUsed (environment.settingsFile arguments) ::
    ((openLoader arguments settings volume).events ++ events))).map (logLine settings)

theorem withLoader_of_ok {arguments : Arguments} {settings : Settings} {volume : Volume}
    (h : (openLoader arguments settings volume).reply = .ok ()) (action : Layers → Result) :
    withLoader arguments settings volume action =
      let result := action (started arguments settings volume)
      { result with events := (openLoader arguments settings volume).events ++ result.events } := by
  unfold withLoader started
  generalize openLoader arguments settings volume = turn at h ⊢
  obtain ⟨reply, loader, events⟩ := turn
  obtain rfl : reply = .ok () := h
  rfl

theorem withLoader_of_error {arguments : Arguments} {settings : Settings} {volume : Volume}
    {fault : Fault} (h : (openLoader arguments settings volume).reply = .error fault)
    (action : Layers → Result) :
    withLoader arguments settings volume action =
      { fault := some fault
        volume := volume
        events := (openLoader arguments settings volume).events } := by
  unfold withLoader
  generalize openLoader arguments settings volume = turn at h ⊢
  obtain ⟨reply, loader, events⟩ := turn
  obtain rfl : reply = .error fault := h
  rfl

/-- What a row shows of the bytes that were found for its name at a place. -/
structure Row.Shows (volume : Volume) (row : Row) (place : Place) (bytes : ByteArray) : Prop where
  table : row.table = [marked .ok row.name, detail "origin" place.origin.text,
    detail "domain" (place.domain volume).text, detail "size" (toString bytes.size ++ " bytes"),
    detail "sha256" (Bytes.Sha256.hexDigest bytes)]
  json : row.json = .object [("domain", .ofText? (place.domain volume).origin),
    ("found", .boolean true), ("name", .text row.name), ("origin", .text place.origin.text),
    ("package", Row.package (place.domain volume).package),
    ("sha256", .text (Bytes.Sha256.hexDigest bytes)), ("size", .number bytes.size)]
  /-- The name and the origin, and nothing else. -/
  plain : row.plain = row.name ++ "\t" ++ place.origin.text

/-- What a row shows if nothing was found, in each of the formats. -/
structure Row.ShowsNothing (row : Row) : Prop where
  table : row.table = [marked .error (row.name ++ " (not found)")]
  json : row.json = .object [("found", .boolean false), ("name", .text row.name)]
  plain : row.plain = row.name ++ "\t-"

theorem rowAmong_shows {volume : Volume} {limit : Nat} {sources : List Source} {name : String}
    {place : Place} {bytes : ByteArray} (h : Resolves volume limit sources name place bytes) :
    (rowAmong volume limit sources name).Shows volume place bytes := by
  have hunit : firstCopy? volume limit name (candidates sources name) =
      some (place.unit volume name bytes) := firstCopy?_candidates.mpr ⟨place, bytes, h, rfl⟩
  unfold rowAmong
  rw [hunit]
  exact ⟨rfl, rfl, rfl⟩

theorem Row.showsNothing {row : Row} (h : row.unit = none) : row.ShowsNothing := by
  obtain ⟨name, unit⟩ := row
  obtain rfl : unit = none := h
  exact ⟨rfl, rfl, rfl⟩

/-- What a run is to come to that loads these names from these sources, with this row for each
name. A row does not tell the identity of a domain, which nothing shows. -/
structure Reports (volume : Volume) (limit : Nat) (sources : List Source) (names : List String)
    (format : Format) (steps : List (Layers.Step Reply)) (log : List String) (row : String → Row)
    (outcome : Outcome) : Prop where
  named : ∀ name, (row name).name = name
  /-- A row shows what the sources resolve its name to. -/
  found : ∀ name place bytes, Resolves volume limit sources name place bytes →
    (row name).Shows volume place bytes
  missing : ∀ name, ¬ IsResolved volume limit sources name → (row name).ShowsNothing
  /-- There is one row for each name, in order. -/
  output : outcome.output = written (Row.report format (names.map row))
  /-- Every name is looked up in its turn, and its row says what came of it. -/
  replies : Replies sources row names steps
  resolved : (∀ name ∈ names, IsResolved volume limit sources name) →
    outcome.code = 0 ∧ outcome.report = log
  /-- The fault is that of the first name that is not resolved. -/
  unresolved : ∀ before name behind, names = before ++ name :: behind →
    (∀ other ∈ before, IsResolved volume limit sources other) →
    ¬ IsResolved volume limit sources name →
      outcome.code = 1 ∧ ∃ miss, miss.value = missAmong sources name ∧
        outcome.report = log ++ faultLines (.unitNotFound miss)
  volume : outcome.volume = volume

/-- A run that loads names. If every source can be opened, those of the settings before those of the
command line, it looks every name up and writes one row for each, which has the unit that the
sources resolve the name to, and it fails if a name has none, for the first such name. If a source
cannot be opened, it fails for the first such source and writes nothing. -/
theorem loaded_names_are_reported (environment : Environment) (words : List String)
    (arguments : Arguments) (volume : Volume) (settings : Settings) (names : List String)
    (link : Bool) (format : Format) (hvolume : volume.WellFormed)
    (hread : Arguments.read words environment.settingsPath = .ok arguments)
    (htask : arguments.task = .load names link format)
    (hloaded : (Settings.load volume (environment.settingsFile arguments)).1 = .ok settings) :
    (∀ sources, openAll volume settings.unitSuffix (listed settings arguments) = .ok sources →
      ∃ row, Reports volume settings.maxUnitSize sources names format
        (loads link (started arguments settings volume) names)
        (logged environment arguments settings volume
          ((loads link (started arguments settings volume) names).flatMap (·.events)))
        row (run environment words volume)) ∧
    (∀ fault, (listed settings arguments).findSome? (·.fault? volume settings.unitSuffix) =
        some fault →
      run environment words volume =
        { code := 1
          output := .empty
          report := logged environment arguments settings volume [] ++ faultLines fault
          volume := volume }) := by
  have hperform : perform arguments (environment.settingsFile arguments) settings volume =
      withLoader arguments settings volume (load names link format) := by
    rw [perform, htask]
  refine ⟨fun sources hopened => ?_, fun fault hfailed => ?_⟩
  · -- Every source can be opened. Then the loader is faithful to them, and its replies are those of
    -- a search through the sources, name by name.
    obtain ⟨hreply, hstocked⟩ := openLoader_of_opened hopened
    have hserves : (started arguments settings volume).Serves 0 volume .none
        (openLoader arguments settings volume).loader :=
      ⟨rfl, .none, Host.IsQuiet.succeeds trivial, rfl⟩
    obtain ⟨hreplies, htold⟩ := loadNames_told link names hserves (hstocked.isFaithful hvolume)
    rw [withLoader_of_ok hreply, load_of_told format htold] at hperform
    rw [run_of_loaded hread hloaded hperform]
    refine ⟨rowAmong volume settings.maxUnitSize sources, ?_⟩
    constructor
    case named => exact fun name => rfl
    case found => exact fun name place bytes h => rowAmong_shows h
    case missing => exact fun name h => Row.showsNothing (rowAmong_unit_eq_none_iff.mpr h)
    case output => rfl
    case replies => exact hreplies
    case resolved =>
      intro hfound
      rw [htold.missed_of_found fun name hname hnone =>
        rowAmong_unit_eq_none_iff.mp hnone (hfound name hname)]
      exact ⟨rfl, List.append_nil _⟩
    -- A run goes on after a name that is missing and fails for the first one at the end.
    case unresolved =>
      rintro before name behind rfl hfound hmissing
      obtain ⟨miss, hmissed, hmiss⟩ := htold.missed_of_first
        (fun other hother hnone => rowAmong_unit_eq_none_iff.mp hnone (hfound other hother))
        (rowAmong_unit_eq_none_iff.mpr hmissing)
      rw [hmissed]
      exact ⟨rfl, miss, hmiss, rfl⟩
    case volume => rfl
  · -- A source cannot be opened, so no name is looked up and nothing is written.
    rw [withLoader_of_error (openLoader_of_failed hfailed)] at hperform
    rw [run_of_loaded hread hloaded hperform]
    unfold logged
    rw [List.append_nil]
    rfl

/-- Two directories that have units, and settings that list the first one. -/
def stalls : Volume := [
  Edit.file "/units/config.toml" "[sources]\ndirectories = [\"/one\"]\n".toUTF8,
  .file "/one/a.unit" "x".toUTF8, .file "/two/a.unit" "y".toUTF8,
  .file "/two/b.unit" "z".toUTF8].foldl Edit.apply {}

/-- The sources, if the command line lists the second directory. -/
def stallSources : List Source :=
  [.directory ⟨"/one", [("a", "/one/a.unit")]⟩,
    .directory ⟨"/two", [("a", "/two/a.unit"), ("b", "/two/b.unit")]⟩]

private theorem wellFormed_stalls : stalls.WellFormed :=
  Volume.wellFormed_of_edits (by simp [Edit.IsClean])

private theorem load_stalls : (Settings.load stalls "/units/config.toml").1 =
    .ok { directories := ["/one"] } := by
  have hthere : stalls.exists? "/units/config.toml" = true := by cbv
  have htext : stalls.readText "/units/config.toml" =
      .ok "[sources]\ndirectories = [\"/one\"]\n" := by cbv
  have hread : Settings.ofToml "[sources]\ndirectories = [\"/one\"]\n" =
      .ok { directories := ["/one"] } := by decide +kernel
  unfold Settings.load Settings.loadFile
  rw [if_pos hthere, htext]
  dsimp only
  rw [hread]

private theorem opened_stalls : openAll stalls defaultUnitSuffix
    [.directory "/one", .directory "/two"] = .ok stallSources := by cbv

/-- Of two units of one name the one is found that comes first, a name that is asked for again has
the same row again, and a name that is not found does not end the run. A directory that is not there
does. -/
theorem loaded_names_are_reported_stalls :
    (run shelved ["load", "b", "c", "a", "b", "--format", "plain", "--dir", "/two"] stalls).output =
        written ["b\tdir:/two", "c\t-", "a\tdir:/one", "b\tdir:/two"] ∧
      (run shelved ["load", "b", "c", "a", "b", "--format", "plain", "--dir", "/two"] stalls).code =
        1 ∧
      (run shelved ["load", "a", "--dir", "/none"] stalls).output = .empty := by
  obtain ⟨hreports, -⟩ := loaded_names_are_reported shelved
    ["load", "b", "c", "a", "b", "--format", "plain", "--dir", "/two"]
    { task := .load ["b", "c", "a", "b"] false .plain, directories := ["/two"] } stalls
    { directories := ["/one"] } ["b", "c", "a", "b"] false .plain wellFormed_stalls (by cbv) rfl
    load_stalls
  obtain ⟨-, hfails⟩ := loaded_names_are_reported shelved ["load", "a", "--dir", "/none"]
    { task := .load ["a"] false .table, directories := ["/none"] } stalls
    { directories := ["/one"] } ["a"] false .table wellFormed_stalls (by cbv) rfl load_stalls
  obtain ⟨row, hrow⟩ := hreports stallSources opened_stalls
  have ha : Resolves stalls defaultMaxUnitSize stallSources "a" (.file "/one" "/one/a.unit")
      "x".toUTF8 := ⟨by cbv, .inl (isDirectoryCandidate_iff.mp rfl)⟩
  have hb : Resolves stalls defaultMaxUnitSize stallSources "b" (.file "/two" "/two/b.unit")
      "z".toUTF8 := ⟨by cbv, .inl (isDirectoryCandidate_iff.mp rfl)⟩
  have hc : ¬ IsResolved stalls defaultMaxUnitSize stallSources "c" := by
    rintro ⟨place, bytes, -, hfile | ⟨hentry, -⟩⟩
    · cases isDirectoryCandidate_iff.mpr hfile
    · cases isArchiveCandidate_iff.mpr hentry
  refine ⟨?_, ?_, ?_⟩
  · have hplain := hrow.output
    unfold Row.report at hplain
    simp only [List.map_cons, List.map_nil] at hplain
    rw [(hrow.found _ _ _ ha).plain, (hrow.found _ _ _ hb).plain, (hrow.missing _ hc).plain,
      hrow.named, hrow.named, hrow.named] at hplain
    exact hplain
  · exact (hrow.unresolved ["b"] "c" ["a", "b"] rfl (by simpa using ⟨_, _, hb⟩) hc).1
  · rw [hfails (.invalidSource "/none" .missingDirectory) (by cbv)]

/-- One directory with one unit. Nothing else is needed to tell a hit from a miss. -/
def stall : Volume := [Edit.file "/one/a.unit" "x".toUTF8].foldl Edit.apply {}

private theorem read_stall :
    Arguments.read ["load", "a", "--format", "plain", "--dir", "/one"] shelved.settingsPath =
    .ok { task := .load ["a"] false .plain, directories := ["/one"] } := by cbv

private theorem load_stall : (Settings.load stall "/units/config.toml").1 = .ok .standard := by
  have hnone : stall.exists? "/units/config.toml" = false := by cbv
  rw [Settings.load, hnone]
  rfl

private theorem perform_stall : (perform
    { task := .load ["a"] false .plain, directories := ["/one"] } "/units/config.toml" .standard
    stall).output = written ["a\tdir:/one"] := by cbv

/-- In the plain format a row does not show the domain of the unit. -/
theorem plain_rows_leave_domain_out :
    ¬ ∀ (environment : Environment) (words : List String) (arguments : Arguments) (volume : Volume)
      (settings : Settings) (names : List String) (link : Bool) (format : Format)
      (sources : List Source), volume.WellFormed →
      Arguments.read words environment.settingsPath = .ok arguments →
      arguments.task = .load names link format →
      (Settings.load volume (environment.settingsFile arguments)).1 = .ok settings →
      openAll volume settings.unitSuffix (listed settings arguments) = .ok sources →
      ∀ name ∈ names, ∀ place bytes,
        Resolves volume settings.maxUnitSize sources name place bytes →
        ∃ before behind : String, (run environment words volume).output =
          (before ++ (place.domain volume).text ++ behind).toUTF8 := by
  intro hall
  obtain ⟨before, behind, houtput⟩ := hall shelved _
    { task := .load ["a"] false .plain, directories := ["/one"] } stall .standard ["a"] false .plain
    [.directory ⟨"/one", [("a", "/one/a.unit")]⟩] (Volume.wellFormed_of_edits (by simp [Edit.IsClean]))
    read_stall rfl load_stall (by cbv) "a" List.mem_cons_self (.file "/one" "/one/a.unit") "x".toUTF8
    ⟨by cbv, .inl (isDirectoryCandidate_iff.mp rfl)⟩
  rw [run_of_loaded read_stall load_stall rfl] at houtput
  have houtput := perform_stall.symm.trans houtput
  have htext := congrArg Text.Utf8.decode houtput
  unfold written at htext
  rw [Text.Utf8.decode_encode, Text.Utf8.decode_encode] at htext
  have hchars := congrArg String.toList (Except.ok.inj htext)
  -- There is an f in the domain, and none in the row.
  have hrow : 'f' ∉ (unlines ["a\tdir:/one"]).toList := by decide
  rw [hchars, String.toList_append, String.toList_append] at hrow
  exact hrow (List.mem_append_left _ (List.mem_append_right _ (by decide)))

end Command

end LayeredUnits
