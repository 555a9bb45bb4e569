import FactStore.Packages
import FactStore.Proofs.Config.Sources
import FactStore.Proofs.Program.RunAll

/-
  This file compares two ways to run a program with the
  default configuration file: one names the file, the other
  leaves it to be found.  They do the same as long as the
  file and the environment give settings.  If they are
  refused, then only the first fails; the second goes on
  under the default settings.  This holds for all packages
  that skip missing files.

  Key definitions include:
    * `CommandLine.Result.Alike`

  Main statements include:
    * `CommandLine.execute_named_of_refused`
    * `CommandLine.run_eq_named_unless_refused`
    * `CommandLine.run_differs_from_named`
-/

namespace FactStore

/- The default files come to the first where there is no second. -/
theorem Settings.load_eq_ofFile
    {package : ConfigPackage}
    (hMissing : package.SkipsMissing)
    {files : FileTree}
    (hLocal : files.Lacks "factlayer.local.toml")
    (environment : Environment) :
    load package files environment =
      ofFile package files environment "factlayer.toml" :=
  hMissing files environment ["factlayer.toml"] _ [] hLocal

namespace CommandLine

variable {packages : Packages}
variable {files : FileTree}
variable {environment : Environment}

------------------------------------------------------------
-- Settings of a Command
------------------------------------------------------------

/- What two ways of running a program have in common. -/
structure Result.Alike (r r' : Result) : Prop where
  code : r.ending.code = r'.ending.code
  printed : r.printed = r'.printed
  files : r.files = r'.files

/- The settings of a file that is right are those it gives. -/
theorem settingsOf_none_of_not_refused
    (hMissing : packages.config.SkipsMissing)
    (hLocal : files.Lacks "factlayer.local.toml")
    (hRight :
      ¬ Settings.Refused packages.config files environment
        "factlayer.toml") :
    settingsOf packages files environment none =
      settingsOf packages files environment
        (some "factlayer.toml") := by
  simp only [settingsOf, Settings.load_eq_ofFile hMissing hLocal]
  cases hGiven :
      Settings.ofFile packages.config files environment
        "factlayer.toml" with
  | ok settings => rfl
  | error f =>
      cases f with
      | violation v => rfl
      | error e => exact absurd ⟨e, hGiven⟩ hRight

/- A refused file gives way to the defaults if none is named. -/
theorem settingsOf_none_of_refused
    (hMissing : packages.config.SkipsMissing)
    (hLocal : files.Lacks "factlayer.local.toml")
    (hRefused :
      Settings.Refused packages.config files environment
        "factlayer.toml") :
    settingsOf packages files environment none = .ok {} := by
  rcases hRefused with ⟨e, hGiven⟩
  simp only [settingsOf, Settings.load_eq_ofFile hMissing hLocal,
    hGiven]

/- A named file that is refused ends the command, and is named. -/
theorem settingsOf_some_of_refused
    {path : String}
    (hRefused :
      Settings.Refused packages.config files environment path) :
    ∃ causes,
      settingsOf packages files environment (some path) =
        .error
          (.failed
            ⟨"loading configuration from " ++ path, causes⟩) := by
  rcases hRefused with ⟨e, hGiven⟩
  simp only [settingsOf, hGiven]
  exact ⟨_, rfl⟩

------------------------------------------------------------
-- Commands and Their Settings
------------------------------------------------------------

variable {κ : Type}
variable {host : Host κ}
variable {registry : Registry κ}
variable {arguments : List String}
variable {c : Command}

/- Two ways to ask for one command under the same settings. -/
theorem execute_eq_of_settingsOf_eq
    {arguments' : List String}
    {config config' : Option String}
    (hCommand : packages.arguments arguments = .ok ⟨config, c⟩)
    (hCommand' : packages.arguments arguments' = .ok ⟨config', c⟩)
    (hSettings :
      settingsOf packages files environment config =
        settingsOf packages files environment config') :
    execute host packages registry arguments environment files =
      execute host packages registry arguments' environment
        files := by
  simp only [execute, hCommand, hCommand', hSettings]

/- Without a file to name, a refused one counts for nothing. -/
theorem execute_of_refused
    (hCommand : packages.arguments arguments = .ok ⟨none, c⟩)
    (hMissing : packages.config.SkipsMissing)
    (hLocal : files.Lacks "factlayer.local.toml")
    (hRefused :
      Settings.Refused packages.config files environment
        "factlayer.toml") :
    execute host packages registry arguments environment files =
      logAndPerform host packages registry {} environment files
        c := by
  simp only [execute, hCommand,
    settingsOf_none_of_refused hMissing hLocal hRefused]

/- With a named file that is refused nothing is done. -/
theorem execute_named_of_refused
    {path : String}
    (hCommand : packages.arguments arguments = .ok ⟨some path, c⟩)
    (hRefused :
      Settings.Refused packages.config files environment path) :
    ∃ causes,
      execute host packages registry arguments environment files =
        ⟨.failed
          ⟨"loading configuration from " ++ path, causes⟩,
          "", files⟩ := by
  rcases settingsOf_some_of_refused hRefused with
    ⟨causes, hSettings⟩
  refine ⟨causes, ?_⟩
  simp only [execute, hCommand, hSettings]

/-
  Under the default settings the built-in program succeeds
  on a file of pairs in the working directory.
-/
theorem ending_perform_closure
    {text : String}
    {entries : List (List Char × Nat)}
    {place : FilePath}
    (hRead :
      files.read (FilePath.join "." "edge.facts") =
        .ok text.toUTF8)
    (hPath :
      files.creatable (FilePath.join "." "path.csv") = .ok place)
    (hEntries :
      FactFile.entries 1 (FactFile.textLines text.toList) =
        entries)
    (hPairs : Program.firstOther entries = none)
    (hRoom :
      (Program.pairsOf entries).flatten.toFinset.card ≤
        SymbolTable.capacity) :
    (perform Host.none Registry.untouched {} files
      (.run "transitive_closure" {})).ending = .success := by
  subst hEntries
  have hMade :
      ∃ p r s,
        Action.run (Program.closure default) (.ofFiles files) =
          (.ok p, s) ∧
        Registry.untouched.make? Host.none "transitive_closure"
          (.ofFiles files) = (.ok (some p), r, s) ∧
        s.files = files ∧
        p.threads = 1 :=
    ⟨_, _, _, rfl, rfl, rfl, rfl⟩
  rcases hMade with ⟨p, r, s, hNew, hMake, hFiles, hThreads⟩
  have h := Program.untouched_closure hNew
  rw [← hFiles] at hRead hPath
  rcases
      (h.loadAll_spec hRead (FactFile.fromUTF8?_toUTF8 text)).2
        hRoom with
    ⟨hOk, _, hLoaded⟩
  have hRan := (h.runAll_of_loaded (hOk hPairs) hLoaded hPath).1
  have hRunProgram : runProgram {} {} p = p.runAll "." "." none := by
    change ({ p with threads := 1 } : Program).runAll _ _ _ = _
    rw [← hThreads]
    rfl
  have hOutcome :
      ∃ s',
        Action.run (p.runAll "." "." none) s = (.ok (), s') :=
    ⟨_, Prod.ext hRan rfl⟩
  rcases hOutcome with ⟨s', hRun⟩
  have hWork :
      Action.run (runAndDump {} {} p) s = (.ok (.ok (), ""), s') := by
    rw [runAndDump, hRunProgram, Action.run_bind, hRun]
    rfl
  simp only [perform, onProgram, hMake, hWork]

------------------------------------------------------------
-- Running with the Default File
------------------------------------------------------------

/-
  A program is run without a configuration file to name, and
  there is no local one.  With the default file named, the run
  is the same, and so is what it reports, unless that file is
  refused.  Then the command that names it fails: it prints
  nothing and touches no file.  The one that names none runs
  the program under the default settings instead.
-/
theorem run_eq_named_unless_refused
    (host : Host κ)
    (registry : Registry κ)
    {named : List String}
    {name : String}
    {options : RunOptions}
    (hMissing : packages.config.SkipsMissing)
    (hLocal : files.Lacks "factlayer.local.toml")
    (hRun :
      packages.arguments arguments =
        .ok ⟨none, .run name options⟩)
    (hNamed :
      packages.arguments named =
        .ok ⟨some "factlayer.toml", .run name options⟩)
    (environment : Environment) :
    let refused :=
      Settings.Refused packages.config files environment
        "factlayer.toml"
    let implicit :=
      execute host packages registry arguments environment files
    let explicit :=
      execute host packages registry named environment files
    (¬ refused → implicit = explicit) ∧
      (refused →
        explicit.ending.code = 1 ∧ explicit.printed = "" ∧
          explicit.files = files ∧
          implicit =
            logAndPerform host packages registry {} environment
              files (.run name options)) := by
  intro refused implicit explicit
  refine ⟨fun hRight => ?_, fun hRefused => ?_⟩
  · exact
      execute_eq_of_settingsOf_eq hRun hNamed
        (settingsOf_none_of_not_refused hMissing hLocal hRight)
  · have hExplicit :
        ∃ causes,
          explicit =
            ⟨.failed
              ⟨"loading configuration from factlayer.toml",
                causes⟩, "", files⟩ :=
      execute_named_of_refused hNamed hRefused
    rcases hExplicit with ⟨causes, hExplicit⟩
    rw [hExplicit]
    exact
      ⟨rfl, rfl, rfl,
        execute_of_refused hRun hMissing hLocal hRefused⟩

/- Four threads, set in the default file, need no mention of it. -/
theorem run_eq_named_unless_refused_fourThreads :
    let text := "[program]\nnum_threads = 4\n"
    let files : FileTree :=
      ⟨[(["factlayer.toml"], text.toUTF8)], []⟩
    let run := fun arguments =>
      execute Host.none (.standard ["work"] "") Registry.untouched
        arguments [] files
    run ["run", "transitive_closure"] =
      run ["run", "transitive_closure", "-c", "factlayer.toml"] := by
  intro text files run
  let packages := Packages.standard ["work"] ""
  have hRun :
      packages.arguments ["run", "transitive_closure"] =
        .ok ⟨none, .run "transitive_closure" {}⟩ := by
    cbv
  have hNamed :
      packages.arguments
          ["run", "transitive_closure", "-c", "factlayer.toml"] =
        .ok ⟨some "factlayer.toml",
          .run "transitive_closure" {}⟩ := by
    cbv
  have hLocal : files.Lacks "factlayer.local.toml" :=
    FileTree.lacks_of_names (by cbv) (by decide) (by simp [files])
  have hFound :
      Config.findFile? ["work"] files "factlayer.toml" =
        some (0, text.toUTF8) := rfl
  have hParsed :
      Toml.parse? text =
        some
          [("program",
            .table .header
              [("num_threads", .scalar (.integer 4))])] := by
    cbv
  have hGiven :
      Settings.ofFile packages.config files [] "factlayer.toml" =
        .ok { program := { threads := 4 } } :=
    Config.ofFile_of_parsed hFound hParsed rfl
  have hRight :
      ¬ Settings.Refused packages.config files []
        "factlayer.toml" := by
    rintro ⟨e, hRefused⟩
    rw [hGiven] at hRefused
    cases hRefused
  exact
    (run_eq_named_unless_refused Host.none Registry.untouched
      (Config.skipsMissing_package ["work"]) hLocal hRun hNamed
      []).1 hRight

/-
  A number of threads in words is refused where the file is
  named, and passed over where it is not.
-/
theorem run_differs_from_named :
    let text := "[program]\nnum_threads = \"four\"\n"
    let files : FileTree :=
      ⟨[(["factlayer.toml"], text.toUTF8),
        (["edge.facts"], "a\tb\n".toUTF8)], []⟩
    let packages := Packages.standard ["work"] ""
    let run := fun arguments =>
      execute Host.none packages Registry.untouched arguments []
        files
    let implicit := run ["run", "transitive_closure"]
    let explicit :=
      run ["--config", "factlayer.toml", "run", "transitive_closure"]
    packages.config.SkipsMissing ∧
      files.Lacks "factlayer.local.toml" ∧
      implicit.ending.code = 0 ∧ explicit.ending.code = 1 ∧
      ¬ implicit.Alike explicit := by
  intro text files packages run implicit explicit
  have hMissing : packages.config.SkipsMissing :=
    Config.skipsMissing_package ["work"]
  have hRun :
      packages.arguments ["run", "transitive_closure"] =
        .ok ⟨none, .run "transitive_closure" {}⟩ := by
    cbv
  have hNamed :
      packages.arguments
          ["--config", "factlayer.toml", "run",
            "transitive_closure"] =
        .ok ⟨some "factlayer.toml",
          .run "transitive_closure" {}⟩ := by
    cbv
  have hLocal : files.Lacks "factlayer.local.toml" :=
    FileTree.lacks_of_names (by cbv) (by decide) (by simp [files])
  have hFound :
      Config.findFile? ["work"] files "factlayer.toml" =
        some (0, text.toUTF8) := rfl
  have hParsed :
      Toml.parse? text =
        some
          [("program",
            .table .header
              [("num_threads", .scalar (.text "four"))])] := by
    cbv
  have hRefused :
      Settings.Refused packages.config files []
        "factlayer.toml" :=
    ⟨_, Config.ofFile_of_parsed hFound hParsed rfl⟩
  have hEntries :
      FactFile.entries 1 (FactFile.textLines "a\tb\n".toList) =
        [(['a', '\t', 'b'], 1)] := by
    cbv
  have hPairs :
      Program.firstOther [(['a', '\t', 'b'], 1)] = none := by
    cbv
  have hRoom :
      (Program.pairsOf
        [(['a', '\t', 'b'], 1)]).flatten.toFinset.card ≤
          SymbolTable.capacity :=
    (List.toFinset_card_le _).trans (by decide)
  have hLog :
      ∃ setup,
        LoggingSettings.start packages.log {} [] = .ok setup :=
    ⟨_, rfl⟩
  have hImplicit : implicit.ending.code = 0 := by
    have hEnding :
        (perform Host.none Registry.untouched {} files
          (.run "transitive_closure" {})).ending = .success :=
      ending_perform_closure rfl rfl hEntries hPairs hRoom
    rcases hLog with ⟨setup, hSetup⟩
    simp only [implicit, run,
      execute_of_refused hRun hMissing hLocal hRefused,
      logAndPerform, hSetup, hEnding, Ending.code]
  have hExplicit : explicit.ending.code = 1 := by
    have hFailed :
        ∃ causes,
          explicit =
            ⟨.failed
              ⟨"loading configuration from factlayer.toml",
                causes⟩, "", files⟩ :=
      execute_named_of_refused hNamed hRefused
    rcases hFailed with ⟨causes, hFailed⟩
    rw [hFailed]
    rfl
  refine
    ⟨hMissing, hLocal, hImplicit, hExplicit, fun hAlike => ?_⟩
  have hCodes := hAlike.code
  rw [hImplicit, hExplicit] at hCodes
  cases hCodes

end CommandLine

end FactStore
