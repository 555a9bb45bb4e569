import FactStore.Packages.Config.Reader
import FactStore.Proofs.Facts.File

/-
  This file proves that the package that reads settings skips
  a file that is missing: what the files around it and the
  environment give stays as it is, and so does any fault of
  theirs.  It also says what one file of text gives.

  Main statements include:
    * `Config.skipsMissing_package`
    * `Config.ofFile_of_parsed`
-/

namespace FactStore

------------------------------------------------------------
-- Missing Files
------------------------------------------------------------

/- A file is missing where no file has its name. -/
theorem FileTree.lacks_of_names
    {files : FileTree}
    {name : String}
    (hParts : FilePath.checkedParts name = .ok [name])
    (hName : name ∉ ["", ".", ".."])
    (hOther :
      ∀ file ∈ files.files, file.1.getLast? ≠ some name) :
    files.Lacks name := by
  intro up content hRead
  have hStep :
      ∀ place, FilePath.step place name = place ++ [name] := by
    intro place
    simp only [List.mem_cons, not_or] at hName
    simp [FilePath.step, FilePath.staysInPlace, hName.1, hName.2.1,
      hName.2.2.1]
  have hLookup :
      ∀ place, files.files.lookup (place ++ [name]) = none := by
    intro place
    rw [List.lookup_eq_none_iff]
    intro file hFile
    rw [bne_iff_ne]
    intro hSame
    apply hOther file hFile
    rw [← hSame, List.getLast?_concat]
  have hNode :
      ∀ place bytes, files.node (place ++ [name]) ≠ .file bytes := by
    intro place bytes
    unfold FileTree.node
    rw [hLookup]
    simp only
    split_ifs <;> exact FileNode.noConfusion
  let origin := FilePath.originIn (FilePath.ancestor up) name
  have hFollow :
      ∀ place, files.follow origin [name] = .ok place →
        place = origin ++ [name] := by
    intro place hPlace
    simp only [FileTree.follow, hStep] at hPlace
    grind
  unfold FileTree.readFrom at hRead
  rw [hParts] at hRead
  cases hPlace : files.follow origin [name] with
  | error fault =>
      simp [bind, Except.bind, origin, hPlace] at hRead
  | ok place =>
      simp only [bind, Except.bind, origin, hPlace] at hRead
      rw [hFollow place hPlace] at hRead
      split at hRead
      · rename_i hFile
        exact hNode _ _ hFile
      · cases hRead
      · cases hRead

/-
  A package skips missing files if each of them leaves what
  was merged before it.
-/
theorem ConfigPackage.skipsMissing_of_file
    {package : ConfigPackage}
    (hFile :
      ∀ {files : FileTree} {path}, files.Lacks path →
        ∀ known, package.file files path known = .ok known) :
    package.SkipsMissing := by
  intro files environment before path after h
  have hMerge :
      Settings.merge package files environment
          (before ++ path :: after) =
        Settings.merge package files environment
          (before ++ after) := by
    simp only [Settings.merge, List.foldlM_append,
      List.foldlM_cons, hFile h]
    rfl
  rw [Settings.ofSources, hMerge]
  rfl

namespace Config

variable {directory : List String}
variable {files : FileTree}
variable {path : String}

------------------------------------------------------------
-- Missing Files
------------------------------------------------------------

/- The search for a file ends where no directory has it. -/
theorem findFile?_of_lacks
    (h : files.Lacks path) :
    findFile? directory files path = none := by
  rw [findFile?, List.findSome?_eq_none_iff]
  intro up _
  split_ifs
  · cases hRead :
        files.readFrom (FilePath.ancestor up) path with
    | error fault => rfl
    | ok content => exact absurd hRead (h up content)
  · rfl

/- A missing file adds nothing to the sources before it. -/
theorem addFile_of_lacks
    (h : files.Lacks path)
    (known : Merged) :
    known.addFile directory files path = known := by
  rw [Merged.addFile, findFile?_of_lacks h]

theorem skipsMissing_package
    (directory : List String) :
    (package directory).SkipsMissing :=
  ConfigPackage.skipsMissing_of_file fun h known =>
    congrArg Except.ok (addFile_of_lacks h known)

------------------------------------------------------------
-- Files of Text
------------------------------------------------------------

/- A file of text gives the entries that its document has. -/
theorem fileValues_of_parsed
    {source : Source}
    {text : String}
    {items : List (String × Toml.Item)}
    {entries : List (String × Value)}
    (hParsed : Toml.parse? text = some items)
    (hEntries : Value.ofEntries? source items = some entries) :
    fileValues source text.toUTF8 =
      .ok (.table source entries) := by
  have hDocument :
      Value.ofDocument? source text =
        some (.table source entries) := by
    rw [Value.ofDocument?, hParsed]
    simp only [Option.bind_eq_bind, Option.bind_some, hEntries]
    rfl
  simp only [fileValues, FactFile.fromUTF8?_toUTF8, document,
    hDocument]

/- What was merged is refused for its own fault. -/
theorem extract_package
    (known : Merged) :
    Settings.extract (package directory) known =
      (known.bind Settings.ofValue).mapError
        fun fault => .error (.config fault.message) := by
  have hExtract :
      (package directory).extract known =
        .ok ((known.bind Settings.ofValue).mapError Fault.message) :=
    rfl
  unfold Settings.extract
  rw [hExtract]
  cases known.bind Settings.ofValue <;> rfl

/-
  Without variables, the settings of a file are those of the
  entries that its document has.
-/
theorem ofFile_of_parsed
    {up : Nat}
    {text : String}
    {items : List (String × Toml.Item)}
    {entries : List (String × Value)}
    (hFound :
      findFile? directory files path = some (up, text.toUTF8))
    (hParsed : Toml.parse? text = some items)
    (hEntries :
      Value.ofEntries? (.file (nameOf up path)) items =
        some entries) :
    Settings.ofFile (package directory) files [] path =
      (Settings.ofValue
        (.table (.environment Settings.variablePrefix)
          (Value.mergeEntries [] entries))).mapError
        fun fault => .error (.config fault.message) := by
  let start : Merged := .ok (.table .text [])
  let none : Value :=
    .table (.environment Settings.variablePrefix) []
  have hMerged :
      (start.addFile directory files path).add (.ok none) =
        .ok
          (.table (.environment Settings.variablePrefix)
            (Value.mergeEntries [] entries)) := by
    rw [Merged.addFile, hFound]
    simp only [fileValues_of_parsed hParsed hEntries, start, none,
      Merged.add, Value.merge, Value.mergeEntries]
  change
    Settings.extract (package directory)
      ((start.addFile directory files path).add (.ok none)) = _
  rw [hMerged, extract_package]
  rfl

end Config

end FactStore
