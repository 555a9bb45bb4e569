import FactStore.FileTree

/-
  This file proves that a file that was just written is read
  with the content written to it, under the same path.

  Main statements include:
    * `FileTree.follow_put`
    * `FileTree.read_of_write`
-/

namespace FactStore

namespace FileTree

/- A file that was put at a place changes no other place. -/
theorem node_put_of_ne
    (tree : FileTree)
    {place other : FilePath}
    (content : ByteArray)
    (h : other ≠ place) :
    (tree.put place content).node other = tree.node other := by
  have hLookup :
      ∀ files : List (FilePath × ByteArray),
        (files.filter fun file => file.1 ≠ place).lookup other =
          files.lookup other := by
    intro files
    induction files with
    | nil => rfl
    | cons file files ih =>
        rcases file with ⟨found, bytes⟩
        by_cases hFound : found = place
        · subst hFound
          rw [List.filter_cons_of_neg (by simp), ih,
            List.lookup_cons, beq_false_of_ne h]
        · rw [List.filter_cons_of_pos (by simpa using hFound),
            List.lookup_cons, List.lookup_cons, ih]
  have hFiles :
      (tree.put place content).files.lookup other =
        tree.files.lookup other := by
    rw [put, List.lookup_cons, beq_false_of_ne h]
    exact hLookup tree.files
  rw [node, node, hFiles]
  rfl

/- A file that was put at a place stands there. -/
theorem node_put
    (tree : FileTree)
    (place : FilePath)
    (content : ByteArray) :
    (tree.put place content).node place = .file content := by
  simp [node, put]

/-
  A path leads where it led before a file was put at a place
  that is no directory: no directory on the way is replaced.
-/
theorem follow_put
    {tree : FileTree}
    {place : FilePath}
    (content : ByteArray)
    (hPlace : tree.node place ≠ .directory)
    (parts : List String) :
    ∀ {start stop : FilePath},
      tree.follow start parts = .ok stop →
        (tree.put place content).follow start parts =
          .ok stop := by
  induction parts with
  | nil => exact fun h => h
  | cons part rest ih =>
      intro start stop hFollow
      rw [follow] at hFollow ⊢
      cases hStart : tree.node start with
      | file bytes =>
          rw [hStart] at hFollow
          cases hFollow
      | missing =>
          rw [hStart] at hFollow
          cases hFollow
      | directory =>
          have hNe : start ≠ place := by
            rintro rfl
            exact hPlace hStart
          rw [node_put_of_ne tree content hNe, hStart]
          rw [hStart] at hFollow
          simp only at hFollow ⊢
          split at hFollow
          · cases hFollow
          · rename_i hShort
            rw [if_neg hShort]
            exact ih hFollow

/-
  A file can be created where a path leads, unless there is a
  directory.
-/
theorem follow_of_creatable
    {tree : FileTree}
    {path : String}
    {place : FilePath}
    (h : tree.creatable path = .ok place) :
    tree.node place ≠ .directory ∧
      ∃ parts,
        FilePath.checkedParts path = .ok parts ∧
          tree.follow (FilePath.origin path) parts =
            .ok place := by
  unfold creatable at h
  cases hParts : FilePath.checkedParts path with
  | error fault =>
      rw [hParts] at h
      cases h
  | ok parts =>
      simp only [hParts, bind, Except.bind] at h
      split at h
      · split at h
        · cases h
        · cases h
      · cases hFollow :
            tree.follow (FilePath.origin path) parts with
        | error fault =>
            simp only [hFollow] at h
            cases h
        | ok stop =>
            simp only [hFollow] at h
            split at h
            · cases h
            · rename_i hNode
              cases h
              exact ⟨hNode, parts, rfl, hFollow⟩

/- What is written to a file is read from it. -/
theorem read_of_write
    {tree tree' : FileTree}
    {path : String}
    {content : ByteArray}
    (h : tree.write path content = .ok tree') :
    tree'.read path = .ok content := by
  unfold write at h
  cases hPlace : tree.creatable path with
  | error fault =>
      rw [hPlace] at h
      cases h
  | ok place =>
      rw [hPlace] at h
      cases h
      rcases follow_of_creatable hPlace with
        ⟨hNode, parts, hParts, hFollow⟩
      have hSame :
          (tree.put place content).follow
            (FilePath.originIn [] path) parts = .ok place :=
        follow_put content hNode parts hFollow
      simp only [read, readFrom, hParts, hSame, bind, Except.bind,
        node_put]
      rfl

end FileTree

end FactStore
