import RowBinding.CommandLine.Files

/-!
# Written files

Writing a file changes what is at its place and nothing else: every other file keeps its bytes, no
directory comes or goes, and so every path leads where it led before.
-/
namespace RowBinding.CommandLine

section Entries
variable {bytes : ByteArray} {entries entries' : Entries}

theorem lookup_cons_eq_ite (name other : String) (node : Node) (entries : Entries) :
    List.lookup other ((name, node) :: entries) =
      if other = name then some node else entries.lookup other := by
  rw [List.lookup_cons]
  by_cases h : other = name
  · simp [h]
  · rw [if_neg h, beq_false_of_ne h]

theorem lookup_set (name other : String) (node : Node) (entries : Entries) :
    (entries.set name node).lookup other =
      if other = name then some node else entries.lookup other := by
  induction entries with
  | nil => exact lookup_cons_eq_ite name other node []
  | cons entry entries ih =>
    obtain ⟨n, old⟩ := entry
    rw [Entries.set]
    split
    · next hn =>
      rw [lookup_cons_eq_ite, lookup_cons_eq_ite, hn]
      split <;> rfl
    · next hn =>
      rw [lookup_cons_eq_ite, lookup_cons_eq_ite, ih]
      by_cases h : other = n
      · rw [if_pos h, if_pos h, if_neg (by rwa [h])]
      · rw [if_neg h, if_neg h]

/-- Behind the name that is set there is the new node, and behind the others what was there. -/
theorem find?_set (name : String) (node : Node) (n : String) (place : Place) :
    Node.find? (n :: place) (.directory (entries.set name node)) =
      if n = name then node.find? place else Node.find? (n :: place) (.directory entries) := by
  rw [Node.find?, Node.find?, lookup_set]
  split <;> rfl

/-- Every place shows what it showed before a file was put at one of them: bytes, a directory, or
nothing. -/
theorem find?_put? {place : Place} (h : entries.put? bytes place = some entries') (other : Place) :
    (Node.find? other (.directory entries')).map Node.bytes? =
      if other = place then some (some bytes)
      else (Node.find? other (.directory entries)).map Node.bytes? := by
  induction place generalizing entries entries' other with
  | nil => cases h
  | cons name place ih =>
    cases other with
    | nil => rfl
    | cons n other =>
      rw [Entries.put?] at h
      split at h
      · next inner hlookup =>
        obtain ⟨inner', hinner, rfl⟩ := Option.map_eq_some_iff.1 h
        rw [find?_set]
        by_cases hn : n = name
        · subst n
          have hfound := ih hinner other
          simpa [Node.find?, hlookup] using hfound
        · simp [hn]
      · next hfile =>
        split at h
        · next hempty =>
          cases h
          obtain rfl := List.isEmpty_iff.1 hempty
          rw [find?_set]
          by_cases hn : n = name
          · subst n
            cases other with
            | nil => simp [Node.find?, Node.bytes?]
            | cons m other =>
              rcases hold : entries.lookup name with _ | ⟨old | inner⟩
              · simp [Node.find?, hold]
              · simp [Node.find?, hold]
              · exact (hfile inner hold).elim
          · simp [hn]
        · cases h

/-- No file is put where a directory is. -/
theorem find?_ne_directory_of_put? {place : Place} (h : entries.put? bytes place = some entries') :
    (Node.find? place (.directory entries)).map Node.bytes? ≠ some none := by
  induction place generalizing entries entries' with
  | nil => cases h
  | cons name place ih =>
    rw [Entries.put?] at h
    split at h
    · next inner hlookup =>
      obtain ⟨inner', hinner, -⟩ := Option.map_eq_some_iff.1 h
      rw [Node.find?, hlookup]
      exact ih hinner
    · next hfile =>
      split at h
      · next hempty =>
        obtain rfl := List.isEmpty_iff.1 hempty
        rcases hold : entries.lookup name with _ | ⟨old | inner⟩
        · simp [Node.find?, hold]
        · simp [Node.find?, hold, Node.bytes?]
        · exact (hfile inner hold).elim
      · cases h

end Entries

section Files
variable {files files' written : Files} {path text : String}

theorem get?_eq_join (files : Files) (place : Place) :
    files.get? place = ((files.node? place).map Node.bytes?).join := by
  rw [Files.get?]
  cases files.node? place <;> rfl

theorem isDirectory_iff (files : Files) (place : Place) :
    files.isDirectory place = true ↔ (files.node? place).map Node.bytes? = some none := by
  rw [Files.isDirectory]
  rcases files.node? place with _ | ⟨bytes | entries⟩ <;> simp [Node.bytes?]

theorem get?_of_isDirectory {place : Place} (h : files.isDirectory place = true) :
    files.get? place = none := by
  rw [get?_eq_join, (isDirectory_iff files place).1 h]
  rfl

/-- Where a path leads depends on the directories only. -/
theorem locate_congr (hwork : files.directory = files'.directory)
    (h : ∀ place, files.isDirectory place = files'.isDirectory place) (path : String) :
    files.locate path = files'.locate path := by
  have hwalk (names : List String) (here : Place) :
      files.walk here names = files'.walk here names := by
    induction names generalizing here with
    | nil => rfl
    | cons name names ih => rw [Files.walk, Files.walk, h, ih]
  simp only [Files.locate, hwork, hwalk]

theorem read?_eq_some_iff {bytes : ByteArray} :
    files.read? path = some bytes ↔ files.read path = .ok bytes := by
  rw [Files.read]
  cases files.read? path <;> simp

/-- The empty path leads to the working directory, which is no file. -/
theorem ne_empty_of_read? {bytes : ByteArray} (h : files.read? path = some bytes) : path ≠ "" := by
  rintro rfl
  obtain ⟨place, hplace, hread⟩ := Option.bind_eq_some_iff.1 h
  have hlocate : files.locate "" =
      if files.isDirectory files.directory then some files.directory else none := rfl
  rw [hlocate] at hplace
  split at hplace
  · next hdirectory =>
    cases hplace
    rw [get?_of_isDirectory hdirectory, ite_self] at hread
    cases hread
  · cases hplace

theorem write?_eq_some_iff :
    files.write? path text = some written ↔ files.write path text = .ok written := by
  rw [Files.write]
  cases files.write? path text <;> simp

/-- A text is written at the place where its path leads, before and after; the other files and all
directories are kept. -/
theorem exists_of_write (h : files.write path text = .ok written) :
    ∃ place, files.locate path = some place ∧ written.get? place = some text.toUTF8 ∧
      (∀ other, other ≠ place → written.get? other = files.get? other) ∧
      (∀ other, written.isDirectory other = files.isDirectory other) ∧
      written.locate path = some place := by
  rw [← write?_eq_some_iff] at h
  simp only [Files.write?, Option.bind_eq_bind] at h
  obtain ⟨place, hplace, h⟩ := Option.bind_eq_some_iff.1 h
  split at h
  · obtain ⟨entries, hput, h⟩ := Option.bind_eq_some_iff.1 h
    cases h
    have hshown (other : Place) := find?_put? hput other
    have hdirectory (other : Place) :
        Files.isDirectory { files with root := entries } other = files.isDirectory other := by
      rw [Bool.eq_iff_iff, isDirectory_iff, isDirectory_iff, Files.node?, Files.node?, hshown]
      split
      · next hother =>
        rw [hother]
        exact iff_of_false (by simp) (find?_ne_directory_of_put? hput)
      · rfl
    have hlocate : Files.locate { files with root := entries } path = files.locate path :=
      locate_congr (by rfl) hdirectory path
    refine ⟨place, hplace, ?_, fun other hother => ?_, hdirectory, hlocate.trans hplace⟩
    · rw [get?_eq_join, Files.node?, hshown, if_pos rfl]
      rfl
    · rw [get?_eq_join, get?_eq_join, Files.node?, Files.node?, hshown, if_neg hother]
  · cases h

end Files

end RowBinding.CommandLine
