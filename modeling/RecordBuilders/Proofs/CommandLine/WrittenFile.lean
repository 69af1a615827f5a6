import RecordBuilders.CommandLine.FileTree
import RecordBuilders.Proofs.Success

/-! What writing a file does to a file tree: the path leads to the new content, and no other file
changes. -/
namespace RecordBuilders

/-- The file that a path leads to, be it there or not. -/
def Place.location? : Place → Option Location
  | .file location _ | .free location => some location
  | .directory => none

namespace FileTree
variable {t t' : FileTree} {path : Path} {location other : Location} {content : List UInt8}
  {place : Place}

theorem lookup_filter_ne {files : List (Location × List UInt8)} (h : other ≠ location) :
    (files.filter fun (file, _) => file != location).lookup other = files.lookup other := by
  induction files with
  | nil => rfl
  | cons entry files ih =>
    obtain ⟨file, old⟩ := entry
    by_cases hf : file = location
    · have hne : (other == file) = false := by simpa [hf] using h
      have hdropped : (file != location) = false := by simpa using hf
      rw [List.filter_cons_of_neg (by simp [hdropped]), ih, List.lookup_cons, hne]
    · have hkept : (file != location) = true := by simpa using hf
      rw [List.filter_cons_of_pos (by simp [hkept]), List.lookup_cons, List.lookup_cons, ih]

theorem lookup_put_self : (t.put location content).files.lookup location = some content := by
  simp [put]

theorem lookup_put_of_ne (h : other ≠ location) :
    (t.put location content).files.lookup other = t.files.lookup other := by
  have hne : (other == location) = false := by simpa using h
  rw [put, List.lookup_cons, hne]
  exact lookup_filter_ne h

/-- Directories stay when a file is written. -/
theorem isDirectory_put (h : t.isDirectory other = true) :
    (t.put location content).isDirectory other = true := by
  unfold isDirectory at h ⊢
  rcases Bool.or_eq_true_iff.mp h with h | h
  · exact Bool.or_eq_true_iff.mpr (Or.inl h)
  · refine Bool.or_eq_true_iff.mpr (Or.inr (List.any_eq_true.mpr ?_))
    obtain ⟨⟨file, old⟩, hm, hbelow⟩ := List.any_eq_true.mp h
    by_cases hf : file = location
    · subst hf
      exact ⟨(file, content), List.mem_cons_self, hbelow⟩
    · refine ⟨(file, old), List.mem_cons_of_mem _ (List.mem_filter.mpr ⟨hm, ?_⟩), hbelow⟩
      simpa using hf

/-- A file may be at the location: one is there, or at least no directory is. -/
def HasRoom (t : FileTree) (location : Location) : Prop :=
  t.files.lookup location = none → t.isDirectory location = false

/-- Names that do not lead up are looked for below the directory. -/
theorem walk_below {directory : Location} {name : String} {names : List String}
    (hup : ¬name = "..") (hshort : ¬name.utf8ByteSize > nameLimit) :
    t.walk directory (name :: names) =
      match t.files.lookup (directory ++ [name]) with
      | some content =>
        if names.isEmpty then .ok (.file (directory ++ [name]) content) else .error .notADirectory
      | none =>
        if t.isDirectory (directory ++ [name]) then t.walk (directory ++ [name]) names
        else if names.isEmpty then .ok (.free (directory ++ [name]))
        else .error .notFound :=
  (walk.eq_def _ _ _).trans ((if_neg hup).trans (if_neg hshort))

/-- After a file has been written, its path still leads to it. No directory on the way is in its
place, so that all are passed as before. -/
theorem walk_put {directory : Location} {names : List String}
    (h : t.walk directory names = .ok place) (hl : place.location? = some location) :
    t.HasRoom location ∧
      (t.put location content).walk directory names = .ok (.file location content) := by
  fun_induction FileTree.walk t directory names with
  | case1 =>
    cases h
    cases hl
  | case2 directory names ih =>
    obtain ⟨hroom, hwalk⟩ := ih h
    refine ⟨hroom, ?_⟩
    rw [← hwalk, walk.eq_def]
    simp only [if_true]
  | case3 => cases h
  | case4 directory name names hup hshort next old hfile hlast =>
    cases h
    obtain rfl : next = location := Option.some.inj hl
    refine ⟨fun hfree => absurd (hfile.symm.trans hfree) (by simp), ?_⟩
    rw [walk_below hup hshort, lookup_put_self]
    exact if_pos hlast
  | case5 => cases h
  | case6 directory name names hup hshort next hfree hdirectory ih =>
    -- There is a directory here and room for the file there, so these are two places.
    obtain ⟨hroom, hwalk⟩ := ih h
    have hne : next ≠ location := by
      intro he
      rw [he] at hfree hdirectory
      rw [hroom hfree] at hdirectory
      cases hdirectory
    refine ⟨hroom, ?_⟩
    rw [walk_below hup hshort, lookup_put_of_ne hne, hfree]
    exact (if_pos (isDirectory_put hdirectory)).trans hwalk
  | case7 directory name names hup hshort next hfree hdirectory hlast =>
    cases h
    obtain rfl : next = location := Option.some.inj hl
    refine ⟨fun _ => Bool.eq_false_iff.mpr hdirectory, ?_⟩
    rw [walk_below hup hshort, lookup_put_self]
    exact if_pos hlast
  | case8 => cases h

/-- The trees differ in at most one file: the one at the location, which has this content. -/
structure Rewritten (t t' : FileTree) (location : Location) (content : List UInt8) : Prop where
  found : t'.files.lookup location = some content
  others : ∀ other, other ≠ location → t'.files.lookup other = t.files.lookup other
  directories : t'.directories = t.directories
  workingDirectory : t'.workingDirectory = t.workingDirectory

theorem rewritten_put : Rewritten t (t.put location content) location content where
  found := lookup_put_self
  others _ h := lookup_put_of_ne h
  directories := rfl
  workingDirectory := rfl

/-- What a tree is once a file is written: the path leads to the one file that has changed. -/
structure Written (t : FileTree) (path : Path) (content : List UInt8) (t' : FileTree) : Prop where
  rewritten : ∃ location, Rewritten t t' location content ∧
    t'.find path = .ok (.file location content)
  read : t'.read path = .ok content

theorem find_put (h : t.find path = .ok place) (hl : place.location? = some location) :
    (t.put location content).find path = .ok (.file location content) := by
  unfold find at h ⊢
  split at h
  · cases h
  · next hshort =>
    rw [if_neg hshort]
    exact (walk_put h hl).2

theorem written_put (h : t.find path = .ok place) (hl : place.location? = some location) :
    Written t path content (t.put location content) where
  rewritten := ⟨location, rewritten_put, find_put h hl⟩
  read := by
    rw [FileTree.read, find_put h hl]
    rfl

theorem written_of_write (h : t.write path content = .ok t') : Written t path content t' := by
  obtain ⟨place, hplace, h⟩ := bind_eq_ok_iff.mp h
  cases place with
  | file location old =>
    cases h
    exact written_put hplace rfl
  | free location =>
    cases h
    exact written_put hplace rfl
  | directory => cases h

end FileTree
end RecordBuilders
