import Mathlib.Data.List.DropRight
import ContentPolicy.File.Tree
import ContentPolicy.Proofs.Runs

/-!
Reading back what was written into a tree. Where a path leads depends only on which names lead to
directories, and a file takes the place of no directory; so the path that a file was written to
leads to that file.
-/

namespace ContentPolicy

namespace FileTree

def HasDirectory (tree : FileTree) (names : List String) : Prop :=
  ∃ entries, tree.at? names = some (.directory entries)

variable {tree next : FileTree} {here names parts : List String} {bytes : List UInt8}

theorem hasDirectory_cons_iff {name : String} {entries : List (String × FileTree)} :
    HasDirectory (.directory entries) (name :: names) ↔
      ∃ inner, SortedMap.find name entries = some inner ∧ inner.HasDirectory names := by
  simp only [HasDirectory, at?, Option.bind_eq_some_iff]
  exact ⟨fun ⟨es, inner, found, there⟩ => ⟨inner, found, es, there⟩,
    fun ⟨inner, found, es, there⟩ => ⟨es, inner, found, there⟩⟩

theorem not_hasDirectory_file (names : List String) : ¬HasDirectory (.file bytes) names := by
  rintro ⟨entries, found⟩
  cases names with
  | nil => cases found
  | cons name rest => cases found

theorem any_isDirectory_iff : (tree.at? names).any isDirectory = true ↔ tree.HasDirectory names := by
  rw [HasDirectory]
  cases tree.at? names with
  | none => exact iff_of_false Bool.false_ne_true nofun
  | some found =>
      cases found with
      | file bytes => exact iff_of_false Bool.false_ne_true nofun
      | directory entries => exact iff_of_true rfl ⟨entries, rfl⟩

/-! ### What putting a tree changes -/

/-- What is put beside the directories of a tree, or in the place of a file, leaves them where they
are. -/
theorem hasDirectory_put (new : FileTree) (free : ¬tree.HasDirectory names) {other : List String}
    (there : tree.HasDirectory other) : (tree.put names new).HasDirectory other := by
  induction names generalizing tree other with
  | nil =>
      cases tree with
      | file bytes => exact absurd there (not_hasDirectory_file other)
      | directory entries => exact absurd ⟨entries, rfl⟩ free
  | cons name rest ih =>
      cases tree with
      | file bytes => exact there
      | directory entries =>
          rw [put]
          cases other with
          | nil => exact ⟨_, rfl⟩
          | cons first later =>
              obtain ⟨inner, found, below⟩ := hasDirectory_cons_iff.mp there
              apply hasDirectory_cons_iff.mpr
              by_cases same : first = name
              · subst same
                refine ⟨_, SortedMap.find_place_self first _ entries, ?_⟩
                rw [found]
                exact ih (fun taken => free (hasDirectory_cons_iff.mpr ⟨inner, found, taken⟩)) below
              · exact ⟨inner, (SortedMap.find_place_ne _ _ _ _ same).trans found, below⟩

theorem at?_put {above : List String} (there : tree.HasDirectory above) (name : String)
    (new : FileTree) : (tree.put (above ++ [name]) new).at? (above ++ [name]) = some new := by
  induction above generalizing tree with
  | nil =>
      obtain ⟨entries, root⟩ := there
      cases root
      simp [put, at?, SortedMap.find_place_self]
  | cons first rest ih =>
      cases tree with
      | file bytes => exact absurd there (not_hasDirectory_file _)
      | directory entries =>
          obtain ⟨inner, found, below⟩ := hasDirectory_cons_iff.mp there
          rw [List.cons_append, put, at?, SortedMap.find_place_self, Option.bind_some, found]
          exact ih below

/-! ### Where paths lead -/

theorem locate_append (front rest : List String) :
    tree.locate here (front ++ rest) = tree.locate here front >>= (tree.locate · rest) := by
  induction front generalizing here with
  | nil => rfl
  | cons part front ih =>
      rw [List.cons_append, locate, locate]
      split
      · rfl
      · rfl
      · split_ifs
        · exact ih
        · exact ih
        · rfl
        · exact ih

theorem hasDirectory_of_locate {part : String}
    (located : tree.locate here (part :: parts) = .ok names) : tree.HasDirectory here := by
  rw [locate] at located
  split at located
  · cases located
  · cases located
  · rename_i entries found
    exact ⟨entries, found⟩

theorem locate_of_directories (kept : ∀ names, tree.HasDirectory names → next.HasDirectory names)
    (located : tree.locate here parts = .ok names) : next.locate here parts = .ok names := by
  induction parts generalizing here with
  | nil => exact located
  | cons part rest ih =>
      obtain ⟨entries, found⟩ := hasDirectory_of_locate located
      obtain ⟨later, still⟩ := kept here ⟨entries, found⟩
      rw [locate, found] at located
      rw [locate, still]
      split_ifs at located ⊢
      · exact ih located
      · exact ih located
      · exact ih located

theorem eq_of_locate_dot (located : tree.locate here ["."] = .ok names) : names = here := by
  obtain ⟨entries, found⟩ := hasDirectory_of_locate located
  rw [locate, found] at located
  cases located
  rfl

theorem eq_of_locate_name {name : String} (named : isNameless name = false)
    (located : tree.locate here [name] = .ok names) : names = here ++ [name] := by
  have notDots : name ≠ ".." := by
    rintro rfl
    exact absurd named (by decide)
  obtain ⟨entries, found⟩ := hasDirectory_of_locate located
  simp only [locate, found, if_neg notDots, named, if_neg Bool.false_ne_true] at located
  split_ifs at located
  cases located
  rfl

/-- The last piece of a text between slashes is nothing only behind a slash. -/
theorem getLast?_of_splitOn {cs : List Char} (ending : (cs.splitOn '/').getLast? = some []) :
    cs = [] ∨ cs.getLast? = some '/' := by
  induction cs with
  | nil => exact .inl rfl
  | cons c cs ih =>
      obtain ⟨piece, rest, pieces⟩ := List.exists_cons_of_ne_nil (List.splitOn_ne_nil '/' cs)
      rw [List.splitOn_cons_eq_if_modifyHead, pieces] at ending
      rw [pieces] at ih
      right
      split_ifs at ending with slash
      · rcases ih ending with rfl | last
        · exact congrArg some (eq_of_beq slash)
        · rw [List.getLast?_cons, last, Option.getD_some]
      · cases rest with
        | nil => cases ending
        | cons later rest =>
            rcases ih ending with rfl | last
            · cases pieces
            · rw [List.getLast?_cons, last, Option.getD_some]

theorem pathParts_of_name {path name : String} {above : List String}
    (notEmpty : path.isEmpty = false)
    (notSlash : path.endsWith "/" = false)
    (last : (pathParts path).reverse.dropWhile (· = "") = name :: above) :
    pathParts path = above.reverse ++ [name] := by
  have named : ∀ part ∈ (pathParts path).reverse.head?, part ≠ "" := by
    intro part first empty
    rw [List.head?_reverse, pathParts, List.getLast?_map] at first
    obtain ⟨piece, ending, rfl⟩ := Option.map_eq_some_iff.mp first
    obtain rfl : piece = [] := by simpa using empty
    rcases getLast?_of_splitOn ending with empty | slash
    · have isEmpty := String.isEmpty_iff.mpr (String.toList_eq_nil_iff.mp empty)
      exact absurd (notEmpty.symm.trans isEmpty) Bool.false_ne_true
    · obtain ⟨front, whole⟩ := List.getLast?_eq_some_iff.mp slash
      have ends : path.toSlice.endsWith "/" = true :=
        String.Slice.endsWith_string_iff.mpr ⟨front, by simpa using whole.symm⟩
      exact absurd (notSlash.symm.trans ends) Bool.false_ne_true
  cases parts : (pathParts path).reverse with
  | nil =>
      rw [parts] at last
      cases last
  | cons part rest =>
      rw [parts] at last named
      rw [List.dropWhile_cons_of_neg (by simpa using named part rfl)] at last
      cases last
      rw [← List.reverse_reverse (pathParts path), parts, List.reverse_cons]

theorem place?_eq_some {path name : String} {above : List String}
    (placed : tree.place? path = .ok (some (above, name))) :
    checkPath path = .ok () ∧ isNameless name = false ∧
      ∃ parents, (pathParts path).reverse.dropWhile (· = "") = name :: parents ∧
        tree.locateDirectory (beginning path) parents.reverse = .ok above := by
  rw [place?, bind_eq_ok_iff] at placed
  obtain ⟨_, checked, placed⟩ := placed
  split at placed
  · cases placed
  · rename_i last parents parts
    obtain ⟨directory, found, made⟩ := bind_eq_ok_iff.mp placed
    cases nameless : isNameless last with
    | true =>
        rw [nameless] at made
        cases made
    | false =>
        rw [nameless] at made
        cases made
        exact ⟨checked, nameless, parents, parts, found⟩

/-- What writing a file does: the path leads into a directory, to a name that is none, and a file is
put there. -/
theorem write_cases {path : String} (written : tree.write path bytes = .ok next) :
    ∃ above name, checkPath path = .ok () ∧
      tree.locate (beginning path) (pathParts path) = .ok (above ++ [name]) ∧
      tree.HasDirectory above ∧ ¬tree.HasDirectory (above ++ [name]) ∧
      next = tree.put (above ++ [name]) (.file bytes) := by
  rw [write, bind_eq_ok_iff] at written
  obtain ⟨place, placed, written⟩ := written
  split at written
  · cases written
  · rename_i above name
    obtain ⟨checked, named, parents, parts, toAbove⟩ := place?_eq_some placed
    split_ifs at written with slash
    obtain ⟨names, located, written⟩ := bind_eq_ok_iff.mp written
    have there := hasDirectory_of_locate located
    obtain rfl := eq_of_locate_name named located
    split_ifs at written with taken
    cases written
    have notEmpty : path.isEmpty = false := by
      rw [checkPath] at checked
      split_ifs at checked with _ empty
      exact Bool.eq_false_iff.mpr empty
    refine ⟨above, name, checked, ?_, there, any_isDirectory_iff.not.mp taken, rfl⟩
    rw [locateDirectory, locate_append, bind_eq_ok_iff] at toAbove
    obtain ⟨directory, toDirectory, dot⟩ := toAbove
    obtain rfl := eq_of_locate_dot dot
    rw [pathParts_of_name notEmpty (Bool.eq_false_iff.mpr slash) parts, locate_append]
    exact bind_eq_ok_iff.mpr ⟨_, toDirectory, located⟩

theorem read_of_write {path : String} (written : tree.write path bytes = .ok next) :
    next.read path = .ok bytes := by
  obtain ⟨above, name, checked, located, there, free, rfl⟩ := write_cases written
  have again := locate_of_directories (fun _ => hasDirectory_put (.file bytes) free) located
  have found : (tree.put (above ++ [name]) (.file bytes)).find path = .ok (.file bytes) := by
    rw [find]
    refine bind_eq_ok_iff.mpr ⟨(), checked, bind_eq_ok_iff.mpr ⟨_, again, ?_⟩⟩
    rw [at?_put there]
    rfl
  rw [read, found]
  rfl

theorem modifyTree_eq_ok (change : FileTree → Except FileError FileTree)
    (changed : modifyTree change tree = (.ok (), next)) : change tree = .ok next := by
  rw [modifyTree] at changed
  cases result : change tree with
  | error e =>
      rw [result] at changed
      cases changed
  | ok made =>
      rw [result] at changed
      cases changed
      rfl

theorem write_of_create {path : String}
    (created : access.create path bytes tree = (.ok (), next)) :
    ∃ made, FileTree.write made path bytes = .ok next := by
  rw [FileAccess.create] at created
  simp only [bind, StateT.bind] at created
  cases run : access.ensureDirectories (Path.parents path.length path) tree with
  | mk outcome made =>
      rw [run] at created
      cases outcome with
      | error e => cases created
      | ok _ =>
          refine ⟨made, modifyTree_eq_ok (·.write path bytes) ?_⟩
          cases wrote : access.write path bytes made with
          | mk outcome last =>
              simp only [StateT.bind, wrote] at created
              cases outcome with
              | error e => cases created
              | ok _ =>
                  cases created
                  exact wrote

/-- A file whose path names no directory is created by writing it. -/
theorem create_of_write {path : String} (top : Path.parents path.length path = [])
    (written : tree.write path bytes = .ok next) :
    access.create path bytes tree = (.ok (), next) := by
  have wrote : access.write path bytes tree = (.ok (), next) := by
    change modifyTree (·.write path bytes) tree = _
    rw [modifyTree, written]
  rw [FileAccess.create, top]
  exact congrArg (fun result : Except FileError Unit × FileTree =>
    (result.1.mapError (WriteError.file path), result.2)) wrote

theorem read_of_create {path : String}
    (created : access.create path bytes tree = (.ok (), next)) : next.read path = .ok bytes := by
  obtain ⟨_, written⟩ := write_of_create created
  exact read_of_write written

end FileTree

end ContentPolicy
