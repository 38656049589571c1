import MatlabTidy.Proofs.Path.DisplayName
import MatlabTidy.Proofs.Volume.Shape
import MatlabTidy.Volume.RealPath
import Mathlib.Data.List.Induction

/-!
# Real paths of folders

A place has a path of its own (`Path.ofPlace`), and what leads to a folder are folders (`Volume.Rooted.folder`). So a
journey along the path of a folder meets no link and the path is real (`Volume.realPath_ofPlace`), and it is resolved
to the folder (`Volume.resolve_ofPlace`), unless the system does not take it because it is too long.
-/

namespace MatlabTidy

namespace Path

/-- The path of a place. -/
def ofPlace (place : Place) : Path := ⟨1, place⟩

end Path

namespace Volume

variable {v : Volume} {place : Place}

/-- The names of a place can stand in path texts, and none of them is a double dot. -/
def HasNames (place : Place) : Prop := ∀ name ∈ place, IsName name ∧ name ≠ ".."

/-- What leads to a folder are folders. -/
theorem Rooted.folder (rooted : v.Rooted) {front back : Place} (folder : v.node? (front ++ back) = some .folder) :
    v.node? front = some .folder := by
  induction back using List.reverseRecOn with
  | nil => rwa [List.append_nil] at folder
  | append_singleton back name ih =>
    rw [← List.append_assoc] at folder
    have above := rooted _ (by rw [folder]; exact Option.some_ne_none _)
    rw [List.dropLast_concat] at above
    exact ih above

/-- Path texts of places lead through folders, unless a name is too long. -/
theorem follow_folders (rooted : v.Rooted) (budget : Nat) {front back : Place} (names : HasNames back)
    (folder : v.node? (front ++ back) = some .folder) :
    v.follow true budget front back = .ok (front ++ back) ∨ v.follow true budget front back = .error .nameTooLong := by
  induction back generalizing front with
  | nil =>
    rw [Volume.follow, List.append_nil]
    exact .inl rfl
  | cons name back ih =>
    obtain ⟨good, others⟩ := List.forall_mem_cons.1 names
    have here : v.node? front = some .folder := rooted.folder folder
    by_cases long : mostNameBytes < name.utf8ByteSize
    · exact .inr (follow_long here good.1.ne_dot good.2 long budget)
    · rw [List.append_cons] at folder ⊢
      rw [follow_node here good.1.ne_dot good.2 long (rooted.folder folder) fun _ => Node.noConfusion]
      exact ih others folder

theorem toList_ofPlace (place : Place) :
    (Path.ofPlace place).text.toList = '/' :: List.intercalate ['/'] (place.map String.toList) := by
  rw [Path.ofPlace, Path.text, if_neg (fun none => Nat.one_ne_zero none.1), String.toList_append, String.toList_ofList,
    String.toList_intercalate]
  rfl

theorem namesOf_ofPlace (names : HasNames place) : namesOf (Path.ofPlace place).text = place := by
  cases place with
  | nil => decide
  | cons name place =>
    exact namesOf_text (List.cons_ne_nil _ _) fun name mem => ⟨(names name mem).1.plain, (names name mem).1.ne_empty⟩

theorem steps_ofPlace (names : HasNames place) : steps (Path.ofPlace place).text = place := by
  rw [steps, namesOf_ofPlace names]
  refine if_neg fun h => ?_
  obtain ⟨ne, slash⟩ := h
  have some : place.map String.toList ≠ [] := by simpa using ne
  obtain ⟨-, last, ends, front, joined⟩ := intercalate_ends some
  obtain ⟨name, mem, rfl⟩ := List.mem_map.1 ends
  have whole : (Path.ofPlace place).text.toList = ('/' :: front) ++ name.toList := by
    rw [toList_ofPlace, joined]
    rfl
  have good := (names name mem).1
  rw [endsInSlash_of_suffix whole good.plain good.ne_empty] at slash
  cases slash

theorem noNull_ofPlace (names : HasNames place) : NoNull (Path.ofPlace place).text :=
  Path.noNull_text fun name mem => (names name mem).1.noNull

/-- The path of a folder is resolved to the folder, unless the path or a name is too long. -/
theorem resolve_ofPlace (rooted : v.Rooted) (names : HasNames place) (folder : v.node? place = some .folder) :
    v.resolve (Path.ofPlace place).text = .ok place ∨ v.resolve (Path.ofPlace place).text = .error .nameTooLong := by
  have ne : (Path.ofPlace place).text ≠ "" := by
    rw [ne_eq, ← String.toList_eq_nil_iff, toList_ofPlace]
    exact List.cons_ne_nil _ _
  have top : v.startOf (Path.ofPlace place).text = [] := if_pos (isAbsolute_text Nat.one_ne_zero)
  by_cases long : mostPathBytes < (Path.ofPlace place).text.utf8ByteSize
  · right
    rw [resolve, checkText_of_long (noNull_ofPlace names) ne long]
    rfl
  · rw [resolve, checkText_eq_ok.2 ⟨noNull_ofPlace names, ne, long⟩, top, steps_ofPlace names]
    exact follow_folders rooted mostLinks names folder

/-- Between the slashes of a path stand its names, and nothing before the first. -/
theorem segments_ofPlace (names : HasNames place) :
    ∃ more, segments (Path.ofPlace place).text = "" :: (more ++ place) ∧ ∀ text ∈ more, text = "" := by
  rw [segments, toList_ofPlace, Text.cutAt, if_pos rfl, Text.cutAt_eq_splitOn]
  cases place with
  | nil => exact ⟨[""], rfl, fun text => List.mem_singleton.1⟩
  | cons name place =>
    refine ⟨[], ?_, List.forall_mem_nil _⟩
    rw [List.splitOn_intercalate]
    · simp [Function.comp_def, String.ofList_toList]
    · intro part mem
      obtain ⟨other, mem', rfl⟩ := List.mem_map.1 mem
      exact (names other mem').1.plain
    · simp

/-- No link stands where a folder stands. -/
theorem linkAt?_of_folder {path : Path} (clean : NoNull path.text) (folder : v.node? (v.placeOf path) = some .folder) :
    v.linkAt? path = .ok none := by
  unfold linkAt?
  rw [folder]
  cases checked : checkText path.text with
  | ok _ => rfl
  | error cause =>
    cases cause with
    | embeddedNull => exact absurd checked (checkText_ne_embeddedNull clean)
    | _ => rfl

/-- A journey through folders comes to their path. -/
theorem journey_folders (rooted : v.Rooted) (depth : Nat) (seen : List (Path × Option Path)) {front back : Place}
    (names : HasNames (front ++ back)) (folder : v.node? (front ++ back) = some .folder) :
    v.journey depth (Path.ofPlace front) seen back = .ok ⟨.real (Path.ofPlace (front ++ back)), seen⟩ := by
  induction back generalizing front with
  | nil => rw [journey, List.append_nil]
  | cons name back ih =>
    obtain ⟨good, double⟩ := names name (List.mem_append_right _ List.mem_cons_self)
    rw [List.append_cons] at names folder ⊢
    have here : v.linkAt? ((Path.ofPlace front).child name) = .ok none := by
      refine linkAt?_of_folder (noNull_ofPlace fun other mem => names other (List.mem_append_left _ mem)) ?_
      exact rooted.folder folder
    rw [journey, if_neg (not_or.2 ⟨good.ne_empty, good.ne_dot⟩), if_neg double]
    dsimp only
    rw [here]
    exact ih names folder

/-- A journey passes over what is empty. -/
theorem journey_empty (depth : Nat) (path : Path) (seen : List (Path × Option Path)) {more : List String}
    (empty : ∀ text ∈ more, text = "") (rest : List String) :
    v.journey depth path seen (more ++ rest) = v.journey depth path seen rest := by
  induction more with
  | nil => rfl
  | cons text more ih =>
    obtain ⟨rfl, others⟩ := List.forall_mem_cons.1 empty
    rw [List.cons_append, journey, if_pos (.inl rfl), ih others]

theorem ofString_ofPlace (names : HasNames place) : Path.ofString (Path.ofPlace place).text = Path.ofPlace place := by
  have parts : Path.parts (Path.ofPlace place).text = place := by
    rw [parts_eq, namesOf_ofPlace names]
    exact List.filter_eq_self.2 fun name mem => decide_eq_true (names name mem).1.ne_dot
  have slash : ((Path.ofPlace place).text.toList.takeWhile (· = '/')).length = 1 := by
    rw [toList_ofPlace]
    cases place with
    | nil => rfl
    | cons name place =>
      obtain ⟨⟨first, mem, behind, joined⟩, -⟩ :=
        intercalate_ends (List.cons_ne_nil name.toList (place.map String.toList))
      obtain ⟨other, inside, rfl⟩ := List.mem_map.1 (List.map_cons ▸ mem)
      have good := (names other inside).1
      obtain ⟨c, chars, whole⟩ := List.exists_cons_of_ne_nil (toList_ne_nil good.ne_empty)
      have plain : c ≠ '/' := by
        rintro rfl
        exact good.plain (whole ▸ List.mem_cons_self)
      rw [List.map_cons, joined, whole, List.takeWhile_cons_of_pos rfl, List.cons_append,
        List.takeWhile_cons_of_neg (by simpa using plain)]
      rfl
  rw [Path.ofString, parts, Path.leading, slash]
  rfl

theorem resolveDots_eq_self (names : HasNames place) : Path.resolveDots place = place := by
  have kept := Path.resolveDots_append (fun name mem => (names name mem).2) []
  simpa [Path.resolveDots] using kept

theorem absolute_ofPlace (here : String) (names : HasNames place) :
    Path.absolute here (Path.ofPlace place).text = Path.ofPlace place := by
  have alone : Path.join here (Path.ofPlace place).text = (Path.ofPlace place).text := by
    rw [Path.join, toList_ofPlace]
    rfl
  rw [Path.absolute, alone, ofString_ofPlace names, Path.ofPlace]
  exact congrArg (Path.mk 1) (resolveDots_eq_self names)

/-- The path of a folder is real. -/
theorem realPath_ofPlace (links : Nat) (rooted : v.Rooted) (names : HasNames place)
    (folder : v.node? place = some .folder) : v.realPath links (Path.ofPlace place).text = .ok (Path.ofPlace place) := by
  obtain ⟨more, cut, empty⟩ := segments_ofPlace names
  have absolute : isAbsolute (Path.ofPlace place).text = true := isAbsolute_text Nat.one_ne_zero
  have journey : v.journey links (Path.ofPlace []) [] (segments (Path.ofPlace place).text) =
      .ok ⟨.real (Path.ofPlace place), []⟩ := by
    rw [cut, ← List.cons_append, journey_empty _ _ _ (List.forall_mem_cons.2 ⟨rfl, empty⟩)]
    exact journey_folders rooted _ _ names folder
  unfold realPath
  rw [ofString_ofPlace names]
  dsimp only
  rw [if_pos absolute]
  change (v.journey links (Path.ofPlace []) [] _ >>= _) = _
  rw [journey]
  exact congrArg Except.ok (absolute_ofPlace _ names)

end Volume

end MatlabTidy
