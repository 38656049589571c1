import MatlabTidy.Proofs.Volume.Replace
import Mathlib.Data.String.Basic

/-!
# Path texts and where they lead

The path text of an entry leads on from where the path text of the folder leads (`Volume.resolve_entry`), and
so does its short form, in which `Path.text` writes a path again: it has the same names but for single dots
(`Volume.namesOf_short`), starts at the same place (`Volume.isAbsolute_short`) and is not longer
(`Volume.checkText_short`).
-/

namespace MatlabTidy

/-- Cutting at a separator is splitting a list. -/
theorem Text.cutAt_eq_splitOn (separator : Char) (text : List Char) :
    cutAt separator text = text.splitOn separator := by
  induction text with
  | nil => rfl
  | cons c rest ih =>
    have cut : (c :: rest).splitOn separator =
        if c == separator then [] :: rest.splitOn separator else (rest.splitOn separator).modifyHead (c :: ·) :=
      List.splitOnP_cons_eq_if_modifyHead c rest
    rw [cutAt, ih, cut]
    by_cases here : c = separator
    · rw [if_pos here, if_pos (by simpa using here)]
    · rw [if_neg here, if_neg (by simpa using here)]
      cases split : rest.splitOn separator with
      | nil => exact absurd split (List.splitOn_ne_nil separator rest)
      | cons first others => rfl

/-- The parts of a text hold no separator. -/
theorem Text.not_mem_of_mem_cutAt {separator : Char} {text part : List Char}
    (h : part ∈ cutAt separator text) : separator ∉ part := by
  induction text generalizing part with
  | nil =>
    rw [List.mem_singleton.1 h]
    exact List.not_mem_nil
  | cons c rest ih =>
    rw [cutAt] at h
    split at h
    · rcases List.mem_cons.1 h with rfl | mem
      · exact List.not_mem_nil
      · exact ih mem
    · rename_i other
      cases cut : cutAt separator rest with
      | nil =>
        rw [cut] at h
        rw [List.mem_singleton.1 h]
        simpa using Ne.symm other
      | cons first others =>
        rw [cut] at h ih
        rcases List.mem_cons.1 h with rfl | mem
        · exact List.not_mem_cons_of_ne_of_not_mem (Ne.symm other) (ih List.mem_cons_self)
        · exact ih (List.mem_cons_of_mem _ mem)

namespace Volume

/-- A name that a path text can hold as it is. -/
structure IsName (name : String) : Prop where
  ne_empty : name ≠ ""
  ne_dot : name ≠ "."
  plain : '/' ∉ name.toList
  noNull : Char.ofNat 0 ∉ name.toList

variable {name path text : String}

theorem isName_ofList {chars : List Char} (some : chars ≠ []) (dot : chars ≠ ['.']) (plain : '/' ∉ chars)
    (noNull : Char.ofNat 0 ∉ chars) : IsName (String.ofList chars) where
  ne_empty := by
    intro same
    rw [← String.toList_inj, String.toList_ofList] at same
    exact some same
  ne_dot := by
    intro same
    rw [← String.toList_inj, String.toList_ofList] at same
    exact dot same
  plain := by rwa [String.toList_ofList]
  noNull := by rwa [String.toList_ofList]

theorem namesOf_eq (path : String) :
    namesOf path = ((path.toList.splitOn '/').map String.ofList).filter (· ≠ "") := by
  rw [namesOf, Text.cutAt_eq_splitOn]

theorem namesOf_append {front behind : String} (h : path.toList = front.toList ++ '/' :: behind.toList) :
    namesOf path = namesOf front ++ namesOf behind := by
  rw [namesOf_eq, h, List.splitOn, List.splitOnP_append_cons _ _ (by simp), List.map_append, List.filter_append,
    namesOf_eq, namesOf_eq]
  rfl

theorem namesOf_name (plain : '/' ∉ name.toList) (ne : name ≠ "") : namesOf name = [name] := by
  rw [namesOf_eq, List.splitOn_eq_singleton plain]
  simp [ne]

/-- The names of an entry are those of the folder and its own. -/
theorem namesOf_entry_of_plain (text : String) (plain : '/' ∉ name.toList) (ne : name ≠ "") :
    namesOf (Path.entry text name) = namesOf text ++ [name] := by
  rw [← namesOf_name plain ne, Path.entry]
  split
  · rename_i slash
    obtain ⟨front, split⟩ := List.getLast?_eq_some_iff.1 slash
    have short : namesOf text = namesOf (String.ofList front) := by
      have cut : text.toList = (String.ofList front).toList ++ '/' :: "".toList := by
        rw [split, String.toList_ofList]
        rfl
      rw [namesOf_append cut]
      exact List.append_nil _
    rw [short]
    refine namesOf_append ?_
    rw [String.toList_append, split, String.toList_ofList]
    simp
  · refine namesOf_append ?_
    rw [String.toList_append, String.toList_append]
    simp

theorem namesOf_entry (text : String) (h : IsName name) : namesOf (Path.entry text name) = namesOf text ++ [name] :=
  namesOf_entry_of_plain text h.plain h.ne_empty

/-- The path text of an entry begins with that of the folder and ends with the name. -/
theorem toList_entry (text name : String) :
    ∃ between, (between = [] ∨ between = ['/']) ∧
      (Path.entry text name).toList = text.toList ++ between ++ name.toList := by
  rw [Path.entry]
  split
  · exact ⟨[], .inl rfl, by rw [String.toList_append, List.append_nil]⟩
  · exact ⟨['/'], .inr rfl, by rw [String.toList_append, String.toList_append]; rfl⟩

theorem toList_ne_nil (h : text ≠ "") : text.toList ≠ [] := by
  rwa [ne_eq, String.toList_eq_nil_iff]

theorem isAbsolute_entry (name : String) (h : text ≠ "") : isAbsolute (Path.entry text name) = isAbsolute text := by
  obtain ⟨between, -, whole⟩ := toList_entry text name
  rw [isAbsolute, whole, List.append_assoc, List.head?_append_of_ne_nil _ (toList_ne_nil h), isAbsolute]

/-- A name at the end of a path text is no slash. -/
theorem endsInSlash_of_suffix {front : List Char} (h : path.toList = front ++ name.toList)
    (plain : '/' ∉ name.toList) (ne : name ≠ "") : endsInSlash path = false := by
  rw [endsInSlash, h, List.getLast?_append_of_ne_nil _ (toList_ne_nil ne), decide_eq_false_iff_not]
  intro slash
  exact plain (List.mem_of_getLast? slash)

theorem steps_entry (text : String) (h : IsName name) : steps (Path.entry text name) = namesOf text ++ [name] := by
  obtain ⟨between, -, whole⟩ := toList_entry text name
  rw [steps, endsInSlash_of_suffix whole h.plain h.ne_empty, namesOf_entry text h]
  simp

/-- A name is a path text of its own. -/
theorem steps_name (good : IsName name) : steps name = [name] := by
  have whole : name.toList = [] ++ name.toList := rfl
  rw [steps, endsInSlash_of_suffix whole good.plain good.ne_empty, namesOf_name good.plain good.ne_empty]
  simp

/-- What the system takes as a path. -/
theorem checkText_eq_ok : checkText path = .ok () ↔
    Char.ofNat 0 ∉ path.toList ∧ path ≠ "" ∧ ¬ mostPathBytes < path.utf8ByteSize := by
  unfold checkText
  by_cases null : Char.ofNat 0 ∈ path.toList
  · rw [if_pos (List.contains_iff_mem.2 null)]
    exact ⟨nofun, fun h => absurd null h.1⟩
  rw [if_neg fun contains => null (List.contains_iff_mem.1 contains)]
  by_cases empty : path = ""
  · rw [if_pos (by simp [empty])]
    exact ⟨nofun, fun h => absurd empty h.2.1⟩
  rw [if_neg (by simpa using empty)]
  by_cases long : mostPathBytes < path.utf8ByteSize
  · rw [if_pos long]
    exact ⟨nofun, fun h => absurd long h.2.2⟩
  · rw [if_neg long]
    exact ⟨fun _ => ⟨null, empty, long⟩, fun _ => rfl⟩

/-- Of the texts that the system could take as a path, it refuses only those that are too long. -/
theorem checkText_of_long (null : Char.ofNat 0 ∉ path.toList) (ne : path ≠ "")
    (long : mostPathBytes < path.utf8ByteSize) : checkText path = .error .nameTooLong := by
  unfold checkText
  rw [if_neg fun contains => null (List.contains_iff_mem.1 contains), if_neg (by simpa using ne), if_pos long]

section Short

theorem parts_eq (text : String) : Path.parts text = (namesOf text).filter (· ≠ ".") := by
  rw [Path.parts, namesOf, List.filter_filter]
  congr 1
  funext part
  simp [Bool.and_comm]

theorem isName_of_mem_namesOf (mem : name ∈ namesOf text) : '/' ∉ name.toList ∧ name ≠ "" := by
  rw [namesOf, List.mem_filter] at mem
  obtain ⟨part, cut, rfl⟩ := List.mem_map.1 mem.1
  refine ⟨?_, by simpa using mem.2⟩
  rw [String.toList_ofList]
  exact Text.not_mem_of_mem_cutAt cut

/-- The last name of a path text, single dots aside. -/
theorem name_ofString (named : (namesOf path).getLast? = some name) (single : name ≠ ".") :
    (Path.ofString path).name = name := by
  have names := List.dropLast_append_getLast? name named
  rw [Path.name, Path.ofString, parts_eq, ← names, List.filter_append]
  simp [single]

/-- A path text has the extension of its last name. -/
theorem suffix_of_getLast? (named : (namesOf path).getLast? = some name) (single : name ≠ ".") :
    (Path.ofString path).suffix = (Path.ofString name).suffix := by
  obtain ⟨plain, ne⟩ := isName_of_mem_namesOf (List.mem_of_getLast? named)
  have own : (namesOf name).getLast? = some name := by
    rw [namesOf_name plain ne]
    rfl
  rw [Path.suffix, Path.suffix, name_ofString named single, name_ofString own single]

theorem namesOf_slashes (count : Nat) (behind : List Char) :
    namesOf (String.ofList (List.replicate count '/' ++ behind)) = namesOf (String.ofList behind) := by
  induction count with
  | zero => rfl
  | succ count ih =>
    have cut : (String.ofList (List.replicate (count + 1) '/' ++ behind)).toList =
        "".toList ++ '/' :: (String.ofList (List.replicate count '/' ++ behind)).toList := by
      simp [List.replicate_succ]
    rw [namesOf_append cut, ih]
    rfl

/-- The characters of the text of a path that has names. -/
theorem toList_text {p : Path} (ne : p.names ≠ []) :
    p.text.toList = List.replicate p.slashes '/' ++ List.intercalate ['/'] (p.names.map String.toList) := by
  rw [Path.text, if_neg (by simp [ne]), String.toList_append, String.toList_ofList, String.toList_intercalate]
  rfl

theorem namesOf_text {p : Path} (ne : p.names ≠ []) (plain : ∀ name ∈ p.names, '/' ∉ name.toList ∧ name ≠ "") :
    namesOf p.text = p.names := by
  have whole : p.text = String.ofList (p.text.toList) := String.ofList_toList.symm
  rw [whole, toList_text ne, namesOf_slashes, namesOf_eq, String.toList_ofList, List.splitOn_intercalate]
  · rw [List.map_map]
    have same : p.names.map (String.ofList ∘ String.toList) = p.names := by
      simp [Function.comp_def, String.ofList_toList]
    rw [same]
    exact List.filter_eq_self.2 fun name mem => by simpa using (plain name mem).2
  · intro part mem
    obtain ⟨name, name_mem, rfl⟩ := List.mem_map.1 mem
    exact (plain name name_mem).1
  · simpa using ne

/-- Leaving out parts of a list that is joined leaves out what stands between them. -/
theorem intercalate_sublist {parts whole : List (List Char)} (h : parts.Sublist whole) :
    (List.intercalate ['/'] parts).Sublist (List.intercalate ['/'] whole) := by
  induction h with
  | slnil => exact .refl _
  | @cons parts whole part h ih =>
    cases whole with
    | nil =>
      cases h
      exact List.nil_sublist _
    | cons next whole =>
      rw [List.intercalate_cons_cons]
      exact ih.trans (List.sublist_append_right _ _)
  | @cons_cons parts whole part h ih =>
    cases parts with
    | nil =>
      rw [List.intercalate_singleton]
      cases whole with
      | nil => rw [List.intercalate_singleton]
      | cons next whole =>
        rw [List.intercalate_cons_cons, List.append_assoc]
        exact List.sublist_append_left _ _
    | cons first parts =>
      cases whole with
      | nil => cases h
      | cons next whole =>
        rw [List.intercalate_cons_cons, List.intercalate_cons_cons]
        exact (List.Sublist.refl _).append ih

theorem leading_le (text : String) : Path.leading text ≤ (text.toList.takeWhile (· = '/')).length := by
  unfold Path.leading
  split
  · exact Nat.zero_le _
  · rename_i two
    rw [two]
  · rename_i some _
    exact Nat.one_le_iff_ne_zero.2 some

/-- The short form of a path text that has names is got by leaving characters out. -/
theorem toList_short_sublist (ne : Path.parts text ≠ []) :
    (Path.ofString text).text.toList.Sublist text.toList := by
  have slashes : text.toList.takeWhile (· = '/') =
      List.replicate (text.toList.takeWhile (· = '/')).length '/' := by
    refine List.eq_replicate_of_mem fun c mem => ?_
    simpa using List.all_eq_true.1 List.all_takeWhile c mem
  have names : Path.parts text = Path.parts (String.ofList (text.toList.dropWhile (· = '/'))) := by
    have whole : text = String.ofList (List.replicate (text.toList.takeWhile (· = '/')).length '/' ++
        text.toList.dropWhile (· = '/')) := by
      rw [← slashes, List.takeWhile_append_dropWhile, String.ofList_toList]
    rw [parts_eq, parts_eq, ← namesOf_slashes (text.toList.takeWhile (· = '/')).length, ← whole]
  have joined : (List.intercalate ['/'] ((Path.parts text).map String.toList)).Sublist
      (text.toList.dropWhile (· = '/')) := by
    have cut : (Path.parts text).map String.toList =
        (Text.cutAt '/' (text.toList.dropWhile (· = '/'))).filter fun part =>
          String.ofList part ≠ "" ∧ String.ofList part ≠ "." := by
      rw [names, Path.parts, String.toList_ofList, List.filter_map, List.map_map]
      simp [Function.comp_def, String.toList_ofList]
    rw [cut, Text.cutAt_eq_splitOn]
    have part := intercalate_sublist (List.filter_sublist
      (p := fun part => decide (String.ofList part ≠ "" ∧ String.ofList part ≠ "."))
      (l := (text.toList.dropWhile (· = '/')).splitOn '/'))
    rwa [List.intercalate_splitOn] at part
  have whole : text.toList = List.replicate (text.toList.takeWhile (· = '/')).length '/' ++
      text.toList.dropWhile (· = '/') := by
    rw [← slashes, List.takeWhile_append_dropWhile]
  rw [toList_text ne, whole]
  exact ((List.replicate_sublist_replicate '/').2 (leading_le text)).append joined

/-- Joined parts begin with the first of them and end with the last. -/
theorem intercalate_ends {parts : List (List Char)} (ne : parts ≠ []) :
    (∃ first ∈ parts, ∃ behind, List.intercalate ['/'] parts = first ++ behind) ∧
      ∃ last ∈ parts, ∃ front, List.intercalate ['/'] parts = front ++ last := by
  induction parts with
  | nil => exact absurd rfl ne
  | cons part parts ih =>
    cases parts with
    | nil =>
      rw [List.intercalate_singleton]
      exact ⟨⟨part, List.mem_cons_self, [], (List.append_nil _).symm⟩, part, List.mem_cons_self, [], rfl⟩
    | cons next parts =>
      obtain ⟨-, last, mem, front, joined⟩ := ih (List.cons_ne_nil _ _)
      rw [List.intercalate_cons_cons]
      refine ⟨⟨part, List.mem_cons_self, _, List.append_assoc _ _ _⟩, last, List.mem_cons_of_mem _ mem,
        part ++ ['/'] ++ front, ?_⟩
      rw [joined, List.append_assoc _ front]

theorem plain_of_mem_parts (mem : name ∈ Path.parts text) : '/' ∉ name.toList ∧ name ≠ "" := by
  rw [parts_eq] at mem
  exact isName_of_mem_namesOf (List.mem_of_mem_filter mem)

/-- A path has slashes in front exactly if its text starts with one. -/
theorem leading_eq_zero_iff (text : String) : Path.leading text = 0 ↔ isAbsolute text = false := by
  have first : (text.toList.takeWhile (· = '/')).length = 0 ↔ isAbsolute text = false := by
    rw [isAbsolute]
    cases text.toList with
    | nil => simp
    | cons c rest => by_cases slash : c = '/' <;> simp [slash]
  rw [← first]
  unfold Path.leading
  split
  · rename_i zero
    exact ⟨fun _ => zero, fun _ => rfl⟩
  · rename_i two
    rw [two]
  · rename_i some _
    exact ⟨nofun, fun zero => absurd zero some⟩

/-- The short form of a path text without names is a dot or slashes. -/
theorem short_of_no_parts (none : Path.parts text = []) :
    (Path.ofString text).text = "." ∧ isAbsolute text = false ∨
      ((Path.ofString text).text = "/" ∨ (Path.ofString text).text = "//") ∧ isAbsolute text = true := by
  have zero := leading_eq_zero_iff text
  have few : Path.leading text = 0 ∨ Path.leading text = 1 ∨ Path.leading text = 2 := by
    unfold Path.leading
    split
    · exact .inl rfl
    · exact .inr (.inr rfl)
    · exact .inr (.inl rfl)
  rw [Path.ofString, none]
  rcases few with slashes | slashes | slashes
  · rw [slashes] at zero ⊢
    exact .inl ⟨by decide, zero.1 rfl⟩
  · rw [slashes] at zero ⊢
    exact .inr ⟨.inl (by decide), by simpa using zero⟩
  · rw [slashes] at zero ⊢
    exact .inr ⟨.inr (by decide), by simpa using zero⟩

variable (ne : Path.parts text ≠ [])

include ne

theorem namesOf_short : namesOf (Path.ofString text).text = Path.parts text :=
  namesOf_text ne fun _ mem => plain_of_mem_parts mem

theorem steps_short : steps (Path.ofString text).text = Path.parts text := by
  have some : (Path.parts text).map String.toList ≠ [] := by simpa using ne
  obtain ⟨-, last, mem, front, joined⟩ := intercalate_ends some
  obtain ⟨name, name_mem, rfl⟩ := List.mem_map.1 mem
  obtain ⟨plain, nonempty⟩ := plain_of_mem_parts name_mem
  have whole : (Path.ofString text).text.toList =
      (List.replicate (Path.leading text) '/' ++ front) ++ name.toList := by
    rw [toList_text ne, List.append_assoc, ← joined]
    rfl
  rw [steps, endsInSlash_of_suffix whole plain nonempty, namesOf_short ne]
  simp

theorem isAbsolute_short : isAbsolute (Path.ofString text).text = isAbsolute text := by
  have whole : (Path.ofString text).text.toList = List.replicate (Path.leading text) '/' ++
      List.intercalate ['/'] ((Path.parts text).map String.toList) := toList_text ne
  cases absolute : isAbsolute text with
  | true =>
    cases slashes : Path.leading text with
    | zero =>
      rw [(leading_eq_zero_iff text).1 slashes] at absolute
      cases absolute
    | succ count =>
      rw [isAbsolute, whole, slashes]
      rfl
  | false =>
    have some : (Path.parts text).map String.toList ≠ [] := by simpa using ne
    obtain ⟨⟨first, mem, behind, joined⟩, -⟩ := intercalate_ends some
    obtain ⟨name, name_mem, rfl⟩ := List.mem_map.1 mem
    obtain ⟨plain, nonempty⟩ := plain_of_mem_parts name_mem
    rw [isAbsolute, whole, (leading_eq_zero_iff text).2 absolute, joined, decide_eq_false_iff_not]
    rw [List.replicate_zero, List.nil_append, List.head?_append_of_ne_nil _ (toList_ne_nil nonempty)]
    exact fun slash => plain (List.mem_of_mem_head? slash)

theorem short_ne_empty : (Path.ofString text).text ≠ "" := by
  intro empty
  have none := namesOf_short ne
  rw [empty] at none
  exact ne none.symm

theorem checkText_short (h : checkText text = .ok ()) : checkText (Path.ofString text).text = .ok () := by
  obtain ⟨null, -, short⟩ := checkText_eq_ok.1 h
  have sublist := toList_short_sublist ne
  refine checkText_eq_ok.2 ⟨fun mem => null (sublist.subset mem), short_ne_empty ne, ?_⟩
  have bound := String.utf8Len_le_of_sublist sublist
  rw [← String.utf8ByteSize_ofList, ← String.utf8ByteSize_ofList, String.ofList_toList, String.ofList_toList] at bound
  omega

/-- The short form of a text without null characters can only be too long. -/
theorem checkText_short_cases (null : Char.ofNat 0 ∉ text.toList) :
    checkText (Path.ofString text).text = .ok () ∨ checkText (Path.ofString text).text = .error .nameTooLong := by
  have null' : Char.ofNat 0 ∉ (Path.ofString text).text.toList := fun mem =>
    null ((toList_short_sublist ne).subset mem)
  by_cases long : mostPathBytes < (Path.ofString text).text.utf8ByteSize
  · exact .inr (checkText_of_long null' (short_ne_empty ne) long)
  · exact .inl (checkText_eq_ok.2 ⟨null', short_ne_empty ne, long⟩)

end Short

section Resolve

variable {v : Volume} {folder : Place}

/-- The names of a path text lead where the text leads. -/
theorem leads_of_resolve (h : v.resolve text = .ok folder) :
    checkText text = .ok () ∧ ∃ left, Leads v mostLinks (v.startOf text) (namesOf text) folder left := by
  obtain ⟨checked, left, walk⟩ := resolve_eq_ok.1 h
  refine ⟨checked, ?_⟩
  unfold steps at walk
  dsimp only at walk
  split at walk
  · obtain ⟨middle, between, first, second⟩ := walk.cut
    obtain ⟨rfl, rfl⟩ := second.eq_of_dot
    exact ⟨_, first⟩
  · exact ⟨left, walk⟩

theorem startOf_of_isAbsolute (h : isAbsolute path = isAbsolute text) (v : Volume) :
    v.startOf path = v.startOf text := by
  rw [startOf, startOf, h]

theorem noNull_entry (checked : checkText text = .ok ()) (good : IsName name) :
    Char.ofNat 0 ∉ (Path.entry text name).toList := by
  obtain ⟨null, -, -⟩ := checkText_eq_ok.1 checked
  obtain ⟨between, slash, whole⟩ := toList_entry text name
  have apart : Char.ofNat 0 ∉ between := by
    rcases slash with rfl | rfl
    · exact List.not_mem_nil
    · decide
  rw [whole, List.mem_append, List.mem_append]
  exact not_or.2 ⟨not_or.2 ⟨null, apart⟩, good.noNull⟩

theorem parts_entry (text : String) (good : IsName name) :
    Path.parts (Path.entry text name) = (namesOf text).filter (· ≠ ".") ++ [name] := by
  rw [parts_eq, namesOf_entry text good, List.filter_append]
  simp [good.ne_dot]

theorem parts_entry_ne_nil (text : String) (good : IsName name) : Path.parts (Path.entry text name) ≠ [] := by
  simp [parts_entry text good]

/-- An entry of a folder has a path text, unless it is too long. -/
theorem checkText_entry (checked : checkText text = .ok ()) (good : IsName name)
    (short : text.utf8ByteSize + name.utf8ByteSize < mostPathBytes) : checkText (Path.entry text name) = .ok () := by
  obtain ⟨null, ne, -⟩ := checkText_eq_ok.1 checked
  refine checkText_eq_ok.2 ⟨noNull_entry checked good, ?_, ?_⟩
  · intro empty
    have some := parts_entry_ne_nil text good
    rw [empty] at some
    exact some rfl
  · have size : (Path.entry text name).utf8ByteSize ≤ text.utf8ByteSize + 1 + name.utf8ByteSize := by
      rw [Path.entry]
      split
      · rw [String.utf8ByteSize_append]
        omega
      · rw [String.utf8ByteSize_append, String.utf8ByteSize_append]
        exact Nat.le_refl _
    omega

theorem name_entry (text : String) (good : IsName name) : (Path.ofString (Path.entry text name)).name = name := by
  refine name_ofString ?_ good.ne_dot
  rw [namesOf_entry text good, List.getLast?_concat]

/-- The folder of an entry of the current folder. -/
theorem parent_dot (good : IsName name) : (Path.ofString (Path.entry "." name)).parent.text = "." := by
  have none : Path.leading (Path.entry "." name) = 0 :=
    (leading_eq_zero_iff _).2 ((isAbsolute_entry name (by decide)).trans (by decide))
  have single : (namesOf ".").filter (· ≠ ".") = [] := by decide
  rw [Path.ofString, none, parts_entry "." good, single]
  show Path.text ⟨0, []⟩ = "."
  decide
/-- The short form of the path text of an entry leads on from the folder. -/
theorem resolve_short_entry {left : Nat} (ne : text ≠ "") (good : IsName name)
    (walk : Leads v mostLinks (v.startOf text) (namesOf text) folder left)
    (short : checkText (Path.ofString (Path.entry text name)).text = .ok ()) :
    v.resolve (Path.ofString (Path.entry text name)).text = v.follow true left folder [name] := by
  have some := parts_entry_ne_nil text good
  rw [resolve, short, steps_short some, parts_entry text good, startOf_of_isAbsolute (isAbsolute_short some),
    startOf_of_isAbsolute (isAbsolute_entry name ne)]
  exact walk.undotted.follow_append [name]

/-- The path text of an entry leads on from the folder, unless it is too long, and so does its short form. -/
theorem resolve_entry (h : v.resolve text = .ok folder) (good : IsName name) :
    v.resolve (Path.entry text name) = .error .nameTooLong ∨
      ∃ left, v.resolve (Path.entry text name) = v.follow true left folder [name] ∧
        v.resolve (Path.ofString (Path.entry text name)).text = v.follow true left folder [name] := by
  obtain ⟨checked, left, walk⟩ := leads_of_resolve h
  obtain ⟨-, ne, -⟩ := checkText_eq_ok.1 checked
  have null := noNull_entry checked good
  have ne' : Path.entry text name ≠ "" := by
    intro empty
    have some := parts_entry_ne_nil text good
    rw [empty] at some
    exact some rfl
  by_cases long : mostPathBytes < (Path.entry text name).utf8ByteSize
  · left
    rw [resolve, checkText_of_long null ne' long]
    rfl
  · right
    have checked' : checkText (Path.entry text name) = .ok () := checkText_eq_ok.2 ⟨null, ne', long⟩
    refine ⟨left, ?_, ?_⟩
    · rw [resolve, checked', steps_entry text good, startOf_of_isAbsolute (isAbsolute_entry name ne)]
      exact walk.follow_append [name]
    · exact resolve_short_entry ne good walk (checkText_short (parts_entry_ne_nil text good) checked')

/-- A question about a path is answered by the node to which its short form leads. -/
theorem asks_of_resolve {test : Node → Bool} (h : v.resolve (Path.ofString text).text = .ok folder) :
    v.asks text test = .ok ((v.node? folder).any test) := by
  unfold asks
  dsimp only
  rw [h]

/-- A path that leads nowhere answers no. -/
theorem asks_of_error {test : Node → Bool} {cause : AccessCause}
    (h : v.resolve (Path.ofString text).text = .error cause) (small : cause ≠ .nameTooLong) :
    v.asks text test = .ok false := by
  unfold asks
  dsimp only
  rw [h]
  cases cause with
  | nameTooLong => exact absurd rfl small
  | _ => rfl

/-- A question is refused only for a path that is too long. -/
theorem eq_nameTooLong_of_asks {test : Node → Bool} {error : AccessError} (h : v.asks text test = .error error) :
    ∃ path, error = ⟨.nameTooLong, path⟩ := by
  unfold asks at h
  dsimp only at h
  split at h
  · cases h
  · cases h
    exact ⟨_, rfl⟩
  · cases h

/-- The short form of a path text leads where the text leads. -/
theorem resolve_short (some : Path.parts text ≠ []) (h : v.resolve text = .ok folder) :
    v.resolve (Path.ofString text).text = .ok folder := by
  obtain ⟨checked, left, walk⟩ := leads_of_resolve h
  rw [resolve, checkText_short some checked, steps_short some, parts_eq,
    startOf_of_isAbsolute (isAbsolute_short some)]
  exact walk.undotted.follow

/-- A path text that leads to a folder is the text of a folder, in its short form too. -/
theorem isFolder_of_resolve (h : v.resolve text = .ok folder) (isFolder : v.node? folder = some .folder) :
    v.isFolder text = .ok true := by
  obtain ⟨checked, left, walk⟩ := leads_of_resolve h
  have short : v.resolve (Path.ofString text).text = .ok folder := by
    by_cases none : Path.parts text = []
    · have start : folder = v.startOf text := by
        have still := walk.undotted
        rw [← parts_eq, none] at still
        cases still
        rfl
      rw [start] at isFolder ⊢
      rcases short_of_no_parts none with ⟨dot, relative⟩ | ⟨slashes, absolute⟩
      · have here : v.startOf text = v.startOf "." := startOf_of_isAbsolute relative v
        rw [dot, here]
        rw [here] at isFolder
        exact resolve_eq_ok.2 ⟨by decide, mostLinks, .dot isFolder rfl (.done _ _)⟩
      · have top : v.startOf text = [] := by rw [startOf, absolute, if_pos rfl]
        rw [top]
        rcases slashes with one | two
        · rw [one]
          exact resolve_top v
        · rw [two]
          exact resolve_eq_ok.2 ⟨by decide, mostLinks, .done _ _⟩
    · exact resolve_short none h
  rw [Volume.isFolder, asks_of_resolve short, isFolder]
  rfl

end Resolve

end Volume

end MatlabTidy
