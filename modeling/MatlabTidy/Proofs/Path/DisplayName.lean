import MatlabTidy.Proofs.Volume.Nulls
import Mathlib.Data.List.TakeWhile

/-!
# Display names

A folder lists its entries by names (`Path.IsEntryName`), and listing again and again leads down from a root to path
texts (`Path.descend`). However the root is spelled, each step down adds one name to its absolute path
(`Path.absolute_entry`): the name ends the path text, and nothing comes behind it that could take it away. So the
display name of an entry is the chain of names that leads to it, and no two entries below a root share one
(`Path.displayName_faithful`).
-/

namespace MatlabTidy

namespace Path

open Volume (toList_ne_nil)

/-- A name that a folder can list. -/
structure IsEntryName (name : String) : Prop where
  ne_empty : name ≠ ""
  plain : '/' ∉ name.toList
  ne_dot : name ≠ "."
  ne_double : name ≠ ".."

/-- The path text to which listings lead from a root: of each folder on the way the entry of the next name. -/
def descend (root : String) (names : List String) : String := names.foldl entry root

variable {here root text name : String} {names names' : List String}

@[simp] theorem descend_cons (root name : String) (names : List String) :
    descend root (name :: names) = descend (entry root name) names := rfl

theorem descend_concat (root : String) (names : List String) (name : String) :
    descend root (names ++ [name]) = entry (descend root names) name :=
  List.foldl_concat ..

/-- What stands in front of the name does not depend on the name. -/
theorem exists_front (text : String) : ∃ front, ∀ name, entry text name = front ++ name := by
  unfold entry
  split
  · exact ⟨text, fun _ => rfl⟩
  · exact ⟨text ++ "/", fun _ => rfl⟩

theorem append_entry (front : String) (ne : text ≠ "") (name : String) :
    entry (front ++ text) name = front ++ entry text name := by
  have ends : (front ++ text).toList.getLast? = text.toList.getLast? := by
    rw [String.toList_append, List.getLast?_append_of_ne_nil _ (toList_ne_nil ne)]
  rw [entry, entry, ends]
  split <;> simp [String.append_assoc]

theorem entry_ne_empty (text : String) (ne : name ≠ "") : entry text name ≠ "" := by
  obtain ⟨front, whole⟩ := exists_front text
  simp [whole, ne]

/-- The current folder stands in front of an entry as it stands in front of its folder. -/
theorem join_entry (here : String) (ne : text ≠ "") (name : String) :
    join here (entry text name) = entry (join here text) name := by
  have start : (entry text name).toList.head? = some '/' ↔ text.toList.head? = some '/' := by
    simpa [Volume.isAbsolute] using Volume.isAbsolute_entry name ne
  obtain ⟨front, whole⟩ := exists_front here
  simp only [join, start]
  split
  · rfl
  · rw [whole, whole, append_entry front ne]

/-- A name does not add to the slashes in front of a path text, even if there is nothing but slashes. -/
theorem leading_entry (ne : text ≠ "") (good : IsEntryName name) : leading (entry text name) = leading text := by
  have slashes : (entry text name).toList.takeWhile (· = '/') = text.toList.takeWhile (· = '/') := by
    obtain ⟨c, chars, first⟩ := List.exists_cons_of_ne_nil (toList_ne_nil good.ne_empty)
    have other : c ≠ '/' := by
      rintro rfl
      exact good.plain (first ▸ List.mem_cons_self)
    have stop : name.toList.takeWhile (· = '/') = [] := by simp [first, other]
    unfold entry
    split
    · rw [String.toList_append, List.takeWhile_append, stop, List.append_nil]
      split
      · rename_i whole
        exact ((List.takeWhile_prefix _).eq_of_length whole).symm
      · rfl
    · rename_i ends
      rw [String.toList_append, String.toList_append, List.append_assoc, List.takeWhile_append]
      refine if_neg fun whole => ends ?_
      have all := List.takeWhile_eq_self_iff.1 ((List.takeWhile_prefix _).eq_of_length whole)
      have last := all _ (List.getLast_mem (toList_ne_nil ne))
      rw [List.getLast?_eq_some_getLast (toList_ne_nil ne)]
      simpa using last
  rw [leading, leading, slashes]

theorem parts_entry (text : String) (good : IsEntryName name) : parts (entry text name) = parts text ++ [name] := by
  rw [Volume.parts_eq, Volume.parts_eq, Volume.namesOf_entry_of_plain text good.plain good.ne_empty]
  simp [good.ne_dot]

/-- A name behind a path is not taken away, unless it is a double dot. -/
theorem resolveDots_append {more : List String} (single : ∀ name ∈ more, name ≠ "..") (names : List String) :
    resolveDots (names ++ more) = resolveDots names ++ more := by
  rw [resolveDots, List.foldl_append, ← resolveDots]
  generalize resolveDots names = front
  induction more generalizing front with
  | nil => simp
  | cons name more ih =>
    obtain ⟨here, others⟩ := List.forall_mem_cons.1 single
    simp [here, ih others]

/-- Going down to an entry adds its name to the absolute path, whatever the path text of the folder. -/
theorem absolute_entry (here : String) (ne : text ≠ "") (good : IsEntryName name) :
    absolute here (entry text name) = (absolute here text).child name := by
  have joined : join here text ≠ "" := by
    unfold join
    split
    · exact ne
    · exact entry_ne_empty here ne
  have kept : resolveDots (parts (join here text) ++ [name]) = resolveDots (parts (join here text)) ++ [name] :=
    resolveDots_append (by simpa using good.ne_double) _
  simp only [absolute, ofString, child, join_entry here ne, leading_entry joined good, parts_entry _ good, kept]

theorem absolute_descend (here : String) (ne : root ≠ "") (good : ∀ name ∈ names, IsEntryName name) :
    absolute here (descend root names) = ⟨(absolute here root).slashes, (absolute here root).names ++ names⟩ := by
  induction names generalizing root with
  | nil => simp [descend]
  | cons name names ih =>
    obtain ⟨first, others⟩ := List.forall_mem_cons.1 good
    rw [descend_cons, ih (entry_ne_empty root first.ne_empty) others, absolute_entry here ne first]
    simp [child]

theorem below?_append (slashes : Nat) (names more : List String) :
    below? ⟨slashes, names⟩ ⟨slashes, names ++ more⟩ = some more := by
  simp [below?]

/-- An entry is shown by the names that lead to it. -/
theorem displayName_descend (here : String) (ne : root ≠ "") (below : names ≠ [])
    (good : ∀ name ∈ names, IsEntryName name) :
    displayName here (descend root names) (some root) = "/".intercalate names := by
  obtain ⟨name, more, rfl⟩ := List.exists_cons_of_ne_nil below
  unfold displayName
  dsimp only
  rw [absolute_descend here ne good, below?_append]

/-- Names without slashes can be told from the text that joins them. -/
theorem intercalate_inj (ne : names ≠ []) (ne' : names' ≠ []) (plain : ∀ name ∈ names, '/' ∉ name.toList)
    (plain' : ∀ name ∈ names', '/' ∉ name.toList) : "/".intercalate names = "/".intercalate names' ↔ names = names' := by
  have cut : ∀ {names : List String}, names ≠ [] → (∀ name ∈ names, '/' ∉ name.toList) →
      ("/".intercalate names).toList.splitOn '/' = names.map String.toList := by
    intro names ne plain
    rw [String.toList_intercalate]
    exact List.splitOn_intercalate '/' (by simpa using plain) (by simpa using ne)
  refine ⟨fun same => ?_, congrArg _⟩
  have parts := cut ne plain
  rw [same, cut ne' plain'] at parts
  exact (List.map_injective_iff.2 (fun _ _ => String.toList_injective) parts).symm

/-- Below a root, an entry is shown by the names that lead to it, however the root is spelled and wherever the
current folder is. So entries that differ are shown differently. -/
theorem displayName_faithful (here root : String) (ne : root ≠ "") :
    (∀ names, names ≠ [] → (∀ name ∈ names, IsEntryName name) →
      displayName here (descend root names) (some root) = "/".intercalate names) ∧
    ∀ names names', names ≠ [] → names' ≠ [] → (∀ name ∈ names, IsEntryName name) →
      (∀ name ∈ names', IsEntryName name) → names ≠ names' →
        displayName here (descend root names) (some root) ≠ displayName here (descend root names') (some root) := by
  refine ⟨fun names below good => displayName_descend here ne below good, ?_⟩
  intro names names' below below' good good' differ same
  rw [displayName_descend here ne below good, displayName_descend here ne below' good'] at same
  exact differ ((intercalate_inj below below' (fun name mem => (good name mem).plain)
    fun name mem => (good' name mem).plain).1 same)

/-- The root leads out of the top, back into it and through slashes and dots; the names look like paths and dots. -/
theorem displayName_faithful_outside :
    displayName "/work" (descend "..//.././../work/./" ["...", "a.m"]) (some "..//.././../work/./") = ".../a.m" ∧
      displayName "/work" (descend "..//.././../work/./" ["..."]) (some "..//.././../work/./") ≠
        displayName "/work" (descend "..//.././../work/./" ["...", "a.m"]) (some "..//.././../work/./") := by
  have good : ∀ name ∈ ["...", "a.m"], IsEntryName name := by
    intro name mem
    rcases List.mem_pair.1 mem with rfl | rfl
    · exact ⟨by decide, by decide, by decide, by decide⟩
    · exact ⟨by decide, by decide, by decide, by decide⟩
  have short : ∀ name ∈ ["..."], IsEntryName name := fun name mem => good name (by simp_all)
  obtain ⟨shown, apart⟩ := displayName_faithful "/work" "..//.././../work/./" (by decide)
  exact ⟨shown _ (by decide) good, apart _ _ (by decide) (by decide) short good (by decide)⟩

end Path

theorem Volume.Proper.isEntryName {v : Volume} (proper : v.Proper) (single : ∀ entry ∈ v.nodes, ".." ∉ entry.1)
    {folder : Place} {name : String} (mem : name ∈ v.namesIn folder) : Path.IsEntryName name := by
  have good := proper.isName mem
  obtain ⟨entry, stored, there⟩ := List.mem_map.1 (Volume.mem_namesIn.1 mem)
  refine ⟨good.ne_empty, good.plain, good.ne_dot, ?_⟩
  rintro rfl
  exact single entry stored (there ▸ List.mem_append_right folder List.mem_cons_self)

namespace Walk

open MatlabTidy.Path (IsEntryName descend)

/-- What a walk scans are entries below its target, and each is shown by the names that lead to it from there. -/
theorem nameOf_of_mem_scanned {plan : Plan} {limit : Nat} {w : World} (proper : w.volume.Proper)
    (single : ∀ entry ∈ w.volume.nodes, ".." ∉ entry.1) (ne : plan.root ≠ "") {recursive : Bool} {path : String}
    (mem : path ∈ Step.scanned (Step.itinerary limit w.volume recursive plan.root)) :
    ∃ names, names ≠ [] ∧ (∀ name ∈ names, IsEntryName name) ∧ path = descend plan.root names ∧
      (plan.nameOf path).run w = .ok ("/".intercalate names) w := by
  have down : ∀ {place : Place} {names : List String} {name : String}, name ∈ w.volume.namesIn place →
      (∀ name ∈ names, IsEntryName name) → ∀ name' ∈ names ++ [name], IsEntryName name' := fun present good =>
    List.forall_mem_append.2 ⟨good, List.forall_mem_singleton.2 (proper.isEntryName single present)⟩
  have below : ∀ text place, w.volume.resolve text = .ok place →
      (∃ names, (∀ name ∈ names, IsEntryName name) ∧ text = descend plan.root names) →
        ∀ name ∈ w.volume.namesIn place,
          ∃ names, (∀ name ∈ names, IsEntryName name) ∧ Path.entry text name = descend plan.root names := by
    rintro _ place - ⟨names, good, rfl⟩ name present
    exact ⟨names ++ [name], down present good, (Path.descend_concat ..).symm⟩
  obtain ⟨text, place, name, -, ⟨names, good, rfl⟩, present, rfl, -⟩ :=
    Step.exists_entry_of_mem_scanned ⟨[], List.forall_mem_nil _, rfl⟩ below mem
  have some : names ++ [name] ≠ [] := List.append_ne_nil_of_right_ne_nil names (List.cons_ne_nil name [])
  refine ⟨names ++ [name], some, down present good, (Path.descend_concat ..).symm, ?_⟩
  rw [← Path.descend_concat, ← Path.displayName_descend w.volume.hereText ne some (down present good)]
  rfl

end Walk

end MatlabTidy
