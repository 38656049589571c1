import MatlabTidy.Proofs.Run.Coverage

/-!
# Nulls in path texts

No system takes a path text with a null in it. The path texts of a walk have none, since the folder it starts
from has none and the names of entries have none (`Step.clean_of_mem_scanned`), so whatever else may go wrong with
such a file, a null is never the cause (`Volume.Clean.read`, `Volume.Clean.makeTemporary`).
-/

namespace MatlabTidy

/-- There is no null in the text. -/
def NoNull (text : String) : Prop := Char.ofNat 0 ∉ text.toList

namespace Path

variable {text name : String} {c : Char}

/-- Joined parts consist of the parts and of what stands between them. -/
theorem mem_intercalate {parts : List (List Char)} :
    c ∈ List.intercalate ['/'] parts → c = '/' ∨ ∃ part ∈ parts, c ∈ part := by
  induction parts with
  | nil => exact fun h => by cases h
  | cons part parts ih =>
    intro h
    cases parts with
    | nil =>
      rw [List.intercalate_singleton] at h
      exact .inr ⟨part, List.mem_cons_self, h⟩
    | cons next parts =>
      rw [List.intercalate_cons_cons, List.append_assoc, List.mem_append, List.mem_append] at h
      rcases h with here | slash | there
      · exact .inr ⟨part, List.mem_cons_self, here⟩
      · exact .inl (List.mem_singleton.1 slash)
      · exact (ih there).imp id fun ⟨part, mem, inside⟩ => ⟨part, List.mem_cons_of_mem _ mem, inside⟩

/-- The parts of a text are parts of it. -/
theorem mem_of_mem_cutAt {separator : Char} {text part : List Char} (mem : part ∈ Text.cutAt separator text)
    (h : c ∈ part) : c ∈ text := by
  induction text generalizing part with
  | nil =>
    rw [List.mem_singleton.1 mem] at h
    cases h
  | cons d rest ih =>
    rw [Text.cutAt] at mem
    split at mem
    · rcases List.mem_cons.1 mem with rfl | mem
      · cases h
      · exact List.mem_cons_of_mem _ (ih mem h)
    · cases cut : Text.cutAt separator rest with
      | nil =>
        rw [cut] at mem
        rw [List.mem_singleton.1 mem] at h
        exact List.mem_singleton.1 h ▸ List.mem_cons_self
      | cons first others =>
        rw [cut] at mem ih
        rcases List.mem_cons.1 mem with rfl | mem
        · rcases List.mem_cons.1 h with rfl | h
          · exact List.mem_cons_self
          · exact List.mem_cons_of_mem _ (ih List.mem_cons_self h)
        · exact List.mem_cons_of_mem _ (ih (List.mem_cons_of_mem _ mem) h)

theorem noNull_of_mem_parts (clean : NoNull text) (mem : name ∈ parts text) : NoNull name := by
  obtain ⟨part, cut, rfl⟩ := List.mem_map.1 (List.mem_of_mem_filter mem)
  rw [NoNull, String.toList_ofList]
  exact fun null => clean (mem_of_mem_cutAt cut null)

theorem noNull_name (clean : NoNull text) : NoNull (ofString text).name := by
  cases last : (parts text).getLast? with
  | none =>
    rw [Path.name, ofString, last]
    exact List.not_mem_nil
  | some name =>
    rw [Path.name, ofString, last]
    exact noNull_of_mem_parts clean (List.mem_of_getLast? last)

theorem noNull_text {p : Path} (clean : ∀ name ∈ p.names, NoNull name) : NoNull p.text := by
  by_cases none : p.names = []
  · rw [NoNull, text, none]
    split
    · decide
    · rw [String.toList_append, String.toList_ofList, List.mem_append, not_or]
      exact ⟨fun null => absurd (List.eq_of_mem_replicate null) (by decide), by decide⟩
  · intro null
    rw [Volume.toList_text none, List.mem_append] at null
    rcases null with slash | joined
    · exact absurd (List.eq_of_mem_replicate slash) (by decide)
    · rcases mem_intercalate joined with slash | ⟨part, mem, inside⟩
      · exact absurd slash (by decide)
      · obtain ⟨name, name_mem, rfl⟩ := List.mem_map.1 mem
        exact clean name name_mem inside

theorem mem_of_mem_resolveDots {names : List String} (mem : name ∈ resolveDots names) : name ∈ names := by
  have kept : ∀ (names front : List String),
      name ∈ names.foldl (fun kept name => if name = ".." then kept.dropLast else kept ++ [name]) front →
        name ∈ front ∨ name ∈ names := by
    intro names
    induction names with
    | nil => exact fun front mem => .inl mem
    | cons first names ih =>
      intro front mem
      rcases ih _ mem with mem | mem
      · dsimp only at mem
        split at mem
        · exact .inl (List.mem_of_mem_dropLast mem)
        · refine (List.mem_append.1 mem).imp id fun mem => ?_
          rw [List.mem_singleton.1 mem]
          exact List.mem_cons_self
      · exact .inr (List.mem_cons_of_mem _ mem)
  exact (kept names [] mem).resolve_left List.not_mem_nil

theorem noNull_entry {front : String} (clean : NoNull front) (clean' : NoNull name) : NoNull (entry front name) := by
  obtain ⟨between, slash, whole⟩ := Volume.toList_entry front name
  have apart : Char.ofNat 0 ∉ between := by
    rcases slash with rfl | rfl
    · exact List.not_mem_nil
    · decide
  rw [NoNull, whole, List.mem_append, List.mem_append]
  exact not_or.2 ⟨not_or.2 ⟨clean, apart⟩, clean'⟩

/-- The current folder matters to a text that does not start at the top. -/
theorem noNull_absolute {here : String} (clean : NoNull text)
    (around : Volume.isAbsolute text = false → NoNull here) : NoNull (absolute here text).text := by
  have joined : NoNull (join here text) := by
    unfold join
    split
    · exact clean
    · rename_i relative
      exact noNull_entry (around (by simpa [Volume.isAbsolute] using relative)) clean
  exact noNull_text fun name mem => noNull_of_mem_parts joined (mem_of_mem_resolveDots mem)

end Path

namespace Volume

variable {v : Volume} {path text name : String} {place top : Place}

/-- A path text without a null, which does not start in a folder with one. -/
structure Clean (v : Volume) (path : String) : Prop where
  noNull : NoNull path
  around : isAbsolute path = false → NoNull v.hereText

/-- A text without a null is refused for another cause. -/
theorem checkText_ne_embeddedNull (clean : NoNull path) : checkText path ≠ .error .embeddedNull := by
  unfold checkText
  rw [if_neg fun null => clean (List.contains_iff_mem.1 null)]
  split
  · nofun
  · split
    · nofun
    · nofun

theorem follow_ne_embeddedNull (v : Volume) (followLast : Bool) (budget : Nat) (place : Place) (steps : List String) :
    v.follow followLast budget place steps ≠ .error .embeddedNull := by
  intro h
  fun_induction v.follow followLast budget place steps <;> first | cases h | contradiction

theorem resolve_ne_embeddedNull (clean : NoNull path) : v.resolve path ≠ .error .embeddedNull := by
  intro h
  unfold resolve at h
  cases checked : checkText path with
  | error cause =>
    rw [checked] at h
    cases h
    exact checkText_ne_embeddedNull clean checked
  | ok _ =>
    rw [checked] at h
    exact follow_ne_embeddedNull _ _ _ _ _ h

/-- A text that does not start at the top starts with a name. -/
theorem namesOf_ne_nil (relative : isAbsolute path = false) (ne : path ≠ "") : namesOf path ≠ [] := by
  obtain ⟨c, rest, whole⟩ := List.exists_cons_of_ne_nil (toList_ne_nil ne)
  have other : c ≠ '/' := by simpa [isAbsolute, whole] using relative
  rw [namesOf, whole, Text.cutAt, if_neg other]
  cases Text.cutAt '/' rest with
  | nil =>
    rw [Text.prependChar, List.map_cons, List.filter_cons_of_pos (by simp)]
    exact List.cons_ne_nil _ _
  | cons first others =>
    rw [Text.prependChar, List.map_cons, List.filter_cons_of_pos (by simp)]
    exact List.cons_ne_nil _ _

/-- A path text that leads somewhere starts in a folder of the volume, whose names have no nulls. -/
theorem Proper.clean_of_resolve (proper : v.Proper) (h : v.resolve path = .ok place) : v.Clean path := by
  obtain ⟨checked, left, walk⟩ := leads_of_resolve h
  obtain ⟨null, ne, -⟩ := checkText_eq_ok.1 checked
  refine ⟨null, fun relative => Path.noNull_text fun name mem => ?_⟩
  have start : v.startOf path = v.here := by
    rw [startOf, relative]
    rfl
  obtain ⟨first, rest, names⟩ := List.exists_cons_of_ne_nil (namesOf_ne_nil relative ne)
  rw [start, names] at walk
  have taken : ¬ v.node? v.here = none := by simp [walk.folder_of_cons]
  obtain ⟨entry, entry_mem, there⟩ := List.mem_map.1 (mem_of_node? (List.ne_nil_of_mem mem) taken)
  exact (proper.names entry entry_mem name (there ▸ mem)).noNull

theorem Clean.entry (h : v.Clean text) (ne : text ≠ "") (good : IsName name) : v.Clean (Path.entry text name) where
  noNull := Path.noNull_entry h.noNull good.noNull
  around := fun relative => h.around ((isAbsolute_entry name ne).symm.trans relative)

theorem Clean.elsewhere {v' : Volume} (h : v.Clean path) (same : v'.here = v.here) : v'.Clean path where
  noNull := h.noNull
  around := by
    rw [hereText, same]
    exact h.around

/-- A null is not why a file cannot be read. -/
theorem Clean.read (h : v.Clean path) {error : AccessError} (fails : v.read path = .error error) :
    error.cause ≠ .embeddedNull := by
  unfold Volume.read withPath at fails
  split at fails
  · cases fails
  · rename_i cause failed
    cases fails
    rintro rfl
    cases resolved : v.resolve path with
    | error cause =>
      rw [resolved] at failed
      cases failed
      exact resolve_ne_embeddedNull h.noNull resolved
    | ok place =>
      rw [resolved] at failed
      dsimp only [bind, Except.bind] at failed
      split at failed
      · cases failed
      · cases failed
      · cases failed

/-- A path that starts at the top has a text that does. -/
theorem isAbsolute_text {p : Path} (h : p.slashes ≠ 0) : isAbsolute p.text = true := by
  obtain ⟨count, slashes⟩ := Nat.exists_eq_succ_of_ne_zero h
  rw [Path.text, if_neg fun none => h none.1, isAbsolute, String.toList_append, String.toList_ofList, slashes,
    List.replicate_succ]
  rfl

/-- The folder beside which a temporary file is made has a text without nulls. -/
theorem Clean.folder (h : v.Clean path) :
    NoNull (Path.absolute v.hereText (Path.ofString path).parent.text).text := by
  have parts : ∀ name ∈ Path.parts path, NoNull name := fun name => Path.noNull_of_mem_parts h.noNull
  refine Path.noNull_absolute (Path.noNull_text fun name mem => parts name (List.mem_of_mem_dropLast mem))
    fun relative => h.around ?_
  rw [← leading_eq_zero_iff]
  by_contra slashes
  rw [isAbsolute_text (p := (Path.ofString path).parent) slashes] at relative
  cases relative

theorem noNull_temporaryName (clean : NoNull name) : NoNull (temporaryName name 0) := by
  have whole : temporaryName name 0 = "." ++ name ++ "." ++ toString 0 ++ ".tmp" := rfl
  rw [whole, NoNull]
  simp only [String.toList_append, List.mem_append, not_or]
  exact ⟨⟨⟨⟨by decide, clean⟩, by decide⟩, by decide⟩, by decide⟩

/-- A null is not why a temporary file cannot be made. -/
theorem Clean.makeTemporary (h : v.Clean path) {error : AccessError} (fails : v.makeTemporary path = .error error) :
    error.cause ≠ .embeddedNull := by
  have folder := h.folder
  have text := Path.noNull_entry folder (noNull_temporaryName (Path.noNull_name h.noNull))
  unfold Volume.makeTemporary withPath at fails
  dsimp only at fails
  split at fails
  · cases fails
  · rename_i cause failed
    cases fails
    rintro rfl
    cases checked : checkText (Path.entry (Path.absolute v.hereText (Path.ofString path).parent.text).text
        (temporaryName (Path.ofString path).name 0)) with
    | error cause =>
      rw [checked] at failed
      cases failed
      exact checkText_ne_embeddedNull text checked
    | ok _ =>
      cases resolved : v.resolve (Path.absolute v.hereText (Path.ofString path).parent.text).text with
      | error cause =>
        rw [checked, resolved] at failed
        cases failed
        exact resolve_ne_embeddedNull folder resolved
      | ok place =>
        rw [checked, resolved] at failed
        dsimp only [bind, Except.bind] at failed
        split at failed
        · cases failed
        · split at failed
          · cases failed
          · cases failed

end Volume

namespace Step

variable {v : Volume} {limit : Nat} {recursive : Bool} {path : String}

/-- What holds of the sources among the entries of a folder, and of what is scanned in its subfolders, holds of
all that is scanned. -/
theorem of_mem_scanned_ofEntries {P : String → Prop} {enter : List Place → String → List Step × List Place}
    {entries : List String} (inside : ∀ entry ∈ entries, ∀ visited, ∀ path ∈ scanned (enter visited entry).1, P path)
    (here : ∀ entry ∈ entries, isSource entry = true → P entry) (visited : List Place) :
    ∀ path ∈ scanned (ofEntries v recursive enter visited entries).1, P path := by
  induction entries generalizing visited with
  | nil => exact List.forall_mem_nil P
  | cons entry entries ih =>
    obtain ⟨own, others⟩ := List.forall_mem_cons.1 here
    obtain ⟨within, elsewhere⟩ := List.forall_mem_cons.1 inside
    obtain ⟨step, visited', makes⟩ := exists_makes v recursive enter visited entry
    have first : ∀ path ∈ scanned [step], P path := by
      cases makes with
      | file =>
        split
        · exact List.forall_mem_singleton.2 (own ‹_›)
        · exact List.forall_mem_nil P
      | enter =>
        rw [scanned_enter]
        exact within visited
      | folder | visited | unanswered | unidentified => exact List.forall_mem_nil P
    rw [makes.ofEntries_cons, scanned_cons]
    exact List.forall_mem_append.2 ⟨first, ih elsewhere others visited'⟩

/-- What a walk scans are sources that are entries of folders. What holds of the target of the walk, and passes
from a folder to its entries, holds of these folders. -/
theorem exists_entry_of_mem_scanned {P : String → Prop} {top : String} (start : P top)
    (down : ∀ text place, v.resolve text = .ok place → P text → ∀ name ∈ v.namesIn place, P (Path.entry text name))
    (mem : path ∈ scanned (itinerary limit v recursive top)) :
    ∃ text place name, v.resolve text = .ok place ∧ P text ∧ name ∈ v.namesIn place ∧ path = Path.entry text name ∧
      isSource path = true := by
  have all : ∀ depth visited text, P text → ∀ path ∈ scanned (ofFolder v recursive depth visited text).1,
      ∃ text place name, v.resolve text = .ok place ∧ P text ∧ name ∈ v.namesIn place ∧ path = Path.entry text name ∧
        isSource path = true := by
    intro depth
    induction depth with
    | zero => exact fun visited text _ => List.forall_mem_nil _
    | succ depth ih =>
      intro visited text holds
      rw [ofFolder]
      cases identity : v.identity text with
      | error e => exact List.forall_mem_nil _
      | ok place =>
        cases listed : v.entries text with
        | error e => exact List.forall_mem_nil _
        | ok entries =>
          have leads := Volume.withPath_eq_ok.1 identity
          obtain ⟨folder, found, -, rfl⟩ := Volume.entries_eq_ok.1 listed
          obtain rfl := Except.ok.inj (leads.symm.trans found)
          refine of_mem_scanned_ofEntries (fun entry mem => ?_) (fun entry mem source => ?_) (place :: visited)
          · obtain ⟨name, present, rfl⟩ := List.mem_map.1 mem
            exact fun visited => ih visited _ (down text place leads holds name present)
          · obtain ⟨name, present, rfl⟩ := List.mem_map.1 mem
            exact ⟨text, place, name, leads, holds, present, rfl, source⟩
  exact all _ _ _ start path mem

/-- What a walk scans are sources, and there is no null in their path texts. -/
theorem clean_of_mem_scanned (proper : v.Proper) {top : String}
    (mem : path ∈ scanned (itinerary limit v recursive top)) :
    isSource path = true ∧ v.Clean path := by
  obtain ⟨text, place, name, leads, -, present, rfl, source⟩ :=
    exists_entry_of_mem_scanned (P := fun _ => True) trivial (fun _ _ _ _ _ _ => trivial) mem
  obtain ⟨-, ne, -⟩ := Volume.checkText_eq_ok.1 (Volume.leads_of_resolve leads).1
  exact ⟨source, (proper.clean_of_resolve leads).entry ne (proper.isName present)⟩

end Step

end MatlabTidy
