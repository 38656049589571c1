import MatlabTidy.Proofs.Volume.Removal
import MatlabTidy.Run.Scan

/-!
# The shape of a volume

When sources are written again, nothing appears and nothing vanishes, folders stay folders and files keep
their permissions; but a link that is the entry of a source becomes a file with the permissions of the file
that it led to (`Volume.Reshaped`). One rewriting is of this kind (`Volume.reshaped_put`), and so are several
(`Volume.Reshaped.trans`), in a volume in which everything stands in a folder. What is said of an entry and of
a link is said of the first volume: a walk to a folder is a walk of the first volume
(`Volume.Reshaped.leads_folder`), and where a walk leads to a file that was written over a link, it led on
along that link (`Volume.Reshaped.exists_leads`).
-/

namespace MatlabTidy.Volume

variable {v u v' : Volume} {place start last : Place} {path target : String} {names : List String}
variable {budget left mode : Nat} {bytes : List UInt8}

/-- Whatever stands at a place stands in a folder. -/
def Rooted (v : Volume) : Prop := ∀ place, v.node? place ≠ none → v.node? place.dropLast = some .folder

/-- The place is the entry that the path text of a source names. -/
def IsSourceEntry (v : Volume) (place : Place) : Prop :=
  ∃ path parent last, isSource path = true ∧ Names v path parent last ∧ place = parent ++ [last]

/-- A link at the place with this target leads to a file with these permissions, if enough links may be
followed. -/
def LinksToFile (v : Volume) (place : Place) (target : String) (mode : Nat) : Prop :=
  ∃ budget last left bytes, Leads v budget (linkStart place.dropLast target) (steps target) last left ∧
    v.node? last = some (.file bytes mode)

/-- The volumes have the same places, folders and permissions of files. Entries of sources may have other
bytes, and those that were links may be files with the permissions of the files that they led to. -/
structure Reshaped (v v' : Volume) : Prop where
  here : v'.here = v.here
  free : ∀ place, v'.node? place = none ↔ v.node? place = none
  folder : ∀ place, v'.node? place = some .folder ↔ v.node? place = some .folder
  file : ∀ {place bytes mode}, v.node? place = some (.file bytes mode) →
    ∃ bytes', v'.node? place = some (.file bytes' mode) ∧ (bytes' = bytes ∨ IsSourceEntry v place)
  link : ∀ {place target}, v.node? place = some (.link target) →
    v'.node? place = some (.link target) ∨
      ∃ bytes mode, v'.node? place = some (.file bytes mode) ∧ IsSourceEntry v place ∧
        LinksToFile v place target mode

theorem Rooted.linkStart (rooted : v.Rooted) (here : v.node? place = some (.link target)) :
    v.node? (linkStart place.dropLast target) = some .folder := by
  unfold Volume.linkStart
  split
  · rfl
  · exact rooted place (by simp [here])

namespace Reshaped

theorem refl (v : Volume) : Reshaped v v where
  here := rfl
  free _ := .rfl
  folder _ := .rfl
  file h := ⟨_, h, .inl rfl⟩
  link h := .inl h

theorem rooted (h : Reshaped v u) (rooted : v.Rooted) : u.Rooted := fun place taken =>
  (h.folder _).2 (rooted place fun free => taken ((h.free place).2 free))

/-- A link was there before. -/
theorem link_of_link (h : Reshaped v u) (here : u.node? place = some (.link target)) :
    v.node? place = some (.link target) := by
  cases before : v.node? place with
  | none =>
    rw [(h.free place).2 before] at here
    cases here
  | some node =>
    cases node with
    | folder =>
      rw [(h.folder place).2 before] at here
      cases here
    | file bytes mode =>
      obtain ⟨bytes', there, -⟩ := h.file before
      rw [there] at here
      cases here
    | link target' =>
      rcases h.link before with same | ⟨bytes, mode, there, -⟩
      · rw [same] at here
        cases here
        rfl
      · rw [there] at here
        cases here

/-- A file was a file with the same permissions, or a link to one. -/
theorem file_or_link_of_file (h : Reshaped v u) (here : u.node? place = some (.file bytes mode)) :
    (∃ bytes', v.node? place = some (.file bytes' mode)) ∨
      ∃ target, v.node? place = some (.link target) ∧ LinksToFile v place target mode := by
  cases before : v.node? place with
  | none =>
    rw [(h.free place).2 before] at here
    cases here
  | some node =>
    cases node with
    | folder =>
      rw [(h.folder place).2 before] at here
      cases here
    | file bytes₁ mode₁ =>
      obtain ⟨bytes₂, there, -⟩ := h.file before
      rw [there] at here
      cases here
      exact .inl ⟨bytes₁, rfl⟩
    | link target =>
      rcases h.link before with same | ⟨bytes₁, mode₁, there, -, leads⟩
      · rw [same] at here
        cases here
      · rw [there] at here
        cases here
        exact .inr ⟨target, rfl, leads⟩

/-- A walk to a folder passes folders and links only, which were there before. -/
theorem leads_folder (h : Reshaped v u) (walk : Leads u budget start names last left)
    (ends : u.node? last = some .folder) : Leads v budget start names last left := by
  induction walk with
  | done budget place => exact .done budget place
  | dot folder single _ ih => exact .dot ((h.folder _).1 folder) single (ih ends)
  | up folder single double _ ih => exact .up ((h.folder _).1 folder) single double (ih ends)
  | link folder single double small here _ ih =>
    exact .link ((h.folder _).1 folder) single double small (h.link_of_link here) (ih ends)
  | @node budget left place last step rest node folder single double small here solid more ih =>
    have isFolder : u.node? (place ++ [step]) = some .folder := by
      cases rest with
      | nil =>
        cases more
        exact ends
      | cons name rest => exact more.folder_of_cons
    exact .node ((h.folder _).1 folder) single double small ((h.folder _).1 isFolder) nofun (ih ends)

/-- What a path names was named by it before. -/
theorem names_of_names (h : Reshaped v u) {parent : Place} {last : String} (names : Names u path parent last) :
    Names v path parent last := by
  obtain ⟨left, walk⟩ := names.leads
  refine { names with leads := ⟨left, ?_⟩, folder := (h.folder _).1 names.folder }
  have before := h.leads_folder walk names.folder
  rwa [startOf, h.here, ← startOf] at before

theorem isSourceEntry (h : Reshaped v u) (entry : IsSourceEntry u place) : IsSourceEntry v place := by
  obtain ⟨path, parent, last, source, names, rfl⟩ := entry
  exact ⟨path, parent, last, source, h.names_of_names names, rfl⟩

/-- Steps from a folder that lead to a file led to a file with the same permissions before. If the file was put
over a link, they led on along the link. -/
theorem exists_leads (h : Reshaped v u) (rooted : v.Rooted) (walk : Leads u budget start names last left)
    (begins : v.node? start = some .folder) (ends : u.node? last = some (.file bytes mode)) :
    ∃ budget' last' left' bytes', Leads v budget' start names last' left' ∧
      v.node? last' = some (.file bytes' mode) := by
  induction walk with
  | done budget place =>
    rw [(h.folder _).2 begins] at ends
    cases ends
  | dot folder single _ ih =>
    obtain ⟨budget', last', left', bytes', walk', file⟩ := ih begins ends
    exact ⟨budget', last', left', bytes', .dot begins single walk', file⟩
  | @up budget left place last step rest folder single double _ ih =>
    have above := rooted place (by simp [begins])
    obtain ⟨budget', last', left', bytes', walk', file⟩ := ih above ends
    exact ⟨budget', last', left', bytes', .up begins single double walk', file⟩
  | @link budget left place last step rest target folder single double small here _ ih =>
    have before := h.link_of_link here
    have start := rooted.linkStart before
    rw [List.dropLast_concat] at start
    obtain ⟨budget', last', left', bytes', walk', file⟩ := ih start ends
    exact ⟨budget' + 1, last', left', bytes', .link begins single double small before walk', file⟩
  | @node budget left place last step rest node folder single double small here solid more ih =>
    cases node with
    | folder =>
      have before := (h.folder _).1 here
      obtain ⟨budget', last', left', bytes', walk', file⟩ := ih before ends
      exact ⟨budget', last', left', bytes', .node begins single double small before nofun walk', file⟩
    | link target => exact absurd rfl (solid target)
    | file bytes₁ mode₁ =>
      -- Nothing leads on from a file, so this was the last step.
      cases rest with
      | cons name rest =>
        rw [more.folder_of_cons] at here
        cases here
      | nil =>
        cases more
        rcases h.file_or_link_of_file ends with ⟨bytes', before⟩ | ⟨target, before, onward⟩
        · exact ⟨0, _, 0, bytes', .node begins single double small before nofun (.done _ _), before⟩
        · obtain ⟨budget', last', left', bytes', walk', file⟩ := onward
          rw [List.dropLast_concat, ← List.append_nil (steps target)] at walk'
          exact ⟨budget' + 1, last', left', bytes', .link begins single double small before walk', file⟩

theorem linksToFile (h : Reshaped v u) (rooted : v.Rooted) (here : v.node? place = some (.link target))
    (leads : LinksToFile u place target mode) : LinksToFile v place target mode := by
  obtain ⟨budget, last, left, bytes, walk, file⟩ := leads
  exact h.exists_leads rooted walk (rooted.linkStart here) file

theorem trans (h : Reshaped v u) (rooted : v.Rooted) (h' : Reshaped u v') : Reshaped v v' where
  here := h'.here.trans h.here
  free place := (h'.free place).trans (h.free place)
  folder place := (h'.folder place).trans (h.folder place)
  file {place bytes mode} here := by
    obtain ⟨bytes₁, there, changed⟩ := h.file here
    obtain ⟨bytes₂, after, changed'⟩ := h'.file there
    refine ⟨bytes₂, after, ?_⟩
    rcases changed' with rfl | entry
    · exact changed
    · exact .inr (h.isSourceEntry entry)
  link {place target} here := by
    rcases h.link here with kept | ⟨bytes, mode, there, entry, leads⟩
    · rcases h'.link kept with kept' | ⟨bytes, mode, after, entry, leads⟩
      · exact .inl kept'
      · exact .inr ⟨bytes, mode, after, h.isSourceEntry entry, h.linksToFile rooted here leads⟩
    · obtain ⟨bytes', after, -⟩ := h'.file there
      exact .inr ⟨bytes', mode, after, entry, leads⟩

end Reshaped

/-- A link at the entry that a path names leads to the file that the path reads. -/
theorem Names.linksToFile {parent : Place} {last : String} (names : Names v path parent last)
    (holds : Holds v path bytes mode) (here : v.node? (parent ++ [last]) = some (.link target)) :
    LinksToFile v (parent ++ [last]) target mode := by
  obtain ⟨place, resolved, file⟩ := holds
  obtain ⟨-, left, walk⟩ := resolve_eq_ok.1 resolved
  rw [names.steps_eq] at walk
  obtain ⟨middle, between, first, second⟩ := walk.cut
  obtain ⟨left', walk'⟩ := names.leads
  obtain rfl := first.unique walk'
  cases second with
  | dot _ single _ => exact absurd single names.single
  | up _ _ double _ => exact absurd double names.double
  | node _ _ _ _ here' solid _ =>
    rw [here] at here'
    cases here'
    exact absurd rfl (solid target)
  | link _ _ _ _ here' more =>
    rw [here] at here'
    cases here'
    rw [List.append_nil] at more
    exact ⟨_, place, left, bytes, by rwa [List.dropLast_concat], file⟩

/-- Writing a source again changes its entry only. -/
theorem reshaped_put {parent : Place} {last : String} (source : isSource path = true)
    (names : Names v path parent last) (holds : Holds v path bytes mode) (out : List UInt8) :
    Reshaped v (v.put (parent ++ [last]) (.file out mode)) := by
  obtain ⟨blocks, taken⟩ := names.blocks holds.read
  have entry : IsSourceEntry v (parent ++ [last]) := ⟨path, parent, last, source, names, rfl⟩
  have there : (v.put (parent ++ [last]) (.file out mode)).node? (parent ++ [last]) = some (.file out mode) :=
    node?_put_self (by simp) _
  have others : ∀ {place : Place}, place ≠ parent ++ [last] →
      (v.put (parent ++ [last]) (.file out mode)).node? place = v.node? place := fun ne => node?_put_of_ne ne _
  refine ⟨here_put _ _ _, fun place => ?_, fun place => ?_, fun {place bytes' mode'} here => ?_,
    fun {place target} here => ?_⟩
  · by_cases same : place = parent ++ [last]
    · rw [same, there]
      exact iff_of_false nofun taken
    · rw [others same]
  · by_cases same : place = parent ++ [last]
    · rw [same, there]
      exact iff_of_false nofun blocks.noFolder
    · rw [others same]
  · by_cases same : place = parent ++ [last]
    · subst same
      obtain ⟨place, resolved, file⟩ := holds
      obtain rfl := Except.ok.inj (resolved.symm.trans (names.resolve here))
      rw [here] at file
      cases file
      exact ⟨out, there, .inr entry⟩
    · exact ⟨bytes', (others same).trans here, .inl rfl⟩
  · by_cases same : place = parent ++ [last]
    · subst same
      exact .inr ⟨out, mode, there, entry, names.linksToFile holds here⟩
    · exact .inl ((others same).trans here)

/-- A source that was moved in place has the permissions of the file that the path read. -/
theorem exists_put_of_moved {v₁ v'' : Volume} {temporary : Temporary} {out : List UInt8}
    (holds : Holds v path bytes mode) (made : v.makeTemporary path = .ok (v₁, temporary))
    (h : (v₁.write temporary.place out).replace temporary.place path = .ok v'') :
    ∃ parent last, Names v path parent last ∧ v'' = v.put (parent ++ [last]) (.file out mode) := by
  obtain ⟨parent, last, -, names, -⟩ := eq_put_of_replace made holds.read h
  rw [replace_eq_put holds names made] at h
  exact ⟨parent, last, names, (Except.ok.inj h).symm⟩

end MatlabTidy.Volume
