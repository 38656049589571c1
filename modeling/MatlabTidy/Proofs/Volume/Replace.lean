import MatlabTidy.Proofs.Volume.Walk

/-!
# Replacing a file in place

A temporary file is made, filled and moved over a file that could be read before. Then the path leads to
what was written (`Replaced.read`), and the same can be done again with the same path
(`Replaced.again`). The proof is that neither the temporary file nor the target lies on a walk to a folder
(`Blocks`), so the folders of both are found in the changed volume as before.
-/

namespace MatlabTidy.Volume

variable {v v' : Volume} {path : String} {place parent temp : Place} {last : String}
variable {bytes out : List UInt8}

/-- Two steps succeed if the first does and then the second. -/
theorem bind_eq_ok {α β : Type} {x : Except AccessCause α} {f : α → Except AccessCause β} {b : β} :
    x >>= f = .ok b ↔ ∃ a, x = .ok a ∧ f a = .ok b := by
  cases x with
  | ok a =>
    constructor
    · intro h
      exact ⟨a, rfl, h⟩
    · rintro ⟨_, h, h'⟩
      cases h
      exact h'
  | error cause =>
    constructor
    · intro h
      cases h
    · rintro ⟨_, h, -⟩
      cases h

theorem withPath_eq_ok {α : Type} {x : Except AccessCause α} {a : α} :
    withPath path x = .ok a ↔ x = .ok a := by
  cases x with
  | ok b =>
    rw [withPath, Except.ok.injEq, Except.ok.injEq]
  | error cause =>
    constructor
    · intro h
      cases h
    · intro h
      cases h

/-- A path leads where its steps lead. -/
theorem resolve_eq_ok : v.resolve path = .ok place ↔
    checkText path = .ok () ∧ ∃ left, Leads v mostLinks (v.startOf path) (steps path) place left := by
  rw [resolve, bind_eq_ok]
  constructor
  · rintro ⟨_, text, followed⟩
    exact ⟨text, leads_of_follow followed⟩
  · rintro ⟨text, left, walk⟩
    exact ⟨(), text, walk.follow⟩

/-- The path of the top takes no step. -/
theorem resolve_top (v : Volume) : v.resolve "/" = .ok [] := by
  have none : steps "/" = [] := by decide
  refine resolve_eq_ok.2 ⟨rfl, mostLinks, ?_⟩
  rw [none]
  exact .done _ _

/-- A path reads the bytes of the file that it leads to. -/
theorem read_eq_ok : v.read path = .ok bytes ↔
    ∃ place mode, v.resolve path = .ok place ∧ v.node? place = some (.file bytes mode) := by
  rw [read, withPath_eq_ok, bind_eq_ok]
  constructor
  · rintro ⟨place, resolved, found⟩
    split at found
    · rename_i file
      cases found
      exact ⟨place, _, resolved, file⟩
    · cases found
    · cases found
  · rintro ⟨place, mode, resolved, file⟩
    refine ⟨place, resolved, ?_⟩
    rw [file]
    rfl

/-- A path lists the entries of the folder that it leads to. -/
theorem entries_eq_ok {entries : List String} : v.entries path = .ok entries ↔
    ∃ folder, v.resolve path = .ok folder ∧ v.node? folder = some .folder ∧
      entries = (v.namesIn folder).map (Path.entry path) := by
  rw [Volume.entries, withPath_eq_ok, bind_eq_ok]
  refine exists_congr fun folder => and_congr_right fun _ => ?_
  by_cases isFolder : v.node? folder = some .folder
  · rw [if_pos isFolder]
    exact ⟨fun h => ⟨isFolder, (Except.ok.inj h).symm⟩, fun h => congrArg Except.ok h.2.symm⟩
  · rw [if_neg isFolder]
    exact ⟨nofun, fun h => absurd h.1 isFolder⟩

/-- The path names an entry of a folder, whether or not it exists. -/
structure Names (v : Volume) (path : String) (parent : Place) (last : String) : Prop where
  text : checkText path = .ok ()
  names : namesOf path = (namesOf path).dropLast ++ [last]
  unslashed : endsInSlash path = false
  single : last ≠ "."
  double : last ≠ ".."
  small : ¬ mostNameBytes < last.utf8ByteSize
  leads : ∃ left, Leads v mostLinks (v.startOf path) (namesOf path).dropLast parent left
  folder : v.node? parent = some .folder

namespace Names

theorem steps_eq (h : Names v path parent last) : steps path = (namesOf path).dropLast ++ [last] := by
  rw [steps, h.unslashed]
  simpa using h.names

/-- The path names the same entry in a volume that differs at a place that blocks. -/
theorem frame (h : Names v path parent last) (differs : Differs v v' place) (blocks : Blocks v place) :
    Names v' path parent last := by
  obtain ⟨left, walk⟩ := h.leads
  have start : v'.startOf path = v.startOf path := by
    rw [startOf, startOf, differs.here]
  refine { h with leads := ⟨left, ?_⟩, folder := differs.folder blocks h.folder }
  rw [start]
  exact walk.frame differs blocks h.folder

theorem locate (h : Names v path parent last) : v.locate path = .ok (parent ++ [last]) := by
  obtain ⟨left, walk⟩ := h.leads
  have named : (namesOf path).getLast? = some last := by
    rw [h.names]
    exact List.getLast?_concat
  rw [Volume.locate, bind_eq_ok]
  refine ⟨(), h.text, ?_⟩
  rw [named]
  refine bind_eq_ok.2 ⟨parent, walk.follow, ?_⟩
  rw [if_neg (by simp [h.folder]), if_neg h.small, if_neg (by simp [h.single, h.double]),
    if_neg (by simp [h.unslashed])]

theorem resolve {mode : Nat} (h : Names v path parent last)
    (file : v.node? (parent ++ [last]) = some (.file bytes mode)) : v.resolve path = .ok (parent ++ [last]) := by
  obtain ⟨left, walk⟩ := h.leads
  have step : Leads v left parent [last] (parent ++ [last]) left :=
    .node h.folder h.single h.double h.small file nofun (.done _ _)
  have whole := walk.append step
  rw [← h.steps_eq] at whole
  exact resolve_eq_ok.2 ⟨h.text, left, whole⟩

/-- A file at the entry is what the path reads. -/
theorem read {mode : Nat} (h : Names v path parent last)
    (file : v.node? (parent ++ [last]) = some (.file bytes mode)) : v.read path = .ok bytes :=
  read_eq_ok.2 ⟨parent ++ [last], mode, h.resolve file, file⟩

end Names

/-- A place that a path locates is an entry that the path names. -/
theorem names_of_locate (h : v.locate path = .ok place) :
    ∃ parent last, Names v path parent last ∧ place = parent ++ [last] := by
  rw [locate, bind_eq_ok] at h
  obtain ⟨_, text, h⟩ := h
  cases named : (namesOf path).getLast? with
  | none =>
    rw [named] at h
    cases h
  | some last =>
    rw [named] at h
    obtain ⟨parent, followed, h⟩ := bind_eq_ok.1 h
    by_cases folder : v.node? parent = some .folder
    · rw [if_neg (by simp [folder])] at h
      by_cases small : mostNameBytes < last.utf8ByteSize
      · rw [if_pos small] at h
        cases h
      rw [if_neg small] at h
      by_cases dots : last = "." ∨ last = ".."
      · rw [if_pos dots] at h
        cases h
      rw [if_neg dots] at h
      by_cases slash : endsInSlash path = true
      · rw [if_pos slash] at h
        cases h
      rw [if_neg slash] at h
      cases h
      rw [not_or] at dots
      refine ⟨parent, last, ⟨text, ?_, by simpa using slash, dots.1, dots.2, small,
        leads_of_follow followed, folder⟩, rfl⟩
      exact (List.dropLast_append_getLast? last named).symm
    · rw [if_pos folder] at h
      cases h

/-- What a path that can be read names in a volume, it names in a volume that differs at a place that
blocks. -/
theorem Names.of_read (h : Names v' path parent last) (differs : Differs v v' place) (blocks : Blocks v place)
    (read : v.read path = .ok bytes) : Names v path parent last := by
  obtain ⟨target, mode, resolved, -⟩ := read_eq_ok.1 read
  obtain ⟨-, left, walk⟩ := resolve_eq_ok.1 resolved
  rw [h.steps_eq] at walk
  obtain ⟨middle, between, first, second⟩ := walk.cut
  have folder := second.folder_of_cons
  have start : v'.startOf path = v.startOf path := by
    rw [startOf, startOf, differs.here]
  obtain ⟨left', walk'⟩ := h.leads
  rw [start] at walk'
  obtain rfl := (first.frame differs blocks folder).unique walk'
  exact { h with leads := ⟨between, first⟩, folder := folder }

/-- A file to which a path leads stands at an entry, or a link that leads to it. -/
theorem Names.blocks_of_leads {budget left : Nat} (h : Names v path parent last)
    (walk : Leads v budget (v.startOf path) (steps path) place left) (noFolder : v.node? place ≠ some .folder) :
    Blocks v (parent ++ [last]) ∧ v.node? (parent ++ [last]) ≠ none := by
  rw [h.steps_eq] at walk
  obtain ⟨middle, between, first, second⟩ := walk.cut
  obtain ⟨left', walk'⟩ := h.leads
  obtain rfl := first.unique walk'
  cases second with
  | dot _ single _ => exact absurd single h.single
  | up _ _ double _ => exact absurd double h.double
  | link _ _ _ _ here more =>
    refine ⟨⟨by simp [here], fun target link budget last' left' walk' => ?_⟩, by simp [here]⟩
    rw [here] at link
    cases link
    rw [List.append_nil] at more
    rw [List.dropLast_concat] at walk'
    rwa [← more.unique walk']
  | node _ _ _ _ here solid more =>
    cases more
    refine ⟨⟨noFolder, fun target link => ?_⟩, by simp [here]⟩
    rw [here] at link
    cases link
    exact absurd rfl (solid target)

theorem Names.blocks (h : Names v path parent last) (read : v.read path = .ok bytes) :
    Blocks v (parent ++ [last]) ∧ v.node? (parent ++ [last]) ≠ none := by
  obtain ⟨place, mode, resolved, file⟩ := read_eq_ok.1 read
  obtain ⟨-, left, walk⟩ := resolve_eq_ok.1 resolved
  exact h.blocks_of_leads walk (by simp [file])

/-- The temporary file holds what is to be written, and nothing else has changed. -/
structure Filled (v v' : Volume) (temp : Place) (out : List UInt8) : Prop where
  differs : Differs v v' temp
  file : ∃ mode, v'.node? temp = some (.file out mode)

theorem Filled.ne_nil (h : Filled v v' temp out) : temp ≠ [] := by
  rintro rfl
  obtain ⟨mode, file⟩ := h.file
  cases file

theorem filled_write (ne : temp ≠ []) (out : List UInt8) (mode : Nat) :
    Filled v ((v.put temp (.file [] mode)).write temp out) temp out := by
  rw [write, node?_put_self ne]
  exact ⟨(differs_put v temp _).trans (differs_put _ temp _), mode, node?_put_self ne _⟩

theorem Filled.setMode (h : Filled v v' temp out) (mode : Nat) : Filled v (v'.setMode temp mode) temp out := by
  obtain ⟨old, file⟩ := h.file
  rw [Volume.setMode, file]
  exact ⟨h.differs.trans (differs_put _ temp _), mode, node?_put_self h.ne_nil _⟩

/-- The volume in which the temporary file has the permissions of the target. -/
def withModeOf (v : Volume) (temp : Place) (target : String) : Volume :=
  match v.mode? target with
  | some mode => v.setMode temp mode
  | none => v

theorem Filled.withModeOf (h : Filled v v' temp out) (path : String) :
    Filled v (v'.withModeOf temp path) temp out := by
  unfold Volume.withModeOf
  split
  · exact h.setMode _
  · exact h

theorem replace_eq (v : Volume) (temp : Place) (path : String) :
    v.replace temp path = withPath path (do
      let place ← (v.withModeOf temp path).locate path
      match (v.withModeOf temp path).node? temp, (v.withModeOf temp path).node? place with
      | none, _ => .error .missing
      | some _, some .folder => .error .isFolder
      | some node, _ => return ((v.withModeOf temp path).put place node).erase temp) := by
  unfold replace withModeOf
  rfl

/-- A temporary file is moved to the place that the target has, unless a folder stands there. -/
theorem replace_eq_ok (h : Filled v v' temp out) {v'' : Volume} :
    v'.replace temp path = .ok v'' ↔
      ∃ place mode, (v'.withModeOf temp path).locate path = .ok place ∧
        (v'.withModeOf temp path).node? temp = some (.file out mode) ∧
        (v'.withModeOf temp path).node? place ≠ some .folder ∧
        v'' = ((v'.withModeOf temp path).put place (.file out mode)).erase temp := by
  obtain ⟨mode, file⟩ := (h.withModeOf path).file
  rw [replace_eq, withPath_eq_ok, bind_eq_ok]
  constructor
  · rintro ⟨place, located, moved⟩
    refine ⟨place, mode, located, file, ?_⟩
    rw [file] at moved
    cases target : (v'.withModeOf temp path).node? place with
    | none =>
      rw [target] at moved
      exact ⟨nofun, (Except.ok.inj moved).symm⟩
    | some node =>
      rw [target] at moved
      cases node with
      | folder => cases moved
      | file bytes mode =>
        exact ⟨nofun, (Except.ok.inj moved).symm⟩
      | link target =>
        exact ⟨nofun, (Except.ok.inj moved).symm⟩
  · rintro ⟨place, mode', located, file', noFolder, rfl⟩
    refine ⟨place, located, ?_⟩
    rw [file']
    cases target : (v'.withModeOf temp path).node? place with
    | none => rfl
    | some node =>
      cases node with
      | folder => exact absurd target noFolder
      | file bytes mode => rfl
      | link target => rfl

/-- The volume after a replacement: the path names an entry through which nothing leads to a folder, the
new file stands there, and nothing else has changed. -/
structure Replaced (v v' : Volume) (path : String) (out : List UInt8) (parent : Place) (last : String) :
    Prop where
  names : Names v path parent last
  blocks : Blocks v (parent ++ [last])
  differs : Differs v v' (parent ++ [last])
  file : ∃ mode, v'.node? (parent ++ [last]) = some (.file out mode)

/-- Moving a filled temporary file over the entry of a path replaces the entry. -/
theorem Filled.replaced {u v'' : Volume} {mode : Nat} (filled : Filled v u temp out)
    (free : v.node? temp = none) (names : Names v path parent last) (blocks : Blocks v (parent ++ [last]))
    (ne : parent ++ [last] ≠ temp)
    (moved : v'' = (u.put (parent ++ [last]) (.file out mode)).erase temp) :
    Replaced v v'' path out parent last := by
  subst moved
  refine ⟨names, blocks, ⟨filled.differs.here ▸ here_put u _ _, fun other other_ne => ?_⟩, mode, ?_⟩
  · by_cases same : other = temp
    · rw [same, node?_erase_self filled.ne_nil, free]
    · rw [node?_erase_of_ne same, node?_put_of_ne other_ne, filled.differs.others other same]
  · rw [node?_erase_of_ne ne, node?_put_self (by simp)]

/-- A replacement of a file that could be read moves the new file to the entry that the path names. -/
theorem exists_put_of_replace {v'' : Volume} (filled : Filled v v' temp out) (free : v.node? temp = none)
    (read : v.read path = .ok bytes) (h : v'.replace temp path = .ok v'') :
    ∃ parent last mode, Names v path parent last ∧ Blocks v (parent ++ [last]) ∧ parent ++ [last] ≠ temp ∧
      v'' = ((v'.withModeOf temp path).put (parent ++ [last]) (.file out mode)).erase temp := by
  obtain ⟨place, mode, located, file, noFolder, moved⟩ := (replace_eq_ok filled).1 h
  obtain ⟨parent, last, names', rfl⟩ := names_of_locate located
  have names := names'.of_read (filled.withModeOf path).differs (blocks_of_none free) read
  obtain ⟨blocks, taken⟩ := names.blocks read
  have ne : parent ++ [last] ≠ temp := by
    intro same
    rw [same] at taken
    exact taken free
  exact ⟨parent, last, mode, names, blocks, ne, moved⟩

theorem replaced_of_replace {v'' : Volume} (filled : Filled v v' temp out) (free : v.node? temp = none)
    (read : v.read path = .ok bytes) (h : v'.replace temp path = .ok v'') :
    ∃ parent last, Replaced v v'' path out parent last := by
  obtain ⟨parent, last, mode, names, blocks, ne, moved⟩ := exists_put_of_replace filled free read h
  exact ⟨parent, last, (filled.withModeOf path).replaced free names blocks ne moved⟩

/-- What a new temporary file is: an empty file at a free place in a folder that the target's path text
tells. -/
theorem makeTemporary_eq_ok {target : String} {made : Volume × Temporary} :
    v.makeTemporary target = .ok made ↔
      ∃ folder, checkText (Path.entry (Path.absolute v.hereText (Path.ofString target).parent.text).text
          (temporaryName (Path.ofString target).name 0)) = .ok () ∧
        v.resolve (Path.absolute v.hereText (Path.ofString target).parent.text).text = .ok folder ∧
        ¬ mostNameBytes < (Path.ofString target).name.utf8ByteSize + temporaryBytes ∧
        v.node? folder = some .folder ∧
        made = (v.put (folder ++ [v.freshName folder (Path.ofString target).name]) (.file [] temporaryMode),
          ⟨folder ++ [v.freshName folder (Path.ofString target).name],
            (Path.absolute v.hereText (Path.ofString target).parent.text).text⟩) := by
  rw [makeTemporary]
  dsimp only
  rw [withPath_eq_ok, bind_eq_ok]
  constructor
  · rintro ⟨_, text, h⟩
    obtain ⟨folder, resolved, h⟩ := bind_eq_ok.1 h
    by_cases long : mostNameBytes < (Path.ofString target).name.utf8ByteSize + temporaryBytes
    · rw [if_pos long] at h
      cases h
    rw [if_neg long] at h
    by_cases isFolder : v.node? folder = some .folder
    · rw [if_pos isFolder] at h
      exact ⟨folder, text, resolved, long, isFolder, (Except.ok.inj h).symm⟩
    · rw [if_neg isFolder] at h
      cases h
  · rintro ⟨folder, text, resolved, short, isFolder, rfl⟩
    refine ⟨(), text, bind_eq_ok.2 ⟨folder, resolved, ?_⟩⟩
    rw [if_neg short, if_pos isFolder]
    rfl

/-- No temporary file is made where there is no room for its name. -/
theorem makeTemporary_of_long {target folder : String}
    (around : (Path.absolute v.hereText (Path.ofString target).parent.text).text = folder)
    (text : checkText (Path.entry folder (temporaryName (Path.ofString target).name 0)) = .ok ())
    (resolved : v.resolve folder = .ok place)
    (long : mostNameBytes < (Path.ofString target).name.utf8ByteSize + temporaryBytes) :
    v.makeTemporary target =
      .error ⟨.nameTooLong, Path.entry folder (temporaryName (Path.ofString target).name 0)⟩ := by
  subst around
  rw [makeTemporary]
  dsimp only
  rw [text, resolved]
  exact congrArg (withPath _) (if_pos long)

/-- A temporary file is made at a free place. -/
theorem free_of_makeTemporary {v₁ : Volume} {temporary : Temporary}
    (made : v.makeTemporary path = .ok (v₁, temporary)) (out : List UInt8) :
    v.node? temporary.place = none ∧ Filled v (v₁.write temporary.place out) temporary.place out := by
  obtain ⟨folder, -, -, -, -, made⟩ := makeTemporary_eq_ok.1 made
  obtain ⟨rfl, rfl⟩ := Prod.mk.inj made
  exact ⟨node?_freshName v folder _, filled_write (by simp) out temporaryMode⟩

theorem erase_write (v : Volume) (place : Place) (out : List UInt8) :
    (v.write place out).erase place = v.erase place := by
  unfold write
  split
  · exact erase_put_self v place _
  · rfl

theorem erase_withModeOf (v : Volume) (place : Place) (path : String) :
    (v.withModeOf place path).erase place = v.erase place := by
  unfold withModeOf setMode
  split
  · split
    · exact erase_put_self v place _
    · rfl
  · rfl

/-- When a temporary file is removed, the volume is what it was before. -/
theorem erase_makeTemporary {v₁ : Volume} {temporary : Temporary}
    (made : v.makeTemporary path = .ok (v₁, temporary)) : v₁.erase temporary.place = v := by
  obtain ⟨folder, -, -, -, -, made⟩ := makeTemporary_eq_ok.1 made
  obtain ⟨rfl, rfl⟩ := Prod.mk.inj made
  rw [erase_put_self]
  exact erase_of_free (node?_freshName v folder _)

/-- A replacement comes to putting the new file at the entry that the path names. -/
theorem eq_put_of_replace {v₁ v'' : Volume} {temporary : Temporary}
    (made : v.makeTemporary path = .ok (v₁, temporary)) (read : v.read path = .ok bytes)
    (h : (v₁.write temporary.place out).replace temporary.place path = .ok v'') :
    ∃ parent last mode, Names v path parent last ∧ v'' = v.put (parent ++ [last]) (.file out mode) := by
  obtain ⟨free, filled⟩ := free_of_makeTemporary made out
  obtain ⟨parent, last, mode, names, -, ne, rfl⟩ := exists_put_of_replace filled free read h
  refine ⟨parent, last, mode, names, ?_⟩
  rw [erase_put_of_ne ne, erase_withModeOf, erase_write, erase_makeTemporary made]

/-- The path leads to what was written. -/
theorem Replaced.read (h : Replaced v v' path out parent last) : v'.read path = .ok out := by
  obtain ⟨mode, file⟩ := h.file
  exact (h.names.frame h.differs h.blocks).read file

/-- A replacement is read back. -/
theorem read_of_replace {v₁ v'' : Volume} {temporary : Temporary}
    (made : v.makeTemporary path = .ok (v₁, temporary)) (read : v.read path = .ok bytes)
    (h : (v₁.write temporary.place out).replace temporary.place path = .ok v'') : v''.read path = .ok out := by
  obtain ⟨free, filled⟩ := free_of_makeTemporary made out
  obtain ⟨_, _, replaced⟩ := replaced_of_replace filled free read h
  exact replaced.read

/-- A temporary file can be moved over a file that the path names. -/
theorem Names.exists_replace {v₁ : Volume} {temporary : Temporary} {mode : Nat}
    (names : Names v path parent last) (file : v.node? (parent ++ [last]) = some (.file bytes mode))
    (made : v.makeTemporary path = .ok (v₁, temporary)) (out : List UInt8) :
    ∃ v', (v₁.write temporary.place out).replace temporary.place path = .ok v' ∧
      v'.read path = .ok out := by
  obtain ⟨free, filled⟩ := free_of_makeTemporary made out
  have filled' := filled.withModeOf path
  have located := (names.frame filled'.differs (blocks_of_none free)).locate
  have ne : parent ++ [last] ≠ temporary.place := by
    intro same
    rw [same, free] at file
    cases file
  obtain ⟨mode', there⟩ := filled'.file
  have noFolder : ((v₁.write temporary.place out).withModeOf temporary.place path).node?
      (parent ++ [last]) ≠ some .folder := by
    rw [filled'.differs.others _ ne, file]
    exact nofun
  have moved := (replace_eq_ok filled).2 ⟨_, mode', located, there, noFolder, rfl⟩
  exact ⟨_, moved, (filled'.replaced free names (blocks_of_file file) ne rfl).read⟩

namespace Replaced

/-- A temporary file for the target can be made again. -/
theorem makeTemporary {made : Volume × Temporary} (h : Replaced v v' path out parent last)
    (first : v.makeTemporary path = .ok made) : ∃ made', v'.makeTemporary path = .ok made' := by
  obtain ⟨folder, text, resolved, short, isFolder, -⟩ := makeTemporary_eq_ok.1 first
  have here : v'.hereText = v.hereText := by
    rw [hereText, hereText, h.differs.here]
  have resolved' : v'.resolve (Path.absolute v.hereText (Path.ofString path).parent.text).text =
      .ok folder := by
    obtain ⟨text', left, walk⟩ := resolve_eq_ok.1 resolved
    refine resolve_eq_ok.2 ⟨text', left, ?_⟩
    rw [startOf, h.differs.here, ← startOf]
    exact walk.frame h.differs h.blocks isFolder
  rw [← here] at text resolved'
  exact ⟨_, makeTemporary_eq_ok.2
    ⟨folder, text, resolved', short, h.differs.folder h.blocks isFolder, rfl⟩⟩

/-- A temporary file can be moved over the target again. -/
theorem again {v₁ : Volume} {temporary : Temporary} (h : Replaced v v' path out parent last)
    (made : v'.makeTemporary path = .ok (v₁, temporary)) (out' : List UInt8) :
    ∃ v'', (v₁.write temporary.place out').replace temporary.place path = .ok v'' ∧
      v''.read path = .ok out' := by
  obtain ⟨mode, file⟩ := h.file
  exact (h.names.frame h.differs h.blocks).exists_replace file made out'

end Replaced

end MatlabTidy.Volume
