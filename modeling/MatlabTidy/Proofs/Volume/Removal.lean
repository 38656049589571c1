import MatlabTidy.Proofs.Volume.Texts

/-!
# Removing files

`Volume.without` removes what stands at some places, one after the other. If these places block, a walk to a
folder does not notice that they are gone (`Leads.without`), and where nothing leads through them, nothing
else changes either: a path that still leads to a file leads where it led before (`Finds.follow`). Removing
files and putting a file elsewhere commute (`put_without`), so both can be followed through a run side by side.
-/

namespace MatlabTidy.Volume

variable {v u : Volume} {place other start last target : Place} {names : List String} {budget left : Nat}
variable {gone : List Place} {node : Node} {path : String} {bytes : List UInt8} {mode : Nat}

theorem differs_erase (v : Volume) (place : Place) : Differs v (v.erase place) place :=
  ⟨rfl, fun _ ne => node?_erase_of_ne ne⟩

/-- After a removal a place is free, or what stood there still stands there. -/
theorem node?_erase_cases (v : Volume) (other place : Place) :
    (v.erase other).node? place = none ∨ (v.erase other).node? place = v.node? place := by
  by_cases top : place = []
  · rw [top]
    exact .inr rfl
  · by_cases same : place = other
    · rw [same]
      exact .inl (node?_erase_self (same ▸ top))
    · exact .inr (node?_erase_of_ne same)

/-- What stands somewhere after a removal stood there before. -/
theorem node?_of_erase (h : (v.erase other).node? place = some node) : v.node? place = some node := by
  rcases node?_erase_cases v other place with free | same
  · rw [free] at h
    cases h
  · rwa [same] at h

/-- A removal may make a walk end early, at the place that is free now, and does nothing else to it. -/
theorem follow_erase (plain : v.node? other ≠ some .folder) (budget : Nat) (place : Place) (names : List String) :
    (v.erase other).follow true budget place names = v.follow true budget place names ∨
      (v.erase other).follow true budget place names = .error .missing := by
  have kept : ∀ {place : Place}, ¬ v.node? place ≠ some .folder → (v.erase other).node? place = some .folder := by
    intro place folder
    have isFolder := not_not.1 folder
    have ne : place ≠ other := by
      rintro rfl
      exact plain isFolder
    rw [node?_erase_of_ne ne, isFolder]
  fun_induction Volume.follow v true budget place names with
  | case1 budget place =>
    rw [follow]
    exact .inl rfl
  | case2 budget place step rest stop =>
    rw [follow, if_pos fun isFolder => stop (node?_of_erase isFolder)]
    exact .inl rfl
  | case3 budget place rest folder ih =>
    rw [follow_dot (kept folder) rfl]
    exact ih
  | case4 budget place rest folder single ih =>
    rw [follow_up (kept folder) single rfl]
    exact ih
  | case5 budget place step rest folder single double long =>
    exact .inl (follow_long (kept folder) single double long budget)
  | case6 budget place step rest folder single double small missing =>
    have free : (v.erase other).node? (place ++ [step]) = none := by
      rcases node?_erase_cases v other (place ++ [step]) with free | same
      · exact free
      · rw [same, missing]
    exact .inl (follow_none (kept folder) single double small free budget)
  | case7 budget place step rest folder single double small target here stop => cases stop.2
  | case8 place step rest folder single double small target here =>
    rcases node?_erase_cases v other (place ++ [step]) with free | same
    · exact .inr (follow_none (kept folder) single double small free 0)
    · exact .inl (follow_link_zero (kept folder) single double small (same.trans here))
  | case9 place step rest folder single double small target here _ budget ih =>
    rcases node?_erase_cases v other (place ++ [step]) with free | same
    · exact .inr (follow_none (kept folder) single double small free _)
    · rw [follow_link (kept folder) single double small (same.trans here)]
      exact ih
  | case10 budget place step rest folder single double small node solid here ih =>
    rcases node?_erase_cases v other (place ++ [step]) with free | same
    · exact .inr (follow_none (kept folder) single double small free budget)
    · rw [follow_node (kept folder) single double small (same.trans here) solid]
      exact ih

/-- In a volume that holds more, walks lead where they led. -/
theorem Leads.mono (h : Leads u budget start names last left)
    (more : ∀ {place node}, u.node? place = some node → v.node? place = some node) :
    Leads v budget start names last left := by
  induction h with
  | done budget place => exact .done budget place
  | dot folder single _ ih => exact .dot (more folder) single ih
  | up folder single double _ ih => exact .up (more folder) single double ih
  | link folder single double small here _ ih => exact .link (more folder) single double small (more here) ih
  | node folder single double small here solid _ ih =>
    exact .node (more folder) single double small (more here) solid ih

/-- A walk leads the same way in a volume that holds more, however many links may be followed. -/
theorem Leads.follow_mono (h : Leads u budget start names last left)
    (more : ∀ {place node}, u.node? place = some node → v.node? place = some node) (budget' : Nat) :
    u.follow true budget' start names = v.follow true budget' start names := by
  induction h generalizing budget' with
  | done budget place => rw [Volume.follow, Volume.follow]
  | dot folder single _ ih => rw [follow_dot folder single, ih, follow_dot (more folder) single]
  | up folder single double _ ih => rw [follow_up folder single double, ih, follow_up (more folder) single double]
  | link folder single double small here _ ih =>
    cases budget' with
    | zero =>
      rw [follow_link_zero folder single double small here,
        follow_link_zero (more folder) single double small (more here)]
    | succ budget' =>
      rw [follow_link folder single double small here, ih,
        follow_link (more folder) single double small (more here)]
  | node folder single double small here solid _ ih =>
    rw [follow_node folder single double small here solid, ih,
      follow_node (more folder) single double small (more here) solid]

/-- Nothing leads through a place to a folder that did not lead through it before. -/
theorem Blocks.erase (h : Blocks v place) (other : Place) : Blocks (v.erase other) place where
  noFolder := fun isFolder => h.noFolder (node?_of_erase isFolder)
  noLink := by
    intro target link budget last left walk isFolder
    exact h.noLink target (node?_of_erase link) budget last left (walk.mono node?_of_erase) (node?_of_erase isFolder)

/-- A file that was put in place of something that blocks does so too, and the volume was no different elsewhere. -/
theorem Blocks.undo (blocks : Blocks v other) (bytes : List UInt8) (mode : Nat) :
    Differs (v.put other (.file bytes mode)) v other ∧ Blocks (v.put other (.file bytes mode)) other := by
  have ne : other ≠ [] := by
    rintro rfl
    exact blocks.noFolder rfl
  exact ⟨(differs_put v other _).symm, blocks_of_file (node?_put_self ne _)⟩

/-- A place at which a file was put in place of something else that blocks. -/
theorem Blocks.put (h : Blocks v place) (blocks : Blocks v other) (bytes : List UInt8) (mode : Nat) :
    Blocks (v.put other (.file bytes mode)) place := by
  obtain ⟨back, there⟩ := blocks.undo bytes mode
  by_cases same : place = other
  · rw [same]
    exact there
  refine ⟨?_, fun target link budget last left walk isFolder => ?_⟩
  · rw [node?_put_of_ne same]
    exact h.noFolder
  · rw [node?_put_of_ne same] at link
    -- A walk to a folder does not touch the file that was put there, so it was a walk before.
    have before := walk.frame back there isFolder
    exact h.noLink target link budget last left before (back.folder there isFolder)

/-- The path text leads to a file, if enough links may be followed. -/
def Finds (v : Volume) (path : String) : Prop :=
  ∃ budget place left bytes mode, Leads v budget (v.startOf path) (steps path) place left ∧
    v.node? place = some (.file bytes mode)

/-- A walk to a file leads to it or to a file that was put on its way. -/
theorem Leads.exists_put (h : Leads v budget start names last left) (blocks : Blocks v other)
    (ends : ∃ bytes mode, v.node? last = some (.file bytes mode)) (bytes : List UInt8) (mode : Nat) :
    ∃ last' left', Leads (v.put other (.file bytes mode)) budget start names last' left' ∧
      ∃ bytes' mode', (v.put other (.file bytes mode)).node? last' = some (.file bytes' mode') := by
  have ne : other ≠ [] := by
    rintro rfl
    exact blocks.noFolder rfl
  have there : (v.put other (.file bytes mode)).node? other = some (.file bytes mode) := node?_put_self ne _
  have folders : ∀ {place}, v.node? place = some .folder → (v.put other (.file bytes mode)).node? place = some .folder :=
    fun folder => (differs_put v other _).folder blocks folder
  -- Where something blocks, a walk can only end.
  have stops : ∀ {place : Place} {step : String} {rest : List String} {budget : Nat}, place ++ [step] = other →
      v.node? place = some .folder → step ≠ "." → step ≠ ".." → ¬ mostNameBytes < step.utf8ByteSize → rest = [] →
      ∃ last' left', Leads (v.put other (.file bytes mode)) budget place (step :: rest) last' left' ∧
        ∃ bytes' mode', (v.put other (.file bytes mode)).node? last' = some (.file bytes' mode') := by
    rintro place step rest budget rfl folder single double small rfl
    exact ⟨_, budget, .node (folders folder) single double small there nofun (.done _ _), bytes, mode, there⟩
  induction h with
  | done budget place =>
    obtain ⟨bytes', mode', file⟩ := ends
    refine ⟨place, budget, .done _ _, ?_⟩
    by_cases same : place = other
    · exact ⟨bytes, mode, same ▸ there⟩
    · exact ⟨bytes', mode', by rw [node?_put_of_ne same, file]⟩
  | dot folder single _ ih =>
    obtain ⟨last', left', walk, file⟩ := ih ends
    exact ⟨last', left', .dot (folders folder) single walk, file⟩
  | up folder single double _ ih =>
    obtain ⟨last', left', walk, file⟩ := ih ends
    exact ⟨last', left', .up (folders folder) single double walk, file⟩
  | @link budget left place last step rest target folder single double small here walk ih =>
    by_cases same : place ++ [step] = other
    · refine stops same folder single double small ?_
      by_contra onward
      obtain ⟨name, rest, rfl⟩ := List.exists_cons_of_ne_nil onward
      obtain ⟨middle, between, first, second⟩ := walk.cut
      rw [← same] at blocks
      exact blocks.noLink target here budget middle between (by simpa using first) second.folder_of_cons
    · obtain ⟨last', left', walk', file⟩ := ih ends
      refine ⟨last', left', .link (folders folder) single double small ?_ walk', file⟩
      rw [node?_put_of_ne same, here]
  | @node budget left place last step rest node folder single double small here solid walk ih =>
    by_cases same : place ++ [step] = other
    · refine stops same folder single double small ?_
      by_contra onward
      obtain ⟨name, rest, rfl⟩ := List.exists_cons_of_ne_nil onward
      rw [same] at walk
      exact blocks.noFolder walk.folder_of_cons
    · obtain ⟨last', left', walk', file⟩ := ih ends
      refine ⟨last', left', .node (folders folder) single double small ?_ solid walk', file⟩
      rw [node?_put_of_ne same, here]

/-- A file that was put somewhere does not hide others. -/
theorem Finds.put (h : Finds v path) (blocks : Blocks v other) (bytes : List UInt8) (mode : Nat) :
    Finds (v.put other (.file bytes mode)) path := by
  obtain ⟨budget, place, left, bytes', mode', walk, file⟩ := h
  obtain ⟨last, left', walk', bytes'', mode'', file'⟩ := walk.exists_put blocks ⟨bytes', mode', file⟩ bytes mode
  have start : (v.put other (.file bytes mode)).startOf path = v.startOf path := by
    rw [startOf, startOf, here_put]
  exact ⟨budget, last, left', bytes'', mode'', start ▸ walk', file'⟩

/-- The path reads a file with these contents and permissions. -/
def Holds (v : Volume) (path : String) (bytes : List UInt8) (mode : Nat) : Prop :=
  ∃ place, v.resolve path = .ok place ∧ v.node? place = some (.file bytes mode)

theorem exists_holds (h : v.read path = .ok bytes) : ∃ mode, Holds v path bytes mode := by
  obtain ⟨place, mode, resolved, file⟩ := read_eq_ok.1 h
  exact ⟨mode, place, resolved, file⟩

theorem Holds.read (h : Holds v path bytes mode) : v.read path = .ok bytes := by
  obtain ⟨place, resolved, file⟩ := h
  exact read_eq_ok.2 ⟨place, mode, resolved, file⟩

/-- A path that still leads to a file reads what it read in a volume that holds more. -/
theorem Holds.of_finds (h : Holds v path bytes mode) (finds : Finds u path) (here : u.here = v.here)
    (more : ∀ {place node}, u.node? place = some node → v.node? place = some node) : Holds u path bytes mode := by
  obtain ⟨place, resolved, file⟩ := h
  obtain ⟨budget, last, left, bytes', mode', walk, file'⟩ := finds
  obtain ⟨_, text, followed⟩ := bind_eq_ok.1 resolved
  have start : u.startOf path = v.startOf path := by
    rw [startOf, startOf, here]
  have same := walk.follow_mono more mostLinks
  rw [start, followed] at same
  obtain ⟨left', walk'⟩ := leads_of_follow same
  rw [start] at walk
  obtain rfl := walk.unique walk'
  refine ⟨last, bind_eq_ok.2 ⟨(), text, start ▸ same⟩, ?_⟩
  have there := more file'
  rw [file] at there
  rw [file', there]

/-- A path that can be read leads to a file. -/
theorem finds_of_read (h : v.read path = .ok bytes) : Finds v path := by
  obtain ⟨place, mode, resolved, file⟩ := read_eq_ok.1 h
  obtain ⟨-, left, walk⟩ := resolve_eq_ok.1 resolved
  exact ⟨mostLinks, place, left, bytes, mode, walk, file⟩

/-- What a path names blocks if the path leads to a file. -/
theorem Finds.blocks {parent : Place} {last : String} (h : Finds v path) (names : Names v path parent last) :
    Blocks v (parent ++ [last]) := by
  obtain ⟨budget, place, left, bytes, mode, walk, file⟩ := h
  exact (names.blocks_of_leads walk (by simp [file])).1

/-- The permissions of a file that a path reads. -/
theorem Holds.mode? (h : Holds v path bytes mode) (some : Path.parts path ≠ []) : v.mode? path = .some mode := by
  obtain ⟨place, resolved, file⟩ := h
  unfold Volume.mode?
  rw [resolve_short some resolved]
  dsimp only
  rw [file]

/-- The volume without what stands at some places. -/
def without (v : Volume) (gone : List Place) : Volume := gone.foldl erase v

theorem without_cons (v : Volume) (place : Place) (gone : List Place) :
    v.without (place :: gone) = (v.erase place).without gone := rfl

theorem node?_of_without (h : (v.without gone).node? place = some node) : v.node? place = some node := by
  induction gone generalizing v with
  | nil => exact h
  | cons other gone ih => exact node?_of_erase (ih h)

@[simp] theorem here_without (v : Volume) (gone : List Place) : (v.without gone).here = v.here := by
  induction gone generalizing v with
  | nil => rfl
  | cons other gone ih => exact ih (v.erase other)

/-- A path that leads to a file without the files that are gone did so before. -/
theorem Finds.of_without (h : Finds (v.without gone) path) : Finds v path := by
  obtain ⟨budget, place, left, bytes, mode, walk, file⟩ := h
  have start : (v.without gone).startOf path = v.startOf path := by
    rw [startOf, startOf, here_without]
  rw [start] at walk
  exact ⟨budget, place, left, bytes, mode, walk.mono node?_of_without, node?_of_without file⟩

/-- What is put elsewhere stays when something is removed. -/
theorem put_without (apart : place ∉ gone) (v : Volume) (node : Node) :
    (v.put place node).without gone = (v.without gone).put place node := by
  induction gone generalizing v with
  | nil => rfl
  | cons other gone ih =>
    rw [List.mem_cons, not_or] at apart
    rw [without_cons, erase_put_of_ne apart.1, ih apart.2, without_cons]

/-- What is put where something is removed is removed as well. -/
theorem put_without_of_mem (mem : place ∈ gone) (v : Volume) (node : Node) :
    (v.put place node).without gone = v.without gone := by
  induction gone generalizing v with
  | nil => cases mem
  | cons other gone ih =>
    rw [without_cons, without_cons]
    by_cases same : place = other
    · rw [same, erase_put_self]
    · rw [erase_put_of_ne same, ih ((List.mem_cons.1 mem).resolve_left same)]

/-- Removing files may make a walk end early, and does nothing else to it. -/
theorem follow_without (plain : ∀ place ∈ gone, v.node? place ≠ some .folder) (budget : Nat) (place : Place)
    (names : List String) :
    (v.without gone).follow true budget place names = v.follow true budget place names ∨
      (v.without gone).follow true budget place names = .error .missing := by
  induction gone generalizing v with
  | nil => exact .inl rfl
  | cons other gone ih =>
    have plain' : ∀ place ∈ gone, (v.erase other).node? place ≠ some .folder := fun place mem isFolder =>
      plain place (List.mem_cons_of_mem _ mem) (node?_of_erase isFolder)
    rw [without_cons]
    rcases ih plain' with same | missing
    · rw [same]
      exact follow_erase (plain other List.mem_cons_self) budget place names
    · exact .inr missing

theorem resolve_without (plain : ∀ place ∈ gone, v.node? place ≠ some .folder) (path : String) :
    (v.without gone).resolve path = v.resolve path ∨ (v.without gone).resolve path = .error .missing := by
  rw [resolve, resolve, startOf, startOf, here_without]
  cases checkText path with
  | error cause => exact .inl rfl
  | ok u => exact follow_without plain mostLinks _ _

theorem Blocks.without (h : Blocks v place) (gone : List Place) : Blocks (v.without gone) place := by
  induction gone generalizing v with
  | nil => exact h
  | cons other gone ih => exact ih (h.erase other)

section Blocking

variable (blocks : ∀ place ∈ gone, Blocks v place)

include blocks

/-- A walk to a folder does not notice that files are gone. -/
theorem Leads.without (h : Leads v budget start names last left) (ends : v.node? last = some .folder) :
    Leads (v.without gone) budget start names last left ∧ (v.without gone).node? last = some .folder := by
  induction gone generalizing v with
  | nil => exact ⟨h, ends⟩
  | cons other gone ih =>
    have here := blocks other List.mem_cons_self
    have onward := h.frame (differs_erase v other) here ends
    have blocks' : ∀ place ∈ gone, Blocks (v.erase other) place := fun place mem =>
      (blocks place (List.mem_cons_of_mem _ mem)).erase other
    exact ih blocks' onward ((differs_erase v other).folder here ends)

theorem folder_without (folder : v.node? place = some .folder) : (v.without gone).node? place = some .folder :=
  ((Leads.done mostLinks place).without blocks folder).2

/-- A path text that leads to a folder leads there without the files that are gone. -/
theorem resolve_folder_without (h : v.resolve path = .ok place) (folder : v.node? place = some .folder) :
    (v.without gone).resolve path = .ok place := by
  obtain ⟨text, left, walk⟩ := resolve_eq_ok.1 h
  refine resolve_eq_ok.2 ⟨text, left, ?_⟩
  rw [startOf, here_without, ← startOf]
  exact (walk.without blocks folder).1

/-- A path that names an entry names it without the files that are gone. -/
theorem Names.without {parent : Place} {last : String} (h : Names v path parent last) :
    Names (v.without gone) path parent last := by
  obtain ⟨left, walk⟩ := h.leads
  obtain ⟨walk', folder⟩ := walk.without blocks h.folder
  refine { h with leads := ⟨left, ?_⟩, folder }
  rwa [startOf, here_without, ← startOf]

/-- Where a temporary file can be made, one can be made without the files that are gone. -/
theorem exists_makeTemporary_without {made : Volume × Temporary} (h : v.makeTemporary path = .ok made) :
    ∃ made', (v.without gone).makeTemporary path = .ok made' := by
  obtain ⟨folder, text, resolved, short, isFolder, -⟩ := makeTemporary_eq_ok.1 h
  have here : (v.without gone).hereText = v.hereText := by
    rw [hereText, hereText, here_without]
  refine ⟨_, makeTemporary_eq_ok.2 ⟨folder, ?_, ?_, short, folder_without blocks isFolder, rfl⟩⟩
  · rw [here]
    exact text
  · rw [here]
    exact resolve_folder_without blocks resolved isFolder

end Blocking

/-- The temporary file has the permissions of the file that the path reads. -/
theorem node?_withModeOf {temp : Place} {old : Nat} {out : List UInt8} (known : v.mode? path = some mode)
    (file : v.node? temp = some (.file out old)) (ne : temp ≠ []) :
    (v.withModeOf temp path).node? temp = some (.file out mode) := by
  unfold withModeOf
  rw [known]
  dsimp only
  rw [setMode, file]
  exact node?_put_self ne _

/-- A file that the path reads and names can be replaced: the new file is put in its place, with the same
permissions. -/
theorem replace_eq_put {v₁ : Volume} {temporary : Temporary} {parent : Place} {last : String}
    (holds : Holds v path bytes mode) (names : Names v path parent last)
    (made : v.makeTemporary path = .ok (v₁, temporary)) (out : List UInt8) :
    (v₁.write temporary.place out).replace temporary.place path =
      .ok (v.put (parent ++ [last]) (.file out mode)) := by
  obtain ⟨free, filled⟩ := free_of_makeTemporary made out
  obtain ⟨blocks, taken⟩ := names.blocks holds.read
  have ne : parent ++ [last] ≠ temporary.place := by
    intro same
    rw [same] at taken
    exact taken free
  -- Where the temporary file stands now, nothing stood before, so the path reads what it read.
  have more : ∀ {place node}, v.node? place = some node →
      (v₁.write temporary.place out).node? place = some node := by
    intro place node there
    rw [filled.differs.others place fun same => ?_, there]
    rw [same, free] at there
    cases there
  have known : (v₁.write temporary.place out).mode? path = some mode := by
    have some : Path.parts path ≠ [] := by
      rw [parts_eq, names.names, List.filter_append]
      simp [names.single]
    obtain ⟨place, resolved, file⟩ := holds
    obtain ⟨text, left, walk⟩ := resolve_eq_ok.1 resolved
    refine Holds.mode? ⟨place, resolve_eq_ok.2 ⟨text, left, ?_⟩, more file⟩ some
    rw [startOf, filled.differs.here, ← startOf]
    exact walk.mono more
  obtain ⟨old, there⟩ := filled.file
  have filled' := filled.withModeOf path
  have located := (names.frame filled'.differs (blocks_of_none free)).locate
  have noFolder : ((v₁.write temporary.place out).withModeOf temporary.place path).node?
      (parent ++ [last]) ≠ some .folder := by
    rw [filled'.differs.others _ ne]
    exact blocks.noFolder
  rw [(replace_eq_ok filled).2 ⟨_, mode, located, node?_withModeOf known there filled.ne_nil, noFolder, rfl⟩,
    erase_put_of_ne ne, erase_withModeOf, erase_write, erase_makeTemporary made]

section Listing

variable (folder : Place)

theorem namesBelow_filter (other : Place) (places : List Place) :
    namesBelow folder (places.filter (· ≠ other)) = (namesBelow folder places).filter (folder ++ [·] ≠ other) := by
  induction places with
  | nil => rfl
  | cons place places ih =>
    by_cases below : place ≠ [] ∧ place.dropLast = folder
    · obtain ⟨name, last⟩ := Option.isSome_iff_exists.1 (List.getLast?_isSome.2 below.1)
      have whole : folder ++ [name] = place := by
        rw [← below.2]
        exact List.dropLast_append_getLast? name last
      have names : ∀ places, namesBelow folder (place :: places) = name :: namesBelow folder places := by
        intro places
        rw [namesBelow, List.filterMap_cons_some (by rw [if_pos below, last]), namesBelow]
      by_cases same : place = other
      · rw [List.filter_cons_of_neg (by simp [same]), ih, names, List.filter_cons_of_neg (by simp [whole, same])]
      · rw [List.filter_cons_of_pos (by simp [same]), names, names, ih,
          List.filter_cons_of_pos (by simp [whole, same])]
    · have none : ∀ places, namesBelow folder (place :: places) = namesBelow folder places := by
        intro places
        unfold namesBelow
        exact List.filterMap_cons_none (if_neg below)
      rw [none, ← ih]
      by_cases same : place = other
      · rw [List.filter_cons_of_neg (by simp [same])]
      · rw [List.filter_cons_of_pos (by simp [same]), none]

/-- A folder lists what it listed, but for what was removed. -/
theorem namesIn_erase (v : Volume) (other : Place) :
    (v.erase other).namesIn folder = (v.namesIn folder).filter (folder ++ [·] ≠ other) := by
  have present : namesBelow folder ((v.erase other).nodes.map (·.1)) =
      (namesBelow folder (v.nodes.map (·.1))).filter (folder ++ [·] ≠ other) := by
    rw [← namesBelow_filter, List.filter_map]
    rfl
  unfold namesIn
  rw [present]
  dsimp only
  rw [List.filter_append, List.filter_filter, List.filter_filter, List.filter_filter]
  congr 1
  · refine List.filter_congr fun name _ => ?_
    rw [Bool.eq_iff_iff]
    simp [and_comm]
  · refine List.filter_congr fun name _ => ?_
    rw [Bool.eq_iff_iff]
    simp only [ne_eq, decide_not, List.contains_eq_mem, List.mem_filter, Bool.not_eq_eq_eq_not, Bool.not_true,
      decide_eq_false_iff_not, Bool.decide_and, Bool.and_eq_true, decide_eq_true_eq, Bool.not_and, Bool.not_not,
      Bool.or_eq_true]
    tauto

theorem namesIn_without (v : Volume) (gone : List Place) :
    (v.without gone).namesIn folder = (v.namesIn folder).filter (folder ++ [·] ∉ gone) := by
  induction gone generalizing v with
  | nil => simp [without]
  | cons other gone ih =>
    rw [without_cons, ih, namesIn_erase, List.filter_filter]
    refine List.filter_congr fun name _ => ?_
    rw [Bool.eq_iff_iff]
    simp [and_comm]

end Listing

/-- Where nothing stands twice, what is listed at a place stands there. -/
theorem node?_of_mem (places : (v.nodes.map (·.1)).Nodup) (ne : place ≠ []) (mem : (place, node) ∈ v.nodes) :
    v.node? place = some node := by
  rw [node?_of_ne_nil ne, List.lookup_eq_some_iff]
  obtain ⟨before, behind, whole⟩ := List.append_of_mem mem
  refine ⟨before, behind, whole, fun entry mem' => ?_⟩
  rw [whole, List.map_append, List.map_cons, List.nodup_append] at places
  exact bne_iff_ne.2 (Ne.symm (places.2.2 entry.1 (List.mem_map_of_mem mem') place List.mem_cons_self))

end MatlabTidy.Volume
