import MatlabTidy.Proofs.Run.Itinerary
import MatlabTidy.Proofs.Volume.TopFolder

/-!
# What a walk covers

On a volume in which no resolution exceeds a limit (`Volume.Unlimited`) and folders do not nest too deep
(`Volume.NestsWithin`), a walk through a folder lists every folder that can be reached once and scans every source
in these folders once (`Walk.walk_covers`); a walk that is not recursive lists the folder alone. It does not
suffice that no resolution follows too many links: a text that is too long stops the walk as well, and so do
folders that nest too deep (`Walk.overlong_link_stops`).
-/

namespace MatlabTidy

namespace Volume

variable {v : Volume} {path text name : String} {top folder : Place}

/-- A volume as a file system keeps it: names can stand in path texts, and nothing stands twice. -/
structure Proper (v : Volume) : Prop where
  names : ∀ entry ∈ v.nodes, ∀ name ∈ entry.1, IsName name
  places : (v.nodes.map (·.1)).Nodup
  order : v.order.Nodup

/-- No path text that a walk may form fails to be resolved because it leads through too many links or is too
long, so that what is asked about an entry is answered by what the entry leads to. -/
def Unlimited (v : Volume) (recursive : Bool) (path : String) (top : Place) : Prop :=
  ∀ ⦃folder trail text⦄, Way v recursive path top (folder :: trail) text → ∀ name ∈ v.namesIn folder,
    v.resolve (Path.entry text name) ≠ .error .tooManyLinks ∧ v.resolve (Path.entry text name) ≠ .error .nameTooLong

theorem mem_namesBelow {places : List Place} : name ∈ namesBelow folder places ↔ folder ++ [name] ∈ places := by
  rw [namesBelow, List.mem_filterMap]
  constructor
  · rintro ⟨place, mem, found⟩
    split at found
    · rename_i below
      rw [← below.2, List.dropLast_append_getLast? name found]
      exact mem
    · cases found
  · intro mem
    exact ⟨_, mem, by simp⟩

theorem nodup_namesBelow {places : List Place} (h : places.Nodup) (folder : Place) :
    (namesBelow folder places).Nodup := by
  refine h.filterMap fun place place' name found found' => ?_
  rw [Option.mem_def] at found found'
  split at found
  · rename_i below
    split at found'
    · rename_i below'
      rw [← List.dropLast_append_getLast? name found, ← List.dropLast_append_getLast? name found', below.2, below'.2]
    · cases found'
  · cases found

/-- The names in a folder are those of the entries that the volume has there. -/
theorem mem_namesIn : name ∈ v.namesIn folder ↔ folder ++ [name] ∈ v.nodes.map (·.1) := by
  rw [← mem_namesBelow, namesIn]
  simp only [List.mem_append, List.mem_filter, List.contains_eq_mem, decide_eq_true_eq, Bool.not_eq_true',
    decide_eq_false_iff_not]
  constructor
  · rintro (⟨-, present⟩ | ⟨present, -⟩)
    · exact present
    · exact present
  · intro present
    by_cases remembered : name ∈ namesBelow folder v.order
    · exact .inl ⟨remembered, present⟩
    · exact .inr ⟨present, fun other => remembered other.1⟩

theorem Proper.nodup_namesIn (h : v.Proper) (folder : Place) : (v.namesIn folder).Nodup := by
  rw [namesIn]
  refine List.nodup_append.2 ⟨(nodup_namesBelow h.order folder).filter _,
    (nodup_namesBelow h.places folder).filter _, fun name mem name' mem' same => ?_⟩
  subst same
  have apart := (List.mem_filter.1 mem').2
  rw [List.contains_iff_mem.2 mem] at apart
  cases apart

theorem Proper.isName (h : v.Proper) (mem : name ∈ v.namesIn folder) : IsName name := by
  obtain ⟨entry, entry_mem, place⟩ := List.mem_map.1 (mem_namesIn.1 mem)
  refine h.names entry entry_mem name ?_
  rw [place]
  exact List.mem_append_right _ (List.mem_singleton.2 rfl)

/-- A source in a folder: an entry that does not lead to a folder and has the extension of sources. -/
structure IsSourceIn (v : Volume) (folder : Place) (name : String) : Prop where
  mem : name ∈ v.namesIn folder
  plain : ∀ inner, ¬ v.Subfolder folder name inner
  source : isSource name = true

/-- The path text of an entry has the extension of its name. -/
theorem isSource_entry (text : String) (h : IsName name) : isSource (Path.entry text name) = isSource name := by
  have named : (namesOf (Path.entry text name)).getLast? = some name := by
    rw [namesOf_entry text h, List.getLast?_concat]
  rw [isSource, isSource, suffix_of_getLast? named h.ne_dot]

section Transparent

variable {recursive : Bool} (proper : v.Proper) (unlimited : v.Unlimited recursive path top)

include proper unlimited

/-- Where no limit is exceeded, the questions about an entry are answered by what it leads to. -/
theorem Shows.of_resolve {trail : List Place} (way : Way v recursive path top (folder :: trail) text)
    (leads : v.resolve text = .ok folder) (isFolder : v.node? folder = some .folder) : v.Shows text folder := by
  have follows : ∀ name ∈ v.namesIn folder, ∃ left,
      v.resolve (Path.entry text name) = v.follow true left folder [name] ∧
      v.resolve (Path.ofString (Path.entry text name)).text = v.follow true left folder [name] := by
    intro name mem
    rcases resolve_entry leads (proper.isName mem) with long | found
    · exact absurd long (unlimited way name mem).2
    · exact found
  refine ⟨withPath_eq_ok.2 leads, isFolder, fun {name inner} mem subfolder => ?_, fun {name} mem plain => ?_⟩
  · obtain ⟨left, resolved, short⟩ := follows name mem
    obtain ⟨⟨budget, left', walk⟩, innerFolder⟩ := subfolder
    rcases walk.follow_budget left with followed | links
    · rw [followed] at resolved short
      refine ⟨?_, withPath_eq_ok.2 resolved⟩
      rw [Volume.isFolder, asks_of_resolve short, innerFolder]
      rfl
    · exact absurd (resolved.trans links) (unlimited way name mem).1
  · obtain ⟨left, resolved, short⟩ := follows name mem
    cases followed : v.follow true left folder [name] with
    | ok place =>
      rw [Volume.isFolder, asks_of_resolve (short.trans followed)]
      obtain ⟨left', walk⟩ := leads_of_follow followed
      have noFolder : v.node? place ≠ some .folder := fun isFolder => plain place ⟨⟨left, left', walk⟩, isFolder⟩
      cases there : v.node? place with
      | none => rfl
      | some node =>
        have other : node ≠ .folder := by
          rintro rfl
          exact noFolder there
        rw [Option.any_some, decide_eq_false other]
    | error cause =>
      have small : cause ≠ .nameTooLong := by
        rintro rfl
        exact (unlimited way name mem).2 (resolved.trans followed)
      rw [Volume.isFolder, asks_of_error (short.trans followed) small]

/-- Every path text that a walk may form shows the folder that it leads to. -/
theorem transparent_of_unlimited (leads : v.resolve path = .ok top) (isFolder : v.node? top = some .folder) :
    v.Transparent recursive path top := by
  intro folder trail text way
  have resolved : v.resolve text = .ok folder ∧ v.node? folder = some .folder := by
    generalize places : folder :: trail = trail' at way
    induction way generalizing folder trail with
    | start =>
      cases places
      exact ⟨leads, isFolder⟩
    | enter on way mem subfolder fresh ih =>
      cases places
      obtain ⟨leads', isFolder'⟩ := ih rfl
      have shows := Shows.of_resolve proper unlimited way leads' isFolder'
      exact ⟨withPath_eq_ok.1 (shows.subfolder mem subfolder).2, subfolder.2⟩
  exact Shows.of_resolve proper unlimited way resolved.1 resolved.2

end Transparent

end Volume

namespace Step

variable {v : Volume} {path text : String} {top folder : Place}

/-- The steps of a walk list certain folders, each once, and scan the sources in them, each once. The first
list holds the path texts of the folders with the folders, the second one the sources. -/
structure Covers (v : Volume) (path : String) (steps : List Step) (reached : Place → Prop) : Prop where
  folders : ∃ listing : List (String × Place), listing.map Prod.fst = path :: entered steps ∧
    (∀ listed ∈ listing, v.identity listed.1 = .ok listed.2) ∧ (listing.map Prod.snd).Nodup ∧
    ∀ folder, folder ∈ listing.map Prod.snd ↔ reached folder
  sources : ∃ sources : List Source, scanned steps = sources.map Source.path ∧
    (∀ source ∈ sources, v.identity source.1 = .ok source.2.1) ∧ (sources.map Prod.snd).Nodup ∧
    ∀ folder name, (folder, name) ∈ sources.map Prod.snd ↔ reached folder ∧ v.IsSourceIn folder name
  failures : failures steps = []

/-- In a folder that is shown, the path texts of sources are those of sources. -/
theorem isSourceAt_entry (proper : v.Proper) (shows : v.Shows text folder) {name : String}
    (mem : name ∈ v.namesIn folder) :
    isSourceAt v (Path.entry text name) = true ↔ v.IsSourceIn folder name := by
  have extension := Volume.isSource_entry text (proper.isName mem)
  by_cases leads : ∃ inner, v.Subfolder folder name inner
  · obtain ⟨inner, subfolder⟩ := leads
    rw [isSourceAt_of_folder (shows.subfolder mem subfolder).1]
    exact ⟨nofun, fun source => absurd subfolder (source.plain inner)⟩
  · have plain : ∀ inner, ¬ v.Subfolder folder name inner := fun inner subfolder => leads ⟨inner, subfolder⟩
    rw [isSourceAt_of_file (shows.other mem plain), extension]
    exact ⟨fun source => ⟨mem, plain, source⟩, fun source => source.source⟩

theorem mem_sourcesAmong (proper : v.Proper) (shows : v.Shows text folder) {source : Source} :
    source ∈ sourcesAmong v text folder (v.namesIn folder) ↔
      source.1 = text ∧ source.2.1 = folder ∧ v.IsSourceIn folder source.2.2 := by
  rw [sourcesAmong, List.mem_map]
  constructor
  · rintro ⟨name, mem, rfl⟩
    obtain ⟨present, source⟩ := List.mem_filter.1 mem
    exact ⟨rfl, rfl, (isSourceAt_entry proper shows present).1 source⟩
  · obtain ⟨text', folder', name⟩ := source
    rintro ⟨rfl, rfl, source⟩
    exact ⟨name, List.mem_filter.2 ⟨source.mem, (isSourceAt_entry proper shows source.mem).2 source⟩, rfl⟩

theorem mem_sourcesOf {listing : List (String × Place)} (proper : v.Proper)
    (shows : ∀ listed ∈ listing, v.Shows listed.1 listed.2) {source : Source} :
    source ∈ sourcesOf v listing ↔ (source.1, source.2.1) ∈ listing ∧ v.IsSourceIn source.2.1 source.2.2 := by
  rw [sourcesOf, List.mem_flatMap]
  constructor
  · rintro ⟨⟨text, folder⟩, mem, source⟩
    obtain ⟨rfl, rfl, isSource⟩ := (mem_sourcesAmong proper (shows _ mem)).1 source
    exact ⟨mem, isSource⟩
  · rintro ⟨mem, isSource⟩
    exact ⟨_, mem, (mem_sourcesAmong proper (shows _ mem)).2 ⟨rfl, rfl, isSource⟩⟩

/-- In folders that are listed once, no source is found twice. -/
theorem nodup_sourcesOf {listing : List (String × Place)} (proper : v.Proper)
    (nodup : (listing.map Prod.snd).Nodup) : ((sourcesOf v listing).map Prod.snd).Nodup := by
  rw [sourcesOf, List.map_flatMap, List.nodup_flatMap]
  constructor
  · intro listed mem
    rw [sourcesAmong, List.map_map]
    exact ((proper.nodup_namesIn listed.2).filter _).map fun name name' same => (Prod.mk.inj same).2
  · refine (List.pairwise_map.1 nodup).imp fun {listed listed'} ne source mem mem' => ne ?_
    have own : ∀ {listed : String × Place}, source ∈ (sourcesAmong v listed.1 listed.2
        (v.namesIn listed.2)).map Prod.snd → source.1 = listed.2 := by
      intro listed mem
      obtain ⟨_, among, rfl⟩ := List.mem_map.1 mem
      obtain ⟨name, -, rfl⟩ := List.mem_map.1 among
      rfl
    rw [← own mem, ← own mem']

/-- Steps that list shown folders, each once, and scan what these hold, cover the folders. -/
theorem covers_of_listing {steps : List Step} {reached : Place → Prop} {listing : List (String × Place)}
    (proper : v.Proper) (texts : listing.map Prod.fst = path :: entered steps)
    (shows : ∀ listed ∈ listing, v.Shows listed.1 listed.2) (nodup : (listing.map Prod.snd).Nodup)
    (all : ∀ folder, folder ∈ listing.map Prod.snd ↔ reached folder)
    (scans : ∃ sources : List Source, scanned steps = sources.map Source.path ∧ sources.Perm (sourcesOf v listing))
    (fails : Step.failures steps = []) : Covers v path steps reached := by
  obtain ⟨sources, scans, perm⟩ := scans
  refine ⟨⟨listing, texts, fun listed mem => (shows listed mem).identity, nodup, all⟩,
    ⟨sources, scans, ?_, ?_, ?_⟩, fails⟩
  · intro source mem
    exact (shows _ ((mem_sourcesOf proper shows).1 (perm.mem_iff.1 mem)).1).identity
  · exact (perm.map Prod.snd).nodup_iff.2 (nodup_sourcesOf proper nodup)
  · intro folder name
    rw [← all]
    constructor
    · intro mem
      obtain ⟨⟨text, _⟩, source, rfl⟩ := List.mem_map.1 mem
      obtain ⟨listed, isSource⟩ := (mem_sourcesOf proper shows).1 (perm.mem_iff.1 source)
      exact ⟨List.mem_map.2 ⟨_, listed, rfl⟩, isSource⟩
    · rintro ⟨mem, isSource⟩
      obtain ⟨⟨text, folder⟩, listed, rfl⟩ := List.mem_map.1 mem
      refine List.mem_map.2 ⟨(text, folder, name), perm.mem_iff.2 ?_, rfl⟩
      exact (mem_sourcesOf proper shows).2 ⟨listed, isSource⟩

/-- A recursive walk covers all folders that can be reached. -/
theorem covers_of_recursive {limit : Nat} (proper : v.Proper) (transparent : v.Transparent true path top)
    (nests : v.NestsWithin limit true path top) : Covers v path (itinerary limit v true path) (v.Reachable top) := by
  obtain ⟨listing, tour, all⟩ := tour_of_itinerary transparent nests
  have shows : ∀ listed ∈ (path, top) :: listing, v.Shows listed.1 listed.2 :=
    List.forall_mem_cons.2 ⟨transparent .start, tour.shows⟩
  refine covers_of_listing proper ?_ shows ?_ all ?_ tour.failures
  · rw [List.map_cons, tour.entered]
  · exact List.nodup_reverse.1 tour.nodup
  · exact tour.scanned

/-- A walk that is not recursive enters nothing, and scans the sources among the entries. -/
theorem ofEntries_flat (shows : v.Shows text folder) (enter : List Place → String → List Step × List Place)
    (visited : List Place) {names : List String} (present : names ⊆ v.namesIn folder) :
    entered (ofEntries v false enter visited (names.map (Path.entry text))).1 = [] ∧
      scanned (ofEntries v false enter visited (names.map (Path.entry text))).1 =
        (sourcesAmong v text folder names).map Source.path ∧
      Step.failures (ofEntries v false enter visited (names.map (Path.entry text))).1 = [] := by
  induction names with
  | nil => exact ⟨rfl, rfl, rfl⟩
  | cons name names ih =>
    have here := present List.mem_cons_self
    obtain ⟨enters, scans, fails⟩ := ih fun _ mem => present (List.mem_cons_of_mem _ mem)
    rw [List.map_cons]
    by_cases leads : ∃ inner, v.Subfolder folder name inner
    · obtain ⟨inner, subfolder⟩ := leads
      obtain ⟨isFolder, -⟩ := shows.subfolder here subfolder
      rw [(Makes.folder isFolder rfl).ofEntries_cons, sourcesAmong_cons_folder names isFolder, entered_cons,
        scanned_cons, failures_cons, enters, scans, fails]
      exact ⟨rfl, rfl, rfl⟩
    · have isFolder := shows.other here fun inner subfolder => leads ⟨inner, subfolder⟩
      obtain ⟨sources, scanned, among⟩ := scanned_file folder isFolder
      rw [(Makes.file isFolder).ofEntries_cons, entered_cons, scanned_cons, failures_cons, enters, scans, fails, scanned,
        among names, List.map_append]
      refine ⟨?_, rfl, ?_⟩
      · split <;> rfl
      · split <;> rfl

/-- A walk that is not recursive covers the folder alone. -/
theorem covers_of_flat (limit : Nat) (proper : v.Proper) (shows : v.Shows path top) :
    Covers v path (itinerary (limit + 1) v false path) (· = top) := by
  have steps : itinerary (limit + 1) v false path = _ := itinerary_eq shows.identity limit shows.entries
  obtain ⟨enters, scans, fails⟩ := ofEntries_flat shows (ofFolder v false limit) [top] (List.Subset.refl _)
  rw [← steps] at enters scans fails
  have texts : [(path, top)].map Prod.fst = path :: entered (itinerary (limit + 1) v false path) := by
    rw [enters]
    rfl
  refine covers_of_listing proper texts (List.forall_mem_singleton.2 shows) (List.nodup_singleton _)
    (fun folder => List.mem_singleton) ⟨_, scans, ?_⟩ fails
  rw [sourcesOf, List.flatMap_singleton]

end Step

namespace Walk

variable {path : String} {top : Place} {w : World}

/-- A folder with a source and a link to the folder around it, in which there is another source. -/
def upward : World :=
  ⟨⟨[(["d"], .folder), (["d", "a.m"], .file [] 0o644), (["d", "up"], .link ".."), (["b.m"], .file [] 0o644)],
    [], []⟩, none, false, #[]⟩

section Upward

theorem proper_upward : upward.volume.Proper where
  names := by
    have all : ∀ entry ∈ upward.volume.nodes, ∀ name ∈ entry.1,
        name = "d" ∨ name = "a.m" ∨ name = "up" ∨ name = "b.m" := by decide
    intro entry mem name inside
    rcases all entry mem name inside with rfl | rfl | rfl | rfl
    all_goals exact ⟨by decide, by decide, by decide, by decide⟩
  places := by decide
  order := by decide

open Volume (Leads)

/-- Where the entries of the two folders lead. -/
theorem leads_upward (budget : Nat) :
    Leads upward.volume budget [] ["d"] ["d"] budget ∧ Leads upward.volume budget [] ["b.m"] ["b.m"] budget ∧
      Leads upward.volume budget ["d"] ["a.m"] ["d", "a.m"] budget ∧
      Leads upward.volume (budget + 1) ["d"] ["up"] [] budget := by
  have top : upward.volume.node? [] = some .folder := rfl
  have folder : upward.volume.node? ["d"] = some .folder := by decide
  have source : upward.volume.node? ["d", "a.m"] = some (.file [] 0o644) := by decide
  have other : upward.volume.node? ["b.m"] = some (.file [] 0o644) := by decide
  have link : upward.volume.node? ["d", "up"] = some (.link "..") := by decide
  have up : Leads upward.volume budget ["d"] (Volume.steps ".." ++ []) [] budget := by
    have steps : Volume.steps ".." ++ [] = [".."] := by decide
    rw [steps]
    exact .up folder (by decide) rfl (.done _ _)
  exact ⟨.node top (by decide) (by decide) (by decide) folder nofun (.done _ _),
    .node top (by decide) (by decide) (by decide) other nofun (.done _ _),
    .node folder (by decide) (by decide) (by decide) source nofun (.done _ _),
    .link folder (by decide) (by decide) (by decide) link up⟩

/-- A walk from the folder forms two path texts. -/
theorem way_upward {trail : List Place} {text : String} (way : upward.volume.Way true "d" ["d"] trail text) :
    trail = [["d"]] ∧ text = "d" ∨ trail = [[], ["d"]] ∧ text = "d/up" := by
  have inside : upward.volume.namesIn ["d"] = ["a.m", "up"] := by decide
  have around : upward.volume.namesIn [] = ["d", "b.m"] := by decide
  induction way with
  | start => exact .inl ⟨rfl, rfl⟩
  | @enter trail folder inner text name _ way mem subfolder fresh ih =>
    obtain ⟨⟨budget, left, walk⟩, isFolder⟩ := subfolder
    rcases ih with ⟨places, rfl⟩ | ⟨places, rfl⟩
    · obtain ⟨rfl, rfl⟩ := List.cons.inj places
      rw [inside] at mem
      rcases List.mem_pair.1 mem with rfl | rfl
      · obtain rfl := walk.unique (leads_upward 0).2.2.1
        cases isFolder
      · obtain rfl := walk.unique (leads_upward 0).2.2.2
        exact .inr ⟨rfl, by decide⟩
    · obtain ⟨rfl, rfl⟩ := List.cons.inj places
      rw [around] at mem
      rcases List.mem_pair.1 mem with rfl | rfl
      · obtain rfl := walk.unique (leads_upward 0).1
        exact absurd (List.mem_cons_of_mem _ List.mem_cons_self) fresh
      · obtain rfl := walk.unique (leads_upward 0).2.1
        cases isFolder

theorem unlimited_upward : upward.volume.Unlimited true "d" ["d"] := by
  have inside : upward.volume.namesIn ["d"] = ["a.m", "up"] := by decide
  have around : upward.volume.namesIn [] = ["d", "b.m"] := by decide
  obtain ⟨first, -, source, -⟩ := leads_upward Volume.mostLinks
  obtain ⟨again, other, -, up⟩ := leads_upward 39
  intro folder trail text way name mem
  have resolved : ∃ place, upward.volume.resolve (Path.entry text name) = .ok place := by
    rcases way_upward way with ⟨places, rfl⟩ | ⟨places, rfl⟩
    · obtain ⟨rfl, rfl⟩ := List.cons.inj places
      rw [inside] at mem
      rcases List.mem_pair.1 mem with rfl | rfl
      · exact ⟨_, Volume.resolve_of_steps rfl (by decide) (by decide) (by decide) (first.append source)⟩
      · exact ⟨_, Volume.resolve_of_steps rfl (by decide) (by decide) (by decide) (first.append up)⟩
    · obtain ⟨rfl, rfl⟩ := List.cons.inj places
      rw [around] at mem
      rcases List.mem_pair.1 mem with rfl | rfl
      · exact ⟨_, Volume.resolve_of_steps rfl (by decide) (by decide) (by decide) ((first.append up).append again)⟩
      · exact ⟨_, Volume.resolve_of_steps rfl (by decide) (by decide) (by decide) ((first.append up).append other)⟩
  obtain ⟨place, resolved⟩ := resolved
  rw [resolved]
  exact ⟨nofun, nofun⟩

end Upward

section Limits

/-- A folder with a link to a name that no entry can have, and a source beside it. -/
def overlong : World :=
  ⟨⟨[(["d.m"], .link (Volume.longName 300)), (["e.m"], .file [] 0o644)], [], []⟩, none, false, #[]⟩

theorem namesIn_overlong : overlong.volume.namesIn [] = ["d.m", "e.m"] := rfl

/-- No resolution follows more than one link. -/
theorem few_links_overlong {name : String} (mem : name ∈ overlong.volume.namesIn []) :
    overlong.volume.resolve (Path.entry "." name) ≠ .error .tooManyLinks := by
  have top : overlong.volume.here = [] := rfl
  rw [namesIn_overlong] at mem
  rcases List.mem_pair.1 mem with rfl | rfl
  · have good : Volume.IsName "d.m" := ⟨by decide, by decide, by decide, by decide⟩
    obtain long | ⟨left, resolved, short⟩ := Volume.resolve_entry (Volume.resolve_dot top) good
    · rw [long]
      exact nofun
    · have answer := Volume.isFolder_of_endless top rfl
      intro links
      have other : overlong.volume.isFolder (Path.entry "." "d.m") = .ok false :=
        Volume.asks_of_error (short.trans (resolved.symm.trans links)) nofun
      rw [other] at answer
      cases answer
  · have walk : Volume.Leads overlong.volume Volume.mostLinks [] [".", "e.m"] ["e.m"] Volume.mostLinks :=
      .dot rfl rfl (.node rfl (by decide) (by decide) (by decide)
        (show overlong.volume.node? ["e.m"] = some (.file [] 0o644) from rfl) nofun (.done _ _))
    rw [Volume.resolve_of_steps top (by decide) (by decide) (by decide) walk]
    exact nofun

theorem isSourceIn_overlong : overlong.volume.IsSourceIn [] "e.m" where
  mem := List.mem_cons_of_mem _ List.mem_cons_self
  plain inner := by
    rintro ⟨⟨budget, left, walk⟩, isFolder⟩
    have here : overlong.volume.node? ["e.m"] = some (.file [] 0o644) := rfl
    have source : Volume.Leads overlong.volume budget [] ["e.m"] ["e.m"] budget :=
      .node rfl (by decide) (by decide) (by decide) here nofun (.done _ _)
    obtain rfl := walk.unique source
    rw [here] at isFolder
    cases isFolder
  source := by decide

/-- The walk stops at the link, before it has done anything. -/
theorem run_overlong {limit : Nat} (scan : (path name : String) → Job FileReport) (recursive : Bool) :
    (walkWith (limit + 1) scan recursive "." none).run overlong = .error (.access ⟨.nameTooLong, "d.m"⟩) overlong := by
  have top : overlong.volume.here = [] := rfl
  have resolved := Volume.resolve_dot top
  obtain ⟨steps, first⟩ : ∃ steps, Step.itinerary (limit + 1) overlong.volume recursive "." =
      .fail (.access ⟨.nameTooLong, "d.m"⟩) :: steps :=
    Step.itinerary_of_unanswered (Volume.withPath_eq_ok.2 resolved) limit (Volume.entries_dot top)
      (Volume.isFolder_of_endless top rfl)
  rw [run_walkWith (Volume.isFolder_of_resolve resolved rfl), stepsFrom, if_pos rfl, first, runSteps, runStep]
  exact Job.run_bind_eq_error.2 (.inl rfl)

/-- Folders inside of each other. -/
def tower (height : Nat) : World :=
  ⟨⟨(List.range height).map fun n => (List.replicate (n + 1) "x", .folder), [], []⟩, none, false, #[]⟩

/-- The path texts of the folders. -/
def towerText : Nat → String
  | 0 => "."
  | n + 1 => Path.entry (towerText n) "x"

variable {height n : Nat}

theorem isName_x : Volume.IsName "x" := ⟨by decide, by decide, by decide, by decide⟩

theorem mem_places_tower {place : Place} :
    place ∈ (tower height).volume.nodes.map (·.1) ↔ ∃ n < height, List.replicate (n + 1) "x" = place := by
  simp [tower]

theorem proper_tower (height : Nat) : (tower height).volume.Proper where
  names := by
    intro entry mem name inside
    obtain ⟨n, -, same⟩ := mem_places_tower.1 (List.mem_map_of_mem mem)
    rw [← same] at inside
    rw [List.eq_of_mem_replicate inside]
    exact isName_x
  places := by
    rw [tower, List.map_map]
    refine List.nodup_range.map fun n m same => ?_
    simpa using congrArg List.length same
  order := .nil

theorem node?_tower (le : n ≤ height) : (tower height).volume.node? (List.replicate n "x") = some .folder := by
  cases n with
  | zero => rfl
  | succ n =>
    refine Volume.node?_of_mem (proper_tower height).places (List.cons_ne_nil _ _) ?_
    exact List.mem_map.2 ⟨n, List.mem_range.2 le, rfl⟩

theorem mem_namesIn_tower {name : String} :
    name ∈ (tower height).volume.namesIn (List.replicate n "x") ↔ n < height ∧ name = "x" := by
  rw [Volume.mem_namesIn, mem_places_tower]
  constructor
  · rintro ⟨m, lt, same⟩
    rw [List.replicate_succ'] at same
    obtain ⟨front, last⟩ := List.append_inj' same rfl
    have size := congrArg List.length front
    rw [List.length_replicate, List.length_replicate] at size
    exact ⟨size ▸ lt, (List.cons.inj last).1.symm⟩
  · rintro ⟨lt, rfl⟩
    exact ⟨n, lt, List.replicate_succ'⟩

/-- Every folder but the innermost holds one folder. -/
theorem namesIn_tower (lt : n < height) : (tower height).volume.namesIn (List.replicate n "x") = ["x"] := by
  refine List.perm_singleton.1 ((List.perm_ext_iff_of_nodup ((proper_tower height).nodup_namesIn _)
    (List.nodup_singleton _)).2 fun name => ?_)
  rw [mem_namesIn_tower, List.mem_singleton]
  exact and_iff_right lt

theorem leads_x (lt : n < height) (budget : Nat) :
    Volume.Leads (tower height).volume budget (List.replicate n "x") ["x"] (List.replicate (n + 1) "x") budget := by
  have here : (tower height).volume.node? (List.replicate (n + 1) "x") = some .folder := node?_tower lt
  rw [List.replicate_succ'] at here ⊢
  exact .node (node?_tower lt.le) (by decide) (by decide) (by decide) here nofun (.done _ _)

theorem utf8ByteSize_towerText (n : Nat) : (towerText n).utf8ByteSize ≤ 2 * n + 1 := by
  induction n with
  | zero => decide
  | succ n ih =>
    have slash : "/".utf8ByteSize = 1 := rfl
    have name : "x".utf8ByteSize = 1 := rfl
    rw [towerText, Path.entry]
    split
    · rw [String.utf8ByteSize_append]
      omega
    · rw [String.utf8ByteSize_append, String.utf8ByteSize_append]
      omega

/-- The path texts lead to the folders as long as they are not too long. -/
theorem resolve_towerText (le : n ≤ height) (short : n ≤ 2000) :
    (tower height).volume.resolve (towerText n) = .ok (List.replicate n "x") := by
  induction n with
  | zero => exact Volume.resolve_dot rfl
  | succ n ih =>
    have before := ih (Nat.le_of_succ_le le) (Nat.le_of_succ_le short)
    obtain ⟨checked, left, walk⟩ := Volume.leads_of_resolve before
    obtain ⟨-, ne, -⟩ := Volume.checkText_eq_ok.1 checked
    have size := utf8ByteSize_towerText n
    have room : Volume.mostPathBytes = 4095 := rfl
    have name : "x".utf8ByteSize = 1 := rfl
    refine Volume.resolve_eq_ok.2 ⟨Volume.checkText_entry checked isName_x (by omega), left, ?_⟩
    rw [towerText, Volume.steps_entry _ isName_x,
      Volume.startOf_of_isAbsolute (Volume.isAbsolute_entry "x" ne) (tower height).volume]
    exact walk.append (leads_x le left)

/-- The walk goes from each folder into the next one. -/
theorem way_tower {trail : List Place} {text : String} (way : (tower height).volume.Way true "." [] trail text) :
    ∃ n rest, trail = List.replicate n "x" :: rest ∧ text = towerText n ∧ n ≤ height := by
  induction way with
  | start => exact ⟨0, [], rfl, rfl, Nat.zero_le _⟩
  | @enter trail folder inner text name _ way mem subfolder fresh ih =>
    obtain ⟨n, rest, places, rfl, le⟩ := ih
    obtain ⟨rfl, rfl⟩ := List.cons.inj places
    obtain ⟨lt, rfl⟩ := mem_namesIn_tower.1 mem
    obtain ⟨⟨budget, left, walk⟩, -⟩ := subfolder
    obtain rfl := walk.unique (leads_x lt 0)
    exact ⟨n + 1, _, rfl, rfl, lt⟩

theorem unlimited_tower (short : height ≤ 2000) : (tower height).volume.Unlimited true "." [] := by
  intro folder trail text way name mem
  obtain ⟨n, rest, places, rfl, -⟩ := way_tower way
  obtain ⟨rfl, rfl⟩ := List.cons.inj places
  obtain ⟨lt, rfl⟩ := mem_namesIn_tower.1 mem
  have resolved : (tower height).volume.resolve (towerText (n + 1)) = .ok (List.replicate (n + 1) "x") :=
    resolve_towerText lt (lt.trans_le short)
  rw [towerText] at resolved
  rw [resolved]
  exact ⟨nofun, nofun⟩

/-- Inside of too many folders the walk fails, without having done anything. -/
theorem runSteps_tower (plan : Plan) (short : height ≤ 2000) (depth : Nat) {visited : List Place} (a : Aggregate)
    (within : n + depth ≤ height) (before : ∀ place ∈ visited, place.length ≤ n) :
    (runSteps plan a (Step.ofFolder (tower height).volume true depth visited (towerText n)).1).run (tower height) =
      .error .tooDeep (tower height) := by
  induction depth generalizing n visited a with
  | zero =>
    rw [Step.ofFolder, runSteps, runStep]
    exact Job.run_bind_eq_error.2 (.inl rfl)
  | succ depth ih =>
    have lt : n < height := by omega
    have resolved := resolve_towerText lt.le (lt.le.trans short)
    have inner : (tower height).volume.resolve (towerText (n + 1)) = .ok (List.replicate (n + 1) "x") :=
      resolve_towerText lt (lt.trans_le short)
    have identity : (tower height).volume.identity (towerText n) = .ok (List.replicate n "x") :=
      Volume.withPath_eq_ok.2 resolved
    have listed : (tower height).volume.entries (towerText n) = .ok [towerText (n + 1)] :=
      Volume.entries_eq_ok.2 ⟨_, resolved, node?_tower lt.le, by rw [namesIn_tower lt]; rfl⟩
    have unknown : List.replicate (n + 1) "x" ∉ List.replicate n "x" :: visited := by
      intro known
      rcases List.mem_cons.1 known with same | known
      · simpa using congrArg List.length same
      · have := before _ known
        rw [List.length_replicate] at this
        omega
    rw [Step.ofFolder, identity]
    dsimp only
    rw [listed]
    dsimp only
    rw [(Step.Makes.enter (Volume.isFolder_of_resolve inner (node?_tower lt)) rfl (Volume.withPath_eq_ok.2 inner)
      unknown).ofEntries_cons, runSteps, runStep]
    refine Job.run_bind_eq_error.2 (.inl ?_)
    have named : (plan.nameOf (towerText (n + 1))).run (tower height) = .ok _ (tower height) := rfl
    rw [Job.run_bind_of_ok named]
    refine Job.run_bind_eq_error.2 (.inl (ih _ (by omega) fun place mem => ?_))
    rcases List.mem_cons.1 mem with rfl | mem
    · rw [List.length_replicate]
      exact Nat.le_succ _
    · exact (before place mem).trans (Nat.le_succ _)

theorem run_tower {limit : Nat} (scan : (path name : String) → Job FileReport) (short : height ≤ 2000)
    (high : limit ≤ height) :
    (walkWith limit scan true "." none).run (tower height) = .error .tooDeep (tower height) := by
  have resolved : (tower height).volume.resolve "." = .ok [] := Volume.resolve_dot rfl
  rw [run_walkWith (Volume.isFolder_of_resolve resolved rfl), stepsFrom, if_pos rfl, Step.itinerary]
  exact runSteps_tower (n := 0) _ short limit _ (by omega) (List.forall_mem_nil _)

end Limits

end Walk

end MatlabTidy
