import MatlabTidy.Proofs.Run.Trip
import Mathlib.Logic.Relation

/-!
# The folders of an itinerary

Folders and the entries that lead to folders form a graph (`Volume.Child`), in which links may make cycles.
An itinerary goes through this graph depth first. Where path texts show the folders that they lead to
(`Volume.Transparent`), the steps inside of a folder are a `Step.Tour`: they enter folders that were not
visited before, each once, and behind them all subfolders of these folders have been visited. So a whole
itinerary lists exactly the folders that can be reached (`Step.tour_of_itinerary`).

The recursion is bounded by the number of folders that a walk can be in at a time. It is not used up where
folders do not nest any deeper (`Volume.NestsWithin`), and they do not nest deeper than there are folders
(`Volume.nestsWithin_folders`), whichever links there are.
-/

namespace MatlabTidy

namespace Volume

/-- The entry of a folder leads to a place. -/
def Opens (v : Volume) (folder : Place) (name : String) (place : Place) : Prop :=
  ∃ budget left, Leads v budget folder [name] place left

/-- The entry of a folder leads to a folder. -/
def Subfolder (v : Volume) (folder : Place) (name : String) (inner : Place) : Prop :=
  v.Opens folder name inner ∧ v.node? inner = some .folder

/-- Some entry of one folder leads to the other. -/
def Child (v : Volume) (folder inner : Place) : Prop :=
  ∃ name ∈ v.namesIn folder, v.Subfolder folder name inner

/-- One gets from one folder to the other through entries. -/
abbrev Reachable (v : Volume) : Place → Place → Prop := Relation.ReflTransGen v.Child

/-- The path text leads to the folder, and questions about its entries are answered by what these lead to. -/
structure Shows (v : Volume) (path : String) (folder : Place) : Prop where
  identity : v.identity path = .ok folder
  isFolder : v.node? folder = some .folder
  subfolder : ∀ {name inner}, name ∈ v.namesIn folder → v.Subfolder folder name inner →
    v.isFolder (Path.entry path name) = .ok true ∧ v.identity (Path.entry path name) = .ok inner
  other : ∀ {name}, name ∈ v.namesIn folder → (∀ inner, ¬ v.Subfolder folder name inner) →
    v.isFolder (Path.entry path name) = .ok false

/-- A path text that a walk may form: one that goes from folder to folder without coming back to one, if the walk is
recursive. The folders stand in the list, the last one first. -/
inductive Way (v : Volume) (recursive : Bool) (path : String) (top : Place) : List Place → String → Prop where
  | start : Way v recursive path top [top] path
  | enter {trail : List Place} {folder inner : Place} {text name : String} (on : recursive = true)
      (way : Way v recursive path top (folder :: trail) text) (mem : name ∈ v.namesIn folder)
      (subfolder : v.Subfolder folder name inner) (fresh : inner ∉ folder :: trail) :
      Way v recursive path top (inner :: folder :: trail) (Path.entry text name)

/-- Every path text that a walk may form shows the folder that it leads to. -/
def Transparent (v : Volume) (recursive : Bool) (path : String) (top : Place) : Prop :=
  ∀ ⦃folder trail text⦄, Way v recursive path top (folder :: trail) text → v.Shows text folder

/-- A walk is in at most so many folders at a time. -/
def NestsWithin (v : Volume) (limit : Nat) (recursive : Bool) (path : String) (top : Place) : Prop :=
  ∀ ⦃trail text⦄, Way v recursive path top trail text → trail.length ≤ limit

theorem Subfolder.unique {v : Volume} {folder inner inner' : Place} {name : String}
    (h : v.Subfolder folder name inner) (h' : v.Subfolder folder name inner') : inner = inner' := by
  obtain ⟨⟨_, _, walk⟩, -⟩ := h
  obtain ⟨⟨_, _, walk'⟩, -⟩ := h'
  exact walk.unique walk'

/-- The places of all folders, the top included. -/
def folders (v : Volume) : List Place :=
  [] :: (v.nodes.filter fun entry => entry.2 = .folder).map (·.1)

theorem mem_folders {v : Volume} {place : Place} (h : v.node? place = some .folder) : place ∈ v.folders := by
  by_cases top : place = []
  · exact top ▸ List.mem_cons_self
  · rw [node?_of_ne_nil top] at h
    obtain ⟨before, behind, whole, -⟩ := List.lookup_eq_some_iff.1 h
    have mem : (place, Node.folder) ∈ v.nodes := by
      rw [whole]
      exact List.mem_append_right _ List.mem_cons_self
    exact List.mem_cons_of_mem _ (List.mem_map.2 ⟨_, List.mem_filter.2 ⟨mem, by simp⟩, rfl⟩)

/-- Folders do not nest deeper than there are folders. -/
theorem nestsWithin_folders {v : Volume} {recursive : Bool} {path : String} {top : Place} {limit : Nat}
    (isFolder : v.node? top = some .folder) (many : v.folders.length ≤ limit) :
    v.NestsWithin limit recursive path top := by
  intro trail text way
  have apart : trail.Nodup ∧ trail ⊆ v.folders := by
    induction way with
    | start => exact ⟨List.nodup_singleton _, List.cons_subset.2 ⟨mem_folders isFolder, List.nil_subset _⟩⟩
    | enter _ _ _ subfolder fresh ih =>
      exact ⟨List.nodup_cons.2 ⟨fresh, ih.1⟩, List.cons_subset.2 ⟨mem_folders subfolder.2, ih.2⟩⟩
  exact (apart.1.subperm apart.2).length_le.trans many

theorem Shows.entries {v : Volume} {path : String} {folder : Place} (h : v.Shows path folder) :
    v.entries path = .ok ((v.namesIn folder).map (Path.entry path)) :=
  entries_eq_ok.2 ⟨folder, withPath_eq_ok.1 h.identity, h.isFolder, rfl⟩

end Volume

namespace Step

/-- A source in a folder: the path text of the folder, the folder and the name. -/
abbrev Source := String × Place × String

/-- The path text of a source. -/
def Source.path (source : Source) : String := Path.entry source.1 source.2.2

/-- Whether an entry is a source, as far as the path text tells. -/
def isSourceAt (v : Volume) (entry : String) : Bool :=
  match v.isFolder entry with
  | .ok false => isSource entry
  | _ => false

theorem isSourceAt_of_file {v : Volume} {entry : String} (h : v.isFolder entry = .ok false) :
    isSourceAt v entry = isSource entry := by
  unfold isSourceAt
  rw [h]

theorem isSourceAt_of_folder {v : Volume} {entry : String} (h : v.isFolder entry = .ok true) :
    isSourceAt v entry = false := by
  unfold isSourceAt
  rw [h]

/-- The sources among the names in a folder. -/
def sourcesAmong (v : Volume) (text : String) (folder : Place) (names : List String) : List Source :=
  (names.filter fun name => isSourceAt v (Path.entry text name)).map fun name => (text, folder, name)

/-- All sources of folders. -/
def sourcesOf (v : Volume) (listing : List (String × Place)) : List Source :=
  listing.flatMap fun listed => sourcesAmong v listed.1 listed.2 (v.namesIn listed.2)

/-- What steps that start in a folder have done: they have listed some more folders, each once, which are
reached from that folder and whose subfolders have all been visited; and they scan the sources of these
folders and `own` others. -/
structure Tour (v : Volume) (start : Place) (own : List Source) (visited : List Place)
    (listing : List (String × Place)) (steps : List Step) (visited' : List Place) : Prop where
  visited : visited' = (listing.map Prod.snd).reverse ++ visited
  nodup : visited'.Nodup
  reached : ∀ listed ∈ listing, v.Reachable start listed.2
  closed : ∀ listed ∈ listing, ∀ inner, v.Child listed.2 inner → inner ∈ visited'
  shows : ∀ listed ∈ listing, v.Shows listed.1 listed.2
  entered : entered steps = listing.map Prod.fst
  scanned : ∃ sources : List Source, scanned steps = sources.map Source.path ∧ sources.Perm (own ++ sourcesOf v listing)
  failures : failures steps = []

variable {v : Volume} {path text : String} {top folder : Place}

theorem Tour.subset {start : Place} {own : List Source} {visited visited' : List Place}
    {listing : List (String × Place)} {steps : List Step} (h : Tour v start own visited listing steps visited') :
    visited ⊆ visited' := by
  rw [h.visited]
  exact List.subset_append_right _ _

theorem sourcesAmong_cons_of_source {name : String} {names : List String}
    (h : isSourceAt v (Path.entry text name) = true) :
    sourcesAmong v text folder (name :: names) = (text, folder, name) :: sourcesAmong v text folder names := by
  rw [sourcesAmong, List.filter_cons, if_pos h]
  rfl

theorem sourcesAmong_cons_of_not {name : String} {names : List String}
    (h : ¬ isSourceAt v (Path.entry text name) = true) :
    sourcesAmong v text folder (name :: names) = sourcesAmong v text folder names := by
  rw [sourcesAmong, List.filter_cons, if_neg h]
  rfl

/-- A step that enters nothing and fails not, in front of a tour. -/
theorem Tour.cons {start : Place} {own own' : List Source} {visited visited' : List Place}
    {listing : List (String × Place)} {steps : List Step} {step : Step}
    (h : Tour v start own visited listing steps visited') (enters : Step.entered [step] = [])
    (fails : Step.failures [step] = [])
    (scans : ∃ sources : List Source, Step.scanned [step] = sources.map Source.path ∧ own' = sources ++ own) :
    Tour v start own' visited listing (step :: steps) visited' := by
  obtain ⟨sources, here, rfl⟩ := scans
  obtain ⟨others, there, perm⟩ := h.scanned
  refine { h with entered := ?_, scanned := ⟨sources ++ others, ?_, ?_⟩, failures := ?_ }
  · rw [entered_cons, enters, h.entered]
    rfl
  · rw [scanned_cons, here, there, List.map_append]
  · rw [List.append_assoc]
    exact perm.append_left sources
  · rw [failures_cons, fails, h.failures]
    rfl

/-- The tour through a subfolder, and the tour after it. -/
theorem Tour.enter {start inner : Place} {own : List Source} {visited visited₁ visited' : List Place}
    {inside listing : List (String × Place)} {steps rest : List Step} {entry : String}
    (first : Tour v inner (sourcesAmong v entry inner (v.namesIn inner)) (inner :: visited) inside steps visited₁)
    (shows : v.Shows entry inner) (closed : ∀ other, v.Child inner other → other ∈ visited₁)
    (child : v.Child start inner) (h : Tour v start own visited₁ listing rest visited') :
    Tour v start own visited ((entry, inner) :: inside ++ listing) (.enter entry steps :: rest) visited' := by
  obtain ⟨sources, here, perm⟩ := first.scanned
  obtain ⟨others, there, perm'⟩ := h.scanned
  refine ⟨?_, h.nodup, ?_, ?_, ?_, ?_, ⟨sources ++ others, ?_, ?_⟩, ?_⟩
  · rw [h.visited, first.visited]
    simp
  · intro listed mem
    rcases List.mem_append.1 mem with mem | mem
    · rcases List.mem_cons.1 mem with rfl | mem
      · exact .single child
      · exact .head child (first.reached listed mem)
    · exact h.reached listed mem
  · intro listed mem other follows
    rcases List.mem_append.1 mem with mem | mem
    · rcases List.mem_cons.1 mem with rfl | mem
      · exact h.subset (closed other follows)
      · exact h.subset (first.closed listed mem other follows)
    · exact h.closed listed mem other follows
  · intro listed mem
    rcases List.mem_append.1 mem with mem | mem
    · rcases List.mem_cons.1 mem with rfl | mem
      · exact shows
      · exact first.shows listed mem
    · exact h.shows listed mem
  · rw [entered_cons, entered_enter, first.entered, h.entered, List.map_append]
    rfl
  · rw [scanned_cons, scanned_enter, here, there, List.map_append]
  · have all : sourcesOf v ((entry, inner) :: inside ++ listing) =
        (sourcesAmong v entry inner (v.namesIn inner) ++ sourcesOf v inside) ++ sourcesOf v listing := by
      rw [sourcesOf, sourcesOf, sourcesOf, List.cons_append, List.flatMap_cons, List.flatMap_append,
        List.append_assoc]
    rw [all, ← List.append_assoc]
    refine (perm.append perm').trans ?_
    rw [← List.append_assoc]
    exact List.perm_append_comm.append_right _
  · rw [failures_cons, failures_enter, first.failures, h.failures]
    rfl

section Entries

variable {recursive : Bool} {enter : List Place → String → List Step × List Place} {visited : List Place}
variable {entry : String} {rest : List String}

/-- The step that an entry of a folder makes, and the folders visited behind it. The entry is asked first whether it
is a folder, and only in a recursive walk which one. -/
inductive Makes (v : Volume) (recursive : Bool) (enter : List Place → String → List Step × List Place)
    (visited : List Place) (entry : String) : Step → List Place → Prop where
  | file (answer : v.isFolder entry = .ok false) :
      Makes v recursive enter visited entry (if isSource entry then .scan entry else .skipFile entry) visited
  | folder (answer : v.isFolder entry = .ok true) (off : recursive = false) :
      Makes v recursive enter visited entry (.skipFolder entry) visited
  | visited (answer : v.isFolder entry = .ok true) (on : recursive = true) {inner : Place}
      (identity : v.identity entry = .ok inner) (known : inner ∈ visited) :
      Makes v recursive enter visited entry (.skipVisited entry) visited
  | enter (answer : v.isFolder entry = .ok true) (on : recursive = true) {inner : Place}
      (identity : v.identity entry = .ok inner) (unknown : inner ∉ visited) :
      Makes v recursive enter visited entry (.enter entry (enter visited entry).1) (enter visited entry).2
  | unanswered {error : AccessError} (answer : v.isFolder entry = .error error) :
      Makes v recursive enter visited entry (.fail (.access error)) visited
  | unidentified (answer : v.isFolder entry = .ok true) (on : recursive = true) {error : AccessError}
      (identity : v.identity entry = .error error) :
      Makes v recursive enter visited entry (.fail (.access error)) visited

/-- Every entry makes a step. -/
theorem exists_makes (v : Volume) (recursive : Bool) (enter : List Place → String → List Step × List Place)
    (visited : List Place) (entry : String) : ∃ step visited', Makes v recursive enter visited entry step visited' := by
  cases answer : v.isFolder entry with
  | error => exact ⟨_, _, .unanswered answer⟩
  | ok isFolder =>
    cases isFolder with
    | false => exact ⟨_, _, .file answer⟩
    | true =>
      cases on : recursive with
      | false => exact ⟨_, _, .folder answer rfl⟩
      | true =>
        cases identity : v.identity entry with
        | error => exact ⟨_, _, .unidentified answer rfl identity⟩
        | ok inner =>
          by_cases known : inner ∈ visited
          · exact ⟨_, _, .visited answer rfl identity known⟩
          · exact ⟨_, _, .enter answer rfl identity known⟩

/-- The steps for the entries begin with that of the first one. -/
theorem Makes.ofEntries_cons {step : Step} {visited' : List Place}
    (h : Makes v recursive enter visited entry step visited') (rest : List String) :
    ofEntries v recursive enter visited (entry :: rest) =
      (step :: (ofEntries v recursive enter visited' rest).1, (ofEntries v recursive enter visited' rest).2) := by
  rw [ofEntries]
  cases h with
  | file answer => rw [answer]
  | folder answer off =>
    rw [answer, off]
    rfl
  | visited answer on identity known =>
    rw [answer, on, identity]
    simp [known]
  | enter answer on identity unknown =>
    rw [answer, on, identity]
    simp [unknown]
  | unanswered answer => rw [answer]
  | unidentified answer on identity =>
    rw [answer, on, identity]
    rfl

theorem ofEntries_of_files {entries : List String} (files : ∀ entry ∈ entries, v.isFolder entry = .ok false) :
    ofEntries v recursive enter visited entries =
      (entries.map fun entry => if isSource entry then .scan entry else .skipFile entry, visited) := by
  induction entries with
  | nil => rfl
  | cons entry entries ih =>
    obtain ⟨file, files⟩ := List.forall_mem_cons.1 files
    rw [(Makes.file file).ofEntries_cons, ih files, List.map_cons]

variable {place : Place} {entries : List String} (identity : v.identity path = .ok place)

include identity

/-- The steps through a folder begin with its own entries. -/
theorem itinerary_eq (limit : Nat) (listed : v.entries path = .ok entries) :
    itinerary (limit + 1) v recursive path = (ofEntries v recursive (ofFolder v recursive limit) [place] entries).1 := by
  rw [itinerary, ofFolder, identity]
  dsimp only
  rw [listed]

/-- The steps through a folder that holds no folders. -/
theorem itinerary_of_files (limit : Nat) (listed : v.entries path = .ok entries)
    (files : ∀ entry ∈ entries, v.isFolder entry = .ok false) : itinerary (limit + 1) v recursive path =
      entries.map fun entry => if isSource entry then .scan entry else .skipFile entry := by
  rw [itinerary_eq identity limit listed, ofEntries_of_files files]

/-- A walk fails at an entry about which no question is answered, when it comes to it. -/
theorem itinerary_of_unanswered (limit : Nat) {error : AccessError} (listed : v.entries path = .ok (entry :: rest))
    (fails : v.isFolder entry = .error error) :
    ∃ steps, itinerary (limit + 1) v recursive path = .fail (.access error) :: steps := by
  rw [itinerary_eq identity limit listed, (Makes.unanswered fails).ofEntries_cons]
  exact ⟨_, rfl⟩

end Entries

/-- The step for a file scans it if it is a source. -/
theorem scanned_file {name : String} (folder : Place) (h : v.isFolder (Path.entry text name) = .ok false) :
    ∃ sources : List Source, scanned [if isSource (Path.entry text name) then .scan (Path.entry text name)
        else .skipFile (Path.entry text name)] = sources.map Source.path ∧
      ∀ names, sourcesAmong v text folder (name :: names) = sources ++ sourcesAmong v text folder names := by
  by_cases source : isSource (Path.entry text name) = true
  · have here : isSourceAt v (Path.entry text name) = true := (isSourceAt_of_file h).trans source
    exact ⟨[(text, folder, name)], by rw [if_pos source]; rfl, fun _ => sourcesAmong_cons_of_source here⟩
  · have here : ¬ isSourceAt v (Path.entry text name) = true := by rwa [isSourceAt_of_file h]
    exact ⟨[], by rw [if_neg source]; rfl, fun _ => sourcesAmong_cons_of_not here⟩

/-- An entry that leads to a folder is no source. -/
theorem sourcesAmong_cons_folder {name : String} (names : List String)
    (h : v.isFolder (Path.entry text name) = .ok true) :
    sourcesAmong v text folder (name :: names) = sourcesAmong v text folder names := by
  refine sourcesAmong_cons_of_not ?_
  rw [isSourceAt_of_folder h]
  exact Bool.false_ne_true

/-- Between two folders, a walk has visited folders, each once, among them those that it is in, and it can be in as
many more as are left of the limit. -/
structure Midway (limit : Nat) (trail visited : List Place) (depth : Nat) : Prop where
  within : trail ⊆ visited
  nodup : visited.Nodup
  depth : limit ≤ depth + trail.length

/-- The steps inside of a folder that was not visited are a tour through it, after which all of its
subfolders have been visited. -/
def Explores (v : Volume) (limit : Nat) (path : String) (top : Place) (depth : Nat) : Prop :=
  ∀ ⦃folder trail text visited⦄, v.Way true path top (folder :: trail) text → folder ∉ visited →
    Midway limit trail visited depth →
    ∃ listing, Tour v folder (sourcesAmong v text folder (v.namesIn folder)) (folder :: visited) listing
        (ofFolder v true depth visited text).1 (ofFolder v true depth visited text).2 ∧
      ∀ inner, v.Child folder inner → inner ∈ (ofFolder v true depth visited text).2

theorem tour_of_ofEntries {limit depth : Nat} {trail visited : List Place} {names : List String}
    (explores : Explores v limit path top depth) (way : v.Way true path top (folder :: trail) text)
    (transparent : v.Transparent true path top) (present : names ⊆ v.namesIn folder)
    (midway : Midway limit (folder :: trail) visited depth) :
    ∃ listing, Tour v folder (sourcesAmong v text folder names) visited listing
        (ofEntries v true (ofFolder v true depth) visited (names.map (Path.entry text))).1
        (ofEntries v true (ofFolder v true depth) visited (names.map (Path.entry text))).2 ∧
      ∀ name ∈ names, ∀ inner, v.Subfolder folder name inner →
        inner ∈ (ofEntries v true (ofFolder v true depth) visited (names.map (Path.entry text))).2 := by
  have shows := transparent way
  induction names generalizing visited with
  | nil =>
    rw [List.map_nil, ofEntries]
    exact ⟨[], ⟨rfl, midway.nodup, nofun, nofun, nofun, rfl, ⟨[], rfl, .nil⟩, rfl⟩, nofun⟩
  | cons name names ih =>
    have here := present List.mem_cons_self
    have others : names ⊆ v.namesIn folder := fun _ mem => present (List.mem_cons_of_mem _ mem)
    rw [List.map_cons]
    by_cases leads : ∃ inner, v.Subfolder folder name inner
    · obtain ⟨inner, subfolder⟩ := leads
      obtain ⟨isFolder, identity⟩ := shows.subfolder here subfolder
      rw [sourcesAmong_cons_folder names isFolder]
      by_cases known : inner ∈ visited
      · rw [(Makes.visited isFolder rfl identity known).ofEntries_cons]
        obtain ⟨listing, tour, all⟩ := ih others midway
        refine ⟨listing, tour.cons rfl rfl ⟨[], rfl, rfl⟩, List.forall_mem_cons.2 ⟨fun other found => ?_, all⟩⟩
        rw [found.unique subfolder]
        exact tour.subset known
      · rw [(Makes.enter isFolder rfl identity known).ofEntries_cons]
        have fresh : inner ∉ folder :: trail := fun mem => known (midway.within mem)
        have onward := way.enter rfl here subfolder fresh
        obtain ⟨inside, first, closed⟩ := explores onward known midway
        have after : Midway limit (folder :: trail) (ofFolder v true depth visited (Path.entry text name)).2 depth :=
          ⟨fun _ mem => first.subset (List.mem_cons_of_mem _ (midway.within mem)), first.nodup, midway.depth⟩
        obtain ⟨listing, tour, all⟩ := ih others after
        refine ⟨(Path.entry text name, inner) :: inside ++ listing,
          first.enter (transparent onward) closed ⟨name, here, subfolder⟩ tour,
          List.forall_mem_cons.2 ⟨fun other found => ?_, all⟩⟩
        rw [found.unique subfolder]
        exact tour.subset (first.subset List.mem_cons_self)
    · have isFolder := shows.other here fun inner subfolder => leads ⟨inner, subfolder⟩
      rw [(Makes.file isFolder).ofEntries_cons]
      obtain ⟨listing, tour, all⟩ := ih others midway
      obtain ⟨sources, scans, among⟩ := scanned_file folder isFolder
      refine ⟨listing, tour.cons ?_ ?_ ⟨sources, scans, among names⟩,
        List.forall_mem_cons.2 ⟨fun inner found => absurd ⟨inner, found⟩ leads, all⟩⟩
      · split <;> rfl
      · split <;> rfl

theorem explores_of_transparent {limit : Nat} (transparent : v.Transparent true path top)
    (nests : v.NestsWithin limit true path top) (depth : Nat) : Explores v limit path top depth := by
  induction depth with
  | zero =>
    -- The walk cannot be in as many folders as that.
    intro folder trail text visited way fresh midway
    have bound := nests way
    have := midway.depth
    rw [List.length_cons] at bound
    omega
  | succ depth ih =>
    intro folder trail text visited way fresh midway
    have shows := transparent way
    have inside : Midway limit (folder :: trail) (folder :: visited) depth :=
      { within := List.cons_subset_cons _ midway.within
        nodup := List.nodup_cons.2 ⟨fresh, midway.nodup⟩
        depth := by
          have := midway.depth
          rw [List.length_cons]
          omega }
    obtain ⟨listing, tour, all⟩ := tour_of_ofEntries ih way transparent (List.Subset.refl _) inside
    rw [ofFolder, shows.identity]
    dsimp only
    rw [shows.entries]
    refine ⟨listing, tour, ?_⟩
    rintro inner ⟨name, mem, subfolder⟩
    exact all name mem inner subfolder

/-- The steps of a walk through a folder list every folder that is reached from it once. -/
theorem tour_of_itinerary {limit : Nat} (transparent : v.Transparent true path top)
    (nests : v.NestsWithin limit true path top) :
    ∃ listing, Tour v top (sourcesAmong v path top (v.namesIn top)) [top] listing (itinerary limit v true path)
        (top :: listing.map Prod.snd).reverse ∧
      ∀ folder, folder ∈ top :: listing.map Prod.snd ↔ v.Reachable top folder := by
  have shows := transparent .start
  have midway : Midway limit [] [] limit := ⟨List.nil_subset _, List.nodup_nil, Nat.le_refl _⟩
  obtain ⟨listing, tour, closed⟩ := explores_of_transparent transparent nests limit .start List.not_mem_nil midway
  have visited : (ofFolder v true limit [] path).2 = (top :: listing.map Prod.snd).reverse := by
    rw [tour.visited, List.reverse_cons]
  rw [visited] at tour closed
  refine ⟨listing, tour, fun folder => ⟨fun mem => ?_, fun reached => ?_⟩⟩
  · rcases List.mem_cons.1 mem with rfl | mem
    · exact .refl
    · obtain ⟨listed, listed_mem, rfl⟩ := List.mem_map.1 mem
      exact tour.reached listed listed_mem
  · -- What has been visited is closed under going on to subfolders.
    induction reached with
    | refl => exact List.mem_cons_self
    | tail _ child ih =>
      rw [← List.mem_reverse]
      rcases List.mem_cons.1 ih with rfl | mem
      · exact closed _ child
      · obtain ⟨listed, listed_mem, rfl⟩ := List.mem_map.1 mem
        exact tour.closed listed listed_mem _ child

end Step

end MatlabTidy
