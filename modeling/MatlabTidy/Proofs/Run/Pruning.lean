import MatlabTidy.Proofs.Run.Coverage
import MatlabTidy.Proofs.Volume.Removal

/-!
# Itineraries without some files

A walk scans every source under one path text only, since it lists every folder once. When files are removed
that lead to no folder, the walk makes the same way through the folders, and scans what it scanned but for the
files that are gone (`Step.pruned_of_itinerary`).
-/

namespace MatlabTidy

namespace Volume

variable {v : Volume} {gone : List Place} {path text name : String} {folder place : Place}

theorem isFolder_eq_true (h : v.isFolder path = .ok true) :
    ∃ place, v.resolve (Path.ofString path).text = .ok place ∧ v.node? place = some .folder := by
  rw [isFolder] at h
  cases resolved : v.resolve (Path.ofString path).text with
  | ok place =>
    rw [asks_of_resolve resolved] at h
    obtain ⟨node, here, folder⟩ := (Option.any_eq_true _ _).1 (Except.ok.inj h)
    exact ⟨place, rfl, here.trans (congrArg some (of_decide_eq_true folder))⟩
  | error cause =>
    unfold asks at h
    dsimp only at h
    rw [resolved] at h
    cases cause <;> cases h

/-- A path that reads a file is none of a folder. -/
theorem not_isFolder_of_holds {bytes : List UInt8} {mode : Nat} (h : Holds v path bytes mode)
    (some : Path.parts path ≠ []) : v.isFolder path = .ok false := by
  obtain ⟨place, resolved, file⟩ := h
  rw [Volume.isFolder, asks_of_resolve (resolve_short some resolved), file]
  rfl

/-- An entry whose path text is that of a folder leads to a folder. -/
theorem leads_of_isFolder (listed : v.resolve text = .ok folder) (good : IsName name)
    (isFolder : v.isFolder (Path.entry text name) = .ok true) :
    ∃ left place left', Leads v left folder [name] place left' ∧ v.node? place = some .folder := by
  obtain ⟨place, short, here⟩ := isFolder_eq_true isFolder
  obtain ⟨checked, left, walk⟩ := leads_of_resolve listed
  obtain ⟨-, ne, -⟩ := checkText_eq_ok.1 checked
  rcases checkText_short_cases (parts_entry_ne_nil text good) (noNull_entry checked good) with fits | long
  · rw [resolve_short_entry ne good walk fits] at short
    obtain ⟨left', onward⟩ := leads_of_follow short
    exact ⟨left, place, left', onward, here⟩
  · rw [resolve, long] at short
    cases short

/-- It leads to the folder that the path text is recognised by. -/
theorem isFolder_of_identity (listed : v.resolve text = .ok folder) (good : IsName name)
    (isFolder : v.isFolder (Path.entry text name) = .ok true)
    (identity : v.identity (Path.entry text name) = .ok place) : v.node? place = some .folder := by
  obtain ⟨left, inner, left', walk, here⟩ := leads_of_isFolder listed good isFolder
  have resolved := withPath_eq_ok.1 identity
  rcases resolve_entry listed good with long | ⟨between, whole, -⟩
  · rw [resolved] at long
    cases long
  · rw [resolved] at whole
    obtain ⟨left'', walk'⟩ := leads_of_follow whole.symm
    rwa [walk'.unique walk]

/-- An entry that leads to a folder does not block. -/
theorem Leads.not_blocks {left left' : Nat} (walk : Leads v left folder [name] place left')
    (isFolder : v.node? place = some .folder) (single : name ≠ ".") (double : name ≠ "..") :
    ¬ Blocks v (folder ++ [name]) := by
  intro blocks
  cases walk with
  | dot _ dot _ => exact single dot
  | up _ _ dots _ => exact double dots
  | link _ _ _ _ link more =>
    rw [List.append_nil] at more
    exact blocks.noLink _ link _ _ _ (by simpa using more) isFolder
  | node _ _ _ _ node _ more =>
    cases more
    exact blocks.noFolder isFolder

section Blocking

variable (blocks : ∀ place ∈ gone, Blocks v place)

include blocks

theorem isFolder_without (h : v.isFolder path = .ok true) : (v.without gone).isFolder path = .ok true := by
  obtain ⟨place, resolved, isFolder⟩ := isFolder_eq_true h
  rw [Volume.isFolder, asks_of_resolve (resolve_folder_without blocks resolved isFolder),
    folder_without blocks isFolder]
  rfl

/-- What is no folder is none without the files that are gone. -/
theorem not_isFolder_without (h : v.isFolder path = .ok false) : (v.without gone).isFolder path = .ok false := by
  rcases resolve_without (fun place mem => (blocks place mem).noFolder) (Path.ofString path).text with same | missing
  · rw [isFolder] at h ⊢
    cases resolved : v.resolve (Path.ofString path).text with
    | ok place =>
      rw [asks_of_resolve resolved] at h
      rw [asks_of_resolve (same.trans resolved)]
      cases there : (v.without gone).node? place with
      | none => rfl
      | some node =>
        rw [node?_of_without there] at h
        exact h
    | error cause =>
      unfold asks at h ⊢
      dsimp only at h ⊢
      rw [resolved] at h
      rw [same, resolved]
      cases cause with
      | nameTooLong => cases h
      | _ => rfl
  · rw [isFolder, asks_of_error missing (by decide)]

/-- An entry of a folder that leads to a folder is not among what is gone, and still leads to that folder. -/
theorem subfolder_without (named : ∀ parent name, parent ++ [name] ∈ gone → name ≠ "..")
    (listed : v.resolve text = .ok folder) (good : IsName name)
    (isFolder : v.isFolder (Path.entry text name) = .ok true) :
    folder ++ [name] ∉ gone ∧ (v.without gone).isFolder (Path.entry text name) = .ok true ∧
      ∀ place, v.identity (Path.entry text name) = .ok place →
        (v.without gone).identity (Path.entry text name) = .ok place := by
  obtain ⟨left, inner, left', walk, innerFolder⟩ := leads_of_isFolder listed good isFolder
  refine ⟨fun mem => ?_, isFolder_without blocks isFolder, fun place identity => ?_⟩
  · exact walk.not_blocks innerFolder good.ne_dot (named folder name mem) (blocks _ mem)
  · exact withPath_eq_ok.2 (resolve_folder_without blocks (withPath_eq_ok.1 identity)
      (isFolder_of_identity listed good isFolder identity))

end Blocking

end Volume

namespace Step

/-- The source stands in the folder that its path text begins with. -/
structure Source.Listed (v : Volume) (source : Source) : Prop where
  resolve : v.resolve source.1 = .ok source.2.1
  isFolder : v.node? source.2.1 = some .folder
  mem : source.2.2 ∈ v.namesIn source.2.1

/-- The place of a source. -/
def Source.place (source : Source) : Place := source.2.1 ++ [source.2.2]

/-- Steps through a volume, and steps through it without some files: the first scan certain sources, each once,
and the second those of them that are not gone. The folders of these sources are visited for the first time, but
for those of the sources that are `own`. -/
structure Pruned (v : Volume) (gone : List Place) (own : Source → Prop) (visited visited' : List Place)
    (steps steps' : List Step) (sources : List Source) : Prop where
  scanned : scanned steps = sources.map Source.path
  remaining : Step.scanned steps' = (sources.filter (·.place ∉ gone)).map Source.path
  failures : failures steps' = []
  nodup : (sources.map Prod.snd).Nodup
  known : visited ⊆ visited'
  listed : ∀ source ∈ sources, source.Listed v
  fresh : ∀ source ∈ sources, own source ∨ source.2.1 ∉ visited ∧ source.2.1 ∈ visited'

variable {v : Volume} {gone : List Place} {recursive : Bool} {visited : List Place} {text : String} {folder : Place}

/-- No step in front. -/
theorem Pruned.nil (v : Volume) (gone : List Place) (own : Source → Prop) (visited : List Place) :
    Pruned v gone own visited visited [] [] [] :=
  ⟨rfl, rfl, rfl, List.nodup_nil, List.Subset.refl _, nofun, nofun⟩

variable {own own' : Source → Prop} {visited' : List Place} {steps steps' : List Step} {sources : List Source}

/-- A step in front that scans nothing and fails not; the second steps may do without it. -/
theorem Pruned.cons_idle {step : Step} (front : List Step)
    (h : Pruned v gone own visited visited' steps steps' sources) (front_eq : front = [] ∨ front = [step])
    (idle : Step.scanned [step] = []) (fine : Step.failures [step] = []) (more : ∀ source, own source → own' source) :
    Pruned v gone own' visited visited' (step :: steps) (front ++ steps') sources where
  scanned := by
    rw [scanned_cons, idle, h.scanned]
    rfl
  remaining := by
    rcases front_eq with rfl | rfl
    · exact h.remaining
    · rw [List.singleton_append, scanned_cons, idle, h.remaining]
      rfl
  failures := by
    rcases front_eq with rfl | rfl
    · exact h.failures
    · rw [List.singleton_append, failures_cons, fine, h.failures]
      rfl
  nodup := h.nodup
  known := h.known
  listed := h.listed
  fresh := fun source mem => (h.fresh source mem).imp_left (more source)

/-- A source in front that no other step scans; if it is gone, the second steps have no step for it. -/
theorem Pruned.cons_scan (source : Source) (front : List Step)
    (h : Pruned v gone own visited visited' steps steps' sources) (listed : source.Listed v)
    (front_eq : front = if source.place ∈ gone then [] else [.scan source.path])
    (mine : own' source) (known : source.2.1 ∈ visited) (other : ∀ source', own source' → source'.2 ≠ source.2)
    (more : ∀ source, own source → own' source) :
    Pruned v gone own' visited visited' (.scan source.path :: steps) (front ++ steps') (source :: sources) where
  scanned := by
    rw [scanned_cons, h.scanned]
    rfl
  remaining := by
    rw [front_eq]
    by_cases there : source.place ∈ gone
    · rw [if_pos there, List.filter_cons_of_neg (by simp [there]), List.nil_append, h.remaining]
    · rw [if_neg there, List.filter_cons_of_pos (by simp [there]), List.singleton_append, scanned_cons, h.remaining]
      rfl
  failures := by
    rw [front_eq]
    split
    · exact h.failures
    · rw [List.singleton_append, failures_cons, h.failures]
      rfl
  nodup := by
    rw [List.map_cons, List.nodup_cons]
    refine ⟨fun mem => ?_, h.nodup⟩
    obtain ⟨source', mem', same⟩ := List.mem_map.1 mem
    rcases h.fresh source' mem' with owned | ⟨unknown, -⟩
    · exact other source' owned same
    · rw [same] at unknown
      exact unknown known
  known := h.known
  listed := List.forall_mem_cons.2 ⟨listed, h.listed⟩
  fresh := List.forall_mem_cons.2 ⟨.inl mine, fun source mem => (h.fresh source mem).imp_left (more source)⟩

/-- The step for an entry of a folder that is no folder itself, in front of those for the other entries; if the
entry is gone, the second steps have no step for it. -/
theorem Pruned.cons_file {name : String} {names : List String} (front : List Step)
    (h : Pruned v gone (fun source => source.2.1 = folder ∧ source.2.2 ∈ names) visited visited' steps steps' sources)
    (listed : Source.Listed v (text, folder, name)) (known : folder ∈ visited) (fresh : name ∉ names)
    (front_eq : front = if folder ++ [name] ∈ gone then [] else
      [if isSource (Path.entry text name) then .scan (Path.entry text name) else .skipFile (Path.entry text name)]) :
    ∃ sources', Pruned v gone (fun source => source.2.1 = folder ∧ source.2.2 ∈ name :: names) visited visited'
      ((if isSource (Path.entry text name) then .scan (Path.entry text name) else .skipFile (Path.entry text name)) ::
        steps) (front ++ steps') sources' := by
  have more : ∀ source : Source, source.2.1 = folder ∧ source.2.2 ∈ names →
      source.2.1 = folder ∧ source.2.2 ∈ name :: names := fun source owned =>
    ⟨owned.1, List.mem_cons_of_mem _ owned.2⟩
  have other : ∀ source : Source, source.2.1 = folder ∧ source.2.2 ∈ names → source.2 ≠ (folder, name) := by
    rintro source ⟨-, mem⟩ same
    rw [same] at mem
    exact fresh mem
  by_cases source : isSource (Path.entry text name) = true
  · rw [if_pos source] at front_eq ⊢
    exact ⟨_, h.cons_scan (text, folder, name) front listed front_eq ⟨rfl, List.mem_cons_self⟩ known other more⟩
  · rw [if_neg source] at front_eq ⊢
    refine ⟨sources, h.cons_idle front ?_ rfl rfl more⟩
    rw [front_eq]
    split
    · exact .inl rfl
    · exact .inr rfl

/-- A subfolder that is entered in front. -/
theorem Pruned.enter {visited₁ : List Place} {inside inside' : List Step} {sources₁ : List Source} (entry : String)
    (first : Pruned v gone (fun _ => False) visited visited₁ inside inside' sources₁)
    (h : Pruned v gone own visited₁ visited' steps steps' sources) (known : ∀ source, own source → source.2.1 ∈ visited)
    (more : ∀ source, own source → own' source) :
    Pruned v gone own' visited visited' (.enter entry inside :: steps) (.enter entry inside' :: steps')
      (sources₁ ++ sources) where
  scanned := by
    rw [scanned_cons, scanned_enter, first.scanned, h.scanned, List.map_append]
  remaining := by
    rw [scanned_cons, scanned_enter, first.remaining, h.remaining, List.filter_append, List.map_append]
  failures := by
    rw [failures_cons, failures_enter, first.failures, h.failures]
    rfl
  nodup := by
    rw [List.map_append, List.nodup_append]
    refine ⟨first.nodup, h.nodup, fun entry mem entry' mem' same => ?_⟩
    obtain ⟨source, inner, rfl⟩ := List.mem_map.1 mem
    obtain ⟨source', behind, rfl⟩ := List.mem_map.1 mem'
    obtain nothing | ⟨unknown, found⟩ := first.fresh source inner
    · exact nothing
    rw [same] at unknown found
    -- The subfolder's sources stand in folders that were not visited before it and have been visited after it.
    rcases h.fresh source' behind with owned | ⟨unknown', -⟩
    · exact unknown (known source' owned)
    · exact unknown' found
  known := fun _ mem => h.known (first.known mem)
  listed := List.forall_mem_append.2 ⟨first.listed, h.listed⟩
  fresh := by
    refine List.forall_mem_append.2 ⟨fun source mem => ?_, fun source mem => ?_⟩
    · obtain nothing | ⟨unknown, found⟩ := first.fresh source mem
      · exact absurd nothing id
      · exact .inr ⟨unknown, h.known found⟩
    · rcases h.fresh source mem with owned | ⟨unknown, found⟩
      · exact .inl (more source owned)
      · exact .inr ⟨fun mem => unknown (first.known mem), found⟩

/-- Folders that can be visited are pruned at some depth: the steps through them scan each source once, and
without the files that are gone the same folders are visited. -/
def Prunes (v : Volume) (gone : List Place) (recursive : Bool) (depth : Nat) : Prop :=
  ∀ visited path place, v.identity path = .ok place → place ∉ visited →
    failures (ofFolder v recursive depth visited path).1 = [] →
    (ofFolder (v.without gone) recursive depth visited path).2 = (ofFolder v recursive depth visited path).2 ∧
      ∃ sources, Pruned v gone (fun _ => False) visited (ofFolder v recursive depth visited path).2
        (ofFolder v recursive depth visited path).1 (ofFolder (v.without gone) recursive depth visited path).1 sources

section Walking

variable (proper : v.Proper) (blocks : ∀ place ∈ gone, Volume.Blocks v place)
variable (named : ∀ parent name, parent ++ [name] ∈ gone → name ≠ "..")

include proper blocks named

theorem pruned_of_ofEntries {depth : Nat} {names : List String} (prunes : Prunes v gone recursive depth)
    (listed : v.resolve text = .ok folder) (isFolder : v.node? folder = some .folder)
    (present : names ⊆ v.namesIn folder) (nodup : names.Nodup) (known : folder ∈ visited)
    (fine : failures (ofEntries v recursive (ofFolder v recursive depth) visited
      (names.map (Path.entry text))).1 = []) :
    (ofEntries (v.without gone) recursive (ofFolder (v.without gone) recursive depth) visited
        ((names.filter (folder ++ [·] ∉ gone)).map (Path.entry text))).2 =
      (ofEntries v recursive (ofFolder v recursive depth) visited (names.map (Path.entry text))).2 ∧
    ∃ sources, Pruned v gone (fun source => source.2.1 = folder ∧ source.2.2 ∈ names) visited
      (ofEntries v recursive (ofFolder v recursive depth) visited (names.map (Path.entry text))).2
      (ofEntries v recursive (ofFolder v recursive depth) visited (names.map (Path.entry text))).1
      (ofEntries (v.without gone) recursive (ofFolder (v.without gone) recursive depth) visited
        ((names.filter (folder ++ [·] ∉ gone)).map (Path.entry text))).1 sources := by
  induction names generalizing visited with
  | nil => exact ⟨rfl, [], .nil v gone _ visited⟩
  | cons name names ih =>
    have here := present List.mem_cons_self
    have good := proper.isName here
    have others : names ⊆ v.namesIn folder := fun _ mem => present (List.mem_cons_of_mem _ mem)
    obtain ⟨fresh, nodup'⟩ := List.nodup_cons.1 nodup
    have more : ∀ source : Source, source.2.1 = folder ∧ source.2.2 ∈ names →
        source.2.1 = folder ∧ source.2.2 ∈ name :: names := fun source owned =>
      ⟨owned.1, List.mem_cons_of_mem _ owned.2⟩
    obtain ⟨step, after, makes⟩ := exists_makes v recursive (ofFolder v recursive depth) visited (Path.entry text name)
    rw [List.map_cons, makes.ofEntries_cons] at fine ⊢
    rw [failures_cons, List.append_eq_nil_iff] at fine
    cases makes with
    | file answer =>
      obtain ⟨same, sources, pruned⟩ := ih others nodup' known fine.2
      have listed' : Source.Listed v (text, folder, name) := ⟨listed, isFolder, here⟩
      by_cases there : folder ++ [name] ∈ gone
      · rw [List.filter_cons_of_neg (by simp [there])]
        exact ⟨same, pruned.cons_file [] listed' known fresh (if_pos there).symm⟩
      · rw [List.filter_cons_of_pos (by simp [there]), List.map_cons,
          (Makes.file (Volume.not_isFolder_without blocks answer)).ofEntries_cons]
        exact ⟨same, pruned.cons_file [_] listed' known fresh (if_neg there).symm⟩
    | folder answer off =>
      obtain ⟨same, sources, pruned⟩ := ih others nodup' known fine.2
      obtain ⟨there, answer', -⟩ := Volume.subfolder_without blocks named listed good answer
      rw [List.filter_cons_of_pos (by simp [there]), List.map_cons, (Makes.folder answer' off).ofEntries_cons]
      exact ⟨same, sources, Pruned.cons_idle [_] pruned (.inr rfl) rfl rfl more⟩
    | visited answer on identity before =>
      obtain ⟨same, sources, pruned⟩ := ih others nodup' known fine.2
      obtain ⟨there, answer', identity'⟩ := Volume.subfolder_without blocks named listed good answer
      rw [List.filter_cons_of_pos (by simp [there]), List.map_cons,
        (Makes.visited answer' on (identity' _ identity) before).ofEntries_cons]
      exact ⟨same, sources, Pruned.cons_idle [_] pruned (.inr rfl) rfl rfl more⟩
    | enter answer on identity unknown =>
      rw [failures_enter] at fine
      obtain ⟨same₁, sources₁, first⟩ := prunes visited _ _ identity unknown fine.1
      obtain ⟨same, sources, pruned⟩ := ih others nodup' (first.known known) fine.2
      obtain ⟨there, answer', identity'⟩ := Volume.subfolder_without blocks named listed good answer
      rw [List.filter_cons_of_pos (by simp [there]), List.map_cons,
        (Makes.enter answer' on (identity' _ identity) unknown).ofEntries_cons, same₁]
      refine ⟨same, sources₁ ++ sources, first.enter _ pruned (fun source owned => ?_) more⟩
      rw [owned.1]
      exact known
    | unanswered | unidentified => cases fine.1

/-- Walks of any depth are pruned. -/
theorem prunes (recursive : Bool) (depth : Nat) : Prunes v gone recursive depth := by
  induction depth with
  | zero => exact fun visited path place _ _ fine => absurd fine (List.cons_ne_nil _ _)
  | succ depth ih =>
    intro visited path place identity unknown fine
    have resolved := Volume.withPath_eq_ok.1 identity
    rw [ofFolder, identity] at fine
    dsimp only at fine
    cases answer : v.entries path with
    | error e =>
      rw [answer, failures] at fine
      cases fine
    | ok entries =>
      obtain ⟨folder, resolved', isFolder, rfl⟩ := Volume.entries_eq_ok.1 answer
      obtain rfl := Except.ok.inj (resolved.symm.trans resolved')
      rw [answer] at fine
      have resolved'' := Volume.resolve_folder_without blocks resolved isFolder
      have identity' : (v.without gone).identity path = .ok place := Volume.withPath_eq_ok.2 resolved''
      have answer' : (v.without gone).entries path =
          .ok (((v.namesIn place).filter (place ++ [·] ∉ gone)).map (Path.entry path)) := by
        rw [Volume.entries_eq_ok]
        exact ⟨place, resolved'', Volume.folder_without blocks isFolder, by rw [Volume.namesIn_without]⟩
      obtain ⟨same, sources, pruned⟩ := pruned_of_ofEntries proper blocks named ih resolved isFolder
        (List.Subset.refl _) (proper.nodup_namesIn place) List.mem_cons_self fine
      rw [ofFolder, ofFolder, identity, identity']
      dsimp only
      rw [answer, answer']
      refine ⟨same, sources, { pruned with known := ?_, fresh := fun source mem => .inr ?_ }⟩
      · exact fun _ mem => pruned.known (List.mem_cons_of_mem _ mem)
      · rcases pruned.fresh source mem with owned | ⟨unknown', found⟩
        · rw [owned.1]
          exact ⟨unknown, pruned.known List.mem_cons_self⟩
        · exact ⟨fun mem => unknown' (List.mem_cons_of_mem _ mem), found⟩

/-- A walk through a folder whose steps do not fail scans certain sources, each once, and without the files that
are gone it scans those of them that are left. -/
theorem pruned_of_itinerary {limit : Nat} {path : String} {top : Place} (identity : v.identity path = .ok top)
    (fine : failures (itinerary limit v recursive path) = []) :
    ∃ sources : List Source, scanned (itinerary limit v recursive path) = sources.map Source.path ∧
      scanned (itinerary limit (v.without gone) recursive path) = (sources.filter (·.place ∉ gone)).map Source.path ∧
      failures (itinerary limit (v.without gone) recursive path) = [] ∧ (sources.map Prod.snd).Nodup ∧
      ∀ source ∈ sources, source.Listed v := by
  obtain ⟨-, sources, pruned⟩ := prunes proper blocks named recursive limit [] path top identity List.not_mem_nil fine
  exact ⟨sources, pruned.scanned, pruned.remaining, pruned.failures, pruned.nodup, pruned.listed⟩

end Walking

end Step

end MatlabTidy
