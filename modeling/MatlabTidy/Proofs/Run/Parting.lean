import MatlabTidy.Proofs.Run.Accounts
import MatlabTidy.Proofs.Run.Pruning
import MatlabTidy.Proofs.Volume.Nulls

/-!
# Walks side by side

Two walks are followed side by side, one through a volume and one without the files that the first one could not
read. They stay alike as long as nothing leads through a file that is gone: what is gone blocks the way, and the
files that are still to be visited are found without it (`Walk.Parted`). This is kept by each visit of one of
them (`Walk.Visit.parted`). A file that is said to be unreadable may have been rewritten before its report failed,
but what stands in its place is gone as well (`Walk.Visit.parted_of_lost`). So it is kept by a whole trip
(`Walk.Trip.parted`), and both walks come to the same (`Walk.run_walkWith_without`).
-/

namespace MatlabTidy

namespace Volume

/-- The place of the entry that a path text names, however long the text is. -/
def entryOf? (v : Volume) (path : String) : Option Place :=
  match (namesOf path).getLast?, v.follow true mostLinks (v.startOf path) (namesOf path).dropLast with
  | some last, .ok parent => some (parent ++ [last])
  | _, _ => none

variable {v : Volume} {path : String} {place : Place}

theorem entryOf?_eq_some (h : v.entryOf? path = some place) :
    ∃ parent last, (namesOf path).getLast? = some last ∧ place = parent ++ [last] := by
  unfold entryOf? at h
  split at h
  · rename_i last parent named _
    exact ⟨parent, last, named, (Option.some.inj h).symm⟩
  · cases h

theorem Names.entryOf? {parent : Place} {last : String} (h : Names v path parent last) :
    v.entryOf? path = some (parent ++ [last]) := by
  obtain ⟨left, walk⟩ := h.leads
  have named : (namesOf path).getLast? = some last := by
    rw [h.names]
    exact List.getLast?_concat
  rw [Volume.entryOf?, named, walk.follow]

end Volume

namespace Step

open Volume (IsName)

variable {v : Volume} {source : Source}

/-- The path text of a source names its place. -/
theorem Source.Listed.entryOf? (h : source.Listed v) (good : IsName source.2.2) :
    v.entryOf? source.path = some source.place := by
  obtain ⟨checked, left, walk⟩ := Volume.leads_of_resolve h.resolve
  obtain ⟨-, ne, -⟩ := Volume.checkText_eq_ok.1 checked
  have start := Volume.startOf_of_isAbsolute (Volume.isAbsolute_entry source.2.2 ne) v
  rw [Source.path, Volume.entryOf?, Volume.namesOf_entry source.1 good, List.getLast?_concat, List.dropLast_concat,
    start, walk.follow]
  rfl

/-- A source whose path text has been read somewhere is named by the path text. -/
theorem Source.Listed.names (h : source.Listed v) (good : IsName source.2.2) (double : source.2.2 ≠ "..")
    {v' : Volume} {bytes : List UInt8} (read : v'.read source.path = .ok bytes) :
    v.Names source.path source.2.1 source.2.2 := by
  obtain ⟨checked, left, walk⟩ := Volume.leads_of_resolve h.resolve
  obtain ⟨-, ne, -⟩ := Volume.checkText_eq_ok.1 checked
  have start := Volume.startOf_of_isAbsolute (Volume.isAbsolute_entry source.2.2 ne) v
  obtain ⟨between, -, whole⟩ := Volume.toList_entry source.1 source.2.2
  obtain ⟨_, place, resolved, -⟩ := Volume.exists_holds read
  obtain ⟨text, left', walk'⟩ := Volume.resolve_eq_ok.1 resolved
  have small : ¬ Volume.mostNameBytes < source.2.2.utf8ByteSize := by
    rw [Source.path, Volume.steps_entry source.1 good] at walk'
    obtain ⟨middle, between', -, last⟩ := walk'.cut
    cases last with
    | dot _ dot _ => exact absurd dot good.ne_dot
    | up _ _ dots _ => exact absurd dots double
    | link _ _ _ small _ _ => exact small
    | node _ _ _ small _ _ _ => exact small
  refine ⟨text, ?_, Volume.endsInSlash_of_suffix whole good.plain good.ne_empty, good.ne_dot, double, small, ⟨left, ?_⟩,
    h.isFolder⟩
  · rw [Source.path, Volume.namesOf_entry source.1 good, List.dropLast_concat]
  · rw [Source.path, Volume.namesOf_entry source.1 good, List.dropLast_concat, start]
    exact walk

end Step

namespace Walk

open Volume (Blocks Finds Names)

variable {plan : Plan} {path : String} {outcome : Outcome} {w w' w₂ : World} {visits : List (String × Outcome)}

/-- The places of the files that could not be read. -/
def unreadablePlaces (v : Volume) (visits : List (String × Outcome)) : List Place :=
  (visits.filter (·.2.isUnreadable)).filterMap fun visit => v.entryOf? visit.1

/-- Files that are gone or are to be removed block the way, and what lost paths name is among them. The paths that
are still to be visited name entries that are kept and lead to files without those that are gone. -/
structure Parted (gone : List Place) (lost paths : List String) (v : Volume) : Prop where
  blocks : ∀ place ∈ gone, Blocks v place
  loses : ∀ path ∈ lost, ∀ parent last, Names v path parent last → parent ++ [last] ∈ gone
  finds : ∀ path ∈ paths, Finds (v.without gone) path
  names : ∀ path ∈ paths, ∃ parent last, Names v path parent last ∧ parent ++ [last] ∉ gone

variable {gone : List Place} {lost paths : List String} {v : Volume}

/-- A file that is put in place of another one. -/
theorem Parted.put (h : Parted gone lost paths v) {place : Place} (blocks : Blocks v place) (bytes : List UInt8)
    (mode : Nat) : Parted gone lost paths (v.put place (.file bytes mode)) where
  blocks := fun other mem => (h.blocks other mem).put blocks bytes mode
  loses := by
    intro path mem parent last names
    obtain ⟨back, there⟩ := blocks.undo bytes mode
    exact h.loses path mem parent last (names.frame back there)
  finds := by
    intro path mem
    by_cases kept : place ∈ gone
    · rw [Volume.put_without_of_mem kept]
      exact h.finds path mem
    · rw [Volume.put_without kept]
      exact (h.finds path mem).put (blocks.without gone) bytes mode
  names := by
    intro path mem
    obtain ⟨parent, last, names, apart⟩ := h.names path mem
    exact ⟨parent, last, names.frame (Volume.differs_put v place _) blocks, apart⟩

/-- For the scan of a path, a volume is as good without the files that are gone. -/
theorem Parted.alike (h : Parted gone lost paths v) (mem : path ∈ paths) {parent : Place} {last : String}
    (names : Names v path parent last) : Scan.Alike v (v.without gone) path parent last where
  holds := fun holds => holds.of_finds (h.finds path mem) (Volume.here_without v gone) Volume.node?_of_without
  names := names
  names₂ := names.without h.blocks
  temporary := fun made => Volume.exists_makeTemporary_without h.blocks made

/-- The visit of a file comes to the same without the files that are gone, and the volumes stay parted. -/
theorem Visit.parted (dependable : Dependable plan.scan) (h : Visit plan path w outcome w')
    (readable : outcome.isUnreadable = false) (parted : Parted gone lost paths w.volume) (mem : path ∈ paths)
    (same : w₂.volume = w.volume.without gone) :
    ∃ w₃, Visit plan path w₂ outcome w₃ ∧ w₃.volume = w'.volume.without gone ∧
      Parted gone lost paths w'.volume := by
  obtain ⟨parent, last, names, kept⟩ := parted.names path mem
  have blocks := (parted.finds path mem).of_without.blocks names
  have shown : plan.shown w₂ path = plan.shown w path := by
    rw [Plan.shown, Plan.shown, Volume.hereText, Volume.hereText, same, Volume.here_without]
  have alike : Scan.Alike (w.saying [.notice .info s!"Evaluating: {plan.shown w path}"]).volume
      (w₂.saying [.notice .info s!"Evaluating: {plan.shown w path}"]).volume path parent last := by
    change Scan.Alike w.volume w₂.volume path parent last
    rw [same]
    exact parted.alike mem names
  cases h with
  | @scanned report w' run =>
    obtain ⟨w₃, run₂, changes⟩ := dependable.again run alike
    have visit : Visit plan path w₂ (.scanned report) w₃ := by
      refine .scanned ?_
      rw [Plan.attempt, shown]
      exact run₂
    refine ⟨w₃, visit, ?_⟩
    rcases changes with ⟨unchanged, unchanged₂⟩ | ⟨out, mode, put, put₂⟩
    · rw [unchanged₂, unchanged]
      exact ⟨same, parted⟩
    · rw [put₂, put]
      change w₂.volume.put (parent ++ [last]) (.file out mode) =
        (w.volume.put (parent ++ [last]) (.file out mode)).without gone ∧ _
      rw [same, Volume.put_without kept]
      exact ⟨rfl, parted.put blocks out mode⟩
  | @unreplaced failure report w' run carries =>
    have restored := dependable.restores run carries
    obtain ⟨w₃, run₂, restored₂⟩ := dependable.heldAgain run carries alike
    have attempt : plan.attempt path w₂ = .error failure w₃ := by
      rw [Plan.attempt, shown]
      exact run₂
    refine ⟨_, .unreplaced attempt carries, ?_⟩
    change w₃.volume = w'.volume.without gone ∧ Parted gone lost paths w'.volume
    rw [restored₂, restored]
    exact ⟨same, parted⟩
  | unreadable => cases readable

/-- The visit of a lost path changes nothing but what is gone. -/
theorem Visit.parted_of_lost (dependable : Dependable plan.scan) (h : Visit plan path w outcome w')
    (parted : Parted gone lost paths w.volume) (mem : path ∈ lost) :
    Parted gone lost paths w'.volume ∧ w'.volume.without gone = w.volume.without gone := by
  rcases h.volume dependable with same | ⟨parent, last, out, mode, names, put⟩
  · rw [same]
    exact ⟨parted, rfl⟩
  · have there := parted.loses path mem parent last names
    rw [put]
    exact ⟨parted.put (parted.blocks _ there) out mode, Volume.put_without_of_mem there _ _⟩

namespace Trip

variable {visits₂ : List (String × Outcome)} {w₁ w₃ : World}

/-- A trip passes the end of its first part. -/
theorem cut {first second : List (String × Outcome)} (trip : Trip plan w (first ++ second) w') :
    ∃ w₁, Trip plan w first w₁ ∧ Trip plan w₁ second w' := by
  generalize whole : first ++ second = visits at trip
  induction trip generalizing first with
  | done w =>
    obtain ⟨rfl, rfl⟩ := List.append_eq_nil_iff.1 whole
    exact ⟨w, .done w, .done w⟩
  | say quiet _ ih =>
    obtain ⟨w₁, before, behind⟩ := ih whole
    exact ⟨w₁, .say quiet before, behind⟩
  | @visit w w₁ w' path outcome visits here rest ih =>
    cases first with
    | nil =>
      rw [List.nil_append] at whole
      exact ⟨w, .done w, whole ▸ .visit here rest⟩
    | cons visit first =>
      obtain ⟨rfl, rfl⟩ := List.cons.inj whole
      obtain ⟨w₂, before, behind⟩ := ih rfl
      exact ⟨w₂, .visit here before, behind⟩

/-- A trip to lost paths changes nothing but what is gone. -/
theorem parted_of_lost (dependable : Dependable plan.scan) (trip : Trip plan w visits w')
    (parted : Parted gone lost paths w.volume) (all : ∀ visit ∈ visits, visit.1 ∈ lost) :
    Parted gone lost paths w'.volume ∧ w'.volume.without gone = w.volume.without gone := by
  induction trip with
  | done w => exact ⟨parted, rfl⟩
  | say _ _ ih => exact ih parted all
  | visit here _ ih =>
    obtain ⟨mem, rest⟩ := List.forall_mem_cons.1 all
    obtain ⟨parted', same⟩ := here.parted_of_lost dependable parted mem
    obtain ⟨parted'', same'⟩ := ih parted' rest
    exact ⟨parted'', same'.trans same⟩

/-- The next file that can be read, and the trip to it. -/
theorem next_readable (dependable : Dependable plan.scan) {visit : String × Outcome}
    {rest : List (String × Outcome)} (trip : Trip plan w visits w') (parted : Parted gone lost paths w.volume)
    (lose : ∀ visit ∈ visits, visit.2.isUnreadable = true → visit.1 ∈ lost)
    (next : visits.filter (!·.2.isUnreadable) = visit :: rest) :
    ∃ skipped behind w₁ w₂, visits = skipped ++ visit :: behind ∧ skipped.filter (!·.2.isUnreadable) = [] ∧
      behind.filter (!·.2.isUnreadable) = rest ∧ visit.2.isUnreadable = false ∧
      Parted gone lost paths w₁.volume ∧ w₁.volume.without gone = w.volume.without gone ∧
      Visit plan visit.1 w₁ visit.2 w₂ ∧ Trip plan w₂ behind w' := by
  obtain ⟨skipped, behind, rfl, none, readable, rfl⟩ := List.filter_eq_cons_iff.1 next
  have all : ∀ visit ∈ skipped, visit.1 ∈ lost := by
    intro visit mem
    exact lose visit (List.mem_append_left _ mem) (by simpa using none visit mem)
  obtain ⟨w₁, before, trip⟩ := trip.cut
  obtain ⟨w₂, w₃, speaking, here, after⟩ := trip.first
  have still := before.append speaking
  rw [List.append_nil] at still
  obtain ⟨parted', same⟩ := still.parted_of_lost dependable parted all
  exact ⟨skipped, behind, w₂, w₃, rfl, List.filter_eq_nil_iff.2 none, rfl, by simpa using readable, parted', same, here,
    after⟩

/-- Two walks, one with and one without the files that are gone: when the second one has visited some of the
files that can be read, the first one has got as far, and the volumes are parted. -/
theorem parted (dependable : Dependable plan.scan) (trip₂ : Trip plan w₂ visits₂ w₃)
    {rest : List String} (trip : Trip plan w visits w') (parted : Parted gone lost paths w.volume)
    (same : w₂.volume = w.volume.without gone)
    (lose : ∀ visit ∈ visits, visit.2.isUnreadable = true → visit.1 ∈ lost)
    (kept : ∀ visit ∈ visits, visit.2.isUnreadable = false → visit.1 ∈ paths)
    (way : (visits.filter (!·.2.isUnreadable)).map Prod.fst = visits₂.map Prod.fst ++ rest) :
    ∃ first second w₁, visits = first ++ second ∧ first.filter (!·.2.isUnreadable) = visits₂ ∧
      Trip plan w₁ second w' ∧ Parted gone lost paths w₁.volume ∧ w₃.volume = w₁.volume.without gone := by
  induction trip₂ generalizing visits w with
  | done w₂ => exact ⟨[], visits, w, rfl, rfl, trip, parted, same⟩
  | say _ _ ih => exact ih trip parted same lose kept way
  | @visit w₂ w₂' w₃ path outcome₂ visits₂ here₂ _ ih =>
    rw [List.map_cons, List.cons_append] at way
    obtain ⟨visit, others, next, rfl, behindWay⟩ := List.map_eq_cons_iff.1 way
    obtain ⟨skipped, behind, w₁, w₁', rfl, none, rfl, readable, apart, still, here, after⟩ :=
      trip.next_readable dependable parted lose next
    have mem : visit.1 ∈ paths := kept visit (List.mem_append_right _ List.mem_cons_self) readable
    obtain ⟨w₄, visit₂, same', parted'⟩ := here.parted dependable readable apart mem (same.trans still.symm)
    obtain ⟨rfl, rfl⟩ := here₂.unique visit₂
    obtain ⟨first, second, w₅, rfl, visited, onward, parted'', same''⟩ := ih after parted' same'
      (fun other mem => lose other (List.mem_append_right _ (List.mem_cons_of_mem _ mem)))
      (fun other mem => kept other (List.mem_append_right _ (List.mem_cons_of_mem _ mem))) behindWay
    refine ⟨skipped ++ visit :: first, second, w₅, by simp, ?_, onward, parted'', same''⟩
    rw [List.filter_append, none, List.nil_append, List.filter_cons_of_pos (by simp [readable]), visited]

/-- Without the files that are gone, the scans of the others come to what is assigned to them. -/
theorem follows_without {fate : String → Outcome} (dependable : Dependable plan.scan) (trip : Trip plan w visits w')
    (parted : Parted gone lost paths w.volume) (same : w₂.volume = w.volume.without gone)
    (lose : ∀ visit ∈ visits, visit.2.isUnreadable = true → visit.1 ∈ lost)
    (kept : ∀ visit ∈ visits, visit.2.isUnreadable = false → visit.1 ∈ paths)
    (fates : ∀ visit ∈ visits, visit.2 = fate visit.1) :
    plan.Follows fate w₂ ((visits.filter (!·.2.isUnreadable)).map Prod.fst) := by
  intro visits₂ w₁ next others trip₂ way
  obtain ⟨first, second, w₃, rfl, visited, behind, parted', same'⟩ :=
    Trip.parted dependable trip₂ trip parted same lose kept way
  rw [List.filter_append, List.map_append, visited] at way
  obtain ⟨visit, more, next_eq, rfl, -⟩ := List.map_eq_cons_iff.1 (List.append_cancel_left way)
  obtain ⟨skipped, after, w₄, w₅, rfl, -, -, readable, apart, still, here, -⟩ := behind.next_readable dependable parted'
    (fun other mem => lose other (List.mem_append_right _ mem)) next_eq
  have among : visit ∈ first ++ (skipped ++ visit :: after) :=
    List.mem_append_right _ (List.mem_append_right _ List.mem_cons_self)
  obtain ⟨w₆, visit₂, -, -⟩ := here.parted dependable readable apart (kept visit among readable)
    (same'.trans still.symm)
  rw [fates visit among] at visit₂
  exact ⟨w₆, visit₂⟩

end Trip

/-- The path of a source does not end in a double dot. -/
theorem ne_double_of_isSource {name : String} (source : isSource path = true)
    (named : (Volume.namesOf path).getLast? = some name) : name ≠ ".." := by
  rintro rfl
  rw [isSource, Volume.suffix_of_getLast? named (by decide)] at source
  revert source
  decide

/-- A file that could not be read stands at the last name of its path, which is no double dot. -/
theorem ne_double_of_unreadable (sources : ∀ visit ∈ visits, isSource visit.1 = true) {parent : Place} {name : String}
    (mem : parent ++ [name] ∈ unreadablePlaces v visits) : name ≠ ".." := by
  obtain ⟨visit, among, entry⟩ := List.mem_filterMap.1 mem
  obtain ⟨parent', last, named, same⟩ := Volume.entryOf?_eq_some entry
  obtain ⟨-, lasts⟩ := List.append_inj' same rfl
  obtain rfl := (List.cons.inj lasts).1
  exact ne_double_of_isSource (sources visit (List.mem_of_mem_filter among)) named

/-- The files that can be read are the sources that are left. -/
theorem readable_eq_kept {sources : List Step.Source} (proper : v.Proper)
    (way : visits.map Prod.fst = sources.map Step.Source.path) (nodup : (sources.map Prod.snd).Nodup)
    (listed : ∀ source ∈ sources, source.Listed v) :
    (visits.filter (!·.2.isUnreadable)).map Prod.fst =
      (sources.filter (·.place ∉ unreadablePlaces v visits)).map Step.Source.path := by
  have length : visits.length = sources.length := by simpa using congrArg List.length way
  obtain ⟨pairs, rfl, rfl⟩ : ∃ pairs : List ((String × Outcome) × Step.Source),
      pairs.map Prod.fst = visits ∧ pairs.map Prod.snd = sources :=
    ⟨visits.zip sources, List.map_fst_zip length.le, List.map_snd_zip length.ge⟩
  rw [List.map_map, List.map_map, List.map_inj_left] at way
  rw [List.map_map] at nodup
  have names : ∀ pair ∈ pairs, v.entryOf? pair.1.1 = some pair.2.place := by
    intro pair mem
    have here := listed pair.2 (List.mem_map_of_mem mem)
    have text : pair.1.1 = pair.2.path := way pair mem
    rw [text]
    exact here.entryOf? (proper.isName here.mem)
  have gone_iff : ∀ pair ∈ pairs,
      (pair.1.2.isUnreadable = true ↔ pair.2.place ∈ unreadablePlaces v (pairs.map Prod.fst)) := by
    intro pair mem
    rw [unreadablePlaces, List.mem_filterMap]
    constructor
    · intro unreadable
      exact ⟨pair.1, List.mem_filter.2 ⟨List.mem_map_of_mem mem, unreadable⟩, names pair mem⟩
    · rintro ⟨visit, among, entry⟩
      obtain ⟨visited, unreadable⟩ := List.mem_filter.1 among
      obtain ⟨other, mem', rfl⟩ := List.mem_map.1 visited
      -- Two sources at one place are one, since the walk scans every source once.
      obtain ⟨folders, lasts⟩ := List.append_inj' (Option.some.inj ((names other mem').symm.trans entry)) rfl
      have same : other.2.2 = pair.2.2 := Prod.ext folders (List.cons.inj lasts).1
      rwa [← List.inj_on_of_nodup_map nodup mem' mem same]
  rw [List.filter_map, List.filter_map, List.map_map, List.map_map]
  have filters : pairs.filter ((!·.2.isUnreadable) ∘ Prod.fst) =
      pairs.filter ((·.place ∉ unreadablePlaces v (pairs.map Prod.fst)) ∘ Prod.snd) := by
    refine List.filter_congr fun pair mem => ?_
    have iff := gone_iff pair mem
    rw [Bool.eq_iff_iff]
    simp [← iff]
  rw [filters]
  exact List.map_congr_left fun pair mem => way pair (List.mem_of_mem_filter mem)

/-- What the path of a file that could not be read names is the place of that file. -/
theorem mem_unreadablePlaces (unreadable : path ∈ (visits.filter (·.2.isUnreadable)).map Prod.fst) {parent : Place}
    {last : String} (names : Names v path parent last) : parent ++ [last] ∈ unreadablePlaces v visits := by
  obtain ⟨visit, mem, rfl⟩ := List.mem_map.1 unreadable
  exact List.mem_filterMap.2 ⟨visit, mem, names.entryOf?⟩

/-- The volume before a walk, in view of the files that could not be read. -/
theorem parted_of_listed {sources : List Step.Source} (proper : v.Proper)
    (suffixed : ∀ visit ∈ visits, isSource visit.1 = true) (listed : ∀ source ∈ sources, source.Listed v)
    (left : (visits.filter (!·.2.isUnreadable)).map Prod.fst =
      (sources.filter (·.place ∉ unreadablePlaces v visits)).map Step.Source.path)
    (blocks : ∀ place ∈ unreadablePlaces v visits, Blocks v place)
    (reads : ∀ visit ∈ visits, visit.2.isUnreadable = false →
      ∃ bytes, (v.without (unreadablePlaces v visits)).read visit.1 = .ok bytes) :
    Parted (unreadablePlaces v visits) ((visits.filter (·.2.isUnreadable)).map Prod.fst)
      ((visits.filter (!·.2.isUnreadable)).map Prod.fst) v := by
  have readable_of_mem : ∀ path ∈ (visits.filter (!·.2.isUnreadable)).map Prod.fst,
      ∃ visit ∈ visits, visit.1 = path ∧ ∃ bytes, (v.without (unreadablePlaces v visits)).read path = .ok bytes := by
    intro path mem
    obtain ⟨visit, among, rfl⟩ := List.mem_map.1 mem
    obtain ⟨mem, readable⟩ := List.mem_filter.1 among
    exact ⟨visit, mem, rfl, reads visit mem (by simpa using readable)⟩
  refine ⟨blocks, fun path mem _ _ => mem_unreadablePlaces mem, fun path mem => ?_, fun path mem => ?_⟩
  · obtain ⟨-, -, -, bytes, read⟩ := readable_of_mem path mem
    exact Volume.finds_of_read read
  · obtain ⟨visit, among, text, bytes, read⟩ := readable_of_mem path mem
    rw [left] at mem
    obtain ⟨source, there, rfl⟩ := List.mem_map.1 mem
    obtain ⟨source_mem, apart⟩ := List.mem_filter.1 there
    have here := listed source source_mem
    have good := proper.isName here.mem
    have named : (Volume.namesOf source.path).getLast? = some source.2.2 := by
      rw [Step.Source.path, Volume.namesOf_entry source.1 good, List.getLast?_concat]
    have double := ne_double_of_isSource (text ▸ suffixed visit among) named
    exact ⟨source.2.1, source.2.2, here.names good double read, of_decide_eq_true apart⟩

/-- What visits leave is left by the files that can be read. -/
theorem reportsOf_readable (visits : List (String × Outcome)) :
    reportsOf (visits.filter (!·.2.isUnreadable)) = reportsOf visits := by
  rw [reportsOf, List.filterMap_filter, reportsOf]
  refine List.filterMap_congr fun visit _ => ?_
  obtain ⟨path, outcome⟩ := visit
  cases outcome <;> rfl

section Whole

variable {limit : Nat} {scan : (path name : String) → Job FileReport} {recursive : Bool} {root : Option String}
variable {fate : String → Outcome} {top : Place}

/-- A walk comes to the same without the files that it could not read. -/
theorem run_walkWith_without (dependable : Dependable scan) (proper : w.volume.Proper)
    (identity : w.volume.identity path = .ok top) (isFolder : w.volume.node? top = some .folder)
    (fine : Step.failures (Step.itinerary limit w.volume recursive path) = [])
    (visits_eq : visits = assigned fate (Step.scanned (Step.itinerary limit w.volume recursive path)))
    (trip : Trip (planWith scan path root) w visits w')
    (same : w₂.volume = w.volume.without (unreadablePlaces w.volume visits))
    (blocks : ∀ place ∈ unreadablePlaces w.volume visits, Blocks w.volume place)
    (reads : ∀ visit ∈ visits, visit.2.isUnreadable = false → ∃ bytes, w₂.volume.read visit.1 = .ok bytes) :
    ∃ a₂ w₃, (walkWith limit scan recursive path root).run w₂ = .ok a₂ w₃ ∧ a₂.files = reportsOf visits ∧
      w₃.volume = w'.volume.without (unreadablePlaces w.volume visits) := by
  have way : visits.map Prod.fst = Step.scanned (Step.itinerary limit w.volume recursive path) := by
    rw [visits_eq, map_fst_assigned]
  have fates : ∀ visit ∈ visits, visit.2 = fate visit.1 := fun visit mem => (mem_assigned.1 (visits_eq ▸ mem)).2
  have suffixed : ∀ visit ∈ visits, isSource visit.1 = true := fun visit mem =>
    (Step.clean_of_mem_scanned proper (way ▸ List.mem_map_of_mem mem)).1
  have named : ∀ parent name, parent ++ [name] ∈ unreadablePlaces w.volume visits → name ≠ ".." :=
    fun parent name mem => ne_double_of_unreadable suffixed mem
  obtain ⟨sources, scans, remaining, fine₂, nodup, listed⟩ := Step.pruned_of_itinerary proper blocks named identity fine
  have left := readable_eq_kept proper (way.trans scans) nodup listed
  have kept : ∀ visit ∈ visits, visit.2.isUnreadable = false →
      visit.1 ∈ (visits.filter (!·.2.isUnreadable)).map Prod.fst := fun visit mem readable =>
    List.mem_map_of_mem (List.mem_filter.2 ⟨mem, by simp [readable]⟩)
  have lose : ∀ visit ∈ visits, visit.2.isUnreadable = true →
      visit.1 ∈ (visits.filter (·.2.isUnreadable)).map Prod.fst := fun visit mem unreadable =>
    List.mem_map_of_mem (List.mem_filter.2 ⟨mem, unreadable⟩)
  have parted := parted_of_listed proper suffixed listed left blocks (same ▸ reads)
  have resolved := Volume.resolve_folder_without blocks (Volume.withPath_eq_ok.1 identity) isFolder
  have folder₂ : w₂.volume.isFolder path = .ok true := by
    rw [same]
    exact Volume.isFolder_of_resolve resolved (Volume.folder_without blocks isFolder)
  have steps : stepsFrom limit w₂.volume recursive path true = Step.itinerary limit w₂.volume recursive path := rfl
  rw [← same] at remaining fine₂
  rw [← remaining] at left
  have follows := trip.follows_without dependable parted same lose kept fates
  rw [left] at follows
  obtain ⟨a₂, w₃, run, done⟩ := exists_done_of_follows (.empty ((planWith scan path root).shown w₂ path)) fine₂ follows
  refine ⟨a₂, w₃, by rw [run_walkWith folder₂, steps, run], ?_⟩
  obtain ⟨first, second, w₁, rfl, visited, behind, apart, same₃⟩ := Trip.parted dependable done.trip trip parted same
    lose kept (left.trans (done.paths.symm.trans (List.append_nil _).symm))
  -- The first walk has nothing left to visit but files that cannot be read.
  have none : second.filter (!·.2.isUnreadable) = [] := by
    have length := congrArg List.length (left.trans done.paths.symm)
    rw [List.filter_append, List.map_append, List.length_append, ← visited, List.length_map, List.length_map] at length
    exact List.length_eq_zero_iff.1 (Nat.add_eq_left.1 length)
  have all : ∀ visit ∈ second, visit.1 ∈ ((first ++ second).filter (·.2.isUnreadable)).map Prod.fst := by
    intro visit mem
    exact lose visit (List.mem_append_right _ mem) (by simpa using List.filter_eq_nil_iff.1 none visit mem)
  constructor
  · rw [done.files, Aggregate.files_empty, List.nil_append, ← reportsOf_readable (first ++ second),
      List.filter_append, none, List.append_nil, visited]
  · rw [same₃, (behind.parted_of_lost dependable apart all).2]

end Whole

end Walk

end MatlabTidy
