import MatlabTidy.Proofs.Run.Parting

/-!
# Files that fail among others

A walk gives an account of every file, whatever is assigned to the files as the outcome of their scans, and the
files that it could not read do not matter to the others: without them, it comes to the same
(`Walk.walk_isolates`). This takes a volume in which nothing leads through these files: a link to one of them can
be read as long as the file is there (`Walk.link_to_unreadable`).
-/

namespace MatlabTidy

open Volume (Blocks Holds Leads)

namespace Walk

/-- A scanner that does nothing but end as it is assigned to the file. -/
def foretold (fate : String → Outcome) (path _name : String) : Job FileReport :=
  match fate path with
  | .scanned report => return report
  | .unreplaced report => throw (.replaceFailed path report "")
  | .unreadable failure => throw failure

section Foretold

variable {fate : String → Outcome} {path : String} {report : FileReport} {failure : Failure} {w w' : World}

theorem run_foretold_eq_ok (name : String) :
    (foretold fate path name).run w = .ok report w' ↔ fate path = .scanned report ∧ w' = w := by
  unfold foretold
  cases fate path with
  | scanned other =>
    constructor
    · intro h
      cases h
      exact ⟨rfl, rfl⟩
    · rintro ⟨h, rfl⟩
      cases h
      rfl
  | unreplaced other => exact ⟨nofun, fun h => by cases h.1⟩
  | unreadable other => exact ⟨nofun, fun h => by cases h.1⟩

theorem run_foretold_eq_error (name : String) :
    (foretold fate path name).run w = .error failure w' ↔
      ((∃ report, fate path = .unreplaced report ∧ failure = .replaceFailed path report "") ∨
        fate path = .unreadable failure) ∧ w' = w := by
  unfold foretold
  cases fate path with
  | scanned other => exact ⟨nofun, fun h => by rcases h.1 with ⟨_, h, -⟩ | h <;> cases h⟩
  | unreplaced other =>
    constructor
    · intro h
      cases h
      exact ⟨.inl ⟨other, rfl, rfl⟩, rfl⟩
    · rintro ⟨⟨_, h, rfl⟩ | h, rfl⟩
      · cases h
        rfl
      · cases h
  | unreadable other =>
    constructor
    · intro h
      cases h
      exact ⟨.inr rfl, rfl⟩
    · rintro ⟨⟨_, h, -⟩ | h, rfl⟩
      · cases h
      · cases h
        rfl

/-- A walk can depend on a scanner that does nothing. -/
theorem dependable_foretold (fate : String → Outcome) : Dependable (foretold fate) where
  speaks path name := by
    unfold foretold
    cases fate path with
    | scanned report => exact .pure report
    | unreplaced report => exact .throw trivial
    | unreadable failure => exact .throw trivial
  puts run := by
    obtain ⟨-, rfl⟩ := (run_foretold_eq_ok _).1 run
    exact .inl rfl
  breaks run _ := by
    obtain ⟨-, rfl⟩ := (run_foretold_eq_error _).1 run
    exact .inl rfl
  restores run _ := by
    obtain ⟨-, rfl⟩ := (run_foretold_eq_error _).1 run
    rfl
  again {path name w report w' w₂ parent last} run _ := by
    obtain ⟨ends, rfl⟩ := (run_foretold_eq_ok _).1 run
    exact ⟨w₂, (run_foretold_eq_ok _).2 ⟨ends, rfl⟩, .inl ⟨rfl, rfl⟩⟩
  heldAgain {path name w failure report w' w₂ parent last} run _ _ := by
    obtain ⟨ends, -⟩ := (run_foretold_eq_error _).1 run
    exact ⟨w₂, (run_foretold_eq_error _).2 ⟨ends, rfl⟩, rfl⟩

/-- Its scans come to what is assigned, if the files that are not read are in trouble. -/
theorem follows_foretold (trouble : ∀ path failure, fate path = .unreadable failure → failure.isFileTrouble = true)
    (path : String) (root : Option String) (w : World) (paths : List String) :
    (planWith (foretold fate) path root).Follows fate w paths := by
  intro visits w₁ next rest _ _
  have same : ∀ w, (planWith (foretold fate) path root).attempt next w =
      (foretold fate next ((planWith (foretold fate) path root).shown w next)).run
        (w.saying [.notice .info s!"Evaluating: {(planWith (foretold fate) path root).shown w next}"]) := fun _ => rfl
  cases ends : fate next with
  | scanned report => exact ⟨_, .scanned ((same w₁).trans ((run_foretold_eq_ok _).2 ⟨ends, rfl⟩))⟩
  | unreplaced report =>
    exact ⟨_, .unreplaced ((same w₁).trans ((run_foretold_eq_error _).2 ⟨.inl ⟨report, ends, rfl⟩, rfl⟩)) rfl⟩
  | unreadable failure =>
    exact ⟨_, .unreadable ((same w₁).trans ((run_foretold_eq_error _).2 ⟨.inr ends, rfl⟩)) (trouble next failure ends)⟩

end Foretold

/-- Let a walk go through folders that can all be listed, and let each scan end as it is assigned to its file: with a
report, or failing to replace the file or to read it. If the walk can depend on the scanner, it ends well and gives
an account of every file. Without the files that it could not read it comes to the same reports and leaves the
same files, if nothing leads through those that are removed. It can depend on the scan of files on any host, and
every assignment is that of some scanner on which it can depend. -/
theorem walk_isolates :
    (∀ {limit : Nat} {scan : (path name : String) → Job FileReport} {recursive : Bool} {path : String}
        {root : Option String} {fate : String → Outcome} {w : World} {top : Place},
      Dependable scan → w.volume.Proper → w.volume.resolve path = .ok top → w.volume.node? top = some .folder →
      Step.failures (Step.itinerary limit w.volume recursive path) = [] →
      (planWith scan path root).Follows fate w (Step.scanned (Step.itinerary limit w.volume recursive path)) →
      ∃ a w', (walkWith limit scan recursive path root).run w = .ok a w' ∧
        Accounts (planWith scan path root) w
          (assigned fate (Step.scanned (Step.itinerary limit w.volume recursive path))) a w' ∧
        ∀ gone, gone = unreadablePlaces w.volume
            (assigned fate (Step.scanned (Step.itinerary limit w.volume recursive path))) →
          ∀ w₂ : World, w₂.volume = w.volume.without gone → (∀ place ∈ gone, Blocks w.volume place) →
          (∀ file ∈ Step.scanned (Step.itinerary limit w.volume recursive path),
            (fate file).isUnreadable = false → ∃ bytes, w₂.volume.read file = .ok bytes) →
          ∃ a₂ w₃, (walkWith limit scan recursive path root).run w₂ = .ok a₂ w₃ ∧ a₂.files = a.files ∧
            w₃.volume = w'.volume.without gone) ∧
    (∀ (host : Host) (setup : Setup) (rules : List Rule) (options : Options), options.interactive = false →
      Dependable (scanOn host setup rules options)) ∧
    ∀ fate : String → Outcome, (∀ file failure, fate file = .unreadable failure → failure.isFileTrouble = true) →
      Dependable (foretold fate) ∧ ∀ path root w paths,
        (planWith (foretold fate) path root).Follows fate w paths := by
  refine ⟨?_, fun host setup rules options quiet => dependable_scanOn host setup rules quiet,
    fun fate trouble => ⟨dependable_foretold fate, follows_foretold trouble⟩⟩
  intro limit scan recursive path root fate w top dependable proper leads isFolder fine follows
  obtain ⟨a, w', run, done⟩ :=
    exists_done_of_follows (.empty ((planWith scan path root).shown w path)) fine follows
  have files := done.files
  rw [Aggregate.files_empty, List.nil_append] at files
  have whole : (walkWith limit scan recursive path root).run w = .ok a w' := by
    rw [run_walkWith (Volume.isFolder_of_resolve leads isFolder)]
    exact run
  refine ⟨a, w', whole, done.trip.accounts dependable files, fun gone gone_eq w₂ same blocks reads => ?_⟩
  subst gone_eq
  rw [files]
  exact run_walkWith_without dependable proper (Volume.withPath_eq_ok.2 leads) isFolder fine rfl done.trip same blocks
    fun visit mem readable => by
      obtain ⟨present, same⟩ := mem_assigned.1 mem
      exact reads visit.1 present (same ▸ readable)

end Walk

namespace Scan

/-- A source that is no text in UTF-8 is scanned in vain, and stays as it is. -/
theorem run_file_of_undecodable {recursive : Bool} {path : String} {w : World} {bytes : List UInt8} {error : DecodeError}
    {made : Volume × Volume.Temporary} (shownAs : Option String) (source : isSource path = true)
    (read : w.volume.read path = .ok bytes) (makes : w.volume.makeTemporary path = .ok made)
    (delivered : Charset.utf8.read bytes = ⟨[], some error⟩) :
    ∃ w', (file plainSetup Rule.table ⟨recursive, false, true⟩ path shownAs).run w = .error (.decode error) w' ∧
      w'.volume = w.volume := by
  let o : Opening plainSetup path w := ⟨.none, w, .utf8, bytes, source, rfl, rfl, rfl, read⟩
  have scans : (scanDelivery o.charset Rule.table ⟨recursive, false, true⟩ (o.charset.read o.bytes)).run
      { o.opened with volume := made.1 } = .error (.decode error) { w with volume := made.1 } := by
    show (scanDelivery .utf8 Rule.table ⟨recursive, false, true⟩ (Charset.utf8.read bytes)).run _ = _
    rw [delivered]
    rfl
  rw [run_file_of_opening o, scanOpened_eq, if_pos rfl]
  exact ⟨_, Parts.run_replaceFile_of_unscanned makes scans, Volume.erase_makeTemporary makes⟩

end Scan

namespace Walk

section Nested

open Scan (plainSetup)

/-- A folder with a source that is no text in UTF-8, and beside the folder a source with two offences. -/
def nested : World :=
  ⟨⟨[(["d"], .folder), (["d", "a.m"], .file [255] 0o644), (["b.m"], .file [120, 61, 49, 10] 0o644)], [], []⟩,
    none, false, #[]⟩

/-- The folders without the source that cannot be read. -/
def pruned : World :=
  ⟨⟨[(["d"], .folder), (["b.m"], .file [120, 61, 49, 10] 0o644)], [], []⟩, none, false, #[]⟩

/-- The plan of a recursive walk that fixes. -/
abbrev nestedPlan : Plan := planOf plainSetup Rule.table ⟨true, false, true⟩ "." none

/-- The world in which a source is scanned, after the notice about it. -/
def announcing (plan : Plan) (path : String) (w : World) : World :=
  w.saying [.notice .info s!"Evaluating: {plan.shown w path}"]

/-- The line of the source with offences. -/
def offending : Text.Line := ⟨['x', '=', '1'], .lineFeed⟩

/-- Its report, after both offences were repaired. -/
def repaired : FileReport :=
  Scan.report (Scan.nameFor "./b.m" (some "b.m")) Rule.table (Scan.totalsFrom true 1 [offending]) .none

/-- Why the other source cannot be read. -/
def undecodable : DecodeError := ⟨"utf-8", 0, [255], .invalidStart⟩

/-- What the scans of the two sources come to. -/
def nestedFate (path : String) : Outcome :=
  if path = "./b.m" then .scanned repaired else .unreadable (.decode undecodable)

theorem proper_nested : nested.volume.Proper where
  names := by
    have all : ∀ entry ∈ nested.volume.nodes, ∀ name ∈ entry.1, name = "d" ∨ name = "a.m" ∨ name = "b.m" := by decide
    intro entry mem name inside
    rcases all entry mem name inside with rfl | rfl | rfl
    all_goals exact ⟨by decide, by decide, by decide, by decide⟩
  places := by decide
  order := by decide

/-! What the two volumes have in common. -/

section Common

variable {v : Volume} (top : v.here = []) (folder : v.node? ["d"] = some .folder)
variable (file : v.node? ["b.m"] = some (.file [120, 61, 49, 10] 0o644))

include top

theorem resolve_nested (folder : v.node? ["d"] = some .folder) : v.resolve "./d" = .ok ["d"] :=
  Volume.resolve_of_steps top (by decide) (by decide) (by decide)
    (.dot rfl rfl (.node rfl (by decide) (by decide) (by decide) folder nofun (.done _ _)))

theorem holds_beside (file : v.node? ["b.m"] = some (.file [120, 61, 49, 10] 0o644)) :
    Holds v "./b.m" [120, 61, 49, 10] 0o644 := by
  have good : Volume.IsName "b.m" := ⟨by decide, by decide, by decide, by decide⟩
  have text : "./b.m" = Path.entry "." "b.m" := by decide
  rw [text]
  exact Volume.holds_dot top good (by decide)
    (.node rfl (by decide) (by decide) (by decide) file nofun (.done _ _)) file

end Common

/-- The folder holds the source that is no text. -/
theorem resolve_undecodable : nested.volume.resolve "./d/a.m" = .ok ["d", "a.m"] := by
  have folder : nested.volume.node? ["d"] = some .folder := by decide
  have file : nested.volume.node? ["d", "a.m"] = some (.file [255] 0o644) := by decide
  exact Volume.resolve_of_steps rfl (by decide) (by decide) (by decide)
    (.dot rfl rfl (.node rfl (by decide) (by decide) (by decide) folder nofun
      (.node folder (by decide) (by decide) (by decide) file nofun (.done _ _))))

/-- The walk enters the folder first. -/
theorem itinerary_nested (limit : Nat) : Step.itinerary (limit + 1 + 1) nested.volume true "." =
    [.enter "./d" [.scan "./d/a.m"], .scan "./b.m"] := by
  have top : nested.volume.here = [] := rfl
  have folder : nested.volume.node? ["d"] = some .folder := by decide
  have resolved := resolve_nested top folder
  have listed : nested.volume.entries "." = .ok ["./d", "./b.m"] := Volume.entries_dot top
  have listed' : nested.volume.entries "./d" = .ok ["./d/a.m"] :=
    Volume.entries_eq_ok.2 ⟨_, resolved, folder, by decide⟩
  have inner : ∀ entry ∈ ["./d/a.m"], nested.volume.isFolder entry = .ok false :=
    List.forall_mem_singleton.2 (Volume.not_isFolder_of_holds ⟨_, resolve_undecodable, rfl⟩ (by decide))
  have outer : nested.volume.isFolder "./b.m" = .ok false :=
    Volume.not_isFolder_of_holds (holds_beside top (by decide)) (by decide)
  have inside : Step.ofFolder nested.volume true (limit + 1) [[]] "./d" = ([.scan "./d/a.m"], [["d"], []]) := by
    rw [Step.ofFolder, Volume.identity, resolved]
    dsimp only [Volume.withPath]
    rw [listed']
    exact Step.ofEntries_of_files inner
  have enters : Step.Makes nested.volume true (Step.ofFolder nested.volume true (limit + 1)) [[]] "./d" _ _ :=
    .enter (Volume.isFolder_of_resolve resolved folder) rfl (Volume.withPath_eq_ok.2 resolved) (by decide)
  rw [inside] at enters
  rw [Step.itinerary_eq (Volume.withPath_eq_ok.2 (Volume.resolve_dot top)) (limit + 1) listed, enters.ofEntries_cons,
    Step.ofEntries_of_files (List.forall_mem_singleton.2 outer)]
  rfl

/-- The source that is no text is not read. -/
theorem visit_undecodable {w : World} (here : w.volume = nested.volume) :
    ∃ w', Visit nestedPlan "./d/a.m" w (.unreadable (.decode undecodable)) w' ∧ w'.volume = w.volume := by
  have folder : nested.volume.node? ["d"] = some .folder := by decide
  have read : nested.volume.read "./d/a.m" = .ok [255] := Volume.read_eq_ok.2 ⟨_, _, resolve_undecodable, rfl⟩
  obtain ⟨made, makes⟩ : ∃ made, nested.volume.makeTemporary "./d/a.m" = .ok made := by
    have around : (Path.absolute nested.volume.hereText (Path.ofString "./d/a.m").parent.text).text = "/d" := by decide
    have text : Volume.checkText (Path.entry "/d" (Volume.temporaryName (Path.ofString "./d/a.m").name 0)) = .ok () :=
      rfl
    have resolved : nested.volume.resolve "/d" = .ok ["d"] :=
      Volume.resolve_eq_ok.2 ⟨by decide, Volume.mostLinks,
        .node rfl (by decide) (by decide) (by decide) folder nofun (.done _ _)⟩
    rw [← around] at text resolved
    exact ⟨_, Volume.makeTemporary_eq_ok.2 ⟨["d"], text, resolved, by decide, folder, rfl⟩⟩
  have delivered : Charset.utf8.read [255] = ⟨[], some undecodable⟩ := by decide +kernel
  rw [← here] at read makes
  obtain ⟨w', run, same⟩ := Scan.run_file_of_undecodable (w := announcing nestedPlan "./d/a.m" w)
    (some (nestedPlan.shown w "./d/a.m")) (by decide) read makes delivered
  rw [announcing, ← attempt_planOf] at run
  exact ⟨_, .unreadable run rfl, same⟩

/-- The other source is repaired. -/
theorem visit_offending {w : World} (here : w.volume = nested.volume) :
    ∃ w', Visit nestedPlan "./b.m" w (.scanned repaired) w' := by
  have top : nested.volume.here = [] := rfl
  have holds := holds_beside top (by decide)
  have names : nested.volume.Names "./b.m" [] "b.m" :=
    ⟨rfl, by decide, by decide, by decide, by decide, by decide, ⟨_, .dot rfl rfl (.done _ _)⟩, rfl⟩
  obtain ⟨made, makes⟩ : ∃ made, nested.volume.makeTemporary "./b.m" = .ok made := by
    have around : (Path.absolute nested.volume.hereText (Path.ofString "./b.m").parent.text).text = "/" := by decide
    have text : Volume.checkText (Path.entry "/" (Volume.temporaryName (Path.ofString "./b.m").name 0)) = .ok () := rfl
    have resolved := Volume.resolve_top nested.volume
    rw [← around] at text resolved
    exact ⟨_, Volume.makeTemporary_eq_ok.2 ⟨[], text, resolved, by decide, rfl, rfl⟩⟩
  have shown : nestedPlan.shown w "./b.m" = "b.m" := by
    rw [Plan.shown, here]
    decide
  rw [← here] at holds names makes
  have cut : Text.WellCut [offending] := .cons (by decide) (by decide) (fun same => absurd same (by decide)) .nil
  have written : Charset.utf8.encodeAll true ((Scan.tidiedFrom (fun _ => true) 1 [offending]).map Text.Line.raw) =
      .ok [120, 32, 61, 32, 49, 10] := by decide +kernel
  have assessed : (Scan.assess plainSetup "./b.m").run (announcing nestedPlan "./b.m" w) = .ok .none _ := rfl
  have known : Charset.ofName plainSetup.encoding = .ok .utf8 := by decide
  obtain ⟨w', run, -⟩ := Scan.run_file_of_lines (w := announcing nestedPlan "./b.m" w)
    (some (nestedPlan.shown w "./b.m")) (by decide) holds names makes rfl known rfl assessed cut
    (Charset.read_of_encodeAll cut rfl) written (by decide +kernel)
  rw [announcing, ← attempt_planOf, shown] at run
  exact ⟨w', .scanned run⟩

theorem follows_nested : nestedPlan.Follows nestedFate nested ["./d/a.m", "./b.m"] := by
  refine .cons fun w₁ here => ?_
  obtain ⟨w₂, visit, still⟩ := visit_undecodable here
  refine ⟨w₂, visit, .cons fun w₃ here' => ?_⟩
  obtain ⟨w₄, visit'⟩ := visit_offending (here'.trans (still.trans here))
  exact ⟨w₄, visit', .nil _ _ _⟩

theorem unreadablePlaces_nested :
    unreadablePlaces nested.volume (assigned nestedFate ["./d/a.m", "./b.m"]) = [["d", "a.m"]] := by
  have folder : nested.volume.node? ["d"] = some .folder := by decide
  have listed : Step.Source.Listed nested.volume ("./d", ["d"], "a.m") :=
    ⟨resolve_nested rfl folder, folder, by decide⟩
  have named : nested.volume.entryOf? "./d/a.m" = some ["d", "a.m"] :=
    listed.entryOf? ⟨by decide, by decide, by decide, by decide⟩
  simp [unreadablePlaces, assigned, nestedFate, Outcome.isUnreadable, named]

/-- A source that is no text, deep down, does not keep the walk from repairing another one, and the walk repairs it in
the same way when the first one is gone. -/
theorem walk_isolates_nested :
    (Step.failures (Step.itinerary Stack.standard.folders nested.volume true ".") = [] ∧
      nestedPlan.Follows nestedFate nested
        (Step.scanned (Step.itinerary Stack.standard.folders nested.volume true "."))) ∧
    ∃ a w', (walk plainSetup Rule.table ⟨true, false, true⟩ "." none).run nested = .ok a w' ∧
      Accounts nestedPlan nested (assigned nestedFate ["./d/a.m", "./b.m"]) a w' ∧ a.files = [repaired] ∧
      pruned.volume = nested.volume.without [["d", "a.m"]] ∧
      ∃ a₂ w₃, (walk plainSetup Rule.table ⟨true, false, true⟩ "." none).run pruned = .ok a₂ w₃ ∧
        a₂.files = [repaired] ∧ w₃.volume = w'.volume.without [["d", "a.m"]] := by
  have steps := itinerary_nested 958
  have scanned : Step.scanned (Step.itinerary (958 + 1 + 1) nested.volume true ".") = ["./d/a.m", "./b.m"] := by
    rw [steps]
    rfl
  have fine : Step.failures (Step.itinerary (958 + 1 + 1) nested.volume true ".") = [] := by
    rw [steps]
    rfl
  have follows := follows_nested
  rw [← scanned] at follows
  refine ⟨⟨fine, follows⟩, ?_⟩
  obtain ⟨isolates, dependable, -⟩ := walk_isolates
  obtain ⟨a, w', run, accounts, without⟩ := isolates
    (dependable .bare plainSetup Rule.table ⟨true, false, true⟩ rfl) proper_nested (Volume.resolve_dot rfl) rfl fine
    follows
  rw [scanned] at accounts without
  have files : a.files = [repaired] := accounts.files
  have node : nested.volume.node? ["d", "a.m"] = some (.file [255] 0o644) := by decide
  have blocks : ∀ place ∈ [["d", "a.m"]], Blocks nested.volume place :=
    List.forall_mem_singleton.2 (Volume.blocks_of_file node)
  have reads : ∀ file ∈ ["./d/a.m", "./b.m"], (nestedFate file).isUnreadable = false →
      ∃ bytes, pruned.volume.read file = .ok bytes := by
    intro file mem readable
    rcases List.mem_pair.1 mem with rfl | rfl
    · cases readable
    · exact ⟨_, (holds_beside rfl (by decide)).read⟩
  obtain ⟨a₂, w₃, run₂, same, left⟩ := without _ unreadablePlaces_nested.symm pruned (by decide) blocks reads
  exact ⟨a, w', run, accounts, files, by decide, a₂, w₃, run₂, same.trans files, left⟩

end Nested

end Walk

namespace Scan

/-! An empty source that can be fixed, one for which no temporary file can be made, and one that cannot be read. -/

variable {w : World} {path : String} {error : AccessError} (source : isSource path = true) (shownAs : Option String)

/-- The report of an empty source. -/
def emptyReport (path : String) (shownAs : Option String) : FileReport :=
  report (nameFor path shownAs) Rule.table (totalsFrom true 1 []) .none

include source

theorem run_file_of_empty {parent : Place} {last : String} {mode : Nat} {made : Volume × Volume.Temporary}
    (holds : w.volume.Holds path [] mode) (names : w.volume.Names path parent last)
    (makes : w.volume.makeTemporary path = .ok made) :
    ∃ w', (file plainSetup Rule.table ⟨false, false, true⟩ path shownAs).run w =
        .ok (emptyReport path shownAs) w' ∧
      w'.volume = w.volume.put (parent ++ [last]) (.file [] mode) := by
  have assessed : (assess plainSetup path).run w = .ok .none w := rfl
  have known : Charset.ofName plainSetup.encoding = .ok .utf8 := by decide
  have delivered : Charset.utf8.read [] = ⟨[], none⟩ := Charset.read_of_encodeAll .nil rfl
  have written : Charset.utf8.encodeAll true ((tidiedFrom (fun _ => true) 1 []).map Text.Line.raw) = .ok [] := rfl
  exact run_file_of_lines shownAs source holds names makes rfl known rfl assessed .nil delivered written
    (by decide +kernel)

theorem run_file_of_unmakeable (read : w.volume.read path = .ok [])
    (makes : w.volume.makeTemporary path = .error error) :
    (file plainSetup Rule.table ⟨false, false, true⟩ path shownAs).run w = .error (.access error) w := by
  let o : Opening plainSetup path w := ⟨.none, w, .utf8, [], source, rfl, rfl, rfl, read⟩
  rw [run_file_of_opening o, scanOpened_eq, if_pos rfl]
  exact Parts.run_replaceFile_of_unmade makes

theorem run_file_of_unread (read : w.volume.read path = .error error) :
    (file plainSetup Rule.table ⟨false, false, true⟩ path shownAs).run w = .error (.access error) w := by
  have named : (Job.ofExcept .charset (Charset.checkName plainSetup.encoding)).run w = .ok () w := rfl
  have opens : (openLines .bare plainSetup Rule.table ⟨false, false, true⟩ path).run w = .error (.access error) w := by
    rw [openLines, Job.run_bind_of_ok named]
    exact Job.run_bind_eq_error.2 (.inl (Job.run_ask_of_error read))
  have unasked : ((partsOn .bare plainSetup Rule.table ⟨false, false, true⟩).assess path).run w = .ok .none w := rfl
  rw [file]
  exact Parts.run_of_unopened source unasked opens

end Scan

namespace Walk

section Beside

open Volume (longName isName_longName utf8ByteSize_longName longName_ne)

/-- The plan of a fixing walk through the current folder. -/
abbrev fixingPlan : Plan := planOf Scan.plainSetup Rule.table ⟨false, false, true⟩ "." none

theorem isSource_longName {count : Nat} (some : 0 < count) : isSource (longName count) = true := by
  have good := isName_longName count
  have named : (Path.ofString (longName count)).name = longName count := by
    refine Volume.name_ofString ?_ good.ne_dot
    rw [Volume.namesOf_name good.plain good.ne_empty]
    rfl
  have tail : ((longName count).toList.reverse.takeWhile (· ≠ '.')).reverse = ['m'] := by
    rw [Volume.toList_longName, List.reverse_append]
    rfl
  have long : ['m'] ≠ [] ∧ ['m'].length + 1 < (longName count).toList.length := by
    rw [Volume.toList_longName, List.length_append, List.length_replicate]
    exact ⟨List.cons_ne_nil _ _, Nat.add_lt_add_right some 2⟩
  rw [isSource, Path.suffix, named, tail, if_pos long]
  decide

/-- The name of a source that leaves no room for that of a temporary file. -/
abbrev lengthyName : String := longName 250

/-- A folder with an entry `d.m`, and beside it an empty source with a lengthy name. -/
def beside (node : Node) : World :=
  ⟨⟨[(["d.m"], node), ([lengthyName], .file [] 0o644)], [], []⟩, none, false, #[]⟩

/-- The folder without the source that has a lengthy name. -/
def alone (node : Node) : World := ⟨⟨[(["d.m"], node)], [], []⟩, none, false, #[]⟩

theorem isName_entry : Volume.IsName "d.m" := ⟨by decide, by decide, by decide, by decide⟩

theorem lengthy_ne_entry : lengthyName ≠ "d.m" := longName_ne (by decide)

theorem lengthy_beq_entry : ([lengthyName] == ["d.m"]) = false :=
  beq_false_of_ne fun same => lengthy_ne_entry (List.cons.inj same).1

theorem lengthy_ne_double : lengthyName ≠ ".." := longName_ne (by decide)

theorem small_lengthy : ¬ Volume.mostNameBytes < lengthyName.utf8ByteSize := by
  rw [utf8ByteSize_longName]
  decide

variable (node : Node)

theorem node?_beside : (beside node).volume.node? [lengthyName] = some (.file [] 0o644) := by
  rw [Volume.node?_of_ne_nil (List.cons_ne_nil _ _), beside, List.lookup_cons, lengthy_beq_entry, List.lookup_cons,
    beq_self_eq_true]

theorem node?_alone : (alone node).volume.node? [lengthyName] = none := by
  rw [Volume.node?_of_ne_nil (List.cons_ne_nil _ _), alone, List.lookup_cons, lengthy_beq_entry, List.lookup_nil]

theorem without_beside : (beside node).volume.without [[lengthyName]] = (alone node).volume := by
  show (beside node).volume.erase [lengthyName] = _
  simp [Volume.erase, beside, alone, lengthy_ne_entry.symm]

theorem put_beside : (beside node).volume.put ["d.m"] (.file [] 0o644) = (beside (.file [] 0o644)).volume := by
  simp [Volume.put, beside, lengthy_ne_entry]

theorem blocks_beside : ∀ place ∈ [[lengthyName]], Blocks (beside node).volume place :=
  List.forall_mem_singleton.2 (Volume.blocks_of_file (node?_beside node))

theorem leads_lengthy (budget : Nat) : Leads (beside node).volume budget [] [lengthyName] [lengthyName] budget :=
  .node rfl (isName_longName 250).ne_dot lengthy_ne_double small_lengthy (node?_beside node) nofun (.done _ _)

theorem holds_lengthy : Holds (beside node).volume (Path.entry "." lengthyName) [] 0o644 :=
  Volume.holds_dot rfl (isName_longName 250) small_lengthy (leads_lengthy node _) (node?_beside node)

theorem follow_entry {v : Volume} (here : v.node? ["d.m"] = some (.link lengthyName)) :
    v.follow true Volume.mostLinks [] ["d.m"] = v.follow true 39 [] [lengthyName] :=
  Volume.follow_link_to_name here isName_entry (by decide) (by decide) (isName_longName 250)

theorem holds_link : Holds (beside (.link lengthyName)).volume (Path.entry "." "d.m") [] 0o644 := by
  have followed : (beside (.link lengthyName)).volume.follow true Volume.mostLinks [] ["d.m"] = .ok [lengthyName] :=
    (follow_entry rfl).trans (leads_lengthy _ 39).follow
  obtain ⟨left, walk⟩ := Volume.leads_of_follow followed
  exact Volume.holds_dot rfl isName_entry (by decide) walk (node?_beside _)

theorem read_alone :
    (alone (.link lengthyName)).volume.read (Path.entry "." "d.m") = .error ⟨.missing, Path.entry "." "d.m"⟩ := by
  have resolved : (alone (.link lengthyName)).volume.resolve (Path.entry "." "d.m") = .error .missing := by
    show (alone (.link lengthyName)).volume.follow true Volume.mostLinks [] (["."] ++ ["d.m"]) = _
    rw [(Leads.dot rfl rfl (.done Volume.mostLinks _)).follow_append, follow_entry rfl]
    exact Volume.follow_none rfl (isName_longName 250).ne_dot lengthy_ne_double small_lengthy (node?_alone _) 39
  rw [Volume.read, resolved]
  rfl

/-- The steps through a folder that holds sources only. -/
theorem itinerary_dot {v : Volume} (top : v.here = []) (limit : Nat) (files : ∀ name ∈ v.namesIn [],
      v.isFolder (Path.entry "." name) = .ok false ∧ isSource (Path.entry "." name) = true) :
    Step.itinerary (limit + 1) v false "." = (v.namesIn []).map fun name => .scan (Path.entry "." name) := by
  have apart : ∀ entry ∈ (v.namesIn []).map (Path.entry "."), v.isFolder entry = .ok false := by
    intro entry mem
    obtain ⟨name, present, rfl⟩ := List.mem_map.1 mem
    exact (files name present).1
  have identity : v.identity "." = .ok [] := Volume.withPath_eq_ok.2 (Volume.resolve_dot top)
  rw [Step.itinerary_of_files identity limit (Volume.entries_dot top) apart, List.map_map]
  refine List.map_congr_left fun name present => ?_
  rw [Function.comp_apply, if_pos (files name present).2]

/-- Both the link and the source can be read. -/
theorem itinerary_beside (limit : Nat) : Step.itinerary (limit + 1) (beside (.link lengthyName)).volume false "." =
    [.scan (Path.entry "." "d.m"), .scan (Path.entry "." lengthyName)] := by
  have names : (beside (.link lengthyName)).volume.namesIn [] = ["d.m", lengthyName] := rfl
  rw [itinerary_dot rfl, names]
  · rfl
  · intro name mem
    rw [names] at mem
    rcases List.mem_pair.1 mem with rfl | rfl
    · exact ⟨Volume.not_isFolder_of_holds holds_link (Volume.parts_entry_ne_nil "." isName_entry), by decide⟩
    · exact ⟨Volume.not_isFolder_of_holds (holds_lengthy _) (Volume.parts_entry_ne_nil "." (isName_longName 250)),
        (Volume.isSource_entry "." (isName_longName 250)).trans (isSource_longName (by decide))⟩

theorem itinerary_alone (limit : Nat) : Step.itinerary (limit + 1) (alone (.link lengthyName)).volume false "." =
    [.scan (Path.entry "." "d.m")] := by
  have names : (alone (.link lengthyName)).volume.namesIn [] = ["d.m"] := rfl
  rw [itinerary_dot rfl, names]
  · rfl
  · intro name mem
    rw [names] at mem
    rw [List.mem_singleton.1 mem, ← without_beside]
    exact ⟨Volume.not_isFolder_without (blocks_beside _)
      (Volume.not_isFolder_of_holds holds_link (Volume.parts_entry_ne_nil "." isName_entry)), by decide⟩

/-- The report of the link, which is shown by its name. -/
def linkReport : FileReport := Scan.emptyReport (Path.entry "." "d.m") (some "d.m")

/-- No temporary file can be made for the source, whose name is too long for that. -/
def roomless : AccessError :=
  ⟨.nameTooLong, Path.entry "/" (Volume.temporaryName (Path.ofString (Path.entry "." lengthyName)).name 0)⟩

/-- What the scans come to. -/
def besideFate (path : String) : Outcome :=
  if path = Path.entry "." "d.m" then .scanned linkReport else .unreadable (.access roomless)

theorem shown_entry {w : World} (here : w.volume.here = []) : fixingPlan.shown w (Path.entry "." "d.m") = "d.m" := by
  rw [Plan.shown, Volume.hereText, here]
  decide

theorem visit_link {w : World} (here : w.volume = (beside (.link lengthyName)).volume) :
    ∃ w', Visit fixingPlan (Path.entry "." "d.m") w (.scanned linkReport) w' ∧
      w'.volume = (beside (.file [] 0o644)).volume := by
  have holds := holds_link
  have listed : Step.Source.Listed (beside (.link lengthyName)).volume (".", [], "d.m") :=
    ⟨Volume.resolve_dot rfl, rfl, List.mem_cons_self⟩
  have names := listed.names isName_entry (by decide) holds.read
  have folder := Volume.around_dot (v := (beside (.link lengthyName)).volume) rfl isName_entry
  obtain ⟨made, makes⟩ : ∃ made,
      (beside (.link lengthyName)).volume.makeTemporary (Path.entry "." "d.m") = .ok made := by
    refine ⟨_, Volume.makeTemporary_eq_ok.2 ⟨[], ?_, ?_, by decide, rfl, rfl⟩⟩
    · rw [folder]
      exact Volume.checkText_temporary isName_entry (by decide)
    · rw [folder, Volume.resolve_top]
  have shown := shown_entry (w := w) (by rw [here]; rfl)
  rw [← here] at holds names makes
  obtain ⟨w', run, put⟩ := Scan.run_file_of_empty (w := announcing fixingPlan (Path.entry "." "d.m") w) (by decide)
    (some (fixingPlan.shown w (Path.entry "." "d.m"))) holds names makes
  rw [announcing, ← attempt_planOf, shown] at run
  refine ⟨w', .scanned run, ?_⟩
  rw [put]
  show w.volume.put ["d.m"] _ = _
  rw [here, put_beside]

theorem visit_lengthy {w : World} (here : w.volume = (beside node).volume) :
    ∃ w', Visit fixingPlan (Path.entry "." lengthyName) w (.unreadable (.access roomless)) w' := by
  have read := (holds_lengthy node).read
  have good := isName_longName 250
  have source : isSource (Path.entry "." lengthyName) = true :=
    (Volume.isSource_entry "." good).trans (isSource_longName (by decide))
  have long : Volume.mostNameBytes <
      (Path.ofString (Path.entry "." lengthyName)).name.utf8ByteSize + Volume.temporaryBytes := by
    rw [Volume.name_entry "." good, utf8ByteSize_longName]
    decide
  have makes := Volume.makeTemporary_of_long (Volume.around_dot (v := (beside node).volume) rfl good)
    (Volume.checkText_temporary good small_lengthy) (Volume.resolve_top _) long
  rw [← here] at read makes
  have run := Scan.run_file_of_unmakeable (w := announcing fixingPlan (Path.entry "." lengthyName) w) source
    (some (fixingPlan.shown w (Path.entry "." lengthyName))) read makes
  rw [announcing, ← attempt_planOf] at run
  exact ⟨_, .unreadable run rfl⟩

theorem visit_alone {w : World} (here : w.volume = (alone (.link lengthyName)).volume) :
    ∃ w', Visit fixingPlan (Path.entry "." "d.m") w
      (.unreadable (.access ⟨.missing, Path.entry "." "d.m"⟩)) w' := by
  have read := read_alone
  rw [← here] at read
  have run := Scan.run_file_of_unread (w := announcing fixingPlan (Path.entry "." "d.m") w) (by decide)
    (some (fixingPlan.shown w (Path.entry "." "d.m"))) read
  rw [announcing, ← attempt_planOf] at run
  exact ⟨_, .unreadable run rfl⟩

theorem besideFate_lengthy : besideFate (Path.entry "." lengthyName) = .unreadable (.access roomless) := by
  refine if_neg fun same => ?_
  have names := congrArg Volume.namesOf same
  rw [Volume.namesOf_entry "." (isName_longName 250), Volume.namesOf_entry "." isName_entry] at names
  exact lengthy_ne_entry (List.cons.inj (List.append_cancel_left names)).1

/-- A walk reports the link, and the source with the lengthy name is not read. -/
theorem run_beside :
    ∃ a w', (walk Scan.plainSetup Rule.table ⟨false, false, true⟩ "." none).run (beside (.link lengthyName)) = .ok a w' ∧
      Trip fixingPlan (beside (.link lengthyName))
        (assigned besideFate [Path.entry "." "d.m", Path.entry "." lengthyName]) w' ∧ a.files = [linkReport] := by
  have steps := itinerary_beside 959
  have follows : fixingPlan.Follows besideFate (beside (.link lengthyName))
      [Path.entry "." "d.m", Path.entry "." lengthyName] := by
    refine .cons fun w₁ here => ?_
    obtain ⟨w₂, visit, put⟩ := visit_link here
    refine ⟨w₂, visit, .cons fun w₃ here₃ => ?_⟩
    obtain ⟨w₄, visit'⟩ := visit_lengthy _ (here₃.trans put)
    exact ⟨w₄, besideFate_lengthy ▸ visit', .nil _ _ _⟩
  have fine : Step.failures (Step.itinerary (959 + 1) (beside (.link lengthyName)).volume false ".") = [] := by
    rw [steps]
    rfl
  have scanned : Step.scanned (Step.itinerary (959 + 1) (beside (.link lengthyName)).volume false ".") =
      [Path.entry "." "d.m", Path.entry "." lengthyName] := by
    rw [steps]
    rfl
  rw [← scanned] at follows ⊢
  obtain ⟨a, w', run, done⟩ := exists_done_of_follows
    (.empty (fixingPlan.shown (beside (.link lengthyName)) ".")) fine follows
  refine ⟨a, w', ?_, done.trip, ?_⟩
  · rw [run_walk (Volume.isFolder_of_resolve (Volume.resolve_dot rfl) rfl)]
    exact run
  · rw [done.files, scanned, assigned, List.map_cons, List.map_singleton, besideFate_lengthy]
    rfl

/-- Without the source, the link cannot be read. -/
theorem run_alone :
    ∃ a w', (walk Scan.plainSetup Rule.table ⟨false, false, true⟩ "." none).run (alone (.link lengthyName)) = .ok a w' ∧
      a.files = [] := by
  have steps := itinerary_alone 959
  have follows : fixingPlan.Follows (fun path => .unreadable (.access ⟨.missing, path⟩)) (alone (.link lengthyName))
      [Path.entry "." "d.m"] := by
    refine .cons fun w₁ here => ?_
    obtain ⟨w₂, visit⟩ := visit_alone here
    exact ⟨w₂, visit, .nil _ _ _⟩
  have fine : Step.failures (Step.itinerary (959 + 1) (alone (.link lengthyName)).volume false ".") = [] := by
    rw [steps]
    rfl
  have scanned : Step.scanned (Step.itinerary (959 + 1) (alone (.link lengthyName)).volume false ".") =
      [Path.entry "." "d.m"] := by
    rw [steps]
    rfl
  rw [← scanned] at follows
  obtain ⟨a, w', run, done⟩ := exists_done_of_follows
    (.empty (fixingPlan.shown (alone (.link lengthyName)) ".")) fine follows
  refine ⟨a, w', ?_, ?_⟩
  · rw [run_walk (Volume.isFolder_of_resolve (Volume.resolve_dot rfl) rfl)]
    exact run
  · rw [done.files, scanned]
    rfl

theorem unreadablePlaces_beside : unreadablePlaces (beside (.link lengthyName)).volume
    (assigned besideFate [Path.entry "." "d.m", Path.entry "." lengthyName]) = [[lengthyName]] := by
  have listed : Step.Source.Listed (beside (.link lengthyName)).volume (".", [], lengthyName) :=
    ⟨Volume.resolve_dot rfl, rfl, List.mem_cons_of_mem _ List.mem_cons_self⟩
  have named : (beside (.link lengthyName)).volume.entryOf? (Path.entry "." lengthyName) = some [lengthyName] :=
    listed.entryOf? (isName_longName 250)
  have first : besideFate (Path.entry "." "d.m") = .scanned linkReport := if_pos rfl
  simp [unreadablePlaces, assigned, first, besideFate_lengthy, Outcome.isUnreadable, named]

/-- A link to the source with the lengthy name can be fixed, though the source itself cannot be: a walk reports
the link, and without the source it reports nothing. A link to a name that no entry can have stops the walk, and so
do folders that nest too deep. -/
theorem link_to_unreadable :
    (∃ a w', (walk Scan.plainSetup Rule.table ⟨false, false, true⟩ "." none).run (beside (.link lengthyName)) =
        .ok a w' ∧
      Trip fixingPlan (beside (.link lengthyName))
        (assigned besideFate [Path.entry "." "d.m", Path.entry "." lengthyName]) w' ∧
      unreadablePlaces (beside (.link lengthyName)).volume
        (assigned besideFate [Path.entry "." "d.m", Path.entry "." lengthyName]) = [[lengthyName]] ∧
      a.files = [linkReport]) ∧
    ((alone (.link lengthyName)).volume = (beside (.link lengthyName)).volume.without [[lengthyName]] ∧
      ∃ a w', (walk Scan.plainSetup Rule.table ⟨false, false, true⟩ "." none).run (alone (.link lengthyName)) =
        .ok a w' ∧ a.files = []) ∧
    (∀ a w', (walk Scan.plainSetup Rule.table ⟨false, false, true⟩ "." none).run overlong ≠ .ok a w') ∧
    ∀ a w', (walk Scan.plainSetup Rule.table ⟨true, false, true⟩ "." none).run (tower 1000) ≠ .ok a w' := by
  refine ⟨?_, ⟨(without_beside _).symm, run_alone⟩, fun a w' run => ?_, fun a w' run => ?_⟩
  · obtain ⟨a, w', run, trip, files⟩ := run_beside
    exact ⟨a, w', run, trip, unreadablePlaces_beside, files⟩
  · rw [walk] at run
    cases (run_overlong _ _).symm.trans run
  · rw [walk] at run
    cases (run_tower _ (by decide) (by decide)).symm.trans run

end Beside

end Walk

end MatlabTidy
