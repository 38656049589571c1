import MatlabTidy.Proofs.Volume.Texts
import MatlabTidy.Run.Itinerary

/-!
# The outline of a volume

The outline of a volume is what is left of it when nobody looks into the files. Where path texts lead, what
a folder lists and which way a walk takes is told by the outline alone (`Volume.resolve_outline`,
`Volume.isFolder_outline`, `Step.itinerary_outline`).

On a tree of files and folders (`Volume.Tree`), a source that can be read stands at the entry that its path
text names (`Volume.Tree.names_of_read`), and other contents for it change nothing else: the outline stays
and so does all that is no source (`Volume.Kept`).
-/

namespace MatlabTidy

/-- A file as it looks from outside. -/
def Node.outline : Node → Node
  | .file _ _ => .file [] 0
  | node => node

@[simp] theorem Node.outline_eq_folder {node : Node} : node.outline = .folder ↔ node = .folder := by
  cases node <;> simp [outline]

@[simp] theorem Node.outline_eq_link {node : Node} {target : String} :
    node.outline = .link target ↔ node = .link target := by
  cases node <;> simp [outline]

namespace Volume

/-- The volume with nothing in its files. -/
def outline (v : Volume) : Volume := { v with nodes := v.nodes.map fun entry => (entry.1, entry.2.outline) }

variable {v v' : Volume} {place : Place} {path : String}

@[simp] theorem here_outline (v : Volume) : v.outline.here = v.here := rfl

theorem node?_outline (v : Volume) (place : Place) : v.outline.node? place = (v.node? place).map Node.outline := by
  by_cases top : place = []
  · rw [top]
    rfl
  · rw [node?_of_ne_nil top, node?_of_ne_nil top, outline]
    dsimp only
    induction v.nodes with
    | nil => rfl
    | cons entry nodes ih =>
      rw [List.map_cons, List.lookup_cons, List.lookup_cons, ih]
      cases place == entry.1 <;> rfl

theorem node?_outline_eq_folder : v.outline.node? place = some .folder ↔ v.node? place = some .folder := by
  rw [node?_outline]
  cases v.node? place with
  | none => exact Iff.rfl
  | some node => simp

theorem follow_outline (v : Volume) (followLast : Bool) (budget : Nat) (place : Place) (names : List String) :
    v.outline.follow followLast budget place names = v.follow followLast budget place names := by
  have through : ∀ {place : Place}, ¬ v.node? place ≠ some .folder → ¬ v.outline.node? place ≠ some .folder :=
    fun folder => not_not.2 (node?_outline_eq_folder.2 (not_not.1 folder))
  fun_induction Volume.follow v followLast budget place names with
  | case1 budget place => rw [follow]
  | case2 budget place step rest stop => rw [follow, if_pos (mt node?_outline_eq_folder.1 stop)]
  | case3 budget place rest folder ih =>
    rw [follow, if_neg (through folder), if_pos rfl, ih]
  | case4 budget place rest folder single ih =>
    rw [follow, if_neg (through folder), if_neg single, if_pos rfl, ih]
  | case5 budget place step rest folder single double long =>
    rw [follow, if_neg (through folder), if_neg single, if_neg double, if_pos long]
  | case6 budget place step rest folder single double short missing =>
    rw [follow, if_neg (through folder), if_neg single, if_neg double, if_neg short, node?_outline, missing]
    rfl
  | case7 budget place step rest folder single double short target here stop =>
    rw [follow, if_neg (through folder), if_neg single, if_neg double, if_neg short, node?_outline, here]
    exact if_pos stop
  | case8 place step rest folder single double short target here further =>
    rw [follow, if_neg (through folder), if_neg single, if_neg double, if_neg short, node?_outline, here]
    exact if_neg further
  | case9 place step rest folder single double short target here further budget ih =>
    rw [follow, if_neg (through folder), if_neg single, if_neg double, if_neg short, node?_outline, here]
    exact (if_neg further).trans ih
  | case10 budget place step rest folder single double short node solid here ih =>
    rw [follow, if_neg (through folder), if_neg single, if_neg double, if_neg short, node?_outline, here]
    cases node with
    | link target => exact absurd rfl (solid target)
    | file bytes mode => exact ih
    | folder => exact ih

theorem resolve_outline (v : Volume) (path : String) : v.outline.resolve path = v.resolve path := by
  unfold resolve
  rw [follow_outline]
  rfl

/-- A question that the outside of a node answers. -/
theorem asks_outline (v : Volume) (path : String) {test : Node → Bool} (blind : ∀ node, test node.outline = test node) :
    v.outline.asks path test = v.asks path test := by
  have same : ∀ place, (v.outline.node? place).any test = (v.node? place).any test := by
    intro place
    rw [node?_outline]
    cases v.node? place with
    | none => rfl
    | some node => exact blind node
  unfold asks
  simp only [resolve_outline, same]

theorem isFolder_outline (v : Volume) (path : String) : v.outline.isFolder path = v.isFolder path :=
  asks_outline v path fun node => by cases node <;> rfl

theorem isFile_outline (v : Volume) (path : String) : v.outline.isFile path = v.isFile path :=
  asks_outline v path fun node => by cases node <;> rfl

theorem identity_outline (v : Volume) (path : String) : v.outline.identity path = v.identity path := by
  rw [identity, identity, resolve_outline]

theorem places_outline (v : Volume) : v.outline.nodes.map (·.1) = v.nodes.map (·.1) := by
  rw [outline, List.map_map]
  rfl

theorem entries_outline (v : Volume) (path : String) : v.outline.entries path = v.entries path := by
  have names : ∀ folder, v.outline.namesIn folder = v.namesIn folder := by
    intro folder
    unfold namesIn
    rw [places_outline]
    rfl
  unfold entries
  simp only [resolve_outline, node?_outline_eq_folder, names]

end Volume

namespace Step

variable (v : Volume) (recursive : Bool)

theorem ofEntries_outline (enter : List Place → String → List Step × List Place) (visited : List Place)
    (entries : List String) :
    ofEntries v.outline recursive enter visited entries = ofEntries v recursive enter visited entries := by
  induction entries generalizing visited with
  | nil => rw [ofEntries, ofEntries]
  | cons entry rest ih =>
    rw [ofEntries, ofEntries, Volume.isFolder_outline, Volume.identity_outline]
    simp only [ih]

theorem ofFolder_outline (depth : Nat) (visited : List Place) (path : String) :
    ofFolder v.outline recursive depth visited path = ofFolder v recursive depth visited path := by
  induction depth generalizing visited path with
  | zero => rw [ofFolder, ofFolder]
  | succ depth ih =>
    have inside : ofFolder v.outline recursive depth = ofFolder v recursive depth := by
      funext visited path
      exact ih visited path
    rw [ofFolder, ofFolder, Volume.identity_outline, Volume.entries_outline, inside]
    simp only [ofEntries_outline]

/-- The way of a walk is told by the outline. -/
theorem itinerary_outline (limit : Nat) (path : String) :
    itinerary limit v.outline recursive path = itinerary limit v recursive path := by
  rw [itinerary, itinerary, ofFolder_outline]

end Step

namespace Volume

variable {v v' v'' : Volume} {place parent : Place} {path last : String} {bytes : List UInt8}

/-- A volume of files and folders, in which nothing stands twice. -/
structure Tree (v : Volume) : Prop where
  unlinked : ∀ entry ∈ v.nodes, ∀ target, entry.2 ≠ .link target
  places : (v.nodes.map (·.1)).Nodup

theorem mem_of_node?_eq_some {node : Node} (ne : place ≠ []) (h : v.node? place = some node) :
    (place, node) ∈ v.nodes := by
  rw [node?_of_ne_nil ne, List.lookup_eq_some_iff] at h
  obtain ⟨before, behind, whole, -⟩ := h
  rw [whole]
  exact List.mem_append_right _ List.mem_cons_self

theorem Tree.not_link (tree : v.Tree) (target : String) : v.node? place ≠ some (.link target) := by
  intro link
  have ne : place ≠ [] := by
    rintro rfl
    cases link
  exact tree.unlinked _ (mem_of_node?_eq_some ne link) target rfl

/-- Whether a volume is a tree is told by its outline. -/
theorem Tree.of_outline (tree : v.Tree) (same : v'.outline = v.outline) : v'.Tree where
  unlinked := by
    intro entry mem target link
    have seen : (entry.1, entry.2.outline) ∈ v.outline.nodes := by
      rw [← same]
      exact List.mem_map_of_mem mem
    obtain ⟨other, mem', equal⟩ := List.mem_map.1 seen
    obtain ⟨-, outline⟩ := Prod.mk.inj equal
    rw [link] at outline
    exact tree.unlinked other mem' target (Node.outline_eq_link.1 outline)
  places := by
    rw [← places_outline, same, places_outline]
    exact tree.places

/-- Without links, a walk whose last step is a name ends at the entry of that name. -/
theorem Tree.end_of_leads (tree : v.Tree) {budget left : Nat} {start : Place} {names : List String}
    (h : Leads v budget start (names ++ [last]) place left) (single : last ≠ ".") (double : last ≠ "..") :
    ∃ parent, Leads v budget start names parent left ∧ v.node? parent = some .folder ∧ place = parent ++ [last] ∧
      ¬ mostNameBytes < last.utf8ByteSize := by
  obtain ⟨parent, between, first, second⟩ := h.cut
  cases second with
  | dot _ dot _ => exact absurd dot single
  | up _ _ dots _ => exact absurd dots double
  | link _ _ _ _ here _ => exact absurd here (tree.not_link _)
  | node folder _ _ small _ _ more =>
    cases more
    exact ⟨parent, first, folder, rfl, small⟩

/-- A walk whose last step is a single dot ends at a folder. -/
theorem Leads.folder_of_dot {budget left : Nat} {start : Place} {names : List String}
    (h : Leads v budget start (names ++ ["."]) place left) : v.node? place = some .folder := by
  obtain ⟨middle, between, -, second⟩ := h.cut
  obtain ⟨rfl, -⟩ := second.eq_of_dot
  exact second.folder_of_cons

/-- The steps to what is no folder are the names of the path text, and the last one is no dot. -/
theorem Leads.steps_of_solid {budget left : Nat} {start : Place} (walk : Leads v budget start (steps path) place left)
    (solid : v.node? place ≠ some .folder) (named : (namesOf path).getLast? = some last) :
    endsInSlash path = false ∧ steps path = (namesOf path).dropLast ++ [last] ∧ last ≠ "." := by
  have names := (List.dropLast_append_getLast? last named).symm
  have some : namesOf path ≠ [] := by
    rw [names]
    simp
  have unslashed : endsInSlash path = false := by
    by_contra slash
    rw [steps] at walk
    simp only [ne_eq, some, not_false_eq_true, Bool.not_eq_false _ ▸ slash, and_self, if_true] at walk
    exact solid walk.folder_of_dot
  have steps_eq : steps path = (namesOf path).dropLast ++ [last] := by
    rw [steps, unslashed]
    simpa using names
  refine ⟨unslashed, steps_eq, ?_⟩
  rintro rfl
  rw [steps_eq] at walk
  exact solid walk.folder_of_dot

/-- A source has a last name. -/
theorem exists_last_of_isSource (source : isSource path = true) : ∃ last, (namesOf path).getLast? = some last := by
  cases named : (namesOf path).getLast? with
  | none =>
    have none : (Path.ofString path).name = "" := by
      rw [Path.name, Path.ofString, parts_eq, List.getLast?_eq_none_iff.1 named]
      rfl
    rw [isSource, Path.suffix, none] at source
    cases source
  | some last => exact ⟨last, rfl⟩

/-- A source that can be read stands at the entry that its path text names. -/
theorem Tree.names_of_read (tree : v.Tree) (source : isSource path = true) (read : v.read path = .ok bytes) :
    ∃ parent last mode, Names v path parent last ∧ isSource last = true ∧
      v.node? (parent ++ [last]) = some (.file bytes mode) := by
  obtain ⟨place, mode, resolved, file⟩ := read_eq_ok.1 read
  obtain ⟨text, left, walk⟩ := resolve_eq_ok.1 resolved
  obtain ⟨last, named⟩ := exists_last_of_isSource source
  obtain ⟨unslashed, steps_eq, single⟩ := walk.steps_of_solid (by simp [file]) named
  have extension : isSource path = isSource last := by
    rw [isSource, isSource, suffix_of_getLast? named single]
  have source' : isSource last = true := extension ▸ source
  have double : last ≠ ".." := by
    rintro rfl
    revert source'
    decide
  rw [steps_eq] at walk
  obtain ⟨parent, first, folder, rfl, small⟩ := tree.end_of_leads walk single double
  have names := (List.dropLast_append_getLast? last named).symm
  exact ⟨parent, last, mode, ⟨text, names, unslashed, single, double, small, ⟨left, first⟩, folder⟩, source', file⟩

/-- The volumes differ in the contents of sources only. -/
structure Kept (v v' : Volume) : Prop where
  outline : v'.outline = v.outline
  others : ∀ parent last, isSource last = false → v'.node? (parent ++ [last]) = v.node? (parent ++ [last])

namespace Kept

theorem refl (v : Volume) : Kept v v := ⟨rfl, fun _ _ _ => rfl⟩

theorem trans (h : Kept v v') (h' : Kept v' v'') : Kept v v'' :=
  ⟨h'.outline.trans h.outline, fun parent last other =>
    (h'.others parent last other).trans (h.others parent last other)⟩

/-- What the outline tells is the same. -/
theorem same {α : Type} (h : Kept v v') (f : Volume → α) (blind : ∀ v, f v.outline = f v) : f v' = f v := by
  rw [← blind v', h.outline, blind]

theorem here (h : Kept v v') : v'.here = v.here := h.same Volume.here here_outline

/-- A path text whose last name is that of no source reads the same. -/
theorem read (h : Kept v v') (tree : v.Tree) (steps_eq : ∃ names, steps path = names ++ [last])
    (single : last ≠ ".") (double : last ≠ "..") (other : isSource last = false) : v'.read path = v.read path := by
  have resolve : v'.resolve path = v.resolve path := h.same (·.resolve path) fun v => resolve_outline v path
  rw [Volume.read, Volume.read, resolve]
  cases resolved : v.resolve path with
  | error cause => rfl
  | ok place =>
    obtain ⟨-, left, walk⟩ := resolve_eq_ok.1 resolved
    obtain ⟨names, steps_eq⟩ := steps_eq
    rw [steps_eq] at walk
    obtain ⟨parent, -, -, rfl, -⟩ := tree.end_of_leads walk single double
    have same := h.others parent last other
    simp only [bind, Except.bind, same]

end Kept

/-- New contents for a source change nothing else. -/
theorem Tree.kept_put (tree : v.Tree) {mode : Nat} (file : v.node? (parent ++ [last]) = some (.file bytes mode))
    (source : isSource last = true) (out : List UInt8) (mode' : Nat) :
    Kept v (v.put (parent ++ [last]) (.file out mode')) where
  outline := by
    have mem := mem_of_node?_eq_some (by simp) file
    have present : v.nodes.any (·.1 = parent ++ [last]) = true :=
      List.any_eq_true.2 ⟨_, mem, decide_eq_true rfl⟩
    rw [put, if_pos present, outline, outline, Volume.mk.injEq]
    refine ⟨?_, rfl, rfl⟩
    dsimp only
    rw [List.map_map]
    refine List.map_congr_left fun entry mem' => ?_
    by_cases here : entry.1 = parent ++ [last]
    · obtain rfl := List.inj_on_of_nodup_map tree.places mem' mem here
      simp [Node.outline]
    · simp [here]
  others := by
    intro parent' last' other
    refine node?_put_of_ne (fun same => ?_) _
    obtain ⟨-, rfl⟩ := List.append_inj' same rfl |>.imp_right List.cons.inj |>.imp_right And.left
    rw [source] at other
    cases other

/-- A source reads as before after a file was put over another; if the two are one, it reads what was put. -/
theorem Tree.read_put (tree : v.Tree) {old : List UInt8} {mode : Nat} (file : v.node? place = some (.file old mode))
    (source : isSource path = true) (read : v.read path = .ok bytes) (out : List UInt8) (mode' : Nat) :
    (v.put place (.file out mode')).read path = .ok bytes ∨
      bytes = old ∧ (v.put place (.file out mode')).read path = .ok out := by
  obtain ⟨parent, last, mode₁, names, -, here⟩ := tree.names_of_read source read
  have names' := names.frame (differs_put v place (.file out mode')) (blocks_of_file file)
  by_cases same : parent ++ [last] = place
  · subst same
    rw [here] at file
    cases file
    exact .inr ⟨rfl, names'.read (node?_put_self (by simp) _)⟩
  · left
    have there : (v.put place (.file out mode')).node? (parent ++ [last]) = some (.file bytes mode₁) := by
      rw [node?_put_of_ne same, here]
    exact names'.read there

end Volume

end MatlabTidy
