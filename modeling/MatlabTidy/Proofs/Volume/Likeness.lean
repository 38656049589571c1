import MatlabTidy.Proofs.Volume.Outline
import MatlabTidy.Proofs.Volume.Replace

/-!
# Volumes with the same outline

What is done to a volume in the course of a replacement depends on its outline alone, and so does whether it
can be done. In two volumes with the same outline a temporary file is made at the same place or not at all
(`Volume.makeTemporary_like`), and it can be moved over the target in both or in neither
(`Volume.replace_like`). The volumes have the same outline again afterwards.
-/

namespace MatlabTidy.Volume

variable {v v₂ : Volume} {place temp : Place} {path : String}

theorem outline_put (v : Volume) (place : Place) (node : Node) :
    (v.put place node).outline = v.outline.put place node.outline := by
  have taken : v.outline.nodes.any (·.1 = place) = v.nodes.any (·.1 = place) := by
    rw [outline, List.any_map]
    rfl
  unfold put
  rw [taken]
  split
  · simp only [outline, List.map_map]
    congr 1
    refine List.map_congr_left fun entry _ => ?_
    simp only [Function.comp_apply]
    split <;> rfl
  · simp [outline]

theorem outline_erase (v : Volume) (place : Place) : (v.erase place).outline = v.outline.erase place := by
  simp only [outline, erase, List.filter_map]
  rfl

theorem locate_outline (v : Volume) (path : String) : v.outline.locate path = v.locate path := by
  have start : v.outline.startOf path = v.startOf path := rfl
  unfold locate
  refine bind_congr fun _ => ?_
  cases (namesOf path).getLast? with
  | none => rfl
  | some last =>
    simp only [follow_outline, start, ne_eq, node?_outline_eq_folder]
    refine bind_congr fun parent => ?_
    rw [node?_outline]
    cases v.node? (parent ++ [last]) with
    | none => rfl
    | some node => cases node <;> rfl

/-- Questions that fail alike, and whose answers look alike. -/
theorem error_of_map_eq {α β : Type} {x y : Except AccessError α} {f : α → β} {e : AccessError}
    (same : y.map f = x.map f) (h : x = .error e) : y = .error e := by
  subst h
  cases y with
  | error e₂ => exact congrArg Except.error (Except.error.inj same)
  | ok b => cases same

theorem ok_of_map_eq {α β : Type} {x y : Except AccessError α} {f : α → β} {a : α}
    (same : y.map f = x.map f) (h : x = .ok a) : ∃ b, y = .ok b ∧ f b = f a := by
  subst h
  cases y with
  | error e => cases same
  | ok b => exact ⟨b, rfl, Except.ok.inj same⟩

section Like

variable (like : v₂.outline = v.outline)

include like

/-- What the outline tells is the same. -/
theorem eq_of_outline {α : Type} (f : Volume → α) (blind : ∀ v, f v.outline = f v) : f v₂ = f v := by
  rw [← blind v₂, like, blind]

/-- What stands at a place looks the same. -/
theorem node?_like (place : Place) :
    v.node? place = none ∧ v₂.node? place = none ∨
      ∃ node node₂, v.node? place = some node ∧ v₂.node? place = some node₂ ∧ node₂.outline = node.outline := by
  have same : (v₂.node? place).map Node.outline = (v.node? place).map Node.outline := by
    rw [← node?_outline, like, node?_outline]
  cases here : v.node? place with
  | none =>
    rw [here, Option.map_none, Option.map_eq_none_iff] at same
    exact .inl ⟨rfl, same⟩
  | some node =>
    rw [here] at same
    obtain ⟨node₂, here₂, outline⟩ := Option.map_eq_some_iff.1 same
    exact .inr ⟨node, node₂, rfl, here₂, outline⟩

theorem put_like (place : Place) {node node₂ : Node} (same : node₂.outline = node.outline) :
    (v₂.put place node₂).outline = (v.put place node).outline := by
  rw [outline_put, outline_put, like, same]

theorem erase_like (place : Place) : (v₂.erase place).outline = (v.erase place).outline := by
  rw [outline_erase, outline_erase, like]

/-- A file stands at a place in both volumes, or the same thing that is no file. -/
theorem file_like (place : Place) :
    (∃ bytes mode bytes₂ mode₂, v.node? place = some (.file bytes mode) ∧ v₂.node? place = some (.file bytes₂ mode₂)) ∨
      v₂.node? place = v.node? place ∧ ∀ bytes mode, v.node? place ≠ some (.file bytes mode) := by
  rcases node?_like like place with ⟨here, here₂⟩ | ⟨node, node₂, here, here₂, outline⟩
  · exact .inr ⟨by rw [here, here₂], by rw [here]; exact nofun⟩
  · cases node with
    | file bytes mode =>
      cases node₂ with
      | file bytes₂ mode₂ => exact .inl ⟨bytes, mode, bytes₂, mode₂, here, here₂⟩
      | folder => cases outline
      | link target => cases outline
    | folder => exact .inr ⟨by rw [here, here₂, Node.outline_eq_folder.1 outline], by rw [here]; exact nofun⟩
    | link target => exact .inr ⟨by rw [here, here₂, Node.outline_eq_link.1 outline], by rw [here]; exact nofun⟩

theorem write_like (place : Place) (bytes bytes₂ : List UInt8) :
    (v₂.write place bytes₂).outline = (v.write place bytes).outline := by
  unfold write
  rcases file_like like place with ⟨_, _, _, _, here, here₂⟩ | ⟨same, noFile⟩
  · rw [here, here₂]
    exact put_like like place rfl
  · rw [same]
    split
    · exact absurd ‹_› (noFile _ _)
    · exact like

theorem setMode_like (place : Place) (mode mode₂ : Nat) :
    (v₂.setMode place mode₂).outline = (v.setMode place mode).outline := by
  unfold setMode
  rcases file_like like place with ⟨_, _, _, _, here, here₂⟩ | ⟨same, noFile⟩
  · rw [here, here₂]
    exact put_like like place rfl
  · rw [same]
    split
    · exact absurd ‹_› (noFile _ _)
    · exact like

theorem withModeOf_like (temp : Place) (path : String) :
    (v₂.withModeOf temp path).outline = (v.withModeOf temp path).outline := by
  have known : (v₂.mode? path).isSome = (v.mode? path).isSome := by
    refine eq_of_outline like (fun v => (v.mode? path).isSome) fun v => ?_
    unfold mode?
    rw [resolve_outline]
    cases v.resolve (Path.ofString path).text with
    | error cause => rfl
    | ok place =>
      simp only [node?_outline]
      cases v.node? place with
      | none => rfl
      | some node => cases node <;> rfl
  unfold withModeOf
  cases owned : v.mode? path with
  | none =>
    rw [owned, Option.isSome_none, Option.isSome_eq_false_iff, Option.isNone_iff_eq_none] at known
    rw [known]
    exact like
  | some mode =>
    rw [owned] at known
    obtain ⟨mode₂, known⟩ := Option.isSome_iff_exists.1 known
    rw [known]
    exact setMode_like like temp mode mode₂

/-- A temporary file can be made beside the target in both volumes or in neither, and at the same place. -/
theorem makeTemporary_like (target : String) :
    (v₂.makeTemporary target).map (fun made => (made.1.outline, made.2)) =
      (v.makeTemporary target).map (fun made => (made.1.outline, made.2)) := by
  have here : v₂.hereText = v.hereText := eq_of_outline like hereText fun _ => rfl
  have resolves : ∀ path, v₂.resolve path = v.resolve path := fun path =>
    eq_of_outline like (fun v => v.resolve path) fun v => v.resolve_outline path
  have folder : ∀ place, (v₂.node? place = some .folder) = (v.node? place = some .folder) := fun place =>
    eq_of_outline like (fun v => v.node? place = some .folder) fun v => propext node?_outline_eq_folder
  have fresh : ∀ folder name, v₂.freshName folder name = v.freshName folder name := by
    intro folder name
    refine eq_of_outline like (fun v => v.freshName folder name) fun v => ?_
    have size : v.outline.nodes.length = v.nodes.length := List.length_map _
    unfold freshName
    simp only [node?_outline, size, Option.isNone_map]
  unfold makeTemporary
  dsimp only
  rw [here, resolves]
  generalize checkText _ = text
  generalize v.resolve _ = resolved
  -- failures first, since what follows on them differs between the volumes
  cases text with
  | error cause => dsimp only [bind, Except.bind]
  | ok _ =>
    cases resolved with
    | error cause => dsimp only [bind, Except.bind]
    | ok place =>
      dsimp only [bind, Except.bind]
      simp only [folder, fresh]
      split
      · rfl
      · split
        · exact congrArg (fun outline => Except.ok (outline, _)) (put_like like _ rfl)
        · rfl

/-- A file can be moved over the target in both volumes or in neither. -/
theorem replace_like (temp : Place) (target : String) :
    (v₂.replace temp target).map outline = (v.replace temp target).map outline := by
  rw [replace_eq, replace_eq]
  have moded := withModeOf_like like temp target
  generalize v.withModeOf temp target = u at moded ⊢
  generalize v₂.withModeOf temp target = u₂ at moded ⊢
  rw [eq_of_outline moded (fun u => u.locate target) fun u => u.locate_outline target]
  cases u.locate target with
  | error cause => rfl
  | ok place =>
    have moved : ∀ {node node₂ : Node}, node₂.outline = node.outline →
        ((u₂.put place node₂).erase temp).outline = ((u.put place node).erase temp).outline :=
      fun outline => erase_like (put_like moded place outline) temp
    dsimp only [bind, Except.bind]
    rcases node?_like moded temp with ⟨gone, gone₂⟩ | ⟨node, node₂, there, there₂, outline⟩
    · rw [gone, gone₂]
    · rw [there, there₂]
      rcases node?_like moded place with ⟨free, free₂⟩ | ⟨old, old₂, taken, taken₂, same⟩
      · rw [free, free₂]
        exact congrArg Except.ok (moved outline)
      · rw [taken, taken₂]
        cases old with
        | folder =>
          rw [Node.outline_eq_folder.1 same]
        | file bytes mode =>
          cases old₂ with
          | file bytes₂ mode₂ => exact congrArg Except.ok (moved outline)
          | folder => cases same
          | link target => cases same
        | link target =>
          rw [Node.outline_eq_link.1 same]
          exact congrArg Except.ok (moved outline)

end Like

end MatlabTidy.Volume
