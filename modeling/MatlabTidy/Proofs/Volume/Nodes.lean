import MatlabTidy.Volume.Access
import Mathlib.Data.List.Nodup
import Mathlib.Data.List.Perm.Subperm

/-!
# What stands at a place after a change

Reading a volume after `put`, `erase`, `write` and `setMode`, place by place. `Volume.Differs` says that
two volumes differ at one place at most; every change of a volume that a replacement in place makes is
of this kind. The name that is chosen for a temporary file is free (`Volume.node?_freshName`): among one
name more than the volume has places, one is not taken.
-/

namespace MatlabTidy.Volume

variable {v v' : Volume} {place other : Place} {node : Node}

@[simp] theorem node?_top (v : Volume) : v.node? [] = some .folder := rfl

theorem node?_of_ne_nil (ne : place ≠ []) : v.node? place = v.nodes.lookup place := if_neg ne

/-- An entry that is not looked for does not matter. -/
theorem lookup_map_of_ne (ne : other ≠ place) (nodes : List (Place × Node)) :
    (nodes.map fun entry => if entry.1 = place then (place, node) else entry).lookup other =
      nodes.lookup other := by
  induction nodes with
  | nil => rfl
  | cons entry nodes ih =>
    obtain ⟨key, value⟩ := entry
    rw [List.map_cons]
    by_cases here : key = place
    · have skip : (other == key) = false := by
        rw [here]
        exact beq_eq_false_iff_ne.2 ne
      have skip' : (other == place) = false := beq_eq_false_iff_ne.2 ne
      simp only [here, if_true, List.lookup_cons, skip', ih]
    · simp only [here, if_false, List.lookup_cons, ih]

theorem lookup_map_self (nodes : List (Place × Node)) (mem : nodes.any (·.1 = place) = true) :
    (nodes.map fun entry => if entry.1 = place then (place, node) else entry).lookup place = some node := by
  induction nodes with
  | nil => cases mem
  | cons entry nodes ih =>
    obtain ⟨key, value⟩ := entry
    rw [List.map_cons]
    by_cases here : key = place
    · simp [here]
    · have miss : (place == key) = false := beq_eq_false_iff_ne.2 (Ne.symm here)
      have rest : nodes.any (·.1 = place) = true := by simpa [here] using mem
      simp only [here, if_false, List.lookup_cons, miss, ih rest]

theorem lookup_of_not_any {nodes : List (Place × Node)} (absent : ¬ nodes.any (·.1 = place) = true) :
    nodes.lookup place = none := by
  induction nodes with
  | nil => rfl
  | cons entry nodes ih =>
    obtain ⟨key, value⟩ := entry
    simp only [List.any_cons, Bool.or_eq_true, decide_eq_true_eq, not_or] at absent
    have miss : (place == key) = false := beq_eq_false_iff_ne.2 (Ne.symm absent.1)
    rw [List.lookup_cons, miss, ih (by simpa using absent.2)]

/-- A node that was put somewhere stands there. -/
theorem node?_put_self (ne : place ≠ []) (node : Node) : (v.put place node).node? place = some node := by
  rw [node?_of_ne_nil ne, put]
  split
  · rename_i mem
    exact lookup_map_self v.nodes mem
  · rename_i absent
    rw [List.lookup_append, lookup_of_not_any absent]
    simp

/-- Other places are as they were. -/
theorem node?_put_of_ne (ne : other ≠ place) (node : Node) : (v.put place node).node? other = v.node? other := by
  by_cases top : other = []
  · rw [top, node?_top, node?_top]
  · rw [node?_of_ne_nil top, node?_of_ne_nil top, put]
    split
    · exact lookup_map_of_ne ne v.nodes
    · have miss : (other == place) = false := beq_eq_false_iff_ne.2 ne
      rw [List.lookup_append]
      simp [List.lookup_cons, miss]

theorem node?_erase_self (ne : place ≠ []) : (v.erase place).node? place = none := by
  rw [node?_of_ne_nil ne]
  refine lookup_of_not_any ?_
  simp [erase]

theorem node?_erase_of_ne (ne : other ≠ place) : (v.erase place).node? other = v.node? other := by
  by_cases top : other = []
  · rw [top, node?_top, node?_top]
  · rw [node?_of_ne_nil top, node?_of_ne_nil top, erase]
    dsimp only
    induction v.nodes with
    | nil => rfl
    | cons entry nodes ih =>
      obtain ⟨key, value⟩ := entry
      by_cases here : key = place
      · have miss : (other == key) = false := by
          rw [here]
          exact beq_eq_false_iff_ne.2 ne
        rw [List.filter_cons_of_neg (by simp [here]), List.lookup_cons, miss, ih]
      · rw [List.filter_cons_of_pos (by simp [here]), List.lookup_cons, List.lookup_cons, ih]

/-- What was put at a place is gone with whatever stood there before. -/
theorem erase_put_self (v : Volume) (place : Place) (node : Node) :
    (v.put place node).erase place = v.erase place := by
  unfold put erase
  split
  · rw [Volume.mk.injEq]
    refine ⟨?_, rfl, rfl⟩
    dsimp only
    induction v.nodes with
    | nil => rfl
    | cons entry nodes ih =>
      by_cases here : entry.1 = place
      · simpa [here] using ih
      · simpa [here] using ih
  · simp

theorem erase_put_of_ne (ne : place ≠ other) (v : Volume) (node : Node) :
    (v.put place node).erase other = (v.erase other).put place node := by
  have same : (v.erase other).nodes.any (·.1 = place) = v.nodes.any (·.1 = place) := by
    rw [erase, Bool.eq_iff_iff]
    simp only [List.any_eq_true, List.mem_filter, decide_eq_true_eq]
    constructor
    · rintro ⟨entry, ⟨mem, -⟩, here⟩
      exact ⟨entry, mem, here⟩
    · rintro ⟨entry, mem, here⟩
      exact ⟨entry, ⟨mem, here ▸ ne⟩, here⟩
  unfold put
  rw [same]
  split
  · unfold erase
    rw [Volume.mk.injEq]
    refine ⟨?_, rfl, rfl⟩
    dsimp only
    rw [List.filter_map]
    congr 2
    funext entry
    by_cases here : entry.1 = place
    · simp [here, ne]
    · simp [here]
  · simp [erase, ne]

/-- There is nothing to remove at a free place. -/
theorem erase_of_free (free : v.node? place = none) : v.erase place = v := by
  have ne : place ≠ [] := by
    rintro rfl
    cases free
  rw [node?_of_ne_nil ne, List.lookup_eq_none_iff] at free
  unfold erase
  rw [List.filter_eq_self.2]
  intro entry mem
  have apart : place ≠ entry.1 := bne_iff_ne.1 (free entry mem)
  exact decide_eq_true (Ne.symm apart)

@[simp] theorem here_put (v : Volume) (place : Place) (node : Node) : (v.put place node).here = v.here := by
  unfold put
  split <;> rfl

/-- Two volumes that differ at one place at most. -/
structure Differs (v v' : Volume) (place : Place) : Prop where
  here : v'.here = v.here
  others : ∀ other, other ≠ place → v'.node? other = v.node? other

theorem Differs.trans {v'' : Volume} (h : Differs v v' place) (h' : Differs v' v'' place) :
    Differs v v'' place :=
  ⟨h'.here.trans h.here, fun other ne => (h'.others other ne).trans (h.others other ne)⟩

theorem Differs.symm (h : Differs v v' place) : Differs v' v place :=
  ⟨h.here.symm, fun other ne => (h.others other ne).symm⟩

theorem differs_put (v : Volume) (place : Place) (node : Node) : Differs v (v.put place node) place :=
  ⟨here_put v place node, fun _ ne => node?_put_of_ne ne node⟩

theorem temporaryName_injective {target : String} {m n : Nat}
    (h : temporaryName target m = temporaryName target n) : m = n := by
  unfold temporaryName at h
  rw [String.append_left_inj, String.append_right_inj] at h
  have digits : Nat.toDigits 10 m = Nat.toDigits 10 n := by
    rw [← Nat.toList_repr, ← Nat.toList_repr]
    exact congrArg String.toList h
  rw [← Nat.ofDigitChars_ten_toDigits (n := m), digits, Nat.ofDigitChars_ten_toDigits]

/-- A place at which something stands is one of the volume's. -/
theorem mem_of_node? (ne : place ≠ []) (h : ¬ v.node? place = none) :
    place ∈ v.nodes.map (·.1) := by
  by_contra missing
  have absent : v.nodes.lookup place = none := by
    refine lookup_of_not_any fun mem => missing ?_
    obtain ⟨entry, mem, key⟩ := List.any_eq_true.1 mem
    exact List.mem_map.2 ⟨entry, mem, of_decide_eq_true key⟩
  rw [node?_of_ne_nil ne] at h
  exact h absent

/-- The name of a new temporary file is free. -/
theorem node?_freshName (v : Volume) (folder : Place) (target : String) :
    v.node? (folder ++ [v.freshName folder target]) = none := by
  unfold freshName
  cases found : (List.range (v.nodes.length + 1)).find? fun n =>
      (v.node? (folder ++ [temporaryName target n])).isNone with
  | some n =>
    have free := List.find?_some found
    exact Option.isNone_iff_eq_none.1 free
  | none =>
    have taken := List.find?_eq_none.1 found
    have distinct : ((List.range (v.nodes.length + 1)).map fun n =>
        folder ++ [temporaryName target n]).Nodup := by
      refine List.Nodup.map (fun m n same => ?_) List.nodup_range
      exact temporaryName_injective (List.cons.inj (List.append_cancel_left same)).1
    have places : ((List.range (v.nodes.length + 1)).map fun n => folder ++ [temporaryName target n]) ⊆
        v.nodes.map (·.1) := by
      intro place mem
      obtain ⟨n, below, rfl⟩ := List.mem_map.1 mem
      exact mem_of_node? (by simp) (by simpa using taken n below)
    have length := (distinct.subperm places).length_le
    rw [List.length_map, List.length_map, List.length_range] at length
    omega

end MatlabTidy.Volume
