import MatlabTidy.Proofs.Volume.Nodes

/-!
# Walks through a volume

`Volume.Leads` is the resolution of path steps as a relation: steps lead from a place to a place, with
some links left that may still be followed (`Volume.leads_of_follow`, `Leads.follow`). Walks are put together and cut
(`Leads.append`, `Leads.cut`), and where a walk leads does not depend on the links that may be followed
(`Leads.unique`).

A place blocks walks if nothing leads through it to a folder: it is free, or a file stands there, or a
link that leads to no folder. A walk to a folder does not notice what stands at a place that blocks
(`Leads.frame`).
-/

namespace MatlabTidy.Volume

/-- The place from which the steps of a link at an entry of a folder are followed. -/
def linkStart (folder : Place) (target : String) : Place := if isAbsolute target then [] else folder

/-- The steps lead from one place to another; the numbers are the links that may be followed before
and after. -/
inductive Leads (v : Volume) : Nat → Place → List String → Place → Nat → Prop where
  | done (budget : Nat) (place : Place) : Leads v budget place [] place budget
  | dot {budget left : Nat} {place last : Place} {step : String} {rest : List String}
      (folder : v.node? place = some .folder) (single : step = ".")
      (more : Leads v budget place rest last left) : Leads v budget place (step :: rest) last left
  | up {budget left : Nat} {place last : Place} {step : String} {rest : List String}
      (folder : v.node? place = some .folder) (single : step ≠ ".") (double : step = "..")
      (more : Leads v budget place.dropLast rest last left) : Leads v budget place (step :: rest) last left
  | link {budget left : Nat} {place last : Place} {step : String} {rest : List String} {target : String}
      (folder : v.node? place = some .folder) (single : step ≠ ".") (double : step ≠ "..")
      (small : ¬ mostNameBytes < step.utf8ByteSize)
      (here : v.node? (place ++ [step]) = some (.link target))
      (more : Leads v budget (linkStart place target) (steps target ++ rest) last left) :
      Leads v (budget + 1) place (step :: rest) last left
  | node {budget left : Nat} {place last : Place} {step : String} {rest : List String} {node : Node}
      (folder : v.node? place = some .folder) (single : step ≠ ".") (double : step ≠ "..")
      (small : ¬ mostNameBytes < step.utf8ByteSize)
      (here : v.node? (place ++ [step]) = some node) (solid : ∀ target, node ≠ .link target)
      (more : Leads v budget (place ++ [step]) rest last left) :
      Leads v budget place (step :: rest) last left

variable {v v' : Volume} {budget left : Nat} {place last other : Place} {names more : List String}

/-! What following a step comes to, by what the step is. -/

section Steps

variable {step target : String} {rest : List String} {node : Node}
variable (folder : v.node? place = some .folder)

include folder

theorem follow_dot (single : step = ".") (budget : Nat) :
    v.follow true budget place (step :: rest) = v.follow true budget place rest := by
  rw [Volume.follow, if_neg (not_not.2 folder), if_pos single]

theorem follow_up (single : step ≠ ".") (double : step = "..") (budget : Nat) :
    v.follow true budget place (step :: rest) = v.follow true budget place.dropLast rest := by
  rw [Volume.follow, if_neg (not_not.2 folder), if_neg single, if_pos double]

variable (single : step ≠ ".") (double : step ≠ "..")

include single double

theorem follow_long (long : mostNameBytes < step.utf8ByteSize) (budget : Nat) :
    v.follow true budget place (step :: rest) = .error .nameTooLong := by
  rw [Volume.follow, if_neg (not_not.2 folder), if_neg single, if_neg double, if_pos long]

variable (small : ¬ mostNameBytes < step.utf8ByteSize)

include small

theorem follow_none (none : v.node? (place ++ [step]) = none) (budget : Nat) :
    v.follow true budget place (step :: rest) = .error .missing := by
  rw [Volume.follow, if_neg (not_not.2 folder), if_neg single, if_neg double, if_neg small, none]

theorem follow_link_zero (here : v.node? (place ++ [step]) = some (.link target)) :
    v.follow true 0 place (step :: rest) = .error .tooManyLinks := by
  have onward : ¬ (rest = [] ∧ (!true) = true) := fun stop => Bool.false_ne_true stop.2
  rw [Volume.follow, if_neg (not_not.2 folder), if_neg single, if_neg double, if_neg small, here]
  exact if_neg onward

theorem follow_link (here : v.node? (place ++ [step]) = some (.link target)) (budget : Nat) :
    v.follow true (budget + 1) place (step :: rest) =
      v.follow true budget (linkStart place target) (steps target ++ rest) := by
  have onward : ¬ (rest = [] ∧ (!true) = true) := fun stop => Bool.false_ne_true stop.2
  rw [Volume.follow, if_neg (not_not.2 folder), if_neg single, if_neg double, if_neg small, here]
  exact if_neg onward

theorem follow_node (here : v.node? (place ++ [step]) = some node) (solid : ∀ target, node ≠ .link target)
    (budget : Nat) :
    v.follow true budget place (step :: rest) = v.follow true budget (place ++ [step]) rest := by
  rw [Volume.follow, if_neg (not_not.2 folder), if_neg single, if_neg double, if_neg small, here]
  cases node with
  | link target => exact absurd rfl (solid target)
  | file bytes mode => rfl
  | folder => rfl

end Steps

/-- Following the steps is walking. -/
theorem leads_of_follow (h : v.follow true budget place names = .ok last) :
    ∃ left, Leads v budget place names last left := by
  fun_induction Volume.follow v true budget place names with
  | case1 budget place =>
    cases h
    exact ⟨budget, .done budget _⟩
  | case2 => cases h
  | case3 budget place rest folder ih =>
    obtain ⟨left, walk⟩ := ih h
    exact ⟨left, .dot (not_not.1 folder) rfl walk⟩
  | case4 budget place rest folder single ih =>
    obtain ⟨left, walk⟩ := ih h
    exact ⟨left, .up (not_not.1 folder) single rfl walk⟩
  | case5 => cases h
  | case6 => cases h
  | case7 budget place step rest folder single double small target here stop => cases stop.2
  | case8 => cases h
  | case9 place step rest folder single double small target here _ budget ih =>
    obtain ⟨left, walk⟩ := ih h
    exact ⟨left, .link (not_not.1 folder) single double small here walk⟩
  | case10 budget place step rest folder single double small node solid here ih =>
    obtain ⟨left, walk⟩ := ih h
    exact ⟨left, .node (not_not.1 folder) single double small here solid walk⟩

theorem Leads.follow (h : Leads v budget place names last left) :
    v.follow true budget place names = .ok last := by
  induction h with
  | done budget place => rw [Volume.follow]
  | dot folder single _ ih => rw [follow_dot folder single, ih]
  | up folder single double _ ih => rw [follow_up folder single double, ih]
  | link folder single double small here _ ih => rw [follow_link folder single double small here, ih]
  | node folder single double small here solid _ ih => rw [follow_node folder single double small here solid, ih]

namespace Leads

/-- Steps that follow a walk go on from its end. -/
theorem follow_append (h : Leads v budget place names last left) (more : List String) :
    v.follow true budget place (names ++ more) = v.follow true left last more := by
  induction h with
  | done budget place => rfl
  | dot folder single _ ih => rw [List.cons_append, follow_dot folder single, ih]
  | up folder single double _ ih => rw [List.cons_append, follow_up folder single double, ih]
  | link folder single double small here _ ih =>
    rw [List.cons_append, follow_link folder single double small here, ← List.append_assoc, ih]
  | node folder single double small here solid _ ih =>
    rw [List.cons_append, follow_node folder single double small here solid, ih]

/-- With other links to follow, a walk leads to the same place or follows too many links. -/
theorem follow_budget (h : Leads v budget place names last left) (budget' : Nat) :
    v.follow true budget' place names = .ok last ∨ v.follow true budget' place names = .error .tooManyLinks := by
  induction h generalizing budget' with
  | done budget place =>
    rw [Volume.follow]
    exact .inl rfl
  | dot folder single _ ih =>
    rw [follow_dot folder single]
    exact ih budget'
  | up folder single double _ ih =>
    rw [follow_up folder single double]
    exact ih budget'
  | link folder single double small here _ ih =>
    cases budget' with
    | zero => exact .inr (follow_link_zero folder single double small here)
    | succ budget' =>
      rw [follow_link folder single double small here]
      exact ih budget'
  | node folder single double small here solid _ ih =>
    rw [follow_node folder single double small here solid]
    exact ih budget'

/-- Only from a folder can one go on. -/
theorem folder_of_cons {step : String} {rest : List String}
    (h : Leads v budget place (step :: rest) last left) : v.node? place = some .folder := by
  cases h with
  | dot folder single more => exact folder
  | up folder single double more => exact folder
  | link folder single double small here more => exact folder
  | node folder single double small here solid more => exact folder

theorem append {middle : Place} {between : Nat} (h : Leads v budget place names middle between)
    (h' : Leads v between middle more last left) : Leads v budget place (names ++ more) last left := by
  induction h with
  | done budget place => exact h'
  | dot folder single _ ih => exact .dot folder single (ih h')
  | up folder single double _ ih => exact .up folder single double (ih h')
  | link folder single double small here _ ih =>
    have rest := ih h'
    rw [List.append_assoc] at rest
    exact .link folder single double small here rest
  | node folder single double small here solid _ ih =>
    exact .node folder single double small here solid (ih h')

/-- A walk along two stretches passes the end of the first. -/
theorem cut (h : Leads v budget place (names ++ more) last left) :
    ∃ middle between, Leads v budget place names middle between ∧ Leads v between middle more last left := by
  generalize whole : names ++ more = all at h
  induction h generalizing names with
  | done budget place =>
    obtain ⟨rfl, rfl⟩ := List.append_eq_nil_iff.1 whole
    exact ⟨place, budget, .done _ _, .done _ _⟩
  | @dot budget left place last step rest folder single walk ih =>
    cases names with
    | nil =>
      rw [List.nil_append] at whole
      exact ⟨place, budget, .done _ _, whole ▸ .dot folder single walk⟩
    | cons name names =>
      obtain ⟨rfl, rfl⟩ := List.cons.inj whole
      obtain ⟨middle, between, first, second⟩ := ih rfl
      exact ⟨middle, between, .dot folder single first, second⟩
  | @up budget left place last step rest folder single double walk ih =>
    cases names with
    | nil =>
      rw [List.nil_append] at whole
      exact ⟨place, budget, .done _ _, whole ▸ .up folder single double walk⟩
    | cons name names =>
      obtain ⟨rfl, rfl⟩ := List.cons.inj whole
      obtain ⟨middle, between, first, second⟩ := ih rfl
      exact ⟨middle, between, .up folder single double first, second⟩
  | @link budget left place last step rest target folder single double small here walk ih =>
    cases names with
    | nil =>
      rw [List.nil_append] at whole
      exact ⟨place, budget + 1, .done _ _, whole ▸ .link folder single double small here walk⟩
    | cons name names =>
      obtain ⟨rfl, rfl⟩ := List.cons.inj whole
      obtain ⟨middle, between, first, second⟩ := ih (List.append_assoc (steps target) names more)
      exact ⟨middle, between, .link folder single double small here first, second⟩
  | @node budget left place last step rest node folder single double small here solid walk ih =>
    cases names with
    | nil =>
      rw [List.nil_append] at whole
      exact ⟨place, budget, .done _ _, whole ▸ .node folder single double small here solid walk⟩
    | cons name names =>
      obtain ⟨rfl, rfl⟩ := List.cons.inj whole
      obtain ⟨middle, between, first, second⟩ := ih rfl
      exact ⟨middle, between, .node folder single double small here solid first, second⟩

/-- A single dot leads nowhere else. -/
theorem eq_of_dot (h : Leads v budget place ["."] last left) : last = place ∧ left = budget := by
  cases h with
  | dot _ _ more =>
    cases more
    exact ⟨rfl, rfl⟩
  | up _ single _ _ => exact absurd rfl single
  | link _ single _ _ _ _ => exact absurd rfl single
  | node _ single _ _ _ _ _ => exact absurd rfl single

/-- Single dots can be left out. -/
theorem undotted (h : Leads v budget place names last left) :
    Leads v budget place (names.filter (· ≠ ".")) last left := by
  induction names generalizing budget place with
  | nil => exact h
  | cons name names ih =>
    have stretches : Leads v budget place ([name] ++ names) last left := h
    obtain ⟨middle, between, first, second⟩ := stretches.cut
    by_cases dot : name = "."
    · rw [List.filter_cons_of_neg (by simp [dot])]
      obtain ⟨rfl, rfl⟩ := eq_of_dot (dot ▸ first)
      exact ih second
    · rw [List.filter_cons_of_pos (by simp [dot])]
      exact append first (ih second)

/-- Where a walk leads does not depend on the links that may be followed. -/
theorem unique {budget' left' : Nat} {last' : Place} (h : Leads v budget place names last left)
    (h' : Leads v budget' place names last' left') : last = last' := by
  induction h generalizing budget' with
  | done budget place =>
    cases h'
    rfl
  | dot folder single walk ih =>
    cases h' with
    | dot _ _ walk' => exact ih walk'
    | up _ other _ _ => exact absurd single other
    | link _ other _ _ _ _ => exact absurd single other
    | node _ other _ _ _ _ _ => exact absurd single other
  | up folder single double walk ih =>
    cases h' with
    | dot _ other _ => exact absurd other single
    | up _ _ _ walk' => exact ih walk'
    | link _ _ other _ _ _ => exact absurd double other
    | node _ _ other _ _ _ _ => exact absurd double other
  | link folder single double small here walk ih =>
    cases h' with
    | dot _ other _ => exact absurd other single
    | up _ _ other _ => exact absurd other double
    | link _ _ _ _ here' walk' =>
      rw [here] at here'
      cases here'
      exact ih walk'
    | node _ _ _ _ here' solid _ =>
      rw [here] at here'
      cases here'
      exact absurd rfl (solid _)
  | node folder single double small here solid walk ih =>
    cases h' with
    | dot _ other _ => exact absurd other single
    | up _ _ other _ => exact absurd other double
    | link _ _ _ _ here' _ =>
      rw [here] at here'
      cases here'
      exact absurd rfl (solid _)
    | node _ _ _ _ _ _ walk' => exact ih walk'

end Leads

/-- Nothing leads through the place to a folder. -/
structure Blocks (v : Volume) (place : Place) : Prop where
  noFolder : v.node? place ≠ some .folder
  noLink : ∀ target, v.node? place = some (.link target) → ∀ budget last left,
    Leads v budget (linkStart place.dropLast target) (steps target) last left →
      v.node? last ≠ some .folder

theorem blocks_of_none (h : v.node? place = none) : Blocks v place where
  noFolder := by
    rw [h]
    exact nofun
  noLink := by
    rw [h]
    exact nofun

theorem blocks_of_file {bytes : List UInt8} {mode : Nat} (h : v.node? place = some (.file bytes mode)) :
    Blocks v place where
  noFolder := by
    rw [h]
    exact nofun
  noLink := by
    rw [h]
    exact nofun

/-- A place other than one that blocks, at which a folder stands, is a folder in both volumes. -/
theorem Differs.folder (h : Differs v v' other) (blocks : Blocks v other)
    (folder : v.node? place = some .folder) : v'.node? place = some .folder := by
  have ne : place ≠ other := by
    rintro rfl
    exact blocks.noFolder folder
  rw [h.others place ne, folder]

/-- A walk to a folder does not notice what stands at a place that blocks. -/
theorem Leads.frame (h : Leads v budget place names last left) (differs : Differs v v' other)
    (blocks : Blocks v other) (ends : v.node? last = some .folder) :
    Leads v' budget place names last left := by
  induction h with
  | done budget place => exact .done budget place
  | dot folder single _ ih => exact .dot (differs.folder blocks folder) single (ih ends)
  | up folder single double _ ih => exact .up (differs.folder blocks folder) single double (ih ends)
  | @link budget left place last step rest target folder single double small here walk ih =>
    have ne : place ++ [step] ≠ other := by
      rintro rfl
      obtain ⟨middle, between, first, second⟩ := walk.cut
      have stuck := blocks.noLink target here budget middle between (by simpa using first)
      cases rest with
      | nil =>
        cases second
        exact stuck ends
      | cons name rest => exact stuck second.folder_of_cons
    refine .link (differs.folder blocks folder) single double small ?_ (ih ends)
    rw [differs.others _ ne, here]
  | @node budget left place last step rest node folder single double small here solid walk ih =>
    have ne : place ++ [step] ≠ other := by
      rintro rfl
      cases rest with
      | nil =>
        cases walk
        exact blocks.noFolder ends
      | cons name rest => exact blocks.noFolder walk.folder_of_cons
    refine .node (differs.folder blocks folder) single double small ?_ solid (ih ends)
    rw [differs.others _ ne, here]

end MatlabTidy.Volume
