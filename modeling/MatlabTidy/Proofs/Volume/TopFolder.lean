import MatlabTidy.Proofs.Volume.Removal

/-!
# Path texts in the top folder

When the current folder is the top, a path text without a slash in front leads where its steps lead from there
(`Volume.resolve_of_steps`), and the path text of an entry of `.` leads where the name of the entry leads
(`Volume.leads_dot`). Names may be as long as one likes (`Volume.longName`), but none that is too long is looked
up.
-/

namespace MatlabTidy.Volume

/-- The name of a source, as long as one likes. -/
@[irreducible] def longName (count : Nat) : String := String.ofList (List.replicate count 'b' ++ ['.', 'm'])

theorem toList_longName (count : Nat) : (longName count).toList = List.replicate count 'b' ++ ['.', 'm'] := by
  rw [longName, String.toList_ofList]

theorem utf8ByteSize_longName (count : Nat) : (longName count).utf8ByteSize = count + 2 := by
  rw [longName, String.utf8ByteSize_ofList]
  induction count with
  | zero => rfl
  | succ count ih =>
    rw [List.replicate_succ, List.cons_append, String.utf8Len_cons, ih]
    have size : 'b'.utf8Size = 1 := rfl
    omega

theorem isName_longName (count : Nat) : IsName (longName count) := by
  rw [longName]
  refine isName_ofList (by simp) (fun same => ?_) (by simp) (by simp)
  simpa using congrArg List.length same

theorem longName_ne {count : Nat} {name : String} (other : count + 2 ≠ name.utf8ByteSize) : longName count ≠ name := by
  rintro rfl
  exact other (utf8ByteSize_longName count).symm

variable {v : Volume} {name : String} {place : Place} {budget left : Nat}

theorem temporaryName_zero (name : String) : temporaryName name 0 = "." ++ name ++ ".0.tmp" := by
  have tail : "." ++ (toString 0 ++ ".tmp") = ".0.tmp" := by decide
  rw [← tail, ← String.append_assoc, ← String.append_assoc]
  rfl

theorem isName_temporaryName (good : IsName name) : IsName (temporaryName name 0) := by
  have whole : temporaryName name 0 = String.ofList ('.' :: (name.toList ++ ['.', '0', '.', 't', 'm', 'p'])) := by
    rw [← String.toList_inj, String.toList_ofList, temporaryName_zero, String.toList_append, String.toList_append]
    rfl
  rw [whole]
  refine isName_ofList (List.cons_ne_nil _ _) (fun same => ?_) ?_ ?_
  · simpa using congrArg List.length same
  · simp [good.plain]
  · simp [good.noNull]

/-- There is a path text for a temporary file at the top. -/
theorem checkText_temporary (good : IsName name) (small : ¬ mostNameBytes < name.utf8ByteSize) :
    checkText (Path.entry "/" (temporaryName (Path.ofString (Path.entry "." name)).name 0)) = .ok () := by
  have slash : "/".utf8ByteSize = 1 := rfl
  have size : (temporaryName name 0).utf8ByteSize = name.utf8ByteSize + 7 := by
    rw [temporaryName_zero, String.utf8ByteSize_append, String.utf8ByteSize_append]
    have front : ".".utf8ByteSize = 1 := rfl
    have behind : ".0.tmp".utf8ByteSize = 6 := rfl
    omega
  have room : mostNameBytes + 8 < mostPathBytes := by decide
  rw [name_entry "." good]
  exact checkText_entry (by decide) (isName_temporaryName good) (by omega)

variable (top : v.here = [])

include top

/-- A path text leads where its steps lead from the top. -/
theorem resolve_of_steps {text : String} {names : List String} (checked : checkText text = .ok ())
    (relative : isAbsolute text = false) (names_eq : steps text = names)
    (walk : Leads v mostLinks [] names place left) : v.resolve text = .ok place := by
  refine resolve_eq_ok.2 ⟨checked, left, ?_⟩
  rw [names_eq, startOf, relative]
  exact top ▸ walk

theorem resolve_dot : v.resolve "." = .ok [] :=
  resolve_of_steps top (by decide) (by decide) (by decide) (.dot rfl rfl (.done _ _))

theorem around_dot (good : IsName name) :
    (Path.absolute v.hereText (Path.ofString (Path.entry "." name)).parent.text).text = "/" := by
  rw [hereText, top, parent_dot good]
  decide

theorem entries_dot : v.entries "." = .ok ((v.namesIn []).map (Path.entry ".")) :=
  entries_eq_ok.2 ⟨[], resolve_dot top, rfl, rfl⟩

/-- The path text of an entry leads where its name leads. -/
theorem leads_dot (good : IsName name) (walk : Leads v budget [] [name] place left) :
    Leads v budget (v.startOf (Path.entry "." name)) (steps (Path.entry "." name)) place left := by
  have start : v.startOf (Path.entry "." name) = [] :=
    (startOf_of_isAbsolute (isAbsolute_entry name (by decide)) v).trans top
  rw [steps_entry "." good, start]
  exact .dot rfl rfl walk

theorem holds_dot {bytes : List UInt8} {mode : Nat} (good : IsName name)
    (small : ¬ mostNameBytes < name.utf8ByteSize) (walk : Leads v mostLinks [] [name] place left)
    (file : v.node? place = some (.file bytes mode)) : Holds v (Path.entry "." name) bytes mode := by
  have dot : ".".utf8ByteSize = 1 := rfl
  have room : mostNameBytes + 1 < mostPathBytes := by decide
  have checked : checkText (Path.entry "." name) = .ok () := checkText_entry (by decide) good (by omega)
  exact ⟨place, resolve_eq_ok.2 ⟨checked, _, leads_dot top good walk⟩, file⟩

omit top in
/-- A link to a name is a way to this name. -/
theorem follow_link_to_name {link target : String} (here : v.node? [link] = some (.link target)) (good : IsName link)
    (double : link ≠ "..") (small : ¬ mostNameBytes < link.utf8ByteSize) (plain : IsName target) :
    v.follow true mostLinks [] [link] = v.follow true 39 [] [target] := by
  have most : mostLinks = 39 + 1 := rfl
  have start : linkStart [] target = [] := ite_self _
  rw [most, follow_link rfl good.ne_dot double small here, steps_name plain, start]
  rfl

/-- Nothing can be asked about a link to a name that no entry can have. -/
theorem isFolder_of_endless (here : v.node? ["d.m"] = some (.link (longName 300))) :
    v.isFolder (Path.entry "." "d.m") = .error ⟨.nameTooLong, "d.m"⟩ := by
  have short : (Path.ofString (Path.entry "." "d.m")).text = "d.m" := by decide
  have good : IsName "d.m" := ⟨by decide, by decide, by decide, by decide⟩
  have plain := isName_longName 300
  have long : mostNameBytes < (longName 300).utf8ByteSize := by
    rw [utf8ByteSize_longName]
    decide
  have resolved : v.resolve "d.m" = .error .nameTooLong := by
    have start : v.startOf "d.m" = [] := top
    have names : steps "d.m" = ["d.m"] := steps_name good
    have checked : checkText "d.m" = .ok () := by decide
    rw [resolve, checked, start, names]
    dsimp only [bind, Except.bind]
    rw [follow_link_to_name here good (by decide) (by decide) plain]
    exact follow_long rfl plain.ne_dot (longName_ne (by decide)) long 39
  unfold Volume.isFolder Volume.asks
  dsimp only
  rw [short, resolved]

end MatlabTidy.Volume
