import LegendReport.Proofs.Store.Listing

/-!
# What a placed file leaves alone

A file that is put where no folder is changes what is found at its own location and
nowhere else: the same folders can be entered, the same files are found elsewhere,
and the items of a folder are the same but for the file itself.
-/

namespace LegendReport

namespace Store

section Lookups

variable {store : Store} {p : Path} {place : Location} {bytes : ByteArray}

/-- The last step of a path is a name exactly if it is neither dot nor dots, in a folder that the
other steps lead to. -/
theorem lastStep_eq_name_iff
    {reached : Location}
    {name : String} :
    store.lastStep p = .ok (reached, some name) ↔
      p.fault? = none ∧ p.steps = p.steps.dropLast ++ [name] ∧ name ≠ "." ∧ name ≠ ".." ∧
        name.utf8ByteSize ≤ nameLimit ∧
          store.enterAll (store.origin p) p.steps.dropLast = .ok reached := by
  unfold lastStep
  cases hfault : p.fault? with
  | some fault => simp
  | none =>
      cases hlast : p.steps.getLast? with
      | none =>
          have hsteps : p.steps = [] := List.getLast?_eq_none_iff.mp hlast
          simp [hsteps]
      | some last =>
          obtain ⟨before, hsteps⟩ := List.getLast?_eq_some_iff.mp hlast
          rw [hsteps, List.dropLast_concat]
          dsimp only
          cases henter : store.enterAll (store.origin p) before with
          | error fault => simp
          | ok place =>
              dsimp only
              constructor
              · intro h
                by_cases hdot : last = "."
                · simp [hdot] at h
                · by_cases hdots : last = ".."
                  · simp [hdots] at h
                  · by_cases hlong : nameLimit < last.utf8ByteSize
                    · simp [hdot, hdots, hlong] at h
                    · obtain ⟨rfl, rfl⟩ : place = reached ∧ last = name := by
                        simpa [hdot, hdots, hlong] using h
                      exact ⟨rfl, rfl, hdot, hdots, Nat.le_of_not_lt hlong, rfl⟩
              · rintro ⟨_, hname, hdot, hdots, hshort, hplace⟩
                obtain rfl : last = name := by
                  simpa using hname
                obtain rfl : place = reached := by
                  simpa using hplace
                simp [hdot, hdots, Nat.not_lt_of_le hshort]

/-- A path leads to a file exactly if it ends in the name of one. -/
theorem find_eq_file_iff :
    store.find p = .ok (place, .file bytes) ↔
      p.endsWithSlash = false ∧ store.item? place = some (.file bytes) ∧
        ∃ reached name,
          store.lastStep p = .ok (reached, some name) ∧ place = reached ++ [name] := by
  unfold find
  cases hlast : store.lastStep p with
  | error fault => simp
  | ok found =>
      obtain ⟨reached, last⟩ := found
      cases last with
      | none => simp
      | some name =>
          constructor
          · intro h
            cases hitem : store.item? (reached ++ [name]) with
            | none => simp [hitem] at h
            | some item =>
                cases item with
                | folder => simp [hitem] at h
                | file content =>
                    cases hslash : p.endsWithSlash with
                    | true => simp [hitem, hslash] at h
                    | false =>
                        obtain ⟨rfl, rfl⟩ : reached ++ [name] = place ∧ content = bytes := by
                          simpa [hitem, hslash] using h
                        exact ⟨rfl, hitem, reached, name, rfl, rfl⟩
          · rintro ⟨hslash, hitem, other, otherName, hsame, rfl⟩
            obtain ⟨rfl, rfl⟩ : reached = other ∧ name = otherName := by
              simpa using hsame
            simp [hitem, hslash]

/-- A path that ends in a name leads to the file of that name in its folder. -/
theorem find_eq_file_iff_of_endsInName
    {name : String}
    (h : p.EndsInName name)
    (hfault : p.fault? = none)
    (hshort : name.utf8ByteSize ≤ nameLimit)
    {reached : Location}
    (henter : store.enterAll (store.origin p) p.steps.dropLast = .ok reached) :
    store.find p = .ok (place, .file bytes) ↔
      place = reached ++ [name] ∧ store.item? place = some (.file bytes) := by
  have hlast : store.lastStep p = .ok (reached, some name) := by
    rw [lastStep_of_endsInName h hfault henter, if_neg (Nat.not_lt_of_le hshort)]
  rw [find_eq_file_iff, hlast]
  constructor
  · rintro ⟨_, hitem, other, otherName, hsame, hplace⟩
    obtain ⟨rfl, rfl⟩ : reached = other ∧ name = otherName := by
      simpa using hsame
    exact ⟨hplace, hitem⟩
  · rintro ⟨hplace, hitem⟩
    exact ⟨h.endsWithSlash_eq, hitem, reached, name, rfl, hplace⟩

theorem exists_concat_of_find
    {name : String}
    (h : p.EndsInName name)
    (hfind : store.find p = .ok (place, .file bytes)) :
    ∃ reached, place = reached ++ [name] := by
  obtain ⟨_, _, reached, last, hlast, rfl⟩ := find_eq_file_iff.mp hfind
  have hsteps := (lastStep_eq_name_iff.mp hlast).2.1
  have hsame : [last] = [name] := List.append_cancel_left (hsteps.symm.trans h.steps_eq)
  exact ⟨reached, by rw [hsame]⟩

end Lookups

section Placed

variable {store : Store} {goal : Location} {bytes : ByteArray}

theorem item?_put_eq_folder_iff
    (hgoal : store.item? goal ≠ some .folder)
    (place : Location) :
    (store.put goal (.file bytes)).item? place = some .folder ↔
      store.item? place = some .folder := by
  by_cases hplace : place = goal
  · subst hplace
    have hroot : place ≠ [] := by
      rintro rfl
      exact hgoal (item?_root store)
    simp [item?_put_self store _ hroot, hgoal]
  · rw [item?_put_of_ne store _ hplace]

theorem enter_put_eq_ok_iff
    (hgoal : store.item? goal ≠ some .folder)
    {place next : Location}
    {step : String} :
    (store.put goal (.file bytes)).enter place step = .ok next ↔
      store.enter place step = .ok next := by
  rw [enter_eq_ok_iff, enter_eq_ok_iff, item?_put_eq_folder_iff hgoal]

theorem enterAll_put_eq_ok_iff
    (hgoal : store.item? goal ≠ some .folder)
    {place next : Location}
    {steps : List String} :
    (store.put goal (.file bytes)).enterAll place steps = .ok next ↔
      store.enterAll place steps = .ok next := by
  constructor
  · intro h
    induction steps generalizing place with
    | nil => exact h
    | cons step rest ih =>
        rw [enterAll] at h ⊢
        cases henter : (store.put goal (.file bytes)).enter place step with
        | error fault => simp [henter] at h
        | ok reached =>
            rw [henter] at h
            rw [(enter_put_eq_ok_iff hgoal).mp henter]
            exact ih h
  · intro h
    exact enterAll_put h (.file bytes) hgoal

theorem find_put_eq_folder_iff
    (hgoal : store.item? goal ≠ some .folder)
    {p : Path}
    {place : Location} :
    (store.put goal (.file bytes)).find p = .ok (place, .folder) ↔
      store.find p = .ok (place, .folder) := by
  rw [find_eq_folder_iff, find_eq_folder_iff, enterAll_put_eq_ok_iff hgoal]
  rfl

theorem lastStep_put_eq_name_iff
    (hgoal : store.item? goal ≠ some .folder)
    {p : Path}
    {reached : Location}
    {name : String} :
    (store.put goal (.file bytes)).lastStep p = .ok (reached, some name) ↔
      store.lastStep p = .ok (reached, some name) := by
  rw [lastStep_eq_name_iff, lastStep_eq_name_iff, enterAll_put_eq_ok_iff hgoal]
  rfl

theorem find_put_eq_file_iff
    (hgoal : store.item? goal ≠ some .folder)
    {p : Path}
    {place : Location}
    (hplace : place ≠ goal)
    {found : ByteArray} :
    (store.put goal (.file bytes)).find p = .ok (place, .file found) ↔
      store.find p = .ok (place, .file found) := by
  simp only [find_eq_file_iff, item?_put_of_ne store _ hplace, lastStep_put_eq_name_iff hgoal]

/-- Where a file was found, the file that replaces it is found. -/
theorem find_put_self
    (hgoal : store.item? goal ≠ some .folder)
    {p : Path}
    {found : ByteArray}
    (hfind : store.find p = .ok (goal, .file found)) :
    (store.put goal (.file bytes)).find p = .ok (goal, .file bytes) := by
  obtain ⟨hslash, _, reached, name, hlast, hplace⟩ := find_eq_file_iff.mp hfind
  have hroot : goal ≠ [] := by
    rw [hplace]
    simp
  exact find_eq_file_iff.mpr
    ⟨hslash, item?_put_self store _ hroot, reached, name,
      (lastStep_put_eq_name_iff hgoal).mpr hlast, hplace⟩

/-- The items of a folder that are kept are the same, if the file that was put is none of them. -/
theorem filter_children_put
    (item : Item)
    {place : Location}
    {keep : Child → Bool}
    (hkeep : ∀ child, keep child = true → goal ≠ place ++ [child.name]) :
    ((store.put goal item).children place).filter keep = (store.children place).filter keep := by
  let kept (entry : Location × Item) : Option Child := (childOf? place entry).filter keep
  have hgone : ∀ entry : Location × Item, entry.1 = goal → kept entry = none := by
    intro entry hentry
    rw [Option.filter_eq_none_iff]
    intro child hchild hkept
    exact hkeep child hkept (hentry ▸ (childOf?_eq_some_iff.mp hchild).1)
  have hrest :
      (fun entry => if decide (entry.1 ≠ goal) = true then kept entry else none) = kept := by
    funext entry
    by_cases hentry : entry.1 = goal
    · simp [hentry, hgone entry hentry]
    · simp [hentry]
  calc
    ((store.put goal item).children place).filter keep =
        (store.put goal item).items.filterMap kept := by
      rw [children_eq_filterMap, List.filter_filterMap]
    _ = (store.items.filter fun old => old.1 ≠ goal).filterMap kept :=
      List.filterMap_cons_none (hgone _ rfl)
    _ = store.items.filterMap kept := by
      rw [List.filterMap_filter, hrest]
    _ = (store.children place).filter keep := by
      rw [children_eq_filterMap, List.filter_filterMap]

end Placed

end Store

end LegendReport
