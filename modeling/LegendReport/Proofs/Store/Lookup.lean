import LegendReport.Proofs.Path.Parts
import LegendReport.Store.Basic

/-!
# Looking up paths

A path is looked up step by step, and dots stay where they are.  A path leads to a
folder exactly if all of its steps can be entered.  The folder of a path that ends
in a name is therefore the place where that name is looked up.

An item that is put where no folder is does not change which folders can be
entered, and at other locations nothing changes.
-/

namespace LegendReport

namespace Store

section Items

theorem item?_put_of_ne
    (store : Store)
    {place other : Location}
    (item : Item)
    (h : other ≠ place) :
    (store.put place item).item? other = store.item? other := by
  have hlookup :
      ∀ items : List (Location × Item),
        (items.filter fun old => old.1 ≠ place).lookup other = items.lookup other := by
    intro items
    induction items with
    | nil => rfl
    | cons entry rest ih =>
        by_cases hplace : entry.1 = place
        · have hother : (other == entry.1) = false := by
            simpa [hplace] using h
          rw [List.filter_cons_of_neg (by simp [hplace]), ih, List.lookup_cons, hother]
        · rw [List.filter_cons_of_pos (by simp [hplace]), List.lookup_cons, List.lookup_cons, ih]
  have hhead : (other == place) = false := by
    simpa using h
  rw [item?, item?, put, List.lookup_cons, hhead, hlookup]

/-- A location without an item has no entry. -/
theorem filter_items_of_item?_eq_none
    {store : Store}
    {place : Location}
    (h : store.item? place = none) :
    (store.items.filter fun old => old.1 ≠ place) = store.items := by
  have hplace : place ≠ [] := by
    rintro rfl
    simp at h
  rw [item?, if_neg hplace, List.lookup_eq_none_iff] at h
  rw [List.filter_eq_self]
  intro entry hmem
  have hne : place ≠ entry.1 := by
    simpa using h entry hmem
  simpa using hne.symm

end Items

section Steps

variable {store : Store} {place next : Location}

theorem enterAll_append
    (steps steps' : List String) :
    store.enterAll place (steps ++ steps') =
      (store.enterAll place steps).bind fun reached => store.enterAll reached steps' := by
  induction steps generalizing place with
  | nil => rfl
  | cons step rest ih =>
      simp only [List.cons_append, enterAll]
      cases store.enter place step with
      | error fault => rfl
      | ok reached => exact ih

/-- Dots stay where they are. -/
theorem enterAll_filter_dot
    (steps : List String) :
    store.enterAll place (steps.filter (· ≠ ".")) = store.enterAll place steps := by
  induction steps generalizing place with
  | nil => rfl
  | cons step rest ih =>
      by_cases hdot : step = "."
      · rw [List.filter_cons_of_neg (by simp [hdot]), ih, enterAll]
        simp [enter, hdot]
      · rw [List.filter_cons_of_pos (by simp [hdot]), enterAll, enterAll]
        cases store.enter place step with
        | error fault => rfl
        | ok reached => exact ih

/-- What a step can be: a dot, two dots, or the name of a folder. -/
theorem enter_eq_ok_iff
    {step : String} :
    store.enter place step = .ok next ↔
      (step = "." ∧ next = place) ∨
      (step = ".." ∧ next = place.dropLast) ∨
      (step ≠ "." ∧ step ≠ ".." ∧ step.utf8ByteSize ≤ nameLimit ∧
        store.item? (place ++ [step]) = some .folder ∧ next = place ++ [step]) := by
  by_cases hdot : step = "."
  · simp [enter, hdot, eq_comm]
  · by_cases hdots : step = ".."
    · simp [enter, hdots, eq_comm]
    · by_cases hlong : nameLimit < step.utf8ByteSize
      · simp [enter, hdot, hdots, hlong, Nat.not_le_of_lt hlong]
      · have hshort : step.utf8ByteSize ≤ nameLimit := Nat.le_of_not_lt hlong
        cases hitem : store.item? (place ++ [step]) with
        | none => simp [enter, hdot, hdots, hlong, hitem]
        | some item =>
            cases item with
            | file bytes => simp [enter, hdot, hdots, hlong, hitem]
            | folder => simp [enter, hdot, hdots, hlong, hshort, hitem, eq_comm]

theorem enter_put
    {step : String}
    (h : store.enter place step = .ok next)
    {goal : Location}
    (item : Item)
    (hgoal : store.item? goal ≠ some .folder) :
    (store.put goal item).enter place step = .ok next := by
  rw [enter_eq_ok_iff] at h ⊢
  rcases h with hdot | hdots | ⟨hdot, hdots, hshort, hfolder, hnext⟩
  · exact Or.inl hdot
  · exact Or.inr (Or.inl hdots)
  · have hne : place ++ [step] ≠ goal := by
      rintro rfl
      exact hgoal hfolder
    rw [item?_put_of_ne store item hne]
    exact Or.inr (Or.inr ⟨hdot, hdots, hshort, hfolder, hnext⟩)

/-- An item that is put where no folder is stands in nobody's way. -/
theorem enterAll_put
    {steps : List String}
    (h : store.enterAll place steps = .ok next)
    {goal : Location}
    (item : Item)
    (hgoal : store.item? goal ≠ some .folder) :
    (store.put goal item).enterAll place steps = .ok next := by
  induction steps generalizing place with
  | nil => exact h
  | cons step rest ih =>
      rw [enterAll] at h ⊢
      cases henter : store.enter place step with
      | error fault =>
          rw [henter] at h
          cases h
      | ok reached =>
          rw [henter] at h
          rw [enter_put henter item hgoal]
          exact ih h

end Steps

section Folders

/-- Whether a path leads to a folder. -/
def HasFolder (store : Store) (p : Path) : Prop :=
  ∃ place, store.find p = .ok (place, .folder)

variable {store : Store} {p : Path}

theorem exists_list?_eq_some_iff :
    (∃ children, store.list? p = some children) ↔ store.HasFolder p := by
  unfold list? HasFolder
  cases hfind : store.find p with
  | error fault => simp
  | ok found =>
      obtain ⟨place, item⟩ := found
      cases item with
      | file bytes => simp
      | folder => simp

instance (store : Store) (p : Path) : Decidable (store.HasFolder p) :=
  decidable_of_iff ((store.list? p).isSome = true)
    (Option.isSome_iff_exists.trans exists_list?_eq_some_iff)

/-- A path without steps is the root, unless it is empty. -/
theorem origin_of_steps_eq_nil
    (hsteps : p.steps = [])
    (htext : p.text ≠ "") :
    store.origin p = [] := by
  obtain ⟨first, rest, hparts⟩ := List.exists_cons_of_ne_nil p.parts_ne_nil
  have hfirst : first = [] := by
    by_contra hfirst
    simp [Path.steps, hparts, hfirst] at hsteps
  have hrest : rest ≠ [] := by
    rintro rfl
    have hlist := p.toList_text_eq_intercalate
    rw [hparts, hfirst] at hlist
    exact htext (String.toList_inj.mp (by simpa using hlist))
  have habsolute : p.isAbsolute = true :=
    (Path.isAbsolute_of_parts hparts).mpr ⟨hfirst, hrest⟩
  rw [origin, if_pos habsolute]

/-- A path leads to a folder exactly if all of its steps can be entered. -/
theorem find_eq_folder_iff
    {place : Location} :
    store.find p = .ok (place, .folder) ↔
      p.fault? = none ∧ store.enterAll (store.origin p) p.steps = .ok place := by
  unfold find lastStep
  cases hfault : p.fault? with
  | some fault => simp
  | none =>
      have htext : p.text ≠ "" := by
        intro hempty
        unfold Path.fault? at hfault
        simp [hempty] at hfault
      cases hlast : p.steps.getLast? with
      | none =>
          have hsteps : p.steps = [] := List.getLast?_eq_none_iff.mp hlast
          simp [hsteps, enterAll, origin_of_steps_eq_nil hsteps htext]
      | some last =>
          obtain ⟨before, hsteps⟩ := List.getLast?_eq_some_iff.mp hlast
          rw [hsteps, List.dropLast_concat, enterAll_append]
          cases henter : store.enterAll (store.origin p) before with
          | error fault => simp [Except.bind]
          | ok reached =>
              have hone : store.enterAll reached [last] = store.enter reached last := by
                simp only [enterAll]
                cases store.enter reached last <;> rfl
              simp only [Except.bind, true_and]
              -- The last step is looked up by its name, the others are entered.
              rw [hone, enter_eq_ok_iff]
              by_cases hdot : last = "."
              · simp [hdot, eq_comm]
              · by_cases hdots : last = ".."
                · simp [hdots, eq_comm]
                · by_cases hlong : nameLimit < last.utf8ByteSize
                  · simp [hdot, hdots, hlong, Nat.not_le_of_lt hlong]
                  · have hshort : last.utf8ByteSize ≤ nameLimit := Nat.le_of_not_lt hlong
                    cases hitem : store.item? (reached ++ [last]) with
                    | none => simp [hdot, hdots, hlong, hitem]
                    | some item =>
                        cases item with
                        | folder => simp [hdot, hdots, hlong, hshort, hitem, eq_comm]
                        | file bytes =>
                            by_cases hslash : p.endsWithSlash <;>
                              simp [hdot, hdots, hlong, hitem, hslash]

/-- The folder of a path that ends in a name is where the name is looked up. -/
theorem enterAll_steps_folder
    {name : String}
    (h : p.EndsInName name) :
    store.enterAll (store.origin p.folder) p.folder.steps =
      store.enterAll (store.origin p) p.steps.dropLast := by
  obtain ⟨before, hparts⟩ := h.exists_parts_eq
  have horigin : store.origin p.folder = store.origin p := by
    rw [origin, origin, (h.folder_moves hparts).1]
  rw [horigin, ← enterAll_filter_dot, h.filter_steps_folder, enterAll_filter_dot]

theorem lastStep_of_endsInName
    {name : String}
    (h : p.EndsInName name)
    (hfault : p.fault? = none)
    {place : Location}
    (henter : store.enterAll (store.origin p) p.steps.dropLast = .ok place) :
    store.lastStep p =
      if nameLimit < name.utf8ByteSize then .error .nameTooLong else .ok (place, some name) := by
  have hlast : p.steps.getLast? = some name := by
    rw [h.steps_eq, List.getLast?_concat]
  rw [lastStep, hfault, hlast]
  simp only [henter, h.ne_dot, h.ne_dots, if_false]

/-- A name leads to a folder exactly if it is in its folder as one. -/
theorem hasFolder_iff_of_endsInName
    {name : String}
    (h : p.EndsInName name)
    (hfault : p.fault? = none)
    (hshort : name.utf8ByteSize ≤ nameLimit)
    {place : Location}
    (henter : store.enterAll (store.origin p) p.steps.dropLast = .ok place) :
    store.HasFolder p ↔ store.item? (place ++ [name]) = some .folder := by
  have hlast := lastStep_of_endsInName h hfault henter
  rw [if_neg (Nat.not_lt_of_le hshort)] at hlast
  unfold HasFolder find
  rw [hlast]
  cases hitem : store.item? (place ++ [name]) with
  | none => simp [hitem]
  | some item =>
      cases item with
      | folder => simp [hitem]
      | file bytes => simp [hitem, h.endsWithSlash_eq]

end Folders

end Store

end LegendReport
