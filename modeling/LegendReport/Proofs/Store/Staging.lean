import LegendReport.Proofs.Store.Lookup
import LegendReport.Text.Numeral
import Mathlib.Data.List.Nodup
import Mathlib.Data.List.Perm.Subperm

/-!
# Staged files

A text comes to its path by way of a staged file beside it.  If the staged file
cannot be moved to the path it is removed, and the store is as it was; if it can,
nothing of it is left but the text at the path.  The name of the staged file does
not matter, as long as nothing else has it.

A path that ends in a name can receive a text exactly if its folder exists, no
folder is at the path itself, and the paths to look up are not too long.
-/

namespace LegendReport

namespace Store

section UnusedNames

theorem unusedName_not_mem
    (taken : List String) :
    unusedName taken ∉ taken := by
  let names := (List.range (taken.length + 1)).map fun n => ".tmp" ++ toString n
  have hnodup : names.Nodup := by
    refine List.Nodup.map ?_ List.nodup_range
    intro m n hmn
    exact Text.toString_inj.mp ((String.append_right_inj ".tmp").mp hmn)
  have hfound : (names.find? fun name => !taken.contains name).isSome = true := by
    rw [List.find?_isSome]
    by_contra hnone
    have hsubset : ∀ name ∈ names, name ∈ taken := by
      simpa using hnone
    have hlength : names.length ≤ taken.length :=
      (List.subperm_of_subset hnodup hsubset).length_le
    have hcount : names.length = taken.length + 1 := by
      simp [names]
    omega
  obtain ⟨name, hname⟩ := Option.isSome_iff_exists.mp hfound
  have hunused := List.find?_some hname
  have heq : unusedName taken = name := by
    simp only [unusedName]
    rw [hname, Option.getD_some]
  rw [heq]
  simpa using hunused

/-- A name that no child of a folder has leads to nothing. -/
theorem item?_eq_none_of_not_mem_children
    {store : Store}
    {place : Location}
    {name : String}
    (h : name ∉ (store.children place).map Child.name) :
    store.item? (place ++ [name]) = none := by
  rw [item?, if_neg (by simp), List.lookup_eq_none_iff]
  rintro ⟨key, item⟩ hmem
  rw [bne_iff_ne]
  rintro rfl
  apply h
  rw [List.mem_map]
  cases item with
  | file bytes =>
      refine ⟨⟨name, true⟩, ?_, rfl⟩
      rw [children, List.mem_filterMap]
      exact ⟨_, hmem, by simp⟩
  | folder =>
      refine ⟨⟨name, false⟩, ?_, rfl⟩
      rw [children, List.mem_filterMap]
      exact ⟨_, hmem, by simp⟩

end UnusedNames

section Moves

variable {store : Store} {staged : Location}

theorem erase_put
    (h : store.item? staged = none)
    (item : Item) :
    (store.put staged item).erase staged = store := by
  have hitems := filter_items_of_item?_eq_none h
  simp only [put, erase, hitems]
  rw [List.filter_cons_of_neg (by simp), hitems]

/-- Of a staged file that is moved nothing stays where it was. -/
theorem move_put
    (h : store.item? staged = none)
    (goal : Location)
    (item : Item) :
    (store.put staged item).move staged goal = store.put goal item := by
  have hstaged : staged ≠ [] := by
    rintro rfl
    simp at h
  rw [move, item?_put_self store item hstaged]
  dsimp only
  rw [erase_put h]

/-- What comes of a text that goes through an unused location. -/
theorem replaceThrough_eq
    (h : store.item? staged = none)
    (p : Path)
    (text : String) :
    store.replaceThrough staged p text =
      match (store.put staged (.file text.toUTF8)).target p with
      | .error fault => (.error (.placing p fault.whenMoving), store)
      | .ok goal => (.ok (), store.put goal (.file text.toUTF8)) := by
  unfold replaceThrough
  dsimp only
  cases htarget : (store.put staged (.file text.toUTF8)).target p with
  | error fault => rw [erase_put h]
  | ok goal =>
      dsimp only
      rw [move_put h]

end Moves

section Placing

/-- What keeps a text from a name in a folder, if anything does. -/
def obstacle? (store : Store) (p : Path) (place : Location) (name : String) : Option FileFault :=
  if p.fault?.isSome then p.fault?
  else if nameLimit < name.utf8ByteSize then some .nameTooLong
  else if store.item? (place ++ [name]) = some .folder then some .isFolder
  else none

variable {store : Store} {p : Path} {name : String} {place : Location}

theorem target_eq
    (h : p.EndsInName name)
    (henter : store.enterAll (store.origin p) p.steps.dropLast = .ok place) :
    store.target p =
      match store.obstacle? p place name with
      | some fault => .error fault
      | none => .ok (place ++ [name]) := by
  unfold target obstacle?
  cases hfault : p.fault? with
  | some fault =>
      have hlast : store.lastStep p = .error fault := by
        rw [lastStep, hfault]
      simp [hlast]
  | none =>
      rw [lastStep_of_endsInName h hfault henter]
      by_cases hlong : nameLimit < name.utf8ByteSize
      · simp [hlong]
      · cases hitem : store.item? (place ++ [name]) with
        | none => simp [hlong, hitem, h.endsWithSlash_eq]
        | some item =>
            cases item with
            | folder => simp [hlong, hitem, h.endsWithSlash_eq]
            | file bytes => simp [hlong, hitem, h.endsWithSlash_eq]

/-- A staged file is not in the way of its own move. -/
theorem target_put_eq
    (h : p.EndsInName name)
    (henter : store.enterAll (store.origin p) p.steps.dropLast = .ok place)
    {staged : Location}
    (hunused : store.item? staged = none)
    (bytes : ByteArray) :
    (store.put staged (.file bytes)).target p = store.target p := by
  have hstaged : staged ≠ [] := by
    rintro rfl
    simp at hunused
  have henter' :
      (store.put staged (.file bytes)).enterAll
        ((store.put staged (.file bytes)).origin p) p.steps.dropLast = .ok place :=
    enterAll_put henter (.file bytes) (by simp [hunused])
  have hfolder :
      (store.put staged (.file bytes)).item? (place ++ [name]) = some .folder ↔
        store.item? (place ++ [name]) = some .folder := by
    by_cases hsame : place ++ [name] = staged
    · rw [hsame, item?_put_self store _ hstaged, hunused]
      simp
    · rw [item?_put_of_ne store _ hsame]
  rw [target_eq h henter, target_eq h henter']
  simp only [obstacle?, hfolder]

/-- A text that is staged in the folder of a path comes to the path whatever the staged file is
called. -/
theorem replaceThrough_of_endsInName
    (h : p.EndsInName name)
    (henter : store.enterAll (store.origin p) p.steps.dropLast = .ok place)
    {staged : Location}
    (hunused : store.item? staged = none)
    (text : String) :
    store.replaceThrough staged p text =
      match store.obstacle? p place name with
      | some fault => (.error (.placing p fault.whenMoving), store)
      | none => (.ok (), store.put (place ++ [name]) (.file text.toUTF8)) := by
  rw [replaceThrough_eq hunused, target_put_eq h henter hunused, target_eq h henter]
  cases store.obstacle? p place name <;> rfl

end Placing

section Receiving

/-- Whether all that is looked up on the way to a path can be: the path itself, the path of a file
staged beside it, and the names in it. -/
def Addressable (store : Store) (p : Path) : Prop :=
  p.fault? = none ∧ ((store.absolute p.folder).join stagedName).fault? = none ∧
    ∀ step ∈ p.steps, step.utf8ByteSize ≤ nameLimit

instance (store : Store) (p : Path) : Decidable (store.Addressable p) :=
  inferInstanceAs (Decidable (_ ∧ _ ∧ _))

/-- Whether a text can be put at a path. -/
def CanReceive (store : Store) (p : Path) : Prop :=
  store.HasFolder p.folder ∧ ¬ store.HasFolder p ∧ store.Addressable p

variable {store : Store} {p : Path} {name : String} {place : Location}

theorem not_canReceive_iff :
    ¬ store.CanReceive p ↔
      ¬ store.HasFolder p.folder ∨ store.HasFolder p ∨ ¬ store.Addressable p := by
  rw [CanReceive, not_and_or, not_and_or, not_not]

theorem staging_eq_ok_iff :
    store.staging p.folder = .ok place ↔
      store.find p.folder = .ok (place, .folder) ∧
        ((store.absolute p.folder).join stagedName).fault? = none := by
  rw [find_eq_folder_iff]
  unfold staging
  cases hfolder : p.folder.fault? with
  | some fault => simp
  | none =>
      cases hstaged : ((store.absolute p.folder).join stagedName).fault? with
      | some fault => simp
      | none => simp

theorem utf8ByteSize_le_of_enterAll
    {place next : Location}
    {steps : List String}
    (h : store.enterAll place steps = .ok next) :
    ∀ step ∈ steps, step.utf8ByteSize ≤ nameLimit := by
  induction steps generalizing place with
  | nil => simp
  | cons first rest ih =>
      rw [enterAll] at h
      cases henter : store.enter place first with
      | error fault =>
          rw [henter] at h
          cases h
      | ok reached =>
          rw [henter] at h
          intro step hmem
          rcases List.mem_cons.mp hmem with rfl | hmem
          · rcases enter_eq_ok_iff.mp henter with ⟨rfl, _⟩ | ⟨rfl, _⟩ | ⟨_, _, hshort, _⟩
            · decide
            · decide
            · exact hshort
          · exact ih h step hmem

theorem obstacle?_eq_none_iff :
    store.obstacle? p place name = none ↔
      p.fault? = none ∧ name.utf8ByteSize ≤ nameLimit ∧
        store.item? (place ++ [name]) ≠ some .folder := by
  unfold obstacle?
  cases hfault : p.fault? with
  | some fault => simp
  | none =>
      by_cases hlong : nameLimit < name.utf8ByteSize
      · simp [hlong, Nat.not_le_of_lt hlong]
      · by_cases hfolder : store.item? (place ++ [name]) = some .folder
        · simp [hlong, hfolder]
        · simp [hlong, hfolder, Nat.le_of_not_lt hlong]

/-- The steps of a path up to its name lead to the place where its folder is staged in. -/
theorem enterAll_dropLast_of_staging
    (h : p.EndsInName name)
    (hstaging : store.staging p.folder = .ok place) :
    store.enterAll (store.origin p) p.steps.dropLast = .ok place := by
  rw [← enterAll_steps_folder h]
  exact (find_eq_folder_iff.mp (staging_eq_ok_iff.mp hstaging).1).2

theorem canReceive_iff
    (h : p.EndsInName name) :
    store.CanReceive p ↔
      ∃ place, store.staging p.folder = .ok place ∧ store.obstacle? p place name = none := by
  constructor
  · rintro ⟨⟨place, hfind⟩, hfolder, hfault, hstaged, hshort⟩
    have hstaging : store.staging p.folder = .ok place :=
      staging_eq_ok_iff.mpr ⟨hfind, hstaged⟩
    have hname : name.utf8ByteSize ≤ nameLimit := by
      apply hshort
      rw [h.steps_eq]
      simp
    rw [hasFolder_iff_of_endsInName h hfault hname (enterAll_dropLast_of_staging h hstaging)]
      at hfolder
    exact ⟨place, hstaging, obstacle?_eq_none_iff.mpr ⟨hfault, hname, hfolder⟩⟩
  · rintro ⟨place, hstaging, hobstacle⟩
    obtain ⟨hfault, hname, hfolder⟩ := obstacle?_eq_none_iff.mp hobstacle
    obtain ⟨hfind, hstaged⟩ := staging_eq_ok_iff.mp hstaging
    have henter := enterAll_dropLast_of_staging h hstaging
    refine ⟨⟨place, hfind⟩, ?_, hfault, hstaged, ?_⟩
    · rwa [hasFolder_iff_of_endsInName h hfault hname henter]
    · intro step hmem
      rw [h.steps_eq] at hmem
      rcases List.mem_append.mp hmem with hmem | hmem
      · exact utf8ByteSize_le_of_enterAll henter step hmem
      · rwa [List.mem_singleton.mp hmem]

theorem replaceFile_of_staging
    (h : p.EndsInName name)
    (hstaging : store.staging p.folder = .ok place)
    (text : String) :
    store.replaceFile p text =
      match store.obstacle? p place name with
      | some fault => (.error (.placing p fault.whenMoving), store)
      | none => (.ok (), store.put (place ++ [name]) (.file text.toUTF8)) := by
  have hunused :
      store.item?
        (place ++ [unusedName ((store.children place).map Child.name ++ p.steps)]) = none := by
    apply item?_eq_none_of_not_mem_children
    intro hmem
    exact unusedName_not_mem _ (List.mem_append_left p.steps hmem)
  rw [replaceFile, hstaging]
  exact replaceThrough_of_endsInName h (enterAll_dropLast_of_staging h hstaging) hunused text

/-- A text that cannot be received leaves the store as it was, the staged file included. -/
theorem replaceFile_of_not_canReceive
    (h : p.EndsInName name)
    (hreceive : ¬ store.CanReceive p)
    (text : String) :
    ∃ cause, store.replaceFile p text = (.error cause, store) := by
  cases hstaging : store.staging p.folder with
  | error fault =>
      rw [replaceFile, hstaging]
      exact ⟨_, rfl⟩
  | ok place =>
      rw [replaceFile_of_staging h hstaging]
      cases hobstacle : store.obstacle? p place name with
      | some fault => exact ⟨_, rfl⟩
      | none => exact absurd ((canReceive_iff h).mpr ⟨place, hstaging, hobstacle⟩) hreceive

/-- A text that can be received is put at the path and nowhere else, where it is found. -/
theorem replaceFile_of_canReceive
    (h : p.EndsInName name)
    (hreceive : store.CanReceive p)
    (text : String) :
    ∃ goal,
      store.replaceFile p text = (.ok (), store.put goal (.file text.toUTF8)) ∧
        (store.put goal (.file text.toUTF8)).find p = .ok (goal, .file text.toUTF8) := by
  obtain ⟨place, hstaging, hobstacle⟩ := (canReceive_iff h).mp hreceive
  obtain ⟨hfault, hname, hfolder⟩ := obstacle?_eq_none_iff.mp hobstacle
  refine ⟨place ++ [name], by rw [replaceFile_of_staging h hstaging, hobstacle], ?_⟩
  have henter :
      (store.put (place ++ [name]) (.file text.toUTF8)).enterAll
        ((store.put (place ++ [name]) (.file text.toUTF8)).origin p) p.steps.dropLast =
          .ok place :=
    enterAll_put (enterAll_dropLast_of_staging h hstaging) _ hfolder
  rw [find, lastStep_of_endsInName h hfault henter, if_neg (Nat.not_lt_of_le hname)]
  dsimp only
  rw [item?_put_self store _ (by simp)]
  simp [h.endsWithSlash_eq]

/-- Any unused name does for the staged file. -/
theorem replaceThrough_eq_replaceFile
    (h : p.EndsInName name)
    (hstaging : store.staging p.folder = .ok place)
    {stagedName : String}
    (hunused : store.item? (place ++ [stagedName]) = none)
    (text : String) :
    store.replaceThrough (place ++ [stagedName]) p text = store.replaceFile p text := by
  rw [replaceFile_of_staging h hstaging,
    replaceThrough_of_endsInName h (enterAll_dropLast_of_staging h hstaging) hunused]

end Receiving

end Store

end LegendReport
