import LegendReport.Proofs.Path.Joining
import LegendReport.Proofs.Store.Lookup

/-!
# Listing a folder

A listing has the items of a folder by name.  If no two of them have the same name,
an item of the listing counts as a file exactly if a file is found at the path that
joins the folder and the name.
-/

namespace LegendReport

namespace Store

section Items

variable {store : Store} {place : Location} {name : String}

/-- The item of a folder that an entry of the store stands for. -/
def childOf? (place : Location) (entry : Location × Item) : Option Child :=
  match entry.1.getLast? with
  | some name =>
    if entry.1.dropLast = place then
      some ⟨name, match entry.2 with | .file _ => true | .folder => false⟩
    else none
  | none => none

theorem children_eq_filterMap
    (store : Store)
    (place : Location) :
    store.children place = store.items.filterMap (childOf? place) := by
  rfl

theorem childOf?_eq_some_iff
    {entry : Location × Item}
    {child : Child} :
    childOf? place entry = some child ↔
      entry.1 = place ++ [child.name] ∧
        child.isFile = (match entry.2 with | .file _ => true | .folder => false) := by
  obtain ⟨location, item⟩ := entry
  obtain ⟨name, isFile⟩ := child
  rcases List.eq_nil_or_concat' location with rfl | ⟨before, last, rfl⟩
  · simp [childOf?]
  · simp only [childOf?, List.getLast?_concat, List.dropLast_concat]
    by_cases hplace : before = place
    · subst hplace
      rw [if_pos rfl]
      simp only [Option.some.injEq, Child.mk.injEq, List.append_cancel_left_eq,
        List.cons.injEq, and_true]
      exact and_congr_right fun _ => eq_comm
    · have hne : before ++ [last] ≠ place ++ [name] := by
        intro heq
        exact hplace (List.append_inj_left' heq rfl)
      simp [hplace, hne]

/-- If no two items of a folder have the same name, each file of the folder is listed as one. -/
theorem mem_children_iff
    (hdistinct : ((store.children place).map Child.name).Nodup) :
    ⟨name, true⟩ ∈ store.children place ↔
      ∃ bytes, store.item? (place ++ [name]) = some (.file bytes) := by
  rw [item?, if_neg (by simp)]
  rw [children_eq_filterMap] at hdistinct ⊢
  generalize store.items = items at hdistinct ⊢
  induction items with
  | nil => simp
  | cons entry rest ih =>
      cases hchild : childOf? place entry with
      | none =>
          have hne : (place ++ [name] == entry.1) = false := by
            rw [beq_eq_false_iff_ne]
            intro heq
            have hsome : childOf? place entry =
                some ⟨name, match entry.2 with | .file _ => true | .folder => false⟩ :=
              childOf?_eq_some_iff.mpr ⟨heq.symm, rfl⟩
            rw [hchild] at hsome
            cases hsome
          rw [List.filterMap_cons_none hchild] at hdistinct ⊢
          rw [List.lookup_cons, hne]
          exact ih hdistinct
      | some child =>
          obtain ⟨hentry, hfile⟩ := childOf?_eq_some_iff.mp hchild
          rw [List.filterMap_cons_some hchild] at hdistinct ⊢
          rw [List.map_cons, List.nodup_cons] at hdistinct
          obtain ⟨hfresh, hdistinct⟩ := hdistinct
          by_cases hname : child.name = name
          · have hkey : (place ++ [name] == entry.1) = true := by
              simp [hentry, hname]
            have hrest : ⟨name, true⟩ ∉ rest.filterMap (childOf? place) := by
              intro hmem
              exact hfresh (hname ▸ List.mem_map_of_mem (f := Child.name) hmem)
            rw [List.lookup_cons, hkey, List.mem_cons, or_iff_left hrest]
            obtain ⟨childName, isFile⟩ := child
            obtain ⟨location, item⟩ := entry
            cases item with
            | file bytes => simp_all
            | folder => simp_all
          · have hkey : (place ++ [name] == entry.1) = false := by
              simp [hentry, Ne.symm hname]
            have hhead : (⟨name, true⟩ : Child) ≠ child := by
              rintro rfl
              exact hname rfl
            rw [List.lookup_cons, hkey, List.mem_cons, or_iff_right hhead]
            exact ih hdistinct

end Items

section Lookups

variable {store : Store} {folder : Path} {place : Location} {name : String}

/-- Whether a file is at a path. -/
def HasFile (store : Store) (p : Path) : Prop :=
  ∃ place bytes, store.find p = .ok (place, .file bytes)

theorem fault?_eq_none_of_find
    {p : Path}
    {found : Location × Item}
    (h : store.find p = .ok found) :
    p.fault? = none := by
  unfold find lastStep at h
  cases hfault : p.fault? with
  | none => rfl
  | some fault => simp [hfault] at h

/-- An item of a folder is found at the path that joins the folder and its name. -/
theorem find_join
    (hname : Path.IsItemName name)
    (hfolder : store.find folder = .ok (place, .folder))
    (hfault : (folder.join name).fault? = none) :
    store.find (folder.join name) =
      match store.item? (place ++ [name]) with
      | none => .error .missing
      | some item => .ok (place ++ [name], item) := by
  obtain ⟨_, henter⟩ := find_eq_folder_iff.mp hfolder
  have hends : (folder.join name).EndsInName name := Path.endsInName_join hname folder
  have hsteps :
      store.enterAll (store.origin (folder.join name)) (folder.join name).steps.dropLast =
        .ok place := by
    rw [hname.steps_join, List.dropLast_concat, origin, hname.isAbsolute_join]
    exact henter
  rw [find, lastStep_of_endsInName hends hfault hsteps, if_neg (Nat.not_lt_of_le hname.short)]
  dsimp only
  cases store.item? (place ++ [name]) with
  | none => rfl
  | some item =>
      cases item with
      | folder => rfl
      | file bytes => simp [hends.endsWithSlash_eq]

theorem list?_eq_some_iff
    {children : List Child} :
    store.list? folder = some children ↔
      ∃ place, store.find folder = .ok (place, .folder) ∧
        (store.children place).map (Child.seenFrom folder) = children := by
  unfold list?
  cases hfind : store.find folder with
  | error fault => simp
  | ok found =>
      obtain ⟨place, item⟩ := found
      cases item with
      | file bytes => simp
      | folder => simp

/-- What a listing takes for a file is one, and no file is missing. -/
theorem mem_list?_iff
    {children : List Child}
    (hlist : store.list? folder = some children)
    (hdistinct : (children.map Child.name).Nodup)
    (hname : Path.IsItemName name) :
    ⟨name, true⟩ ∈ children ↔ store.HasFile (folder.join name) := by
  obtain ⟨place, hfolder, rfl⟩ := list?_eq_some_iff.mp hlist
  have hraw : ((store.children place).map Child.name).Nodup := by
    simpa [Function.comp_def, Child.seenFrom] using hdistinct
  have hseen :
      ⟨name, true⟩ ∈ (store.children place).map (Child.seenFrom folder) ↔
        ⟨name, true⟩ ∈ store.children place ∧ (folder.join name).fault? = none := by
    rw [List.mem_map]
    constructor
    · rintro ⟨⟨childName, isFile⟩, hmem, heq⟩
      simp only [Child.seenFrom, Child.mk.injEq, Bool.and_eq_true, Option.isNone_iff_eq_none]
        at heq
      obtain ⟨rfl, rfl, hfault⟩ := heq
      exact ⟨hmem, hfault⟩
    · rintro ⟨hmem, hfault⟩
      exact ⟨_, hmem, by simp [Child.seenFrom, hfault]⟩
  rw [hseen, mem_children_iff hraw]
  constructor
  · rintro ⟨⟨bytes, hitem⟩, hfault⟩
    refine ⟨place ++ [name], bytes, ?_⟩
    rw [find_join hname hfolder hfault, hitem]
  · rintro ⟨location, bytes, hfind⟩
    have hfault := fault?_eq_none_of_find hfind
    refine ⟨?_, hfault⟩
    rw [find_join hname hfolder hfault] at hfind
    cases hitem : store.item? (place ++ [name]) with
    | none => simp [hitem] at hfind
    | some item =>
        simp only [hitem, Except.ok.injEq, Prod.mk.injEq] at hfind
        exact ⟨bytes, by rw [hfind.2]⟩

end Lookups

end Store

end LegendReport
