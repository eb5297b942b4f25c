import ObjectStore.FileTree
import ObjectStore.Proofs.Client.Documents

/-!
# Written files

Where a path leads depends on the directories on the way only, so that it leads there as before once
a file has been put at its end, and the file is what is found. Whether a file can be written does not
depend on what is written.
-/

namespace ObjectStore.FileTree

variable {t : FileTree} {way here : List String} {node : FileNode} {path : String}

/-! ## What is at a way -/

theorem node?_put (h : way ≠ []) (node : FileNode) : (t.put way node).node? way = some node := by
  simp [node?, put, h]

theorem node?_put_of_ne {other : List String} (h : other ≠ way) (node : FileNode) :
    (t.put way node).node? other = t.node? other := by
  have hfilter : (t.nodes.filter (·.1 != way)).lookup other = t.nodes.lookup other := by
    induction t.nodes with
    | nil => rfl
    | cons entry nodes ih =>
      by_cases hentry : entry.1 = way
      · have hother : (other == entry.1) = false := beq_eq_false_iff_ne.mpr (hentry ▸ h)
        rw [List.filter_cons_of_neg (by simp [hentry]), ih, List.lookup_cons, hother]
      · rw [List.filter_cons_of_pos (by simp [hentry]), List.lookup_cons, List.lookup_cons, ih]
  have hother : (other == way) = false := beq_eq_false_iff_ne.mpr h
  rw [node?, node?, put, List.lookup_cons, hother, hfilter]

/-- There is a directory at a way. -/
def IsDirectory (t : FileTree) (way : List String) : Prop :=
  ∃ mode, t.node? way = some (.directory mode)

theorem isDirectory_nil (t : FileTree) : t.IsDirectory [] := ⟨newDirectoryMode, rfl⟩

theorem requireDirectory_eq_ok_iff {found : List String} :
    t.requireDirectory way = .ok found ↔ t.IsDirectory way ∧ way = found := by
  rw [requireDirectory, IsDirectory]
  cases h : t.node? way with
  | none => simp
  | some node => cases node <;> simp

/-! ## Walking -/

theorem walk_cons_eq_ok_iff {part : String} {rest found : List String} :
    t.walk here (part :: rest) = .ok found ↔
      ∃ next, step here part = .ok next ∧ t.IsDirectory next ∧ t.walk next rest = .ok found := by
  simp only [walk, bind_eq_ok_iff, requireDirectory_eq_ok_iff]
  constructor
  · rintro ⟨next, hstep, _, ⟨hdirectory, rfl⟩, hwalk⟩
    exact ⟨next, hstep, hdirectory, hwalk⟩
  · rintro ⟨next, hstep, hdirectory, hwalk⟩
    exact ⟨next, hstep, next, ⟨hdirectory, rfl⟩, hwalk⟩

/-- Directories stand at a way and at all ways that lead to it. -/
def IsOpen (t : FileTree) (way : List String) : Prop := ∀ above, above <+: way → t.IsDirectory above

theorem isOpen_nil (t : FileTree) : t.IsOpen [] := by
  intro above h
  rw [List.prefix_nil.mp h]
  exact t.isDirectory_nil

/-- A part of a path leads back to a directory on the way, or one further by its name. -/
theorem IsOpen.step {part : String} {next : List String} (h : t.IsOpen here)
    (hstep : step here part = .ok next) :
    t.IsOpen next ∨ next = here ++ [part] ∧ isDots part = false := by
  rw [FileTree.step] at hstep
  split at hstep
  · cases hstep
    exact .inl h
  · split at hstep
    · cases hstep
      exact .inl fun above habove => h above (habove.trans (List.dropLast_prefix here))
    · split at hstep
      · cases hstep
      · cases hstep
        exact .inr ⟨rfl, by simp [isDots, *]⟩

/-- A walk leads to a way on which there are directories only. -/
theorem IsOpen.walk {parts found : List String} (h : t.IsOpen here)
    (hwalk : t.walk here parts = .ok found) : t.IsOpen found := by
  induction parts generalizing here with
  | nil =>
    cases hwalk
    exact h
  | cons part parts ih =>
    obtain ⟨next, hstep, hnext, hrest⟩ := walk_cons_eq_ok_iff.mp hwalk
    refine ih ?_ hrest
    rcases h.step hstep with hopen | ⟨rfl, _⟩
    · exact hopen
    · intro above habove
      rcases List.prefix_concat_iff.mp habove with rfl | hbefore
      · exact hnext
      · exact h above hbefore

/-- A walk goes as before if something else than a directory is put where none was. -/
theorem walk_put {parts found : List String} (h : ¬t.IsDirectory way)
    (hwalk : t.walk here parts = .ok found) : (t.put way node).walk here parts = .ok found := by
  induction parts generalizing here with
  | nil => exact hwalk
  | cons part parts ih =>
    obtain ⟨next, hstep, hnext, hrest⟩ := walk_cons_eq_ok_iff.mp hwalk
    refine walk_cons_eq_ok_iff.mpr ⟨next, hstep, ?_, ih hrest⟩
    have hne : next ≠ way := fun heq => h (heq ▸ hnext)
    rwa [IsDirectory, node?_put_of_ne hne]

/-! ## Where a path leads -/

/-- A path leads to a way at which there is no directory. -/
structure LeadsTo (t : FileTree) (path : String) (way : List String) : Prop where
  /-- The path can be walked up to its last part, and the way is where that leads. -/
  locate : ∃ parts, walkable path = .ok parts ∧ t.locate parts = .ok way
  /-- There is no directory. -/
  not_directory : ¬t.IsDirectory way
  /-- The path does not say by a slash at its end that there is one. -/
  not_slash : path.endsWith "/" = false

theorem LeadsTo.ne_nil (h : t.LeadsTo path way) : way ≠ [] := by
  rintro rfl
  exact h.not_directory t.isDirectory_nil

/-- A path leads where it did before once a file has been put there. -/
theorem LeadsTo.put (h : t.LeadsTo path way) (mode : Nat) (content : List UInt8) :
    (t.put way (.file mode content)).LeadsTo path way where
  locate := by
    obtain ⟨parts, hparts, hlocate⟩ := h.locate
    refine ⟨parts, hparts, ?_⟩
    rw [FileTree.locate, bind_eq_ok_iff] at hlocate ⊢
    obtain ⟨here, hwalk, hlast⟩ := hlocate
    exact ⟨here, walk_put h.not_directory hwalk, hlast⟩
  not_directory := by
    rintro ⟨m, hm⟩
    rw [node?_put h.ne_nil] at hm
    cases hm
  not_slash := h.not_slash

/-- What is at the way to which a path leads is found at the path. -/
theorem LeadsTo.find (h : t.LeadsTo path way) (hnode : t.node? way = some node) :
    t.find path = .ok (way, node) := by
  obtain ⟨parts, hparts, hlocate⟩ := h.locate
  have hslash := h.not_slash
  cases node with
  | directory mode => exact absurd ⟨mode, hnode⟩ h.not_directory
  | file mode content =>
    simp [FileTree.find, hparts, hlocate, hnode, hslash, bind, Except.bind, pure, Except.pure]

/-- A file can be written where a path leads, whatever is written. -/
theorem LeadsTo.write (h : t.LeadsTo path way) (content : List UInt8) :
    ∃ mode, t.write path content = .ok (t.put way (.file mode content)) := by
  obtain ⟨parts, hparts, hlocate⟩ := h.locate
  rw [FileTree.locate, bind_eq_ok_iff] at hlocate
  obtain ⟨here, hwalk, hlast⟩ := hlocate
  have hslash := h.not_slash
  cases hpart : parts.getLast? with
  | none =>
    -- Without parts the way is that of the top directory.
    rw [hpart] at hlast
    rw [List.getLast?_eq_none_iff.mp hpart] at hwalk
    cases hwalk
    cases hlast
    exact absurd t.isDirectory_nil h.not_directory
  | some part =>
    rw [hpart] at hlast
    simp only [FileTree.write, hparts, hwalk, hpart, hlast, hslash, bind, Except.bind]
    cases hnode : t.node? way with
    | none => exact ⟨newFileMode, rfl⟩
    | some node =>
      cases node with
      | directory mode => exact absurd ⟨mode, hnode⟩ h.not_directory
      | file mode old => exact ⟨mode, rfl⟩

/-- Where something can be written, a path leads to a way without a directory. -/
theorem leadsTo_of_write {content : List UInt8} {t' : FileTree}
    (h : t.write path content = .ok t') : ∃ way, t.LeadsTo path way := by
  simp only [FileTree.write, bind_eq_ok_iff] at h
  obtain ⟨parts, hparts, here, hwalk, h⟩ := h
  cases hpart : parts.getLast? with
  | none =>
    rw [hpart] at h
    cases h
  | some part =>
    rw [hpart] at h
    by_cases hslash : path.endsWith "/" = true ∧ (!isDots part) = true
    · simp only [if_pos hslash] at h
      cases h
    · simp only [if_neg hslash, bind_eq_ok_iff] at h
      obtain ⟨way, hstep, hnode⟩ := h
      have hnot : ¬t.IsDirectory way := by
        rintro ⟨mode, hmode⟩
        rw [hmode] at hnode
        cases hnode
      refine ⟨way, ⟨parts, hparts, ?_⟩, hnot, ?_⟩
      · rw [FileTree.locate, hwalk]
        simp only [bind, Except.bind, hpart, hstep]
      · -- Dots lead to a directory, and nothing else may stand before a slash.
        refine Bool.eq_false_iff.mpr fun hend => ?_
        rcases (t.isOpen_nil.walk hwalk).step hstep with hopen | ⟨_, hdots⟩
        · exact hnot (hopen way (List.prefix_refl way))
        · exact hslash ⟨hend, by rw [hdots]; rfl⟩

/-- What was written can be given other access rights, and it is read as it was written. -/
theorem LeadsTo.setMode (h : t.LeadsTo path way) (content : List UInt8) (old mode : Nat) :
    ∃ t', (t.put way (.file old content)).setMode path mode = .ok t' ∧ t'.contains path = true ∧
      t'.read path = .ok content := by
  have hput := h.put old content
  have hfind := hput.find (node?_put h.ne_nil _)
  have hfind' := (hput.put mode content).find (node?_put h.ne_nil _)
  refine ⟨(t.put way (.file old content)).put way (.file mode content), ?_, ?_, ?_⟩
  · simp only [FileTree.setMode, hfind, bind, Except.bind]
    rfl
  · rw [contains, hfind']
  · simp only [read, hfind', bind, Except.bind]
    rfl

end ObjectStore.FileTree
