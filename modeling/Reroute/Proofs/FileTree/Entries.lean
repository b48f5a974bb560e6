/-
  Reroute.Proofs.FileTree.Entries — a tree by the entries at its locations.

  An entry is a node without what is below it: a file with its content, a directory, or a link with
  its target.  A file can be put in the place of a file or under a free name of a directory
  (`Takes`).  It then changes the entry at its own location and no other (`entryAt?_put`), and of
  two files that are put there one after the other, the second is left (`put_put`).
-/
import Reroute.FileTree.Basic

namespace Reroute.FileTree

/-! ## §1. Locations. -/

theorem lookup_entry {α : Type} (name first : String) (value : α) (rest : List (String × α)) :
    ((first, value) :: rest).lookup name = if name = first then some value else rest.lookup name := by
  rw [List.lookup_cons]
  by_cases h : name = first
  · rw [if_pos h, beq_iff_eq.2 h]
  · rw [if_neg h, beq_eq_false_iff_ne.2 h]

theorem get?_append (tree : FileTree) (location below : Location) :
    tree.get? (location ++ below) = (tree.get? location).bind fun node => node.get? below := by
  induction location generalizing tree with
  | nil => rfl
  | cons name rest ih =>
    cases tree with
    | file content => rfl
    | link target => rfl
    | dir entries =>
      show (entries.lookup name).bind (fun tree => tree.get? (rest ++ below)) = _
      rw [get?]
      cases entries.lookup name with
      | none => rfl
      | some tree => exact ih tree

/-- Is there a directory at the location? -/
def IsDirAt (tree : FileTree) (location : Location) : Prop :=
  ∃ entries, tree.get? location = some (.dir entries)

theorem any_isDir_iff {tree : FileTree} {location : Location} :
    (tree.get? location).any isDir = true ↔ IsDirAt tree location := by
  unfold IsDirAt
  cases tree.get? location with
  | none => simp
  | some node => cases node <;> simp [isDir]

/-- What has a node below it is a directory. -/
theorem isDirAt_of_get? {tree node : FileTree} {location : Location} {name : String}
    (h : tree.get? (location ++ [name]) = some node) : IsDirAt tree location := by
  rw [get?_append] at h
  obtain ⟨above, habove, hbelow⟩ := Option.bind_eq_some_iff.1 h
  cases above with
  | dir entries => exact ⟨entries, habove⟩
  | file content => simp [get?] at hbelow
  | link target => simp [get?] at hbelow

theorem IsDirAt.dropLast {tree : FileTree} {location : Location} (h : IsDirAt tree location) :
    IsDirAt tree location.dropLast := by
  rcases List.eq_nil_or_concat location with rfl | ⟨above, name, rfl⟩
  · exact h
  · obtain ⟨entries, hget⟩ := h
    rw [List.concat_eq_append] at hget ⊢
    rw [List.dropLast_concat]
    exact isDirAt_of_get? hget

theorem IsDirAt.top {tree : FileTree} {location : Location} (h : IsDirAt tree location) :
    IsDirAt tree [] := by
  cases tree with
  | dir entries => exact ⟨entries, rfl⟩
  | file content =>
    obtain ⟨entries, hget⟩ := h
    cases location <;> simp [get?] at hget
  | link target =>
    obtain ⟨entries, hget⟩ := h
    cases location <;> simp [get?] at hget

/-! ## §2. Entries. -/

/-- The node without what is below it. -/
def bare : FileTree → FileTree
  | file content => .file content
  | dir _ => .dir []
  | link target => .link target

/-- What stands at a location: a file with its content, a directory or a link with its target. -/
def entryAt? (tree : FileTree) (location : Location) : Option FileTree :=
  (tree.get? location).map bare

theorem entryAt?_cons (entries : List (String × FileTree)) (name : String) (rest : Location) :
    (dir entries).entryAt? (name :: rest)
      = (entries.lookup name).bind fun tree => tree.entryAt? rest := by
  unfold entryAt?
  rw [get?]
  cases entries.lookup name <;> rfl

section

variable {tree : FileTree} {location : Location}

theorem entryAt?_eq_none_iff : tree.entryAt? location = none ↔ tree.get? location = none :=
  Option.map_eq_none_iff

theorem entryAt?_eq_file_iff {content : ByteArray} :
    tree.entryAt? location = some (.file content) ↔ tree.get? location = some (.file content) := by
  unfold entryAt?
  cases tree.get? location with
  | none => simp
  | some node => cases node <;> simp [bare]

theorem entryAt?_eq_link_iff {target : String} :
    tree.entryAt? location = some (.link target) ↔ tree.get? location = some (.link target) := by
  unfold entryAt?
  cases tree.get? location with
  | none => simp
  | some node => cases node <;> simp [bare]

theorem entryAt?_eq_dir_iff : tree.entryAt? location = some (.dir []) ↔ IsDirAt tree location := by
  unfold entryAt? IsDirAt
  cases tree.get? location with
  | none => simp
  | some node => cases node <;> simp [bare]

end

/-! ## §3. Changing one entry of a directory. -/

section

variable {name : String} {change change' : Option FileTree → Option FileTree}
  {entries : List (String × FileTree)} {changed : FileTree}

/-- The entry that is changed is the one that `List.lookup` finds, and no other; a missing entry is
    added. -/
theorem lookup_alterEntry (hchange : change (entries.lookup name) = some changed)
    (other : String) :
    (alterEntry name change entries).lookup other
      = if other = name then some changed else entries.lookup other := by
  induction entries with
  | nil =>
    have hadded : change none = some changed := hchange
    rw [alterEntry, hadded]
    exact lookup_entry other name changed []
  | cons entry rest ih =>
    obtain ⟨first, node⟩ := entry
    rw [lookup_entry] at hchange
    rw [alterEntry]
    by_cases hfirst : first = name
    · subst hfirst
      rw [if_pos rfl] at hchange
      rw [if_pos rfl, hchange]
      show ((first, changed) :: rest).lookup other = _
      rw [lookup_entry, lookup_entry]
      split <;> rfl
    · rw [if_neg (fun h => hfirst h.symm)] at hchange
      rw [if_neg hfirst, lookup_entry, lookup_entry, ih hchange]
      by_cases hother : other = first
      · rw [if_pos hother, if_neg (fun h => hfirst (hother.symm.trans h)), if_pos hother]
      · rw [if_neg hother, if_neg hother]

/-- A change that makes the same of an entry before and after an earlier change makes that one
    forgotten. -/
theorem alterEntry_alterEntry (hchange : change (entries.lookup name) = some changed)
    (hagain : change' (some changed) = change' (entries.lookup name)) :
    alterEntry name change' (alterEntry name change entries) = alterEntry name change' entries := by
  induction entries with
  | nil =>
    have hadded : change none = some changed := hchange
    have hsame : change' (some changed) = change' none := hagain
    simp [alterEntry, hadded, hsame]
  | cons entry rest ih =>
    obtain ⟨first, node⟩ := entry
    rw [lookup_entry] at hchange hagain
    rw [alterEntry, alterEntry]
    by_cases hfirst : first = name
    · subst hfirst
      rw [if_pos rfl] at hchange hagain
      rw [if_pos rfl, if_pos rfl, hchange]
      show alterEntry first change' ((first, changed) :: rest) = _
      rw [alterEntry, if_pos rfl, hagain]
    · rw [if_neg (fun h => hfirst h.symm)] at hchange hagain
      rw [if_neg hfirst, if_neg hfirst, alterEntry, if_neg hfirst, ih hchange hagain]

end

/-! ## §4. Putting a file into a tree. -/

theorem alter_some (node : FileTree) (location : Location) (tree : FileTree) :
    alter (fun _ => some node) location (some tree) = some (tree.put location node) := by
  cases location with
  | nil => rfl
  | cons name rest => cases tree <;> rfl

theorem put_dir (entries : List (String × FileTree)) (name : String) (rest : Location)
    (node : FileTree) :
    (dir entries).put (name :: rest) node
      = .dir (alterEntry name (alter (fun _ => some node) rest) entries) := rfl

/-- A file can be put at the location: in the place of a file, or under a free name of a
    directory. -/
inductive Takes : FileTree → Location → Prop where
  | file (content : ByteArray) : Takes (.file content) []
  | free {entries : List (String × FileTree)} {name : String}
      (hlookup : entries.lookup name = none) : Takes (.dir entries) [name]
  | inside {entries : List (String × FileTree)} {name : String} {tree : FileTree} {rest : Location}
      (hlookup : entries.lookup name = some tree) (hrest : Takes tree rest) :
      Takes (.dir entries) (name :: rest)

theorem takes_of_file {tree : FileTree} {location : Location} {content : ByteArray}
    (hfile : tree.get? location = some (.file content)) : Takes tree location := by
  induction location generalizing tree with
  | nil =>
    cases hfile
    exact .file content
  | cons name rest ih =>
    cases tree with
    | file other => cases hfile
    | link target => cases hfile
    | dir entries =>
      obtain ⟨tree, hlookup, hrest⟩ := Option.bind_eq_some_iff.1 hfile
      exact .inside hlookup (ih hrest)

theorem takes_of_free {tree : FileTree} {directory : Location} {name : String}
    (hdir : IsDirAt tree directory) (hfree : tree.get? (directory ++ [name]) = none) :
    Takes tree (directory ++ [name]) := by
  induction directory generalizing tree with
  | nil =>
    obtain ⟨entries, hget⟩ := hdir
    cases hget
    refine .free ?_
    cases hlookup : entries.lookup name with
    | none => rfl
    | some node => simp [get?, hlookup] at hfree
  | cons first rest ih =>
    obtain ⟨entries, hget⟩ := hdir
    cases tree with
    | file content => cases hget
    | link target => cases hget
    | dir others =>
      obtain ⟨tree, hlookup, hrest⟩ := Option.bind_eq_some_iff.1 hget
      refine .inside hlookup (ih ⟨entries, hrest⟩ ?_)
      rw [List.cons_append, get?, hlookup] at hfree
      exact hfree

/-- The entries of a directory in which one has been changed. -/
theorem entryAt?_dir_alterEntry {name : String} {rest : Location} {node changed : FileTree}
    {entries : List (String × FileTree)}
    (hchanged : alter (fun _ => some node) rest (entries.lookup name) = some changed)
    (first : String) (others : Location) :
    ((dir entries).put (name :: rest) node).entryAt? (first :: others)
      = if first = name then changed.entryAt? others
        else (dir entries).entryAt? (first :: others) := by
  rw [put_dir, entryAt?_cons, entryAt?_cons, lookup_alterEntry hchanged]
  split <;> rfl

/-- **A file that is put into a tree changes the entry at its own location and no other.** -/
theorem entryAt?_put {tree : FileTree} {location : Location} (h : Takes tree location)
    (content : ByteArray) (other : Location) :
    (tree.put location (.file content)).entryAt? other
      = if other = location then some (.file content) else tree.entryAt? other := by
  induction h generalizing other with
  | file before => cases other <;> rfl
  | @free entries name hlookup =>
    cases other with
    | nil => rfl
    | cons first others =>
      have hadded : alter (fun _ => some (.file content)) [] (entries.lookup name)
          = some (.file content) := rfl
      rw [entryAt?_dir_alterEntry hadded, entryAt?_cons]
      by_cases hfirst : first = name
      · -- below the new file there is nothing, as there was nothing below the free name
        subst hfirst
        rw [hlookup, if_pos rfl]
        cases others <;> simp [entryAt?, get?, bare]
      · simp [hfirst]
  | @inside entries name tree rest hlookup _ ih =>
    cases other with
    | nil => rfl
    | cons first others =>
      have hput : alter (fun _ => some (.file content)) rest (entries.lookup name)
          = some (tree.put rest (.file content)) := by
        rw [hlookup, alter_some]
      rw [entryAt?_dir_alterEntry hput, entryAt?_cons, ih]
      -- the two locations part at their first names, or they share the entry that changes
      by_cases hfirst : first = name
      · subst hfirst
        simp [hlookup]
      · simp [hfirst]

/-- **Of two nodes that are put at a location one after the other, the second is left.** -/
theorem put_put {tree : FileTree} {location : Location} (h : Takes tree location)
    (node node' : FileTree) :
    (tree.put location node).put location node' = tree.put location node' := by
  induction h with
  | file content => rfl
  | free hlookup =>
    rw [put_dir, put_dir, put_dir, alterEntry_alterEntry rfl rfl]
  | @inside entries name tree rest hlookup _ ih =>
    have hput : alter (fun _ => some node) rest (entries.lookup name)
        = some (tree.put rest node) := by
      rw [hlookup, alter_some]
    have hagain : alter (fun _ => some node') rest (some (tree.put rest node))
        = alter (fun _ => some node') rest (entries.lookup name) := by
      rw [hlookup, alter_some, alter_some, ih]
    rw [put_dir, put_dir, put_dir, alterEntry_alterEntry hput hagain]

end Reroute.FileTree
