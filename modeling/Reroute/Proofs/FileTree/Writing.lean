/-
  Reroute.Proofs.FileTree.Writing — what is written is found again.

  Following a path for writing only refuses more than following it for reading: where it leads to a
  place, reading leads to the same place (`resolve_read`).  A free name that a path leads to is one
  that a file can be put at (`room_of_resolve`).  Once a file is there, the path leads to it
  (`resolve_put_free`): no walk passes a free name on its way, so up to its last name nothing has
  changed for it.
-/
import Reroute.Proofs.FileTree.Shape

namespace Reroute.FileTree

/-! ## §1. A path that can be written leads there for reading too. -/

/-- Where `follow` leads to a place, `follow'` leads to the same place. -/
def ReadsWhatItWrites (follow follow' : List String → Location → Except FileFault Place) : Prop :=
  ∀ names location place, follow names location = .ok place → follow' names location = .ok place

theorem LooksUp.read {name : String} {rest : List String} (h : LooksUp .write name rest) :
    LooksUp .read name rest :=
  ⟨h.notDot, h.notUp, fun hslashes => Access.noConfusion hslashes.1, h.short⟩

theorem walk_read {tree : FileTree}
    {follow follow' : List String → Location → Except FileFault Place}
    (hfollow : ReadsWhatItWrites follow follow') :
    ReadsWhatItWrites (walk tree .write follow) (walk tree .read follow') := by
  intro names
  induction names with
  | nil => intro location place hwalk; exact hwalk
  | cons name rest ih =>
    intro location place hwalk
    rw [walk_cons_iff]
    -- the tree is the same, and a name that writing looks up is one that reading looks up
    cases walk_cons_iff.1 hwalk with
    | stay hname hrest => exact .stay hname (ih _ _ hrest)
    | up hname hrest => exact .up hname (ih _ _ hrest)
    | free hname hget hnil hdir => exact .free hname.read hget hnil hdir
    | file hname hget hnil hreached => exact .file hname.read hget hnil hreached
    | down hname hget hrest => exact .down hname.read hget (ih _ _ hrest)
    | link hname hget htarget hrest => exact .link hname.read hget htarget (hfollow _ _ _ hrest)

theorem walkLinks_read (tree : FileTree) (links : Nat) :
    ReadsWhatItWrites (walkLinks tree .write links) (walkLinks tree .read links) := by
  induction links with
  | zero => exact walk_read fun _ _ _ h => h
  | succ links ih => exact walk_read ih

/-- **A path that leads to a place for writing leads to the same place for reading.** -/
theorem resolve_read {tree : FileTree} {cwd : Location} {path : String} {place : Place}
    (h : tree.resolve cwd .write path = .ok place) : tree.resolve cwd .read path = .ok place := by
  obtain ⟨hpath, hwalk⟩ := resolve_eq_ok_iff.1 h
  exact resolve_eq_ok_iff.2 ⟨hpath, walkLinks_read tree maxLinks _ _ _ hwalk⟩

/-! ## §2. Free names. -/

/-- The free names that `follow` leads to are missing entries of directories. -/
def LeadsToRoom (tree : FileTree) (follow : List String → Location → Except FileFault Place) :
    Prop :=
  ∀ names location directory name, follow names location = .ok (.free directory name) →
    IsDirAt tree directory ∧ tree.get? (directory ++ [name]) = none

theorem walk_leadsToRoom {tree : FileTree} {access : Access}
    {follow : List String → Location → Except FileFault Place} (hfollow : LeadsToRoom tree follow) :
    LeadsToRoom tree (walk tree access follow) := by
  intro names
  induction names with
  | nil => intro location directory free hwalk; cases hwalk
  | cons name rest ih =>
    intro location directory free hwalk
    cases walk_cons_iff.1 hwalk with
    | stay hname hrest => exact ih _ _ _ hrest
    | up hname hrest => exact ih _ _ _ hrest
    | free hname hget hnil hdir => exact ⟨hdir, hget⟩
    | down hname hget hrest => exact ih _ _ _ hrest
    | link hname hget htarget hrest => exact hfollow _ _ _ _ hrest

theorem walkLinks_leadsToRoom (tree : FileTree) (access : Access) (links : Nat) :
    LeadsToRoom tree (walkLinks tree access links) := by
  induction links with
  | zero => exact walk_leadsToRoom fun _ _ _ _ h => by cases h
  | succ links ih => exact walk_leadsToRoom ih

/-- A path that leads to a free name leads to a missing entry of a directory. -/
theorem room_of_resolve {tree : FileTree} {cwd directory : Location} {access : Access}
    {path name : String} (h : tree.resolve cwd access path = .ok (.free directory name)) :
    IsDirAt tree directory ∧ tree.get? (directory ++ [name]) = none :=
  walkLinks_leadsToRoom tree access maxLinks _ _ _ _ (resolve_eq_ok_iff.1 h).2

/-! ## §3. After a file is put at a free name. -/

section

variable {tree : FileTree} {directory : Location} {free : String}

/-- Where `follow` leads to the free name, `follow'` leads to the file that is there now. -/
def FindsPut (directory : Location) (free : String)
    (follow follow' : List String → Location → Except FileFault Place) : Prop :=
  ∀ names location, follow names location = .ok (.free directory free) →
    follow' names location = .ok (.found (directory ++ [free]))

theorem walk_put {access : Access}
    {follow follow' : List String → Location → Except FileFault Place}
    (hdir : IsDirAt tree directory) (hfree : tree.get? (directory ++ [free]) = none)
    (content : ByteArray) (hfollow : FindsPut directory free follow follow') :
    FindsPut directory free (walk tree access follow)
      (walk (tree.put (directory ++ [free]) (.file content)) access follow') := by
  have hput := entryAt?_put (takes_of_free hdir hfree) content
  -- the location was free, so whatever the walk found elsewhere is still there
  have hkept : ∀ {location node}, tree.get? location = some node →
      (tree.put (directory ++ [free]) (.file content)).entryAt? location
        = tree.entryAt? location := by
    intro location node hget
    rw [hput, if_neg]
    intro heq
    rw [heq, hfree] at hget
    cases hget
  intro names
  induction names with
  | nil => intro location hwalk; cases hwalk
  | cons name rest ih =>
    intro location hwalk
    rw [walk_cons_iff]
    cases walk_cons_iff.1 hwalk with
    | stay hname hrest => exact .stay hname (ih _ hrest)
    | up hname hrest => exact .up hname (ih _ hrest)
    | free hname hget hnil hdir =>
      -- the last name is the free one, and the file stands under it now
      exact .file hname (entryAt?_eq_file_iff.1 (by rw [hput, if_pos rfl])) hnil rfl
    | down hname hget hrest =>
      obtain ⟨entries, hget'⟩ :=
        entryAt?_eq_dir_iff.1 ((hkept hget).trans (entryAt?_eq_dir_iff.2 ⟨_, hget⟩))
      exact .down hname hget' (ih _ hrest)
    | link hname hget htarget hrest =>
      have hget' := entryAt?_eq_link_iff.1 ((hkept hget).trans (entryAt?_eq_link_iff.2 hget))
      exact .link hname hget' htarget (hfollow _ _ hrest)

theorem walkLinks_put (hdir : IsDirAt tree directory)
    (hfree : tree.get? (directory ++ [free]) = none) (content : ByteArray) (access : Access)
    (links : Nat) :
    FindsPut directory free (walkLinks tree access links)
      (walkLinks (tree.put (directory ++ [free]) (.file content)) access links) := by
  induction links with
  | zero => exact walk_put hdir hfree content fun _ _ h => by cases h
  | succ links ih => exact walk_put hdir hfree content ih

/-- **A path that leads to a free name leads to the file that is put there.** -/
theorem resolve_put_free {cwd : Location} {access : Access} {path : String}
    (h : tree.resolve cwd access path = .ok (.free directory free)) (content : ByteArray) :
    (tree.put (directory ++ [free]) (.file content)).resolve cwd access path
      = .ok (.found (directory ++ [free])) := by
  obtain ⟨hdir, hfree⟩ := room_of_resolve h
  obtain ⟨hpath, hwalk⟩ := resolve_eq_ok_iff.1 h
  exact resolve_eq_ok_iff.2 ⟨hpath, walkLinks_put hdir hfree content access maxLinks _ _ hwalk⟩

end

end Reroute.FileTree
