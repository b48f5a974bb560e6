/-
  Reroute.Proofs.FileTree.Shape — what a write to a file leaves alone.

  `shape` forgets the content of every file and keeps all the rest of a tree: names, their order,
  kinds of nodes and link targets.  Two facts carry every statement about a run over files:

    • putting a file in the place of a file keeps the shape and changes the content of that file
      only (`shape_put`, `get?_put`),
    • where a path leads depends on the shape alone (`resolve_eq_of_shape`), so no rewritten file
      can change which file a later path leads to.

  `resolve_write` adds that a path that leads to a file for reading leads to it for writing too.
  What one name of a path can do on the way is said once, in `walk_cons_iff`.
-/
import Reroute.FileTree.Disk
import Reroute.Proofs.FileTree.Entries

namespace Reroute.FileTree

/-! ## §1. The shape of a tree. -/

mutual

/-- The tree with the content of every file left out. -/
def shape : FileTree → FileTree
  | file _ => .file ByteArray.empty
  | dir entries => .dir (shapeOfEntries entries)
  | link target => .link target

/-- The entries of a directory with the content of every file left out. -/
def shapeOfEntries : List (String × FileTree) → List (String × FileTree)
  | [] => []
  | (name, tree) :: rest => (name, tree.shape) :: shapeOfEntries rest

end

theorem lookup_shapeOfEntries (entries : List (String × FileTree)) (name : String) :
    (shapeOfEntries entries).lookup name = (entries.lookup name).map shape := by
  induction entries with
  | nil => rfl
  | cons entry rest ih =>
    obtain ⟨other, tree⟩ := entry
    rw [shapeOfEntries, lookup_entry, lookup_entry, ih]
    split <;> rfl

/-- **The shape of a tree has at every location the shape of what the tree has there.** -/
theorem get?_shape (tree : FileTree) (location : Location) :
    tree.shape.get? location = (tree.get? location).map shape := by
  induction location generalizing tree with
  | nil => cases tree <;> simp [get?]
  | cons name rest ih =>
    cases tree with
    | file content => rfl
    | link target => rfl
    | dir entries =>
      show ((shapeOfEntries entries).lookup name).bind (fun tree => tree.get? rest) = _
      rw [lookup_shapeOfEntries, get?]
      cases entries.lookup name with
      | none => rfl
      | some tree => exact ih tree

/-- A location has a node in one of two trees of one shape exactly if it has one in the other, and
    the two are of one shape again. -/
theorem get?_of_shape_eq {tree other : FileTree} (h : tree.shape = other.shape)
    (location : Location) :
    (tree.get? location).map shape = (other.get? location).map shape := by
  rw [← get?_shape, ← get?_shape, h]

/-! ## §2. Putting a file in the place of a file. -/

theorem shapeOfEntries_alterEntry {name : String} {change : Option FileTree → Option FileTree}
    {entries : List (String × FileTree)} {tree changed : FileTree}
    (hlookup : entries.lookup name = some tree) (hchange : change (some tree) = some changed)
    (hshape : changed.shape = tree.shape) :
    shapeOfEntries (alterEntry name change entries) = shapeOfEntries entries := by
  induction entries with
  | nil => simp at hlookup
  | cons entry rest ih =>
    obtain ⟨first, node⟩ := entry
    rw [lookup_entry] at hlookup
    rw [alterEntry]
    by_cases hfirst : first = name
    · subst hfirst
      rw [if_pos rfl, Option.some.injEq] at hlookup
      subst hlookup
      rw [if_pos rfl, hchange]
      show (first, changed.shape) :: shapeOfEntries rest = _
      rw [hshape]
      rfl
    · rw [if_neg (fun h => hfirst h.symm)] at hlookup
      rw [if_neg hfirst, shapeOfEntries, shapeOfEntries, ih hlookup]

/-- A file that is put in the place of a file keeps the shape of the tree. -/
theorem shape_put {tree : FileTree} {location : Location} {content : ByteArray}
    (hget : tree.get? location = some (.file content)) (content' : ByteArray) :
    (tree.put location (.file content')).shape = tree.shape := by
  induction location generalizing tree with
  | nil =>
    simp only [get?, Option.some.injEq] at hget
    subst hget
    rfl
  | cons name rest ih =>
    cases tree with
    | file other => simp [get?] at hget
    | link target => simp [get?] at hget
    | dir entries =>
      rw [get?] at hget
      obtain ⟨tree, hlookup, hrest⟩ := Option.bind_eq_some_iff.1 hget
      rw [put_dir, shape, shape,
        shapeOfEntries_alterEntry hlookup (alter_some _ _ _) (ih hrest)]

/-- **A file that is put in the place of a file changes the content at its own location and at no
    other.** -/
theorem get?_put {tree : FileTree} {location : Location} {content : ByteArray}
    (hget : tree.get? location = some (.file content)) (content' : ByteArray)
    {other : Location} {found : ByteArray} (hother : tree.get? other = some (.file found)) :
    (tree.put location (.file content')).get? other
      = some (.file (if other = location then content' else found)) := by
  rw [← entryAt?_eq_file_iff, entryAt?_put (takes_of_file hget)]
  by_cases heq : other = location
  · rw [if_pos heq, if_pos heq]
  · rw [if_neg heq, if_neg heq, entryAt?_eq_file_iff.2 hother]

/-! ## §3. Where a path leads depends on the shape alone. -/

theorem any_isDir_shape (node : Option FileTree) : (node.map shape).any isDir = node.any isDir := by
  cases node with
  | none => rfl
  | some node => cases node <;> rfl

theorem walk_shape (tree : FileTree) (access : Access)
    (follow : List String → Location → Except FileFault Place) (names : List String)
    (location : Location) :
    walk tree.shape access follow names location = walk tree access follow names location := by
  induction names generalizing location with
  | nil => rfl
  | cons name rest ih =>
    rw [walk, walk, ih, ih, ih, get?_shape, get?_shape, any_isDir_shape]
    cases tree.get? (location ++ [name]) with
    | none => rfl
    | some node => cases node <;> simp [shape]

theorem walkLinks_shape (tree : FileTree) (access : Access) (links : Nat) :
    walkLinks tree.shape access links = walkLinks tree access links := by
  induction links with
  | zero =>
    funext names location
    exact walk_shape tree access _ names location
  | succ links ih =>
    funext names location
    rw [walkLinks, walkLinks, ih]
    exact walk_shape tree access _ names location

/-- **Trees of one shape lead every path to one place.** -/
theorem resolve_eq_of_shape {tree other : FileTree} (h : tree.shape = other.shape)
    (cwd : Location) (access : Access) (path : String) :
    tree.resolve cwd access path = other.resolve cwd access path := by
  unfold resolve
  rw [← walkLinks_shape tree, ← walkLinks_shape other, h]

/-- A path leads to a place if its text is one that can be followed, and its names lead there. -/
theorem resolve_eq_ok_iff {tree : FileTree} {cwd : Location} {access : Access} {path : String}
    {place : Place} :
    tree.resolve cwd access path = .ok place ↔
      ('\x00' ∉ path.toList ∧ path ≠ "" ∧ path.utf8ByteSize ≤ maxPath) ∧
        walkLinks tree access maxLinks (namesOf path) (if isAbsolute path then [] else cwd)
          = .ok place := by
  unfold resolve
  by_cases hnul : '\x00' ∈ path.toList
  · simp [hnul]
  by_cases hempty : path = ""
  · simp [hempty]
  by_cases hlong : maxPath < path.utf8ByteSize
  · simp [hnul, hempty, hlong, Nat.not_le.2 hlong]
  · simp [hnul, hempty, hlong, Nat.le_of_not_lt hlong]

/-! ## §4. One name of a path. -/

/-- The name is looked up in the directory reached, with the names `rest` after it. -/
structure LooksUp (access : Access) (name : String) (rest : List String) : Prop where
  notDot : ¬ (name = "" ∨ name = ".")
  notUp : name ≠ ".."
  notSlashed : ¬ (access = .write ∧ rest ≠ [] ∧ rest.all (· == ""))
  short : ¬ maxName < name.utf8ByteSize

/-- A name that is looked up is none of those that are dealt with before. -/
theorem LooksUp.passes {access : Access} {name : String} {rest : List String}
    (h : LooksUp access name rest) {α : Type} (stay up slashed long found : α) :
    (if name = "" ∨ name = "." then stay
      else if name = ".." then up
      else if access = .write ∧ rest ≠ [] ∧ rest.all (· == "") then slashed
      else if maxName < name.utf8ByteSize then long
      else found) = found := by
  rw [if_neg h.notDot, if_neg h.notUp, if_neg h.notSlashed, if_neg h.short]

/-- The ways in which a name and the names after it lead to a place. -/
inductive Leads (tree : FileTree) (access : Access)
    (follow : List String → Location → Except FileFault Place) (name : String)
    (rest : List String) (location : Location) : Place → Prop where
  | stay {place : Place} (hname : name = "" ∨ name = ".")
      (hrest : walk tree access follow rest location = .ok place) :
      Leads tree access follow name rest location place
  | up {place : Place} (hname : name = "..")
      (hrest : walk tree access follow rest location.dropLast = .ok place) :
      Leads tree access follow name rest location place
  | free (hname : LooksUp access name rest) (hget : tree.get? (location ++ [name]) = none)
      (hnil : rest = []) (hdir : IsDirAt tree location) :
      Leads tree access follow name rest location (.free location name)
  | file {content : ByteArray} {reached : Location} (hname : LooksUp access name rest)
      (hget : tree.get? (location ++ [name]) = some (.file content)) (hnil : rest = [])
      (hreached : location ++ [name] = reached) :
      Leads tree access follow name rest location (.found reached)
  | down {entries : List (String × FileTree)} {place : Place} (hname : LooksUp access name rest)
      (hget : tree.get? (location ++ [name]) = some (.dir entries))
      (hrest : walk tree access follow rest (location ++ [name]) = .ok place) :
      Leads tree access follow name rest location place
  | link {target : String} {place : Place} (hname : LooksUp access name rest)
      (hget : tree.get? (location ++ [name]) = some (.link target)) (htarget : target ≠ "")
      (hrest : follow (namesOf target ++ rest) (if isAbsolute target then [] else location)
        = .ok place) :
      Leads tree access follow name rest location place

/-- **A walk leads to a place exactly in these ways.** -/
theorem walk_cons_iff {tree : FileTree} {access : Access}
    {follow : List String → Location → Except FileFault Place} {name : String}
    {rest : List String} {location : Location} {place : Place} :
    walk tree access follow (name :: rest) location = .ok place ↔
      Leads tree access follow name rest location place := by
  rw [walk]
  constructor
  · intro hwalk
    by_cases hdot : name = "" ∨ name = "."
    · rw [if_pos hdot] at hwalk
      exact .stay hdot hwalk
    rw [if_neg hdot] at hwalk
    by_cases hup : name = ".."
    · rw [if_pos hup] at hwalk
      exact .up hup hwalk
    rw [if_neg hup] at hwalk
    by_cases hslashes : access = .write ∧ rest ≠ [] ∧ rest.all (· == "")
    · rw [if_pos hslashes] at hwalk
      cases hwalk
    rw [if_neg hslashes] at hwalk
    by_cases hlong : maxName < name.utf8ByteSize
    · rw [if_pos hlong] at hwalk
      cases hwalk
    rw [if_neg hlong] at hwalk
    have hname : LooksUp access name rest := ⟨hdot, hup, hslashes, hlong⟩
    cases hget : tree.get? (location ++ [name]) with
    | none =>
      simp only [hget] at hwalk
      by_cases hfree : rest = [] ∧ (tree.get? location).any isDir
      · rw [if_pos hfree] at hwalk
        cases hwalk
        exact .free hname hget hfree.1 (any_isDir_iff.1 hfree.2)
      · rw [if_neg hfree] at hwalk
        cases hwalk
    | some node =>
      rw [hget] at hwalk
      cases node with
      | dir entries => exact .down hname hget hwalk
      | file content =>
        by_cases hnil : rest = []
        · simp only [if_pos hnil, Except.ok.injEq] at hwalk
          subst hwalk
          exact .file hname hget hnil rfl
        · simp [hnil] at hwalk
      | link target =>
        by_cases htarget : target = ""
        · simp [htarget] at hwalk
        · simp only [if_neg htarget] at hwalk
          exact .link hname hget htarget hwalk
  · intro hleads
    cases hleads with
    | stay hname hrest => rw [if_pos hname, hrest]
    | up hname hrest => rw [if_neg (by simp [hname]), if_pos hname, hrest]
    | free hname hget hnil hdir =>
      rw [hname.passes, hget]
      exact if_pos ⟨hnil, any_isDir_iff.2 hdir⟩
    | file hname hget hnil hreached =>
      rw [hname.passes, hget]
      simp only [if_pos hnil, hreached]
    | down hname hget hrest =>
      rw [hname.passes, hget]
      exact hrest
    | link hname hget htarget hrest =>
      rw [hname.passes, hget]
      simp only [if_neg htarget, hrest]

/-! ## §5. A file that can be read can be written.

    Following a path for writing differs at one point: a name with nothing but slashes after it is
    refused.  A path that ends so never leads to a file, whatever links it goes through
    (`walkLinks_trailing`), so the difference never shows at a file. -/

/-- From a directory, names that end in a slash lead to directories only. -/
def TrailsToDirs (tree : FileTree) (follow : List String → Location → Except FileFault Place) :
    Prop :=
  ∀ names location reached, IsDirAt tree location → names.getLast? = some "" →
    follow names location = .ok (.found reached) → IsDirAt tree reached

/-- Names that end in a slash still do so after a name other than that slash. -/
theorem getLast?_rest {name : String} {rest : List String}
    (hlast : (name :: rest).getLast? = some "") (hname : name ≠ "") :
    rest.getLast? = some "" := by
  cases rest with
  | nil =>
    rw [List.getLast?_singleton, Option.some.injEq] at hlast
    exact absurd hlast hname
  | cons next others => rwa [List.getLast?_cons_cons] at hlast

theorem walk_trailing {tree : FileTree}
    {follow : List String → Location → Except FileFault Place} (hfollow : TrailsToDirs tree follow) :
    TrailsToDirs tree (walk tree .read follow) := by
  intro names
  induction names with
  | nil => intro location reached _ hlast; simp at hlast
  | cons name rest ih =>
    intro location reached hdir hlast hwalk
    cases walk_cons_iff.1 hwalk with
    | stay hname hrest =>
      -- the name may be the slash at the end, and then the walk stays in its directory
      cases rest with
      | nil =>
        cases hrest
        exact hdir
      | cons next others => exact ih location reached hdir (by simpa using hlast) hrest
    | up hname hrest =>
      exact ih _ reached hdir.dropLast (getLast?_rest hlast (by simp [hname])) hrest
    | file hname hget hnil hreached =>
      subst hnil
      have hslash := getLast?_rest hlast (fun hempty => hname.notDot (.inl hempty))
      cases hslash
    | down hname hget hrest =>
      have hlast' := getLast?_rest hlast (fun hempty => hname.notDot (.inl hempty))
      exact ih _ reached ⟨_, hget⟩ hlast' hrest
    | link hname hget htarget hrest =>
      have hlast' := getLast?_rest hlast (fun hempty => hname.notDot (.inl hempty))
      -- the target stands before the names that are left, so these still end in the slash
      refine hfollow _ _ reached ?_ ?_ hrest
      · split
        · exact hdir.top
        · exact hdir
      · rw [List.getLast?_append, hlast']
        rfl

theorem walkLinks_trailing (tree : FileTree) (links : Nat) :
    TrailsToDirs tree (walkLinks tree .read links) := by
  induction links with
  | zero => exact walk_trailing fun _ _ _ _ _ h => by simp at h
  | succ links ih => exact walk_trailing ih

/-- Where `follow` leads to a file for reading, `follow'` leads to it for writing. -/
def WritesWhatItReads (tree : FileTree)
    (follow follow' : List String → Location → Except FileFault Place) : Prop :=
  ∀ names location reached content, tree.get? reached = some (.file content) →
    follow names location = .ok (.found reached) → follow' names location = .ok (.found reached)

theorem walk_write {tree : FileTree}
    {follow follow' : List String → Location → Except FileFault Place}
    (htrail : TrailsToDirs tree follow) (hfollow : WritesWhatItReads tree follow follow') :
    WritesWhatItReads tree (walk tree .read follow) (walk tree .write follow') := by
  intro names
  induction names with
  | nil => intro location reached content _ hwalk; exact hwalk
  | cons name rest ih =>
    intro location reached content hfile hwalk
    -- a name with only slashes after it is one that reading takes to a directory
    have hwrites : ∀ {node}, LooksUp .read name rest →
        tree.get? (location ++ [name]) = some node → LooksUp .write name rest := by
      intro node hname hget
      refine ⟨hname.notDot, hname.notUp, ?_, hname.short⟩
      intro hslashes
      obtain ⟨-, hne, hall⟩ := hslashes
      have hlast : rest.getLast? = some "" := by
        rw [List.getLast?_eq_some_getLast hne]
        exact congrArg some (by simpa using List.all_eq_true.1 hall _ (List.getLast_mem hne))
      have hlast' : (name :: rest).getLast? = some "" := by
        rw [List.getLast?_cons, hlast]
        rfl
      obtain ⟨entries, hdir⟩ :=
        walk_trailing htrail _ location reached (isDirAt_of_get? hget) hlast' hwalk
      rw [hfile] at hdir
      cases hdir
    rw [walk_cons_iff]
    cases walk_cons_iff.1 hwalk with
    | stay hname hrest => exact .stay hname (ih location reached content hfile hrest)
    | up hname hrest => exact .up hname (ih _ reached content hfile hrest)
    | file hname hget hnil hreached => exact .file (hwrites hname hget) hget hnil hreached
    | down hname hget hrest =>
      exact .down (hwrites hname hget) hget (ih _ reached content hfile hrest)
    | link hname hget htarget hrest =>
      exact .link (hwrites hname hget) hget htarget (hfollow _ _ reached content hfile hrest)

theorem walkLinks_write (tree : FileTree) (links : Nat) :
    WritesWhatItReads tree (walkLinks tree .read links) (walkLinks tree .write links) := by
  induction links with
  | zero => exact walk_write (fun _ _ _ _ _ h => by simp at h) fun _ _ _ _ _ h => by simp at h
  | succ links ih => exact walk_write (walkLinks_trailing tree links) ih

/-- **A path that leads to a file for reading leads to the same file for writing.** -/
theorem resolve_write {tree : FileTree} {cwd location : Location} {path : String}
    {content : ByteArray} (hfile : tree.get? location = some (.file content))
    (hread : tree.resolve cwd .read path = .ok (.found location)) :
    tree.resolve cwd .write path = .ok (.found location) := by
  obtain ⟨hpath, hwalk⟩ := resolve_eq_ok_iff.1 hread
  exact resolve_eq_ok_iff.2 ⟨hpath, walkLinks_write tree maxLinks _ _ location content hfile hwalk⟩

end Reroute.FileTree
