/-
  Reroute.Proofs.Drafts — a draft and its file over any steps.

  The rules are applied to a draft and the draft is written, again and again and in any order
  (`Session.run`).  A write goes to one location, the same all the while (`Disk.target?`), and makes
  every earlier write forgotten (`Disk.afterWrite_afterWrite`).  So after any steps the draft still
  knows the text that it started from, its current text is what the substitutions have made of that
  one, and the disk is as the last write alone would have left it (`Follows`).

  Main statement (`session_faithful`): a write that succeeds leaves the current text in the file
  that the path leads to and every other entry of the tree as it was, so that reading the path gives
  that text back.  A write that is refused changes nothing; one that fails later leaves the
  beginning of the text in its file, and again every other entry as it was.  A device keeps no text
  at all (`write_not_kept`).
-/
import Reroute.Proofs.Blocks
import Reroute.Proofs.FileTree.Writing

namespace Reroute

/-! ## §1. Writing, by location. -/

namespace Disk

/-- The location of the file that a write to the path fills or makes. -/
def target? (disk : Disk) (path : String) : Option FileTree.Location :=
  match disk.resolve .write path with
  | .ok (.found location) =>
    match disk.tree.get? location with
    | some (.file _) => some location
    | _ => none
  | .ok (.free directory name) => some (directory ++ [name])
  | .error _ => none

/-- The disk after a write to the path, if there is one. -/
def afterWrite (disk : Disk) (path : String) : Option String → Disk
  | none => disk
  | some text => (disk.writeText path text).2

section

variable {disk : Disk} {path : String} {location : FileTree.Location}

/-- A write goes to the file that the path leads to, or to the free name that it leads to. -/
theorem target?_cases (h : disk.target? path = some location) :
    (disk.resolve .write path = .ok (.found location) ∧
      ∃ content, disk.tree.get? location = some (.file content)) ∨
    ∃ directory name, disk.resolve .write path = .ok (.free directory name) ∧
      location = directory ++ [name] := by
  unfold target? at h
  split at h
  · rename_i reached hplace
    split at h
    · rename_i content hfile
      cases h
      exact .inl ⟨hplace, content, hfile⟩
    · cases h
  · rename_i directory name hplace
    cases h
    exact .inr ⟨directory, name, hplace, rfl⟩
  · cases h

theorem writeText_of_target? (h : disk.target? path = some location) (text : String) :
    disk.writeText path text = disk.writeAt location text := by
  unfold writeText
  rcases target?_cases h with ⟨hplace, content, hfile⟩ | ⟨directory, name, hplace, rfl⟩
  · simp only [hplace, hfile]
  · simp only [hplace]

/-- A write that goes nowhere fails, and changes nothing. -/
theorem writeText_of_no_target (h : disk.target? path = none) (text : String) :
    ∃ fault, disk.writeText path text = (.error fault, disk) := by
  unfold target? at h
  unfold writeText
  cases hplace : disk.resolve .write path with
  | error fault => exact ⟨fault, rfl⟩
  | ok place =>
    rw [hplace] at h
    cases place with
    | free directory name => cases h
    | found reached =>
      cases hget : disk.tree.get? reached with
      | none => exact ⟨.isDirectory, by simp only [hget]⟩
      | some node =>
        simp only [hget] at h
        cases node with
        | file content => cases h
        | dir entries => exact ⟨.isDirectory, by simp only [hget]⟩
        | link target => exact ⟨.isDirectory, by simp only [hget]⟩

/-- A file can be put where a write goes to. -/
theorem takes_of_target? (h : disk.target? path = some location) :
    disk.tree.Takes location := by
  rcases target?_cases h with ⟨-, content, hfile⟩ | ⟨directory, name, hplace, rfl⟩
  · exact FileTree.takes_of_file hfile
  · obtain ⟨hdir, hfree⟩ := FileTree.room_of_resolve hplace
    exact FileTree.takes_of_free hdir hfree

theorem get?_setContent (h : disk.target? path = some location) (content : ByteArray) :
    (disk.setContent location content).tree.get? location = some (.file content) := by
  have hput := FileTree.entryAt?_put (takes_of_target? h) content location
  rw [if_pos rfl] at hput
  exact FileTree.entryAt?_eq_file_iff.1 hput

/-- After a write, the path leads to the file that was written. -/
theorem resolve_setContent (h : disk.target? path = some location) (content : ByteArray) :
    (disk.setContent location content).resolve .write path = .ok (.found location) := by
  rcases target?_cases h with ⟨hplace, earlier, hfile⟩ | ⟨directory, name, hplace, rfl⟩
  · -- a file in the place of a file: no path leads elsewhere than before
    have hshape : SameShape (disk.setContent location content) disk :=
      ⟨FileTree.shape_put hfile _, rfl, rfl⟩
    rw [hshape.resolve, hplace]
  · exact FileTree.resolve_put_free hplace _

theorem target?_setContent (h : disk.target? path = some location) (content : ByteArray) :
    (disk.setContent location content).target? path = some location := by
  unfold target?
  rw [resolve_setContent h content]
  simp only [get?_setContent h content]

theorem location?_of_resolve (h : disk.resolve .write path = .ok (.found location)) :
    disk.location? path = some location := by
  unfold location?
  rw [show disk.resolve .read path = .ok (.found location) from FileTree.resolve_read h]

theorem readText_setContent (h : disk.target? path = some location)
    (hreadable : disk.faults.reading location = none) (text : String) :
    (disk.setContent location text.toUTF8).readText path = .ok text :=
  readText_eq_ok_iff.2 ⟨location, location?_of_resolve (resolve_setContent h _), hreadable,
    get?_setContent h _⟩

/-! ## §2. The last of several writes.

    The earlier ones leave no trace, because all of them go to one location, and because it is the
    location that decides whether a file there keeps what is written. -/

theorem afterWrite_of_target? (h : disk.target? path = some location) (text : String) :
    disk.afterWrite path (some text)
      = ((disk.faults.writing location).kept? text).elim disk (disk.setContent location) := by
  show (disk.writeText path text).2 = _
  rw [writeText_of_target? h]
  rfl

theorem afterWrite_of_no_target (h : disk.target? path = none) (written : Option String) :
    disk.afterWrite path written = disk := by
  cases written with
  | none => rfl
  | some text =>
    obtain ⟨fault, hwrite⟩ := writeText_of_no_target h text
    exact congrArg Prod.snd hwrite

/-- Nothing changes where no text is kept. -/
theorem afterWrite_of_not_kept (h : disk.target? path = some location)
    (hnone : ∀ text, (disk.faults.writing location).kept? text = none) (written : Option String) :
    disk.afterWrite path written = disk := by
  cases written with
  | none => rfl
  | some text =>
    rw [afterWrite_of_target? h, hnone]
    rfl

/-- **A write does not move the path**: the next one goes to the same location, or nowhere as
    well. -/
theorem target?_afterWrite (disk : Disk) (path : String) (written : Option String) :
    (disk.afterWrite path written).target? path = disk.target? path := by
  cases htarget : disk.target? path with
  | none => rw [afterWrite_of_no_target htarget, htarget]
  | some location =>
    cases written with
    | none => exact htarget
    | some text =>
      rw [afterWrite_of_target? htarget]
      cases (disk.faults.writing location).kept? text with
      | none => exact htarget
      | some content => exact target?_setContent htarget content

theorem faults_afterWrite (disk : Disk) (path : String) (written : Option String) :
    (disk.afterWrite path written).faults = disk.faults := by
  cases htarget : disk.target? path with
  | none => rw [afterWrite_of_no_target htarget]
  | some location =>
    cases written with
    | none => rfl
    | some text =>
      rw [afterWrite_of_target? htarget]
      cases (disk.faults.writing location).kept? text <;> rfl

/-- **The last write makes the earlier ones forgotten.** -/
theorem afterWrite_afterWrite (disk : Disk) (path : String) (written : Option String)
    (text : String) :
    (disk.afterWrite path written).afterWrite path (some text)
      = disk.afterWrite path (some text) := by
  cases htarget : disk.target? path with
  | none => rw [afterWrite_of_no_target htarget written]
  | some location =>
    -- a file keeps something of every text that is written to it, or of none
    by_cases hnone : ∀ text, (disk.faults.writing location).kept? text = none
    · rw [afterWrite_of_not_kept htarget hnone written]
    · have hkept : ∀ text, ∃ content, (disk.faults.writing location).kept? text = some content := by
        intro text
        cases huptake : disk.faults.writing location with
        | whole => exact ⟨_, rfl⟩
        | limited room fault => exact ⟨_, rfl⟩
        | refused fault => exact absurd (fun _ => by rw [huptake]; rfl) hnone
        | device => exact absurd (fun _ => by rw [huptake]; rfl) hnone
      cases written with
      | none => rfl
      | some earlier =>
        obtain ⟨first, hfirst⟩ := hkept earlier
        obtain ⟨last, hlast⟩ := hkept text
        have hmiddle : disk.afterWrite path (some earlier) = disk.setContent location first := by
          rw [afterWrite_of_target? htarget, hfirst]
          rfl
        have hlast' : ((disk.setContent location first).faults.writing location).kept? text
            = some last := hlast
        -- the earlier write has not moved the path, so the later one puts its file over that one
        rw [hmiddle, afterWrite_of_target? htarget,
          afterWrite_of_target? (target?_setContent htarget first), hlast, hlast']
        show setContent _ _ _ = _
        unfold setContent
        rw [FileTree.put_put (takes_of_target? htarget)]
        rfl

/-! ## §3. What a write does. -/

/-- The file that the path leads to, at the location, has been given the content.  It was there
    before, or it is a new entry of a directory; every other entry of the tree is as before. -/
structure Written (before : Disk) (path : String) (content : ByteArray)
    (location : FileTree.Location) (after : Disk) : Prop where
  room : (before.location? path = some location ∧
      ∃ earlier, before.tree.entryAt? location = some (.file earlier)) ∨
    (before.location? path = none ∧ before.tree.entryAt? location = none ∧
      ∃ directory name, location = directory ++ [name] ∧
        before.tree.entryAt? directory = some (.dir []))
  leads : after.location? path = some location
  entries : ∀ other, after.tree.entryAt? other
    = if other = location then some (.file content) else before.tree.entryAt? other
  cwd : after.cwd = before.cwd
  faults : after.faults = before.faults

theorem written_setContent (h : disk.target? path = some location) (content : ByteArray) :
    Written disk path content location (disk.setContent location content) where
  room := by
    rcases target?_cases h with ⟨hplace, earlier, hfile⟩ | ⟨directory, name, hplace, rfl⟩
    · exact .inl ⟨location?_of_resolve hplace, earlier, FileTree.entryAt?_eq_file_iff.2 hfile⟩
    · obtain ⟨hdir, hfree⟩ := FileTree.room_of_resolve hplace
      have hnone : disk.location? path = none := by
        unfold location?
        rw [show disk.resolve .read path = .ok (.free directory name) from
          FileTree.resolve_read hplace]
      exact .inr ⟨hnone, FileTree.entryAt?_eq_none_iff.2 hfree, directory, name, rfl,
        FileTree.entryAt?_eq_dir_iff.2 hdir⟩
  leads := location?_of_resolve (resolve_setContent h content)
  entries := FileTree.entryAt?_put (takes_of_target? h) content
  cwd := rfl
  faults := rfl

/-- **A write that succeeds** goes to a file, and a file that is no device then holds the text. -/
theorem written_of_ok {text : String} {after : Disk}
    (h : disk.writeText path text = (.ok (), after)) :
    ∃ location, disk.target? path = some location ∧
      (disk.faults.writing location ≠ .device →
        after = disk.setContent location text.toUTF8) := by
  cases htarget : disk.target? path with
  | none =>
    obtain ⟨fault, hwrite⟩ := writeText_of_no_target htarget text
    rw [hwrite] at h
    cases h
  | some location =>
    rw [writeText_of_target? htarget] at h
    refine ⟨location, rfl, fun hfile => ?_⟩
    have hkept := writeAt_of_ok (congrArg Prod.fst h) hfile
    rw [h] at hkept
    exact hkept

/-- **A write that fails** is refused, or leaves the beginning of the text. -/
theorem cases_of_error {text : String} {fault : FileFault} {after : Disk}
    (h : disk.writeText path text = (.error fault, after)) :
    (after = disk ∧ (disk.target? path = none ∨
      ∃ location, disk.target? path = some location ∧
        disk.faults.writing location = .refused fault)) ∨
    ∃ location room, disk.target? path = some location ∧
      disk.faults.writing location = .limited room fault ∧ room < text.utf8ByteSize ∧
      after = disk.setContent location (text.toUTF8.extract 0 room) := by
  cases htarget : disk.target? path with
  | none =>
    obtain ⟨found, hwrite⟩ := writeText_of_no_target htarget text
    rw [hwrite] at h
    cases h
    exact .inl ⟨rfl, .inl rfl⟩
  | some location =>
    rw [writeText_of_target? htarget] at h
    have hresult : ((disk.faults.writing location).fault? text).elim (.ok ()) .error
        = Except.error fault := congrArg Prod.fst h
    have hafter : ((disk.faults.writing location).kept? text).elim disk (disk.setContent location)
        = after := congrArg Prod.snd h
    cases huptake : disk.faults.writing location with
    | whole =>
      rw [huptake] at hresult
      cases hresult
    | device =>
      rw [huptake] at hresult
      cases hresult
    | refused found =>
      rw [huptake] at hresult hafter
      cases hresult
      exact .inl ⟨hafter.symm, .inr ⟨location, rfl, huptake⟩⟩
    | limited room found =>
      rw [huptake] at hresult hafter
      by_cases hfits : text.utf8ByteSize ≤ room
      · rw [Uptake.fault?, if_pos hfits] at hresult
        cases hresult
      · rw [Uptake.fault?, if_neg hfits] at hresult
        cases hresult
        exact .inr ⟨location, room, rfl, huptake, Nat.lt_of_not_le hfits, hafter.symm⟩

end

end Disk

namespace Draft

/-! ## §4. Steps. -/

/-- What can be done with a draft: its text is given to some rules, or it is written. -/
inductive Step where
  | substitute (registry : Registry) (context : Context)
  | write

/-- The rules and the context of a step that applies rules. -/
def Step.substitution? : Step → Option (Registry × Context)
  | substitute registry context => some (registry, context)
  | write => none

/-- A draft and the disk that it is written to. -/
structure Session where
  draft : Draft
  disk : Disk

namespace Session

/-- A new draft of the text, for the file at the path. -/
def start (disk : Disk) (path text : String) : Session :=
  { draft := .ofText path text, disk }

/-- The session after one more step. -/
def step (session : Session) : Step → Session
  | .substitute registry context =>
    { session with draft := (session.draft.substitute registry context).1 }
  | .write => { session with disk := (session.draft.write session.disk).2 }

/-- The session after the steps. -/
def run (session : Session) (steps : List Step) : Session :=
  steps.foldl step session

end Session

/-- The text after the substitutions among the steps, each applied to the result of those before
    it. -/
def currentAfter (text : String) (steps : List Step) : String :=
  (steps.filterMap Step.substitution?).foldl
    (fun text substitution => (substitution.1.substitute substitution.2 text).1) text

/-- The text that the last write among the steps writes. -/
def writtenAfter (text : String) : List Step → Option String
  | [] => none
  | .substitute registry context :: rest => writtenAfter (registry.substitute context text).1 rest
  | .write :: rest => (writtenAfter text rest).or (some text)

theorem currentAfter_substitute (text : String) (steps : List Step) (registry : Registry)
    (context : Context) :
    currentAfter text (steps ++ [.substitute registry context])
      = (registry.substitute context (currentAfter text steps)).1 := by
  unfold currentAfter
  rw [List.filterMap_append, List.foldl_append]
  rfl

theorem currentAfter_write (text : String) (steps : List Step) :
    currentAfter text (steps ++ [.write]) = currentAfter text steps := by
  unfold currentAfter
  rw [List.filterMap_append, List.foldl_append]
  rfl

theorem writtenAfter_substitute (text : String) (steps : List Step) (registry : Registry)
    (context : Context) :
    writtenAfter text (steps ++ [.substitute registry context]) = writtenAfter text steps := by
  induction steps generalizing text with
  | nil => rfl
  | cons step rest ih =>
    cases step with
    | substitute registry' context' => exact ih _
    | write => rw [List.cons_append, writtenAfter, writtenAfter, ih]

theorem writtenAfter_write (text : String) (steps : List Step) :
    writtenAfter text (steps ++ [.write]) = some (currentAfter text steps) := by
  induction steps generalizing text with
  | nil => rfl
  | cons step rest ih =>
    cases step with
    | substitute registry context => exact ih _
    | write =>
      rw [List.cons_append, writtenAfter, ih]
      rfl

/-! ## §5. What the steps have come to. -/

/-- **The state of a session** that started from the disk with a draft of the text and has taken the
    steps. -/
structure Follows (disk : Disk) (path text : String) (steps : List Step) (session : Session) :
    Prop where
  draft : session.draft = { path, start := text, current := currentAfter text steps }
  disk : session.disk = disk.afterWrite path (writtenAfter text steps)

/-- What a draft does to the disk is what writing its text does. -/
theorem step_write (session : Session) :
    session.step .write = { session with
      disk := session.disk.afterWrite session.draft.path (some session.draft.current) } := rfl

/-- **One more step** keeps the account of the steps. -/
theorem Follows.step {disk : Disk} {path text : String} {steps : List Step} {session : Session}
    (h : Follows disk path text steps session) (next : Step) :
    Follows disk path text (steps ++ [next]) (session.step next) := by
  cases next with
  | substitute registry context =>
    constructor
    · show (session.draft.substitute registry context).1 = _
      rw [h.draft, currentAfter_substitute]
      rfl
    · rw [writtenAfter_substitute, ← h.disk]
      rfl
  | write =>
    -- a write leaves the draft alone, and the text that it writes is the current one
    rw [step_write]
    constructor
    · rw [currentAfter_write]
      exact h.draft
    · show session.disk.afterWrite session.draft.path (some session.draft.current) = _
      rw [h.draft, h.disk, Disk.afterWrite_afterWrite, writtenAfter_write]

/-- **Any further steps** keep the account of the steps. -/
theorem Follows.run {disk : Disk} {path text : String} {before : List Step} {session : Session}
    (h : Follows disk path text before session) (steps : List Step) :
    Follows disk path text (before ++ steps) (session.run steps) := by
  induction steps generalizing before session with
  | nil =>
    rw [List.append_nil]
    exact h
  | cons next rest ih =>
    have hrest := ih (h.step next)
    rw [List.append_assoc] at hrest
    exact hrest

theorem Follows.target? {disk : Disk} {path text : String} {steps : List Step} {session : Session}
    (h : Follows disk path text steps session) :
    session.disk.target? path = disk.target? path := by
  rw [h.disk, Disk.target?_afterWrite]

theorem Follows.faults {disk : Disk} {path text : String} {steps : List Step} {session : Session}
    (h : Follows disk path text steps session) : session.disk.faults = disk.faults := by
  rw [h.disk, Disk.faults_afterWrite]

/-! ## §6. The draft and its file. -/

theorem write_eq_ok {draft : Draft} {disk after : Disk} (h : draft.write disk = (.ok (), after)) :
    disk.writeText draft.path draft.current = (.ok (), after) := by
  unfold write Disk.write at h
  rcases hwrite : disk.writeText draft.path draft.current with ⟨fault | _, left⟩
  · rw [hwrite] at h
    cases h
  · rw [hwrite] at h
    cases h
    rfl

theorem write_eq_error {draft : Draft} {disk after : Disk} {failure : Failure}
    (h : draft.write disk = (.error failure, after)) :
    ∃ fault : FileFault, failure.reason = fault.message ∧
      disk.writeText draft.path draft.current = (.error fault, after) := by
  unfold write Disk.write at h
  rcases hwrite : disk.writeText draft.path draft.current with ⟨fault | _, left⟩
  · rw [hwrite] at h
    cases h
    exact ⟨fault, rfl, rfl⟩
  · rw [hwrite] at h
    cases h

/-- **A draft is faithful over any steps.**  It keeps the text that it started from, its current
    text is what the substitutions so far have made of that, and it counts as modified exactly if
    the two differ.

    A write that succeeds, to a file that is no device, leaves the current text, and nothing else,
    in the file that the path leads to, which is made if it is missing; no other entry of the tree
    changes, and reading the path gives a draft of that very text, if the file can be read.  A write
    that fails before its file is opened leaves everything as it is.  One that fails later leaves in
    its file no more than the beginning of the current text that it has room for, and no other entry
    changes.

    Where a write goes to is settled before the first step, and of all the writes so far the disk
    shows the last one only. -/
theorem session_faithful (disk : Disk) (path text : String) (steps : List Step) :
    let session := (Session.start disk path text).run steps
    let current := currentAfter text steps
    (session.draft = { path, start := text, current } ∧
      (session.draft.isModified = true ↔ current ≠ text)) ∧
    session.disk = disk.afterWrite path (writtenAfter text steps) ∧
    session.step .write = { session with disk := (session.draft.write session.disk).2 } ∧
    (∀ after, session.draft.write session.disk = (.ok (), after) →
      ∃ location, disk.target? path = some location ∧
        (disk.faults.writing location ≠ .device →
          Disk.Written session.disk path current.toUTF8 location after ∧
          (disk.faults.reading location = none →
            Draft.read after path = .ok (.ofText path current)))) ∧
    (∀ failure after, session.draft.write session.disk = (.error failure, after) →
      ∃ fault : FileFault, failure.reason = fault.message ∧
        ((after = session.disk ∧ session.disk = disk ∧ (disk.target? path = none ∨
            ∃ location, disk.target? path = some location ∧
              disk.faults.writing location = .refused fault)) ∨
          ∃ location room, disk.target? path = some location ∧
            disk.faults.writing location = .limited room fault ∧ room < current.utf8ByteSize ∧
            Disk.Written session.disk path (current.toUTF8.extract 0 room) location after)) := by
  intro session current
  have hstart : Follows disk path text [] (Session.start disk path text) := ⟨rfl, rfl⟩
  have hfollows : Follows disk path text steps session := hstart.run steps
  refine ⟨⟨hfollows.draft, ?_⟩, hfollows.disk, rfl, ?_, ?_⟩
  · rw [hfollows.draft]
    exact bne_iff_ne
  · -- the write goes to the location that the path had before the first step
    intro after hwrite
    have hwritten := write_eq_ok hwrite
    rw [hfollows.draft] at hwritten
    obtain ⟨location, htarget, hkept⟩ := Disk.written_of_ok hwritten
    refine ⟨location, hfollows.target?.symm.trans htarget, fun hfile => ?_⟩
    rw [← hfollows.faults] at hfile
    rw [hkept hfile]
    refine ⟨Disk.written_setContent htarget _, fun hreadable => ?_⟩
    rw [← hfollows.faults] at hreadable
    exact Migration.read_ok (Disk.readText_setContent htarget hreadable current)
  · intro failure after hwrite
    obtain ⟨fault, hreason, hwritten⟩ := write_eq_error hwrite
    rw [hfollows.draft] at hwritten
    refine ⟨fault, hreason, ?_⟩
    rcases Disk.cases_of_error hwritten with ⟨hsame, hnowhere⟩ | ⟨location, room, htarget, hcut⟩
    · rw [hfollows.target?, hfollows.faults] at hnowhere
      refine .inl ⟨hsame, hfollows.disk.trans ?_, hnowhere⟩
      -- what refuses this write has refused every write before it
      rcases hnowhere with hnone | ⟨location, htarget, hrefused⟩
      · exact Disk.afterWrite_of_no_target hnone _
      · exact Disk.afterWrite_of_not_kept htarget (fun _ => by rw [hrefused]; rfl) _
    · obtain ⟨hlimited, hlong, rfl⟩ := hcut
      rw [hfollows.faults] at hlimited
      exact .inr ⟨location, room, hfollows.target?.symm.trans htarget, hlimited, hlong,
        Disk.written_setContent htarget _⟩

/-- A link whose target is missing from its directory. -/
def danglingLink : Disk :=
  { tree := .dir [("app", .dir [("main.ts", .link "../lib/main.ts")]), ("lib", .dir [])] }

/-- One rule that turns a character into another one. -/
def turning (old new : Char) : Registry :=
  { name := "turning"
    rules := [{ pattern := { source := String.singleton old, node := .set (.single old) }
                replacement := .literal (String.singleton new)
                description := "turn" }] }

/-- The text is changed, written, and changed back. -/
def thereWrittenAndBack : List Step :=
  [.substitute (turning 'a' 'b') {}, .write, .substitute (turning 'b' 'a') {}]

/-- The write makes the file that the link has been waiting for.  Then the draft is back at its
    text, with mark and line ending, and counts as unmodified, though the file does not hold that
    text until the draft is written once more. -/
theorem session_faithful_danglingLink :
    let session := (Session.start danglingLink "app/main.ts" "\uFEFFa\r\n").run thereWrittenAndBack
    danglingLink.tree.entryAt? ["lib", "main.ts"] = none ∧
      session.draft.isModified = false ∧
      session.disk.tree.entryAt? ["lib", "main.ts"] = some (.file "\uFEFFb\r\n".toUTF8) ∧
      ∃ after, session.draft.write session.disk = (.ok (), after) ∧
        after.tree.entryAt? ["lib", "main.ts"] = some (.file "\uFEFFa\r\n".toUTF8) ∧
        after.tree.entryAt? ["app", "main.ts"] = some (.link "../lib/main.ts") ∧
        Draft.read after "app/main.ts" = .ok (.ofText "app/main.ts" "\uFEFFa\r\n") := by
  intro session
  have htarget : danglingLink.target? "app/main.ts" = some ["lib", "main.ts"] := by decide
  have hcurrent : currentAfter "\uFEFFa\r\n" thereWrittenAndBack = "\uFEFFa\r\n" := by
    decide +kernel
  have hwritten : writtenAfter "\uFEFFa\r\n" thereWrittenAndBack = some "\uFEFFb\r\n" := by
    decide +kernel
  obtain ⟨⟨-, hmodified⟩, hdisk, -, hsuccess, hfailure⟩ :=
    session_faithful danglingLink "app/main.ts" "\uFEFFa\r\n" thereWrittenAndBack
  have hentries := Disk.written_setContent htarget "\uFEFFb\r\n".toUTF8
  rw [hwritten, Disk.afterWrite_of_target? htarget] at hdisk
  have hsession : ∀ other, session.disk.tree.entryAt? other
      = if other = ["lib", "main.ts"] then some (.file "\uFEFFb\r\n".toUTF8)
        else danglingLink.tree.entryAt? other := by
    intro other
    rw [← hentries.entries other]
    exact congrArg (fun disk => disk.tree.entryAt? other) hdisk
  refine ⟨rfl, ?_, hsession _, ?_⟩
  · rw [← Bool.not_eq_true, hmodified, hcurrent]
    exact fun h => h rfl
  · rcases hwrite : session.draft.write session.disk with ⟨failure | _, after⟩
    · -- a write that fails goes nowhere, is refused or lacks room, and this one does not
      obtain ⟨fault, -, ⟨-, -, hnone | ⟨location, -, hrefused⟩⟩ | ⟨location, room, -, hlimited, -⟩⟩ :=
        hfailure failure after hwrite
      · rw [htarget] at hnone
        cases hnone
      · cases hrefused
      · cases hlimited
    · obtain ⟨location, hlocation, hkept⟩ := hsuccess after hwrite
      rw [htarget] at hlocation
      cases hlocation
      obtain ⟨hafter, hread⟩ := hkept (by simp [danglingLink])
      rw [hcurrent] at hafter hread
      refine ⟨after, rfl, hafter.entries _, ?_, hread rfl⟩
      rw [hafter.entries, if_neg (by decide), hsession, if_neg (by decide)]
      rfl

/-- A device, and a file that has room for two bytes. -/
def scarceDisk : Disk where
  tree := .dir [("null", .file "".toUTF8), ("full.ts", .file "old".toUTF8)]
  faults := { writing := fun location =>
    if location = ["null"] then .device
    else .limited 2 (.system "No space left on device (os error 28)") }

/-- A write that fails can change its file, and a device does not give back what was written to it
    with success. -/
theorem write_not_kept :
    let cut := (Draft.ofText "full.ts" "new").write scarceDisk
    let taken := (Draft.ofText "null" "x").write scarceDisk
    (∃ failure, cut.1 = .error failure) ∧
      scarceDisk.tree.get? ["full.ts"] = some (.file "old".toUTF8) ∧
      cut.2.tree.get? ["full.ts"] = some (.file "ne".toUTF8) ∧
      taken.1 = .ok () ∧ Draft.read taken.2 "null" = .ok (.ofText "null" "") :=
  ⟨⟨_, rfl⟩, rfl, rfl, rfl, rfl⟩

end Draft

end Reroute
