/-
  Reroute.Proofs.FileTree.Reading — reading and writing, by location.

  A path stands for the location that it leads to (`Disk.location?`): a file is read there
  (`readText_eq_ok_iff`) and, once it has been read, written there too (`writeText_of_file`).

  Disks of one shape differ in the contents of files only (`SameShape`).  They lead every path to
  one location and refuse the same, so that what cannot be read on one of them cannot be read on the
  other (`SameShape.readText_error`).  A write to a file, also one that fails, keeps the shape
  (`sameShape_writeAt`).
-/
import Reroute.FileTree.Disk
import Reroute.Proofs.FileTree.Shape

namespace Reroute

/-! ## §1. Texts and their bytes. -/

/-- Bytes are the encoding of a text exactly if they decode to it. -/
theorem fromUTF8?_eq_some_iff {content : ByteArray} {text : String} :
    String.fromUTF8? content = some text ↔ content = text.toUTF8 := by
  unfold String.fromUTF8?
  constructor
  · intro h
    split at h
    · cases h
      rfl
    · cases h
  · intro heq
    subst heq
    have hvalid : text.toUTF8.IsValidUTF8 := text.isValidUTF8
    rw [dif_pos hvalid]
    rfl

/-- A file holds one text. -/
theorem text_unique {node : Option FileTree} {text other : String}
    (h : node = some (.file text.toUTF8)) (hother : node = some (.file other.toUTF8)) :
    text = other := by
  have hbytes : text.toUTF8 = other.toUTF8 :=
    FileTree.file.inj (Option.some.inj (h.symm.trans hother))
  exact Option.some.inj ((fromUTF8?_eq_some_iff.2 rfl).symm.trans (fromUTF8?_eq_some_iff.2 hbytes))

namespace Disk

/-! ## §2. Where a path leads. -/

/-- The location of the file or directory that a path leads to. -/
def location? (disk : Disk) (path : String) : Option FileTree.Location :=
  match disk.resolve .read path with
  | .ok (.found location) => some location
  | _ => none

theorem resolve_of_location? {disk : Disk} {path : String} {location : FileTree.Location}
    (h : disk.location? path = some location) :
    disk.resolve .read path = .ok (.found location) := by
  unfold location? at h
  split at h
  · rename_i found hresolve
    cases h
    exact hresolve
  · cases h

theorem find_eq_ok_iff {disk : Disk} {path : String} {location : FileTree.Location}
    {node : FileTree} :
    disk.find path = .ok (location, node) ↔
      disk.location? path = some location ∧ disk.tree.get? location = some node := by
  unfold find location?
  cases disk.resolve .read path with
  | error fault => simp [bind, Except.bind]
  | ok place =>
    cases place with
    | free directory name => simp [bind, Except.bind]
    | found reached =>
      simp only [bind, Except.bind, Option.some.injEq]
      constructor
      · intro hfind
        split at hfind
        · rename_i found hget
          cases hfind
          exact ⟨rfl, hget⟩
        · cases hfind
      · rintro ⟨rfl, hget⟩
        rw [hget]

/-- A path leads to a directory exactly if the node that it leads to is one. -/
theorem isDirectory_iff {disk : Disk} {path : String} :
    disk.isDirectory path = true ↔
      ∃ location entries, disk.find path = .ok (location, .dir entries) := by
  unfold isDirectory
  cases disk.find path with
  | error fault => simp
  | ok found =>
    obtain ⟨location, node⟩ := found
    cases node <;> simp [FileTree.isDir]

/-! ## §3. Reading. -/

/-- **A path is read as a text exactly if it leads to a file with that text, and the file can be
    read.** -/
theorem readText_eq_ok_iff {disk : Disk} {path text : String} :
    disk.readText path = .ok text ↔
      ∃ location, disk.location? path = some location ∧ disk.faults.reading location = none ∧
        disk.tree.get? location = some (.file text.toUTF8) := by
  unfold readText
  constructor
  · intro hread
    cases hfind : disk.find path with
    | error fault => simp [hfind, bind, Except.bind] at hread
    | ok found =>
      obtain ⟨location, node⟩ := found
      obtain ⟨hlocation, hget⟩ := find_eq_ok_iff.1 hfind
      simp only [hfind, bind, Except.bind] at hread
      refine ⟨location, hlocation, ?_⟩
      split at hread
      · cases hread
      · rename_i content hreadable
        split at hread
        · rename_i found htext
          cases hread
          rw [hget, fromUTF8?_eq_some_iff.1 htext]
          exact ⟨hreadable, rfl⟩
        · cases hread
      · cases hread
  · rintro ⟨location, hlocation, hreadable, hfile⟩
    rw [find_eq_ok_iff.2 ⟨hlocation, hfile⟩]
    simp only [bind, Except.bind, hreadable, fromUTF8?_eq_some_iff.2 rfl]

/-! ## §4. Disks that differ in contents only. -/

/-- Trees of one shape, one working directory and the same faults. -/
structure SameShape (disk other : Disk) : Prop where
  shape : disk.tree.shape = other.tree.shape
  cwd : disk.cwd = other.cwd
  faults : disk.faults = other.faults

theorem SameShape.refl (disk : Disk) : SameShape disk disk := ⟨rfl, rfl, rfl⟩

section

variable {disk other third : Disk}

theorem SameShape.trans (h : SameShape disk other) (h' : SameShape other third) :
    SameShape disk third :=
  ⟨h.shape.trans h'.shape, h.cwd.trans h'.cwd, h.faults.trans h'.faults⟩

theorem SameShape.resolve (h : SameShape disk other) (access : FileTree.Access) (path : String) :
    disk.resolve access path = other.resolve access path := by
  unfold Disk.resolve
  rw [h.cwd, FileTree.resolve_eq_of_shape h.shape]

theorem SameShape.location? (h : SameShape disk other) (path : String) :
    disk.location? path = other.location? path := by
  unfold Disk.location?
  rw [h.resolve]

/-- A path leads to nodes of one shape at one location, or nowhere for the same reason. -/
theorem SameShape.find_cases (h : SameShape disk other) (path : String) :
    (∃ fault, disk.find path = .error fault ∧ other.find path = .error fault) ∨
      ∃ location node node', disk.find path = .ok (location, node) ∧
        other.find path = .ok (location, node') ∧ node.shape = node'.shape := by
  unfold Disk.find
  rw [h.resolve]
  cases other.resolve .read path with
  | error fault => exact .inl ⟨fault, rfl, rfl⟩
  | ok place =>
    cases place with
    | free directory name => exact .inl ⟨_, rfl, rfl⟩
    | found location =>
      have hshape := FileTree.get?_of_shape_eq h.shape location
      simp only [bind, Except.bind]
      cases hget : disk.tree.get? location with
      | none =>
        rw [hget] at hshape
        rw [Option.map_eq_none_iff.1 hshape.symm]
        exact .inl ⟨_, rfl, rfl⟩
      | some node =>
        rw [hget] at hshape
        obtain ⟨node', hget', hnode⟩ := Option.map_eq_some_iff.1 hshape.symm
        rw [hget']
        exact .inr ⟨location, node, node', rfl, rfl, hnode.symm⟩

theorem SameShape.find (h : SameShape disk other) (path : String) :
    (disk.find path).map (Prod.map id FileTree.shape)
      = (other.find path).map (Prod.map id FileTree.shape) := by
  rcases h.find_cases path with
    ⟨fault, hfind, hother⟩ | ⟨location, node, node', hfind, hother, hnode⟩
  · rw [hfind, hother]
  · rw [hfind, hother]
    exact congrArg (fun shape => Except.ok (location, shape)) hnode

theorem SameShape.isDirectory (h : SameShape disk other) (path : String) :
    disk.isDirectory path = other.isDirectory path := by
  unfold Disk.isDirectory
  rcases h.find_cases path with
    ⟨fault, hfind, hother⟩ | ⟨location, node, node', hfind, hother, hnode⟩
  · rw [hfind, hother]
  · rw [hfind, hother]
    cases node <;> cases node' <;> simp_all [FileTree.shape, FileTree.isDir]

/-- A path that cannot be read cannot be read, for the same reason, on a disk of the same shape on
    which no file has become a text. -/
theorem SameShape.readText_error (h : SameShape disk other) {path : String} {fault : FileFault}
    (hread : disk.readText path = .error fault)
    (hcontent : ∀ location content, disk.tree.get? location = some (.file content) →
      String.fromUTF8? content = none → other.tree.get? location = some (.file content)) :
    other.readText path = .error fault := by
  unfold readText at hread ⊢
  rw [← h.faults]
  rcases h.find_cases path with
    ⟨found, hfind, hother⟩ | ⟨location, node, node', hfind, hother, hnode⟩
  · rw [hfind] at hread
    rw [hother]
    exact hread
  · rw [hfind] at hread
    rw [hother]
    simp only [bind, Except.bind] at hread ⊢
    cases hreading : disk.faults.reading location with
    | some refused =>
      rw [hreading] at hread
      exact hread
    | none =>
      rw [hreading] at hread
      -- the fault lies in the kind of the node or in the bytes of a file; only the bytes could
      -- differ between the disks, and `hcontent` says that they do not
      cases node with
      | file content =>
        have hnone : String.fromUTF8? content = none := by
          cases htext : String.fromUTF8? content with
          | none => rfl
          | some text => simp [htext] at hread
        have hget' := hcontent location content (find_eq_ok_iff.1 hfind).2 hnone
        rw [(find_eq_ok_iff.1 hother).2, Option.some.injEq] at hget'
        subst hget'
        exact hread
      | dir _ | link _ =>
        cases node' with
        | file content => simp [FileTree.shape] at hnode
        | dir _ | link _ => exact hread

end

/-! ## §5. Writing to a file. -/

section

variable {disk : Disk} {path text : String} {location : FileTree.Location}

/-- **A file that can be read is written where it is read**, if the system takes what is written. -/
theorem writeText_of_file {content : ByteArray} (hlocation : disk.location? path = some location)
    (hfile : disk.tree.get? location = some (.file content)) (text : String) :
    disk.writeText path text = disk.writeAt location text := by
  have hwrite : disk.resolve .write path = .ok (.found location) :=
    FileTree.resolve_write hfile (resolve_of_location? hlocation)
  unfold writeText
  rw [hwrite]
  simp only [hfile]

/-- A file holds all of a text that it has taken. -/
theorem kept?_of_taken {uptake : Uptake} (htaken : uptake.fault? text = none)
    (hfile : uptake ≠ .device) : uptake.kept? text = some text.toUTF8 := by
  cases uptake with
  | whole => rfl
  | refused fault => cases htaken
  | device => exact absurd rfl hfile
  | limited room fault =>
    have hroom : text.utf8ByteSize ≤ room := by simpa [Uptake.fault?] using htaken
    have hall : text.toUTF8.extract 0 room = text.toUTF8 := by
      apply ByteArray.ext
      simp [hroom]
    rw [Uptake.kept?, hall]

/-- A file that is no device holds a text that was written to it with success. -/
theorem writeAt_of_ok (hok : (disk.writeAt location text).1 = .ok ())
    (hfile : disk.faults.writing location ≠ .device) :
    (disk.writeAt location text).2 = disk.setContent location text.toUTF8 := by
  have htaken : (disk.faults.writing location).fault? text = none := by
    unfold writeAt at hok
    cases hfault : (disk.faults.writing location).fault? text with
    | none => rfl
    | some fault => simp [hfault] at hok
  show ((disk.faults.writing location).kept? text).elim disk _ = _
  rw [kept?_of_taken htaken hfile]
  rfl

/-- **A write to a file keeps the shape of the disk**, whatever becomes of the text. -/
theorem sameShape_writeAt {content : ByteArray}
    (hfile : disk.tree.get? location = some (.file content)) (text : String) :
    SameShape disk (disk.writeAt location text).2 := by
  show SameShape disk (((disk.faults.writing location).kept? text).elim disk _)
  cases (disk.faults.writing location).kept? text with
  | none => exact .refl disk
  | some kept => exact ⟨(FileTree.shape_put hfile kept).symm, rfl, rfl⟩

end

end Disk

end Reroute
