/-
  Reroute.Proofs.Paths — paths below a root.

  A path is made from a root by joining plain names to it one after the other.  Whatever the
  spelling of the root, its components stand at the start of the components of the path and the
  names are the rest (`below?_joinAll`), so the path relative to the root is the row of the names
  (`relativeTo_joinAll`), and different rows of names give different relative paths
  (`intercalate_inj`).
-/
import Reroute.Path.Basic

namespace Reroute

/-! ## §1. Cutting at a separator. -/

/-- The pieces of a text are those of the library's `List.splitOn`. -/
theorem splitAtChar_eq_splitOn (separator : Char) (text : List Char) :
    splitAtChar separator text = text.splitOn separator := by
  induction text with
  | nil => rfl
  | cons c rest ih =>
    rw [splitAtChar, List.splitOn_cons_eq_if_modifyHead, ih]
    by_cases h : c = separator
    · rw [if_pos h, if_pos (beq_iff_eq.2 h)]
    · rw [if_neg h, if_neg (by simpa using h)]
      cases hpieces : rest.splitOn separator with
      | nil => exact absurd hpieces (List.splitOn_ne_nil separator rest)
      | cons piece pieces => rfl

namespace Path

/-! ## §2. Plain names. -/

/-- Can the text be the name of an entry of a directory? -/
def isName (name : String) : Bool :=
  name != "" && name != "." && name != ".." && !name.toList.contains '/'

theorem isName_iff {name : String} :
    isName name = true ↔ name ≠ "" ∧ name ≠ "." ∧ name ≠ ".." ∧ '/' ∉ name.toList := by
  simp [isName, and_assoc]

theorem ofPiece?_of_isName {name : String} (h : isName name = true) :
    Component.ofPiece? name.toList = some (.name name) := by
  obtain ⟨hempty, hdot, hdots, -⟩ := isName_iff.1 h
  have hne : ∀ text : String, name ≠ text → name.toList ≠ text.toList :=
    fun text hne heq => hne (String.toList_injective heq)
  have hskip : ¬ (name.toList = [] ∨ name.toList = ['.']) := by
    intro hor
    rcases hor with h | h
    · exact hne "" hempty h
    · exact hne "." hdot h
  have hparent : ¬ name.toList = ['.', '.'] := hne ".." hdots
  rw [Component.ofPiece?, if_neg hskip, if_neg hparent, String.ofList_toList]

theorem pieces_of_isName {name : String} (h : isName name = true) :
    (name.toList.splitOn '/').filterMap Component.ofPiece? = [.name name] := by
  rw [List.splitOn_eq_singleton (isName_iff.1 h).2.2.2]
  simp [ofPiece?_of_isName h]

/-! ## §3. Joining names to a path. -/

/-- The start of a path is not changed by what is joined to it. -/
theorem leading_append_slash {text : List Char} (htext : text ≠ []) (rest : List Char) :
    leading (text ++ '/' :: rest) = leading text := by
  -- only the first two characters of a path decide how it starts
  match text, htext with
  | [c], _ =>
    by_cases hslash : c = '/'
    · subst hslash
      rfl
    · by_cases hdot : c = '.'
      · subst hdot
        rfl
      · simp [leading, hslash, hdot]
  | c :: d :: others, _ =>
    by_cases hslash : c = '/'
    · subst hslash
      rfl
    · by_cases hdot : c = '.'
      · subst hdot
        by_cases hd : d = '/'
        · subst hd
          rfl
        · simp [leading, hd]
      · simp [leading, hslash, hdot]

/-- One slash stands between a directory and the name that is joined to it. -/
theorem toList_join {directory : String} (hdir : directory ≠ "") (name : String) :
    ∃ start, (directory.toList = start ∨ directory.toList = start ++ ['/']) ∧
      (join directory name).toList = start ++ '/' :: name.toList := by
  by_cases hlast : directory.toList.getLast? = some '/'
  · obtain ⟨start, hstart⟩ := List.getLast?_eq_some_iff.1 hlast
    refine ⟨start, .inr hstart, ?_⟩
    rw [join, if_pos (.inr hlast), String.toList_append, hstart]
    simp
  · refine ⟨directory.toList, .inl rfl, ?_⟩
    have hjoin : ¬ (directory.isEmpty = true ∨ directory.toList.getLast? = some '/') := by
      intro hor
      rcases hor with hempty | h
      · exact hdir (String.isEmpty_iff.1 hempty)
      · exact hlast h
    rw [join, if_neg hjoin]
    simp [String.toList_append]

/-- The components that a text adds to the path that it is joined to. -/
def added (text : String) : List Component :=
  (splitAtChar '/' text.toList).filterMap Component.ofPiece?

/-- **What is joined to a path comes after its components.** -/
theorem components_join_text {directory : String} (hdir : directory ≠ "") (text : String) :
    components (join directory text) = components directory ++ added text := by
  obtain ⟨start, hstart, hjoin⟩ := toList_join hdir text
  have hdirList : directory.toList ≠ [] := fun h => hdir (String.toList_injective h)
  unfold components added
  rw [hjoin, splitAtChar_eq_splitOn, splitAtChar_eq_splitOn, splitAtChar_eq_splitOn,
    List.splitOn_append_cons_self, List.filterMap_append, ← List.append_assoc]
  congr 1
  rcases hstart with hstart | hstart
  · rw [hstart] at hdirList ⊢
    rw [leading_append_slash hdirList]
  · -- a slash at the end of the directory stands for the one before the text
    have hpieces : directory.toList.splitOn '/' = start.splitOn '/' ++ [[]] := by
      rw [hstart, List.splitOn_append_cons_self, List.splitOn_nil]
    have hlead : leading (start ++ '/' :: text.toList) = leading directory.toList := by
      rw [hstart]
      by_cases hnil : start = []
      · subst hnil
        rfl
      · rw [leading_append_slash hnil, leading_append_slash hnil]
    rw [hpieces, hlead, List.filterMap_append]
    simp [Component.ofPiece?]

/-- **Joining a name to a path adds the component of that name.** -/
theorem components_join {directory name : String} (hdir : directory ≠ "")
    (hname : isName name = true) :
    components (join directory name) = components directory ++ [.name name] := by
  rw [components_join_text hdir, added, splitAtChar_eq_splitOn, pieces_of_isName hname]

theorem join_ne_empty {directory name : String} (hdir : directory ≠ "") :
    join directory name ≠ "" := by
  obtain ⟨start, -, hjoin⟩ := toList_join hdir name
  intro hempty
  rw [hempty] at hjoin
  simp at hjoin

/-- The path with the names joined to it one after the other. -/
def joinAll (path : String) (names : List String) : String :=
  names.foldl join path

theorem components_joinAll {root : String} (hroot : root ≠ "") {names : List String}
    (hnames : ∀ name ∈ names, isName name = true) :
    components (joinAll root names) = components root ++ names.map .name := by
  induction names generalizing root with
  | nil => simp [joinAll]
  | cons name rest ih =>
    have hname := hnames name List.mem_cons_self
    have hrest : ∀ other ∈ rest, isName other = true :=
      fun other hmem => hnames other (List.mem_cons_of_mem name hmem)
    show components (joinAll (join root name) rest) = _
    rw [ih (join_ne_empty hroot) hrest, components_join hroot hname, List.append_assoc]
    rfl

/-! ## §4. Relative paths. -/

theorem afterStart_append {α : Type} [DecidableEq α] (start rest : List α) :
    afterStart start (start ++ rest) = some rest := by
  induction start with
  | nil => cases rest <;> rfl
  | cons a start ih => simpa [afterStart] using ih

/-- **What lies below the root of a path are the names that were joined to it.** -/
theorem below?_joinAll {root : String} (hroot : root ≠ "") {names : List String}
    (hnames : ∀ name ∈ names, isName name = true) :
    below? root (joinAll root names) = some (names.map .name) := by
  rw [below?, components_joinAll hroot hnames, afterStart_append]

/-- The path relative to its root is the row of the names below it. -/
theorem relativeTo_joinAll {root : String} (hroot : root ≠ "") {names : List String}
    (hnames : ∀ name ∈ names, isName name = true) :
    relativeTo root (joinAll root names) = "/".intercalate names := by
  have htexts : (names.map Component.name).map Component.text = names := by
    rw [List.map_map]
    exact List.map_id names
  simp only [relativeTo, below?_joinAll hroot hnames, htexts]

/-- **Different rows of names are different relative paths.** -/
theorem intercalate_inj {names others : List String} (hnames : ∀ name ∈ names, isName name = true)
    (hothers : ∀ name ∈ others, isName name = true)
    (h : "/".intercalate names = "/".intercalate others) : names = others := by
  have hsplit : ∀ row : List String, (∀ name ∈ row, isName name = true) → row ≠ [] →
      ("/".intercalate row).toList.splitOn '/' = row.map String.toList := by
    intro row hrow hnonempty
    rw [String.toList_intercalate]
    refine List.splitOn_intercalate '/' ?_ (by simpa using hnonempty)
    intro piece hpiece
    obtain ⟨name, hmem, rfl⟩ := List.mem_map.1 hpiece
    exact (isName_iff.1 (hrow name hmem)).2.2.2
  -- the path of no names is the empty text, which is that of no plain name either
  have hempty : ∀ row : List String, (∀ name ∈ row, isName name = true) →
      "/".intercalate row = "" → row = [] := by
    intro row hrow htext
    cases row with
    | nil => rfl
    | cons name rest =>
      have hpieces := hsplit (name :: rest) hrow (by simp)
      rw [htext, String.toList_empty, List.splitOn_nil, List.map_cons, List.cons.injEq] at hpieces
      exact absurd (String.toList_injective hpieces.1.symm)
        (isName_iff.1 (hrow name List.mem_cons_self)).1
  by_cases hnil : names = []
  · subst hnil
    exact (hempty others hothers h.symm).symm
  by_cases hnil' : others = []
  · subst hnil'
    exact hempty names hnames h
  have hmap : names.map String.toList = others.map String.toList := by
    rw [← hsplit names hnames hnil, ← hsplit others hothers hnil', h]
  exact (List.map_inj_right fun _ _ => String.toList_injective).1 hmap

end Path

end Reroute
