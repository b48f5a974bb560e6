/-
  Reroute.Proofs.RootPrefix — the prefix of a file leads back to the root.

  A file below a root is the root with plain names joined to it.  Its relative path is the row of
  these names, and its root prefix goes up once for each of them but the last.  The two are found
  from the components of root and path alone, so neither depends on how the root is spelled.

  After the directory of the file the prefix adds as many double dots as the directory has names
  below the root (`components_join_rootPrefix_text`).  Each of them cancels the name before it
  (`Cancels`), and what is left is the root, with whatever follows the prefix joined to it.

  Main statement (`rootPrefix_leads_to_root`).
-/
import Mathlib.Data.List.Induction
import Reroute.Context
import Reroute.Proofs.Paths

namespace Reroute

namespace Path

/-! ## §1. Cancelling double dots. -/

/-- So many times a double dot is cancelled against the name before it. -/
inductive Cancels : (times : Nat) → (components result : List Component) → Prop where
  | done {components : List Component} : Cancels 0 components components
  | next {times : Nat} {before after result : List Component} {name : String}
      (hrest : Cancels times (before ++ after) result) :
      Cancels (times + 1) (before ++ .name name :: .parent :: after) result

/-- Names are cancelled by as many double dots after them. -/
theorem cancels_names (before after : List Component) (names : List String) :
    Cancels names.length
      (before ++ (names.map .name ++ (List.replicate names.length .parent ++ after)))
      (before ++ after) := by
  -- the last name stands right before the first double dot
  induction names using List.reverseRecOn with
  | nil => exact .done
  | append_singleton names name ih =>
    have hcut : before ++ ((names ++ [name]).map Component.name
          ++ (List.replicate (names ++ [name]).length .parent ++ after))
        = (before ++ names.map .name)
          ++ .name name :: .parent :: (List.replicate names.length .parent ++ after) := by
      simp [List.replicate_succ]
    rw [hcut, List.length_append]
    apply Cancels.next
    rw [List.append_assoc]
    exact ih

/-- A component put after others, which stand with the last one first: a double dot takes away a
    name. -/
def cancelInto : (before : List Component) → Component → List Component
  | .name _ :: before, .parent => before
  | before, component => component :: before

theorem cancelInto_name (before : List Component) (name : String) :
    cancelInto before (.name name) = .name name :: before := by
  simp [cancelInto]

/-- The components with every double dot cancelled that has a name to cancel. -/
def collapse (components : List Component) : List Component :=
  (components.foldl cancelInto []).reverse

/-- Components collapse to the same, whichever double dots were cancelled before. -/
theorem Cancels.collapse_eq {times : Nat} {components result : List Component}
    (h : Cancels times components result) : collapse components = collapse result := by
  induction h with
  | done => rfl
  | next _ ih =>
    rw [← ih]
    unfold collapse
    rw [List.foldl_append, List.foldl_append, List.foldl_cons, cancelInto_name]
    rfl

/-! ## §2. What the prefix adds to a directory. -/

/-- The first piece of a text that does not start with the separator has its first character. -/
theorem splitAtChar_cons {separator c : Char} (h : c ≠ separator) (rest : List Char) :
    ∃ piece pieces, splitAtChar separator rest = piece :: pieces ∧
      splitAtChar separator (c :: rest) = (c :: piece) :: pieces := by
  have hne : splitAtChar separator rest ≠ [] := by
    rw [splitAtChar_eq_splitOn]
    exact List.splitOn_ne_nil separator rest
  obtain ⟨piece, pieces, hpieces⟩ := List.exists_cons_of_ne_nil hne
  refine ⟨piece, pieces, hpieces, ?_⟩
  rw [splitAtChar, if_neg h, hpieces]

/-- A path with a text has a component. -/
theorem components_ne_nil {path : String} (h : path ≠ "") : components path ≠ [] := by
  have hne : path.toList ≠ [] := fun heq => h (String.toList_injective heq)
  obtain ⟨c, rest, htext⟩ := List.exists_cons_of_ne_nil hne
  unfold components
  rw [htext]
  by_cases hslash : c = '/'
  · subst hslash
    simp [leading]
  obtain ⟨piece, pieces, hpieces, hfirst⟩ := splitAtChar_cons hslash rest
  by_cases hdot : c :: piece = ['.']
  · -- the first piece is no component of its own only where it is a dot, which leads the path
    obtain ⟨rfl, rfl⟩ := List.cons.inj hdot
    cases rest with
    | nil => simp [leading]
    | cons d rest =>
      by_cases hslash' : d = '/'
      · subst hslash'
        simp [leading]
      · obtain ⟨_, _, -, hsecond⟩ := splitAtChar_cons hslash' rest
        rw [hpieces] at hsecond
        cases hsecond
  · have hcomponent : ∃ component, Component.ofPiece? (c :: piece) = some component := by
      unfold Component.ofPiece?
      rw [if_neg (by simpa using hdot)]
      split <;> exact ⟨_, rfl⟩
    obtain ⟨component, hcomponent⟩ := hcomponent
    rw [hfirst, List.filterMap_cons_some hcomponent]
    simp

/-- The way up is a row of double dots. -/
theorem ascend_eq_join (depth : Nat) :
    Context.ascend depth = String.join (List.replicate depth "../") := by
  apply String.toList_injective
  unfold Context.ascend
  induction depth with
  | zero => rfl
  | succ depth ih =>
    rw [String.toList_ofList] at ih ⊢
    rw [List.replicate_succ, List.replicate_succ, List.flatten_cons, ih]
    simp [String.join_cons, String.toList_append]

/-- A text with a piece and a slash before it. -/
theorem added_append_slash {piece : List Char} (hpiece : '/' ∉ piece) (text : String) :
    added (String.ofList (piece ++ ['/']) ++ text)
      = (Component.ofPiece? piece).toList ++ added text := by
  unfold added
  rw [String.toList_append, String.toList_ofList, List.append_assoc, List.singleton_append,
    splitAtChar_eq_splitOn, splitAtChar_eq_splitOn, List.splitOn_append_cons_self,
    List.filterMap_append, List.splitOn_eq_singleton hpiece]
  cases hcomponent : Component.ofPiece? piece with
  | none => simp [hcomponent]
  | some component => simp [hcomponent]

theorem added_ascend (depth : Nat) (text : String) :
    added (Context.ascend depth ++ text) = List.replicate depth .parent ++ added text := by
  induction depth with
  | zero =>
    show added ("" ++ text) = added text
    rw [String.empty_append]
  | succ depth ih =>
    have hfirst : Context.ascend (depth + 1) ++ text
        = String.ofList (['.', '.'] ++ ['/']) ++ (Context.ascend depth ++ text) := by
      unfold Context.ascend
      rw [List.replicate_succ, List.flatten_cons, String.ofList_append, String.append_assoc]
      rfl
    rw [hfirst, added_append_slash (by decide), ih, List.replicate_succ]
    rfl

/-- The prefix of a file whose path below the root has the given names. -/
theorem rootPrefix_joinAll {root : String} (hroot : root ≠ "") {names : List String}
    (hne : names ≠ []) (hnames : ∀ name ∈ names, isName name = true) :
    (Context.forPath root (joinAll root names)).rootPrefix
      = if names.length = 1 then "./" else Context.ascend (names.length - 1) := by
  have hpos := List.length_pos_iff.2 hne
  have hlast : (names.map Component.name).getLast? = some (.name (names.getLast hne)) := by
    rw [List.getLast?_map, List.getLast?_eq_some_getLast hne]
    rfl
  have hdepth : depth (names.map .name) = names.length - 1 := by
    unfold depth
    rw [hlast, List.length_map]
  unfold Context.forPath
  rw [below?_joinAll hroot hnames, Option.getD_some, hdepth]
  by_cases hone : names.length = 1
  · rw [if_pos hone, hone]
    rfl
  · rw [if_neg hone]
    obtain ⟨depth, hlength⟩ : ∃ depth, names.length - 1 = depth + 1 := ⟨names.length - 2, by omega⟩
    rw [hlength]

/-- **After a directory the prefix adds one double dot for each name below the root.** -/
theorem components_join_rootPrefix_text {root : String} (hroot : root ≠ "") {names : List String}
    (hne : names ≠ []) (hnames : ∀ name ∈ names, isName name = true) {directory : String}
    (hdirectory : directory ≠ "") (rest : String) :
    components (join directory
        ((Context.forPath root (joinAll root names)).rootPrefix ++ rest))
      = components directory ++ (List.replicate (names.length - 1) .parent ++ added rest) := by
  rw [components_join_text hdirectory, rootPrefix_joinAll hroot hne hnames]
  congr 1
  by_cases hone : names.length = 1
  · -- a dot adds nothing
    have hdot : '/' ∉ ['.'] := by decide
    rw [if_pos hone, hone]
    exact added_append_slash hdot rest
  · rw [if_neg hone, added_ascend]

/-! ## §3. The way back. -/

/-- **The prefix of a file leads back to the root.**  Below a root, however it is spelled, stand
    the names of the path; they are the path that is shown.  The prefix goes up once for each of
    them but the last, and by a dot where there is one only.  So a relative path after the
    directory of the file and the prefix comes out at the root with that path joined to it: each
    double dot of the prefix cancels the name before it, and nothing changes if all others are
    cancelled too. -/
theorem rootPrefix_leads_to_root (root : String) (hroot : root ≠ "") (names : List String)
    (hne : names ≠ []) (hnames : ∀ name ∈ names, isName name = true) (directory : String)
    (hdirectory : components directory = (components (joinAll root names)).dropLast) :
    relativeTo root (joinAll root names) = "/".intercalate names ∧
    (Context.forPath root (joinAll root names)).rootPrefix
      = (if names.length = 1 then "./"
        else String.join (List.replicate (names.length - 1) "../")) ∧
    ∀ rest, let way := components (join directory
        ((Context.forPath root (joinAll root names)).rootPrefix ++ rest))
      Cancels (names.length - 1) way (components (join root rest)) ∧
        collapse way = collapse (components (join root rest)) := by
  refine ⟨relativeTo_joinAll hroot hnames, ?_, ?_⟩
  · rw [rootPrefix_joinAll hroot hne hnames, ascend_eq_join]
  · intro rest
    -- the directory has all names but the last one
    have hcomponents : components directory = components root ++ names.dropLast.map .name := by
      rw [hdirectory, components_joinAll hroot hnames, List.dropLast_append_of_ne_nil (by simpa),
        List.map_dropLast]
    have hdirectory' : directory ≠ "" := by
      rintro rfl
      have hnil : components root = [] := (List.append_eq_nil_iff.1 hcomponents.symm).1
      exact components_ne_nil hroot hnil
    have hcancels : Cancels (names.length - 1)
        (components (join directory
          ((Context.forPath root (joinAll root names)).rootPrefix ++ rest)))
        (components (join root rest)) := by
      rw [components_join_rootPrefix_text hroot hne hnames hdirectory', components_join_text hroot,
        hcomponents, List.append_assoc]
      have hlength : names.dropLast.length = names.length - 1 := List.length_dropLast
      rw [← hlength]
      exact cancels_names _ _ _
    exact ⟨hcancels, hcancels.collapse_eq⟩

/-- A root with dots, double dots and doubled slashes, and a file three names below it. -/
theorem rootPrefix_leads_to_root_dottedRoot :
    relativeTo "./a/..//b/." (joinAll "./a/..//b/." ["c", "d", "e.ts"]) = "c/d/e.ts" ∧
    (Context.forPath "./a/..//b/." (joinAll "./a/..//b/." ["c", "d", "e.ts"])).rootPrefix
      = "../../" ∧
    Cancels 2 (components (join "./a/..//b/c/./d" ("../../" ++ "../f")))
      (components (join "./a/..//b/." "../f")) ∧
    collapse (components (join "./a/..//b/c/./d" ("../../" ++ "../f"))) = [.current, .name "f"] := by
  have hascent : (Context.forPath "./a/..//b/." (joinAll "./a/..//b/." ["c", "d", "e.ts"])).rootPrefix
      = "../../" := by
    decide +kernel
  obtain ⟨hshown, -, hback⟩ := rootPrefix_leads_to_root "./a/..//b/." (by decide)
    ["c", "d", "e.ts"] (by decide) (by decide) "./a/..//b/c/./d" (by decide +kernel)
  obtain ⟨hcancels, hcollapse⟩ := hback "../f"
  rw [hascent] at hcancels hcollapse
  refine ⟨hshown, hascent, hcancels, hcollapse.trans ?_⟩
  decide +kernel

end Path

end Reroute
