/-
Module: SwaggerDocs.Proofs.Files.Tree
Purpose: File trees whose directories list file names, each once, and the same trees with directories that
  list in another order. A child is then found under its name in whatever order it is listed, so paths
  lead to the same nodes. What stands below the node of a path is what the paths below it lead to, for
  absolute paths and for those from the working directory.
Main exports: FileNode.WellFormed, FileNode.Relisted, FileNode.childOf?_eq_some_iff,
  FileNode.WellFormed.names, FileNode.WellFormed.relisted_of_perm, FileNode.Relisted.wellFormed,
  FileTree.wellFormed_of_lookup?, FileTree.lookup?_rel, FileTree.lookup?_below,
  FileTree.lookup?_absolute
-/
import Mathlib.Data.List.Nodup
import SwaggerDocs.Files.Tree
import SwaggerDocs.Proofs.Files.Path

namespace SwaggerDocs

namespace FileNode

/-- Every directory lists file names, each once. -/
inductive WellFormed : FileNode → Prop where
  | file (content : ByteArray) : WellFormed (.file content)
  | directory {children : List (String × FileNode)} (distinct : (children.map Prod.fst).Nodup)
      (names : ∀ name ∈ children.map Prod.fst, IsFileName name)
      (each : ∀ entry ∈ children, WellFormed entry.2) :
      WellFormed (.directory children)

/-- The same tree, in which directories may list their children in another order. -/
inductive Relisted : FileNode → FileNode → Prop where
  | file (content : ByteArray) : Relisted (.file content) (.file content)
  | directory {children others : List (String × FileNode)}
      (names : (children.map Prod.fst).Perm (others.map Prod.fst))
      (each : ∀ name child other, (name, child) ∈ children → (name, other) ∈ others →
        Relisted child other) :
      Relisted (.directory children) (.directory others)

/-! ### Children by their names

A directory lists each name once. So the child that is found under a name is the one that is listed with
it, wherever in the list it stands. -/

section Children

variable {children : List (String × FileNode)} {name : String} {child : FileNode}

/-- There is no child of a name that is not listed. -/
theorem childOf?_eq_none_iff : childOf? name children = none ↔ name ∉ children.map Prod.fst := by
  induction children with
  | nil => simp [childOf?]
  | cons entry rest ih =>
      rw [childOf?, List.map_cons, List.mem_cons, not_or, ← ih]
      by_cases same : entry.1 = name
      · simp [same]
      · simp [same, Ne.symm same]

theorem name_mem (listed : (name, child) ∈ children) : name ∈ children.map Prod.fst :=
  List.mem_map.2 ⟨_, listed, rfl⟩

/-- Among distinct names, a child is found wherever it is listed. -/
theorem childOf?_eq_some_iff (distinct : (children.map Prod.fst).Nodup) :
    childOf? name children = some child ↔ (name, child) ∈ children := by
  induction children with
  | nil => simp [childOf?]
  | cons entry rest ih =>
      obtain ⟨first, node⟩ := entry
      obtain ⟨fresh, distinct⟩ := List.nodup_cons.1 distinct
      rw [childOf?, List.mem_cons, Prod.mk.injEq]
      by_cases same : first = name
      · subst same
        have absent : (first, child) ∉ rest := fun listed =>
          fresh (name_mem listed)
        simp [absent, eq_comm]
      · rw [if_neg same, ih distinct, or_iff_right fun both => same both.1.symm]

theorem exists_child (listed : name ∈ children.map Prod.fst) : ∃ child, (name, child) ∈ children := by
  obtain ⟨entry, member, rfl⟩ := List.mem_map.1 listed
  exact ⟨entry.2, member⟩

/-- A place below a directory is a place below one of its children. -/
theorem get?_directory (distinct : (children.map Prod.fst).Nodup) {rest : List String}
    {node : FileNode} :
    (directory children).get? (name :: rest) = some node ↔
      ∃ child, (name, child) ∈ children ∧ child.get? rest = some node := by
  rw [get?]
  constructor
  · intro found
    cases listed : childOf? name children with
    | none =>
        rw [listed] at found
        cases found
    | some child =>
        rw [listed] at found
        exact ⟨child, (childOf?_eq_some_iff distinct).1 listed, found⟩
  · rintro ⟨child, listed, found⟩
    rw [(childOf?_eq_some_iff distinct).2 listed]
    exact found

end Children

/-- Every node of a well-formed tree is well-formed. -/
theorem WellFormed.get? {tree node : FileNode} (wellFormed : tree.WellFormed) {place : List String}
    (found : tree.get? place = some node) : node.WellFormed := by
  induction place generalizing tree with
  | nil =>
      rw [FileNode.get?] at found
      obtain rfl := Option.some.inj found
      exact wellFormed
  | cons name rest ih =>
      cases wellFormed with
      | file content => cases found
      | directory distinct names each =>
          obtain ⟨child, listed, found⟩ := (get?_directory distinct).1 found
          exact ih (each _ listed) found

/-- The places of a well-formed tree are made of file names. -/
theorem WellFormed.names {tree node : FileNode} (wellFormed : tree.WellFormed) {place : List String}
    (found : tree.get? place = some node) : ∀ name ∈ place, IsFileName name := by
  induction place generalizing tree with
  | nil => exact fun name absent => by cases absent
  | cons name rest ih =>
      cases wellFormed with
      | file content => cases found
      | directory distinct names each =>
          obtain ⟨child, listed, found⟩ := (get?_directory distinct).1 found
          exact List.forall_mem_cons.2 ⟨names name (name_mem listed), ih (each _ listed) found⟩

/-! ### Steps of paths

A path is followed piece by piece from a place. Each step is a name, which leads to a child, or one of
the pieces that name no child; the steps lead to a place, at which a node stands. -/

section Steps

variable {top : FileNode} {place : List String} {children : List (String × FileNode)}

/-- A place below a node of a tree is a place of the tree. -/
theorem get?_append (top : FileNode) (place names : List String) :
    top.get? (place ++ names) = (top.get? place).bind (·.get? names) := by
  induction place generalizing top with
  | nil => rw [List.nil_append, get?, Option.bind_some]
  | cons name rest ih =>
      cases top with
      | file content => rfl
      | directory children =>
          rw [List.cons_append, get?, get?]
          cases childOf? name children with
          | none => rfl
          | some child => exact ih child

/-- The last piece of a path is a step from where the others lead. -/
theorem locate?_concat (top : FileNode) (start pieces : List String) (piece : String) :
    top.locate? start (pieces ++ [piece]) =
      (top.locate? start pieces).bind (top.step? · piece) := by
  rw [locate?, List.foldlM_append, ← locate?]
  cases top.locate? start pieces with
  | none => rfl
  | some place => exact bind_pure (top.step? place piece)

/-- The empty piece after a slash at the end leads on to the same place. -/
theorem eq_of_step?_empty {next : List String} (follows : top.step? place "" = some next) :
    next = place := by
  rw [step?] at follows
  split at follows
  · rw [if_pos (Or.inl rfl)] at follows
    exact (Option.some.inj follows).symm
  · cases follows

/-- A file name leads on to the child of that name. -/
theorem bind_step?_fileName (stands : top.get? place = some (.directory children)) {name : String}
    (fileName : IsFileName name) :
    (top.step? place name).bind top.get? = childOf? name children := by
  have notHere : ¬(name = "" ∨ name = ".") := not_or.2 ⟨fileName.nonempty, fileName.notCurrent⟩
  rw [step?, stands]
  dsimp only
  rw [if_neg notHere, if_neg fileName.notParent]
  cases listed : childOf? name children with
  | none => rfl
  | some child =>
      rw [if_pos Option.isSome_some, Option.bind_some, get?_append, stands, Option.bind_some, get?,
        listed]
      rfl

end Steps

/-! ### Other listings

Two trees that list the same in different orders have the same nodes at the same places, up to the order
of listing. All else that paths do with a tree they do through these nodes. -/

theorem WellFormed.relisted_self {tree : FileNode} (wellFormed : tree.WellFormed) :
    tree.Relisted tree := by
  induction wellFormed with
  | file content => exact .file content
  | @directory children distinct _ _ ih =>
      refine .directory (.refl _) fun name child other first second => ?_
      have same := (childOf?_eq_some_iff distinct).2 first
      rw [(childOf?_eq_some_iff distinct).2 second] at same
      obtain rfl := Option.some.inj same
      exact ih _ second

/-- Children in another order are another listing. -/
theorem WellFormed.relisted_of_perm {children others : List (String × FileNode)}
    (wellFormed : WellFormed (.directory children)) (perm : children.Perm others) :
    Relisted (.directory children) (.directory others) := by
  cases wellFormed.relisted_self with
  | @directory _ _ _ each =>
      exact .directory (perm.map Prod.fst) fun name child other first second =>
        each name child other first (perm.mem_iff.2 second)

namespace Relisted

variable {tree other : FileNode}

/-- A tree that lists in another order is well-formed, too. -/
theorem wellFormed (relisted : tree.Relisted other) (wellFormed : tree.WellFormed) :
    other.WellFormed := by
  induction wellFormed generalizing other with
  | file content =>
      cases relisted
      exact .file content
  | @directory children distinct names _ ih =>
      cases relisted with
      | @directory _ others same each =>
          refine .directory (same.nodup_iff.1 distinct) ?_ ?_
          · intro name listed
            exact names name (same.mem_iff.2 listed)
          · rintro ⟨name, other⟩ listed
            obtain ⟨child, first⟩ := exists_child (same.mem_iff.2 (name_mem listed))
            exact ih _ first (each name child other first listed)

/-- Both trees have the same nodes, up to their listings. -/
theorem get?_rel (relisted : tree.Relisted other) (wellFormed : tree.WellFormed)
    (place : List String) : Option.Rel Relisted (tree.get? place) (other.get? place) := by
  induction place generalizing tree other with
  | nil =>
      rw [FileNode.get?, FileNode.get?]
      exact .some relisted
  | cons name rest ih =>
      have listing := relisted.wellFormed wellFormed
      cases relisted with
      | file content => exact .none
      | @directory children others same each =>
          obtain _ | ⟨distinct, _, inner⟩ := wellFormed
          obtain _ | ⟨apart, _, _⟩ := listing
          rw [FileNode.get?, FileNode.get?]
          by_cases listed : name ∈ children.map Prod.fst
          · obtain ⟨child, first⟩ := exists_child listed
            obtain ⟨node, second⟩ := exists_child (same.mem_iff.1 listed)
            rw [(childOf?_eq_some_iff distinct).2 first, (childOf?_eq_some_iff apart).2 second]
            exact ih (each name child node first second) (inner _ first)
          · rw [childOf?_eq_none_iff.2 listed, childOf?_eq_none_iff.2 (mt same.mem_iff.2 listed)]
            exact .none

/-- A piece of a path leads on alike. -/
theorem step?_eq (relisted : tree.Relisted other) (wellFormed : tree.WellFormed)
    (place : List String) (piece : String) : tree.step? place piece = other.step? place piece := by
  have alike := relisted.get?_rel wellFormed place
  rw [step?, step?]
  generalize tree.get? place = node at alike ⊢
  generalize other.get? place = listing at alike ⊢
  cases alike with
  | none => rfl
  | some relisted =>
      cases relisted with
      | file content => rfl
      | @directory children others same each =>
          -- A step depends only on whether the name is listed.
          have found : (childOf? piece children).isSome = (childOf? piece others).isSome := by
            rw [Bool.eq_iff_iff, Option.isSome_iff_ne_none, Option.isSome_iff_ne_none, Ne, Ne,
              childOf?_eq_none_iff, childOf?_eq_none_iff, same.mem_iff]
          dsimp only
          rw [found]

/-- Paths lead to the same places in both trees. -/
theorem locate?_eq (relisted : tree.Relisted other) (wellFormed : tree.WellFormed)
    (start pieces : List String) : tree.locate? start pieces = other.locate? start pieces := by
  rw [locate?, locate?, funext₂ (relisted.step?_eq wellFormed)]

end Relisted

end FileNode

namespace FileTree

variable {tree : FileTree}

/-! ### Paths

Absolute paths start at the top of the tree, and others at the working directory. The empty path is a
case of its own, since it has a piece but leads nowhere. -/

/-- The empty path leads nowhere. -/
theorem text_ne_empty {path : Path} {node : FileNode} (found : tree.lookup? path = some node) :
    path.text ≠ "" := by
  intro empty
  rw [lookup?, if_pos (by rw [empty]; rfl)] at found
  cases found

/-- Any other path leads from where it starts along its pieces. -/
theorem lookup?_eq {path : Path} (written : path.text ≠ "") :
    tree.lookup? path = (tree.top.locate? (tree.start path) path.pieces).bind tree.top.get? :=
  if_neg (by simpa using written)

/-- What a path leads to is well-formed. -/
theorem wellFormed_of_lookup? (wellFormed : tree.top.WellFormed) {path : Path} {node : FileNode}
    (found : tree.lookup? path = some node) : node.WellFormed := by
  rw [lookup?] at found
  split at found
  · cases found
  · obtain ⟨place, _, leads⟩ := Option.bind_eq_some_iff.1 found
    exact wellFormed.get? leads

/-- Paths lead to the same nodes, up to their listings. -/
theorem lookup?_rel {other : FileNode} (relisted : tree.top.Relisted other)
    (wellFormed : tree.top.WellFormed) (path : Path) :
    Option.Rel FileNode.Relisted (tree.lookup? path)
      (FileTree.lookup? { tree with top := other } path) := by
  rw [lookup?, lookup?, relisted.locate?_eq wellFormed]
  split
  · exact .none
  · change Option.Rel FileNode.Relisted ((other.locate? (tree.start path) path.pieces).bind _)
      ((other.locate? (tree.start path) path.pieces).bind _)
    cases other.locate? (tree.start path) path.pieces with
    | none => exact .none
    | some place => exact relisted.get?_rel wellFormed place

/-- A file name that is joined to the path of a directory leads to its child of that name. -/
theorem lookup?_join {path : Path} {children : List (String × FileNode)}
    (found : tree.lookup? path = some (.directory children)) {name : String}
    (fileName : IsFileName name) :
    tree.lookup? (path.join name) = FileNode.childOf? name children := by
  have written : path.text ≠ "" := text_ne_empty found
  obtain ⟨front, _, joined, own⟩ := Path.pieces_join path written fileName
  have named : (path.join name).text ≠ "" := Path.text_join_ne_empty path fileName
  have alike : tree.start (path.join name) = tree.start path := by
    rw [start, start, Path.isAbsolute_join path written fileName]
  obtain ⟨place, leads, stands⟩ :
      ∃ place, tree.top.locate? (tree.start path) front = some place ∧
        tree.top.get? place = some (.directory children) := by
    rw [lookup?_eq written] at found
    obtain ⟨place, leads, stands⟩ := Option.bind_eq_some_iff.1 found
    rcases own with same | slash
    · exact ⟨place, same ▸ leads, stands⟩
    · rw [slash, FileNode.locate?_concat] at leads
      obtain ⟨above, leads, stays⟩ := Option.bind_eq_some_iff.1 leads
      obtain rfl := FileNode.eq_of_step?_empty stays
      exact ⟨_, leads, stands⟩
  rw [lookup?_eq named, alike, joined, FileNode.locate?_concat, leads, Option.bind_some,
    FileNode.bind_step?_fileName stands fileName]

/-- The paths below a path lead to what stands below its node. -/
theorem lookup?_below {path : Path} {node found : FileNode} (leads : tree.lookup? path = some node)
    {names : List String} (fileNames : ∀ name ∈ names, IsFileName name)
    (stands : node.get? names = some found) : tree.lookup? (path.below names) = some found := by
  induction names generalizing path node with
  | nil => exact leads.trans stands
  | cons name rest ih =>
      obtain ⟨first, later⟩ := List.forall_mem_cons.1 fileNames
      cases node with
      | file content => cases stands
      | directory children =>
          have next := lookup?_join leads first
          rw [FileNode.get?] at stands
          cases listed : FileNode.childOf? name children with
          | none =>
              rw [listed] at stands
              cases stands
          | some child =>
              rw [listed] at stands next
              exact ih next later stands

/-- Every place below the top has an absolute path, whatever the working directory is. -/
theorem lookup?_absolute (wellFormed : tree.top.WellFormed) {names : List String} (below : names ≠ [])
    {node : FileNode} (stands : tree.top.get? names = some node) :
    tree.lookup? (Path.below ⟨"/"⟩ names) = some node := by
  have top : tree.lookup? ⟨"/"⟩ = some tree.top := by
    obtain ⟨name, rest, rfl⟩ := List.exists_cons_of_ne_nil below
    obtain ⟨top, workingDirectory⟩ := tree
    cases top with
    | file content => cases stands
    | directory children => rfl
  exact lookup?_below top (wellFormed.names stands) stands

end FileTree

end SwaggerDocs
