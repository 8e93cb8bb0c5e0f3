/-
Module: SwaggerDocs.Proofs.Loading.Sources
Purpose: What the search for source files finds. Below a directory these are the files with the extension
  of sources for which no name on the way is hidden or that of build results, each once, in the order of
  their components; the names above the root do not count. The files that can be read and parsed are
  loaded in this order, and for each of the others there is a warning. The order in which directories
  list makes no difference.
Main exports: Sources.IsSourceAt, Sources.AreCandidates, Sources.areCandidates_candidates,
  Sources.candidates_eq_of_relisted, Sources.declarations?, Sources.Loads,
  Sources.load_selects_sources
-/
import SwaggerDocs.Loading.Sources
import SwaggerDocs.Proofs.Files.Tree

namespace SwaggerDocs.Sources

/-! ### The search

The search goes down the tree and tests each name on the way. By induction on the tree, what it finds is
what stands at a place with no name on the way that is passed over. -/

section Search

variable {node : FileNode} {children : List (String × FileNode)} {candidate : Candidate}

/-- The children of a directory are searched one by one, but for those that are passed over. -/
theorem among_eq_flatMap (directory : Path) (children : List (String × FileNode)) :
    among directory children =
      (children.filter fun entry => !isPassedOver entry.1).flatMap fun entry =>
        below (directory.join entry.1) entry.1 entry.2 := by
  induction children with
  | nil => rfl
  | cons entry rest ih =>
      obtain ⟨name, child⟩ := entry
      rw [among, ih]
      by_cases passed : isPassedOver name = true
      · rw [if_pos passed, List.filter_cons_of_neg (by simp [passed])]
      · rw [if_neg passed, List.filter_cons_of_pos (by simp [passed]), List.flatMap_cons]

/-- What is found in a directory is found below one of these children. -/
theorem mem_among {directory : Path} :
    candidate ∈ among directory children ↔
      ∃ name child, (name, child) ∈ children ∧ isPassedOver name = false ∧
        candidate ∈ below (directory.join name) name child := by
  rw [among_eq_flatMap, List.mem_flatMap]
  simp only [List.mem_filter, Bool.not_eq_true', Prod.exists, and_assoc]

/-- A node, which its directory lists under a name, has a source file at a place. -/
structure Reaches (node : FileNode) (name : String) (names : List String) (content : ByteArray) :
    Prop where
  file : node.get? names = some (.file content)
  kept : ∀ name ∈ names, isPassedOver name = false
  named : isSourceName (names.getLastD name) = true

/-- A file reaches itself, if its name is that of a source. -/
theorem reaches_file {content found : ByteArray} {name : String} {names : List String} :
    Reaches (.file content) name names found ↔
      names = [] ∧ found = content ∧ isSourceName name = true := by
  constructor
  · rintro ⟨file, _, named⟩
    cases names with
    | nil =>
        cases file
        exact ⟨rfl, rfl, named⟩
    | cons first rest => cases file
  · rintro ⟨rfl, rfl, named⟩
    exact ⟨rfl, (fun _ absent => by cases absent), named⟩

/-- A directory reaches what its children do, but for those that are passed over. -/
theorem reaches_directory (distinct : (children.map Prod.fst).Nodup) {name : String}
    {names : List String} {content : ByteArray} :
    Reaches (.directory children) name names content ↔
      ∃ first child rest, names = first :: rest ∧ (first, child) ∈ children ∧
        isPassedOver first = false ∧ Reaches child first rest content := by
  constructor
  · rintro ⟨file, kept, named⟩
    cases names with
    | nil => cases file
    | cons first rest =>
        obtain ⟨visible, kept⟩ := List.forall_mem_cons.1 kept
        obtain ⟨child, listed, file⟩ := (FileNode.get?_directory distinct).1 file
        rw [List.getLastD_cons] at named
        exact ⟨first, child, rest, rfl, listed, visible, file, kept, named⟩
  · rintro ⟨first, child, rest, rfl, listed, visible, file, kept, named⟩
    refine ⟨(FileNode.get?_directory distinct).2 ⟨child, listed, file⟩,
      List.forall_mem_cons.2 ⟨visible, kept⟩, ?_⟩
    rw [List.getLastD_cons]
    exact named

/-- The search below a node finds the source files that it reaches. -/
theorem mem_below (wellFormed : node.WellFormed) {path : Path} {name : String} :
    candidate ∈ below path name node ↔
      ∃ names, Reaches node name names candidate.content ∧ candidate.path = path.below names := by
  induction wellFormed generalizing path name with
  | file content =>
      rw [below]
      simp only [reaches_file]
      by_cases source : isSourceName name = true
      · rw [if_pos source, List.mem_singleton]
        constructor
        · rintro rfl
          exact ⟨[], ⟨rfl, rfl, source⟩, rfl⟩
        · rintro ⟨names, ⟨rfl, same, _⟩, place⟩
          obtain ⟨_, _⟩ := candidate
          obtain rfl : _ = content := same
          obtain rfl : _ = path := place
          rfl
      · rw [if_neg source]
        constructor
        · intro absent
          cases absent
        · rintro ⟨names, ⟨_, _, named⟩, _⟩
          exact absurd named source
  | @directory children distinct _ _ ih =>
      -- A place below a directory is the name of a child and a place below that child.
      rw [below, mem_among]
      constructor
      · rintro ⟨first, child, listed, visible, found⟩
        obtain ⟨rest, reaches, place⟩ := (ih _ listed).1 found
        exact ⟨first :: rest,
          (reaches_directory distinct).2 ⟨first, child, rest, rfl, listed, visible, reaches⟩, place⟩
      · rintro ⟨names, reaches, place⟩
        obtain ⟨first, child, rest, rfl, listed, visible, reaches⟩ :=
          (reaches_directory distinct).1 reaches
        exact ⟨first, child, listed, visible, (ih _ listed).2 ⟨rest, reaches, place⟩⟩

/-- What is found below a path has its components at the beginning. -/
theorem components_of_mem_below (wellFormed : node.WellFormed) {path : Path} {name : String}
    (found : candidate ∈ below path name node) :
    ∃ names : List String,
      candidate.path.components = path.components ++ names.map Path.Component.normal := by
  obtain ⟨names, reaches, place⟩ := (mem_below wellFormed).1 found
  refine ⟨names, ?_⟩
  rw [place, Path.components_below path (wellFormed.names reaches.file)]

/-- No file is found twice. -/
theorem pairwise_below (wellFormed : node.WellFormed) (path : Path) (name : String) :
    (below path name node).Pairwise fun a b => a.path.components ≠ b.path.components := by
  induction wellFormed generalizing path name with
  | file content =>
      rw [below]
      split
      · exact List.pairwise_singleton _ _
      · exact .nil
  | @directory children distinct names each ih =>
      rw [below, among_eq_flatMap, List.pairwise_flatMap]
      constructor
      · intro entry kept
        exact ih entry (List.mem_of_mem_filter kept) _ _
      · -- Paths below two children differ in the component after those of the directory.
        have apart : children.Pairwise fun first second => first.1 ≠ second.1 :=
          List.pairwise_map.1 distinct
        refine (apart.imp_of_mem ?_).sublist List.filter_sublist
        intro first second listed later other a found b follows same
        obtain ⟨names₁, components₁⟩ :=
          components_of_mem_below (each _ listed) found
        obtain ⟨names₂, components₂⟩ :=
          components_of_mem_below (each _ later) follows
        rw [components₁, components₂, Path.components_join path (names _ (FileNode.name_mem listed)),
          Path.components_join path (names _ (FileNode.name_mem later)), List.append_assoc,
          List.append_assoc, List.append_cancel_left_eq] at same
        exact other (Path.Component.normal.inj (List.cons.inj same).1)

end Search

/-! ### Candidates

What the search is for, said of places and names without the search. The candidates are determined by
it, since they are ordered and none comes twice; so the order of listing has no effect. -/

/-- A node has a source file at a place: a file whose name has the extension of sources, with no name on
    the way that is hidden or that of build results. -/
structure IsSourceAt (node : FileNode) (names : List String) (content : ByteArray) : Prop where
  file : node.get? names = some (.file content)
  kept : ∀ name ∈ names, ¬['.'] <+: name.toList ∧ name ≠ "target"
  named : ∃ above stem, stem ≠ "" ∧ names = above ++ [stem ++ ".rs"]

/-- The candidates below a root that leads to a node: the root itself if it is a file, and otherwise
    each source file below it once, in the order of the components. -/
structure AreCandidates (root : Path) (node : FileNode) (found : List Candidate) : Prop where
  ofFile : ∀ content, node = .file content → found = [⟨root, content⟩]
  ofDirectory : ∀ children, node = .directory children → ∀ candidate, candidate ∈ found ↔
    ∃ names, IsSourceAt node names candidate.content ∧ candidate.path = root.below names
  components : ∀ names content, IsSourceAt node names content →
    (root.below names).components = root.components ++ names.map .normal
  ordered : found.Pairwise fun a b => a.path.components < b.path.components

/-- Names are passed over if they are hidden or that of build results. -/
theorem isPassedOver_eq_false_iff {name : String} :
    isPassedOver name = false ↔ ¬['.'] <+: name.toList ∧ name ≠ "target" := by
  have hidden : name.toList.head? = some '.' ↔ ['.'] <+: name.toList := by
    cases name.toList <;> simp [eq_comm]
  rw [isPassedOver, Bool.or_eq_false_iff, decide_eq_false_iff_not, decide_eq_false_iff_not, hidden]

/-- The name of a source is a name with the extension of sources at its end. -/
theorem isSourceName_iff {name : String} :
    isSourceName name = true ↔ ∃ stem, stem ≠ "" ∧ name = stem ++ ".rs" := by
  have suffix (stem : String) : stem ++ "." ++ "rs" = stem ++ ".rs" := String.append_assoc
  rw [isSourceName, decide_eq_true_iff,
    Path.extension?_eq_some_iff (by decide) (by decide)]
  simp only [suffix]

section Candidates

variable {node other : FileNode} {children : List (String × FileNode)} {root : Path}

/-- Below a directory the search reaches the source files. -/
theorem reaches_iff {name : String} {names : List String} {content : ByteArray} :
    Reaches (.directory children) name names content ↔
      IsSourceAt (.directory children) names content := by
  constructor
  · rintro ⟨file, kept, named⟩
    refine ⟨file, fun name member => isPassedOver_eq_false_iff.1 (kept name member), ?_⟩
    rcases List.eq_nil_or_concat names with rfl | ⟨above, last, rfl⟩
    · cases file
    · rw [List.concat_eq_append, List.getLastD_concat] at named
      obtain ⟨stem, written, rfl⟩ := isSourceName_iff.1 named
      exact ⟨above, stem, written, List.concat_eq_append⟩
  · rintro ⟨file, kept, above, stem, written, rfl⟩
    refine ⟨file, fun name member => isPassedOver_eq_false_iff.2 (kept name member), ?_⟩
    rw [List.getLastD_concat]
    exact isSourceName_iff.2 ⟨stem, written, rfl⟩

/-- The order in which candidates are sorted. -/
theorem notBefore_iff {a b : Candidate} :
    (!b.path.before a.path) = true ↔ a.path.components ≤ b.path.components := by
  rw [Bool.not_eq_true', ← Bool.not_eq_true, Path.before_iff, not_lt]

/-- Sorting puts candidates in the order of their components. -/
theorem pairwise_mergeSort (found : List Candidate) :
    (found.mergeSort fun a b => !b.path.before a.path).Pairwise fun a b =>
      a.path.components ≤ b.path.components := by
  refine (List.pairwise_mergeSort ?_ ?_ found).imp notBefore_iff.1
  · intro a b c first second
    exact notBefore_iff.2 ((notBefore_iff.1 first).trans (notBefore_iff.1 second))
  · intro a b
    rw [Bool.or_eq_true, notBefore_iff, notBefore_iff]
    exact le_total _ _

/-- Candidates come in order, and none twice. -/
theorem pairwise_candidates (wellFormed : node.WellFormed) (root : Path) :
    (candidates root node).Pairwise fun a b => a.path.components < b.path.components := by
  cases node with
  | file content => exact List.pairwise_singleton _ _
  | directory children =>
      rw [candidates]
      have perm := List.mergeSort_perm (among root children) fun a b => !b.path.before a.path
      have apart := (perm.pairwise_iff fun different => Ne.symm different).2
        (pairwise_below wellFormed root "")
      apply ((pairwise_mergeSort _).and apart).imp
      rintro a b ⟨order, different⟩
      exact lt_of_le_of_ne order different

/-- The search finds the candidates below a root. -/
theorem areCandidates_candidates (wellFormed : node.WellFormed) (root : Path) :
    AreCandidates root node (candidates root node) where
  ofFile := by
    rintro content rfl
    rfl
  ofDirectory := by
    rintro children rfl candidate
    have searched : among root children = below root "" (.directory children) := by rw [below]
    rw [candidates, (List.mergeSort_perm _ _).mem_iff, searched, mem_below wellFormed]
    simp only [reaches_iff]
  components names content source := Path.components_below root (wellFormed.names source.file)
  ordered := pairwise_candidates wellFormed root

/-- Ordered candidates are given by their members. -/
theorem eq_of_ordered {found others : List Candidate}
    (ordered : found.Pairwise fun a b => a.path.components < b.path.components)
    (alike : others.Pairwise fun a b => a.path.components < b.path.components)
    (same : ∀ candidate, candidate ∈ found ↔ candidate ∈ others) : found = others := by
  have once {candidates : List Candidate}
      (ordered : candidates.Pairwise fun a b => a.path.components < b.path.components) :
      candidates.Nodup := by
    apply ordered.imp
    rintro a b first rfl
    exact lt_irrefl _ first
  have perm := (List.perm_ext_iff_of_nodup (once ordered) (once alike)).2 same
  exact perm.eq_of_pairwise (fun a b _ _ first second => absurd second (lt_asymm first)) ordered alike

/-- There is one list of candidates below a root. -/
theorem AreCandidates.unique {found others : List Candidate} (first : AreCandidates root node found)
    (second : AreCandidates root node others) : found = others := by
  cases node with
  | file content => rw [first.ofFile content rfl, second.ofFile content rfl]
  | directory children =>
      apply eq_of_ordered first.ordered second.ordered
      intro candidate
      rw [first.ofDirectory children rfl, second.ofDirectory children rfl]

/-- The same source files stand in both trees. -/
theorem isSourceAt_of_relisted (relisted : node.Relisted other) (wellFormed : node.WellFormed)
    {names : List String} {content : ByteArray} :
    IsSourceAt node names content ↔ IsSourceAt other names content := by
  have leads : node.get? names = some (.file content) ↔ other.get? names = some (.file content) := by
    have alike := relisted.get?_rel wellFormed names
    generalize node.get? names = found at alike ⊢
    generalize other.get? names = also at alike ⊢
    cases alike with
    | none => exact Iff.rfl
    | some relisted =>
        cases relisted with
        | file found => exact Iff.rfl
        | directory _ _ => simp
  constructor
  · rintro ⟨file, kept, named⟩
    exact ⟨leads.1 file, kept, named⟩
  · rintro ⟨file, kept, named⟩
    exact ⟨leads.2 file, kept, named⟩

/-- The order in which directories list does not matter. -/
theorem candidates_eq_of_relisted (relisted : node.Relisted other) (wellFormed : node.WellFormed)
    (root : Path) : candidates root node = candidates root other := by
  have ours := areCandidates_candidates wellFormed root
  have theirs := areCandidates_candidates (relisted.wellFormed wellFormed) root
  cases relisted with
  | file content => rfl
  | @directory children others same each =>
      apply eq_of_ordered ours.ordered theirs.ordered
      intro candidate
      rw [ours.ofDirectory children rfl, theirs.ofDirectory others rfl]
      simp only [isSourceAt_of_relisted (.directory same each) wellFormed]

end Candidates

/-! ### Loading

Each candidate is read on its own, so the declarations and the warnings are those of the candidates in
their order. -/

/-- The declarations of a candidate, if its bytes are a text that parses. -/
def declarations? (candidate : Candidate) : Option FileDeclarations :=
  (Text.decodeExact? candidate.content).bind (FileDeclarations.ofText? candidate.path)

/-- The warning about a candidate that is left out. -/
def skipping (candidate : Candidate) : Warning :=
  match Text.decodeExact? candidate.content with
  | none => .unreadableSource candidate.path
  | some _ => .unparsableSource candidate.path

/-- Candidates are loaded: the result has the declarations of those that can be read and parsed, and
    fails if there are none; and it has a warning for each of the others. -/
structure Loads (root : Path) (found : List Candidate)
    (result : Except LoadError Declarations × List Warning) : Prop where
  failure : result.1 = .error (.noSources root) ↔ found.filterMap declarations? = []
  success : ∀ graph, result.1 = .ok graph ↔
    found.filterMap declarations? ≠ [] ∧ graph = ⟨found.filterMap declarations?⟩
  warnings : result.2 =
    (found.filter fun candidate => (declarations? candidate).isNone).map skipping

/-- A candidate is either declared or left out with a warning. -/
theorem read_eq (candidate : Candidate) :
    read candidate =
      match declarations? candidate with
      | some file => .declared file
      | none => .skipped (skipping candidate) := by
  rw [read, declarations?, skipping]
  cases Text.decodeExact? candidate.content with
  | none => rfl
  | some text =>
      cases parsed : FileDeclarations.ofText? candidate.path text with
      | none => simp [parsed]
      | some file => simp [parsed]

/-- The candidates below a node are loaded. -/
theorem loads_loadNode (root : Path) (node : FileNode) :
    Loads root (candidates root node) (loadNode root (some node)) := by
  generalize found : candidates root node = list
  have files : (list.map read).filterMap Reading.file? = list.filterMap declarations? := by
    rw [List.filterMap_map]
    congr 1
    funext candidate
    rw [Function.comp_apply, read_eq]
    cases declarations? candidate <;> rfl
  have warnings : (list.map read).filterMap Reading.warning? =
      (list.filter fun candidate => (declarations? candidate).isNone).map skipping := by
    rw [List.filterMap_map, ← List.filterMap_eq_map, List.filterMap_filter]
    congr 1
    funext candidate
    rw [Function.comp_apply, read_eq]
    cases declarations? candidate <;> rfl
  have result : loadNode root (some node) =
      (if (list.filterMap declarations?).isEmpty then .error (.noSources root)
        else .ok ⟨list.filterMap declarations?⟩,
        (list.filter fun candidate => (declarations? candidate).isNone).map skipping) := by
    rw [loadNode, found, ← files, ← warnings]
  rw [result]
  cases loaded : list.filterMap declarations? with
  | nil =>
      refine ⟨iff_of_true rfl loaded, fun graph => ?_, rfl⟩
      exact iff_of_false (fun absurd => by cases absurd) fun both => both.1 loaded
  | cons file files =>
      have some : list.filterMap declarations? ≠ [] := loaded ▸ List.cons_ne_nil file files
      refine ⟨iff_of_false (fun absurd => by cases absurd) some, fun graph => ?_, rfl⟩
      rw [and_iff_right some, loaded]
      constructor
      · intro same
        cases same
        rfl
      · rintro rfl
        rfl

/-- A candidate has declarations if its content is a text that parses. -/
theorem declarations?_eq_some_iff {candidate : Candidate} {file : FileDeclarations} :
    declarations? candidate = some file ↔
      ∃ text : String, text.toUTF8 = candidate.content ∧
        FileDeclarations.ofText? candidate.path text = some file := by
  rw [declarations?, Option.bind_eq_some_iff]
  simp only [Text.decodeExact?_eq_some_iff]

/-- A warning names the candidate that is left out. -/
theorem message_skipping (candidate : Candidate) :
    ∃ reason, (skipping candidate).message = "Skipping " ++ candidate.path.text ++ reason := by
  rw [skipping]
  split
  · exact ⟨_, rfl⟩
  · exact ⟨_, String.append_assoc⟩

/-- The path of a candidate leads to the file that it was found as. -/
theorem read?_of_mem_candidates {tree : FileTree} {root : Path} {node : FileNode}
    (wellFormed : node.WellFormed) (leads : tree.lookup? root = some node) {candidate : Candidate}
    (member : candidate ∈ candidates root node) :
    tree.read? candidate.path = some candidate.content := by
  have are := areCandidates_candidates wellFormed root
  have stands : tree.lookup? candidate.path = some (.file candidate.content) := by
    cases node with
    | file content =>
        rw [are.ofFile content rfl] at member
        obtain rfl := List.mem_singleton.1 member
        exact leads
    | directory children =>
        obtain ⟨names, source, path⟩ := (are.ofDirectory children rfl candidate).1 member
        rw [path]
        exact FileTree.lookup?_below leads (wellFormed.names source.file) source.file
  rw [FileTree.read?, stands]

/-- Loading depends on the order in which directories list neither in its result nor in its warnings. -/
theorem load_eq_of_relisted {tree : FileTree} {other : FileNode}
    (relisted : tree.top.Relisted other) (wellFormed : tree.top.WellFormed) (root : Path) :
    load { tree with top := other } root = load tree root := by
  have alike := FileTree.lookup?_rel relisted wellFormed root
  rw [load, load]
  generalize FileTree.lookup? { tree with top := other } root = also at alike ⊢
  cases found : tree.lookup? root with
  | none =>
      rw [found] at alike
      cases alike
      rfl
  | some node =>
      rw [found] at alike
      have listing := FileTree.wellFormed_of_lookup? wellFormed found
      cases alike with
      | some relisted =>
          rw [loadNode, loadNode, candidates_eq_of_relisted relisted listing]

/-- Loading fails with an invalid argument if the root leads nowhere, and only then; every place of the
    tree is where some root leads. Otherwise the candidates below the root are loaded, and each is read
    where its path leads. The order in which directories list makes no difference. -/
theorem load_selects_sources {tree : FileTree} (wellFormed : tree.top.WellFormed) (root : Path) :
    ((∃ message, (load tree root).1 = .error (.invalidArgument message)) ↔
        tree.lookup? root = none) ∧
      (∀ names node, names ≠ [] → tree.top.get? names = some node →
        tree.lookup? (Path.below ⟨"/"⟩ names) = some node) ∧
      (∀ node, tree.lookup? root = some node →
        ∃ found, AreCandidates root node found ∧
          (∀ candidate ∈ found, tree.read? candidate.path = some candidate.content) ∧
          Loads root found (load tree root)) ∧
      (∀ candidate file, declarations? candidate = some file ↔
        ∃ text : String, text.toUTF8 = candidate.content ∧
          FileDeclarations.ofText? candidate.path text = some file) ∧
      (∀ candidate, ∃ reason,
        (skipping candidate).message = "Skipping " ++ candidate.path.text ++ reason) ∧
      ∀ other, tree.top.Relisted other → load { tree with top := other } root = load tree root := by
  refine ⟨?_, fun names node below => FileTree.lookup?_absolute wellFormed below, ?_,
    fun _ _ => declarations?_eq_some_iff, message_skipping,
    fun other relisted => load_eq_of_relisted relisted wellFormed root⟩
  · rw [load]
    cases found : tree.lookup? root with
    | none => exact iff_of_true ⟨_, rfl⟩ rfl
    | some node =>
        refine iff_of_false ?_ (Option.some_ne_none node)
        rintro ⟨message, failed⟩
        rw [loadNode] at failed
        dsimp only at failed
        split at failed
        · cases failed
        · cases failed
  · intro node leads
    have listing := FileTree.wellFormed_of_lookup? wellFormed leads
    rw [load, leads]
    exact ⟨_, areCandidates_candidates listing root,
      fun _ => read?_of_mem_candidates listing leads, loads_loadNode root node⟩

/-- A directory with source files at two levels, of which two do not parse and are no text, and with
    names that are passed over. -/
def sampleSources : List (String × FileNode) :=
  [("b", .directory [("z.rs", .file "pub struct Z;".toUTF8), ("z.txt", .file .empty)]),
    ("b.rs", .file "pub struct B;".toUTF8), ("bad.rs", .file "pub struct".toUTF8),
    ("target", .directory [("x.rs", .file .empty)]), ("worse.rs", .file ⟨#[0xff]⟩)]

/-- The directory in a tree, and one of its directories as the working directory. -/
def sampleTree : FileTree where
  top := .directory [("src", .directory sampleSources)]
  workingDirectory := ["src", "b"]

/-- The same files, with the directory listed the other way round. -/
def sampleListing : FileNode := .directory [("src", .directory sampleSources.reverse)]

theorem wellFormed_sampleSources : FileNode.WellFormed (.directory sampleSources) := by
  have inner : FileNode.WellFormed
      (.directory [("z.rs", .file "pub struct Z;".toUTF8), ("z.txt", .file .empty)]) :=
    .directory (by decide) (by decide)
      (List.forall_mem_cons.2 ⟨.file _, List.forall_mem_singleton.2 (.file _)⟩)
  have built : FileNode.WellFormed (.directory [("x.rs", .file .empty)]) :=
    .directory (by decide) (by decide) (List.forall_mem_singleton.2 (.file _))
  exact .directory (by decide) (by decide)
    (List.forall_mem_cons.2 ⟨inner, List.forall_mem_cons.2 ⟨.file _, List.forall_mem_cons.2
      ⟨.file _, List.forall_mem_cons.2 ⟨built, List.forall_mem_singleton.2 (.file _)⟩⟩⟩⟩)

theorem wellFormed_sampleTree : sampleTree.top.WellFormed :=
  .directory (by decide) (by decide) (List.forall_mem_singleton.2 wellFormed_sampleSources)

theorem relisted_sampleListing : sampleTree.top.Relisted sampleListing := by
  refine .directory (.refl _) fun name child other first second => ?_
  obtain rfl := congrArg Prod.snd (List.mem_singleton.1 first)
  obtain rfl := congrArg Prod.snd (List.mem_singleton.1 second)
  exact wellFormed_sampleSources.relisted_of_perm (List.reverse_perm _).symm

/-- Sources are loaded from an absolute root, to which a path from the working directory leads as
    well. -/
theorem load_selects_sources_sample :
    sampleTree.top.WellFormed ∧ sampleTree.top.Relisted sampleListing ∧
      sampleTree.lookup? ⟨".."⟩ = sampleTree.lookup? ⟨"/src"⟩ ∧
      (∃ graph, (load { sampleTree with top := sampleListing } ⟨"/src"⟩).1 = .ok graph ∧
        graph.files.map (·.path.text) = ["/src/b/z.rs", "/src/b.rs"]) ∧
      (load { sampleTree with top := sampleListing } ⟨"/src"⟩).2.map (·.message) =
        ["Skipping /src/bad.rs: Parse error in /src/bad.rs", "Skipping /src/worse.rs: IO error"] := by
  have sorted : candidates ⟨"/src"⟩ (.directory sampleSources) = among ⟨"/src"⟩ sampleSources :=
    List.mergeSort_of_pairwise (by decide)
  obtain ⟨_, _, loaded, _, _, alike⟩ := load_selects_sources wellFormed_sampleTree ⟨"/src"⟩
  have leads : sampleTree.lookup? ⟨"/src"⟩ = some (.directory sampleSources) := by rfl
  obtain ⟨found, are, _, loads⟩ := loaded _ leads
  obtain rfl := are.unique (areCandidates_candidates wellFormed_sampleSources ⟨"/src"⟩)
  have paths : ((candidates ⟨"/src"⟩ (.directory sampleSources)).filterMap declarations?).map
      (·.path.text) = ["/src/b/z.rs", "/src/b.rs"] := by
    rw [sorted]
    decide +kernel
  rw [alike sampleListing relisted_sampleListing]
  refine ⟨wellFormed_sampleTree, relisted_sampleListing, by rfl,
    ⟨_, (loads.success _).2 ⟨?_, rfl⟩, paths⟩, ?_⟩
  · intro none
    rw [none] at paths
    cases paths
  · rw [loads.warnings, sorted]
    decide +kernel

end SwaggerDocs.Sources
