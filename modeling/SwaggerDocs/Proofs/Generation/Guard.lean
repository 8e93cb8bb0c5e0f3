/-
Module: SwaggerDocs.Proofs.Generation.Guard
Purpose: When an embedded field is left out because its type would be spliced into itself. The generator
  goes by names: it leaves the field out if a declaration of the name of its type is being worked out,
  and else splices the properties of the type. This is the declaration of the type itself as long as no
  declaration leads to another one of its name; otherwise a type may be taken for another one.
Main exports: Generator.SkipsFlattened, Declarations.Apart, Generator.skipsFlattened_iff,
  Generator.splices_unless_named, Generator.skips_homonym
-/
import SwaggerDocs.Proofs.Generation.Occurrences

namespace SwaggerDocs

open Generation

/-- Only the type of an embedded field itself is flattened, not an item or value in it. -/
theorem TypeUse.embedded_of_use? {type : TypeUse} {embedded : Bool} {use : Use}
    (resolves : type.use? embedded = some use) (flattened : use.flattened = true) :
    embedded = true := by
  induction type generalizing embedded with
  | named type =>
      obtain ⟨_, rfl⟩ := use?_named_eq_some.1 resolves
      exact flattened
  | sequence item ih => cases ih resolves
  | mapping value ih => cases ih resolves
  | indirect inner ih => exact ih resolves
  | primitive kind => cases resolves
  | any => cases resolves
  | unsupported kind => cases resolves

/-- No declaration leads by uses to another one of its name. -/
def Declarations.Apart (graph : Declarations) : Prop :=
  ∀ source ∈ graph.placedTypes, ∀ target, graph.Reaches source target →
    source.2.name = target.2.name → source = target

/-- With distinct names no two declarations have one name, let alone one that leads to the other. -/
theorem Declarations.DistinctNames.apart {graph : Declarations} (distinct : graph.DistinctNames) :
    graph.Apart := by
  intro source placed target reaches same
  exact distinct.eq_of_name_eq placed (reaches.mem_placedTypes placed) same

namespace Generator

variable {graph : Declarations} {file : FileDeclarations} {type : TypeName} {ctx : Context}
  {target : Place}

/-- An embedded field is left out with the warning that its type flattens itself. -/
def SkipsFlattened (graph : Declarations) (file : FileDeclarations) (type : TypeName)
    (target : Place) (ctx : Context) : Prop :=
  (namedUse graph file true type ctx).answer = .skip ∧
    (namedUse graph file true type ctx).context = ctx.warn (.flattensItself target.2.name)

/-- An embedded field contributes what the use of its type stands for, through any wrappers. -/
theorem contribution_of_flattened {use : Use} {embedded : Bool} {type : TypeUse}
    (resolves : type.use? embedded = some use) (flattened : use.flattened = true)
    (name : String) (docs : Documentation) :
    (contribution graph file name embedded docs type ctx).answer =
        resolved name docs (namedUse graph file true use.type ctx).answer ∧
      (contribution graph file name embedded docs type ctx).context =
        (namedUse graph file true use.type ctx).context := by
  induction type generalizing embedded with
  | named type =>
      obtain ⟨unknown, rfl⟩ := TypeUse.use?_named_eq_some.1 resolves
      have shown : embedded = true := flattened
      subst shown
      rw [contribution]
      simp only [unknown, and_self]
  | indirect inner ih =>
      rw [contribution]
      exact ih resolves
  | sequence item ih =>
      cases @TypeUse.embedded_of_use? item false use resolves flattened
  | mapping value ih =>
      cases @TypeUse.embedded_of_use? value false use resolves flattened
  | primitive kind => cases resolves
  | any => cases resolves
  | unsupported kind => cases resolves

/-- A type without schema changes nothing but that it gives a warning, if it is not active. -/
theorem context_of_unmapped {decl : TypeDeclaration}
    (unmapped : (typeSchema graph file decl ctx).answer = none) (fresh : decl.name ∉ ctx.active) :
    ∃ reason, (typeSchema graph file decl ctx).context =
      ctx.warn (.unmappableType decl.name reason) := by
  obtain ⟨made, after, evaluates⟩ := exists_evaluates graph (.type file decl, ctx)
  obtain ⟨answer, context⟩ := Prod.mk.inj evaluates.run_eq
  rw [answer] at unmapped
  rw [context]
  cases evaluates with
  | type inner =>
      cases inner with
      | @unmappable _ _ _ reason shape =>
          refine ⟨reason, ?_⟩
          have restored := (ctx.filter_active_enter decl.name).trans
            (Context.filter_active_of_fresh fresh)
          simp only [Context.leave, Context.warn, restored]
          rfl
      | struct shape inner => cases unmapped
      | «alias» shape inner => cases unmapped
      | enumeration shape => cases unmapped

/-- A struct is worked out to an object. -/
theorem exists_object_of_struct (file : FileDeclarations) {decl : TypeDeclaration} (ctx : Context)
    {fields : List Field} (struct : decl.shape = .struct fields) :
    ∃ schema, (typeSchema graph file decl ctx).answer = some schema ∧ schema.isObject = true := by
  obtain ⟨made, after, evaluates⟩ := exists_evaluates graph (.type file decl, ctx)
  obtain ⟨answer, _⟩ := Prod.mk.inj evaluates.run_eq
  rw [answer]
  cases evaluates with
  | type inner =>
      cases inner with
      | struct shape inner => exact ⟨_, rfl, rfl⟩
      | «alias» shape inner => cases struct.symm.trans shape
      | enumeration shape => cases struct.symm.trans shape
      | unmappable shape => cases struct.symm.trans shape

section Found

variable (found : graph.findType? type.name file.path = some target)
include found

/-- The generator leaves an embedded field out as flattening itself if the name of its type is active. -/
theorem skipsFlattened_iff :
    SkipsFlattened graph file type target ctx ↔ target.2.name ∈ ctx.active := by
  constructor
  · rintro ⟨answer, context⟩
    by_contra fresh
    obtain ⟨made, reached⟩ := namedUse_of_fresh true found fresh
    rw [answer] at made
    rw [context] at reached
    cases worked : (typeSchema graph target.1 target.2 ctx).answer with
    | none =>
        obtain ⟨reason, same⟩ := context_of_unmapped worked fresh
        rw [worked, settle, same] at reached
        have warnings := congrArg Context.warnings reached
        simp [Context.warn] at warnings
    | some schema =>
        rw [worked] at made
        simp only [settle, if_true] at made
        split at made <;> cases made
  · intro busy
    rw [SkipsFlattened, namedUse_of_active true found busy]
    exact ⟨rfl, rfl⟩

/-- The properties of a struct whose name is not active are spliced. -/
theorem splices_of_fresh (fresh : target.2.name ∉ ctx.active) {fields : List Field}
    (shape : target.2.shape = .struct fields) :
    ∃ schema, (typeSchema graph target.1 target.2 ctx).answer = some schema ∧
      (namedUse graph file true type ctx).answer = .splice schema.properties := by
  obtain ⟨schema, worked, object⟩ := exists_object_of_struct target.1 ctx shape
  refine ⟨schema, worked, ?_⟩
  rw [(namedUse_of_fresh true found fresh).1, worked, settle]
  simp [object]

end Found

/-- An embedded field that occurs in a run is one of the declaration that is being worked out. It is left
    out as flattening itself exactly if a declaration of the name of its type is being worked out; else the
    properties of its type are spliced, if that is a struct. As long as no declaration leads to another
    one of its name, it is left out exactly if the declaration of its type is being worked out. -/
theorem splices_unless_named (graph : Declarations) (policy : RegistrationPolicy) {place : Place}
    {outside : List Place} {file : FileDeclarations} {name : String} {embedded : Bool}
    {docs : Documentation} {type : TypeUse} {ctx : Context}
    (occurs : Occurs graph policy place outside (.contribution file name embedded docs type, ctx))
    {use : Use} (resolves : type.use? embedded = some use) (flattened : use.flattened = true)
    {target : Place} (found : graph.findType? use.type.name file.path = some target) :
    (file = place.1 ∧ use ∈ place.2.uses) ∧
    (SkipsFlattened graph file use.type target ctx →
      (contribution graph file name embedded docs type ctx).answer = [] ∧
        (contribution graph file name embedded docs type ctx).context =
          ctx.warn (.flattensItself target.2.name)) ∧
    (¬SkipsFlattened graph file use.type target ctx →
      ∀ fields, target.2.shape = .struct fields →
        ∃ schema, (typeSchema graph target.1 target.2 ctx).answer = some schema ∧
          (contribution graph file name embedded docs type ctx).answer = schema.properties) ∧
    (SkipsFlattened graph file use.type target ctx ↔
      ∃ around ∈ place :: outside, around.2.name = target.2.name) ∧
    (graph.Apart →
      (SkipsFlattened graph file use.type target ctx ↔ target ∈ place :: outside)) := by
  obtain ⟨answer, context⟩ :=
    @contribution_of_flattened graph file ctx use embedded type resolves flattened name docs
  have active : ctx.active = (place :: outside).map (·.2.name) := occurs.working_eq
  have named : SkipsFlattened graph file use.type target ctx ↔
      ∃ around ∈ place :: outside, around.2.name = target.2.name := by
    rw [skipsFlattened_iff found, active, List.mem_map]
  obtain ⟨sameFile, own⟩ := occurs.uses_subset
  have used : use ∈ place.2.uses := own use (Option.mem_toList.2 resolves)
  refine ⟨⟨sameFile, used⟩, ?_, ?_, named, ?_⟩
  · rintro ⟨skips, warns⟩
    rw [answer, context, skips, warns]
    exact ⟨rfl, rfl⟩
  · intro kept fields shape
    have fresh : target.2.name ∉ ctx.active := fun busy => kept ((skipsFlattened_iff found).2 busy)
    obtain ⟨schema, worked, spliced⟩ := splices_of_fresh found fresh shape
    rw [answer, spliced]
    exact ⟨schema, worked, rfl⟩
  · intro apart
    rw [named]
    constructor
    · -- What is being worked out leads to this declaration, and so to the target.
      rintro ⟨around, listed, same⟩
      have uses : graph.Uses place target := ⟨use, used, sameFile ▸ found⟩
      have leads : graph.Reaches around place := by
        rcases List.mem_cons.1 listed with rfl | outer
        · exact Relation.ReflTransGen.refl
        · exact (occurs.used around outer).to_reflTransGen
      obtain rfl := apart around (occurs.placed around listed) target (leads.tail uses) same
      exact listed
    · intro listed
      exact ⟨target, listed, rfl⟩

/-- The component of a loop splices the other type, whose declaration is not being worked out. -/
theorem splices_unless_named_loop :
    Declarations.Apart ⟨[loopFile]⟩ ∧
      ∃ schema, (typeSchema ⟨[loopFile]⟩ loopFile loopPart
          ((Context.start .firstWins).enter "Node")).answer = some schema ∧
        (contribution ⟨[loopFile]⟩ loopFile "part" true .empty (.named ⟨"Part", []⟩)
          ((Context.start .firstWins).enter "Node")).answer = schema.properties := by
  have distinct : Declarations.DistinctNames ⟨[loopFile]⟩ := by
    rw [Declarations.DistinctNames]
    decide
  have component : Occurs ⟨[loopFile]⟩ .firstWins (loopFile, loopNode) []
      (.type loopFile loopNode, Context.start .firstWins) :=
    @Occurs.start _ _ [] [(loopFile, loopPart)] _ rfl (by decide +kernel)
  obtain ⟨_, _, splices, _, skips⟩ := splices_unless_named ⟨[loopFile]⟩ .firstWins
    (component.first_field rfl rfl) (show _ = some ⟨⟨"Part", []⟩, true⟩ by decide +kernel) rfl
    (show _ = some (loopFile, loopPart) by decide +kernel)
  have kept : (loopFile, loopPart) ∉ [(loopFile, loopNode)] := by decide
  exact ⟨distinct.apart, splices (fun skipped => kept ((skips distinct.apart).1 skipped)) _ rfl⟩

/-! ### Two types of one name

A component splices a type of another file, which in turn splices a type of the component's name: one
that is declared in its own file. The generator takes it for the component and leaves it out. -/

/-- A component that splices a type of another file. -/
def homonymComponent : TypeDeclaration where
  name := "Node"
  docs := ⟨["openapi:component schema Node"]⟩
  shape := .struct [⟨"mid", true, true, none, .named ⟨"Mid", []⟩, .empty⟩]

/-- A type that splices the other type of the component's name. -/
def homonymMiddle : TypeDeclaration where
  name := "Mid"
  docs := .empty
  shape := .struct [⟨"node", true, true, none, .named ⟨"Node", []⟩, .empty⟩]

/-- The other type of the component's name, which has no uses. -/
def homonymLeaf : TypeDeclaration where
  name := "Node"
  docs := .empty
  shape := .struct [⟨"y", true, false, none, .primitive .bool, .empty⟩]

/-- The file of the component. -/
def homonymOuter : FileDeclarations where
  path := ⟨"a.rs"⟩
  docs := .empty
  types := [homonymComponent]
  functions := []

/-- The file of the other two types. -/
def homonymInner : FileDeclarations where
  path := ⟨"b.rs"⟩
  docs := .empty
  types := [homonymMiddle, homonymLeaf]
  functions := []

/-- A field is left out as if its type flattened itself, while the declaration of its type, a struct
    without uses, is not being worked out: only another one of its name is. -/
theorem skips_homonym :
    ∃ outside ctx, Occurs ⟨[homonymOuter, homonymInner]⟩ .firstWins (homonymInner, homonymMiddle)
        outside (.contribution homonymInner "node" true .empty (.named ⟨"Node", []⟩), ctx) ∧
      Declarations.findType? ⟨[homonymOuter, homonymInner]⟩ "Node" homonymInner.path =
        some (homonymInner, homonymLeaf) ∧
      (homonymInner, homonymLeaf) ∉ (homonymInner, homonymMiddle) :: outside ∧
      SkipsFlattened ⟨[homonymOuter, homonymInner]⟩ homonymInner ⟨"Node", []⟩
        (homonymInner, homonymLeaf) ctx := by
  have component : Occurs ⟨[homonymOuter, homonymInner]⟩ .firstWins (homonymOuter, homonymComponent)
      [] (.type homonymOuter homonymComponent, Context.start .firstWins) :=
    @Occurs.start _ _ [] [(homonymInner, homonymMiddle), (homonymInner, homonymLeaf)] _ rfl
      (by decide +kernel)
  have middle : Occurs ⟨[homonymOuter, homonymInner]⟩ .firstWins (homonymInner, homonymMiddle)
      [(homonymOuter, homonymComponent)]
      (.type homonymInner homonymMiddle, (Context.start .firstWins).enter "Node") :=
    (component.first_field rfl rfl).enter_field (by decide +kernel) (by decide +kernel) (by decide)
  have found : Declarations.findType? ⟨[homonymOuter, homonymInner]⟩ "Node" homonymInner.path =
      some (homonymInner, homonymLeaf) := by decide +kernel
  refine ⟨_, _, middle.first_field rfl rfl, found, by decide, ?_⟩
  exact (@skipsFlattened_iff _ _ ⟨"Node", []⟩ _ _ found).2 (by decide)

end Generator

end SwaggerDocs
