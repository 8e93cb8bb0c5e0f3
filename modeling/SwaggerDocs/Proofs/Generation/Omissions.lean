/-
Module: SwaggerDocs.Proofs.Generation.Omissions
Purpose: Fields that contribute nothing to their struct. Each of them gives one warning and changes
  nothing else, unless it is embedded and its type is an object without properties. The struct gets the
  same schema as without them: the answers of later calls depend on the active names alone, and these are
  left as they were.
Main exports: fieldSteps, contributed, contributingFields, SplicesNothing, Declarations.replace,
  contribution_of_nothing, contributed_contributingFields, Generator.omitted_fields_local
-/
import SwaggerDocs.Proofs.Generation.Agreement
import SwaggerDocs.Proofs.Generation.Guard

namespace SwaggerDocs

open Generation

/-! ### One type in place of another

A declaration is replaced wherever it stands. If both have the same name, names are resolved to the same
places as before. -/

section Replacement

/-- A type, or a new one in place of an old one. -/
def TypeDeclaration.replace (decl old new : TypeDeclaration) : TypeDeclaration :=
  if decl = old then new else decl

/-- A file with a new type in place of an old one. -/
def FileDeclarations.replace (file : FileDeclarations) (old new : TypeDeclaration) :
    FileDeclarations :=
  { file with types := file.types.map fun decl => decl.replace old new }

/-- Declarations with a new type in place of an old one, wherever that is declared. -/
def Declarations.replace (graph : Declarations) (old new : TypeDeclaration) : Declarations :=
  ⟨graph.files.map fun file => file.replace old new⟩

variable {old new : TypeDeclaration} (sameName : new.name = old.name)
include sameName

/-- The name of a declaration stays, since the new one has the name of the old. -/
theorem TypeDeclaration.name_replace (decl : TypeDeclaration) :
    (decl.replace old new).name = decl.name := by
  rw [replace]
  split
  · rename_i replaced
    rw [sameName, replaced]
  · rfl

/-- A name stands for the replaced declaration in the replaced file. -/
theorem FileDeclarations.typeNamed?_replace (file : FileDeclarations) (name : String) :
    (file.replace old new).typeNamed? name =
      (file.typeNamed? name).map fun decl => decl.replace old new := by
  rw [typeNamed?, typeNamed?, replace, List.find?_map]
  congr 2
  funext decl
  exact congrArg (fun other => decide (other = name)) (TypeDeclaration.name_replace sameName decl)

namespace Declarations

/-- The first declaration of a name stands in the same file as before. -/
theorem firstNamed?_replace (name : String) (files : List FileDeclarations) :
    firstNamed? name (files.map fun file => file.replace old new) =
      (firstNamed? name files).map
        fun place => (place.1.replace old new, place.2.replace old new) := by
  induction files with
  | nil => rfl
  | cons file rest ih =>
      rw [List.map_cons, firstNamed?, firstNamed?, file.typeNamed?_replace sameName, ih]
      cases file.typeNamed? name with
      | none => rfl
      | some decl => rfl

/-- A name stands for the declaration for which it stood before, or the new one in its place. -/
theorem findType?_replace (graph : Declarations) (name : String) (usedIn : Path) :
    (graph.replace old new).findType? name usedIn =
      (graph.findType? name usedIn).map
        fun place => (place.1.replace old new, place.2.replace old new) := by
  have ofPath : (graph.replace old new).files.filter (fun file => file.path.same usedIn) =
      (graph.files.filter fun file => file.path.same usedIn).map
        fun file => file.replace old new := List.filter_map
  rw [findType?, ofPath, firstNamed?_replace sameName, replace, firstNamed?_replace sameName,
    findType?]
  cases firstNamed? name (graph.files.filter fun file => file.path.same usedIn) with
  | none => rfl
  | some place => rfl

/-- While the name of the replaced type is active, all names are looked up alike. -/
theorem looksUpAlike_replace (graph : Declarations) (name : String) :
    graph.LooksUpAlike (graph.replace old new) [old.name] name := by
  intro usedIn
  rw [target?, target?, findType?_replace sameName]
  cases found : graph.findType? name usedIn with
  | none => exact Or.inl rfl
  | some place =>
      obtain ⟨_, _, named⟩ := findType?_mem found
      by_cases same : name = old.name
      · exact Or.inr ⟨List.mem_singleton.2 same, rfl, rfl⟩
      · have kept : place.2.replace old new = place.2 := by
          rw [TypeDeclaration.replace, if_neg]
          intro replaced
          exact same (named.symm.trans (congrArg TypeDeclaration.name replaced))
        simp only [Option.map_some, kept]
        exact Or.inl rfl

end Declarations

end Replacement

namespace Generator

variable {graph : Declarations} {file : FileDeclarations}

/-! ### Answers depend on the active names alone

The generator carries a registry and a list of cyclic names along. Neither has an effect on an answer,
so a call that answers nothing can be left out before the next one. -/

/-- A call has the same answer in every context with the same active names. -/
theorem run_fst_congr (graph : Declarations) (call : Call) {ctx other : Context}
    (same : other.active = ctx.active) : (run graph call other).1 = (run graph call ctx).1 := by
  obtain ⟨answer, after, evaluates⟩ := exists_evaluates graph (call, ctx)
  obtain ⟨reached, there⟩ := evaluates.of_active_eq same
  rw [evaluates.run_eq, there.run_eq]

/-- A context without cyclic names, from which a run follows its outcome. -/
theorem balanced_settled (ctx : Context) : ({ ctx with cyclic := [] } : Context).Balanced := by
  intro name member
  cases member

/-- A field contributes what its uses stand for while the same names are active. -/
theorem answer_contribution_eq (type : TypeUse) (name : String) (embedded : Bool)
    (docs : Documentation) (ctx : Context) :
    (contribution graph file name embedded docs type ctx).answer =
      contributionBy (standsFor graph ctx.active file) name embedded docs type := by
  have settled := contribution_follows (usesFollow graph ctx.active) file type name embedded docs
    { ctx with cyclic := [] } rfl (balanced_settled ctx)
  rw [← value_contribution, ← settled.answer]
  exact run_fst_congr graph (.contribution file name embedded docs type) rfl

/-- A type is worked out to the schema in which its uses stand for what they do while the same names and
    its own are active. -/
theorem answer_typeSchema_eq (decl : TypeDeclaration) (ctx : Context) :
    (typeSchema graph file decl ctx).answer =
      schemaBy (standsFor graph (ctx.enter decl.name).active file) decl := by
  have settled := shapeSchema_follows (usesFollow graph (ctx.enter decl.name).active) file decl
    { ctx.enter decl.name with cyclic := [] } rfl (balanced_settled _)
  rw [answer_typeSchema, ← value_shapeSchema, ← settled.answer]
  exact run_fst_congr graph (.shape file decl) rfl

/-! ### Fields that contribute nothing

A field contributes nothing where its type stands for nothing, which gives a warning, or where an object
without properties is spliced, which gives none. -/

section Nothing

variable {ctx : Context}

/-- The type of a field is one that can be spliced, and it has no properties. -/
def SplicesNothing (graph : Declarations) (file : FileDeclarations) (type : TypeUse)
    (ctx : Context) : Prop :=
  ∃ named target schema, type.use? true = some ⟨named, true⟩ ∧
    graph.findType? named.name file.path = some target ∧
      (typeSchema graph target.1 target.2 ctx).answer = some schema ∧
        schema.isObject = true ∧ schema.properties = []

/-- A use that contributes nothing gives a warning and changes nothing else, unless it is embedded and
    its target is an object without properties. -/
theorem namedUse_of_nothing {embedded : Bool} {type : TypeName} {name : String}
    {docs : Documentation}
    (nothing : resolved name docs (namedUse graph file embedded type ctx).answer = []) :
    (∃ warning, (namedUse graph file embedded type ctx).context = ctx.warn warning) ∨
      (embedded = true ∧ ∃ target schema, graph.findType? type.name file.path = some target ∧
        (typeSchema graph target.1 target.2 ctx).answer = some schema ∧
          schema.isObject = true ∧ schema.properties = []) := by
  cases found : graph.findType? type.name file.path with
  | none =>
      rw [namedUse_of_missing embedded found]
      exact Or.inl ⟨_, rfl⟩
  | some target =>
      by_cases busy : target.2.name ∈ ctx.active
      · rw [namedUse_of_active embedded found busy] at nothing ⊢
        cases embedded with
        | true => exact Or.inl ⟨_, rfl⟩
        | false => cases nothing
      · obtain ⟨answer, context⟩ := namedUse_of_fresh embedded found busy
        rw [answer] at nothing
        rw [context]
        cases worked : (typeSchema graph target.1 target.2 ctx).answer with
        | none =>
            obtain ⟨reason, warned⟩ := context_of_unmapped worked busy
            exact Or.inl ⟨_, warned⟩
        | some schema =>
            rw [worked] at nothing
            cases embedded with
            | false => cases nothing
            | true =>
                -- A schema that is no object is contributed as a whole, and so is something.
                cases object : schema.isObject with
                | false =>
                    simp only [settle, object] at nothing
                    cases nothing
                | true =>
                    simp only [settle, object] at nothing
                    exact Or.inr ⟨rfl, target, schema, rfl, worked, object, nothing⟩

/-- A field that contributes nothing gives a warning and changes nothing else, unless it is embedded and
    its type is an object without properties. -/
theorem contribution_of_nothing {embedded : Bool} {type : TypeUse} {name : String}
    {docs : Documentation}
    (nothing : (contribution graph file name embedded docs type ctx).answer = []) :
    (∃ warning, (contribution graph file name embedded docs type ctx).context = ctx.warn warning) ∨
      (embedded = true ∧ SplicesNothing graph file type ctx) := by
  induction type with
  | named type =>
      rw [contribution] at nothing ⊢
      cases known : wellKnownSchema? type with
      | some schema =>
          rw [known] at nothing
          cases nothing
      | none =>
          rw [known] at nothing
          rcases namedUse_of_nothing nothing with warned | ⟨shown, target, schema, found, rest⟩
          · exact Or.inl warned
          · have used : (TypeUse.named type).use? true = some ⟨type, true⟩ :=
              TypeUse.use?_named_eq_some.2 ⟨known, rfl⟩
            exact Or.inr ⟨shown, type, target, schema, used, found, rest⟩
  | indirect inner ih =>
      rw [contribution] at nothing ⊢
      exact ih nothing
  | unsupported kind =>
      rw [contribution]
      exact Or.inl ⟨_, rfl⟩
  | primitive kind =>
      rw [contribution] at nothing
      cases nothing
  | sequence item ih =>
      rw [contribution] at nothing
      cases nothing
  | mapping value ih =>
      rw [contribution] at nothing
      cases nothing
  | any =>
      rw [contribution] at nothing
      cases nothing

end Nothing

/-! ### Structs without these fields

The fields that are left contribute the same one after another, in the context that the struct was
entered with, and also in declarations where the struct has no other fields. -/

section Structs

variable (graph file)

/-- What a field of a struct contributes in a context. -/
abbrev fieldContribution (field : Field) (ctx : Context) :
    Returned ctx.active (Entries String Schema) :=
  contribution graph file field.propertyName field.embedded field.docs field.type ctx

/-- The fields of a struct that are worked out, each with the context that those before it left. -/
def fieldSteps : List Field → Context → List (Field × Context)
  | [], _ => []
  | field :: rest, ctx =>
      if field.contributes then
        (field, ctx) :: fieldSteps rest (fieldContribution graph file field ctx).context
      else fieldSteps rest ctx

/-- The fields of a struct that are worked out, each with what it contributes. -/
def contributed (fields : List Field) (ctx : Context) : List (Field × Entries String Schema) :=
  (fieldSteps graph file fields ctx).map fun step =>
    (step.1, (fieldContribution graph file step.1 step.2).answer)

/-- The fields of a struct that contribute a property to it. -/
def contributingFields (fields : List Field) (ctx : Context) : List Field :=
  ((contributed graph file fields ctx).filter fun own => !own.2.isEmpty).map Prod.fst

variable (fields : List Field) (ctx : Context)

/-- The properties of a struct are those that its fields contribute, one after another. -/
theorem answer_fieldProperties_eq_foldl (properties : Entries String Schema) :
    (fieldProperties graph file properties fields ctx).answer =
      (contributed graph file fields ctx).foldl (fun made own => made.extend own.2) properties := by
  induction fields generalizing properties ctx with
  | nil =>
      rw [fieldProperties]
      rfl
  | cons field rest ih =>
      rw [fieldProperties, contributed, fieldSteps]
      split
      · exact ih _ _
      · exact ih _ _

/-- Each field contributes what its uses stand for while the same names are active. -/
theorem contributed_eq_map :
    contributed graph file fields ctx =
      (fields.filter (·.contributes)).map fun field =>
        (field, contributionBy (standsFor graph ctx.active file) field.propertyName field.embedded
          field.docs field.type) := by
  induction fields generalizing ctx with
  | nil => rfl
  | cons field rest ih =>
      rw [contributed, fieldSteps]
      split
      · rename_i contributes
        have later := ih (fieldContribution graph file field ctx).context
        rw [(fieldContribution graph file field ctx).active_eq, contributed] at later
        rw [List.map_cons, later, List.filter_cons_of_pos contributes, List.map_cons,
          answer_contribution_eq]
      · rename_i hidden
        rw [← contributed, ih, List.filter_cons_of_neg hidden]

/-- The contributing fields are those that contribute anything with what uses stand for, where only the
    active names count. -/
theorem contributingFields_eq_filter :
    contributingFields graph file fields ctx =
      (fields.filter (·.contributes)).filter fun field =>
        !(contributionBy (standsFor graph ctx.active file) field.propertyName field.embedded field.docs
          field.type).isEmpty := by
  rw [contributingFields, contributed_eq_map, List.filter_map, List.map_map]
  exact List.map_id _

/-- Without the fields that contribute nothing, the others contribute the same. -/
theorem contributed_contributingFields :
    contributed graph file (contributingFields graph file fields ctx) ctx =
      (contributed graph file fields ctx).filter fun own => !own.2.isEmpty := by
  have contribute : (contributingFields graph file fields ctx).filter (·.contributes) =
      contributingFields graph file fields ctx := by
    rw [List.filter_eq_self, contributingFields_eq_filter]
    intro field kept
    exact (List.mem_filter.1 (List.mem_filter.1 kept).1).2
  rw [contributed_eq_map, contribute, contributingFields_eq_filter, contributed_eq_map,
    List.filter_map]
  rfl

/-- Without the fields that contribute nothing, a struct has the same properties. -/
theorem answer_contributingFields :
    (fieldProperties graph file [] (contributingFields graph file fields ctx) ctx).answer =
      (fieldProperties graph file [] fields ctx).answer := by
  rw [answer_fieldProperties_eq_foldl, answer_fieldProperties_eq_foldl,
    contributed_contributingFields, List.foldl_filter]
  congr 1
  funext made own
  split
  · rfl
  · rename_i nothing
    have empty : own.2 = [] := by simpa using nothing
    rw [empty]
    rfl

end Structs

/-- A field of a struct that contributes nothing gives a warning and changes nothing else, unless it is
    embedded and its type is an object without properties. Without such fields the others contribute the
    same. The struct has a schema in every context, made of what its fields contribute, and it has the
    same one without the fields that contribute nothing; also in declarations from which they are gone. -/
theorem omitted_fields_local (graph : Declarations) (file : FileDeclarations) (name : String)
    (docs : Documentation) (fields : List Field) (ctx : Context) :
    let decl : TypeDeclaration := ⟨name, docs, .struct fields⟩
    let inside := ctx.enter name
    let kept := contributingFields graph file fields inside
    let shortened : TypeDeclaration := ⟨name, docs, .struct kept⟩
    (∀ step ∈ fieldSteps graph file fields inside,
      let made := fieldContribution graph file step.1 step.2
      made.answer = [] →
        (∃ warning, made.context = step.2.warn warning) ∨
          (step.1.embedded = true ∧ SplicesNothing graph file step.1.type step.2)) ∧
    contributed graph file kept inside =
      (contributed graph file fields inside).filter (fun own => !own.2.isEmpty) ∧
    ∃ schema, (typeSchema graph file decl ctx).answer = some schema ∧
      schema.properties = (contributed graph file fields inside).foldl
        (fun (made : Entries String Schema) own => made.extend own.2) [] ∧
      (typeSchema graph file shortened ctx).answer = some schema ∧
        (typeSchema (graph.replace decl shortened) (file.replace decl shortened) shortened
          ctx).answer = some schema := by
  intro decl inside kept shortened
  have worked (fields : List Field) :
      (typeSchema graph file ⟨name, docs, .struct fields⟩ ctx).answer = some { Schema.object with
        description := docs.text?
        properties := (fieldProperties graph file [] fields inside).answer } := by
    rw [answer_typeSchema, shapeSchema]
  have same : (typeSchema graph file shortened ctx).answer =
      (typeSchema graph file decl ctx).answer := by
    rw [worked, worked, answer_contributingFields]
  -- The name of the struct is active inside it, so its own declaration is not used.
  have gone : (typeSchema (graph.replace decl shortened) (file.replace decl shortened) shortened
      ctx).answer = (typeSchema graph file shortened ctx).answer := by
    have sameName : shortened.name = decl.name := rfl
    have alike := Declarations.looksUpAlike_replace sameName graph
    have entered : [decl.name] ⊆ inside.active := by
      intro other member
      rw [List.mem_singleton.1 member]
      exact List.mem_insert_self
    have agrees := shapeSchema_agrees (fun _ _ use _ => alike use.type.name) inside.active file
      shortened entered (fun use _ => alike use.type.name) (file.replace decl shortened) rfl
    rw [answer_typeSchema_eq, answer_typeSchema_eq, ← value_shapeSchema, ← value_shapeSchema]
    exact agrees.value.symm
  refine ⟨?_, contributed_contributingFields graph file fields inside, _, worked fields, ?_,
    same.trans (worked fields), gone.trans (same.trans (worked fields))⟩
  · intro step _ made nothing
    exact contribution_of_nothing nothing
  · exact answer_fieldProperties_eq_foldl graph file fields inside []

end Generator

end SwaggerDocs
