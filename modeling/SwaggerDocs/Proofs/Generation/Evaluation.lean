/-
Module: SwaggerDocs.Proofs.Generation.Evaluation
Purpose: What the calls of the generator do, as a relation that does not presume that they end: a call
  is evaluated if the calls that it makes are. The generator as a function computes this relation, and
  evaluated calls leave the active names as they found them.
Main exports: Generator.Call, Generator.Evaluates, Generator.run, Evaluates.active_eq,
  Evaluates.run_eq
-/
import SwaggerDocs.Generation.Generator

namespace SwaggerDocs

open Generation

namespace Generator

/-- A call of the generator, without the context in which it is made. -/
inductive Call where
  /-- A declared type is worked out. -/
  | type (file : FileDeclarations) (decl : TypeDeclaration)
  | shape (file : FileDeclarations) (decl : TypeDeclaration)
  /-- The fields of a struct that are left, with the properties of the earlier ones. -/
  | fields (file : FileDeclarations) (properties : Entries String Schema) (rest : List Field)
  | contribution (file : FileDeclarations) (name : String) (embedded : Bool) (docs : Documentation)
      (type : TypeUse)
  | element (file : FileDeclarations) (type : TypeUse)
  | named (file : FileDeclarations) (embedded : Bool) (type : TypeName)

/-- What a call answers. -/
@[reducible] def Call.Answer : Call → Type
  | .type _ _ | .shape _ _ => Option Schema
  | .fields _ _ _ | .contribution _ _ _ _ _ => Entries String Schema
  | .element _ _ => Schema
  | .named _ _ _ => Resolution

/-- A call in a context ends with an answer and a changed context. -/
inductive Evaluates (graph : Declarations) :
    (call : Call) → Context → call.Answer → Context → Prop where
  | type {file : FileDeclarations} {decl : TypeDeclaration} {ctx reached : Context}
      {made : Option Schema}
      (inner : Evaluates graph (.shape file decl) (ctx.enter decl.name) made reached) :
      Evaluates graph (.type file decl) ctx made (reached.leave decl.name)
  | struct {file : FileDeclarations} {decl : TypeDeclaration} {ctx after : Context}
      {fields : List Field} {properties : Entries String Schema}
      (shape : decl.shape = .struct fields)
      (inner : Evaluates graph (.fields file [] fields) ctx properties after) :
      Evaluates graph (.shape file decl) ctx
        (some { Schema.object with
          description := decl.docs.text?, properties := properties }) after
  | «alias» {file : FileDeclarations} {decl : TypeDeclaration} {ctx after : Context}
      {target : TypeUse} {properties : Entries String Schema} (shape : decl.shape = .alias target)
      (inner : Evaluates graph (.contribution file decl.name false decl.docs target) ctx properties
        after) :
      Evaluates graph (.shape file decl) ctx
        (some ((onlySchema decl.name properties).withDescription decl.docs.text?)) after
  | enumeration {file : FileDeclarations} {decl : TypeDeclaration} {ctx : Context}
      {names : List String} (shape : decl.shape = .enumeration names) :
      Evaluates graph (.shape file decl) ctx
        (some { Schema.primitive "string" none with
          description := decl.docs.text?, enumNames := names }) ctx
  | unmappable {file : FileDeclarations} {decl : TypeDeclaration} {ctx : Context}
      {reason : String} (shape : decl.shape = .unmappable reason) :
      Evaluates graph (.shape file decl) ctx none (ctx.warn (.unmappableType decl.name reason))
  | noField {file : FileDeclarations} {properties : Entries String Schema} {ctx : Context} :
      Evaluates graph (.fields file properties []) ctx properties ctx
  | field {file : FileDeclarations} {properties own all : Entries String Schema} {field : Field}
      {rest : List Field} {ctx reached after : Context} (contributes : field.contributes = true)
      (first : Evaluates graph
        (.contribution file field.propertyName field.embedded field.docs field.type) ctx own reached)
      (later : Evaluates graph (.fields file (properties.extend own) rest) reached all after) :
      Evaluates graph (.fields file properties (field :: rest)) ctx all after
  | hiddenField {file : FileDeclarations} {properties all : Entries String Schema} {field : Field}
      {rest : List Field} {ctx after : Context} (hidden : field.contributes = false)
      (later : Evaluates graph (.fields file properties rest) ctx all after) :
      Evaluates graph (.fields file properties (field :: rest)) ctx all after
  | primitive {file : FileDeclarations} {name : String} {embedded : Bool} {docs : Documentation}
      {kind : Primitive} {ctx : Context} :
      Evaluates graph (.contribution file name embedded docs (.primitive kind)) ctx
        (single name (primitiveSchema kind) docs)
        (if lacksCounterpart kind then ctx.warn (.asString kind name) else ctx)
  | wellKnown {file : FileDeclarations} {name : String} {embedded : Bool} {docs : Documentation}
      {type : TypeName} {schema : Schema} {ctx : Context}
      (known : wellKnownSchema? type = some schema) :
      Evaluates graph (.contribution file name embedded docs (.named type)) ctx
        (single name schema docs) ctx
  | named {file : FileDeclarations} {name : String} {embedded : Bool} {docs : Documentation}
      {type : TypeName} {use : Resolution} {ctx after : Context}
      (unknown : wellKnownSchema? type = none)
      (inner : Evaluates graph (.named file embedded type) ctx use after) :
      Evaluates graph (.contribution file name embedded docs (.named type)) ctx
        (resolved name docs use) after
  | sequence {file : FileDeclarations} {name : String} {embedded : Bool} {docs : Documentation}
      {item : TypeUse} {schema : Schema} {ctx after : Context}
      (inner : Evaluates graph (.element file item) ctx schema after) :
      Evaluates graph (.contribution file name embedded docs (.sequence item)) ctx
        (single name (Schema.array schema) docs) after
  | mapping {file : FileDeclarations} {name : String} {embedded : Bool} {docs : Documentation}
      {value : TypeUse} {schema : Schema} {ctx after : Context}
      (inner : Evaluates graph (.element file value) ctx schema after) :
      Evaluates graph (.contribution file name embedded docs (.mapping value)) ctx
        (single name (Schema.map schema) docs) after
  | indirect {file : FileDeclarations} {name : String} {embedded : Bool} {docs : Documentation}
      {type : TypeUse} {properties : Entries String Schema} {ctx after : Context}
      (inner : Evaluates graph (.contribution file name embedded docs type) ctx properties after) :
      Evaluates graph (.contribution file name embedded docs (.indirect type)) ctx properties after
  | any {file : FileDeclarations} {name : String} {embedded : Bool} {docs : Documentation}
      {ctx : Context} :
      Evaluates graph (.contribution file name embedded docs .any) ctx
        (single name Schema.object docs) ctx
  | unsupported {file : FileDeclarations} {name : String} {embedded : Bool} {docs : Documentation}
      {kind : String} {ctx : Context} :
      Evaluates graph (.contribution file name embedded docs (.unsupported kind)) ctx []
        (ctx.warn (.unsupportedField kind name))
  | element {file : FileDeclarations} {type : TypeUse} {properties : Entries String Schema}
      {ctx after : Context}
      (inner : Evaluates graph (.contribution file itemKey false Documentation.empty type) ctx
        properties after) :
      Evaluates graph (.element file type) ctx (onlySchema itemKey properties) after
  | missing {file : FileDeclarations} {embedded : Bool} {type : TypeName} {ctx : Context}
      (missing : graph.findType? type.name file.path = none) :
      Evaluates graph (.named file embedded type) ctx .skip
        (ctx.warn (.missingDeclaration type.name file.path))
  | flattensItself {file targetFile : FileDeclarations} {type : TypeName}
      {target : TypeDeclaration} {ctx : Context}
      (found : graph.findType? type.name file.path = some (targetFile, target))
      (busy : target.name ∈ ctx.active) :
      Evaluates graph (.named file true type) ctx .skip (ctx.warn (.flattensItself target.name))
  | cyclic {file targetFile : FileDeclarations} {type : TypeName} {target : TypeDeclaration}
      {ctx : Context} (found : graph.findType? type.name file.path = some (targetFile, target))
      (busy : target.name ∈ ctx.active) :
      Evaluates graph (.named file false type) ctx (.schema (Schema.referTo target.name))
        (ctx.mark target.name)
  | expand {file targetFile : FileDeclarations} {embedded : Bool} {type : TypeName}
      {target : TypeDeclaration} {ctx reached : Context} {made : Option Schema}
      (found : graph.findType? type.name file.path = some (targetFile, target))
      (fresh : target.name ∉ ctx.active)
      (inner : Evaluates graph (.type targetFile target) ctx made reached) :
      Evaluates graph (.named file embedded type) ctx (settle target.name embedded made reached).1
        (settle target.name embedded made reached).2

/-- The names that are active after a call. -/
def Call.leaves : Call → List String → List String
  | .type _ decl, active => active.filter (· ≠ decl.name)
  | _, active => active

/-- A call leaves the active names as it found them, but for the type that it works out. -/
theorem Evaluates.active_eq {graph : Declarations} {call : Call} {ctx after : Context}
    {answer : call.Answer} (evaluates : Evaluates graph call ctx answer after) :
    after.active = call.leaves ctx.active := by
  induction evaluates with
  | @type file decl ctx reached made inner ih =>
      have restored : reached.active = (ctx.enter decl.name).active := ih
      rw [Context.leave, restored]
      exact ctx.filter_active_enter decl.name
  | struct shape inner ih => exact ih
  | «alias» shape inner ih => exact ih
  | enumeration shape => rfl
  | unmappable shape => rfl
  | noField => rfl
  | field contributes first later firstIh laterIh => exact laterIh.trans firstIh
  | hiddenField hidden later ih => exact ih
  | primitive =>
      split
      · rfl
      · rfl
  | wellKnown known => rfl
  | named unknown inner ih => exact ih
  | sequence inner ih => exact ih
  | mapping inner ih => exact ih
  | indirect inner ih => exact ih
  | any => rfl
  | unsupported => rfl
  | element inner ih => exact ih
  | missing missing => rfl
  | flattensItself found busy => rfl
  | cyclic found busy => rfl
  | expand found fresh inner ih =>
      exact (active_settle _ _ _ _).trans (ih.trans (Context.filter_active_of_fresh fresh))

/-- What a use of a type stands for does not depend on the context in which it is settled. -/
theorem settle_fst_congr (name : String) (embedded : Bool) (made : Option Schema)
    (ctx other : Context) : (settle name embedded made ctx).1 = (settle name embedded made other).1 := by
  cases made with
  | none => rfl
  | some schema => cases embedded <;> rfl

/-- A call has the same answer in every context with the same active names. -/
theorem Evaluates.of_active_eq {graph : Declarations} {call : Call} {ctx after other : Context}
    {answer : call.Answer} (evaluates : Evaluates graph call ctx answer after)
    (same : other.active = ctx.active) : ∃ reached, Evaluates graph call other answer reached := by
  induction evaluates generalizing other with
  | @type file decl ctx reached made inner ih =>
      have entered : (other.enter decl.name).active = (ctx.enter decl.name).active := by
        simp only [Context.enter, same]
      obtain ⟨_, there⟩ := ih entered
      exact ⟨_, .type there⟩
  | struct shape inner ih =>
      obtain ⟨_, there⟩ := ih same
      exact ⟨_, .struct shape there⟩
  | «alias» shape inner ih =>
      obtain ⟨_, there⟩ := ih same
      exact ⟨_, .«alias» shape there⟩
  | enumeration shape => exact ⟨_, .enumeration shape⟩
  | unmappable shape => exact ⟨_, .unmappable shape⟩
  | noField => exact ⟨_, .noField⟩
  | field contributes first later firstIh laterIh =>
      -- The first field leaves the same names active in both contexts.
      obtain ⟨_, here⟩ := firstIh same
      have restored := here.active_eq.trans (same.trans first.active_eq.symm)
      obtain ⟨_, there⟩ := laterIh restored
      exact ⟨_, .field contributes here there⟩
  | hiddenField hidden later ih =>
      obtain ⟨_, there⟩ := ih same
      exact ⟨_, .hiddenField hidden there⟩
  | primitive => exact ⟨_, .primitive⟩
  | wellKnown known => exact ⟨_, .wellKnown known⟩
  | named unknown inner ih =>
      obtain ⟨_, there⟩ := ih same
      exact ⟨_, .named unknown there⟩
  | sequence inner ih =>
      obtain ⟨_, there⟩ := ih same
      exact ⟨_, .sequence there⟩
  | mapping inner ih =>
      obtain ⟨_, there⟩ := ih same
      exact ⟨_, .mapping there⟩
  | indirect inner ih =>
      obtain ⟨_, there⟩ := ih same
      exact ⟨_, .indirect there⟩
  | any => exact ⟨_, .any⟩
  | unsupported => exact ⟨_, .unsupported⟩
  | element inner ih =>
      obtain ⟨_, there⟩ := ih same
      exact ⟨_, .element there⟩
  | missing missing => exact ⟨_, .missing missing⟩
  | flattensItself found busy => exact ⟨_, .flattensItself found (same ▸ busy)⟩
  | cyclic found busy => exact ⟨_, .cyclic found (same ▸ busy)⟩
  | @expand file targetFile embedded type target ctx reached made found fresh inner ih =>
      obtain ⟨reached', there⟩ := ih same
      rw [settle_fst_congr target.name embedded made reached reached']
      exact ⟨_, .expand found (same ▸ fresh) there⟩

/-! ### The generator as a function

The relation says what a call is evaluated to; the generator computes it. By induction on the evaluation
both come to the same end, so a call has at most one evaluation. -/

/-- The end of a call, as the generator computes it. -/
def run (graph : Declarations) : (call : Call) → Context → call.Answer × Context
  | .type file decl, ctx =>
      ((typeSchema graph file decl ctx).answer, (typeSchema graph file decl ctx).context)
  | .shape file decl, ctx =>
      ((shapeSchema graph file decl ctx).answer, (shapeSchema graph file decl ctx).context)
  | .fields file properties rest, ctx =>
      ((fieldProperties graph file properties rest ctx).answer,
        (fieldProperties graph file properties rest ctx).context)
  | .contribution file name embedded docs type, ctx =>
      ((contribution graph file name embedded docs type ctx).answer,
        (contribution graph file name embedded docs type ctx).context)
  | .element file type, ctx =>
      ((elementSchema graph file type ctx).answer, (elementSchema graph file type ctx).context)
  | .named file embedded type, ctx =>
      ((namedUse graph file embedded type ctx).answer,
        (namedUse graph file embedded type ctx).context)

/-- The generator computes what calls are evaluated to. -/
theorem Evaluates.run_eq {graph : Declarations} {call : Call} {ctx after : Context}
    {answer : call.Answer} (evaluates : Evaluates graph call ctx answer after) :
    run graph call ctx = (answer, after) := by
  induction evaluates with
  | type inner ih =>
      obtain ⟨answer, context⟩ := Prod.mk.inj ih
      rw [run, typeSchema]
      simp only [answer, context]
  | struct shape inner ih =>
      obtain ⟨answer, context⟩ := Prod.mk.inj ih
      rw [run, shapeSchema, shape]
      simp only [answer, context]
  | «alias» shape inner ih =>
      obtain ⟨answer, context⟩ := Prod.mk.inj ih
      rw [run, shapeSchema, shape]
      simp only [answer, context]
  | enumeration shape => rw [run, shapeSchema, shape]
  | unmappable shape => rw [run, shapeSchema, shape]
  | noField => rw [run, fieldProperties]
  | field contributes first later firstIh laterIh =>
      -- The later fields start at the context that the first one reached.
      obtain ⟨rfl, rfl⟩ := Prod.mk.inj firstIh
      rw [run, fieldProperties, if_pos contributes]
      exact laterIh
  | hiddenField hidden later ih =>
      rw [run, fieldProperties, if_neg (by simp [hidden])]
      exact ih
  | primitive => rw [run, contribution]
  | wellKnown known =>
      rw [run, contribution]
      simp only [known]
  | named unknown inner ih =>
      obtain ⟨answer, context⟩ := Prod.mk.inj ih
      rw [run, contribution]
      simp only [unknown, answer, context]
  | sequence inner ih =>
      obtain ⟨answer, context⟩ := Prod.mk.inj ih
      rw [run, contribution]
      simp only [answer, context]
  | mapping inner ih =>
      obtain ⟨answer, context⟩ := Prod.mk.inj ih
      rw [run, contribution]
      simp only [answer, context]
  | indirect inner ih =>
      rw [run, contribution]
      exact ih
  | any => rw [run, contribution]
  | unsupported => rw [run, contribution]
  | element inner ih =>
      obtain ⟨answer, context⟩ := Prod.mk.inj ih
      rw [run, elementSchema]
      simp only [answer, context]
  | missing missing => rw [run, namedUse_of_missing _ missing]
  | flattensItself found busy => rw [run, namedUse_of_active _ found busy, if_pos rfl]
  | cyclic found busy =>
      rw [run, namedUse_of_active _ found busy, if_neg (by simp)]
  | expand found fresh inner ih =>
      obtain ⟨answer, context⟩ := Prod.mk.inj ih
      obtain ⟨use, after⟩ := namedUse_of_fresh _ found fresh
      rw [run, use, after, answer, context]

end Generator

end SwaggerDocs
