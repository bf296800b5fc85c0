import HalBridge.Proofs.ConverterCalls
import HalBridge.Proofs.DefinitionTexts

/-!
# Members that are converted by calls

Definitions and converter functions treat a field by rules of their own. A function calls the
function of any type that is converted in the run, be it replaced or not. A definition spells any
type that is replaced as the registry says, be it converted or not, and it looks the type up by the
text of its name. So the member that a call fills has the type that the call gives, unless an entry
of the registry has the text of its name.
-/

namespace HalBridge

/-- The AIDL name of a type in the package of `owner`. -/
def QualifiedName.ownText (q owner : QualifiedName) : String :=
  if q.canonicalPackage = owner.canonicalPackage then q.canonicalTypeName else q.canonicalName

theorem QualifiedName.aidlText_of_unlisted {q owner : QualifiedName} {registry : Registry}
    (h : ∀ entry ∈ registry.entries, entry.1.toText ≠ q.toText) :
    q.aidlText owner registry.aidlNames = some (q.ownText owner) := by
  have hnone : registry.aidlNames.lookup q.toText = none := by
    rw [List.lookup_eq_none_iff]
    intro entry hentry
    obtain ⟨replaced, hreplaced, rfl⟩ := List.mem_map.mp hentry
    exact bne_iff_ne.mpr (h replaced hreplaced).symm
  unfold aidlText ownText
  rw [hnone]
  exact (apply_ite some _ _ _).symm

namespace Aidl

variable {catalog : Catalog} {registry : Registry} {owner q : QualifiedName} {notes after : Notes}

theorem members_ok {fields : List Field} {members : List Member} {shapes : List Shape}
    (h : Aidl.members catalog registry owner fields notes = .ok (members, shapes) after) :
    List.Forall₂ (fun field made => ∃ shape, catalog.shape field.type = .ok shape ∧
      made = member registry owner field shape) fields members := by
  induction fields generalizing notes after members shapes with
  | nil =>
      obtain ⟨hmade, -⟩ := Outcome.pure_ok_iff.mp h
      obtain ⟨rfl, -⟩ := Prod.mk.inj hmade
      exact .nil
  | cons field rest ih =>
      unfold Aidl.members at h
      cases hshape : catalog.shape field.type with
      | error fault =>
          rw [hshape] at h
          exact absurd h Outcome.throw_ne_ok
      | ok shape =>
          rw [hshape] at h
          obtain ⟨_, noted, -, h⟩ := Outcome.bind_ok_iff.mp h
          obtain ⟨⟨others, more⟩, last, hothers, h⟩ := Outcome.bind_ok_iff.mp h
          obtain ⟨hmade, -⟩ := Outcome.pure_ok_iff.mp h
          obtain ⟨rfl, -⟩ := Prod.mk.inj hmade
          exact .cons ⟨shape, hshape, rfl⟩ (ih hothers)

/-- The body of a compound that is no plain union. -/
def compoundBody (style : CompoundStyle) (members : List Member) : Aidl.Body :=
  match style with
  | .safeUnion => .union members
  | _ => .parcelable members

theorem compoundDefinition_ok {ref : Ref} {schema : MergedSchema}
    {outline definition : Definition} (hstyle : schema.style ≠ .union)
    (h : compoundDefinition catalog registry ref schema outline notes = .ok definition after) :
    ∃ members, definition.body = compoundBody schema.style members ∧
      List.Forall₂ (fun field made => ∃ shape, catalog.shape field.type = .ok shape ∧
        made = member registry ref.name field shape) schema.fields members := by
  unfold compoundDefinition at h
  cases hcase : schema.style with
  | union => exact absurd hcase hstyle
  | struct | safeUnion =>
      rw [hcase] at h
      obtain ⟨⟨members, shapes⟩, noted, hmembers, h⟩ := Outcome.bind_ok_iff.mp h
      obtain ⟨rfl, -⟩ := Outcome.pure_ok_iff.mp h
      exact ⟨members, rfl, members_ok hmembers⟩

theorem definition_compound {schema : MergedSchema} (hcompound : (catalog.compound? q).isSome) :
    ∃ outline, definition catalog registry (.declared q) (some schema) =
      compoundDefinition catalog registry (.declared q) schema outline := by
  obtain ⟨⟨style, fields⟩, hfound⟩ := Option.isSome_iff_exists.mp hcompound
  have hbody : (catalog.decl? (.declared q)).map Decl.body = some (.compound style fields) := by
    unfold Catalog.compound? at hfound
    split at hfound
    · rename_i hbody
      obtain ⟨rfl, rfl⟩ := Prod.mk.inj (Option.some.inj hfound)
      exact hbody
    · cases hfound
  unfold definition
  simp only [hbody]
  exact ⟨_, rfl⟩

theorem definition_ok {schema : MergedSchema} {definition : Definition}
    (hcompound : (catalog.compound? q).isSome) (hstyle : schema.style ≠ .union)
    (h : Aidl.definition catalog registry (.declared q) (some schema) notes =
      .ok definition after) :
    ∃ members, definition.body = compoundBody schema.style members ∧
      List.Forall₂ (fun field made => ∃ shape, catalog.shape field.type = .ok shape ∧
        made = member registry q field shape) schema.fields members := by
  obtain ⟨outline, houtline⟩ := definition_compound hcompound
  rw [houtline] at h
  exact compoundDefinition_ok hstyle h

end Aidl

namespace Conversion

/-- What the member of a field says about the type whose function is called for the field: its own
AIDL name, or what the registry has under the text of its name. -/
structure SpellsCallee (registry : Registry) (owner : QualifiedName) (block : FieldBlock)
    (member : Aidl.Member) : Prop where
  name : member.name = block.name
  own : ∀ type, block.plan = .call type →
    (∀ entry ∈ registry.entries, entry.1.toText ≠ type.toText) →
    member.type = type.ownText owner
  replaced : ∀ type canonical, block.plan = .call type →
    registry.aidlNames.lookup type.toText = some canonical →
    member.type = Text.orNone canonical

variable {registry : Registry} {conversion : Conversion} {t : Resolver} {owner : QualifiedName}

theorem spellsCallee {catalog : Catalog} {converted : QualifiedName → Bool} {field : Field}
    {block : FieldBlock} {member : Aidl.Member}
    (hblock : catalog.fieldBlock converted registry field = .ok block)
    (hmember : ∃ shape, catalog.shape field.type = .ok shape ∧
      member = Aidl.member registry owner field shape) :
    SpellsCallee registry owner block member := by
  obtain ⟨shape, hshape, rfl⟩ := hmember
  -- The definition spells the shape that the call was planned for.
  have htype : ∀ type, block.plan = .call type →
      (Aidl.member registry owner field shape).type =
        Text.orNone (type.aidlText owner registry.aidlNames) := by
    intro type hcall
    obtain ⟨-, ref, href, rfl, -⟩ := Catalog.shape_of_call hblock hcall
    obtain rfl := Except.ok.inj (hshape.symm.trans href)
    rfl
  refine ⟨?_, ?_, ?_⟩
  · unfold Catalog.fieldBlock at hblock
    cases hdescribe : catalog.describe field.type with
    | error fault =>
        rw [hdescribe] at hblock
        cases hblock
    | ok descriptor =>
        rw [hdescribe] at hblock
        obtain rfl := Except.ok.inj hblock
        rfl
  · intro type hcall hunlisted
    rw [htype type hcall, QualifiedName.aidlText_of_unlisted hunlisted]
    rfl
  · intro type canonical hcall hlisted
    rw [htype type hcall, QualifiedName.aidlText, hlisted]

theorem spellsCallee_all {catalog : Catalog} {converted : QualifiedName → Bool}
    {fields : List Field} {blocks : List FieldBlock} {members : List Aidl.Member}
    (hblocks : List.Forall₂ (fun field block =>
      catalog.fieldBlock converted registry field = .ok block) fields blocks)
    (hmembers : List.Forall₂ (fun field made => ∃ shape, catalog.shape field.type = .ok shape ∧
      made = Aidl.member registry owner field shape) fields members) :
    List.Forall₂ (SpellsCallee registry owner) blocks members := by
  induction hblocks generalizing members with
  | nil =>
      cases hmembers
      exact .nil
  | cons hblock _ ih =>
      cases hmembers with
      | cons hmember hrest => exact .cons (spellsCallee hblock hmember) (ih hrest)

/-- **Members of called types.** In a structure or safe union, a member whose field is converted by
a call has the AIDL name of the called type, unless a replaced type has the same text; then it is
spelled as the registry says. The file of the type has a line for each member. -/
theorem members_of_calls (repository : Repository) (hread : repository.Faithful)
    (request : String) (force : Bool) (registry : Registry) (conversion : Conversion)
    (t : Resolver) (h : run request force registry { repository } = .ok conversion t)
    (owner : QualifiedName) (schema : MergedSchema)
    (hschema : conversion.schemas.lookup owner = some schema) (hstyle : schema.style ≠ .union)
    (target : Target) :
    ∃ functions function blocks definition members,
      conversion.functions registry target = .ok functions ∧ function ∈ functions ∧
      function.type = owner ∧ function.blocks = some blocks ∧
      (∃ before after, Aidl.definition conversion.catalog registry (.declared owner) (some schema)
        before = .ok definition after) ∧
      ((∀ q ∈ conversion.types, Aidl.filePath q = Aidl.filePath owner → q = owner) →
        conversion.files.text? (Aidl.filePath owner) = some definition.text) ∧
      definition.Written definition.text ∧
      definition.body = Aidl.compoundBody schema.style members ∧
      List.Forall₂ (SpellsCallee registry owner) blocks members := by
  obtain ⟨hcompleted, -⟩ := run_completed hread h
  obtain ⟨functions, hfunctions, -⟩ := hcompleted.converterTexts target
  obtain ⟨fields, hcompound⟩ := (hcompleted.merged hschema).compound
  have hsome : (conversion.catalog.compound? owner).isSome := by
    rw [hcompound]
    rfl
  have howner := hcompleted.mem_types hschema
  obtain ⟨definition, before, after, hdefinition, hfile⟩ := hcompleted.definition howner
  rw [hschema] at hdefinition
  obtain ⟨members, hbody, hmembers⟩ := Aidl.definition_ok hsome hstyle hdefinition
  obtain ⟨function, hfunction, rfl⟩ := hcompleted.exists_function hfunctions howner hsome
  obtain ⟨merged, hmerged, hmade⟩ := hcompleted.schema_of_mem hfunctions hfunction
  obtain rfl := Option.some.inj (hschema.symm.trans hmerged)
  rcases (Catalog.converterFunction_ok hmade).2 with ⟨hunion, -⟩ | ⟨-, blocks, hblocks, hfields⟩
  · exact absurd hunion hstyle
  · refine ⟨functions, function, blocks, definition, members, hfunctions, hfunction, rfl, hblocks,
      ⟨before, after, hdefinition⟩, hfile, definition.written_text, hbody, ?_⟩
    exact spellsCallee_all (Outcome.forall₂_of_mapM hfields) hmembers

/-- A registry that replaces the structure of `linkedNodes`. -/
def replacedNode : Registry :=
  Registry.default.insert linkedNodes.node
    { legacy := some "p@1.0::Node", canonical := some "boolean" }
where
  file : String :=
    "// FIXME: license file, or use the -l option to generate the files with the header.\n\n"
      ++ "package p;\n\nparcelable Node \x7b\n    boolean next;\n\x7d\n"

/-- The function for the structure calls itself to fill a member of another type. -/
theorem members_of_calls_replacedNode :
    ∃ conversion t, run "p@1.0" false replacedNode { repository := linkedNodes } =
        .ok conversion t ∧
      ∃ functions function, ∃ definition : Aidl.Definition, ∃ member : Aidl.Member,
        conversion.functions replacedNode .ndk = .ok functions ∧ function ∈ functions ∧
        function.callees = [linkedNodes.node] ∧
        conversion.files.text? "p/Node.aidl" = some definition.text ∧
        definition.text = replacedNode.file ∧ definition.body = .parcelable [member] ∧
        member.type = "boolean" ∧
        linkedNodes.node.ownText function.type = "Node" := by
  have hfacts :
      Outcome.view (fun conversion _ => (
          decide (conversion.types = [linkedNodes.node, ⟨"p", ⟨1, 0⟩, some "Link", []⟩] ∧
            (conversion.schemas.lookup linkedNodes.node).map MergedSchema.style = some .struct ∧
            conversion.files.text? "p/Node.aidl" = some replacedNode.file),
          (conversion.functions replacedNode .ndk).toOption.map
            (·.map fun function => (function.blocks.getD []).map (·.plan.callee?))))
        (run "p@1.0" false replacedNode { repository := linkedNodes }) =
        some (true, some [[some linkedNodes.node]]) := by
    decide +kernel
  obtain ⟨conversion, t, hrun, hfacts⟩ := Outcome.of_view hfacts
  simp only [Prod.mk.injEq, decide_eq_true_eq] at hfacts
  obtain ⟨⟨htypes, hstyle, htext⟩, hplans⟩ := hfacts
  obtain ⟨schema, hschema, hstruct⟩ := Option.map_eq_some_iff.mp hstyle
  obtain ⟨functions, function, blocks, definition, members, hfunctions, hfunction, htype,
      hblocks, -, hfile, -, hbody, hspells⟩ :=
    members_of_calls linkedNodes (Repository.faithful_of_read_eq_nil rfl) "p@1.0" false
      replacedNode conversion t hrun linkedNodes.node schema hschema
      (by rw [hstruct]; decide) .ndk
  have hpath : Aidl.filePath linkedNodes.node = "p/Node.aidl" := by
    decide +kernel
  have hown : ∀ q ∈ conversion.types, Aidl.filePath q =
      Aidl.filePath linkedNodes.node → q = linkedNodes.node := by
    rw [htypes]
    decide +kernel
  have hcalls : blocks.map (·.plan.callee?) = [some linkedNodes.node] := by
    rw [hfunctions] at hplans
    have hall : ∀ plans ∈ functions.map fun function =>
        (function.blocks.getD []).map (·.plan.callee?), plans = [some linkedNodes.node] := by
      rw [show functions.map _ = _ from Option.some.inj hplans]
      exact fun _ => List.mem_singleton.mp
    have hplan := hall _ (List.mem_map_of_mem hfunction)
    rwa [hblocks] at hplan
  obtain ⟨block, rest, rfl, hcallee, hrest⟩ := List.map_eq_cons_iff.mp hcalls
  obtain rfl := List.map_eq_nil_iff.mp hrest
  cases hspells with
  | @cons _ member _ _ hspell hnil =>
      cases hnil
      rw [hstruct] at hbody
      refine ⟨conversion, t, hrun, functions, function, definition, member, hfunctions,
        hfunction, ?_, hpath ▸ hfile hown, ?_, hbody, ?_, ?_⟩
      · simp [ConverterFunction.callees, hblocks, hcallee]
      · exact Option.some.inj ((hpath ▸ hfile hown).symm.trans htext)
      · exact hspell.replaced _ (some "boolean") (FieldPlan.callee_eq_some_iff.mp hcallee)
          (by decide +kernel)
      · rw [htype]
        decide +kernel

end Conversion

end HalBridge
