import HalBridge.Proofs.ConverterCalls

/-!
# The layout of a body

The body of a converter function has one block for each merged field, in the order of the fields.
The blocks of a struct follow one another; those of a safe union are the cases of one switch.
-/

namespace HalBridge

namespace Target

/-! ### Loops -/

/-- The line that begins the loop over a container. -/
def loopHead (target : Target) (source : String) (fixed : Bool) : String :=
  match target with
  | .ndk | .cpp => "    for (size_t i = 0; i < size; i++) \x7b"
  | .java =>
      "    for (int i = 0; i < " ++ (if fixed then source ++ ".length" else source ++ ".size()")
        ++ "; i++) \x7b"

/-- The statement that adds a value to a container. -/
def storeElement (target : Target) (container value : String) : String :=
  match target with
  | .ndk | .cpp => container ++ ".push_back(" ++ value ++ ");"
  | .java => container ++ "[i] = " ++ value ++ ";"

/-- The lines before the loop over a container. -/
def beforeLoop (target : Target) (source : String) (fixed : Bool) (elementType : String)
    (sink : Sink) : List String :=
  match target with
  | .ndk | .cpp =>
      ["\x7b"]
        ++ sink.fresh.toList.map ("    std::vector<" ++ elementType ++ "> " ++ · ++ ";")
        ++ ["    size_t size = " ++ (if fixed then
              "sizeof(" ++ source ++ ")/sizeof(" ++ source ++ "[0])" else source ++ ".size()")
            ++ ";"]
  | .java =>
      ["if (" ++ source ++ " != null) \x7b",
       "    " ++ (sink.fresh.map (elementType ++ "[] " ++ ·)).getD sink.container
         ++ " = new " ++ elementType ++ "["
         ++ (if fixed then source ++ ".length" else source ++ ".size()") ++ "];"]

/-- The lines after the loop over a container. -/
def afterLoop (sink : Sink) : List String :=
  sink.finish.toList.map ("    " ++ ·) ++ ["\x7d"]

/-- In each round of a loop the element is prepared and then stored. -/
theorem loop_eq (target : Target) (source : String) (fixed : Bool) (elementType : String)
    (preparation : List String) (value : String) (sink : Sink) :
    target.loop source fixed elementType preparation value sink =
      target.beforeLoop source fixed elementType sink ++ target.loopHead source fixed ::
        (preparation ++ [target.storeElement sink.container value]).map ("        " ++ ·)
        ++ "    \x7d" :: afterLoop sink := by
  obtain ⟨container, fresh, finish⟩ := sink
  have hindent : ∀ store finish : String,
      "        " ++ container ++ store ++ value ++ finish =
        "        " ++ (container ++ store ++ value ++ finish) := by
    intro store finish
    rw [String.append_assoc, String.append_assoc, String.append_assoc, String.append_assoc,
      String.append_assoc]
  cases target with
  | ndk | cpp =>
      unfold loop beforeLoop loopHead storeElement afterLoop
      dsimp only
      rw [hindent]
      simp only [List.map_append, List.map_cons, List.map_nil, List.append_assoc,
        List.cons_append, List.nil_append]
  | java =>
      unfold loop beforeLoop loopHead storeElement afterLoop
      dsimp only
      rw [hindent]
      cases fresh <;>
        simp only [List.map_append, List.map_cons, List.map_nil, List.append_assoc,
          List.cons_append, List.nil_append, Option.map_none, Option.map_some, Option.getD_none,
          Option.getD_some]

end Target

theorem FieldBlock.placed_isInfix {block : FieldBlock} {blocks : List FieldBlock}
    (h : block ∈ blocks) (target : Target) (access : Access) (type : QualifiedName) :
    block.placed target access type <:+:
      ConverterFunction.bodyLines target type access blocks := by
  obtain ⟨front, back, rfl⟩ := List.append_of_mem h
  rw [ConverterFunction.bodyLines_eq]
  refine ⟨target.opening access type ++ front.flatMap (·.placed target access type),
    back.flatMap (·.placed target access type) ++ target.closing access, ?_⟩
  simp only [List.flatMap_append, List.flatMap_cons, List.append_assoc]

namespace Catalog

/-- How the fields of a compound of this style are reached. -/
def accessOf : CompoundStyle → Access
  | .safeUnion => .accessor
  | .struct | .union => .member

variable {catalog : Catalog} {target : Target} {converted : QualifiedName → Bool}
  {registry : Registry} {schema : MergedSchema} {function : ConverterFunction}

theorem converterFunction_of_blocks {blocks : List FieldBlock} (target : Target)
    (hstyle : schema.style ≠ .union)
    (h : schema.fields.mapM (catalog.fieldBlock converted registry) = .ok blocks) :
    catalog.converterFunction target converted registry schema =
      .ok { target, type := schema.name, access := accessOf schema.style,
            blocks := some blocks } := by
  unfold converterFunction
  cases hcase : schema.style with
  | union => exact absurd hcase hstyle
  | struct | safeUnion =>
      simp only [h]
      rfl

/-- A function that is no stub has a block for each merged field. -/
theorem blocks_of_converterFunction (hstyle : schema.style ≠ .union)
    (h : catalog.converterFunction target converted registry schema = .ok function) :
    ∃ blocks, schema.fields.mapM (catalog.fieldBlock converted registry) = .ok blocks ∧
      function = { target, type := schema.name, access := accessOf schema.style,
                   blocks := some blocks } := by
  obtain ⟨-, ⟨hunion, -⟩ | ⟨-, blocks, -, hblocks⟩⟩ := converterFunction_ok h
  · exact absurd hunion hstyle
  · rw [converterFunction_of_blocks target hstyle hblocks] at h
    exact ⟨blocks, hblocks, (Except.ok.inj h).symm⟩

end Catalog

end HalBridge
