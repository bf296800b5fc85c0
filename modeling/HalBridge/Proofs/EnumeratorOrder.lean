import HalBridge.Proofs.ChainWalks
import HalBridge.Proofs.DefinitionFiles
import HalBridge.Proofs.DefinitionTexts
import HalBridge.Proofs.SampleDocuments
import HalBridge.Proofs.SourceTexts

/-!
# The order of enumerators

An enum has the values of the enum that it extends, and after them its own. The values of a chain of
enums therefore start with those of the last enum on it, the root, and every enum gives its values
once, even if the chain comes back to one of them. The definition of an enum and the checks in the
converter sources list the values in this one order.
-/

namespace HalBridge

namespace Catalog

variable {catalog : Catalog} {q : QualifiedName} {passed : List QualifiedName}

/-! ### The values of a chain -/

theorem isEnum_of_parentEnum {parent : QualifiedName} (h : catalog.parentEnum? q = some parent) :
    catalog.isEnum parent := by
  obtain ⟨storage, -, hstorage⟩ := Option.bind_eq_some_iff.mp h
  exact (enumOf_eq_some_iff.mp hstorage).2

theorem subset_names_of_passes (h : Chain.Passes catalog.parentEnum? q passed)
    (hq : catalog.isEnum q) : passed ⊆ catalog.names := by
  induction h with
  | last =>
      obtain ⟨storage, hstorage⟩ := Option.isSome_iff_exists.mp hq
      exact List.cons_subset.mpr ⟨mem_names_of_storage hstorage, List.nil_subset _⟩
  | step hparent _ ih =>
      obtain ⟨storage, hstorage⟩ := Option.isSome_iff_exists.mp hq
      exact List.cons_subset.mpr
        ⟨mem_names_of_storage hstorage, ih (isEnum_of_parentEnum hparent)⟩

/-- The values of a chain that ends, the farthest enum first. -/
theorem valuesFromRoot_of_passes (h : Chain.Passes catalog.parentEnum? q passed)
    (hq : catalog.isEnum q) :
    catalog.valuesFromRoot q = passed.reverse.flatMap catalog.ownValues := by
  rw [valuesFromRoot, enumChain, follow_of_passes h (subset_names_of_passes h hq)]

theorem passes_of_not_endless (hq : catalog.isEnum q)
    (h : ¬catalog.enums.Endless (.named (.declared q))) :
    ∃ passed, Chain.Passes catalog.parentEnum? q passed := by
  cases hrepeated : (catalog.enums.walk q).repeated with
  | some again => exact absurd (Links.endless_of_repeated (member_enums hq) hrepeated).1 h
  | none => exact ⟨_, Chain.passes_of_follow hrepeated⟩

/-- The values of an enum come after those of the enum that it extends. -/
theorem valuesFromRoot_eq (hq : catalog.isEnum q)
    (h : ¬catalog.enums.Endless (.named (.declared q))) :
    catalog.valuesFromRoot q =
      (catalog.parentEnum? q).elim [] catalog.valuesFromRoot ++ catalog.ownValues q := by
  obtain ⟨passed, hpasses⟩ := passes_of_not_endless hq h
  rw [valuesFromRoot_of_passes hpasses hq]
  cases hpasses with
  | last hroot =>
      rw [hroot, List.reverse_singleton, List.flatMap_singleton]
      rfl
  | @step _ parent tail hparent hrest =>
      rw [hparent, Option.elim_some, List.reverse_cons, List.flatMap_append,
        List.flatMap_singleton, valuesFromRoot_of_passes hrest (isEnum_of_parentEnum hparent)]

/-- Whether the chain of an enum ends or not, each enum on it gives its values once, and those
reached later come first. -/
theorem valuesFromRoot_once (hq : catalog.isEnum q) :
    ∃ chain : List QualifiedName, chain.Nodup ∧
      (∀ member, member ∈ chain ↔
        ∃ n, catalog.enums.memberAfter (.named (.declared q)) n = some member) ∧
      (∀ n < chain.length,
        chain.reverse[n]? = catalog.enums.memberAfter (.named (.declared q)) n) ∧
      catalog.valuesFromRoot q = chain.flatMap catalog.ownValues := by
  have htraces : Chain.Traces (catalog.enums.memberAfter (.named (.declared q)))
      (catalog.enumChain q) := Links.traces_walk (member_enums hq)
  refine ⟨(catalog.enumChain q).path.reverse, List.nodup_reverse.mpr htraces.nodup, ?_, ?_, rfl⟩
  · intro member
    rw [List.mem_reverse, htraces.mem_iff (catalog.enums.memberAfter_succ _)]
  · intro n hn
    rw [List.length_reverse] at hn
    rw [List.reverse_reverse, htraces.passed n hn]

/-! ### What is written for an enum -/

theorem body_of_storage {storage : Ty} (h : catalog.storage? q = some storage) :
    ∃ values, (catalog.find? q).map Decl.body = some (.enum storage values) := by
  unfold storage? at h
  split at h
  · rename_i found values hbody
    obtain rfl := Option.some.inj h
    exact ⟨values, hbody⟩
  · cases h

/-- The names of the values of these enums, in their order. -/
def valueNames (catalog : Catalog) (enums : List QualifiedName) : List String :=
  (enums.flatMap catalog.ownValues).map fun value => Text.orNone value.name

theorem valueNames_of_passes (h : Chain.Passes catalog.parentEnum? q passed)
    (hq : catalog.isEnum q) :
    (catalog.valuesFromRoot q).map (fun value => Text.orNone value.name) =
      catalog.valueNames passed.reverse := by
  rw [valuesFromRoot_of_passes h hq, valueNames]

/-- The checks of an enum stand together, with one check for each value. -/
theorem enumAsserts_append (target : Target) (front back : List Ref)
    (h : Chain.Passes catalog.parentEnum? q passed) (hq : catalog.isEnum q) :
    catalog.enumAsserts target (front ++ .declared q :: back) =
      catalog.enumAsserts target front ++
        (catalog.valueNames passed.reverse).map (target.enumAssert q) ++
        catalog.enumAsserts target back := by
  have hown : catalog.enumAsserts target [.declared q] =
      (catalog.valueNames passed.reverse).map (target.enumAssert q) := by
    have henum : catalog.enumOf? (.named (.declared q)) = some q :=
      enumOf_eq_some_iff.mpr ⟨rfl, hq⟩
    rw [enumAsserts, List.flatMap_singleton, henum, if_pos Option.isSome_some,
      ← valueNames_of_passes h hq, List.map_map]
    rfl
  calc catalog.enumAsserts target (front ++ .declared q :: back)
      = catalog.enumAsserts target front ++
          (catalog.enumAsserts target [.declared q] ++ catalog.enumAsserts target back) := by
        rw [enumAsserts, List.flatMap_append, ← List.singleton_append, List.flatMap_append]
        rfl
    _ = _ := by rw [hown, List.append_assoc]

/-- The values that are checked for these types, each with its type. -/
def checkedValues (catalog : Catalog) (types : List Ref) : List (QualifiedName × String) :=
  types.flatMap fun ref =>
    if (catalog.enumOf? (.named ref)).isSome then
      (catalog.valuesFromRoot ref.name).map fun value => (ref.name, Text.orNone value.name)
    else []

theorem enumAsserts_eq_map (target : Target) (types : List Ref) :
    catalog.enumAsserts target types =
      (catalog.checkedValues types).map fun check => target.valueCheck check.1 check.2 := by
  rw [enumAsserts, checkedValues, List.map_flatMap]
  refine List.flatMap_congr fun ref _ => ?_
  simp only [apply_ite (List.map _), List.map_map, List.map_nil, Function.comp_def,
    Target.enumAssert_eq_valueCheck]

theorem mem_of_checkedValues {types : List Ref} {check : QualifiedName × String}
    (h : check ∈ catalog.checkedValues types) : ∃ ref ∈ types, check.1 = ref.name := by
  obtain ⟨ref, href, hcheck⟩ := List.mem_flatMap.mp h
  refine ⟨ref, href, ?_⟩
  split at hcheck
  · obtain ⟨value, -, rfl⟩ := List.mem_map.mp hcheck
    rfl
  · exact absurd hcheck List.not_mem_nil

end Catalog

/-- The definition of an enum has all its values as enumerators. -/
theorem Aidl.definition_of_enum {catalog : Catalog} {registry : Registry} {q : QualifiedName}
    {schema : Option MergedSchema} {definition : Definition} {notes after : Notes}
    (hq : catalog.isEnum q)
    (h : Aidl.definition catalog registry (.declared q) schema notes = .ok definition after) :
    ∃ backing, definition.body = .enum backing ((catalog.valuesFromRoot q).map enumerator) := by
  obtain ⟨storage, hstorage⟩ := Option.isSome_iff_exists.mp hq
  obtain ⟨values, hbody⟩ := Catalog.body_of_storage hstorage
  unfold Aidl.definition at h
  simp only [Catalog.decl?, Ref.name, hbody] at h
  cases hscalar : catalog.enumScalar q with
  | error chain =>
      rw [hscalar] at h
      exact absurd h Outcome.throw_ne_ok
  | ok scalar =>
      rw [hscalar] at h
      obtain ⟨rfl, -⟩ := Outcome.pure_ok_iff.mp h
      exact ⟨scalar.aidlText, rfl⟩

namespace Conversion

variable {registry : Registry} {conversion : Conversion} {t : Resolver} {q : QualifiedName}
  {passed : List QualifiedName}

/-- The source checks the values of `q` in one place, by these names and in this order; around them
it checks those of other types. Each check is a line of the source. -/
def ChecksValues (conversion : Conversion) (target : Target) (source : String)
    (q : QualifiedName) (names : List String) : Prop :=
  ∃ header front back functions, Ref.declared q ∉ front ++ back ∧
    source = Converter.cppText header
      (conversion.catalog.enumAsserts target front ++ names.map (target.enumAssert q) ++
        conversion.catalog.enumAsserts target back) functions ∧
    ∃ before after : List (QualifiedName × String), (∀ check ∈ before ++ after, check.1 ≠ q) ∧
      Converter.DefinesCpp source
        ((before ++ names.map (Prod.mk q) ++ after).map fun check =>
          target.valueCheck check.1 check.2) functions

theorem Completed.mem_convertible (h : Completed registry conversion t)
    (hq : q ∈ conversion.types) (henum : conversion.catalog.isEnum q) :
    ∃ front back, Catalog.byPackage conversion.convertible = front ++ .declared q :: back ∧
      Ref.declared q ∉ front ++ back ∧ ∀ ref ∈ front ++ back, ref.name ≠ q := by
  have hmem : Ref.declared q ∈ Catalog.byPackage conversion.convertible := by
    rw [(Catalog.byPackage_perm _).mem_iff]
    refine List.mem_map_of_mem (List.mem_filter.mpr ⟨hq, ?_⟩)
    rw [Catalog.isConvertible, henum, Bool.or_true]
  have hnodup : (Catalog.byPackage conversion.convertible).Nodup := by
    refine (Catalog.byPackage_perm _).nodup_iff.mpr ((h.distinct.filter _).map ?_)
    intro p r hsame
    exact Ref.declared.inj hsame
  obtain ⟨front, back, hsplit⟩ := List.append_of_mem hmem
  rw [hsplit] at hnodup
  have hother := (List.nodup_cons.mp (List.nodup_middle.mp hnodup)).1
  refine ⟨front, back, hsplit, hother, ?_⟩
  rintro ref href rfl
  -- The types of a run are declared, so a type with the name of `q` is `q`.
  have hdeclared : ref ∈ Catalog.byPackage conversion.convertible := by
    rw [hsplit]
    rcases List.mem_append.mp href with href | href
    · exact List.mem_append_left _ href
    · exact List.mem_append_right _ (List.mem_cons_of_mem _ href)
  obtain ⟨r, -, rfl⟩ := List.mem_map.mp ((Catalog.byPackage_perm _).mem_iff.mp hdeclared)
  exact hother href

/-- The sources with checks have those of an enum in the order of its values. -/
theorem Completed.checksValues (h : Completed registry conversion t) (hq : q ∈ conversion.types)
    (henum : conversion.catalog.isEnum q)
    (hpasses : Chain.Passes conversion.catalog.parentEnum? q passed) {target : Target}
    (htarget : target ∈ [Target.ndk, Target.cpp]) :
    ∃ source, conversion.files.text? (target.sourceFile conversion.name) = some source ∧
      conversion.ChecksValues target source q
        (conversion.catalog.valueNames passed.reverse) := by
  obtain ⟨functions, -, htexts⟩ := h.converterTexts target
  obtain ⟨front, back, hsplit, hother, hnames⟩ := h.mem_convertible hq henum
  obtain ⟨header, hheader⟩ : ∃ header, target.headerFile? conversion.name = some header := by
    rcases List.mem_pair.mp htarget with rfl | rfl
    · exact ⟨_, rfl⟩
    · exact ⟨_, rfl⟩
  unfold Catalog.converterTexts at htexts
  simp only [hheader, List.forall_mem_cons] at htexts
  rw [hsplit, Catalog.enumAsserts_append target front back hpasses henum] at htexts
  refine ⟨_, htexts.2.1, header, front, back, functions, hother, rfl,
    conversion.catalog.checkedValues front, conversion.catalog.checkedValues back, ?_, ?_⟩
  · intro check hcheck
    rw [Catalog.checkedValues, Catalog.checkedValues, ← List.flatMap_append] at hcheck
    obtain ⟨ref, href, hname⟩ := Catalog.mem_of_checkedValues hcheck
    rw [hname]
    exact hnames ref href
  · rw [List.map_append, List.map_append, List.map_map, ← Catalog.enumAsserts_eq_map,
      ← Catalog.enumAsserts_eq_map]
    exact Converter.definesCpp_cppText header _ functions

/-- The chains of enums end in a run. -/
theorem Completed.passes (h : Completed registry conversion t)
    (henum : conversion.catalog.isEnum q) :
    ∃ passed, Chain.Passes conversion.catalog.parentEnum? q passed := by
  obtain ⟨storage, hstorage⟩ := Option.isSome_iff_exists.mp henum
  rw [h.catalog] at hstorage ⊢
  have hends := (h.idle.chains q (Catalog.mem_names_of_storage hstorage)).enum storage hstorage
  obtain ⟨passed, -, hpasses, -⟩ := Catalog.passes_of_endsInScalar hends hstorage
  exact ⟨passed, hpasses⟩

/-- The definition that is written for an enum has its values in their order, and it is what the
file has unless a later type is written to the same file. -/
theorem Completed.enumerators (h : Completed registry conversion t)
    {front back : List QualifiedName} (htypes : conversion.types = front ++ q :: back)
    (henum : conversion.catalog.isEnum q)
    (hpasses : Chain.Passes conversion.catalog.parentEnum? q passed) :
    ∃ definition backing enumerators,
      (∃ before after, Aidl.definition conversion.catalog registry (.declared q)
        (conversion.schemas.lookup q) before = .ok definition after) ∧
      definition.body = .enum backing enumerators ∧
      enumerators.map Aidl.Enumerator.name = conversion.catalog.valueNames passed.reverse ∧
      ((∀ r ∈ back, Aidl.filePath r ≠ Aidl.filePath q) →
        conversion.files.text? (Aidl.filePath q) = some definition.text) := by
  obtain ⟨definition, before, after, hdefinition, hfile⟩ :
      ∃ definition before after,
        Aidl.definition conversion.catalog registry (.declared q) (conversion.schemas.lookup q)
          before = .ok definition after ∧
        ((∀ r ∈ back, Aidl.filePath r ≠ Aidl.filePath q) →
          conversion.files.text? (Aidl.filePath q) = some definition.text) := by
    by_cases hlast : ∀ r ∈ back, Aidl.filePath r ≠ Aidl.filePath q
    · obtain ⟨definition, before, after, hdefinition, hfile⟩ :=
        h.definition_of_last htypes hlast
      exact ⟨definition, before, after, hdefinition, fun _ => hfile⟩
    · have hq : q ∈ conversion.types := by
        rw [htypes]
        exact List.mem_append_right _ List.mem_cons_self
      obtain ⟨definition, before, after, hdefinition, -⟩ := h.definition hq
      exact ⟨definition, before, after, hdefinition, fun hnone => absurd hnone hlast⟩
  obtain ⟨backing, hbody⟩ := Aidl.definition_of_enum henum hdefinition
  refine ⟨definition, backing, _, ⟨before, after, hdefinition⟩, hbody, ?_, hfile⟩
  rw [List.map_map, ← Catalog.valueNames_of_passes hpasses henum]
  rfl

/-- **Enumerators come root first, each enum once.** The values of an enum whose chain ends are
those of the enum that it extends, followed by its own; on a chain that does not end every enum
gives its values once. In a run, the definition of each enum and the checks in both sources name
the values of its chain from the root on, wherever the enums of the chain are declared. The
definition has a line for each value, and it is what the file of the enum has unless a later type of
the run has the same file. -/
theorem enumerators_root_first (catalog : Catalog) (enum : QualifiedName)
    (repository : Repository) (request : String) (force : Bool) (registry : Registry) :
    (catalog.isEnum enum →
      Chain.Followed catalog.enums.next? [] enum (catalog.enumChain enum) ∧
      (¬catalog.enums.Endless (.named (.declared enum)) →
        catalog.valuesFromRoot enum =
          (catalog.parentEnum? enum).elim [] catalog.valuesFromRoot ++ catalog.ownValues enum) ∧
      ∃ chain : List QualifiedName, chain.Nodup ∧
        (∀ member, member ∈ chain ↔
          ∃ n, catalog.enums.memberAfter (.named (.declared enum)) n = some member) ∧
        (∀ n < chain.length,
          chain.reverse[n]? = catalog.enums.memberAfter (.named (.declared enum)) n) ∧
        catalog.valuesFromRoot enum = chain.flatMap catalog.ownValues) ∧
    (repository.Faithful → ∀ conversion t,
      run request force registry { repository } = .ok conversion t →
      ∀ front q back, conversion.types = front ++ q :: back → conversion.catalog.isEnum q →
      ∃ passed definition backing enumerators,
        Chain.Passes conversion.catalog.parentEnum? q passed ∧
        (∃ before after, Aidl.definition conversion.catalog registry (.declared q)
          (conversion.schemas.lookup q) before = .ok definition after) ∧
        definition.body = .enum backing enumerators ∧
        enumerators.map Aidl.Enumerator.name = conversion.catalog.valueNames passed.reverse ∧
        definition.Written definition.text ∧
        ((∀ r ∈ back, Aidl.filePath r ≠ Aidl.filePath q) →
          conversion.files.text? (Aidl.filePath q) = some definition.text) ∧
        ∀ target ∈ [Target.ndk, Target.cpp], ∃ source,
          conversion.files.text? (target.sourceFile conversion.name) = some source ∧
          conversion.ChecksValues target source q
            (conversion.catalog.valueNames passed.reverse)) := by
  refine ⟨?_, ?_⟩
  · intro henum
    exact ⟨catalog.enums.followed_walk enum, Catalog.valuesFromRoot_eq henum,
      Catalog.valuesFromRoot_once henum⟩
  · intro hread conversion t hrun front q back htypes henum
    obtain ⟨hcompleted, -⟩ := run_completed hread hrun
    have hq : q ∈ conversion.types := by
      rw [htypes]
      exact List.mem_append_right _ List.mem_cons_self
    obtain ⟨passed, hpasses⟩ := hcompleted.passes henum
    obtain ⟨definition, backing, enumerators, hdefinition, hbody, hnames, hfile⟩ :=
      hcompleted.enumerators htypes henum hpasses
    refine ⟨passed, definition, backing, enumerators, hpasses, hdefinition, hbody, hnames,
      definition.written_text, hfile, ?_⟩
    intro target htarget
    exact hcompleted.checksValues hq henum hpasses htarget

/-- An enum that extends its older version, which extends an enum of another package. -/
def extendedLevels : Repository :=
  Sample.repository [
    Sample.release "q" "1.0" [Sample.enum "Base" (Sample.scalar "uint8") ["OFF"]],
    Sample.release "p" "1.0" [Sample.enum "Level" (Sample.named "q@1.0::Base") ["LOW", "HIGH"]],
    Sample.release "p" "1.1" [Sample.enum "Level" (Sample.named "p@1.0::Level") ["FULL"]]]
where
  level : QualifiedName := ⟨"p", ⟨1, 1⟩, some "Level", []⟩
  older : QualifiedName := ⟨"p", ⟨1, 0⟩, some "Level", []⟩
  file : String :=
    "// FIXME: license file, or use the -l option to generate the files with the header.\n\n"
      ++ "package p;\n\n@Backing(type=\"byte\")\nenum Level \x7b\n"
      ++ "    OFF,\n    LOW,\n    HIGH,\n    FULL,\n\x7d\n"

/-- Its file and the sources have the values of all three enums. -/
theorem enumerators_root_first_extendedLevels :
    ∃ conversion t,
      run "p@1.1" false .default { repository := extendedLevels } = .ok conversion t ∧
      conversion.types = [extendedLevels.level] ∧
      conversion.files.text? (Aidl.filePath extendedLevels.level) = some extendedLevels.file ∧
      (∃ definition : Aidl.Definition, ∃ backing enumerators,
        conversion.files.text? (Aidl.filePath extendedLevels.level) = some definition.text ∧
        definition.Written definition.text ∧
        definition.body = .enum backing enumerators ∧
        enumerators.map Aidl.Enumerator.name = ["OFF", "LOW", "HIGH", "FULL"]) ∧
      (∃ source, conversion.files.text? (Target.ndk.sourceFile conversion.name) = some source ∧
        conversion.ChecksValues .ndk source extendedLevels.level
          ["OFF", "LOW", "HIGH", "FULL"]) ∧
      conversion.catalog.valuesFromRoot extendedLevels.level =
        conversion.catalog.valuesFromRoot extendedLevels.older ++
          conversion.catalog.ownValues extendedLevels.level := by
  have hfound :
      Outcome.view (fun conversion _ => (conversion.types,
          decide (conversion.catalog.isEnum extendedLevels.level ∧
            conversion.files.text? (Aidl.filePath extendedLevels.level) =
              some extendedLevels.file),
          conversion.catalog.parentEnum? extendedLevels.level,
          (conversion.catalog.enumChain extendedLevels.level).repeated,
          conversion.catalog.valueNames
            (conversion.catalog.enumChain extendedLevels.level).path.reverse))
        (run "p@1.1" false .default { repository := extendedLevels }) =
        some ([extendedLevels.level], true, some extendedLevels.older, none,
          ["OFF", "LOW", "HIGH", "FULL"]) := by
    decide +kernel
  obtain ⟨conversion, t, hrun, hview⟩ := Outcome.of_view hfound
  simp only [Prod.mk.injEq, decide_eq_true_eq] at hview
  obtain ⟨htypes, ⟨henum, htext⟩, hparent, hend, hvalues⟩ := hview
  obtain ⟨hchain, hfiles⟩ := enumerators_root_first conversion.catalog extendedLevels.level
    extendedLevels "p@1.1" false .default
  obtain ⟨passed, definition, backing, enumerators, hpasses, -, hbody, hnames, hwritten, hfile,
      hchecks⟩ :=
    hfiles (Repository.faithful_of_read_eq_nil rfl) conversion t hrun [] extendedLevels.level []
      htypes henum
  have hpassed : passed = (conversion.catalog.enumChain extendedLevels.level).path :=
    hpasses.unique (Chain.passes_of_follow hend)
  rw [hpassed, hvalues] at hnames hchecks
  refine ⟨conversion, t, hrun, htypes, htext,
    ⟨definition, backing, enumerators, ?_, hwritten, hbody, hnames⟩,
    hchecks .ndk List.mem_cons_self, ?_⟩
  · exact hfile fun _ hr => absurd hr List.not_mem_nil
  · obtain ⟨final, -, hends⟩ :=
      Links.endsAt_of_not_repeated (Catalog.member_enums henum) hend
    rw [(hchain henum).2.1 hends.not_endless, hparent, Option.elim_some]

end Conversion

end HalBridge
