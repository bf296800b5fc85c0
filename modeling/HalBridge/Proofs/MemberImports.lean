import HalBridge.Proofs.FieldCoverage
import HalBridge.Proofs.MemberTypes
import HalBridge.Proofs.PlainTypes
import HalBridge.Proofs.RegistryKeys
import HalBridge.Proofs.SampleDocuments
import HalBridge.Proofs.TextLines
import HalBridge.Proofs.WrittenReferences

/-!
# Members and the imports they need

A member is spelled after the base of its plain type, with a pair of brackets for each container
around it, and the imports of a definition are what the spellings of its members need. Spellings
find a replaced type by its text and imports find it by its name. In a resolved model whose types
have identifiers for names the two agree, also for types that no file declares.
-/

namespace HalBridge

namespace Ty

/-- What is left of a type without the vectors and arrays around it. -/
def base : Ty → Ty
  | .vec element => element.base
  | .array element _ => element.base
  | type => type

/-- The number of vectors and arrays around the base of a type. -/
def levels : Ty → Nat
  | .vec element => element.levels + 1
  | .array element _ => element.levels + 1
  | _ => 0

end Ty

namespace Aidl

/-- The brackets behind the spelling of a base, one pair for each level. -/
def brackets (levels : Nat) : String :=
  String.join (List.replicate levels "[]")

theorem brackets_succ (levels : Nat) : brackets (levels + 1) = brackets levels ++ "[]" := by
  rw [brackets, List.replicate_succ', String.join_append, String.join_cons, String.join_nil,
    String.append_empty, brackets]

/-- How a type that is no container is spelled in a definition of the package of `owner`. -/
inductive Spelled (registry : Registry) (owner : QualifiedName) : Ty → String → Prop
  | scalar (scalar : HalBridge.Scalar) : Spelled registry owner (.scalar scalar) scalar.aidlText
  | string : Spelled registry owner .string "String"
  | handle : Spelled registry owner (.special .handle) "NativeHandle"
  | inexpressible {special : Special} (h : special ≠ .handle) :
      Spelled registry owner (.special special) ("/* FIXME: " ++ special.toText ++ " */ Object")
  | registered {ref : Ref} {entry : Replacement} (h : registry.lookup ref.name = some entry) :
      Spelled registry owner (.named ref) (Text.orNone entry.canonical)
  | own {ref : Ref} (h : registry.lookup ref.name = none)
      (hpackage : ref.name.canonicalPackage = owner.canonicalPackage) :
      Spelled registry owner (.named ref) ref.name.canonicalTypeName
  | foreign {ref : Ref} (h : registry.lookup ref.name = none)
      (hpackage : ref.name.canonicalPackage ≠ owner.canonicalPackage) :
      Spelled registry owner (.named ref) ref.name.canonicalName

/-- The import that such a spelling needs in the package of `owner`. -/
inductive Needs (registry : Registry) (owner : QualifiedName) : Ty → String → Prop
  | handle : Needs registry owner (.special .handle) "android.hardware.common.NativeHandle"
  | registered {ref : Ref} {entry : Replacement} {name : String}
      (h : registry.lookup ref.name = some entry) (himport : entry.importName = some name)
      (hname : name ≠ "") : Needs registry owner (.named ref) name
  | foreign {ref : Ref} (h : registry.lookup ref.name = none)
      (hpackage : ref.name.canonicalPackage ≠ owner.canonicalPackage) :
      Needs registry owner (.named ref) ref.name.canonicalName

variable {registry : Registry} {owner q : QualifiedName} {shape : Shape} {name : String}

/-! ### One shape -/

theorem import_named_iff {ref : Ref} :
    (Shape.named ref).import? owner registry = some name ↔
      Needs registry owner (.named ref) name := by
  cases hlookup : registry.lookup ref.name with
  | none =>
      simp only [Shape.import?, Shape.base, hlookup]
      split
      · rename_i hpackage
        refine ⟨fun h => absurd h (by simp), ?_⟩
        rintro (_ | ⟨h, -, -⟩ | ⟨-, hother⟩)
        · rw [hlookup] at h
          cases h
        · exact absurd hpackage hother
      · rename_i hpackage
        constructor
        · intro h
          obtain rfl := Option.some.inj h
          exact .foreign hlookup hpackage
        · rintro (_ | ⟨h, -, -⟩ | ⟨-, -⟩)
          · rw [hlookup] at h
            cases h
          · rfl
  | some entry =>
      simp only [Shape.import?, Shape.base, hlookup]
      rw [Option.filter_eq_some_iff]
      constructor
      · rintro ⟨himport, hname⟩
        exact .registered hlookup himport (by simpa using hname)
      · rintro (_ | ⟨h, himport, hname⟩ | ⟨h, -⟩)
        · obtain rfl := Option.some.inj (hlookup.symm.trans h)
          exact ⟨himport, by simpa using hname⟩
        · rw [hlookup] at h
          cases h

/-- A shape is imported as the base of its type needs it. -/
theorem import_eq_some_iff :
    shape.import? owner registry = some name ↔ Needs registry owner shape.type.base name := by
  induction shape with
  | scalar | string =>
      refine ⟨fun h => ?_, fun h => ?_⟩
      · cases h
      · cases h
  | vec _ _ ih => exact ih
  | array _ _ _ ih => exact ih
  | named ref => exact import_named_iff
  | special special =>
      by_cases hhandle : special = .handle
      · subst hhandle
        constructor
        · intro h
          obtain rfl := Option.some.inj h
          exact .handle
        · intro h
          cases h
          rfl
      · constructor
        · intro h
          cases special <;> first | exact absurd rfl hhandle | cases h
        · intro h
          cases h
          exact absurd rfl hhandle

theorem spelled_named {ref : Ref} (hregistry : registry.WellKeyed) (href : ref.name.Undivided) :
    Spelled registry owner (.named ref)
      (Text.orNone (ref.name.aidlText owner registry.aidlNames)) := by
  rw [QualifiedName.aidlText, hregistry.lookup_aidlNames href]
  cases hlookup : registry.lookup ref.name with
  | some entry => exact .registered hlookup
  | none =>
      dsimp only [Option.map_none]
      split
      · rename_i hpackage
        exact .own hlookup hpackage
      · rename_i hpackage
        exact .foreign hlookup hpackage

/-- A shape is spelled as its base with brackets. -/
theorem spelled_shape (hregistry : registry.WellKeyed) (owner : QualifiedName) (shape : Shape)
    (hbase : ∀ ref, shape.type.base = .named ref → ref.name.Undivided) :
    ∃ text, Spelled registry owner shape.type.base text ∧
      Text.orNone (shape.aidlText owner registry.aidlNames) =
        text ++ brackets shape.type.levels := by
  induction shape with
  | scalar scalar => exact ⟨_, .scalar scalar, (String.append_empty).symm⟩
  | string => exact ⟨_, .string, (String.append_empty).symm⟩
  | named ref => exact ⟨_, spelled_named hregistry (hbase ref rfl), (String.append_empty).symm⟩
  | special special =>
      by_cases hhandle : special = .handle
      · subst hhandle
        exact ⟨_, .handle, (String.append_empty).symm⟩
      · refine ⟨_, .inexpressible hhandle, ?_⟩
        cases special <;> first | exact absurd rfl hhandle | exact (String.append_empty).symm
  | vec element label ih | array element size label ih =>
      obtain ⟨text, hspelled, htext⟩ := ih hbase
      refine ⟨text, hspelled, ?_⟩
      change Text.orNone (element.aidlText owner registry.aidlNames) ++ "[]" =
        text ++ brackets (element.type.levels + 1)
      rw [htext, brackets_succ, String.append_assoc]

/-! ### All members of a definition -/

variable {catalog : Catalog} {fields : List Field} {shapes : List Shape}

/-- If all fields have shapes then there are members, and one note at most for each. -/
theorem members_of_shapes
    (h : List.Forall₂ (fun field shape => catalog.shape field.type = .ok shape) fields shapes)
    (notes : Notes) :
    members catalog registry owner fields notes =
      .ok (List.zipWith (member registry owner) fields shapes, shapes)
        (notes.extend ((List.zipWith (shapeNote? owner) fields shapes).flatMap Option.toList)) := by
  induction h generalizing notes with
  | nil => rfl
  | @cons field shape fields shapes hshape _ ih =>
      unfold members
      rw [hshape]
      dsimp only
      rw [Outcome.modify_bind, Outcome.bind_of_ok (ih _), List.zipWith_cons_cons,
        List.zipWith_cons_cons, List.flatMap_cons, Notes.extend_append]
      rfl

end Aidl

namespace Text

theorem nodup_eraseDups (texts : List String) : texts.eraseDups.Nodup := by
  induction hlength : texts.length using Nat.strong_induction_on generalizing texts with
  | _ length ih =>
      cases texts with
      | nil => exact .nil
      | cons first rest =>
          rw [List.eraseDups_cons, List.nodup_cons, List.mem_eraseDups]
          refine ⟨by simp, ih _ ?_ _ rfl⟩
          have hle := List.length_filter_le (fun text => !text == first) rest
          rw [List.length_cons] at hlength
          omega

theorem mem_sortedDistinct {texts : List String} {text : String} :
    text ∈ sortedDistinct texts ↔ text ∈ texts := by
  rw [sortedDistinct, (List.mergeSort_perm _ _).mem_iff, List.mem_eraseDups]

theorem pairwise_sortedDistinct (texts : List String) :
    (sortedDistinct texts).Pairwise (· < ·) := by
  have hsorted : (sortedDistinct texts).Pairwise fun a b => precedes a b := by
    refine List.pairwise_mergeSort ?_ ?_ _
    · intro a b c hab hbc
      simp only [precedes, Bool.not_eq_true', decide_eq_false_iff_not, String.not_lt] at *
      exact String.le_trans hab hbc
    · intro a b
      simp only [precedes, Bool.or_eq_true, Bool.not_eq_true', decide_eq_false_iff_not,
        String.not_lt]
      exact String.le_total a b
  have hnodup : (sortedDistinct texts).Nodup :=
    (List.mergeSort_perm _ _).nodup_iff.mpr (nodup_eraseDups texts)
  refine (hsorted.and hnodup).imp ?_
  rintro a b ⟨hab, hne⟩
  simp only [precedes, Bool.not_eq_true', decide_eq_false_iff_not] at hab
  by_contra hlt
  exact hne (String.le_antisymm (String.not_lt.mp hab) (String.not_lt.mp hlt))

theorem sortedDistinct_eq {texts sorted : List String} (hsorted : sorted.Pairwise (· < ·))
    (hmem : ∀ text, text ∈ sorted ↔ text ∈ texts) : sortedDistinct texts = sorted := by
  have hfound := pairwise_sortedDistinct texts
  have hnodup : ∀ {list : List String}, list.Pairwise (· < ·) → list.Nodup :=
    fun hlist => hlist.imp String.ne_of_lt
  have hperm : (sortedDistinct texts).Perm sorted := by
    rw [List.perm_ext_iff_of_nodup (hnodup hfound) (hnodup hsorted)]
    intro text
    rw [mem_sortedDistinct, hmem]
  refine List.Perm.eq_of_pairwise ?_ hfound hsorted hperm
  exact fun a b _ _ hab hba => absurd hba (String.lt_asymm hab)

end Text

namespace Aidl

variable {catalog : Catalog} {registry : Registry} {q : QualifiedName} {schema : MergedSchema}

/-- The definition of a struct or safe union whose fields have these shapes. -/
theorem definition_of_shapes {shapes : List Shape} (hcompound : (catalog.compound? q).isSome)
    (hstyle : schema.style ≠ .union)
    (h : List.Forall₂ (fun field shape => catalog.shape field.type = .ok shape)
      schema.fields shapes) (notes : Notes) :
    ∃ made after,
      definition catalog registry (.declared q) (some schema) notes = .ok made after ∧
      made.imports = imports q registry shapes ∧
      made.body =
        compoundBody schema.style (List.zipWith (member registry q) schema.fields shapes) := by
  obtain ⟨outline, houtline⟩ := definition_compound hcompound
  rw [houtline]
  unfold compoundDefinition
  cases hcase : schema.style with
  | union => exact absurd hcase hstyle
  | struct | safeUnion =>
      dsimp only
      exact ⟨_, _, Outcome.bind_of_ok (members_of_shapes h notes), rfl, rfl⟩

theorem shapes_of_definition {made : Definition} {notes after : Notes}
    (hcompound : (catalog.compound? q).isSome) (hstyle : schema.style ≠ .union)
    (h : definition catalog registry (.declared q) (some schema) notes = .ok made after) :
    ∀ field ∈ schema.fields, ∃ shape, catalog.shape field.type = .ok shape := by
  intro field hfield
  obtain ⟨members, -, hpairs⟩ := definition_ok hcompound hstyle h
  obtain ⟨member, -, shape, hshape, -⟩ := Outcome.exists_of_forall₂ hpairs hfield
  exact ⟨shape, hshape⟩

end Aidl

namespace Catalog

variable {catalog : Catalog} {registry : Registry} {owner q : QualifiedName}
  {schema : MergedSchema}

/-- How the definition of a merged type spells its members, and what it imports. -/
structure DefinesMembers (catalog : Catalog) (registry : Registry) (owner : QualifiedName)
    (schema : MergedSchema) (made : Aidl.Definition) : Prop where
  sorted : made.imports.Pairwise (· < ·)
  imports : ∀ name, name ∈ made.imports ↔ ∃ field ∈ schema.fields, ∃ plain,
    catalog.UnfoldsTo field.type plain ∧ Aidl.Needs registry owner plain.base name
  members : ∃ members, made.body = Aidl.compoundBody schema.style members ∧
    List.Forall₂ (fun field member => member.name = Text.orNone field.name ∧
      ∃ plain text, catalog.UnfoldsTo field.type plain ∧
        Aidl.Spelled registry owner plain.base text ∧
        member.type = text ++ Aidl.brackets plain.levels) schema.fields members

theorem mem_imports_iff {fields : List Field} {shapes : List Shape} {name : String}
    (h : fields.mapM (fun field => catalog.shape field.type) = .ok shapes) :
    name ∈ imports owner registry shapes ↔ ∃ field ∈ fields, ∃ plain,
      catalog.UnfoldsTo field.type plain ∧ Aidl.Needs registry owner plain.base name := by
  rw [HalBridge.imports, Text.mem_sortedDistinct, List.mem_filterMap]
  constructor
  · rintro ⟨shape, hshape, himport⟩
    obtain ⟨field, hfield, hmade⟩ := Outcome.mem_of_mapM h hshape
    exact ⟨field, hfield, shape.type, unfoldsTo_of_shape hmade, Aidl.import_eq_some_iff.mp himport⟩
  · rintro ⟨field, hfield, plain, hplain, hneeds⟩
    obtain ⟨shape, hshape, hmade⟩ := Outcome.mapM_mem h hfield
    refine ⟨shape, hshape, Aidl.import_eq_some_iff.mpr ?_⟩
    rwa [hplain.unique (unfoldsTo_of_shape hmade)]

theorem spelled_members {fields : List Field} {shapes : List Shape}
    (hregistry : registry.WellKeyed)
    (h : List.Forall₂ (fun field shape => catalog.shape field.type = .ok shape) fields shapes)
    (hnames : ∀ field ∈ fields, ∀ plain ref, catalog.UnfoldsTo field.type plain →
      plain.base = .named ref → ref.name.Undivided) :
    List.Forall₂ (fun field member => member.name = Text.orNone field.name ∧
      ∃ plain text, catalog.UnfoldsTo field.type plain ∧
        Aidl.Spelled registry owner plain.base text ∧
        member.type = text ++ Aidl.brackets plain.levels) fields
      (List.zipWith (Aidl.member registry owner) fields shapes) := by
  induction h with
  | nil => exact .nil
  | @cons field shape fields shapes hshape _ ih =>
      have hplain := unfoldsTo_of_shape hshape
      obtain ⟨text, hspelled, htext⟩ := Aidl.spelled_shape hregistry owner shape
        fun ref hbase => hnames field List.mem_cons_self shape.type ref hplain hbase
      refine .cons ⟨rfl, shape.type, text, hplain, hspelled, htext⟩ (ih ?_)
      exact fun other hother => hnames other (List.mem_cons_of_mem _ hother)

/-- A struct or safe union has a definition if its fields unfold, and what the definition says
follows the plain types of the fields. -/
theorem definesMembers (hregistry : registry.WellKeyed) (hcompound : (catalog.compound? q).isSome)
    (hstyle : schema.style ≠ .union)
    (hnames : ∀ field ∈ schema.fields, ∀ plain ref, catalog.UnfoldsTo field.type plain →
      plain.base = .named ref → ref.name.Undivided)
    (hfields : ∀ field ∈ schema.fields, ∃ plain, catalog.UnfoldsTo field.type plain)
    (notes : Notes) :
    ∃ made after,
      Aidl.definition catalog registry (.declared q) (some schema) notes = .ok made after ∧
      catalog.DefinesMembers registry q schema made := by
  have hshapes : ∃ shapes,
      schema.fields.mapM (fun field => catalog.shape field.type) = .ok shapes := by
    refine Outcome.mapM_ok fun field hfield => ?_
    obtain ⟨plain, hplain⟩ := hfields field hfield
    obtain ⟨shape, hshape, -⟩ := hplain.exists_shape
    exact ⟨shape, hshape⟩
  obtain ⟨shapes, hshapes⟩ := hshapes
  have hpairs := Outcome.forall₂_of_mapM hshapes
  obtain ⟨made, after, hmade, himports, hbody⟩ :=
    Aidl.definition_of_shapes hcompound hstyle hpairs notes
  refine ⟨made, after, hmade, ?_, ?_, _, hbody, spelled_members hregistry hpairs hnames⟩
  · rw [himports]
    exact Text.pairwise_sortedDistinct _
  · intro name
    rw [himports]
    exact mem_imports_iff hshapes

/-- What holds of the types that a type and the typedefs name holds of the base of what the type
unfolds to. -/
theorem UnfoldsTo.base_ref {type plain : Ty} {P : Ref → Prop}
    (h : catalog.UnfoldsTo type plain) (htype : ∀ ref, type.ref? = some ref → P ref)
    (haliased : ∀ q aliased ref, catalog.aliased? q = some aliased → aliased.ref? = some ref →
      P ref) : ∀ ref, plain.base = .named ref → P ref := by
  induction h with
  | scalar | string | special =>
      intro ref hbase
      cases hbase
  | vec _ ih => exact ih htype
  | array _ ih => exact ih htype
  | named _ =>
      intro ref hbase
      obtain rfl := Ty.named.inj hbase
      exact htype _ rfl
  | typedef hq _ ih => exact ih fun ref href => haliased _ _ ref hq href

end Catalog

/-! ### Names in a resolved model -/

theorem QualifiedName.mem_of_mem_names_ofPath {package : String} {version : Version}
    {path : List String} {segment : String}
    (h : segment ∈ (ofPath package version path).names) : segment ∈ path := by
  simp only [names, ofPath] at h
  split at h
  · cases h
  · rename_i hname
    cases hlast : path.getLast? with
    | none =>
        rw [hlast] at hname
        exact absurd rfl hname
    | some last =>
        rw [hlast, Option.getD_some] at h
        rcases List.mem_append.mp h with hfront | hsegment
        · exact List.dropLast_subset _ hfront
        · rw [List.mem_singleton.mp hsegment]
          exact List.mem_of_getLast? hlast

namespace Resolver

open QualifiedName.Token

variable {s : Resolver} {decl : Decl} {ref : Ref}

theorem exists_reference_of_describes {catalog : Catalog} {definition : Document.TypeDef}
    {type : Ty} (h : Describes catalog decl definition) (htype : type ∈ decl.body.types)
    (href : type.ref? = some ref) : ∃ text, refersTo? catalog decl text = some ref := by
  have hfound : ∀ {written : Document.TypeRef}, Denotes (refersTo? catalog decl) written type →
      ∃ text, refersTo? catalog decl text = some ref := by
    intro written hdenotes
    obtain ⟨text, -, htext⟩ := hdenotes.exists_reference href
    exact ⟨text, htext⟩
  unfold Describes at h
  cases hbody : decl.body with
  | compound style fields =>
      simp only [hbody] at h htype
      obtain ⟨definitions, -, hfields⟩ := h
      obtain ⟨field, hfield, rfl⟩ := List.mem_map.mp htype
      obtain ⟨written, -, reference, -, hdenotes⟩ := Outcome.mem_of_forall₂ hfields hfield
      exact hfound hdenotes
  | enum storage values =>
      simp only [hbody] at h htype
      obtain ⟨reference, -, hdenotes⟩ := h
      obtain rfl := List.mem_singleton.mp htype
      exact hfound hdenotes
  | typedef aliased =>
      simp only [hbody] at h htype
      obtain ⟨reference, -, hdenotes⟩ := h
      obtain rfl := List.mem_singleton.mp htype
      exact hfound hdenotes
  | interface =>
      rw [hbody] at htype
      cases htype

/-- If declared types have undivided names then so has whatever is referred to: a name with an at
sign is read, and any other is cut at its dots. -/
theorem undivided_of_refersTo {catalog : Catalog} {text : String}
    (hnames : ∀ q ∈ catalog.names, q.Undivided)
    (h : refersTo? catalog decl text = some ref) : ref.name.Undivided := by
  obtain ⟨q, hmeant, rfl⟩ := Option.map_eq_some_iff.mp h
  rw [name_ref]
  unfold meant? at hmeant
  split at hmeant
  · exact (QualifiedName.regular_of_parse hmeant).undivided
  · rename_i hat
    cases hfound : findRelative? catalog decl (Text.split '.' text) with
    | some found =>
        rw [hfound, Option.getD_some, Option.some.injEq] at hmeant
        rw [← hmeant]
        exact hnames found (Catalog.contains_iff.mp (contains_of_findRelative hfound))
    | none =>
        rw [hfound, Option.getD_none, Option.some.injEq] at hmeant
        rw [← hmeant]
        intro segment hsegment
        have hmem := QualifiedName.mem_of_mem_names_ofPath hsegment
        refine ⟨fun hdot => (Text.mem_split hmem hdot).2 rfl, fun hsign => hat ?_⟩
        exact List.contains_iff_mem.mpr (Text.mem_split hmem hsign).1

/-- In a resolved model whose declared types have identifiers for names, no type is named by
divided segments. -/
theorem Idle.undivided {type : Ty} (hs : s.Idle)
    (hnames : ∀ q ∈ s.catalog.names, ∀ segment ∈ q.names, isName segment)
    (hdecl : decl ∈ s.catalog.decls) (htype : type ∈ decl.body.types)
    (href : type.ref? = some ref) : ref.name.Undivided := by
  have hname : decl.name ∈ s.catalog.names := List.mem_map_of_mem hdecl
  obtain ⟨found, entry, hfind, -, -, hdescribes⟩ := hs.finished decl.name hname
  rw [Catalog.find_of_mem hs.consistent.named hdecl] at hfind
  obtain rfl := Option.some.inj hfind
  obtain ⟨text, htext⟩ := exists_reference_of_describes hdescribes htype href
  exact undivided_of_refersTo (fun q hq => QualifiedName.undivided_of_isName (hnames q hq)) htext

/-- **Imports match members.** In a resolved model whose types have identifiers for names, a merged
struct or safe union has a definition if its fields unfold. The definition then imports, in strict
order, exactly what the bases of its fields need, and spells each member as its base with a pair of
brackets for each container. -/
theorem imports_match_members (repository : Repository) (hread : repository.Faithful)
    (calls : List Call) (s : Resolver) (h : performAll calls { repository } = .ok () s)
    (hnames : ∀ q ∈ s.catalog.names, ∀ segment ∈ q.names, isName segment)
    (q : QualifiedName) (notes after : Notes) (schema : MergedSchema)
    (hmerge : s.catalog.merge q notes = .ok (schema, after)) (hstyle : schema.style ≠ .union)
    (registry : Registry) (hregistry : registry.Made) (sink : Notes) :
    ((∃ made left, Aidl.definition s.catalog registry (.declared q) (some schema) sink =
        .ok made left) ↔
      ∀ field ∈ schema.fields, ∃ plain, s.catalog.UnfoldsTo field.type plain) ∧
    ∀ made left,
      Aidl.definition s.catalog registry (.declared q) (some schema) sink = .ok made left →
      s.catalog.DefinesMembers registry q schema made := by
  obtain ⟨hidle, -⟩ := performAll_ok (idle_fresh hread) h
  have hmerges := Catalog.mergesTo_of_merge hmerge
  obtain ⟨declared, hcompound⟩ := hmerges.compound
  have hcompound : (s.catalog.compound? q).isSome := by rw [hcompound]; rfl
  have hundivided : ∀ field ∈ schema.fields, ∀ plain ref,
      s.catalog.UnfoldsTo field.type plain → plain.base = .named ref → ref.name.Undivided := by
    intro field hfield plain ref hplain
    refine hplain.base_ref (P := fun ref => ref.name.Undivided) ?_ ?_ ref
    · intro ref href
      obtain ⟨decl, hdecl, htype⟩ := hmerges.mem_types hfield
      exact hidle.undivided hnames hdecl htype href
    · intro r aliased ref haliased href
      obtain ⟨decl, hdecl, htype⟩ := Catalog.mem_types_of_aliased haliased
      exact hidle.undivided hnames hdecl htype href
  have hdefines := Catalog.definesMembers hregistry.wellKeyed hcompound hstyle hundivided
  have hunfolds : ∀ made left,
      Aidl.definition s.catalog registry (.declared q) (some schema) sink = .ok made left →
      ∀ field ∈ schema.fields, ∃ plain, s.catalog.UnfoldsTo field.type plain := by
    intro made left hmade field hfield
    obtain ⟨shape, hshape⟩ := Aidl.shapes_of_definition hcompound hstyle hmade field hfield
    exact ⟨shape.type, Catalog.unfoldsTo_of_shape hshape⟩
  refine ⟨⟨?_, ?_⟩, ?_⟩
  · rintro ⟨made, left, hmade⟩
    exact hunfolds made left hmade
  · intro hfields
    obtain ⟨made, left, hmade, -⟩ := hdefines hfields sink
    exact ⟨made, left, hmade⟩
  · intro made left hmade
    obtain ⟨again, rest, hagain, hmembers⟩ := hdefines (hunfolds made left hmade) sink
    rw [hmade] at hagain
    obtain ⟨rfl, -⟩ := EStateM.Result.ok.inj hagain
    exact hmembers

/-- A struct with a vector of a type of another package, a type of its own package, a registered
type and a handle. -/
def boundPacket : Repository :=
  Sample.repository [Sample.release "p" "1.0"
    [Sample.struct "Packet" [
      ("links", Sample.vec (Sample.named "q@2.0::Link")),
      ("next", Sample.named "Packet"),
      ("none", Sample.named "android.hidl.safe_union@1.0::Monostate"),
      ("lock", Sample.plain "handle")]]]

namespace boundPacket

def packet : QualifiedName :=
  ⟨"p", ⟨1, 0⟩, some "Packet", []⟩

/-- What is seen of the struct and of its definition, with the imports in the order of the fields
that need them. -/
structure Summary where
  named : Bool
  style : CompoundStyle
  needed : List String
  members : List String
deriving DecidableEq

def memberTypes : Aidl.Body → List String
  | .parcelable members => members.map Aidl.Member.type
  | _ => []

def summary? (s : Resolver) : Option Summary := do
  let (schema, _) ← (s.catalog.merge packet {}).toOption
  let shapes ← (schema.fields.mapM fun field => s.catalog.shape field.type).toOption
  Outcome.view (fun made _ =>
      { named := s.catalog.names.all fun q => q.names.all isName, style := schema.style
        needed := shapes.filterMap (Shape.import? packet .default)
        members := memberTypes made.body })
    (Aidl.definition s.catalog .default (.declared packet) (some schema) {})

theorem view_loaded :
    Outcome.view (fun _ s => summary? s)
      (performAll [.release ⟨"p", ⟨1, 0⟩, some "", []⟩] { repository := boundPacket }) =
    some (some
      { named := true, style := .struct
        needed := ["q2.Link", "android.hardware.common.NativeHandle"]
        members := ["q2.Link[]", "Packet", "boolean", "NativeHandle"] }) := by
  decide +kernel

end boundPacket

theorem imports_match_members_boundPacket :
    ∃ s schema after made left,
      performAll [.release ⟨"p", ⟨1, 0⟩, some "", []⟩] { repository := boundPacket } = .ok () s ∧
      (∀ q ∈ s.catalog.names, ∀ segment ∈ q.names, isName segment) ∧
      s.catalog.merge boundPacket.packet {} = .ok (schema, after) ∧ schema.style ≠ .union ∧
      Aidl.definition s.catalog .default (.declared boundPacket.packet) (some schema) {} =
        .ok made left ∧
      s.catalog.DefinesMembers .default boundPacket.packet schema made ∧
      made.imports = ["android.hardware.common.NativeHandle", "q2.Link"] ∧
      boundPacket.memberTypes made.body = ["q2.Link[]", "Packet", "boolean", "NativeHandle"] := by
  obtain ⟨_, s, hrun, hseen⟩ := Outcome.of_view boundPacket.view_loaded
  obtain ⟨⟨schema, after⟩, hmerge, hseen⟩ := Option.bind_eq_some_iff.mp hseen
  obtain ⟨shapes, hshapes, hseen⟩ := Option.bind_eq_some_iff.mp hseen
  obtain ⟨made, left, hmade, hseen⟩ := Outcome.of_view hseen
  obtain ⟨hnamed, hstyle, hneeded, hmembers⟩ := boundPacket.Summary.mk.inj hseen
  have hnames : ∀ q ∈ s.catalog.names, ∀ segment ∈ q.names, isName segment := by
    intro q hq
    exact List.all_eq_true.mp (List.all_eq_true.mp hnamed q hq)
  have hmerge := ok_of_toOption hmerge
  have hnounion : schema.style ≠ .union := by rw [hstyle]; decide
  have hmatch := imports_match_members boundPacket (Repository.faithful_of_read_eq_nil rfl) _ s hrun
    hnames _ _ _ schema hmerge hnounion .default Registry.made_default {}
  have himports : made.imports = ["android.hardware.common.NativeHandle", "q2.Link"] := by
    obtain ⟨declared, hcompound⟩ := (Catalog.mergesTo_of_merge hmerge).compound
    obtain ⟨again, rest, hagain, himports, -⟩ := Aidl.definition_of_shapes
      (by rw [hcompound]; rfl) hnounion (Outcome.forall₂_of_mapM (ok_of_toOption hshapes)) {}
    rw [hmade] at hagain
    obtain ⟨rfl, -⟩ := EStateM.Result.ok.inj hagain
    rw [himports, imports, hneeded]
    exact Text.sortedDistinct_eq (by decide) (by simp [or_comm])
  exact ⟨s, schema, after, made, left, hrun, hnames, hmerge, hnounion, hmade,
    hmatch.2 made left hmade, himports, hmembers⟩

end Resolver

end HalBridge
