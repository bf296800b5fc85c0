import HalBridge.Proofs.ResolverWellFormed
import HalBridge.Proofs.SampleDocuments
import HalBridge.Proofs.UnionDispatch

/-!
# Access paths

A merged field is read from a value of the newest version by its access path. The path spells a
chain of version references, from the merged type to the version that declares the field: the walk
carries it along as a text, and no type is on it twice, since the walk enters no type twice.
-/

namespace HalBridge

open Merge

namespace Catalog

/-- Version references lead from `q` to `last`: `links` are the fields that embed the next version,
and `types` the types on the way, with both ends. -/
inductive VersionChain (catalog : Catalog) :
    QualifiedName → List QualifiedName → List Field → QualifiedName → Prop where
  | here {q} : VersionChain catalog q [q] [] q
  | embed {q link next types links last} :
      link ∈ catalog.fieldsOf q →
      catalog.versionTarget? q link = some next →
      VersionChain catalog next types links last →
      VersionChain catalog q (q :: types) (link :: links) last

/-- The path that leads along `links`, with a point behind each of them. -/
def linkPath (links : List Field) : String :=
  String.join (links.map fun link => Text.orNone link.name ++ ".")

/-- The field `field` of the merged type `q` is declared at the end of a chain of versions, and its
access path spells that chain. A link without a name is written `None`. -/
def Located (catalog : Catalog) (q : QualifiedName) (field : Field) : Prop :=
  ∃ types links last declared,
    catalog.VersionChain q types links last ∧ types.Nodup ∧
      declared ∈ catalog.fieldsOf last ∧ catalog.versionTarget? last declared = none ∧
      field.name = declared.name ∧ field.type = declared.type ∧
      field.comment = declared.comment ∧ field.owner = last ∧ field.origin = last.version ∧
      field.access =
        some (String.intercalate "." ((links ++ [field]).map fun link => Text.orNone link.name))

variable {catalog : Catalog} {q : QualifiedName}

theorem linkPath_cons (link : Field) (links : List Field) :
    linkPath (link :: links) = Text.orNone link.name ++ "." ++ linkPath links := by
  simp [linkPath]

/-- The points behind the links are those between the parts of a path. -/
theorem linkPath_append (links : List Field) (field : Field) :
    linkPath links ++ Text.orNone field.name =
      String.intercalate "." ((links ++ [field]).map fun link => Text.orNone link.name) := by
  induction links with
  | nil => simp [linkPath]
  | cons link rest ih =>
      have hrest : ((rest ++ [field]).map fun link => Text.orNone link.name) ≠ [] := by simp
      rw [linkPath_cons, List.cons_append, List.map_cons, String.intercalate_cons_of_ne_nil hrest,
        ← ih, String.append_assoc]

/-! ### The walk -/

/-- Whatever is met while fields of `q` are walked, which `path` reaches, is declared at the end of
a chain from `q` on. The types of the chain after `q` are entered by this part of the walk. -/
theorem Expands.met_through {seen seen' : List QualifiedName} {path : String}
    {fields : List Field} {steps : List Step}
    (h : catalog.Expands seen q path fields seen' steps)
    (hfields : ∀ field ∈ fields, field ∈ catalog.fieldsOf q) {met : Field}
    (hmet : met ∈ steps.filterMap Step.field?) :
    ∃ types links last declared,
      catalog.VersionChain q (q :: types) links last ∧ types.Nodup ∧ (∀ t ∈ types, t ∉ seen) ∧
        declared ∈ catalog.fieldsOf last ∧ catalog.versionTarget? last declared = none ∧
        met = { declared with access := declared.name.map (path ++ linkPath links ++ ·) } := by
  induction h with
  | done => cases hmet
  | @plain seen q path field rest seen' steps hplain _ ih =>
      rw [List.filterMap_cons] at hmet
      rcases List.mem_cons.mp hmet with rfl | hmet
      · refine ⟨[], [], q, field, .here, List.nodup_nil, ?_, hfields field List.mem_cons_self,
          hplain, ?_⟩
        · exact fun _ ht => absurd ht List.not_mem_nil
        · simp [linkPath]
      · exact ih (List.forall_mem_of_forall_mem_cons hfields) hmet
  | back _ _ _ ih => exact ih (List.forall_mem_of_forall_mem_cons hfields) hmet
  | @descend seen q path field rest target seen' seen'' inner outer htarget hnew hinner _ ihin
      ihout =>
      rw [List.filterMap_append] at hmet
      rcases List.mem_append.mp hmet with hmet | hmet
      · -- The chain inside the embedded version is one link longer from `q`.
        obtain ⟨types, links, last, declared, hchain, hnodup, hfresh, hdeclared, hplain, rfl⟩ :=
          ihin (fun _ hfield => hfield) hmet
        refine ⟨target :: types, field :: links, last, declared,
          .embed (hfields field List.mem_cons_self) htarget hchain, ?_, ?_, hdeclared, hplain, ?_⟩
        · refine List.nodup_cons.mpr ⟨?_, hnodup⟩
          exact fun hagain => hfresh target hagain (List.mem_append_right _ List.mem_cons_self)
        · intro t ht
          rcases List.mem_cons.mp ht with rfl | ht
          · exact hnew
          · exact fun hseen => hfresh t ht (List.mem_append_left _ hseen)
        · simp [linkPath_cons, String.append_assoc]
      · obtain ⟨types, links, last, declared, hchain, hnodup, hfresh, hrest⟩ :=
          ihout (List.forall_mem_of_forall_mem_cons hfields) hmet
        refine ⟨types, links, last, declared, hchain, hnodup, ?_, hrest⟩
        exact fun t ht hseen => hfresh t ht (hinner.mem_of_mem (List.mem_append_left _ hseen))

/-! ### Merged fields -/

/-- Every field says which type declares it, and in which version. -/
def OwnsFields (catalog : Catalog) : Prop :=
  ∀ t, ∀ field ∈ catalog.fieldsOf t, field.owner = t ∧ field.origin = t.version

theorem MergesTo.located {schema : MergedSchema} {field : Field} (h : catalog.MergesTo q schema)
    (howned : catalog.OwnsFields) (hnamed : field.name ≠ none)
    (hfield : field ∈ schema.fields) : catalog.Located q field := by
  obtain ⟨types, links, last, declared, hchain, hnodup, hfresh, hdeclared, hplain, rfl⟩ :=
    h.walk_expands.met_through (fun _ hfield => hfield) (h.mem_walk hfield)
  obtain ⟨howner, horigin⟩ := howned last declared hdeclared
  obtain ⟨name, hname⟩ := Option.ne_none_iff_exists'.mp hnamed
  have hstart : q ∉ types := fun hagain => hfresh q hagain List.mem_cons_self
  refine ⟨q :: types, links, last, declared, hchain, List.nodup_cons.mpr ⟨hstart, hnodup⟩,
    hdeclared, hplain, rfl, rfl, rfl, howner, horigin, ?_⟩
  have hname' : declared.name = some name := hname
  rw [← linkPath_append]
  simp [hname', Text.orNone]

end Catalog

namespace Resolver

open Catalog

variable {repository : Repository} {s : Resolver}

theorem WellFormed.ownsFields (h : s.WellFormed repository) : s.catalog.OwnsFields := by
  intro t field hfield
  obtain ⟨⟨style, fields⟩, hcompound⟩ :=
    Option.isSome_iff_exists.mp (compound_of_mem_fieldsOf hfield)
  rw [fieldsOf, hcompound] at hfield
  unfold compound? at hcompound
  cases hfind : s.catalog.find? t with
  | none => simp [hfind] at hcompound
  | some decl =>
      have hbody : decl.body = .compound style fields := by
        rw [hfind] at hcompound
        cases hbody : decl.body <;> simp_all
      obtain ⟨howner, horigin, -⟩ :=
        h.fields decl (mem_of_find hfind) style fields hbody field hfield
      rw [name_of_find hfind] at howner horigin
      exact ⟨howner, horigin⟩

/-- **Access paths.** In a resolved model, every field of a merged type is located by its access
path: the path spells the names along a chain of version references that passes no type twice, and
the name, the type, the comment, the owner and the version of the field are those of one declaration
at its end. Merging fails only for a field without a name. -/
theorem merged_fields_located (repository : Repository) (hread : repository.Faithful)
    (calls : List Call) (s : Resolver) (h : performAll calls { repository } = .ok () s)
    (q : QualifiedName) (hq : (s.catalog.compound? q).isSome) (notes : Notes) :
    (∃ schema after, s.catalog.merge q notes = .ok (schema, after) ∧
      ∀ field ∈ schema.fields, s.catalog.Located q field) ∨
    ∃ t, s.catalog.Reaches q t ∧ ∃ field ∈ s.catalog.plainFields t, field.name = none := by
  obtain ⟨hidle, hcontinues⟩ := performAll_ok (idle_fresh hread) h
  have howned := (hidle.wellFormed hcontinues.repository).ownsFields
  by_cases hnameless : ∃ field ∈ (s.catalog.walk q).fields, field.name = none
  · exact Or.inr ((exists_met_iff hq none).mp hnameless)
  · have hnamed : ∀ field ∈ (s.catalog.walk q).fields, field.name ≠ none :=
      fun field hfield hnone => hnameless ⟨field, hfield, hnone⟩
    obtain ⟨schema, after, hmerge, hmerges⟩ := merge_eq_ok hq notes hnamed
    refine Or.inl ⟨schema, after, hmerge, fun field hfield => ?_⟩
    exact hmerges.located howned (hnamed field (hmerges.mem_walk hfield)) hfield

/-- Three versions of a struct, each of which embeds the one before. Version 1.1 declares a field of
1.0 again. -/
def embeddedVersions : Repository :=
  Sample.repository [
    Sample.release "p" "1.0"
      [Sample.struct "S" [("a", Sample.plain "string"), ("x", Sample.plain "string")]],
    Sample.release "p" "1.1"
      [Sample.struct "S" [("v1_0", Sample.named "p@1.0::S"), ("x", Sample.plain "string")]],
    Sample.release "p" "1.2"
      [Sample.struct "S" [("v1_1", Sample.named "p@1.1::S"), ("b", Sample.plain "string")]]]

theorem located_embeddedVersions :
    ∃ s schema after,
      performAll [.release ⟨"p", ⟨1, 2⟩, some "", []⟩] { repository := embeddedVersions } =
        .ok () s ∧
      (s.catalog.compound? ⟨"p", ⟨1, 2⟩, some "S", []⟩).isSome ∧
      s.catalog.merge ⟨"p", ⟨1, 2⟩, some "S", []⟩ {} = .ok (schema, after) ∧
      schema.fields.map Field.access = [some "v1_1.v1_0.a", some "v1_1.x", some "b"] ∧
      ∀ field ∈ schema.fields, s.catalog.Located ⟨"p", ⟨1, 2⟩, some "S", []⟩ field := by
  have hfound :
      Outcome.view (fun _ (s : Resolver) =>
          ((s.catalog.compound? ⟨"p", ⟨1, 2⟩, some "S", []⟩).isSome,
            (s.catalog.merge ⟨"p", ⟨1, 2⟩, some "S", []⟩ {}).toOption.map fun merged =>
              merged.1.fields.map Field.access,
            decide (∀ t ∈ (s.catalog.walk ⟨"p", ⟨1, 2⟩, some "S", []⟩).entered,
              ∀ field ∈ s.catalog.plainFields t, field.name ≠ none)))
        (performAll [.release ⟨"p", ⟨1, 2⟩, some "", []⟩] { repository := embeddedVersions }) =
        some (true, some [some "v1_1.v1_0.a", some "v1_1.x", some "b"], true) := by
    decide +kernel
  obtain ⟨_, s, hrun, hfound⟩ := Outcome.of_view hfound
  simp only [Prod.mk.injEq, decide_eq_true_eq] at hfound
  obtain ⟨hq, haccess, hnamed⟩ := hfound
  rcases merged_fields_located embeddedVersions (Repository.faithful_of_read_eq_nil rfl) _ s hrun
    ⟨"p", ⟨1, 2⟩, some "S", []⟩ hq {} with
    ⟨schema, after, hmerge, hlocated⟩ | ⟨t, hreach, field, hfield, hnone⟩
  · rw [hmerge] at haccess
    exact ⟨s, schema, after, hrun, hq, hmerge, Option.some.inj haccess, hlocated⟩
  · exact absurd hnone (hnamed t ((mem_entered_walk_iff hq t).mpr hreach) field hfield)

end Resolver

end HalBridge
