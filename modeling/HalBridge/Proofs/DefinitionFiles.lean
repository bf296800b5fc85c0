import HalBridge.Proofs.DefinitionTexts
import HalBridge.Proofs.NameTexts
import HalBridge.Proofs.RunTypes
import HalBridge.Proofs.SampleDocuments

/-!
# The definition files of a run

The file of a type is named for its package, for its major version, and for the names of the type
and the types around it with nothing in between. The types of a run share their package, so two of
them have one file just if they have one major version and their names run together to one text.
The definition of the last such type is what the file has in the end; a type that is not nested
never loses its file to another one.
-/

namespace HalBridge

namespace QualifiedName

variable {q r : QualifiedName}

/-- The names of two types are not told apart after nested types are lifted to the top. -/
def SameCanonical (q r : QualifiedName) : Prop :=
  q.version.major = r.version.major ∧ String.join q.names = String.join r.names

/-- What is written after the package for its major version. -/
def majorText (q : QualifiedName) : String :=
  if q.version.major = 1 then "" else toString q.version.major

theorem canonicalPackage_eq (q : QualifiedName) :
    q.canonicalPackage = q.package ++ q.majorText := by
  unfold canonicalPackage majorText
  split
  · exact (String.append_empty).symm
  · rfl

theorem majorText_inj (h : q.majorText = r.majorText) : q.version.major = r.version.major := by
  unfold majorText at h
  split at h
  · rename_i hq
    split at h
    · rename_i hr
      rw [hq, hr]
    · exact absurd h.symm (toString_ne_empty _)
  · split at h
    · exact absurd h (toString_ne_empty _)
    · exact toString_inj h

theorem isDigit_of_mem_majorText {c : Char} (h : c ∈ q.majorText.toList) : c.isDigit := by
  unfold majorText at h
  split at h
  · cases h
  · exact isDigit_of_mem_toString h

theorem SameCanonical.majorText (h : q.SameCanonical r) : q.majorText = r.majorText := by
  unfold QualifiedName.majorText
  rw [h.1]

/-- The major version and the name are found again after a mark that is no digit. -/
theorem sameCanonical_of_marked {mark : Char} (hmark : ¬mark.isDigit)
    (h : q.majorText.toList ++ mark :: q.canonicalTypeName.toList =
      r.majorText.toList ++ mark :: r.canonicalTypeName.toList) : q.SameCanonical r := by
  obtain ⟨hmajor, hname⟩ := eq_of_first (fun hmem => hmark (isDigit_of_mem_majorText hmem))
    (fun hmem => hmark (isDigit_of_mem_majorText hmem)) h
  exact ⟨majorText_inj (String.toList_inj.mp hmajor), String.toList_inj.mp hname⟩

theorem canonicalName_eq_iff (hpackage : q.package = r.package) :
    q.canonicalName = r.canonicalName ↔ q.SameCanonical r := by
  constructor
  · intro h
    have hlists := congrArg String.toList h
    simp only [canonicalName, canonicalPackage_eq, hpackage, String.toList_append,
      List.append_assoc, List.append_cancel_left_eq] at hlists
    exact sameCanonical_of_marked (by decide) hlists
  · intro h
    rw [canonicalName, canonicalName, canonicalPackage_eq, canonicalPackage_eq, hpackage,
      h.majorText, canonicalTypeName, canonicalTypeName, h.2]

theorem toList_canonicalPath (q : QualifiedName) :
    q.canonicalPath.toList = (Text.dotsToSlashes q.package).toList ++ q.majorText.toList := by
  have hdigits : q.majorText.toList.map (fun c => if c = '.' then '/' else c) =
      q.majorText.toList := by
    conv_rhs => rw [← List.map_id q.majorText.toList]
    refine List.map_congr_left fun c hc => if_neg ?_
    rintro rfl
    exact absurd (isDigit_of_mem_majorText hc) (by decide)
  simp only [canonicalPath, canonicalPackage_eq, Text.dotsToSlashes, String.toList_map,
    String.toList_append, List.map_append, hdigits]

theorem filePath_eq_iff (hpackage : q.package = r.package) :
    Aidl.filePath q = Aidl.filePath r ↔ q.SameCanonical r := by
  constructor
  · intro h
    have hlists := congrArg String.toList h
    simp only [Aidl.filePath, String.toList_append, toList_canonicalPath, hpackage,
      List.append_assoc, List.append_cancel_left_eq] at hlists
    simp only [← List.append_assoc, List.append_cancel_right_eq] at hlists
    rw [List.append_assoc, List.append_assoc] at hlists
    exact sameCanonical_of_marked (by decide) hlists
  · intro h
    refine String.toList_inj.mp ?_
    simp only [Aidl.filePath, String.toList_append, toList_canonicalPath, hpackage, h.majorText,
      canonicalTypeName, h.2]

/-- Types that are not nested have different names in AIDL unless they are versions of one type. -/
theorem SameCanonical.lineage_eq (h : q.SameCanonical r) (hpackage : q.package = r.package)
    (hq : q.scope = []) (hr : r.scope = []) : q.lineage = r.lineage := by
  have hjoin : ∀ t : QualifiedName, t.scope = [] →
      t.names = if String.join t.names = "" then [] else [String.join t.names] := by
    intro t ht
    unfold names
    rw [ht]
    split
    · simp
    · split
      · simp
      · rename_i hname
        rw [String.isEmpty_iff] at hname
        simp [hname]
  unfold QualifiedName.lineage
  rw [hpackage, h.1, hjoin q hq, hjoin r hr, h.2]

end QualifiedName

namespace Catalog

variable {catalog : Catalog} {registry : Registry} {schemas : List (QualifiedName × MergedSchema)}
  {notes after : Notes}

/-- The definitions are written for the types in their order. -/
theorem aidlFiles_forall₂ {types : List QualifiedName} {files : List (String × String)}
    (h : catalog.aidlFiles registry schemas types notes = .ok files after) :
    List.Forall₂ (fun q file => ∃ definition before later,
      Aidl.definition catalog registry (.declared q) (schemas.lookup q) before =
        .ok definition later ∧ file = (Aidl.filePath q, definition.text)) types files := by
  induction types generalizing notes after files with
  | nil =>
      obtain ⟨rfl, -⟩ := Outcome.pure_ok_iff.mp h
      exact .nil
  | cons first rest ih =>
      obtain ⟨definition, middle, hdefinition, h⟩ := Outcome.bind_ok_iff.mp h
      obtain ⟨others, last, hothers, h⟩ := Outcome.bind_ok_iff.mp h
      obtain ⟨rfl, -⟩ := Outcome.pure_ok_iff.mp h
      exact .cons ⟨definition, notes, middle, hdefinition, rfl⟩ (ih hothers)

end Catalog

namespace Conversion

variable {registry : Registry} {conversion : Conversion} {t : Resolver} {q : QualifiedName}

theorem filePath_ne_log (q : QualifiedName) : Aidl.filePath q ≠ logFile := by
  have hlast : (Aidl.filePath q).toList.getLast? = some 'l' := last_append (by decide)
  intro hsame
  rw [hsame] at hlast
  revert hlast
  decide

theorem filePath_not_mem_fileNames (q r : QualifiedName) (target : Target) :
    Aidl.filePath q ∉ target.fileNames r := by
  have hlast : (Aidl.filePath q).toList.getLast? = some 'l' := last_append (by decide)
  intro hname
  have hother := Target.last_of_mem_fileNames hname
  rw [hlast] at hother
  revert hother
  decide

/-- The last definition that is written to a file is what the file has. -/
theorem Completed.definition_of_last (h : Completed registry conversion t)
    {front back : List QualifiedName} (htypes : conversion.types = front ++ q :: back)
    (hback : ∀ r ∈ back, Aidl.filePath r ≠ Aidl.filePath q) :
    ∃ definition before after,
      Aidl.definition conversion.catalog registry (.declared q) (conversion.schemas.lookup q)
        before = .ok definition after ∧
      conversion.files.text? (Aidl.filePath q) = some definition.text := by
  obtain ⟨notes, made, hgenerate, hfiles⟩ := h.generated
  obtain ⟨definitions, sources, before, middle, -, hdefinitions, hsources, rfl⟩ :=
    Catalog.generate_ok hgenerate
  rw [← h.catalog] at hdefinitions hsources
  have hwritten := (Catalog.aidlFiles_forall₂ hdefinitions).flip
  rw [htypes] at hwritten
  obtain ⟨file, rest, ⟨definition, early, late, hdefinition, rfl⟩, hrest, hdrop⟩ :=
    List.forall₂_cons_right_iff.mp (List.forall₂_drop_append _ _ _ hwritten)
  refine ⟨definition, early, late, hdefinition, ?_⟩
  have hpaths : rest.map Prod.fst = back.map Aidl.filePath := by
    rw [← List.forall₂_eq_eq_eq, List.forall₂_map_left_iff, List.forall₂_map_right_iff]
    refine hrest.imp ?_
    rintro file r ⟨-, -, -, -, rfl⟩
    rfl
  have hlater : Aidl.filePath q ∉ rest.map Prod.fst := by
    rw [hpaths, List.mem_map]
    rintro ⟨r, hr, hpath⟩
    exact hback r hr hpath
  have hsource : Aidl.filePath q ∉ sources.map Prod.fst := by
    rw [(Catalog.targetFiles_ok hsources).1, List.mem_flatMap]
    rintro ⟨target, -, hname⟩
    exact filePath_not_mem_fileNames q _ target hname
  rw [hfiles, FileSet.text_put, if_neg (filePath_ne_log q),
    ← List.take_append_drop front.length definitions, hdrop, List.append_assoc, List.cons_append]
  refine FileSet.text_putAll_of_last ?_
  rw [List.map_append, List.mem_append, not_or]
  exact ⟨hlater, hsource⟩

/-- **One file, one definition.** Two types of a run have one file, and one name in AIDL, just if
they have one major version and their names run together to one text, which two types that are not
nested never do. The file has the definition of the last of them, and those of the others are
nowhere. -/
theorem definition_of_last_sameCanonical (repository : Repository) (hread : repository.Faithful)
    (request : String) (force : Bool) (registry : Registry) (conversion : Conversion)
    (t : Resolver) (h : run request force registry { repository } = .ok conversion t) :
    (∀ q ∈ conversion.types, ∀ r ∈ conversion.types,
      (Aidl.filePath q = Aidl.filePath r ↔ q.SameCanonical r) ∧
      (q.canonicalName = r.canonicalName ↔ q.SameCanonical r) ∧
      (q.scope = [] → r.scope = [] → q.SameCanonical r → q = r)) ∧
    ∀ front q back, conversion.types = front ++ q :: back →
      (∀ r ∈ back, ¬q.SameCanonical r) →
      ∃ definition before after,
        Aidl.definition conversion.catalog registry (.declared q) (conversion.schemas.lookup q)
          before = .ok definition after ∧
        definition.Written definition.text ∧
        conversion.files.text? (Aidl.filePath q) = some definition.text := by
  obtain ⟨hlineages, hpackages⟩ := run_types hread h
  have hpackage : ∀ q ∈ conversion.types, ∀ r ∈ conversion.types, q.package = r.package := by
    intro q hq r hr
    rw [hpackages q hq, hpackages r hr]
  refine ⟨?_, ?_⟩
  · intro q hq r hr
    have hsame := hpackage q hq r hr
    refine ⟨QualifiedName.filePath_eq_iff hsame, QualifiedName.canonicalName_eq_iff hsame, ?_⟩
    intro hqscope hrscope hcanonical
    exact List.inj_on_of_nodup_map hlineages hq hr (hcanonical.lineage_eq hsame hqscope hrscope)
  · intro front q back htypes hback
    have hpaths : ∀ r ∈ back, Aidl.filePath r ≠ Aidl.filePath q := by
      intro r hr hpath
      rw [htypes] at hpackage
      have hsame := hpackage q (List.mem_append_right _ List.mem_cons_self) r
        (List.mem_append_right _ (List.mem_cons_of_mem _ hr))
      exact hback r hr ((QualifiedName.filePath_eq_iff hsame).mp hpath.symm)
    obtain ⟨definition, before, after, hdefinition, hfile⟩ :=
      (run_completed hread h).1.definition_of_last htypes hpaths
    exact ⟨definition, before, after, hdefinition, definition.written_text, hfile⟩

/-- A typedef inside an interface, and a structure whose name is that of the two in one. -/
def runTogether : Repository :=
  Sample.repository [Sample.release "p" "1.0"
    [Sample.interface "A" [Sample.typeAlias "B" (Sample.plain "string")], Sample.struct "AB" []]]
where
  inner : QualifiedName := ⟨"p", ⟨1, 0⟩, some "B", ["A"]⟩
  joined : QualifiedName := ⟨"p", ⟨1, 0⟩, some "AB", []⟩

/-- The file of the typedef has the definition of the structure. -/
theorem definition_runTogether :
    ∃ conversion t, run "p@1.0" false .default { repository := runTogether } = .ok conversion t ∧
      conversion.types = [runTogether.inner, runTogether.joined] ∧
      Aidl.filePath runTogether.inner = Aidl.filePath runTogether.joined ∧
      ∃ definition before after,
        Aidl.definition conversion.catalog .default (.declared runTogether.joined)
          (conversion.schemas.lookup runTogether.joined) before = .ok definition after ∧
        definition.Written definition.text ∧
        conversion.files.text? (Aidl.filePath runTogether.inner) = some definition.text := by
  have hfound :
      Outcome.view (fun conversion _ => conversion.types)
        (run "p@1.0" false .default { repository := runTogether }) =
        some [runTogether.inner, runTogether.joined] := by
    decide +kernel
  obtain ⟨conversion, t, hrun, htypes⟩ := Outcome.of_view hfound
  obtain ⟨hpaths, hlast⟩ :=
    definition_of_last_sameCanonical runTogether (Repository.faithful_of_read_eq_nil rfl)
      "p@1.0" false .default conversion t hrun
  have hinner : runTogether.inner ∈ conversion.types := by
    rw [htypes]
    exact List.mem_cons_self
  have hjoined : runTogether.joined ∈ conversion.types := by
    rw [htypes]
    exact List.mem_cons_of_mem _ List.mem_cons_self
  have hsame : Aidl.filePath runTogether.inner = Aidl.filePath runTogether.joined :=
    (hpaths _ hinner _ hjoined).1.mpr ⟨rfl, by decide⟩
  refine ⟨conversion, t, hrun, htypes, hsame, ?_⟩
  rw [hsame]
  exact hlast [runTogether.inner] runTogether.joined [] htypes
    (fun _ hr => absurd hr List.not_mem_nil)

end Conversion

end HalBridge
