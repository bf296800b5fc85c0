import HalBridge.Proofs.ConversionOutcome

/-!
# The files of a run

What stands in each generated file. A file that is put again is replaced, so the text of a file is
the last one put under its name. The converter files of the targets have names of their own, and
their texts are made of one list of functions each; the definition of a type is in its file unless
another type has the same file.
-/

namespace HalBridge

/-! ### The text of a file -/

namespace FileSet

def text? (files : FileSet) (name : String) : Option String :=
  files.entries.lookup name

variable {files : FileSet} {name text : String}

theorem lookup_putEntry (name text other : String) (entries : List (String × String)) :
    (putEntry name text entries).lookup other =
      if other = name then some text else entries.lookup other := by
  induction entries with
  | nil =>
      by_cases hother : other = name
      · simp [putEntry, hother]
      · simp [putEntry, hother]
  | cons entry rest ih =>
      obtain ⟨first, old⟩ := entry
      unfold putEntry
      by_cases hname : first = name
      · rw [if_pos hname, hname]
        by_cases hother : other = name
        · simp [hother]
        · simp [List.lookup_cons, beq_false_of_ne hother, hother]
      · rw [if_neg hname, List.lookup_cons, List.lookup_cons, ih]
        by_cases hother : other = first
        · simp [hother, hname]
        · simp [beq_false_of_ne hother]

theorem text_put (files : FileSet) (name text other : String) :
    (files.put name text).text? other = if other = name then some text else files.text? other :=
  lookup_putEntry name text other files.entries

theorem text_putAll_of_not_mem {more : List (String × String)} (h : name ∉ more.map Prod.fst) :
    (files.putAll more).text? name = files.text? name := by
  induction more generalizing files with
  | nil => rfl
  | cons entry rest ih =>
      rw [List.map_cons, List.mem_cons, not_or] at h
      calc (files.putAll (entry :: rest)).text? name
          = (files.put entry.1 entry.2).text? name := ih h.2
        _ = files.text? name := by rw [text_put, if_neg h.1]

theorem putAll_append (files : FileSet) (front back : List (String × String)) :
    files.putAll (front ++ back) = (files.putAll front).putAll back :=
  List.foldl_append

/-- The text of a file is the last one put under its name. -/
theorem text_putAll_of_last {front back : List (String × String)}
    (h : name ∉ back.map Prod.fst) :
    (files.putAll (front ++ (name, text) :: back)).text? name = some text := by
  rw [putAll_append]
  calc ((files.putAll front).putAll ((name, text) :: back)).text? name
      = ((files.putAll front).put name text).text? name := text_putAll_of_not_mem h
    _ = some text := by rw [text_put, if_pos rfl]

theorem text_putAll_of_mem {more : List (String × String)} (hdistinct : (more.map Prod.fst).Nodup)
    (h : (name, text) ∈ more) : (files.putAll more).text? name = some text := by
  obtain ⟨front, back, rfl⟩ := List.append_of_mem h
  rw [List.map_append, List.map_cons] at hdistinct
  exact text_putAll_of_last (List.nodup_cons.mp hdistinct.of_append_right).1

end FileSet

/-! ### The names of the files -/

theorem last_append {front back : String} {last : Char} (h : back.toList.getLast? = some last) :
    (front ++ back).toList.getLast? = some last := by
  rw [String.toList_append, List.getLast?_append, h]
  rfl

namespace Target

def fileNames (target : Target) (q : QualifiedName) : List String :=
  (target.headerFile? q).toList.map ("include/" ++ ·) ++ [target.sourceFile q]

variable {target : Target} {q : QualifiedName} {name : String}

theorem last_of_mem_fileNames (h : name ∈ target.fileNames q) :
    name.toList.getLast? = some 'h' ∨ name.toList.getLast? = some 'p' ∨
      name.toList.getLast? = some 'a' := by
  cases target with
  | ndk | cpp =>
      simp only [fileNames, headerFile?, sourceFile, Option.toList_some, List.map_cons,
        List.map_nil, List.cons_append, List.nil_append, List.mem_cons, List.not_mem_nil,
        or_false] at h
      rcases h with rfl | rfl
      · exact Or.inl (last_append (last_append (by decide)))
      · exact Or.inr (Or.inl (last_append (by decide)))
  | java =>
      obtain rfl := List.mem_singleton.mp h
      exact Or.inr (Or.inr (last_append (by decide)))

theorem nodup_fileNames (q : QualifiedName) : (all.flatMap (·.fileNames q)).Nodup := by
  have hheader : ∀ name : String, ("include/" ++ (q.canonicalPath ++ "/translate-" ++ name
      ++ ".h")).toList.getLast? = some 'h' := fun _ => last_append (last_append (by decide))
  have hsource : ∀ name : String, (q.canonicalPath ++ "/translate-" ++ name
      ++ ".cpp").toList.getLast? = some 'p' := fun _ => last_append (by decide)
  have hjava : (q.canonicalPath ++ "/Translate.java").toList.getLast? = some 'a' :=
    last_append (by decide)
  -- Names of one kind differ in the name of the target, others in the last character.
  have hheaders : "include/" ++ (q.canonicalPath ++ "/translate-" ++ "ndk" ++ ".h") ≠
      "include/" ++ (q.canonicalPath ++ "/translate-" ++ "cpp" ++ ".h") := by
    rw [Ne, String.append_right_inj, String.append_left_inj, String.append_right_inj]
    decide
  have hsources : q.canonicalPath ++ "/translate-" ++ "ndk" ++ ".cpp" ≠
      q.canonicalPath ++ "/translate-" ++ "cpp" ++ ".cpp" := by
    rw [Ne, String.append_left_inj, String.append_right_inj]
    decide
  have hall : all.flatMap (·.fileNames q) =
      ["include/" ++ (q.canonicalPath ++ "/translate-" ++ "ndk" ++ ".h"),
        q.canonicalPath ++ "/translate-" ++ "ndk" ++ ".cpp",
        "include/" ++ (q.canonicalPath ++ "/translate-" ++ "cpp" ++ ".h"),
        q.canonicalPath ++ "/translate-" ++ "cpp" ++ ".cpp",
        q.canonicalPath ++ "/Translate.java"] := rfl
  rw [hall]
  simp only [List.nodup_cons, List.mem_cons, List.not_mem_nil, or_false, not_or,
    not_false_eq_true, List.nodup_nil, and_true]
  grind

end Target

namespace Catalog

variable {catalog : Catalog} {registry : Registry} {target : Target} {q : QualifiedName}
  {types : List Ref} {schemas : List (QualifiedName × MergedSchema)} {notes after : Notes}

/-! ### Merged schemas -/

theorem mergesTo_of_merge {schema : MergedSchema}
    (h : catalog.merge q notes = .ok (schema, after)) : catalog.MergesTo q schema := by
  have hq : (catalog.compound? q).isSome := by
    rw [Option.isSome_iff_ne_none]
    intro hnone
    rw [merge, hnone] at h
    cases h
  by_cases hnone : ∃ field ∈ (catalog.walk q).fields, field.name = none
  · rw [merge_eq_error hq notes hnone] at h
    cases h
  · obtain ⟨merged, notes', hmerged, hmerges⟩ := merge_eq_ok hq notes
      fun field hfield hname => hnone ⟨field, hfield, hname⟩
    obtain ⟨rfl, -⟩ := Prod.mk.inj (Except.ok.inj (hmerged.symm.trans h))
    exact hmerges

theorem mergeNoting_ok {schema : MergedSchema}
    (h : catalog.mergeNoting q notes = .ok schema after) : catalog.MergesTo q schema := by
  unfold mergeNoting at h
  rw [Outcome.get_bind] at h
  cases hmerge : catalog.merge q notes with
  | error fault =>
      rw [hmerge] at h
      exact absurd h Outcome.throw_ne_ok
  | ok made =>
      rw [hmerge] at h
      obtain ⟨rfl, -⟩ := EStateM.Result.ok.inj h
      exact mergesTo_of_merge hmerge

/-- The compounds among the types have their merged schemas, in order. -/
theorem mergeAll_ok {types : List QualifiedName}
    (h : catalog.mergeAll types notes = .ok schemas after) :
    schemas.map Prod.fst = types.filter (fun q => (catalog.compound? q).isSome) ∧
      ∀ entry ∈ schemas, catalog.MergesTo entry.1 entry.2 := by
  induction types generalizing notes after schemas with
  | nil =>
      obtain ⟨rfl, -⟩ := Outcome.pure_ok_iff.mp h
      exact ⟨rfl, fun _ hentry => absurd hentry List.not_mem_nil⟩
  | cons first rest ih =>
      unfold mergeAll at h
      by_cases hfirst : (catalog.compound? first).isSome
      · rw [if_pos hfirst] at h
        obtain ⟨schema, middle, hschema, h⟩ := Outcome.bind_ok_iff.mp h
        obtain ⟨others, last, hothers, h⟩ := Outcome.bind_ok_iff.mp h
        obtain ⟨rfl, -⟩ := Outcome.pure_ok_iff.mp h
        obtain ⟨hnames, hmerges⟩ := ih hothers
        refine ⟨?_, List.forall_mem_cons.mpr ⟨mergeNoting_ok hschema, hmerges⟩⟩
        rw [List.map_cons, hnames, List.filter_cons, if_pos hfirst]
      · rw [if_neg hfirst] at h
        rw [List.filter_cons, if_neg hfirst]
        exact ih h

/-! ### Converter functions -/

/-- The functions for the compounds among `types`, grouped by package. -/
def functionsFor (catalog : Catalog) (target : Target) (types : List Ref)
    (schemas : List (QualifiedName × MergedSchema)) (registry : Registry) :
    Except Fault (List ConverterFunction) :=
  ((byPackage types).filterMap fun ref => schemas.lookup ref.name).mapM
    (catalog.converterFunction target (fun q => types.any (·.name = q)) registry)

theorem byPackage_perm (types : List Ref) : (byPackage types).Perm types :=
  List.mergeSort_perm _ _

/-- The files of a target for these types and functions. -/
def converterTexts (catalog : Catalog) (target : Target) (q : QualifiedName) (types : List Ref)
    (functions : List ConverterFunction) : List (String × String) :=
  match target.headerFile? q with
  | some header => [
      ("include/" ++ header, Converter.headerText (catalog.includes target types) functions),
      (target.sourceFile q, Converter.cppText header (catalog.enumAsserts target types) functions)]
  | none => [(target.sourceFile q, Converter.javaText q.canonicalPackage functions)]

theorem map_fst_converterTexts (functions : List ConverterFunction) :
    (catalog.converterTexts target q types functions).map Prod.fst = target.fileNames q := by
  unfold converterTexts Target.fileNames
  cases target.headerFile? q with
  | none => rfl
  | some header => rfl

theorem emitFunction_ok {converted : QualifiedName → Bool} {schema : MergedSchema}
    {function : ConverterFunction}
    (h : catalog.emitFunction target converted registry schema notes = .ok function after) :
    catalog.converterFunction target converted registry schema = .ok function := by
  unfold emitFunction at h
  cases hfunction : catalog.converterFunction target converted registry schema with
  | error fault =>
      rw [hfunction] at h
      exact absurd h Outcome.throw_ne_ok
  | ok made =>
      rw [hfunction] at h
      obtain ⟨rfl, -⟩ := EStateM.Result.ok.inj h
      rfl

theorem emitFunctions_ok {converted : QualifiedName → Bool} {functions : List ConverterFunction}
    (h : catalog.emitFunctions target converted schemas registry types notes =
      .ok functions after) :
    (types.filterMap fun ref => schemas.lookup ref.name).mapM
      (catalog.converterFunction target converted registry) = .ok functions := by
  induction types generalizing notes after functions with
  | nil =>
      obtain ⟨rfl, -⟩ := Outcome.pure_ok_iff.mp h
      rfl
  | cons first rest ih =>
      unfold emitFunctions at h
      rw [List.filterMap_cons]
      cases hschema : schemas.lookup first.name with
      | none =>
          rw [hschema] at h
          exact ih h
      | some schema =>
          rw [hschema] at h
          obtain ⟨function, middle, hfunction, h⟩ := Outcome.bind_ok_iff.mp h
          obtain ⟨others, last, hothers, h⟩ := Outcome.bind_ok_iff.mp h
          obtain ⟨rfl, -⟩ := Outcome.pure_ok_iff.mp h
          rw [List.mapM_cons, emitFunction_ok hfunction, ih hothers]
          rfl

theorem converterFiles_ok {files : List (String × String)}
    (h : catalog.converterFiles target q types schemas registry notes = .ok files after) :
    ∃ functions, catalog.functionsFor target types schemas registry = .ok functions ∧
      files = catalog.converterTexts target q (byPackage types) functions := by
  unfold converterFiles at h
  obtain ⟨functions, middle, hfunctions, h⟩ := Outcome.bind_ok_iff.mp h
  refine ⟨functions, emitFunctions_ok hfunctions, ?_⟩
  unfold converterTexts
  cases hheader : target.headerFile? q with
  | none =>
      rw [hheader] at h
      exact (Outcome.pure_ok_iff.mp h).1.symm
  | some header =>
      rw [hheader] at h
      exact (Outcome.pure_ok_iff.mp h).1.symm

theorem targetFiles_ok {targets : List Target} {files : List (String × String)}
    (h : catalog.targetFiles q types schemas registry targets notes = .ok files after) :
    files.map Prod.fst = targets.flatMap (·.fileNames q) ∧
      ∀ target ∈ targets, ∃ functions,
        catalog.functionsFor target types schemas registry = .ok functions ∧
        catalog.converterTexts target q (byPackage types) functions ⊆ files := by
  induction targets generalizing notes after files with
  | nil =>
      obtain ⟨rfl, -⟩ := Outcome.pure_ok_iff.mp h
      exact ⟨rfl, fun _ htarget => absurd htarget List.not_mem_nil⟩
  | cons first rest ih =>
      obtain ⟨made, middle, hmade, h⟩ := Outcome.bind_ok_iff.mp h
      obtain ⟨others, last, hothers, h⟩ := Outcome.bind_ok_iff.mp h
      obtain ⟨rfl, -⟩ := Outcome.pure_ok_iff.mp h
      obtain ⟨functions, hfunctions, rfl⟩ := converterFiles_ok hmade
      obtain ⟨hnames, hrest⟩ := ih hothers
      refine ⟨?_, List.forall_mem_cons.mpr ⟨?_, ?_⟩⟩
      · rw [List.map_append, map_fst_converterTexts, hnames, List.flatMap_cons]
      · exact ⟨functions, hfunctions, List.subset_append_left _ _⟩
      · intro target htarget
        obtain ⟨functions', hfunctions', hsubset⟩ := hrest target htarget
        exact ⟨functions', hfunctions', List.subset_append_of_subset_right _ hsubset⟩

/-! ### Definitions -/

/-- Each type has its file, which is named for it and has its definition. -/
theorem aidlFiles_ok {types : List QualifiedName} {files : List (String × String)}
    (h : catalog.aidlFiles registry schemas types notes = .ok files after) :
    files.map Prod.fst = types.map Aidl.filePath ∧
      ∀ q ∈ types, ∃ definition before later,
        Aidl.definition catalog registry (.declared q) (schemas.lookup q) before =
          .ok definition later ∧
        (Aidl.filePath q, definition.text) ∈ files := by
  induction types generalizing notes after files with
  | nil =>
      obtain ⟨rfl, -⟩ := Outcome.pure_ok_iff.mp h
      exact ⟨rfl, fun _ hq => absurd hq List.not_mem_nil⟩
  | cons first rest ih =>
      obtain ⟨definition, middle, hdefinition, h⟩ := Outcome.bind_ok_iff.mp h
      obtain ⟨others, last, hothers, h⟩ := Outcome.bind_ok_iff.mp h
      obtain ⟨rfl, -⟩ := Outcome.pure_ok_iff.mp h
      obtain ⟨hnames, hrest⟩ := ih hothers
      refine ⟨?_, List.forall_mem_cons.mpr ⟨?_, ?_⟩⟩
      · rw [List.map_cons, List.map_cons, hnames]
      · exact ⟨definition, notes, middle, hdefinition, List.mem_cons_self⟩
      · intro q hq
        obtain ⟨definition', before, later, hdefinition', hmem⟩ := hrest q hq
        exact ⟨definition', before, later, hdefinition', List.mem_cons_of_mem _ hmem⟩

theorem generate_ok {types : List QualifiedName} {made : List (String × String)}
    (h : catalog.generate registry q types notes = .ok (schemas, made) after) :
    ∃ definitions sources before middle,
      catalog.mergeAll types notes = .ok schemas before ∧
      catalog.aidlFiles registry schemas types before = .ok definitions middle ∧
      catalog.targetFiles q ((types.filter catalog.isConvertible).map .declared) schemas registry
        Target.all middle = .ok sources after ∧
      made = definitions ++ sources := by
  obtain ⟨merged, before, hmerged, h⟩ := Outcome.bind_ok_iff.mp h
  obtain ⟨definitions, middle, hdefinitions, h⟩ := Outcome.bind_ok_iff.mp h
  obtain ⟨sources, last, hsources, h⟩ := Outcome.bind_ok_iff.mp h
  obtain ⟨hresult, rfl⟩ := Outcome.pure_ok_iff.mp h
  obtain ⟨rfl, rfl⟩ := Prod.mk.inj hresult
  exact ⟨definitions, sources, before, middle, hmerged, hdefinitions, hsources, rfl⟩

end Catalog

/-! ### All files of a run -/

namespace Conversion

def convertible (conversion : Conversion) : List Ref :=
  (conversion.types.filter conversion.catalog.isConvertible).map .declared

/-- The converter functions of a run for one target. -/
def functions (conversion : Conversion) (registry : Registry) (target : Target) :
    Except Fault (List ConverterFunction) :=
  conversion.catalog.functionsFor target conversion.convertible conversion.schemas registry

variable {registry : Registry} {conversion : Conversion} {t : Resolver} {q : QualifiedName}

theorem Completed.schemas_merge (h : Completed registry conversion t) :
    conversion.schemas.map Prod.fst =
        conversion.types.filter (fun q => (conversion.catalog.compound? q).isSome) ∧
      ∀ entry ∈ conversion.schemas, conversion.catalog.MergesTo entry.1 entry.2 := by
  obtain ⟨notes, made, hgenerate, -⟩ := h.generated
  obtain ⟨definitions, sources, before, middle, hmerged, -⟩ := Catalog.generate_ok hgenerate
  rw [h.catalog]
  exact Catalog.mergeAll_ok hmerged

theorem Completed.converterTexts (h : Completed registry conversion t) (target : Target) :
    ∃ functions, conversion.functions registry target = .ok functions ∧
      ∀ file ∈ conversion.catalog.converterTexts target conversion.name
          (Catalog.byPackage conversion.convertible) functions,
        conversion.files.text? file.1 = some file.2 := by
  obtain ⟨notes, made, hgenerate, hfiles⟩ := h.generated
  obtain ⟨definitions, sources, before, middle, -, -, hsources, rfl⟩ :=
    Catalog.generate_ok hgenerate
  rw [← h.catalog] at hsources
  obtain ⟨hnames, htargets⟩ := Catalog.targetFiles_ok hsources
  have hall : target ∈ Target.all := by
    cases target <;> decide
  obtain ⟨functions, hfunctions, hsubset⟩ := htargets target hall
  refine ⟨functions, hfunctions, ?_⟩
  intro file hfile
  have hdistinct : (sources.map Prod.fst).Nodup := by
    rw [hnames]
    exact Target.nodup_fileNames conversion.name
  have hlog : file.1 ≠ logFile := by
    have hname : file.1 ∈ target.fileNames conversion.name := by
      rw [← Catalog.map_fst_converterTexts functions]
      exact List.mem_map_of_mem hfile
    intro hsame
    rw [hsame] at hname
    have hlast := Target.last_of_mem_fileNames hname
    revert hlast
    decide
  rw [hfiles, FileSet.text_put, if_neg hlog, FileSet.putAll_append]
  exact FileSet.text_putAll_of_mem hdistinct (hsubset hfile)

/-- After the file of a type that has the file for itself come only the files of other types. -/
theorem filePath_not_mem_later {types : List QualifiedName} {front back : List String}
    (hdistinct : types.Nodup)
    (hown : ∀ r ∈ types, Aidl.filePath r = Aidl.filePath q → r = q)
    (h : types.map Aidl.filePath = front ++ Aidl.filePath q :: back) :
    Aidl.filePath q ∉ back := by
  obtain ⟨earlier, later, rfl, -, hlater⟩ := List.map_eq_append_iff.mp h
  obtain ⟨same, rest, rfl, hsame, rfl⟩ := List.map_eq_cons_iff.mp hlater
  obtain rfl := hown same (List.mem_append_right _ List.mem_cons_self) hsame
  intro hagain
  obtain ⟨r, hr, hpath⟩ := List.mem_map.mp hagain
  obtain rfl := hown r (List.mem_append_right _ (List.mem_cons_of_mem _ hr)) hpath
  exact (List.nodup_cons.mp hdistinct.of_append_right).1 hr

/-- The file of a type that has the file for itself has the definition of the type. -/
theorem Completed.definition (h : Completed registry conversion t) (hq : q ∈ conversion.types) :
    ∃ definition before after,
      Aidl.definition conversion.catalog registry (.declared q) (conversion.schemas.lookup q)
        before = .ok definition after ∧
      ((∀ r ∈ conversion.types, Aidl.filePath r = Aidl.filePath q → r = q) →
        conversion.files.text? (Aidl.filePath q) = some definition.text) := by
  obtain ⟨notes, made, hgenerate, hfiles⟩ := h.generated
  obtain ⟨definitions, sources, before, middle, -, hdefinitions, hsources, rfl⟩ :=
    Catalog.generate_ok hgenerate
  rw [← h.catalog] at hdefinitions hsources
  obtain ⟨hpaths, hall⟩ := Catalog.aidlFiles_ok hdefinitions
  obtain ⟨hnames, -⟩ := Catalog.targetFiles_ok hsources
  obtain ⟨definition, early, late, hdefinition, hmem⟩ := hall q hq
  refine ⟨definition, early, late, hdefinition, ?_⟩
  intro hown
  have hlast : (Aidl.filePath q).toList.getLast? = some 'l' := last_append (by decide)
  have hlog : Aidl.filePath q ≠ logFile := by
    intro hsame
    rw [hsame] at hlast
    revert hlast
    decide
  have hsource : Aidl.filePath q ∉ sources.map Prod.fst := by
    rw [hnames, List.mem_flatMap]
    rintro ⟨target, -, hname⟩
    have hother := Target.last_of_mem_fileNames hname
    rw [hlast] at hother
    revert hother
    decide
  obtain ⟨front, back, rfl⟩ := List.append_of_mem hmem
  rw [List.map_append, List.map_cons] at hpaths
  have hback := filePath_not_mem_later h.distinct hown hpaths.symm
  rw [hfiles, FileSet.text_put, if_neg hlog, List.append_assoc, List.cons_append]
  refine FileSet.text_putAll_of_last ?_
  rw [List.map_append, List.mem_append, not_or]
  exact ⟨hback, hsource⟩

end Conversion

end HalBridge
