import HalBridge.Proofs.CompleteDocuments
import HalBridge.Proofs.ResolverLoading
import HalBridge.Proofs.ShapeTotal

/-!
# Names written in documents

What the files of a repository say by themselves, before anything is loaded: which releases their
definitions refer to, and which types their typedefs are written with. A typedef in a resolved
catalogue is written in the file of its release, so if no typedef contains itself on paper then
none does in the catalogue.
-/

namespace HalBridge

open Document

/-- The name at the end of a written type, inside any vectors and arrays. -/
def Document.TypeRef.reference? : TypeRef → Option String
  | ⟨some "vec", _, _, some element, _⟩ => element.reference?
  | ⟨some "array", _, _, some element, _⟩ => element.reference?
  | ⟨some "named", _, reference, _, _⟩ => reference
  | _ => none

/-- The types written in a definition, those of nested definitions apart. -/
def Document.TypeDef.types (definition : TypeDef) : List TypeRef :=
  (definition.fields.getD []).filterMap (·.bind FieldDef.type) ++ definition.storage.toList
    ++ definition.aliased.toList

namespace Repository

/-- The declarations that the file of a release makes, with their definitions. -/
def definitions (repository : Repository) (key : QualifiedName) : List (Decl × TypeDef) :=
  match repository.file? key with
  | none => []
  | some text =>
      match decodeRelease key text with
      | .ok release => Resolver.entriesAll key [] (release.types.getD [])
      | .error _ => []

/-- Some definition refers to a type by this text. -/
def Mentions (repository : Repository) (text : String) : Prop :=
  ∃ home, ∃ entry ∈ repository.definitions home, ∃ written ∈ entry.2.types,
    written.reference? = some text

/-- Some definition refers to a type of this release by its qualified name. -/
def RefersTo (repository : Repository) (key : QualifiedName) : Prop :=
  ∃ text q, repository.Mentions text ∧ QualifiedName.parse? text = some q ∧ q.release = key

/-- The typedef `q` is written as `written`, and the name in it means `r`. -/
def Spells (repository : Repository) (written : TypeRef) (q r : QualifiedName) : Prop :=
  ∃ entry ∈ repository.definitions q.release, entry.1.name = q ∧
    entry.2.kind = some "typedef" ∧ entry.2.aliased = some written ∧
    ∃ text, written.reference? = some text ∧
      Resolver.meant? ⟨(repository.definitions q.release).map Prod.fst⟩ entry.1 text = some r

/-- No typedef reaches itself through the elements of vectors and arrays. -/
def Founded (repository : Repository) : Prop :=
  ∀ written q r, repository.Spells written q r → written.kind ≠ some "named" →
    ¬Relation.ReflTransGen (fun q r => ∃ written, repository.Spells written q r) r q

variable {repository before after : Repository} {key : QualifiedName}

theorem ReadsMore.definitions_eq (h : before.ReadsMore after) (key : QualifiedName) :
    after.definitions key = before.definitions key := by
  unfold definitions
  rw [h.file_eq]

theorem mem_definitions_iff {entry : Decl × TypeDef} :
    entry ∈ repository.definitions key ↔
      ∃ text release, repository.file? key = some text ∧ decodeRelease key text = .ok release ∧
        entry ∈ Resolver.entriesAll key [] (release.types.getD []) := by
  unfold definitions
  cases repository.file? key with
  | none => simp
  | some text => cases hdecode : decodeRelease key text <;> simp [hdecode]

/-- What was read is what the file says. -/
theorem Faithful.declared_eq {release : Release} (h : repository.Faithful)
    (hread : repository.read.lookup key = some release) :
    repository.declared key = repository.definitions key := by
  obtain ⟨text, hfile, hdecode⟩ := h key release hread
  unfold declared definitions
  rw [hread, hfile]
  dsimp only
  rw [hdecode]

theorem Legible.isComplete {entry : Decl × TypeDef} (h : repository.Legible)
    (hentry : entry ∈ repository.definitions key) : entry.2.isComplete := by
  obtain ⟨text, release, hfile, hdecode, hentry⟩ := mem_definitions_iff.mp hentry
  have hcomplete := isComplete_of_decodeRelease (h key text hfile) hdecode
  obtain ⟨definitions, htypes, hall⟩ := Release.types_of_isComplete hcomplete
  rw [htypes] at hentry
  obtain ⟨inner, hoccurs, -⟩ := Resolver.mem_entriesAll_iff.mp hentry
  exact hoccurs.isComplete hall

end Repository

namespace Resolver

variable {s : Resolver} {base : Repository} {q r : QualifiedName}

theorem Accounted.declared_eq {key : QualifiedName} (h : Accounted s)
    (hbase : base.ReadsMore s.repository) (hkey : s.isLoaded key) :
    s.repository.declared key = base.definitions key := by
  obtain ⟨entry, hentry, rfl⟩ := List.mem_map.mp (isLoaded_iff.mp hkey)
  obtain ⟨release, definitions, hread, -, -⟩ := (h.documented entry hentry).read
  rw [h.faithful.declared_eq hread, hbase.definitions_eq]

theorem Denotes.exists_reference {refer : String → Option Ref} {written : TypeRef} {type : Ty}
    {ref : Ref} (h : Denotes refer written type) (href : type.ref? = some ref) :
    ∃ text, written.reference? = some text ∧ refer text = some ref := by
  induction h with
  | scalar | string | special => cases href
  | vec _ ih =>
      rw [TypeRef.reference?]
      exact ih href
  | array _ _ ih =>
      rw [TypeRef.reference?]
      exact ih href
  | named _ hrefer =>
      rw [TypeRef.reference?]
      exact ⟨_, rfl, hrefer.trans href⟩

theorem Denotes.eq_named {refer : String → Option Ref} {written : TypeRef} {type : Ty}
    (h : Denotes refer written type) (hkind : written.kind = some "named") :
    ∃ ref, type = .named ref := by
  cases h with
  | scalar | string | vec | array => simp at hkind
  | named _ _ => exact ⟨_, rfl⟩
  | special hspecial =>
      dsimp only at hkind
      rw [hkind, show (some "named").bind Special.ofText? = none by decide] at hspecial
      cases hspecial

theorem kind_of_initialBody {definition : TypeDef} {type : Ty}
    (h : initialBody definition = .typedef type) : definition.kind = some "typedef" := by
  unfold initialBody at h
  cases hkind : DeclKind.ofText? definition.kind with
  | none =>
      rw [hkind] at h
      cases h
  | some kind =>
      simp only [hkind] at h
      cases kind with
      | compound style => cases h
      | interface => cases h
      | typedef =>
          unfold DeclKind.ofText? at hkind
          split at hkind <;> first | assumption | cases hkind
      | enum =>
          cases hvalues : definition.values with
          | none =>
              simp only [placeholder, hvalues] at h
              cases h
          | some values =>
              simp only [placeholder, hvalues] at h
              cases hmap : values.mapM enumValue with
              | error fault =>
                  rw [hmap] at h
                  cases h
              | ok found =>
                  rw [hmap] at h
                  cases h

theorem body_of_aliased {catalog : Catalog} {decl : Decl} {type : Ty}
    (hfind : catalog.find? q = some decl) (h : catalog.aliased? q = some type) :
    decl.body = .typedef type := by
  unfold Catalog.aliased? at h
  rw [hfind, Option.map_some] at h
  split at h
  · rename_i found hbody
    rw [← Option.some.inj h]
    exact Option.some.inj hbody
  · cases h

/-- A name in a declaration means the same on paper. -/
theorem Accounted.meant_eq {decl : Decl} (h : Accounted s) (hbase : base.ReadsMore s.repository)
    (hdecl : decl ∈ s.catalog.decls) (text : String) :
    meant? ⟨(base.definitions decl.name.release).map Prod.fst⟩ decl.unresolved text =
      meant? s.catalog decl text := by
  have hsited := h.sited hdecl
  have hnames : ∀ q, q.release = decl.name.release →
      (q ∈ Catalog.names ⟨(base.definitions decl.name.release).map Prod.fst⟩ ↔
        q ∈ s.catalog.names) := by
    intro q hq
    rw [h.mem_names_iff, hq, h.declared_eq hbase hsited.loaded, Catalog.names, List.map_map]
    exact (and_iff_right hsited.loaded).symm
  have hrelative := findRelative_congr hsited.scopes hnames (Text.split '.' text)
  unfold meant?
  rw [← hrelative]
  rfl

/-- The name in a resolved typedef stands in the file of its release. -/
theorem Idle.spells {type : Ty} (hs : s.Idle) (hbase : base.ReadsMore s.repository)
    (htype : s.catalog.aliased? q = some type) (hr : type.ref? = some (.declared r)) :
    ∃ written, base.Spells written q r ∧
      (written.kind = some "named" → type = .named (.declared r)) := by
  have haccounted := hs.consistent.toAccounted
  obtain ⟨decl, entry, hfind, hentry, hname, hdescribes⟩ :=
    hs.finished q (Catalog.mem_names_of_aliased htype)
  obtain rfl := Catalog.name_of_find hfind
  have hbody := body_of_aliased hfind htype
  have hdecl := Catalog.mem_of_find hfind
  have hloaded := (haccounted.sited hdecl).loaded
  rw [← hname] at hfind
  have houtline := haccounted.unresolved_eq hloaded hentry hfind
  simp only [Describes, hbody] at hdescribes
  obtain ⟨written, hwritten, hdenotes⟩ := hdescribes
  obtain ⟨text, htext, hrefers⟩ := hdenotes.exists_reference hr
  obtain ⟨meant, hmeant, href⟩ := Option.map_eq_some_iff.mp hrefers
  have hsame : meant = r := by
    rw [← name_ref s.catalog meant, href]
    rfl
  have hkind : entry.2.kind = some "typedef" := by
    obtain ⟨release, inner, -, -, hentry⟩ := mem_declared_iff.mp hentry
    have hinitial : decl.unresolved.body = initialBody entry.2 := by
      rw [houtline, hentry]
      rfl
    rw [Decl.unresolved, hbody] at hinitial
    exact kind_of_initialBody hinitial.symm
  rw [haccounted.declared_eq hbase hloaded] at hentry
  refine ⟨written, ⟨entry, hentry, hname, hkind, hwritten, text, htext, ?_⟩, ?_⟩
  · rw [← houtline, haccounted.meant_eq hbase hdecl, hmeant, hsame]
  · intro hnamed
    obtain ⟨found, rfl⟩ := hdenotes.eq_named hnamed
    rw [Option.some.inj hr]

/-- A typedef that contains itself in the catalogue does so on paper. -/
theorem Idle.unfoldable (hs : s.Idle) (hbase : base.ReadsMore s.repository)
    (hfounded : base.Founded) : s.catalog.Unfoldable := by
  refine Catalog.unfoldable_of_containers ?_ ?_
  · intro q
    refine ⟨fun aliased haliased => ?_, fun storage hstorage => ?_⟩
    · exact (hs.chains q (Catalog.mem_names_of_aliased haliased)).typedef aliased haliased
    · exact (hs.chains q (Catalog.mem_names_of_storage hstorage)).enum storage hstorage
  · rintro q r ⟨type, htype, hr, hcontainer⟩ hback
    obtain ⟨written, hspells, hnamed⟩ := hs.spells hbase htype hr
    refine hfounded written q r hspells (fun hkind => hcontainer (hnamed hkind)) ?_
    refine Relation.ReflTransGen.mono ?_ _ _ hback
    rintro outer inner ⟨other, hother, hinner⟩
    obtain ⟨written, hspells, -⟩ := hs.spells hbase hother hinner
    exact ⟨written, hspells⟩

end Resolver

end HalBridge
