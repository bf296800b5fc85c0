import HalBridge.Document.Decode
import HalBridge.Document.Encode
import HalBridge.Proofs.Outcomes

/-!
# Decoding what was decoded

Decoding is lenient: numbers stand for texts, strings for numbers and lists, and members may be null
or left out. The JSON value of a document has none of this, since every part is a member of its own
kind or null. So a document is decoded from its JSON value as it was, and decoding the value of what
was decoded changes nothing, for whole documents and for every part of one.
-/

namespace HalBridge.Document

/-! ### The recursion -/

theorem TypeRef.decodeElement_eq (members : Members) :
    TypeRef.decodeElement members = optionalType "element" members := by
  induction members with
  | nil => rw [TypeRef.decodeElement, optionalType, List.lookup_nil]
  | cons first rest ih =>
      obtain ⟨key, value⟩ := first
      rw [TypeRef.decodeElement, optionalType, List.lookup_cons]
      by_cases hkey : key = "element"
      · rw [if_pos hkey, hkey, beq_self_eq_true]
        cases value <;> simp [isNull]
      · rw [if_neg hkey, ih, optionalType, beq_false_of_ne (Ne.symm hkey)]

theorem TypeDef.decodeItems_eq (items : List Json) :
    TypeDef.decodeItems items = items.mapM (entry TypeDef.decode) := by
  induction items with
  | nil =>
      rw [TypeDef.decodeItems, List.mapM_nil]
      rfl
  | cons item rest ih =>
      rw [TypeDef.decodeItems, List.mapM_cons, ih, entry]
      by_cases hnull : isNull item
      · rw [if_pos hnull, if_pos hnull]
      · rw [if_neg hnull, if_neg hnull]

theorem TypeDef.decodeSubTypes_eq (members : Members) :
    TypeDef.decodeSubTypes members = records TypeDef.decode "sub_types" members := by
  induction members with
  | nil => rw [TypeDef.decodeSubTypes, records, List.lookup_nil]
  | cons first rest ih =>
      obtain ⟨key, value⟩ := first
      rw [TypeDef.decodeSubTypes, records, List.lookup_cons]
      by_cases hkey : key = "sub_types"
      · rw [if_pos hkey, hkey, beq_self_eq_true]
        cases value <;> simp [isNull, TypeDef.decodeList, TypeDef.decodeItems_eq]
      · rw [if_neg hkey, ih, records, beq_false_of_ne (Ne.symm hkey)]

theorem TypeDef.subTypesJson_eq (subTypes : Option (List (Option TypeDef))) :
    TypeDef.subTypesJson subTypes = listJson (entryJson TypeDef.toJson) subTypes := by
  have hitems : ∀ items, TypeDef.itemsJson items = items.map (entryJson TypeDef.toJson) := by
    intro items
    induction items with
    | nil => rw [TypeDef.itemsJson, List.map_nil]
    | cons first rest ih =>
        cases first with
        | none => rw [TypeDef.itemsJson, ih, List.map_cons, entryJson]
        | some definition => rw [TypeDef.itemsJson, ih, List.map_cons, entryJson]
  cases subTypes with
  | none => rw [TypeDef.subTypesJson, listJson]
  | some items => rw [TypeDef.subTypesJson, listJson, hitems]

theorem TypeRef.optionJson_eq (written : Option TypeRef) :
    TypeRef.optionJson written = entryJson TypeRef.toJson written := by
  cases written with
  | none => rw [TypeRef.optionJson, entryJson]
  | some ref => rw [TypeRef.optionJson, entryJson]

/-- What holds of a written type whenever it holds of the type of its elements holds of all. -/
theorem TypeRef.induction {motive : TypeRef → Prop}
    (h : ∀ ref : TypeRef, (∀ inner, ref.element = some inner → motive inner) → motive ref)
    (ref : TypeRef) : motive ref := by
  refine TypeRef.toJson.induct motive
    (fun element => ∀ inner, element = some inner → motive inner) ?_ ?_ ?_ ref
  · intro kind scalar reference element size ih
    exact h _ ih
  · intro inner hinner
    cases hinner
  · rintro inner ih _ ⟨⟩
    exact ih

/-- What holds of a definition whenever it holds of the definitions nested in it holds of all. -/
theorem TypeDef.induction {motive : TypeDef → Prop}
    (h : ∀ definition : TypeDef, (∀ items, definition.subTypes = some items →
      ∀ inner, some inner ∈ items → motive inner) → motive definition) (definition : TypeDef) :
    motive definition := by
  refine TypeDef.toJson.induct motive
    (fun subTypes => ∀ items, subTypes = some items → ∀ inner, some inner ∈ items → motive inner)
    (fun items => ∀ inner, some inner ∈ items → motive inner) ?_ ?_ ?_ ?_ ?_ ?_ definition
  · intro name kind fields subTypes storage values aliased comment ih
    exact h _ ih
  · intro items hitems
    cases hitems
  · rintro subTypes ih items ⟨⟩
    exact ih
  · intro inner hinner
    cases hinner
  · intro rest ih inner hinner
    exact ih inner ((List.mem_cons.mp hinner).resolve_left (Option.some_ne_none inner))
  · intro first rest hfirst ih inner hinner
    rcases List.mem_cons.mp hinner with heq | hinner
    · rwa [Option.some.inj heq]
    · exact ih inner hinner

/-! ### Parts of an object -/

/-- A decoder of objects reads an object back from its JSON value. -/
structure Inverts {α : Type} (decode : Json → Except DecodeError α) (encode : α → Json) (a : α) :
    Prop where
  decoded : decode (encode a) = .ok a
  present : isNull (encode a) = false

theorem textOf_textJson (text : Option String) : textOf (textJson text) = text := by
  cases text with
  | none => rfl
  | some text => rfl

theorem sizeOf_sizeJson (size : ArraySize) : sizeOf? (sizeJson (some size)) = .ok size := by
  cases size with
  | count n => rfl
  | flag b => rfl

theorem textsOf_listJson (texts : List String) :
    textsOf (listJson Json.str (some texts)) = .ok texts := by
  have hdisplay : Json.display ∘ Json.str = id := rfl
  rw [listJson, textsOf, List.map_map, hdisplay, List.map_id]

section Entries

variable {α : Type} {decode : Json → Except DecodeError α} {encode : α → Json}

theorem entry_entryJson {listed : Option α} (h : ∀ a, listed = some a → Inverts decode encode a) :
    entry decode (entryJson encode listed) = .ok listed := by
  cases listed with
  | none => rfl
  | some a =>
      have hinverts := h a rfl
      rw [entry, entryJson, hinverts.present, hinverts.decoded]
      rfl

theorem mapM_entryJson {listed : List (Option α)}
    (h : ∀ a, some a ∈ listed → Inverts decode encode a) :
    (listed.map (entryJson encode)).mapM (entry decode) = .ok listed := by
  induction listed with
  | nil => rfl
  | cons first rest ih =>
      have hfirst : entry decode (entryJson encode first) = .ok first :=
        entry_entryJson fun a ha => h a (ha ▸ List.mem_cons_self)
      have hrest := ih fun a ha => h a (List.mem_cons_of_mem _ ha)
      rw [List.map_cons, List.mapM_cons, hfirst, hrest]
      rfl

end Entries

section Lookups

variable {α : Type} {key : String} {members : Members}

theorem requiredText_of_lookup {text : Option String}
    (h : members.lookup key = some (textJson text)) : requiredText key members = .ok text := by
  rw [requiredText, h]
  exact congrArg Except.ok (textOf_textJson text)

theorem optionalText_of_lookup {text : Option String}
    (h : members.lookup key = some (textJson text)) : optionalText key members = text := by
  rw [optionalText, h]
  exact textOf_textJson text

theorem optionalSize_of_lookup {size : Option ArraySize}
    (h : members.lookup key = some (sizeJson size)) : optionalSize key members = .ok size := by
  rw [optionalSize, h]
  cases size with
  | none => rfl
  | some size =>
      cases size with
      | count n => rfl
      | flag b => rfl

theorem optionalTexts_of_lookup {missing texts : Option (List String)}
    (h : members.lookup key = some (listJson Json.str texts)) :
    optionalTexts key missing members = .ok texts := by
  rw [optionalTexts, h]
  cases texts with
  | none => rfl
  | some texts => exact congrArg (Except.map some) (textsOf_listJson texts)

theorem records_of_lookup {decode : Json → Except DecodeError α} {encode : α → Json}
    {listed : Option (List (Option α))}
    (h : members.lookup key = some (listJson (entryJson encode) listed))
    (hall : ∀ items, listed = some items → ∀ a, some a ∈ items → Inverts decode encode a) :
    records decode key members = .ok listed := by
  rw [records, h]
  cases listed with
  | none => rfl
  | some items => exact congrArg (Except.map some) (mapM_entryJson (hall items rfl))

theorem optionalType_of_lookup {written : Option TypeRef}
    (h : members.lookup key = some (entryJson TypeRef.toJson written))
    (hwritten : ∀ ref, written = some ref → Inverts TypeRef.decode TypeRef.toJson ref) :
    optionalType key members = .ok written := by
  have hentry : ∀ value, members.lookup key = some value →
      optionalType key members = entry TypeRef.decode value := by
    intro value hvalue
    rw [optionalType, hvalue]
    cases value <;> rfl
  rw [hentry _ h, entry_entryJson hwritten]

theorem requiredType_of_lookup {written : Option TypeRef}
    (h : members.lookup key = some (entryJson TypeRef.toJson written))
    (hwritten : ∀ ref, written = some ref → Inverts TypeRef.decode TypeRef.toJson ref) :
    requiredType key members = .ok written := by
  rw [← optionalType_of_lookup h hwritten, requiredType, optionalType, h]
  cases entryJson TypeRef.toJson written <;> rfl

end Lookups

/-! ### Objects -/

theorem TypeRef.inverts (ref : TypeRef) : Inverts TypeRef.decode TypeRef.toJson ref := by
  induction ref using TypeRef.induction with
  | h ref hinner =>
      obtain ⟨kind, scalar, reference, element, size⟩ := ref
      constructor
      · rw [TypeRef.toJson, TypeRef.optionJson_eq, TypeRef.decode, TypeRef.decodeElement_eq,
          requiredText_of_lookup rfl, optionalText_of_lookup rfl, optionalText_of_lookup rfl,
          optionalType_of_lookup rfl hinner, optionalSize_of_lookup rfl]
        rfl
      · rw [TypeRef.toJson]
        rfl

theorem FieldDef.inverts (field : FieldDef) : Inverts FieldDef.decode FieldDef.toJson field := by
  refine ⟨?_, rfl⟩
  rw [FieldDef.toJson, TypeRef.optionJson_eq, FieldDef.decode, requiredText_of_lookup rfl,
    requiredType_of_lookup rfl fun ref _ => ref.inverts, optionalText_of_lookup rfl]
  rfl

theorem EnumValueDef.inverts (value : EnumValueDef) :
    Inverts EnumValueDef.decode EnumValueDef.toJson value := by
  refine ⟨?_, rfl⟩
  rw [EnumValueDef.toJson, EnumValueDef.decode, requiredText_of_lookup rfl,
    optionalText_of_lookup rfl, optionalText_of_lookup rfl]
  rfl

theorem TypeDef.inverts (definition : TypeDef) :
    Inverts TypeDef.decode TypeDef.toJson definition := by
  induction definition using TypeDef.induction with
  | h definition hinner =>
      obtain ⟨name, kind, fields, subTypes, storage, values, aliased, comment⟩ := definition
      constructor
      · rw [TypeDef.toJson, TypeDef.subTypesJson_eq, TypeRef.optionJson_eq, TypeRef.optionJson_eq,
          TypeDef.decode, TypeDef.decodeSubTypes_eq, requiredText_of_lookup rfl,
          requiredText_of_lookup rfl, records_of_lookup rfl fun _ _ field _ => field.inverts,
          records_of_lookup rfl hinner, optionalType_of_lookup rfl fun ref _ => ref.inverts,
          records_of_lookup rfl fun _ _ value _ => value.inverts,
          optionalType_of_lookup rfl fun ref _ => ref.inverts, optionalText_of_lookup rfl]
        rfl
      · rw [TypeDef.toJson]
        rfl

theorem Release.decode_toJson (release : Release) :
    Release.decode release.toJson = .ok release := by
  rw [Release.toJson, Release.decode, requiredText_of_lookup rfl, requiredText_of_lookup rfl,
    records_of_lookup rfl fun _ _ definition _ => definition.inverts, optionalTexts_of_lookup rfl]
  rfl

/-! ### Decoding twice -/

/-- What some value is decoded to is decoded again from its own JSON value. -/
def Settles {α : Type} (decode : Json → Except DecodeError α) (encode : α → Json) : Prop :=
  ∀ value a, decode value = .ok a → decode (encode a) = .ok a

/-- What some members of an object give for a part, of which there may be none, is given again by
the member that holds its JSON value. -/
def SettlesAt {α : Type} (part : String → Members → Except DecodeError α) (encode : α → Json) :
    Prop :=
  ∀ key members a, part key members = .ok a → part key [(key, encode a)] = .ok a

theorem lookup_singleton (key : String) (value : Json) :
    List.lookup key [(key, value)] = some value := by
  rw [List.lookup_cons, beq_self_eq_true]

/-- A document is decoded from its JSON value as it was decoded from any other, and so is every
object in it. The same holds of the values that are read for others: numbers for texts, texts and
truth values for sizes, strings and objects for lists, and members that are null or left out. -/
theorem decoding_settles :
    (Settles Release.decode Release.toJson ∧ Settles TypeDef.decode TypeDef.toJson ∧
      Settles FieldDef.decode FieldDef.toJson ∧ Settles EnumValueDef.decode EnumValueDef.toJson ∧
      Settles TypeRef.decode TypeRef.toJson) ∧
    ((∀ value, textOf (textJson (textOf value)) = textOf value) ∧
      Settles sizeOf? (fun size => sizeJson (some size)) ∧
      Settles textsOf (fun texts => listJson Json.str (some texts))) ∧
    SettlesAt requiredText textJson ∧
    SettlesAt (fun key members => .ok (optionalText key members)) textJson ∧
    SettlesAt optionalSize sizeJson ∧
    (∀ missing, SettlesAt (fun key => optionalTexts key missing) (listJson Json.str)) ∧
    SettlesAt requiredType TypeRef.optionJson ∧ SettlesAt optionalType TypeRef.optionJson ∧
    SettlesAt (records FieldDef.decode) (listJson (entryJson FieldDef.toJson)) ∧
    SettlesAt (records EnumValueDef.decode) (listJson (entryJson EnumValueDef.toJson)) ∧
    SettlesAt (records TypeDef.decode) (listJson (entryJson TypeDef.toJson)) := by
  refine ⟨⟨?_, ?_, ?_, ?_, ?_⟩, ⟨?_, ?_, ?_⟩, ?_, ?_, ?_, ?_, ?_, ?_, ?_, ?_, ?_⟩
  · exact fun _ release _ => release.decode_toJson
  · exact fun _ definition _ => definition.inverts.decoded
  · exact fun _ field _ => field.inverts.decoded
  · exact fun _ value _ => value.inverts.decoded
  · exact fun _ ref _ => ref.inverts.decoded
  · exact fun value => textOf_textJson (textOf value)
  · exact fun _ size _ => sizeOf_sizeJson size
  · exact fun _ texts _ => textsOf_listJson texts
  · exact fun key _ _ _ => requiredText_of_lookup (lookup_singleton key _)
  · exact fun key _ _ _ => congrArg Except.ok (optionalText_of_lookup (lookup_singleton key _))
  · exact fun key _ _ _ => optionalSize_of_lookup (lookup_singleton key _)
  · exact fun _ key _ _ _ => optionalTexts_of_lookup (lookup_singleton key _)
  · intro key _ written _
    rw [TypeRef.optionJson_eq]
    exact requiredType_of_lookup (lookup_singleton key _) fun ref _ => ref.inverts
  · intro key _ written _
    rw [TypeRef.optionJson_eq]
    exact optionalType_of_lookup (lookup_singleton key _) fun ref _ => ref.inverts
  · exact fun key _ _ _ => records_of_lookup (lookup_singleton key _) fun _ _ a _ => a.inverts
  · exact fun key _ _ _ => records_of_lookup (lookup_singleton key _) fun _ _ a _ => a.inverts
  · exact fun key _ _ _ => records_of_lookup (lookup_singleton key _) fun _ _ a _ => a.inverts

/-- A document with a number for its package, nulls, an empty string for a list of values, the size
of an array as a string, an object for a list of comments, and most members left out. -/
def lenientDocument : Json :=
  .obj [("package", .int 7), ("version", .null),
    ("types", .arr [.null, .obj [("name", .bool true), ("kind", .str "typedef"),
      ("values", .str ""), ("fields", .null),
      ("aliased", .obj [("kind", .str "array"), ("size", .str " 16"),
        ("element", .obj [("kind", .str "string"), ("ref", .arr [])])])]]),
    ("unhandled_comments", .obj [("one", .null)])]

theorem decoding_settles_lenient : ∃ release, Release.decode lenientDocument = .ok release ∧
    release.package = some "7" ∧ release.version = none ∧
    release.unhandledComments = some ["one"] ∧ Release.decode release.toJson = .ok release :=
  ⟨_, rfl, rfl, rfl, rfl, decoding_settles.1.1 lenientDocument _ rfl⟩

end HalBridge.Document
