import QueryRewriting.Proofs.Entries
import QueryRewriting.Schema.Document

/-! Which documents describe a model. A document is taken in one entry after the other, but it is
accepted exactly if it is consistent as a whole, and the model does not depend on the order of its
entries. -/
namespace QueryRewriting.Schema

/-- An entity type that is well-formed by itself: it has a name, and its key fields are declared,
required and primitive. -/
structure EntityType.Sound (type : EntityType) : Prop where
  named : type.name ≠ ""
  keyed : ∀ key ∈ type.key, ∃ definition, type.field? key = some definition ∧
    definition.required = true ∧ definition.type.target? = none

/-- A document whose entries fit together. -/
structure ModelDocument.Consistent (document : ModelDocument) : Prop where
  sound : ∀ type ∈ document.entityTypes, type.Sound
  typesApart : (document.entityTypes.map EntityType.name).Nodup
  sourcesApart : (document.collections.map SourceEntry.name ++
    document.singletons.map SourceEntry.name ++ document.functions.map Function.name).Nodup
  collectionsTyped : ∀ entry ∈ document.collections,
    entry.entity ∈ document.entityTypes.map EntityType.name
  singletonsTyped : ∀ entry ∈ document.singletons,
    entry.entity ∈ document.entityTypes.map EntityType.name
  functionsTyped : ∀ function ∈ document.functions,
    function.returns ∈ document.entityTypes.map EntityType.name
  entitySets : ∀ function ∈ document.functions, ∀ set, function.entitySet = some set →
    set ∈ document.collections.map SourceEntry.name
  navigations : ∀ type ∈ document.entityTypes, ∀ field ∈ type.fields, ∀ target,
    field.2.type.target? = some target → target ∈ document.entityTypes.map EntityType.name

/-- Two documents that list the same entries in some order. -/
structure ModelDocument.Relisted (document other : ModelDocument) : Prop where
  space : document.space = other.space
  entityTypes : document.entityTypes.Perm other.entityTypes
  collections : document.collections.Perm other.collections
  singletons : document.singletons.Perm other.singletons
  functions : document.functions.Perm other.functions

theorem EntityType.keyFlaw?_eq_none_iff (type : EntityType) (key : String) :
    type.keyFlaw? key = none ↔ ∃ definition, type.field? key = some definition ∧
      definition.required = true ∧ definition.type.target? = none := by
  unfold keyFlaw?
  cases type.field? key with
  | none => simp
  | some definition =>
    simp only [Option.some.injEq, exists_eq_left']
    cases definition.required <;> simp

theorem EntityType.flaw?_eq_none_iff (type : EntityType) : type.flaw? = none ↔ type.Sound := by
  unfold flaw?
  split
  · next unnamed =>
    simp only [reduceCtorEq, false_iff]
    exact fun sound => sound.named unnamed
  · next named =>
    simp only [List.findSome?_eq_none_iff, keyFlaw?_eq_none_iff]
    exact ⟨fun keyed => ⟨named, keyed⟩, EntityType.Sound.keyed⟩

/-- An entity type under its name. -/
def EntityType.entry (type : EntityType) : String × EntityType := (type.name, type)

/-- A source under its name. -/
def Element.entry (element : Element) : String × Element := (element.name, element)

namespace Model

/-- What adding an entity type needs and does. -/
theorem addEntityType_eq_ok_iff {model after : Model} {type : EntityType} :
    model.addEntityType type = .ok after ↔
      type.Sound ∧ type.name ∉ Entries.names model.entityTypes ∧
        after = { model with entityTypes := Entries.insert type.name type model.entityTypes } := by
  rw [← EntityType.flaw?_eq_none_iff, ← Entries.contains_iff]
  unfold addEntityType
  cases type.flaw? with
  | some flaw => simp
  | none =>
    cases Entries.contains model.entityTypes type.name with
    | true => simp
    | false => simp [@eq_comm _ after]

/-- What adding a source needs and does. -/
theorem addElement_eq_ok_iff {model after : Model} {element : Element} :
    model.addElement element = .ok after ↔
      element.entity ∈ Entries.names model.entityTypes ∧
      (∀ set, entitySet? element = some set → model.hasCollection set = true) ∧
      element.name ∉ Entries.names model.elements ∧
      after = { model with elements := Entries.insert element.name element model.elements } := by
  rw [← Entries.contains_iff, ← Entries.contains_iff]
  unfold addElement
  cases Entries.contains model.entityTypes element.entity with
  | false => simp
  | true =>
    cases fixed : entitySet? element with
    | none =>
      cases Entries.contains model.elements element.name with
      | true => simp
      | false => simp [@eq_comm _ after]
    | some set =>
      cases known : model.hasCollection set with
      | false => simp [Option.filter, known]
      | true =>
        cases Entries.contains model.elements element.name with
        | true => simp [Option.filter, known]
        | false => simp [Option.filter, known, @eq_comm _ after]

theorem registers_types : Entries.Registers addEntityType entityTypes
    (fun model types => { model with entityTypes := types }) EntityType.entry
    (fun _ type => type.Sound) where
  adds _ _ _ := addEntityType_eq_ok_iff
  placed _ _ := rfl
  replaced _ _ _ := rfl
  unchanged _ := rfl

theorem registers_elements : Entries.Registers addElement elements
    (fun model elements => { model with elements := elements }) Element.entry
    (fun model element => element.entity ∈ Entries.names model.entityTypes ∧
      ∀ set, entitySet? element = some set → model.hasCollection set = true) where
  adds _ _ _ := by rw [addElement_eq_ok_iff, and_assoc]; rfl
  placed _ _ := rfl
  replaced _ _ _ := rfl
  unchanged _ := rfl

/-- A source that is no collection does not add one. -/
theorem hasCollection_insert {model : Model} {element : Element}
    (plain : element.isCollection = false)
    (fresh : element.name ∉ Entries.names model.elements) (set : String) :
    hasCollection { model with
      elements := Entries.insert element.name element model.elements } set =
        model.hasCollection set := by
  unfold hasCollection
  by_cases same : set = element.name
  · have absent : Entries.find? model.elements set = none := by
      rw [← Entries.contains_iff, same.symm] at fresh
      simpa [Entries.contains] using fresh
    rw [absent, same, Entries.find?_insert_self]
    simpa using plain
  · rw [Entries.find?_insert_of_ne same]

theorem addTypes_eq_ok_iff {model after : Model} {types : List EntityType}
    (bare : model.entityTypes = []) :
    types.foldlM addEntityType model = .ok after ↔
      (∀ type ∈ types, type.Sound) ∧ (types.map EntityType.name).Nodup ∧
        after = { model with entityTypes := Entries.ofList (types.map EntityType.entry) } := by
  rw [registers_types.foldlM_eq_ok_iff fun item listed other listed' state fresh => Iff.rfl, bare]
  constructor
  · rintro ⟨sound, nodup, -, rfl⟩
    exact ⟨sound, nodup, rfl⟩
  · rintro ⟨sound, nodup, rfl⟩
    exact ⟨sound, nodup, fun type listed => List.not_mem_nil, rfl⟩

/-- Sources that fix no collection can be added in any state. -/
theorem addPlain_eq_ok_iff {model after : Model} {elements : List Element}
    (bare : model.elements = []) (unfixed : ∀ element ∈ elements, entitySet? element = none) :
    elements.foldlM addElement model = .ok after ↔
      (∀ element ∈ elements, element.entity ∈ Entries.names model.entityTypes) ∧
      (elements.map Element.name).Nodup ∧
      after = { model with elements := Entries.ofList (elements.map Element.entry) } := by
  rw [registers_elements.foldlM_eq_ok_iff fun item listed other listed' state fresh => by
    simp [unfixed other listed'], bare]
  constructor
  · rintro ⟨fits, nodup, -, rfl⟩
    exact ⟨fun element listed => (fits element listed).1, nodup, rfl⟩
  · rintro ⟨typed, nodup, rfl⟩
    refine ⟨fun element listed => ⟨typed element listed, fun set fixed => ?_⟩, nodup, ?_, rfl⟩
    · rw [unfixed element listed] at fixed
      contradiction
    · exact fun element listed => List.not_mem_nil

/-- Functions may be added if the collections they fix are there. -/
theorem addFunctions_eq_ok_iff {model after : Model} {elements : List Element}
    (plain : ∀ element ∈ elements, element.isCollection = false) :
    elements.foldlM addElement model = .ok after ↔
      (∀ element ∈ elements, element.entity ∈ Entries.names model.entityTypes) ∧
      (∀ element ∈ elements, ∀ set, entitySet? element = some set →
        model.hasCollection set = true) ∧
      (elements.map Element.name).Nodup ∧
      (∀ element ∈ elements, element.name ∉ Entries.names model.elements) ∧
      after = { model with
        elements := Entries.insertAll (elements.map Element.entry) model.elements } := by
  rw [registers_elements.foldlM_eq_ok_iff fun item listed other listed' state fresh => by
    simp only [Element.entry, hasCollection_insert (plain item listed) fresh]]
  simp only [forall_and, and_assoc]
  rfl

end Model

/-- The collections, and then the singletons of a document. -/
def ModelDocument.plain (document : ModelDocument) : List Element :=
  document.collections.map (fun entry => .collection entry.name entry.entity) ++
    document.singletons.map fun entry => .singleton entry.name entry.entity

/-- The collections of a document are the collections of a model of its plain sources. -/
theorem ModelDocument.hasCollection_plain {document : ModelDocument}
    (nodup : (document.plain.map Element.name).Nodup) {model : Model} (set : String) :
    Model.hasCollection
      { model with elements := Entries.ofList (document.plain.map Element.entry) } set = true ↔
        set ∈ document.collections.map SourceEntry.name := by
  have keys : ((document.plain.map Element.entry).map Prod.fst).Nodup := by
    rw [List.map_map]
    exact nodup
  have found (element : Element) :
      Entries.find? (Entries.ofList (document.plain.map Element.entry)) set = some element ↔
        (set, element) ∈ document.plain.map Element.entry := by
    rw [Entries.find?_eq_some_iff (Entries.sorted_ofList _).nodup]
    exact (Entries.perm_ofList keys).mem_iff
  unfold Model.hasCollection
  rw [Option.any_eq_true]
  simp only [found]
  simp only [plain, List.map_append, List.map_map, List.mem_append, List.mem_map]
  constructor
  · rintro ⟨element, ⟨entry, listed, same⟩ | ⟨entry, listed, same⟩, collection⟩
    · cases same
      exact ⟨entry, listed, rfl⟩
    · cases same
      contradiction
  · rintro ⟨entry, listed, rfl⟩
    exact ⟨_, .inl ⟨entry, listed, rfl⟩, rfl⟩

/-- What adding all sources of a document to a model without sources needs and does. A function may
fix any collection of the document, since collections come first. -/
theorem ModelDocument.addElements_eq_ok_iff {document : ModelDocument} {model after : Model}
    (bare : model.elements = []) :
    document.elements.foldlM Model.addElement model = .ok after ↔
      (∀ element ∈ document.elements, element.entity ∈ Entries.names model.entityTypes) ∧
      (∀ function ∈ document.functions, ∀ set, function.entitySet = some set →
        set ∈ document.collections.map SourceEntry.name) ∧
      (document.elements.map Element.name).Nodup ∧
      after = { model with
        elements := Entries.ofList (document.elements.map Element.entry) } := by
  have split : document.elements = document.plain ++ document.functions.map .function := rfl
  have unfixed : ∀ element ∈ document.plain, Model.entitySet? element = none := by
    simp [plain, or_imp, forall_and, Model.entitySet?]
  have functions : ∀ element ∈ document.functions.map Element.function,
      element.isCollection = false := by simp [Element.isCollection]
  have inserted : Entries.ofList (document.elements.map Element.entry) =
      Entries.insertAll ((document.functions.map .function).map Element.entry)
        (Entries.ofList (document.plain.map Element.entry)) := by
    rw [split, List.map_append]
    exact Entries.insertAll_append _ _ _
  rw [inserted, split, List.foldlM_append, Entries.bind_eq_ok_iff]
  simp only [Model.addPlain_eq_ok_iff bare unfixed, Model.addFunctions_eq_ok_iff functions,
    List.forall_mem_append, List.map_append, List.nodup_append]
  constructor
  · rintro ⟨_, ⟨typed, nodup, rfl⟩, typed', fixed, nodup', fresh, rfl⟩
    refine ⟨⟨typed, typed'⟩, fun function listed set own => ?_, ⟨nodup, nodup', ?_⟩, rfl⟩
    · rw [← hasCollection_plain nodup set]
      exact fixed _ (List.mem_map_of_mem listed) set own
    · rintro name earlier _ later rfl
      obtain ⟨element, listed, rfl⟩ := List.mem_map.mp later
      exact fresh element listed ((Entries.mem_names_ofList nodup).mpr earlier)
  · rintro ⟨⟨typed, typed'⟩, sets, ⟨nodup, nodup', apart⟩, rfl⟩
    refine ⟨_, ⟨typed, nodup, rfl⟩, typed', fun element listed set own => ?_, nodup', ?_, rfl⟩
    · obtain ⟨function, member, rfl⟩ := List.mem_map.mp listed
      rw [hasCollection_plain nodup set]
      exact sets function member set own
    · intro element listed earlier
      exact apart _ ((Entries.mem_names_ofList nodup).mp earlier) _ (List.mem_map_of_mem listed) rfl

theorem Model.validate_eq_ok_iff {model : Model} : model.validate = .ok () ↔
    ∀ entry ∈ model.entityTypes, ∀ field ∈ entry.2.fields, ∀ target,
      field.2.type.target? = some target → target ∈ Entries.names model.entityTypes := by
  have leads (target : String) : target ∈ model.navigationTargets ↔
      ∃ entry ∈ model.entityTypes, ∃ field ∈ entry.2.fields,
        field.2.type.target? = some target := by
    simp [navigationTargets]
  have checked : model.validate = .ok () ↔
      ∀ target ∈ model.navigationTargets, target ∈ Entries.names model.entityTypes := by
    unfold validate
    cases missing : model.navigationTargets.find? (!Entries.contains model.entityTypes ·) with
    | none =>
      simpa [← Entries.contains_iff] using missing
    | some target =>
      have listed := List.mem_of_find?_eq_some missing
      have absent := List.find?_some missing
      simp only [reduceCtorEq, false_iff]
      intro known
      have known := Entries.contains_iff.mpr (known target listed)
      simp [known] at absent
  rw [checked]
  simp only [leads]
  constructor
  · exact fun known entry listed field own target leads =>
      known target ⟨entry, listed, field, own, leads⟩
  · rintro known target ⟨entry, listed, field, own, leads⟩
    exact known entry listed field own target leads

/-- The model that lists the entries of a document. -/
def ModelDocument.assembled (document : ModelDocument) : Model where
  space := document.space
  entityTypes := Entries.ofList (document.entityTypes.map EntityType.entry)
  elements := Entries.ofList (document.elements.map Element.entry)

namespace ModelDocument

theorem names_elements (document : ModelDocument) : document.elements.map Element.name =
    document.collections.map SourceEntry.name ++ document.singletons.map SourceEntry.name ++
      document.functions.map Function.name := by
  simp [elements, Function.comp_def, Element.name]

theorem entities_elements (document : ModelDocument) (names : List String) :
    (∀ element ∈ document.elements, element.entity ∈ names) ↔
      (∀ entry ∈ document.collections, entry.entity ∈ names) ∧
      (∀ entry ∈ document.singletons, entry.entity ∈ names) ∧
      ∀ function ∈ document.functions, function.returns ∈ names := by
  simp only [elements, List.forall_mem_append, List.forall_mem_map, and_assoc]
  rfl

/-- Navigations lead to entity types of a model exactly if they lead to those of its document. -/
theorem navigations_iff {types : List EntityType} (apart : (types.map EntityType.name).Nodup) :
    (∀ entry ∈ Entries.ofList (types.map EntityType.entry), ∀ field ∈ entry.2.fields, ∀ target,
      field.2.type.target? = some target →
        target ∈ Entries.names (Entries.ofList (types.map EntityType.entry))) ↔
      ∀ type ∈ types, ∀ field ∈ type.fields, ∀ target,
        field.2.type.target? = some target → target ∈ types.map EntityType.name := by
  have names {name : String} := @Entries.mem_names_ofList _ _ _ EntityType.entry apart name
  have listed {entry} := @Entries.mem_ofList _ _ _ EntityType.entry apart entry
  simp only [names, listed, List.forall_mem_map]
  rfl

/-- A document describes a model exactly if it is consistent: the one that lists its entries. -/
theorem toModel_eq_ok_iff {document : ModelDocument} {model : Model} :
    document.toModel = .ok model ↔ document.Consistent ∧ model = document.assembled := by
  unfold toModel
  simp only [Entries.bind_eq_ok_iff, Model.addTypes_eq_ok_iff]
  constructor
  · rintro ⟨_, ⟨sound, apart, rfl⟩, taken, added, ⟨⟩, valid, same⟩
    obtain ⟨typed, sets, apart', rfl⟩ := (addElements_eq_ok_iff rfl).mp added
    cases same
    obtain ⟨collections, singletons, functions⟩ := (entities_elements document _).mp typed
    have known {name : String} := (@Entries.mem_names_ofList _ _ _ EntityType.entry apart name).mp
    exact ⟨{
      sound
      typesApart := apart
      sourcesApart := names_elements document ▸ apart'
      collectionsTyped := fun entry listed => known (collections entry listed)
      singletonsTyped := fun entry listed => known (singletons entry listed)
      functionsTyped := fun function listed => known (functions function listed)
      entitySets := sets
      navigations := (navigations_iff apart).mp (Model.validate_eq_ok_iff.mp valid) }, rfl⟩
  · rintro ⟨consistent, rfl⟩
    have apart := consistent.typesApart
    have known {name : String} := (@Entries.mem_names_ofList _ _ _ EntityType.entry apart name).mpr
    refine ⟨_, ⟨consistent.sound, apart, rfl⟩, document.assembled, ?_, ⟨⟩, ?_, rfl⟩
    · rw [addElements_eq_ok_iff rfl, names_elements, entities_elements]
      refine ⟨⟨?_, ?_, ?_⟩, consistent.entitySets, consistent.sourcesApart, rfl⟩
      · exact fun entry listed => known (consistent.collectionsTyped entry listed)
      · exact fun entry listed => known (consistent.singletonsTyped entry listed)
      · exact fun function listed => known (consistent.functionsTyped function listed)
    · exact Model.validate_eq_ok_iff.mpr ((navigations_iff apart).mpr consistent.navigations)

namespace Relisted

variable {document other : ModelDocument}

theorem elements (relisted : document.Relisted other) :
    document.elements.Perm other.elements :=
  ((relisted.collections.map _).append (relisted.singletons.map _)).append
    (relisted.functions.map _)

theorem symm (relisted : document.Relisted other) : other.Relisted document where
  space := relisted.space.symm
  entityTypes := relisted.entityTypes.symm
  collections := relisted.collections.symm
  singletons := relisted.singletons.symm
  functions := relisted.functions.symm

theorem consistent (relisted : document.Relisted other) (consistent : document.Consistent) :
    other.Consistent := by
  have types {name : String} : name ∈ document.entityTypes.map EntityType.name ↔
      name ∈ other.entityTypes.map EntityType.name :=
    (relisted.entityTypes.map EntityType.name).mem_iff
  constructor
  · exact fun type listed => consistent.sound type (relisted.entityTypes.mem_iff.mpr listed)
  · exact (relisted.entityTypes.map _).nodup_iff.mp consistent.typesApart
  · have names := relisted.elements.map Element.name
    rw [names_elements, names_elements] at names
    exact names.nodup_iff.mp consistent.sourcesApart
  · exact fun entry listed =>
      types.mp (consistent.collectionsTyped entry (relisted.collections.mem_iff.mpr listed))
  · exact fun entry listed =>
      types.mp (consistent.singletonsTyped entry (relisted.singletons.mem_iff.mpr listed))
  · exact fun function listed =>
      types.mp (consistent.functionsTyped function (relisted.functions.mem_iff.mpr listed))
  · intro function listed set fixed
    exact (relisted.collections.map _).mem_iff.mp
      (consistent.entitySets function (relisted.functions.mem_iff.mpr listed) set fixed)
  · intro type listed field own target leads
    exact types.mp (consistent.navigations type (relisted.entityTypes.mem_iff.mpr listed) field own
      target leads)

theorem assembled (relisted : document.Relisted other) (consistent : document.Consistent) :
    document.assembled = other.assembled := by
  have types : ((document.entityTypes.map EntityType.entry).map Prod.fst).Nodup := by
    rw [List.map_map]
    exact consistent.typesApart
  have sources : ((document.elements.map Element.entry).map Prod.fst).Nodup := by
    rw [List.map_map]
    exact (names_elements document).symm ▸ consistent.sourcesApart
  unfold ModelDocument.assembled
  rw [relisted.space, Entries.ofList_eq_of_perm types (relisted.entityTypes.map _),
    Entries.ofList_eq_of_perm sources (relisted.elements.map _)]

end Relisted

theorem Relisted.toModel_eq_ok {document other : ModelDocument} {model : Model}
    (relisted : document.Relisted other) (described : document.toModel = .ok model) :
    other.toModel = .ok model := by
  obtain ⟨consistent, rfl⟩ := toModel_eq_ok_iff.mp described
  exact toModel_eq_ok_iff.mpr ⟨relisted.consistent consistent, relisted.assembled consistent⟩

/-- A document describes a model exactly if it is consistent, and in whatever order its entries are
listed it describes the same model. -/
theorem toModel_accepts :
    (∀ document : ModelDocument, (∃ model, document.toModel = .ok model) ↔ document.Consistent) ∧
    ∀ document other : ModelDocument, document.Relisted other →
      document.toModel.toOption = other.toModel.toOption := by
  constructor
  · intro document
    simp only [toModel_eq_ok_iff]
    constructor
    · rintro ⟨_, consistent, -⟩
      exact consistent
    · exact fun consistent => ⟨_, consistent, rfl⟩
  · intro document other relisted
    cases described : document.toModel with
    | ok model => rw [relisted.toModel_eq_ok described]
    | error error =>
      cases described' : other.toModel with
      | ok model =>
        have same := relisted.symm.toModel_eq_ok described'
        rw [described] at same
        contradiction
      | error error' => rfl

/-- The customers of a model and their orders, listed in two orders. -/
theorem customers_and_orders_relisted :
    let customer : EntityType :=
      { name := "Customer", fields := [("Orders", ⟨.collection "Order", false⟩)] }
    let order : EntityType := { name := "Order", key := ["Id"], fields := [("Id", ⟨.int, true⟩)] }
    let document : ModelDocument := {
      space := "S", entityTypes := [customer, order]
      collections := [⟨"Customers", "Customer"⟩, ⟨"Orders", "Order"⟩]
      functions := [{ name := "Recent", returns := "Order", entitySet := some "Orders" }] }
    let other : ModelDocument := {
      document with
      entityTypes := [order, customer]
      collections := [⟨"Orders", "Order"⟩, ⟨"Customers", "Customer"⟩] }
    ∃ model, document.toModel = .ok model ∧ other.toModel = .ok model := by
  intro customer order document other
  obtain ⟨accepts, agree⟩ := toModel_accepts
  have relisted : document.Relisted other := {
    space := rfl
    entityTypes := .swap _ _ _
    collections := .swap _ _ _
    singletons := .refl _
    functions := .refl _ }
  have consistent : document.Consistent := {
    sound := by
      refine List.forall_mem_cons.mpr ⟨⟨by decide, List.forall_mem_nil _⟩,
        List.forall_mem_singleton.mpr ⟨by decide, List.forall_mem_singleton.mpr ?_⟩⟩
      exact ⟨⟨.int, true⟩, rfl, rfl, rfl⟩
    typesApart := by decide
    sourcesApart := by decide
    collectionsTyped := by decide
    singletonsTyped := by decide
    functionsTyped := by decide
    entitySets := List.forall_mem_singleton.mpr (by rintro _ ⟨⟩; decide)
    navigations := by
      refine List.forall_mem_cons.mpr ⟨List.forall_mem_singleton.mpr ?_,
        List.forall_mem_singleton.mpr (List.forall_mem_singleton.mpr ?_)⟩
      · rintro _ ⟨⟩
        decide
      · rintro _ ⟨⟩ }
  obtain ⟨model, described⟩ := (accepts document).mpr consistent
  refine ⟨model, described, ?_⟩
  have same := agree document other relisted
  rw [described] at same
  cases described' : other.toModel with
  | ok found =>
    rw [described'] at same
    cases same
    rfl
  | error error =>
    rw [described'] at same
    contradiction

end ModelDocument

end QueryRewriting.Schema
