import ErDiagram.Reference
import ErDiagram.Violation

/-! Validation. Each rule looks at the whole diagram but reports only on the entity or relationship it is asked about,
    so the violations of a diagram are one segment for each entity and then one for each relationship, in order, and no
    violation hides another. -/

namespace ErDiagram

/-- One violation, if the rule is broken. -/
def report (broken : Bool) (element : Element) (rule : Rule) (value : Option String) : List Violation :=
  if broken then [⟨element, rule, value⟩] else []

namespace Entity

def element (e : Entity) (index : Nat) : Element := .entity index e.name

def attributeElement (e : Entity) (a : Attribute) (place : Nat) : Element := .entityAttribute e.name place a.name

/-! ### Names and options -/

def nameViolations (e : Entity) (index : Nat) : List Violation :=
  report (!isIdentifier e.name) (e.element index) .malformedName (some e.name)

def attributeNameViolations (e : Entity) : List Violation :=
  e.attributes.zipIdx.flatMap fun (a, place) =>
    report (a.key = .plain && a.readsAsKey || !isAttributeName a.name) (e.attributeElement a place) .malformedName
      (some a.name)

def optionViolations (e : Entity) (index : Nat) : List Violation :=
  report (e.options.length ≠ e.kind.optionCount) (e.element index) .optionCount (some (".".intercalate e.options))

/-! ### Keys -/

/-- Exactly one key of the sort that the kind has. -/
def keyCountViolations (e : Entity) (index : Nat) : List Violation :=
  let primaries := (e.keyed .primary).length
  let partials := (e.keyed .partialKey).length
  report (e.kind.hasPrimaryKey && primaries ≠ 1) (e.element index) .primaryKeyCount (some (toString primaries)) ++
    report (e.kind.hasPartialKey && partials ≠ 1) (e.element index) .partialKeyCount (some (toString partials))

/-- No key of a sort that the kind does not have. -/
def keyKindViolations (e : Entity) : List Violation :=
  (e.keyed .primary).flatMap (fun (a, place) =>
      report (!e.kind.hasPrimaryKey) (e.attributeElement a place) .unexpectedPrimaryKey none) ++
    (e.keyed .partialKey).flatMap fun (a, place) =>
      report (!e.kind.hasPartialKey) (e.attributeElement a place) .unexpectedPartialKey none

/-! ### Superclasses -/

/-- An option that is there must be one of the two words. -/
def wordViolations (e : Entity) (index place : Nat) (words : List String) (rule : Rule) : List Violation :=
  match e.options[place]? with
  | some word => report (!words.contains word) (e.element index) rule (some word)
  | none => []

/-- The discriminator of overlapping subclasses has several values at once, that of disjoint ones has not. -/
def suits (disjointness : Option String) (discriminator : Attribute) : Bool :=
  if disjointness = some "overlap" then discriminator.isMultiValued
  else if disjointness = some "disjoint" then !discriminator.isMultiValued
  else true

def discriminatorViolations (e : Entity) (index : Nat) : List Violation :=
  match e.discriminator? with
  | none => [⟨e.element index, .missingDiscriminator, none⟩]
  | some a =>
    report (!suits e.options[1]? a) (e.attributeElement a (e.attributes.length - 1)) .discriminatorShape e.options[1]?

def superclassViolations (e : Entity) (index : Nat) : List Violation :=
  e.wordViolations index 0 ["total", "partial"] .participation ++
    e.wordViolations index 1 ["disjoint", "overlap"] .disjointness ++ e.discriminatorViolations index

end Entity

namespace Diagram

/-! ### Rules on other parts of the diagram -/

/-- No earlier entity has the name. -/
def duplicateViolations (d : Diagram) (index : Nat) (e : Entity) : List Violation :=
  match (d.entities.take index).find? (sameName ·.name e.name) with
  | some earlier => [⟨e.element index, .duplicateEntityName, some earlier.name⟩]
  | none => []

/-- The name refers to exactly one entity. -/
def referenceViolations (d : Diagram) (element : Element) (name : String) : List Violation :=
  match d.resolve name with
  | .found .. => []
  | .missing => [⟨element, .unresolvedReference, some name⟩]
  | .ambiguous _ => [⟨element, .ambiguousReference, some name⟩]

/-- The parent of a subclass is a superclass that is declared before it. -/
def parentViolations (d : Diagram) (index : Nat) (e : Entity) (parent : String) : List Violation :=
  report (!isIdentifier parent) (e.element index) .malformedName (some parent) ++
    d.referenceViolations (e.element index) parent ++
    match d.resolve parent with
    | .found place p =>
      report (p.kind ≠ .superclass) (e.element index) .parentNotSuperclass (some p.name) ++
        report (index ≤ place) (e.element index) .superclassAfterSubclass (some p.name)
    | _ => []

def subclassViolations (d : Diagram) (index : Nat) (e : Entity) : List Violation :=
  match e.parent? with
  | some parent => d.parentViolations index e parent
  | none => []

/-- A weak entity has exactly one owner. -/
def ownerViolations (d : Diagram) (index : Nat) (e : Entity) : List Violation :=
  let owners := (d.relationships.filterMap (·.ownerOf? e.name)).length
  report (owners ≠ 1) (e.element index) .weakOwnerCount (some (toString owners))

def kindViolations (d : Diagram) (index : Nat) (e : Entity) : List Violation :=
  match e.kind with
  | .superclass => e.superclassViolations index
  | .subclass => d.subclassViolations index e
  | .weak => d.ownerViolations index e
  | .strong | .associative => []

def entityViolations (d : Diagram) (index : Nat) (e : Entity) : List Violation :=
  d.duplicateViolations index e ++ e.nameViolations index ++ e.attributeNameViolations ++ e.optionViolations index ++
    e.keyCountViolations index ++ e.keyKindViolations ++ d.kindViolations index e

/-! ### Relationships -/

def endViolations (d : Diagram) (element : Element) (name : String) : List Violation :=
  report (!isIdentifier name) element .malformedName (some name) ++ d.referenceViolations element name

def relationshipViolations (d : Diagram) (index : Nat) (r : Relationship) : List Violation :=
  let element := Element.relationship index r.name
  report (!isRelationshipName r.name) element .malformedName (some r.name) ++
    d.endViolations element r.source ++ d.endViolations element r.target ++
    r.attributes.zipIdx.flatMap fun (a, place) =>
      let element := Element.relationshipAttribute r.name place a.name
      report (a.key ≠ .plain) element .relationshipAttributeKey none ++
        report (!isAttributeName a.name) element .malformedName (some a.name)

/-- Everything that is wrong with the diagram. -/
def violations (d : Diagram) : List Violation :=
  d.entities.zipIdx.flatMap (fun (e, index) => d.entityViolations index e) ++
    d.relationships.zipIdx.flatMap fun (r, index) => d.relationshipViolations index r

/-- The diagram keeps every rule. -/
def Valid (d : Diagram) : Prop := d.violations = []

instance (d : Diagram) : Decidable d.Valid := inferInstanceAs (Decidable (_ = _))

end Diagram
end ErDiagram
