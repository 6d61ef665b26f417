import ComponentMigration.Json.Value
import ComponentMigration.Module.Logic
import ComponentMigration.Record.Outcome
import ComponentMigration.Source.Visit

/-!
# Outlines of documents

What a source file declares, imports, exports and calls, as a table of the data notation.
-/

namespace ComponentMigration

/-- A declaration as a table. -/
def Declaration.toJson (d : Declaration) : Json :=
  let info := d.statement.node.info
  .obj [("statement", .str d.statement.node.kind), ("declaration", .str d.node.kind),
    ("exported", .bool d.exported),
    ("lines", .arr [Json.nat info.startLine, Json.nat info.endLine]),
    ("column", Json.nat info.startColumn), ("name", Json.ofText? (declaredName d.node)),
    ("names", Json.texts (declaredNames d.node)),
    ("function", Json.ofText? (d.node.functionOf.map Node.kind)),
    ("doc", Json.ofText? d.statement.documentation?), ("logic", .bool (isLogicStatement d.node)),
    ("refs", Json.texts (Text.sorted (Text.unique (references d.node)))),
    ("handlers", Json.texts (eventHandlers d.node))]

/-- The roles that children of a node play, in the order of their names. -/
def Node.roles (n : Node) : List String :=
  Text.sorted (Text.unique ((n.children.map (·.info.field)).filter (!·.isEmpty)))

/-- A node as a row. -/
def Node.row (n : Node) : Json :=
  .arr [.str n.kind, .bool n.info.named, Json.nat n.info.startLine, Json.nat n.info.startColumn,
    Json.nat n.info.endLine, Json.texts n.roles, .bool n.info.missing]

/-- Where a name is declared, as a row. -/
def siteRow (root : Node) (name : String) : Json :=
  match findDeclaration root name with
  | some site =>
    Json.texts [name, site.statement.node.kind, site.node.kind, site.node.text]
  | none => .arr [.str name, .null]

/-- The outline of a document, with the sites of some names. -/
def Document.outline (d : Document) (limit : Int) (names : List String) : Assoc Json :=
  let root := d.root
  let measure := root.complexity
  [("language", .str d.language.label), ("has_errors", .bool d.hasErrors),
    ("positions", .arr (d.errorPositions.map fun (l, c) => .arr [Json.nat l, Json.nat c])),
    ("described", Json.texts (d.describeErrors limit)),
    ("cyclomatic", Json.nat measure.cyclomatic), ("cognitive", Json.nat measure.cognitive),
    ("callees", Json.texts ((root.findAll ["call_expression"]).map Node.calleeName)),
    ("strings", Json.texts ((root.findAll ["string", "template_string"]).map fun n =>
      stringValue (some n))),
    ("imports", .arr ((importStatements root).map fun s => Json.texts (importBindings s))),
    ("import_groups", (importGroups root).toJson), ("exports", Json.texts (exportedNames root)),
    ("found", .arr (names.map (siteRow root))),
    ("declarations", .arr ((declarations root).map Declaration.toJson))]

end ComponentMigration
