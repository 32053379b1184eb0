import Tabular.Dataset.Basic
import Tabular.Json.Writer

set_option autoImplicit false

namespace Tabular

def Value.json : Value → String
  | .null => "null"
  | .string s => Json.writeString s
  | .integer i => toString i.toInt
  | .number x => Json.numberLayout.write x
  | .boolean b => Json.writeBoolean b
  | .date d => Json.writeString d.render
  | .duration p => Json.writeString p.render

def Component.json (c : Component) : String :=
  let domain :=
    match c.domain with
    | some d => [("value_domain", Json.writeString d)]
    | none => []
  Json.writeObject ([("name", Json.writeString c.name),
    ("value_type", Json.writeString c.type.name), ("role", Json.writeString c.role.name)] ++ domain)

def Dataset.json (d : Dataset) : String :=
  let structureText := Json.writeObject (d.schema.components.map fun c => (c.name, c.json))
  let rows := d.records.map fun r => Json.writeObject (r.map fun (name, v) => (name, v.json))
  Json.writeObject [("structure", structureText), ("rows", Json.writeList rows)]

end Tabular
