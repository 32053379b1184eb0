import Tabular.Dataset.Basic

set_option autoImplicit false

namespace Tabular.Dataset

def heading (c : Component) : String :=
  match c.role with
  | .identifier => "*" ++ c.name
  | .attribute => "@" ++ c.name
  | .measure => c.name

def cellText : Value → String
  | .string s => "\"" ++ s ++ "\""
  | v => v.render

def widen : List Nat → List String → List Nat
  | w :: ws, c :: cs => max w c.length :: widen ws cs
  | ws, _ => ws

def pad (width : Nat) (s : String) : String :=
  s ++ String.ofList (List.replicate (width - s.length) ' ')

def line (widths : List Nat) (cells : List String) : String :=
  Text.trimEnd (" | ".intercalate ((widths.zip cells).map fun (w, c) => pad w c)) ++ "\n"

def table (d : Dataset) (name : String) (limit : Nat) : String :=
  let headings := d.schema.components.map heading
  let rows := d.sortedRows
  let shown := (rows.take limit).map fun r => r.map cellText
  let widths := shown.foldl widen (headings.map String.length)
  let rule := "-+-".intercalate (widths.map fun w => String.ofList (List.replicate w '-'))
  let title := "DATASET '" ++ name ++ "' (" ++ toString rows.length ++ " rows):\n"
  let more :=
    if shown.length < rows.length then
      "... " ++ toString (rows.length - shown.length) ++ " more rows\n"
    else ""
  title ++ line widths headings ++ rule ++ "\n" ++ String.join (shown.map (line widths)) ++ more

end Tabular.Dataset
