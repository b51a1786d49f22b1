import Prism.Json.Writer

namespace Prism.Template

/-- A JSON string that is also safe inside markup: angle brackets, ampersands and single quotes are
escaped too. -/
def scriptLiteral (text : String) : String :=
  String.ofList ((Json.writeText text).toList.flatMap fun c =>
    if c = '<' || c = '>' || c = '&' || c = '\'' then Json.unitEscape c.toNat else [c])

def markupChar (c : Char) : List Char :=
  if c = '&' then "&amp;".toList
  else if c = '<' then "&lt;".toList
  else if c = '>' then "&gt;".toList
  else if c = '\'' then "&#39;".toList
  else if c = '"' then "&#34;".toList
  else [c]

def markup (text : String) : String :=
  String.ofList (text.toList.flatMap markupChar)

/-- The first letter as a capital and the others small. -/
def titled (text : String) : String :=
  match text.toList with
  | [] => ""
  | c :: rest => String.ofList (c.toUpper :: rest.map Char.toLower)

def small (text : String) : String :=
  String.ofList (text.toList.map Char.toLower)

end Prism.Template
