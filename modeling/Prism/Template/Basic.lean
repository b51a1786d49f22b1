namespace Prism

inductive Template : Type → Type 1 where
  | empty {α : Type} : Template α
  | text {α : Type} (value : String) : Template α
  | hole {α : Type} (fill : α → String) : Template α
  | append {α : Type} (first second : Template α) : Template α
  | each {α β : Type} (items : α → List β) (body : Template (α × β)) : Template α
  | joined {α β : Type} (separator : String) (items : α → List β) (body : Template (α × β)) :
    Template α
  | choose {α : Type} (test : α → Bool) (yes no : Template α) : Template α

namespace Template

instance {α : Type} : Coe String (Template α) := ⟨.text⟩

def parts {α : Type} : List (Template α) → Template α
  | [] => .empty
  | [part] => part
  | part :: rest => .append part (parts rest)

def only {α : Type} (test : α → Bool) (part : Template α) : Template α :=
  .choose test part .empty

def renderChars : {α : Type} → Template α → α → List Char
  | _, .empty, _ => []
  | _, .text value, _ => value.toList
  | _, .hole fill, context => (fill context).toList
  | _, .append first second, context => first.renderChars context ++ second.renderChars context
  | _, .each items body, context =>
    (items context).flatMap fun item => body.renderChars (context, item)
  | _, .joined separator items body, context =>
    List.intercalate separator.toList
      ((items context).map fun item => body.renderChars (context, item))
  | _, .choose test yes no, context =>
    if test context then yes.renderChars context else no.renderChars context

def render {α : Type} (template : Template α) (context : α) : String :=
  String.ofList (template.renderChars context)

end Template

end Prism
