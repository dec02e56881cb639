import SchemaBinding.Code.Structs.Declaration
import SchemaBinding.Code.Title
import SchemaBinding.Layout

/-!
# `SchemaBinding.Code.Structs.Layout`: how structs are laid out

Each declaration as a layout: where its lines may end, what belongs together and what is indented.
-/

set_option autoImplicit false

namespace SchemaBinding

namespace Layout

/-- Items with commas between them. The last has a comma too when the line ends after it. -/
def listed : List (List Layout) → List Layout
  | [] => []
  | [item] => item ++ [.gap { before := "," }]
  | item :: rest => item ++ [.text ",", space] ++ listed rest

/-- Items with commas between them, indented, with line ends inside of their brackets. -/
def indentedList (items : List (List Layout)) : List Layout :=
  consistent 4 (unindent 4 (softBreak :: listed items))

/-- A head, an indented block of lines in braces, and a line end. -/
def block (head lines : List Layout) : List Layout :=
  consistent 4 (unindent 4 (head ++ [.text " \x7b", hardBreakBetween] ++ lines)) ++ [.text "\x7d", hardBreak]

/-- Arguments of a call. -/
def arguments (items : List (List Layout)) : List Layout :=
  consistent 0 ([.text "("] ++ indentedList items ++ [.text ")"])

/-- Two operands with an operator between them. The line may end before the operator. -/
def binary (left : List Layout) (operator : String) (right : List Layout) : List Layout :=
  inconsistent 4 (inconsistent (-4) left ++ [space, .text (operator ++ " ")] ++ right)

/-- An expression on its own line. -/
def statement (expression : List Layout) : List Layout := inconsistent 0 expression ++ [hardBreak]

end Layout

open Layout

mutual

def TypeText.layout : TypeText → List Layout
  | .name written => [.text written]
  | .apply head args =>
    [.text (head ++ "<")] ++ consistent 4 (unindent 4 (softBreak :: TypeText.listedLayout args)) ++
      [.text ">"]
  | .reference qualifiers target => .text ("&" ++ qualifiers) :: target.layout

/-- Types with commas between them, as `Layout.listed` has them. -/
def TypeText.listedLayout : List TypeText → List Layout
  | [] => []
  | [t] => t.layout ++ [.gap { before := "," }]
  | t :: rest => t.layout ++ [.text ",", space] ++ TypeText.listedLayout rest

end

/-- A type as it is written. -/
def StructType.typeText : StructType → TypeText
  | builtin name => .name name
  | aliased name => .name ("xs::" ++ name)
  | struct name => .name name.text
  | boxed name => .apply "Box" [.name name.text]
  | optional value => .apply "Option" [value.typeText]
  | sequence value => .apply "Vec" [value.typeText]
  | textTable => .apply "std::collections::BTreeMap" [.name "String", .name "String"]

/-- A type as a layout. -/
def StructType.layout (t : StructType) : List Layout := t.typeText.layout

/-! ## Documentation and attributes -/

/-- Drops the spaces at the end of a line. -/
def trimSpaces (line : List Char) : List Char := Text.dropTailWhile (· = ' ') line

/-- Drops the spaces at the end of every line but the last. -/
def trimInnerSpaces (cs : List Char) : List Char :=
  match cs.splitOn '\n' with
  | [] => []
  | lines => ['\n'].intercalate (lines.dropLast.map trimSpaces ++ [lines.getLastD []])

/-- Whether the comment signs of a text are balanced, when `depth` comments are open before it. -/
def isBalanced (depth : Nat) : List Char → Bool
  | '/' :: '*' :: rest => isBalanced (depth + 1) rest
  | '*' :: '/' :: rest =>
    match depth with
    | 0 => false
    | depth + 1 => isBalanced depth rest
  | _ :: rest => isBalanced depth rest
  | [] => depth = 0

/-- A text of documentation. One line stands after slashes. Several lines make a comment block if the block
can hold them, and else an attribute. -/
def documentationLayout (doc : String) : List Layout :=
  let cs := doc.toList
  if !cs.contains '\n' then [.text ("///" ++ String.ofList (trimSpaces cs)), hardBreak]
  else if isBalanced 0 cs && cs.getLast? != some '/' then
    [.text ("/**" ++ String.ofList (trimInnerSpaces cs) ++ "*/"), hardBreak]
  else [.text ("#[doc = " ++ Text.stringLiteral doc ++ "]"), space]

/-- An attribute with words in parentheses. -/
def attributeLayout (head : String) (words : List String) : List Layout :=
  let separated := (words.map fun word => [Layout.text word]).intersperse [.text ",", space]
  [.text (head ++ "(")] ++
    consistent 4 (unindent 4 ([softBreak] ++ separated.flatten ++ [softBreak])) ++ [.text ")]", space]

/-- A mark as it is written. -/
def FieldMark.text : FieldMark → String
  | rename name => "rename = " ++ Text.stringLiteral name
  | flatten => "flatten"
  | skip => "skip"
  | default => "default"

def FieldMark.layout (mark : FieldMark) : List Layout := attributeLayout "#[serde" [mark.text]

/-! ## Methods -/

/-- The head of a method. -/
def methodHead (isPublic : Bool) (name : String) (parameters : List (List Layout))
    (result : Option (List Layout)) : List Layout :=
  [.text ((if isPublic then "pub fn " else "fn ") ++ name ++ "("), neverBreak] ++
    consistent 0 (unindent 4 (softBreak :: listed parameters)) ++ [.text ")"] ++
    match result with
    | some type => consistent (-4) (.text " -> " :: type)
    | none => []

/-- A parameter with its type. -/
def parameter (name : String) (type : List Layout) : List Layout := .text (name ++ ": ") :: type

def sharedSelf : List Layout := [.text "&self"]

def mutableSelf : List Layout := [.text "&mut self"]

/-- A field of the object. The line may end in front of the dot. -/
def fieldAccess (field : Identifier) : List Layout :=
  consistent 4 (consistent (-4) [.text "self"] ++ [softBreak, .text ("." ++ field.text)])

/-- A call of a method of a field of the object. The line may end in front of the second dot. -/
def fieldCall (field : Identifier) (method : String) (args : List (List Layout)) : List Layout :=
  consistent 4
    (consistent (-4) [.text "self"] ++ [.text ("." ++ field.text), softBreak, .text ("." ++ method)] ++
      arguments args)

/-- A comparison of the value, read as a number, with a bound. -/
def boundLayout (operator : String) (bound : Decimal) : List Layout :=
  let closure : List Layout :=
    inconsistent 0
      (consistent 4 (unindent 4 [.text "|", softBreak, .text "v", .text "|", space]) ++ [neverBreak] ++
        consistent 4
          ([.gap { before := "\x7b" }] ++
            binary [.text "v"] operator [.text (bound.positional ++ "f64")] ++
            [.gap { offset := -4, after := "\x7d" }]))
  consistent 4
    (consistent (-4) [.text "value"] ++ [softBreak, .text ".trim"] ++ arguments [] ++
      [softBreak, .text ".parse::<"] ++ indentedList [[.text "f64"]] ++ [.text ">"] ++ arguments [] ++
      [softBreak, .text ".map_or"] ++ arguments [[.text "false"], closure])

def ValueCheck.layout : ValueCheck → List Layout
  | oneOf values =>
    consistent 4
      (consistent (-4)
        ([.text "["] ++ indentedList (values.map fun v => [.text (Text.stringLiteral v)]) ++ [.text "]"]) ++
        [softBreak, .text ".contains"] ++ arguments [[.text "&value"]])
  | atLeast bound => boundLayout ">=" bound
  | atMost bound => boundLayout "<=" bound

/-- Conditions that must hold together. -/
def checksLayout : List ValueCheck → List Layout
  | [] => [.text "true"]
  | check :: rest => rest.foldl (fun all next => binary all "&&" next.layout) check.layout

namespace StructMethod

def layout : StructMethod → List Layout
  | getter name field type =>
    block (methodHead true name.text [sharedSelf] (some (.text "&" :: type.layout)))
      (statement (.text "&" :: fieldAccess field))
  | setter name field type =>
    block (methodHead true name.text [mutableSelf, parameter "value" type.layout] none)
      (statement
        (inconsistent 0 (fieldAccess field ++ [.text " = ", neverBreak, .text "value"]) ++ [.text ";"]))
  | adder name field value =>
    block (methodHead true name.text [mutableSelf, parameter "value" value.layout] none)
      (statement (fieldCall field "push" [[.text "value"]] ++ [.text ";"]))
  | inserter name field value =>
    block
      (methodHead true name.text
        [mutableSelf, parameter "index" [.text "usize"], parameter "value" value.layout] none)
      (statement (fieldCall field "insert" [[.text "index"], [.text "value"]] ++ [.text ";"]))
  | remover name field value =>
    block
      (methodHead true name.text [mutableSelf, parameter "index" [.text "usize"]] (some value.layout))
      (statement (fieldCall field "remove" [[.text "index"]]))
  | validator name checks =>
    let value := if checks.isEmpty then "_value" else "value"
    block (methodHead true name.text [parameter value [.text "&str"]] (some [.text "bool"]))
      (statement (checksLayout checks))
  | written m =>
    let typed (p : String × Option TypeText) : List Layout :=
      match p.2 with
      | some type => parameter p.1 type.layout
      | none => [.text p.1]
    block (methodHead m.isPublic m.name (m.parameters.map typed) (m.result.map (·.layout)))
      (match m.body with
        | some expression => statement [.text expression]
        | none => [])

end StructMethod

/-! ## Declarations -/

/-- A field, with its marks if they are to be shown. -/
def StructField.layout (isMarked : Bool) (f : StructField) : List Layout :=
  (f.documentation.map documentationLayout).getD [] ++
    (if isMarked then f.marks.flatMap FieldMark.layout else []) ++
    [.text ("pub " ++ f.name.text ++ ": ")] ++ f.type.layout ++ [.text ",", hardBreak]

/-- A struct, followed by its methods if it has any. -/
def Struct.layout (s : Struct) : List Layout :=
  s.documentation.flatMap documentationLayout ++ attributeLayout "#[derive" s.derives ++
    block [.text ("pub struct " ++ s.name.text)] (s.fields.flatMap (StructField.layout s.isMarked)) ++
    if s.methods.isEmpty then []
    else
      block (inconsistent (-4) [.text ("impl " ++ s.name.text)]) (s.methods.flatMap StructMethod.layout)

/-- An alias with its documentation. -/
def aliasLayout (name : String) : List Layout :=
  documentationLayout (" Lexical form of a `" ++ name ++ "` value.") ++
    consistent 4
      ([.text ("pub type " ++ name ++ " = "), neverBreak] ++ inconsistent (-4) [.text "String"] ++
        [.text ";"]) ++ [hardBreak]

/-- The module of aliases, unless there are none. -/
def aliasesLayout (aliases : List String) : List Layout :=
  if aliases.isEmpty then []
  else
    documentationLayout " Built-in schema types without a Rust counterpart." ++
      block [.text "pub mod xs"] (aliases.flatMap aliasLayout)

/-- The declaration that brings the names of derived abilities in. -/
def marksImport : List Layout :=
  [.text "use serde::"] ++
    consistent 4
      (unindent 4
        ([.text "\x7b", softBreak] ++
          inconsistent 0 [.text "Deserialize", .text ",", space, .text "Serialize"] ++
          [.gap { before := "," }]) ++ [.text "\x7d"]) ++ [.text ";", hardBreak]

def StructFile.layout (f : StructFile) : List Layout :=
  consistent 0
    ([.text ("//!" ++ generatedBy), hardBreak] ++
      attributeLayout "#![allow" ["dead_code", "unused_imports"] ++
      (if f.usesMarks then marksImport else []) ++ aliasesLayout f.aliases ++
      f.structs.flatMap Struct.layout)

/-- The text of a file. -/
def StructFile.text (f : StructFile) : String := Layout.render f.layout

end SchemaBinding
