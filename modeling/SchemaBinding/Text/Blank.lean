/-!
# `SchemaBinding.Text.Blank`: white space

White space is the Unicode property White_Space. The module trims a text, cuts it into lines and cuts it
into words. All three work on lists of characters and have a `String` face.
-/

set_option autoImplicit false

namespace SchemaBinding.Text

/-- Whether `c` has the property White_Space. -/
def isBlank (c : Char) : Bool :=
  [(0x9, 0xD), (0x20, 0x20), (0x85, 0x85), (0xA0, 0xA0), (0x1680, 0x1680), (0x2000, 0x200A),
    (0x2028, 0x2029), (0x202F, 0x202F), (0x205F, 0x205F), (0x3000, 0x3000)].any
    fun (r : Nat × Nat) => r.1 ≤ c.toNat && c.toNat ≤ r.2

/-- Drops the longest tail of characters that satisfy `p`. -/
def dropTailWhile (p : Char → Bool) (cs : List Char) : List Char :=
  (cs.reverse.dropWhile p).reverse

/-- Drops the white space on both sides. -/
def trimmed (cs : List Char) : List Char :=
  dropTailWhile isBlank (cs.dropWhile isBlank)

/-- The text without the white space on both sides. -/
def trim (s : String) : String :=
  String.ofList (trimmed s.toList)

/-- The text without the white space at its end. -/
def trimEnd (s : String) : String :=
  String.ofList (dropTailWhile isBlank s.toList)

/-- The lines of a text. A line feed ends a line, and the last line needs none. -/
def lineChars : List Char → List (List Char)
  | [] => []
  | c :: rest =>
    if c = '\n' then [] :: lineChars rest
    else
      match lineChars rest with
      | [] => [[c]]
      | line :: lines => (c :: line) :: lines

/-- The lines of a text, each trimmed. A carriage return before the line feed is white space. -/
def trimmedLines (s : String) : List String :=
  (lineChars s.toList).map fun line => String.ofList (trimmed line)

/-- The maximal runs of characters that satisfy `p`. -/
def runsOf (p : Char → Bool) : List Char → List (List Char)
  | [] => []
  | [c] => if p c then [[c]] else []
  | c :: d :: rest =>
    if p c then
      if p d then
        match runsOf p (d :: rest) with
        | [] => [[c]]
        | run :: runs => (c :: run) :: runs
      else [c] :: runsOf p (d :: rest)
    else runsOf p (d :: rest)

/-- The words of a text, which white space separates. -/
def words (s : String) : List String :=
  (runsOf (fun c => !isBlank c) s.toList).map String.ofList

/-- Whether `part` occurs in `cs` as a run of consecutive characters. -/
def occursIn (part : List Char) : List Char → Bool
  | [] => part.isEmpty
  | c :: rest => part.isPrefixOf (c :: rest) || occursIn part rest

/-- Puts `new` in front of the last place where `part` occurs, if it occurs. -/
def insertBeforeLast? (part new : List Char) : List Char → Option (List Char)
  | [] => if part.isEmpty then some new else none
  | c :: rest =>
    match insertBeforeLast? part new rest with
    | some found => some (c :: found)
    | none => if part.isPrefixOf (c :: rest) then some (new ++ c :: rest) else none

/-- Passes over `skip` characters, and then replaces `part` by `new` wherever it occurs. -/
def replaceFrom (part new : List Char) (skip : Nat) : List Char → List Char
  | [] => []
  | c :: rest =>
    match skip with
    | skip + 1 => replaceFrom part new skip rest
    | 0 =>
      if part.isPrefixOf (c :: rest) then new ++ replaceFrom part new (part.length - 1) rest
      else c :: replaceFrom part new 0 rest

/-- Replaces `part`, which is not empty, by `new` wherever it occurs, from left to right. -/
def replaceAll (s part new : String) : String :=
  String.ofList (replaceFrom part.toList new.toList 0 s.toList)

end SchemaBinding.Text
