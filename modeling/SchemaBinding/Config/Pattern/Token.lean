import SchemaBinding.Config.Pattern

/-!
# `SchemaBinding.Config.Pattern.Token`: the tokens of a written pattern

A written pattern is cut into tokens first: characters, classes, places, brackets, bars, repetitions and flags.
A text that cannot be cut is no pattern.
-/

set_option autoImplicit false

namespace SchemaBinding.Pattern

/-- Settings that flags switch. -/
structure Flags where
  ignoresCase : Bool := false
  /-- Whether `^` and `$` hold at every line of the text. -/
  multiLine : Bool := false
  /-- Whether `.` takes line feeds. -/
  dotTakesAll : Bool := false
  deriving Repr, DecidableEq, Inhabited

/-- A flag as it is written. -/
def Flags.set (f : Flags) (flag : Char) (value : Bool) : Flags :=
  if flag = 'i' then { f with ignoresCase := value }
  else if flag = 'm' then { f with multiLine := value }
  else if flag = 's' then { f with dotTakesAll := value }
  else f

/-- The flags that a group may switch. Two of them do not change what a pattern matches. -/
def flagLetters : List Char := ['i', 'm', 's', 'U', 'u']

/-- A token of a written pattern. -/
inductive Token where
  | literal (c : Char)
  | cls (isNegated : Bool) (items : List ClassItem)
  | dot
  | caret
  | dollar
  | place (test : PlaceTest)
  | openGroup (name : Option String) (switched : List (Char × Bool))
  | closeGroup
  | bar
  | repetition (least : Nat) (most : Option Nat)
  | setFlags (switched : List (Char × Bool))
  deriving Repr, DecidableEq, Inhabited

/-- What an escape stands for. -/
inductive Escape where
  | literal (c : Char)
  | named (cls : NamedClass) (isNegated : Bool)
  | place (test : PlaceTest)
  deriving Repr, DecidableEq, Inhabited

/-- The value of hexadecimal digits, if they are the number of a character. -/
def hexCharacter? (digits : List Char) : Option Char :=
  let value? (c : Char) : Option Nat :=
    if '0' ≤ c && c ≤ '9' then some (c.toNat - '0'.toNat)
    else if 'a' ≤ c && c ≤ 'f' then some (c.toNat - 'a'.toNat + 10)
    else if 'A' ≤ c && c ≤ 'F' then some (c.toNat - 'A'.toNat + 10)
    else none
  if digits.isEmpty then none
  else
    (digits.foldlM (fun n c => (value? c).map (16 * n + ·)) 0).bind fun n =>
      if n.isValidChar then some (Char.ofNat n) else none

/-- A character given by its number, from behind the letter that says how many digits there are. -/
def readHex (count : Nat) (cs : List Char) : Option (Char × List Char) :=
  match cs with
  | '\x7b' :: rest =>
    match rest.dropWhile (· ≠ '\x7d') with
    | [] => none
    | _ :: after => (hexCharacter? (rest.takeWhile (· ≠ '\x7d'))).map (·, after)
  | _ =>
    if cs.length < count then none else (hexCharacter? (cs.take count)).map (·, cs.drop count)

/-- An escape, from behind its backslash. -/
def readEscape (cs : List Char) : Option (Escape × List Char) :=
  match cs with
  | [] => none
  | c :: rest =>
    let isLetterOrDigit := c.isAlphanum
    if !isLetterOrDigit && c.toNat < 0x80 && c.toNat > 0x20 && c ≠ '<' && c ≠ '>' && c.toNat ≠ 0x7F then
      some (.literal c, rest)
    else if c = 'd' then some (.named .digit false, rest)
    else if c = 'D' then some (.named .digit true, rest)
    else if c = 's' then some (.named .space false, rest)
    else if c = 'S' then some (.named .space true, rest)
    else if c = 'w' then some (.named .word false, rest)
    else if c = 'W' then some (.named .word true, rest)
    else if c = 'A' then some (.place .textStart, rest)
    else if c = 'z' then some (.place .textEnd, rest)
    else if c = 'b' then some (.place (.wordBoundary false), rest)
    else if c = 'B' then some (.place (.wordBoundary true), rest)
    else if c = 'n' then some (.literal '\n', rest)
    else if c = 't' then some (.literal '\t', rest)
    else if c = 'r' then some (.literal '\r', rest)
    else if c = 'f' then some (.literal '\x0c', rest)
    else if c = 'v' then some (.literal '\x0b', rest)
    else if c = 'a' then some (.literal '\x07', rest)
    else if c = 'x' then (readHex 2 rest).map fun (c, rest) => (.literal c, rest)
    else if c = 'u' then (readHex 4 rest).map fun (c, rest) => (.literal c, rest)
    else if c = 'U' then (readHex 8 rest).map fun (c, rest) => (.literal c, rest)
    else none

/-- The end of a range in a class: a plain character or an escape for one. -/
def readClassLiteral (cs : List Char) : Option (Char × List Char) :=
  match cs with
  | [] => none
  | '\\' :: rest =>
    match readEscape rest with
    | some (.literal c, rest) => some (c, rest)
    | _ => none
  | c :: rest => some (c, rest)

/-- One part of a class. A hyphen between two characters makes a range, unless the class ends behind it. -/
def readClassItem (cs : List Char) : Option (ClassItem × List Char) :=
  let range (first : Char) (rest : List Char) : Option (ClassItem × List Char) :=
    match rest with
    | '-' :: ']' :: _ | '-' :: '-' :: _ => some (.range first first, rest)
    | '-' :: tail =>
      (readClassLiteral tail).bind fun (last, rest) =>
        if first ≤ last then some (.range first last, rest) else none
    | _ => some (.range first first, rest)
  match cs with
  | [] => none
  | '\\' :: rest =>
    match readEscape rest with
    | some (.literal c, rest) => range c rest
    | some (.named cls isNegated, rest) => some (.named cls isNegated, rest)
    | _ => none
  | c :: rest => range c rest

/-- The parts of a class up to its closing bracket, at most `room` of them. -/
def readClassItems : (room : Nat) → List Char → Option (List ClassItem × List Char)
  | _, ']' :: rest => some ([], rest)
  | 0, _ => none
  | room + 1, cs => do
    let (item, rest) ← readClassItem cs
    let (items, rest) ← readClassItems room rest
    return (item :: items, rest)

/-- A class, from behind its opening bracket. A closing bracket or hyphens in front are parts of it. -/
def readClass (cs : List Char) : Option (Token × List Char) :=
  let isNegated := cs.head? = some '^'
  let cs := if isNegated then cs.tail else cs
  let hyphens := cs.takeWhile (· = '-')
  let front := if hyphens.isEmpty && cs.head? = some ']' then [']'] else hyphens
  let rest := cs.drop front.length
  (readClassItems rest.length rest).map fun (items, rest) =>
    (.cls isNegated (front.map (fun c => .range c c) ++ items), rest)

/-- The letters of flags, with a hyphen before those that are switched off. No letter stands twice. -/
def readFlags (letters : List Char) : Option (List (Char × Bool)) :=
  let on := letters.takeWhile (· ≠ '-')
  let off := (letters.dropWhile (· ≠ '-')).drop 1
  let hasHyphen := letters.contains '-'
  let all := on ++ off
  if all.all flagLetters.contains && all.eraseDups.length = all.length && (!hasHyphen || !off.isEmpty) then
    some (on.map (·, true) ++ off.map (·, false))
  else none

/-- Whether a text may name a group. -/
def isGroupName (name : List Char) : Bool :=
  match name with
  | [] => false
  | c :: rest =>
    (c = '_' || CharSet.alphabetic.contains c) &&
      rest.all fun c =>
        c = '_' || c = '.' || c = '[' || c = ']' || CharSet.alphabetic.contains c ||
          CharSet.number.contains c

/-- The name of a group, from behind its opening bracket. -/
def readGroupName (cs : List Char) : Option (Token × List Char) :=
  let name := cs.takeWhile (· ≠ '>')
  match cs.dropWhile (· ≠ '>') with
  | [] => none
  | _ :: rest => if isGroupName name then some (.openGroup (some (String.ofList name)) [], rest) else none

/-- A group or a switch of flags, from behind its opening bracket. -/
def readGroup (cs : List Char) : Option (Token × List Char) :=
  match cs with
  | '?' :: 'P' :: '<' :: rest => readGroupName rest
  | '?' :: '<' :: rest => if rest.head? = some '=' || rest.head? = some '!' then none else readGroupName rest
  | '?' :: rest =>
    let letters := rest.takeWhile fun c => c ≠ ':' && c ≠ ')'
    match rest.dropWhile fun c => c ≠ ':' && c ≠ ')' with
    | [] => none
    | stop :: after =>
      (readFlags letters).bind fun switched =>
        if stop = ':' then some (.openGroup none switched, after)
        else if switched.isEmpty then none
        else some (.setFlags switched, after)
  | _ => some (.openGroup none [], cs)

/-- The limit of numbers in repetitions. -/
def repetitionLimit : Nat := Nat.pow 2 32

/-- A number in a repetition, with white space around it. -/
def readCount (cs : List Char) : Option Nat :=
  let digits := Text.trimmed cs
  if digits.isEmpty || !digits.all (fun c => '0' ≤ c && c ≤ '9') then none
  else
    let n := digits.foldl (fun n c => 10 * n + (c.toNat - '0'.toNat)) 0
    if n < repetitionLimit then some n else none

/-- A repetition with numbers, from behind its opening bracket. -/
def readRepetition (cs : List Char) : Option (Token × List Char) :=
  let inside := cs.takeWhile (· ≠ '\x7d')
  match cs.dropWhile (· ≠ '\x7d') with
  | [] => none
  | _ :: rest =>
    let least := inside.takeWhile (· ≠ ',')
    match inside.dropWhile (· ≠ ',') with
    | [] => (readCount least).map fun n => (.repetition n (some n), rest)
    | _ :: most =>
      (readCount least).bind fun n =>
        if most.isEmpty then some (.repetition n none, rest)
        else
          (readCount most).bind fun m => if n ≤ m then some (.repetition n (some m), rest) else none

/-- Drops the mark that makes a repetition take as little as it can, which changes no match. -/
def dropLazyMark (read : Token × List Char) : Token × List Char :=
  match read.2 with
  | '?' :: rest => (read.1, rest)
  | _ => read

/-- The token in front of a text. -/
def readToken (c : Char) (rest : List Char) : Option (Token × List Char) :=
  if c = '\\' then
    (readEscape rest).map fun (escape, rest) =>
      match escape with
      | .literal c => (.literal c, rest)
      | .named cls isNegated => (.cls false [.named cls isNegated], rest)
      | .place test => (.place test, rest)
  else if c = '[' then readClass rest
  else if c = '(' then readGroup rest
  else if c = ')' then some (.closeGroup, rest)
  else if c = '|' then some (.bar, rest)
  else if c = '.' then some (.dot, rest)
  else if c = '^' then some (.caret, rest)
  else if c = '$' then some (.dollar, rest)
  else if c = '*' then some (dropLazyMark (.repetition 0 none, rest))
  else if c = '+' then some (dropLazyMark (.repetition 1 none, rest))
  else if c = '?' then some (dropLazyMark (.repetition 0 (some 1), rest))
  else if c = '\x7b' then (readRepetition rest).map dropLazyMark
  else some (.literal c, rest)

/-- The tokens of a text, at most `room` of them. -/
def readTokens : (room : Nat) → List Char → Option (List Token)
  | _, [] => some []
  | 0, _ => none
  | room + 1, c :: rest => do
    let (token, rest) ← readToken c rest
    let tokens ← readTokens room rest
    return token :: tokens

/-- The tokens of a written pattern. Each takes at least one character. -/
def tokens? (s : String) : Option (List Token) :=
  readTokens s.toList.length s.toList

end SchemaBinding.Pattern
