import SchemaBinding.Text.Blank
import SchemaBinding.Text.CaseMap
import SchemaBinding.Text.CharSet.Letters

/-!
# `SchemaBinding.Text.Casing`: words of a name, and names made of words

A name is cut at every character that is neither a letter nor a number, and again where its letter case
shows a new word: before an uppercase letter that follows a lowercase one, and before the last
uppercase letter of a run that goes on in lowercase. Numbers keep the case of what stands before them.
The words are then written in snake case or in Pascal case.
-/

set_option autoImplicit false

namespace SchemaBinding.Text

/-- Letters and numbers, the characters that words are made of. -/
def isAlphanumeric (c : Char) : Bool :=
  CharSet.alphabetic.contains c || CharSet.number.contains c

def isUppercase (c : Char) : Bool := CharSet.uppercase.contains c

def isLowercase (c : Char) : Bool := CharSet.lowercase.contains c

/-- The letter case of the word read so far: none yet, or that of its last letter. -/
inductive WordCase where
  | none
  | lower
  | upper
  deriving Repr, DecidableEq, Inhabited

/-- The case of a word after it takes in `c`. -/
def WordCase.after (case : WordCase) (c : Char) : WordCase :=
  if isLowercase c then .lower else if isUppercase c then .upper else case

/-- The words of a run of letters and numbers. `word` holds the characters of the current word that come
before the run's first, in reverse, and `case` is their letter case. -/
def caseWords (case : WordCase) (word : List Char) : List Char → List (List Char)
  | [] => []
  | [c] => [(c :: word).reverse]
  | c :: next :: rest =>
    if case.after c = .lower && isUppercase next then
      (c :: word).reverse :: caseWords .none [] (next :: rest)
    else if case = .upper && isUppercase c && isLowercase next then
      word.reverse :: caseWords .none [c] (next :: rest)
    else caseWords (case.after c) (c :: word) (next :: rest)

/-- The words of a name. -/
def nameWords (name : String) : List (List Char) :=
  (runsOf isAlphanumeric name.toList).flatMap (caseWords .none [])

/-- A word in lowercase. A capital sigma that ends the word becomes a final sigma. -/
def lowerWord : List Char → List Char
  | [] => []
  | [c] => if c = 'Σ' then ['ς'] else CaseMap.lower c
  | c :: rest => CaseMap.lower c ++ lowerWord rest

/-- A word with its first character in uppercase and the others in lowercase. -/
def capitalWord : List Char → List Char
  | [] => []
  | c :: rest => CaseMap.upper c ++ lowerWord rest

/-- The words of a name in lowercase, joined by `_`. -/
def snakeCase (name : String) : String :=
  String.ofList (['_'].intercalate ((nameWords name).map lowerWord))

/-- The words of a name capitalised and joined. -/
def pascalCase (name : String) : String :=
  String.ofList ((nameWords name).flatMap capitalWord)

/-- A text with its first character in uppercase and the others in lowercase, each on its own. -/
def capitalized (s : String) : String :=
  match s.toList with
  | [] => ""
  | c :: rest => String.ofList (CaseMap.upper c ++ rest.flatMap CaseMap.lower)

end SchemaBinding.Text
