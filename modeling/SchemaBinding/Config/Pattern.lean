import SchemaBinding.Text.CaseMap
import SchemaBinding.Text.CharSet.Letters
import SchemaBinding.Text.Blank

/-!
# `SchemaBinding.Config.Pattern`: patterns for names

A pattern says which names a user method goes to. It is a regular expression with tests of the place beside tests
of the character, and it matches a name when it matches some part of it. The matcher carries the
patterns that are still to be matched through the name, one character at a time: each is a part of the
pattern that the user wrote, so there are never many.
-/

set_option autoImplicit false

namespace SchemaBinding

/-- Classes of characters that have a letter of their own. -/
inductive NamedClass where
  | digit
  | space
  | word
  deriving Repr, DecidableEq, Inhabited

/-- Joiners, which count as parts of words. -/
def isJoiner (c : Char) : Bool := c.toNat == 0x200C || c.toNat == 0x200D

/-- The underscore and the other characters that connect words. -/
def isConnector (c : Char) : Bool :=
  c == '_' || [0x203F, 0x2040, 0x2054, 0xFE33, 0xFE34, 0xFE4D, 0xFE4E, 0xFE4F, 0xFF3F].contains c.toNat

/-- Letters, marks, digits, connectors and joiners. -/
def isWordChar (c : Char) : Bool :=
  CharSet.alphabetic.contains c || CharSet.mark.contains c || CharSet.decimalDigit.contains c ||
    isConnector c || isJoiner c

def NamedClass.contains : NamedClass → Char → Bool
  | digit, c => CharSet.decimalDigit.contains c
  | space, c => Text.isBlank c
  | word, c => isWordChar c

/-- A part of a class of characters. -/
inductive ClassItem where
  | range (first last : Char)
  | named (cls : NamedClass) (isNegated : Bool)
  deriving Repr, DecidableEq, Inhabited

def ClassItem.contains : ClassItem → Char → Bool
  | range first last, c => first ≤ c && c ≤ last
  | named cls isNegated, c => cls.contains c != isNegated

/-- A test of one character: it is in one of the parts, or in none of them when the test is negated. -/
structure CharTest where
  isNegated : Bool
  ignoresCase : Bool
  items : List ClassItem
  deriving Repr, DecidableEq, Inhabited

def CharTest.accepts (t : CharTest) (c : Char) : Bool :=
  let forms := if t.ignoresCase then CaseMap.variants c else [c]
  (t.items.any fun item => forms.any item.contains) != t.isNegated

/-- A test of a place between characters. -/
inductive PlaceTest where
  | textStart
  | textEnd
  | lineStart
  | lineEnd
  | wordBoundary (isNegated : Bool)
  deriving Repr, DecidableEq, Inhabited

/-- The characters on both sides of a place. -/
structure Place where
  before : Option Char
  after : Option Char
  deriving Repr, DecidableEq, Inhabited

def PlaceTest.holds (p : Place) : PlaceTest → Bool
  | textStart => p.before.isNone
  | textEnd => p.after.isNone
  | lineStart => p.before.isNone || p.before = some '\n'
  | lineEnd => p.after.isNone || p.after = some '\n'
  | wordBoundary isNegated => (p.before.any isWordChar != p.after.any isWordChar) != isNegated

/-- A pattern. -/
inductive Pattern where
  | empty
  | char (test : CharTest)
  | place (test : PlaceTest)
  | seq (first second : Pattern)
  | alt (left right : Pattern)
  | star (body : Pattern)
  deriving Repr, DecidableEq, Inhabited

namespace Pattern

/-- Whether the pattern matches without a character at a place. -/
def matchesEmpty (p : Place) : Pattern → Bool
  | empty => true
  | char _ => false
  | place test => test.holds p
  | seq first second => first.matchesEmpty p && second.matchesEmpty p
  | alt left right => left.matchesEmpty p || right.matchesEmpty p
  | star _ => true

/-- One pattern after another, without empty ones in front. -/
def followedBy (first second : Pattern) : Pattern :=
  match first with
  | empty => second
  | _ => seq first second

/-- What may be left to match after the character `c`, which follows the place `p`. -/
def after (p : Place) (c : Char) : Pattern → List Pattern
  | empty => []
  | char test => if test.accepts c then [empty] else []
  | place _ => []
  | seq first second =>
    (first.after p c).map (·.followedBy second) ++
      if first.matchesEmpty p then second.after p c else []
  | alt left right => left.after p c ++ right.after p c
  | star body => (body.after p c).map (·.followedBy (star body))

/-- Whether one of the patterns `active`, or the pattern `p` from here or a later place, matches the start
of the rest of a text. -/
def searchFrom (p : Pattern) (active : List Pattern) (before : Option Char) : List Char → Bool
  | [] => (p :: active).any (·.matchesEmpty ⟨before, none⟩)
  | c :: rest =>
    let here : Place := ⟨before, some c⟩
    (p :: active).any (·.matchesEmpty here) ||
      searchFrom p ((p :: active).flatMap (·.after here c)).eraseDups (some c) rest

/-- Whether the pattern matches some part of a text. -/
def occursIn (p : Pattern) (s : String) : Bool :=
  p.searchFrom [] none s.toList

/-- A pattern several times in a row. -/
def times (p : Pattern) : Nat → Pattern
  | 0 => empty
  | 1 => p
  | n + 2 => seq p (p.times (n + 1))

/-- A pattern at most so many times in a row. -/
def upTo (p : Pattern) : Nat → Pattern
  | 0 => empty
  | n + 1 => alt empty (seq p (p.upTo n))

/-- A pattern at least `least` times in a row, and at most `most` times if that is given. -/
def repeated (p : Pattern) (least : Nat) (most : Option Nat) : Pattern :=
  match most with
  | none => (p.times least).followedBy (star p)
  | some most => (p.times least).followedBy (p.upTo (most - least))

end Pattern

end SchemaBinding
