/-!
# `SchemaBinding.Layout`: text laid out in lines

A layout is a tree of texts, of gaps where a line may end, and of groups. A group that fits into the rest of
its line stays on it. In one that does not, either every gap ends the line or each gap does for which
what comes before the next gap is too long. What counts as the size of a group or a gap reaches to the next
gap that is not deeper than it, so that nothing is left hanging over the margin.
-/

set_option autoImplicit false

namespace SchemaBinding

/-- A place where a line may end. -/
structure Gap where
  /-- How many spaces stand here when the line goes on. -/
  blank : Nat := 0
  /-- What is added to the indentation when the line ends here. -/
  offset : Int := 0
  /-- What is written in front of the line end and at the start of the next line, when the line ends here. -/
  before : String := ""
  after : String := ""
  /-- Whether the line always goes on. -/
  never : Bool := false
  /-- Whether the gap is left out when it is the last item of a group. -/
  betweenOnly : Bool := false
  deriving Repr, DecidableEq, Inhabited

/-- A text before it is cut into lines. -/
inductive Layout where
  | text (s : String)
  | gap (g : Gap)
  /-- Items that belong together. Where the group ends lines, they are indented by `offset`. A consistent
  group ends the line at every gap or at none. -/
  | group (offset : Int) (consistent : Bool) (items : List Layout)
  deriving Repr, Inhabited

namespace Layout

/-- More spaces than any line has room for. -/
def endless : Nat := 65535

/-- A gap that stands for nothing, for one space, for a sure line end, and for no line end at all. -/
def softBreak : Layout := .gap {}

def space : Layout := .gap { blank := 1 }

def hardBreak : Layout := .gap { blank := endless }

def neverBreak : Layout := .gap { never := true }

/-- A sure line end between items, which is left out when nothing follows. -/
def hardBreakBetween : Layout := .gap { blank := endless, betweenOnly := true }

/-- The items with the last one changed, if it is a gap. -/
def modifyLastGap (f : Gap → List Layout) : List Layout → List Layout
  | [] => []
  | [.gap g] => f g
  | item :: rest => item :: modifyLastGap f rest

/-- Takes the line end at the end of the items back by `n` columns. -/
def unindent (n : Nat) (items : List Layout) : List Layout :=
  modifyLastGap (fun g => [.gap { g with offset := g.offset - n }]) items

/-- A group, as an item of the list that it goes into. A group of one gap is left out. -/
def grouped (offset : Int) (consistent : Bool) : List Layout → List Layout
  | [.gap _] => []
  | items =>
    [.group offset consistent (modifyLastGap (fun g => if g.betweenOnly then [] else [.gap g]) items)]

/-- A group that ends the line at every gap or at none, indented by `offset`. -/
def consistent (offset : Int) (items : List Layout) : List Layout := grouped offset true items

/-- A group that ends lines where it has to, indented by `offset`. -/
def inconsistent (offset : Int) (items : List Layout) : List Layout := grouped offset false items

mutual

/-- The width of the text on one line, in bytes. -/
def width : Layout → Nat
  | .text s => s.utf8ByteSize
  | .gap g => g.blank
  | .group _ _ items => widthOfAll items

/-- The width of several items on one line. -/
def widthOfAll : List Layout → Nat
  | [] => 0
  | item :: rest => item.width + widthOfAll rest

end

/-- The width of the items up to the first gap among them. When there is none, `beyond` is the width from
their end to the next gap. -/
def reach (beyond : Nat) : List Layout → Nat
  | [] => beyond
  | .gap _ :: _ => 0
  | item :: rest => item.width + reach beyond rest

/-- How many columns a line has. -/
def margin : Int := 89

/-- How many columns an indented line has at least. -/
def leastSpace : Int := 60

/-- Lines while they are written. -/
structure Page where
  output : String := ""
  /-- Spaces that are written when something follows on the line. -/
  pending : Nat := 0
  /-- How many columns are left on the line. -/
  space : Int := margin
  deriving Repr, DecidableEq, Inhabited

namespace Page

/-- Writes a text. -/
def write (p : Page) (s : String) : Page :=
  { output := p.output ++ String.ofList (List.replicate p.pending ' ') ++ s
    pending := 0
    space := p.space - s.utf8ByteSize }

/-- Writes a text unless it is empty. -/
def writeIfAny (p : Page) (s : String) : Page := if s.isEmpty then p else p.write s

/-- Goes on on the same line after a gap. -/
def goOn (p : Page) (g : Gap) : Page := { p with pending := p.pending + g.blank, space := p.space - g.blank }

/-- Ends the line at a gap. -/
def endLine (p : Page) (indent : Int) (g : Gap) : Page :=
  let column := indent + g.offset
  let next : Page :=
    { output := (p.writeIfAny g.before).output ++ "\n"
      pending := column.toNat
      space := max (margin - column) leastSpace }
  next.writeIfAny g.after

end Page

/-- At which gaps a group ends the line: at none, at all, or where it has to. -/
inductive LineEnds where
  | none
  | all
  | asNeeded
  deriving Repr, DecidableEq, Inhabited

/-- Whether the line ends at a gap of the given size when `space` columns are left. -/
def LineEnds.endsAt (ends : LineEnds) (g : Gap) (size : Nat) (space : Int) : Bool :=
  !g.never &&
    match ends with
    | none => false
    | all => true
    | asNeeded => space < (size : Int)

mutual

/-- Writes one item. `beyond` is the width from its end to the next gap. -/
def print (indent : Int) (ends : LineEnds) (beyond : Nat) (p : Page) : Layout → Page
  | .text s => p.write s
  | .gap g => if ends.endsAt g (g.blank + beyond) p.space then p.endLine indent g else p.goOn g
  | .group offset consistent items =>
    -- What follows the group up to the next gap has to fit on its line too.
    if p.space < ((widthOfAll items + beyond : Nat) : Int) then
      printAll (indent + offset) (if consistent then .all else .asNeeded) beyond p items
    else printAll indent .none beyond p items

/-- Writes several items, one after the other. -/
def printAll (indent : Int) (ends : LineEnds) (beyond : Nat) (p : Page) : List Layout → Page
  | [] => p
  | item :: rest => printAll indent ends beyond (print indent ends (reach beyond rest) p item) rest

end

/-- The text in lines. -/
def render (items : List Layout) : String := (printAll 0 .asNeeded 0 {} items).output

end Layout

end SchemaBinding
