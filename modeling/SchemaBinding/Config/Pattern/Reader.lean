import SchemaBinding.Config.Pattern.Token

/-!
# `SchemaBinding.Config.Pattern.Reader`: patterns from their written form

The tokens of a pattern are read with a stack of open groups. A group holds the alternatives that are complete, the
items of the one that is being read, and the flags in force; when it closes it becomes an item of the
group around it.
-/

set_option autoImplicit false

namespace SchemaBinding.Pattern

/-- An item of an alternative. A switch of flags matches nothing and cannot be repeated. -/
inductive Item where
  | pattern (p : Pattern)
  | switch
  deriving Repr, DecidableEq, Inhabited

/-- A group that is being read. Alternatives and items have the last one first. -/
structure Group where
  flags : Flags := {}
  alternatives : List Pattern := []
  items : List Item := []
  deriving Repr, DecidableEq, Inhabited

namespace Group

/-- The items of the current alternative as one pattern. -/
def current (g : Group) : Pattern :=
  g.items.foldl (fun p item =>
    match item with
    | .pattern q => q.followedBy p
    | .switch => p) .empty

/-- The group as one pattern. -/
def pattern (g : Group) : Pattern :=
  g.alternatives.foldl (fun p q => .alt q p) g.current

def push (g : Group) (p : Pattern) : Group := { g with items := .pattern p :: g.items }

def pushChar (g : Group) (isNegated : Bool) (items : List ClassItem) : Group :=
  g.push (.char ⟨isNegated, g.flags.ignoresCase, items⟩)

def switchFlags (flags : Flags) (switched : List (Char × Bool)) : Flags :=
  switched.foldl (fun f s => f.set s.1 s.2) flags

end Group

/-- What reading a pattern has come to: the innermost group, the groups around it, and the names of groups
so far. -/
structure ReadState where
  group : Group := {}
  outer : List Group := []
  names : List String := []
  deriving Repr, DecidableEq, Inhabited

/-- Reads one token. -/
def ReadState.read (s : ReadState) (t : Token) : Option ReadState :=
  let g := s.group
  match t with
  | .literal c => some { s with group := g.pushChar false [.range c c] }
  | .cls isNegated items => some { s with group := g.pushChar isNegated items }
  | .dot =>
    let taken : CharTest :=
      if g.flags.dotTakesAll then ⟨true, false, []⟩ else ⟨true, false, [.range '\n' '\n']⟩
    some { s with group := g.push (.char taken) }
  | .caret => some { s with group := g.push (.place (if g.flags.multiLine then .lineStart else .textStart)) }
  | .dollar => some { s with group := g.push (.place (if g.flags.multiLine then .lineEnd else .textEnd)) }
  | .place test => some { s with group := g.push (.place test) }
  | .bar => some { s with group := { g with alternatives := g.current :: g.alternatives, items := [] } }
  | .setFlags switched =>
    some { s with
      group := { g with flags := Group.switchFlags g.flags switched, items := .switch :: g.items } }
  | .repetition least most =>
    match g.items with
    | .pattern p :: rest => some { s with group := { g with items := .pattern (p.repeated least most) :: rest } }
    | _ => none
  | .openGroup name switched =>
    if name.any s.names.contains then none
    else
      some
        { group := { flags := Group.switchFlags g.flags switched }
          outer := g :: s.outer
          names := name.toList ++ s.names }
  | .closeGroup =>
    match s.outer with
    | [] => none
    | around :: outer => some { s with group := around.push g.pattern, outer := outer }

/-- The pattern that a text writes, if it writes one. -/
def ofString? (s : String) : Option Pattern := do
  let tokens ← tokens? s
  let final ← tokens.foldlM ReadState.read {}
  if final.outer.isEmpty then some final.group.pattern else none

end SchemaBinding.Pattern
