import SchemaBinding.Markup.Reference

/-!
# `SchemaBinding.Markup.Attribute`: the attributes of a tag

An attribute is a key, an equals sign and a value in quotes, with white space allowed around each. The first
error ends the reading of the tag; the references in a value are replaced before the next attribute is
looked at.
-/

set_option autoImplicit false

namespace SchemaBinding.Markup

/-- The white space of markup: space, tab, carriage return and line feed. -/
def isSpace (c : Char) : Bool := c = ' ' || c = '\t' || c = '\r' || c = '\n'

/-- What ends the reading of a document. -/
inductive Fault where
  | markup (cause : Error)
  | attributes (cause : AttributeError)
  deriving Repr, DecidableEq, Inhabited

/-- A character and its place in bytes. -/
structure Placed where
  place : Nat
  char : Char
  deriving Repr, DecidableEq, Inhabited

/-- The characters of a text with their places, the first of which is `start`. -/
def placed (start : Nat) : List Char → List Placed
  | [] => []
  | c :: rest => ⟨start, c⟩ :: placed (start + c.utf8Size) rest

/-- Drops the white space in front. -/
def skipSpace (cs : List Placed) : List Placed := cs.dropWhile (isSpace ·.char)

theorem length_skipSpace_le (cs : List Placed) : (skipSpace cs).length ≤ cs.length :=
  (List.dropWhile_suffix _).length_le

/-- Whether a character goes on with a key. The first character of a key may be any. -/
def inKey (c : Placed) : Bool := c.char ≠ '=' && !isSpace c.char

/-- An attribute as it is read: the place of its key, its value with the references in it, and what
follows in the tag. -/
structure RawAttribute where
  place : Nat
  key : List Char
  value : List Char
  rest : List Placed
  deriving Repr, DecidableEq, Inhabited

/-- The value of an attribute and what follows it. `stop` is the end of the tag. -/
def readValue (stop : Nat) (cs : List Placed) : Except AttributeError (List Char × List Placed) :=
  match skipSpace cs with
  | [] => .error (.expectedValue stop)
  | quote :: rest =>
    if quote.char = '"' || quote.char = '\'' then
      match rest.dropWhile (·.char ≠ quote.char) with
      | [] => .error (.expectedQuote stop quote.char)
      | _ :: after => .ok ((rest.takeWhile (·.char ≠ quote.char)).map (·.char), after)
    else .error (.unquotedValue quote.place)

/-- The attribute whose key begins with `first`. `seen` holds the keys before it with their places. -/
def readAttribute (stop : Nat) (seen : List (List Char × Nat)) (first : Placed) (cs : List Placed) :
    Except AttributeError RawAttribute :=
  let key := first.char :: (cs.takeWhile inKey).map (·.char)
  match skipSpace (cs.dropWhile inKey) with
  | [] => .error (.expectedEquals stop)
  | sign :: rest =>
    if sign.char = '=' then
      match seen.lookup key with
      | some previous => .error (.duplicated first.place previous)
      | none => (readValue stop rest).map fun (value, after) => ⟨first.place, key, value, after⟩
    else .error (.expectedEquals sign.place)

theorem length_rest_of_readValue {stop : Nat} {cs rest : List Placed} {value : List Char}
    (h : readValue stop cs = .ok (value, rest)) : rest.length < cs.length := by
  unfold readValue at h
  have hskip := length_skipSpace_le cs
  split at h
  · cases h
  · rename_i quote tail hcs
    rw [hcs] at hskip
    split at h
    · split at h
      · cases h
      · rename_i after hafter
        have hdrop := (List.dropWhile_suffix (l := tail) (·.char ≠ quote.char)).length_le
        rw [hafter] at hdrop
        simp only [Except.ok.injEq, Prod.mk.injEq] at h
        simp only [List.length_cons] at hskip hdrop
        rw [← h.2]
        omega
    · cases h

theorem length_rest_of_readAttribute {stop : Nat} {seen : List (List Char × Nat)} {first : Placed}
    {cs : List Placed} {a : RawAttribute} (h : readAttribute stop seen first cs = .ok a) :
    a.rest.length < cs.length := by
  unfold readAttribute at h
  have hskip := length_skipSpace_le (cs.dropWhile inKey)
  have hdrop := (List.dropWhile_suffix (l := cs) inKey).length_le
  simp only at h
  split at h
  · cases h
  · rename_i sign tail hcs
    rw [hcs] at hskip
    split at h
    · split at h
      · cases h
      · cases hv : readValue stop tail with
        | error e => rw [hv] at h; cases h
        | ok pair =>
            obtain ⟨value, after⟩ := pair
            rw [hv] at h
            have := length_rest_of_readValue hv
            cases h
            simp only [List.length_cons] at hskip
            simp only
            omega
    · cases h

/-- The attributes in the rest of a tag that ends at `stop`. -/
def readAttributes (stop : Nat) (seen : List (List Char × Nat)) (cs : List Placed) :
    Except Fault (List (String × String)) :=
  match hcs : skipSpace cs with
  | [] => .ok []
  | first :: others =>
    match h : readAttribute stop seen first others with
    | .error e => .error (.attributes e)
    | .ok a =>
      match unescape a.value with
      | .error e => .error (.markup (.escape e))
      | .ok value =>
        have : a.rest.length < cs.length := by
          have h₁ := length_rest_of_readAttribute h
          have h₂ := length_skipSpace_le cs
          rw [hcs, List.length_cons] at h₂
          omega
        (readAttributes stop ((a.key, a.place) :: seen) a.rest).map
          ((String.ofList a.key, String.ofList value) :: ·)
  termination_by cs.length

end SchemaBinding.Markup
