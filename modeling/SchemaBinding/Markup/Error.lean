import SchemaBinding.Number.Reading

/-!
# `SchemaBinding.Markup.Error`: what can be wrong with markup

A reader of markup stops at the first error. Each error is a cause with the places it concerns, all counted
in bytes, and has one wording.
-/

set_option autoImplicit false

namespace SchemaBinding.Markup

/-- Markup that the input ends in, or that begins wrongly. -/
inductive Unclosed where
  | instruction
  | comment
  | doctype
  | cdata
  | tag
  deriving Repr, DecidableEq, Inhabited

/-- What is wrong with the number in a character reference. -/
inductive BadNumber where
  | empty
  | invalidDigit
  | tooLarge
  deriving Repr, DecidableEq, Inhabited

/-- What is wrong with a character reference. -/
inductive BadCharacter where
  | sign
  | number (cause : BadNumber)
  | zero
  | notScalar (code : Nat)
  deriving Repr, DecidableEq, Inhabited

/-- What is wrong with the references in a text or in a value. -/
inductive EscapeError where
  | character (cause : BadCharacter)
  /-- An ampersand at a place, without a semicolon before the next one or the end of the text. -/
  | unterminated (start stop : Nat)
  /-- A name between two places that stands for no character. -/
  | unknownEntity (start stop : Nat) (name : String)
  deriving Repr, DecidableEq, Inhabited

/-- What is wrong with markup outside of attributes. -/
inductive Error where
  | invalidMarkup
  | unclosed (what : Unclosed)
  | missingDoctypeName
  | unmatchedEnd (name : String)
  | mismatchedEnd (expected found : String)
  | escape (cause : EscapeError)
  deriving Repr, DecidableEq, Inhabited

/-- What is wrong with the attributes of a tag. Places count from the start of the tag's name. -/
inductive AttributeError where
  | expectedEquals (place : Nat)
  | expectedValue (place : Nat)
  | unquotedValue (place : Nat)
  | expectedQuote (place : Nat) (quote : Char)
  | duplicated (place previous : Nat)
  deriving Repr, DecidableEq, Inhabited

/-- A text in backticks. -/
def ticked (s : String) : String := "\x60" ++ s ++ "\x60"

def Unclosed.message : Unclosed → String
  | instruction => "processing instruction or xml declaration not closed: " ++ ticked "?>" ++ ending
  | comment => "comment not closed: " ++ ticked "-->" ++ ending
  | doctype => "DOCTYPE not closed: " ++ ticked ">" ++ ending
  | cdata => "CDATA not closed: " ++ ticked "]]>" ++ ending
  | tag => "tag not closed: " ++ ticked ">" ++ ending
where
  ending : String := " not found before end of input"

def BadNumber.message : BadNumber → String
  | empty => "cannot parse integer from empty string"
  | invalidDigit => "invalid digit found in string"
  | tooLarge => "number too large to fit in target type"

def BadCharacter.message : BadCharacter → String
  | sign => "unexpected number sign"
  | number cause => cause.message
  | zero => "0x0 character is not permitted in XML"
  | notScalar code => ticked (toString code) ++ " is not a valid codepoint"

def EscapeError.message : EscapeError → String
  | character cause => "invalid character reference: " ++ cause.message
  | unterminated start stop =>
    "Error while escaping character at range " ++ toString start ++ ".." ++ toString stop ++
      ": Cannot find ';' after '&'"
  | unknownEntity start stop name =>
    "at " ++ toString start ++ ".." ++ toString stop ++ ": unrecognized entity " ++ ticked name

namespace Error

/-- The class of an error, which introduces its wording. Errors in references have none. -/
def label : Error → String
  | invalidMarkup | unclosed _ => "syntax error: "
  | missingDoctypeName | unmatchedEnd _ | mismatchedEnd _ _ => "ill-formed document: "
  | escape _ => ""

/-- The wording of an error after its class. -/
def detail : Error → String
  | invalidMarkup => "unknown or missed symbol in markup"
  | unclosed what => what.message
  | missingDoctypeName =>
    ticked "<!DOCTYPE>" ++ " declaration does not contain a name of a document type"
  | unmatchedEnd name => "close tag " ++ ticked ("</" ++ name ++ ">") ++ " does not match any open tag"
  | mismatchedEnd expected found =>
    "expected " ++ ticked ("</" ++ expected ++ ">") ++ ", but " ++ ticked ("</" ++ found ++ ">") ++
      " was found"
  | escape cause => cause.message

def message (e : Error) : String := e.label ++ e.detail

end Error

def AttributeError.message : AttributeError → String
  | expectedEquals place =>
    at_ place ++ "attribute key must be directly followed by " ++ ticked "=" ++ " or space"
  | expectedValue place => at_ place ++ ticked "=" ++ " must be followed by an attribute value"
  | unquotedValue place =>
    at_ place ++ "attribute value must be enclosed in " ++ ticked "\"" ++ " or " ++ ticked "'"
  | expectedQuote place quote =>
    at_ place ++ "missing closing quote " ++ ticked quote.toString ++ " in attribute value"
  | duplicated place previous =>
    at_ place ++ "duplicated attribute, previous declaration at position " ++ toString previous
where
  at_ (place : Nat) : String := "position " ++ toString place ++ ": "

end SchemaBinding.Markup
