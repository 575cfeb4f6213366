import SqlTemplate.Number.Integer
import SqlTemplate.Text.Quoted

/-!
# Faults

Why no query is built.  A `QueryError` says what is wrong with the template or with an argument for its
placeholder; the other faults come from reading and writing numbers, from the escape, and from using the library
against its rules.  `message` words each of them.
-/

namespace SqlTemplate

/-- What is wrong with the conditional blocks of a template. -/
inductive TemplateError
  | nestedBlock
  | unbalancedBlocks (opened closed : Nat)
  deriving DecidableEq

/-- What a numeric placeholder makes of its argument. -/
inductive NumericTarget
  | integer
  | float
  deriving DecidableEq

/-- What a placeholder for several values takes. -/
inductive Listing
  | array
  | identifier
  deriving DecidableEq

/-- How an argument fails to fit its placeholder.  Non-finite numbers are kept as messages show them. -/
inductive Mismatch
  | arrayAs (target : NumericTarget)
  | nonFiniteAs (target : NumericTarget) (shown : Text)
  | typeAs (target : NumericTarget) (typeName : String)
  | integerRange (t : Text)
  | arrayExpected (typeName : String)
  | arrayKey (typeName : String)
  | identifierName (typeName : String)
  | identifierExpected
  deriving DecidableEq

inductive QueryError
  | template (e : TemplateError)
  | missingArgument (position given : Nat)
  | misplacedSkip (position : Nat)
  | unsupportedNumber (shown : Text)
  | unsupportedType (typeName : String)
  | mismatch (m : Mismatch)
  | nullListing (l : Listing)
  | emptyListing (l : Listing)
  | invalidIdentifier (name : Text)
  deriving DecidableEq

/-- An escape's refusal, in its own words. -/
structure EscapeFailure where
  message : String
  deriving DecidableEq

inductive Fault
  | query (e : QueryError)
  | tooManyDigits
  | integerTooLarge
  | signallingNaN
  | unreadableNumber (t : Text)
  | notIterable (typeName : String)
  | movedBack (position : Nat) (target : Int)
  | escape (e : EscapeFailure)
  deriving DecidableEq

/-- The families of query errors: all of them are `queryBuild`, and both about blocks are `templateFormat`. -/
inductive ErrorClass
  | queryBuild
  | templateFormat
  | nestedBlock
  | unbalancedBlocks
  | missingArgument
  | misplacedSkip
  | unsupportedType
  | typeMismatch
  | nullArgument
  | emptyArray
  | invalidIdentifier
  deriving DecidableEq

/-- A class and the wider ones it belongs to, the widest last. -/
def ErrorClass.lineage : ErrorClass → List ErrorClass
  | .queryBuild => [.queryBuild]
  | .nestedBlock => [.nestedBlock, .templateFormat, .queryBuild]
  | .unbalancedBlocks => [.unbalancedBlocks, .templateFormat, .queryBuild]
  | c => [c, .queryBuild]

def TemplateError.errorClass : TemplateError → ErrorClass
  | .nestedBlock => .nestedBlock
  | .unbalancedBlocks .. => .unbalancedBlocks

def QueryError.errorClass : QueryError → ErrorClass
  | .template e => e.errorClass
  | .missingArgument .. => .missingArgument
  | .misplacedSkip _ => .misplacedSkip
  | .unsupportedNumber _ | .unsupportedType _ => .unsupportedType
  | .mismatch _ => .typeMismatch
  | .nullListing _ => .nullArgument
  | .emptyListing _ => .emptyArray
  | .invalidIdentifier _ => .invalidIdentifier

def TemplateError.message : TemplateError → String
  | .nestedBlock => "Conditional block must not be nested."
  | .unbalancedBlocks opened closed =>
    "Conditional block must be closed: found " ++ toString opened ++ " '\x7b' and " ++ toString closed ++ " '\x7d'."

/-- The target with its article. -/
def NumericTarget.noun : NumericTarget → String
  | .integer => "an integer"
  | .float => "a float"

def Listing.noun : Listing → String
  | .array => "Array"
  | .identifier => "Identifier"

def Mismatch.message : Mismatch → String
  | .arrayAs target => "Array parameter cannot be used as " ++ target.noun ++ "."
  | .nonFiniteAs target shown =>
    "Non-finite number " ++ String.ofList shown ++ " cannot be used as " ++ target.noun ++ "."
  | .typeAs target typeName => "Cannot use " ++ typeName ++ " as " ++ target.noun ++ "."
  | .integerRange t => "Value " ++ String.ofList t.quoted ++ " is out of integer range."
  | .arrayExpected typeName => "Array parameter expected, got " ++ typeName ++ "."
  | .arrayKey typeName => "Array keys must be integers or strings, got " ++ typeName ++ "."
  | .identifierName typeName => "Identifier must be a string, got " ++ typeName ++ "."
  | .identifierExpected => "Identifier parameter must be a string or an array."

def QueryError.message : QueryError → String
  | .template e => e.message
  | .missingArgument position given =>
    "Not enough parameters provided for placeholders: no argument at position " ++ toString position ++ " (" ++
      toString given ++ " given)."
  | .misplacedSkip position =>
    "Skip marker at argument " ++ toString position ++ " can only be used inside a conditional block."
  | .unsupportedNumber shown => "Non-finite number " ++ String.ofList shown ++ " is not supported."
  | .unsupportedType typeName => "Unsupported parameter type: " ++ typeName ++ "."
  | .mismatch m => m.message
  | .nullListing l => l.noun ++ " parameter cannot be NULL."
  | .emptyListing .array => "Array parameter cannot be empty."
  | .emptyListing .identifier => "Identifier array cannot be empty."
  | .invalidIdentifier name => "Invalid identifier: " ++ String.ofList name.quoted ++ "."

def Fault.message : Fault → String
  | .query e => e.message
  | .tooManyDigits =>
    "Exceeds the limit (" ++ toString Integer.digitLimit ++ " digits) for integer string conversion; " ++
      "use sys.set_int_max_str_digits() to increase the limit"
  | .integerTooLarge => "int too large to convert to float"
  | .signallingNaN => "cannot convert signaling NaN to float"
  | .unreadableNumber t => "could not convert string to float: " ++ String.ofList t.quoted
  | .notIterable typeName => "'" ++ typeName ++ "' object is not iterable"
  | .movedBack position target =>
    "Argument cursor cannot move back from " ++ toString position ++ " to " ++ toString target
  | .escape e => e.message

end SqlTemplate
