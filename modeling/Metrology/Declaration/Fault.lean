/-!
# Faults of unit declarations

Why a declaration was refused. Where a fault was met at the end of the declaration, its wording says
so first.
-/

namespace Metrology.Declaration

/-- The keys of a unit declaration. -/
inductive Key where
  | symbol
  | dimension
  | ratio
  | exponent
deriving DecidableEq

namespace Key

def all : List Key := [symbol, dimension, ratio, exponent]

def name : Key → String
  | symbol => "symbol"
  | dimension => "dimension"
  | ratio => "ratio"
  | exponent => "exponent"

def ofName? (name : String) : Option Key :=
  all.find? fun key => key.name == name

end Key

/-- What has to stand in a place. -/
inductive Wanted where
  | identifier
  | string
  | expression
  | type
  /-- The name or the position of a member. -/
  | member
  /-- A group in brackets of any kind. -/
  | group
  | parentheses
  | squareBrackets
  | curlyBraces
  /-- What may follow the word for the other case of a condition. -/
  | alternative
  /-- Whether a pointer is to a constant. -/
  | pointee
deriving DecidableEq

namespace Wanted

/-- What a type may begin with. -/
def typeBeginnings : List String :=
  ["`for`", "parentheses", "`fn`", "`unsafe`", "`extern`", "identifier", "`::`", "`<`", "`dyn`",
    "square brackets", "`*`", "`&`", "`!`", "`impl`", "`_`", "lifetime"]

def text : Wanted → String
  | identifier => "identifier"
  | string => "string literal"
  | expression => "an expression"
  | type => "one of: " ++ ", ".intercalate typeBeginnings
  | member => "identifier or integer"
  | group => "delimiter"
  | parentheses => "parentheses"
  | squareBrackets => "square brackets"
  | curlyBraces => "curly braces"
  | alternative => "`if` or curly braces"
  | pointee => "`const` or `mut`"

end Wanted

/-- What may not follow a cast. -/
inductive Trailer where
  | call
  | index
  | field
  | methodCall
  | await
  | question
deriving DecidableEq

def Trailer.text : Trailer → String
  | call => "a function call"
  | index => "indexing"
  | field => "a field access"
  | methodCall => "a method call"
  | await => "`.await`"
  | question => "`?`"

/-- Why a declaration was refused. -/
inductive Fault where
  | missingAttribute
  | bareAttribute
  | assignedAttribute
  | unknownKey (name : String)
  | duplicateKey (key : Key)
  | missingKey (key : Key)
  | ratioShape (atEnd : Bool)
  | expected (wanted : Wanted) (atEnd : Bool)
  | expectedMark (mark : String)
  | expectedSeparator
  | expectedRange
  | reservedWord (name : String)
  | chainedComparison
  | castFollowed (trailer : Trailer)
  /-- Something stands before the end of a group. -/
  | unexpectedToken (closing : String)
deriving DecidableEq

namespace Fault

def marked (atEnd : Bool) (message : String) : String :=
  if atEnd then "unexpected end of input, " ++ message else message

def message : Fault → String
  | missingAttribute => "missing #[unit(...)] attribute"
  | bareAttribute => "expected attribute arguments in parentheses: #[unit(...)]"
  | assignedAttribute => "expected parentheses: #[unit(...)]"
  | unknownKey name => "unknown attribute `" ++ name ++ "`"
  | duplicateKey key => "duplicate attribute `" ++ key.name ++ "`"
  | missingKey key => "missing required attribute `" ++ key.name ++ "`"
  | ratioShape atEnd => marked atEnd "`ratio` tuple must be `(numerator, denominator)`"
  | expected wanted atEnd => marked atEnd ("expected " ++ wanted.text)
  | expectedMark mark => "expected `" ++ mark ++ "`"
  | expectedSeparator => "expected `,` or `;`"
  | expectedRange => "expected `..` or `..=`"
  | reservedWord name => "expected identifier, found keyword `" ++ name ++ "`"
  | chainedComparison => "comparison operators cannot be chained"
  | castFollowed trailer => "casts cannot be followed by " ++ trailer.text
  | unexpectedToken closing => "unexpected token, expected `" ++ closing ++ "`"

end Fault

end Metrology.Declaration
