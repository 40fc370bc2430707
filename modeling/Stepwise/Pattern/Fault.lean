namespace Stepwise.Pattern

inductive Fault where
  | unclosedGroup
  | unopenedGroup
  | lookAround
  | emptyGroupName
  | invalidGroupName
  | duplicateGroupName
  | unknownFlag
  | duplicateFlag
  | danglingNegation
  | unexpectedEnd
  | nothingToRepeat
  | unclosedRepetition
  | missingCount
  | invalidCount
  | reversedCounts
  | unclosedClass
  | reversedRange
  | invalidRange
  | invalidClassItem
  | backReference
  | unknownEscape
  | invalidHexadecimal
  | unknownProperty
  | invalidProperty
  | unknownBoundary
  | notText
  | tooDeep
  | tooLarge
deriving DecidableEq, Repr

def Fault.cause : Fault → String
  | .unclosedGroup => "unclosed group"
  | .unopenedGroup => "unopened group"
  | .lookAround => "look-around is not supported"
  | .emptyGroupName => "empty group name"
  | .invalidGroupName => "invalid group name"
  | .duplicateGroupName => "duplicate group name"
  | .unknownFlag => "unrecognized flag"
  | .duplicateFlag => "duplicate flag"
  | .danglingNegation => "dangling flag negation"
  | .unexpectedEnd => "unexpected end of pattern"
  | .nothingToRepeat => "repetition operator missing expression"
  | .unclosedRepetition => "unclosed counted repetition"
  | .missingCount => "repetition quantifier expects a valid decimal"
  | .invalidCount => "decimal literal invalid"
  | .reversedCounts => "invalid repetition count range"
  | .unclosedClass => "unclosed character class"
  | .reversedRange => "invalid character class range"
  | .invalidRange => "invalid range boundary, must be a literal"
  | .invalidClassItem => "invalid escape sequence found in character class"
  | .backReference => "backreferences are not supported"
  | .unknownEscape => "unrecognized escape sequence"
  | .invalidHexadecimal => "invalid hexadecimal escape"
  | .unknownProperty => "Unicode property not found"
  | .invalidProperty => "invalid Unicode character class"
  | .unknownBoundary => "invalid word boundary assertion"
  | .notText => "pattern can match what is no text"
  | .tooDeep => "exceeds the maximum number of nested parentheses and brackets"
  | .tooLarge => ""

/-- A pattern that is too large is well written; every other fault is one of syntax. -/
def Fault.message : Fault → String
  | .tooLarge => "Compiled regex exceeds size limit of 10485760 bytes."
  | fault => "regex parse error: " ++ fault.cause

end Stepwise.Pattern
