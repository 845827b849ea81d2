import WordLint.Text.Numeral

/-!
# Why a pattern is refused

A `Problem` is a cause, `Problem.text` its wording. A `Failure` adds the place in the pattern; causes
that concern the pattern as a whole have none. A pattern of several lines also gets the line and
column of the place.

Most causes are errors of syntax. Some come from what the reader rests on, and are raised as errors of
other kinds (`Problem.kind`), which nothing in the reader turns into errors of syntax.
-/

namespace WordLint.Regex

/-- The causes for which a pattern is refused. -/
inductive Problem where
  | danglingBackslash
  | badEscape (escape : String)
  | incompleteEscape (escape : String)
  | octalTooLarge (escape : String)
  | openGroup
  | groupInSameLookbehind
  | noSuchGroup (index : Nat)
  | unterminatedSet
  | badRange (low high : String)
  | nothingToRepeat
  | multipleRepeat
  | leastAboveMost
  | countTooLarge
  /-- A count has more digits than are read. -/
  | countTooLong (digits : Nat)
  /-- An escape asks for a code point that is no machine number. -/
  | codeTooLarge
  | unexpectedEnd
  | unknownExtension (extension : String)
  | unterminatedComment
  | unterminatedGroup
  | missingGroupName
  | unterminatedName (terminator : Char)
  | unknownGroupName (name : String)
  | badGroupName (name : String)
  | redefinedGroup (name : String) (index earlier : Nat)
  | badGroupNumber
  | tooManyBranches
  | misplacedFlags
  | localeFlag
  | alphabetFlags
  | unterminatedFlags
  | unknownFlag
  | globalFlagOn
  | missingFlag
  | alphabetFlagOff
  | missingColon
  | globalFlagOff
  | flagOnAndOff
  | asciiAndUnicode
  | unbalanced
  | variableLookbehind
  | lookbehindTooWide
  | repetitionInTemplate (kind : String)
deriving Repr, DecidableEq

/-- The wording of a cause. -/
def Problem.text : Problem → String
  | .danglingBackslash => "bad escape (end of pattern)"
  | .badEscape escape => s!"bad escape {escape}"
  | .incompleteEscape escape => s!"incomplete escape {escape}"
  | .octalTooLarge escape => s!"octal escape value {escape} outside of range 0-0o377"
  | .openGroup => "cannot refer to an open group"
  | .groupInSameLookbehind => "cannot refer to group defined in the same lookbehind subpattern"
  | .noSuchGroup index => s!"invalid group reference {index}"
  | .unterminatedSet => "unterminated character set"
  | .badRange low high => s!"bad character range {low}-{high}"
  | .nothingToRepeat => "nothing to repeat"
  | .multipleRepeat => "multiple repeat"
  | .leastAboveMost => "min repeat greater than max repeat"
  | .countTooLarge => "the repetition number is too large"
  | .countTooLong digits => (Text.NumeralError.tooLong digits).message
  | .codeTooLarge => "Python int too large to convert to C int"
  | .unexpectedEnd => "unexpected end of pattern"
  | .unknownExtension extension => s!"unknown extension {extension}"
  | .unterminatedComment => "missing ), unterminated comment"
  | .unterminatedGroup => "missing ), unterminated subpattern"
  | .missingGroupName => "missing group name"
  | .unterminatedName terminator => s!"missing {terminator}, unterminated name"
  | .unknownGroupName name => s!"unknown group name {Text.quoted name}"
  | .badGroupName name => s!"bad character in group name {Text.quoted name}"
  | .redefinedGroup name index earlier =>
    s!"redefinition of group name {Text.quoted name} as group {index}; was group {earlier}"
  | .badGroupNumber => "bad group number"
  | .tooManyBranches => "conditional backref with more than two branches"
  | .misplacedFlags => "global flags not at the start of the expression"
  | .localeFlag => "bad inline flags: cannot use 'L' flag with a str pattern"
  | .alphabetFlags => "bad inline flags: flags 'a', 'u' and 'L' are incompatible"
  | .unterminatedFlags => "missing -, : or )"
  | .unknownFlag => "unknown flag"
  | .globalFlagOn => "bad inline flags: cannot turn on global flag"
  | .missingFlag => "missing flag"
  | .alphabetFlagOff => "bad inline flags: cannot turn off flags 'a', 'u' and 'L'"
  | .missingColon => "missing :"
  | .globalFlagOff => "bad inline flags: cannot turn off global flag"
  | .flagOnAndOff => "bad inline flags: flag turned on and off"
  | .asciiAndUnicode => "ASCII and UNICODE flags are incompatible"
  | .unbalanced => "unbalanced parenthesis"
  | .variableLookbehind => "look-behind requires fixed-width pattern"
  | .lookbehindTooWide => "looks too much behind"
  | .repetitionInTemplate kind => s!"internal: unsupported template operator {kind}"

/-- The kinds of errors that a pattern is refused with. -/
inductive ErrorKind where
  | pattern
  | value
  | overflow
deriving Repr, DecidableEq

/-- The kind of error that a cause is raised as. -/
def Problem.kind : Problem → ErrorKind
  | .countTooLarge | .codeTooLarge => .overflow
  | .countTooLong _ | .asciiAndUnicode => .value
  | _ => .pattern

/-- A cause and its place: a position counted in characters from 0, or none. -/
structure Fault where
  problem : Problem
  position : Option Nat
deriving Repr, DecidableEq

/-- The refusal of a pattern. -/
structure Failure where
  problem : Problem
  position : Option Nat
  pattern : String
deriving Repr, DecidableEq

/-- The wording of a refusal. -/
def Failure.message (f : Failure) : String :=
  match f.position with
  | none => f.problem.text
  | some position =>
    let place := s!"{f.problem.text} at position {position}"
    let pattern := f.pattern.toList
    if pattern.contains '\n' then
      let passed := pattern.take position
      let line := passed.count '\n' + 1
      let column := (passed.reverse.takeWhile (· != '\n')).length + 1
      s!"{place} (line {line}, column {column})"
    else place

end WordLint.Regex
