import WordLint.Regex.Syntax
import WordLint.Regex.Failure
import WordLint.Regex.Token
import WordLint.Text.Numeral
import WordLint.Text.Identifier

/-!
# Reading a pattern

The reader's state is the tokens still to come, the position of the next one, and what has been
learned so far: the flags set for the whole pattern, the groups opened and the widths of those that
are closed. It always looks one token ahead, so a backslash at the end of the pattern is reported as
soon as it becomes the next token.

The reading functions nest as deeply as the pattern's groups do; each level consumes a token, which is
what the fuel of `alternatives`, `sequence` and `groupItem` counts. There is no other bound on how deeply
they may nest.

Characters cannot be asked for by their names: the table of names is not part of the library, and the letter
of such an escape, which is a capital one, is refused like any other letter without a meaning. Patterns in
small letters have no such escapes.
-/

namespace WordLint.Regex

/-- What has been read, and what is still to come. -/
structure Reader where
  rest : List Token
  position : Nat
  /-- The flags set for the whole pattern. -/
  flags : List Flag
  /-- The width of each group, the whole pattern as number 0; none while a group is open. -/
  groups : List (Option Width)
  /-- The numbers of the named groups. -/
  names : List (String × Nat)
  /-- Inside a lookbehind, the number of groups before it. -/
  lookbehindGroups : Option Nat
  /-- The groups that conditionals ask for, each with the place of its first mention. -/
  asked : List (Nat × Nat)

/-- A step of reading. -/
abbrev Read := StateT Reader (Except Fault)

/-- Refuse the pattern at a position. -/
def failAt {α : Type} (position : Nat) (problem : Problem) : Read α :=
  throw ⟨problem, some position⟩

/-- Refuse the pattern at a place some characters before the next token. -/
def failBack {α : Type} (back : Nat) (problem : Problem) : Read α := do
  failAt ((← get).position - back) problem

/-- Refuse the pattern at the next token. -/
def failHere {α : Type} (problem : Problem) : Read α :=
  failBack 0 problem

/-- The next token, which stays. -/
def peek : Read (Option Token) := do
  return (← get).rest.head?

/-- How many characters some tokens take. -/
def widthOf (ts : List Token) : Nat :=
  ts.foldr (fun t n => t.width + n) 0

/-- Go on after some tokens. The token after them must not be a backslash at the end. -/
def skip (n : Nat) : Read Unit := do
  let r ← get
  let seen := r.rest.take (n + 1)
  if seen.getLast? = some .dangling then
    failAt (r.position + widthOf seen.dropLast) .danglingBackslash
  modify fun r =>
    { r with rest := r.rest.drop n, position := r.position + widthOf (r.rest.take n) }

/-- Take the next token. -/
def next : Read (Option Token) := do
  let t ← peek
  skip 1
  return t

/-- Take the next token when it is this character. -/
def accept (c : Char) : Read Bool := do
  if (← peek) = some (.char c) then
    skip 1
    return true
  else
    return false

/-- The characters at the front, at most `most` of them, that have a property. -/
def frontChars (p : Char → Bool) : Nat → List Token → List Char
  | most + 1, .char c :: rest => if p c then c :: frontChars p most rest else []
  | _, _ => []

/-- Take the characters at the front, at most `most` of them, that have a property. -/
def takeRun (most : Nat) (p : Char → Bool) : Read (List Char) := do
  let cs := frontChars p most (← get).rest
  if !cs.isEmpty then skip cs.length
  return cs

/-- Take all characters at the front that have a property. -/
def takeAll (p : Char → Bool) : Read (List Char) := do
  takeRun (← get).rest.length p

/-! ## Digits -/

/-- An octal digit. -/
def isOctal (c : Char) : Bool :=
  '0' ≤ c && c ≤ '7'

/-- A hexadecimal digit. -/
def isHex (c : Char) : Bool :=
  c.isDigit || ('a' ≤ c && c ≤ 'f') || ('A' ≤ c && c ≤ 'F')

/-- The value of a hexadecimal digit. -/
def hexValue (c : Char) : Nat :=
  if c.isDigit then c.toNat - '0'.toNat else c.toLower.toNat - 'a'.toNat + 10

/-- The number with these digits in a base. -/
def ofBase (base : Nat) (digits : List Char) : Nat :=
  digits.foldl (fun n c => base * n + hexValue c) 0

/-! ## Groups -/

/-- The width of a group that is closed. -/
def Reader.closedWidth? (r : Reader) (index : Nat) : Option Width :=
  (r.groups[index]?).join

/-- The widths by group number, for use in `Regex.width`. -/
def Reader.widths (r : Reader) (index : Nat) : Width :=
  (r.closedWidth? index).getD ⟨0, 0⟩

/-- Open the next group. -/
def openGroup : Read Nat := do
  let r ← get
  modify fun r => { r with groups := r.groups ++ [none] }
  return r.groups.length

/-- Close a group. -/
def closeGroup (index : Nat) (body : Regex) : Read Unit :=
  modify fun r => { r with groups := r.groups.set index (some (body.width r.widths)) }

/-- A lookbehind may only refer to groups closed before it. -/
def checkLookbehind (index : Nat) : Read Unit := do
  let r ← get
  match r.lookbehindGroups with
  | none => return ()
  | some limit =>
    if (r.closedWidth? index).isNone then failHere .openGroup
    if limit ≤ index then failHere .groupInSameLookbehind

/-! ## Escapes -/

/-- The controls that a letter names. -/
def controlCode? : Char → Option Nat
  | 'a' => some 7
  | 'b' => some 8
  | 'f' => some 12
  | 'n' => some 10
  | 'r' => some 13
  | 't' => some 9
  | 'v' => some 11
  | '\\' => some 0x5C
  | _ => none

/-- The classes that a letter names. -/
def namedClass? : Char → Option SetItem
  | 'd' => some (.named .digit false)
  | 'D' => some (.named .digit true)
  | 's' => some (.named .blank false)
  | 'S' => some (.named .blank true)
  | 'w' => some (.named .word false)
  | 'W' => some (.named .word true)
  | _ => none

/-- The positions that a letter names. -/
def namedAnchor? : Char → Option Anchor
  | 'A' => some .textStart
  | 'b' => some .wordEdge
  | 'B' => some .noWordEdge
  | 'Z' => some .textEnd
  | _ => none

/-- The text of an escape: the letter and what was taken after it. -/
def escapeText (c : Char) (more : List Char) : String :=
  String.ofList ('\\' :: c :: more)

/-- A code point in a fixed number of hexadecimal digits. -/
def hexEscape (c : Char) (digits : Nat) : Read Nat := do
  let ds ← takeRun digits isHex
  if ds.length ≠ digits then failBack (ds.length + 2) (.incompleteEscape (escapeText c ds))
  let code := ofBase 16 ds
  if 0x7FFFFFFF < code then throw ⟨.codeTooLarge, none⟩
  if 0x10FFFF < code then failBack (ds.length + 2) (.badEscape (escapeText c ds))
  return code

/-- An escape whose letter has no special meaning: a letter of ASCII is refused, anything else stands
for itself. -/
def plainEscape (c : Char) : Read Nat := do
  if c.isAlpha then failBack 2 (.badEscape (escapeText c []))
  return c.toNat

/-- The code point of a numeric escape of octal digits. -/
def octalCode (c : Char) (digits : List Char) : Read Nat := do
  let code := ofBase 8 (c :: digits)
  if 0o377 < code then failBack (digits.length + 2) (.octalTooLarge (escapeText c digits))
  return code

/-- An escape inside a bracketed set. -/
def setEscape (c : Char) : Read SetItem := do
  if let some code := controlCode? c then return .char code
  if let some item := namedClass? c then return item
  if c = 'x' then return .char (← hexEscape c 2)
  if c = 'u' then return .char (← hexEscape c 4)
  if c = 'U' then return .char (← hexEscape c 8)
  if isOctal c then
    let ds ← takeRun 2 isOctal
    return .char (← octalCode c ds)
  if c.isDigit then failBack 2 (.badEscape (escapeText c []))
  return .char (← plainEscape c)

/-- An escape that starts with a digit other than 0: three octal digits are a code point, all else
refers to a group. -/
def numberEscape (c : Char) : Read Regex := do
  let second ← takeRun 1 Char.isDigit
  if isOctal c && second.all isOctal && !second.isEmpty then
    let third ← takeRun 1 isOctal
    if !third.isEmpty then
      return .char (← octalCode c (second ++ third))
  let index := ofBase 10 (c :: second)
  let r ← get
  if index < r.groups.length then
    if (r.closedWidth? index).isNone then failBack (second.length + 2) .openGroup
    checkLookbehind index
    return .backref index
  failBack (second.length + 1) (.noSuchGroup index)

/-- An escape outside a set. -/
def escape (c : Char) : Read Regex := do
  if let some a := namedAnchor? c then return .anchor a
  if let some item := namedClass? c then return .set false [item]
  if let some code := controlCode? c then return .char code
  if c = 'x' then return .char (← hexEscape c 2)
  if c = 'u' then return .char (← hexEscape c 4)
  if c = 'U' then return .char (← hexEscape c 8)
  if c = '0' then
    let ds ← takeRun 2 isOctal
    return .char (ofBase 8 ds)
  if c.isDigit then numberEscape c
  else return .char (← plainEscape c)

/-! ## Bracketed sets -/

/-- The set item of one token. -/
def setItem (t : Token) : Read SetItem :=
  match t with
  | .char c => return .char c.toNat
  | .escape c => setEscape c
  | .dangling => return .char 0x5C

/-- The items of a set that starts at `start`, up to its closing bracket. A closing bracket at the very
front stands for itself, and so does a hyphen at either end. -/
def setItems (start : Nat) : Nat → List SetItem → Read (List SetItem)
  | 0, _ => failAt start .unterminatedSet
  | fuel + 1, items => do
    match ← next with
    | none => failAt start .unterminatedSet
    | some low =>
      if low = .char ']' && !items.isEmpty then return items.reverse
      let item ← setItem low
      if !(← accept '-') then return ← setItems start fuel (item :: items)
      match ← next with
      | none => failAt start .unterminatedSet
      | some high =>
        if high = .char ']' then return (.char '-'.toNat :: item :: items).reverse
        let last ← setItem high
        let refuse := failBack (low.width + 1 + high.width) (.badRange low.text high.text)
        match item, last with
        | .char a, .char b =>
          if b < a then refuse else setItems start fuel (.range a b :: items)
        | _, _ => refuse

/-- A bracketed set whose opening bracket has been taken. -/
def bracketed : Read Regex := do
  let r ← get
  let negated ← accept '^'
  return .set negated (← setItems (r.position - 1) (r.rest.length + 1) [])

/-! ## Repetition -/

/-- Counts are smaller than this bound. -/
def countBound : Nat := 4294967295

/-- A count, unless it has too many digits to be read or is too large; without digits it is zero. -/
def count (digits : List Char) : Read Nat := do
  if Text.maxDigits < digits.length then throw ⟨.countTooLong digits.length, none⟩
  let n := ofBase 10 digits
  if countBound ≤ n then throw ⟨.countTooLarge, none⟩
  return n

/-- What a repetition sign says: how often at least and at most, or that it is an ordinary brace. -/
def counts (sign : Char) : Read (Option (Nat × Option Nat)) := do
  match sign with
  | '?' => return some (0, some 1)
  | '*' => return some (0, none)
  | '+' => return some (1, none)
  | _ =>
    let start ← get
    if (← peek) = some (.char '}') then return none
    let low ← takeAll Char.isDigit
    let high ← if ← accept ',' then takeAll Char.isDigit else pure low
    if !(← accept '}') then
      modify fun _ => start
      return none
    let least ← count low
    let most ← count high
    if high.isEmpty then return some (least, none)
    if most < least then failAt start.position .leastAboveMost
    return some (least, some most)

/-- Whether a repetition is refused after this item, and why. -/
def repetitionProblem? : Option Regex → Option Problem
  | none => some .nothingToRepeat
  | some (.anchor _) => some .nothingToRepeat
  | some (.repeated ..) => some .multipleRepeat
  | some _ => none

/-- How a repetition chooses its count, which a second sign says. -/
def greed : Read Greed := do
  if ← accept '?' then return .reluctant
  if ← accept '+' then return .possessive
  return .greedy

/-- Read a repetition sign over the items before it, last item first. -/
def repetition (sign : Char) (items : List Regex) : Read (List Regex) := do
  let here := (← get).position
  match ← counts sign with
  | none => return .char sign.toNat :: items
  | some (least, most) =>
    match repetitionProblem? items.head?, items with
    | some problem, _ => failAt (here - 1) problem
    | none, [] => failAt (here - 1) .nothingToRepeat
    | none, item :: before =>
      return .repeated (← greed) least most item :: before

/-! ## Names and flags -/

/-- The text up to a terminator, which is taken too. -/
def nameUntil (terminator : Char) : Nat → List Char → Read String
  | 0, _ => failHere .missingGroupName
  | fuel + 1, taken => do
    match ← next with
    | none =>
      if taken.isEmpty then failHere .missingGroupName
      failBack taken.length (.unterminatedName terminator)
    | some t =>
      if t = .char terminator then
        if taken.isEmpty then failBack 1 .missingGroupName
        return String.ofList taken
      nameUntil terminator fuel (taken ++ t.chars)

/-- A group name up to a terminator. -/
def groupName (terminator : Char) : Read String := do
  nameUntil terminator ((← get).rest.length + 1) []

/-- A name that must be an identifier. -/
def identifier (terminator : Char) : Read String := do
  let name ← groupName terminator
  if !Text.isIdentifier name.toList then failBack (name.length + 1) (.badGroupName name)
  return name

/-- The number of a named group. -/
def namedGroup (name : String) : Read Nat := do
  match (← get).names.lookup name with
  | some index => return index
  | none => failBack (name.length + 1) (.unknownGroupName name)

/-- Group numbers are smaller than this bound. -/
def groupBound : Nat := 1073741823

/-- The group that a conditional asks for, by name or by number. A number may also belong to a group
that is still to come. -/
def askedGroup : Read Nat := do
  let name ← groupName ')'
  let index ←
    if Text.isIdentifier name.toList then namedGroup name
    else
      let refuse {α : Type} : Problem → Read α := failBack (name.length + 1)
      match Text.readInt name.toList with
      | .error _ => refuse (.badGroupName name)
      | .ok n =>
        if n < 0 then refuse (.badGroupName name)
        else if n = 0 then refuse .badGroupNumber
        else if groupBound ≤ n then refuse (.noSuchGroup n.toNat)
        else
          modify fun r =>
            if (r.asked.lookup n.toNat).isSome then r
            else { r with asked := r.asked ++ [(n.toNat, r.position - name.length - 1)] }
          pure n.toNat
  checkLookbehind index
  return index

/-- What a list of flags turned out to be. -/
inductive FlagGroup where
  /-- Flags for the whole pattern. -/
  | global
  /-- Flags for the group that follows. -/
  | scoped (add remove : List Flag)

/-- A flag or the wording of its absence: an unknown letter, or something else. -/
def flagOr (absent : Problem) (t : Token) : Read Flag :=
  match t with
  | .char c =>
    match Flag.ofLetter? c with
    | some flag => return flag
    | none => failBack 1 (if Text.isLetter c then .unknownFlag else absent)
  | _ => failBack t.width absent

/-- The flags to remove, from the first one on, up to the colon. -/
def removedFlags : Nat → List Flag → Flag → Read (List Flag)
  | 0, _, _ => failHere .missingColon
  | fuel + 1, taken, flag => do
    if flag.isAlphabet then failHere .alphabetFlagOff
    let taken := taken ++ [flag]
    match ← next with
    | none => failHere .missingColon
    | some (.char ':') => return taken
    | some t => removedFlags fuel taken (← flagOr .missingColon t)

/-- The flags to add, from the first one on, with the sign that ends them. -/
def addedFlags : Nat → List Flag → Flag → Read (List Flag × Char)
  | 0, _, _ => failHere .unterminatedFlags
  | fuel + 1, taken, flag => do
    if flag = .locale then failHere .localeFlag
    let taken := taken ++ [flag]
    if flag.isAlphabet && taken.any (fun f => f.isAlphabet && f ≠ flag) then failHere .alphabetFlags
    match ← next with
    | none => failHere .unterminatedFlags
    | some (.char ')') => return (taken, ')')
    | some (.char '-') => return (taken, '-')
    | some (.char ':') => return (taken, ':')
    | some t => addedFlags fuel taken (← flagOr .unterminatedFlags t)

/-- A list of flags whose first sign has been taken: a flag, or the hyphen before the removed ones. -/
def flagGroup (first : Option Flag) : Read FlagGroup := do
  let fuel := (← get).rest.length + 1
  let (add, sign) ← match first with
    | some flag => addedFlags fuel [] flag
    | none => pure ([], '-')
  if sign = ')' then
    modify fun r => { r with flags := r.flags ++ add }
    return .global
  if add.contains .template then failBack 1 .globalFlagOn
  let remove ←
    if sign = '-' then
      match ← next with
      | none => failHere .missingFlag
      | some t => removedFlags fuel [] (← flagOr .missingFlag t)
    else pure []
  if remove.contains .template then failBack 1 .globalFlagOff
  if add.any remove.contains then failBack 1 .flagOnAndOff
  return .scoped add remove

/-! ## Sequences, alternatives and groups -/

/-- The blanks that a verbose pattern passes over. -/
def isPatternBlank (c : Char) : Bool :=
  Text.isAsciiBlank c

/-- Pass over a comment of a verbose pattern, up to the end of its line. -/
def skipLine : Read Unit := do
  let rest := (← get).rest
  skip ((rest.takeWhile (· ≠ .char '\n')).length + 1)

/-- Pass over a group that is a comment and starts at `start`. -/
def skipComment (start : Nat) : Read Unit := do
  let rest := (← get).rest
  let body := rest.takeWhile (· ≠ .char ')')
  if body.length = rest.length then
    skip rest.length
    failAt start .unterminatedComment
  skip (body.length + 1)

/-- The opening of a group, as far as it is read before the body. -/
inductive Opening where
  | capture (name : Option String)
  | plain (add remove : List Flag)
  | atomic
  | ahead (negated : Bool)
  | behind (negated : Bool)
  | conditional (index : Nat)
  /-- A comment, or flags for the whole pattern: nothing follows. -/
  | nothing
  /-- A reference to a named group: nothing follows. -/
  | reference (index : Nat)

/-- The opening of a group with a question mark. Flags for the whole pattern are accepted only at its
start. -/
def extension (start : Nat) (atStart : Bool) : Read Opening := do
  match ← next with
  | none => failHere .unexpectedEnd
  | some (.char 'P') =>
    if ← accept '<' then
      return .capture (some (← identifier '>'))
    if ← accept '=' then
      let name ← identifier ')'
      let index ← namedGroup name
      if ((← get).closedWidth? index).isNone then failBack (name.length + 1) .openGroup
      checkLookbehind index
      return .reference index
    match ← next with
    | none => failHere .unexpectedEnd
    | some t => failBack (t.width + 2) (.unknownExtension ("?P" ++ t.text))
  | some (.char ':') => return .plain [] []
  | some (.char '#') =>
    skipComment start
    return .nothing
  | some (.char '=') => return .ahead false
  | some (.char '!') => return .ahead true
  | some (.char '<') =>
    match ← next with
    | none => failHere .unexpectedEnd
    | some (.char '=') => return .behind false
    | some (.char '!') => return .behind true
    | some t => failBack (t.width + 2) (.unknownExtension ("?<" ++ t.text))
  | some (.char '(') => return .conditional (← askedGroup)
  | some (.char '>') => return .atomic
  | some t =>
    let first := match t with
      | .char c => Flag.ofLetter? c
      | _ => none
    if first.isNone && t ≠ .char '-' then
      failBack (t.width + 1) (.unknownExtension ("?" ++ t.text))
    match ← flagGroup first with
    | .scoped add remove => return .plain add remove
    | .global =>
      if !atStart then failAt start .misplacedFlags
      return .nothing

/-- The closing parenthesis of a group that starts at `start`. -/
def closing (start : Nat) : Read Unit := do
  if !(← accept ')') then failAt start .unterminatedGroup

/-- Open a capturing group under its name, if it has one. -/
def openNamed (name : Option String) : Read Nat := do
  match name with
  | none => openGroup
  | some n =>
    let r ← get
    if let some earlier := r.names.lookup n then
      failBack (n.length + 1) (.redefinedGroup n r.groups.length earlier)
    let index ← openGroup
    modify fun r => { r with names := r.names ++ [(n, index)] }
    return index

/-- Whether blanks are passed over inside a scope. -/
def verboseIn (verbose : Bool) (add remove : List Flag) : Bool :=
  (verbose || add.contains .verbose) && !remove.contains .verbose

mutual

/-- Alternatives, up to a closing parenthesis or the end. Only those of the whole pattern (`top`) may
start with flags. -/
def alternatives (top verbose : Bool) : Nat → List Regex → Read Regex
  | 0, _ => failHere .unexpectedEnd
  | fuel + 1, before => do
    let item ← sequence (top && before.isEmpty) verbose fuel []
    let items := before ++ [item]
    if ← accept '|' then
      let r ← get
      alternatives top (if top then r.flags.contains .verbose else verbose) fuel items
    else return altAll items

/-- A sequence of items, up to a bar, a closing parenthesis or the end. The items read so far come last
item first. -/
def sequence (first verbose : Bool) : Nat → List Regex → Read Regex
  | 0, _ => failHere .unexpectedEnd
  | fuel + 1, items => do
    match ← peek with
    | none | some (.char '|') | some (.char ')') => return catAll items.reverse
    | some t =>
      skip 1
      match t with
      | .dangling => failHere .danglingBackslash
      | .escape c => sequence first verbose fuel ((← escape c) :: items)
      | .char c =>
        if verbose && isPatternBlank c then sequence first verbose fuel items
        else if verbose && c = '#' then
          skipLine
          sequence first verbose fuel items
        else match c with
          | '[' => sequence first verbose fuel ((← bracketed) :: items)
          | '.' => sequence first verbose fuel (.any :: items)
          | '^' => sequence first verbose fuel (.anchor .lineStart :: items)
          | '$' => sequence first verbose fuel (.anchor .lineEnd :: items)
          | '?' | '*' | '+' | '{' => sequence first verbose fuel (← repetition c items)
          | '(' =>
            match ← groupItem (first && items.isEmpty) verbose fuel with
            | some item => sequence first verbose fuel (item :: items)
            | none =>
              let r ← get
              let global := first && items.isEmpty && r.flags.contains .verbose
              sequence first (verbose || global) fuel items
          | _ => sequence first verbose fuel (.char c.toNat :: items)

/-- A group whose opening parenthesis has been taken; `none` when it stands for nothing. -/
def groupItem (atStart verbose : Bool) : Nat → Read (Option Regex)
  | 0 => failHere .unexpectedEnd
  | fuel + 1 => do
    let start := (← get).position - 1
    let opening ← if ← accept '?' then extension start atStart else pure (.capture none)
    match opening with
    | .nothing => return none
    | .reference index => return some (.backref index)
    | .capture name =>
      let index ← openNamed name
      let body ← alternatives false verbose fuel []
      closing start
      closeGroup index body
      return some (.group index body)
    | .plain add remove =>
      let body ← alternatives false (verboseIn verbose add remove) fuel []
      closing start
      return some (.scoped add remove body)
    | .atomic =>
      let body ← alternatives false verbose fuel []
      closing start
      return some (.atomic body)
    | .ahead negated =>
      let body ← alternatives false verbose fuel []
      closing start
      return some (.look .ahead negated body)
    | .behind negated =>
      let outer := (← get).lookbehindGroups
      modify fun r => { r with lookbehindGroups := outer <|> some r.groups.length }
      let body ← alternatives false verbose fuel []
      modify fun r => { r with lookbehindGroups := outer }
      closing start
      return some (.look (.behind (body.width (← get).widths)) negated body)
    | .conditional index =>
      let yes ← sequence false verbose fuel []
      let no ←
        if ← accept '|' then
          let no ← sequence false verbose fuel []
          if (← peek) = some (.char '|') then failHere .tooManyBranches
          pure no
        else pure .empty
      closing start
      return some (.conditional index yes no)

end

/-- A whole pattern: the expression, and the reader after it. -/
def wholePattern (fuel : Nat) : Read Regex := do
  skip 0
  let regex ← alternatives true false fuel []
  let r ← get
  if r.flags.contains .ascii && r.flags.contains .unicode then throw ⟨.asciiAndUnicode, none⟩
  if !r.rest.isEmpty then failHere .unbalanced
  if let some (index, position) := r.asked.find? (fun a => r.groups.length ≤ a.1) then
    failAt position (.noSuchGroup index)
  return regex

/-! ## Checks on the whole expression -/

/-- The greatest width that a lookbehind can step over. -/
def lookbehindBound : Nat := 4294967295

/-- The name of a repetition in a refusal. -/
def Greed.name : Greed → String
  | .greedy => "MAX_REPEAT"
  | .reluctant => "MIN_REPEAT"
  | .possessive => "POSSESSIVE_REPEAT"

/-- The first part of an expression that cannot be matched: a lookbehind without a fixed width, or a
repetition where none is allowed. -/
def unmatchable? (template : Bool) : Regex → Option Problem
  | .empty | .any | .char _ | .set .. | .anchor _ | .backref _ => none
  | .cat r s | .alt r s | .conditional _ r s =>
    (r.unmatchable? template) <|> (s.unmatchable? template)
  | .group _ r | .scoped _ _ r | .atomic r => r.unmatchable? template
  | .repeated greed _ _ r =>
    if template then some (.repetitionInTemplate greed.name) else r.unmatchable? template
  | .look .ahead _ r => r.unmatchable? template
  | .look (.behind width) _ r =>
    if lookbehindBound < width.least then some .lookbehindTooWide
    else if width.least ≠ width.most then some .variableLookbehind
    else r.unmatchable? template

/-- An expression with the flags it is matched under. -/
structure Compiled where
  regex : Regex
  mode : Mode
deriving Repr, DecidableEq

/-- The reader before a pattern. -/
def Reader.ofTokens (ts : List Token) : Reader :=
  { rest := ts, position := 0, flags := [], groups := [none], names := [], lookbehindGroups := none,
    asked := [] }

/-- Read a pattern, or say why it is refused. -/
def compile (pattern : String) : Except Failure Compiled :=
  let ts := tokens pattern.toList
  match (wholePattern (4 * ts.length + 4)).run (.ofTokens ts) with
  | .error fault => .error ⟨fault.problem, fault.position, pattern⟩
  | .ok (regex, r) =>
    match regex.unmatchable? (r.flags.contains .template) with
    | some problem => .error ⟨problem, none, pattern⟩
    | none => .ok ⟨regex, r.flags⟩

end WordLint.Regex
