import InlineScript.Uri.Address
import InlineScript.Uri.Basic
import InlineScript.Uri.DomainName

/-!
Reading URIs. Letters of the scheme and the machine become small, dots in the path are resolved, and
characters that may not stand for themselves are written by the values of their bytes.
-/

namespace InlineScript.Uri

/-! ## Characters -/

/-- Tabs and line breaks do not count anywhere in a URI. -/
def isBreak (char : Char) : Bool :=
  char == '\t' || char == '\n' || char == '\r'

/-- A text without tabs and line breaks. -/
def solid (text : List Char) : List Char :=
  text.filter (!isBreak ·)

/-- Blanks and control characters do not count at the ends. -/
def clean (text : List Char) : List Char :=
  let isOuter (char : Char) : Bool := char.toNat ≤ 0x20
  ((text.dropWhile isOuter).reverse.dropWhile isOuter).reverse

/-- The text before the first character that `stops`, and the text from there on. -/
def cutWhere (stops : Char → Bool) (text : List Char) : List Char × List Char :=
  (text.takeWhile (!stops ·), text.dropWhile (!stops ·))

/-- What follows the first character that counts, if it is the given one. -/
def afterChar? (char : Char) (text : List Char) : Option (List Char) :=
  match text.dropWhile isBreak with
  | [] => none
  | first :: rest => if first = char then some rest else none

/-! ## Schemes -/

def isSchemeChar (char : Char) : Bool :=
  char.isAlphanum || ['+', '-', '.'].contains char

/-- The scheme and what follows its colon. -/
def scheme? (text : List Char) : Option (List Char × List Char) :=
  match cutWhere (· == ':') text with
  | (name, ':' :: rest) =>
      match solid name with
      | first :: others =>
          if first.isAlpha && others.all isSchemeChar then
            some ((first :: others).map Char.toLower, rest)
          else
            none
      | [] => none
  | _ => none

/-- The number that goes without saying behind a machine, for schemes that name one. -/
def usualPort? (scheme : List Char) : Option Nat :=
  match String.ofList scheme with
  | "http" | "ws" => some 80
  | "https" | "wss" => some 443
  | "ftp" => some 21
  | _ => none

/-- How URIs of a scheme are read. -/
inductive SchemeKind where
  | file
  /-- The scheme of a network, with a machine in every URI. -/
  | network
  | other
deriving DecidableEq, Repr

namespace SchemeKind

def ofScheme (scheme : List Char) : SchemeKind :=
  if scheme = "file".toList then file else if (usualPort? scheme).isSome then network else other

/-- Whether either slash divides segments. -/
def isSpecial (kind : SchemeKind) : Bool :=
  kind != other

/-- Whether a character divides the segments of a path. -/
def divides (kind : SchemeKind) (char : Char) : Bool :=
  char == '/' || (kind.isSpecial && char == '\\')

end SchemeKind

/-! ## Paths -/

/-- Dots may be written by their values. -/
def readDots : List Char → List Char
  | '%' :: '2' :: last :: rest =>
      if last = 'e' ∨ last = 'E' then '.' :: readDots rest else '%' :: '2' :: readDots (last :: rest)
  | char :: rest => char :: readDots rest
  | [] => []

def isHere (segment : List Char) : Bool :=
  readDots segment == ['.']

def isUp (segment : List Char) : Bool :=
  readDots segment == ['.', '.']

/-- A path as far as it was read. -/
structure PathText where
  text : List Char
  /-- Where the segment starts that is being read. -/
  start : Nat
  /-- Whether the path begins with a drive, which belongs to no machine. -/
  hasDrive : Bool

/-- A drive that is written with a colon. -/
def isUsualDrive (segment : List Char) : Bool :=
  isDrive segment && segment.getLast? == some ':'

/-- Whether a text starts with a drive and nothing else up to the end of the segment. -/
def startsWithDrive : List Char → Bool
  | [letter, mark] => isDrive [letter, mark]
  | letter :: mark :: next :: _ =>
      isDrive [letter, mark] && (next == '/' || next == '\\' || next == '?' || next == '#')
  | _ => false

def endsWithSlash (text : List Char) : Bool :=
  text.getLast? == some '/'

def closeWithSlash (text : List Char) : List Char :=
  if endsWithSlash text then text else text ++ ['/']

/-- What follows the last slash of a text. -/
def lastSegment (text : List Char) : List Char :=
  (text.reverse.takeWhile (· != '/')).reverse

/-- A text up to its last slash. -/
def throughSlash (text : List Char) : List Char :=
  text.take (text.length - (lastSegment text).length)

/-- Takes the slash from the end of a path, unless it is the only one or stands behind a drive. -/
def openLast (text : List Char) : List Char :=
  let before := text.dropLast
  if endsWithSlash text && before.contains '/'
      && !startsWithDrive (lastSegment before ++ ['/']) then
    before
  else
    text

/-- Goes up from the end of a path. The drive of a file is never left. -/
def goUp (kind : SchemeKind) (text : List Char) : List Char :=
  let opened := openLast text
  if kind = .file && isUsualDrive (lastSegment opened) then opened else throughSlash opened

/-- The parts of a text between tabs and line breaks. -/
def solidParts (text : List Char) : List (List Char) :=
  (text.splitOnP isBreak).filter (!·.isEmpty)

/-- Adds a part of a segment. A drive at the start of a file's path is a segment of its own, even if
only a line break follows. -/
def addPart (kind : SchemeKind) (path : PathText) (part : List Char) : PathText :=
  let path :=
    if kind = .file && isUsualDrive (path.text.drop 1) then
      { path with text := path.text ++ ['/'], start := path.start + 1 }
    else
      path
  { path with text := path.text ++ escape plainInPath part }

/-- Adds a segment, and a slash if one follows. -/
def addSegment (kind : SchemeKind) (path : PathText) (slashed : Bool) (segment : List Char) :
    PathText :=
  let added := (solidParts segment).foldl (addPart kind) path
  let before := added.text.take added.start
  let written := added.text.drop added.start
  let slash : List Char := if slashed then ['/'] else []
  if isUp written then
    let upper := goUp kind before
    { added with text := if slashed then closeWithSlash upper else upper }
  else if isHere written then
    { added with text := closeWithSlash before }
  else if kind = .file && added.start = 1 && isDrive written then
    { added with text := before ++ written.take 1 ++ [':'] ++ slash, hasDrive := true }
  else
    { added with text := added.text ++ slash }

/-- Adds segments, each of which but the last is followed by a slash. -/
def addSegments (kind : SchemeKind) (path : PathText) : List (List Char) → PathText
  | [] => path
  | [last] => addSegment kind { path with start := path.text.length } false last
  | segment :: rest =>
      addSegments kind (addSegment kind { path with start := path.text.length } true segment) rest

/-- The path of a file has one slash in front. -/
def oneSlash (text : List Char) : List Char :=
  '/' :: text.dropWhile (· == '/')

/-- Reads a path behind a text it starts with. -/
def readPath (kind : SchemeKind) (front text : List Char) : PathText :=
  let path := addSegments kind ⟨front, 0, false⟩ (text.splitOnP kind.divides)
  if kind = .file then { path with text := oneSlash path.text } else path

/-- A path that starts at the end of an authority. Only where slashes are not special can it be
empty. -/
def readPathAfterHost (kind : SchemeKind) (text : List Char) : PathText :=
  match text.dropWhile isBreak with
  | [] => if kind.isSpecial then readPath kind ['/'] [] else ⟨[], 0, false⟩
  | first :: rest =>
      if kind.isSpecial then
        if kind.divides first then readPath kind ['/'] rest else readPath kind ['/'] text
      else if first = '/' then
        readPath kind [] text
      else
        readPath kind ['/'] text

/-! ## Machines -/

/-- Characters that the name of a machine cannot have where it is not read as a name. -/
def isForbiddenInHost (char : Char) : Bool :=
  [' ', '#', '/', ':', '<', '>', '?', '@', '[', '\\', ']', '^', '|'].contains char
    || char.toNat = 0

/-- An address in brackets. -/
def bracketed (text : List Char) : Except UriFault (List Char) :=
  if text.getLast? == some ']' then
    match Address.long? (text.drop 1).dropLast with
    | some numbers => .ok (Address.renderLong numbers)
    | none => .error .badLongAddress
  else
    .error .badLongAddress

/-- A machine of a network: an address, or a name in plain letters. -/
def namedHost (text : List Char) : Except UriFault (List Char) :=
  if text.head? == some '[' then
    bracketed text
  else
    match DomainName.plain? (escapedBytes text) with
    | none => .error .badName
    | some name =>
        if name.isEmpty then .error .emptyHost
        else if Address.endsInNumber name then
          match Address.short? name with
          | some value => .ok (Address.renderShort value)
          | none => .error .badShortAddress
        else .ok name

/-- A machine of another scheme, whose name is kept as it is written. -/
def writtenHost (text : List Char) : Except UriFault (List Char) :=
  if text.head? == some '[' then bracketed text
  else if text.any isForbiddenInHost then .error .badCharacter
  else .ok (escape isPrintable text)

/-- The end of a machine's name: a colon that does not stand in brackets, or the end of the authority. -/
def hostLength (kind : SchemeKind) (inBrackets : Bool) : List Char → Nat
  | [] => 0
  | char :: rest =>
      if (char = ':' && !inBrackets) || kind.divides char then 0
      else
        let inside := if char = '[' then true else if char = ']' then false else inBrackets
        hostLength kind inside rest + 1

/-- The value of a run of digits in front of what ends a number, if it fits. -/
def portValue (value : Nat) : List Char → Except UriFault (Nat × List Char)
  | [] => .ok (value, [])
  | char :: rest =>
      if char.isDigit then
        let next := value * 10 + (char.toNat - '0'.toNat)
        if 65535 < next then .error .badPort else portValue next rest
      else if isBreak char then portValue value rest
      else if char = '/' ∨ char = '\\' then .ok (value, char :: rest)
      else .error .badPort

/-- The number behind a machine, if it has to be written, and what follows. -/
def readPort (scheme text : List Char) : Except UriFault (Option Nat × List Char) :=
  match afterChar? ':' text with
  | none => .ok (none, text)
  | some digits => do
      let (value, rest) ← portValue 0 digits
      let isWritten := (solid digits).head?.any Char.isDigit && usualPort? scheme != some value
      return (if isWritten then some value else none, rest)

/-- Name and password of a user; a colon before an empty password is left out. -/
def readUser (text : List Char) : List Char :=
  match cutWhere (· == ':') text with
  | (name, _ :: password) =>
      escape plainInUser name
        ++ if password.isEmpty then [] else ':' :: escape plainInUser password
  | (name, []) => escape plainInUser name

/-- The last `@` of an authority divides the user from the machine. The result has the user, if there
is one, and what follows. -/
def splitUser (kind : SchemeKind) (text : List Char) : Option (List Char) × List Char :=
  let (authority, after) := cutWhere kind.divides text
  let machine := (authority.reverse.takeWhile (· != '@')).reverse
  let front := authority.take (authority.length - machine.length)
  if front.isEmpty then (none, text) else (some (solid front.dropLast), machine ++ after)

/-- Whether something else stands where a machine should; `followed` tells that more comes behind the
text. -/
def lacksMachine (kind : SchemeKind) (followed : Bool) (text : List Char) : Bool :=
  match solid text with
  | [] => followed
  | char :: _ => kind.divides char

/-- The authority behind two slashes, and what follows it. -/
def readAuthority (kind : SchemeKind) (scheme : List Char) (followed : Bool) (text : List Char) :
    Except UriFault (Authority × List Char) := do
  let (user, rest) := splitUser kind text
  if user == some [] && lacksMachine kind followed rest then
    throw .emptyHost
  let length := hostLength kind false rest
  let name := solid (rest.take length)
  let after := rest.drop length
  if kind = .network && name.isEmpty then
    throw .emptyHost
  let host ← if kind = .network then namedHost name else writtenHost name
  if host.isEmpty && (afterChar? ':' after).isSome then
    throw .emptyHost
  let (portNumber, tail) ← readPort scheme after
  let user := readUser (user.getD [])
  if host.isEmpty && !user.isEmpty then
    throw .emptyHost
  return ({ user, host, portNumber }, tail)

/-! ## URIs -/

/-- Where a URI leads: a machine, if one can be named, and a path. -/
structure UriPlace where
  authority : Option Authority
  path : List Char

/-- No machine, where one could be named. -/
def noMachine : Authority where
  user := []
  host := []
  portNumber := none

/-- The path of a file on this machine. -/
def localPlace (front text : List Char) : UriPlace where
  authority := some noMachine
  path := (readPath .file front text).text

/-- The place of a file behind two slashes. A path with a drive is of this machine. -/
def hostedPlace (text : List Char) : Except UriFault UriPlace := do
  let (front, tail) := cutWhere SchemeKind.file.divides text
  let name := solid front
  if isDrive name then
    return localPlace ['/'] text
  let host ← if name.isEmpty then pure [] else namedHost name
  if host.isEmpty || host == "localhost".toList then
    return localPlace ['/'] tail
  let path := readPathAfterHost .file tail
  return { authority := some { noMachine with host := if path.hasDrive then [] else host }
           path := path.text }

/-- The place of a file. -/
def filePlace (text : List Char) : Except UriFault UriPlace :=
  match text.dropWhile isBreak with
  | first :: rest =>
      if SchemeKind.file.divides first then
        match rest.dropWhile isBreak with
        | second :: after =>
            if SchemeKind.file.divides second then hostedPlace after else .ok (localPlace [] text)
        | [] => .ok (localPlace [] text)
      else
        .ok (localPlace ['/'] text)
  | [] => .ok (localPlace ['/'] text)

/-- The place behind two slashes. -/
def namedPlace (kind : SchemeKind) (scheme : List Char) (followed : Bool) (text : List Char) :
    Except UriFault UriPlace := do
  let (authority, tail) ← readAuthority kind scheme followed text
  return { authority := some authority, path := (readPathAfterHost kind tail).text }

/-- What the scheme is followed by, up to the query; `followed` tells whether there is one. -/
def place (kind : SchemeKind) (scheme : List Char) (followed : Bool) (text : List Char) :
    Except UriFault UriPlace :=
  match kind with
  | .file => filePlace text
  | .network =>
      namedPlace kind scheme followed (text.dropWhile fun char => kind.divides char || isBreak char)
  | .other =>
      match afterChar? '/' text with
      | none => .ok { authority := none, path := escape isPrintable (solid text) }
      | some rest =>
          match afterChar? '/' rest with
          | some machine => namedPlace kind scheme followed machine
          | none => .ok { authority := none, path := (readPath kind ['/'] rest).text }

/-- The part of a text that follows a mark, if the mark is there. -/
def afterMark? (mark : Char) (text : List Char) : Option (List Char) :=
  match text with
  | [] => none
  | first :: rest => if first = mark then some (solid rest) else none

/-- Reads a URI. -/
def read (text : String) : Except UriFault Uri := do
  match scheme? (clean text.toList) with
  | none => throw .noScheme
  | some (scheme, rest) =>
      let kind := SchemeKind.ofScheme scheme
      let (front, fragment) := cutWhere (· == '#') rest
      let (main, query) := cutWhere (· == '?') front
      let place ← place kind scheme (main.length < rest.length) main
      return {
        scheme
        authority := place.authority
        rawPath := place.path
        query := (afterMark? '?' query).map (escape (plainInQuery kind.isSpecial))
        fragment := (afterMark? '#' fragment).map (escape plainInFragment) }

/-- The URI that a text is, if it is one. -/
def read? (text : String) : Option Uri :=
  (read text).toOption

end InlineScript.Uri
