import InlineScript.Path.Basic
import InlineScript.Uri.Percent

/-!
URIs in their normal form, and the paths of the files they name.
-/

namespace InlineScript

/-- The machine that a URI names. -/
structure Authority where
  /-- Name and password, empty if there are none. -/
  user : List Char
  host : List Char
  /-- The number behind the colon of a machine. -/
  portNumber : Option Nat
deriving DecidableEq, Repr

structure Uri where
  scheme : List Char
  authority : Option Authority
  /-- The path, in which some bytes are written by their values. -/
  rawPath : List Char
  query : Option (List Char)
  fragment : Option (List Char)
deriving DecidableEq, Repr

/-- Why a text is no URI. -/
inductive UriFault where
  | noScheme
  | emptyHost
  /-- The name of the machine cannot be spelled. -/
  | badName
  | badPort
  | badShortAddress
  | badLongAddress
  /-- The name of the machine has a character that it cannot have. -/
  | badCharacter
deriving DecidableEq, Repr

namespace UriFault

def message : UriFault → String
  | noScheme => "relative URL without a base"
  | emptyHost => "empty host"
  | badName => "invalid international domain name"
  | badPort => "invalid port number"
  | badShortAddress => "invalid IPv4 address"
  | badLongAddress => "invalid IPv6 address"
  | badCharacter => "invalid domain character"

end UriFault

namespace Authority

def render (authority : Authority) : List Char :=
  (if authority.user.isEmpty then [] else authority.user ++ ['@'])
    ++ authority.host
    ++ (authority.portNumber.elim [] fun number => ':' :: (toString number).toList)

end Authority

namespace Uri

/-- The written form of a URI. Where no machine is named a path does not start with two slashes. -/
def render (uri : Uri) : String :=
  let place :=
    match uri.authority with
    | some authority => ['/', '/'] ++ authority.render
    | none => if ['/', '/'].isPrefixOf uri.rawPath then ['/', '.'] else []
  String.ofList
    (uri.scheme ++ [':'] ++ place ++ uri.rawPath
      ++ (uri.query.elim [] ('?' :: ·)) ++ (uri.fragment.elim [] ('#' :: ·)))

/-- Whether a URI names a machine other than this one. -/
def isRemote (uri : Uri) : Bool :=
  match uri.authority with
  | some authority => !authority.host.isEmpty && authority.host != "localhost".toList
  | none => false

/-- Two characters that name a drive. -/
def isDrive : List Char → Bool
  | [letter, mark] => letter.isAlpha && (mark == ':' || mark == '|')
  | _ => false

/-- A path that ends in a drive goes on with a slash. -/
def closeDrive (path : Path) : Path :=
  let tail := path.bytes.drop (path.bytes.length - 2)
  if 2 < path.bytes.length && isDrive (Text.Utf8.decode tail) then path.appendText "/" else path

/-- The file of this machine that a URI names. -/
def filePath? (uri : Uri) : Option Path :=
  if uri.rawPath.head? == some '/' && !uri.isRemote then
    some (closeDrive ⟨escapedBytes uri.rawPath⟩)
  else
    none

/-- The path of a document. A URI that names no file of this machine has its own path as one. -/
def path (uri : Uri) : Path :=
  uri.filePath?.getD (Path.ofText (String.ofList uri.rawPath))

end Uri

end InlineScript
