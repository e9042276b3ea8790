import LedgerRules.Service.Host
import LedgerRules.Text.Quoted
import LedgerRules.Text.Utf8

/-!
URLs: taking them apart, resolving one against another, and encoding the parameters of a query.
-/

namespace LedgerRules

inductive UrlFault where
  | brackets
  | versionedAddress
  | fourOctetAddress
  | address (text : String)
  | authority (text : String)
  | noScheme (url : String)
  deriving DecidableEq, Repr

def UrlFault.message : UrlFault → String
  | .brackets => "Invalid IPv6 URL"
  | .versionedAddress => "IPvFuture address is invalid"
  | .fourOctetAddress => "An IPv4 address cannot be in brackets"
  | .address text => Text.quoted text ++ " does not appear to be an IPv4 or IPv6 address"
  | .authority text =>
      "netloc '" ++ text ++ "' contains invalid characters under NFKC normalization"
  | .noScheme url => "unknown url type: " ++ Text.quoted url

structure Url where
  scheme : List Char
  authority : List Char
  path : List Char
  parameters : List Char
  query : List Char
  fragment : List Char
  deriving DecidableEq, Repr

namespace Url

open Text (splitAt splitOnce)

def relativeSchemes : List String :=
  ["", "ftp", "http", "gopher", "nntp", "imap", "wais", "file", "https", "shttp", "mms",
    "prospero", "rtsp", "rtsps", "rtspu", "sftp", "svn", "svn+ssh", "ws", "wss"]

def authoritySchemes : List String :=
  ["", "ftp", "http", "gopher", "nntp", "telnet", "imap", "wais", "file", "mms", "https", "shttp",
    "snews", "prospero", "rtsp", "rtsps", "rtspu", "rsync", "svn", "svn+ssh", "sftp", "nfs", "git",
    "git+ssh", "ws", "wss"]

def parameterSchemes : List String :=
  ["", "ftp", "hdl", "prospero", "http", "imap", "https", "shttp", "rtsp", "rtsps", "rtspu", "sip",
    "sips", "mms", "sftp", "tel"]

def isIn (schemes : List String) (scheme : List Char) : Bool :=
  schemes.contains (String.ofList scheme)

def isSchemeCharacter (character : Char) : Bool :=
  character.isAlphanum || character == '+' || character == '-' || character == '.'

def clean (characters : List Char) : List Char :=
  (characters.dropWhile fun character => character.toNat ≤ 0x20).filter fun character =>
    character != '\t' && character != '\r' && character != '\n'

def splitScheme (standard characters : List Char) : List Char × List Char :=
  match characters, splitOnce ':' characters with
  | first :: _, (scheme, some rest) =>
      if first.isAlpha && scheme.all isSchemeCharacter then (scheme.map Char.toLower, rest)
      else (standard, characters)
  | _, _ => (standard, characters)

def hiddenDelimiters : List Nat :=
  [0x2047, 0x2048, 0x2049, 0x2100, 0x2101, 0x2105, 0x2106, 0x2A74, 0xFE13, 0xFE16, 0xFE55, 0xFE56,
    0xFE5F, 0xFE6B, 0xFF03, 0xFF0F, 0xFF1A, 0xFF1F, 0xFF20]

def bracketed (authority : List Char) : List Char :=
  ((authority.dropWhile (· != '[')).drop 1).takeWhile (· != ']')

def checkAddress (address : List Char) : Except UrlFault Unit :=
  if address.head? == some 'v' then
    if Host.isVersioned address then .ok () else .error .versionedAddress
  else if Host.isFourOctets address then .error .fourOctetAddress
  else if Host.isZonedAddress address then .ok ()
  else .error (.address (String.ofList address))

def checkBrackets (authority : List Char) : Except UrlFault Unit :=
  if authority.contains '[' != authority.contains ']' then .error .brackets
  else if authority.contains '[' then checkAddress (bracketed authority)
  else .ok ()

def checkAuthority (authority : List Char) : Except UrlFault Unit :=
  if authority.any fun character => hiddenDelimiters.contains character.toNat then
    .error (.authority (String.ofList authority))
  else .ok ()

def isPathEnd (character : Char) : Bool :=
  character == '/' || character == '?' || character == '#'

def splitAuthority (characters : List Char) : Except UrlFault (List Char × List Char) :=
  match characters with
  | '/' :: '/' :: rest => do
      let authority := rest.takeWhile (!isPathEnd ·)
      checkBrackets authority
      return (authority, rest.dropWhile (!isPathEnd ·))
  | _ => return ([], characters)

def splitParameters (path : List Char) : List Char × List Char :=
  let lastName := (path.reverse.takeWhile (· != '/')).reverse
  match splitOnce ';' lastName with
  | (name, some parameters) => (path.take (path.length - lastName.length) ++ name, parameters)
  | (_, none) => (path, [])

def read (standard text : List Char) : Except UrlFault Url := do
  let (scheme, rest) := splitScheme standard (clean text)
  let (authority, rest) ← splitAuthority rest
  let (rest, fragment) := splitOnce '#' rest
  let (path, query) := splitOnce '?' rest
  checkAuthority authority
  let (path, parameters) :=
    if isIn parameterSchemes scheme then splitParameters path else (path, [])
  return ⟨scheme, authority, path, parameters, query.getD [], fragment.getD []⟩

def marked (mark : Char) (part : List Char) : List Char :=
  if part.isEmpty then [] else mark :: part

def startsWithSlashes (path : List Char) : Bool := path.take 2 == ['/', '/']

def text (url : Url) : List Char :=
  let path := url.path ++ marked ';' url.parameters
  let hasAuthority :=
    !url.authority.isEmpty || (!url.scheme.isEmpty && isIn authoritySchemes url.scheme) ||
      startsWithSlashes path
  let path :=
    if hasAuthority then
      let rooted := if path.isEmpty || path.head? == some '/' then path else '/' :: path
      ['/', '/'] ++ url.authority ++ rooted
    else path
  (if url.scheme.isEmpty then [] else url.scheme ++ [':']) ++ path ++ marked '?' url.query ++
    marked '#' url.fragment

/-- Follows the names of a path; a point stays, two points lead back. -/
def follow : (reached : List (List Char)) → List (List Char) → List (List Char)
  | reached, [] => reached.reverse
  | reached, name :: rest =>
      if name == ['.', '.'] then follow (reached.drop 1) rest
      else if name == ['.'] then follow reached rest
      else follow (name :: reached) rest

def withoutInnerEmpty (names : List (List Char)) : List (List Char) :=
  match names with
  | first :: second :: rest =>
      let others := second :: rest
      first :: (others.dropLast.filter fun name => !name.isEmpty) ++ [others.getLastD []]
  | _ => names

def resolvePath (base path : List Char) : List Char :=
  let names :=
    if path.head? == some '/' then splitAt '/' path
    else
      let baseNames := splitAt '/' base
      let directories :=
        if baseNames.getLastD [] == [] then baseNames else baseNames.dropLast
      withoutInnerEmpty (directories ++ splitAt '/' path)
  let last := names.getLastD []
  let reached := follow [] names ++ (if last == ['.'] || last == ['.', '.'] then [[]] else [])
  let joined := List.intercalate ['/'] reached
  if joined.isEmpty then ['/'] else joined

def resolve (base url : Url) : Url :=
  let namesAuthority := isIn authoritySchemes url.scheme
  if namesAuthority && !url.authority.isEmpty then url
  else
    let authority := if namesAuthority then base.authority else url.authority
    if url.path.isEmpty && url.parameters.isEmpty then
      { url with
        authority
        path := base.path
        parameters := base.parameters
        query := if url.query.isEmpty then base.query else url.query }
    else { url with authority, path := resolvePath base.path url.path }

def join (base url : String) : Except UrlFault String := do
  if base.isEmpty then return url
  if url.isEmpty then return base
  let baseUrl ← read [] base.toList
  let relative ← read baseUrl.scheme url.toList
  if relative.scheme != baseUrl.scheme || !isIn relativeSchemes relative.scheme then return url
  return String.ofList (baseUrl.resolve relative).text

def isPlainByte (byte : UInt8) : Bool :=
  let character := Char.ofNat byte.toNat
  byte.toNat < 0x80 &&
    (character.isAlphanum || character == '_' || character == '.' || character == '-' ||
      character == '~')

def encodeByte (byte : UInt8) : List Char :=
  if isPlainByte byte then [Char.ofNat byte.toNat]
  else if byte == 0x20 then ['+']
  else '%' :: (Text.hexDigits 2 byte.toNat).map Char.toUpper

/-- A text as a part of a parameter: a space is a plus sign, and all but letters, digits and four
marks are percent-encoded bytes. -/
def encodeText (text : String) : List Char := (Utf8.encode text).flatMap encodeByte

def encodeParameter (parameter : String × String) : List Char :=
  encodeText parameter.1 ++ '=' :: encodeText parameter.2

def encodeParameters (parameters : List (String × String)) : String :=
  String.ofList (List.intercalate ['&'] (parameters.map encodeParameter))

end Url

end LedgerRules
