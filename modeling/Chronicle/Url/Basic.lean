/- # Addresses of services

An address has a scheme, an authority with a host, a path, a query and a
fragment, each of which may be missing. Reading brings it to its normal form:
the scheme and the host are in lower case, each part has the escapes that it
needs, and the dots that lead up and down a path behind a host are followed.
Control characters and spaces in front are passed over, as are tabs and line
ends.

Key definitions: `Authority`, `Url`, `Url.ofText?`, `Url.text`.
-/
import Chronicle.Numeral
import Chronicle.Url.Host
import Chronicle.Url.Percent

namespace Chronicle

namespace Url

/-- Who answers at an address, and the name under which to ask. -/
structure Authority where
  user : Option (List Char)
  password : Option (List Char)
  host : List Char
  port : Option Nat
  deriving DecidableEq, Repr

end Url

/-- An address by its parts, of which those that are missing are empty. -/
structure Url where
  scheme : List Char
  authority : Url.Authority
  path : List Char
  query : List Char
  fragment : List Char
  deriving DecidableEq, Repr

namespace Url

/-! ### Schemes -/

/-- The schemes whose addresses are written with two slashes even if there is no authority. -/
def authoritySchemes : List String :=
  ["ftp", "http", "gopher", "nntp", "telnet", "imap", "wais", "file", "mms", "https", "shttp",
   "snews", "prospero", "rtsp", "rtsps", "rtspu", "rsync", "svn", "svn+ssh", "sftp", "nfs", "git",
   "git+ssh", "ws", "wss"]

/-- The schemes whose authority has to name a host, each with its usual port. -/
def usualPorts : List (String × Nat) :=
  [("http", 80), ("https", 443), ("ws", 80), ("wss", 443), ("ftp", 21)]

/-- The usual port of a scheme. -/
def usualPort? (scheme : List Char) : Option Nat :=
  (usualPorts.find? (·.1.toList = scheme)).map Prod.snd

/-! ### Writing -/

namespace Authority

/-- The authority of an address that names none. -/
def absent : Authority := ⟨none, none, [], none⟩

/-- The text of a host and a port. -/
def placeText (host : List Char) (port : Option Nat) : List Char :=
  host ++ port.elim [] fun n => ':' :: (Nat.repr n).toList

/-- The text of a user name and a password. -/
def userText (user password : Option (List Char)) : List Char :=
  let text := user.getD [] ++ password.elim [] fun word => ':' :: word
  if text.isEmpty then [] else text ++ ['@']

/-- The text of an authority. -/
def text (authority : Authority) : List Char :=
  userText authority.user authority.password ++ placeText authority.host authority.port

/-- A host in brackets, if it holds a colon and has none. -/
def bracketed (host : List Char) : List Char :=
  if host.contains ':' && host.head? ≠ some '[' then '[' :: host ++ [']'] else host

/-- The text of an authority without a port that is the usual one of the scheme. -/
def shownFor (scheme : List Char) (authority : Authority) : List Char :=
  if authority.port.isSome && authority.port = usualPort? scheme then
    text { authority with host := bracketed authority.host, port := none }
  else authority.text

end Authority

/-- The path as it is written, at least a slash between an authority and what follows. -/
def shownPath (url : Url) : List Char :=
  if url.path.isEmpty && !url.authority.text.isEmpty &&
      !(url.query.isEmpty && url.fragment.isEmpty) then ['/']
  else url.path

/-- The text of an authority and a path, with two slashes in front where the authority stands. -/
def placeText (url : Url) : List Char :=
  let authority := url.authority.shownFor url.scheme
  let path := url.shownPath
  if !authority.isEmpty || authoritySchemes.any (·.toList = url.scheme) ||
      ['/', '/'].isPrefixOf path then
    '/' :: '/' :: authority ++ (if path.isEmpty || path.head? = some '/' then path else '/' :: path)
  else path

/-- A part of an address behind its mark, nothing if the part is empty. -/
def marked (mark : Char) (part : List Char) : List Char :=
  if part.isEmpty then [] else mark :: part

/-- The text of an address. -/
def text (url : Url) : String :=
  String.ofList
    ((if url.scheme.isEmpty then [] else url.scheme ++ [':']) ++ url.placeText ++
      marked '?' url.query ++ marked '#' url.fragment)

/-- An address without the name under which to ask. -/
def anonymous (url : Url) : Url :=
  { url with authority := { url.authority with user := none, password := none } }

/-! ### Splitting -/

/-- What stands before and behind the first of a mark; all stands before it if there is none. -/
def splitFirst (mark : Char) (cs : List Char) : List Char × List Char :=
  let (before, after) := cs.span (· ≠ mark)
  (before, after.drop 1)

/-- What stands before and behind the last of a mark; all stands behind it if there is none. -/
def splitLast (mark : Char) (cs : List Char) : List Char × List Char :=
  let (after, before) := cs.reverse.span (· ≠ mark)
  ((before.drop 1).reverse, after.reverse)

/-- Whether a character is a tab or belongs to the end of a line. -/
def isLineMark (c : Char) : Bool := c = '\t' || c = '\r' || c = '\n'

/-- The text without the characters that are passed over. -/
def cleaned (cs : List Char) : List Char :=
  (cs.dropWhile (·.toNat ≤ 32)).filter fun c => !isLineMark c

/-- Whether a character may stand in a scheme. -/
def isSchemeChar (c : Char) : Bool := c.isAlphanum || ['+', '-', '.'].contains c

/-- The scheme in lower case and what follows its colon; a scheme is not empty and may start with
a digit, so that a numeric host before a port counts as one. -/
def splitScheme (cs : List Char) : List Char × List Char :=
  match cs.span (· ≠ ':') with
  | (c :: name, ':' :: rest) =>
    if (c :: name).all isSchemeChar then ((c :: name).map Char.toLower, rest) else ([], cs)
  | _ => ([], cs)

/-- Whether a character ends an authority. -/
def endsAuthority (c : Char) : Bool := c = '/' || c = '?' || c = '#'

/-- The authority, which two slashes open, and what follows it. -/
def splitAuthority : List Char → List Char × List Char
  | '/' :: '/' :: rest => rest.span fun c => !endsAuthority c
  | cs => ([], cs)

/-! ### Reading -/

/-- Whether a text in brackets may be a host: it holds a colon, or a version after a `v`. -/
def isBracketedHost (cs : List Char) : Bool :=
  match cs with
  | 'v' :: rest =>
    let (version, name) := splitFirst '.' rest
    !version.isEmpty && version.all (Hex.value? · |>.isSome) && !name.isEmpty
  | _ => cs.contains ':'

/-- Whether the brackets of an authority come in pairs and hold what may be a host. -/
def hasSoundBrackets (cs : List Char) : Bool :=
  if cs.contains '[' && cs.contains ']' then
    isBracketedHost (splitFirst ']' (splitFirst '[' cs).2).1
  else !cs.contains '[' && !cs.contains ']'

/-- The characters beyond ASCII that stand for a text with a mark of addresses in it. -/
def disguisedMarks : List Char :=
  ['\u2047', '\u2048', '\u2049', '\u2100', '\u2101', '\u2105', '\u2106', '\u2a74', '\ufe13',
   '\ufe16', '\ufe55', '\ufe56', '\ufe5f', '\ufe6b', '\uff03', '\uff0f', '\uff1a', '\uff1f',
   '\uff20']

/-- Whether a character makes it doubtful where an authority ends: a backslash, which some take for
a slash, or a disguised mark. -/
def isDoubtful (c : Char) : Bool := c = '\\' || disguisedMarks.contains c

/-- Reads a port, which is at most 65535; an empty text is none. -/
def readPort? (cs : List Char) : Option (Option Nat) :=
  if cs.isEmpty then some none
  else match Numeral.read? (String.ofList cs) with
    | some n => if 0 ≤ n && n ≤ 65535 then some (some n.toNat) else none
    | none => none

/-- The host and the port, where a host in brackets may hold colons. -/
def splitPlace (cs : List Char) : List Char × List Char :=
  if cs.contains '[' then
    let (host, rest) := splitFirst ']' (splitFirst '[' cs).2
    (host, (splitFirst ':' rest).2)
  else splitFirst ':' cs

/-- The user name and the password, a part that is not there being none. -/
def splitUser (cs : List Char) : Option (List Char) × Option (List Char) :=
  let (user, password) := splitFirst ':' cs
  (if user.isEmpty then none else some user, if cs.contains ':' then some password else none)

/-- Reads an authority that is not empty. -/
def readAuthority? (scheme cs : List Char) : Option Authority := do
  let (user, password) := splitUser (splitLast '@' cs).1
  let (host, portText) := splitPlace (splitLast '@' cs).2
  let port ← readPort? portText
  let normal ← normalHost? host
  if host.isEmpty && (usualPort? scheme).isSome then none
  else
    some ⟨user.map (requote .user), password.map (requote .user), normal, port⟩

/-- Reads the authority of an address of the given scheme. -/
def authority? (scheme cs : List Char) : Option Authority :=
  if cs.isEmpty then some .absent
  else if hasSoundBrackets cs && !cs.any isDoubtful then readAuthority? scheme cs
  else none

/-- Follows the dots of a path, where `done` holds the segments passed so far, the last one
first. -/
def followDots (done : List (List Char)) : List (List Char) → List (List Char)
  | [] => done.reverse
  | [['.']] => ([] :: done).reverse
  | [['.', '.']] => ([] :: done.drop 1).reverse
  | ['.'] :: segments => followDots done segments
  | ['.', '.'] :: segments => followDots (done.drop 1) segments
  | segment :: segments => followDots (segment :: done) segments

/-- A path without segments that are dots. -/
def withoutDots : List Char → List Char
  | '/' :: cs => '/' :: ['/'].intercalate (followDots [] (pieces (· = '/') cs))
  | cs => ['/'].intercalate (followDots [] (pieces (· = '/') cs))

/-- A path without a scheme in front: a colon that would end one is escaped. -/
def withoutScheme (path : List Char) : List Char :=
  match splitScheme path with
  | ([], _) => path
  | (scheme, rest) => path.take scheme.length ++ escapeByte 0x3a ++ rest

/-- The normal form of a path. Behind an authority it has no dots, and in an address without
scheme and authority it cannot be taken for one with a scheme. -/
def normalPath (scheme : List Char) (authority : Authority) (cs : List Char) : List Char :=
  let path := requote .path cs
  if !authority.text.isEmpty then withoutDots path
  else if scheme.isEmpty then withoutScheme path
  else path

/-- The address that a text stands for, if its authority can be read. -/
def ofText? (s : String) : Option Url := do
  let (scheme, rest) := splitScheme (cleaned s.toList)
  let (place, rest) := splitAuthority rest
  let authority ← authority? scheme place
  let (rest, fragment) := splitFirst '#' rest
  let (path, query) := splitFirst '?' rest
  some
    { scheme := scheme
      authority := authority
      path := normalPath scheme authority path
      query := requote .query query
      fragment := requote .fragment fragment }

end Url

end Chronicle
