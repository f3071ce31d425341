-- Reading URLs. Control characters and blanks at the ends are dropped, and
-- tabs and line ends anywhere. For the web, a backslash counts as a slash.
-- A reference is read relative to a URL that is there already.
import ResultGateway.Url.Basic

namespace ResultGateway.Url

/-! ## The text -/

def isTrimmed (c : Char) : Bool := c.toNat ≤ 0x20

def isDropped (c : Char) : Bool := c == '\t' || c == '\n' || c == '\x0d'

/-- What is left of a text to be read. -/
def cleaned (text : String) : List Char :=
  ((text.toList.dropWhile isTrimmed).reverse.dropWhile isTrimmed).reverse.filter
    fun c => !isDropped c

def isSlash (c : Char) : Bool := c == '/' || c == '\\'

/-- A character that ends the authority and the segments of a path. -/
def endsPart (c : Char) : Bool := isSlash c || c == '?' || c == '#'

/-! ## Schemes -/

/-- Kinds of schemes, by how the rest of a URL is read. -/
inductive SchemeKind where
  | web (scheme : Scheme)
  /-- Read like the web, but not for the web; with the usual port. -/
  | weblike
  | file
  | foreign
deriving DecidableEq, Repr

def SchemeKind.ofName (name : List Char) : SchemeKind :=
  match String.ofList name with
  | "http" => web .http
  | "https" => web .https
  | "ws" => weblike
  | "wss" => weblike
  | "ftp" => weblike
  | "file" => file
  | _ => foreign

def isSchemeChar (c : Char) : Bool :=
  c.isAlphanum || c == '+' || c == '-' || c == '.'

/-- The scheme in lower case, and the text behind its colon. -/
def takeScheme (cs : List Char) : Option (List Char × List Char) :=
  match cs with
  | [] => none
  | c :: _ =>
    if c.isAlpha then
      match cs.dropWhile isSchemeChar with
      | ':' :: rest => some ((cs.takeWhile isSchemeChar).map Char.toLower, rest)
      | _ => none
    else none

/-! ## User and password -/

/-- The text before the last at sign of the authority, and the text behind it. The first argument
says what ends the authority. -/
def splitUserInfo (ends : Char → Bool) (cs : List Char) : Option (List Char × List Char) :=
  let authority := cs.takeWhile fun c => !ends c
  if authority.contains '@' then
    let behind := (authority.reverse.takeWhile (· != '@')).reverse
    let before := authority.take (authority.length - behind.length - 1)
    some (before, cs.drop (before.length + 1))
  else none

/-- Reads the user and the password, up to what may be the host. -/
def takeUserInfo (ends : Char → Bool) (cs : List Char) :
    Except UrlError (String × Option String × List Char) :=
  match splitUserInfo ends cs with
  | none => .ok ("", none, cs)
  | some ([], rest) =>
    match rest with
    | c :: _ => if ends c then .error .emptyHost else .ok ("", none, rest)
    | [] => .ok ("", none, rest)
  | some (info, rest) =>
    let encode (part : List Char) : String := String.ofList (Percent.encode Percent.inUserInfo part)
    let user := encode (info.takeWhile (· != ':'))
    match (info.dropWhile (· != ':')).drop 1 with
    | [] => .ok (user, none, rest)
    | password => .ok (user, some (encode password), rest)

/-! ## Host and port -/

/-- The length of the host: it ends where the authority does, or at a colon that is not in
brackets. -/
def hostLength (ends : Char → Bool) (inBrackets : Bool) : List Char → Nat
  | [] => 0
  | c :: cs =>
    if ends c || (c == ':' && !inBrackets) then 0
    else hostLength ends (c == '[' || (inBrackets && c != ']')) cs + 1

/-- The port behind a colon, and the text from the path on. No digits are no port. -/
def takePort (cs : List Char) : Except UrlError (Option Nat × List Char) :=
  let digits := cs.takeWhile Text.isDigit
  let rest := cs.dropWhile Text.isDigit
  if 65535 < Text.ofDigits digits then .error .badPort
  else if rest.head?.any fun c => !endsPart c then .error .badPort
  else .ok (if digits.isEmpty then none else some (Text.ofDigits digits), rest)

/-- The port, if a colon comes first. -/
def takeColonPort : List Char → Except UrlError (Option Nat × List Char)
  | ':' :: cs => takePort cs
  | cs => .ok (none, cs)

/-! ## Paths -/

/-- A segment that stays where it is. -/
def isDot (segment : List Char) : Bool :=
  segment == ['.'] || segment.map Char.toLower == ['%', '2', 'e']

/-- A segment that leads one up. -/
def isDoubleDot (segment : List Char) : Bool :=
  ["..", "%2e.", ".%2e", "%2e%2e"].contains (String.ofList (segment.map Char.toLower))

/-- A letter and a colon or a bar name a drive, from which no dots lead up. -/
def isDrive (segment : String) : Bool :=
  match segment.toList with
  | [letter, mark] => letter.isAlpha && (mark == ':' || mark == '|')
  | _ => false

/-- The segments without the last one. -/
def leave (segments : List String) : List String :=
  match segments.getLast? with
  | some last => if isDrive last then segments else segments.dropLast
  | none => []

/-- Follows the segments of a path from the given ones. -/
def walk (from' : List String) : List (List Char) → List String
  | [] => from' ++ [""]
  | [last] =>
    if isDoubleDot last then leave from' ++ [""]
    else if isDot last then from' ++ [""]
    else from' ++ [String.ofList (Percent.encode Percent.inPath last)]
  | segment :: rest =>
    if isDoubleDot segment then walk (leave from') rest
    else if isDot segment then walk from' rest
    else walk (from' ++ [String.ofList (Percent.encode Percent.inPath segment)]) rest

/-- The path that a text gives from the given segments; the text has no slash at its front. -/
def pathFrom (segments : List String) (cs : List Char) : List String :=
  walk segments (Text.splitBy isSlash (cs.takeWhile fun c => c != '?' && c != '#'))

/-- The query and the fragment at the end of a text. -/
def takeEnd (cs : List Char) : Option String × Option String :=
  let tail := cs.dropWhile fun c => c != '?' && c != '#'
  let fragmentOf (cs : List Char) : Option String :=
    match cs.dropWhile (· != '#') with
    | [] => none
    | _ :: fragment => some (String.ofList (Percent.encode Percent.inFragment fragment))
  match tail with
  | '?' :: rest =>
    let query := rest.takeWhile (· != '#')
    (some (String.ofList (Percent.encode Percent.inQuery query)), fragmentOf rest)
  | _ => (none, fragmentOf tail)

/-- A URL with the path and the end that a text gives, from the given segments on. -/
def withPath (u : Url) (segments : List String) (cs : List Char) : Url :=
  let (query, fragment) := takeEnd cs
  { u with path := pathFrom segments cs, query, fragment }

/-! ## URLs for the web -/

/-- The authority of a URL like one for the web: user, password, host and port, and the text from
the path on. -/
def takeAuthority (cs : List Char) :
    Except UrlError (String × Option String × Host × Option Nat × List Char) := do
  let (user, password, cs) ← takeUserInfo endsPart cs
  let length := hostLength endsPart false cs
  if length = 0 then throw .emptyHost
  let host ← Host.parse (cs.take length)
  let (port, cs) ← takeColonPort (cs.drop length)
  return (user, password, host, port, cs)

def dropSlash : List Char → List Char
  | [] => []
  | c :: cs => if isSlash c then cs else c :: cs

/-- Reads a URL from its authority on. -/
def parseAuthority (scheme : Scheme) (cs : List Char) : Except UrlError Url := do
  let (user, password, host, port, cs) ← takeAuthority cs
  let port := port.filter fun p => p != scheme.port
  return withPath ⟨scheme, user, password, host, port, [], none, none⟩ [] (dropSlash cs)

/-! ## Other URLs -/

/-- Ends the authority of a URL that is not like one for the web. -/
def endsForeign (c : Char) : Bool := c == '/' || c == '?' || c == '#'

/-- Checks the authority of a URL for something else than the web. -/
def checkForeign (cs : List Char) : Except UrlError Unit := do
  let (user, password, cs) ← takeUserInfo endsForeign cs
  let length := hostLength endsForeign false cs
  let isEmpty ← Host.checkForeign (cs.take length)
  let rest := cs.drop length
  if isEmpty && rest.head? == some ':' then throw .emptyHost
  let _ ← takeColonPort rest
  if isEmpty && (user != "" || password.isSome) then throw .emptyHost

/-- Checks the host of a URL for a file. A drive is no host. -/
def checkFile (cs : List Char) : Except UrlError Unit :=
  match cs with
  | a :: b :: cs =>
    if isSlash a && isSlash b then do
      let host := cs.takeWhile fun c => !endsPart c
      if host.isEmpty || isDrive (String.ofList host) then return
      let _ ← Host.parse host
    else .ok ()
  | _ => .ok ()

/-! ## Whole texts -/

/-- What a text is: a URL for the web, or one for something else. -/
inductive Parsed where
  | web (url : Url)
  | foreign
deriving Repr

/-- Reads the text behind a scheme. -/
def parseBehind (kind : SchemeKind) (cs : List Char) : Except UrlError Parsed := do
  match kind with
  | .web scheme => return .web (← parseAuthority scheme (cs.dropWhile isSlash))
  | .weblike =>
    let _ ← takeAuthority (cs.dropWhile isSlash)
    return .foreign
  | .file =>
    checkFile cs
    return .foreign
  | .foreign =>
    match cs with
    | '/' :: '/' :: cs =>
      checkForeign cs
      return .foreign
    | _ => return .foreign

/-- Reads a text on its own. -/
def parse (text : String) : Except UrlError Parsed :=
  match takeScheme (cleaned text) with
  | none => .error .noBase
  | some (scheme, rest) => parseBehind (.ofName scheme) rest

/-! ## References -/

/-- Reads a text without a scheme, relative to a URL. -/
def resolveRelative (base : Url) (cs : List Char) : Except UrlError Url :=
  match cs with
  | [] => .ok { base with fragment := none }
  | '?' :: _ =>
    let (query, fragment) := takeEnd cs
    .ok { base with query, fragment }
  | '#' :: _ => .ok { base with fragment := (takeEnd cs).2 }
  | c :: rest =>
    if isSlash c then
      match rest with
      | d :: behind =>
        if isSlash d then
          parseAuthority base.scheme
            (if c = '/' && d = '/' then behind else cs.dropWhile isSlash)
        else .ok (withPath base [] rest)
      | [] => .ok (withPath base [] rest)
    else .ok (withPath base base.path.dropLast cs)

/-- Reads a reference that stands in a document at a URL. -/
def resolve (base : Url) (text : String) : Except UrlError Parsed := do
  let cs := cleaned text
  match takeScheme cs with
  | none => return .web (← resolveRelative base cs)
  | some (name, rest) =>
    let kind := SchemeKind.ofName name
    if kind = .web base.scheme && (rest.takeWhile isSlash).length < 2 then
      return .web (← resolveRelative base rest)
    else parseBehind kind rest

end ResultGateway.Url
