import Swarmkeeper.Url.Host

/-!
Uniform resource locators, read as web browsers read them: blanks around the text and line breaks in it
do not count, web schemes take a backslash for a slash, and a path is kept without dot segments.
-/

namespace Swarmkeeper

open Swarmkeeper.Text

namespace Url

/-- What follows the authority of a URL. -/
inductive Path where
  /-- Text without a hierarchy. -/
  | plain (text : List Char)
  | segments (list : List (List Char))
deriving DecidableEq

end Url

/-- The parts of a URL, each in its encoded form. -/
structure Url where
  scheme : List Char
  username : List Char
  /-- Not empty if present. -/
  password : Option (List Char)
  /-- Present, if maybe empty, exactly if the URL has an authority. -/
  host : Option Url.Host
  /-- Present if it is not the one that the scheme implies. -/
  port : Option Nat
  path : Url.Path
  query : Option (List Char)
  fragment : Option (List Char)
deriving DecidableEq

namespace Url

/-! ## Schemes -/

/-- The schemes of the web that name a host, with the port that each implies. -/
def webPorts : List (List Char × Nat) :=
  [("http".toList, 80), ("https".toList, 443), ("ws".toList, 80), ("wss".toList, 443),
    ("ftp".toList, 21)]

/-- How URLs of a scheme are read. -/
inductive Style where
  | web
  | file
  | other
deriving DecidableEq

/-- The style of a scheme. -/
def styleOf (scheme : List Char) : Style :=
  if (webPorts.lookup scheme).isSome then .web
  else if scheme = "file".toList then .file
  else .other

/-- A slash, or what the style takes for one. -/
def Style.isSlash (s : Style) (c : Char) : Bool := c == '/' || (c == '\\' && s != .other)

/-- A character that ends the authority. -/
def Style.endsAuthority (s : Style) (c : Char) : Bool := s.isSlash c || c == '?' || c == '#'

/-- The scheme at the front, in lower case, and what follows its colon. -/
def readScheme (cs : List Char) : Option (List Char × List Char) :=
  match cs with
  | [] => none
  | c :: _ =>
      let scheme := cs.takeWhile fun c => c.isAlphanum || c == '+' || c == '-' || c == '.'
      match c.isAlpha, cs.drop scheme.length with
      | true, ':' :: rest => some (scheme.map Char.toLower, rest)
      | _, _ => none

/-! ## Authority -/

/-- User name, password, and the rest of the authority. The last at sign of the authority ends the
two. -/
def readUser (s : Style) (cs : List Char) :
    Except Fault (List Char × Option (List Char) × List Char) :=
  let authority := cs.takeWhile fun c => !s.endsAuthority c
  match splitOnce '@' authority.reverse with
  | none => .ok ([], none, cs)
  | some (_, before) =>
      let user := before.reverse
      let rest := cs.drop (user.length + 1)
      let encode := Percent.encode Percent.userinfo
      if user = [] then
        if (rest.head?.map s.endsAuthority).getD false then .error .emptyHost
        else .ok ([], none, rest)
      else match splitOnce ':' user with
        | none => .ok (encode user, none, rest)
        | some (name, []) => .ok (encode name, none, rest)
        | some (name, password) => .ok (encode name, some (encode password), rest)

/-- The text of the host, up to a colon that is not in brackets. -/
def spanHost (s : Style) : Bool → List Char → List Char
  | _, [] => []
  | inside, c :: cs =>
      if s.endsAuthority c || (c == ':' && !inside) then []
      else c :: spanHost s (c == '[' || (inside && c != ']')) cs

/-- The port after its colon, and what follows; none if there is no digit. -/
def readPort (cs : List Char) : Except Fault (Option Nat × List Char) :=
  let digits := cs.takeWhile fun c => (digitValue? c).isSome
  let rest := cs.drop digits.length
  if 65535 < digitsValue digits then .error .invalidPort
  else match rest with
    | c :: _ =>
        if Style.web.endsAuthority c then .ok (if digits = [] then none else some (digitsValue digits), rest)
        else .error .invalidPort
    | [] => .ok (if digits = [] then none else some (digitsValue digits), [])

/-- Host and port after the user, and what follows. -/
def readHost (scheme : List Char) (s : Style) (cs : List Char) :
    Except Fault (Host × Option Nat × List Char) := do
  let text := spanHost s false cs
  let rest := cs.drop text.length
  let host ← match s with
    | .other => Host.ofOpaque text
    | _ => if text = [] then .error .emptyHost else Host.ofDomain text
  match rest with
  | ':' :: rest =>
      if host = .name [] then .error .emptyHost
      else
        let (port, rest) ← readPort rest
        .ok (host, if port = webPorts.lookup scheme then none else port, rest)
  | rest => .ok (host, none, rest)

/-! ## Path, query and fragment -/

/-- A segment that stands for where it is. -/
def isSingleDot (segment : List Char) : Bool :=
  [".", "%2e"].contains (String.ofList (segment.map Char.toLower))

/-- A segment that stands for the segment before. -/
def isDoubleDot (segment : List Char) : Bool :=
  ["..", ".%2e", "%2e.", "%2e%2e"].contains (String.ofList (segment.map Char.toLower))

/-- A letter and a colon, or a bar in its place: the first segment of a path on a drive. -/
def isDrive (segment : List Char) : Bool :=
  match segment with
  | [c, d] => c.isAlpha && (d == ':' || d == '|')
  | _ => false

/-- The segments without the last one, latest first. A drive stays. -/
def shorten (s : Style) (done : List (List Char)) : List (List Char) :=
  match done with
  | [drive] => if s = .file ∧ isDrive drive then done else []
  | done => done.drop 1

/-- The segments with one more, latest first. A dot segment at the end leaves an empty one. -/
def addSegment (s : Style) (done : List (List Char)) (segment : List Char) (isLast : Bool) :
    List (List Char) :=
  if isDoubleDot segment then (if isLast then [[]] else []) ++ shorten s done
  else if isSingleDot segment then (if isLast then [[]] else []) ++ done
  else if s = .file ∧ done = [] ∧ isDrive segment then [segment.take 1 ++ [':']]
  else segment :: done

/-- The segments of a path from the character after its first slash on; `done` holds those before,
latest first, and `segment` what has been read of the next one, backwards. -/
def readSegments (s : Style) (done : List (List Char)) (segment : List Char) :
    List Char → List (List Char)
  | [] => (addSegment s done segment.reverse true).reverse
  | c :: cs =>
      if s.isSlash c then readSegments s (addSegment s done segment.reverse false) [] cs
      else readSegments s done ((Percent.encode Percent.path [c]).reverse ++ segment) cs

/-- The segments of a path on a file system: empty ones at its front do not count. -/
def dropEmpty : List (List Char) → List (List Char)
  | [] :: p :: ps => dropEmpty (p :: ps)
  | ps => ps

/-- The path of a URL with an authority, or of one whose path starts with a slash. -/
def readPath (s : Style) (cs : List Char) : Path :=
  match cs with
  | [] => .segments (if s = .other then [] else [[]])
  | c :: rest =>
      let list := if s.isSlash c then readSegments s [] [] rest else readSegments s [] [] (c :: rest)
      .segments (if s = .file then dropEmpty list else list)

/-- Path, query and fragment, none of them read. -/
structure Tail where
  path : List Char
  query : Option (List Char)
  fragment : Option (List Char)

/-- Cuts a text at the first number sign and before it at the first question mark. -/
def Tail.ofChars (cs : List Char) : Tail :=
  let (before, fragment) := match splitOnce '#' cs with
    | some (a, b) => (a, some b)
    | none => (cs, none)
  match splitOnce '?' before with
  | some (path, query) => ⟨path, some query, fragment⟩
  | none => ⟨before, none, fragment⟩

/-- The URL whose tail has been read. -/
def close (s : Style) (url : Url) (tail : Tail) : Url :=
  let reserved := if s = .other then Percent.query else '\'' :: Percent.query
  { url with
    query := tail.query.map (Percent.encode reserved)
    fragment := tail.fragment.map (Percent.encode Percent.fragment) }

/-! ## Reading and writing -/

/-- A URL with nothing but its scheme. -/
def ofScheme (scheme : List Char) : Url := ⟨scheme, [], none, none, none, .plain [], none, none⟩

/-- Reads on after the slashes that start an authority. -/
def readAuthority (s : Style) (scheme cs : List Char) : Except Fault Url := do
  let (username, password, rest) ← readUser s cs
  let (host, port, rest) ← readHost scheme s rest
  if host = .name [] ∧ (username ≠ [] ∨ password.isSome) then .error .emptyHost
  else
    let tail := Tail.ofChars rest
    .ok (close s { ofScheme scheme with username, password, host, port, path := readPath s tail.path } tail)

/-- Reads on after the scheme of a file. The host of this machine is left out. -/
def readFile (scheme cs : List Char) : Except Fault Url := do
  let atRoot (cs : List Char) : Url :=
    let tail := Tail.ofChars cs
    close .file { ofScheme scheme with host := some (.name []), path := readPath .file tail.path } tail
  match cs with
  | a :: b :: rest =>
      if Style.file.isSlash a && Style.file.isSlash b then
        let text := rest.takeWhile fun c => !Style.file.endsAuthority c
        if text = [] ∨ isDrive text then .ok (atRoot rest)
        else
          let host ← Host.ofDomain text
          let url := atRoot (rest.drop text.length)
          let onDrive := match url.path with
            | .segments (p :: _) => isDrive p
            | _ => false
          .ok (if host = .name "localhost".toList || onDrive then url else { url with host })
      else .ok (atRoot cs)
  | cs => .ok (atRoot cs)

/-- Reads on after the scheme of neither the web nor a file. -/
def readOther (scheme cs : List Char) : Except Fault Url :=
  match cs with
  | '/' :: '/' :: rest => readAuthority .other scheme rest
  | cs =>
      let tail := Tail.ofChars cs
      let path := match tail.path with
        | '/' :: _ => readPath .other tail.path
        | text => .plain (Percent.encode [] text)
      .ok (close .other { ofScheme scheme with path } tail)

/-- A control character or the space. -/
def isMargin (c : Char) : Bool := c.toNat ≤ 0x20

/-- The text without its margins and without tabs and line breaks. -/
def cleaned (cs : List Char) : List Char :=
  ((cs.dropWhile isMargin).reverse.dropWhile isMargin).reverse.filter fun c =>
    c != '\t' && c != '\n' && c != '\r'

/-- The URL that a text writes. -/
def ofText (text : String) : Except Fault Url :=
  match readScheme (cleaned text.toList) with
  | none => .error .relative
  | some (scheme, rest) =>
      match styleOf scheme with
      | .web => readAuthority .web scheme (rest.dropWhile Style.web.isSlash)
      | .file => readFile scheme rest
      | .other => readOther scheme rest

/-- The authority as it is written. -/
def authorityChars (url : Url) (host : Host) : List Char :=
  url.username ++ (match url.password with
    | some p => ':' :: p
    | none => []) ++
    (if url.username ≠ [] ∨ url.password.isSome then ['@'] else []) ++ host.toChars ++
    match url.port with
    | some p => ':' :: decimal p
    | none => []

/-- The path as it is written. Segments without an authority may not look like one. -/
def pathChars (url : Url) : List Char :=
  match url.path with
  | .plain text => text
  | .segments list =>
      let text := list.flatMap ('/' :: ·)
      if url.host.isNone ∧ ['/', '/'].isPrefixOf text then ['/', '.'] ++ text else text

/-- The URL as text. -/
def toChars (url : Url) : List Char :=
  url.scheme ++ ':' :: (match url.host with
    | some host => ['/', '/'] ++ url.authorityChars host
    | none => []) ++ url.pathChars ++
    (match url.query with
    | some q => '?' :: q
    | none => []) ++
    match url.fragment with
    | some f => '#' :: f
    | none => []

/-- The URL as text. -/
def toText (url : Url) : String := String.ofList url.toChars

end Url

end Swarmkeeper
